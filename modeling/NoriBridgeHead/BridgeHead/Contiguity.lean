import NoriBridgeHead.BridgeHead.Token
import NoriBridgeHead.Rpcs.PreparedWindows

open Foundation Foundation.Outcome Foundation.Transition

namespace NoriModel

variable {S : ConsensusSpec} {β : Type}

def preparing (C : Crypto) : Prepare S (ConsensusHttpProxy S) := fun proxy slot storeHash queueCursor =>
  proxy.prepareConsensusMptProofInputs C slot storeHash queueCursor true

def ProofInputsWithWindow.start (window : ProofInputsWithWindow S) : FinalityChangeDetectorUpdate :=
  ⟨window.inputSlot, window.proofInputs.storeHash, window.proofInputs.queueStorage.inputCursor⟩

def BridgeHead.position (bridge : BridgeHead S) : FinalityChangeDetectorUpdate :=
  ⟨bridge.currentSlot, bridge.storeHash, bridge.queueCursor⟩

def Detector.position (detector : Detector) : FinalityChangeDetectorUpdate :=
  ⟨detector.slot, detector.storeHash, detector.queueCursor⟩

def FinalityChangeDetectorJobInput.position (job : FinalityChangeDetectorJobInput) : FinalityChangeDetectorUpdate :=
  ⟨job.slot, job.storeHash, job.queueCursor⟩

def ProofMessage.output (message : ProofMessage) : FinalityChangeDetectorUpdate :=
  ⟨message.outputSlot, message.outputStoreHash, message.outputQueueCursor⟩

def BridgeHeadSend.advanceUpdate? : BridgeHeadSend S → Option FinalityChangeDetectorUpdate
  | .advanceUpdate update => some update
  | .event _ | .stageUpdate _ => none

namespace Command

def moves (position : FinalityChangeDetectorUpdate) : Command S → FinalityChangeDetectorUpdate
  | .advance message => ⟨message.slot, message.storeHash, message.queueCursor⟩
  | .stageTransitionProof _ => position

end Command

namespace System

/-- Where the bridge head will stand once it has taken every pending command. -/
def head (system : System S) : FinalityChangeDetectorUpdate :=
  system.pendingCommands.foldl Command.moves system.bridge.position

def pendingAdvances (system : System S) : List FinalityChangeDetectorUpdate :=
  system.advanceUpdates ++ system.bridgeSends.filterMap BridgeHeadSend.advanceUpdate?

def pendingDuals (system : System S) : List (DualProofInputsWithWindow S) :=
  system.finalityOutput ++ system.detectorSends.toList

def provesTheProgram (C : Crypto) (system : System S) : SystemEvent β → Bool
  | .proverProves position outputs =>
    system.proving[position]?.all fun job => (consensusMptProgram C job.2).toOption = some outputs
  | _ => true

/-- The window that the oldest event lets the observer stage, if any, starts where the observer stands. On a
    proof the slots are compared by the observer itself. -/
def stagesFromHead (system : System S) : SystemEvent β → Bool
  | .observerHandles =>
    match system.events.head? with
    | some (.noticeMessage (.finalityTransitionDetected data)) =>
      !system.observer.stageTransitionProof ||
        data.currentWindowProofInputsWithWindow.inputSlot = system.observer.currentSlot
    | some (.noticeMessage (.jobFailed data)) =>
      data.nJobInBuffer ≠ 0 || system.observer.latestCurrentWindowValidatedProofInput.all fun window =>
        window.inputSlot = system.observer.currentSlot
    | some (.proofMessage message) =>
      system.observer.latestNextWindowValidatedProofInput.all fun window =>
        window.inputSlot ≠ message.outputSlot || window.start = message.output
    | _ => true
  | _ => true

end System

def Behind (head position : FinalityChangeDetectorUpdate) : Prop := position.slot < head.slot ∨ position = head

structure Follows (position : FinalityChangeDetectorUpdate) (inputStoreHash : B256)
    (inputQueueCursor outputSlot : UInt64) : Prop where
  storeHash : inputStoreHash = position.storeHash
  queueCursor : inputQueueCursor = position.queueCursor
  forward : position.slot < outputSlot

/-- Every proof of the window follows its start. -/
def Chains (C : Crypto) (window : ProofInputsWithWindow S) : Prop :=
  ∀ outputs, consensusMptProgram C window.proofInputs = .ok outputs →
    Follows window.start outputs.inputStoreHash outputs.inputQueueCursor outputs.outputSlot

structure DualBehind (C : Crypto) (head : FinalityChangeDetectorUpdate) (currentWindow : ProofInputsWithWindow S)
    (nextWindow : Option (ProofInputsWithWindow S)) : Prop where
  behind : Behind head currentWindow.start
  currentChains : Chains C currentWindow
  nextChains : ∀ window, nextWindow = some window → Chains C window

def EventFollows (C : Crypto) (head : FinalityChangeDetectorUpdate) : BridgeHeadEvent S → Prop
  | .proofMessage message => Follows head message.inputStoreHash message.inputQueueCursor message.outputSlot
  | .noticeMessage (.started data) => data.currentSlot = head.slot
  | .noticeMessage (.finalityTransitionDetected data) =>
    DualBehind C head data.currentWindowProofInputsWithWindow data.nextWindowProofInputsWithWindow
  | .noticeMessage (.warning _) | .noticeMessage (.jobCreated _) | .noticeMessage (.jobSucceeded _)
  | .noticeMessage (.jobFailed _) | .noticeMessage (.headAdvanced _) => True

def ResultFollows (head : FinalityChangeDetectorUpdate) : ProverJobResult → Prop
  | .proved _ publicValues => ∃ outputs : ProofOutputs, publicValues = outputs.toBytes ∧
    Follows head outputs.inputStoreHash outputs.inputQueueCursor outputs.outputSlot
  | .failed _ _ => True

def CommandFollows (C : Crypto) (head position : FinalityChangeDetectorUpdate) : Command S → Prop
  | .stageTransitionProof window => window.start = head ∧ Chains C window
  | .advance message => position.slot < message.slot

/-- The detector and whatever it has prepared is behind the head; what may be proved starts at the head. -/
structure Contiguous (C : Crypto) (head : FinalityChangeDetectorUpdate) (system : System S) : Prop where
  atHead : system.head = head
  detector : Behind head system.detector.position
  advances : ∀ update ∈ system.pendingAdvances, Behind head update
  validating : ∀ job ∈ system.validating, Behind head job.position
  duals : ∀ dual ∈ system.pendingDuals, DualBehind C head dual.currentWindow dual.nextWindow
  events : ∀ event ∈ system.pendingEvents, EventFollows C head event
  cached : ∀ window, system.observer.latestCurrentWindowValidatedProofInput = some window →
    DualBehind C head window system.observer.latestNextWindowValidatedProofInput
  observed : (∀ data, .noticeMessage (.started data) ∉ system.pendingEvents) →
    system.observer.currentSlot = head.slot
  commands : ∀ command ∈ system.pendingCommands, CommandFollows C head system.bridge.position command
  jobs : ∀ job ∈ system.bridge.proverJobs, job.2.start = head ∧ Chains C job.2
  results : ∀ result ∈ system.jobResults, ResultFollows head result

end NoriModel

namespace NoriProof

open NoriModel

variable {C : Crypto} {S : ConsensusSpec} {system next : System S} {token : Token S}
  {head higher : FinalityChangeDetectorUpdate}

theorem behind_self (head : FinalityChangeDetectorUpdate) : Behind head head := .inr rfl

theorem Behind.raise {position : FinalityChangeDetectorUpdate} (behind : Behind head position)
    (raised : head.slot < higher.slot) : Behind higher position := by
  rcases behind with earlier | rfl
  · exact .inl (UInt64.lt_trans earlier raised)
  · exact .inl raised

theorem Behind.eq_of_slot {position : FinalityChangeDetectorUpdate} (behind : Behind head position)
    (same : position.slot = head.slot) : position = head := by
  rcases behind with earlier | rfl
  · rw [same] at earlier
    exact absurd earlier (UInt64.lt_irrefl _)
  · rfl

theorem DualBehind.raise {currentWindow : ProofInputsWithWindow S} {nextWindow : Option (ProofInputsWithWindow S)}
    (dual : DualBehind C head currentWindow nextWindow) (raised : head.slot < higher.slot) :
    DualBehind C higher currentWindow nextWindow :=
  ⟨Behind.raise dual.behind raised, dual.currentChains, dual.nextChains⟩

theorem EventFollows.raise {event : BridgeHeadEvent S} (follows : EventFollows C head event)
    (idle : event.carriesToken = false) (raised : head.slot < higher.slot) : EventFollows C higher event := by
  cases event with
  | proofMessage message => cases idle
  | noticeMessage notice =>
    cases notice with
    | started data => cases idle
    | jobFailed data => cases idle
    | finalityTransitionDetected data => exact DualBehind.raise follows raised
    | _ => trivial

theorem preparing_ok {proxy : ConsensusHttpProxy S} {slot : UInt64} {storeHash : B256} {queueCursor : UInt64}
    {window : ProofInputsWithWindow S} (prepared : preparing C proxy slot storeHash queueCursor = .ok window) :
    window.start = ⟨slot, storeHash, queueCursor⟩ ∧ Chains C window := by
  rcases prepared_predicts prepared with ⟨outputs, accepted, predicts, validated⟩
  have started : window.start = ⟨slot, storeHash, queueCursor⟩ := by
    rw [ProofInputsWithWindow.start, predicts.windowSlot, predicts.windowHash, predicts.windowCursor]
  refine ⟨started, ?_⟩
  intro outputs' accepted'
  obtain rfl : outputs = outputs' := Except.ok.inj (accepted.symm.trans accepted')
  rw [started]
  exact ⟨predicts.inputStoreHash, predicts.inputQueueCursor, (validated rfl).progress⟩

theorem validate_behind {providers : ConsensusHttpProxy S × ConsensusHttpProxy S}
    {job : FinalityChangeDetectorJobInput} {dual : DualProofInputsWithWindow S}
    (accepted : validateAndPrepareProofInputs (preparing C) providers job = .ok dual)
    (behind : Behind head job.position) : DualBehind C head dual.currentWindow dual.nextWindow := by
  rcases validate_ok accepted with ⟨current, solo | pair⟩
  · rcases preparing_ok current with ⟨started, chains⟩
    refine ⟨started ▸ behind, chains, ?_⟩
    intro window present
    rw [solo.2] at present
    cases present
  · rcases preparing_ok current with ⟨started, chains⟩
    refine ⟨started ▸ behind, chains, ?_⟩
    rcases pair with ⟨_, nextWindow, _, second, prepared⟩
    intro window present
    cases second.symm.trans present
    exact (preparing_ok prepared).2

theorem contiguous_start (slot : UInt64) (storeHash : B256) (queueCursor latestBeaconSlot : UInt64) :
    Contiguous C ⟨slot, storeHash, queueCursor⟩
      (System.start (S := S) slot storeHash queueCursor latestBeaconSlot) where
  atHead := rfl
  detector := behind_self _
  advances := by simp [System.pendingAdvances, System.start, BridgeHead.notice, BridgeHeadSend.advanceUpdate?]
  validating := by simp [System.start]
  duals := by simp [System.pendingDuals, System.start]
  events := by
    simp [System.pendingEvents, System.start, BridgeHead.notice, BridgeHeadSend.event?, EventFollows]
  cached := by simp [System.start, Observer.new]
  observed := by
    intro unstarted
    exact absurd (List.mem_singleton.mpr rfl) (unstarted _)
  commands := by simp [System.pendingCommands, System.start]
  jobs := by simp [System.start]
  results := by simp [System.start]

section DetectorSteps

theorem contiguous_detectorHandlesStage (kept : Contiguous C head system)
    (stepped : system.detectorHandlesStage = some next) : Contiguous C head next := by
  rcases detectorHandlesStage_cases stepped with ⟨update, stageUpdates, _, _, rfl⟩
  exact { kept with }

theorem contiguous_detectorHandlesAdvance (kept : Contiguous C head system)
    (stepped : system.detectorHandlesAdvance = some next) : Contiguous C head next := by
  rcases detectorHandlesAdvance_cases stepped with ⟨update, advanceUpdates, _, pending, rfl⟩
  have advances := kept.advances
  simp only [System.pendingAdvances, pending, List.cons_append, List.forall_mem_cons] at advances
  exact { kept with detector := advances.1, advances := advances.2 }

theorem contiguous_detectorReacts (kept : Contiguous C head system) (idle : system.detectorSends = none)
    {validating : List FinalityChangeDetectorJobInput} {reaction : Reaction S}
    (stays : reaction.detector.position = system.detector.position)
    (fewer : ∀ job ∈ validating, job ∈ system.validating)
    (started : ∀ job, reaction.job = some job → job.position = system.detector.position)
    (emitted : ∀ dual, reaction.emitted = some dual → DualBehind C head dual.currentWindow dual.nextWindow) :
    Contiguous C head (system.detectorReacts validating reaction) := by
  have position : Behind head reaction.detector.position := by
    rw [stays]
    exact kept.detector
  have behind : ∀ job ∈ validating ++ reaction.job.toList, Behind head job.position := by
    intro job member
    rcases List.mem_append.mp member with old | new
    · exact kept.validating job (fewer job old)
    · rw [started job (Option.mem_toList.mp new)]
      exact kept.detector
  have sent : ∀ dual ∈ system.finalityOutput ++ reaction.emitted.toList,
      DualBehind C head dual.currentWindow dual.nextWindow := by
    intro dual member
    rcases List.mem_append.mp member with old | new
    · apply kept.duals dual
      rw [System.pendingDuals, idle]
      exact List.mem_append_left _ old
    · exact emitted dual (Option.mem_toList.mp new)
  exact { kept with detector := position, validating := behind, duals := sent }

theorem contiguous_quiet (kept : Contiguous C head system) (idle : system.detectorSends = none)
    {validating : List FinalityChangeDetectorJobInput} {detector : Detector}
    (stays : detector.position = system.detector.position) (fewer : ∀ job ∈ validating, job ∈ system.validating) :
    Contiguous C head (system.detectorReacts validating detector.quiet) := by
  apply contiguous_detectorReacts kept idle stays fewer
  · intro job started
    cases started
  · intro dual emitted
    cases emitted

theorem contiguous_detectorTicks (kept : Contiguous C head system) (stepped : system.detectorTicks = some next) :
    Contiguous C head next := by
  rcases detectorTicks_cases stepped with ⟨idle, rfl⟩
  rcases onTick_cases (S := S) system.detector with ⟨_, quiet⟩ | ⟨_, started⟩
  · rw [quiet]
    exact contiguous_quiet kept idle rfl fun _ member => member
  · rw [started]
    apply contiguous_detectorReacts kept idle rfl (fun _ member => member)
    · intro job same
      cases same
      rfl
    · intro dual sent
      cases sent

theorem contiguous_detectorHandlesResult {providers : ConsensusHttpProxy S × ConsensusHttpProxy S}
    (kept : Contiguous C head system)
    (stepped : system.detectorHandlesResult (preparing C) providers = some next) : Contiguous C head next := by
  rcases detectorHandlesResult_cases stepped with ⟨job, validating, idle, pending, rfl⟩
  have fewer : ∀ other ∈ validating, other ∈ system.validating := by
    intro other member
    rw [pending]
    exact List.mem_cons_of_mem _ member
  have behind : Behind head job.position := kept.validating job (by simp [pending])
  rcases onResult_cases system.detector (validateAndPrepareProofInputs (preparing C) providers job) with
    quiet | ⟨_, restarted⟩ | ⟨dual, validated, _, _, _, ⟨_, sent⟩ | ⟨_, swallowed⟩⟩
  · rw [quiet]
    exact contiguous_quiet kept idle rfl fewer
  · rw [restarted]
    apply contiguous_detectorReacts kept idle rfl fewer
    · intro started same
      cases same
      rfl
    · intro dual sent
      cases sent
  · rw [sent]
    apply contiguous_detectorReacts kept idle rfl fewer
    · intro started none
      cases none
    · intro emitted same
      cases same
      exact validate_behind validated behind
  · rw [swallowed]
    exact contiguous_quiet kept idle rfl fewer

theorem contiguous_detectorSends (kept : Contiguous C head system) (stepped : system.detectorSendsNext = some next) :
    Contiguous C head next := by
  rcases detectorSends_cases stepped with ⟨dual, pending, rfl⟩
  have duals := kept.duals
  rw [System.pendingDuals, pending] at duals
  have sent : ∀ other ∈ (system.finalityOutput ++ [dual]) ++ [],
      DualBehind C head other.currentWindow other.nextWindow := by
    rw [List.append_nil]
    exact duals
  exact { kept with duals := sent }

end DetectorSteps

section BridgeSteps

theorem contiguous_observerSends (kept : Contiguous C head system) (stepped : system.observerSendsNext = some next) :
    Contiguous C head next := by
  rcases observerSends_cases stepped with ⟨command, rest, pending, rfl⟩
  have same : (system.commands ++ [command]) ++ rest = system.pendingCommands := by
    rw [System.pendingCommands, pending, List.append_assoc]
    rfl
  have atHead : ((system.commands ++ [command]) ++ rest).foldl Command.moves system.bridge.position = head := by
    rw [same]
    exact kept.atHead
  have commands : ∀ other ∈ (system.commands ++ [command]) ++ rest,
      CommandFollows C head system.bridge.position other := by
    rw [same]
    exact kept.commands
  exact { kept with atHead := atHead, commands := commands }

theorem contiguous_bridgeSends (kept : Contiguous C head system) (stepped : system.bridgeSendsNext = some next) :
    Contiguous C head next := by
  have unchanged : ∀ {events : List (BridgeHeadEvent S)} {sends : List (BridgeHeadSend S)}
      {stages advances : List FinalityChangeDetectorUpdate},
      events ++ sends.filterMap BridgeHeadSend.event? = system.pendingEvents →
      advances ++ sends.filterMap BridgeHeadSend.advanceUpdate? = system.pendingAdvances →
      Contiguous C head { system with
        bridgeSends := sends, events := events, stageUpdates := stages, advanceUpdates := advances } := by
    intro events sends stages advances sameEvents sameAdvances
    have follows := kept.events
    have behind := kept.advances
    have observed := kept.observed
    rw [← sameEvents] at follows observed
    rw [← sameAdvances] at behind
    exact { kept with events := follows, advances := behind, observed := observed }
  rcases bridgeSends_cases stepped with ⟨send, rest, pending, ⟨event, rfl, rfl⟩ | ⟨update, rfl, rfl⟩ |
    ⟨update, rfl, rfl⟩⟩ <;>
  · apply unchanged
    · simp [System.pendingEvents, pending, BridgeHeadSend.event?, List.filterMap_cons]
    · simp [System.pendingAdvances, pending, BridgeHeadSend.advanceUpdate?, List.filterMap_cons]

theorem contiguous_announces (kept : Contiguous C head system) (quiet : system.bridgeSends = [])
    {sends : List (BridgeHeadSend S)} (follows : ∀ event, .event event ∈ sends → EventFollows C head event)
    (behind : ∀ update, .advanceUpdate update ∈ sends → Behind head update) :
    Contiguous C head { system with bridgeSends := sends } := by
  have pendingBefore : system.pendingEvents = system.events := pendingEvents_ready quiet
  have events : ∀ event ∈ system.events ++ sends.filterMap BridgeHeadSend.event?, EventFollows C head event := by
    intro event member
    rcases List.mem_append.mp member with old | new
    · apply kept.events event
      rw [pendingBefore]
      exact old
    · rcases List.mem_filterMap.mp new with ⟨send, member, sent⟩
      cases send <;> cases sent
      exact follows event member
  have advances : ∀ update ∈ system.advanceUpdates ++ sends.filterMap BridgeHeadSend.advanceUpdate?,
      Behind head update := by
    intro update member
    rcases List.mem_append.mp member with old | new
    · exact kept.advances update (List.mem_append_left _ old)
    · rcases List.mem_filterMap.mp new with ⟨send, member, sent⟩
      cases send <;> cases sent
      exact behind update member
  have observed : (∀ data, .noticeMessage (.started data) ∉ system.events ++ sends.filterMap BridgeHeadSend.event?) →
      system.observer.currentSlot = head.slot := by
    intro unstarted
    apply kept.observed
    intro data member
    rw [pendingBefore] at member
    exact unstarted data (List.mem_append_left _ member)
  exact { kept with events := events, advances := advances, observed := observed }

theorem contiguous_bridgeHandlesFinality (kept : Contiguous C head system)
    (stepped : system.bridgeHandlesFinality = some next) : Contiguous C head next := by
  rcases bridgeHandlesFinality_cases stepped with ⟨dual, finalityOutput, quiet, pending, rfl⟩
  have duals := kept.duals
  simp only [System.pendingDuals, pending, List.cons_append, List.forall_mem_cons] at duals
  have announced : Contiguous C head { system with
      bridgeSends := (system.bridge.onBeaconFinalityChange dual).2 } := by
    apply contiguous_announces kept quiet
    · intro event member
      cases List.mem_singleton.mp member
      exact duals.1
    · intro update member
      cases List.mem_singleton.mp member
  exact { announced with duals := duals.2 }

theorem moves_stages {commands : List (Command S)} (position : FinalityChangeDetectorUpdate)
    (stages : ∀ command ∈ commands, command.stages = true) : commands.foldl Command.moves position = position := by
  induction commands with
  | nil => rfl
  | cons command commands ih =>
    rw [List.forall_mem_cons] at stages
    cases command with
    | advance message => cases stages.1
    | stageTransitionProof window => exact ih stages.2

/-- A taken advance is the last one, so the bridge head then stands at the head. -/
theorem contiguous_bridgeHandlesCommand (kept : Contiguous C head system) (held : TokenInvariant system token)
    (stepped : system.bridgeHandlesCommand = some next) : Contiguous C head next := by
  rcases bridgeHandlesCommand_cases stepped with ⟨command, commands, quiet, pending, rfl⟩
  have placed := held.placed
  have atHead := kept.atHead
  have follows := kept.commands
  simp only [System.tokenView, System.pendingCommands, pending, pendingEvents_ready quiet, List.cons_append] at placed
  simp only [System.head, System.pendingCommands, pending, List.cons_append, List.foldl_cons] at atHead
  simp only [System.pendingCommands, pending, List.cons_append, List.forall_mem_cons] at follows
  rcases tokenAt_command placed with ⟨message, rfl, _, stages⟩ | ⟨window, rfl, _, _, _, _, noJobs, _, _⟩
  · have moved : (⟨message.slot, message.storeHash, message.queueCursor⟩ : FinalityChangeDetectorUpdate) = head := by
      rw [← atHead, moves_stages _ stages]
      rfl
    have announced : Contiguous C head { system with bridgeSends := (system.bridge.advance message).2 } := by
      apply contiguous_announces kept quiet
      · intro event member
        simp only [BridgeHead.advance, BridgeHead.notice, List.mem_cons, reduceCtorEq, BridgeHeadSend.event.injEq,
          List.not_mem_nil, or_false, false_or] at member
        rw [member]
        trivial
      · intro update member
        simp only [BridgeHead.advance, BridgeHead.notice, List.mem_cons, reduceCtorEq,
          BridgeHeadSend.advanceUpdate.injEq, List.not_mem_nil, or_false] at member
        rw [member, moved]
        exact behind_self head
    have later : ∀ other ∈ commands ++ system.observerSends,
        CommandFollows C head (system.bridge.advance message).1.position other := by
      intro other member
      have stage := stages other member
      have followed := follows.2 other member
      cases other with
      | advance _ => cases stage
      | stageTransitionProof window => exact followed
    exact { announced with atHead := atHead, commands := later }
  · have announced : Contiguous C head { system with
        bridgeSends := (system.bridge.stageTransitionProof window).2 } := by
      apply contiguous_announces kept quiet
      · intro event member
        simp only [BridgeHead.stageTransitionProof, BridgeHead.notice, List.mem_cons, reduceCtorEq,
          BridgeHeadSend.event.injEq, List.not_mem_nil, or_false, false_or] at member
        rw [member]
        trivial
      · intro update member
        simp [BridgeHead.stageTransitionProof, BridgeHead.notice] at member
    have jobs : ∀ job ∈ BridgeHead.insertJob system.bridge.proverJobs (system.bridge.jobId + 1) window,
        job.2.start = head ∧ Chains C job.2 := by
      intro job member
      rcases mem_insertJob member with old | rfl
      · exact kept.jobs job old
      · exact follows.1
    exact { announced with atHead := atHead, commands := follows.2, jobs := jobs }

theorem onJobResult_follows {bridge bridge' : BridgeHead S} {result : ProverJobResult}
    {sends : List (BridgeHeadSend S)} (handled : bridge.onJobResult result = .ok (bridge', sends))
    (follows : ResultFollows head result) :
    bridge'.position = bridge.position ∧ (∀ job ∈ bridge'.proverJobs, job ∈ bridge.proverJobs) ∧
      (∀ event, .event event ∈ sends → EventFollows C head event) ∧ ∀ update, .advanceUpdate update ∉ sends := by
  cases result with
  | proved jobId publicValues =>
    rcases follows with ⟨outputs, rfl, follows⟩
    simp only [BridgeHead.onJobResult, BridgeHead.handleProverSuccess, bind_ok_iff, fromBytes_toBytes,
      Outcome.fromResult, Except.ok.injEq, pure_ok_iff, Prod.mk.injEq] at handled
    rcases handled with ⟨window, _, _, rfl, rfl, rfl⟩
    refine ⟨rfl, fun job member => (List.mem_filter.mp member).1, ?_, by simp [BridgeHead.notice]⟩
    intro event member
    simp only [BridgeHead.notice, List.mem_cons, BridgeHeadSend.event.injEq, List.not_mem_nil, or_false] at member
    rcases member with rfl | rfl
    · trivial
    · exact follows
  | failed jobId error =>
    simp only [BridgeHead.onJobResult, BridgeHead.handleProverFailure, bind_ok_iff, pure_ok_iff,
      Prod.mk.injEq] at handled
    rcases handled with ⟨window, _, rfl, rfl⟩
    refine ⟨rfl, fun job member => (List.mem_filter.mp member).1, ?_, by simp [BridgeHead.notice]⟩
    intro event member
    cases List.mem_singleton.mp member
    trivial

theorem contiguous_bridgeHandlesJobResult (kept : Contiguous C head system)
    (stepped : system.bridgeHandlesJobResult = some next) : Contiguous C head next := by
  rcases bridgeHandlesJobResult_cases stepped with ⟨result, jobResults, quiet, pending, outcome⟩
  have results := kept.results
  rw [pending, List.forall_mem_cons] at results
  rcases outcome with ⟨bridge, sends, handled, rfl⟩ | ⟨_, rfl⟩
  · rcases onJobResult_follows (C := C) handled results.1 with ⟨stays, fewer, follows, noAdvance⟩
    have announced : Contiguous C head { system with bridgeSends := sends } :=
      contiguous_announces kept quiet follows fun update member => absurd member (noAdvance update)
    have atHead : system.pendingCommands.foldl Command.moves bridge.position = head := by
      rw [stays]
      exact kept.atHead
    have commands : ∀ command ∈ system.pendingCommands, CommandFollows C head bridge.position command := by
      rw [stays]
      exact kept.commands
    exact { announced with
      atHead := atHead
      commands := commands
      jobs := fun job member => kept.jobs job (fewer job member)
      results := results.2 }
  · exact { kept with jobs := fun job member => kept.jobs job (mem_removeJob member), results := results.2 }

theorem contiguous_proverEnds (kept : Contiguous C head system) {position : Nat} {result : UInt64 → ProverJobResult}
    (stepped : system.proverEnds position result = some next)
    (follows : ∀ job, system.proving[position]? = some job → ResultFollows head (result job.1)) :
    Contiguous C head next := by
  rcases proverEnds_cases stepped with ⟨job, running, rfl⟩
  have results : ∀ other ∈ system.jobResults ++ [result job.1], ResultFollows head other := by
    intro other member
    rcases List.mem_append.mp member with old | new
    · exact kept.results other old
    · rw [List.mem_singleton.mp new]
      exact follows job running
  exact { kept with results := results }

theorem contiguous_proverProves (kept : Contiguous C head system) (held : TokenInvariant system token)
    {position : Nat} {outputs : ProofOutputs}
    (honest : system.provesTheProgram (β := ConsensusHttpProxy S) C (.proverProves position outputs) = true)
    (stepped : system.proverEnds position (fun jobId => .proved jobId outputs.toBytes) = some next) :
    Contiguous C head next := by
  apply contiguous_proverEnds kept stepped
  intro job running
  rcases tokenAt_running held.placed running with ⟨window, _, sameInputs, _, _, _, jobs, _, _⟩
  have only : system.bridge.proverJobs = [(job.1, window)] := jobs
  rcases kept.jobs (job.1, window) (by simp [only]) with ⟨started, chains⟩
  simp only [System.provesTheProgram, running, Option.all_some, decide_eq_true_eq] at honest
  rw [sameInputs] at honest
  have accepted : consensusMptProgram C window.proofInputs = .ok outputs := by
    cases ran : consensusMptProgram C window.proofInputs with
    | error failure =>
      rw [ran] at honest
      cases honest
    | ok returned =>
      rw [ran] at honest
      rw [Option.some.inj honest]
  have follows := chains outputs accepted
  rw [started] at follows
  exact ⟨outputs, rfl, follows⟩

end BridgeSteps

section ObserverSteps

variable {event : BridgeHeadEvent S} {events : List (BridgeHeadEvent S)}

theorem contiguous_observed (kept : Contiguous C head system) (held : TokenInvariant system token)
    (unstarted : ∀ data, token ≠ .started data) : system.observer.currentSlot = head.slot := by
  apply kept.observed
  intro data member
  have carried : .noticeMessage (.started data) ∈ system.tokenView.events := List.mem_filter.mpr ⟨member, rfl⟩
  have placed := held.placed
  generalize system.tokenView = view at placed carried
  cases placed with
  | started data => exact unstarted data rfl
  | _ => simp at carried

theorem flagged_slot (kept : Contiguous C head system) (held : TokenInvariant system token)
    (flag : system.observer.stageTransitionProof = true) : system.observer.currentSlot = head.slot := by
  apply contiguous_observed kept held
  have placed := held.placed
  simp only [System.tokenView, flag] at placed
  intro started same
  cases same.symm.trans (tokenAt_flagged placed).1

theorem failure_slot {data : BridgeHeadJobFailed} (kept : Contiguous C head system)
    (held : TokenInvariant system token) (pending : .noticeMessage (.jobFailed data) ∈ system.pendingEvents) :
    system.observer.currentSlot = head.slot := by
  apply contiguous_observed kept held
  intro started same
  cases same.symm.trans (failure_token held pending).1

theorem contiguous_observes (kept : Contiguous C head system) (idle : system.observerSends = [])
    (pending : system.events = event :: events) {observer : Observer S} {sends : List (Command S)}
    (observed : observer.currentSlot = head.slot ∨
      observer.currentSlot = system.observer.currentSlot ∧ ∀ data, event ≠ .noticeMessage (.started data))
    (cached : ∀ window, observer.latestCurrentWindowValidatedProofInput = some window →
      DualBehind C head window observer.latestNextWindowValidatedProofInput)
    (stages : ∀ command ∈ sends, command.stages = true)
    (staged : ∀ window, .stageTransitionProof window ∈ sends → window.start = head ∧ Chains C window) :
    Contiguous C head { system with observer := observer, observerSends := sends, events := events } := by
  have pendingBefore := pendingEvents_cons pending
  have follows := kept.events
  rw [pendingBefore, List.forall_mem_cons] at follows
  have taken : system.pendingCommands = system.commands := by
    rw [System.pendingCommands, idle, List.append_nil]
  have atHead := kept.atHead
  rw [System.head, taken] at atHead
  have headAfter : (system.commands ++ sends).foldl Command.moves system.bridge.position = head := by
    rw [List.foldl_append, atHead, moves_stages _ stages]
  have commands : ∀ command ∈ system.commands ++ sends, CommandFollows C head system.bridge.position command := by
    intro command member
    rcases List.mem_append.mp member with old | new
    · apply kept.commands command
      rw [taken]
      exact old
    · cases command with
      | advance message => cases stages _ new
      | stageTransitionProof window => exact staged window new
  have slot : (∀ data, .noticeMessage (.started data) ∉ events ++ system.bridgeSends.filterMap BridgeHeadSend.event?) →
      observer.currentSlot = head.slot := by
    intro unstarted
    rcases observed with atSlot | ⟨same, other⟩
    · exact atSlot
    · rw [same]
      apply kept.observed
      intro data member
      rw [pendingBefore] at member
      rcases List.mem_cons.mp member with first | later
      · exact other data first.symm
      · exact unstarted data later
  exact { kept with
    atHead := headAfter, events := follows.2, cached := cached, observed := slot, commands := commands }

/-- A proof that the observer has yet to read is all that is under way. -/
theorem proof_alone {message : ProofMessage} (kept : Contiguous C head system) (held : TokenInvariant system token)
    (pending : system.events = .proofMessage message :: events) :
    system.pendingCommands = [] ∧ system.bridge.proverJobs = [] ∧ system.jobResults = [] ∧
      system.bridge.position = head ∧
      ∀ event ∈ events ++ system.bridgeSends.filterMap BridgeHeadSend.event?, event.carriesToken = false := by
  have placed := held.placed
  simp only [System.tokenView, pendingEvents_cons pending, List.filter_cons, BridgeHeadEvent.carriesToken,
    ↓reduceIte] at placed
  rcases tokenAt_event placed with ⟨noEvents, _, noCommands, noJobs, _, noResults, _⟩
  refine ⟨noCommands, noJobs, noResults, ?_, ?_⟩
  · rw [← kept.atHead, System.head, noCommands]
    rfl
  · intro event member
    exact Bool.eq_false_iff.mpr (List.filter_eq_nil_iff.mp noEvents event member)

/-- The only pending proof moves the head on; everything behind the old head is behind the new one. -/
theorem contiguous_advances {message : ProofMessage} (kept : Contiguous C head system)
    (held : TokenInvariant system token) (pending : system.events = .proofMessage message :: events)
    {observer : Observer S} {sends : List (Command S)}
    (observed : observer.currentSlot = message.outputSlot)
    (current : observer.latestCurrentWindowValidatedProofInput = system.observer.latestCurrentWindowValidatedProofInput)
    (nextSame : observer.latestNextWindowValidatedProofInput = system.observer.latestNextWindowValidatedProofInput)
    (stages : ∀ command ∈ sends, command.stages = true)
    (staged : ∀ window, .stageTransitionProof window ∈ sends → window.start = message.output ∧ Chains C window) :
    Contiguous C message.output { system with
      observer := observer
      observerSends := .advance ⟨message.outputSlot, message.outputStoreHash, message.outputQueueCursor⟩ :: sends
      events := events } := by
  rcases proof_alone kept held pending with ⟨noCommands, noJobs, noResults, position, idleEvents⟩
  have follows := kept.events
  rw [pendingEvents_cons pending, List.forall_mem_cons] at follows
  have raised : head.slot < message.output.slot := follows.1.forward
  have noEarlier : system.commands = [] := (List.append_eq_nil_iff.mp noCommands).1
  have commandsAfter : system.commands ++ .advance ⟨message.outputSlot, message.outputStoreHash,
      message.outputQueueCursor⟩ :: sends = .advance ⟨message.outputSlot, message.outputStoreHash,
      message.outputQueueCursor⟩ :: sends := by rw [noEarlier, List.nil_append]
  have jobs : ∀ job ∈ system.bridge.proverJobs, job.2.start = message.output ∧ Chains C job.2 := by
    rw [noJobs]
    simp
  have results : ∀ result ∈ system.jobResults, ResultFollows message.output result := by
    rw [noResults]
    simp
  constructor
  · simp only [System.head, System.pendingCommands, commandsAfter, List.foldl_cons]
    exact moves_stages _ stages
  · exact Behind.raise kept.detector raised
  · intro update member
    exact Behind.raise (kept.advances update member) raised
  · intro job member
    exact Behind.raise (kept.validating job member) raised
  · intro dual member
    exact DualBehind.raise (kept.duals dual member) raised
  · intro event member
    exact EventFollows.raise (follows.2 event member) (idleEvents event member) raised
  · intro window present
    have dual := kept.cached window (current ▸ present)
    rw [← nextSame] at dual
    exact DualBehind.raise dual raised
  · intro _
    exact observed
  · simp only [System.pendingCommands, commandsAfter, List.forall_mem_cons]
    refine ⟨?_, ?_⟩
    · rw [position]
      exact raised
    · intro command member
      cases command with
      | advance _ => cases stages _ member
      | stageTransitionProof window => exact staged window member
  · exact jobs
  · exact results

theorem contiguous_proof {message : ProofMessage} (kept : Contiguous C head system)
    (held : TokenInvariant system token) (pending : system.events = .proofMessage message :: events)
    (fromHead : system.stagesFromHead (β := ConsensusHttpProxy S) .observerHandles = true)
    {observer : Observer S} {commands : List (Command S)}
    (handled : system.observer.onEvent (.proofMessage message) = .ok (observer, commands)) :
    Contiguous C message.output { system with observer := observer, observerSends := commands, events := events } := by
  have returned : system.observer.onTransitionProofSucceeded message = (observer, commands) := Except.ok.inj handled
  rcases onTransitionProofSucceeded_cases system.observer message with ⟨window, cached, sameSlot, staged⟩ | waits
  · cases staged.symm.trans returned
    apply contiguous_advances kept held pending
    · rfl
    · rfl
    · rfl
    · simp [Command.stages]
    · intro other member
      cases List.mem_singleton.mp member
      simp only [System.stagesFromHead, pending, List.head?_cons, cached, Option.all_some, sameSlot, ne_eq,
        not_true_eq_false, decide_false, Bool.false_or, decide_eq_true_eq] at fromHead
      rcases Option.isSome_iff_exists.mp (held.nextCached (by rw [cached]; rfl)) with ⟨current, present⟩
      exact ⟨fromHead, (kept.cached current present).nextChains window cached⟩
  · cases waits.symm.trans returned
    apply contiguous_advances kept held pending
    · rfl
    · rfl
    · rfl
    · simp
    · intro other member
      cases member

theorem contiguous_finality {data : BridgeHeadFinalityTransitionDetected S} (kept : Contiguous C head system)
    (held : TokenInvariant system token) (idle : system.observerSends = [])
    (pending : system.events = .noticeMessage (.finalityTransitionDetected data) :: events)
    (fromHead : system.stagesFromHead (β := ConsensusHttpProxy S) .observerHandles = true)
    {observer : Observer S} {commands : List (Command S)}
    (handled : system.observer.onEvent (.noticeMessage (.finalityTransitionDetected data)) = .ok (observer, commands)) :
    Contiguous C head { system with observer := observer, observerSends := commands, events := events } := by
  have dual : DualBehind C head data.currentWindowProofInputsWithWindow data.nextWindowProofInputsWithWindow :=
    kept.events (.noticeMessage (.finalityTransitionDetected data)) (pendingEvents_first pending)
  rcases onFinalityTransitionDetected_cases system.observer data with ⟨_, noted⟩ | ⟨flag, noted⟩
  · cases noted.symm.trans handled
    apply contiguous_observes kept idle pending
    · exact .inr ⟨rfl, nofun⟩
    · intro window same
      cases same
      exact dual
    · simp
    · intro window member
      cases member
  · cases noted.symm.trans handled
    have slot := flagged_slot kept held flag
    simp only [System.stagesFromHead, pending, List.head?_cons, flag, Bool.not_true, Bool.false_or,
      decide_eq_true_eq] at fromHead
    apply contiguous_observes kept idle pending
    · exact .inr ⟨rfl, nofun⟩
    · intro window same
      cases same
      exact dual
    · simp [Command.stages]
    · intro window member
      cases List.mem_singleton.mp member
      exact ⟨Behind.eq_of_slot dual.behind (fromHead.trans slot), dual.currentChains⟩

theorem contiguous_failure {data : BridgeHeadJobFailed} (kept : Contiguous C head system)
    (held : TokenInvariant system token) (idle : system.observerSends = [])
    (pending : system.events = .noticeMessage (.jobFailed data) :: events)
    (fromHead : system.stagesFromHead (β := ConsensusHttpProxy S) .observerHandles = true)
    {observer : Observer S} {commands : List (Command S)}
    (handled : system.observer.onEvent (.noticeMessage (.jobFailed data)) = .ok (observer, commands)) :
    Contiguous C head { system with observer := observer, observerSends := commands, events := events } := by
  have unread : .noticeMessage (.jobFailed data) ∈ system.pendingEvents := pendingEvents_first pending
  rcases tokenInvariant_failure held unread with ⟨window, cached, staged⟩
  cases staged.symm.trans handled
  have alone := (failure_token held unread).2
  have slot := failure_slot kept held unread
  simp only [System.stagesFromHead, pending, List.head?_cons, cached, Option.all_some, alone, ne_eq,
    not_true_eq_false, decide_false, Bool.false_or, decide_eq_true_eq] at fromHead
  have dual := kept.cached window cached
  apply contiguous_observes kept idle pending (.inr ⟨rfl, nofun⟩) kept.cached
  · simp [Command.stages]
  · intro other member
    cases List.mem_singleton.mp member
    exact ⟨Behind.eq_of_slot dual.behind (fromHead.trans slot), dual.currentChains⟩

theorem contiguous_observerHandles (kept : Contiguous C head system) (held : TokenInvariant system token)
    (fromHead : system.stagesFromHead (β := ConsensusHttpProxy S) .observerHandles = true)
    (stepped : system.observerHandles = some next) : ∃ higher, Contiguous C higher next := by
  rcases observerHandles_cases stepped with ⟨event, events, idle, pending, outcome⟩
  rcases tokenInvariant_onEvent held idle pending with ⟨_, _, _, accepted, _⟩
  rcases outcome with ⟨observer, commands, handled, rfl⟩ | ⟨⟨failure, failed⟩, rfl⟩
  · cases event with
    | proofMessage message =>
      exact ⟨message.output, contiguous_proof kept held pending fromHead handled⟩
    | noticeMessage notice =>
      refine ⟨head, ?_⟩
      cases notice with
      | finalityTransitionDetected data => exact contiguous_finality kept held idle pending fromHead handled
      | jobFailed data => exact contiguous_failure kept held idle pending fromHead handled
      | started data =>
        cases handled
        have started : data.currentSlot = head.slot :=
          kept.events (.noticeMessage (.started data)) (pendingEvents_first pending)
        exact contiguous_observes kept idle pending (.inl started) kept.cached (by simp) (by simp)
      | _ =>
        cases handled
        exact contiguous_observes kept idle pending (.inr ⟨rfl, nofun⟩) kept.cached (by simp) (by simp)
  · rw [accepted] at failed
    cases failed

end ObserverSteps

end NoriProof
