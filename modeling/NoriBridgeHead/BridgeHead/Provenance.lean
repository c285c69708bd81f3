import NoriBridgeHead.BridgeHead.PipelineRuns
import NoriBridgeHead.BridgeHead.PublishedRequests

open Foundation Foundation.Outcome Foundation.Transition

namespace NoriModel

variable {S : ConsensusSpec}

def Prepared (C : Crypto) (window : ProofInputsWithWindow S) : Prop :=
  ∃ proxy slot storeHash queueCursor, preparing C proxy slot storeHash queueCursor = .ok window

def ProofOutputs.position (outputs : ProofOutputs) : FinalityChangeDetectorUpdate :=
  ⟨outputs.outputSlot, outputs.outputStoreHash, outputs.outputQueueCursor⟩

/-- The outputs of the program on some prepared window. -/
def Expected (C : Crypto) (S : ConsensusSpec) (update : FinalityChangeDetectorUpdate) : Prop :=
  ∃ (window : ProofInputsWithWindow S) (outputs : ProofOutputs), Prepared C window ∧
    consensusMptProgram C window.proofInputs = .ok outputs ∧ update = outputs.position

structure DualPrepared (C : Crypto) (currentWindow : ProofInputsWithWindow S)
    (nextWindow : Option (ProofInputsWithWindow S)) : Prop where
  current : Prepared C currentWindow
  next : ∀ window, nextWindow = some window → Prepared C window ∧ Expected C S window.start

def EventPrepared (C : Crypto) : BridgeHeadEvent S → Prop
  | .noticeMessage (.finalityTransitionDetected data) =>
    DualPrepared C data.currentWindowProofInputsWithWindow data.nextWindowProofInputsWithWindow
  | .proofMessage _ | .noticeMessage (.started _) | .noticeMessage (.warning _) | .noticeMessage (.jobCreated _)
  | .noticeMessage (.jobSucceeded _) | .noticeMessage (.jobFailed _) | .noticeMessage (.headAdvanced _) => True

def DualProofInputsWithWindow.windows (dual : DualProofInputsWithWindow S) : List (ProofInputsWithWindow S) :=
  dual.currentWindow :: dual.nextWindow.toList

def BridgeHeadEvent.dual? : BridgeHeadEvent S → Option (DualProofInputsWithWindow S)
  | .noticeMessage (.finalityTransitionDetected data) =>
    some ⟨data.currentWindowProofInputsWithWindow, data.nextWindowProofInputsWithWindow⟩
  | .proofMessage _ | .noticeMessage (.started _) | .noticeMessage (.warning _) | .noticeMessage (.jobCreated _)
  | .noticeMessage (.jobSucceeded _) | .noticeMessage (.jobFailed _) | .noticeMessage (.headAdvanced _) => none

def BridgeHeadSend.stageUpdate? : BridgeHeadSend S → Option FinalityChangeDetectorUpdate
  | .stageUpdate update => some update
  | .event _ | .advanceUpdate _ => none

def Command.window? : Command S → Option (ProofInputsWithWindow S)
  | .stageTransitionProof window => some window
  | .advance _ => none

namespace System

/-- The pairs of windows on their way from the detector to the observer. -/
def duals (system : System S) : List (DualProofInputsWithWindow S) :=
  system.pendingDuals ++ system.pendingEvents.filterMap BridgeHeadEvent.dual?

def nextWindows (system : System S) : List (ProofInputsWithWindow S) :=
  system.duals.filterMap DualProofInputsWithWindow.nextWindow ++
    system.observer.latestNextWindowValidatedProofInput.toList

/-- Every window that a task or a channel holds. -/
def windows (system : System S) : List (ProofInputsWithWindow S) :=
  system.duals.flatMap DualProofInputsWithWindow.windows ++
    (system.observer.latestCurrentWindowValidatedProofInput.toList ++
    (system.observer.latestNextWindowValidatedProofInput.toList ++
    (system.pendingCommands.filterMap Command.window? ++ system.bridge.proverJobs.map Prod.snd)))

def pendingStages (system : System S) : List FinalityChangeDetectorUpdate :=
  system.stageUpdates ++ system.bridgeSends.filterMap BridgeHeadSend.stageUpdate?

/-- The outputs that the detector expects, or will expect once it has heard of them. -/
def expectations (system : System S) : List FinalityChangeDetectorUpdate :=
  system.pendingStages ++ (system.detector.nextExpectedOutput.toList ++
    system.validating.filterMap FinalityChangeDetectorJobInput.nextExpectedOutput)

end System

structure Provenance (C : Crypto) (system : System S) : Prop where
  duals : ∀ dual ∈ system.pendingDuals, DualPrepared C dual.currentWindow dual.nextWindow
  events : ∀ event ∈ system.pendingEvents, EventPrepared C event
  cached : ∀ window, system.observer.latestCurrentWindowValidatedProofInput = some window → Prepared C window
  cachedNext : ∀ window, system.observer.latestNextWindowValidatedProofInput = some window →
    Prepared C window ∧ Expected C S window.start
  commands : ∀ window, .stageTransitionProof window ∈ system.pendingCommands → Prepared C window
  jobs : ∀ job ∈ system.bridge.proverJobs, Prepared C job.2
  stages : ∀ update ∈ system.pendingStages, Expected C S update
  detector : ∀ update, system.detector.nextExpectedOutput = some update → Expected C S update
  validating : ∀ job ∈ system.validating, ∀ update, job.nextExpectedOutput = some update → Expected C S update

/-- The message that the bridge head publishes for a proof of a window. -/
def ProofInputsWithWindow.message (window : ProofInputsWithWindow S) (outputs : ProofOutputs) : ProofMessage where
  inputSlot := outputs.inputSlot
  inputBlockNumber := window.inputBlockNumber
  inputStoreHash := outputs.inputStoreHash
  inputQueueCursor := outputs.inputQueueCursor
  outputSlot := outputs.outputSlot
  outputBlockNumber := outputs.outputBlockNumber
  outputStoreHash := outputs.outputStoreHash
  outputQueueCursor := outputs.outputQueueCursor
  publicValues := outputs.toBytes
  executionStateRoot := outputs.executionStateRoot
  verifiedRequestsRoot := outputs.verifiedRequestsRoot
  nextSyncCommitteeHash := outputs.nextSyncCommitteeHash
  proofRequestQueueAddress := outputs.proofRequestQueueAddress
  verifiedRequests := BridgeHead.verifiedRequests window.proofInputs.queueStorage

def ProofMessage.outputs (message : ProofMessage) : ProofOutputs where
  inputSlot := message.inputSlot
  inputStoreHash := message.inputStoreHash
  outputSlot := message.outputSlot
  outputStoreHash := message.outputStoreHash
  executionStateRoot := message.executionStateRoot
  verifiedRequestsRoot := message.verifiedRequestsRoot
  nextSyncCommitteeHash := message.nextSyncCommitteeHash
  proofRequestQueueAddress := message.proofRequestQueueAddress
  inputQueueCursor := message.inputQueueCursor
  outputQueueCursor := message.outputQueueCursor
  outputBlockNumber := message.outputBlockNumber

def BridgeHeadEvent.message? : BridgeHeadEvent S → Option ProofMessage
  | .proofMessage message => some message
  | .noticeMessage _ => none

/-- The message is what a prepared window and an accepted run of the program on it give. -/
def Attested (C : Crypto) (S : ConsensusSpec) (message : ProofMessage) : Prop :=
  ∃ (window : ProofInputsWithWindow S) (outputs : ProofOutputs), Prepared C window ∧
    consensusMptProgram C window.proofInputs = .ok outputs ∧ message = window.message outputs

structure Attestation (C : Crypto) (system : System S) : Prop where
  messages : ∀ message, .proofMessage message ∈ system.pendingEvents → Attested C S message
  results : ∀ jobId publicValues, .proved jobId publicValues ∈ system.jobResults →
    ∃ window outputs, (jobId, window) ∈ system.bridge.proverJobs ∧
      consensusMptProgram C window.proofInputs = .ok outputs ∧ publicValues = outputs.toBytes

end NoriModel

namespace NoriProof

open NoriModel

variable {C : Crypto} {S : ConsensusSpec} {system next : System S} {token : Token S}

section Prepared

theorem Prepared.predicts {window : ProofInputsWithWindow S} (prepared : Prepared C window) :
    ∃ outputs, consensusMptProgram C window.proofInputs = .ok outputs ∧
      Predicts window window.inputSlot window.proofInputs.storeHash window.proofInputs.queueStorage.inputCursor
        outputs ∧ Validated window.inputSlot outputs.outputSlot outputs.nextSyncCommitteeHash := by
  rcases prepared with ⟨proxy, slot, storeHash, queueCursor, returned⟩
  rcases prepared_predicts returned with ⟨outputs, accepted, predicts, valid⟩
  refine ⟨outputs, accepted, ?_, ?_⟩
  · rw [predicts.windowSlot, predicts.windowHash, predicts.windowCursor]
    exact predicts
  · rw [predicts.windowSlot]
    exact valid rfl

theorem Prepared.distinct {window : ProofInputsWithWindow S} (prepared : Prepared C window) :
    DistinctTargets window.proofInputs.queueStorage.targets := by
  rcases prepared with ⟨proxy, slot, storeHash, queueCursor, returned⟩
  simp only [preparing, ConsensusHttpProxy.prepareConsensusMptProofInputs, bind_ok_iff] at returned
  rcases returned with ⟨_, _, _, _, executed⟩
  simp only [ExecutionHttpProxy.prepareConsensusMptProofInputs, bind_ok_iff, pure_ok_iff] at executed
  rcases executed with ⟨output, queried, _, _, rfl⟩
  rcases queryWithFallback_ok queried with ⟨attempt, _, ran⟩
  exact prepared_distinct ran

/-- What staging announces of a prepared window is what the program outputs on it. -/
theorem Prepared.expected {window : ProofInputsWithWindow S} (prepared : Prepared C window) :
    Expected C S ⟨window.expectedOutputSlot, window.expectedOutputStoreHash,
      BridgeHead.expectedOutputQueueCursor window⟩ := by
  rcases Prepared.predicts prepared with ⟨outputs, accepted, predicts, _⟩
  refine ⟨window, outputs, prepared, accepted, ?_⟩
  rw [ProofOutputs.position, predicts.outputSlot, predicts.outputStoreHash, ← predicts.restaged]

theorem Prepared.rebuilds {window : ProofInputsWithWindow S} (prepared : Prepared C window) {outputs : ProofOutputs}
    (accepted : consensusMptProgram C window.proofInputs = .ok outputs) :
    ∃ folded, rebuildRequestsRoot C (BridgeHead.verifiedRequests window.proofInputs.queueStorage) = .ok folded ∧
      folded.toBytes = outputs.verifiedRequestsRoot := by
  rcases (consensusMptProgram_ok_iff _ _).mp accepted with ⟨_, _, _, _, drained, _, rfl⟩
  exact verifiedRequests_root (Prepared.distinct prepared) drained

theorem validate_prepared {providers : ConsensusHttpProxy S × ConsensusHttpProxy S}
    {job : FinalityChangeDetectorJobInput} {dual : DualProofInputsWithWindow S}
    (accepted : validateAndPrepareProofInputs (preparing C) providers job = .ok dual)
    (expected : ∀ update, job.nextExpectedOutput = some update → Expected C S update) :
    DualPrepared C dual.currentWindow dual.nextWindow := by
  rcases validate_ok accepted with ⟨current, solo | ⟨update, nextWindow, announced, second, prepared⟩⟩
  · refine ⟨⟨_, _, _, _, current⟩, ?_⟩
    intro window present
    rw [solo.2] at present
    cases present
  · refine ⟨⟨_, _, _, _, current⟩, ?_⟩
    intro window present
    cases second.symm.trans present
    refine ⟨⟨_, _, _, _, prepared⟩, ?_⟩
    rw [(preparing_ok prepared).1]
    exact expected update announced

end Prepared

theorem provenance_start (slot : UInt64) (storeHash : B256) (queueCursor latestBeaconSlot : UInt64) :
    Provenance C (System.start (S := S) slot storeHash queueCursor latestBeaconSlot) where
  duals := by simp [System.pendingDuals, System.start]
  events := by simp [System.pendingEvents, System.start, BridgeHead.notice, BridgeHeadSend.event?, EventPrepared]
  cached := by simp [System.start, Observer.new]
  cachedNext := by simp [System.start, Observer.new]
  commands := by simp [System.pendingCommands, System.start]
  jobs := by simp [System.start]
  stages := by simp [System.pendingStages, System.start, BridgeHead.notice, BridgeHeadSend.stageUpdate?]
  detector := by simp [System.start, Detector.start]
  validating := by simp [System.start]

section Steps

theorem provenance_detectorHandlesStage (kept : Provenance C system)
    (stepped : system.detectorHandlesStage = some next) : Provenance C next := by
  rcases detectorHandlesStage_cases stepped with ⟨update, stageUpdates, _, pending, rfl⟩
  have stages := kept.stages
  simp only [System.pendingStages, pending, List.cons_append, List.forall_mem_cons] at stages
  have expected : ∀ other, (system.detector.onStage update).nextExpectedOutput = some other → Expected C S other := by
    intro other same
    cases same
    exact stages.1
  exact { kept with stages := stages.2, detector := expected }

theorem provenance_detectorHandlesAdvance (kept : Provenance C system)
    (stepped : system.detectorHandlesAdvance = some next) : Provenance C next := by
  rcases detectorHandlesAdvance_cases stepped with ⟨update, advanceUpdates, _, _, rfl⟩
  have expected : ∀ other, (system.detector.onAdvance update).nextExpectedOutput = some other →
      Expected C S other := by
    intro other same
    apply kept.detector
    simp only [Detector.onAdvance] at same
    split at same
    · split at same
      · cases same
      · rename_i held _
        rw [held]
        exact same
    · cases same
  exact { kept with detector := expected }

theorem provenance_detectorReacts (kept : Provenance C system) (idle : system.detectorSends = none)
    {validating : List FinalityChangeDetectorJobInput} {reaction : Reaction S}
    (stays : reaction.detector.nextExpectedOutput = system.detector.nextExpectedOutput)
    (fewer : ∀ job ∈ validating, job ∈ system.validating)
    (started : ∀ job, reaction.job = some job → job.nextExpectedOutput =
      filteredNext system.detector.slot system.detector.nextExpectedOutput)
    (emitted : ∀ dual, reaction.emitted = some dual → DualPrepared C dual.currentWindow dual.nextWindow) :
    Provenance C (system.detectorReacts validating reaction) := by
  have expected : ∀ update, reaction.detector.nextExpectedOutput = some update → Expected C S update := by
    rw [stays]
    exact kept.detector
  have jobs : ∀ job ∈ validating ++ reaction.job.toList, ∀ update, job.nextExpectedOutput = some update →
      Expected C S update := by
    intro job member update announced
    rcases List.mem_append.mp member with old | new
    · exact kept.validating job (fewer job old) update announced
    · rw [started job (Option.mem_toList.mp new)] at announced
      exact kept.detector update (filteredNext_eq_some announced)
  have sent : ∀ dual ∈ system.finalityOutput ++ reaction.emitted.toList,
      DualPrepared C dual.currentWindow dual.nextWindow := by
    intro dual member
    rcases List.mem_append.mp member with old | new
    · apply kept.duals dual
      rw [System.pendingDuals, idle]
      exact List.mem_append_left _ old
    · exact emitted dual (Option.mem_toList.mp new)
  exact { kept with detector := expected, validating := jobs, duals := sent }

theorem provenance_quiet (kept : Provenance C system) (idle : system.detectorSends = none)
    {validating : List FinalityChangeDetectorJobInput} {detector : Detector}
    (stays : detector.nextExpectedOutput = system.detector.nextExpectedOutput)
    (fewer : ∀ job ∈ validating, job ∈ system.validating) :
    Provenance C (system.detectorReacts validating detector.quiet) := by
  apply provenance_detectorReacts kept idle stays fewer
  · intro job started
    cases started
  · intro dual emitted
    cases emitted

theorem provenance_detectorTicks (kept : Provenance C system) (stepped : system.detectorTicks = some next) :
    Provenance C next := by
  rcases detectorTicks_cases stepped with ⟨idle, rfl⟩
  rcases onTick_cases (S := S) system.detector with ⟨_, quiet⟩ | ⟨_, started⟩
  · rw [quiet]
    exact provenance_quiet kept idle rfl fun _ member => member
  · rw [started]
    apply provenance_detectorReacts kept idle rfl (fun _ member => member)
    · intro job same
      cases same
      rfl
    · intro dual sent
      cases sent

theorem provenance_detectorHandlesResult {providers : ConsensusHttpProxy S × ConsensusHttpProxy S}
    (kept : Provenance C system) (stepped : system.detectorHandlesResult (preparing C) providers = some next) :
    Provenance C next := by
  rcases detectorHandlesResult_cases stepped with ⟨job, validating, idle, pending, rfl⟩
  have fewer : ∀ other ∈ validating, other ∈ system.validating := by
    intro other member
    rw [pending]
    exact List.mem_cons_of_mem _ member
  have expected := kept.validating job (by simp [pending])
  rcases onResult_cases system.detector (validateAndPrepareProofInputs (preparing C) providers job) with
    quiet | ⟨_, restarted⟩ | ⟨dual, validated, _, _, _, ⟨_, sent⟩ | ⟨_, swallowed⟩⟩
  · rw [quiet]
    exact provenance_quiet kept idle rfl fewer
  · rw [restarted]
    apply provenance_detectorReacts kept idle rfl fewer
    · intro started same
      cases same
      rfl
    · intro dual sent
      cases sent
  · rw [sent]
    apply provenance_detectorReacts kept idle rfl fewer
    · intro started none
      cases none
    · intro emitted same
      cases same
      exact validate_prepared validated expected
  · rw [swallowed]
    exact provenance_quiet kept idle rfl fewer

theorem provenance_detectorSends (kept : Provenance C system) (stepped : system.detectorSendsNext = some next) :
    Provenance C next := by
  rcases detectorSends_cases stepped with ⟨dual, pending, rfl⟩
  have duals := kept.duals
  rw [System.pendingDuals, pending] at duals
  have sent : ∀ other ∈ (system.finalityOutput ++ [dual]) ++ [],
      DualPrepared C other.currentWindow other.nextWindow := by
    rw [List.append_nil]
    exact duals
  exact { kept with duals := sent }

theorem provenance_observerSends (kept : Provenance C system) (stepped : system.observerSendsNext = some next) :
    Provenance C next := by
  rcases observerSends_cases stepped with ⟨command, rest, pending, rfl⟩
  have commands : ∀ window, .stageTransitionProof window ∈ (system.commands ++ [command]) ++ rest →
      Prepared C window := by
    intro window member
    apply kept.commands window
    rw [System.pendingCommands, pending]
    rw [List.append_assoc] at member
    exact member
  exact { kept with commands := commands }

theorem provenance_announces (kept : Provenance C system) (quiet : system.bridgeSends = [])
    {sends : List (BridgeHeadSend S)} (prepared : ∀ event, .event event ∈ sends → EventPrepared C event)
    (expected : ∀ update, .stageUpdate update ∈ sends → Expected C S update) :
    Provenance C { system with bridgeSends := sends } := by
  have events : ∀ event ∈ system.events ++ sends.filterMap BridgeHeadSend.event?, EventPrepared C event := by
    intro event member
    rcases List.mem_append.mp member with old | new
    · apply kept.events event
      rw [pendingEvents_ready quiet]
      exact old
    · rcases List.mem_filterMap.mp new with ⟨send, member, sent⟩
      cases send <;> cases sent
      exact prepared event member
  have stages : ∀ update ∈ system.stageUpdates ++ sends.filterMap BridgeHeadSend.stageUpdate?,
      Expected C S update := by
    intro update member
    rcases List.mem_append.mp member with old | new
    · exact kept.stages update (List.mem_append_left _ old)
    · rcases List.mem_filterMap.mp new with ⟨send, member, sent⟩
      cases send <;> cases sent
      exact expected update member
  exact { kept with events := events, stages := stages }

theorem provenance_bridgeSends (kept : Provenance C system) (stepped : system.bridgeSendsNext = some next) :
    Provenance C next := by
  have unchanged : ∀ {events : List (BridgeHeadEvent S)} {sends : List (BridgeHeadSend S)}
      {stages advances : List FinalityChangeDetectorUpdate},
      events ++ sends.filterMap BridgeHeadSend.event? = system.pendingEvents →
      stages ++ sends.filterMap BridgeHeadSend.stageUpdate? = system.pendingStages →
      Provenance C { system with
        bridgeSends := sends, events := events, stageUpdates := stages, advanceUpdates := advances } := by
    intro events sends stages advances sameEvents sameStages
    have prepared := kept.events
    have expected := kept.stages
    rw [← sameEvents] at prepared
    rw [← sameStages] at expected
    exact { kept with events := prepared, stages := expected }
  rcases bridgeSends_cases stepped with ⟨send, rest, pending, ⟨event, rfl, rfl⟩ | ⟨update, rfl, rfl⟩ |
    ⟨update, rfl, rfl⟩⟩ <;>
  · apply unchanged
    · simp [System.pendingEvents, pending, BridgeHeadSend.event?, List.filterMap_cons]
    · simp [System.pendingStages, pending, BridgeHeadSend.stageUpdate?, List.filterMap_cons]

theorem provenance_bridgeHandlesFinality (kept : Provenance C system)
    (stepped : system.bridgeHandlesFinality = some next) : Provenance C next := by
  rcases bridgeHandlesFinality_cases stepped with ⟨dual, finalityOutput, quiet, pending, rfl⟩
  have duals := kept.duals
  simp only [System.pendingDuals, pending, List.cons_append, List.forall_mem_cons] at duals
  have announced : Provenance C { system with
      bridgeSends := (system.bridge.onBeaconFinalityChange dual).2 } := by
    apply provenance_announces kept quiet
    · intro event member
      cases List.mem_singleton.mp member
      exact duals.1
    · intro update member
      cases List.mem_singleton.mp member
  exact { announced with duals := duals.2 }

theorem provenance_bridgeHandlesCommand (kept : Provenance C system)
    (stepped : system.bridgeHandlesCommand = some next) : Provenance C next := by
  rcases bridgeHandlesCommand_cases stepped with ⟨command, commands, quiet, pending, rfl⟩
  have prepared := kept.commands
  simp only [System.pendingCommands, pending, List.cons_append, List.mem_cons] at prepared
  have later : ∀ window, .stageTransitionProof window ∈ commands ++ system.observerSends → Prepared C window :=
    fun window member => prepared window (.inr member)
  cases command with
  | advance message =>
    have announced : Provenance C { system with bridgeSends := (system.bridge.advance message).2 } := by
      apply provenance_announces kept quiet
      · intro event member
        simp only [BridgeHead.advance, BridgeHead.notice, List.mem_cons, reduceCtorEq, BridgeHeadSend.event.injEq,
          List.not_mem_nil, or_false, false_or] at member
        rw [member]
        trivial
      · intro update member
        simp [BridgeHead.advance, BridgeHead.notice] at member
    exact { announced with commands := later }
  | stageTransitionProof window =>
    have staged : Prepared C window := prepared window (.inl rfl)
    have announced : Provenance C { system with
        bridgeSends := (system.bridge.stageTransitionProof window).2 } := by
      apply provenance_announces kept quiet
      · intro event member
        simp only [BridgeHead.stageTransitionProof, BridgeHead.notice, List.mem_cons, reduceCtorEq,
          BridgeHeadSend.event.injEq, List.not_mem_nil, or_false, false_or] at member
        rw [member]
        trivial
      · intro update member
        simp only [BridgeHead.stageTransitionProof, BridgeHead.notice, List.mem_cons, reduceCtorEq,
          BridgeHeadSend.stageUpdate.injEq, List.not_mem_nil, or_false] at member
        rw [member]
        exact Prepared.expected staged
    have jobs : ∀ job ∈ BridgeHead.insertJob system.bridge.proverJobs (system.bridge.jobId + 1) window,
        Prepared C job.2 := by
      intro job member
      rcases mem_insertJob member with old | rfl
      · exact kept.jobs job old
      · exact staged
    exact { announced with commands := later, jobs := jobs }

/-- A finished job sends no windows and no stage update, and leaves the other jobs. -/
theorem onJobResult_frame {bridge bridge' : BridgeHead S} {result : ProverJobResult}
    {sends : List (BridgeHeadSend S)} (handled : bridge.onJobResult result = .ok (bridge', sends)) :
    (∀ job ∈ bridge'.proverJobs, job ∈ bridge.proverJobs) ∧
      (∀ event, .event event ∈ sends → EventPrepared C event) ∧ ∀ update, .stageUpdate update ∉ sends := by
  cases result with
  | proved jobId publicValues =>
    simp only [BridgeHead.onJobResult, BridgeHead.handleProverSuccess, bind_ok_iff, pure_ok_iff,
      Prod.mk.injEq] at handled
    rcases handled with ⟨window, _, _, _, rfl, rfl⟩
    refine ⟨fun job member => (List.mem_filter.mp member).1, ?_, by simp [BridgeHead.notice]⟩
    intro event member
    simp only [BridgeHead.notice, List.mem_cons, BridgeHeadSend.event.injEq, List.not_mem_nil, or_false] at member
    rcases member with rfl | rfl
    · trivial
    · trivial
  | failed jobId error =>
    simp only [BridgeHead.onJobResult, BridgeHead.handleProverFailure, bind_ok_iff, pure_ok_iff,
      Prod.mk.injEq] at handled
    rcases handled with ⟨window, _, rfl, rfl⟩
    refine ⟨fun job member => (List.mem_filter.mp member).1, ?_, by simp [BridgeHead.notice]⟩
    intro event member
    cases List.mem_singleton.mp member
    trivial

theorem provenance_bridgeHandlesJobResult (kept : Provenance C system)
    (stepped : system.bridgeHandlesJobResult = some next) : Provenance C next := by
  rcases bridgeHandlesJobResult_cases stepped with ⟨result, jobResults, quiet, pending, outcome⟩
  rcases outcome with ⟨bridge, sends, handled, rfl⟩ | ⟨_, rfl⟩
  · rcases onJobResult_frame (C := C) handled with ⟨fewer, prepared, noStage⟩
    have announced : Provenance C { system with bridgeSends := sends } :=
      provenance_announces kept quiet prepared fun update member => absurd member (noStage update)
    exact { announced with jobs := fun job member => kept.jobs job (fewer job member) }
  · exact { kept with jobs := fun job member => kept.jobs job (mem_removeJob member) }

/-- The observer stages a window that it caches, or that the event has just brought. -/
theorem provenance_observes {event : BridgeHeadEvent S} {events : List (BridgeHeadEvent S)}
    (kept : Provenance C system) (idle : system.observerSends = []) (pending : system.events = event :: events)
    {observer : Observer S} {sends : List (Command S)}
    (current : ∀ window, observer.latestCurrentWindowValidatedProofInput = some window → Prepared C window)
    (following : ∀ window, observer.latestNextWindowValidatedProofInput = some window →
      Prepared C window ∧ Expected C S window.start)
    (staged : ∀ window, .stageTransitionProof window ∈ sends → Prepared C window) :
    Provenance C { system with observer := observer, observerSends := sends, events := events } := by
  have prepared := kept.events
  rw [pendingEvents_cons pending, List.forall_mem_cons] at prepared
  have commands : ∀ window, .stageTransitionProof window ∈ system.commands ++ sends → Prepared C window := by
    intro window member
    rcases List.mem_append.mp member with old | new
    · apply kept.commands window
      rw [System.pendingCommands, idle, List.append_nil]
      exact old
    · exact staged window new
  exact { kept with events := prepared.2, cached := current, cachedNext := following, commands := commands }

theorem provenance_observerHandles (kept : Provenance C system) (stepped : system.observerHandles = some next) :
    Provenance C next := by
  rcases observerHandles_cases stepped with ⟨event, events, idle, pending, outcome⟩
  have prepared := kept.events
  rw [pendingEvents_cons pending, List.forall_mem_cons] at prepared
  rcases outcome with ⟨observer, commands, handled, rfl⟩ | ⟨_, rfl⟩
  · cases event with
    | proofMessage message =>
      have returned : system.observer.onTransitionProofSucceeded message = (observer, commands) :=
        Except.ok.inj handled
      rcases onTransitionProofSucceeded_cases system.observer message with ⟨window, cached, _, staged⟩ | waits
      · cases staged.symm.trans returned
        apply provenance_observes kept idle pending
        · exact kept.cached
        · exact kept.cachedNext
        · intro other member
          simp only [List.mem_cons, reduceCtorEq, Command.stageTransitionProof.injEq, List.not_mem_nil, or_false,
            false_or] at member
          rw [member]
          exact (kept.cachedNext window cached).1
      · cases waits.symm.trans returned
        apply provenance_observes kept idle pending
        · exact kept.cached
        · exact kept.cachedNext
        · simp
    | noticeMessage notice =>
      cases notice with
      | finalityTransitionDetected data =>
        have dual : DualPrepared C data.currentWindowProofInputsWithWindow data.nextWindowProofInputsWithWindow :=
          prepared.1
        have current : ∀ window, some data.currentWindowProofInputsWithWindow = some window →
            Prepared C window := by
          intro window same
          cases same
          exact dual.current
        rcases onFinalityTransitionDetected_cases system.observer data with ⟨_, noted⟩ | ⟨_, noted⟩
        · cases noted.symm.trans handled
          apply provenance_observes kept idle pending current dual.next
          simp
        · cases noted.symm.trans handled
          apply provenance_observes kept idle pending current dual.next
          intro window member
          cases List.mem_singleton.mp member
          exact dual.current
      | jobFailed data =>
        simp only [Observer.onEvent, Observer.onBridgeHeadTransitionNotice] at handled
        split at handled
        · split at handled
          · rename_i window cached
            cases handled
            apply provenance_observes kept idle pending kept.cached kept.cachedNext
            intro other member
            cases List.mem_singleton.mp member
            exact kept.cached window cached
          · cases handled
        · cases handled
          apply provenance_observes kept idle pending kept.cached kept.cachedNext
          simp
      | _ =>
        cases handled
        apply provenance_observes kept idle pending
        · exact kept.cached
        · exact kept.cachedNext
        · simp
  · exact { kept with events := prepared.2 }

theorem provenance_step {event : SystemEvent (ConsensusHttpProxy S)} (kept : Provenance C system)
    (stepped : system.step (preparing C) event = some next) : Provenance C next := by
  cases event with
  | observerHandles => exact provenance_observerHandles kept stepped
  | observerSends => exact provenance_observerSends kept stepped
  | bridgeHandlesFinality => exact provenance_bridgeHandlesFinality kept stepped
  | bridgeHandlesCommand => exact provenance_bridgeHandlesCommand kept stepped
  | bridgeHandlesJobResult => exact provenance_bridgeHandlesJobResult kept stepped
  | bridgeSends => exact provenance_bridgeSends kept stepped
  | proverProves position outputs =>
    have ended : system.proverEnds position (fun jobId => .proved jobId outputs.toBytes) = some next := stepped
    rcases proverEnds_cases ended with ⟨_, _, rfl⟩
    exact { kept with }
  | proverFails position error =>
    have ended : system.proverEnds position (fun jobId => .failed jobId error) = some next := stepped
    rcases proverEnds_cases ended with ⟨_, _, rfl⟩
    exact { kept with }
  | detectorHandlesStage => exact provenance_detectorHandlesStage kept stepped
  | detectorHandlesAdvance => exact provenance_detectorHandlesAdvance kept stepped
  | detectorTicks => exact provenance_detectorTicks kept stepped
  | detectorHandlesResult providers => exact provenance_detectorHandlesResult kept stepped
  | detectorSends => exact provenance_detectorSends kept stepped

end Steps

theorem provenance_run {slot : UInt64} {storeHash : B256} {queueCursor latestBeaconSlot : UInt64}
    {events : List (SystemEvent (ConsensusHttpProxy S))}
    (reached : run (System.step (preparing C)) (System.start slot storeHash queueCursor latestBeaconSlot) events =
      some system) : Provenance C system :=
  reachable_invariant (fun _ _ _ kept stepped => provenance_step kept stepped)
    (provenance_start slot storeHash queueCursor latestBeaconSlot) reached

section Held

theorem EventPrepared.dual {event : BridgeHeadEvent S} {dual : DualProofInputsWithWindow S}
    (prepared : EventPrepared C event) (carried : event.dual? = some dual) :
    DualPrepared C dual.currentWindow dual.nextWindow := by
  cases event with
  | proofMessage message => cases carried
  | noticeMessage notice =>
    cases notice with
    | finalityTransitionDetected data =>
      cases carried
      exact prepared
    | _ => cases carried

theorem Provenance.dual {dual : DualProofInputsWithWindow S} (kept : Provenance C system)
    (member : dual ∈ system.duals) : DualPrepared C dual.currentWindow dual.nextWindow := by
  rcases List.mem_append.mp member with unsent | announced
  · exact kept.duals dual unsent
  · rcases List.mem_filterMap.mp announced with ⟨event, pending, carried⟩
    exact EventPrepared.dual (kept.events event pending) carried

theorem Provenance.window {window : ProofInputsWithWindow S} (kept : Provenance C system)
    (member : window ∈ system.windows) : Prepared C window := by
  simp only [System.windows, List.mem_append, List.mem_flatMap, Option.mem_toList, List.mem_filterMap,
    List.mem_map] at member
  rcases member with ⟨dual, pending, inside⟩ | current | following | ⟨command, pending, stages⟩ | ⟨job, running, rfl⟩
  · have prepared := Provenance.dual kept pending
    rcases List.mem_cons.mp inside with rfl | second
    · exact prepared.current
    · exact (prepared.next window (Option.mem_toList.mp second)).1
  · exact kept.cached window current
  · exact (kept.cachedNext window following).1
  · cases command with
    | advance message => cases stages
    | stageTransitionProof staged =>
      cases stages
      exact kept.commands window pending
  · exact kept.jobs job running

theorem Provenance.nextWindow {window : ProofInputsWithWindow S} (kept : Provenance C system)
    (member : window ∈ system.nextWindows) : Prepared C window ∧ Expected C S window.start := by
  rcases List.mem_append.mp member with announced | cached
  · rcases List.mem_filterMap.mp announced with ⟨dual, pending, second⟩
    exact (Provenance.dual kept pending).next window second
  · exact kept.cachedNext window (Option.mem_toList.mp cached)

theorem Provenance.expectation {update : FinalityChangeDetectorUpdate} (kept : Provenance C system)
    (member : update ∈ system.expectations) : Expected C S update := by
  simp only [System.expectations, List.mem_append, Option.mem_toList, List.mem_filterMap] at member
  rcases member with pending | held | ⟨job, validating, announced⟩
  · exact kept.stages update pending
  · exact kept.detector update held
  · exact kept.validating job validating update announced

end Held

/-- Whatever the providers answer and however the tasks interleave, the program accepts every window that a task or a
    channel holds, with the outputs that the window announces, and no prover works on anything else. -/
theorem windows_accepted (C : Crypto) {S : ConsensusSpec} (slot : UInt64) (storeHash : B256)
    (queueCursor latestBeaconSlot : UInt64) (events : List (SystemEvent (ConsensusHttpProxy S))) (system : System S)
    (reached : run (System.step (preparing C)) (System.start slot storeHash queueCursor latestBeaconSlot) events =
      some system) :
    (∀ window ∈ system.windows, ∃ outputs, consensusMptProgram C window.proofInputs = .ok outputs ∧
      Predicts window window.inputSlot window.proofInputs.storeHash window.proofInputs.queueStorage.inputCursor
        outputs ∧
      Validated window.inputSlot outputs.outputSlot outputs.nextSyncCommitteeHash ∧
      ∃ folded, rebuildRequestsRoot C (BridgeHead.verifiedRequests window.proofInputs.queueStorage) = .ok folded ∧
        folded.toBytes = outputs.verifiedRequestsRoot) ∧
    ∀ job ∈ system.proving, ∃ window ∈ system.windows, system.bridge.proverJobs = [(job.1, window)] ∧
      job.2 = window.proofInputs := by
  have kept := provenance_run reached
  constructor
  · intro window member
    have prepared := Provenance.window kept member
    rcases Prepared.predicts prepared with ⟨outputs, accepted, predicts, valid⟩
    exact ⟨outputs, accepted, predicts, valid, Prepared.rebuilds prepared accepted⟩
  · intro job member
    have held : ∃ token, TokenInvariant system token :=
      reachable_invariant (fun _ _ _ held stepped => tokenInvariant_step held stepped)
        ⟨_, tokenInvariant_start slot storeHash queueCursor latestBeaconSlot⟩ reached
    rcases held with ⟨token, held⟩
    rcases List.mem_iff_getElem?.mp member with ⟨position, running⟩
    rcases tokenAt_running held.placed running with ⟨window, _, sameInputs, _, _, _, jobs, _, _⟩
    have only : system.bridge.proverJobs = [(job.1, window)] := jobs
    refine ⟨window, ?_, only, sameInputs⟩
    simp [System.windows, only]

theorem windows_accepted_sample : ∃ (system : System Minimal.spec) (window : ProofInputsWithWindow Minimal.spec)
    (outputs : ProofOutputs),
    run (System.step (preparing Sample.known.crypto)) pipelineStart (stagingEvents ++ advancingEvents) = some system ∧
    system.bridge.proverJobs.map Prod.snd = [window] ∧ system.proving.map Prod.snd = [window.proofInputs] ∧
    consensusMptProgram Sample.known.crypto window.proofInputs = .ok outputs ∧
    window.inputSlot < outputs.outputSlot := by
  have reaches : (run (System.step (preparing Sample.known.crypto)) pipelineStart
      (stagingEvents ++ advancingEvents)).any (fun system => system.proving.length = 1) = true := by decide +kernel
  rcases (Option.any_eq_true _ _).mp reaches with ⟨system, reached, one⟩
  rcases List.length_eq_one_iff.mp (of_decide_eq_true one) with ⟨job, proving⟩
  rcases windows_accepted Sample.known.crypto 64 Sample.syncedStoreHash0 0 96 _ system reached with
    ⟨accepts, proves⟩
  rcases proves job (by simp [proving]) with ⟨window, held, jobs, sameInputs⟩
  rcases accepts window held with ⟨outputs, accepted, _, valid, _⟩
  refine ⟨system, window, outputs, reached, ?_, ?_, accepted, valid.progress⟩
  · rw [jobs]
    rfl
  · rw [proving, ← sameInputs]
    rfl

/-- Every output that the detector expects is the program's output on a prepared window, so what is prepared next
    continues the state that some accepted window ends in. -/
theorem next_windows_follow (C : Crypto) {S : ConsensusSpec} (slot : UInt64) (storeHash : B256)
    (queueCursor latestBeaconSlot : UInt64) (events : List (SystemEvent (ConsensusHttpProxy S))) (system : System S)
    (reached : run (System.step (preparing C)) (System.start slot storeHash queueCursor latestBeaconSlot) events =
      some system) :
    (∀ update ∈ system.expectations, Expected C S update) ∧
    ∀ window ∈ system.nextWindows, ∃ (earlier : ProofInputsWithWindow S) (before after : ProofOutputs),
      Prepared C earlier ∧ consensusMptProgram C earlier.proofInputs = .ok before ∧
      consensusMptProgram C window.proofInputs = .ok after ∧ after.inputStoreHash = before.outputStoreHash ∧
      after.inputQueueCursor = before.outputQueueCursor ∧ earlier.inputSlot < before.outputSlot ∧
      before.outputSlot < after.outputSlot := by
  have kept := provenance_run reached
  refine ⟨fun update member => Provenance.expectation kept member, ?_⟩
  intro window member
  rcases Provenance.nextWindow kept member with ⟨prepared, earlier, before, preparedEarlier, ran, started⟩
  rcases Prepared.predicts prepared with ⟨after, accepted, predicts, valid⟩
  rcases Prepared.predicts preparedEarlier with ⟨other, again, _, validEarlier⟩
  cases ran.symm.trans again
  have slots : window.inputSlot = before.outputSlot := congrArg FinalityChangeDetectorUpdate.slot started
  have hashes : window.proofInputs.storeHash = before.outputStoreHash :=
    congrArg FinalityChangeDetectorUpdate.storeHash started
  have cursors : window.proofInputs.queueStorage.inputCursor = before.outputQueueCursor :=
    congrArg FinalityChangeDetectorUpdate.queueCursor started
  refine ⟨earlier, before, after, preparedEarlier, ran, accepted, ?_, ?_, validEarlier.progress, ?_⟩
  · rw [predicts.inputStoreHash, hashes]
  · rw [predicts.inputQueueCursor, cursors]
  · rw [← slots]
    exact valid.progress

theorem next_windows_follow_sample : ∃ (system : System Minimal.spec) (window : ProofInputsWithWindow Minimal.spec)
    (after : ProofOutputs),
    run (System.step (preparing Sample.known.crypto)) pipelineStart (stagingEvents ++ advancingEvents) = some system ∧
    system.observer.latestNextWindowValidatedProofInput = some window ∧
    consensusMptProgram Sample.known.crypto window.proofInputs = .ok after ∧
    ∃ before : ProofOutputs, after.inputStoreHash = before.outputStoreHash ∧ before.outputSlot < after.outputSlot := by
  have reaches : (run (System.step (preparing Sample.known.crypto)) pipelineStart
      (stagingEvents ++ advancingEvents)).any (fun system =>
        system.observer.latestNextWindowValidatedProofInput.isSome) = true := by decide +kernel
  rcases (Option.any_eq_true _ _).mp reaches with ⟨system, reached, cached⟩
  rcases Option.isSome_iff_exists.mp cached with ⟨window, present⟩
  have follows := (next_windows_follow Sample.known.crypto 64 Sample.syncedStoreHash0 0 96 _ system reached).2
  rcases follows window (by simp [System.nextWindows, present]) with
    ⟨_, before, after, _, _, accepted, hashes, _, _, forward⟩
  exact ⟨system, window, after, reached, present, accepted, before, hashes, forward⟩

section Messages

theorem attestation_start (slot : UInt64) (storeHash : B256) (queueCursor latestBeaconSlot : UInt64) :
    Attestation C (System.start (S := S) slot storeHash queueCursor latestBeaconSlot) where
  messages := by simp [System.pendingEvents, System.start, BridgeHead.notice, BridgeHeadSend.event?]
  results := by simp [System.start]

theorem attestation_frame (kept : Attestation C system)
    (fewer : ∀ message, .proofMessage message ∈ next.pendingEvents → .proofMessage message ∈ system.pendingEvents)
    (results : next.jobResults = system.jobResults)
    (jobs : ∀ job ∈ system.bridge.proverJobs, job ∈ next.bridge.proverJobs) : Attestation C next := by
  constructor
  · intro message member
    exact kept.messages message (fewer message member)
  · rw [results]
    intro jobId publicValues member
    rcases kept.results jobId publicValues member with ⟨window, outputs, running, accepted⟩
    exact ⟨window, outputs, jobs _ running, accepted⟩

theorem attestation_observerHandles (kept : Attestation C system) (stepped : system.observerHandles = some next) :
    Attestation C next := by
  rcases observerHandles_cases stepped with ⟨event, events, _, pending, outcome⟩
  rcases outcome with ⟨observer, commands, _, rfl⟩ | ⟨_, rfl⟩ <;>
  · apply attestation_frame kept
    · intro message member
      rw [pendingEvents_cons pending]
      exact List.mem_cons_of_mem _ member
    · rfl
    · exact fun _ running => running

theorem attestation_bridgeSends (kept : Attestation C system) (stepped : system.bridgeSendsNext = some next) :
    Attestation C next := by
  rcases bridgeSends_cases stepped with ⟨send, rest, pending, ⟨event, rfl, rfl⟩ | ⟨update, rfl, rfl⟩ |
    ⟨update, rfl, rfl⟩⟩ <;>
  · apply attestation_frame kept
    · intro message member
      simpa [System.pendingEvents, pending, BridgeHeadSend.event?, List.filterMap_cons] using member
    · rfl
    · exact fun _ running => running

theorem attestation_bridgeHandlesFinality (kept : Attestation C system)
    (stepped : system.bridgeHandlesFinality = some next) : Attestation C next := by
  rcases bridgeHandlesFinality_cases stepped with ⟨dual, finalityOutput, quiet, _, rfl⟩
  apply attestation_frame kept
  · intro message member
    simpa [System.pendingEvents, BridgeHead.onBeaconFinalityChange, BridgeHead.notice, BridgeHeadSend.event?, quiet]
      using member
  · rfl
  · exact fun _ running => running

theorem attestation_bridgeHandlesCommand (kept : Attestation C system) (held : TokenInvariant system token)
    (stepped : system.bridgeHandlesCommand = some next) : Attestation C next := by
  rcases bridgeHandlesCommand_cases stepped with ⟨command, commands, quiet, pending, rfl⟩
  cases command with
  | advance message =>
    apply attestation_frame kept
    · intro message member
      simpa [System.pendingEvents, BridgeHead.onCommand, BridgeHead.advance, BridgeHead.notice,
        BridgeHeadSend.event?, quiet] using member
    · rfl
    · exact fun _ running => running
  | stageTransitionProof window =>
    apply attestation_frame kept
    · intro message member
      simpa [System.pendingEvents, BridgeHead.onCommand, BridgeHead.stageTransitionProof, BridgeHead.notice,
        BridgeHeadSend.event?, quiet] using member
    · rfl
    · -- a window is staged only while no job is at the prover
      have placed := held.placed
      simp only [System.tokenView, System.pendingCommands, pending, List.cons_append] at placed
      rcases tokenAt_command placed with ⟨_, other, _⟩ | ⟨_, _, _, _, _, _, noJobs, _⟩
      · cases other
      · intro job running
        rw [noJobs] at running
        cases running

/-- A job result publishes a message only for a proof, and then that of the window of its job. -/
theorem onJobResult_message {bridge bridge' : BridgeHead S} {result : ProverJobResult}
    {sends : List (BridgeHeadSend S)} {message : ProofMessage}
    (handled : bridge.onJobResult result = .ok (bridge', sends))
    (sent : .proofMessage message ∈ sends.filterMap BridgeHeadSend.event?) :
    ∃ jobId publicValues window outputs, result = .proved jobId publicValues ∧
      bridge.proverJobs.lookup jobId = some window ∧ ProofOutputs.fromBytes publicValues = .ok outputs ∧
      message = { window.message outputs with publicValues := publicValues } := by
  cases result with
  | proved jobId publicValues =>
    simp only [BridgeHead.onJobResult, BridgeHead.handleProverSuccess, bind_ok_iff, expect_ok_iff,
      fromResult_ok_iff, pure_ok_iff, Prod.mk.injEq] at handled
    rcases handled with ⟨window, found, outputs, decoded, _, rfl⟩
    simp only [BridgeHead.notice, BridgeHeadSend.event?, List.filterMap_cons, List.filterMap_nil, List.mem_cons,
      reduceCtorEq, BridgeHeadEvent.proofMessage.injEq, List.not_mem_nil, or_false, false_or] at sent
    exact ⟨jobId, publicValues, window, outputs, rfl, found, decoded, sent⟩
  | failed jobId error =>
    simp only [BridgeHead.onJobResult, BridgeHead.handleProverFailure, bind_ok_iff, pure_ok_iff,
      Prod.mk.injEq] at handled
    rcases handled with ⟨window, _, _, rfl⟩
    simp [BridgeHead.notice, BridgeHeadSend.event?] at sent

theorem attestation_bridgeHandlesJobResult (kept : Attestation C system) (prepared : Provenance C system)
    (held : TokenInvariant system token) (stepped : system.bridgeHandlesJobResult = some next) :
    Attestation C next := by
  rcases bridgeHandlesJobResult_cases stepped with ⟨result, jobResults, quiet, pending, outcome⟩
  have placed := held.placed
  simp only [System.tokenView, pending] at placed
  rcases tokenAt_result placed with ⟨window, _, _, _, _, _, jobs, _, rfl⟩
  rcases outcome with ⟨bridge, sends, handled, rfl⟩ | ⟨_, rfl⟩
  · constructor
    · intro message member
      rcases List.mem_append.mp member with old | new
      · apply kept.messages message
        rw [pendingEvents_ready quiet]
        exact old
      · rcases onJobResult_message handled new with ⟨jobId, publicValues, found, outputs, rfl, looked, decoded, rfl⟩
        rcases kept.results jobId publicValues (by simp [pending]) with ⟨proved, committed, running, accepted, rfl⟩
        have only : system.bridge.proverJobs = [(jobId, window)] := jobs
        rw [only] at looked running
        cases List.lookup_cons_self.symm.trans looked
        cases List.mem_singleton.mp running
        rw [fromBytes_toBytes] at decoded
        cases decoded
        exact ⟨window, outputs, prepared.jobs (jobId, window) (by simp [only]), accepted, rfl⟩
    · intro jobId publicValues member
      cases member
  · constructor
    · exact kept.messages
    · intro jobId publicValues member
      cases member

theorem attestation_proverEnds (kept : Attestation C system) {position : Nat} {result : UInt64 → ProverJobResult}
    (stepped : system.proverEnds position result = some next)
    (attested : ∀ job, system.proving[position]? = some job → ∀ jobId publicValues,
      result job.1 = .proved jobId publicValues → ∃ window outputs, (jobId, window) ∈ system.bridge.proverJobs ∧
        consensusMptProgram C window.proofInputs = .ok outputs ∧ publicValues = outputs.toBytes) :
    Attestation C next := by
  rcases proverEnds_cases stepped with ⟨job, running, rfl⟩
  constructor
  · exact kept.messages
  · intro jobId publicValues member
    rcases List.mem_append.mp member with old | new
    · exact kept.results jobId publicValues old
    · exact attested job running jobId publicValues (List.mem_singleton.mp new).symm

theorem honest_accepted {position : Nat} {outputs : ProofOutputs} {job : UInt64 × ProofInputs S}
    (honest : system.provesTheProgram (β := ConsensusHttpProxy S) C (.proverProves position outputs) = true)
    (running : system.proving[position]? = some job) : consensusMptProgram C job.2 = .ok outputs := by
  simp only [System.provesTheProgram, running, Option.all_some, decide_eq_true_eq] at honest
  cases ran : consensusMptProgram C job.2 with
  | error failure =>
    rw [ran] at honest
    cases honest
  | ok returned =>
    rw [ran] at honest
    rw [Option.some.inj honest]

theorem attestation_proverProves (kept : Attestation C system) (held : TokenInvariant system token) {position : Nat}
    {outputs : ProofOutputs}
    (honest : system.provesTheProgram (β := ConsensusHttpProxy S) C (.proverProves position outputs) = true)
    (stepped : system.proverEnds position (fun jobId => .proved jobId outputs.toBytes) = some next) :
    Attestation C next := by
  apply attestation_proverEnds kept stepped
  intro job running jobId publicValues same
  cases same
  rcases tokenAt_running held.placed running with ⟨window, _, sameInputs, _, _, _, jobs, _, _⟩
  have only : system.bridge.proverJobs = [(job.1, window)] := jobs
  refine ⟨window, outputs, by simp [only], ?_, rfl⟩
  rw [← sameInputs]
  exact honest_accepted honest running

theorem attestation_step {event : SystemEvent (ConsensusHttpProxy S)} (kept : Attestation C system)
    (prepared : Provenance C system) (held : TokenInvariant system token)
    (honest : system.provesTheProgram C event = true) (stepped : system.step (preparing C) event = some next) :
    Attestation C next := by
  cases event with
  | observerHandles => exact attestation_observerHandles kept stepped
  | observerSends =>
    rcases observerSends_cases stepped with ⟨_, _, _, rfl⟩
    exact { kept with }
  | bridgeHandlesFinality => exact attestation_bridgeHandlesFinality kept stepped
  | bridgeHandlesCommand => exact attestation_bridgeHandlesCommand kept held stepped
  | bridgeHandlesJobResult => exact attestation_bridgeHandlesJobResult kept prepared held stepped
  | bridgeSends => exact attestation_bridgeSends kept stepped
  | proverProves position outputs => exact attestation_proverProves kept held honest stepped
  | proverFails position error =>
    have ended : system.proverEnds position (fun jobId => .failed jobId error) = some next := stepped
    apply attestation_proverEnds kept ended
    intro job _ jobId publicValues same
    cases same
  | detectorHandlesStage =>
    rcases detectorHandlesStage_cases stepped with ⟨_, _, _, _, rfl⟩
    exact { kept with }
  | detectorHandlesAdvance =>
    rcases detectorHandlesAdvance_cases stepped with ⟨_, _, _, _, rfl⟩
    exact { kept with }
  | detectorTicks =>
    rcases detectorTicks_cases stepped with ⟨_, rfl⟩
    exact { kept with }
  | detectorHandlesResult providers =>
    rcases detectorHandlesResult_cases stepped with ⟨_, _, _, _, rfl⟩
    exact { kept with }
  | detectorSends =>
    rcases detectorSends_cases stepped with ⟨_, _, rfl⟩
    exact { kept with }

theorem attestation_run {slot : UInt64} {storeHash : B256} {queueCursor latestBeaconSlot : UInt64}
    {events : List (SystemEvent (ConsensusHttpProxy S))}
    (along : Along (System.step (preparing C)) (fun state event => state.provesTheProgram C event = true)
      (System.start slot storeHash queueCursor latestBeaconSlot) events)
    (reached : run (System.step (preparing C)) (System.start slot storeHash queueCursor latestBeaconSlot) events =
      some system) : Attestation C system := by
  have kept : Attestation C system ∧ Provenance C system ∧ ∃ token, TokenInvariant system token := by
    apply run_invariant ?_ ?_ along reached
    · intro state event after kept honest stepped
      rcases kept with ⟨attested, prepared, token, held⟩
      exact ⟨attestation_step attested prepared held honest stepped, provenance_step prepared stepped,
        tokenInvariant_step ⟨token, held⟩ stepped⟩
    · exact ⟨attestation_start slot storeHash queueCursor latestBeaconSlot,
        provenance_start slot storeHash queueCursor latestBeaconSlot, _,
        tokenInvariant_start slot storeHash queueCursor latestBeaconSlot⟩
  exact kept.1

theorem Attested.accounts {message : ProofMessage} (attested : Attested C S message) :
    ProofOutputs.fromBytes message.publicValues = .ok message.outputs ∧ message.outputSlot % 32 = 0 ∧
      ∃ folded, rebuildRequestsRoot C message.verifiedRequests = .ok folded ∧
        folded.toBytes = message.verifiedRequestsRoot := by
  rcases attested with ⟨window, outputs, prepared, accepted, rfl⟩
  rcases Prepared.predicts prepared with ⟨_, again, _, valid⟩
  cases accepted.symm.trans again
  exact ⟨fromBytes_toBytes outputs, valid.checkpoint, Prepared.rebuilds prepared accepted⟩

/-- With a prover that proves the program, every message under way to the observer is that of an accepted run: its
    plain fields are those of its public values and its requests fold to its root. -/
theorem published_messages_attested (C : Crypto) {S : ConsensusSpec} (slot : UInt64) (storeHash : B256)
    (queueCursor latestBeaconSlot : UInt64) (events : List (SystemEvent (ConsensusHttpProxy S))) (system : System S)
    (along : Along (System.step (preparing C)) (fun state event => state.provesTheProgram C event = true)
      (System.start slot storeHash queueCursor latestBeaconSlot) events)
    (reached : run (System.step (preparing C)) (System.start slot storeHash queueCursor latestBeaconSlot) events =
      some system) (message : ProofMessage) (pending : .proofMessage message ∈ system.pendingEvents) :
    (∃ proofInputs : ProofInputs S, consensusMptProgram C proofInputs = .ok message.outputs ∧
      message.verifiedRequests = BridgeHead.verifiedRequests proofInputs.queueStorage) ∧
    ProofOutputs.fromBytes message.publicValues = .ok message.outputs ∧ message.outputSlot % 32 = 0 ∧
    ∃ folded, rebuildRequestsRoot C message.verifiedRequests = .ok folded ∧
      folded.toBytes = message.verifiedRequestsRoot := by
  have attested := (attestation_run along reached).messages message pending
  refine ⟨?_, Attested.accounts attested⟩
  rcases attested with ⟨window, outputs, _, accepted, rfl⟩
  exact ⟨window.proofInputs, accepted, rfl⟩

def provingEvents : List (SystemEvent (ConsensusHttpProxy Minimal.spec)) :=
  [.proverProves 0 firstOutputs, .bridgeHandlesJobResult, .bridgeSends]

/-- What is checked of a message that the run publishes. -/
theorem message_published {events : List (SystemEvent (ConsensusHttpProxy Minimal.spec))} {check : ProofMessage → Bool}
    (publishes : (run (guarded (System.step (preparing Sample.known.crypto)) fun state event =>
      state.provesTheProgram Sample.known.crypto event) pipelineStart events).any
      (fun system => system.pendingEvents.any fun event => event.message?.any check) = true) :
    ∃ (system : System Minimal.spec) (message : ProofMessage),
      run (System.step (preparing Sample.known.crypto)) pipelineStart events = some system ∧
      Along (System.step (preparing Sample.known.crypto))
        (fun state event => state.provesTheProgram Sample.known.crypto event = true) pipelineStart events ∧
      .proofMessage message ∈ system.pendingEvents ∧ check message = true := by
  rcases (Option.any_eq_true _ _).mp publishes with ⟨system, guardedRun, found⟩
  rcases run_guarded (fun _ _ proves => proves) guardedRun with ⟨reached, along⟩
  rcases List.any_eq_true.mp found with ⟨event, pending, carried⟩
  rcases (Option.any_eq_true _ _).mp carried with ⟨message, same, checked⟩
  cases event with
  | noticeMessage notice => cases same
  | proofMessage other =>
    cases same
    exact ⟨system, message, reached, along, pending, checked⟩

theorem provingEvents_publish : ∃ (system : System Minimal.spec) (message : ProofMessage),
    run (System.step (preparing Sample.known.crypto)) pipelineStart (stagingEvents ++ provingEvents) = some system ∧
    Along (System.step (preparing Sample.known.crypto))
      (fun state event => state.provesTheProgram Sample.known.crypto event = true) pipelineStart
      (stagingEvents ++ provingEvents) ∧
    .proofMessage message ∈ system.pendingEvents ∧ message.outputs = firstOutputs ∧
    message.verifiedRequests.length = 1 := by
  have reaches : (run (guarded (System.step (preparing Sample.known.crypto)) fun state event =>
      state.provesTheProgram Sample.known.crypto event) pipelineStart (stagingEvents ++ provingEvents)).any
      (fun system => system.pendingEvents.any fun event => event.message?.any fun message =>
        message.outputs = firstOutputs && message.verifiedRequests.length = 1) = true := by decide +kernel
  rcases message_published reaches with ⟨system, message, reached, along, pending, facts⟩
  simp only [Bool.and_eq_true, decide_eq_true_eq] at facts
  exact ⟨system, message, reached, along, pending, facts⟩

theorem published_messages_attested_sample : ∃ (system : System Minimal.spec) (message : ProofMessage) (folded : Fp),
    run (System.step (preparing Sample.known.crypto)) pipelineStart (stagingEvents ++ provingEvents) = some system ∧
    .proofMessage message ∈ system.pendingEvents ∧ message.outputs = firstOutputs ∧
    rebuildRequestsRoot Sample.known.crypto message.verifiedRequests = .ok folded ∧
    folded.toBytes = firstOutputs.verifiedRequestsRoot := by
  rcases provingEvents_publish with ⟨system, message, reached, along, pending, first, _⟩
  rcases published_messages_attested Sample.known.crypto 64 Sample.syncedStoreHash0 0 96 _ system along reached
    message pending with ⟨_, _, _, folded, rebuilt, rooted⟩
  have root : message.verifiedRequestsRoot = firstOutputs.verifiedRequestsRoot :=
    congrArg ProofOutputs.verifiedRequestsRoot first
  exact ⟨system, message, folded, reached, pending, first, rebuilt, rooted.trans root⟩

end Messages

end NoriProof
