import NoriBridgeHead.BridgeHead.Progress
import NoriBridgeHead.BridgeHead.Restarts

open Foundation Foundation.Outcome Foundation.Transition

namespace NoriModel

variable {S : ConsensusSpec}

def ProofInputsWithWindow.expected (window : ProofInputsWithWindow S) : FinalityChangeDetectorUpdate :=
  ⟨window.expectedOutputSlot, window.expectedOutputStoreHash, BridgeHead.expectedOutputQueueCursor window⟩

namespace System

/-- Where the detector will stand once it has read every advance. -/
def toldPosition (system : System S) : FinalityChangeDetectorUpdate :=
  system.pendingAdvances.getLast?.getD system.detector.position

/-- What the detector will expect once it has read every staging. -/
def toldExpected (system : System S) : Option FinalityChangeDetectorUpdate :=
  system.pendingStages.getLast?.or system.detector.nextExpectedOutput

/-- The observer waits for a finality change, or will once it has read that the event loop has started. -/
def Waits (system : System S) : Prop :=
  system.observer.stageTransitionProof = true ∨ ∃ data, .noticeMessage (.started data) ∈ system.pendingEvents

end System

/-- The two channels to the detector carry all that the event loop has done, in whatever order they are read. -/
structure Informed (system : System S) : Prop where
  position : system.toldPosition = system.bridge.position
  job : ∀ job ∈ system.bridge.proverJobs, system.toldExpected = some job.2.expected
  proof : ∀ message, .proofMessage message ∈ system.pendingEvents → system.toldExpected = some message.output
  idle : system.Waits → ∀ update, system.toldExpected = some update → update.slot = system.head.slot

/-- What holds of the pipeline while the prover proves the program and the observer stages from the head. -/
structure Coherent (C : Crypto) (system : System S) : Prop where
  informed : Informed system
  prepared : Provenance C system
  attested : Attestation C system
  contiguous : ∃ head token, Contiguous C head system ∧ TokenInvariant system token

end NoriModel

namespace NoriProof

open NoriModel

variable {C : Crypto} {S : ConsensusSpec} {system next : System S} {token : Token S}
  {head : FinalityChangeDetectorUpdate}

theorem informed_start (slot : UInt64) (storeHash : B256) (queueCursor latestBeaconSlot : UInt64) :
    Informed (System.start (S := S) slot storeHash queueCursor latestBeaconSlot) where
  position := rfl
  job := by simp [System.start]
  proof := by simp [System.pendingEvents, System.start, BridgeHead.notice, BridgeHeadSend.event?]
  idle := by
    intro _ update told
    cases told

theorem informed_frame (kept : Informed system) (position : next.toldPosition = system.toldPosition)
    (expected : next.toldExpected = system.toldExpected) (stands : next.bridge.position = system.bridge.position)
    (jobs : ∀ job ∈ next.bridge.proverJobs, job ∈ system.bridge.proverJobs)
    (proofs : ∀ message, .proofMessage message ∈ next.pendingEvents → .proofMessage message ∈ system.pendingEvents)
    (waits : next.Waits → system.Waits) (sameHead : next.head = system.head) : Informed next := by
  constructor
  · rw [position, stands]
    exact kept.position
  · rw [expected]
    exact fun job member => kept.job job (jobs job member)
  · rw [expected]
    exact fun message member => kept.proof message (proofs message member)
  · rw [expected, sameHead]
    exact fun waiting => kept.idle (waits waiting)

section Detector

theorem getLast_or {α : Type} (first : α) (rest : List α) (known : Option α) :
    (first :: rest).getLast?.or known = rest.getLast?.or (some first) := by
  rw [List.getLast?_cons]
  cases rest.getLast? <;> rfl

theorem getLast_getD {α : Type} (first : α) (rest : List α) (known : α) :
    (first :: rest).getLast?.getD known = rest.getLast?.getD first := by
  rw [List.getLast?_cons]
  rfl

theorem informed_detectorHandlesStage (kept : Informed system) (stepped : system.detectorHandlesStage = some next) :
    Informed next := by
  rcases detectorHandlesStage_cases stepped with ⟨update, stageUpdates, _, pending, rfl⟩
  refine informed_frame kept rfl ?_ rfl (fun _ member => member) (fun _ member => member) (fun waits => waits) rfl
  simp only [System.toldExpected, System.pendingStages, pending, List.cons_append, getLast_or]
  rfl

theorem toldExpected_advance {update : FinalityChangeDetectorUpdate}
    {advanceUpdates : List FinalityChangeDetectorUpdate}
    (after : next = { system with
      detector := system.detector.onAdvance update, advanceUpdates := advanceUpdates }) :
    next.toldExpected = system.toldExpected ∨
      next.toldExpected = none ∧ ∃ expected, system.toldExpected = some expected ∧ expected.slot = update.slot := by
  subst after
  simp only [System.toldExpected, System.pendingStages, Detector.onAdvance]
  generalize (system.stageUpdates ++ system.bridgeSends.filterMap BridgeHeadSend.stageUpdate?).getLast? = last
  cases last with
  | some update => exact .inl rfl
  | none =>
    cases known : system.detector.nextExpectedOutput with
    | none => exact .inl rfl
    | some expected =>
      by_cases same : expected.slot = update.slot
      · simp [same]
      · simp [same]

theorem Behind.not_later {position update : FinalityChangeDetectorUpdate} (behind : Behind position update)
    (later : position.slot < update.slot) : False := by
  rcases behind with earlier | rfl
  · exact UInt64.lt_irrefl _ (UInt64.lt_trans later earlier)
  · exact UInt64.lt_irrefl _ later

theorem Prepared.forward {window : ProofInputsWithWindow S} (prepared : Prepared C window) :
    window.inputSlot < window.expectedOutputSlot := by
  rcases Prepared.predicts prepared with ⟨outputs, _, predicts, validated⟩
  rw [← predicts.outputSlot]
  exact validated.progress

/-- What is expected of a job, and the output of a proof, lies beyond every advance under way. -/
theorem informed_detectorHandlesAdvance (kept : Informed system) (contiguous : Contiguous C head system)
    (prepared : Provenance C system) (stepped : system.detectorHandlesAdvance = some next) : Informed next := by
  rcases detectorHandlesAdvance_cases stepped with ⟨update, advanceUpdates, _, pending, after⟩
  have behind : Behind head update := contiguous.advances update (by simp [System.pendingAdvances, pending])
  have apart : ∀ expected, system.toldExpected = some expected → head.slot < expected.slot →
      next.toldExpected = some expected := by
    intro expected told later
    rcases toldExpected_advance after with same | ⟨_, other, again, slot⟩
    · rw [same, told]
    · cases told.symm.trans again
      rw [slot] at later
      exact (Behind.not_later behind later).elim
  have fewer : ∀ expected, next.toldExpected = some expected → system.toldExpected = some expected := by
    intro expected told
    rcases toldExpected_advance after with same | ⟨none, _⟩
    · rw [← same, told]
    · rw [none] at told
      cases told
  subst after
  constructor
  · have last := kept.position
    rw [System.toldPosition, System.pendingAdvances, pending, List.cons_append, getLast_getD] at last
    exact last
  · intro job member
    apply apart _ (kept.job job member)
    have start := (contiguous.jobs job member).1
    have forward := Prepared.forward (prepared.jobs job member)
    rw [← start]
    exact forward
  · intro message member
    have follows : Follows head message.inputStoreHash message.inputQueueCursor message.outputSlot :=
      contiguous.events (.proofMessage message) member
    exact apart _ (kept.proof message member) follows.forward
  · intro waits expected told
    exact kept.idle waits expected (fewer expected told)

theorem informed_reacts (kept : Informed system) (validating : List FinalityChangeDetectorJobInput)
    {reaction : Reaction S} (stands : reaction.detector.position = system.detector.position)
    (expects : reaction.detector.nextExpectedOutput = system.detector.nextExpectedOutput) :
    Informed (system.detectorReacts validating reaction) := by
  refine informed_frame kept ?_ ?_ rfl (fun _ member => member) (fun _ member => member) (fun waits => waits) rfl
  · show system.pendingAdvances.getLast?.getD reaction.detector.position = _
    rw [stands]
    rfl
  · show system.pendingStages.getLast?.or reaction.detector.nextExpectedOutput = _
    rw [expects]
    rfl

theorem informed_detectorTicks (kept : Informed system) (stepped : system.detectorTicks = some next) :
    Informed next := by
  rcases detectorTicks_cases stepped with ⟨_, rfl⟩
  rcases onTick_cases (S := S) system.detector with ⟨_, same⟩ | ⟨_, same⟩
  · rw [same]
    exact informed_reacts kept _ rfl rfl
  · rw [same]
    exact informed_reacts kept _ rfl rfl

theorem informed_detectorHandlesResult {β : Type} {prepare : Prepare S β} {providers : β × β} (kept : Informed system)
    (stepped : system.detectorHandlesResult prepare providers = some next) : Informed next := by
  rcases detectorHandlesResult_cases stepped with ⟨job, validating, _, _, rfl⟩
  rcases onResult_cases system.detector (validateAndPrepareProofInputs prepare providers job) with
    same | ⟨_, same⟩ | ⟨_, _, _, _, _, ⟨_, same⟩ | ⟨_, same⟩⟩
  all_goals
    rw [same]
    exact informed_reacts kept _ rfl rfl

end Detector

section Bridge

theorem informed_bridgeHandlesFinality (kept : Informed system) (stepped : system.bridgeHandlesFinality = some next) :
    Informed next := by
  rcases bridgeHandlesFinality_cases stepped with ⟨dual, finalityOutput, quiet, _, rfl⟩
  refine informed_frame kept ?_ ?_ rfl (fun _ member => member) ?_ ?_ rfl
  · simp [System.toldPosition, System.pendingAdvances, quiet, BridgeHead.onBeaconFinalityChange, BridgeHead.notice,
      BridgeHeadSend.advanceUpdate?]
  · simp [System.toldExpected, System.pendingStages, quiet, BridgeHead.onBeaconFinalityChange, BridgeHead.notice,
      BridgeHeadSend.stageUpdate?]
  · simp [System.pendingEvents, quiet, BridgeHead.onBeaconFinalityChange, BridgeHead.notice, BridgeHeadSend.event?]
  · simp [System.Waits, System.pendingEvents, quiet, BridgeHead.onBeaconFinalityChange, BridgeHead.notice,
      BridgeHeadSend.event?]

theorem informed_bridgeSends (kept : Informed system) (stepped : system.bridgeSendsNext = some next) :
    Informed next := by
  rcases bridgeSends_cases stepped with ⟨send, rest, pending, outcome⟩
  rcases outcome with ⟨event, rfl, rfl⟩ | ⟨update, rfl, rfl⟩ | ⟨update, rfl, rfl⟩
  all_goals
    refine informed_frame kept ?_ ?_ rfl (fun _ member => member) ?_ ?_ rfl
    · simp [System.toldPosition, System.pendingAdvances, pending, BridgeHeadSend.advanceUpdate?]
    · simp [System.toldExpected, System.pendingStages, pending, BridgeHeadSend.stageUpdate?]
    · simp [System.pendingEvents, pending, BridgeHeadSend.event?]
    · simp [System.Waits, System.pendingEvents, pending, BridgeHeadSend.event?]

theorem informed_advances (kept : Informed system) {message : AdvanceMessage} {commands : List (Command S)}
    (quiet : system.bridgeSends = []) (pending : system.commands = .advance message :: commands)
    (stepped : system.bridgeHandlesCommand = some next) : Informed next := by
  rcases bridgeHandlesCommand_cases stepped with ⟨command, rest, _, again, after⟩
  cases pending.symm.trans again
  have stages : system.pendingStages = system.stageUpdates := by simp [System.pendingStages, quiet]
  have events : system.pendingEvents = system.events := pendingEvents_ready quiet
  have expected : next.toldExpected = system.toldExpected := by
    rw [System.toldExpected, System.toldExpected, stages, after]
    show (system.stageUpdates ++ []).getLast?.or _ = _
    rw [List.append_nil]
  constructor
  · rw [after]
    show (system.advanceUpdates ++ [_]).getLast?.getD _ = _
    rw [List.getLast?_concat]
    rfl
  · rw [expected, after]
    exact kept.job
  · rw [expected, after]
    intro message member
    apply kept.proof message
    rw [events]
    simpa [System.pendingEvents, BridgeHead.onCommand, BridgeHead.advance, BridgeHead.notice, BridgeHeadSend.event?]
      using member
  · rw [expected, after]
    intro waits update told
    have waiting : system.Waits := by
      rw [System.Waits, events]
      simpa [System.Waits, System.pendingEvents, BridgeHead.onCommand, BridgeHead.advance, BridgeHead.notice,
        BridgeHeadSend.event?] using waits
    have same := kept.idle waiting update told
    rw [System.head, System.pendingCommands, pending] at same
    exact same

theorem informed_stages {window : ProofInputsWithWindow S} {commands : List (Command S)} (kept : Informed system)
    (held : TokenInvariant system token) (quiet : system.bridgeSends = [])
    (pending : system.commands = .stageTransitionProof window :: commands)
    (stepped : system.bridgeHandlesCommand = some next) : Informed next := by
  rcases bridgeHandlesCommand_cases stepped with ⟨command, rest, _, again, rfl⟩
  cases pending.symm.trans again
  have placed := held.placed
  simp only [System.tokenView, System.pendingCommands, pending, pendingEvents_ready quiet, List.cons_append] at placed
  rcases tokenAt_command placed with ⟨_, other, _⟩ | ⟨_, _, _, noEvents, noFlag, _, noJobs, _, _⟩
  · cases other
  have unread : ∀ event, BridgeHeadEvent.carriesToken event = true → event ∉ system.events := by
    intro event carries member
    have kept : event ∈ system.events.filter BridgeHeadEvent.carriesToken := List.mem_filter.mpr ⟨member, carries⟩
    rw [noEvents] at kept
    cases kept
  constructor
  · have last := kept.position
    rw [System.toldPosition, System.pendingAdvances, quiet] at last
    exact last
  · intro job member
    have only : job = (system.bridge.jobId + 1, window) := by
      simpa [BridgeHead.onCommand, BridgeHead.stageTransitionProof, BridgeHead.insertJob, noJobs] using member
    rw [only]
    show (system.stageUpdates ++ [_]).getLast?.or _ = _
    rw [List.getLast?_concat]
    rfl
  · intro message member
    have read : .proofMessage message ∈ system.events := by
      simpa [System.pendingEvents, BridgeHead.onCommand, BridgeHead.stageTransitionProof, BridgeHead.notice,
        BridgeHeadSend.event?] using member
    exact absurd read (unread _ rfl)
  · rintro (flag | ⟨data, member⟩)
    · cases noFlag.symm.trans flag
    · have read : .noticeMessage (.started data) ∈ system.events := by
        simpa [System.pendingEvents, BridgeHead.onCommand, BridgeHead.stageTransitionProof, BridgeHead.notice,
          BridgeHeadSend.event?] using member
      exact absurd read (unread _ rfl)

theorem informed_bridgeHandlesCommand (kept : Informed system) (held : TokenInvariant system token)
    (stepped : system.bridgeHandlesCommand = some next) : Informed next := by
  rcases bridgeHandlesCommand_cases stepped with ⟨command, commands, quiet, pending, _⟩
  cases command with
  | advance message => exact informed_advances kept quiet pending stepped
  | stageTransitionProof window => exact informed_stages kept held quiet pending stepped

theorem onJobResult_tells {bridge bridge' : BridgeHead S} {result : ProverJobResult}
    {sends : List (BridgeHeadSend S)} (handled : bridge.onJobResult result = .ok (bridge', sends)) :
    sends.filterMap BridgeHeadSend.advanceUpdate? = [] ∧ sends.filterMap BridgeHeadSend.stageUpdate? = [] ∧
      bridge'.position = bridge.position ∧
      ∀ data, .noticeMessage (.started data) ∉ sends.filterMap BridgeHeadSend.event? := by
  cases result with
  | proved jobId publicValues =>
    simp only [BridgeHead.onJobResult, BridgeHead.handleProverSuccess, bind_ok_iff, pure_ok_iff,
      Prod.mk.injEq] at handled
    rcases handled with ⟨_, _, _, _, rfl, rfl⟩
    refine ⟨rfl, rfl, rfl, ?_⟩
    simp [BridgeHead.notice, BridgeHeadSend.event?]
  | failed jobId error =>
    simp only [BridgeHead.onJobResult, BridgeHead.handleProverFailure, bind_ok_iff, pure_ok_iff,
      Prod.mk.injEq] at handled
    rcases handled with ⟨_, _, rfl, rfl⟩
    refine ⟨rfl, rfl, rfl, ?_⟩
    simp [BridgeHead.notice, BridgeHeadSend.event?]

theorem Prepared.output {window : ProofInputsWithWindow S} {outputs : ProofOutputs} (prepared : Prepared C window)
    (accepted : consensusMptProgram C window.proofInputs = .ok outputs) : outputs.position = window.expected := by
  rcases Prepared.predicts prepared with ⟨_, again, predicts, _⟩
  cases accepted.symm.trans again
  rw [ProofOutputs.position, predicts.outputSlot, predicts.outputStoreHash, predicts.restaged]
  rfl

theorem proved_expected {result : ProverJobResult} {jobResults : List ProverJobResult} {bridge : BridgeHead S}
    {sends : List (BridgeHeadSend S)} {message : ProofMessage} {window : ProofInputsWithWindow S}
    (prepared : Provenance C system) (attested : Attestation C system)
    (pending : system.jobResults = result :: jobResults)
    (only : system.bridge.proverJobs = [(result.jobId, window)])
    (handled : system.bridge.onJobResult result = .ok (bridge, sends))
    (new : .proofMessage message ∈ sends.filterMap BridgeHeadSend.event?) : message.output = window.expected := by
  rcases onJobResult_message handled new with ⟨jobId, publicValues, found, outputs, rfl, looked, decoded, rfl⟩
  have result : .proved jobId publicValues ∈ system.jobResults := by simp [pending]
  rcases attested.results jobId publicValues result with ⟨proved, committed, running, accepted, rfl⟩
  have booked := prepared.jobs _ running
  rw [only] at looked running
  cases List.lookup_cons_self.symm.trans looked
  cases List.mem_singleton.mp running
  rw [fromBytes_toBytes] at decoded
  cases decoded
  exact Prepared.output booked accepted

theorem informed_bridgeHandlesJobResult (kept : Informed system) (held : TokenInvariant system token)
    (prepared : Provenance C system) (attested : Attestation C system)
    (stepped : system.bridgeHandlesJobResult = some next) : Informed next := by
  rcases bridgeHandlesJobResult_cases stepped with ⟨result, jobResults, quiet, pending, outcome⟩
  have placed := held.placed
  simp only [System.tokenView, pending] at placed
  rcases tokenAt_result placed with ⟨window, _, _, _, noFlag, _, jobs, _, _⟩
  have events : system.pendingEvents = system.events := pendingEvents_ready quiet
  rcases outcome with ⟨bridge, sends, handled, after⟩ | ⟨_, rfl⟩
  · rcases onJobResult_tells handled with ⟨noAdvance, noStage, stands, notStarted⟩
    have expected : next.toldExpected = system.toldExpected := by
      rw [after]
      simp [System.toldExpected, System.pendingStages, quiet, noStage]
    constructor
    · have last := kept.position
      rw [after]
      simp only [System.toldPosition, System.pendingAdvances, noAdvance, quiet, List.filterMap_nil, stands] at last ⊢
      exact last
    · rw [expected, after]
      intro job member
      exact kept.job job ((onJobResult_frame (C := C) handled).1 job member)
    · rw [expected, after]
      intro message member
      rcases List.mem_append.mp member with old | new
      · rw [← events] at old
        exact kept.proof message old
      · rw [proved_expected prepared attested pending jobs handled new]
        exact kept.job (result.jobId, window) (by simp [jobs])
    · have sameHead : next.head = system.head := by
        rw [after]
        simp only [System.head, System.pendingCommands, stands]
      rw [expected, sameHead, after]
      rintro (flag | ⟨data, member⟩)
      · cases noFlag.symm.trans flag
      · rcases List.mem_append.mp member with old | new
        · rw [← events] at old
          exact kept.idle (.inr ⟨data, old⟩)
        · exact absurd new (notStarted data)
  · exact informed_frame kept rfl rfl rfl (fun _ member => mem_removeJob member) (fun _ member => member)
      (fun waits => waits) rfl

end Bridge

section Observer

/-- Only the start of the event loop lets the observer wait again without a proof. -/
theorem notice_waits {observer observer' : Observer S} {notice : TransitionNotice S} {commands : List (Command S)}
    (handled : observer.onEvent (.noticeMessage notice) = .ok (observer', commands))
    (waits : observer'.stageTransitionProof = true) :
    observer.stageTransitionProof = true ∨ ∃ data, notice = .started data := by
  cases notice with
  | started data => exact .inr ⟨data, rfl⟩
  | finalityTransitionDetected data =>
    rcases onFinalityTransitionDetected_cases observer data with ⟨_, noted⟩ | ⟨_, noted⟩
    · cases noted.symm.trans handled
      exact .inl waits
    · cases noted.symm.trans handled
      cases waits
  | jobFailed data =>
    simp only [Observer.onEvent, Observer.onBridgeHeadTransitionNotice] at handled
    split at handled
    · split at handled
      · cases handled
        exact .inl waits
      · cases handled
    · cases handled
      exact .inl waits
  | _ =>
    cases handled
    exact .inl waits

theorem informed_proof {message : ProofMessage} {events : List (BridgeHeadEvent S)} (kept : Informed system)
    (contiguous : Contiguous C head system) (held : TokenInvariant system token)
    (pending : system.events = .proofMessage message :: events) (stepped : system.observerHandles = some next) :
    Informed next := by
  rcases proof_alone contiguous held pending with ⟨_, noJobs, _, _, alone⟩
  have taken : system.taken (.observerHandles : SystemEvent (ConsensusHttpProxy S)) = some message := by
    simp [System.taken, pending, BridgeHeadEvent.message?]
  have atOutput : next.head = message.output := head_taken (C := C) taken stepped held
  have told := kept.proof message (pendingEvents_first pending)
  rcases observerHandles_token held stepped with ⟨read, rest, observer, commands, _, again, _, rfl⟩
  cases pending.symm.trans again
  constructor
  · exact kept.position
  · exact kept.job
  · intro other member
    cases alone _ member
  · intro _ update expected
    cases told.symm.trans expected
    rw [atOutput]

theorem informed_notice {notice : TransitionNotice S} {events : List (BridgeHeadEvent S)} (kept : Informed system)
    (held : TokenInvariant system token) (pending : system.events = .noticeMessage notice :: events)
    (stepped : system.observerHandles = some next) : Informed next := by
  rcases observerHandles_token held stepped with ⟨read, rest, observer, commands, idle, again, handled, rfl⟩
  cases pending.symm.trans again
  have fewer : ∀ event ∈ events ++ system.bridgeSends.filterMap BridgeHeadSend.event?,
      event ∈ system.pendingEvents := by
    intro event member
    rw [pendingEvents_cons pending]
    exact List.mem_cons_of_mem _ member
  refine informed_frame kept rfl rfl rfl (fun _ member => member) (fun _ member => fewer _ member) ?_ ?_
  · rintro (flag | ⟨data, member⟩)
    · rcases notice_waits handled flag with waits | ⟨data, rfl⟩
      · exact .inl waits
      · exact .inr ⟨data, pendingEvents_first pending⟩
    · exact .inr ⟨data, fewer _ member⟩
  · simp only [System.head, System.pendingCommands, idle, List.append_nil, List.foldl_append]
    exact moves_stages _ (notice_stages handled)

theorem informed_observerHandles (kept : Informed system) (contiguous : Contiguous C head system)
    (held : TokenInvariant system token) (stepped : system.observerHandles = some next) : Informed next := by
  rcases observerHandles_token held stepped with ⟨read, events, _, _, _, pending, _, _⟩
  cases read with
  | proofMessage message => exact informed_proof kept contiguous held pending stepped
  | noticeMessage notice => exact informed_notice kept held pending stepped

theorem informed_observerSends (kept : Informed system) (stepped : system.observerSendsNext = some next) :
    Informed next := by
  rcases observerSends_cases stepped with ⟨command, rest, pending, rfl⟩
  refine informed_frame kept rfl rfl rfl (fun _ member => member) (fun _ member => member) (fun waits => waits) ?_
  simp [System.head, System.pendingCommands, pending]

end Observer

section Runs

theorem informed_proverEnds {position : Nat} {result : UInt64 → ProverJobResult} (kept : Informed system)
    (ended : system.proverEnds position result = some next) : Informed next := by
  rcases proverEnds_cases ended with ⟨_, _, rfl⟩
  exact informed_frame kept rfl rfl rfl (fun _ member => member) (fun _ member => member) (fun waits => waits) rfl

theorem informed_detectorSends (kept : Informed system) (stepped : system.detectorSendsNext = some next) :
    Informed next := by
  rcases detectorSends_cases stepped with ⟨_, _, rfl⟩
  exact informed_frame kept rfl rfl rfl (fun _ member => member) (fun _ member => member) (fun waits => waits) rfl

theorem informed_step {event : SystemEvent (ConsensusHttpProxy S)} (kept : Informed system)
    (contiguous : Contiguous C head system) (held : TokenInvariant system token) (prepared : Provenance C system)
    (attested : Attestation C system) (stepped : system.step (preparing C) event = some next) : Informed next := by
  cases event with
  | observerHandles => exact informed_observerHandles kept contiguous held stepped
  | observerSends => exact informed_observerSends kept stepped
  | bridgeHandlesFinality => exact informed_bridgeHandlesFinality kept stepped
  | bridgeHandlesCommand => exact informed_bridgeHandlesCommand kept held stepped
  | bridgeHandlesJobResult => exact informed_bridgeHandlesJobResult kept held prepared attested stepped
  | bridgeSends => exact informed_bridgeSends kept stepped
  | proverProves position outputs =>
    have ended : system.proverEnds position (fun jobId => .proved jobId outputs.toBytes) = some next := stepped
    exact informed_proverEnds kept ended
  | proverFails position error =>
    have ended : system.proverEnds position (fun jobId => .failed jobId error) = some next := stepped
    exact informed_proverEnds kept ended
  | detectorHandlesStage => exact informed_detectorHandlesStage kept stepped
  | detectorHandlesAdvance => exact informed_detectorHandlesAdvance kept contiguous prepared stepped
  | detectorTicks => exact informed_detectorTicks kept stepped
  | detectorHandlesResult providers => exact informed_detectorHandlesResult kept stepped
  | detectorSends => exact informed_detectorSends kept stepped

theorem coherent_start (slot : UInt64) (storeHash : B256) (queueCursor latestBeaconSlot : UInt64) :
    Coherent C (System.start (S := S) slot storeHash queueCursor latestBeaconSlot) where
  informed := informed_start slot storeHash queueCursor latestBeaconSlot
  prepared := provenance_start slot storeHash queueCursor latestBeaconSlot
  attested := attestation_start slot storeHash queueCursor latestBeaconSlot
  contiguous := ⟨_, _, contiguous_start slot storeHash queueCursor latestBeaconSlot,
    tokenInvariant_start slot storeHash queueCursor latestBeaconSlot⟩

theorem coherent_step {event : SystemEvent (ConsensusHttpProxy S)} (kept : Coherent C system)
    (condition : system.provesTheProgram C event = true ∧ system.stagesFromHead event = true)
    (stepped : system.step (preparing C) event = some next) : Coherent C next := by
  rcases kept with ⟨informed, prepared, attested, head, token, contiguous, held⟩
  constructor
  · exact informed_step informed contiguous held prepared attested stepped
  · exact provenance_step prepared stepped
  · exact attestation_step attested prepared held condition.1 stepped
  · exact contiguous_step ⟨head, token, contiguous, held⟩ condition stepped

/-- At rest the detector has read everything: it validates from the head, and for the running job from its output. -/
theorem Coherent.atRest (kept : Coherent C system) (rests : Resting system) :
    system.detector.jobInput = ⟨system.bridge.currentSlot, system.bridge.storeHash, system.bridge.queueCursor,
      system.bridge.proverJobs.head?.map fun job => job.2.expected⟩ := by
  rcases kept with ⟨informed, prepared, _, head, _, contiguous, _⟩
  have stands : system.detector.position = system.bridge.position := by
    have told := informed.position
    rw [System.toldPosition, System.pendingAdvances, rests.advanceUpdates, rests.bridgeSends] at told
    exact told
  have expects : system.toldExpected = system.detector.nextExpectedOutput := by
    rw [System.toldExpected, System.pendingStages, rests.stageUpdates, rests.bridgeSends]
    rfl
  have atHead : system.head = system.bridge.position := by
    rw [System.head, System.pendingCommands, rests.commands, rests.observerSends]
    rfl
  have next : filteredNext system.detector.slot system.detector.nextExpectedOutput =
      system.bridge.proverJobs.head?.map fun job => job.2.expected := by
    rcases rests.awaits with ⟨waits, noJobs, _⟩ | ⟨jobId, window, job, _⟩
    · rw [noJobs]
      apply (filteredNext_eq_none_iff _ _).mpr
      cases known : system.detector.nextExpectedOutput with
      | none => exact .inl rfl
      | some update =>
        refine .inr ⟨update, rfl, ?_⟩
        rw [informed.idle (.inl waits) update (expects.trans known), atHead, ← stands]
        rfl
    · have booked : (jobId, window) ∈ system.bridge.proverJobs := by simp [job]
      have start : window.inputSlot = system.detector.slot := by
        have fromHead := (contiguous.jobs _ booked).1
        rw [← contiguous.atHead, atHead, ← stands] at fromHead
        exact congrArg FinalityChangeDetectorUpdate.slot fromHead
      have apart : window.expected.slot ≠ system.detector.slot := by
        rw [← start]
        exact (UInt64.ne_of_lt (Prepared.forward (prepared.jobs _ booked))).symm
      rw [← expects, informed.job _ booked, job]
      simp [filteredNext, apart]
  rw [Detector.jobInput, next]
  have parts := FinalityChangeDetectorUpdate.mk.inj stands
  rw [parts.1, parts.2.1, parts.2.2]

/-- No update to the detector is lost: in every state the last one under way says where the bridge head stands, and at
    rest the next validation is from there and, while a job is proved, from what the program will commit for it. -/
theorem detector_keeps_up (C : Crypto) {S : ConsensusSpec} (slot : UInt64) (storeHash : B256)
    (queueCursor latestBeaconSlot : UInt64) (events : List (SystemEvent (ConsensusHttpProxy S))) (system : System S)
    (along : Along (System.step (preparing C))
      (fun state event => state.provesTheProgram C event = true ∧ state.stagesFromHead event = true)
      (System.start slot storeHash queueCursor latestBeaconSlot) events)
    (reached : run (System.step (preparing C)) (System.start slot storeHash queueCursor latestBeaconSlot) events =
      some system) :
    system.toldPosition = system.bridge.position ∧
    (Resting system → system.detector.jobInput = ⟨system.bridge.currentSlot, system.bridge.storeHash,
      system.bridge.queueCursor, system.bridge.proverJobs.head?.map fun job => job.2.expected⟩) ∧
    ∀ job ∈ system.bridge.proverJobs, ∃ outputs, consensusMptProgram C job.2.proofInputs = .ok outputs ∧
      outputs.position = job.2.expected := by
  have kept : Coherent C system :=
    run_invariant (fun _ _ _ kept condition stepped => coherent_step kept condition stepped)
      (coherent_start slot storeHash queueCursor latestBeaconSlot) along reached
  refine ⟨kept.informed.position, Coherent.atRest kept, ?_⟩
  intro job member
  have prepared := kept.prepared.jobs job member
  rcases Prepared.predicts prepared with ⟨outputs, accepted, _, _⟩
  exact ⟨outputs, accepted, Prepared.output prepared accepted⟩

end Runs

section Sample

open NoriModel.Sample

theorem detector_keeps_up_proving : ∃ system : System Minimal.spec,
    run (System.step (preparing known.crypto)) pipelineStart restingEvents = some system ∧
    system.detector.jobInput.slot = 64 ∧
    system.detector.jobInput.nextExpectedOutput.map FinalityChangeDetectorUpdate.slot = some 96 := by
  have reaches : (run (guarded (System.step (preparing known.crypto)) fun state event =>
      state.provesTheProgram known.crypto event && state.stagesFromHead event) pipelineStart restingEvents).any
      (fun system => system.work = 0 && (system.bridge.currentSlot = 64 &&
        system.bridge.proverJobs.map (fun job => job.2.expectedOutputSlot) = [96])) = true := by decide +kernel
  rcases (Option.any_eq_true _ _).mp reaches with ⟨system, guardedRun, facts⟩
  simp only [Bool.and_eq_true, decide_eq_true_eq] at facts
  rcases facts with ⟨done, slot, expected⟩
  rcases run_guarded (fun _ _ both => Bool.and_eq_true_iff.mp both) guardedRun with ⟨reached, along⟩
  have rests := rests_of_work (preparing known.crypto) (orderly_run reached) done
  rcases List.map_eq_singleton_iff.mp expected with ⟨job, jobs, later⟩
  have keepsUp := (detector_keeps_up known.crypto 64 syncedStoreHash0 0 96 _ system along reached).2.1 rests
  refine ⟨system, reached, ?_, ?_⟩
  · rw [keepsUp]
    exact slot
  · rw [keepsUp, jobs]
    exact congrArg some later

end Sample

end NoriProof
