import NoriBridgeHead.BridgeHead.Observer

open Foundation Foundation.Transition

namespace NoriModel

def commandCapacity : Nat := 2
def jobCapacity : Nat := 2
def eventCapacity : Nat := 16
def updateCapacity : Nat := 1
def finalityCapacity : Nat := 1

/-- The tasks of a running bridge head and the bounded channels between them. Each task that sends holds
    what it has still to send and handles nothing else until that is done. -/
structure System (S : ConsensusSpec) where
  observer : Observer S
  observerStopped : Bool
  observerSends : List (Command S)
  commands : List (Command S)
  bridge : BridgeHead S
  bridgeStopped : Bool
  bridgeSends : List (BridgeHeadSend S)
  events : List (BridgeHeadEvent S)
  proving : List (UInt64 × ProofInputs S)
  jobResults : List ProverJobResult
  stageUpdates : List FinalityChangeDetectorUpdate
  advanceUpdates : List FinalityChangeDetectorUpdate
  detector : Detector
  detectorSends : Option (DualProofInputsWithWindow S)
  validating : List FinalityChangeDetectorJobInput
  finalityOutput : List (DualProofInputsWithWindow S)

/-- One step of one task. `β` is what the providers do while two windows are prepared. -/
inductive SystemEvent (β : Type) where
  | observerHandles
  | observerSends
  | bridgeHandlesFinality
  | bridgeHandlesCommand
  | bridgeHandlesJobResult
  | bridgeSends
  | proverProves (position : Nat) (outputs : ProofOutputs)
  | proverFails (position : Nat) (error : String)
  | detectorHandlesStage
  | detectorHandlesAdvance
  | detectorTicks
  | detectorHandlesResult (providers : β × β)
  | detectorSends

namespace System

variable {S : ConsensusSpec} {β : Type}

/-- The state in which `run` enters its loop: the first thing it sends is the started notice. -/
def start (slot : UInt64) (storeHash : B256) (queueCursor latestBeaconSlot : UInt64) : System S where
  observer := Observer.new
  observerStopped := false
  observerSends := []
  commands := []
  bridge := {
    currentSlot := slot
    nextSlot := latestBeaconSlot
    jobId := 0
    proverJobs := []
    storeHash := storeHash
    queueCursor := queueCursor }
  bridgeStopped := false
  bridgeSends := [BridgeHead.notice (.started ⟨latestBeaconSlot, slot, storeHash, queueCursor⟩)]
  events := []
  proving := []
  jobResults := []
  stageUpdates := []
  advanceUpdates := []
  detector := Detector.start slot storeHash queueCursor none
  detectorSends := none
  validating := []
  finalityOutput := []

def bridgeReady (system : System S) : Bool := !system.bridgeStopped && system.bridgeSends.isEmpty

def spawned (bridge : BridgeHead S) : Command S → List (UInt64 × ProofInputs S)
  | .stageTransitionProof window => [(bridge.jobId, window.proofInputs)]
  | .advance _ => []

def observerHandles (system : System S) : Option (System S) :=
  match system.observerStopped, system.observerSends, system.events with
  | false, [], event :: events =>
    match system.observer.onEvent event with
    | .ok (observer, commands) =>
      some { system with observer := observer, observerSends := commands, events := events }
    | .error _ => some { system with observerStopped := true, events := events }
  | _, _, _ => none

def observerSendsNext (system : System S) : Option (System S) :=
  match system.observerSends with
  | [] => none
  | command :: rest =>
    if system.commands.length < commandCapacity then
      some { system with observerSends := rest, commands := system.commands ++ [command] }
    else none

def bridgeHandlesFinality (system : System S) : Option (System S) :=
  match system.bridgeReady, system.finalityOutput with
  | true, event :: finalityOutput =>
    let (bridge, sends) := system.bridge.onBeaconFinalityChange event
    some { system with bridge := bridge, bridgeSends := sends, finalityOutput := finalityOutput }
  | _, _ => none

def bridgeHandlesCommand (system : System S) : Option (System S) :=
  match system.bridgeReady, system.commands with
  | true, command :: commands =>
    let (bridge, sends) := system.bridge.onCommand command
    some { system with
      bridge := bridge
      bridgeSends := sends
      commands := commands
      proving := system.proving ++ spawned bridge command }
  | _, _ => none

/-- A job is removed before its public values are decoded, and the loop breaks where they do not decode. -/
def bridgeHandlesJobResult (system : System S) : Option (System S) :=
  match system.bridgeReady, system.jobResults with
  | true, result :: jobResults =>
    match system.bridge.onJobResult result with
    | .ok (bridge, sends) =>
      some { system with bridge := bridge, bridgeSends := sends, jobResults := jobResults }
    | .error _ => some { system with
      bridge := system.bridge.removeJob result.jobId
      bridgeStopped := true
      jobResults := jobResults }
  | _, _ => none

def bridgeSendsNext (system : System S) : Option (System S) :=
  match system.bridgeSends with
  | [] => none
  | .event event :: rest =>
    if system.events.length < eventCapacity then
      some { system with bridgeSends := rest, events := system.events ++ [event] }
    else none
  | .stageUpdate update :: rest =>
    if system.stageUpdates.length < updateCapacity then
      some { system with bridgeSends := rest, stageUpdates := system.stageUpdates ++ [update] }
    else none
  | .advanceUpdate update :: rest =>
    if system.advanceUpdates.length < updateCapacity then
      some { system with bridgeSends := rest, advanceUpdates := system.advanceUpdates ++ [update] }
    else none

def proverEnds (system : System S) (position : Nat) (result : UInt64 → ProverJobResult) : Option (System S) :=
  match system.proving[position]? with
  | none => none
  | some job =>
    if system.jobResults.length < jobCapacity then
      some { system with
        proving := system.proving.eraseIdx position
        jobResults := system.jobResults ++ [result job.1] }
    else none

def detectorReacts (system : System S) (validating : List FinalityChangeDetectorJobInput) (reaction : Reaction S) :
    System S :=
  { system with
    detector := reaction.detector
    detectorSends := reaction.emitted
    validating := validating ++ reaction.job.toList }

def detectorHandlesStage (system : System S) : Option (System S) :=
  match system.detectorSends, system.stageUpdates with
  | none, update :: stageUpdates =>
    some { system with detector := system.detector.onStage update, stageUpdates := stageUpdates }
  | _, _ => none

def detectorHandlesAdvance (system : System S) : Option (System S) :=
  match system.detectorSends, system.advanceUpdates with
  | none, update :: advanceUpdates =>
    some { system with detector := system.detector.onAdvance update, advanceUpdates := advanceUpdates }
  | _, _ => none

def detectorTicks (system : System S) : Option (System S) :=
  match system.detectorSends with
  | none => some (system.detectorReacts system.validating system.detector.onTick)
  | some _ => none

/-- A panic ends the validation actor, and no result comes of its job. -/
def detectorHandlesResult (prepare : Prepare S β) (system : System S) (providers : β × β) : Option (System S) :=
  match system.detectorSends, system.validating with
  | none, job :: validating =>
    match actorResult prepare providers job with
    | none => none
    | some result =>
      some (system.detectorReacts validating (system.detector.onResult (Outcome.fromResult result)))
  | _, _ => none

def detectorSendsNext (system : System S) : Option (System S) :=
  match system.detectorSends with
  | none => none
  | some dual =>
    if system.finalityOutput.length < finalityCapacity then
      some { system with detectorSends := none, finalityOutput := system.finalityOutput ++ [dual] }
    else none

/-- The public values of a proof are the bytes of some outputs, as the program commits them. What becomes of other
    public values is in `HeadRun`, and what becomes of the tasks after a panic in `Process`. -/
def step (prepare : Prepare S β) (system : System S) : SystemEvent β → Option (System S)
  | .observerHandles => system.observerHandles
  | .observerSends => system.observerSendsNext
  | .bridgeHandlesFinality => system.bridgeHandlesFinality
  | .bridgeHandlesCommand => system.bridgeHandlesCommand
  | .bridgeHandlesJobResult => system.bridgeHandlesJobResult
  | .bridgeSends => system.bridgeSendsNext
  | .proverProves position outputs => system.proverEnds position fun jobId => .proved jobId outputs.toBytes
  | .proverFails position error => system.proverEnds position fun jobId => .failed jobId error
  | .detectorHandlesStage => system.detectorHandlesStage
  | .detectorHandlesAdvance => system.detectorHandlesAdvance
  | .detectorTicks => system.detectorTicks
  | .detectorHandlesResult providers => system.detectorHandlesResult prepare providers
  | .detectorSends => system.detectorSendsNext

end System

end NoriModel

namespace NoriProof

open NoriModel

variable {S : ConsensusSpec} {β : Type} {system next : System S}

theorem bridgeReady_iff : system.bridgeReady = true ↔ system.bridgeStopped = false ∧ system.bridgeSends = [] := by
  simp [System.bridgeReady, List.isEmpty_iff]

theorem observerHandles_cases (stepped : system.observerHandles = some next) :
    ∃ event events, system.observerSends = [] ∧ system.events = event :: events ∧
      ((∃ observer commands, system.observer.onEvent event = .ok (observer, commands) ∧
          next = { system with observer := observer, observerSends := commands, events := events }) ∨
        ((∃ failure, system.observer.onEvent event = .error failure) ∧
          next = { system with observerStopped := true, events := events })) := by
  unfold System.observerHandles at stepped
  split at stepped
  · rename_i event events _ sends pending
    refine ⟨event, events, sends, pending, ?_⟩
    cases handled : system.observer.onEvent event with
    | ok result =>
      rw [handled] at stepped
      exact .inl ⟨result.1, result.2, rfl, (Option.some.inj stepped).symm⟩
    | error failure =>
      rw [handled] at stepped
      exact .inr ⟨⟨failure, rfl⟩, (Option.some.inj stepped).symm⟩
  · cases stepped

theorem observerSends_cases (stepped : system.observerSendsNext = some next) :
    ∃ command rest, system.observerSends = command :: rest ∧
      next = { system with observerSends := rest, commands := system.commands ++ [command] } := by
  unfold System.observerSendsNext at stepped
  split at stepped
  · cases stepped
  · rename_i command rest pending
    split at stepped
    · exact ⟨command, rest, pending, (Option.some.inj stepped).symm⟩
    · cases stepped

theorem bridgeHandlesFinality_cases (stepped : system.bridgeHandlesFinality = some next) :
    ∃ dual finalityOutput, system.bridgeSends = [] ∧ system.finalityOutput = dual :: finalityOutput ∧
      next = { system with
        bridge := (system.bridge.onBeaconFinalityChange dual).1
        bridgeSends := (system.bridge.onBeaconFinalityChange dual).2
        finalityOutput := finalityOutput } := by
  unfold System.bridgeHandlesFinality at stepped
  split at stepped
  · rename_i dual finalityOutput ready pending
    exact ⟨dual, finalityOutput, (bridgeReady_iff.mp ready).2, pending, (Option.some.inj stepped).symm⟩
  · cases stepped

theorem bridgeHandlesCommand_cases (stepped : system.bridgeHandlesCommand = some next) :
    ∃ command commands, system.bridgeSends = [] ∧ system.commands = command :: commands ∧
      next = { system with
        bridge := (system.bridge.onCommand command).1
        bridgeSends := (system.bridge.onCommand command).2
        commands := commands
        proving := system.proving ++ System.spawned (system.bridge.onCommand command).1 command } := by
  unfold System.bridgeHandlesCommand at stepped
  split at stepped
  · rename_i command commands ready pending
    exact ⟨command, commands, (bridgeReady_iff.mp ready).2, pending, (Option.some.inj stepped).symm⟩
  · cases stepped

theorem bridgeHandlesJobResult_cases (stepped : system.bridgeHandlesJobResult = some next) :
    ∃ result jobResults, system.bridgeSends = [] ∧ system.jobResults = result :: jobResults ∧
      ((∃ bridge sends, system.bridge.onJobResult result = .ok (bridge, sends) ∧
          next = { system with bridge := bridge, bridgeSends := sends, jobResults := jobResults }) ∨
        ((∃ failure, system.bridge.onJobResult result = .error failure) ∧
          next = { system with
            bridge := system.bridge.removeJob result.jobId
            bridgeStopped := true
            jobResults := jobResults })) := by
  unfold System.bridgeHandlesJobResult at stepped
  split at stepped
  · rename_i result jobResults ready pending
    refine ⟨result, jobResults, (bridgeReady_iff.mp ready).2, pending, ?_⟩
    cases handled : system.bridge.onJobResult result with
    | ok answer =>
      rw [handled] at stepped
      exact .inl ⟨answer.1, answer.2, rfl, (Option.some.inj stepped).symm⟩
    | error failure =>
      rw [handled] at stepped
      exact .inr ⟨⟨failure, rfl⟩, (Option.some.inj stepped).symm⟩
  · cases stepped

theorem bridgeSends_cases (stepped : system.bridgeSendsNext = some next) :
    ∃ send rest, system.bridgeSends = send :: rest ∧
      ((∃ event, send = .event event ∧
          next = { system with bridgeSends := rest, events := system.events ++ [event] }) ∨
        (∃ update, send = .stageUpdate update ∧
          next = { system with bridgeSends := rest, stageUpdates := system.stageUpdates ++ [update] }) ∨
        ∃ update, send = .advanceUpdate update ∧
          next = { system with bridgeSends := rest, advanceUpdates := system.advanceUpdates ++ [update] }) := by
  unfold System.bridgeSendsNext at stepped
  split at stepped
  · cases stepped
  all_goals
    rename_i content rest pending
    split at stepped
    · refine ⟨_, rest, pending, ?_⟩
      simp only [Option.some.injEq] at stepped
      simp [← stepped]
    · cases stepped

theorem proverEnds_cases {position : Nat} {result : UInt64 → ProverJobResult}
    (stepped : system.proverEnds position result = some next) :
    ∃ job, system.proving[position]? = some job ∧
      next = { system with
        proving := system.proving.eraseIdx position
        jobResults := system.jobResults ++ [result job.1] } := by
  unfold System.proverEnds at stepped
  split at stepped
  · cases stepped
  · rename_i job running
    split at stepped
    · exact ⟨job, running, (Option.some.inj stepped).symm⟩
    · cases stepped

theorem detectorHandlesStage_cases (stepped : system.detectorHandlesStage = some next) :
    ∃ update stageUpdates, system.detectorSends = none ∧ system.stageUpdates = update :: stageUpdates ∧
      next = { system with detector := system.detector.onStage update, stageUpdates := stageUpdates } := by
  unfold System.detectorHandlesStage at stepped
  split at stepped
  · rename_i update stageUpdates idle pending
    exact ⟨update, stageUpdates, idle, pending, (Option.some.inj stepped).symm⟩
  · cases stepped

theorem detectorHandlesAdvance_cases (stepped : system.detectorHandlesAdvance = some next) :
    ∃ update advanceUpdates, system.detectorSends = none ∧ system.advanceUpdates = update :: advanceUpdates ∧
      next = { system with detector := system.detector.onAdvance update, advanceUpdates := advanceUpdates } := by
  unfold System.detectorHandlesAdvance at stepped
  split at stepped
  · rename_i update advanceUpdates idle pending
    exact ⟨update, advanceUpdates, idle, pending, (Option.some.inj stepped).symm⟩
  · cases stepped

theorem detectorTicks_cases (stepped : system.detectorTicks = some next) :
    system.detectorSends = none ∧ next = system.detectorReacts system.validating system.detector.onTick := by
  unfold System.detectorTicks at stepped
  split at stepped
  · rename_i idle
    exact ⟨idle, (Option.some.inj stepped).symm⟩
  · cases stepped

theorem detectorHandlesResult_cases {prepare : Prepare S β} {providers : β × β}
    (stepped : system.detectorHandlesResult prepare providers = some next) :
    ∃ job validating, system.detectorSends = none ∧ system.validating = job :: validating ∧
      next = system.detectorReacts validating
        (system.detector.onResult (validateAndPrepareProofInputs prepare providers job)) := by
  unfold System.detectorHandlesResult at stepped
  split at stepped
  · rename_i job validating idle pending
    split at stepped
    · cases stepped
    · rename_i result answered
      rw [← actorResult_eq_some answered] at stepped
      exact ⟨job, validating, idle, pending, (Option.some.inj stepped).symm⟩
  · cases stepped

theorem detectorSends_cases (stepped : system.detectorSendsNext = some next) :
    ∃ dual, system.detectorSends = some dual ∧
      next = { system with detectorSends := none, finalityOutput := system.finalityOutput ++ [dual] } := by
  unfold System.detectorSendsNext at stepped
  split at stepped
  · cases stepped
  · rename_i dual pending
    split at stepped
    · exact ⟨dual, pending, (Option.some.inj stepped).symm⟩
    · cases stepped

/-- Only the handling of an event can end the observer. -/
theorem step_observerStops {prepare : Prepare S β} {event : SystemEvent β}
    (stepped : system.step prepare event = some next) :
    event = .observerHandles ∨ next.observerStopped = system.observerStopped := by
  cases event with
  | observerHandles => exact .inl rfl
  | observerSends =>
    rcases observerSends_cases stepped with ⟨_, _, _, rfl⟩
    exact .inr rfl
  | bridgeHandlesFinality =>
    rcases bridgeHandlesFinality_cases stepped with ⟨_, _, _, _, rfl⟩
    exact .inr rfl
  | bridgeHandlesCommand =>
    rcases bridgeHandlesCommand_cases stepped with ⟨_, _, _, _, rfl⟩
    exact .inr rfl
  | bridgeHandlesJobResult =>
    rcases bridgeHandlesJobResult_cases stepped with ⟨_, _, _, _, ⟨_, _, _, rfl⟩ | ⟨_, rfl⟩⟩
    · exact .inr rfl
    · exact .inr rfl
  | bridgeSends =>
    rcases bridgeSends_cases stepped with ⟨_, _, _, ⟨_, _, rfl⟩ | ⟨_, _, rfl⟩ | ⟨_, _, rfl⟩⟩
    · exact .inr rfl
    · exact .inr rfl
    · exact .inr rfl
  | proverProves position outputs =>
    have ended : system.proverEnds position (fun jobId => .proved jobId outputs.toBytes) = some next := stepped
    rcases proverEnds_cases ended with ⟨_, _, rfl⟩
    exact .inr rfl
  | proverFails position error =>
    have ended : system.proverEnds position (fun jobId => .failed jobId error) = some next := stepped
    rcases proverEnds_cases ended with ⟨_, _, rfl⟩
    exact .inr rfl
  | detectorHandlesStage =>
    rcases detectorHandlesStage_cases stepped with ⟨_, _, _, _, rfl⟩
    exact .inr rfl
  | detectorHandlesAdvance =>
    rcases detectorHandlesAdvance_cases stepped with ⟨_, _, _, _, rfl⟩
    exact .inr rfl
  | detectorTicks =>
    rcases detectorTicks_cases stepped with ⟨_, rfl⟩
    exact .inr rfl
  | detectorHandlesResult providers =>
    rcases detectorHandlesResult_cases stepped with ⟨_, _, _, _, rfl⟩
    exact .inr rfl
  | detectorSends =>
    rcases detectorSends_cases stepped with ⟨_, _, rfl⟩
    exact .inr rfl

section DetectorProjection

variable {prepare : Prepare S β}

/-- The other tasks leave the detector alone, and what it does itself is one pass of its own loop. -/
theorem step_detector {event : SystemEvent β} (stepped : system.step prepare event = some next)
    {state : DetectorRun S} (sameDetector : state.detector = system.detector)
    (sameJobs : state.validating = system.validating) :
    ∃ passes after, run (DetectorRun.step prepare) state passes = some after ∧ after.detector = next.detector ∧
      after.validating = next.validating := by
  cases event with
  | observerHandles =>
    rcases observerHandles_cases stepped with ⟨_, _, _, _, ⟨_, _, _, rfl⟩ | ⟨_, rfl⟩⟩
    · exact ⟨[], state, rfl, sameDetector, sameJobs⟩
    · exact ⟨[], state, rfl, sameDetector, sameJobs⟩
  | observerSends =>
    rcases observerSends_cases stepped with ⟨_, _, _, rfl⟩
    exact ⟨[], state, rfl, sameDetector, sameJobs⟩
  | bridgeHandlesFinality =>
    rcases bridgeHandlesFinality_cases stepped with ⟨_, _, _, _, rfl⟩
    exact ⟨[], state, rfl, sameDetector, sameJobs⟩
  | bridgeHandlesCommand =>
    rcases bridgeHandlesCommand_cases stepped with ⟨_, _, _, _, rfl⟩
    exact ⟨[], state, rfl, sameDetector, sameJobs⟩
  | bridgeHandlesJobResult =>
    rcases bridgeHandlesJobResult_cases stepped with ⟨_, _, _, _, ⟨_, _, _, rfl⟩ | ⟨_, rfl⟩⟩
    · exact ⟨[], state, rfl, sameDetector, sameJobs⟩
    · exact ⟨[], state, rfl, sameDetector, sameJobs⟩
  | bridgeSends =>
    rcases bridgeSends_cases stepped with ⟨_, _, _, ⟨_, _, rfl⟩ | ⟨_, _, rfl⟩ | ⟨_, _, rfl⟩⟩
    · exact ⟨[], state, rfl, sameDetector, sameJobs⟩
    · exact ⟨[], state, rfl, sameDetector, sameJobs⟩
    · exact ⟨[], state, rfl, sameDetector, sameJobs⟩
  | proverProves position outputs =>
    have ended : system.proverEnds position (fun jobId => .proved jobId outputs.toBytes) = some next := stepped
    rcases proverEnds_cases ended with ⟨_, _, rfl⟩
    exact ⟨[], state, rfl, sameDetector, sameJobs⟩
  | proverFails position error =>
    have ended : system.proverEnds position (fun jobId => .failed jobId error) = some next := stepped
    rcases proverEnds_cases ended with ⟨_, _, rfl⟩
    exact ⟨[], state, rfl, sameDetector, sameJobs⟩
  | detectorSends =>
    rcases detectorSends_cases stepped with ⟨_, _, rfl⟩
    exact ⟨[], state, rfl, sameDetector, sameJobs⟩
  | detectorHandlesStage =>
    rcases detectorHandlesStage_cases stepped with ⟨update, _, _, _, rfl⟩
    refine ⟨[.stage update], _, rfl, ?_, sameJobs⟩
    rw [← sameDetector]
  | detectorHandlesAdvance =>
    rcases detectorHandlesAdvance_cases stepped with ⟨update, _, _, _, rfl⟩
    refine ⟨[.advance update], _, rfl, ?_, sameJobs⟩
    rw [← sameDetector]
  | detectorTicks =>
    rcases detectorTicks_cases stepped with ⟨_, rfl⟩
    refine ⟨[.tick], _, rfl, ?_, ?_⟩
    · rw [← sameDetector]
      rfl
    · rw [← sameDetector, ← sameJobs]
      rfl
  | detectorHandlesResult providers =>
    rcases detectorHandlesResult_cases stepped with ⟨job, validating, _, pending, rfl⟩
    have pass : state.step prepare (.result providers) = some (state.after validating
        (state.detector.onResult (validateAndPrepareProofInputs prepare providers job))) := by
      simp only [DetectorRun.step, sameJobs, pending]
    refine ⟨[.result providers], _, run_cons_iff.mpr ⟨_, pass, rfl⟩, ?_, ?_⟩
    · rw [sameDetector]
      rfl
    · rw [sameDetector]
      rfl

/-- Every run of the system holds a run of the detector. -/
theorem run_detector {start : System S} {events : List (SystemEvent β)}
    (reached : run (System.step prepare) start events = some system) {state : DetectorRun S}
    (sameDetector : state.detector = start.detector) (sameJobs : state.validating = start.validating) :
    ∃ passes after, run (DetectorRun.step prepare) state passes = some after ∧ after.detector = system.detector ∧
      after.validating = system.validating := by
  induction events generalizing start state with
  | nil =>
    cases reached
    exact ⟨[], state, rfl, sameDetector, sameJobs⟩
  | cons event events ih =>
    rcases run_cons_iff.mp reached with ⟨middle, stepped, rest⟩
    rcases step_detector stepped sameDetector sameJobs with ⟨first, between, before, detector, jobs⟩
    rcases ih rest detector jobs with ⟨second, after, later, sameEnd, sameEndJobs⟩
    exact ⟨first ++ second, after, run_append.mpr ⟨between, before, later⟩, sameEnd, sameEndJobs⟩

end DetectorProjection

end NoriProof
