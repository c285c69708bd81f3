import NoriBridgeHead.Foundation.Transition
import NoriBridgeHead.Rpcs.Fallback

open Foundation Foundation.Outcome

namespace NoriModel

structure FinalityChangeDetectorUpdate where
  slot : UInt64
  storeHash : B256
  queueCursor : UInt64
deriving DecidableEq

structure FinalityChangeDetectorJobInput where
  slot : UInt64
  storeHash : B256
  queueCursor : UInt64
  nextExpectedOutput : Option FinalityChangeDetectorUpdate
deriving DecidableEq

/-- One call of `prepare_consensus_mpt_proof_inputs`; `β` is what the providers do during it. -/
abbrev Prepare (S : ConsensusSpec) (β : Type) :=
  β → UInt64 → B256 → UInt64 → Outcome HostError (ProofInputsWithWindow S)

/-- One job of the validation actor: a failure of either window is the failure of the job. -/
def validateAndPrepareProofInputs {S : ConsensusSpec} {β : Type} (prepare : Prepare S β) (providers : β × β)
    (job : FinalityChangeDetectorJobInput) : Outcome HostError (DualProofInputsWithWindow S) :=
  match job.nextExpectedOutput with
  | some next => do
    let currentWindow ← prepare providers.1 job.slot job.storeHash job.queueCursor
    let nextWindow ← prepare providers.2 next.slot next.storeHash next.queueCursor
    pure ⟨currentWindow, some nextWindow⟩
  | none => do
    let currentWindow ← prepare providers.1 job.slot job.storeHash job.queueCursor
    pure ⟨currentWindow, none⟩

/-- What the actor sends for a job. Both windows are prepared to their end before either is looked at, so a panic
    of either ends the actor; an error of the current window is sent in place of one of the next. -/
def actorResult {S : ConsensusSpec} {β : Type} (prepare : Prepare S β) (providers : β × β)
    (job : FinalityChangeDetectorJobInput) : Option (Except HostError (DualProofInputsWithWindow S)) :=
  match job.nextExpectedOutput with
  | some next => do
    let current ← result? (prepare providers.1 job.slot job.storeHash job.queueCursor)
    let next ← result? (prepare providers.2 next.slot next.storeHash next.queueCursor)
    some do
      let currentWindow ← current
      let nextWindow ← next
      pure ⟨currentWindow, some nextWindow⟩
  | none => do
    let current ← result? (prepare providers.1 job.slot job.storeHash job.queueCursor)
    some do
      let currentWindow ← current
      pure ⟨currentWindow, none⟩

structure Detector where
  slot : UInt64
  storeHash : B256
  queueCursor : UInt64
  latestSlot : UInt64
  inFlight : Bool
  stale : Bool
  nextExpectedOutput : Option FinalityChangeDetectorUpdate
deriving DecidableEq

structure Reaction (S : ConsensusSpec) where
  detector : Detector
  job : Option FinalityChangeDetectorJobInput
  emitted : Option (DualProofInputsWithWindow S)

def filteredNext (slot : UInt64) (nextExpectedOutput : Option FinalityChangeDetectorUpdate) :
    Option FinalityChangeDetectorUpdate :=
  match nextExpectedOutput with
  | some next => if next.slot ≠ slot then some next else none
  | none => none

namespace Detector

variable {S : ConsensusSpec}

def start (slot : UInt64) (storeHash : B256) (queueCursor : UInt64)
    (pipelineInflightNextExpectedOutput : Option FinalityChangeDetectorUpdate) : Detector where
  slot := slot
  storeHash := storeHash
  queueCursor := queueCursor
  latestSlot := slot
  inFlight := false
  stale := false
  nextExpectedOutput := pipelineInflightNextExpectedOutput

def jobInput (detector : Detector) : FinalityChangeDetectorJobInput where
  slot := detector.slot
  storeHash := detector.storeHash
  queueCursor := detector.queueCursor
  nextExpectedOutput := filteredNext detector.slot detector.nextExpectedOutput

def quiet (detector : Detector) : Reaction S := ⟨detector, none, none⟩

def tryStartValidationJob (detector : Detector) : Reaction S :=
  ⟨{ detector with inFlight := true }, some detector.jobInput, none⟩

def onStage (detector : Detector) (update : FinalityChangeDetectorUpdate) : Detector :=
  { detector with
    nextExpectedOutput := some update
    stale := if detector.inFlight then true else detector.stale }

def onAdvance (detector : Detector) (update : FinalityChangeDetectorUpdate) : Detector :=
  { detector with
    slot := update.slot
    storeHash := update.storeHash
    queueCursor := update.queueCursor
    latestSlot := update.slot
    stale := if detector.inFlight then true else detector.stale
    nextExpectedOutput :=
      match detector.nextExpectedOutput with
      | some next => if next.slot = update.slot then none else some next
      | none => none }

def onResult (detector : Detector) (result : Outcome HostError (DualProofInputsWithWindow S)) : Reaction S :=
  let landed := { detector with inFlight := false }
  match result with
  | .error _ => landed.quiet
  | .ok dual =>
    if landed.stale then
      ({ landed with stale := false }).tryStartValidationJob
    else if dual.currentWindow.inputSlot ≠ landed.slot then
      landed.quiet
    else if dual.currentWindow.expectedOutputSlot ≤ landed.latestSlot then
      landed.quiet
    else
      let accepted := { landed with latestSlot := dual.currentWindow.expectedOutputSlot }
      match dual.nextWindow with
      | some nextWindow =>
        if nextWindow.expectedOutputSlot > landed.latestSlot then ⟨accepted, none, some dual⟩
        else accepted.quiet
      | none => ⟨accepted, none, some dual⟩

def onTick (detector : Detector) : Reaction S :=
  if detector.inFlight then detector.quiet else detector.tryStartValidationJob

end Detector

inductive DetectorEvent (β : Type) where
  | stage (update : FinalityChangeDetectorUpdate)
  | advance (update : FinalityChangeDetectorUpdate)
  | tick
  | result (providers : β × β)

inductive DetectorMark (S : ConsensusSpec) where
  | staged (update : FinalityChangeDetectorUpdate)
  | advanced (update : FinalityChangeDetectorUpdate)
  | started (job : FinalityChangeDetectorJobInput)
  | emitted (dual : DualProofInputsWithWindow S)

/-- The detector with the jobs that its validation actor holds, oldest first, and the record of the run. -/
structure DetectorRun (S : ConsensusSpec) where
  detector : Detector
  validating : List FinalityChangeDetectorJobInput
  marks : List (DetectorMark S)

namespace DetectorRun

variable {S : ConsensusSpec} {β : Type}

def start (detector : Detector) : DetectorRun S := ⟨detector, [], []⟩

def after (before : DetectorRun S) (validating : List FinalityChangeDetectorJobInput) (reaction : Reaction S) :
    DetectorRun S where
  detector := reaction.detector
  validating := validating ++ reaction.job.toList
  marks := before.marks ++ (reaction.job.toList.map .started ++ reaction.emitted.toList.map .emitted)

def step (prepare : Prepare S β) (before : DetectorRun S) (event : DetectorEvent β) : Option (DetectorRun S) :=
  match event with
  | .stage update =>
    some { before with
      detector := before.detector.onStage update
      marks := before.marks ++ [.staged update] }
  | .advance update =>
    some { before with
      detector := before.detector.onAdvance update
      marks := before.marks ++ [.advanced update] }
  | .tick => some (before.after before.validating before.detector.onTick)
  | .result providers =>
    match before.validating with
    | [] => none
    | job :: rest =>
      some (before.after rest (before.detector.onResult (validateAndPrepareProofInputs prepare providers job)))

end DetectorRun

end NoriModel

namespace NoriProof

open NoriModel

variable {S : ConsensusSpec} {β : Type} {prepare : Prepare S β} {providers : β × β}
  {job : FinalityChangeDetectorJobInput}

theorem actorResult_isSome_iff :
    (actorResult prepare providers job).isSome = true ↔
      (∀ message, prepare providers.1 job.slot job.storeHash job.queueCursor ≠ panicked message) ∧
      ∀ next, job.nextExpectedOutput = some next →
        ∀ message, prepare providers.2 next.slot next.storeHash next.queueCursor ≠ panicked message := by
  rw [← result?_isSome_iff]
  unfold actorResult
  cases expected : job.nextExpectedOutput with
  | none =>
    cases result? (prepare providers.1 job.slot job.storeHash job.queueCursor) with
    | none => simp
    | some current => simp
  | some update =>
    have single : (∀ next, some update = some next →
        ∀ message, prepare providers.2 next.slot next.storeHash next.queueCursor ≠ panicked message) ↔
        (result? (prepare providers.2 update.slot update.storeHash update.queueCursor)).isSome = true := by
      rw [result?_isSome_iff]
      exact ⟨fun each => each update rfl, fun returns next same => Option.some.inj same ▸ returns⟩
    rw [single]
    cases first : result? (prepare providers.1 job.slot job.storeHash job.queueCursor) with
    | none => simp
    | some current =>
      cases second : result? (prepare providers.2 update.slot update.storeHash update.queueCursor) with
      | none => simp [second]
      | some next => simp [second]

/-- Where the actor answers, it answers with the outcome of the job. -/
theorem actorResult_eq_some {result : Except HostError (DualProofInputsWithWindow S)}
    (answered : actorResult prepare providers job = some result) :
    validateAndPrepareProofInputs prepare providers job = fromResult result := by
  unfold actorResult at answered
  unfold validateAndPrepareProofInputs
  cases expected : job.nextExpectedOutput with
  | none =>
    simp only [expected, Option.bind_eq_bind, Option.bind_eq_some_iff, Option.some.injEq,
      result?_eq_some_iff] at answered
    rcases answered with ⟨current, prepared, rfl⟩
    simp only [prepared]
    cases current <;> rfl
  | some update =>
    simp only [expected, Option.bind_eq_bind, Option.bind_eq_some_iff, Option.some.injEq,
      result?_eq_some_iff] at answered
    rcases answered with ⟨current, prepared, next, preparedNext, rfl⟩
    simp only [prepared, preparedNext]
    cases current <;> cases next <;> rfl

theorem actorResult_of_ok {dual : DualProofInputsWithWindow S}
    (accepted : validateAndPrepareProofInputs prepare providers job = .ok dual) :
    actorResult prepare providers job = some (.ok dual) := by
  unfold validateAndPrepareProofInputs at accepted
  unfold actorResult
  cases expected : job.nextExpectedOutput with
  | none =>
    simp only [expected, bind_ok_iff, pure_ok_iff] at accepted
    rcases accepted with ⟨current, prepared, rfl⟩
    simp only [prepared]
    rfl
  | some update =>
    simp only [expected, bind_ok_iff, pure_ok_iff] at accepted
    rcases accepted with ⟨current, prepared, next, preparedNext, rfl⟩
    simp only [prepared, preparedNext]
    rfl

end NoriProof
