import NoriBridgeHead.BridgeHead.DetectorRuns

open Foundation Foundation.Outcome Foundation.Transition

namespace NoriModel

variable {S : ConsensusSpec} {β : Type}

def DetectorMark.updated (before : Bool) : DetectorMark S → Bool
  | .started _ => false
  | .staged _ | .advanced _ => true
  | .emitted _ => before

/-- Whether an update came in after the last job was started. -/
def DetectorRun.updatedSinceStart (state : DetectorRun S) : Bool := state.marks.foldl DetectorMark.updated false

/-- The result is dropped, the flag cleared and the job started anew. -/
def Detector.DropsStale (detector : Detector) (dual : DualProofInputsWithWindow S) : Prop :=
  detector.onResult (.ok dual) = ({ detector with inFlight := false, stale := false }).tryStartValidationJob

def ExactDrop (prepare : Prepare S β) (state : DetectorRun S) (event : DetectorEvent β) : Prop :=
  ∀ providers job rest dual, event = .result providers → state.validating = job :: rest →
    validateAndPrepareProofInputs prepare providers job = .ok dual →
    (state.detector.DropsStale dual ↔ state.updatedSinceStart = true)

/-- A failed result finds no update since its job was started. -/
def FailsFresh (prepare : Prepare S β) (state : DetectorRun S) (event : DetectorEvent β) : Prop :=
  ∀ providers job rest failure, event = .result providers → state.validating = job :: rest →
    validateAndPrepareProofInputs prepare providers job = .error failure → state.detector.stale = false

structure StaleInvariant (state : DetectorRun S) : Prop where
  idle : state.detector.inFlight = false → state.detector.stale = false
  busy : state.detector.inFlight = true → state.detector.stale = state.updatedSinceStart

end NoriModel

namespace NoriProof

open NoriModel

variable {S : ConsensusSpec} {β : Type} {prepare : Prepare S β} {state next : DetectorRun S}

theorem dropsStale_iff (detector : Detector) (dual : DualProofInputsWithWindow S) :
    detector.DropsStale dual ↔ detector.stale = true := by
  apply Iff.intro
  · intro dropped
    by_contra fresh
    rcases onResult_cases detector (.ok dual) with quiet | ⟨stale, _⟩ | ⟨_, _, _, _, _, ⟨_, emitted⟩ | ⟨_, swallowed⟩⟩
    · have same := congrArg Reaction.job (quiet.symm.trans dropped)
      cases same
    · exact fresh stale
    · have same := congrArg Reaction.job (emitted.symm.trans dropped)
      cases same
    · have same := congrArg Reaction.job (swallowed.symm.trans dropped)
      cases same
  · intro stale
    show detector.onResult (.ok dual) = _
    simp only [Detector.onResult, stale, ↓reduceIte]

theorem updatedSinceStart_append (detector : Detector) (validating : List FinalityChangeDetectorJobInput)
    (marks added : List (DetectorMark S)) :
    DetectorRun.updatedSinceStart ⟨detector, validating, marks ++ added⟩ =
      added.foldl DetectorMark.updated (DetectorRun.updatedSinceStart ⟨detector, validating, marks⟩) :=
  List.foldl_append

theorem StaleInvariant.started {detector : Detector} (validating : List FinalityChangeDetectorJobInput)
    (fresh : detector.stale = false) : StaleInvariant (state.after validating detector.tryStartValidationJob) := by
  apply StaleInvariant.mk
  · intro idle
    cases idle
  · intro _
    show detector.stale = _
    rw [fresh, DetectorRun.after, updatedSinceStart_append]
    rfl

theorem StaleInvariant.landed {validating : List FinalityChangeDetectorJobInput} {reaction : Reaction S}
    (idle : reaction.detector.inFlight = false) (fresh : reaction.detector.stale = false) :
    StaleInvariant (state.after validating reaction) := by
  apply StaleInvariant.mk
  · intro _
    exact fresh
  · intro busy
    exact absurd (idle.symm.trans busy) Bool.false_ne_true

/-- An accepted result leaves the flag down, whether it was dropped for being stale or not. -/
theorem staleInvariant_ok {dual : DualProofInputsWithWindow S} :
    StaleInvariant (state.after [] (state.detector.onResult (.ok dual))) := by
  by_cases stale : state.detector.stale = true
  · rw [(dropsStale_iff state.detector dual).mpr stale]
    exact StaleInvariant.started [] rfl
  · have fresh : state.detector.stale = false := Bool.eq_false_iff.mpr stale
    rcases onResult_cases state.detector (.ok dual) with
      quiet | ⟨outdated, _⟩ | ⟨_, _, _, _, _, ⟨_, emitted⟩ | ⟨_, swallowed⟩⟩
    · rw [quiet]
      exact StaleInvariant.landed rfl fresh
    · exact absurd outdated stale
    · rw [emitted]
      exact StaleInvariant.landed rfl fresh
    · rw [swallowed]
      exact StaleInvariant.landed rfl fresh

section Step

variable (kept : StaleInvariant state)
include kept

theorem StaleInvariant.updated {detector : Detector} {mark : DetectorMark S} (update : mark.updated false = true)
    (inFlight : detector.inFlight = state.detector.inFlight)
    (stale : detector.stale = if state.detector.inFlight then true else state.detector.stale) :
    StaleInvariant { state with detector := detector, marks := state.marks ++ [mark] } := by
  have last : DetectorRun.updatedSinceStart ⟨detector, state.validating, state.marks ++ [mark]⟩ = true := by
    rw [updatedSinceStart_append, List.foldl_cons, List.foldl_nil]
    cases mark with
    | started => cases update
    | emitted => cases update
    | staged => rfl
    | advanced => rfl
  apply StaleInvariant.mk
  · intro idle
    have before : state.detector.inFlight = false := inFlight.symm.trans idle
    rw [before] at stale
    exact stale.trans (kept.idle before)
  · intro busy
    have before : state.detector.inFlight = true := inFlight.symm.trans busy
    rw [before] at stale
    exact stale.trans last.symm

theorem staleInvariant_tick : StaleInvariant (state.after state.validating state.detector.onTick) := by
  rcases onTick_cases (S := S) state.detector with ⟨_, unchanged⟩ | ⟨inFlight, started⟩
  · rw [unchanged, after_quiet]
    exact kept
  · rw [started]
    exact StaleInvariant.started state.validating (kept.idle inFlight)

end Step

theorem staleInvariant_step {start : UInt64} {event : DetectorEvent β} (detector : DetectorInvariant start state)
    (kept : StaleInvariant state) (condition : FailsFresh prepare state event)
    (stepped : state.step prepare event = some next) : StaleInvariant next := by
  cases event with
  | stage update =>
    cases stepped
    exact StaleInvariant.updated kept rfl rfl rfl
  | advance update =>
    cases stepped
    exact StaleInvariant.updated kept rfl rfl rfl
  | tick =>
    cases stepped
    exact staleInvariant_tick kept
  | result providers =>
    rcases resultStep_cases stepped with ⟨job, rest, validating, rfl⟩
    obtain rfl := (DetectorInvariant.single detector validating).2
    cases validated : validateAndPrepareProofInputs prepare providers job with
    | ok dual => exact staleInvariant_ok
    | error failure =>
      exact StaleInvariant.landed rfl (condition providers job [] failure rfl validating validated)

theorem exactDrop_of_invariant {start : UInt64} {event : DetectorEvent β} (detector : DetectorInvariant start state)
    (kept : StaleInvariant state) : ExactDrop prepare state event := by
  intro providers job rest dual _ validating _
  rw [dropsStale_iff, kept.busy (DetectorInvariant.single detector validating).1]

/-- A failure while the flag is up leaves it up for the next job, whatever its inputs. -/
theorem failed_stale_step {start : UInt64} {providers : β × β} {job : FinalityChangeDetectorJobInput}
    {rest : List FinalityChangeDetectorJobInput} {failure : Failure HostError}
    (detector : DetectorInvariant start state) (stale : state.detector.stale = true)
    (validating : state.validating = job :: rest)
    (failed : validateAndPrepareProofInputs prepare providers job = .error failure) :
    ∃ later, run (DetectorRun.step prepare) state [.result providers, .tick] = some later ∧
      later.detector.stale = true ∧ later.validating = [later.detector.jobInput] ∧
      later.detector.jobInput = state.detector.jobInput ∧ later.updatedSinceStart = false := by
  obtain rfl := (DetectorInvariant.single detector validating).2
  have landed : state.step prepare (.result providers) =
      some (state.after [] ({ state.detector with inFlight := false }).quiet) := by
    simp only [DetectorRun.step, validating, failed]
    rfl
  have started : DetectorRun.step prepare (state.after [] ({ state.detector with inFlight := false }).quiet) .tick =
      some ((state.after [] ({ state.detector with inFlight := false }).quiet).after []
        ({ state.detector with inFlight := false }).tryStartValidationJob) := rfl
  refine ⟨_, run_cons_iff.mpr ⟨_, landed, run_cons_iff.mpr ⟨_, started, rfl⟩⟩, stale, rfl, rfl, ?_⟩
  rw [DetectorRun.after, updatedSinceStart_append]
  rfl

/-- Along every run in which no job fails while the flag is up, a result is dropped as stale exactly when an
    update came in after its job was started. A failure while the flag is up, in turn, makes the next
    successful job lose a result that no update has outdated. -/
theorem staleness_exact {S : ConsensusSpec} {β : Type} (prepare : Prepare S β) (slot : UInt64) (storeHash : B256)
    (queueCursor : UInt64) (pipeline : Option FinalityChangeDetectorUpdate) (events : List (DetectorEvent β)) :
    (Along (DetectorRun.step prepare) (FailsFresh prepare)
        (DetectorRun.start (Detector.start slot storeHash queueCursor pipeline)) events →
      Along (DetectorRun.step prepare) (ExactDrop prepare)
        (DetectorRun.start (Detector.start slot storeHash queueCursor pipeline)) events) ∧
    ∀ state providers job rest failure providers' dual,
      run (DetectorRun.step prepare) (DetectorRun.start (Detector.start slot storeHash queueCursor pipeline)) events =
        some state →
      state.detector.stale = true → state.validating = job :: rest →
      validateAndPrepareProofInputs prepare providers job = .error failure →
      validateAndPrepareProofInputs prepare providers' state.detector.jobInput = .ok dual →
      ¬ Along (DetectorRun.step prepare) (ExactDrop prepare)
        (DetectorRun.start (Detector.start slot storeHash queueCursor pipeline))
        (events ++ [.result providers, .tick, .result providers']) := by
  apply And.intro
  · intro fresh
    apply along_iff.mpr
    intro done event rest state whole reached
    rw [whole] at fresh
    have preserved : ∀ state event next, DetectorInvariant slot state ∧ StaleInvariant state →
        FailsFresh prepare state event → DetectorRun.step prepare state event = some next →
        DetectorInvariant slot next ∧ StaleInvariant next := by
      intro state event next kept condition stepped
      exact ⟨detectorInvariant_step kept.1 stepped, staleInvariant_step kept.1 kept.2 condition stepped⟩
    have initial : StaleInvariant (DetectorRun.start (S := S) (Detector.start slot storeHash queueCursor pipeline)) :=
      ⟨fun _ => rfl, fun _ => rfl⟩
    rcases run_invariant preserved ⟨detectorInvariant_start slot storeHash queueCursor pipeline, initial⟩
      (along_take fresh) reached with ⟨detector, kept⟩
    exact exactDrop_of_invariant detector kept
  · intro state providers job rest failure providers' dual reached stale validating failed succeeds along
    rcases failed_stale_step (detectorInvariant_run reached) stale validating failed with
      ⟨later, continued, left, outstanding, inputs, quiet⟩
    have exact := along_iff.mp along (events ++ [.result providers, .tick]) (.result providers') [] later
      (by simp) (run_append.mpr ⟨state, reached, continued⟩)
    rw [← inputs] at succeeds
    have updated := (exact providers' _ _ dual rfl outstanding succeeds).mp ((dropsStale_iff _ _).mpr left)
    rw [quiet] at updated
    cases updated

/-- The update of the first job is still held against the second, which was started after it. -/
def outlivedState : DetectorRun Minimal.spec :=
  (run (DetectorRun.step samplePrepare) sampleDetector
    [.tick, .stage ⟨32, Sample.storeHash1, 1⟩, .result (0, 0), .tick]).getD sampleDetector

theorem stale_flag_outlives_job :
    run (DetectorRun.step samplePrepare) sampleDetector
      [.tick, .stage ⟨32, Sample.storeHash1, 1⟩, .result (0, 0), .tick] = some outlivedState ∧
    outlivedState.validating = [outlivedState.detector.jobInput] ∧ outlivedState.updatedSinceStart = false ∧
    (∃ dual, validateAndPrepareProofInputs samplePrepare (32, 64) outlivedState.detector.jobInput = .ok dual ∧
      outlivedState.detector.DropsStale dual) ∧
    ¬ Along (DetectorRun.step samplePrepare) (ExactDrop samplePrepare) sampleDetector
      ([.tick, .stage ⟨32, Sample.storeHash1, 1⟩, .result (0, 0), .tick] ++ [.result (32, 64)]) := by
  have dropped : ∃ dual,
      validateAndPrepareProofInputs samplePrepare (32, 64) outlivedState.detector.jobInput = .ok dual ∧
      outlivedState.detector.DropsStale dual := ⟨_, rfl, (dropsStale_iff _ _).mpr rfl⟩
  refine ⟨rfl, rfl, rfl, dropped, ?_⟩
  intro along
  rcases dropped with ⟨dual, validated, drops⟩
  have updated :=
    (along_iff.mp along _ (.result (32, 64)) [] outlivedState rfl rfl _ _ _ dual rfl rfl validated).mp drops
  cases updated

end NoriProof
