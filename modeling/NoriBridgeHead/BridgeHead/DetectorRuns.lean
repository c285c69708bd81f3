import NoriBridgeHead.BridgeHead.Detector
import NoriBridgeHead.Foundation.Outcome
import NoriBridgeHead.Program.KnownTries

open Foundation Foundation.Outcome Foundation.Transition

namespace NoriModel

variable {S : ConsensusSpec} {β : Type}

/-- The slot of the last advance, or of the start, and what was sent since then, oldest first. -/
structure DetectorHistory (S : ConsensusSpec) where
  base : UInt64
  emissions : List (DualProofInputsWithWindow S)

def DetectorHistory.record (history : DetectorHistory S) : DetectorMark S → DetectorHistory S
  | .advanced update => ⟨update.slot, []⟩
  | .emitted dual => ⟨history.base, history.emissions ++ [dual]⟩
  | .staged _ | .started _ => history

def DetectorRun.history (state : DetectorRun S) (start : UInt64) : DetectorHistory S :=
  state.marks.foldl DetectorHistory.record ⟨start, []⟩

def lastOutput (base : UInt64) (emissions : List (DualProofInputsWithWindow S)) : UInt64 :=
  emissions.foldl (fun _ dual => dual.currentWindow.expectedOutputSlot) base

def ProgressFrom (accepted : UInt64) (dual : DualProofInputsWithWindow S) : Prop :=
  accepted < dual.currentWindow.expectedOutputSlot ∧
    ∀ nextWindow, dual.nextWindow = some nextWindow → accepted < nextWindow.expectedOutputSlot

def Increasing : UInt64 → List (DualProofInputsWithWindow S) → Prop
  | _, [] => True
  | accepted, dual :: rest =>
    ProgressFrom accepted dual ∧ Increasing dual.currentWindow.expectedOutputSlot rest

/-- Windows that were prepared from the present variables of a detector. -/
structure FreshEmission (prepare : Prepare S β) (detector : Detector) (dual : DualProofInputsWithWindow S) :
    Prop where
  current : ∃ provider, prepare provider detector.slot detector.storeHash detector.queueCursor =
    .ok dual.currentWindow
  next : ∀ nextWindow, dual.nextWindow = some nextWindow → ∃ update provider,
    detector.nextExpectedOutput = some update ∧
      prepare provider update.slot update.storeHash update.queueCursor = .ok nextWindow
  solo : dual.nextWindow = none ↔ detector.nextExpectedOutput = none ∨
    ∃ update, detector.nextExpectedOutput = some update ∧ update.slot = detector.slot

/-- A result that counts as progress although its next window makes it unsent. -/
def Swallowed (detector : Detector) (dual : DualProofInputsWithWindow S) : Prop :=
  detector.stale = false ∧ dual.currentWindow.inputSlot = detector.slot ∧
    detector.latestSlot < dual.currentWindow.expectedOutputSlot ∧
    ∃ nextWindow, dual.nextWindow = some nextWindow ∧ nextWindow.expectedOutputSlot ≤ detector.latestSlot

def NotSwallowed (prepare : Prepare S β) (state : DetectorRun S) (event : DetectorEvent β) : Prop :=
  ∀ providers job rest dual, event = .result providers → state.validating = job :: rest →
    validateAndPrepareProofInputs prepare providers job = .ok dual → ¬ Swallowed state.detector dual

def Accounted (start : UInt64) (state : DetectorRun S) : Prop :=
  state.detector.latestSlot =
    max (state.history start).base (lastOutput (state.history start).base (state.history start).emissions)

structure DetectorInvariant (start : UInt64) (state : DetectorRun S) : Prop where
  idle : state.detector.inFlight = false → state.validating = []
  busy : state.detector.inFlight = true → ∃ job, state.validating = [job]
  fresh : state.detector.inFlight = true → state.detector.stale = false →
    state.validating = [state.detector.jobInput] ∧
      ∃ earlier, state.marks = earlier ++ [.started state.detector.jobInput]
  base : (state.history start).base = state.detector.slot
  increasing : Increasing state.detector.slot (state.history start).emissions
  accepted : lastOutput state.detector.slot (state.history start).emissions ≤ state.detector.latestSlot
  ahead : state.detector.slot ≤ state.detector.latestSlot

end NoriModel

namespace NoriProof

open NoriModel

variable {S : ConsensusSpec} {β : Type} {prepare : Prepare S β}

theorem onResult_cases (detector : Detector) (result : Outcome HostError (DualProofInputsWithWindow S)) :
    detector.onResult result = ({ detector with inFlight := false }).quiet ∨
    (detector.stale = true ∧ detector.onResult result =
      ({ detector with inFlight := false, stale := false }).tryStartValidationJob) ∨
    ∃ dual, result = .ok dual ∧ detector.stale = false ∧ dual.currentWindow.inputSlot = detector.slot ∧
      detector.latestSlot < dual.currentWindow.expectedOutputSlot ∧
      (((∀ nextWindow, dual.nextWindow = some nextWindow → detector.latestSlot < nextWindow.expectedOutputSlot) ∧
          detector.onResult result = ⟨{ detector with
            inFlight := false, latestSlot := dual.currentWindow.expectedOutputSlot }, none, some dual⟩) ∨
        (Swallowed detector dual ∧ detector.onResult result = ({ detector with
            inFlight := false, latestSlot := dual.currentWindow.expectedOutputSlot }).quiet)) := by
  cases result with
  | error reason => exact .inl rfl
  | ok dual =>
    unfold Detector.onResult
    dsimp only
    by_cases stale : detector.stale = true
    · rw [if_pos stale]
      exact .inr (.inl ⟨stale, rfl⟩)
    · rw [if_neg stale]
      by_cases moved : dual.currentWindow.inputSlot ≠ detector.slot
      · rw [if_pos moved]
        exact .inl rfl
      · rw [if_neg moved]
        by_cases behind : dual.currentWindow.expectedOutputSlot ≤ detector.latestSlot
        · rw [if_pos behind]
          exact .inl rfl
        · rw [if_neg behind]
          have fresh : detector.stale = false := Bool.eq_false_iff.mpr stale
          have same : dual.currentWindow.inputSlot = detector.slot := not_not.mp moved
          have ahead : detector.latestSlot < dual.currentWindow.expectedOutputSlot := UInt64.not_le.mp behind
          refine .inr (.inr ⟨dual, rfl, fresh, same, ahead, ?_⟩)
          cases window : dual.nextWindow with
          | none =>
            refine .inl ⟨?_, rfl⟩
            intro nextWindow absent
            cases absent
          | some nextWindow =>
            by_cases progress : nextWindow.expectedOutputSlot > detector.latestSlot
            · refine .inl ⟨?_, by dsimp only; rw [if_pos progress]⟩
              intro other found
              cases found
              exact progress
            · refine .inr ⟨⟨fresh, same, ahead, nextWindow, window, UInt64.not_lt.mp progress⟩, ?_⟩
              dsimp only
              rw [if_neg progress]

theorem onTick_cases (detector : Detector) :
    (detector.inFlight = true ∧ detector.onTick (S := S) = detector.quiet) ∨
    (detector.inFlight = false ∧ detector.onTick (S := S) = detector.tryStartValidationJob) := by
  cases inFlight : detector.inFlight with
  | true => exact .inl ⟨rfl, if_pos inFlight⟩
  | false => exact .inr ⟨rfl, if_neg (Bool.eq_false_iff.mp inFlight)⟩

theorem resultStep_cases {state next : DetectorRun S} {providers : β × β}
    (stepped : state.step prepare (.result providers) = some next) :
    ∃ job rest, state.validating = job :: rest ∧
      next = state.after rest (state.detector.onResult (validateAndPrepareProofInputs prepare providers job)) := by
  cases validating : state.validating with
  | nil =>
    simp only [DetectorRun.step, validating] at stepped
    cases stepped
  | cons job rest =>
    simp only [DetectorRun.step, validating, Option.some.injEq] at stepped
    exact ⟨job, rest, rfl, stepped.symm⟩

theorem after_quiet (state : DetectorRun S) : state.after state.validating state.detector.quiet = state := by
  simp [DetectorRun.after, Detector.quiet]

theorem validate_ok {providers : β × β} {job : FinalityChangeDetectorJobInput} {dual : DualProofInputsWithWindow S}
    (accepted : validateAndPrepareProofInputs prepare providers job = .ok dual) :
    prepare providers.1 job.slot job.storeHash job.queueCursor = .ok dual.currentWindow ∧
    ((job.nextExpectedOutput = none ∧ dual.nextWindow = none) ∨
      ∃ next nextWindow, job.nextExpectedOutput = some next ∧ dual.nextWindow = some nextWindow ∧
        prepare providers.2 next.slot next.storeHash next.queueCursor = .ok nextWindow) := by
  unfold validateAndPrepareProofInputs at accepted
  cases expected : job.nextExpectedOutput with
  | none =>
    simp only [expected, bind_ok_iff, pure_ok_iff] at accepted
    rcases accepted with ⟨current, prepared, rfl⟩
    exact ⟨prepared, .inl ⟨rfl, rfl⟩⟩
  | some next =>
    simp only [expected, bind_ok_iff, pure_ok_iff] at accepted
    rcases accepted with ⟨current, prepared, nextWindow, preparedNext, rfl⟩
    exact ⟨prepared, .inr ⟨next, nextWindow, rfl, rfl, preparedNext⟩⟩

theorem filteredNext_eq_none_iff (slot : UInt64) (next : Option FinalityChangeDetectorUpdate) :
    filteredNext slot next = none ↔ next = none ∨ ∃ update, next = some update ∧ update.slot = slot := by
  cases next with
  | none => simp [filteredNext]
  | some update => simp [filteredNext]

theorem filteredNext_eq_some {slot : UInt64} {next : Option FinalityChangeDetectorUpdate}
    {update : FinalityChangeDetectorUpdate} (kept : filteredNext slot next = some update) : next = some update := by
  cases next with
  | none => cases kept
  | some other =>
    unfold filteredNext at kept
    dsimp only at kept
    split at kept
    · exact kept
    · cases kept

theorem freshEmission_of_jobInput {providers : β × β} {detector : Detector} {dual : DualProofInputsWithWindow S}
    (accepted : validateAndPrepareProofInputs prepare providers detector.jobInput = .ok dual) :
    FreshEmission prepare detector dual := by
  rcases validate_ok accepted with ⟨current, windows⟩
  rcases windows with ⟨expected, absent⟩ | ⟨update, nextWindow, expected, present, prepared⟩
  · refine ⟨⟨providers.1, current⟩, ?_, ?_⟩
    · intro nextWindow present
      rw [absent] at present
      cases present
    · have none := (filteredNext_eq_none_iff _ _).mp expected
      exact ⟨fun _ => none, fun _ => absent⟩
  · have kept := filteredNext_eq_some expected
    refine ⟨⟨providers.1, current⟩, ?_, ?_⟩
    · intro other found
      obtain rfl : nextWindow = other := Option.some.inj (present.symm.trans found)
      exact ⟨update, providers.2, kept, prepared⟩
    · constructor
      · intro absent
        rw [present] at absent
        cases absent
      · intro solo
        have none := (filteredNext_eq_none_iff _ _).mpr solo
        exact absurd (none.symm.trans expected) (by simp)

theorem lastOutput_append (base : UInt64) (emissions : List (DualProofInputsWithWindow S))
    (dual : DualProofInputsWithWindow S) :
    lastOutput base (emissions ++ [dual]) = dual.currentWindow.expectedOutputSlot := by
  simp only [lastOutput, List.foldl_append, List.foldl_cons, List.foldl_nil]

theorem Increasing.append {accepted : UInt64} {emissions : List (DualProofInputsWithWindow S)}
    {dual : DualProofInputsWithWindow S} (increasing : Increasing accepted emissions)
    (progress : ProgressFrom (lastOutput accepted emissions) dual) : Increasing accepted (emissions ++ [dual]) := by
  induction emissions generalizing accepted with
  | nil => exact ⟨progress, trivial⟩
  | cons first rest ih => exact ⟨increasing.1, ih increasing.2 progress⟩

theorem history_append (state : DetectorRun S) (start : UInt64) (detector : Detector)
    (validating : List FinalityChangeDetectorJobInput) (added : List (DetectorMark S)) :
    DetectorRun.history ⟨detector, validating, state.marks ++ added⟩ start =
      added.foldl DetectorHistory.record (state.history start) := by
  simp only [DetectorRun.history, List.foldl_append]

section Preserved

variable {start : UInt64} {state : DetectorRun S} (kept : DetectorInvariant start state)
include kept

theorem DetectorInvariant.stage (update : FinalityChangeDetectorUpdate) :
    DetectorInvariant start { state with
      detector := state.detector.onStage update, marks := state.marks ++ [.staged update] } := by
  refine ⟨kept.idle, kept.busy, ?_, ?_, ?_, ?_, kept.ahead⟩
  · intro inFlight fresh
    simp only [Detector.onStage] at inFlight fresh
    rw [if_pos inFlight] at fresh
    cases fresh
  all_goals simp only [history_append, List.foldl_cons, List.foldl_nil, DetectorHistory.record, Detector.onStage]
  · exact kept.base
  · exact kept.increasing
  · exact kept.accepted

theorem DetectorInvariant.advance (update : FinalityChangeDetectorUpdate) :
    DetectorInvariant start { state with
      detector := state.detector.onAdvance update, marks := state.marks ++ [.advanced update] } := by
  refine ⟨kept.idle, kept.busy, ?_, ?_, ?_, ?_, UInt64.le_refl _⟩
  · intro inFlight fresh
    simp only [Detector.onAdvance] at inFlight fresh
    rw [if_pos inFlight] at fresh
    cases fresh
  all_goals simp only [history_append, List.foldl_cons, List.foldl_nil, DetectorHistory.record, Detector.onAdvance]
  · trivial
  · exact UInt64.le_refl _

/-- A job is started only when none is outstanding, and it starts from the present variables. -/
theorem DetectorInvariant.started (stale : Bool) :
    DetectorInvariant start (state.after [] ({ state.detector with
      inFlight := false, stale := stale }).tryStartValidationJob) := by
  refine ⟨?_, ?_, ?_, ?_, ?_, ?_, kept.ahead⟩
  · intro idle
    cases idle
  · intro _
    exact ⟨_, rfl⟩
  · intro _ _
    exact ⟨rfl, state.marks, rfl⟩
  all_goals simp only [DetectorRun.after, Detector.tryStartValidationJob, Option.toList, List.map_cons, List.map_nil,
    List.append_nil, history_append, List.foldl_cons, List.foldl_nil, DetectorHistory.record]
  · exact kept.base
  · exact kept.increasing
  · exact kept.accepted

theorem DetectorInvariant.quiet {latestSlot : UInt64} (raised : state.detector.latestSlot ≤ latestSlot) :
    DetectorInvariant start (state.after [] ({ state.detector with
      inFlight := false, latestSlot := latestSlot }).quiet) := by
  refine ⟨fun _ => rfl, ?_, ?_, ?_, ?_, ?_, UInt64.le_trans kept.ahead raised⟩
  · intro busy
    cases busy
  · intro busy
    cases busy
  all_goals simp only [DetectorRun.after, Detector.quiet, Option.toList, List.map_nil, List.append_nil]
  · exact kept.base
  · exact kept.increasing
  · exact UInt64.le_trans kept.accepted raised

theorem DetectorInvariant.emitted {dual : DualProofInputsWithWindow S}
    (progress : ProgressFrom state.detector.latestSlot dual) :
    DetectorInvariant start (state.after [] ⟨{ state.detector with
      inFlight := false, latestSlot := dual.currentWindow.expectedOutputSlot }, none, some dual⟩) := by
  refine ⟨fun _ => rfl, ?_, ?_, ?_, ?_, ?_, UInt64.le_of_lt (UInt64.lt_of_le_of_lt kept.ahead progress.1)⟩
  · intro busy
    cases busy
  · intro busy
    cases busy
  all_goals simp only [DetectorRun.after, Option.toList, List.map_cons, List.map_nil, List.nil_append, history_append,
    List.foldl_cons, List.foldl_nil, DetectorHistory.record]
  · exact kept.base
  · apply Increasing.append kept.increasing
    refine ⟨UInt64.lt_of_le_of_lt kept.accepted progress.1, ?_⟩
    intro nextWindow present
    exact UInt64.lt_of_le_of_lt kept.accepted (progress.2 nextWindow present)
  · rw [lastOutput_append]
    exact UInt64.le_refl _

end Preserved

theorem detectorInvariant_start (slot : UInt64) (storeHash : B256) (queueCursor : UInt64)
    (pipeline : Option FinalityChangeDetectorUpdate) :
    DetectorInvariant slot (DetectorRun.start (S := S) (Detector.start slot storeHash queueCursor pipeline)) := by
  refine ⟨fun _ => rfl, ?_, ?_, rfl, trivial, UInt64.le_refl _, UInt64.le_refl _⟩
  · intro busy
    cases busy
  · intro busy
    cases busy

theorem DetectorInvariant.single {start : UInt64} {state : DetectorRun S} (kept : DetectorInvariant start state)
    {job : FinalityChangeDetectorJobInput} {rest : List FinalityChangeDetectorJobInput}
    (validating : state.validating = job :: rest) : state.detector.inFlight = true ∧ rest = [] := by
  cases inFlight : state.detector.inFlight with
  | false =>
    rw [kept.idle inFlight] at validating
    cases validating
  | true =>
    rcases kept.busy inFlight with ⟨other, single⟩
    rw [single] at validating
    exact ⟨rfl, (List.cons.inj validating).2.symm⟩

theorem detectorInvariant_step {start : UInt64} {state next : DetectorRun S} {event : DetectorEvent β}
    (kept : DetectorInvariant start state) (stepped : state.step prepare event = some next) :
    DetectorInvariant start next := by
  cases event with
  | stage update =>
    cases stepped
    exact DetectorInvariant.stage kept update
  | advance update =>
    cases stepped
    exact DetectorInvariant.advance kept update
  | tick =>
    cases stepped
    rcases onTick_cases (S := S) state.detector with ⟨_, unchanged⟩ | ⟨inFlight, started⟩
    · rw [unchanged, after_quiet]
      exact kept
    · have same : { state.detector with inFlight := false, stale := state.detector.stale } = state.detector := by
        rw [← inFlight]
      have preserved := DetectorInvariant.started kept state.detector.stale
      rw [same] at preserved
      rw [kept.idle inFlight, started]
      exact preserved
  | result providers =>
    rcases resultStep_cases stepped with ⟨job, rest, validating, rfl⟩
    obtain rfl := (DetectorInvariant.single kept validating).2
    rcases onResult_cases state.detector (validateAndPrepareProofInputs prepare providers job) with
      quiet | ⟨_, restarted⟩ | ⟨dual, _, _, _, ahead, ⟨nextAhead, emitted⟩ | ⟨_, swallowed⟩⟩
    · rw [quiet]
      exact DetectorInvariant.quiet kept (UInt64.le_refl _)
    · rw [restarted]
      exact DetectorInvariant.started kept false
    · rw [emitted]
      exact DetectorInvariant.emitted kept ⟨ahead, nextAhead⟩
    · rw [swallowed]
      exact DetectorInvariant.quiet kept (UInt64.le_of_lt ahead)

theorem detectorInvariant_run {slot : UInt64} {storeHash : B256} {queueCursor : UInt64}
    {pipeline : Option FinalityChangeDetectorUpdate} {events : List (DetectorEvent β)} {state : DetectorRun S}
    (reached : run (DetectorRun.step prepare) (DetectorRun.start (Detector.start slot storeHash queueCursor pipeline))
      events = some state) : DetectorInvariant slot state := by
  apply reachable_invariant (fun state event next kept stepped => ?_) (detectorInvariant_start _ _ _ _) reached
  exact detectorInvariant_step kept stepped

theorem emission_fresh {start : UInt64} {state next : DetectorRun S} (kept : DetectorInvariant start state)
    {event : DetectorEvent β} (stepped : state.step prepare event = some next) {added : List (DetectorMark S)}
    (recorded : next.marks = state.marks ++ added) {dual : DualProofInputsWithWindow S}
    (emitted : .emitted dual ∈ added) :
    (∃ earlier, state.marks = earlier ++ [.started state.detector.jobInput]) ∧
    FreshEmission prepare state.detector dual ∧ ProgressFrom state.detector.latestSlot dual ∧
    next.detector = { state.detector with
      inFlight := false, latestSlot := dual.currentWindow.expectedOutputSlot } := by
  cases event with
  | stage update =>
    cases stepped
    cases List.append_cancel_left recorded
    cases List.mem_singleton.mp emitted
  | advance update =>
    cases stepped
    cases List.append_cancel_left recorded
    cases List.mem_singleton.mp emitted
  | tick =>
    cases stepped
    cases List.append_cancel_left recorded
    rcases onTick_cases (S := S) state.detector with ⟨_, quiet⟩ | ⟨_, started⟩
    · simp [quiet, Detector.quiet] at emitted
    · simp [started, Detector.tryStartValidationJob] at emitted
  | result providers =>
    rcases resultStep_cases stepped with ⟨job, rest, validating, rfl⟩
    cases List.append_cancel_left recorded
    have inFlight := (DetectorInvariant.single kept validating).1
    rcases onResult_cases state.detector (validateAndPrepareProofInputs prepare providers job) with
      quiet | ⟨_, restarted⟩ | ⟨sent, validated, fresh, _, ahead, ⟨nextAhead, emission⟩ | ⟨_, swallowed⟩⟩
    · simp [quiet, Detector.quiet] at emitted
    · simp [restarted, Detector.tryStartValidationJob] at emitted
    · simp only [emission, Option.toList, List.map_nil, List.map_cons, List.nil_append, List.mem_singleton,
        DetectorMark.emitted.injEq] at emitted
      subst emitted
      rcases kept.fresh inFlight fresh with ⟨present, last⟩
      cases (List.cons.inj (validating.symm.trans present)).1
      refine ⟨last, freshEmission_of_jobInput validated, ⟨ahead, nextAhead⟩, ?_⟩
      rw [emission]
      rfl
    · simp [swallowed, Detector.quiet] at emitted

theorem step_marks {state next : DetectorRun S} {event : DetectorEvent β}
    (stepped : state.step prepare event = some next) : ∃ added, next.marks = state.marks ++ added := by
  cases event with
  | result providers =>
    rcases resultStep_cases stepped with ⟨job, rest, _, rfl⟩
    exact ⟨_, rfl⟩
  | stage update | advance update | tick =>
    cases stepped
    exact ⟨_, rfl⟩

/-- What was sent at any time was fresh when it was sent. -/
theorem emitted_fresh {slot : UInt64} {storeHash : B256} {queueCursor : UInt64}
    {pipeline : Option FinalityChangeDetectorUpdate} {events : List (DetectorEvent β)} {state : DetectorRun S}
    (reached : run (DetectorRun.step prepare) (DetectorRun.start (Detector.start slot storeHash queueCursor pipeline))
      events = some state) :
    ∀ dual, .emitted dual ∈ state.marks →
      ∃ detector, FreshEmission prepare detector dual ∧ ProgressFrom detector.latestSlot dual := by
  have preserved : ∀ (state : DetectorRun S) (event : DetectorEvent β) (next : DetectorRun S),
      (DetectorInvariant slot state ∧ ∀ dual, .emitted dual ∈ state.marks →
        ∃ detector, FreshEmission prepare detector dual ∧ ProgressFrom detector.latestSlot dual) →
      state.step prepare event = some next →
      DetectorInvariant slot next ∧ ∀ dual, .emitted dual ∈ next.marks →
        ∃ detector, FreshEmission prepare detector dual ∧ ProgressFrom detector.latestSlot dual := by
    rintro state event next ⟨kept, earlier⟩ stepped
    refine ⟨detectorInvariant_step kept stepped, ?_⟩
    intro dual emitted
    rcases step_marks stepped with ⟨added, recorded⟩
    rw [recorded] at emitted
    rcases List.mem_append.mp emitted with old | new
    · exact earlier dual old
    · rcases emission_fresh kept stepped recorded new with ⟨_, fresh, progress, _⟩
      exact ⟨state.detector, fresh, progress⟩
  apply (reachable_invariant preserved ⟨detectorInvariant_start _ _ _ _, ?_⟩ reached).2
  intro dual emitted
  cases emitted

/-- Whatever the detector sends was prepared from its present variables by a job that no update followed,
    and between two advances the sent windows move strictly forward. -/
theorem detector_emissions_fresh {S : ConsensusSpec} {β : Type} (prepare : Prepare S β) (slot : UInt64)
    (storeHash : B256) (queueCursor : UInt64) (pipeline : Option FinalityChangeDetectorUpdate)
    (events : List (DetectorEvent β)) (state : DetectorRun S)
    (reached : run (DetectorRun.step prepare) (DetectorRun.start (Detector.start slot storeHash queueCursor pipeline))
      events = some state) :
    (∀ event next added dual, state.step prepare event = some next → next.marks = state.marks ++ added →
      .emitted dual ∈ added →
        (∃ earlier, state.marks = earlier ++ [.started state.detector.jobInput]) ∧
        FreshEmission prepare state.detector dual ∧ ProgressFrom state.detector.latestSlot dual ∧
        next.detector = { state.detector with
          inFlight := false, latestSlot := dual.currentWindow.expectedOutputSlot }) ∧
    (state.history slot).base = state.detector.slot ∧
    Increasing state.detector.slot (state.history slot).emissions := by
  have kept := detectorInvariant_run reached
  refine ⟨?_, kept.base, kept.increasing⟩
  intro event next added dual stepped recorded emitted
  exact emission_fresh kept stepped recorded emitted

def samplePrepare : Prepare Minimal.spec UInt64 := fun finalized slot _ _ =>
  if slot < finalized then
    .ok ⟨slot, finalized, 0, 0, Sample.proofInputs1, Sample.storeHash1, 1⟩
  else Outcome.fail (.outputNotGreater finalized slot)

def sampleDetector : DetectorRun Minimal.spec := DetectorRun.start (Detector.start 0 Sample.storeHash0 0 none)

def sampleEvents : List (DetectorEvent UInt64) :=
  [.tick, .result (32, 32), .stage ⟨32, Sample.storeHash1, 1⟩, .tick, .result (64, 64)]

def sampleState : DetectorRun Minimal.spec :=
  (run (DetectorRun.step samplePrepare) sampleDetector sampleEvents).getD sampleDetector

theorem detector_emissions_fresh_sample :
    (sampleState.history 0).base = 0 ∧ (sampleState.history 0).emissions.length = 2 ∧
    Increasing 0 (sampleState.history 0).emissions := by
  have fresh := detector_emissions_fresh samplePrepare 0 Sample.storeHash0 0 none sampleEvents sampleState rfl
  exact ⟨rfl, rfl, fresh.2.2⟩

section Accounting

variable {start : UInt64} {state next : DetectorRun S}

theorem max_eq_of_le {left right : UInt64} (below : left ≤ right) : max left right = right := if_pos below

theorem accounted_step {event : DetectorEvent β} (kept : DetectorInvariant start state)
    (accounted : Accounted start state)
    (condition : NotSwallowed prepare state event) (stepped : state.step prepare event = some next) :
    Accounted start next := by
  cases event with
  | stage update =>
    cases stepped
    simp only [Accounted, history_append, List.foldl_cons, List.foldl_nil, DetectorHistory.record]
    exact accounted
  | advance update =>
    cases stepped
    simp only [Accounted, history_append, List.foldl_cons, List.foldl_nil, DetectorHistory.record]
    exact (max_eq_of_le (UInt64.le_refl update.slot)).symm
  | tick =>
    cases stepped
    rcases onTick_cases (S := S) state.detector with ⟨_, unchanged⟩ | ⟨_, started⟩
    · rw [unchanged, after_quiet]
      exact accounted
    · simp only [started, Accounted, DetectorRun.after, Detector.tryStartValidationJob, Option.toList, List.map_nil,
        List.map_cons, List.append_nil, history_append, List.foldl_cons, List.foldl_nil, DetectorHistory.record]
      exact accounted
  | result providers =>
    rcases resultStep_cases stepped with ⟨job, rest, validating, rfl⟩
    rcases onResult_cases state.detector (validateAndPrepareProofInputs prepare providers job) with
      quiet | ⟨_, restarted⟩ | ⟨dual, validated, _, _, ahead, ⟨nextAhead, emitted⟩ | ⟨swallowed, _⟩⟩
    · simp only [quiet, Accounted, DetectorRun.after, Detector.quiet, Option.toList, List.map_nil, List.append_nil]
      exact accounted
    · simp only [restarted, Accounted, DetectorRun.after, Detector.tryStartValidationJob, Option.toList,
        List.map_nil, List.map_cons, List.append_nil, history_append, List.foldl_cons, List.foldl_nil,
        DetectorHistory.record]
      exact accounted
    · simp only [emitted, Accounted, DetectorRun.after, Option.toList, List.map_nil, List.map_cons, List.nil_append,
        history_append, List.foldl_cons, List.foldl_nil, DetectorHistory.record, lastOutput_append, kept.base]
      exact (max_eq_of_le (UInt64.le_of_lt (UInt64.lt_of_le_of_lt kept.ahead ahead))).symm
    · exact absurd swallowed (condition providers job rest dual rfl validating validated)

theorem swallowed_step {providers : β × β} {job : FinalityChangeDetectorJobInput}
    {rest : List FinalityChangeDetectorJobInput} {dual : DualProofInputsWithWindow S}
    (validating : state.validating = job :: rest)
    (validated : validateAndPrepareProofInputs prepare providers job = .ok dual)
    (swallowed : Swallowed state.detector dual) :
    ∃ next, state.step prepare (.result providers) = some next ∧ next.marks = state.marks ∧
      next.detector.latestSlot = dual.currentWindow.expectedOutputSlot := by
  rcases swallowed with ⟨fresh, same, ahead, nextWindow, present, behind⟩
  have unsent : ¬ nextWindow.expectedOutputSlot > state.detector.latestSlot := UInt64.not_lt.mpr behind
  have progress : ¬ dual.currentWindow.expectedOutputSlot ≤ state.detector.latestSlot := UInt64.not_le.mpr ahead
  simp only [DetectorRun.step, validating, validated, Detector.onResult, fresh, same, progress, present, unsent,
    Bool.false_eq_true, ne_eq, not_true_eq_false, ↓reduceIte]
  exact ⟨_, rfl, by simp [DetectorRun.after, Detector.quiet], rfl⟩

end Accounting

/-- The latest slot stays accounted for along a run exactly when no result of the run is swallowed. -/
theorem latestSlot_accounted_iff {S : ConsensusSpec} {β : Type} (prepare : Prepare S β) (slot : UInt64)
    (storeHash : B256) (queueCursor : UInt64) (pipeline : Option FinalityChangeDetectorUpdate)
    (events : List (DetectorEvent β)) :
    (∀ done rest state, events = done ++ rest →
      run (DetectorRun.step prepare) (DetectorRun.start (Detector.start slot storeHash queueCursor pipeline)) done =
        some state → Accounted slot state) ↔
    Along (DetectorRun.step prepare) (NotSwallowed prepare)
      (DetectorRun.start (Detector.start slot storeHash queueCursor pipeline)) events := by
  constructor
  · intro accounted
    apply along_iff.mpr
    intro done event rest state whole reached providers job others dual isResult validating validated swallowed
    subst isResult
    have before := accounted done (.result providers :: rest) state whole reached
    rcases swallowed_step validating validated swallowed with ⟨next, stepped, sameMarks, raised⟩
    have reachedNext : run (DetectorRun.step prepare)
        (DetectorRun.start (Detector.start slot storeHash queueCursor pipeline)) (done ++ [.result providers]) =
        some next := run_append.mpr ⟨state, reached, run_cons_iff.mpr ⟨next, stepped, rfl⟩⟩
    have after := accounted (done ++ [.result providers]) rest next (by rw [whole, List.append_assoc]; rfl) reachedNext
    have sameHistory : next.history slot = state.history slot := by
      rw [DetectorRun.history, sameMarks, DetectorRun.history]
    rw [Accounted, sameHistory, ← before, raised] at after
    exact absurd after (UInt64.ne_of_lt swallowed.2.2.1).symm
  · intro along done rest state whole reached
    rw [whole] at along
    have preserved : ∀ state event next, DetectorInvariant slot state ∧ Accounted slot state →
        NotSwallowed prepare state event → DetectorRun.step prepare state event = some next →
        DetectorInvariant slot next ∧ Accounted slot next := by
      intro state event next kept condition stepped
      exact ⟨detectorInvariant_step kept.1 stepped, accounted_step kept.1 kept.2 condition stepped⟩
    exact (run_invariant preserved ⟨detectorInvariant_start slot storeHash queueCursor pipeline,
      (max_eq_of_le (UInt64.le_refl slot)).symm⟩ (along_take along) reached).2

/-- The third result reaches slot 96 in its current window only: it is not sent, yet 96 counts as accepted. -/
def swallowingState : DetectorRun Minimal.spec :=
  (run (DetectorRun.step samplePrepare) sampleDetector (sampleEvents ++ [.tick, .result (96, 64)])).getD sampleDetector

theorem swallowed_transition :
    run (DetectorRun.step samplePrepare) sampleDetector (sampleEvents ++ [.tick, .result (96, 64)]) =
      some swallowingState ∧
    swallowingState.detector.latestSlot = 96 ∧ lastOutput 0 (swallowingState.history 0).emissions = 64 ∧
    ¬ Accounted 0 swallowingState := by
  refine ⟨rfl, rfl, rfl, ?_⟩
  unfold Accounted
  decide +kernel

end NoriProof
