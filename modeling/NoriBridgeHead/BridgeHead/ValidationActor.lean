import NoriBridgeHead.BridgeHead.Contiguity
import NoriBridgeHead.BridgeHead.DetectorRuns
import NoriBridgeHead.Rpcs.UntrustedProvider

open Foundation Foundation.Outcome Foundation.Transition

namespace NoriModel

variable {S : ConsensusSpec} {β : Type}

/-- A job with its number in the order in which the detector started them. -/
abbrev StartedJob := Nat × FinalityChangeDetectorJobInput

inductive ValidationActor (S : ConsensusSpec) where
  | waiting
  | preparing (job : StartedJob)
  | sending (job : StartedJob) (result : Except HostError (DualProofInputsWithWindow S))
  | dead

def ValidationActor.holding : ValidationActor S → List StartedJob
  | .preparing job | .sending job _ => [job]
  | .waiting | .dead => []

/-- The capacity of the job channel and of the result channel. -/
def validationCapacity : Nat := 1

/-- The detector, its validation actor and the two channels between them. While the detector sends a job or an
    emission it handles nothing else. -/
structure ValidationRun (S : ConsensusSpec) where
  detector : Detector
  stopped : Bool
  starting : Option FinalityChangeDetectorJobInput
  emitting : Option (DualProofInputsWithWindow S)
  jobs : List StartedJob
  actor : ValidationActor S
  results : List (StartedJob × Except HostError (DualProofInputsWithWindow S))
  started : List StartedJob

inductive ValidationEvent (β : Type) where
  | stage (update : FinalityChangeDetectorUpdate)
  | advance (update : FinalityChangeDetectorUpdate)
  | updatesClosed
  | tick
  | result
  | resultsClosed
  | jobSent
  | emissionTaken
  | consumerDropped
  | actorTakes
  | actorPrepares (providers : β × β)
  | actorSends

namespace ValidationRun

def start (detector : Detector) : ValidationRun S where
  detector := detector
  stopped := false
  starting := none
  emitting := none
  jobs := []
  actor := .waiting
  results := []
  started := []

def ready (state : ValidationRun S) : Bool := state.starting.isNone && state.emitting.isNone

def stop (state : ValidationRun S) : ValidationRun S := { state with stopped := true }

/-- The flag is raised only when the send of the job has returned. -/
def reacts (state : ValidationRun S) (reaction : Reaction S) : ValidationRun S :=
  { state with
    detector :=
      match reaction.job with
      | some _ => { reaction.detector with inFlight := false }
      | none => reaction.detector
    starting := reaction.job
    emitting := reaction.emitted }

def onResultReceived (state : ValidationRun S) : Option (ValidationRun S) :=
  match state.results with
  | [] => none
  | received :: results =>
    some (({ state with results := results }).reacts (state.detector.onResult (fromResult received.2)))

def onResultsClosed (state : ValidationRun S) : Option (ValidationRun S) :=
  match state.results, state.actor with
  | [], .dead => some state.stop
  | _, _ => none

def sendJob (state : ValidationRun S) : Option (ValidationRun S) :=
  match state.starting, state.actor with
  | none, _ => none
  | some _, .dead => some { state with starting := none, stopped := true }
  | some job, _ =>
    if state.jobs.length < validationCapacity then
      some { state with
        detector := { state.detector with inFlight := true }
        starting := none
        jobs := state.jobs ++ [(state.started.length + 1, job)]
        started := state.started ++ [(state.started.length + 1, job)] }
    else none

def actorTakes (state : ValidationRun S) : Option (ValidationRun S) :=
  match state.actor, state.jobs with
  | .waiting, job :: jobs => some { state with actor := .preparing job, jobs := jobs }
  | _, _ => none

def actorPrepares (prepare : Prepare S β) (providers : β × β) (state : ValidationRun S) : Option (ValidationRun S) :=
  match state.actor with
  | .preparing job =>
    match actorResult prepare providers job.2 with
    | some result => some { state with actor := .sending job result }
    | none => some { state with actor := .dead, jobs := [] }
  | _ => none

def actorSends (state : ValidationRun S) : Option (ValidationRun S) :=
  match state.actor with
  | .sending job result =>
    if state.results.length < validationCapacity then
      some { state with actor := .waiting, results := state.results ++ [(job, result)] }
    else none
  | _ => none

def emissionEnds (state : ValidationRun S) (stopped : Bool) : Option (ValidationRun S) :=
  match state.emitting with
  | none => none
  | some _ => some { state with emitting := none, stopped := stopped }

/-- The step of a running detector or of its actor; the run ends with the task of the detector. -/
def running (prepare : Prepare S β) (state : ValidationRun S) : ValidationEvent β → Option (ValidationRun S)
  | .stage update => if state.ready then some { state with detector := state.detector.onStage update } else none
  | .advance update => if state.ready then some { state with detector := state.detector.onAdvance update } else none
  | .updatesClosed => if state.ready then some state.stop else none
  | .tick => if state.ready then some (state.reacts state.detector.onTick) else none
  | .result => if state.ready then state.onResultReceived else none
  | .resultsClosed => if state.ready then state.onResultsClosed else none
  | .jobSent => state.sendJob
  | .emissionTaken => state.emissionEnds false
  | .consumerDropped => state.emissionEnds true
  | .actorTakes => state.actorTakes
  | .actorPrepares providers => state.actorPrepares prepare providers
  | .actorSends => state.actorSends

def step (prepare : Prepare S β) (state : ValidationRun S) (event : ValidationEvent β) : Option (ValidationRun S) :=
  if state.stopped then none else state.running prepare event

/-- The jobs in the result channel, with the actor and in the job channel, oldest first. -/
def outstanding (state : ValidationRun S) : List StartedJob :=
  state.results.map Prod.fst ++ state.actor.holding ++ state.jobs

structure Single (prepare : Prepare S β) (state : ValidationRun S) : Prop where
  flagged : state.detector.inFlight = true ↔ state.outstanding.length = 1
  unflagged : state.detector.inFlight = false → state.outstanding = []
  startsAtOnce : ∀ job, state.starting = some job → state.jobs.length < validationCapacity
  sendsAtOnce : ∀ job result, state.actor = .sending job result → state.results.length < validationCapacity
  latest : ∀ job result, (job, result) ∈ state.results →
    state.started.getLast? = some job ∧ ∃ providers, actorResult prepare providers job.2 = some result

/-- The detector as `DetectorRun` has it: there a job is started in one step. -/
def startedDetector (state : ValidationRun S) : Detector :=
  match state.starting with
  | some _ => { state.detector with inFlight := true }
  | none => state.detector

structure Refines (state : ValidationRun S) (coarse : DetectorRun S) : Prop where
  detector : coarse.detector = state.startedDetector
  validating : coarse.validating = state.outstanding.map Prod.snd ++ state.starting.toList
  emitting : ∀ dual, state.emitting = some dual → .emitted dual ∈ coarse.marks

end ValidationRun

/-- No preparation of a window of the job that the actor holds panics. -/
def PreparationsReturn (prepare : Prepare S β) (state : ValidationRun S) (event : ValidationEvent β) : Prop :=
  ∀ providers job, event = .actorPrepares providers → state.stopped = false → state.actor = .preparing job →
    (∀ message, prepare providers.1 job.2.slot job.2.storeHash job.2.queueCursor ≠ panicked message) ∧
    ∀ next, job.2.nextExpectedOutput = some next →
      ∀ message, prepare providers.2 next.slot next.storeHash next.queueCursor ≠ panicked message

end NoriModel

namespace NoriProof

open NoriModel

variable {S : ConsensusSpec} {β : Type} {prepare : Prepare S β} {state next : ValidationRun S}

section Steps

theorem ready_iff : state.ready = true ↔ state.starting = none ∧ state.emitting = none := by
  simp [ValidationRun.ready]

theorem if_ready {α : Type} {ready : Bool} {action : Option α} {result : α}
    (taken : (if ready then action else none) = some result) : ready = true ∧ action = some result := by
  cases ready with
  | false => cases taken
  | true => exact ⟨rfl, taken⟩

/-- A step in which the detector handles nothing: the same jobs stay outstanding, in the same order. -/
structure Internal (prepare : Prepare S β) (state next : ValidationRun S) : Prop where
  detector : next.detector = state.detector
  starting : next.starting = state.starting
  started : next.started = state.started
  outstanding : next.outstanding = state.outstanding
  emitting : ∀ dual, next.emitting = some dual → state.emitting = some dual
  prepared : ∀ job result, next.actor = .sending job result ∨ (job, result) ∈ next.results →
    (state.actor = .sending job result ∨ (job, result) ∈ state.results) ∨
      ∃ providers, actorResult prepare providers job.2 = some result
  alive : next.actor = .dead → state.actor = .dead

theorem stop_internal (state : ValidationRun S) : Internal prepare state state.stop :=
  ⟨rfl, rfl, rfl, rfl, fun _ same => same, fun _ _ held => .inl held, id⟩

theorem emissionEnds_internal {stopped : Bool} (stepped : state.emissionEnds stopped = some next) :
    Internal prepare state next := by
  unfold ValidationRun.emissionEnds at stepped
  split at stepped
  · cases stepped
  · cases stepped
    refine ⟨rfl, rfl, rfl, rfl, ?_, fun _ _ held => .inl held, id⟩
    intro dual emitting
    cases emitting

theorem actorTakes_internal (stepped : state.actorTakes = some next) : Internal prepare state next := by
  unfold ValidationRun.actorTakes at stepped
  split at stepped
  · rename_i job jobs waiting pending
    cases stepped
    refine ⟨rfl, rfl, rfl, ?_, fun _ same => same, ?_, ?_⟩
    · simp [ValidationRun.outstanding, waiting, pending, ValidationActor.holding]
    · intro other result held
      rcases held with sending | received
      · cases sending
      · exact .inl (.inr received)
    · intro dead
      cases dead
  · cases stepped

theorem actorPrepares_internal {providers : β × β} (running : state.stopped = false)
    (returns : PreparationsReturn prepare state (.actorPrepares providers))
    (stepped : state.actorPrepares prepare providers = some next) : Internal prepare state next := by
  unfold ValidationRun.actorPrepares at stepped
  split at stepped
  · rename_i job preparing
    have answers := actorResult_isSome_iff.mpr (returns providers job rfl running preparing)
    rcases Option.isSome_iff_exists.mp answers with ⟨answer, answered⟩
    rw [answered] at stepped
    cases stepped
    refine ⟨rfl, rfl, rfl, ?_, fun _ same => same, ?_, ?_⟩
    · simp [ValidationRun.outstanding, preparing, ValidationActor.holding]
    · intro other result held
      rcases held with sending | received
      · cases sending
        exact .inr ⟨providers, answered⟩
      · exact .inl (.inr received)
    · intro dead
      cases dead
  · cases stepped

theorem actorSends_internal (stepped : state.actorSends = some next) : Internal prepare state next := by
  unfold ValidationRun.actorSends at stepped
  split at stepped
  · rename_i job answer sending
    split at stepped
    · cases stepped
      refine ⟨rfl, rfl, rfl, ?_, fun _ same => same, ?_, ?_⟩
      · simp [ValidationRun.outstanding, sending, ValidationActor.holding]
      · intro other result held
        rcases held with waiting | received
        · cases waiting
        · rcases List.mem_append.mp received with earlier | now
          · exact .inl (.inr earlier)
          · cases List.mem_singleton.mp now
            exact .inl (.inl sending)
      · intro dead
        cases dead
    · cases stepped
  · cases stepped

theorem onResultReceived_cases (stepped : state.onResultReceived = some next) :
    ∃ received results, state.results = received :: results ∧
      next = ({ state with results := results }).reacts (state.detector.onResult (fromResult received.2)) := by
  unfold ValidationRun.onResultReceived at stepped
  split at stepped
  · cases stepped
  · rename_i received results pending
    exact ⟨received, results, pending, (Option.some.inj stepped).symm⟩

theorem sendJob_cases (alive : state.actor ≠ .dead) (stepped : state.sendJob = some next) :
    ∃ job, state.starting = some job ∧ next = { state with
      detector := { state.detector with inFlight := true }
      starting := none
      jobs := state.jobs ++ [(state.started.length + 1, job)]
      started := state.started ++ [(state.started.length + 1, job)] } := by
  unfold ValidationRun.sendJob at stepped
  split at stepped
  · cases stepped
  · rename_i dead
    exact absurd dead alive
  · rename_i job pending _
    split at stepped
    · exact ⟨job, pending, (Option.some.inj stepped).symm⟩
    · cases stepped

/-- A step of a detector whose actor is alive and does not panic. -/
theorem validationStep_cases {event : ValidationEvent β} (alive : state.actor ≠ .dead)
    (returns : PreparationsReturn prepare state event) (stepped : state.step prepare event = some next) :
    Internal prepare state next ∨
    (∃ job, state.starting = some job ∧ next = { state with
      detector := { state.detector with inFlight := true }
      starting := none
      jobs := state.jobs ++ [(state.started.length + 1, job)]
      started := state.started ++ [(state.started.length + 1, job)] }) ∨
    (state.starting = none ∧ state.emitting = none ∧
      ((∃ update, next = { state with detector := state.detector.onStage update }) ∨
        (∃ update, next = { state with detector := state.detector.onAdvance update }) ∨
        next = state.reacts state.detector.onTick ∨
        ∃ received results, state.results = received :: results ∧ next =
          ({ state with results := results }).reacts (state.detector.onResult (fromResult received.2)))) := by
  unfold ValidationRun.step at stepped
  split at stepped
  · cases stepped
  · rename_i running
    cases event with
    | stage update =>
      rcases if_ready stepped with ⟨ready, updated⟩
      rcases ready_iff.mp ready with ⟨noStart, noEmission⟩
      exact .inr (.inr ⟨noStart, noEmission, .inl ⟨update, (Option.some.inj updated).symm⟩⟩)
    | advance update =>
      rcases if_ready stepped with ⟨ready, updated⟩
      rcases ready_iff.mp ready with ⟨noStart, noEmission⟩
      exact .inr (.inr ⟨noStart, noEmission, .inr (.inl ⟨update, (Option.some.inj updated).symm⟩)⟩)
    | updatesClosed =>
      cases (if_ready stepped).2
      exact .inl (stop_internal state)
    | tick =>
      rcases if_ready stepped with ⟨ready, ticked⟩
      rcases ready_iff.mp ready with ⟨noStart, noEmission⟩
      exact .inr (.inr ⟨noStart, noEmission, .inr (.inr (.inl (Option.some.inj ticked).symm))⟩)
    | result =>
      rcases if_ready stepped with ⟨ready, received⟩
      rcases ready_iff.mp ready with ⟨noStart, noEmission⟩
      exact .inr (.inr ⟨noStart, noEmission, .inr (.inr (.inr (onResultReceived_cases received)))⟩)
    | resultsClosed =>
      have closed := (if_ready stepped).2
      unfold ValidationRun.onResultsClosed at closed
      split at closed
      · rename_i dead
        exact absurd dead alive
      · cases closed
    | jobSent => exact .inr (.inl (sendJob_cases alive stepped))
    | emissionTaken => exact .inl (emissionEnds_internal stepped)
    | consumerDropped => exact .inl (emissionEnds_internal stepped)
    | actorTakes => exact .inl (actorTakes_internal stepped)
    | actorPrepares providers =>
      exact .inl (actorPrepares_internal (Bool.eq_false_iff.mpr running) returns stepped)
    | actorSends => exact .inl (actorSends_internal stepped)

end Steps

/-- What carries the invariant: the flag is the number of outstanding jobs, and a job is sent only without it. -/
structure ValidationInvariant (prepare : Prepare S β) (state : ValidationRun S) : Prop where
  idle : state.detector.inFlight = false → state.outstanding = []
  busy : state.detector.inFlight = true → ∃ job, state.outstanding = [job] ∧ state.started.getLast? = some job
  starting : ∀ job, state.starting = some job → state.detector.inFlight = false
  prepared : ∀ job result, state.actor = .sending job result ∨ (job, result) ∈ state.results →
    ∃ providers, actorResult prepare providers job.2 = some result
  alive : state.actor ≠ .dead

/-- After a result the flag is up exactly when a job is started again. -/
theorem onResult_flag (detector : Detector) (result : Outcome HostError (DualProofInputsWithWindow S)) :
    (detector.onResult result).detector.inFlight = (detector.onResult result).job.isSome := by
  rcases onResult_cases detector result with
    quiet | ⟨_, restarted⟩ | ⟨dual, _, _, _, _, ⟨_, emitted⟩ | ⟨_, swallowed⟩⟩
  · rw [quiet]
    rfl
  · rw [restarted]
    rfl
  · rw [emitted]
    rfl
  · rw [swallowed]
    rfl

section Kept

variable (kept : ValidationInvariant prepare state)
include kept

theorem ValidationInvariant.of_mem {job : StartedJob} (member : job ∈ state.outstanding) :
    state.detector.inFlight = true ∧ state.outstanding = [job] ∧ state.started.getLast? = some job := by
  cases inFlight : state.detector.inFlight with
  | false =>
    rw [kept.idle inFlight] at member
    cases member
  | true =>
    rcases kept.busy inFlight with ⟨other, alone, last⟩
    rw [alone] at member
    cases List.mem_singleton.mp member
    exact ⟨rfl, alone, last⟩

theorem ValidationInvariant.single : state.Single prepare := by
  refine ⟨⟨?_, ?_⟩, kept.idle, ?_, ?_, ?_⟩
  · intro inFlight
    rcases kept.busy inFlight with ⟨job, alone, _⟩
    rw [alone]
    rfl
  · intro one
    cases inFlight : state.detector.inFlight with
    | false =>
      rw [kept.idle inFlight] at one
      cases one
    | true => rfl
  · intro job pending
    have none := kept.idle (kept.starting job pending)
    rw [(List.append_eq_nil_iff.mp none).2]
    decide
  · intro job result sending
    have member : job ∈ state.outstanding := by simp [ValidationRun.outstanding, sending, ValidationActor.holding]
    have alone := congrArg List.length (ValidationInvariant.of_mem kept member).2.1
    simp only [ValidationRun.outstanding, sending, ValidationActor.holding, List.length_append, List.length_map,
      List.length_singleton] at alone
    show state.results.length < 1
    omega
  · intro job result received
    have member : job ∈ state.outstanding := by
      apply List.mem_append_left
      apply List.mem_append_left
      exact List.mem_map_of_mem received
    exact ⟨(ValidationInvariant.of_mem kept member).2.2, kept.prepared job result (.inr received)⟩

theorem ValidationInvariant.internal (moved : Internal prepare state next) : ValidationInvariant prepare next := by
  refine ⟨?_, ?_, ?_, ?_, fun dead => kept.alive (moved.alive dead)⟩
  · rw [moved.detector, moved.outstanding]
    exact kept.idle
  · rw [moved.detector, moved.outstanding, moved.started]
    exact kept.busy
  · rw [moved.detector, moved.starting]
    exact kept.starting
  · intro job result held
    rcases moved.prepared job result held with before | now
    · exact kept.prepared job result before
    · exact now

theorem ValidationInvariant.updated (detector : Detector) (flag : detector.inFlight = state.detector.inFlight) :
    ValidationInvariant prepare { state with detector := detector } := by
  refine ⟨?_, ?_, ?_, kept.prepared, kept.alive⟩
  · show detector.inFlight = false → state.outstanding = []
    rw [flag]
    exact kept.idle
  · show detector.inFlight = true → ∃ job, state.outstanding = [job] ∧ state.started.getLast? = some job
    rw [flag]
    exact kept.busy
  · show ∀ job, state.starting = some job → detector.inFlight = false
    rw [flag]
    exact kept.starting

theorem ValidationInvariant.jobSent {job : FinalityChangeDetectorJobInput} (pending : state.starting = some job) :
    ValidationInvariant prepare { state with
      detector := { state.detector with inFlight := true }
      starting := none
      jobs := state.jobs ++ [(state.started.length + 1, job)]
      started := state.started ++ [(state.started.length + 1, job)] } := by
  have nothing := kept.idle (kept.starting job pending)
  refine ⟨?_, ?_, ?_, kept.prepared, kept.alive⟩
  · intro idle
    cases idle
  · intro _
    refine ⟨(state.started.length + 1, job), ?_, by simp⟩
    rw [ValidationRun.outstanding, ← List.append_assoc]
    show state.outstanding ++ _ = _
    rw [nothing]
    rfl
  · intro other again
    cases again

/-- Whatever the detector does with nothing outstanding, the flag stays down until a job is sent. -/
theorem ValidationInvariant.reacts {results : List (StartedJob × Except HostError (DualProofInputsWithWindow S))}
    {reaction : Reaction S} (fewer : results ⊆ state.results)
    (nothing : ({ state with results := results } : ValidationRun S).outstanding = [])
    (landed : reaction.job = none → reaction.detector.inFlight = false) :
    ValidationInvariant prepare (({ state with results := results }).reacts reaction) := by
  have down : (({ state with results := results }).reacts reaction).detector.inFlight = false := by
    cases job : reaction.job with
    | none =>
      simp only [ValidationRun.reacts, job]
      exact landed job
    | some input => simp only [ValidationRun.reacts, job]
  refine ⟨fun _ => nothing, ?_, fun _ _ => down, ?_, kept.alive⟩
  · intro busy
    rw [down] at busy
    cases busy
  · intro job result held
    apply kept.prepared job result
    rcases held with sending | received
    · exact .inl sending
    · exact .inr (fewer received)

theorem ValidationInvariant.onTick (noStart : state.starting = none) (noEmission : state.emitting = none) :
    ValidationInvariant prepare (state.reacts state.detector.onTick) := by
  rcases onTick_cases (S := S) state.detector with ⟨_, quiet⟩ | ⟨inFlight, started⟩
  · have unchanged : state.reacts state.detector.quiet = state := by
      show { state with detector := state.detector, starting := none, emitting := none } = state
      rw [← noStart, ← noEmission]
    rw [quiet, unchanged]
    exact kept
  · apply ValidationInvariant.reacts kept (List.Subset.refl _) (kept.idle inFlight)
    intro unstarted
    rw [started] at unstarted
    cases unstarted

theorem ValidationInvariant.onResultReceived
    {received : StartedJob × Except HostError (DualProofInputsWithWindow S)}
    {results : List (StartedJob × Except HostError (DualProofInputsWithWindow S))}
    (pending : state.results = received :: results) :
    ValidationInvariant prepare
      (({ state with results := results }).reacts (state.detector.onResult (fromResult received.2))) := by
  apply ValidationInvariant.reacts kept
  · rw [pending]
    exact List.subset_cons_self _ _
  · have member : received.1 ∈ state.outstanding := by simp [ValidationRun.outstanding, pending]
    have alone := (ValidationInvariant.of_mem kept member).2.1
    rw [ValidationRun.outstanding, pending] at alone
    exact (List.cons.inj alone).2
  · intro unstarted
    rw [onResult_flag, unstarted]
    rfl

theorem validationInvariant_step {event : ValidationEvent β} (returns : PreparationsReturn prepare state event)
    (stepped : state.step prepare event = some next) : ValidationInvariant prepare next := by
  rcases validationStep_cases kept.alive returns stepped with moved | ⟨job, pending, rfl⟩ |
    ⟨noStart, noEmission, ⟨update, rfl⟩ | ⟨update, rfl⟩ | rfl | ⟨received, results, pending, rfl⟩⟩
  · exact ValidationInvariant.internal kept moved
  · exact ValidationInvariant.jobSent kept pending
  · exact ValidationInvariant.updated kept _ rfl
  · exact ValidationInvariant.updated kept _ rfl
  · exact ValidationInvariant.onTick kept noStart noEmission
  · exact ValidationInvariant.onResultReceived kept pending

end Kept

theorem validationInvariant_start (slot : UInt64) (storeHash : B256) (queueCursor : UInt64)
    (pipeline : Option FinalityChangeDetectorUpdate) :
    ValidationInvariant prepare (ValidationRun.start (Detector.start slot storeHash queueCursor pipeline)) := by
  refine ⟨fun _ => rfl, ?_, ?_, ?_, ?_⟩
  · intro busy
    cases busy
  · intro _ _
    rfl
  · intro job result held
    rcases held with sending | received
    · cases sending
    · cases received
  · intro dead
    cases dead

section Refinement

variable {coarse : DetectorRun S}

/-- Both detectors react alike, the coarse one with the job already sent. -/
theorem refines_reacts {reaction : Reaction S}
    (starts : reaction.job.isSome = true → reaction.detector.inFlight = true) :
    (state.reacts reaction).Refines (coarse.after (state.outstanding.map Prod.snd) reaction) := by
  refine ⟨?_, rfl, ?_⟩
  · cases job : reaction.job with
    | none => simp [DetectorRun.after, ValidationRun.startedDetector, ValidationRun.reacts, job]
    | some input =>
      have raised := starts (by rw [job]; rfl)
      simp [DetectorRun.after, ValidationRun.startedDetector, ValidationRun.reacts, job, ← raised]
  · intro dual emitting
    have emitted : reaction.emitted = some dual := emitting
    simp [DetectorRun.after, emitted]

theorem onTick_starts (detector : Detector) :
    (detector.onTick (S := S)).job.isSome = true → (detector.onTick (S := S)).detector.inFlight = true := by
  rcases onTick_cases (S := S) detector with ⟨_, quiet⟩ | ⟨_, started⟩
  · simp [quiet, Detector.quiet]
  · simp [started, Detector.tryStartValidationJob]

/-- What the detector handles the coarse one handles in one step; the actor's steps and the sends it does not see. -/
theorem refines_step {event : ValidationEvent β} (kept : ValidationInvariant prepare state)
    (returns : PreparationsReturn prepare state event) (refines : state.Refines coarse)
    (stepped : state.step prepare event = some next) :
    ∃ events after, run (DetectorRun.step prepare) coarse events = some after ∧ next.Refines after := by
  rcases validationStep_cases kept.alive returns stepped with moved | ⟨job, pending, rfl⟩ |
    ⟨noStart, noEmission, handled⟩
  · refine ⟨[], coarse, rfl, ?_, ?_, ?_⟩
    · rw [refines.detector, ValidationRun.startedDetector, ValidationRun.startedDetector, moved.starting,
        moved.detector]
    · rw [refines.validating, moved.outstanding, moved.starting]
    · intro dual emitting
      exact refines.emitting dual (moved.emitting dual emitting)
  · refine ⟨[], coarse, rfl, ?_, ?_, refines.emitting⟩
    · rw [refines.detector, ValidationRun.startedDetector, pending]
      rfl
    · rw [refines.validating, pending]
      simp [ValidationRun.outstanding]
  · have same : coarse.detector = state.detector := by
      rw [refines.detector, ValidationRun.startedDetector, noStart]
    have validating : coarse.validating = state.outstanding.map Prod.snd := by
      rw [refines.validating, noStart]
      exact List.append_nil _
    rcases handled with ⟨update, rfl⟩ | ⟨update, rfl⟩ | rfl | ⟨received, results, pending, rfl⟩
    · refine ⟨[.stage update], _, rfl, ?_, refines.validating, ?_⟩
      · simp [same, ValidationRun.startedDetector, noStart]
      · simp [noEmission]
    · refine ⟨[.advance update], _, rfl, ?_, refines.validating, ?_⟩
      · simp [same, ValidationRun.startedDetector, noStart]
      · simp [noEmission]
    · refine ⟨[.tick], coarse.after coarse.validating coarse.detector.onTick, rfl, ?_⟩
      rw [same, validating]
      exact refines_reacts (onTick_starts _)
    · rcases kept.prepared received.1 received.2 (.inr (by simp [pending])) with ⟨providers, answered⟩
      have first : coarse.validating =
          received.1.2 :: ({ state with results := results } : ValidationRun S).outstanding.map Prod.snd := by
        rw [validating, ValidationRun.outstanding, pending]
        rfl
      refine ⟨[.result providers], coarse.after _ _, ?_,
        refines_reacts fun started => (onResult_flag _ _).trans started⟩
      simp only [run, DetectorRun.step, first, actorResult_eq_some answered, same]
      rfl

/-- The results about `DetectorRun`, where a job is validated in one step, carry over to the detector with its actor
    and their channels: a run of these in which no preparation panics is a run of that one with the same emissions. -/
theorem validation_refines {slot : UInt64} {storeHash : B256} {queueCursor : UInt64}
    {pipeline : Option FinalityChangeDetectorUpdate} {events : List (ValidationEvent β)}
    (returns : Along (ValidationRun.step prepare) (PreparationsReturn prepare)
      (ValidationRun.start (Detector.start slot storeHash queueCursor pipeline)) events)
    (reached : run (ValidationRun.step prepare)
      (ValidationRun.start (Detector.start slot storeHash queueCursor pipeline)) events = some state) :
    ∃ coarseEvents coarse, run (DetectorRun.step prepare)
        (DetectorRun.start (Detector.start slot storeHash queueCursor pipeline)) coarseEvents = some coarse ∧
      state.Refines coarse := by
  have preserved : ∀ (state : ValidationRun S) (event : ValidationEvent β) (next : ValidationRun S),
      (ValidationInvariant prepare state ∧ ∃ coarseEvents coarse, run (DetectorRun.step prepare)
        (DetectorRun.start (Detector.start slot storeHash queueCursor pipeline)) coarseEvents = some coarse ∧
        state.Refines coarse) → PreparationsReturn prepare state event → state.step prepare event = some next →
      ValidationInvariant prepare next ∧ ∃ coarseEvents coarse, run (DetectorRun.step prepare)
        (DetectorRun.start (Detector.start slot storeHash queueCursor pipeline)) coarseEvents = some coarse ∧
        next.Refines coarse := by
    rintro state event next ⟨kept, coarseEvents, coarse, before, refines⟩ condition stepped
    rcases refines_step kept condition refines stepped with ⟨more, after, ran, refined⟩
    exact ⟨validationInvariant_step kept condition stepped, coarseEvents ++ more, after,
      run_append.mpr ⟨coarse, before, ran⟩, refined⟩
  apply (run_invariant preserved ⟨validationInvariant_start slot storeHash queueCursor pipeline, [], _, rfl, ?_⟩ returns
    reached).2
  refine ⟨rfl, rfl, ?_⟩
  intro dual emitting
  cases emitting

theorem emitting_fresh {slot : UInt64} {storeHash : B256} {queueCursor : UInt64}
    {pipeline : Option FinalityChangeDetectorUpdate} {events : List (ValidationEvent β)}
    (returns : Along (ValidationRun.step prepare) (PreparationsReturn prepare)
      (ValidationRun.start (Detector.start slot storeHash queueCursor pipeline)) events)
    (reached : run (ValidationRun.step prepare)
      (ValidationRun.start (Detector.start slot storeHash queueCursor pipeline)) events = some state)
    {dual : DualProofInputsWithWindow S} (emitting : state.emitting = some dual) :
    ∃ detector, FreshEmission prepare detector dual ∧ ProgressFrom detector.latestSlot dual := by
  rcases validation_refines returns reached with ⟨coarseEvents, coarse, ran, refines⟩
  exact emitted_fresh ran dual (refines.emitting dual emitting)

end Refinement

/-- A preparation that panics leaves the flag raised over no job at all. -/
theorem panic_not_single {providers : β × β} {job : StartedJob} (single : state.Single prepare)
    (running : state.stopped = false) (preparing : state.actor = .preparing job)
    (panics : actorResult prepare providers job.2 = none) :
    ∃ next, state.step prepare (.actorPrepares providers) = some next ∧ ¬ next.Single prepare := by
  have stepped : state.step prepare (.actorPrepares providers) = some { state with actor := .dead, jobs := [] } := by
    simp [ValidationRun.step, running, ValidationRun.running, ValidationRun.actorPrepares, preparing, panics]
  refine ⟨_, stepped, ?_⟩
  have inFlight : state.detector.inFlight = true := by
    by_contra down
    have nothing := single.unflagged (Bool.eq_false_iff.mpr down)
    simp [ValidationRun.outstanding, preparing, ValidationActor.holding] at nothing
  have before := single.flagged.mp inFlight
  simp only [ValidationRun.outstanding, preparing, ValidationActor.holding, List.length_append, List.length_map,
    List.length_singleton] at before
  intro after
  have still := after.flagged.mp inFlight
  simp only [ValidationRun.outstanding, ValidationActor.holding, List.length_append, List.length_map,
    List.length_nil] at still
  omega

/-- At most one validation job is outstanding along a run exactly when no preparation of the run panics. -/
theorem single_validation_iff {S : ConsensusSpec} {β : Type} (prepare : Prepare S β) (slot : UInt64)
    (storeHash : B256) (queueCursor : UInt64) (pipeline : Option FinalityChangeDetectorUpdate)
    (events : List (ValidationEvent β)) :
    (∀ done rest state, events = done ++ rest →
      run (ValidationRun.step prepare) (ValidationRun.start (Detector.start slot storeHash queueCursor pipeline)) done =
        some state → state.Single prepare) ↔
    Along (ValidationRun.step prepare) (PreparationsReturn prepare)
      (ValidationRun.start (Detector.start slot storeHash queueCursor pipeline)) events := by
  constructor
  · intro single
    apply along_iff.mpr
    intro done event rest state whole reached providers job prepares running preparing
    subst prepares
    apply actorResult_isSome_iff.mp
    by_contra unanswered
    have panics : actorResult prepare providers job.2 = none := Option.not_isSome_iff_eq_none.mp unanswered
    have before := single done (.actorPrepares providers :: rest) state whole reached
    rcases panic_not_single before running preparing panics with ⟨next, stepped, broken⟩
    apply broken
    apply single (done ++ [.actorPrepares providers]) rest next
    · rw [whole, List.append_assoc]
      rfl
    · exact run_append.mpr ⟨state, reached, run_cons_iff.mpr ⟨next, stepped, rfl⟩⟩
  · intro along done rest state whole reached
    rw [whole] at along
    exact ValidationInvariant.single (run_invariant
      (fun state event next kept returns stepped => validationInvariant_step kept returns stepped)
      (validationInvariant_start slot storeHash queueCursor pipeline) (along_take along) reached)

section Sample

open NoriModel.Sample

/-- The principal execution provider answers with a count of 256, the backup is honest. -/
def oversizedProxy : ConsensusHttpProxy Minimal.spec :=
  { proxy store0 header1 world1 with
    executionProxy := ⟨world1.oversized, [world1.attempt], inOrder, queueAddress, 300, 100⟩ }

def panickingEvents : List (ValidationEvent (ConsensusHttpProxy Minimal.spec)) :=
  [.tick, .jobSent, .actorTakes, .actorPrepares (oversizedProxy, oversizedProxy)]

/-- The actor dies of one provider's answer: the flag says that a job is outstanding, and there is none. -/
theorem flag_without_job : ∃ state : ValidationRun Minimal.spec,
    run (ValidationRun.step (preparing known.crypto))
      (ValidationRun.start (Detector.start 64 syncedStoreHash0 0 none)) panickingEvents = some state ∧
    state.stopped = false ∧ state.detector.inFlight = true ∧ state.outstanding = [] ∧
    ¬ (state.detector.inFlight = true ↔ state.outstanding.length = 1) := by
  have reaches : (run (ValidationRun.step (preparing known.crypto))
      (ValidationRun.start (Detector.start 64 syncedStoreHash0 0 none)) panickingEvents).any (fun state =>
        !state.stopped && state.detector.inFlight && state.outstanding.isEmpty) = true := by decide +kernel
  rcases (Option.any_eq_true _ _).mp reaches with ⟨state, reached, facts⟩
  simp only [Bool.and_eq_true, Bool.not_eq_true', List.isEmpty_iff] at facts
  rcases facts with ⟨⟨running, inFlight⟩, nothing⟩
  refine ⟨state, reached, running, inFlight, nothing, ?_⟩
  intro flagged
  have one := flagged.mp inFlight
  rw [nothing] at one
  cases one

end Sample

end NoriProof
