import NoriBridgeHead.BridgeHead.CircularWait

open Foundation Foundation.Transition

namespace NoriModel

variable {S : ConsensusSpec} {β : Type}

/-- The tasks that run as long as the process does. -/
inductive Actor where
  | observer
  | bridge
  | detector
  | validation
deriving DecidableEq

/-- The process that `main` leaves running until it is interrupted. A task that ends drops its ends of the channels,
    and nobody reads what is left in a channel of its own. -/
structure Process (S : ConsensusSpec) where
  system : System S
  running : Actor → Bool
  exited : Bool

inductive ProcessEvent (β : Type) where
  | task (event : SystemEvent β)
  | panics (actor : Actor)
  | closes (actor : Actor)
  | ctrlC

def BridgeHeadSend.receiver : BridgeHeadSend S → Actor
  | .event _ => .observer
  | .stageUpdate _ | .advanceUpdate _ => .detector

namespace Process

def start (slot : UInt64) (storeHash : B256) (queueCursor latestBeaconSlot : UInt64) : Process S where
  system := System.start slot storeHash queueCursor latestBeaconSlot
  running := fun _ => true
  exited := false

def stop (process : Process S) (actor : Actor) : Process S :=
  { process with running := Function.update process.running actor false }

/-- `panic_more`. -/
def exit (process : Process S) : Process S := { process with exited := true }

/-- The task that takes the step, and the one that it sends to. -/
def needs (process : Process S) : SystemEvent β → List Actor
  | .observerHandles => [.observer]
  | .observerSends => [.observer, .bridge]
  | .bridgeHandlesFinality | .bridgeHandlesCommand | .bridgeHandlesJobResult => [.bridge]
  | .bridgeSends => .bridge :: (process.system.bridgeSends.head?.map BridgeHeadSend.receiver).toList
  | .proverProves _ _ | .proverFails _ _ => [.bridge]
  | .detectorHandlesStage | .detectorHandlesAdvance => [.detector]
  | .detectorTicks => if process.system.detector.inFlight then [.detector] else [.detector, .validation]
  | .detectorHandlesResult _ => [.detector, .validation]
  | .detectorSends => [.detector, .bridge]

/-- The observer ends the process where it cannot go on, the event loop only itself. -/
def after (process : Process S) (system : System S) : Process S where
  system := system
  running := if system.bridgeStopped then Function.update process.running .bridge false else process.running
  exited := system.observerStopped

/-- A task finds a channel closed: it waits to send to a task that has ended, or it has read all that a task that has
    ended had sent. What the actor had not sent yet is lost with it. -/
def findsClosed (process : Process S) : Actor → Bool
  | .observer => !process.running .bridge && (!process.system.observerSends.isEmpty || process.system.events.isEmpty)
  | .bridge =>
    match process.system.bridgeSends with
    | send :: _ => !process.running send.receiver
    | [] => (!process.running .observer && process.system.commands.isEmpty) ||
      (!process.running .detector && process.system.finalityOutput.isEmpty)
  | .detector =>
    match process.system.detectorSends with
    | some _ => !process.running .bridge
    | none => !process.running .validation || (!process.running .bridge &&
      (process.system.stageUpdates.isEmpty || process.system.advanceUpdates.isEmpty))
  | .validation => !process.running .detector

def ends (process : Process S) : Actor → Process S
  | .observer => process.exit
  | .bridge => process.stop .bridge
  | .detector => process.stop .detector
  | .validation => process.stop .validation

def step (prepare : Prepare S β) (process : Process S) (event : ProcessEvent β) : Option (Process S) :=
  if process.exited then none
  else
    match event with
    | .task event =>
      if (process.needs event).all process.running then (process.system.step prepare event).map process.after else none
    | .panics actor => if process.running actor then some (process.stop actor) else none
    | .closes actor => if process.running actor && process.findsClosed actor then some (process.ends actor) else none
    | .ctrlC => some process.exit

def work (process : Process S) : Nat :=
  process.system.work + (process.running .observer).toNat + (process.running .bridge).toNat +
    (process.running .detector).toNat + (process.running .validation).toNat + (!process.exited).toNat

end Process

def ProcessEvent.internal : ProcessEvent β → Bool
  | .task event => event.internal
  | .closes _ => true
  | .panics _ | .ctrlC => false

/-- No task can take a step of its own. -/
def Halted (prepare : Prepare S β) (process : Process S) : Prop :=
  ∀ event, ProcessEvent.internal event = true → process.step prepare event = none

/-- Every task has ended, and the process waits for an interrupt. -/
def Dead (process : Process S) : Prop := process.exited = false ∧ ∀ actor, process.running actor = false

/-- The event loop and the detector run and wait for each other. -/
def Stuck (process : Process S) : Prop :=
  process.running .bridge = true ∧ process.running .detector = true ∧ CircularWait process.system

/-- What the end of a task comes to, by whether the observer was still there. -/
inductive Finished (observer : Bool) (process : Process S) : Prop
  | exits (exited : process.exited = true) (watched : observer = true)
  | dead (dead : Dead process) (unwatched : observer = false)
  | stuck (stuck : Stuck process)

structure ProcessInvariant (process : Process S) : Prop where
  observerRuns : process.exited = false → process.system.observerStopped = false
  bridgeRuns : process.running .bridge = true → process.system.bridgeStopped = false
  held : process.exited = false → process.running .observer = true → process.running .bridge = true →
    ∃ token, TokenInvariant process.system token

end NoriModel

namespace NoriProof

open NoriModel

variable {S : ConsensusSpec} {β : Type} {prepare : Prepare S β} {process next later : Process S}

section Steps

theorem taskStep_cases {event : SystemEvent β} (stepped : process.step prepare (.task event) = some next) :
    ∃ system, process.exited = false ∧ (∀ actor ∈ process.needs event, process.running actor = true) ∧
      process.system.step prepare event = some system ∧ next = process.after system := by
  unfold Process.step at stepped
  split at stepped
  · cases stepped
  · rename_i up
    dsimp only at stepped
    split at stepped
    · rename_i needed
      rcases Option.map_eq_some_iff.mp stepped with ⟨system, taken, same⟩
      exact ⟨system, Bool.eq_false_iff.mpr up, List.all_eq_true.mp needed, taken, same.symm⟩
    · cases stepped

theorem panics_cases {actor : Actor} (stepped : process.step prepare (.panics actor) = some next) :
    process.exited = false ∧ process.running actor = true ∧ next = process.stop actor := by
  unfold Process.step at stepped
  split at stepped
  · cases stepped
  · rename_i up
    dsimp only at stepped
    split at stepped
    · rename_i runs
      exact ⟨Bool.eq_false_iff.mpr up, runs, (Option.some.inj stepped).symm⟩
    · cases stepped

theorem closes_cases {actor : Actor} (stepped : process.step prepare (.closes actor) = some next) :
    process.exited = false ∧ process.running actor = true ∧ process.findsClosed actor = true ∧
      next = process.ends actor := by
  unfold Process.step at stepped
  split at stepped
  · cases stepped
  · rename_i up
    dsimp only at stepped
    split at stepped
    · rename_i both
      rcases Bool.and_eq_true_iff.mp both with ⟨runs, closed⟩
      exact ⟨Bool.eq_false_iff.mpr up, runs, closed, (Option.some.inj stepped).symm⟩
    · cases stepped

theorem stop_running (process : Process S) (actor other : Actor) :
    (process.stop actor).running other = true ↔ other ≠ actor ∧ process.running other = true := by
  by_cases same : other = actor <;> simp [Process.stop, same]

/-- Only the observer takes the process with it. -/
theorem ends_of_ne {actor : Actor} (other : actor ≠ .observer) : process.ends actor = process.stop actor := by
  cases actor with
  | observer => exact absurd rfl other
  | bridge | detector | validation => rfl

theorem after_running {system : System S} {other : Actor} :
    (process.after system).running other = true ↔
      (other = .bridge → system.bridgeStopped = false) ∧ process.running other = true := by
  unfold Process.after
  cases stopped : system.bridgeStopped with
  | false => simp
  | true => by_cases same : other = .bridge <;> simp [same]

end Steps

section Invariant

theorem processInvariant_start (slot : UInt64) (storeHash : B256) (queueCursor latestBeaconSlot : UInt64) :
    ProcessInvariant (Process.start (S := S) slot storeHash queueCursor latestBeaconSlot) where
  observerRuns := fun _ => rfl
  bridgeRuns := fun _ => rfl
  held := fun _ _ _ => ⟨_, tokenInvariant_start slot storeHash queueCursor latestBeaconSlot⟩

theorem processInvariant_stop (kept : ProcessInvariant process) (actor : Actor) :
    ProcessInvariant (process.stop actor) where
  observerRuns := kept.observerRuns
  bridgeRuns := fun runs => kept.bridgeRuns ((stop_running process actor _).mp runs).2
  held := fun up observer bridge =>
    kept.held up ((stop_running process actor _).mp observer).2 ((stop_running process actor _).mp bridge).2

theorem processInvariant_exit (kept : ProcessInvariant process) : ProcessInvariant process.exit := by
  refine ⟨?_, kept.bridgeRuns, ?_⟩
  · intro up
    cases up
  · intro up
    cases up

theorem processInvariant_step {event : ProcessEvent β} (kept : ProcessInvariant process)
    (stepped : process.step prepare event = some next) : ProcessInvariant next := by
  cases event with
  | task event =>
    rcases taskStep_cases stepped with ⟨system, up, _, taken, rfl⟩
    refine ⟨fun up => up, fun runs => (after_running.mp runs).1 rfl, ?_⟩
    intro _ observer bridge
    exact tokenInvariant_step (kept.held up (after_running.mp observer).2 (after_running.mp bridge).2) taken
  | panics actor =>
    rcases panics_cases stepped with ⟨_, _, rfl⟩
    exact processInvariant_stop kept actor
  | closes actor =>
    rcases closes_cases stepped with ⟨_, _, _, rfl⟩
    by_cases observer : actor = .observer
    · subst observer
      exact processInvariant_exit kept
    · rw [ends_of_ne observer]
      exact processInvariant_stop kept actor
  | ctrlC =>
    unfold Process.step at stepped
    split at stepped
    · cases stepped
    · cases stepped
      exact processInvariant_exit kept

end Invariant

section Own

theorem stop_work {actor : Actor} (runs : process.running actor = true) :
    (process.stop actor).work < process.work := by
  cases actor <;> simp [Process.work, Process.stop, runs]

theorem exit_work (up : process.exited = false) : process.exit.work < process.work := by
  simp [Process.work, Process.exit, up]

theorem after_work {system : System S} (up : process.exited = false) (less : system.work < process.system.work) :
    (process.after system).work < process.work := by
  have live : (!system.observerStopped).toNat ≤ 1 := Bool.toNat_le _
  unfold Process.work Process.after
  dsimp only
  split
  · simp [up]
    omega
  · simp [up]
    omega

/-- Every step that a task takes on its own leaves less work. -/
theorem own_work {event : ProcessEvent β} (own : event.internal = true)
    (stepped : process.step prepare event = some next) : next.work < process.work := by
  cases event with
  | task event =>
    rcases taskStep_cases stepped with ⟨system, up, _, taken, rfl⟩
    exact after_work up (internal_less own taken)
  | closes actor =>
    rcases closes_cases stepped with ⟨up, runs, _, rfl⟩
    by_cases observer : actor = .observer
    · subst observer
      exact exit_work up
    · rw [ends_of_ne observer]
      exact stop_work runs
  | panics actor => cases own
  | ctrlC => cases own

/-- Only the observer ends the process, and no task ends the observer. -/
structure Watched (before after : Process S) : Prop where
  observer : after.running .observer = before.running .observer
  exits : after.exited = true → before.running .observer = true
  others : ∀ actor, after.running actor = true → before.running actor = true

theorem watched_step {event : ProcessEvent β} (kept : ProcessInvariant process) (own : event.internal = true)
    (stepped : process.step prepare event = some next) : Watched process next := by
  cases event with
  | task event =>
    rcases taskStep_cases stepped with ⟨system, up, needed, taken, rfl⟩
    refine ⟨?_, ?_, fun actor runs => (after_running.mp runs).2⟩
    · unfold Process.after
      dsimp only
      split <;> simp
    · intro stopped
      have stopped : system.observerStopped = true := stopped
      rcases step_observerStops taken with rfl | same
      · exact needed .observer (by simp [Process.needs])
      · rw [same, kept.observerRuns up] at stopped
        cases stopped
  | closes actor =>
    rcases closes_cases stepped with ⟨up, runs, _, rfl⟩
    by_cases observer : actor = .observer
    · subst observer
      exact ⟨rfl, fun _ => runs, fun _ runs => runs⟩
    · rw [ends_of_ne observer]
      refine ⟨?_, ?_, fun _ runs => ((stop_running ..).mp runs).2⟩
      · simp [Process.stop, Ne.symm observer]
      · intro exited
        cases up.symm.trans exited
  | panics actor => cases own
  | ctrlC => cases own

end Own

section Halted

variable (kept : ProcessInvariant process) (up : process.exited = false) (halted : Halted prepare process)
include up halted

theorem halted_task (event : SystemEvent β) (own : event.internal = true)
    (needed : ∀ actor ∈ process.needs event, process.running actor = true) :
    process.system.step prepare event = none := by
  have none := halted (.task event) own
  simp only [Process.step, up, Bool.false_eq_true, ↓reduceIte, List.all_eq_true.mpr needed, Option.map_eq_none_iff]
    at none
  exact none

theorem halted_open {actor : Actor} (runs : process.running actor = true) : process.findsClosed actor = false := by
  have none := halted (.closes actor) rfl
  simp only [Process.step, up, Bool.false_eq_true, ↓reduceIte, runs, Bool.true_and] at none
  split at none
  · cases none
  · rename_i closed
    exact Bool.eq_false_iff.mpr closed

theorem halted_detector_idle (runs : process.running .detector = true) (idle : process.system.detectorSends = none) :
    process.system.stageUpdates = [] ∧ process.system.advanceUpdates = [] ∧ process.running .validation = true ∧
      process.running .bridge = true := by
  have stages : process.system.stageUpdates = [] := by
    by_contra busy
    rcases List.exists_cons_of_ne_nil busy with ⟨update, rest, pending⟩
    have none := halted_task up halted .detectorHandlesStage rfl (by simp [Process.needs, runs])
    simp [System.step, System.detectorHandlesStage, idle, pending] at none
  have advances : process.system.advanceUpdates = [] := by
    by_contra busy
    rcases List.exists_cons_of_ne_nil busy with ⟨update, rest, pending⟩
    have none := halted_task up halted .detectorHandlesAdvance rfl (by simp [Process.needs, runs])
    simp [System.step, System.detectorHandlesAdvance, idle, pending] at none
  have others := halted_open up halted runs
  simp only [Process.findsClosed, idle, stages, advances, List.isEmpty_nil, Bool.or_self, Bool.and_true,
    Bool.or_eq_false_iff, Bool.not_eq_false'] at others
  exact ⟨stages, advances, others⟩

theorem halted_detector_sends (runs : process.running .detector = true) {dual : DualProofInputsWithWindow S}
    (pending : process.system.detectorSends = some dual) :
    process.running .bridge = true ∧ finalityCapacity ≤ process.system.finalityOutput.length := by
  have bridge := halted_open up halted runs
  simp only [Process.findsClosed, pending, Bool.not_eq_false'] at bridge
  refine ⟨bridge, ?_⟩
  apply Nat.le_of_not_lt
  intro room
  have none := halted_task up halted .detectorSends rfl (by simp [Process.needs, runs, bridge])
  simp [System.step, System.detectorSendsNext, pending, room] at none

theorem halted_bridge_sends (runs : process.running .bridge = true) {send : BridgeHeadSend S}
    {rest : List (BridgeHeadSend S)} (pending : process.system.bridgeSends = send :: rest) :
    process.running send.receiver = true ∧ process.system.bridgeSendsNext = none := by
  have receives := halted_open up halted runs
  simp only [Process.findsClosed, pending, Bool.not_eq_false'] at receives
  refine ⟨receives, halted_task up halted .bridgeSends rfl ?_⟩
  simp [Process.needs, pending, runs, receives]

include kept

theorem halted_observer (observer : process.running .observer = true) (bridge : process.running .bridge = true) :
    process.system.observerSends = [] ∧ process.system.events = [] := by
  rcases kept.held up observer bridge with ⟨token, held⟩
  have sends : process.system.observerSends = [] := by
    by_contra busy
    rcases List.exists_cons_of_ne_nil busy with ⟨command, rest, pending⟩
    have bounded := pendingCommands_bounded held
    rw [System.pendingCommands, pending, List.length_append, List.length_cons] at bounded
    have room : process.system.commands.length < commandCapacity := by omega
    have none := halted_task up halted .observerSends rfl (by simp [Process.needs, observer, bridge])
    simp [System.step, System.observerSendsNext, pending, room] at none
  refine ⟨sends, ?_⟩
  by_contra busy
  rcases List.exists_cons_of_ne_nil busy with ⟨event, rest, pending⟩
  rcases tokenInvariant_onEvent held sends pending with ⟨_, _, _, handled, _⟩
  have none := halted_task up halted .observerHandles rfl (by simp [Process.needs, observer])
  simp [System.step, System.observerHandles, held.observerRuns, sends, pending, handled] at none

/-- An event loop with nothing to send ends as soon as the observer or the detector has. -/
theorem halted_bridge_ready (runs : process.running .bridge = true) (quiet : process.system.bridgeSends = []) :
    process.system.finalityOutput = [] ∧ process.running .observer = true ∧ process.running .detector = true := by
  have ready : process.system.bridgeReady = true := bridgeReady_iff.mpr ⟨kept.bridgeRuns runs, quiet⟩
  have commands : process.system.commands = [] := by
    by_contra busy
    rcases List.exists_cons_of_ne_nil busy with ⟨command, rest, pending⟩
    have none := halted_task up halted .bridgeHandlesCommand rfl (by simp [Process.needs, runs])
    simp [System.step, System.bridgeHandlesCommand, ready, pending] at none
  have finality : process.system.finalityOutput = [] := by
    by_contra busy
    rcases List.exists_cons_of_ne_nil busy with ⟨dual, rest, pending⟩
    have none := halted_task up halted .bridgeHandlesFinality rfl (by simp [Process.needs, runs])
    simp [System.step, System.bridgeHandlesFinality, ready, pending] at none
  have others := halted_open up halted runs
  simp only [Process.findsClosed, quiet, commands, finality, List.isEmpty_nil, Bool.and_true, Bool.or_eq_false_iff,
    Bool.not_eq_false'] at others
  exact ⟨finality, others⟩

theorem halted_observer_down (ended : process.running .bridge = false) : process.running .observer = false := by
  by_contra observer
  have observer : process.running .observer = true := by simpa using observer
  have others := halted_open up halted observer
  simp only [Process.findsClosed, ended, Bool.not_false, Bool.true_and, Bool.or_eq_false_iff, Bool.not_eq_false',
    List.isEmpty_iff, List.isEmpty_eq_false_iff] at others
  rcases List.exists_cons_of_ne_nil others.2 with ⟨event, rest, pending⟩
  have none := halted_task up halted .observerHandles rfl (by simp [Process.needs, observer])
  simp only [System.step, System.observerHandles, kept.observerRuns up, others.1, pending] at none
  split at none <;> cases none

theorem halted_dead (ended : process.running .bridge = false) : Dead process := by
  have observer := halted_observer_down kept up halted ended
  have detector : process.running .detector = false := by
    by_contra runs
    have runs : process.running .detector = true := by simpa using runs
    cases sends : process.system.detectorSends with
    | none =>
      rw [(halted_detector_idle up halted runs sends).2.2.2] at ended
      cases ended
    | some dual =>
      rw [(halted_detector_sends up halted runs sends).1] at ended
      cases ended
  have validation : process.running .validation = false := by
    by_contra runs
    have runs : process.running .validation = true := by simpa using runs
    have opened := halted_open up halted runs
    simp [Process.findsClosed, detector] at opened
  refine ⟨up, ?_⟩
  intro actor
  cases actor <;> assumption

theorem halted_running (bridge : process.running .bridge = true) (free : ¬ Stuck process) :
    ∀ actor, process.running actor = true := by
  have idle : process.running .detector = true → process.system.detectorSends = none := by
    intro runs
    by_contra sending
    rcases Option.ne_none_iff_exists'.mp sending with ⟨dual, pending⟩
    have full := (halted_detector_sends up halted runs pending).2
    have waits : process.system.detectorSends.isSome = true := by simp [pending]
    cases sends : process.system.bridgeSends with
    | nil =>
      rw [(halted_bridge_ready kept up halted bridge sends).1] at full
      cases full
    | cons send rest =>
      rcases halted_bridge_sends up halted bridge sends with ⟨receives, blocked⟩
      cases send with
      | event event =>
        have read := (halted_observer kept up halted receives bridge).2
        simp [System.bridgeSendsNext, sends, read, eventCapacity] at blocked
      | stageUpdate update =>
        have noRoom : updateCapacity ≤ process.system.stageUpdates.length := by
          simpa [System.bridgeSendsNext, sends] using blocked
        exact free ⟨bridge, runs, waits, full, .inl ⟨update, rest, sends, noRoom⟩⟩
      | advanceUpdate update =>
        have noRoom : updateCapacity ≤ process.system.advanceUpdates.length := by
          simpa [System.bridgeSendsNext, sends] using blocked
        exact free ⟨bridge, runs, waits, full, .inr ⟨update, rest, sends, noRoom⟩⟩
  have quiet : process.system.bridgeSends = [] := by
    by_contra busy
    rcases List.exists_cons_of_ne_nil busy with ⟨send, rest, sends⟩
    rcases halted_bridge_sends up halted bridge sends with ⟨receives, blocked⟩
    cases send with
    | event event =>
      have read := (halted_observer kept up halted receives bridge).2
      simp [System.bridgeSendsNext, sends, read, eventCapacity] at blocked
    | stageUpdate update =>
      have taken := (halted_detector_idle up halted receives (idle receives)).1
      simp [System.bridgeSendsNext, sends, taken, updateCapacity] at blocked
    | advanceUpdate update =>
      have taken := (halted_detector_idle up halted receives (idle receives)).2.1
      simp [System.bridgeSendsNext, sends, taken, updateCapacity] at blocked
  rcases halted_bridge_ready kept up halted bridge quiet with ⟨_, observer, detector⟩
  have validation := (halted_detector_idle up halted detector (idle detector)).2.2.1
  intro actor
  cases actor <;> assumption

end Halted

theorem Watched.step {event : ProcessEvent β} {state : Process S} (watched : Watched process state)
    (kept : ProcessInvariant state) (own : event.internal = true) (stepped : state.step prepare event = some next) :
    Watched process next := by
  have further := watched_step kept own stepped
  refine ⟨further.observer.trans watched.observer, ?_, ?_⟩
  · intro exited
    rw [← watched.observer]
    exact further.exits exited
  · intro actor runs
    exact watched.others actor (further.others actor runs)

theorem watched_run {steps : List (ProcessEvent β)} (kept : ProcessInvariant process) (up : process.exited = false)
    (own : ∀ step ∈ steps, ProcessEvent.internal step = true)
    (reached : run (Process.step prepare) process steps = some later) :
    ProcessInvariant later ∧ Watched process later := by
  have still : Watched process process := by
    refine ⟨rfl, ?_, fun _ runs => runs⟩
    intro exited
    rw [up] at exited
    cases exited
  have preserved : ∀ (state : Process S) (event : ProcessEvent β) (next : Process S),
      ProcessInvariant state ∧ Watched process state → event.internal = true →
      state.step prepare event = some next → ProcessInvariant next ∧ Watched process next := by
    intro state event next both own stepped
    exact ⟨processInvariant_step both.1 stepped, Watched.step both.2 both.1 own stepped⟩
  exact run_invariant preserved ⟨kept, still⟩ (along_of_forall own) reached

/-- Without a task, only an interrupt is left to happen. -/
theorem dead_stays {event : ProcessEvent β} (dead : Dead process) (stepped : process.step prepare event = some next) :
    event = .ctrlC := by
  cases event with
  | task event =>
    rcases taskStep_cases stepped with ⟨_, _, needed, _⟩
    have some : ∃ actor, actor ∈ process.needs event := by
      cases event <;> simp [Process.needs]
      split <;> simp
    rcases some with ⟨actor, member⟩
    cases (dead.2 actor).symm.trans (needed actor member)
  | panics actor =>
    rcases panics_cases stepped with ⟨_, runs, _⟩
    cases (dead.2 actor).symm.trans runs
  | closes actor =>
    rcases closes_cases stepped with ⟨_, runs, _⟩
    cases (dead.2 actor).symm.trans runs
  | ctrlC => rfl

/-- Once a task has ended, the others follow within a bound, whatever their order. The process exits if the observer
    was still there to see it; otherwise every task ends and the process stays up without one. Only a circular wait
    of the event loop and the detector holds this up. -/
theorem failures_spread (prepare : Prepare S β) (slot : UInt64) (storeHash : B256)
    (queueCursor latestBeaconSlot : UInt64) (events : List (ProcessEvent β)) (process : Process S)
    (reached : run (Process.step prepare) (Process.start slot storeHash queueCursor latestBeaconSlot) events =
      some process)
    (up : process.exited = false) (ended : Actor) (failed : process.running ended = false)
    (steps : List (ProcessEvent β)) (later : Process S)
    (own : ∀ step ∈ steps, ProcessEvent.internal step = true)
    (after : run (Process.step prepare) process steps = some later) :
    steps.length ≤ process.work ∧ (Halted prepare later → Finished (process.running .observer) later) ∧
      (Dead later → ∀ event next, later.step prepare event = some next → event = .ctrlC) := by
  have kept : ProcessInvariant process :=
    reachable_invariant (fun _ _ _ before stepped => processInvariant_step before stepped)
      (processInvariant_start slot storeHash queueCursor latestBeaconSlot) reached
  rcases watched_run kept up own after with ⟨still, watched⟩
  have bounded : steps.length + later.work ≤ process.work :=
    run_length_le (fun _ _ _ own stepped => own_work own stepped) own after
  refine ⟨by omega, ?_, fun dead event next stepped => dead_stays dead stepped⟩
  intro halted
  by_cases exited : later.exited = true
  · exact .exits exited (watched.exits exited)
  · have stays : later.exited = false := Bool.eq_false_iff.mpr exited
    cases bridge : later.running .bridge with
    | false =>
      have dead := halted_dead still stays halted bridge
      exact .dead dead (watched.observer.symm.trans (dead.2 .observer))
    | true =>
      by_cases stuck : Stuck later
      · exact .stuck stuck
      · have runs := watched.others ended (halted_running still stays halted bridge stuck ended)
        cases failed.symm.trans runs

section Sample

open NoriModel.Sample

/-- The observer panics over the first proof, for one of whose files there is no room. -/
def unsavedProofEvents : List (ProcessEvent (ConsensusHttpProxy Minimal.spec)) :=
  stagingEvents.map .task ++
    [.task (.proverProves 0 firstOutputs), .task .bridgeHandlesJobResult, .task .bridgeSends, .task .bridgeSends,
      .task .observerHandles, .task .observerHandles, .panics .observer]

def closingEvents : List (ProcessEvent (ConsensusHttpProxy Minimal.spec)) :=
  [.closes .bridge, .closes .detector, .closes .validation]

theorem failures_spread_sample : ∃ process later : Process Minimal.spec,
    run (Process.step (preparing known.crypto)) (Process.start 64 syncedStoreHash0 0 96) unsavedProofEvents =
      some process ∧
    run (Process.step (preparing known.crypto)) process closingEvents = some later ∧
    Halted (preparing known.crypto) later ∧ Dead later ∧ Finished false later := by
  have reaches : (run (Process.step (preparing known.crypto)) (Process.start 64 syncedStoreHash0 0 96)
      unsavedProofEvents).any (fun process => !process.exited && (!process.running .observer &&
        (run (Process.step (preparing known.crypto)) process closingEvents).any fun later =>
          !later.exited && (!later.running .observer && (!later.running .bridge && (!later.running .detector &&
            !later.running .validation))))) = true := by decide +kernel
  rcases (Option.any_eq_true _ _).mp reaches with ⟨process, reached, facts⟩
  simp only [Bool.and_eq_true, Bool.not_eq_true'] at facts
  rcases facts with ⟨up, panicked, closing⟩
  rcases (Option.any_eq_true _ _).mp closing with ⟨later, after, facts⟩
  simp only [Bool.and_eq_true, Bool.not_eq_true'] at facts
  rcases facts with ⟨stays, observer, bridge, detector, validation⟩
  have dead : Dead later := by
    refine ⟨stays, ?_⟩
    intro actor
    cases actor <;> assumption
  rcases failures_spread (preparing known.crypto) 64 syncedStoreHash0 0 96 _ process reached up .observer panicked
    closingEvents later (by decide) after with ⟨_, finishes, waits⟩
  have halted : Halted (preparing known.crypto) later := by
    intro event own
    by_contra moves
    rcases Option.ne_none_iff_exists'.mp moves with ⟨next, stepped⟩
    cases waits dead event next stepped
    cases own
  have finished := finishes halted
  rw [panicked] at finished
  exact ⟨process, later, reached, after, halted, dead, finished⟩

end Sample

end NoriProof
