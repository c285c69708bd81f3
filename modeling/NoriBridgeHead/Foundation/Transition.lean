import Mathlib.Data.List.Basic

namespace Foundation.Transition

variable {σ ε : Type} (step : σ → ε → Option σ)

def run (start : σ) : List ε → Option σ
  | [] => some start
  | event :: events => (step start event).bind fun next => run next events

/-- Every step of a run meets a condition on the state before it and on its event. -/
def Along (condition : σ → ε → Prop) (start : σ) : List ε → Prop
  | [] => True
  | event :: events => condition start event ∧ ∀ next, step start event = some next → Along condition next events

/-- Somewhere in a run a condition holds of the state and the event that comes next. -/
def Occurs (condition : σ → ε → Prop) (start : σ) (events : List ε) : Prop :=
  ∃ before event after state, events = before ++ event :: after ∧ run step start before = some state ∧
    condition state event

/-- The step that is enabled only where a check passes. -/
def guarded (check : σ → ε → Bool) (state : σ) (event : ε) : Option σ :=
  if check state event then step state event else none

variable {step}

theorem run_cons_iff {start final : σ} {event : ε} {events : List ε} :
    run step start (event :: events) = some final ↔
      ∃ next, step start event = some next ∧ run step next events = some final := by
  simp only [run, Option.bind_eq_some_iff]

theorem run_append {start final : σ} {first second : List ε} :
    run step start (first ++ second) = some final ↔
      ∃ middle, run step start first = some middle ∧ run step middle second = some final := by
  induction first generalizing start with
  | nil => simp [run]
  | cons event events ih =>
    simp only [List.cons_append, run_cons_iff, ih]
    constructor
    · intro h
      rcases h with ⟨next, stepped, middle, before, after⟩
      exact ⟨middle, ⟨next, stepped, before⟩, after⟩
    · intro h
      rcases h with ⟨middle, ⟨next, stepped, before⟩, after⟩
      exact ⟨next, stepped, middle, before, after⟩

theorem run_invariant {condition : σ → ε → Prop} {invariant : σ → Prop}
    (preserved : ∀ state event next, invariant state → condition state event → step state event = some next →
      invariant next)
    {start final : σ} {events : List ε} (initial : invariant start) (along : Along step condition start events)
    (reached : run step start events = some final) : invariant final := by
  induction events generalizing start with
  | nil =>
    cases reached
    exact initial
  | cons event events ih =>
    rcases run_cons_iff.mp reached with ⟨next, stepped, rest⟩
    exact ih (preserved start event next initial along.1 stepped) (along.2 next stepped) rest

theorem along_iff {condition : σ → ε → Prop} {start : σ} {events : List ε} :
    Along step condition start events ↔ ∀ done event rest state, events = done ++ event :: rest →
      run step start done = some state → condition state event := by
  induction events generalizing start with
  | nil =>
    constructor
    · intro _ done event rest state whole
      exact absurd whole (by simp)
    · intro _
      trivial
  | cons first events ih =>
    constructor
    · intro along done event rest state whole reached
      cases done with
      | nil =>
        cases whole
        cases reached
        exact along.1
      | cons head done =>
        cases whole
        rcases run_cons_iff.mp reached with ⟨next, stepped, reached⟩
        exact ih.mp (along.2 next stepped) done event rest state rfl reached
    · intro each
      refine ⟨each [] first events start rfl rfl, ?_⟩
      intro next stepped
      apply ih.mpr
      intro done event rest state whole reached
      apply each (first :: done) event rest state (by rw [whole, List.cons_append])
      exact run_cons_iff.mpr ⟨next, stepped, reached⟩

theorem not_occurs_iff {condition : σ → ε → Prop} {start : σ} {events : List ε} :
    ¬ Occurs step condition start events ↔ Along step (fun state event => ¬ condition state event) start events := by
  rw [along_iff]
  constructor
  · intro never before event after state split reached holds
    exact never ⟨before, event, after, state, split, reached, holds⟩
  · rintro each ⟨before, event, after, state, split, reached, holds⟩
    exact each before event after state split reached holds

theorem along_and {left right : σ → ε → Prop} {start : σ} {events : List ε} (first : Along step left start events)
    (second : Along step right start events) :
    Along step (fun state event => left state event ∧ right state event) start events := by
  induction events generalizing start with
  | nil => trivial
  | cons event events ih =>
    refine ⟨⟨first.1, second.1⟩, ?_⟩
    intro next stepped
    exact ih (first.2 next stepped) (second.2 next stepped)

theorem guarded_eq_some_iff {check : σ → ε → Bool} {state next : σ} {event : ε} :
    guarded step check state event = some next ↔ check state event = true ∧ step state event = some next := by
  simp [guarded]

/-- A guarded run is a run along which the check passes. -/
theorem run_guarded {check : σ → ε → Bool} {condition : σ → ε → Prop}
    (sound : ∀ state event, check state event = true → condition state event) {start final : σ} {events : List ε}
    (reached : run (guarded step check) start events = some final) :
    run step start events = some final ∧ Along step condition start events := by
  induction events generalizing start with
  | nil => exact ⟨reached, trivial⟩
  | cons event events ih =>
    rcases run_cons_iff.mp reached with ⟨next, taken, rest⟩
    rcases guarded_eq_some_iff.mp taken with ⟨checked, stepped⟩
    rcases ih rest with ⟨unguarded, along⟩
    refine ⟨run_cons_iff.mpr ⟨next, stepped, unguarded⟩, sound start event checked, ?_⟩
    intro other again
    cases stepped.symm.trans again
    exact along

theorem along_take {condition : σ → ε → Prop} {start : σ} {done rest : List ε}
    (along : Along step condition start (done ++ rest)) : Along step condition start done := by
  apply along_iff.mpr
  intro earlier event later state whole reached
  apply along_iff.mp along earlier event (later ++ rest) state ?_ reached
  rw [whole, List.append_assoc, List.cons_append]

theorem along_true (start : σ) (events : List ε) : Along step (fun _ _ => True) start events := by
  induction events generalizing start with
  | nil => trivial
  | cons event events ih => exact ⟨trivial, fun next _ => ih next⟩

theorem along_of_forall {condition : ε → Prop} {start : σ} {events : List ε}
    (each : ∀ event ∈ events, condition event) :
    Along step (fun _ event => condition event) start events := by
  induction events generalizing start with
  | nil => trivial
  | cons event events ih =>
    rw [List.forall_mem_cons] at each
    exact ⟨each.1, fun next _ => ih each.2⟩

/-- Events that each lower a measure are at most as many as the measure says. -/
theorem run_length_le {measure : σ → Nat} {condition : ε → Prop}
    (lowers : ∀ state event next, condition event → step state event = some next → measure next < measure state)
    {start final : σ} {events : List ε} (each : ∀ event ∈ events, condition event)
    (reached : run step start events = some final) : events.length + measure final ≤ measure start := by
  induction events generalizing start with
  | nil =>
    cases reached
    simp
  | cons event events ih =>
    rw [List.forall_mem_cons] at each
    rcases run_cons_iff.mp reached with ⟨next, stepped, rest⟩
    have less := lowers start event next each.1 stepped
    have bounded := ih each.2 rest
    rw [List.length_cons]
    omega

theorem reachable_invariant {invariant : σ → Prop}
    (preserved : ∀ state event next, invariant state → step state event = some next → invariant next)
    {start final : σ} {events : List ε} (initial : invariant start) (reached : run step start events = some final) :
    invariant final :=
  run_invariant (fun state event next kept _ stepped => preserved state event next kept stepped) initial
    (along_true start events) reached

end Foundation.Transition
