import NoriBridgeHead.Foundation.Outcome

namespace Foundation

/-- A computation that calls out: its state is the number of calls made so far, and what answers a call
    may depend on that number, so that the same request can be answered differently each time. -/
abbrev Session (ε α : Type) := StateT Nat (Except (Failure ε)) α

namespace Session

variable {ε α β σ : Type}

def call (answer : Nat → α) : Session ε α := fun calls => .ok (answer calls, calls + 1)

def lift (outcome : Outcome ε α) : Session ε α := fun calls => outcome.map fun value => (value, calls)

def outcome (session : Session ε α) : Outcome ε α := (session 0).map Prod.fst

def Ensures (session : Session ε α) (condition : α → Prop) : Prop :=
  ∀ calls value after, session calls = .ok (value, after) → condition value

def Returns (session : Session ε α) (condition : α → Prop) : Prop :=
  ∀ calls, ∃ value after, session calls = .ok (value, after) ∧ condition value

theorem pure_apply (value : α) (calls : Nat) : (pure value : Session ε α) calls = .ok (value, calls) := rfl

theorem bind_apply (session : Session ε α) (next : α → Session ε β) (calls : Nat) :
    (session >>= next) calls = (session calls >>= fun result => next result.1 result.2) := rfl

theorem outcome_ok_iff {session : Session ε α} {value : α} :
    session.outcome = .ok value ↔ ∃ after, session 0 = .ok (value, after) := by
  unfold outcome
  cases session 0 with
  | ok result => simp [Except.map, Prod.ext_iff]
  | error failure => simp [Except.map]

theorem outcome_error_iff {session : Session ε α} {failure : Failure ε} :
    session.outcome = .error failure ↔ session 0 = .error failure := by
  unfold outcome
  cases session 0 with
  | ok result => simp [Except.map]
  | error failure => simp [Except.map]

theorem ensures_pure {value : α} {condition : α → Prop} (holds : condition value) :
    Ensures (pure value : Session ε α) condition := by
  intro calls result after returned
  cases returned
  exact holds

theorem Ensures.bind {session : Session ε α} {next : α → Session ε β} {between : α → Prop} {condition : β → Prop}
    (first : Ensures session between) (rest : ∀ value, between value → Ensures (next value) condition) :
    Ensures (session >>= next) condition := by
  intro calls result after returned
  rw [bind_apply, bind_ok_iff] at returned
  rcases returned with ⟨middle, started, finished⟩
  exact rest middle.1 (first calls middle.1 middle.2 started) middle.2 result after finished

theorem ensures_skip {session : Session ε α} {next : α → Session ε β} {condition : β → Prop}
    (rest : ∀ value, Ensures (next value) condition) : Ensures (session >>= next) condition := by
  have anything : Ensures session fun _ => True := fun _ _ _ _ => trivial
  exact Ensures.bind anything fun value _ => rest value

theorem ensures_lift {outcome : Outcome ε α} {condition : α → Prop}
    (holds : ∀ value, outcome = .ok value → condition value) : Ensures (lift outcome) condition := by
  intro calls value after returned
  cases outcome with
  | ok value =>
    cases returned
    exact holds value rfl
  | error failure => cases returned

theorem ensures_mapM {action : α → Session ε β} {relation : α → β → Prop}
    (each : ∀ item, Ensures (action item) (relation item)) (items : List α) :
    Ensures (items.mapM action) (List.Forall₂ relation items) := by
  induction items with
  | nil => exact ensures_pure .nil
  | cons item items ih =>
    rw [List.mapM_cons]
    refine Ensures.bind (each item) ?_
    intro value held
    refine Ensures.bind ih ?_
    intro values rest
    exact ensures_pure (.cons held rest)

theorem Ensures.outcome {session : Session ε α} {condition : α → Prop} (ensured : Ensures session condition)
    {value : α} (returned : session.outcome = .ok value) : condition value := by
  cases ran : session 0 with
  | ok result =>
    rw [Session.outcome, ran] at returned
    cases returned
    exact ensured 0 result.1 result.2 ran
  | error failure =>
    rw [Session.outcome, ran] at returned
    cases returned

/-- From this call on the session does what the optional result says: it returns it, or fails with an error. -/
def Settles (session : Session ε α) (calls : Nat) : Option (α × Nat) → Prop
  | some result => session calls = .ok result
  | none => ∃ error, session calls = .error (.error error)

theorem Settles.bind {session : Session ε α} {next : α → Session ε β} {calls : Nat} {result : Option (α × Nat)}
    {results : α → Nat → Option (β × Nat)} (first : Settles session calls result)
    (rest : ∀ value after, result = some (value, after) → Settles (next value) after (results value after)) :
    Settles (session >>= next) calls (result.bind fun settled => results settled.1 settled.2) := by
  cases result with
  | none =>
    rcases first with ⟨error, failed⟩
    refine ⟨error, ?_⟩
    rw [bind_apply, failed, error_bind]
  | some settled =>
    have continued : (session >>= next) calls = next settled.1 settled.2 := by
      rw [bind_apply, first, ok_bind]
    rw [Option.bind_some]
    have later := rest settled.1 settled.2 rfl
    generalize results settled.1 settled.2 = final at later ⊢
    cases final with
    | none =>
      rcases later with ⟨error, failed⟩
      exact ⟨error, continued.trans failed⟩
    | some final => exact continued.trans later

theorem Settles.failsOnly {session : Session ε α} {calls : Nat} {result : Option (α × Nat)}
    (settled : Settles session calls result) : FailsOnly Failure.IsError (session calls) := by
  cases result with
  | some value => exact .of_ok settled
  | none =>
    rcases settled with ⟨error, failed⟩
    apply FailsOnly.mk
    intro failure again
    rw [failed] at again
    cases again
    trivial

/-- Whatever is answered, the session does not panic. -/
def Survives (session : Session ε α) : Prop := ∀ calls, FailsOnly Failure.IsError (session calls)

theorem survives_pure (value : α) : Survives (pure value : Session ε α) := fun _ => .of_ok rfl

theorem Survives.bind {session : Session ε α} {next : α → Session ε β} (first : Survives session)
    (rest : ∀ value, Survives (next value)) : Survives (session >>= next) := by
  intro calls
  rw [bind_apply]
  exact FailsOnly.bind (first calls) fun result _ => rest result.1 result.2

theorem survives_lift {outcome : Outcome ε α} (fails : FailsOnly Failure.IsError outcome) :
    Survives (lift outcome) := by
  intro calls
  apply FailsOnly.mk
  intro failure failed
  cases outcome with
  | ok value => cases failed
  | error earlier =>
    cases failed
    exact fails.only _ rfl

theorem Survives.outcome {session : Session ε α} (survives : Survives session) :
    FailsOnly Failure.IsError session.outcome := by
  apply FailsOnly.mk
  intro failure failed
  exact (survives 0).only _ (outcome_error_iff.mp failed)

theorem survives_mapM {action : α → Session ε β} (each : ∀ item, Survives (action item)) (items : List α) :
    Survives (items.mapM action) := by
  induction items with
  | nil => exact survives_pure []
  | cons item items ih =>
    rw [List.mapM_cons]
    exact Survives.bind (each item) fun value => Survives.bind ih fun values => survives_pure (value :: values)

theorem returns_pure {value : α} {condition : α → Prop} (holds : condition value) :
    Returns (pure value : Session ε α) condition := fun calls => ⟨value, calls, rfl, holds⟩

theorem Returns.bind {session : Session ε α} {next : α → Session ε β} {between : α → Prop} {condition : β → Prop}
    (first : Returns session between) (rest : ∀ value, between value → Returns (next value) condition) :
    Returns (session >>= next) condition := by
  intro calls
  rcases first calls with ⟨value, middle, started, held⟩
  rcases rest value held middle with ⟨result, after, finished, holds⟩
  refine ⟨result, after, ?_, holds⟩
  rw [bind_apply, started, ok_bind]
  exact finished

theorem returns_call {answer : Nat → α} {condition : α → Prop} (holds : ∀ calls, condition (answer calls)) :
    Returns (call answer : Session ε α) condition := fun calls => ⟨answer calls, calls + 1, rfl, holds calls⟩

theorem returns_lift {outcome : Outcome ε α} {value : α} {condition : α → Prop} (returned : outcome = .ok value)
    (holds : condition value) : Returns (lift outcome) condition := by
  intro calls
  refine ⟨value, calls, ?_, holds⟩
  rw [lift, returned]
  rfl

theorem returns_bind_lift {outcome : Outcome ε α} {value : α} {next : α → Session ε β} {condition : β → Prop}
    (returned : outcome = .ok value) (rest : Returns (next value) condition) :
    Returns (lift outcome >>= next) condition := by
  have same : Returns (lift outcome) fun result => result = value := returns_lift returned rfl
  refine Returns.bind same ?_
  intro result equal
  rw [equal]
  exact rest

/-- The loop rule: every item is taken in a state that meets the invariant of the items before it. -/
theorem returns_foldlM {step : σ → α → Session ε σ} {invariant : List α → σ → Prop} (items : List α)
    (advances : ∀ item ∈ items, ∀ done state, invariant done state →
      Returns (step state item) (invariant (done ++ [item])))
    {done : List α} {state : σ} (initial : invariant done state) :
    Returns (items.foldlM step state) (invariant (done ++ items)) := by
  induction items generalizing done state with
  | nil =>
    rw [List.append_nil, List.foldlM_nil]
    exact returns_pure initial
  | cons item items ih =>
    rw [List.foldlM_cons]
    refine Returns.bind (advances item (List.mem_cons_self ..) done state initial) ?_
    intro next kept
    have whole : done ++ item :: items = done ++ [item] ++ items := by simp
    rw [whole]
    exact ih (fun other member => advances other (List.mem_cons_of_mem item member)) kept

theorem returns_mapM {action : α → Session ε β} {relation : α → β → Prop} (items : List α)
    (each : ∀ item ∈ items, Returns (action item) (relation item)) :
    Returns (items.mapM action) (List.Forall₂ relation items) := by
  induction items with
  | nil => exact returns_pure .nil
  | cons item items ih =>
    rw [List.mapM_cons]
    refine Returns.bind (each item (List.mem_cons_self ..)) ?_
    intro value held
    refine Returns.bind (ih fun other member => each other (List.mem_cons_of_mem item member)) ?_
    intro values rest
    exact returns_pure (.cons held rest)

end Session

end Foundation
