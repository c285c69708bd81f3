import Mathlib.Algebra.Order.Ring.Nat
import Mathlib.Data.List.Forall2

namespace Foundation

/-- A call that yields no value either returns an error to its caller or panics. -/
inductive Failure (ε : Type) where
  | error (error : ε)
  | panic (message : String)
deriving DecidableEq, Repr

abbrev Outcome (ε α : Type) := Except (Failure ε) α

instance decidableEqExcept {ε α : Type} [DecidableEq ε] [DecidableEq α] : DecidableEq (Except ε α)
  | .ok a, .ok b => decidable_of_iff (a = b) (by simp)
  | .error a, .error b => decidable_of_iff (a = b) (by simp)
  | .ok _, .error _ => isFalse (by simp)
  | .error _, .ok _ => isFalse (by simp)

namespace Outcome

variable {ε ε' α β : Type}

def fail (error : ε) : Outcome ε α := .error (.error error)

def panicked (message : String) : Outcome ε α := .error (.panic message)

def mapErr (change : ε → ε') : Outcome ε α → Outcome ε' α
  | .ok value => .ok value
  | .error (.error error) => .error (.error (change error))
  | .error (.panic message) => .error (.panic message)

def fromResult : Except ε α → Outcome ε α
  | .ok value => .ok value
  | .error error => fail error

/-- What the caller gets back, if the call does not panic. -/
def result? : Outcome ε α → Option (Except ε α)
  | .ok value => some (.ok value)
  | .error (.error error) => some (.error error)
  | .error (.panic _) => none

def okOr (error : ε) : Option α → Outcome ε α
  | some value => .ok value
  | none => fail error

def expect (message : String) : Option α → Outcome ε α
  | some value => .ok value
  | none => panicked message

def ensure (condition : Prop) [Decidable condition] (error : ε) : Outcome ε Unit :=
  if condition then .ok () else fail error

/-- Unsigned arithmetic whose overflow is an observable failure. A run that never
    fails here computes the same values whether or not overflow is checked. -/
def addU64 (left right : UInt64) : Outcome ε UInt64 :=
  if left.toNat + right.toNat < 2^64 then .ok (left + right)
  else panicked "attempt to add with overflow"

def subU64 (left right : UInt64) : Outcome ε UInt64 :=
  if right ≤ left then .ok (left - right) else panicked "attempt to subtract with overflow"

def subUsize (left right : Nat) : Outcome ε Nat :=
  if right ≤ left then .ok (left - right) else panicked "attempt to subtract with overflow"

end Outcome

open Outcome

section Ok

variable {ε ε' α β : Type}

@[simp] theorem bind_ok_iff {φ : Type} {action : Except φ α} {next : α → Except φ β} {result : β} :
    (action >>= next) = .ok result ↔ ∃ value, action = .ok value ∧ next value = .ok result := by
  cases action with
  | error failure => simp [Bind.bind, Except.bind]
  | ok value => simp [Bind.bind, Except.bind]

theorem bind_error_iff {φ : Type} {action : Except φ α} {next : α → Except φ β} {failure : φ} :
    (action >>= next) = .error failure ↔
      action = .error failure ∨ ∃ value, action = .ok value ∧ next value = .error failure := by
  cases action with
  | error failure => simp [Bind.bind, Except.bind]
  | ok value => simp [Bind.bind, Except.bind]

@[simp] theorem pure_ok_iff {φ : Type} {value result : α} :
    (pure value : Except φ α) = .ok result ↔ value = result := by
  simp [Pure.pure, Except.pure]

@[simp] theorem ok_bind {φ : Type} (value : α) (next : α → Except φ β) :
    ((.ok value : Except φ α) >>= next) = next value := rfl

@[simp] theorem error_bind {φ : Type} (failure : φ) (next : α → Except φ β) :
    ((.error failure : Except φ α) >>= next) = .error failure := rfl

@[simp] theorem fail_bind (error : ε) (next : α → Outcome ε β) :
    ((fail error : Outcome ε α) >>= next) = fail error := rfl

@[simp] theorem fail_ne_ok {error : ε} {value : α} : (fail error : Outcome ε α) ≠ .ok value := by
  simp [fail]

@[simp] theorem panicked_ne_ok {message : String} {value : α} :
    (panicked message : Outcome ε α) ≠ .ok value := by
  simp [panicked]

@[simp] theorem mapErr_ok_iff {change : ε → ε'} {outcome : Outcome ε α} {value : α} :
    mapErr change outcome = .ok value ↔ outcome = .ok value := by
  cases outcome with
  | ok value => simp [mapErr]
  | error failure => cases failure <;> simp [mapErr]

@[simp] theorem fromResult_ok_iff {outcome : Except ε α} {value : α} :
    fromResult outcome = .ok value ↔ outcome = .ok value := by
  cases outcome <;> simp [fromResult]

theorem result?_eq_some_iff {outcome : Outcome ε α} {result : Except ε α} :
    result? outcome = some result ↔ outcome = fromResult result := by
  cases outcome with
  | ok value => cases result <;> simp [result?, fromResult, fail]
  | error failure => cases failure <;> cases result <;> simp [result?, fromResult, fail]

theorem result?_isSome_iff {outcome : Outcome ε α} :
    (result? outcome).isSome = true ↔ ∀ message, outcome ≠ panicked message := by
  cases outcome with
  | ok value => simp [result?, panicked]
  | error failure => cases failure <;> simp [result?, panicked]

@[simp] theorem okOr_ok_iff {error : ε} {option : Option α} {value : α} :
    okOr error option = .ok value ↔ option = some value := by
  cases option <;> simp [okOr]

@[simp] theorem expect_ok_iff {message : String} {option : Option α} {value : α} :
    (expect message option : Outcome ε α) = .ok value ↔ option = some value := by
  cases option <;> simp [expect]

@[simp] theorem ensure_ok_iff {condition : Prop} [Decidable condition] {error : ε} {result : Unit} :
    ensure condition error = .ok result ↔ condition := by
  unfold ensure
  split <;> simp_all

@[simp] theorem addU64_ok_iff {left right result : UInt64} :
    (addU64 left right : Outcome ε UInt64) = .ok result ↔
      result.toNat = left.toNat + right.toNat := by
  unfold addU64
  split
  · rename_i fits
    rw [Except.ok.injEq, ← UInt64.toNat_inj, UInt64.toNat_add, Nat.mod_eq_of_lt fits]
    exact eq_comm
  · rename_i overflow
    have bound := result.toNat_lt
    simp only [panicked_ne_ok, false_iff]
    omega

@[simp] theorem subU64_ok_iff {left right result : UInt64} :
    (subU64 left right : Outcome ε UInt64) = .ok result ↔
      right.toNat ≤ left.toNat ∧ result.toNat = left.toNat - right.toNat := by
  unfold subU64
  split
  · rename_i fits
    rw [Except.ok.injEq, ← UInt64.toNat_inj, UInt64.toNat_sub_of_le _ _ fits]
    have order := UInt64.le_iff_toNat_le.mp fits
    omega
  · rename_i underflow
    have order := mt UInt64.le_iff_toNat_le.mpr underflow
    simp only [panicked_ne_ok, false_iff]
    omega

@[simp] theorem subUsize_ok_iff {left right result : Nat} :
    (subUsize left right : Outcome ε Nat) = .ok result ↔ right ≤ left ∧ result = left - right := by
  unfold subUsize
  split
  · rename_i fits
    simp only [Except.ok.injEq, fits, true_and]
    exact eq_comm
  · rename_i underflow
    simp [underflow]

end Ok

section Loops

variable {φ α β σ : Type}

theorem forM_ok_iff (action : α → Except φ Unit) (items : List α) :
    forM items action = .ok () ↔ ∀ item ∈ items, action item = .ok () := by
  induction items with
  | nil => simp
  | cons item items ih =>
    rw [List.forM_cons, bind_ok_iff, List.forall_mem_cons, ← ih]
    constructor
    · rintro ⟨⟨⟩, head, tail⟩
      exact ⟨head, tail⟩
    · rintro ⟨head, tail⟩
      exact ⟨(), head, tail⟩

theorem mapM_ok_iff (action : α → Except φ β) (items : List α) (results : List β) :
    items.mapM action = .ok results ↔
      List.Forall₂ (fun item result => action item = .ok result) items results := by
  induction items generalizing results with
  | nil =>
    simp only [List.mapM_nil, pure_ok_iff, List.forall₂_nil_left_iff]
    exact eq_comm
  | cons item items ih =>
    simp only [List.mapM_cons, bind_ok_iff, pure_ok_iff, List.forall₂_cons_left_iff, ih]
    constructor
    · rintro ⟨result, head, rest, tail, rfl⟩
      exact ⟨result, rest, head, tail, rfl⟩
    · rintro ⟨result, rest, head, tail, rfl⟩
      exact ⟨result, head, rest, tail, rfl⟩

theorem mapM_congr {action other : α → Except φ β} {items : List α}
    (same : ∀ item ∈ items, action item = other item) : items.mapM action = items.mapM other := by
  induction items with
  | nil => rfl
  | cons item items ih =>
    rcases List.forall_mem_cons.mp same with ⟨here, others⟩
    rw [List.mapM_cons, List.mapM_cons, here, ih others]

/-- A failed loop stopped at its first failing item. -/
theorem mapM_error_iff (action : α → Except φ β) (items : List α) (failure : φ) :
    items.mapM action = .error failure ↔ ∃ index, ∃ inside : index < items.length,
      (∀ earlier (before : earlier < index), ∃ result, action items[earlier] = .ok result) ∧
        action items[index] = .error failure := by
  induction items with
  | nil =>
    constructor
    · intro failed
      cases failed
    · rintro ⟨index, inside, _⟩
      cases inside
  | cons item items ih =>
    rw [List.mapM_cons, bind_error_iff]
    constructor
    · rintro (first | ⟨value, passed, later⟩)
      · exact ⟨0, by simp, fun earlier before => absurd before (Nat.not_lt_zero earlier), first⟩
      · rw [bind_error_iff] at later
        rcases later with looped | ⟨values, _, finished⟩
        · rcases ih.mp looped with ⟨index, inside, before, failed⟩
          refine ⟨index + 1, by simpa using inside, ?_, failed⟩
          intro earlier below
          cases earlier with
          | zero => exact ⟨value, passed⟩
          | succ earlier => exact before earlier (by omega)
        · cases finished
    · rintro ⟨index, inside, before, failed⟩
      cases index with
      | zero => exact .inl failed
      | succ index =>
        rcases before 0 (Nat.succ_pos index) with ⟨value, passed⟩
        have looped : items.mapM action = .error failure := by
          apply ih.mpr
          refine ⟨index, by simpa using inside, ?_, failed⟩
          intro earlier below
          exact before (earlier + 1) (by omega)
        exact .inr ⟨value, passed, bind_error_iff.mpr (.inl looped)⟩

theorem forall₂_left {relation : α → β → Prop} {items : List α} {results : List β}
    (paired : List.Forall₂ relation items results) {item : α} (member : item ∈ items) :
    ∃ result ∈ results, relation item result := by
  induction paired with
  | nil => cases member
  | cons related _ ih =>
    rcases List.mem_cons.mp member with rfl | later
    · exact ⟨_, List.mem_cons_self .., related⟩
    · rcases ih later with ⟨result, inside, holds⟩
      exact ⟨result, List.mem_cons_of_mem _ inside, holds⟩

theorem forall₂_right {relation : α → β → Prop} {items : List α} {results : List β}
    (paired : List.Forall₂ relation items results) {result : β} (member : result ∈ results) :
    ∃ item ∈ items, relation item result := forall₂_left paired.flip member

/-- The loop rule: what one iteration preserves, an accepted loop preserves. -/
theorem foldlM_ok_invariant (step : σ → α → Except φ σ) (invariant : List α → σ → Prop)
    (preserved : ∀ done item state next, invariant done state → step state item = .ok next →
      invariant (done ++ [item]) next)
    (items : List α) (done : List α) (state result : σ) (initial : invariant done state)
    (accepted : items.foldlM step state = .ok result) : invariant (done ++ items) result := by
  induction items generalizing done state with
  | nil =>
    simp only [List.foldlM_nil, pure_ok_iff] at accepted
    subst accepted
    simpa using initial
  | cons item items ih =>
    simp only [List.foldlM_cons, bind_ok_iff] at accepted
    obtain ⟨next, head, tail⟩ := accepted
    have extended := ih (done ++ [item]) next (preserved done item state next initial head) tail
    simpa using extended

theorem mapM_ok_of_forall {relation : α → β → Prop} (action : α → Except φ β) (items : List α)
    (each : ∀ item ∈ items, ∃ result, action item = .ok result ∧ relation item result) :
    ∃ results, items.mapM action = .ok results ∧ List.Forall₂ relation items results := by
  induction items with
  | nil => exact ⟨[], rfl, .nil⟩
  | cons item items ih =>
    rcases each item (List.mem_cons_self ..) with ⟨result, returned, related⟩
    rcases ih fun other member => each other (List.mem_cons_of_mem item member) with ⟨results, looped, others⟩
    refine ⟨result :: results, ?_, .cons related others⟩
    rw [List.mapM_cons, returned, ok_bind, looped, ok_bind]
    rfl

theorem forIn_yield_eq_foldlM (action : α → σ → Except φ Unit) (next : α → σ → σ) (items : List α) (state : σ) :
    (forIn items state fun item state => do
      action item state
      pure (ForInStep.yield (next item state))) =
    items.foldlM (fun state item => do
      action item state
      pure (next item state)) state := by
  induction items generalizing state with
  | nil => rfl
  | cons item items ih =>
    rw [List.forIn_cons, List.foldlM_cons, ← funext fun state => ih state]
    cases action item state <;> rfl

theorem foldlM_range_ok (step : σ → Nat → Except φ σ) (invariant : Nat → σ → Prop) (count : Nat)
    (advances : ∀ index state, index < count → invariant index state →
      ∃ next, step state index = .ok next ∧ invariant (index + 1) next)
    (state : σ) (initial : invariant 0 state) :
    ∃ result, (List.range count).foldlM step state = .ok result ∧ invariant count result := by
  induction count with
  | zero => exact ⟨state, rfl, initial⟩
  | succ count ih =>
    obtain ⟨middle, looped, kept⟩ := ih fun index state below => advances index state (by omega)
    obtain ⟨next, stepped, finished⟩ := advances count middle (Nat.lt_succ_self count) kept
    refine ⟨next, ?_, finished⟩
    simp only [List.range_succ, List.foldlM_append, looped, ok_bind, List.foldlM_cons, stepped,
      List.foldlM_nil]
    rfl

/-- The rule for a loop that counts down, by the number of iterations already done. -/
theorem foldlM_down_ok (step : σ → Nat → Except φ σ) (invariant : Nat → σ → Prop) (count : Nat)
    (advances : ∀ done state, done < count → invariant done state →
      ∃ next, step state (count - done) = .ok next ∧ invariant (done + 1) next)
    (state : σ) (initial : invariant 0 state) :
    ∃ result, (List.range' 1 count).reverse.foldlM step state = .ok result ∧ invariant count result := by
  induction count generalizing invariant state with
  | zero => exact ⟨state, rfl, initial⟩
  | succ count ih =>
    rcases advances 0 state (Nat.succ_pos count) initial with ⟨next, stepped, kept⟩
    rcases ih (fun done => invariant (done + 1))
      (fun done state below kept => by
        have later := advances (done + 1) state (by omega) kept
        rw [Nat.add_sub_add_right] at later
        exact later) next kept with ⟨result, looped, finished⟩
    refine ⟨result, ?_, finished⟩
    have last : List.range' 1 (count + 1) = List.range' 1 count ++ [count + 1] := by
      rw [List.range'_concat]
      simp [Nat.add_comm]
    rw [last, List.reverse_append]
    rw [Nat.sub_zero] at stepped
    simp only [List.reverse_singleton, List.singleton_append, List.foldlM_cons, stepped, ok_bind, looped]

end Loops

section Failures

variable {φ ε α β σ : Type} {allowed : φ → Prop}

/-- The failures that a caller can handle. -/
def Failure.IsError : Failure ε → Prop
  | .error _ => True
  | .panic _ => False

/-- Whatever the call fails with is allowed. -/
structure FailsOnly (allowed : φ → Prop) (action : Except φ α) : Prop where
  only : ∀ failure, action = .error failure → allowed failure

theorem FailsOnly.of_ok {action : Except φ α} {value : α} (returned : action = .ok value) :
    FailsOnly allowed action := by
  apply FailsOnly.mk
  intro failure failed
  rw [returned] at failed
  cases failed

theorem FailsOnly.bind {action : Except φ α} {next : α → Except φ β} (first : FailsOnly allowed action)
    (rest : ∀ value, action = .ok value → FailsOnly allowed (next value)) : FailsOnly allowed (action >>= next) := by
  apply FailsOnly.mk
  intro failure failed
  cases result : action with
  | error earlier =>
    rw [result] at failed
    cases failed
    exact first.only failure result
  | ok value =>
    rw [result] at failed
    exact (rest value result).only failure failed

theorem FailsOnly.forM {action : α → Except φ Unit} {items : List α}
    (each : ∀ item ∈ items, FailsOnly allowed (action item)) : FailsOnly allowed (forM items action) := by
  induction items with
  | nil => exact .of_ok rfl
  | cons item items ih =>
    rw [List.forM_cons]
    apply FailsOnly.bind (each item (List.mem_cons_self ..))
    intro _ _
    exact ih fun other member => each other (List.mem_cons_of_mem item member)

theorem FailsOnly.foldlM {step : σ → α → Except φ σ} (each : ∀ state item, FailsOnly allowed (step state item))
    (items : List α) (state : σ) : FailsOnly allowed (items.foldlM step state) := by
  induction items generalizing state with
  | nil => exact .of_ok rfl
  | cons item items ih =>
    rw [List.foldlM_cons]
    exact .bind (each state item) fun next _ => ih next

theorem FailsOnly.mapM {action : α → Except φ β} (each : ∀ item, FailsOnly allowed (action item)) (items : List α) :
    FailsOnly allowed (items.mapM action) := by
  induction items with
  | nil => exact .of_ok rfl
  | cons item items ih =>
    rw [List.mapM_cons]
    apply FailsOnly.bind (each item)
    intro _ _
    exact .bind ih fun _ _ => .of_ok rfl

end Failures

section TwoRuns

variable {φ α β γ δ σ τ : Type}

def Related (relation : α → β → Prop) : Except φ α → Except φ β → Prop
  | .ok left, .ok right => relation left right
  | .error left, .error right => left = right
  | .ok _, .error _ | .error _, .ok _ => False

theorem Related.refl (action : Except φ α) : Related Eq action action := by
  cases action <;> rfl

theorem Related.eq {left right : Except φ α} (related : Related Eq left right) : left = right := by
  cases left <;> cases right <;> simp_all [Related]

theorem Related.bind {relation : α → β → Prop} {result : γ → δ → Prop} {left : Except φ α} {right : Except φ β}
    {next : α → Except φ γ} {next' : β → Except φ δ} (first : Related relation left right)
    (rest : ∀ value value', relation value value' → Related result (next value) (next' value')) :
    Related result (left >>= next) (right >>= next') := by
  cases left with
  | ok value =>
    cases right with
    | ok value' => exact rest value value' first
    | error failure => exact first.elim
  | error failure =>
    cases right with
    | ok value' => exact first.elim
    | error failure' => exact first

theorem Related.foldlM {relation : σ → τ → Prop} {step : σ → α → Except φ σ} {step' : τ → α → Except φ τ}
    (steps : ∀ item left right, relation left right → Related relation (step left item) (step' right item))
    (items : List α) {left : σ} {right : τ} (start : relation left right) :
    Related relation (items.foldlM step left) (items.foldlM step' right) := by
  induction items generalizing left right with
  | nil => exact start
  | cons item items ih =>
    rw [List.foldlM_cons, List.foldlM_cons]
    exact Related.bind (steps item left right start) fun _ _ next => ih next

end TwoRuns

end Foundation
