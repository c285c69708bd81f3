import Mathlib.Data.List.Nodup
import Mathlib.Data.List.Range
import Mathlib.Data.Set.Function
import Mathlib.Order.Interval.Set.Defs

namespace Foundation

/-- Items that are given identifiers as they are issued, and the identifiers settled so far. -/
structure Ledger (κ α : Type) where
  issued : List (κ × α)
  settled : List κ

namespace Ledger

variable {κ α : Type} {name : Nat → κ}

def pending [DecidableEq κ] (ledger : Ledger κ α) : List (κ × α) :=
  ledger.issued.filter fun entry => entry.1 ∉ ledger.settled

def issue (name : Nat → κ) (ledger : Ledger κ α) (item : α) : Ledger κ α :=
  { ledger with issued := ledger.issued ++ [(name (ledger.issued.length + 1), item)] }

def settle (ledger : Ledger κ α) (id : κ) : Ledger κ α := { ledger with settled := ledger.settled ++ [id] }

/-- The `n`-th item has the `n`-th name, and none is settled that was not issued or was settled before. -/
structure Valid (name : Nat → κ) (ledger : Ledger κ α) : Prop where
  numbered : ledger.issued.map Prod.fst = (List.range' 1 ledger.issued.length).map name
  once : ledger.settled.Nodup
  known : ∀ id ∈ ledger.settled, id ∈ ledger.issued.map Prod.fst

/-- The first names are different from each other. -/
def Apart (name : Nat → κ) (count : Nat) : Prop := Set.InjOn name (Set.Icc 1 count)

variable {ledger : Ledger κ α} {id : κ} {item : α}

theorem Valid.empty : Valid name (⟨[], []⟩ : Ledger κ α) := by
  apply Valid.mk
  · rfl
  · exact List.nodup_nil
  · intro id member
    cases member

theorem Apart.mono {count count' : Nat} (apart : Apart name count') (fewer : count ≤ count') : Apart name count := by
  apply Set.InjOn.mono ?_ apart
  intro number within
  exact Set.mem_Icc.mpr ⟨(Set.mem_Icc.mp within).1, le_trans (Set.mem_Icc.mp within).2 fewer⟩

theorem Valid.fresh (valid : ledger.Valid name) (apart : Apart name (ledger.issued.length + 1)) :
    name (ledger.issued.length + 1) ∉ ledger.issued.map Prod.fst := by
  intro issued
  rw [valid.numbered] at issued
  rcases List.mem_map.mp issued with ⟨number, member, same⟩
  rw [List.mem_range'_1] at member
  have equal : number = ledger.issued.length + 1 :=
    apart (Set.mem_Icc.mpr ⟨by omega, by omega⟩) (Set.mem_Icc.mpr ⟨by omega, by omega⟩) same
  omega

theorem Valid.distinct (valid : ledger.Valid name) (apart : Apart name ledger.issued.length) :
    (ledger.issued.map Prod.fst).Nodup := by
  rw [valid.numbered]
  apply List.Nodup.map_on ?_ List.nodup_range'
  intro first member second member' same
  rw [List.mem_range'_1] at member member'
  exact apart (Set.mem_Icc.mpr ⟨by omega, by omega⟩) (Set.mem_Icc.mpr ⟨by omega, by omega⟩) same

theorem Valid.unique (valid : ledger.Valid name) (apart : Apart name ledger.issued.length) {other : α}
    (first : (id, item) ∈ ledger.issued) (second : (id, other) ∈ ledger.issued) : item = other := by
  have same := List.inj_on_of_nodup_map (valid.distinct apart) first second rfl
  exact (Prod.mk.inj same).2

theorem Valid.issue (valid : ledger.Valid name) (item : α) : (ledger.issue name item).Valid name := by
  apply Valid.mk
  · simp only [Ledger.issue, List.map_append, List.map_cons, List.map_nil, List.length_append, List.length_cons,
      List.length_nil, valid.numbered, List.range'_concat]
    simp [Nat.add_comm]
  · exact valid.once
  · intro id member
    rw [Ledger.issue, List.map_append]
    exact List.mem_append_left _ (valid.known id member)

variable [DecidableEq κ]

theorem Valid.pending_issue (valid : ledger.Valid name) (apart : Apart name (ledger.issued.length + 1)) (item : α) :
    (ledger.issue name item).pending = ledger.pending ++ [(name (ledger.issued.length + 1), item)] := by
  have fresh : name (ledger.issued.length + 1) ∉ ledger.settled := by
    intro settled
    exact valid.fresh apart (valid.known _ settled)
  show (ledger.issued ++ [(name (ledger.issued.length + 1), item)]).filter (fun entry => entry.1 ∉ ledger.settled) = _
  have kept : (decide (name (ledger.issued.length + 1) ∉ ledger.settled)) = true := decide_eq_true fresh
  rw [List.filter_append, List.filter_singleton, kept]
  rfl

theorem pending_settle (ledger : Ledger κ α) (id : κ) :
    (ledger.settle id).pending = ledger.pending.filter fun entry => entry.1 ≠ id := by
  simp only [pending, settle, List.filter_filter]
  apply List.filter_congr
  intro entry _
  simp [not_or, and_comm]

theorem pending_issued (member : (id, item) ∈ ledger.pending) : (id, item) ∈ ledger.issued ∧ id ∉ ledger.settled := by
  rcases List.mem_filter.mp member with ⟨issued, open'⟩
  exact ⟨issued, of_decide_eq_true open'⟩

theorem Valid.settle (valid : ledger.Valid name) (member : (id, item) ∈ ledger.pending) :
    (ledger.settle id).Valid name := by
  rcases pending_issued member with ⟨issued, unsettled⟩
  apply Valid.mk
  · exact valid.numbered
  · exact List.nodup_append_comm.mp (List.nodup_cons.mpr ⟨unsettled, valid.once⟩)
  · intro other settled
    rcases List.mem_append.mp settled with earlier | now
    · exact valid.known other earlier
    · cases List.mem_singleton.mp now
      exact List.mem_map_of_mem issued

theorem Valid.pending_distinct (valid : ledger.Valid name) (apart : Apart name ledger.issued.length) :
    (ledger.pending.map Prod.fst).Nodup :=
  (valid.distinct apart).sublist (List.filter_sublist.map Prod.fst)

/-- Nothing pending has the next name. -/
theorem Valid.pending_fresh (valid : ledger.Valid name) (apart : Apart name (ledger.issued.length + 1)) :
    ledger.pending.filter (fun entry => entry.1 ≠ name (ledger.issued.length + 1)) = ledger.pending := by
  apply List.filter_eq_self.mpr
  rintro ⟨id, item⟩ member
  have apart' : id ≠ name (ledger.issued.length + 1) := by
    rintro rfl
    exact valid.fresh apart (List.mem_map_of_mem (pending_issued member).1)
  exact decide_eq_true apart'

end Ledger

section Entries

variable {κ α : Type} [DecidableEq κ] {entries : List (κ × α)} {id : κ}

/-- An identifier with an entry is found, and what is found is an entry. -/
theorem lookup_of_mem (member : id ∈ entries.map Prod.fst) :
    ∃ item, entries.lookup id = some item ∧ (id, item) ∈ entries := by
  induction entries with
  | nil => cases member
  | cons entry entries ih =>
    rcases entry with ⟨first, item⟩
    by_cases here : id = first
    · subst here
      exact ⟨item, List.lookup_cons_self, List.mem_cons_self ..⟩
    · have later : id ∈ entries.map Prod.fst := by simpa [here] using member
      rcases ih later with ⟨found, looked, inside⟩
      refine ⟨found, ?_, List.mem_cons_of_mem _ inside⟩
      rw [List.lookup_cons, beq_false_of_ne here]
      exact looked

/-- Removing one of distinct identifiers leaves a permutation of the others. -/
theorem filter_ne_perm {others : List κ} (same : (id :: others).Perm (entries.map Prod.fst))
    (distinct : (entries.map Prod.fst).Nodup) :
    others.Perm ((entries.filter fun entry => entry.1 ≠ id).map Prod.fst) := by
  have fresh : id ∉ others := (List.nodup_cons.mp (same.nodup_iff.mpr distinct)).1
  have removed := same.filter (fun other => other ≠ id)
  have kept : others.filter (fun other => other ≠ id) = others := by
    apply List.filter_eq_self.mpr
    intro other member
    have apart : other ≠ id := by
      intro equal
      exact fresh (equal ▸ member)
    exact decide_eq_true apart
  rw [List.filter_cons_of_neg (by simp), kept, List.filter_map] at removed
  exact removed

end Entries

end Foundation
