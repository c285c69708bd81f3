import Mathlib.Data.List.Induction
import Mathlib.Data.List.Nodup
import Mathlib.Logic.Function.Basic

namespace Foundation

variable {κ υ : Type} [DecidableEq κ]

/-- Pairs collected into a map: of two pairs with one key the later one stays. -/
def collect (pairs : List (κ × υ)) : κ → Option υ :=
  pairs.foldl (fun map pair => Function.update map pair.1 (some pair.2)) fun _ => none

theorem collect_append_singleton (pairs : List (κ × υ)) (pair : κ × υ) :
    collect (pairs ++ [pair]) = Function.update (collect pairs) pair.1 (some pair.2) := by
  simp [collect, List.foldl_append]

theorem collect_mem {pairs : List (κ × υ)} {key : κ} {value : υ} (found : collect pairs key = some value) :
    (key, value) ∈ pairs := by
  induction pairs using List.reverseRecOn with
  | nil => cases found
  | append_singleton pairs pair ih =>
    rw [collect_append_singleton] at found
    by_cases same : key = pair.1
    · subst same
      rw [Function.update_self] at found
      cases found
      exact List.mem_append_right _ (List.mem_singleton_self _)
    · rw [Function.update_of_ne same] at found
      exact List.mem_append_left _ (ih found)

theorem collect_isSome {pairs : List (κ × υ)} {key : κ} (present : key ∈ pairs.map Prod.fst) :
    ∃ value, collect pairs key = some value := by
  induction pairs using List.reverseRecOn with
  | nil => cases present
  | append_singleton pairs pair ih =>
    rw [collect_append_singleton]
    by_cases same : key = pair.1
    · subst same
      exact ⟨pair.2, Function.update_self ..⟩
    · rw [Function.update_of_ne same]
      apply ih
      simpa [same] using present

/-- The groups of values by key, each value once, in the order in which they were first seen. -/
def insertGroup [DecidableEq υ] (key : κ) (value : υ) : List (κ × List υ) → List (κ × List υ)
  | [] => [(key, [value])]
  | (other, values) :: groups =>
    if other = key then (other, if value ∈ values then values else values ++ [value]) :: groups
    else (other, values) :: insertGroup key value groups

section Groups

variable [DecidableEq υ] {key : κ} {value : υ} {groups : List (κ × List υ)}

theorem insertGroup_mem : ∃ values, (key, values) ∈ insertGroup key value groups ∧ value ∈ values := by
  induction groups with
  | nil => exact ⟨[value], List.mem_cons_self .., List.mem_cons_self ..⟩
  | cons group groups ih =>
    unfold insertGroup
    by_cases same : group.1 = key
    · rw [if_pos same, same]
      refine ⟨_, List.mem_cons_self .., ?_⟩
      split
      · assumption
      · exact List.mem_append_right _ (List.mem_singleton_self _)
    · rw [if_neg same]
      rcases ih with ⟨values, member, inside⟩
      exact ⟨values, List.mem_cons_of_mem _ member, inside⟩

theorem insertGroup_keeps {other : κ} {item : υ}
    (member : ∃ values, (other, values) ∈ groups ∧ item ∈ values) :
    ∃ values, (other, values) ∈ insertGroup key value groups ∧ item ∈ values := by
  induction groups with
  | nil => simp at member
  | cons group groups ih =>
    rcases member with ⟨values, found, inside⟩
    unfold insertGroup
    by_cases same : group.1 = key
    · rw [if_pos same]
      rcases List.mem_cons.mp found with rfl | later
      · refine ⟨_, List.mem_cons_self .., ?_⟩
        split
        · exact inside
        · exact List.mem_append_left _ inside
      · exact ⟨values, List.mem_cons_of_mem _ later, inside⟩
    · rw [if_neg same]
      rcases List.mem_cons.mp found with rfl | later
      · exact ⟨values, List.mem_cons_self .., inside⟩
      · rcases ih ⟨values, later, inside⟩ with ⟨others, kept, still⟩
        exact ⟨others, List.mem_cons_of_mem _ kept, still⟩

theorem insertGroup_all {property : κ → υ → Prop} (holds : property key value)
    (groupsHold : ∀ group ∈ groups, group.2 ≠ [] ∧ ∀ item ∈ group.2, property group.1 item) :
    ∀ group ∈ insertGroup key value groups, group.2 ≠ [] ∧ ∀ item ∈ group.2, property group.1 item := by
  induction groups with
  | nil =>
    intro group member
    rw [insertGroup, List.mem_singleton] at member
    subst member
    simpa using holds
  | cons first groups ih =>
    rcases List.forall_mem_cons.mp groupsHold with ⟨firstHolds, restHold⟩
    unfold insertGroup
    by_cases same : first.1 = key
    · rw [if_pos same]
      refine List.forall_mem_cons.mpr ⟨?_, restHold⟩
      split
      · exact firstHolds
      · refine ⟨by simp, ?_⟩
        intro item member
        rcases List.mem_append.mp member with old | new
        · exact firstHolds.2 item old
        · cases List.mem_singleton.mp new
          rw [same]
          exact holds
    · rw [if_neg same]
      exact List.forall_mem_cons.mpr ⟨firstHolds, ih restHold⟩

/-- Each key heads one group, and no group holds a value twice. -/
structure DistinctGroups (groups : List (κ × List υ)) : Prop where
  keys : (groups.map Prod.fst).Nodup
  values : ∀ group ∈ groups, group.2.Nodup

theorem insertGroup_keys {other : κ} (member : other ∈ (insertGroup key value groups).map Prod.fst) :
    other = key ∨ other ∈ groups.map Prod.fst := by
  induction groups with
  | nil => exact .inl (List.mem_singleton.mp member)
  | cons group groups ih =>
    unfold insertGroup at member
    split at member
    · exact .inr member
    · rcases List.mem_cons.mp member with rfl | later
      · exact .inr (List.mem_cons_self ..)
      · rcases ih later with here | deeper
        · exact .inl here
        · exact .inr (List.mem_cons_of_mem _ deeper)

theorem DistinctGroups.insertGroup (distinct : DistinctGroups groups) :
    DistinctGroups (insertGroup key value groups) := by
  induction groups with
  | nil =>
    apply DistinctGroups.mk
    · exact List.nodup_singleton key
    · intro group member
      cases List.mem_singleton.mp member
      exact List.nodup_singleton value
  | cons group groups ih =>
    rcases List.nodup_cons.mp distinct.keys with ⟨fresh, rest⟩
    rcases List.forall_mem_cons.mp distinct.values with ⟨here, others⟩
    rcases ih ⟨rest, others⟩ with ⟨keys, values⟩
    unfold Foundation.insertGroup
    by_cases same : group.1 = key
    · rw [if_pos same]
      refine ⟨distinct.keys, List.forall_mem_cons.mpr ⟨?_, others⟩⟩
      show (if value ∈ group.2 then group.2 else group.2 ++ [value]).Nodup
      by_cases known : value ∈ group.2
      · rw [if_pos known]
        exact here
      · rw [if_neg known]
        exact List.nodup_append_comm.mp (List.nodup_cons.mpr ⟨known, here⟩)
    · rw [if_neg same]
      apply DistinctGroups.mk
      · apply List.nodup_cons.mpr ⟨?_, keys⟩
        intro again
        rcases insertGroup_keys again with matching | deeper
        · exact same matching
        · exact fresh deeper
      · exact List.forall_mem_cons.mpr ⟨here, values⟩

end Groups

/-- Where keys are distinct, the first match is the only one. -/
theorem find?_of_nodup {α : Type} {items : List α} {key : α → κ} (distinct : (items.map key).Nodup) {item : α}
    (member : item ∈ items) : items.find? (fun other => key other = key item) = some item := by
  induction items with
  | nil => cases member
  | cons first items ih =>
    rcases List.nodup_cons.mp distinct with ⟨fresh, rest⟩
    rcases List.mem_cons.mp member with rfl | later
    · exact List.find?_cons_of_pos (decide_eq_true rfl)
    · have other : key first ≠ key item := by
        intro same
        apply fresh
        rw [same]
        exact List.mem_map_of_mem later
      rw [List.find?_cons_of_neg (by simpa using other)]
      exact ih rest later

section Chunks

variable {α : Type}

theorem toChunks_go_flatten (size : Nat) (items : List α) (current : Array α) (done : Array (List α)) :
    (List.toChunks.go size items current done).flatten = done.toList.flatten ++ current.toList ++ items := by
  induction items generalizing current done with
  | nil => simp [List.toChunks.go]
  | cons item items ih =>
    unfold List.toChunks.go
    split
    · rw [ih]
      simp
    · rw [ih]
      simp

theorem toChunks_go_nonempty (size : Nat) (items : List α) (current : Array α) (done : Array (List α))
    (some : current.toList ≠ []) (all : ∀ chunk ∈ done.toList, chunk ≠ []) :
    ∀ chunk ∈ List.toChunks.go size items current done, chunk ≠ [] := by
  induction items generalizing current done with
  | nil =>
    intro chunk member
    simp only [List.toChunks.go, Array.toList_push, List.mem_append, List.mem_singleton] at member
    rcases member with earlier | rfl
    · exact all chunk earlier
    · exact some
  | cons item items ih =>
    unfold List.toChunks.go
    split
    · apply ih
      · simp
      · intro chunk member
        rw [Array.toList_push, List.mem_append, List.mem_singleton] at member
        rcases member with earlier | rfl
        · exact all chunk earlier
        · exact some
    · apply ih _ _ ?_ all
      simp

theorem toChunks_flatten (size : Nat) (items : List α) (positive : 0 < size) :
    (items.toChunks size).flatten = items := by
  cases items with
  | nil => simp [List.toChunks]
  | cons item items =>
    have nonzero : size = 0 → False := by omega
    rw [List.toChunks.eq_3 _ _ _ nonzero, toChunks_go_flatten]
    simp

theorem toChunks_nonempty (size : Nat) (items : List α) (positive : 0 < size) :
    ∀ chunk ∈ items.toChunks size, chunk ≠ [] := by
  cases items with
  | nil => simp [List.toChunks]
  | cons item items =>
    have nonzero : size = 0 → False := by omega
    rw [List.toChunks.eq_3 _ _ _ nonzero]
    apply toChunks_go_nonempty
    · simp
    · simp

theorem slice_flatten {rows : List (List α)} {width : Nat} (wide : ∀ row ∈ rows, row.length = width) (index : Nat)
    (inside : index < rows.length) : (rows.flatten.drop (index * width)).take width = rows[index] := by
  induction rows generalizing index with
  | nil => cases inside
  | cons row rows ih =>
    rcases List.forall_mem_cons.mp wide with ⟨here, others⟩
    cases index with
    | zero => simp [← here]
    | succ index =>
      have skipped : (index + 1) * width = row.length + index * width := by
        rw [here, Nat.add_mul, Nat.one_mul, Nat.add_comm]
      rw [List.flatten_cons, skipped, ← List.drop_drop, List.drop_left, List.getElem_cons_succ]
      exact ih others index (by simpa using inside)

end Chunks

section Fresh

variable {α : Type} [DecidableEq α] {present items : List α}

/-- The items that are not present yet, each where it comes first. -/
def fresh (present items : List α) : List α := (items.filter (· ∉ present)).eraseDups

def appendFresh (present items : List α) : List α :=
  items.foldl (fun kept item => if item ∈ kept then kept else kept ++ [item]) present

theorem mem_fresh {item : α} : item ∈ fresh present items ↔ item ∈ items ∧ item ∉ present := by
  simp [fresh]

theorem fresh_cons_of_mem {item : α} (member : item ∈ present) :
    fresh present (item :: items) = fresh present items := by
  simp [fresh, member]

theorem fresh_cons_of_not_mem {item : α} (absent : item ∉ present) :
    fresh present (item :: items) = item :: fresh (present ++ [item]) items := by
  have same : (items.filter (· ∉ present)).filter (fun other => !other == item) =
      items.filter (· ∉ present ++ [item]) := by
    rw [List.filter_filter]
    apply List.filter_congr
    intro other _
    by_cases here : other = item <;> simp [here]
  rw [fresh, List.filter_cons_of_pos (by simpa using absent), List.eraseDups_cons, same]
  rfl

theorem appendFresh_eq (present items : List α) : appendFresh present items = present ++ fresh present items := by
  induction items generalizing present with
  | nil => simp [appendFresh, fresh]
  | cons item items ih =>
    have step : appendFresh present (item :: items) =
        appendFresh (if item ∈ present then present else present ++ [item]) items := rfl
    by_cases member : item ∈ present
    · rw [step, if_pos member, ih, fresh_cons_of_mem member]
    · rw [step, if_neg member, ih, fresh_cons_of_not_mem member, List.append_assoc]
      rfl

theorem appendFresh_append (present first second : List α) :
    appendFresh present (first ++ second) = appendFresh (appendFresh present first) second := List.foldl_append

theorem fresh_nodup (present items : List α) : (fresh present items).Nodup := by
  induction items generalizing present with
  | nil => exact List.nodup_nil
  | cons item items ih =>
    by_cases member : item ∈ present
    · rw [fresh_cons_of_mem member]
      exact ih present
    · rw [fresh_cons_of_not_mem member, List.nodup_cons]
      refine ⟨?_, ih (present ++ [item])⟩
      intro again
      exact (mem_fresh.mp again).2 (by simp)

theorem fresh_sublist (present items : List α) : (fresh present items).Sublist items := by
  induction items generalizing present with
  | nil => exact .refl _
  | cons item items ih =>
    by_cases member : item ∈ present
    · rw [fresh_cons_of_mem member]
      exact (ih present).cons item
    · rw [fresh_cons_of_not_mem member]
      exact (ih (present ++ [item])).cons_cons item

end Fresh

end Foundation
