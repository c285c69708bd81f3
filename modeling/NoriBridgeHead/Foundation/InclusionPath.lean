import NoriBridgeHead.Foundation.PaddedTree

open Foundation.PaddedTree

namespace Foundation.InclusionPath

variable {α : Type} (hash : α → α → α)

def sibling (index : Nat) : Nat := if index % 2 = 1 then index - 1 else index + 1

/-- The siblings of the nodes above `index`, from the leaves upwards. -/
def authPath (value : Nat → Nat → α) (depth index : Nat) : List α :=
  (List.range depth).map fun height => value height (sibling (index / 2 ^ height))

def ordered (index : Nat) (value sibling : α) : α × α := if index % 2 = 1 then (sibling, value) else (value, sibling)

def climb (value : α) (index : Nat) : List α → α
  | [] => value
  | sibling :: path =>
    climb (hash (ordered index value sibling).1 (ordered index value sibling).2) (index / 2) path

/-- The pair that `climb` hashes at a level. -/
def climbedPair (value : α) (index : Nat) (path : List α) (level : Nat) : Option (α × α) :=
  path[level]?.map (ordered (index / 2 ^ level) (climb hash value index (path.take level)))

/-- The pair of siblings of the tree above `index` at a level. -/
def treePair (value : Nat → Nat → α) (index level : Nat) : α × α :=
  (value level (2 * (index / 2 ^ (level + 1))), value level (2 * (index / 2 ^ (level + 1)) + 1))

def HashTree (value : Nat → Nat → α) (depth : Nat) : Prop :=
  ∀ height index, height < depth →
    value (height + 1) index = hash (value height (2 * index)) (value height (2 * index + 1))

theorem sibling_lt {index width : Nat} (inside : index < 2 ^ (width + 1)) : sibling index < 2 ^ (width + 1) := by
  have even : 2 ^ (width + 1) = 2 * 2 ^ width := Nat.pow_succ'
  unfold sibling
  split <;> omega

theorem authPath_length (value : Nat → Nat → α) (depth index : Nat) : (authPath value depth index).length = depth := by
  rw [authPath, List.length_map, List.length_range]

theorem authPath_snoc (value : Nat → Nat → α) (depth index : Nat) :
    authPath value (depth + 1) index = authPath value depth index ++ [value depth (sibling (index / 2 ^ depth))] := by
  rw [authPath, List.range_succ, List.map_append]
  rfl

theorem authPath_cons (value : Nat → Nat → α) (depth index : Nat) :
    authPath value (depth + 1) index =
      value 0 (sibling index) :: authPath (fun height => value (height + 1)) depth (index / 2) := by
  have halves : ∀ height, index / 2 ^ (height + 1) = index / 2 / 2 ^ height := by
    intro height
    rw [Nat.pow_succ', Nat.div_div_eq_div_mul]
  simp only [authPath, List.range_succ_eq_map, List.map_cons, List.map_map, Nat.pow_zero, Nat.div_one,
    List.cons.injEq, true_and]
  apply List.map_congr_left
  intro height _
  simp only [Function.comp_apply, Nat.succ_eq_add_one, halves]

theorem HashTree.above {hash : α → α → α} {value : Nat → Nat → α} {depth : Nat}
    (tree : HashTree hash value (depth + 1)) :
    HashTree hash (fun height => value (height + 1)) depth := by
  intro height index inside
  exact tree (height + 1) index (by omega)

theorem ordered_children (value : Nat → α) (index : Nat) :
    ordered index (value index) (value (sibling index)) = (value (2 * (index / 2)), value (2 * (index / 2) + 1)) := by
  unfold ordered sibling
  by_cases odd : index % 2 = 1
  · have left : 2 * (index / 2) = index - 1 := by omega
    have right : index - 1 + 1 = index := by omega
    rw [if_pos odd, if_pos odd, left, right]
  · have left : 2 * (index / 2) = index := by omega
    rw [if_neg odd, if_neg odd, left]

/-- Climbing along the siblings of the tree reaches the node of the tree. -/
theorem climb_authPath {value : Nat → Nat → α} {depth : Nat} (tree : HashTree hash value depth) (index : Nat) :
    climb hash (value 0 index) index (authPath value depth index) = value depth (index / 2 ^ depth) := by
  induction depth generalizing value index with
  | zero =>
    rw [Nat.pow_zero, Nat.div_one]
    rfl
  | succ depth ih =>
    have parent := tree 0 (index / 2) (Nat.succ_pos depth)
    rw [authPath_cons, climb, ordered_children, ← parent, ih tree.above (index / 2), Nat.pow_succ',
      Nat.div_div_eq_div_mul]

/-- A path of any origin that reaches the node of the tree starts at the leaf of the tree, unless it
    hashes a pair other than the tree's own to the same value. -/
theorem climb_sound {value : Nat → Nat → α} {depth index : Nat} {start : α} {path : List α}
    (tree : HashTree hash value depth) (size : path.length = depth)
    (reached : climb hash start index path = value depth (index / 2 ^ depth)) :
    start = value 0 index ∨ ∃ level pair, level < depth ∧ climbedPair hash start index path level = some pair ∧
      Collides hash pair (treePair value index level) := by
  induction path generalizing value depth index start with
  | nil =>
    subst size
    left
    rw [List.length_nil, Nat.pow_zero, Nat.div_one] at reached
    exact reached
  | cons next path ih =>
    cases depth with
    | zero => cases size
    | succ depth =>
      have rest : path.length = depth := Nat.succ.inj size
      rw [climb, Nat.pow_succ', ← Nat.div_div_eq_div_mul] at reached
      rcases ih tree.above rest reached with agreed | ⟨level, pair, inside, climbed, differs, collides⟩
      · have parent := tree 0 (index / 2) (Nat.succ_pos depth)
        by_cases same : ordered index start next = (value 0 (2 * (index / 2)), value 0 (2 * (index / 2) + 1))
        · left
          rw [← ordered_children (value 0) index] at same
          unfold ordered at same
          split at same
          · exact (Prod.mk.inj same).2
          · exact (Prod.mk.inj same).1
        · refine .inr ⟨0, ordered index start next, Nat.succ_pos depth, ?_, ?_, ?_⟩
          · simp [climbedPair, climb]
          · simpa [treePair] using same
          · rw [agreed, parent]
            simp [treePair]
      · refine .inr ⟨level + 1, pair, by omega, ?_, ?_, ?_⟩
        · rw [← climbed]
          simp only [climbedPair, List.getElem?_cons_succ, List.take_succ_cons, climb, Nat.pow_succ',
            ← Nat.div_div_eq_div_mul]
        · rw [treePair, Nat.pow_succ', ← Nat.div_div_eq_div_mul]
          exact differs
        · rw [treePair, Nat.pow_succ', ← Nat.div_div_eq_div_mul]
          exact collides

end Foundation.InclusionPath
