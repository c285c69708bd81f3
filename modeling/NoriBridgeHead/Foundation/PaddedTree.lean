import Mathlib.Data.List.Basic
import Mathlib.Algebra.Order.Ring.Nat

namespace Foundation.PaddedTree

variable {α : Type} (hash : α → α → α)

/-- The node at `index` of the level `height` above the leaves. -/
def node (leaf : Nat → α) : Nat → Nat → α
  | 0, index => leaf index
  | height + 1, index => hash (node leaf height (2 * index)) (node leaf height (2 * index + 1))

def zeroNode (zero : α) : Nat → α
  | 0 => zero
  | height + 1 => hash (zeroNode zero height) (zeroNode zero height)

/-- How many nodes of a level lie above at least one of the first `count` leaves. -/
def realCount (count : Nat) : Nat → Nat
  | 0 => count
  | height + 1 => (realCount count height + 1) / 2

/-- The tree as a fold with a table of empty subtrees sees it: a node above no real leaf is read from the table. -/
def cachedNode (empty leaf : Nat → α) (count : Nat) : Nat → Nat → α
  | 0, index => leaf index
  | height + 1, index =>
    if realCount count height ≤ 2 * index then empty (height + 1)
    else hash (cachedNode empty leaf count height (2 * index)) (cachedNode empty leaf count height (2 * index + 1))

/-- The two children of a node of the level above `level`. -/
def cachedPair (empty leaf : Nat → α) (count level position : Nat) : α × α :=
  (cachedNode hash empty leaf count level (2 * position), cachedNode hash empty leaf count level (2 * position + 1))

def Collides (first second : α × α) : Prop := first ≠ second ∧ hash first.1 first.2 = hash second.1 second.2

def padded (zero : α) (leaves : List α) (index : Nat) : α := leaves.getD index zero

/-- The `2 ^ width` leftmost nodes of the level `height`. -/
def row (value : Nat → Nat → α) (width height : Nat) : List α := (List.range (2 ^ width)).map (value height)

def root (zero : α) (leaves : List α) (depth : Nat) : α := node hash (padded zero leaves) depth 0

theorem node_eq_zeroNode (zero : α) (leaf : Nat → α) (count : Nat)
    (beyond : ∀ index, count ≤ index → leaf index = zero) (height index : Nat)
    (outside : count ≤ index * 2 ^ height) : node hash leaf height index = zeroNode hash zero height := by
  induction height generalizing index with
  | zero => exact beyond index (by simpa using outside)
  | succ height ih =>
    have doubled : index * 2 ^ (height + 1) = 2 * index * 2 ^ height := by
      rw [Nat.pow_succ, ← Nat.mul_assoc, Nat.mul_comm 2 index, Nat.mul_right_comm]
    have next : (2 * index + 1) * 2 ^ height = 2 * index * 2 ^ height + 2 ^ height := by
      rw [Nat.add_mul, Nat.one_mul]
    rw [doubled] at outside
    have left := ih (2 * index) outside
    have right := ih (2 * index + 1) (by rw [next]; exact Nat.le_add_right_of_le outside)
    simp only [node, zeroNode, left, right]

theorem realCount_le_iff (count height index : Nat) :
    realCount count height ≤ index ↔ count ≤ index * 2 ^ height := by
  induction height generalizing index with
  | zero => simp [realCount]
  | succ height ih =>
    have halved : (realCount count height + 1) / 2 ≤ index ↔ realCount count height ≤ index * 2 := by omega
    rw [realCount, halved, ih, Nat.mul_assoc, Nat.pow_succ, Nat.mul_comm 2]

theorem cachedNode_eq_node (zero : α) (limit : Nat) {empty leaf : Nat → α} {count : Nat}
    (beyond : ∀ index, count ≤ index → leaf index = zero)
    (table : ∀ height, height ≤ limit → empty height = zeroNode hash zero height) (height index : Nat)
    (inside : height ≤ limit) : cachedNode hash empty leaf count height index = node hash leaf height index := by
  induction height generalizing index with
  | zero => rfl
  | succ height ih =>
    rw [cachedNode]
    split
    · rename_i dummy
      have outside : count ≤ index * 2 ^ (height + 1) := by
        apply (realCount_le_iff count (height + 1) index).mp
        rw [realCount]
        omega
      rw [table (height + 1) inside, node_eq_zeroNode hash zero leaf count beyond (height + 1) index outside]
    · rw [ih (2 * index) (by omega), ih (2 * index + 1) (by omega), node]

theorem padded_eq (zero : α) (leaves : List α) (missing index : Nat) (below : index < leaves.length + missing) :
    (leaves ++ List.replicate missing zero)[index]? = some (padded zero leaves index) := by
  unfold padded
  by_cases real : index < leaves.length
  · simp [List.getElem?_append_left real, List.getElem?_eq_getElem real, List.getD]
  · have beyond : leaves.length ≤ index := by omega
    have inside : index - leaves.length < missing := by omega
    simp [List.getElem?_append_right beyond, inside, List.getD,
      List.getElem?_eq_none beyond]

@[simp] theorem row_length (value : Nat → Nat → α) (width height : Nat) :
    (row value width height).length = 2 ^ width := by
  rw [row, List.length_map, List.length_range]

theorem row_lookup (value : Nat → Nat → α) (width height : Nat) {index : Nat} (inside : index < 2 ^ width) :
    (row value width height)[index]? = some (value height index) := by
  rw [row, List.getElem?_map, List.getElem?_range inside]
  rfl

theorem padded_row (zero : α) (value : Nat → Nat → α) {leaves : List α} {width : Nat}
    (bottom : value 0 = padded zero leaves) (fits : leaves.length ≤ 2 ^ width) :
    leaves ++ List.replicate (2 ^ width - leaves.length) zero = row value width 0 := by
  apply List.ext_getElem?
  intro index
  by_cases inside : index < 2 ^ width
  · rw [padded_eq zero leaves _ index (by omega), row_lookup value width 0 inside, bottom]
  · have short : leaves.length + (2 ^ width - leaves.length) ≤ index := by omega
    rw [List.getElem?_eq_none (by simpa using short), List.getElem?_eq_none (by simpa using inside)]

theorem padded_beyond (zero : α) (leaves : List α) (index : Nat) (beyond : leaves.length ≤ index) :
    padded zero leaves index = zero := by
  simp [padded, List.getD, List.getElem?_eq_none beyond]

/-- Two folds of equally many leaves reach one node only from the same real leaves, unless they hash
    two different pairs to one value at the same place. -/
theorem cachedNode_binding {empty first second : Nat → α} {count : Nat} (height index : Nat)
    (same : cachedNode hash empty first count height index = cachedNode hash empty second count height index) :
    (∀ leaf, leaf / 2 ^ height = index → leaf < count → first leaf = second leaf) ∨
      ∃ level position, level < height ∧ 2 * position < realCount count level ∧
        Collides hash (cachedPair hash empty first count level position)
          (cachedPair hash empty second count level position) := by
  induction height generalizing index with
  | zero =>
    left
    intro leaf place _
    rw [Nat.pow_zero, Nat.div_one] at place
    rw [place]
    exact same
  | succ height ih =>
    by_cases dummy : realCount count height ≤ 2 * index
    · left
      intro leaf place real
      have outside : count ≤ index * 2 ^ (height + 1) := by
        apply (realCount_le_iff count (height + 1) index).mp
        rw [realCount]
        omega
      have below := Nat.div_mul_le_self leaf (2 ^ (height + 1))
      rw [place] at below
      omega
    · rw [cachedNode, cachedNode, if_neg dummy, if_neg dummy] at same
      by_cases pairs : cachedPair hash empty first count height index = cachedPair hash empty second count height index
      · rcases ih (2 * index) (Prod.mk.inj pairs).1 with left | ⟨level, position, below, collision⟩
        · rcases ih (2 * index + 1) (Prod.mk.inj pairs).2 with right | ⟨level, position, below, collision⟩
          · left
            intro leaf place real
            rw [Nat.pow_succ, ← Nat.div_div_eq_div_mul] at place
            have child : leaf / 2 ^ height = 2 * index ∨ leaf / 2 ^ height = 2 * index + 1 := by omega
            rcases child with even | odd
            · exact left leaf even real
            · exact right leaf odd real
          · exact .inr ⟨level, position, by omega, collision⟩
        · exact .inr ⟨level, position, by omega, collision⟩
      · exact .inr ⟨height, index, Nat.lt_succ_self height, Nat.lt_of_not_le dummy, pairs, same⟩

end Foundation.PaddedTree
