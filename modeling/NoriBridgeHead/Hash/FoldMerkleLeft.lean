import NoriBridgeHead.Foundation.PaddedTree
import NoriBridgeHead.Hash.MerklePoseidon

open Foundation Foundation.Outcome Foundation.PaddedTree NoriModel

namespace NoriModel

def poseidonPair (C : Crypto) (left right : Fp) : Fp := C.poseidonHash [left, right]

def merkleRoot (C : Crypto) (leaves : List Fp) : Fp :=
  root (poseidonPair C) 0 leaves (computeMerkleTreeDepthAndSize leaves.length).1

def ZeroHashes (C : Crypto) (zeros : Vector Fp nMerkleZeros) : Prop :=
  ∀ height (bound : height < nMerkleZeros), zeros[height] = zeroNode (poseidonPair C) 0 height

def emptySubtree (zeros : Vector Fp nMerkleZeros) (height : Nat) : Fp := zeros[height]?.getD 0

/-- The nodes that the level loops compute, dummy nodes read from the table. -/
def merkleNode (C : Crypto) (zeros : Vector Fp nMerkleZeros) (leaves : List Fp) : Nat → Nat → Fp :=
  cachedNode (poseidonPair C) (emptySubtree zeros) (padded 0 leaves) leaves.length

def ZeroSubtrees (C : Crypto) (zeros : Vector Fp nMerkleZeros) : Prop :=
  zeros[0] = 0 ∧ ∀ height (bound : height + 1 < nMerkleZeros),
    zeros[height + 1] = C.poseidonHash [zeros[height], zeros[height]]

def zeroTable (C : Crypto) : Vector Fp nMerkleZeros := Vector.ofFn fun height => zeroNode (poseidonPair C) 0 height

/-- A stand-in for Poseidon that tells the places of its inputs apart. -/
def weightedHash : Crypto where
  keccak256 := fun _ => default
  sha256 := fun _ => default
  poseidonHash := fun inputs => inputs.foldl (fun state input => 3 * state + input) 1
  encodeU256 := fun _ => []
  encodeTrieAccount := fun _ => []
  verifyProof := fun _ _ _ _ => .ok ()

/-- What the build of `merkle-zeros.dat` computes: each entry hashes its predecessor with itself. -/
def ZerosBuilt (C : Crypto) : Prop :=
  ∀ zeros : Vector Fp nMerkleZeros, (getMerkleZeros : Outcome Empty _) = .ok zeros →
    ∀ height (bound : height + 1 < nMerkleZeros),
      zeros[height + 1] = C.poseidonHash [zeros[height], zeros[height]]

end NoriModel

namespace NoriProof

variable {ε : Type}

theorem trailingZeros_pow (width exponent : Nat) (fits : exponent ≤ width) :
    trailingZeros width (2 ^ exponent) = exponent := by
  induction width generalizing exponent with
  | zero =>
    have zero : exponent = 0 := by omega
    subst zero
    rfl
  | succ width ih =>
    cases exponent with
    | zero => simp [trailingZeros]
    | succ exponent =>
      have even : 2 ^ (exponent + 1) % 2 ≠ 1 := by
        rw [Nat.pow_succ]
        omega
      have half : 2 ^ (exponent + 1) / 2 = 2 ^ exponent := by
        rw [Nat.pow_succ]
        omega
      simp only [trailingZeros, even, ↓reduceIte, half, ih exponent (by omega)]

theorem computeMerkleTreeDepthAndSize_spec (nLeaves : Nat) (bound : nLeaves ≤ maxBatch) :
    (computeMerkleTreeDepthAndSize nLeaves).2 = 2 ^ (computeMerkleTreeDepthAndSize nLeaves).1 ∧
      nLeaves ≤ (computeMerkleTreeDepthAndSize nLeaves).2 ∧
      (computeMerkleTreeDepthAndSize nLeaves).1 ≤ maxTreeDepth := by
  match nLeaves with
  | 0 => simp [computeMerkleTreeDepthAndSize]
  | 1 => simp [computeMerkleTreeDepthAndSize]
  | count + 2 =>
    have positive : count + 1 ≠ 0 := by omega
    have below : count + 1 < 2 ^ maxTreeDepth := by
      change count + 2 ≤ 65536 at bound
      change count + 1 < 65536
      omega
    have small : Nat.log2 (count + 1) < maxTreeDepth := (Nat.log2_lt positive).mpr below
    have covers : count + 1 < 2 ^ (Nat.log2 (count + 1) + 1) := Nat.lt_log2_self
    have depth : trailingZeros 64 (2 ^ (Nat.log2 (count + 1) + 1)) = Nat.log2 (count + 1) + 1 := by
      apply trailingZeros_pow
      change Nat.log2 (count + 1) < 16 at small
      omega
    have result : computeMerkleTreeDepthAndSize (count + 2) =
        (Nat.log2 (count + 1) + 1, 2 ^ (Nat.log2 (count + 1) + 1)) := by
      change (trailingZeros 64 (2 ^ (Nat.log2 (count + 1) + 1)), _) = _
      rw [depth]
      rfl
    rw [result]
    exact ⟨rfl, covers, small⟩

theorem getMerkleZeros_ok_iff (zeros : Vector Fp nMerkleZeros) :
    (getMerkleZeros : Outcome ε _) = .ok zeros ↔ (getMerkleZeros : Outcome Empty _) = .ok zeros := by
  simp only [getMerkleZeros, bind_ok_iff, mapM_ok_iff, expect_ok_iff]

theorem getMerkleZeros_first :
    ((getMerkleZeros : Outcome Empty _).toOption.bind fun zeros => zeros[0]?) = some 0 := by
  decide +kernel

theorem getMerkleZeros_ok : ∃ zeros : Vector Fp nMerkleZeros,
    (getMerkleZeros : Outcome ε _) = .ok zeros ∧ zeros[0]? = some 0 := by
  have first := getMerkleZeros_first
  cases decoded : (getMerkleZeros : Outcome Empty _) with
  | error failure =>
    rw [decoded] at first
    cases first
  | ok zeros =>
    rw [decoded] at first
    exact ⟨zeros, (getMerkleZeros_ok_iff zeros).mpr decoded, first⟩

/-- Inside one level pass: the first `done` nodes are parents already, the rest still children. -/
structure LevelState (C : Crypto) (zeros : Vector Fp nMerkleZeros) (leaves : List Fp) (depth height done : Nat)
    (nodes : List Fp) : Prop where
  size : nodes.length = 2 ^ depth
  parents : ∀ index, index < done → nodes[index]? = some (merkleNode C zeros leaves (height + 1) index)
  children : ∀ index, done ≤ index → index < 2 ^ (depth - height) →
    nodes[index]? = some (merkleNode C zeros leaves height index)

section Fold

variable {C : Crypto} {leaves nodes : List Fp} {zeros : Vector Fp nMerkleZeros} {depth height index : Nat}

theorem merkleNode_succ (C : Crypto) (zeros : Vector Fp nMerkleZeros) (leaves : List Fp) (height index : Nat) :
    merkleNode C zeros leaves (height + 1) index =
      if realCount leaves.length height ≤ 2 * index then emptySubtree zeros (height + 1)
      else C.poseidonHash
        [merkleNode C zeros leaves height (2 * index), merkleNode C zeros leaves height (2 * index + 1)] :=
  rfl

theorem emptySubtree_lookup (zeros : Vector Fp nMerkleZeros) (height : Nat) (bound : height < nMerkleZeros) :
    zeros[height]? = some (emptySubtree zeros height) := by
  rw [emptySubtree, getElem?_pos zeros height bound, Option.getD_some]

/-- The height that both builders compute for a dummy node is inside the table. -/
theorem dummy_lookup (zeros : Vector Fp nMerkleZeros) (shallow : depth ≤ maxTreeDepth) (above : height < depth) :
    (subUsize (depth + 1) (depth - height) : Outcome ε Nat) = .ok (height + 1) ∧
      zeros[height + 1]? = some (emptySubtree zeros (height + 1)) := by
  refine ⟨subUsize_ok_iff.mpr ⟨by omega, by omega⟩, ?_⟩
  apply emptySubtree_lookup
  change depth ≤ 16 at shallow
  change height + 1 < 17
  omega

theorem merkleNode_eq_node (correct : ZeroHashes C zeros) (bound : height ≤ maxTreeDepth) (index : Nat) :
    merkleNode C zeros leaves height index = node (poseidonPair C) (padded 0 leaves) height index := by
  apply cachedNode_eq_node (poseidonPair C) 0 maxTreeDepth (padded_beyond 0 leaves)
  · intro row inside
    have present : row < nMerkleZeros := Nat.lt_succ_of_le inside
    rw [← correct row present, emptySubtree, getElem?_pos zeros row present, Option.getD_some]
  · exact bound

theorem LevelState.initial (fits : leaves.length ≤ 2 ^ depth) :
    LevelState C zeros leaves depth 0 0 (leaves ++ List.replicate (2 ^ depth - leaves.length) 0) := by
  constructor
  · simp
    omega
  · intro index below
    omega
  · intro index _ below
    exact padded_eq 0 leaves _ index (by rw [Nat.sub_zero] at below; omega)

theorem LevelState.store (state : LevelState C zeros leaves depth height index nodes) (inside : index < 2 ^ depth) :
    ∃ next, (storeNode nodes index (merkleNode C zeros leaves (height + 1) index) : Outcome ε _) = .ok next ∧
      LevelState C zeros leaves depth height (index + 1) next := by
  have bound : index < nodes.length := by rw [state.size]; exact inside
  refine ⟨_, by rw [storeNode, if_pos bound], ?_⟩
  constructor
  · simp [state.size]
  · intro other below
    by_cases same : other = index
    · subst same
      simp [bound]
    · rw [List.getElem?_set_ne (Ne.symm same)]
      exact state.parents other (by omega)
  · intro other beyond below
    rw [List.getElem?_set_ne (by omega)]
    exact state.children other (by omega) below

theorem foldPair_step (shallow : depth ≤ maxTreeDepth) (above : height < depth)
    (inside : index < 2 ^ (depth - height) / 2) (state : LevelState C zeros leaves depth height index nodes) :
    ∃ next, (foldPair C zeros depth (depth - height) (realCount leaves.length height) nodes index : Outcome ε _) =
      .ok next ∧ LevelState C zeros leaves depth height (index + 1) next := by
  have width : 2 ^ (depth - height) ≤ 2 ^ depth := Nat.pow_le_pow_right (by decide) (by omega)
  rcases state.store (ε := ε) (by omega) with ⟨next, stored, kept⟩
  refine ⟨next, ?_, kept⟩
  rw [merkleNode_succ] at stored
  unfold foldPair
  by_cases dummy : realCount leaves.length height ≤ 2 * index
  · rcases dummy_lookup (ε := ε) zeros shallow above with ⟨row, cached⟩
    rw [if_pos dummy] at stored
    simp only [ge_iff_le, dummy, ↓reduceIte, row, ok_bind, cached, expect, stored]
  · have left := state.children (2 * index) (by omega) (by omega)
    have right := state.children (2 * index + 1) (by omega) (by omega)
    rw [if_neg dummy] at stored
    simp only [ge_iff_le, dummy, ↓reduceIte, nodeAt, left, right, expect, ok_bind, stored]

theorem half_width (above : height < depth) : 2 ^ (depth - height) / 2 = 2 ^ (depth - (height + 1)) := by
  have split : depth - height = depth - (height + 1) + 1 := by omega
  rw [split, Nat.pow_succ]
  omega

theorem foldLevel_step (shallow : depth ≤ maxTreeDepth) (above : height < depth)
    (level : LevelState C zeros leaves depth height 0 nodes) :
    ∃ next, (foldLevel C zeros depth (nodes, realCount leaves.length height) (depth - height) : Outcome ε _) =
      .ok (next, realCount leaves.length (height + 1)) ∧ LevelState C zeros leaves depth (height + 1) 0 next := by
  rcases foldlM_range_ok (foldPair (ε := ε) C zeros depth (depth - height) (realCount leaves.length height))
    (fun index nodes => LevelState C zeros leaves depth height index nodes) (2 ^ (depth - height) / 2)
    (fun _ _ inside kept => foldPair_step shallow above inside kept) nodes level with ⟨next, looped, finished⟩
  refine ⟨next, ?_, finished.size, ?_, ?_⟩
  · simp only [foldLevel, looped, ok_bind]
    rfl
  · intro index below
    omega
  · intro index _ below
    exact finished.parents index (by rw [half_width above]; exact below)

/-- Folding a batch never leaves its bounds, whatever the table of zeros holds. -/
theorem foldMerkleLeft_merkleNode (C : Crypto) (zeros : Vector Fp nMerkleZeros) (batch : leaves.length ≤ maxBatch) :
    (foldMerkleLeft C leaves (computeMerkleTreeDepthAndSize leaves.length).2
      (computeMerkleTreeDepthAndSize leaves.length).1 zeros : Outcome ε _) =
      .ok (merkleNode C zeros leaves (computeMerkleTreeDepthAndSize leaves.length).1 0) := by
  rcases computeMerkleTreeDepthAndSize_spec leaves.length batch with ⟨size, fits, shallow⟩
  by_cases empty : leaves = []
  · subst empty
    rfl
  · rw [size] at fits ⊢
    generalize (computeMerkleTreeDepthAndSize leaves.length).1 = depth at fits shallow ⊢
    rcases foldlM_down_ok (foldLevel (ε := ε) C zeros depth)
      (fun height state => LevelState C zeros leaves depth height 0 state.1 ∧
        state.2 = realCount leaves.length height) depth
      (by
        rintro height ⟨nodes, _⟩ above ⟨kept, rfl⟩
        rcases foldLevel_step (ε := ε) shallow above kept with ⟨next, stepped, after⟩
        exact ⟨_, stepped, after, rfl⟩)
      (leaves ++ List.replicate (2 ^ depth - leaves.length) 0, leaves.length)
      ⟨LevelState.initial fits, rfl⟩ with ⟨⟨result, _⟩, looped, finished, _⟩
    have top := finished.children 0 (Nat.le_refl 0) (Nat.pow_pos (by decide))
    have nonempty : leaves.isEmpty = false := by simpa using empty
    simp only [foldMerkleLeft, nonempty, Bool.false_eq_true, ↓reduceIte, subUsize, fits, ok_bind, looped, nodeAt, top,
      expect]

/-- With the hashes of the empty subtrees in the table the fold yields the zero-padded Merkle root. -/
theorem foldMerkleLeft_merkleRoot (correct : ZeroHashes C zeros) (batch : leaves.length ≤ maxBatch) :
    (foldMerkleLeft C leaves (computeMerkleTreeDepthAndSize leaves.length).2
      (computeMerkleTreeDepthAndSize leaves.length).1 zeros : Outcome ε _) = .ok (merkleRoot C leaves) := by
  rcases computeMerkleTreeDepthAndSize_spec leaves.length batch with ⟨_, _, shallow⟩
  rw [foldMerkleLeft_merkleNode C zeros batch, merkleNode_eq_node correct shallow]
  rfl

end Fold

theorem ZeroSubtrees.hashes {C : Crypto} {zeros : Vector Fp nMerkleZeros} (subtrees : ZeroSubtrees C zeros) :
    ZeroHashes C zeros := by
  intro height bound
  induction height with
  | zero => exact subtrees.1
  | succ height ih =>
    rw [subtrees.2 height bound, ih (by omega)]
    rfl

theorem zeroTable_subtrees (C : Crypto) : ZeroSubtrees C (zeroTable C) := by
  apply And.intro
  · simp only [zeroTable, Vector.getElem_ofFn, zeroNode]
  · intro height bound
    simp only [zeroTable, Vector.getElem_ofFn, zeroNode, poseidonPair]

theorem ZerosBuilt.hashes {C : Crypto} (built : ZerosBuilt C) {zeros : Vector Fp nMerkleZeros}
    (decoded : (getMerkleZeros : Outcome ε _) = .ok zeros) : ZeroHashes C zeros := by
  rcases getMerkleZeros_ok (ε := ε) with ⟨table, loaded, first⟩
  obtain rfl : table = zeros := Except.ok.inj (loaded.symm.trans decoded)
  rw [getElem?_pos table 0 (by decide)] at first
  exact ZeroSubtrees.hashes ⟨Option.some.inj first, built table ((getMerkleZeros_ok_iff table).mp decoded)⟩

section References

variable {C : Crypto} {leaves : List Fp}

theorem subtree_node (C : Crypto) (leaves : List Fp) (height index : Nat) :
    (subtree C leaves (index * 2 ^ height) (2 ^ height) : Outcome ε _) =
    .ok (node (poseidonPair C) (padded 0 leaves) height index) := by
  induction height generalizing index with
  | zero =>
    rw [Nat.pow_zero, Nat.mul_one, subtree, if_pos rfl]
    split
    · rename_i real
      simp [nodeAt, expect, node, padded, real]
    · rename_i beyond
      rw [node, padded_beyond 0 leaves index (Nat.le_of_not_lt beyond)]
  | succ height ih =>
    have positive : 0 < 2 ^ height := Nat.pow_pos (by decide)
    have size : 2 ^ (height + 1) = 2 * 2 ^ height := Nat.pow_succ'
    have half : 2 ^ (height + 1) / 2 = 2 ^ height := by omega
    have left : index * 2 ^ (height + 1) = 2 * index * 2 ^ height := by
      rw [size, ← Nat.mul_assoc, Nat.mul_comm index]
    have right : 2 * index * 2 ^ height + 2 ^ height = (2 * index + 1) * 2 ^ height := by
      rw [Nat.add_mul, Nat.one_mul]
    rw [subtree, if_neg (by omega), if_neg (by omega)]
    simp only [half, left, right, ih, ok_bind]
    rfl

theorem hashSiblings_row (value : Nat → Nat → Fp) (width height : Nat)
    (parents : ∀ index, value (height + 1) index =
      C.poseidonHash [value height (2 * index), value height (2 * index + 1)]) :
    (hashSiblings C (row value (width + 1) height) : Outcome ε _) = .ok (row value width (height + 1)) := by
  have size : 2 ^ (width + 1) = 2 * 2 ^ width := Nat.pow_succ'
  have half : (2 ^ (width + 1) + 1) / 2 = 2 ^ width := by omega
  rw [hashSiblings, row_length, half, mapM_ok_iff, row.eq_def value width, List.forall₂_map_right_iff,
    List.forall₂_same]
  intro index member
  have inside := List.mem_range.mp member
  have left := row_lookup value (width + 1) height (show 2 * index < _ by omega)
  have right := row_lookup value (width + 1) height (show 2 * index + 1 < _ by omega)
  simp only [nodeAt, left, right, expect, ok_bind, parents]
  rfl

theorem hashLevels_row (value : Nat → Nat → Fp)
    (parents : ∀ height index, value (height + 1) index =
      C.poseidonHash [value height (2 * index), value height (2 * index + 1)])
    (passes width height : Nat) (enough : width ≤ passes) :
    (hashLevels C passes (row value width height) : Outcome ε _) = .ok [value (height + width) 0] := by
  induction width generalizing passes height with
  | zero =>
    cases passes with
    | zero => rfl
    | succ passes => rfl
  | succ width ih =>
    cases passes with
    | zero => omega
    | succ passes =>
      have wide : (row value (width + 1) height).length > 1 := by
        rw [row_length]
        exact Nat.one_lt_two_pow (Nat.succ_ne_zero width)
      simp only [hashLevels, wide, ↓reduceIte, hashSiblings_row value width height (parents height), ok_bind]
      rw [ih passes (height + 1) (by omega), Nat.add_right_comm, Nat.add_assoc]

theorem referenceRootBruteforce_root {depth : Nat} (fits : leaves.length ≤ 2 ^ depth) :
    (referenceRootBruteforce C leaves (2 ^ depth) : Outcome ε _) =
      .ok (root (poseidonPair C) 0 leaves depth) := by
  have bottom := padded_row 0 (node (poseidonPair C) (padded 0 leaves)) rfl fits
  have looped := hashLevels_row (ε := ε) (C := C) (node (poseidonPair C) (padded 0 leaves)) (fun _ _ => rfl)
    (2 ^ depth) depth 0 (Nat.le_of_lt Nat.lt_two_pow_self)
  have size := row_length (node (poseidonPair C) (padded 0 leaves)) depth 0
  simp only [referenceRootBruteforce, bottom, List.take_of_length_le (Nat.le_of_eq size), size, looped, ok_bind,
    Nat.zero_add]
  rfl

/-- Folding in place computes what both reference roots of the test suite compute, for any hash of two elements. -/
theorem foldMerkleLeft_reference (C : Crypto) (zeros : Vector Fp nMerkleZeros) (subtrees : ZeroSubtrees C zeros)
    (leaves : List Fp) (batch : leaves.length ≤ 2 ^ 16) :
    ∃ root, (foldMerkleLeft C leaves (computeMerkleTreeDepthAndSize leaves.length).2
        (computeMerkleTreeDepthAndSize leaves.length).1 zeros : Outcome ε _) = .ok root ∧
      (referenceRootRecursive C leaves (computeMerkleTreeDepthAndSize leaves.length).2 : Outcome ε _) = .ok root ∧
      (referenceRootBruteforce C leaves (computeMerkleTreeDepthAndSize leaves.length).2 : Outcome ε _) = .ok root ∧
      (leaves = [] → root = 0) := by
  rcases computeMerkleTreeDepthAndSize_spec leaves.length batch with ⟨size, fits, _⟩
  refine ⟨merkleRoot C leaves, foldMerkleLeft_merkleRoot (ZeroSubtrees.hashes subtrees) batch, ?_, ?_, ?_⟩
  · have walked := subtree_node (ε := ε) C leaves (computeMerkleTreeDepthAndSize leaves.length).1 0
    rw [Nat.zero_mul, ← size] at walked
    exact walked
  · rw [size] at fits ⊢
    exact referenceRootBruteforce_root fits
  · rintro rfl
    rfl

theorem foldMerkleLeft_reference_five :
    ZeroSubtrees weightedHash (zeroTable weightedHash) ∧
      ∃ root, (foldMerkleLeft weightedHash [1, 2, 3, 4, 5] 8 3 (zeroTable weightedHash) : Outcome Empty _) = .ok root ∧
        (referenceRootRecursive weightedHash [1, 2, 3, 4, 5] 8 : Outcome Empty _) = .ok root ∧
        (referenceRootBruteforce weightedHash [1, 2, 3, 4, 5] 8 : Outcome Empty _) = .ok root ∧
        (([1, 2, 3, 4, 5] : List Fp) = [] → root = 0) :=
  ⟨zeroTable_subtrees weightedHash,
    foldMerkleLeft_reference weightedHash (zeroTable weightedHash) (zeroTable_subtrees weightedHash) [1, 2, 3, 4, 5]
      (by decide)⟩

end References

end NoriProof
