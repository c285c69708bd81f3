import NoriBridgeHead.Foundation.InclusionPath
import NoriBridgeHead.Hash.FoldMerkleLeft

open Foundation Foundation.Outcome Foundation.PaddedTree Foundation.InclusionPath NoriModel

namespace NoriModel

def treeNode (merkleTree : List (List Fp)) (level index : Nat) : Option Fp := merkleTree[level]?.bind (·[index]?)

end NoriModel

namespace NoriProof

variable {ε : Type} {C : Crypto} {zeros : Vector Fp nMerkleZeros} {leaves : List Fp} {depth height : Nat}

section Build

theorem buildParent_step {parents : List Fp} {index : Nat} (shallow : depth ≤ maxTreeDepth) (above : height < depth)
    (inside : index < 2 ^ (depth - (height + 1)))
    (done : parents = (List.range index).map (merkleNode C zeros leaves (height + 1))) :
    ∃ next, (buildParent C zeros depth (depth - height) (realCount leaves.length height)
        (row (merkleNode C zeros leaves) (depth - height) height) parents index : Outcome ε _) = .ok next ∧
      next = (List.range (index + 1)).map (merkleNode C zeros leaves (height + 1)) := by
  subst done
  refine ⟨_, ?_, rfl⟩
  rw [List.range_succ, List.map_append, List.map_singleton, merkleNode_succ]
  unfold buildParent
  by_cases dummy : realCount leaves.length height ≤ 2 * index
  · rcases dummy_lookup (ε := ε) zeros shallow above with ⟨row, cached⟩
    simp only [ge_iff_le, dummy, ↓reduceIte, row, ok_bind, cached, expect]
    rfl
  · have half := half_width above
    have left := row_lookup (merkleNode C zeros leaves) (depth - height) height (show 2 * index < _ by omega)
    have right := row_lookup (merkleNode C zeros leaves) (depth - height) height
      (show 2 * index + 1 < _ by omega)
    simp only [ge_iff_le, dummy, ↓reduceIte, nodeAt, left, right, expect, ok_bind]
    rfl

/-- The levels from the leaves up to `height` are filled in. -/
structure TreeState (C : Crypto) (zeros : Vector Fp nMerkleZeros) (leaves : List Fp) (depth height : Nat)
    (tree : List (List Fp)) : Prop where
  size : tree.length = depth + 1
  levels : ∀ level, depth - height ≤ level → level ≤ depth →
    tree[level]? = some (row (merkleNode C zeros leaves) level (depth - level))

theorem TreeState.initial (fits : leaves.length ≤ 2 ^ depth) : TreeState C zeros leaves depth 0
    ((List.replicate (depth + 1) []).set depth (leaves ++ List.replicate (2 ^ depth - leaves.length) 0)) := by
  constructor
  · rw [List.length_set, List.length_replicate]
  · intro level lower upper
    obtain rfl : level = depth := by omega
    rw [List.getElem?_set_self (by simp), padded_row 0 (merkleNode C zeros leaves) rfl fits, Nat.sub_self]

theorem TreeState.store {tree : List (List Fp)} (state : TreeState C zeros leaves depth height tree)
    (above : height < depth) : TreeState C zeros leaves depth (height + 1)
      (tree.set (depth - height - 1) (row (merkleNode C zeros leaves) (depth - (height + 1)) (height + 1))) := by
  constructor
  · rw [List.length_set]
    exact state.size
  · intro level lower upper
    by_cases same : level = depth - height - 1
    · have width : depth - (height + 1) = level := by omega
      have rank : depth - level = height + 1 := by omega
      rw [← same, List.getElem?_set_self (by rw [state.size]; omega), width, rank]
    · rw [List.getElem?_set_ne (Ne.symm same)]
      exact state.levels level (by omega) upper

theorem buildLevel_step {tree : List (List Fp)} (shallow : depth ≤ maxTreeDepth) (above : height < depth)
    (state : TreeState C zeros leaves depth height tree) :
    ∃ next, (buildLevel C zeros depth (tree, realCount leaves.length height) (depth - height) : Outcome ε _) =
      .ok (next, realCount leaves.length (height + 1)) ∧ TreeState C zeros leaves depth (height + 1) next := by
  refine ⟨_, ?_, state.store above⟩
  have rank : depth - (depth - height) = height := by omega
  have child := state.levels (depth - height) (Nat.le_refl _) (by omega)
  rw [rank] at child
  have width : depth - height - 1 = depth - (height + 1) := by omega
  have stored : depth - (height + 1) < tree.length := by
    rw [state.size]
    omega
  rcases foldlM_range_ok (buildParent (ε := ε) C zeros depth (depth - height) (realCount leaves.length height)
      (row (merkleNode C zeros leaves) (depth - height) height))
    (fun index parents => parents = (List.range index).map (merkleNode C zeros leaves (height + 1)))
    (2 ^ (depth - (height + 1))) (fun _ _ inside done => buildParent_step shallow above inside done) [] rfl with
    ⟨parents, looped, finished⟩
  simp only [buildLevel, child, expect, ok_bind, width, looped, storeLevel, stored, ↓reduceIte, finished]
  rfl

theorem buildMerkleTree_levels (C : Crypto) (zeros : Vector Fp nMerkleZeros) (shallow : depth ≤ maxTreeDepth)
    (fits : leaves.length ≤ 2 ^ depth) :
    ∃ tree, (buildMerkleTree C leaves (2 ^ depth) depth zeros : Outcome ε _) = .ok tree ∧
      TreeState C zeros leaves depth depth tree := by
  rcases foldlM_down_ok (buildLevel (ε := ε) C zeros depth)
    (fun height state => TreeState C zeros leaves depth height state.1 ∧ state.2 = realCount leaves.length height) depth
    (by
      rintro height ⟨tree, _⟩ above ⟨kept, rfl⟩
      rcases buildLevel_step (ε := ε) shallow above kept with ⟨next, stepped, after⟩
      exact ⟨_, stepped, after, rfl⟩)
    ((List.replicate (depth + 1) []).set depth (leaves ++ List.replicate (2 ^ depth - leaves.length) 0), leaves.length)
    ⟨TreeState.initial fits, rfl⟩ with ⟨⟨tree, _⟩, looped, finished, _⟩
  refine ⟨tree, ?_, finished⟩
  simp only [buildMerkleTree, subUsize, fits, ↓reduceIte, ok_bind, storeLevel, List.length_replicate, Nat.lt_succ_self,
    looped]
  rfl

theorem TreeState.node {tree : List (List Fp)} {level index : Nat} (state : TreeState C zeros leaves depth depth tree)
    (inside : level ≤ depth) (below : index < 2 ^ level) :
    treeNode tree level index = some (merkleNode C zeros leaves (depth - level) index) := by
  rw [treeNode, state.levels level (by omega) inside]
  exact row_lookup (merkleNode C zeros leaves) level (depth - level) below

end Build

section Path

theorem halved_lt {index : Nat} (inside : index < 2 ^ depth) (above : height < depth) :
    index / 2 ^ height < 2 ^ (depth - (height + 1) + 1) := by
  have width : depth - (height + 1) + 1 + height = depth := by omega
  apply (Nat.div_lt_iff_lt_mul (Nat.pow_pos (by decide))).mpr
  rw [← Nat.pow_add, width]
  exact inside

theorem halved_step (index height : Nat) : index / 2 ^ height / 2 = index / 2 ^ (height + 1) := by
  rw [Nat.pow_succ, Nat.div_div_eq_div_mul]

/-- The nodes of a level are still in place and the path holds the siblings of the levels below. -/
structure PathInvariant (C : Crypto) (zeros : Vector Fp nMerkleZeros) (leaves : List Fp) (depth index height : Nat)
    (state : PathState) : Prop where
  nodes : LevelState C zeros leaves depth height 0 state.merkleNodes
  real : state.nNonDummyNodes = realCount leaves.length height
  position : state.position = index / 2 ^ height
  path : state.path = authPath (merkleNode C zeros leaves) height index

theorem pathLevel_step {index : Nat} {state : PathState} (shallow : depth ≤ maxTreeDepth) (above : height < depth)
    (inside : index < 2 ^ depth) (kept : PathInvariant C zeros leaves depth index height state) :
    ∃ next, (pathLevel C zeros depth state (depth - height) : Outcome ε _) = .ok next ∧
      PathInvariant C zeros leaves depth index (height + 1) next := by
  rcases state with ⟨nodes, real, position, path⟩
  rcases kept with ⟨level, rfl, rfl, rfl⟩
  rcases foldLevel_step (ε := ε) shallow above level with ⟨next, folded, after⟩
  have width : depth - (height + 1) + 1 = depth - height := by omega
  have bound := sibling_lt (halved_lt inside above)
  rw [width] at bound
  have present := level.children (sibling (index / 2 ^ height)) (Nat.zero_le _) bound
  rw [sibling] at present
  refine ⟨⟨next, realCount leaves.length (height + 1), index / 2 ^ height / 2,
    authPath (merkleNode C zeros leaves) height index ++
      [merkleNode C zeros leaves height (sibling (index / 2 ^ height))]⟩,
    ?_, after, rfl, halved_step index height, (authPath_snoc _ _ _).symm⟩
  simp only [pathLevel, nodeAt, present, expect, ok_bind, folded]
  rfl

theorem getMerklePathFromLeaves_authPath {index : UInt32} (shallow : depth ≤ maxTreeDepth)
    (fits : leaves.length ≤ 2 ^ depth) (inside : index.toNat < 2 ^ depth) (present : leaves ≠ []) :
    (getMerklePathFromLeaves C leaves (2 ^ depth) depth index zeros : Outcome ε _) =
      .ok (authPath (merkleNode C zeros leaves) depth index.toNat) := by
  rcases foldlM_down_ok (pathLevel (ε := ε) C zeros depth) (PathInvariant C zeros leaves depth index.toNat) depth
    (fun _ _ above kept => pathLevel_step shallow above inside kept)
    ⟨leaves ++ List.replicate (2 ^ depth - leaves.length) 0, leaves.length, index.toNat, []⟩
    ⟨LevelState.initial fits, rfl, by rw [Nat.pow_zero, Nat.div_one], rfl⟩ with ⟨result, looped, finished⟩
  have nonempty : leaves.isEmpty = false := by simpa using present
  simp only [getMerklePathFromLeaves, nonempty, Bool.false_eq_true, ↓reduceIte, subUsize, fits, ok_bind, looped,
    finished.path]
  rfl

theorem flipped_sibling (index : UInt32) : (index ^^^ 1).toNat = sibling index.toNat := by
  rw [UInt32.toNat_xor]
  have high : (index.toNat ^^^ 1) / 2 = index.toNat / 2 := by
    rw [Nat.xor_div_two]
    exact Nat.xor_zero _
  have low := Nat.xor_mod_two_eq_one (a := index.toNat) (b := 1)
  change index.toNat ^^^ 1 = _
  unfold sibling
  split <;> omega

theorem treePathLevel_step {tree : List (List Fp)} {index position : UInt32}
    (built : TreeState C zeros leaves depth depth tree) (above : height < depth) (inside : index.toNat < 2 ^ depth)
    (reached : position.toNat = index.toNat / 2 ^ height) :
    (treePathLevel tree (position, authPath (merkleNode C zeros leaves) height index.toNat) (depth - height) :
      Outcome ε _) = .ok (position / 2, authPath (merkleNode C zeros leaves) (height + 1) index.toNat) := by
  have rank : depth - (depth - height) = height := by omega
  have level := built.levels (depth - height) (by omega) (by omega)
  rw [rank] at level
  have width : depth - (height + 1) + 1 = depth - height := by omega
  have bound := sibling_lt (halved_lt inside above)
  rw [width] at bound
  have present := row_lookup (merkleNode C zeros leaves) (depth - height) height bound
  simp only [treePathLevel, level, expect, ok_bind, flipped_sibling, reached, nodeAt, present, authPath_snoc]
  rfl

theorem getMerklePathFromTree_authPath {tree : List (List Fp)} {index : UInt32}
    (built : TreeState C zeros leaves depth depth tree) (inside : index.toNat < 2 ^ depth) :
    (getMerklePathFromTree tree index : Outcome ε _) =
      .ok (authPath (merkleNode C zeros leaves) depth index.toNat) := by
  rcases foldlM_down_ok (treePathLevel (ε := ε) tree)
    (fun height state => state.1.toNat = index.toNat / 2 ^ height ∧
      state.2 = authPath (merkleNode C zeros leaves) height index.toNat) depth
    (by
      rintro height ⟨position, _⟩ above ⟨reached, rfl⟩
      refine ⟨_, treePathLevel_step built above inside reached, ?_, rfl⟩
      rw [UInt32.toNat_div, reached]
      exact halved_step index.toNat height)
    (index, []) ⟨by rw [Nat.pow_zero, Nat.div_one], rfl⟩ with ⟨⟨_, path⟩, looped, _, rfl⟩
  have size : tree.length - 1 = depth := by
    rw [built.size]
    rfl
  have nonempty : 1 ≤ tree.length := by
    rw [built.size]
    exact Nat.succ_le_succ (Nat.zero_le depth)
  simp only [getMerklePathFromTree, subUsize, nonempty, ↓reduceIte, ok_bind, size, looped]
  rfl

end Path

section Agreement

theorem merkleNode_parent (correct : ZeroHashes C zeros) (above : height < maxTreeDepth) (index : Nat) :
    merkleNode C zeros leaves (height + 1) index =
      C.poseidonHash
        [merkleNode C zeros leaves height (2 * index), merkleNode C zeros leaves height (2 * index + 1)] := by
  rw [merkleNode_eq_node correct above, merkleNode_eq_node correct (Nat.le_of_lt above),
    merkleNode_eq_node correct (Nat.le_of_lt above)]
  rfl

/-- The built tree, the fold and the two path builders describe one tree. -/
theorem merkle_builders_agree (C : Crypto) (zeros : Vector Fp nMerkleZeros) (subtrees : ZeroSubtrees C zeros)
    (leaves : List Fp) (batch : leaves.length ≤ 2 ^ 16) (depth paddedSize : Nat)
    (sized : (depth, paddedSize) = computeMerkleTreeDepthAndSize leaves.length) :
    ∃ tree, (buildMerkleTree C leaves paddedSize depth zeros : Outcome ε _) = .ok tree ∧
      tree.length = depth + 1 ∧
      (∀ level, level ≤ depth → ∃ nodes, tree[level]? = some nodes ∧ nodes.length = 2 ^ level) ∧
      tree[depth]? = some (leaves ++ List.replicate (paddedSize - leaves.length) 0) ∧
      (∀ level index, level < depth → index < 2 ^ level → ∃ left right,
        treeNode tree (level + 1) (2 * index) = some left ∧ treeNode tree (level + 1) (2 * index + 1) = some right ∧
        treeNode tree level index = some (C.poseidonHash [left, right])) ∧
      (∃ root, (foldMerkleLeft C leaves paddedSize depth zeros : Outcome ε _) = .ok root ∧
        treeNode tree 0 0 = some root) ∧
      ∀ index : UInt32, index.toNat < paddedSize →
        ∃ path, (getMerklePathFromLeaves C leaves paddedSize depth index zeros : Outcome ε _) = .ok path ∧
          (getMerklePathFromTree tree index : Outcome ε _) = .ok path ∧ path.length = depth := by
  have folded := foldMerkleLeft_merkleNode (ε := ε) C zeros batch
  have correct := ZeroSubtrees.hashes subtrees
  rcases computeMerkleTreeDepthAndSize_spec leaves.length batch with ⟨size, fits, shallow⟩
  rw [← sized] at folded size fits shallow
  simp only at folded size fits shallow
  subst size
  rcases buildMerkleTree_levels (ε := ε) C zeros shallow fits with ⟨tree, built, state⟩
  refine ⟨tree, built, state.size, ?_, ?_, ?_, ?_, ?_⟩
  · intro level inside
    exact ⟨_, state.levels level (by omega) inside, row_length _ _ _⟩
  · rw [state.levels depth (by omega) (Nat.le_refl depth), Nat.sub_self]
    rw [padded_row 0 (merkleNode C zeros leaves) rfl fits]
  · intro level index inside below
    have width : 2 ^ (level + 1) = 2 * 2 ^ level := Nat.pow_succ'
    have rank : depth - level = depth - (level + 1) + 1 := by omega
    refine ⟨_, _, state.node inside (by omega), state.node inside (by omega), ?_⟩
    rw [state.node (Nat.le_of_lt inside) below, rank, merkleNode_parent correct (by omega)]
  · exact ⟨_, folded, by rw [state.node (Nat.zero_le depth) Nat.one_pos, Nat.sub_zero]⟩
  · intro index inside
    refine ⟨_, ?_, getMerklePathFromTree_authPath state inside, authPath_length _ _ _⟩
    by_cases empty : leaves = []
    · subst empty
      obtain rfl : depth = 0 := (Prod.mk.inj sized).1
      rfl
    · exact getMerklePathFromLeaves_authPath shallow fits inside empty

theorem merkle_builders_agree_five :
    ∃ tree, (buildMerkleTree weightedHash [1, 2, 3, 4, 5] 8 3 (zeroTable weightedHash) : Outcome Empty _) = .ok tree ∧
      tree.length = 4 ∧ tree[3]? = some [1, 2, 3, 4, 5, 0, 0, 0] ∧
      ∀ index : UInt32, index.toNat < 8 →
        ∃ path, (getMerklePathFromLeaves weightedHash [1, 2, 3, 4, 5] 8 3 index (zeroTable weightedHash) :
          Outcome Empty _) = .ok path ∧ (getMerklePathFromTree tree index : Outcome Empty _) = .ok path ∧
          path.length = 3 := by
  rcases merkle_builders_agree (ε := Empty) weightedHash (zeroTable weightedHash) (zeroTable_subtrees weightedHash)
    [1, 2, 3, 4, 5] (by decide) 3 8 (by decide) with ⟨tree, built, levels, _, bottom, _, _, paths⟩
  exact ⟨tree, built, levels, bottom, paths⟩

end Agreement

section Recomputation

theorem shifted_bit (index : UInt64) {level : Nat} (small : level < 64) :
    (index >>> UInt64.ofNat level) &&& 1 = 1 ↔ index.toNat / 2 ^ level % 2 = 1 := by
  have shift : (UInt64.ofNat level).toNat % 64 = level := by
    have bound : level < UInt64.size := by
      change level < 2 ^ 64
      omega
    rw [UInt64.toNat_ofNat_of_lt' bound, Nat.mod_eq_of_lt small]
  rw [← UInt64.toNat_inj, UInt64.toNat_and, UInt64.toNat_shiftRight, shift, Nat.shiftRight_eq_div_pow]
  change _ &&& 1 = 1 ↔ _
  rw [Nat.and_one_is_mod]

theorem computeMerkleRootFromPath_climb (start : Fp) (index : UInt64) (path : List Fp) (short : path.length ≤ 64) :
    (computeMerkleRootFromPath C start index path : Outcome ε _) =
      .ok (climb (poseidonPair C) start index.toNat path) := by
  have generalised : ∀ (path : List Fp) (level : Nat) (hash : Fp), level + path.length ≤ 64 →
      ((path.zipIdx level).foldlM (rootLevel C index) hash : Outcome ε _) =
        .ok (climb (poseidonPair C) hash (index.toNat / 2 ^ level) path) := by
    intro path
    induction path with
    | nil =>
      intro level hash _
      rfl
    | cons sibling path ih =>
      intro level hash bound
      rw [List.length_cons] at bound
      have small : level < 64 := by omega
      have stepped : (rootLevel C index hash (sibling, level) : Outcome ε _) =
          .ok (poseidonPair C (ordered (index.toNat / 2 ^ level) hash sibling).1
            (ordered (index.toNat / 2 ^ level) hash sibling).2) := by
        simp only [rootLevel, shiftRightU64, small, ↓reduceIte, ok_bind, shifted_bit index small, ordered]
        split <;> rfl
      rw [List.zipIdx_cons, List.foldlM_cons, stepped, ok_bind, ih (level + 1) _ (by omega), climb, halved_step]
  have started := generalised path 0 start (by omega)
  rw [Nat.pow_zero, Nat.div_one] at started
  exact started

/-- Every leaf of the padded tree has a path to the root, and only the leaf itself has one, unless the
    path hashes a pair other than the tree's own pair of siblings to the same value. -/
theorem merkle_paths_complete_and_sound (C : Crypto) (zeros : Vector Fp nMerkleZeros) (subtrees : ZeroSubtrees C zeros)
    (leaves : List Fp) (present : 1 ≤ leaves.length) (batch : leaves.length ≤ 2 ^ 16) (depth paddedSize : Nat)
    (sized : (depth, paddedSize) = computeMerkleTreeDepthAndSize leaves.length) (root : Fp)
    (folded : (foldMerkleLeft C leaves paddedSize depth zeros : Outcome ε _) = .ok root) :
    (∀ index : UInt32, index.toNat < paddedSize →
      ∃ path, (getMerklePathFromLeaves C leaves paddedSize depth index zeros : Outcome ε _) = .ok path ∧
        (computeMerkleRootFromPath C (leaves.getD index.toNat 0) index.toUInt64 path : Outcome ε _) = .ok root) ∧
    ∀ (start : Fp) (index : UInt64) (path : List Fp), index.toNat < paddedSize → path.length = depth →
      (computeMerkleRootFromPath C start index path : Outcome ε _) = .ok root →
      start = leaves.getD index.toNat 0 ∨
        ∃ level sibling hash, level < depth ∧ path[level]? = some sibling ∧
          (computeMerkleRootFromPath C start index (path.take level) : Outcome ε _) = .ok hash ∧
          Collides (poseidonPair C) (ordered (index.toNat / 2 ^ level) hash sibling)
            (treePair (node (poseidonPair C) (padded 0 leaves)) index.toNat level) := by
  have reached := foldMerkleLeft_merkleNode (ε := ε) C zeros batch
  have correct := ZeroSubtrees.hashes subtrees
  rcases computeMerkleTreeDepthAndSize_spec leaves.length batch with ⟨size, fits, shallow⟩
  rw [← sized] at reached size fits shallow
  simp only at reached size fits shallow
  subst size
  obtain rfl : merkleNode C zeros leaves depth 0 = root := Except.ok.inj (reached.symm.trans folded)
  have short : depth ≤ 64 := Nat.le_trans shallow (by decide)
  have nonempty : leaves ≠ [] := List.ne_nil_of_length_pos present
  have top : ∀ index, index < 2 ^ depth → index / 2 ^ depth = 0 := fun index => Nat.div_eq_of_lt
  apply And.intro
  · intro index inside
    have tree : HashTree (poseidonPair C) (merkleNode C zeros leaves) depth :=
      fun height index above => merkleNode_parent correct (Nat.lt_of_lt_of_le above shallow) index
    refine ⟨_, getMerklePathFromLeaves_authPath shallow fits inside nonempty, ?_⟩
    rw [computeMerkleRootFromPath_climb _ _ _ (by rw [authPath_length]; exact short), UInt32.toNat_toUInt64]
    have climbed := climb_authPath (poseidonPair C) tree index.toNat
    rw [top index.toNat inside] at climbed
    exact congrArg Except.ok climbed
  · intro start index path inside length recomputed
    have tree : HashTree (poseidonPair C) (node (poseidonPair C) (padded 0 leaves)) depth := fun _ _ _ => rfl
    rw [computeMerkleRootFromPath_climb _ _ _ (by rw [length]; exact short),
      merkleNode_eq_node correct shallow, Except.ok.injEq] at recomputed
    rcases climb_sound (poseidonPair C) tree length (by rw [recomputed, top index.toNat inside]) with
      same | ⟨level, pair, below, climbed, collides⟩
    · exact .inl same
    · rcases Option.map_eq_some_iff.mp climbed with ⟨sibling, found, rfl⟩
      refine .inr ⟨level, sibling, _, below, found, computeMerkleRootFromPath_climb _ _ _ ?_, collides⟩
      rw [List.length_take]
      omega

theorem merkle_paths_five :
    ∃ root, (foldMerkleLeft weightedHash [1, 2, 3, 4, 5] 8 3 (zeroTable weightedHash) : Outcome Empty _) = .ok root ∧
      (∀ index : UInt32, index.toNat < 8 →
        ∃ path, (getMerklePathFromLeaves weightedHash [1, 2, 3, 4, 5] 8 3 index (zeroTable weightedHash) :
          Outcome Empty _) = .ok path ∧
        (computeMerkleRootFromPath weightedHash ([1, 2, 3, 4, 5].getD index.toNat 0) index.toUInt64 path :
          Outcome Empty _) = .ok root) := by
  have folded : ∃ root, (foldMerkleLeft weightedHash [1, 2, 3, 4, 5] 8 3 (zeroTable weightedHash) : Outcome Empty _) =
      .ok root := by
    have batch : ([1, 2, 3, 4, 5] : List Fp).length ≤ maxBatch := by decide
    exact ⟨_, foldMerkleLeft_merkleNode weightedHash (zeroTable weightedHash) batch⟩
  rcases folded with ⟨root, folded⟩
  exact ⟨root, folded, (merkle_paths_complete_and_sound weightedHash (zeroTable weightedHash)
    (zeroTable_subtrees weightedHash) [1, 2, 3, 4, 5] (by decide) (by decide) 3 8 (by decide) root folded).1⟩

end Recomputation

end NoriProof
