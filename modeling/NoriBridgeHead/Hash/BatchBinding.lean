import NoriBridgeHead.Hash.LeafPacking

open Foundation Foundation.Outcome Foundation.PaddedTree NoriModel

namespace NoriModel

def VerifiedRequest.leafFields (request : VerifiedRequest) : Except String (List Fp) :=
  packRequestLeafFields request.target request.collectionKeysCount
    (getElem request.collectionKeys 0 zero_lt_maxCollectionKeys)
    (getElem request.collectionKeys 1 one_lt_maxCollectionKeys) request.value

def VerifiedRequest.leaf (C : Crypto) (request : VerifiedRequest) : Except String Fp :=
  hashRequestLeaf C request.target request.collectionKeysCount
    (getElem request.collectionKeys 0 zero_lt_maxCollectionKeys)
    (getElem request.collectionKeys 1 one_lt_maxCollectionKeys) request.value

/-- The root that a reader of the published requests recomputes. -/
def rebuildRequestsRoot (C : Crypto) (requests : List VerifiedRequest) : Outcome String Fp := do
  let leaves ← fromResult (requests.mapM (VerifiedRequest.leaf C))
  let (depth, paddedSize) := computeMerkleTreeDepthAndSize leaves.length
  foldMerkleLeft C leaves paddedSize depth (← getMerkleZeros)

/-- Two requests at one place of the batches whose different fields hash to one leaf. -/
def LeafCollision (C : Crypto) (requests others : List VerifiedRequest) : Prop :=
  ∃ (index : Nat) (request other : VerifiedRequest) (fields fields' : List Fp),
    requests[index]? = some request ∧ others[index]? = some other ∧
    request.leafFields = .ok fields ∧ other.leafFields = .ok fields' ∧ fields ≠ fields' ∧
    C.poseidonHash fields = C.poseidonHash fields'

/-- One place of the two trees at which different pairs of children are hashed to one parent. -/
def PairCollision (C : Crypto) (requests others : List VerifiedRequest) : Prop :=
  ∃ zeros leaves leaves', (getMerkleZeros : Outcome Empty _) = .ok zeros ∧
    requests.mapM (VerifiedRequest.leaf C) = .ok leaves ∧ others.mapM (VerifiedRequest.leaf C) = .ok leaves' ∧
    ∃ level position, level < (computeMerkleTreeDepthAndSize leaves.length).1 ∧
      2 * position < realCount leaves.length level ∧
      Collides (poseidonPair C)
        (merkleNode C zeros leaves level (2 * position), merkleNode C zeros leaves level (2 * position + 1))
        (merkleNode C zeros leaves' level (2 * position), merkleNode C zeros leaves' level (2 * position + 1))

end NoriModel

namespace NoriProof

variable {C : Crypto}

theorem leaf_ok (C : Crypto) (request : VerifiedRequest) : ∃ fields, request.leafFields = .ok fields ∧
    request.leaf C = .ok (C.poseidonHash fields) := by
  rcases packRequestLeafFields_fields request.target request.collectionKeysCount
    (getElem request.collectionKeys 0 zero_lt_maxCollectionKeys)
    (getElem request.collectionKeys 1 one_lt_maxCollectionKeys) request.value with ⟨fields, packed, _⟩
  refine ⟨fields, packed, ?_⟩
  simp only [VerifiedRequest.leaf, hashRequestLeaf, packed, ok_bind]
  rfl

theorem leaves_ok (C : Crypto) (requests : List VerifiedRequest) :
    ∃ leaves, requests.mapM (VerifiedRequest.leaf C) = .ok leaves ∧
      List.Forall₂ (fun request leaf => request.leaf C = .ok leaf) requests leaves := by
  apply mapM_ok_of_forall
  intro request _
  rcases leaf_ok C request with ⟨fields, _, hashed⟩
  exact ⟨_, hashed, hashed⟩

theorem rebuildRequestsRoot_ok (C : Crypto) {requests : List VerifiedRequest} (batch : requests.length ≤ maxBatch) :
    ∃ zeros leaves, (getMerkleZeros : Outcome Empty _) = .ok zeros ∧
      requests.mapM (VerifiedRequest.leaf C) = .ok leaves ∧
      List.Forall₂ (fun request leaf => request.leaf C = .ok leaf) requests leaves ∧
      rebuildRequestsRoot C requests =
        .ok (merkleNode C zeros leaves (computeMerkleTreeDepthAndSize leaves.length).1 0) := by
  rcases getMerkleZeros_ok (ε := String) with ⟨zeros, loaded, _⟩
  rcases leaves_ok C requests with ⟨leaves, hashed, paired⟩
  have size : leaves.length ≤ maxBatch := by
    rw [← paired.length_eq]
    exact batch
  refine ⟨zeros, leaves, (getMerkleZeros_ok_iff zeros).mp loaded, hashed, paired, ?_⟩
  simp only [rebuildRequestsRoot, hashed, fromResult, ok_bind, loaded, foldMerkleLeft_merkleNode C zeros size]

theorem request_eq {request other : VerifiedRequest} {fields : List Fp} (packed : request.leafFields = .ok fields)
    (packed' : other.leafFields = .ok fields) : request = other := by
  rcases packRequestLeafFields_injective packed packed' with ⟨target, count, key0, key1, value⟩
  have keys : request.collectionKeys = other.collectionKeys := by
    apply Vector.ext
    intro index inside
    have place : index = 0 ∨ index = 1 := by
      change index < 2 at inside
      omega
    rcases place with rfl | rfl
    · exact key0
    · exact key1
  cases request
  cases other
  simp only [VerifiedRequest.mk.injEq]
  exact ⟨target, count, keys, value⟩

theorem requests_eq_of_leaves {requests others : List VerifiedRequest} {leaves : List Fp}
    (hashed : List.Forall₂ (fun request leaf => request.leaf C = .ok leaf) requests leaves)
    (hashed' : List.Forall₂ (fun request leaf => request.leaf C = .ok leaf) others leaves) :
    requests = others ∨ LeafCollision C requests others := by
  induction hashed generalizing others with
  | nil =>
    cases hashed'
    exact .inl rfl
  | @cons request leaf requests leaves first rest ih =>
    cases hashed' with
    | @cons other _ others _ first' rest' =>
      rcases leaf_ok C request with ⟨fields, packed, value⟩
      rcases leaf_ok C other with ⟨fields', packed', value'⟩
      have same : C.poseidonHash fields = C.poseidonHash fields' := by
        rw [value] at first
        rw [value', ← first] at first'
        exact (Except.ok.inj first').symm
      by_cases fieldsEqual : fields = fields'
      · subst fieldsEqual
        cases request_eq packed packed'
        rcases ih rest' with rfl | ⟨index, left, right, collision⟩
        · exact .inl rfl
        · exact .inr ⟨index + 1, left, right, collision⟩
      · exact .inr ⟨0, request, other, fields, fields', rfl, rfl, packed, packed', fieldsEqual, same⟩

/-- The outputs of a proof bind its batch: two batches between the same cursors with one root are equal, or
    Poseidon collides on inputs that both roots were computed from. -/
theorem requestsRoot_binds_batch (C : Crypto) (requests others : List VerifiedRequest)
    (inputCursor outputCursor : UInt64) (batch : requests.length ≤ maxBatch) (batch' : others.length ≤ maxBatch)
    (drained : outputCursor.toNat = inputCursor.toNat + requests.length)
    (drained' : outputCursor.toNat = inputCursor.toNat + others.length) (root : Fp)
    (rebuilt : rebuildRequestsRoot C requests = .ok root) (rebuilt' : rebuildRequestsRoot C others = .ok root) :
    requests = others ∨ LeafCollision C requests others ∨ PairCollision C requests others := by
  rcases rebuildRequestsRoot_ok C batch with ⟨zeros, leaves, loaded, hashed, paired, reached⟩
  rcases rebuildRequestsRoot_ok C batch' with ⟨zeros', leaves', loaded', hashed', paired', reached'⟩
  obtain rfl : zeros = zeros' := Except.ok.inj (loaded.symm.trans loaded')
  have size : leaves'.length = leaves.length := by
    rw [← paired.length_eq, ← paired'.length_eq]
    omega
  have fits : leaves.length ≤ maxBatch := by
    rw [← paired.length_eq]
    exact batch
  have top : merkleNode C zeros leaves (computeMerkleTreeDepthAndSize leaves.length).1 0 =
      merkleNode C zeros leaves' (computeMerkleTreeDepthAndSize leaves.length).1 0 := by
    rw [rebuilt] at reached
    rw [rebuilt', size] at reached'
    exact (Except.ok.inj reached).symm.trans (Except.ok.inj reached')
  rcases computeMerkleTreeDepthAndSize_spec leaves.length fits with ⟨width, covers, _⟩
  rw [width] at covers
  unfold merkleNode at top
  rw [size] at top
  rcases cachedNode_binding (poseidonPair C) _ 0 top with agree | ⟨level, position, below, real, collision⟩
  · have same : leaves = leaves' := by
      apply List.ext_getElem size.symm
      intro index inside inside'
      have equal := agree index (Nat.div_eq_of_lt (by omega)) inside
      simpa [padded, List.getD, inside, inside'] using equal
    subst same
    rcases requests_eq_of_leaves paired paired' with equal | collision
    · exact .inl equal
    · exact .inr (.inl collision)
  · refine .inr (.inr ⟨zeros, leaves, leaves', loaded, hashed, hashed', level, position, below, real, ?_⟩)
    unfold merkleNode
    rw [size]
    exact collision

/-- Two different requests with one leaf under `weightedHash`: one more in the third field, three less in the fourth. -/
def clashing : VerifiedRequest × VerifiedRequest :=
  (⟨FixedBytes.ofNat 20 7, 2, #v[FixedBytes.ofNat 32 5, FixedBytes.ofNat 32 (256 ^ 30)], 0⟩,
    ⟨FixedBytes.ofNat 20 7, 2, #v[FixedBytes.ofNat 32 5, FixedBytes.ofNat 32 0], BitVec.ofNat 256 (3 * 256 ^ 30)⟩)

theorem requestsRoot_binds_batch_clashing :
    ∃ root, rebuildRequestsRoot weightedHash [clashing.1, clashing.2] = .ok root ∧
      rebuildRequestsRoot weightedHash [clashing.2, clashing.1] = .ok root ∧
      (LeafCollision weightedHash [clashing.1, clashing.2] [clashing.2, clashing.1] ∨
        PairCollision weightedHash [clashing.1, clashing.2] [clashing.2, clashing.1]) := by
  have same : rebuildRequestsRoot weightedHash [clashing.1, clashing.2] =
      rebuildRequestsRoot weightedHash [clashing.2, clashing.1] := by decide +kernel
  have two : [clashing.1, clashing.2].length ≤ maxBatch := by decide
  rcases rebuildRequestsRoot_ok weightedHash two with ⟨_, _, _, _, _, rebuilt⟩
  refine ⟨_, rebuilt, same.symm.trans rebuilt, ?_⟩
  rcases requestsRoot_binds_batch weightedHash [clashing.1, clashing.2] [clashing.2, clashing.1] 0 2 two two rfl rfl _
    rebuilt (same.symm.trans rebuilt) with equal | collision
  · exact absurd equal (by decide +kernel)
  · exact collision

end NoriProof
