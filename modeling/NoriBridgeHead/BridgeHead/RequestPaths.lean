import NoriBridgeHead.BridgeHead.Provenance
import NoriBridgeHead.Hash.MerklePaths

open Foundation Foundation.Outcome Foundation.PaddedTree Foundation.InclusionPath Foundation.Transition

namespace NoriModel

/-- The path that a reader of the published requests builds for one of them. -/
def requestPath (C : Crypto) (requests : List VerifiedRequest) (index : UInt32) : Outcome String (List Fp) := do
  let leaves ← fromResult (requests.mapM (VerifiedRequest.leaf C))
  let (depth, paddedSize) := computeMerkleTreeDepthAndSize leaves.length
  getMerklePathFromLeaves C leaves paddedSize depth index (← getMerkleZeros)

def requestRoot (C : Crypto) (request : VerifiedRequest) (index : UInt64) (path : List Fp) : Outcome String B256 := do
  let leaf ← fromResult (request.leaf C)
  let root ← computeMerkleRootFromPath C leaf index path
  pure root.toBytes

/-- What it takes to reach the root of a batch from a request that is not in it: a preimage of the padding, or two
    inputs of Poseidon, one of them from the tree of the batch, with one hash. -/
inductive ForgedRequest (C : Crypto) (requests : List VerifiedRequest) (request : VerifiedRequest) (index : UInt64)
    (path : List Fp) : Prop
  | padding (beyond : requests.length ≤ index.toNat) (preimage : request.leaf C = .ok 0)
  | leaf (other : VerifiedRequest) (fields fields' : List Fp) (published : requests[index.toNat]? = some other)
      (packed : request.leafFields = .ok fields) (packed' : other.leafFields = .ok fields') (apart : fields ≠ fields')
      (collides : C.poseidonHash fields = C.poseidonHash fields')
  | pair (leaves : List Fp) (start sibling hash : Fp) (level : Nat)
      (hashed : requests.mapM (VerifiedRequest.leaf C) = .ok leaves) (leaf : request.leaf C = .ok start)
      (found : path[level]? = some sibling)
      (climbed : (computeMerkleRootFromPath C start index (path.take level) : Outcome String _) = .ok hash)
      (collides : Collides (poseidonPair C) (ordered (index.toNat / 2 ^ level) hash sibling)
        (treePair (node (poseidonPair C) (padded 0 leaves)) index.toNat level))

end NoriModel

namespace NoriProof

open NoriModel

variable {C : Crypto} {S : ConsensusSpec}

section Paths

theorem toBytes_inj {left right : Fp} (same : left.toBytes = right.toBytes) : left = right := by
  have bytes : natLe 32 left.val = natLe 32 right.val := congrArg FixedBytes.bytes same
  have bound : pallasModulus < 256 ^ 32 := by decide
  have digits := congrArg beNat (List.reverse_injective bytes)
  rw [beNat_natBe, beNat_natBe, Nat.mod_eq_of_lt (by omega), Nat.mod_eq_of_lt (by omega)] at digits
  exact Fin.ext digits

theorem batch_tree (built : ZerosBuilt C) {requests : List VerifiedRequest} (batch : requests.length ≤ maxBatch)
    {folded : Fp} (rebuilt : rebuildRequestsRoot C requests = .ok folded) :
    ∃ zeros leaves, (getMerkleZeros : Outcome String _) = .ok zeros ∧ ZeroHashes C zeros ∧
      requests.mapM (VerifiedRequest.leaf C) = .ok leaves ∧
      List.Forall₂ (fun request leaf => request.leaf C = .ok leaf) requests leaves ∧
      folded = merkleNode C zeros leaves (computeMerkleTreeDepthAndSize leaves.length).1 0 := by
  rcases rebuildRequestsRoot_ok C batch with ⟨zeros, leaves, loaded, hashed, paired, again⟩
  have decoded : (getMerkleZeros : Outcome String _) = .ok zeros := (getMerkleZeros_ok_iff zeros).mpr loaded
  exact ⟨zeros, leaves, decoded, ZerosBuilt.hashes built decoded, hashed, paired,
    Except.ok.inj (rebuilt.symm.trans again)⟩

theorem requestRoot_ok_iff {request : VerifiedRequest} {index : UInt64} {path : List Fp} {leaf : Fp} {root : B256}
    (hashed : request.leaf C = .ok leaf) (short : path.length ≤ 64) :
    requestRoot C request index path = .ok root ↔ (climb (poseidonPair C) leaf index.toNat path).toBytes = root := by
  simp only [requestRoot, hashed, fromResult, ok_bind, computeMerkleRootFromPath_climb leaf index path short,
    pure_ok_iff]

theorem leaf_at {requests : List VerifiedRequest} {leaves : List Fp}
    (paired : List.Forall₂ (fun request leaf => request.leaf C = .ok leaf) requests leaves) {index : Nat}
    {request : VerifiedRequest} (published : requests[index]? = some request) :
    request.leaf C = .ok (padded 0 leaves index) := by
  rcases List.getElem?_eq_some_iff.mp published with ⟨inside, rfl⟩
  have inside' : index < leaves.length := by
    rw [← paired.length_eq]
    exact inside
  have entry : padded 0 leaves index = leaves[index] := by simp [padded, inside']
  rw [entry]
  exact paired.get inside inside'

theorem requestPath_reaches (built : ZerosBuilt C) {requests : List VerifiedRequest}
    (batch : requests.length ≤ maxBatch) {folded : Fp} (rebuilt : rebuildRequestsRoot C requests = .ok folded)
    {index : UInt32} {request : VerifiedRequest} (published : requests[index.toNat]? = some request) :
    ∃ path, requestPath C requests index = .ok path ∧
      requestRoot C request index.toUInt64 path = .ok folded.toBytes := by
  rcases batch_tree built batch rebuilt with ⟨zeros, leaves, decoded, correct, hashed, paired, rfl⟩
  have length := paired.length_eq
  rcases computeMerkleTreeDepthAndSize_spec leaves.length (length ▸ batch) with ⟨size, fits, shallow⟩
  have within : index.toNat < leaves.length := by
    rw [← length]
    exact (List.getElem?_eq_some_iff.mp published).1
  rw [size] at fits
  have nonempty : leaves ≠ [] := List.ne_nil_of_length_pos (Nat.zero_lt_of_lt within)
  have inside : index.toNat < 2 ^ (computeMerkleTreeDepthAndSize leaves.length).1 := Nat.lt_of_lt_of_le within fits
  have path : (getMerklePathFromLeaves C leaves (2 ^ (computeMerkleTreeDepthAndSize leaves.length).1)
      (computeMerkleTreeDepthAndSize leaves.length).1 index zeros : Outcome String _) = .ok _ :=
    getMerklePathFromLeaves_authPath shallow fits inside nonempty
  have tree : HashTree (poseidonPair C) (merkleNode C zeros leaves) (computeMerkleTreeDepthAndSize leaves.length).1 :=
    fun height position above => merkleNode_parent correct (Nat.lt_of_lt_of_le above shallow) position
  refine ⟨authPath (merkleNode C zeros leaves) (computeMerkleTreeDepthAndSize leaves.length).1 index.toNat, ?_,
    (requestRoot_ok_iff (leaf_at paired published) ?_).mpr ?_⟩
  · simp only [requestPath, hashed, fromResult, ok_bind, decoded, size]
    exact path
  · rw [authPath_length]
    exact Nat.le_trans shallow (by decide)
  · have climbed := climb_authPath (poseidonPair C) tree index.toNat
    rw [Nat.div_eq_of_lt inside] at climbed
    rw [UInt32.toNat_toUInt64]
    exact congrArg Fp.toBytes climbed

/-- Only the request of the batch at that place reaches the root, unless a hash is broken. -/
theorem requestRoot_sound (built : ZerosBuilt C) {requests : List VerifiedRequest}
    (batch : requests.length ≤ maxBatch) {folded : Fp} (rebuilt : rebuildRequestsRoot C requests = .ok folded)
    {request : VerifiedRequest} {index : UInt64} {path : List Fp}
    (size : path.length = (computeMerkleTreeDepthAndSize requests.length).1)
    (inside : index.toNat < (computeMerkleTreeDepthAndSize requests.length).2)
    (reached : requestRoot C request index path = .ok folded.toBytes) :
    requests[index.toNat]? = some request ∨ ForgedRequest C requests request index path := by
  rcases batch_tree built batch rebuilt with ⟨zeros, leaves, decoded, correct, hashed, paired, rfl⟩
  have length := paired.length_eq
  rcases computeMerkleTreeDepthAndSize_spec requests.length batch with ⟨width, _, shallow⟩
  rw [← length] at reached
  rw [← size] at reached shallow width
  rw [width] at inside
  have short : path.length ≤ 64 := Nat.le_trans shallow (by decide)
  rcases leaf_ok C request with ⟨fields, packed, leaf⟩
  have climbed := toBytes_inj ((requestRoot_ok_iff leaf short).mp reached)
  rw [merkleNode_eq_node correct shallow] at climbed
  have tree : HashTree (poseidonPair C) (node (poseidonPair C) (padded 0 leaves)) path.length := fun _ _ _ => rfl
  have top : climb (poseidonPair C) (C.poseidonHash fields) index.toNat path =
      node (poseidonPair C) (padded 0 leaves) path.length (index.toNat / 2 ^ path.length) := by
    rw [Nat.div_eq_of_lt inside]
    exact climbed
  rcases climb_sound (poseidonPair C) tree rfl top with same | ⟨level, pair, below, step, collides⟩
  · have same : C.poseidonHash fields = padded 0 leaves index.toNat := same
    cases published : requests[index.toNat]? with
    | none =>
      have beyond := List.getElem?_eq_none_iff.mp published
      rw [padded_beyond 0 leaves index.toNat (length ▸ beyond)] at same
      rw [same] at leaf
      exact .inr (.padding beyond leaf)
    | some other =>
      rcases leaf_ok C other with ⟨fields', packed', leaf'⟩
      have collides : C.poseidonHash fields = C.poseidonHash fields' :=
        same.trans (Except.ok.inj ((leaf_at paired published).symm.trans leaf'))
      by_cases equal : fields = fields'
      · subst equal
        rw [request_eq packed packed']
        exact .inl rfl
      · exact .inr (.leaf other fields fields' published packed packed' equal collides)
  · rcases Option.map_eq_some_iff.mp step with ⟨sibling, found, rfl⟩
    refine .inr (.pair leaves _ sibling _ level hashed leaf found ?_ collides)
    apply computeMerkleRootFromPath_climb
    rw [List.length_take]
    omega

end Paths

theorem Attested.batch {message : ProofMessage} (attested : Attested C S message) :
    message.verifiedRequests.length ≤ maxBatch := by
  rcases attested with ⟨window, outputs, _, accepted, rfl⟩
  rcases (consensusMptProgram_ok_iff _ _).mp accepted with ⟨_, _, _, _, drained, _, _⟩
  rcases verifyQueue_ok_iff.mp drained with ⟨_, _, _, count, _⟩
  show (BridgeHead.verifiedRequests window.proofInputs.queueStorage).length ≤ maxBatch
  rw [BridgeHead.verifiedRequests, List.length_map]
  omega

/-- Every request of a published message can be proved against the committed root with the path that its reader
    builds from the message alone, and no other request can be proved in its place unless a hash is broken. -/
theorem published_requests_provable (C : Crypto) {S : ConsensusSpec} (built : ZerosBuilt C) (slot : UInt64)
    (storeHash : B256) (queueCursor latestBeaconSlot : UInt64) (events : List (SystemEvent (ConsensusHttpProxy S)))
    (system : System S)
    (along : Along (System.step (preparing C)) (fun state event => state.provesTheProgram C event = true)
      (System.start slot storeHash queueCursor latestBeaconSlot) events)
    (reached : run (System.step (preparing C)) (System.start slot storeHash queueCursor latestBeaconSlot) events =
      some system) (message : ProofMessage) (pending : .proofMessage message ∈ system.pendingEvents) :
    (∀ (index : UInt32) (request : VerifiedRequest), message.verifiedRequests[index.toNat]? = some request →
      ∃ path, requestPath C message.verifiedRequests index = .ok path ∧
        requestRoot C request index.toUInt64 path = .ok message.verifiedRequestsRoot) ∧
    ∀ (request : VerifiedRequest) (index : UInt64) (path : List Fp),
      path.length = (computeMerkleTreeDepthAndSize message.verifiedRequests.length).1 →
      index.toNat < (computeMerkleTreeDepthAndSize message.verifiedRequests.length).2 →
      requestRoot C request index path = .ok message.verifiedRequestsRoot →
      message.verifiedRequests[index.toNat]? = some request ∨
        ForgedRequest C message.verifiedRequests request index path := by
  have attested := (attestation_run along reached).messages message pending
  have batch := Attested.batch attested
  rcases Attested.accounts attested with ⟨_, _, folded, rebuilt, rooted⟩
  rw [← rooted]
  constructor
  · intro index request published
    exact requestPath_reaches built batch rebuilt published
  · intro request index path size inside proved
    exact requestRoot_sound built batch rebuilt size inside proved

section Sample

open NoriModel.Sample

/-- Finality reaches slot 128 at once, and one proof covers both requests of the queue. -/
def pairEvents : List (SystemEvent (ConsensusHttpProxy Minimal.spec)) :=
  [.bridgeSends, .observerHandles, .detectorTicks,
    .detectorHandlesResult (proxy store0 header2 world2, proxy store0 header2 world2), .detectorSends,
    .bridgeHandlesFinality, .bridgeSends, .observerHandles, .observerSends, .bridgeHandlesCommand, .bridgeSends,
    .bridgeSends, .proverProves 0 pairOutputs, .bridgeHandlesJobResult, .bridgeSends]

theorem published_requests_provable_sample : ∃ (system : System Minimal.spec) (message : ProofMessage)
    (request : VerifiedRequest) (path : List Fp),
    run (System.step (preparing known.crypto)) pipelineStart pairEvents = some system ∧
    .proofMessage message ∈ system.pendingEvents ∧ message.verifiedRequests[1]? = some request ∧
    requestPath known.crypto message.verifiedRequests 1 = .ok path ∧ path = [leaf0] ∧
    requestRoot known.crypto request 1 path = .ok pairOutputs.verifiedRequestsRoot := by
  have reaches : (run (guarded (System.step (preparing known.crypto)) fun state event =>
      state.provesTheProgram known.crypto event) pipelineStart pairEvents).any (fun system =>
        system.pendingEvents.any fun event => event.message?.any fun message => message.outputs = pairOutputs &&
          (message.verifiedRequests.length = 2 &&
            requestPath known.crypto message.verifiedRequests 1 = .ok [leaf0])) = true := by
    decide +kernel
  rcases message_published reaches with ⟨system, message, reached, along, pending, facts⟩
  simp only [Bool.and_eq_true, decide_eq_true_eq] at facts
  rcases facts with ⟨outputs, two, sibling⟩
  have second : message.verifiedRequests[1]? = some message.verifiedRequests[1] := List.getElem?_eq_getElem _
  rcases (published_requests_provable known.crypto sample_zerosBuilt 64 syncedStoreHash0 0 96 _ system along reached
    message pending).1 1 _ second with ⟨path, returned, proved⟩
  have root : message.verifiedRequestsRoot = pairOutputs.verifiedRequestsRoot :=
    congrArg ProofOutputs.verifiedRequestsRoot outputs
  rw [root] at proved
  exact ⟨system, message, _, path, reached, pending, second, returned,
    Except.ok.inj (returned.symm.trans sibling), proved⟩

end Sample

end NoriProof
