import NoriBridgeHead.BridgeHead.Api
import NoriBridgeHead.Hash.BatchBinding
import NoriBridgeHead.Rpcs.QueueCompleteness

open Foundation Foundation.Outcome Foundation.Session

namespace NoriModel

/-- Each address is proved by one target, and no target proves a slot twice. -/
structure DistinctTargets (targets : List TargetStorageProof) : Prop where
  addresses : (targets.map TargetStorageProof.targetAddress).Nodup
  keys : ∀ target ∈ targets, (target.slots.map TargetSlotProof.key).Nodup

/-- The slot that the host finds for an entry. -/
def firstMatch (targets : List TargetStorageProof) (address : Address) (key : B256) : Option TargetSlotProof :=
  (targets.find? fun target => target.targetAddress = address).bind fun target =>
    target.slots.find? fun slot => slot.key = key

def BridgeHeadSend.verifiedRequests? {S : ConsensusSpec} : BridgeHeadSend S → Option (List VerifiedRequest)
  | .event (.proofMessage message) => some message.verifiedRequests
  | .event (.noticeMessage (.jobSucceeded extension)) => some extension.verifiedRequests
  | _ => none

end NoriModel

namespace NoriProof

open NoriModel NoriModel.ExecutionHttpProxy

variable {C : Crypto} {S : ConsensusSpec}

section Assembled

theorem slotsByTarget_distinct (entries : List QueueEntryProof) : DistinctGroups (slotsByTarget entries) := by
  induction entries using List.reverseRecOn with
  | nil =>
    apply DistinctGroups.mk
    · exact List.nodup_nil
    · intro group member
      cases member
  | append_singleton entries last ih =>
    rw [slotsByTarget_append]
    exact ih.insertGroup

/-- A target answers for the address and the slots of its group, whatever the provider returned. -/
theorem targetProof_group (provider : ExecutionProvider) (block : UInt64) (stateRoot : B256) (chunkLimit : Nat)
    (group : Address × List B256) : Ensures (targetProof C provider block stateRoot chunkLimit group) fun target =>
      target.targetAddress = group.1 ∧ target.slots.map TargetSlotProof.key = group.2 := by
  rcases group with ⟨address, slotKeys⟩
  refine ensures_skip fun proof => ensures_skip fun account => ?_
  have assembled : Ensures (Session.lift (slotKeys.mapM (assembleSlot proof.words))) fun slots =>
      slots.map TargetSlotProof.key = slotKeys := by
    apply ensures_lift
    intro slots returned
    have paired := (mapM_ok_iff _ _ _).mp returned
    have keyed : List.Forall₂ (fun key (slot : TargetSlotProof) => slot.key = key) slotKeys slots := by
      apply paired.imp
      intro key slot found
      simp only [assembleSlot, bind_ok_iff, pure_ok_iff] at found
      rcases found with ⟨_, _, rfl⟩
      rfl
    rw [← List.forall₂_eq_eq_eq, List.forall₂_map_left_iff]
    exact keyed.flip
  refine Ensures.bind assembled ?_
  intro slots keys
  exact ensures_pure ⟨rfl, keys⟩

theorem distinctTargets_of_groups {groups : List (Address × List B256)} {targets : List TargetStorageProof}
    (distinct : DistinctGroups groups)
    (paired : List.Forall₂ (fun group (target : TargetStorageProof) =>
      target.targetAddress = group.1 ∧ target.slots.map TargetSlotProof.key = group.2) groups targets) :
    DistinctTargets targets := by
  apply DistinctTargets.mk
  · have same : targets.map TargetStorageProof.targetAddress = groups.map Prod.fst := by
      rw [← List.forall₂_eq_eq_eq, List.forall₂_map_left_iff, List.forall₂_map_right_iff]
      exact (paired.imp fun _ _ related => related.1).flip
    rw [same]
    exact distinct.keys
  · intro target member
    rcases forall₂_right paired member with ⟨group, inside, _, keys⟩
    rw [keys]
    exact distinct.values group inside

theorem assembleQueueStorage_distinct (attempt : ExecutionAttempt) (queueAddress : Address) (cursor block : UInt64)
    (stateRoot : B256) (chunkLimit : Nat) :
    Ensures (assembleQueueStorage C attempt queueAddress cursor block stateRoot chunkLimit) fun queue =>
      DistinctTargets queue.targets := by
  unfold assembleQueueStorage
  refine ensures_skip fun head => ensures_skip fun _ => ensures_skip fun remaining => ensures_skip fun rows =>
    ensures_skip fun queueProof => ensures_skip fun entries => ?_
  refine Ensures.bind (ensures_mapM (targetProof_group attempt.provider block stateRoot chunkLimit) _) ?_
  intro targets paired
  have order := attempt.order.perm (slotsByTarget entries)
  have groups := slotsByTarget_distinct entries
  have distinct : DistinctGroups (attempt.order.iterate (slotsByTarget entries)) := by
    apply DistinctGroups.mk
    · exact (order.map Prod.fst).nodup_iff.mpr groups.keys
    · intro group member
      exact groups.values group (order.mem_iff.mp member)
  exact ensures_skip fun headWord => ensures_pure (distinctTargets_of_groups distinct paired)

theorem prepared_distinct {attempt : ExecutionAttempt} {queueAddress : Address} {cursor block : UInt64}
    {inputs : ConsensusProofInputs S} {stateRoot : B256} {chunkLimit : Nat} {proofInputs : ProofInputs S}
    (prepared : (_prepareConsensusMptProofInputs C attempt queueAddress cursor block inputs stateRoot
      chunkLimit).outcome = .ok proofInputs) : DistinctTargets proofInputs.queueStorage.targets := by
  have ensured : Ensures (_prepareConsensusMptProofInputs C attempt queueAddress cursor block inputs stateRoot
      chunkLimit) fun proofInputs => DistinctTargets proofInputs.queueStorage.targets := by
    refine Ensures.bind (assembleQueueStorage_distinct attempt queueAddress cursor block stateRoot chunkLimit) ?_
    intro queue distinct
    exact ensures_skip fun _ => ensures_pure distinct
  exact ensured.outcome prepared

end Assembled

section Lookup

/-- What the guest's map holds was inserted by a target of the witness. -/
theorem targetSlots_inserted {stateRoot : B256} {targets : List TargetStorageProof} {maps : TargetMaps}
    (verified : targets.foldlM (verifyTarget C stateRoot) TargetMaps.empty = .ok maps) {address : Address} {key : B256}
    {slot : TargetSlotProof} (found : maps.targetSlots (address, key) = some slot) :
    ∃ target ∈ targets, target.targetAddress = address ∧ slot ∈ target.slots ∧ slot.key = key := by
  let invariant := fun (done : List TargetStorageProof) (maps : TargetMaps) => ∀ place slot,
    maps.targetSlots place = some slot →
      ∃ target ∈ done, target.targetAddress = place.1 ∧ slot ∈ target.slots ∧ slot.key = place.2
  have kept : invariant ([] ++ targets) maps := by
    apply foldlM_ok_invariant (verifyTarget C stateRoot) invariant ?_ targets [] TargetMaps.empty maps ?_ verified
    · intro done target state next known stepped place slot found
      simp only [verifyTarget, bind_ok_iff, pure_ok_iff] at stepped
      rcases stepped with ⟨_, _, rfl⟩
      rcases insertSlots_found found with ⟨rfl, member⟩ | earlier
      · exact ⟨target, List.mem_append_right _ (List.mem_singleton_self _), rfl, member, rfl⟩
      · rcases known place slot earlier with ⟨other, inside, rest⟩
        exact ⟨other, List.mem_append_left _ inside, rest⟩
    · intro place slot found
      cases found
  exact kept (address, key) slot found

/-- With distinct targets the host's first match is the slot that the guest inserted last. -/
theorem firstMatch_eq {stateRoot : B256} {targets : List TargetStorageProof} {maps : TargetMaps}
    (distinct : DistinctTargets targets)
    (verified : targets.foldlM (verifyTarget C stateRoot) TargetMaps.empty = .ok maps) {address : Address} {key : B256}
    {slot : TargetSlotProof} (found : maps.targetSlots (address, key) = some slot) :
    firstMatch targets address key = some slot := by
  rcases targetSlots_inserted verified found with ⟨target, member, rfl, inside, rfl⟩
  rw [firstMatch, find?_of_nodup distinct.addresses member]
  exact find?_of_nodup (distinct.keys target member) inside

end Lookup

section Published

open BridgeHead

theorem verifiedRequests_leaves {stateRoot : B256} {queue : QueueStorage} {maps : TargetMaps} {leaves : List Fp}
    (distinct : DistinctTargets queue.targets)
    (verified : queue.targets.foldlM (verifyTarget C stateRoot) TargetMaps.empty = .ok maps)
    (hashed : queue.entries.mapM (entryLeaf C maps) = .ok leaves) :
    (verifiedRequests queue).mapM (VerifiedRequest.leaf C) = .ok leaves := by
  rw [mapM_ok_iff, verifiedRequests, List.forall₂_map_left_iff]
  apply ((mapM_ok_iff _ _ _).mp hashed).imp
  intro entry leaf accepted
  simp only [entryLeaf, bind_ok_iff, okOr_ok_iff, mapErr_ok_iff, fromResult_ok_iff] at accepted
  rcases accepted with ⟨_, _, slot, found, _, _, leafHash⟩
  have first := firstMatch_eq distinct verified found
  unfold firstMatch at first
  simp only [VerifiedRequest.leaf, first, Option.map_some, Option.getD_some]
  exact leafHash

theorem verifiedRequests_root {stateRoot root : B256} {queue : QueueStorage} {output : UInt64}
    (distinct : DistinctTargets queue.targets) (accepted : verifyQueue C stateRoot queue = .ok (output, root)) :
    ∃ folded, rebuildRequestsRoot C (verifiedRequests queue) = .ok folded ∧ folded.toBytes = root := by
  rcases verifyQueue_ok_iff.mp accepted with ⟨_, _, _, count, _, ⟨maps, leaves, verified, hashed, rooted⟩, _⟩
  have batch : (verifiedRequests queue).length ≤ maxBatch := by
    rw [verifiedRequests, List.length_map]
    omega
  rcases rebuildRequestsRoot_ok C batch with ⟨zeros, again, loaded, rehashed, paired, rebuilt⟩
  rw [verifiedRequests_leaves distinct verified hashed] at rehashed
  cases rehashed
  refine ⟨_, rebuilt, ?_⟩
  have size : leaves.length ≤ maxBatch := by
    rw [← paired.length_eq]
    exact batch
  exact Except.ok.inj ((requestsRoot_merkleNode C loaded size).symm.trans rooted)

theorem handleProverSuccess_publishes {bridge bridge' : BridgeHead S} {jobId : UInt64} {publicValues : List UInt8}
    {sends : List (BridgeHeadSend S)} {window : ProofInputsWithWindow S}
    (job : bridge.proverJobs.lookup jobId = some window)
    (handled : bridge.handleProverSuccess jobId publicValues = .ok (bridge', sends)) :
    sends.filterMap BridgeHeadSend.verifiedRequests? =
      [verifiedRequests window.proofInputs.queueStorage, verifiedRequests window.proofInputs.queueStorage] := by
  simp only [handleProverSuccess, bind_ok_iff, expect_ok_iff, job, Option.some.injEq, pure_ok_iff,
    Prod.mk.injEq] at handled
  rcases handled with ⟨_, rfl, outputs, _, _, rfl⟩
  rfl

/-- What the head publishes for a finished proof is one request for each entry, in order, with the value that the
    guest read for it, and these requests fold to the committed root. -/
theorem published_requests_rebuild_root (C : Crypto) {S : ConsensusSpec} (attempt : ExecutionAttempt)
    (queueAddress : Address) (cursor block : UInt64) (inputs : ConsensusProofInputs S) (executionStateRoot : B256)
    (chunkLimit : Nat) (proofInputs : ProofInputs S)
    (prepared : (_prepareConsensusMptProofInputs C attempt queueAddress cursor block inputs executionStateRoot
      chunkLimit).outcome = .ok proofInputs)
    (stateRoot : B256) (output : UInt64) (root : B256)
    (accepted : verifyQueue C stateRoot proofInputs.queueStorage = .ok (output, root))
    (bridge bridge' : BridgeHead S) (jobId : UInt64) (window : ProofInputsWithWindow S) (publicValues : List UInt8)
    (sends : List (BridgeHeadSend S)) (job : bridge.proverJobs.lookup jobId = some window)
    (staged : window.proofInputs = proofInputs)
    (handled : bridge.handleProverSuccess jobId publicValues = .ok (bridge', sends)) :
    ∃ requests maps, sends.filterMap BridgeHeadSend.verifiedRequests? = [requests, requests] ∧
      proofInputs.queueStorage.targets.foldlM (verifyTarget C stateRoot) TargetMaps.empty = .ok maps ∧
      List.Forall₂ (fun (entry : QueueEntryProof) (request : VerifiedRequest) =>
        request.target = entry.target ∧ request.collectionKeysCount = entry.collectionKeysCount ∧
        request.collectionKeys = entry.collectionKeys ∧
        ∃ slot, firstMatch proofInputs.queueStorage.targets entry.target entry.slotKey = some slot ∧
          maps.targetSlots (entry.target, entry.slotKey) = some slot ∧ request.value = slot.value)
        proofInputs.queueStorage.entries requests ∧
      ∃ folded, rebuildRequestsRoot C requests = .ok folded ∧ folded.toBytes = root := by
  subst staged
  have distinct := prepared_distinct prepared
  rcases verifyQueue_ok_iff.mp accepted with ⟨_, _, _, _, _, ⟨maps, leaves, verified, hashed, _⟩, _⟩
  refine ⟨verifiedRequests window.proofInputs.queueStorage, maps, handleProverSuccess_publishes job handled, verified,
    ?_, verifiedRequests_root distinct accepted⟩
  rw [verifiedRequests, List.forall₂_map_right_iff, List.forall₂_same]
  intro entry member
  rcases forall₂_left ((mapM_ok_iff _ _ _).mp hashed) member with ⟨leaf, _, entryHashed⟩
  simp only [entryLeaf, bind_ok_iff, okOr_ok_iff] at entryHashed
  rcases entryHashed with ⟨_, _, slot, found, _⟩
  have first := firstMatch_eq distinct verified found
  refine ⟨rfl, rfl, rfl, slot, first, found, ?_⟩
  unfold firstMatch at first
  rw [first]
  rfl

end Published

section Witness

open NoriModel.Sample BridgeHead

def provedWindow (proofInputs : ProofInputs Minimal.spec) : ProofInputsWithWindow Minimal.spec :=
  ⟨64, 128, 100, 164, proofInputs, storeHash2, 2⟩

def provingHead (proofInputs : ProofInputs Minimal.spec) : BridgeHead Minimal.spec :=
  ⟨64, 128, 1, [(1, provedWindow proofInputs)], syncedStoreHash0, 0⟩

/-- What the guest needs to go from the first store to the second state. -/
def pairConsensus : ConsensusProofInputs Minimal.spec :=
  { proofInputs2.consensus with store := syncedStore0, storeHash := syncedStoreHash0 }

theorem published_requests_world2 : ∃ (proofInputs : ProofInputs Minimal.spec) (bridge' : BridgeHead Minimal.spec)
    (sends : List (BridgeHeadSend Minimal.spec)) (requests : List VerifiedRequest) (folded : Fp),
    (_prepareConsensusMptProofInputs known.crypto world2.attempt queueAddress 0 164 pairConsensus
      (word stateRoot2) 0).outcome = .ok proofInputs ∧ proofInputs.queueStorage.entries.length = 2 ∧
    verifyQueue known.crypto (word stateRoot2) proofInputs.queueStorage = .ok (2, leafPair.toBytes) ∧
    (provingHead proofInputs).handleProverSuccess 1 pairOutputs.toBytes = .ok (bridge', sends) ∧
    sends.filterMap BridgeHeadSend.verifiedRequests? = [requests, requests] ∧
    rebuildRequestsRoot known.crypto requests = .ok folded ∧ folded.toBytes = leafPair.toBytes := by
  have succeeds : (_prepareConsensusMptProofInputs known.crypto world2.attempt queueAddress 0 164
      pairConsensus (word stateRoot2) 0).outcome.toOption.any (fun proofInputs =>
        proofInputs.queueStorage.entries.length = 2 &&
          verifyQueue known.crypto (word stateRoot2) proofInputs.queueStorage = .ok (2, leafPair.toBytes)) = true := by
    decide +kernel
  cases prepared : (_prepareConsensusMptProofInputs known.crypto world2.attempt queueAddress 0 164
      pairConsensus (word stateRoot2) 0).outcome with
  | error failure =>
    rw [prepared] at succeeds
    cases succeeds
  | ok proofInputs =>
    rw [prepared] at succeeds
    rcases Bool.and_eq_true_iff.mp succeeds with ⟨two, decided⟩
    have accepted : verifyQueue known.crypto (word stateRoot2) proofInputs.queueStorage = .ok (2, leafPair.toBytes) :=
      decide_eq_true_eq.mp decided
    have handled : ∃ after, (provingHead proofInputs).handleProverSuccess 1 pairOutputs.toBytes = .ok after := by
      simp only [handleProverSuccess, provingHead, fromBytes_toBytes]
      exact ⟨_, rfl⟩
    rcases handled with ⟨⟨bridge', sends⟩, handled⟩
    rcases published_requests_rebuild_root known.crypto world2.attempt queueAddress 0 164 pairConsensus
      (word stateRoot2) 0 proofInputs prepared (word stateRoot2) 2 leafPair.toBytes accepted (provingHead proofInputs)
      bridge' 1 (provedWindow proofInputs) pairOutputs.toBytes sends rfl rfl handled with
      ⟨requests, _, published, _, _, folded, rebuilt, same⟩
    exact ⟨proofInputs, bridge', sends, requests, folded, rfl, decide_eq_true_eq.mp two, accepted, handled, published,
      rebuilt, same⟩

end Witness

end NoriProof
