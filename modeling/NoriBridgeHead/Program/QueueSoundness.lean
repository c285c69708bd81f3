import NoriBridgeHead.Program.QueueState

open Foundation Foundation.Outcome NoriModel

namespace NoriModel

def QueueEntryProof.entry (entry : QueueEntryProof) : QueueEntry :=
  ⟨entry.target, entry.slotKey, entry.collectionKeysCount, entry.collectionKeys⟩

def TargetMaps.request (maps : TargetMaps) (entry : QueueEntryProof) : Request :=
  ⟨entry.entry, ((maps.targetSlots (entry.target, entry.slotKey)).map TargetSlotProof.value).getD 0⟩

end NoriModel

namespace NoriProof

variable {C : Crypto} {trie : TrieContents}

theorem verifyStorageWord_ok_iff {storageRoot key : B256} {value : U256} {proof : List Bytes} :
    verifyStorageWord C storageRoot key value proof = .ok () ↔
      C.verifyProof storageRoot (keyPath C key) (expectedWord C value) proof = .ok () := by
  rw [verifyStorageWord, mapErr_ok_iff, fromResult_ok_iff]

theorem verifyAccount_ok_iff {stateRoot storageRoot : B256} {provenAccount : ProvenAccount} {address : Address}
    {account : Option TrieAccount} {proof : List Bytes} :
    verifyAccount C stateRoot provenAccount address account proof = .ok storageRoot ↔
      C.verifyProof stateRoot (addressPath C address) (account.map C.encodeTrieAccount) proof = .ok () ∧
        accountStorageRoot account = storageRoot := by
  simp only [verifyAccount, bind_ok_iff, mapErr_ok_iff, fromResult_ok_iff, pure_ok_iff]
  constructor
  · intro h
    obtain ⟨⟨⟩, verified, same⟩ := h
    exact ⟨verified, same⟩
  · intro h
    exact ⟨(), h.1, h.2⟩

theorem structWordSlot_zero (base : B256) : structWordSlot base 0 = base := by
  have unchanged : U256.fromBeBytes base + U256.ofU8 0 = U256.fromBeBytes base := BitVec.add_zero _
  rw [structWordSlot, unchanged, toBeBytes_fromBeBytes]

theorem wordProofs_toList (proofs : Vector (List Bytes) queueEntryWords) :
    proofs.toList = [proofs[0], proofs[1], proofs[2], proofs[3], proofs[4]] := by
  apply List.ext_getElem (by rw [Vector.length_toList]; rfl)
  intro index inside _
  have cases : index = 0 ∨ index = 1 ∨ index = 2 ∨ index = 3 ∨ index = 4 := by
    rw [Vector.length_toList] at inside
    change index < 5 at inside
    omega
  rcases cases with rfl | rfl | rfl | rfl | rfl <;> simp

theorem verifyEntry_ok_iff {storageRoot : B256} {cursor : UInt64} {entry : QueueEntryProof} {offset : Nat}
    (small : offset < 2^64) :
    verifyEntry C storageRoot cursor (entry, offset) = .ok () ↔
      cursor.toNat + offset < 2^64 ∧
      verifyStorageWord C storageRoot (requestSlot C (cursor.toNat + offset) 0) (wordOfAddress entry.target)
        (entry.wordProofs[0]) = .ok () ∧
      verifyStorageWord C storageRoot (requestSlot C (cursor.toNat + offset) 1) (wordOfB256 entry.slotKey)
        (entry.wordProofs[1]) = .ok () ∧
      verifyStorageWord C storageRoot (requestSlot C (cursor.toNat + offset) 2)
        (U256.ofU8 entry.collectionKeysCount) (entry.wordProofs[2]) = .ok () ∧
      verifyStorageWord C storageRoot (requestSlot C (cursor.toNat + offset) 3)
        (wordOfB256 (entry.collectionKeys[0])) (entry.wordProofs[3]) = .ok () ∧
      verifyStorageWord C storageRoot (requestSlot C (cursor.toNat + offset) 4)
        (wordOfB256 (entry.collectionKeys[1])) (entry.wordProofs[4]) = .ok () := by
  have wide : (UInt64.ofNat offset).toNat = offset := UInt64.toNat_ofNat_of_lt' small
  simp only [verifyEntry, bind_ok_iff, addU64_ok_iff, wide, forM_ok_iff, wordProofs_toList, entryWords,
    List.zip_cons_cons, List.zip_nil_left, List.forall_mem_cons, List.not_mem_nil, false_implies, implies_true,
    and_true, requestSlot, structWordSlot_zero]
  constructor
  · intro h
    obtain ⟨index, position, words⟩ := h
    rw [U256.ofU64, position] at words
    refine ⟨?_, words⟩
    rw [← position]
    exact index.toNat_lt
  · intro h
    obtain ⟨fits, words⟩ := h
    have position : (UInt64.ofNat (cursor.toNat + offset)).toNat = cursor.toNat + offset :=
      UInt64.toNat_ofNat_of_lt' fits
    refine ⟨UInt64.ofNat (cursor.toNat + offset), position, ?_⟩
    rw [U256.ofU64, position]
    exact words

theorem batch_toNat (remaining : UInt64) :
    (min remaining (UInt64.ofNat maxBatch)).toNat = min remaining.toNat maxBatch := by
  have limit : (UInt64.ofNat maxBatch).toNat = maxBatch := by decide
  by_cases below : remaining ≤ UInt64.ofNat maxBatch
  · have order := UInt64.le_iff_toNat_le.mp below
    rw [limit] at order
    rw [show min remaining (UInt64.ofNat maxBatch) = remaining from if_pos below]
    omega
  · have order := mt UInt64.le_iff_toNat_le.mpr below
    rw [limit] at order
    rw [show min remaining (UInt64.ofNat maxBatch) = UInt64.ofNat maxBatch from if_neg below, limit]
    omega

theorem forM_zipIdx_ok_iff {φ α : Type} (action : α × Nat → Except φ Unit) (items : List α) :
    forM items.zipIdx action = .ok () ↔
      ∀ index (inside : index < items.length), action (items[index], index) = .ok () := by
  rw [forM_ok_iff]
  constructor
  · intro all index inside
    exact all _ (List.mk_mem_zipIdx_iff_getElem?.mpr (List.getElem?_eq_getElem inside))
  · intro all pair member
    obtain ⟨item, index⟩ := pair
    obtain ⟨inside, rfl⟩ := List.getElem?_eq_some_iff.mp (List.mk_mem_zipIdx_iff_getElem?.mp member)
    exact all index inside

/-- Everything an accepted witness has passed, in the order in which it is checked. -/
theorem verifyQueue_ok_iff {stateRoot root : B256} {queue : QueueStorage} {output : UInt64} :
    verifyQueue C stateRoot queue = .ok (output, root) ↔
      C.verifyProof stateRoot (addressPath C queue.proofRequestQueueAddress)
        (some (C.encodeTrieAccount queue.proofRequestQueueAccount))
        queue.proofRequestQueueAccountMptProof = .ok () ∧
      verifyStorageWord C queue.proofRequestQueueAccount.storageRoot (storageSlotOfIndex queueHeadStorageIndex)
        (U256.ofU64 queue.head) queue.headMptProof = .ok () ∧
      queue.inputCursor.toNat ≤ queue.head.toNat ∧
      queue.entries.length = min (queue.head.toNat - queue.inputCursor.toNat) maxBatch ∧
      (∀ index (inside : index < queue.entries.length),
        verifyEntry C queue.proofRequestQueueAccount.storageRoot queue.inputCursor
          (queue.entries[index], index) = .ok ()) ∧
      (∃ maps leaves, queue.targets.foldlM (verifyTarget C stateRoot) TargetMaps.empty = .ok maps ∧
        queue.entries.mapM (entryLeaf C maps) = .ok leaves ∧ requestsRoot C leaves = .ok root) ∧
      output.toNat = queue.inputCursor.toNat + queue.entries.length := by
  have ahead : ¬ queue.inputCursor > queue.head ↔ queue.inputCursor.toNat ≤ queue.head.toNat := by
    rw [gt_iff_lt, UInt64.lt_iff_toNat_lt]
    omega
  simp only [verifyQueue, bind_ok_iff, verifyAccount_ok_iff, Option.map_some, accountStorageRoot, ensure_ok_iff,
    ahead, subU64_ok_iff, batch_toNat, pure_ok_iff, Prod.mk.injEq, addU64_ok_iff]
  constructor
  · intro h
    obtain ⟨storageRoot, ⟨account, rfl⟩, ⟨⟩, head, ⟨⟩, behind, remaining, ⟨_, rest⟩, ⟨⟩, count, ⟨⟩, entries,
      maps, targets, leaves, hashed, folded, rooted, advanced, next, rfl, rfl⟩ := h
    rw [rest] at count
    rw [rest, ← count] at next
    exact ⟨account, head, behind, count, (forM_zipIdx_ok_iff _ _).mp entries,
      ⟨maps, leaves, targets, hashed, rooted⟩, next⟩
  · intro h
    obtain ⟨account, head, behind, count, entries, ⟨maps, leaves, targets, hashed, rooted⟩, next⟩ := h
    have order : queue.inputCursor ≤ queue.head := UInt64.le_iff_toNat_le.mpr behind
    have rest : (queue.head - queue.inputCursor).toNat = queue.head.toNat - queue.inputCursor.toNat :=
      UInt64.toNat_sub_of_le _ _ order
    refine ⟨_, ⟨account, rfl⟩, (), head, (), behind, queue.head - queue.inputCursor, ⟨behind, rest⟩, (), ?_, (),
      (forM_zipIdx_ok_iff _ _).mpr entries, maps, targets, leaves, hashed, root, rooted, output, ?_, rfl, rfl⟩
    · rw [rest]
      exact count
    · rw [rest, ← count]
      exact next

theorem requestsRoot_merkleNode (C : Crypto) {zeros : Vector Fp nMerkleZeros} {leaves : List Fp}
    (loaded : (getMerkleZeros : Outcome Empty _) = .ok zeros) (batch : leaves.length ≤ maxBatch) :
    requestsRoot C leaves =
      .ok (merkleNode C zeros leaves (computeMerkleTreeDepthAndSize leaves.length).1 0).toBytes := by
  rcases computeMerkleTreeDepthAndSize_spec leaves.length batch with ⟨_, _, shallow⟩
  have table : (getMerkleZeros : Outcome MptError _) = .ok zeros := (getMerkleZeros_ok_iff zeros).mpr loaded
  have depth : ¬ (computeMerkleTreeDepthAndSize leaves.length).1 > maxTreeDepth := by omega
  simp only [requestsRoot, ensure, depth, not_false_eq_true, ↓reduceIte, ok_bind, table,
    foldMerkleLeft_merkleNode C zeros batch]
  rfl

theorem requestsRoot_ok_iff (built : ZerosBuilt C) {leaves : List Fp} (batch : leaves.length ≤ maxBatch)
    {root : B256} : requestsRoot C leaves = .ok root ↔ root = (merkleRoot C leaves).toBytes := by
  rcases getMerkleZeros_ok (ε := Empty) with ⟨zeros, loaded, _⟩
  rcases computeMerkleTreeDepthAndSize_spec leaves.length batch with ⟨_, _, shallow⟩
  rw [requestsRoot_merkleNode C loaded batch, merkleNode_eq_node (ZerosBuilt.hashes built loaded) shallow,
    Except.ok.injEq]
  exact eq_comm

section Sound

variable {stateRoot : B256} (sound : VerifyProofSound C trie)
include sound

theorem verifyStorageWord_sound {storageRoot key : B256} {value : U256} {proof : List Bytes}
    (verified : verifyStorageWord C storageRoot key value proof = .ok ()) :
    WordAt C trie storageRoot key value :=
  sound.accepted _ _ _ _ (verifyStorageWord_ok_iff.mp verified)

theorem verifyEntry_sound {storageRoot : B256} {cursor : UInt64} {entry : QueueEntryProof} {offset : Nat}
    (small : offset < 2^64) (verified : verifyEntry C storageRoot cursor (entry, offset) = .ok ()) :
    EntryAt C trie storageRoot (cursor.toNat + offset) entry.entry := by
  obtain ⟨_, target, slotKey, count, key0, key1⟩ := (verifyEntry_ok_iff small).mp verified
  exact ⟨verifyStorageWord_sound sound target, verifyStorageWord_sound sound slotKey,
    verifyStorageWord_sound sound count, verifyStorageWord_sound sound key0,
    verifyStorageWord_sound sound key1⟩

/-- Whatever the witness inserts and overwrites, each recorded root is a verified account's. -/
theorem verifyTargets_sound {targets : List TargetStorageProof} {maps : TargetMaps}
    (verified : targets.foldlM (verifyTarget C stateRoot) TargetMaps.empty = .ok maps) (address : Address)
    (storageRoot : B256) (found : maps.targetStorageRoots address = some storageRoot) :
    ∃ account, AccountAt C trie stateRoot address account ∧ accountStorageRoot account = storageRoot := by
  let invariant := fun (_ : List TargetStorageProof) (maps : TargetMaps) => ∀ address storageRoot,
    maps.targetStorageRoots address = some storageRoot →
      ∃ account, AccountAt C trie stateRoot address account ∧ accountStorageRoot account = storageRoot
  have kept : invariant ([] ++ targets) maps := by
    apply foldlM_ok_invariant (verifyTarget C stateRoot) invariant ?_ targets [] TargetMaps.empty maps ?_ verified
    · intro done target state next known stepped address storageRoot found
      simp only [verifyTarget, bind_ok_iff, pure_ok_iff] at stepped
      obtain ⟨inserted, proven, rfl⟩ := stepped
      obtain ⟨accepted, rooted⟩ := verifyAccount_ok_iff.mp proven
      by_cases same : address = target.targetAddress
      · subst same
        simp only [Function.update_self, Option.some.injEq] at found
        exact ⟨target.account, sound.accepted _ _ _ _ accepted, rooted.trans found⟩
      · simp only [Function.update_of_ne same] at found
        exact known address storageRoot found
    · intro address storageRoot found
      cases found
  exact kept address storageRoot found

theorem valueAt_of_verified {address : Address} {account : Option TrieAccount} {key : B256} {value : U256}
    {proof : List Bytes} (proven : AccountAt C trie stateRoot address account)
    (verified : verifyStorageWord C (accountStorageRoot account) key value proof = .ok ()) :
    ValueAt C trie stateRoot address key value := by
  have word := verifyStorageWord_sound sound verified
  cases account with
  | some account => exact .inl ⟨account, proven, word⟩
  | none =>
    have absent := sound.empty (keyPath C key)
    refine .inr ⟨proven, ?_⟩
    by_cases zero : value = 0
    · exact zero
    · simp only [WordAt, accountStorageRoot, absent, expectedWord, zero, ↓reduceIte] at word
      cases word

theorem entryLeaf_sound {targets : List TargetStorageProof} {maps : TargetMaps}
    (verified : targets.foldlM (verifyTarget C stateRoot) TargetMaps.empty = .ok maps)
    {entry : QueueEntryProof} {leaf : Fp} (hashed : entryLeaf C maps entry = .ok leaf) :
    ValueAt C trie stateRoot entry.target entry.slotKey (maps.request entry).value ∧
      (maps.request entry).leaf C = .ok leaf := by
  simp only [entryLeaf, bind_ok_iff, okOr_ok_iff, mapErr_ok_iff, fromResult_ok_iff] at hashed
  obtain ⟨storageRoot, foundRoot, slot, foundSlot, ⟨⟩, word, leafHash⟩ := hashed
  obtain ⟨account, proven, rfl⟩ := verifyTargets_sound sound verified _ _ foundRoot
  have value : (maps.request entry).value = slot.value := by
    simp only [TargetMaps.request, foundSlot, Option.map_some, Option.getD_some]
  rw [value]
  refine ⟨valueAt_of_verified sound proven word, ?_⟩
  rw [Request.leaf, value]
  exact leafHash

/-- The batch is read off the entries of the witness and the values that its targets prove. -/
theorem verifyQueue_drains (built : ZerosBuilt C) {root : B256} {queue : QueueStorage} {output : UInt64}
    (accepted : verifyQueue C stateRoot queue = .ok (output, root)) :
    ∃ maps leaves, queue.targets.foldlM (verifyTarget C stateRoot) TargetMaps.empty = .ok maps ∧
      queue.entries.mapM (entryLeaf C maps) = .ok leaves ∧
      Drained C trie stateRoot queue.proofRequestQueueAddress queue.inputCursor.toNat
        queue.proofRequestQueueAccount (U256.ofU64 queue.head) (queue.entries.map maps.request) output.toNat root := by
  obtain ⟨account, head, behind, count, entries, ⟨maps, leaves, targets, hashed, rooted⟩, next⟩ :=
    verifyQueue_ok_iff.mp accepted
  have paired := (mapM_ok_iff _ _ _).mp hashed
  have batch : leaves.length ≤ maxBatch := by
    rw [← paired.length_eq]
    omega
  refine ⟨maps, leaves, targets, hashed, sound.accepted _ _ _ _ account, verifyStorageWord_sound sound head,
    ?_, ?_, ?_, ?_, leaves, ?_, (requestsRoot_ok_iff built batch).mp rooted⟩
  · rw [ofU64_toNat]
    exact behind
  · rw [ofU64_toNat]
    omega
  · rw [List.length_map]
    omega
  · intro offset inside
    rw [List.length_map] at inside
    rw [List.getElem_map]
    have small : offset < 2^64 := by
      have limit : maxBatch = 65536 := rfl
      omega
    have pair := paired.get (i := offset) inside (by rw [← paired.length_eq]; exact inside)
    exact ⟨verifyEntry_sound sound small (entries offset inside), (entryLeaf_sound sound targets pair).1⟩
  · rw [List.forall₂_map_left_iff]
    exact paired.imp fun _ _ pair => (entryLeaf_sound sound targets pair).2

theorem verifyQueue_drained (built : ZerosBuilt C) {root : B256} {queue : QueueStorage} {output : UInt64}
    (accepted : verifyQueue C stateRoot queue = .ok (output, root)) :
    ∃ requests, Drained C trie stateRoot queue.proofRequestQueueAddress queue.inputCursor.toNat
      queue.proofRequestQueueAccount (U256.ofU64 queue.head) requests output.toNat root := by
  rcases verifyQueue_drains sound built accepted with ⟨maps, _, _, _, drained⟩
  exact ⟨queue.entries.map maps.request, drained⟩

end Sound

end NoriProof
