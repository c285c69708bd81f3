import NoriBridgeHead.Program.KnownTries
import NoriBridgeHead.Program.ProgramAgreement
import NoriBridgeHead.Program.QueueSafety
import NoriBridgeHead.Rpcs.Execution

open Foundation Foundation.Outcome Foundation.Session

namespace NoriModel

/-- The accounts and the storage words of one block; an absent account has no storage. -/
structure ExecutionState where
  account : Address → Option TrieAccount
  storage : Address → B256 → U256
  absent : ∀ address key, account address = none → storage address key = 0

/-- An answer to a request for the proofs of some words of one address. The account fields of an absent
    account are not constrained. -/
structure HonestResponse (C : Crypto) (stateRoot : B256) (state : ExecutionState) (address : Address)
    (keys : List B256) (response : EIP1186AccountProofResponse) : Prop where
  echoed : response.address = address
  fields : ∀ account, state.account address = some account → response.account = account
  accountProof : C.verifyProof stateRoot (addressPath C address) ((state.account address).map C.encodeTrieAccount)
    response.accountProof = .ok ()
  words : ∀ slot ∈ response.storageProof, slot.value = state.storage address slot.key ∧
    verifyStorageWord C (accountStorageRoot (state.account address)) slot.key slot.value slot.proof = .ok ()
  covers : ∀ key ∈ keys, ∃ slot ∈ response.storageProof, slot.key = key

/-- A provider that answers truthfully whatever is asked of the given words. -/
structure HonestProvider (C : Crypto) (stateRoot : B256) (state : ExecutionState) (block : UInt64)
    (asked : Address → B256 → Prop) (provider : ExecutionProvider) : Prop where
  storageAt : ∀ n address key, asked address key →
    provider.getStorageAt n address key block = .ok (state.storage address key)
  proof : ∀ n address keys, keys ≠ [] → (∀ key ∈ keys, asked address key) →
    ∃ response, provider.getProof n address keys block = .ok response ∧
      HonestResponse C stateRoot state address keys response

def entrySlots (C : Crypto) (index : Nat) : List B256 :=
  [requestSlot C index 0, requestSlot C index 1, requestSlot C index 2, requestSlot C index 3, requestSlot C index 4]

def entryRows (C : Crypto) (cursor : UInt64) (count : Nat) : List (List B256) :=
  (List.range count).map fun offset => entrySlots C (cursor.toNat + offset)

/-- The words that the queue itself names: its head, its entries, and the slot that each entry reads. -/
def QueueWord (C : Crypto) (state : ExecutionState) (queueAddress : Address) (head : Nat) (address : Address)
    (key : B256) : Prop :=
  (address = queueAddress ∧ key = storageSlotOfIndex queueHeadStorageIndex) ∨
  (address = queueAddress ∧ ∃ index < head, key ∈ entrySlots C index) ∨
  ∃ index < head, address = ExecutionHttpProxy.addressOfWord (state.storage queueAddress (requestSlot C index 0)) ∧
    key = (state.storage queueAddress (requestSlot C index 1)).toBeBytes

structure HonestEntry (C : Crypto) (state : ExecutionState) (queueAddress : Address) (storageRoot : B256)
    (cursor : UInt64) (offset : Nat) (entry : QueueEntryProof) : Prop where
  target : entry.target =
    ExecutionHttpProxy.addressOfWord (state.storage queueAddress (requestSlot C (cursor.toNat + offset) 0))
  slotKey : entry.slotKey = (state.storage queueAddress (requestSlot C (cursor.toNat + offset) 1)).toBeBytes
  verified : verifyEntry C storageRoot cursor (entry, offset) = .ok ()

structure HonestTarget (C : Crypto) (stateRoot : B256) (state : ExecutionState) (group : Address × List B256)
    (target : TargetStorageProof) : Prop where
  address : target.targetAddress = group.1
  account : target.account = state.account group.1
  accountProof : C.verifyProof stateRoot (addressPath C group.1) ((state.account group.1).map C.encodeTrieAccount)
    target.accountMptProof = .ok ()
  slots : List.Forall₂ (fun key slot => slot.key = key ∧ slot.value = state.storage group.1 key ∧
    verifyStorageWord C (accountStorageRoot (state.account group.1)) key slot.value slot.mptProof = .ok ())
    group.2 target.slots

end NoriModel

namespace NoriProof

open NoriModel ExecutionHttpProxy

variable {C : Crypto} {stateRoot : B256} {state : ExecutionState} {block : UInt64} {asked : Address → B256 → Prop}
  {provider : ExecutionProvider} {address : Address} {keys : List B256} {response : EIP1186AccountProofResponse}

section Responses

theorem honestResponse_words (honest : HonestResponse C stateRoot state address keys response) {key : B256}
    (requested : key ∈ keys) : ∃ proof, response.words key = some (state.storage address key, proof) ∧
      verifyStorageWord C (accountStorageRoot (state.account address)) key (state.storage address key) proof =
        .ok () := by
  rcases honest.covers key requested with ⟨slot, member, rfl⟩
  have present : slot.key ∈
      (response.storageProof.map fun slot => (slot.key, (slot.value, slot.proof))).map Prod.fst := by
    rw [List.map_map]
    exact List.mem_map_of_mem member
  rcases collect_isSome present with ⟨⟨value, proof⟩, found⟩
  rcases List.mem_map.mp (collect_mem found) with ⟨other, otherMember, same⟩
  rcases Prod.mk.inj same with ⟨sameKey, sameRest⟩
  rcases Prod.mk.inj sameRest with ⟨sameValue, sameProof⟩
  rcases honest.words other otherMember with ⟨truth, verified⟩
  rw [sameValue, sameKey] at truth
  rw [sameKey, sameValue, sameProof, truth] at verified
  refine ⟨proof, ?_, verified⟩
  rw [← truth]
  exact found

theorem honestResponse_merge {more : List B256} {next : EIP1186AccountProofResponse}
    (honest : HonestResponse C stateRoot state address keys response)
    (honestNext : HonestResponse C stateRoot state address more next) :
    HonestResponse C stateRoot state address (keys ++ more) (mergeChunk (some response) next) := by
  constructor
  · exact honest.echoed
  · exact honest.fields
  · exact honest.accountProof
  · intro slot member
    rcases List.mem_append.mp member with earlier | later
    · exact honest.words slot earlier
    · exact honestNext.words slot later
  · intro key requested
    rcases List.mem_append.mp requested with earlier | later
    · rcases honest.covers key earlier with ⟨slot, member, same⟩
      exact ⟨slot, List.mem_append_left _ member, same⟩
    · rcases honestNext.covers key later with ⟨slot, member, same⟩
      exact ⟨slot, List.mem_append_right _ member, same⟩

end Responses

section Calls

variable (honest : HonestProvider C stateRoot state block asked provider)
include honest

theorem requestChunk_honest (nonempty : keys ≠ []) (allAsked : ∀ key ∈ keys, asked address key) (retries : Nat) :
    Returns (requestChunk provider address keys block retries) (HonestResponse C stateRoot state address keys) := by
  have answered : Returns (ε := HostError) (call fun n => provider.getProof n address keys block) fun answer =>
      ∃ response, answer = .ok response ∧ HonestResponse C stateRoot state address keys response :=
    returns_call fun n => honest.proof n address keys nonempty allAsked
  cases retries <;>
  · refine Returns.bind answered ?_
    intro answer truthful
    rcases truthful with ⟨response, rfl, truthful⟩
    exact returns_pure truthful

theorem getProof_honest (nonempty : keys ≠ []) (allAsked : ∀ key ∈ keys, asked address key) (chunkLimit : Nat) :
    Returns (_getProof provider address keys block chunkLimit) (HonestResponse C stateRoot state address keys) := by
  have positive : 0 < max chunkLimit 1 := by omega
  have whole := toChunks_flatten (max chunkLimit 1) keys positive
  have nonemptyChunks := toChunks_nonempty (max chunkLimit 1) keys positive
  have notEmpty : keys.isEmpty = false := by simpa using nonempty
  let invariant := fun (done : List (List B256)) (merged : Option EIP1186AccountProofResponse) =>
    (done = [] ∧ merged = none) ∨
      ∃ response, merged = some response ∧ HonestResponse C stateRoot state address done.flatten response
  have merged : Returns ((keys.toChunks (max chunkLimit 1)).foldlM (fun merged chunk => do
      let proof ← requestChunk provider address chunk block maxRetries
      pure (some (mergeChunk merged proof))) none) (invariant ([] ++ keys.toChunks (max chunkLimit 1))) := by
    refine returns_foldlM _ ?_ (.inl ⟨rfl, rfl⟩)
    intro chunk member done merged kept
    have chunkAsked : ∀ key ∈ chunk, asked address key := by
      intro key inside
      apply allAsked
      rw [← whole]
      exact List.mem_flatten_of_mem member inside
    refine Returns.bind (requestChunk_honest honest (nonemptyChunks chunk member) chunkAsked maxRetries) ?_
    intro proof truthful
    apply returns_pure
    rcases kept with ⟨rfl, rfl⟩ | ⟨response, rfl, earlier⟩
    · refine .inr ⟨proof, rfl, ?_⟩
      simpa using truthful
    · refine .inr ⟨_, rfl, ?_⟩
      simpa using honestResponse_merge earlier truthful
  unfold _getProof
  simp only [notEmpty, Bool.false_eq_true, ↓reduceIte]
  refine Returns.bind merged ?_
  intro result kept
  rw [List.nil_append] at kept
  rcases kept with ⟨noChunks, _⟩ | ⟨response, rfl, truthful⟩
  · rw [noChunks] at whole
    exact absurd whole.symm nonempty
  · rw [whole] at truthful
    exact returns_lift rfl truthful

theorem getQueueHead_honest {head : UInt64}
    (headWord : state.storage address (storageSlotOfIndex queueHeadStorageIndex) = U256.ofU64 head)
    (headAsked : asked address (storageSlotOfIndex queueHeadStorageIndex)) :
    Returns (_getQueueHead provider address block) fun queueHead => queueHead = head := by
  have fits : (U256.ofU64 head).toNat < 2^64 := by
    rw [ofU64_toNat]
    exact head.toNat_lt
  have answered : Returns (_getStorageWord provider address (storageSlotOfIndex queueHeadStorageIndex) block)
      fun word => word = U256.ofU64 head := by
    have truth : Returns (ε := HostError)
        (call fun n => provider.getStorageAt n address (storageSlotOfIndex queueHeadStorageIndex) block)
        fun answer => answer = .ok (U256.ofU64 head) := by
      apply returns_call
      intro n
      rw [honest.storageAt n address _ headAsked, headWord]
    refine Returns.bind truth ?_
    intro answer same
    rw [same]
    exact returns_pure rfl
  refine Returns.bind answered ?_
  intro word same
  rw [same]
  refine returns_lift ?_ rfl
  rw [if_pos fits, ofU64_toNat, UInt64.ofNat_toNat]
  rfl

end Calls

section Entries

theorem wordOfAddress_addressOfWord {word : U256} (small : word.toNat < 2^160) :
    wordOfAddress (addressOfWord word) = word := by
  have low : (addressOfWord word).toNat = word.toNat % 256 ^ 20 := FixedBytes.toNat_drop_ofNat 32 word.toNat 12
  have bound : word.toNat < 256 ^ 20 := small
  apply BitVec.eq_of_toNat_eq
  rw [wordOfAddress_toNat, low, Nat.mod_eq_of_lt bound]

theorem ofU8_ofNat {word : U256} (small : word.toNat < 2^8) : U256.ofU8 (UInt8.ofNat word.toNat) = word := by
  apply BitVec.eq_of_toNat_eq
  rw [ofU8_toNat, UInt8.toNat_ofNat_of_lt' small]

theorem entryWordKeys_ok {cursor : UInt64} {offset : Nat} (fits : cursor.toNat + offset < 2^64) :
    entryWordKeys C cursor offset = .ok (entrySlots C (cursor.toNat + offset)) := by
  have small : offset < 2^64 := by omega
  have wide : (UInt64.ofNat offset).toNat = offset := UInt64.toNat_ofNat_of_lt' small
  have position : (UInt64.ofNat (cursor.toNat + offset)).toNat = cursor.toNat + offset :=
    UInt64.toNat_ofNat_of_lt' fits
  have index : addU64 (ε := HostError) cursor (UInt64.ofNat offset) = .ok (UInt64.ofNat (cursor.toNat + offset)) := by
    rw [addU64_ok_iff, wide, position]
  simp only [entryWordKeys, index, ok_bind, U256.ofU64, position, entrySlots, requestSlot, structWordSlot_zero]
  rfl

theorem assembleEntry_honest {cursor : UInt64} {offset : Nat} {account : TrieAccount}
    (honest : HonestResponse C stateRoot state address keys response) (queue : state.account address = some account)
    (small : offset < 2^64) (fits : cursor.toNat + offset < 2^64)
    (requested : ∀ key ∈ entrySlots C (cursor.toNat + offset), key ∈ keys)
    (typedTarget : (state.storage address (requestSlot C (cursor.toNat + offset) 0)).toNat < 2^160)
    (typedCount : (state.storage address (requestSlot C (cursor.toNat + offset) 2)).toNat < 2^8) :
    ∃ entry, assembleEntry response.words (entrySlots C (cursor.toNat + offset)) = .ok entry ∧
      HonestEntry C state address account.storageRoot cursor offset entry := by
  rcases honestResponse_words honest
    (requested _ (by simp [entrySlots] : requestSlot C (cursor.toNat + offset) 0 ∈ _)) with ⟨proof0, found0, verified0⟩
  rcases honestResponse_words honest
    (requested _ (by simp [entrySlots] : requestSlot C (cursor.toNat + offset) 1 ∈ _)) with ⟨proof1, found1, verified1⟩
  rcases honestResponse_words honest
    (requested _ (by simp [entrySlots] : requestSlot C (cursor.toNat + offset) 2 ∈ _)) with ⟨proof2, found2, verified2⟩
  rcases honestResponse_words honest
    (requested _ (by simp [entrySlots] : requestSlot C (cursor.toNat + offset) 3 ∈ _)) with ⟨proof3, found3, verified3⟩
  rcases honestResponse_words honest
    (requested _ (by simp [entrySlots] : requestSlot C (cursor.toNat + offset) 4 ∈ _)) with ⟨proof4, found4, verified4⟩
  have root : accountStorageRoot (state.account address) = account.storageRoot := by rw [queue, accountStorageRoot]
  rw [root] at verified0 verified1 verified2 verified3 verified4
  simp only [assembleEntry, entrySlots, List.mapM_cons, List.mapM_nil, wordAt, found0, found1, found2, found3, found4,
    okOr, ok_bind, pure_bind, entryOfWords, toU8, typedCount, ↓reduceIte]
  refine ⟨_, rfl, rfl, rfl, (verifyEntry_ok_iff small).mpr ⟨fits, ?_, ?_, ?_, ?_, ?_⟩⟩
  · rw [wordOfAddress_addressOfWord typedTarget]
    exact verified0
  · rw [wordOfB256, fromBeBytes_toBeBytes]
    exact verified1
  · rw [ofU8_ofNat typedCount]
    exact verified2
  · show verifyStorageWord C account.storageRoot _ (wordOfB256 (U256.toBeBytes _)) proof3 = .ok ()
    rw [wordOfB256, fromBeBytes_toBeBytes]
    exact verified3
  · show verifyStorageWord C account.storageRoot _ (wordOfB256 (U256.toBeBytes _)) proof4 = .ok ()
    rw [wordOfB256, fromBeBytes_toBeBytes]
    exact verified4

theorem entryRows_ok {cursor : UInt64} {count : Nat} (fits : cursor.toNat + count < 2^64) :
    (List.range count).mapM (entryWordKeys C cursor) = .ok (entryRows C cursor count) := by
  rw [mapM_ok_iff, entryRows, List.forall₂_map_right_iff, List.forall₂_same]
  intro offset member
  have inside := List.mem_range.mp member
  exact entryWordKeys_ok (by omega)

theorem entryRows_slice {cursor : UInt64} {count offset : Nat} (inside : offset < count) :
    ((entryRows C cursor count).flatten.drop (offset * queueEntryWords)).take queueEntryWords =
      entrySlots C (cursor.toNat + offset) := by
  have wide : ∀ row ∈ entryRows C cursor count, row.length = queueEntryWords := by
    intro row member
    rcases List.mem_map.mp member with ⟨_, _, rfl⟩
    rfl
  have bound : offset < (entryRows C cursor count).length := by
    rw [entryRows, List.length_map, List.length_range]
    exact inside
  rw [slice_flatten wide offset bound]
  simp [entryRows]

theorem entryRows_mem {cursor : UInt64} {count : Nat} {key : B256} :
    key ∈ (entryRows C cursor count).flatten ↔ ∃ offset < count, key ∈ entrySlots C (cursor.toNat + offset) := by
  simp [entryRows, List.mem_flatten]

theorem assembleEntries_honest {cursor : UInt64} {count : Nat} {account : TrieAccount} (more : List B256)
    (honest : HonestResponse C stateRoot state address (more ++ (entryRows C cursor count).flatten) response)
    (queue : state.account address = some account) (fits : cursor.toNat + count < 2^64)
    (typed : ∀ index < cursor.toNat + count, (state.storage address (requestSlot C index 0)).toNat < 2^160 ∧
      (state.storage address (requestSlot C index 2)).toNat < 2^8) :
    ∃ entries, ((List.range count).mapM fun offset => assembleEntry response.words
        (((entryRows C cursor count).flatten.drop (offset * queueEntryWords)).take queueEntryWords)) = .ok entries ∧
      List.Forall₂ (HonestEntry C state address account.storageRoot cursor) (List.range count) entries := by
  apply mapM_ok_of_forall
  intro offset member
  have inside := List.mem_range.mp member
  have requested : ∀ key ∈ entrySlots C (cursor.toNat + offset), key ∈ more ++ (entryRows C cursor count).flatten := by
    intro key keyMember
    exact List.mem_append_right _ (entryRows_mem.mpr ⟨offset, inside, keyMember⟩)
  rcases typed (cursor.toNat + offset) (by omega) with ⟨typedTarget, typedCount⟩
  rw [entryRows_slice inside]
  exact assembleEntry_honest honest queue (by omega) (by omega) requested typedTarget typedCount

theorem slotsByTarget_append (entries : List QueueEntryProof) (last : QueueEntryProof) :
    slotsByTarget (entries ++ [last]) = insertGroup last.target last.slotKey (slotsByTarget entries) := by
  rw [slotsByTarget, List.foldl_append]
  rfl

theorem slotsByTarget_mem (entries : List QueueEntryProof) {entry : QueueEntryProof} (member : entry ∈ entries) :
    ∃ keys, (entry.target, keys) ∈ slotsByTarget entries ∧ entry.slotKey ∈ keys := by
  induction entries using List.reverseRecOn with
  | nil => cases member
  | append_singleton entries last ih =>
    rw [slotsByTarget_append]
    rcases List.mem_append.mp member with earlier | here
    · exact insertGroup_keeps (ih earlier)
    · cases List.mem_singleton.mp here
      exact insertGroup_mem

theorem slotsByTarget_all (property : Address → B256 → Prop) (entries : List QueueEntryProof)
    (each : ∀ entry ∈ entries, property entry.target entry.slotKey) :
    ∀ group ∈ slotsByTarget entries, group.2 ≠ [] ∧ ∀ key ∈ group.2, property group.1 key := by
  induction entries using List.reverseRecOn with
  | nil =>
    intro group member
    cases member
  | append_singleton entries last ih =>
    rw [slotsByTarget_append]
    apply insertGroup_all
    · exact each last (List.mem_append_right _ (List.mem_singleton_self _))
    · exact ih fun entry member => each entry (List.mem_append_left _ member)

end Entries

section Targets

variable {trie : TrieContents} (sound : VerifyProofSound C trie)

include sound in
/-- An inclusion proof of an absent account cannot verify, so the exclusion proof decides. -/
theorem accountWitness_honest (honest : HonestResponse C stateRoot state address keys response) :
    _accountWitness C response stateRoot = .ok (state.account address) := by
  have accepted := honest.accountProof
  rw [← honest.echoed] at accepted
  cases present : state.account address with
  | some account =>
    rw [honest.echoed, present, Option.map_some, ← honest.fields account present, ← honest.echoed] at accepted
    simp only [_accountWitness, accepted]
    rw [honest.fields account present]
    rfl
  | none =>
    rw [honest.echoed, present, Option.map_none, ← honest.echoed] at accepted
    have excluded := sound.accepted _ _ _ _ accepted
    cases included : C.verifyProof stateRoot (addressPath C response.address)
        (some (C.encodeTrieAccount response.account)) response.accountProof with
    | ok =>
      have contradiction := sound.accepted _ _ _ _ included
      rw [excluded] at contradiction
      cases contradiction
    | error reason =>
      simp only [_accountWitness, included, accepted, fromResult, mapErr, ok_bind]
      rfl

include sound in
theorem targetProof_honest (honest : HonestProvider C stateRoot state block asked provider)
    {group : Address × List B256} (nonempty : group.2 ≠ []) (allAsked : ∀ key ∈ group.2, asked group.1 key)
    (chunkLimit : Nat) :
    Returns (targetProof C provider block stateRoot chunkLimit group) (HonestTarget C stateRoot state group) := by
  refine Returns.bind (getProof_honest honest nonempty allAsked chunkLimit) ?_
  intro response truthful
  refine returns_bind_lift (accountWitness_honest sound truthful) ?_
  have slots : ∃ slots, group.2.mapM (assembleSlot response.words) = .ok slots ∧
      List.Forall₂ (fun key slot => slot.key = key ∧ slot.value = state.storage group.1 key ∧
        verifyStorageWord C (accountStorageRoot (state.account group.1)) key slot.value slot.mptProof = .ok ())
        group.2 slots := by
    apply mapM_ok_of_forall
    intro key requested
    rcases honestResponse_words truthful requested with ⟨proof, found, verified⟩
    refine ⟨⟨key, state.storage group.1 key, proof⟩, ?_, rfl, rfl, verified⟩
    simp only [assembleSlot, wordAt, found, okOr, ok_bind]
    rfl
  rcases slots with ⟨slots, assembled, truthfulSlots⟩
  refine returns_bind_lift assembled ?_
  exact returns_pure ⟨rfl, rfl, truthful.accountProof, truthfulSlots⟩

theorem insertSlots_cons (first : TargetSlotProof) (slots : List TargetSlotProof)
    (maps : Address × B256 → Option TargetSlotProof) : insertSlots address (first :: slots) maps =
      insertSlots address slots (Function.update maps (address, first.key) (some first)) := rfl

theorem insertSlots_found {slots : List TargetSlotProof} {maps : Address × B256 → Option TargetSlotProof}
    {place : Address × B256} {slot : TargetSlotProof} (found : insertSlots address slots maps place = some slot) :
    (place = (address, slot.key) ∧ slot ∈ slots) ∨ maps place = some slot := by
  induction slots generalizing maps with
  | nil => exact .inr found
  | cons first slots ih =>
    rw [insertSlots_cons] at found
    rcases ih found with ⟨same, member⟩ | earlier
    · exact .inl ⟨same, List.mem_cons_of_mem first member⟩
    · by_cases here : place = (address, first.key)
      · rw [here, Function.update_self] at earlier
        cases earlier
        exact .inl ⟨here, List.mem_cons_self ..⟩
      · rw [Function.update_of_ne here] at earlier
        exact .inr earlier

theorem insertSlots_isSome {slots : List TargetSlotProof} {maps : Address × B256 → Option TargetSlotProof}
    {place : Address × B256} (present : (∃ slot ∈ slots, place = (address, slot.key)) ∨ (maps place).isSome) :
    (insertSlots address slots maps place).isSome := by
  induction slots generalizing maps with
  | nil =>
    rcases present with ⟨slot, member, _⟩ | earlier
    · cases member
    · exact earlier
  | cons first slots ih =>
    rw [insertSlots_cons]
    apply ih
    by_cases here : place = (address, first.key)
    · right
      rw [here, Function.update_self]
      rfl
    · rw [Function.update_of_ne here]
      rcases present with ⟨slot, member, same⟩ | earlier
      · rcases List.mem_cons.mp member with rfl | later
        · exact absurd same here
        · exact .inl ⟨slot, later, same⟩
      · exact .inr earlier

structure TargetsKnown (C : Crypto) (state : ExecutionState) (done : List TargetStorageProof) (maps : TargetMaps) :
    Prop where
  roots : ∀ address root, maps.targetStorageRoots address = some root →
    root = accountStorageRoot (state.account address)
  slots : ∀ address key slot, maps.targetSlots (address, key) = some slot →
    slot.value = state.storage address key ∧
      verifyStorageWord C (accountStorageRoot (state.account address)) key slot.value slot.mptProof = .ok ()
  present : ∀ target ∈ done, (maps.targetStorageRoots target.targetAddress).isSome ∧
    ∀ slot ∈ target.slots, (maps.targetSlots (target.targetAddress, slot.key)).isSome

theorem targetsKnown_step {group : Address × List B256} {target : TargetStorageProof} {done : List TargetStorageProof}
    {maps next : TargetMaps} (honest : HonestTarget C stateRoot state group target)
    (known : TargetsKnown C state done maps) (stepped : verifyTarget C stateRoot maps target = .ok next) :
    TargetsKnown C state (done ++ [target]) next := by
  simp only [verifyTarget, bind_ok_iff, pure_ok_iff] at stepped
  rcases stepped with ⟨storageRoot, proven, rfl⟩
  rcases verifyAccount_ok_iff.mp proven with ⟨_, rooted⟩
  have truthful : ∀ slot ∈ target.slots, slot.value = state.storage target.targetAddress slot.key ∧
      verifyStorageWord C (accountStorageRoot (state.account target.targetAddress)) slot.key slot.value
        slot.mptProof = .ok () := by
    intro slot member
    rcases forall₂_right honest.slots member with ⟨key, _, sameKey, value, verified⟩
    rw [honest.address, sameKey]
    exact ⟨value, verified⟩
  constructor
  · intro address root found
    by_cases same : address = target.targetAddress
    · subst same
      simp only [Function.update_self, Option.some.injEq] at found
      rw [← found, ← rooted, honest.account, honest.address]
    · simp only [Function.update_of_ne same] at found
      exact known.roots address root found
  · intro address key slot found
    rcases insertSlots_found found with ⟨place, member⟩ | earlier
    · rcases Prod.mk.inj place with ⟨rfl, rfl⟩
      exact truthful slot member
    · exact known.slots address key slot earlier
  · intro seen member
    rcases List.mem_append.mp member with earlier | here
    · rcases known.present seen earlier with ⟨rooted, slots⟩
      refine ⟨?_, fun slot inside => insertSlots_isSome (.inr (slots slot inside))⟩
      by_cases same : seen.targetAddress = target.targetAddress
      · simp [same]
      · simpa only [Function.update_of_ne same] using rooted
    · cases List.mem_singleton.mp here
      refine ⟨by simp, fun slot inside => insertSlots_isSome (.inl ⟨slot, inside, rfl⟩)⟩

theorem verifyTargets_honest {groups : List (Address × List B256)} {targets done : List TargetStorageProof}
    {maps : TargetMaps} (honest : List.Forall₂ (HonestTarget C stateRoot state) groups targets)
    (known : TargetsKnown C state done maps) :
    ∃ result, targets.foldlM (verifyTarget C stateRoot) maps = .ok result ∧
      TargetsKnown C state (done ++ targets) result := by
  induction honest generalizing done maps with
  | nil =>
    rw [List.append_nil]
    exact ⟨maps, rfl, known⟩
  | @cons group target groups targets first _ ih =>
    have accepted : verifyAccount C stateRoot .target target.targetAddress target.account target.accountMptProof =
        .ok (accountStorageRoot target.account) := by
      apply verifyAccount_ok_iff.mpr
      rw [first.address, first.account]
      exact ⟨first.accountProof, rfl⟩
    have stepped : ∃ next, verifyTarget C stateRoot maps target = .ok next := by
      rw [verifyTarget, accepted, ok_bind]
      exact ⟨_, rfl⟩
    rcases stepped with ⟨next, stepped⟩
    rcases ih (targetsKnown_step first known stepped) with ⟨result, looped, all⟩
    refine ⟨result, ?_, ?_⟩
    · rw [List.foldlM_cons, stepped, ok_bind]
      exact looped
    · rw [List.append_assoc] at all
      exact all

end Targets

section Witness

theorem entryLeaf_honest {entry : QueueEntryProof} {targets : List TargetStorageProof} {maps : TargetMaps}
    (known : TargetsKnown C state targets maps) (rooted : (maps.targetStorageRoots entry.target).isSome)
    (slotted : (maps.targetSlots (entry.target, entry.slotKey)).isSome) :
    ∃ leaf, entryLeaf C maps entry = .ok leaf := by
  rcases Option.isSome_iff_exists.mp rooted with ⟨root, foundRoot⟩
  rcases Option.isSome_iff_exists.mp slotted with ⟨slot, foundSlot⟩
  have verified := (known.slots entry.target entry.slotKey slot foundSlot).2
  rw [← known.roots entry.target root foundRoot] at verified
  rcases hashRequestLeaf_total C entry.target entry.collectionKeysCount (entry.collectionKeys[0])
    (entry.collectionKeys[1]) slot.value with ⟨leaf, hashed⟩
  refine ⟨leaf, ?_⟩
  simp only [entryLeaf, foundRoot, foundSlot, okOr, ok_bind, verified, hashed, fromResult, mapErr]

theorem verifyQueue_honest {queue : QueueStorage} {groups : List (Address × List B256)}
    (account : C.verifyProof stateRoot (addressPath C queue.proofRequestQueueAddress)
      (some (C.encodeTrieAccount queue.proofRequestQueueAccount)) queue.proofRequestQueueAccountMptProof = .ok ())
    (head : verifyStorageWord C queue.proofRequestQueueAccount.storageRoot (storageSlotOfIndex queueHeadStorageIndex)
      (U256.ofU64 queue.head) queue.headMptProof = .ok ())
    (behind : queue.inputCursor.toNat ≤ queue.head.toNat)
    (count : queue.entries.length = min (queue.head.toNat - queue.inputCursor.toNat) maxBatch)
    (entries : ∀ index (inside : index < queue.entries.length),
      verifyEntry C queue.proofRequestQueueAccount.storageRoot queue.inputCursor (queue.entries[index], index) = .ok ())
    (targets : List.Forall₂ (HonestTarget C stateRoot state) groups queue.targets)
    (grouped : ∀ entry ∈ queue.entries, ∃ keys, (entry.target, keys) ∈ groups ∧ entry.slotKey ∈ keys) :
    ∃ output root, verifyQueue C stateRoot queue = .ok (output, root) ∧
      output.toNat = queue.inputCursor.toNat + min (queue.head.toNat - queue.inputCursor.toNat) maxBatch := by
  have none : TargetsKnown C state [] TargetMaps.empty := by
    constructor
    · intro address root found
      cases found
    · intro address key slot found
      cases found
    · intro target member
      cases member
  rcases verifyTargets_honest targets none with ⟨maps, verified, known⟩
  have leaves : ∃ leaves, queue.entries.mapM (entryLeaf C maps) = .ok leaves ∧
      List.Forall₂ (fun _ _ => True) queue.entries leaves := by
    apply mapM_ok_of_forall
    intro entry member
    rcases grouped entry member with ⟨keys, groupMember, keyMember⟩
    rcases forall₂_left targets groupMember with ⟨target, targetMember, honest⟩
    rcases forall₂_left honest.slots keyMember with ⟨slot, slotMember, sameKey, _⟩
    have present := known.present target (List.mem_append_right _ targetMember)
    rw [honest.address] at present
    have slotted := present.2 slot slotMember
    rw [sameKey] at slotted
    rcases entryLeaf_honest known present.1 slotted with ⟨leaf, hashed⟩
    exact ⟨leaf, hashed, trivial⟩
  rcases leaves with ⟨leaves, hashed, paired⟩
  have batch : leaves.length ≤ maxBatch := by
    rw [← paired.length_eq]
    omega
  rcases requestsRoot_total (C := C) batch with ⟨root, rooted⟩
  have fits : queue.inputCursor.toNat + queue.entries.length < 2^64 := by
    have bound := queue.head.toNat_lt
    omega
  have output : (UInt64.ofNat (queue.inputCursor.toNat + queue.entries.length)).toNat =
      queue.inputCursor.toNat + queue.entries.length := UInt64.toNat_ofNat_of_lt' fits
  refine ⟨_, root, verifyQueue_ok_iff.mpr ⟨account, head, behind, count, entries,
    ⟨maps, leaves, verified, hashed, rooted⟩, output⟩, ?_⟩
  rw [output, count]

theorem queueKeys_asked {queueAddress : Address} {cursor : UInt64} {head count : Nat}
    (inside : cursor.toNat + count ≤ head) :
    ∀ key ∈ storageSlotOfIndex queueHeadStorageIndex :: (entryRows C cursor count).flatten,
      QueueWord C state queueAddress head queueAddress key := by
  intro key member
  rcases List.mem_cons.mp member with rfl | entryKey
  · exact .inl ⟨rfl, rfl⟩
  · rcases entryRows_mem.mp entryKey with ⟨offset, below, inEntry⟩
    exact .inr (.inl ⟨rfl, cursor.toNat + offset, by omega, inEntry⟩)

section Assembled

variable {queueAddress : Address} {account : TrieAccount} {cursor : UInt64} {count : Nat}
  {entries : List QueueEntryProof}
  (honestEntries : List.Forall₂ (HonestEntry C state queueAddress account.storageRoot cursor) (List.range count)
    entries)

include honestEntries

theorem targetKeys_asked {head : Nat} (inside : cursor.toNat + count ≤ head) :
    ∀ group ∈ slotsByTarget entries, group.2 ≠ [] ∧
      ∀ key ∈ group.2, QueueWord C state queueAddress head group.1 key := by
  apply slotsByTarget_all (QueueWord C state queueAddress head) entries
  intro entry member
  rcases forall₂_right honestEntries member with ⟨offset, offsetMember, honestEntry⟩
  have below := List.mem_range.mp offsetMember
  exact .inr (.inr ⟨cursor.toNat + offset, by omega, honestEntry.target, honestEntry.slotKey⟩)

theorem assembled_verified {offset : Nat} (below : offset < entries.length) :
    verifyEntry C account.storageRoot cursor (entries[offset], offset) = .ok () := by
  have inside : offset < (List.range count).length := by
    rw [honestEntries.length_eq]
    exact below
  have verified := (honestEntries.get inside below).verified
  simpa using verified

end Assembled

theorem assembleQueueStorage_honest {trie : TrieContents} (sound : VerifyProofSound C trie)
    {attempt : ExecutionAttempt} {queueAddress : Address} {account : TrieAccount} {head cursor : UInt64}
    (chunkLimit : Nat) (queue : state.account queueAddress = some account)
    (headWord : state.storage queueAddress (storageSlotOfIndex queueHeadStorageIndex) = U256.ofU64 head)
    (typed : ∀ index < head.toNat, (state.storage queueAddress (requestSlot C index 0)).toNat < 2^160 ∧
      (state.storage queueAddress (requestSlot C index 2)).toNat < 2^8)
    (behind : cursor ≤ head)
    (honest : HonestProvider C stateRoot state block (QueueWord C state queueAddress head.toNat) attempt.provider) :
    Returns (assembleQueueStorage C attempt queueAddress cursor block stateRoot chunkLimit) fun queueStorage =>
      ∃ output root, verifyQueue C stateRoot queueStorage = .ok (output, root) ∧
        output.toNat = cursor.toNat + min (head.toNat - cursor.toNat) maxBatch := by
  have order : cursor.toNat ≤ head.toNat := UInt64.le_iff_toNat_le.mp behind
  have bound := head.toNat_lt
  unfold assembleQueueStorage
  refine Returns.bind (getQueueHead_honest honest headWord (.inl ⟨rfl, rfl⟩)) ?_
  intro queueHead sameHead
  subst sameHead
  have notAhead : ensure (¬ cursor > queueHead) (HostError.cursorAheadOfHead cursor queueHead) = .ok () :=
    ensure_ok_iff.mpr (UInt64.not_lt.mpr behind)
  refine returns_bind_lift notAhead ?_
  have rest : (queueHead - cursor).toNat = queueHead.toNat - cursor.toNat := UInt64.toNat_sub_of_le _ _ behind
  have remaining : subU64 (ε := HostError) queueHead cursor = .ok (queueHead - cursor) :=
    subU64_ok_iff.mpr ⟨order, rest⟩
  refine returns_bind_lift remaining ?_
  have size : (min (queueHead - cursor) (UInt64.ofNat maxBatch)).toNat =
      min (queueHead.toNat - cursor.toNat) maxBatch := by rw [batch_toNat, rest]
  simp only [size]
  generalize counted : min (queueHead.toNat - cursor.toNat) maxBatch = count
  have small : count ≤ maxBatch := by omega
  have inside : cursor.toNat + count ≤ queueHead.toNat := by omega
  refine returns_bind_lift (entryRows_ok (by omega)) ?_
  refine Returns.bind (getProof_honest honest (List.cons_ne_nil _ _) (queueKeys_asked inside) chunkLimit) ?_
  intro queueProof truthful
  rcases assembleEntries_honest [storageSlotOfIndex queueHeadStorageIndex] truthful queue (by omega)
    (fun index below => typed index (by omega)) with ⟨entries, assembled, honestEntries⟩
  refine returns_bind_lift assembled ?_
  have targetsAsked : ∀ group ∈ attempt.order.iterate (slotsByTarget entries), group.2 ≠ [] ∧
      ∀ key ∈ group.2, QueueWord C state queueAddress queueHead.toNat group.1 key := by
    intro group member
    have grouped := (attempt.order.perm (slotsByTarget entries)).mem_iff.mp member
    exact targetKeys_asked honestEntries inside group grouped
  refine Returns.bind (returns_mapM _ fun group member =>
    targetProof_honest sound honest (targetsAsked group member).1 (targetsAsked group member).2 chunkLimit) ?_
  intro targets honestTargets
  rcases honestResponse_words truthful (List.mem_cons_self ..) with ⟨headProof, foundHead, verifiedHead⟩
  rw [queue, accountStorageRoot, headWord] at verifiedHead
  have headFound : wordAt queueProof.words .queueProofMissing (storageSlotOfIndex queueHeadStorageIndex) =
      .ok (state.storage queueAddress (storageSlotOfIndex queueHeadStorageIndex), headProof) := by
    rw [wordAt, foundHead, okOr]
  refine returns_bind_lift headFound ?_
  apply returns_pure
  have fields := truthful.fields account queue
  have length : entries.length = count := by
    rw [← honestEntries.length_eq, List.length_range]
  rw [← counted]
  refine verifyQueue_honest ?_ ?_ order ?_ ?_ honestTargets ?_
  · have accepted := truthful.accountProof
    rw [queue, Option.map_some, ← fields, ← truthful.echoed] at accepted
    exact accepted
  · show verifyStorageWord C queueProof.account.storageRoot _ (U256.ofU64 queueHead) headProof = .ok ()
    rw [fields]
    exact verifiedHead
  · rw [length]
    exact counted.symm
  · intro offset below
    show verifyEntry C queueProof.account.storageRoot cursor _ = .ok ()
    rw [fields]
    exact assembled_verified honestEntries below
  · intro entry member
    rcases slotsByTarget_mem entries member with ⟨keys, grouped, inside⟩
    exact ⟨keys, (attempt.order.perm (slotsByTarget entries)).mem_iff.mpr grouped, inside⟩

end Witness

/-- No entry that the contract's types allow can stall the queue: an honest provider's answers are assembled
    into a witness that the guest accepts, whatever the entries ask for, and the dry run then passes. -/
theorem honest_queue_accepted (C : Crypto) (trie : TrieContents) (sound : VerifyProofSound C trie) (stateRoot : B256)
    (state : ExecutionState) (attempt : ExecutionAttempt) (queueAddress : Address) (account : TrieAccount)
    (head cursor block : UInt64) (chunkLimit : Nat) (queue : state.account queueAddress = some account)
    (headWord : state.storage queueAddress (storageSlotOfIndex queueHeadStorageIndex) = U256.ofU64 head)
    (typed : ∀ index < head.toNat, (state.storage queueAddress (requestSlot C index 0)).toNat < 2^160 ∧
      (state.storage queueAddress (requestSlot C index 2)).toNat < 2^8)
    (behind : cursor ≤ head)
    (honest : HonestProvider C stateRoot state block (QueueWord C state queueAddress head.toNat) attempt.provider) :
    ∃ queueStorage output root,
      (assembleQueueStorage C attempt queueAddress cursor block stateRoot chunkLimit).outcome = .ok queueStorage ∧
      verifyQueue C stateRoot queueStorage = .ok (output, root) ∧
      output.toNat = cursor.toNat + min (head.toNat - cursor.toNat) maxBatch ∧
      ∀ (S : ConsensusSpec) (inputs : ConsensusProofInputs S) (outputs : ConsensusProofOutputs),
        consensusProgram C inputs = .ok outputs → outputs.executionStateRoot = stateRoot → outputs.outputSlot % 32 = 0 →
        (_prepareConsensusMptProofInputs C attempt queueAddress cursor block inputs stateRoot chunkLimit).outcome =
          .ok (inputs.withQueue queueStorage) := by
  have returns := assembleQueueStorage_honest sound chunkLimit queue headWord typed behind honest
  rcases returns 0 with ⟨queueStorage, calls, assembled, output, root, accepted, advanced⟩
  refine ⟨queueStorage, output, root, ?_, accepted, advanced, ?_⟩
  · rw [Session.outcome, assembled]
    rfl
  · intro S inputs outputs programmed sameRoot checkpoint
    rw [← sameRoot] at accepted
    have dryRun : consensusMptProgram C (inputs.withQueue queueStorage) =
        .ok (outputs.withQueue queueStorage output root) :=
      (consensusMptProgram_ok_iff _ _).mpr ⟨outputs, output, root, programmed, accepted, checkpoint, rfl⟩
    rw [Session.outcome, _prepareConsensusMptProofInputs, bind_apply, assembled, ok_bind, bind_apply, Session.lift,
      dryRun]
    rfl

end NoriProof

namespace NoriModel.Sample

open ExecutionHttpProxy

structure World where
  queue : TrieAccount
  branch : Bytes
  words : List ((Address × B256) × (U256 × List Bytes))

namespace World

def account (world : World) (address : Address) : Option TrieAccount :=
  if address = queueAddress then some world.queue else if address = target then some targetAccount else none

def accountProof (world : World) (address : Address) : List Bytes :=
  if address = queueAddress then [world.branch, leafNode 1 queueDigest (rlpTrieAccount world.queue)]
  else if address = target then targetProof world.branch
  else [world.branch]

def word (world : World) (address : Address) (key : B256) : U256 × List Bytes :=
  (world.words.lookup (address, key)).getD (0, [])

def state (world : World) : ExecutionState where
  account := world.account
  storage := fun address key => if (world.account address).isSome then (world.word address key).1 else 0
  absent := by
    intro address key none
    rw [none]
    rfl

/-- The provider answers an absent account with the fields of another one. -/
def provider (world : World) : ExecutionProvider where
  getStorageAt := fun _ address key _ => .ok (world.state.storage address key)
  getProof := fun _ address keys _ =>
    let account := (world.account address).getD targetAccount
    .ok {
      address := address
      balance := account.balance
      codeHash := account.codeHash
      nonce := account.nonce
      storageHash := account.storageRoot
      accountProof := world.accountProof address
      storageProof := keys.map fun key => ⟨key, world.state.storage address key, (world.word address key).2⟩ }

def attempt (world : World) : ExecutionAttempt where
  provider := world.provider
  order := ⟨List.reverse, fun groups => groups.reverse_perm⟩

end World

def world1 : World where
  queue := queueAccount queueRoot1
  branch := stateBranch1
  words := ((queueAddress, word 0), (1, headProof queueBranch1 1)) :: entry0World queueBranch1

def world2 : World where
  queue := queueAccount queueRoot2
  branch := stateBranch2
  words := ((queueAddress, word 0), (2, headProof queueBranch2 2)) :: entry0World queueBranch2 ++ entry1World

end NoriModel.Sample

namespace NoriProof

open NoriModel NoriModel.Sample

theorem queueWord_places {address : Address} {key : B256}
    (named : QueueWord known.crypto world2.state queueAddress 2 address key) :
    (address, key) ∈ world2.words.map Prod.fst := by
  have entries : ∀ index < 2, ∀ key ∈ entrySlots known.crypto index,
      (queueAddress, key) ∈ world2.words.map Prod.fst := by decide +kernel
  have targets : ∀ index < 2, (ExecutionHttpProxy.addressOfWord (world2.state.storage queueAddress
      (requestSlot known.crypto index 0)), (world2.state.storage queueAddress
      (requestSlot known.crypto index 1)).toBeBytes) ∈ world2.words.map Prod.fst := by decide +kernel
  rcases named with ⟨rfl, rfl⟩ | ⟨rfl, index, below, member⟩ | ⟨index, below, rfl, rfl⟩
  · decide +kernel
  · exact entries index below key member
  · exact targets index below

theorem world2_honest : HonestProvider known.crypto (Sample.word stateRoot2) world2.state 164
    (QueueWord known.crypto world2.state queueAddress 2) world2.provider := by
  have accounts : ∀ place ∈ world2.words.map Prod.fst, known.crypto.verifyProof (Sample.word stateRoot2)
      (addressPath known.crypto place.1) ((world2.account place.1).map known.crypto.encodeTrieAccount)
      (world2.accountProof place.1) = .ok () := by decide +kernel
  have words : ∀ place ∈ world2.words.map Prod.fst, verifyStorageWord known.crypto
      (accountStorageRoot (world2.account place.1)) place.2 (world2.state.storage place.1 place.2)
      (world2.word place.1 place.2).2 = .ok () := by decide +kernel
  constructor
  · intro n address key _
    rfl
  · intro n address keys nonempty named
    refine ⟨_, rfl, rfl, ?_, ?_, ?_, ?_⟩
    · intro account present
      have present : world2.account address = some account := present
      rw [present]
      rfl
    · rcases List.exists_mem_of_ne_nil keys nonempty with ⟨key, member⟩
      exact accounts (address, key) (queueWord_places (named key member))
    · intro slot member
      rcases List.mem_map.mp member with ⟨key, requested, rfl⟩
      exact ⟨rfl, words (address, key) (queueWord_places (named key requested))⟩
    · intro key requested
      exact ⟨_, List.mem_map_of_mem requested, rfl⟩

theorem honest_queue_accepted_sample : ∃ queueStorage output root,
    (ExecutionHttpProxy.assembleQueueStorage known.crypto world2.attempt queueAddress 1 164 (Sample.word stateRoot2)
      0).outcome = .ok queueStorage ∧
    verifyQueue known.crypto (Sample.word stateRoot2) queueStorage = .ok (output, root) ∧ output.toNat = 2 := by
  have typed : ∀ index < 2, (world2.state.storage queueAddress (requestSlot known.crypto index 0)).toNat < 2^160 ∧
      (world2.state.storage queueAddress (requestSlot known.crypto index 2)).toNat < 2^8 := by decide +kernel
  rcases honest_queue_accepted known.crypto known.trie (knownTries_sound known) (Sample.word stateRoot2) world2.state
    world2.attempt queueAddress (queueAccount queueRoot2) 2 1 164 0 rfl (by decide +kernel) typed (by decide)
    world2_honest with ⟨queueStorage, output, root, assembled, accepted, advanced, _⟩
  exact ⟨queueStorage, output, root, assembled, accepted, advanced⟩

end NoriProof
