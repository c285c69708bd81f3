import NoriBridgeHead.Hash.FoldMerkleLeft
import NoriBridgeHead.Program.Mpt

open Foundation Foundation.Outcome

namespace NoriModel

abbrev TrieContents := B256 → List UInt8 → Option (List UInt8)

structure VerifyProofSound (C : Crypto) (trie : TrieContents) : Prop where
  accepted : ∀ root path expected proof, C.verifyProof root path expected proof = .ok () →
    trie root path = expected
  empty : ∀ path, trie emptyRootHash path = none

structure RlpInjective (C : Crypto) : Prop where
  words : Function.Injective C.encodeU256
  accounts : Function.Injective C.encodeTrieAccount

def AccountAt (C : Crypto) (trie : TrieContents) (stateRoot : B256) (address : Address)
    (account : Option TrieAccount) : Prop :=
  trie stateRoot (addressPath C address) = account.map C.encodeTrieAccount

def WordAt (C : Crypto) (trie : TrieContents) (storageRoot key : B256) (word : U256) : Prop :=
  trie storageRoot (keyPath C key) = expectedWord C word

instance (C : Crypto) (trie : TrieContents) (stateRoot : B256) (address : Address) (account : Option TrieAccount) :
    Decidable (AccountAt C trie stateRoot address account) := inferInstanceAs (Decidable (_ = _))

instance (C : Crypto) (trie : TrieContents) (storageRoot key : B256) (word : U256) :
    Decidable (WordAt C trie storageRoot key word) := inferInstanceAs (Decidable (_ = _))

/-- The word an address holds at a key; every word of an absent account is zero. -/
def ValueAt (C : Crypto) (trie : TrieContents) (stateRoot : B256) (address : Address) (key : B256)
    (word : U256) : Prop :=
  (∃ account, AccountAt C trie stateRoot address (some account) ∧
    WordAt C trie account.storageRoot key word) ∨
  (AccountAt C trie stateRoot address none ∧ word = 0)

def requestSlot (C : Crypto) (index : Nat) (word : UInt8) : B256 :=
  structWordSlot (mappingEntryLocation C (BitVec.ofNat 256 index) queueRequestsStorageIndex) word

structure QueueEntry where
  target : Address
  slotKey : B256
  collectionKeysCount : UInt8
  collectionKeys : Vector B256 maxCollectionKeys
deriving DecidableEq

structure EntryAt (C : Crypto) (trie : TrieContents) (storageRoot : B256) (index : Nat) (entry : QueueEntry) :
    Prop where
  target : WordAt C trie storageRoot (requestSlot C index 0) (wordOfAddress entry.target)
  slotKey : WordAt C trie storageRoot (requestSlot C index 1) (wordOfB256 entry.slotKey)
  count : WordAt C trie storageRoot (requestSlot C index 2) (U256.ofU8 entry.collectionKeysCount)
  key0 : WordAt C trie storageRoot (requestSlot C index 3) (wordOfB256 (entry.collectionKeys[0]))
  key1 : WordAt C trie storageRoot (requestSlot C index 4) (wordOfB256 (entry.collectionKeys[1]))

structure Request where
  entry : QueueEntry
  value : U256
deriving DecidableEq

def Request.leaf (C : Crypto) (request : Request) : Except String Fp :=
  hashRequestLeaf C request.entry.target request.entry.collectionKeysCount
    (getElem request.entry.collectionKeys 0 zero_lt_maxCollectionKeys)
    (getElem request.entry.collectionKeys 1 one_lt_maxCollectionKeys) request.value

structure RequestAt (C : Crypto) (trie : TrieContents) (stateRoot storageRoot : B256) (index : Nat)
    (request : Request) : Prop where
  entry : EntryAt C trie storageRoot index request.entry
  value : ValueAt C trie stateRoot request.entry.target request.entry.slotKey request.value

/-- The batch that the queue state and the cursor determine, and its two outputs. -/
structure Drained (C : Crypto) (trie : TrieContents) (stateRoot : B256) (address : Address) (cursor : Nat)
    (account : TrieAccount) (head : U256) (requests : List Request) (outputCursor : Nat) (root : B256) :
    Prop where
  queue : AccountAt C trie stateRoot address (some account)
  headWord : WordAt C trie account.storageRoot (storageSlotOfIndex queueHeadStorageIndex) head
  behind : cursor ≤ head.toNat
  output : outputCursor = cursor + min (head.toNat - cursor) maxBatch
  count : requests.length = outputCursor - cursor
  stored : ∀ offset (inside : offset < requests.length),
    RequestAt C trie stateRoot account.storageRoot (cursor + offset) (requests[offset])
  committed : ∃ leaves, List.Forall₂ (fun request leaf => request.leaf C = .ok leaf) requests leaves ∧
    root = (merkleRoot C leaves).toBytes

end NoriModel

namespace NoriProof

open NoriModel

section Unique

variable {C : Crypto} {trie : TrieContents} {root : B256} (rlp : RlpInjective C)
include rlp

theorem expectedWord_injective {left right : U256} (same : expectedWord C left = expectedWord C right) :
    left = right := by
  unfold expectedWord at same
  by_cases zeroLeft : left = 0
  · by_cases zeroRight : right = 0
    · rw [zeroLeft, zeroRight]
    · rw [if_pos zeroLeft, if_neg zeroRight] at same
      cases same
  · by_cases zeroRight : right = 0
    · rw [if_neg zeroLeft, if_pos zeroRight] at same
      cases same
    · rw [if_neg zeroLeft, if_neg zeroRight] at same
      exact rlp.words (Option.some.inj same)

theorem WordAt.unique {key : B256} {left right : U256} (first : WordAt C trie root key left)
    (second : WordAt C trie root key right) : left = right :=
  expectedWord_injective rlp (first.symm.trans second)

theorem AccountAt.unique {address : Address} {left right : Option TrieAccount}
    (first : AccountAt C trie root address left) (second : AccountAt C trie root address right) :
    left = right :=
  Option.map_injective rlp.accounts (first.symm.trans second)

theorem ValueAt.unique {address : Address} {key : B256} {left right : U256}
    (first : ValueAt C trie root address key left) (second : ValueAt C trie root address key right) :
    left = right := by
  rcases first with ⟨account, present, word⟩ | ⟨absent, zero⟩
  · rcases second with ⟨other, present', word'⟩ | ⟨absent, _⟩
    · have same := AccountAt.unique rlp present present'
      cases same
      exact WordAt.unique rlp word word'
    · cases AccountAt.unique rlp present absent
  · rcases second with ⟨other, present', _⟩ | ⟨_, zero'⟩
    · cases AccountAt.unique rlp absent present'
    · rw [zero, zero']

theorem EntryAt.unique {index : Nat} {left right : QueueEntry} (first : EntryAt C trie root index left)
    (second : EntryAt C trie root index right) : left = right := by
  obtain ⟨target, slotKey, count, keys⟩ := left
  obtain ⟨target', slotKey', count', keys'⟩ := right
  obtain rfl : target = target' := wordOfAddress_injective (WordAt.unique rlp first.target second.target)
  obtain rfl : slotKey = slotKey' := wordOfB256_injective (WordAt.unique rlp first.slotKey second.slotKey)
  obtain rfl : count = count' := ofU8_injective (WordAt.unique rlp first.count second.count)
  have key0 : keys[0] = keys'[0] := wordOfB256_injective (WordAt.unique rlp first.key0 second.key0)
  have key1 : keys[1] = keys'[1] := wordOfB256_injective (WordAt.unique rlp first.key1 second.key1)
  have same : keys = keys' := by
    ext index bound
    have cases : index = 0 ∨ index = 1 := by
      change index < 2 at bound
      omega
    rcases cases with rfl | rfl
    · rw [key0]
    · rw [key1]
  rw [same]

theorem RequestAt.unique {storageRoot : B256} {index : Nat} {left right : Request}
    (first : RequestAt C trie root storageRoot index left)
    (second : RequestAt C trie root storageRoot index right) : left = right := by
  obtain ⟨entry, value⟩ := left
  obtain ⟨entry', value'⟩ := right
  obtain rfl : entry = entry' := EntryAt.unique rlp first.entry second.entry
  have same : value = value' := ValueAt.unique rlp first.value second.value
  rw [same]

theorem Drained.unique {address : Address} {cursor output output' : Nat} {account account' : TrieAccount}
    {head head' : U256} {requests requests' : List Request} {committed committed' : B256}
    (first : Drained C trie root address cursor account head requests output committed)
    (second : Drained C trie root address cursor account' head' requests' output' committed') :
    requests = requests' ∧ output = output' ∧ committed = committed' := by
  have accounts := AccountAt.unique rlp first.queue second.queue
  cases accounts
  obtain rfl : head = head' := WordAt.unique rlp first.headWord second.headWord
  have outputs : output = output' := first.output.trans second.output.symm
  have lengths : requests.length = requests'.length := by
    rw [first.count, second.count, outputs]
  have same : requests = requests' := by
    apply List.ext_getElem lengths
    intro offset inside inside'
    exact RequestAt.unique rlp (first.stored offset inside) (second.stored offset inside')
  obtain ⟨leaves, hashed, rooted⟩ := first.committed
  obtain ⟨leaves', hashed', rooted'⟩ := second.committed
  subst same
  have leavesSame : leaves = leaves' := by
    apply List.right_unique_forall₂' _ hashed hashed'
    intro request leaf leaf' found found'
    exact Except.ok.inj (found.symm.trans found')
  rw [leavesSame] at rooted
  exact ⟨rfl, outputs, rooted.trans rooted'.symm⟩

end Unique

end NoriProof
