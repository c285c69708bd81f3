import NoriBridgeHead.Hash.MerklePoseidon
import NoriBridgeHead.Primitives.StorageLayout
import Mathlib.Logic.Function.Basic

open Foundation Foundation.Outcome

namespace NoriModel

inductive ProvenAccount where
  | proofRequestQueue
  | target
deriving DecidableEq

inductive MptError where
  | invalidProofRequestQueueAccountProof (address : Address) (reason : String)
  | invalidTargetAccountProof (address : Address) (reason : String)
  | invalidStorageSlotProof (slotKey : B256) (reason : String)
  | leafHashError (target : Address) (slotKey : B256) (value : U256) (reason : String)
  | exceedsMaxTreeDepth (slots requestedDepth maxDepth : Nat)
  | cursorAheadOfHead (cursor head : UInt64)
  | batchSizeMismatch (expected : UInt64) (supplied : Nat)
  | missingTargetWitness (target : Address)
  | missingSlotWitness (target : Address) (slotKey : B256)
deriving DecidableEq

def keyPath (C : Crypto) (key : B256) : List UInt8 := unpack (C.keccak256 key.bytes)
def addressPath (C : Crypto) (address : Address) : List UInt8 := unpack (C.keccak256 address.bytes)

/-- A zero word is absent from a storage trie, so its claim is an exclusion proof. -/
def expectedWord (C : Crypto) (value : U256) : Option (List UInt8) :=
  if value = 0 then none else some (C.encodeU256 value)

def verifyStorageWord (C : Crypto) (storageRoot key : B256) (value : U256) (proof : List Bytes) :
    Outcome MptError Unit :=
  mapErr (.invalidStorageSlotProof key)
    (fromResult (C.verifyProof storageRoot (keyPath C key) (expectedWord C value) proof))

def accountStorageRoot (account : Option TrieAccount) : B256 :=
  match account with
  | some account => account.storageRoot
  | none => emptyRootHash

def accountError (provenAccount : ProvenAccount) (address : Address) (reason : String) : MptError :=
  match provenAccount with
  | .proofRequestQueue => .invalidProofRequestQueueAccountProof address reason
  | .target => .invalidTargetAccountProof address reason

def verifyAccount (C : Crypto) (executionStateRoot : B256) (provenAccount : ProvenAccount) (address : Address)
    (account : Option TrieAccount) (proof : List Bytes) : Outcome MptError B256 := do
  mapErr (accountError provenAccount address)
    (fromResult (C.verifyProof executionStateRoot (addressPath C address)
      (account.map C.encodeTrieAccount) proof))
  pure (accountStorageRoot account)

def entryWords (base : B256) (entry : QueueEntryProof) : List (B256 × U256) :=
  [(base, wordOfAddress entry.target),
   (structWordSlot base 1, wordOfB256 entry.slotKey),
   (structWordSlot base 2, U256.ofU8 entry.collectionKeysCount),
   (structWordSlot base 3, wordOfB256 (entry.collectionKeys[0])),
   (structWordSlot base 4, wordOfB256 (entry.collectionKeys[1]))]

def verifyEntry (C : Crypto) (queueStorageRoot : B256) (inputCursor : UInt64)
    (enumerated : QueueEntryProof × Nat) : Outcome MptError Unit := do
  let (entry, offset) := enumerated
  let index ← addU64 inputCursor (UInt64.ofNat offset)
  let base := mappingEntryLocation C (U256.ofU64 index) queueRequestsStorageIndex
  forM ((entryWords base entry).zip entry.wordProofs.toList) fun ((slot, value), proof) =>
    verifyStorageWord C queueStorageRoot slot value proof

/-- The two maps that the target loop fills; a later insertion replaces an earlier one. -/
structure TargetMaps where
  targetStorageRoots : Address → Option B256
  targetSlots : Address × B256 → Option TargetSlotProof

def TargetMaps.empty : TargetMaps := ⟨fun _ => none, fun _ => none⟩

def insertSlots (address : Address) (slots : List TargetSlotProof)
    (targetSlots : Address × B256 → Option TargetSlotProof) : Address × B256 → Option TargetSlotProof :=
  slots.foldl (fun map slot => Function.update map (address, slot.key) (some slot)) targetSlots

def verifyTarget (C : Crypto) (executionStateRoot : B256) (maps : TargetMaps) (target : TargetStorageProof) :
    Outcome MptError TargetMaps := do
  let storageRoot ←
    verifyAccount C executionStateRoot .target target.targetAddress target.account target.accountMptProof
  pure ⟨Function.update maps.targetStorageRoots target.targetAddress (some storageRoot),
    insertSlots target.targetAddress target.slots maps.targetSlots⟩

def entryLeaf (C : Crypto) (maps : TargetMaps) (entry : QueueEntryProof) : Outcome MptError Fp := do
  let storageRoot ← okOr (.missingTargetWitness entry.target) (maps.targetStorageRoots entry.target)
  let slot ← okOr (.missingSlotWitness entry.target entry.slotKey) (maps.targetSlots (entry.target, entry.slotKey))
  verifyStorageWord C storageRoot entry.slotKey slot.value slot.mptProof
  mapErr (.leafHashError entry.target entry.slotKey slot.value)
    (fromResult (hashRequestLeaf C entry.target entry.collectionKeysCount (entry.collectionKeys[0])
      (entry.collectionKeys[1]) slot.value))

def requestsRoot (C : Crypto) (merkleNodes : List Fp) : Outcome MptError B256 := do
  let (depth, paddedSize) := computeMerkleTreeDepthAndSize merkleNodes.length
  ensure (¬ depth > maxTreeDepth) (.exceedsMaxTreeDepth merkleNodes.length depth maxTreeDepth)
  let root ← foldMerkleLeft C merkleNodes paddedSize depth (← getMerkleZeros)
  pure root.toBytes

def verifyQueue (C : Crypto) (executionStateRoot : B256) (queueStorage : QueueStorage) :
    Outcome MptError (UInt64 × B256) := do
  let queueStorageRoot ← verifyAccount C executionStateRoot .proofRequestQueue
    queueStorage.proofRequestQueueAddress (some queueStorage.proofRequestQueueAccount)
    queueStorage.proofRequestQueueAccountMptProof
  verifyStorageWord C queueStorageRoot (storageSlotOfIndex queueHeadStorageIndex)
    (U256.ofU64 queueStorage.head) queueStorage.headMptProof
  ensure (¬ queueStorage.inputCursor > queueStorage.head)
    (.cursorAheadOfHead queueStorage.inputCursor queueStorage.head)
  let remaining ← subU64 queueStorage.head queueStorage.inputCursor
  let batch := min remaining (UInt64.ofNat maxBatch)
  -- the entry count widens to 64 bits without loss
  ensure (queueStorage.entries.length = batch.toNat) (.batchSizeMismatch batch queueStorage.entries.length)
  forM queueStorage.entries.zipIdx (verifyEntry C queueStorageRoot queueStorage.inputCursor)
  let maps ← queueStorage.targets.foldlM (verifyTarget C executionStateRoot) TargetMaps.empty
  let merkleNodes ← queueStorage.entries.mapM (entryLeaf C maps)
  let root ← requestsRoot C merkleNodes
  let outputCursor ← addU64 queueStorage.inputCursor batch
  pure (outputCursor, root)

end NoriModel
