import NoriBridgeHead.Foundation.Bytes
import NoriBridgeHead.Foundation.Outcome

open Foundation

namespace NoriModel

abbrev B256 := FixedBytes 32
abbrev Address := FixedBytes 20
abbrev U256 := BitVec 256
abbrev Bytes := List UInt8

def U256.ofU8 (value : UInt8) : U256 := BitVec.ofNat 256 value.toNat
def U256.ofU64 (value : UInt64) : U256 := BitVec.ofNat 256 value.toNat
def U256.toBeBytes (word : U256) : B256 := FixedBytes.ofNat 32 word.toNat
def U256.fromBeBytes {width : Nat} (bytes : FixedBytes width) : U256 := BitVec.ofNat 256 bytes.toNat

structure TrieAccount where
  nonce : UInt64
  balance : U256
  storageRoot : B256
  codeHash : B256
deriving DecidableEq

def queueEntryWords : Nat := 5
def maxCollectionKeys : Nat := 2

theorem zero_lt_maxCollectionKeys : 0 < maxCollectionKeys := by decide

theorem one_lt_maxCollectionKeys : 1 < maxCollectionKeys := by decide

structure QueueEntryProof where
  target : Address
  slotKey : B256
  collectionKeysCount : UInt8
  collectionKeys : Vector B256 maxCollectionKeys
  wordProofs : Vector (List Bytes) queueEntryWords
deriving DecidableEq

structure TargetSlotProof where
  key : B256
  value : U256
  mptProof : List Bytes
deriving DecidableEq

/-- `account` is `none` when the witness claims that the account does not exist. -/
structure TargetStorageProof where
  targetAddress : Address
  account : Option TrieAccount
  accountMptProof : List Bytes
  slots : List TargetSlotProof
deriving DecidableEq

structure QueueStorage where
  proofRequestQueueAddress : Address
  proofRequestQueueAccount : TrieAccount
  proofRequestQueueAccountMptProof : List Bytes
  head : UInt64
  headMptProof : List Bytes
  inputCursor : UInt64
  entries : List QueueEntryProof
  targets : List TargetStorageProof
deriving DecidableEq

structure VerifiedRequest where
  target : Address
  collectionKeysCount : UInt8
  collectionKeys : Vector B256 maxCollectionKeys
  value : U256
deriving DecidableEq

structure ProofOutputs where
  inputSlot : UInt64
  inputStoreHash : B256
  outputSlot : UInt64
  outputStoreHash : B256
  executionStateRoot : B256
  verifiedRequestsRoot : B256
  nextSyncCommitteeHash : B256
  proofRequestQueueAddress : Address
  inputQueueCursor : UInt64
  outputQueueCursor : UInt64
  outputBlockNumber : UInt64
deriving DecidableEq

structure ConsensusProofOutputs where
  inputSlot : UInt64
  inputStoreHash : B256
  outputSlot : UInt64
  outputStoreHash : B256
  executionStateRoot : B256
  nextSyncCommitteeHash : B256
  outputBlockNumber : UInt64
deriving DecidableEq

def pallasModulus : Nat := 0x40000000000000000000000000000000224698fc094cf91b992d30ed00000001

abbrev Fp := Fin pallasModulus

instance : NeZero pallasModulus := ⟨by decide⟩

def Fp.fromBytes (bytes : List UInt8) : Except String Fp :=
  if inRange : bytes.length = 32 ∧ leNat bytes < pallasModulus then .ok ⟨leNat bytes, inRange.2⟩
  else .error "failed to deserialize field bytes"

def Fp.toBytes (element : Fp) : B256 := ⟨natLe 32 element.val, natLe_length 32 element.val⟩

/-- The functions of other packages that the guest program and the host call. -/
structure Crypto where
  keccak256 : List UInt8 → B256
  sha256 : List UInt8 → B256
  poseidonHash : List Fp → Fp
  encodeU256 : U256 → List UInt8
  encodeTrieAccount : TrieAccount → List UInt8
  verifyProof : B256 → List UInt8 → Option (List UInt8) → List Bytes → Except String Unit

def emptyRootHash : B256 :=
  FixedBytes.ofNat 32 0x56e81f171bcc55a6ff8345e692c0f86e5b48e01b996cadc001622fb5e363b421

def unpack (hash : B256) : List UInt8 := hash.bytes.flatMap fun byte => [byte / 16, byte % 16]

end NoriModel
