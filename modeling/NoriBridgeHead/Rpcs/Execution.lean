import NoriBridgeHead.Foundation.Collect
import NoriBridgeHead.Rpcs.Fallback

open Foundation Foundation.Outcome

namespace NoriModel

structure EIP1186StorageProof where
  key : B256
  value : U256
  proof : List Bytes

structure EIP1186AccountProofResponse where
  address : Address
  balance : U256
  codeHash : B256
  nonce : UInt64
  storageHash : B256
  accountProof : List Bytes
  storageProof : List EIP1186StorageProof

/-- An execution provider: what it answers to its n-th call, at a block. -/
structure ExecutionProvider where
  getStorageAt : Nat → Address → B256 → UInt64 → Except String U256
  getProof : Nat → Address → List B256 → UInt64 → Except String EIP1186AccountProofResponse

/-- The order in which a hash map of target slots is iterated. -/
structure IterationOrder where
  iterate : List (Address × List B256) → List (Address × List B256)
  perm : ∀ groups, (iterate groups).Perm groups

structure ExecutionAttempt where
  provider : ExecutionProvider
  order : IterationOrder

def EIP1186AccountProofResponse.account (proof : EIP1186AccountProofResponse) : TrieAccount where
  nonce := proof.nonce
  balance := proof.balance
  storageRoot := proof.storageHash
  codeHash := proof.codeHash

def EIP1186AccountProofResponse.words (response : EIP1186AccountProofResponse) :
    B256 → Option (U256 × List Bytes) :=
  collect (response.storageProof.map fun slot => (slot.key, (slot.value, slot.proof)))

def ConsensusProofInputs.withQueue {S : ConsensusSpec} (inputs : ConsensusProofInputs S)
    (queueStorage : QueueStorage) : ProofInputs S where
  updates := inputs.updates
  finalityUpdate := inputs.finalityUpdate
  expectedCurrentSlot := inputs.expectedCurrentSlot
  store := inputs.store
  genesisRoot := inputs.genesisRoot
  forks := inputs.forks
  storeHash := inputs.storeHash
  queueStorage := queueStorage

namespace ExecutionHttpProxy

def maxRetries : Nat := 3

/-- One chunk, asked for again after each of the first failures. -/
def requestChunk (provider : ExecutionProvider) (address : Address) (chunk : List B256) (block : UInt64) :
    Nat → Session HostError EIP1186AccountProofResponse
  | 0 => do
    match ← Session.call fun n => provider.getProof n address chunk block with
    | .ok proof => pure proof
    | .error e => Session.lift (fail (.executionRpc e))
  | retries + 1 => do
    match ← Session.call fun n => provider.getProof n address chunk block with
    | .ok proof => pure proof
    | .error _ => requestChunk provider address chunk block retries

def mergeChunk (merged : Option EIP1186AccountProofResponse) (proof : EIP1186AccountProofResponse) :
    EIP1186AccountProofResponse :=
  match merged with
  | none => proof
  | some acc => { acc with storageProof := acc.storageProof ++ proof.storageProof }

def _getProof (provider : ExecutionProvider) (address : Address) (storageKeys : List B256) (block : UInt64)
    (chunkLimit : Nat) : Session HostError EIP1186AccountProofResponse := do
  let chunkLimit := max chunkLimit 1
  let chunks := if storageKeys.isEmpty then [[]] else storageKeys.toChunks chunkLimit
  let merged ← chunks.foldlM (fun merged chunk => do
    let proof ← requestChunk provider address chunk block maxRetries
    pure (some (mergeChunk merged proof))) none
  Session.lift (expect "at least one request is always issued" merged)

def _getStorageWord (provider : ExecutionProvider) (address : Address) (key : B256) (block : UInt64) :
    Session HostError U256 := do
  match ← Session.call fun n => provider.getStorageAt n address key block with
  | .ok word => pure word
  | .error e => Session.lift (fail (.executionRpcReadingStorage e))

def _getQueueHead (provider : ExecutionProvider) (proofQueueAddress : Address) (block : UInt64) :
    Session HostError UInt64 := do
  let word ← _getStorageWord provider proofQueueAddress (storageSlotOfIndex queueHeadStorageIndex) block
  Session.lift (okOr .queueHeadExceedsU64
    (if word.toNat < 2^64 then some (UInt64.ofNat word.toNat) else none))

/-- Tries the proof as one of inclusion first, then as one of exclusion. -/
def _accountWitness (C : Crypto) (proof : EIP1186AccountProofResponse) (executionStateRoot : B256) :
    Outcome HostError (Option TrieAccount) :=
  let account := proof.account
  let path := addressPath C proof.address
  match C.verifyProof executionStateRoot path (some (C.encodeTrieAccount account)) proof.accountProof with
  | .ok () => pure (some account)
  | .error _ => do
    mapErr (.neitherPresentNorAbsent proof.address)
      (fromResult (C.verifyProof executionStateRoot path none proof.accountProof))
    pure none

def entryWordKeys (C : Crypto) (inputQueueCursor : UInt64) (offset : Nat) : Outcome HostError (List B256) := do
  let index ← addU64 inputQueueCursor (UInt64.ofNat offset)
  let base := mappingEntryLocation C (U256.ofU64 index) queueRequestsStorageIndex
  pure (base :: (List.range' 1 (queueEntryWords - 1)).map fun wordIndex =>
    structWordSlot base (UInt8.ofNat wordIndex))

def wordAt (words : B256 → Option (U256 × List Bytes)) (missing : B256 → HostError) (key : B256) :
    Outcome HostError (U256 × List Bytes) := okOr (missing key) (words key)

def toU8 (word : U256) : Outcome HostError UInt8 :=
  if word.toNat < 2^8 then .ok (UInt8.ofNat word.toNat) else panicked "Uint conversion error"

def addressOfWord (word : U256) : Address := word.toBeBytes.drop 12

def entryOfWords : List (U256 × List Bytes) → Outcome HostError QueueEntryProof
  | [target, slotKey, count, key0, key1] => do
    let collectionKeysCount ← toU8 count.1
    pure {
      target := addressOfWord target.1
      slotKey := slotKey.1.toBeBytes
      collectionKeysCount := collectionKeysCount
      collectionKeys := #v[key0.1.toBeBytes, key1.1.toBeBytes]
      wordProofs := #v[target.2, slotKey.2, count.2, key0.2, key1.2] }
  | _ => fail .expectedWordProofs

def assembleEntry (words : B256 → Option (U256 × List Bytes)) (keys : List B256) :
    Outcome HostError QueueEntryProof := do
  entryOfWords (← keys.mapM (wordAt words .queueProofMissing))

def assembleSlot (words : B256 → Option (U256 × List Bytes)) (key : B256) : Outcome HostError TargetSlotProof := do
  let (value, mptProof) ← wordAt words .targetProofMissing key
  pure ⟨key, value, mptProof⟩

def slotsByTarget (entries : List QueueEntryProof) : List (Address × List B256) :=
  entries.foldl (fun groups entry => insertGroup entry.target entry.slotKey groups) []

def targetProof (C : Crypto) (provider : ExecutionProvider) (block : UInt64) (executionStateRoot : B256)
    (chunkLimit : Nat) (group : Address × List B256) : Session HostError TargetStorageProof := do
  let (address, slotKeys) := group
  let proof ← _getProof provider address slotKeys block chunkLimit
  let account ← Session.lift (_accountWitness C proof executionStateRoot)
  let slots ← Session.lift (slotKeys.mapM (assembleSlot proof.words))
  pure {
    targetAddress := address
    account := account
    accountMptProof := proof.accountProof
    slots := slots }

/-- The queue witness that `_prepare_consensus_mpt_proof_inputs` assembles before its dry run. -/
def assembleQueueStorage (C : Crypto) (attempt : ExecutionAttempt) (proofQueueAddress : Address)
    (inputQueueCursor outputBlockNumber : UInt64) (executionStateRoot : B256) (chunkLimit : Nat) :
    Session HostError QueueStorage := do
  let block := outputBlockNumber
  let queueHeadKey := storageSlotOfIndex queueHeadStorageIndex
  let queueHead ← _getQueueHead attempt.provider proofQueueAddress block
  Session.lift (ensure (¬ inputQueueCursor > queueHead) (.cursorAheadOfHead inputQueueCursor queueHead))
  let remaining ← Session.lift (subU64 queueHead inputQueueCursor)
  let batch := (min remaining (UInt64.ofNat maxBatch)).toNat
  let rows ← Session.lift ((List.range batch).mapM (entryWordKeys C inputQueueCursor))
  let wordKeys := rows.flatten
  let queueProof ← _getProof attempt.provider proofQueueAddress (queueHeadKey :: wordKeys) block chunkLimit
  let entries ← Session.lift ((List.range batch).mapM fun offset =>
    assembleEntry queueProof.words ((wordKeys.drop (offset * queueEntryWords)).take queueEntryWords))
  let targets ← (attempt.order.iterate (slotsByTarget entries)).mapM
    (targetProof C attempt.provider block executionStateRoot chunkLimit)
  let headWord ← Session.lift (wordAt queueProof.words .queueProofMissing queueHeadKey)
  pure {
    proofRequestQueueAddress := queueProof.address
    proofRequestQueueAccount := queueProof.account
    proofRequestQueueAccountMptProof := queueProof.accountProof
    head := queueHead
    headMptProof := headWord.2
    inputCursor := inputQueueCursor
    entries := entries
    targets := targets }

def _prepareConsensusMptProofInputs (C : Crypto) {S : ConsensusSpec} (attempt : ExecutionAttempt)
    (proofQueueAddress : Address) (inputQueueCursor outputBlockNumber : UInt64)
    (validatedConsensusProofInputs : ConsensusProofInputs S) (outputExecutionStateRoot : B256) (chunkLimit : Nat) :
    Session HostError (ProofInputs S) := do
  let queueStorage ← assembleQueueStorage C attempt proofQueueAddress inputQueueCursor outputBlockNumber
    outputExecutionStateRoot chunkLimit
  let consensusMptProofInput := validatedConsensusProofInputs.withQueue queueStorage
  -- the outputs of the dry run are not compared with anything
  let _ ← Session.lift (spawnBlocking (consensusMptProgram C consensusMptProofInput))
  pure consensusMptProofInput

end ExecutionHttpProxy

structure ExecutionHttpProxy where
  principalProvider : ExecutionAttempt
  backupProviders : List ExecutionAttempt
  schedule : Schedule
  proofQueueAddress : Address
  validationTimeout : Nat
  chunkLimit : Nat

def ExecutionHttpProxy.prepareConsensusMptProofInputs (C : Crypto) {S : ConsensusSpec} (proxy : ExecutionHttpProxy)
    (inputSlot outputSlot inputBlockNumber outputBlockNumber inputQueueCursor : UInt64)
    (validatedConsensusProofInputs : ConsensusProofInputs S)
    (expectedOutputStoreHash expectedExecutionStateRoot : B256) : Outcome HostError (ProofInputsWithWindow S) := do
  let output ← queryWithFallback proxy.schedule proxy.principalProvider proxy.backupProviders
    (fun attempt => (ExecutionHttpProxy._prepareConsensusMptProofInputs C attempt proxy.proofQueueAddress
      inputQueueCursor outputBlockNumber validatedConsensusProofInputs expectedExecutionStateRoot
      proxy.chunkLimit).outcome)
    proxy.validationTimeout
  let expectedOutputQueueCursor ← addU64 inputQueueCursor (UInt64.ofNat output.queueStorage.entries.length)
  pure {
    inputSlot := inputSlot
    expectedOutputSlot := outputSlot
    inputBlockNumber := inputBlockNumber
    expectedOutputBlockNumber := outputBlockNumber
    proofInputs := output
    expectedOutputStoreHash := expectedOutputStoreHash
    expectedOutputQueueCursor := expectedOutputQueueCursor }

end NoriModel
