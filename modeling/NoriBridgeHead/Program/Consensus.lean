import NoriBridgeHead.Hash.HeliosStore
import NoriBridgeHead.Program.Mpt

open Foundation Foundation.Outcome

namespace NoriModel

inductive ProgramError where
  | hashChainMismatch (expected actual : B256)
  | invalidUpdate (index : Nat) (reason : String)
  | invalidFinalityUpdate (reason : String)
  | missingExecutionRoot
  | storeHashingError (reason : String)
  | mptError (error : MptError)
  | nonCheckpointOutputSlot (slot : UInt64)
deriving DecidableEq

def nextSyncCommitteeHashOf {S : ConsensusSpec} (store : S.Store) : B256 :=
  match store.nextSyncCommittee with
  | some nextSyncCommittee => S.treeHashRoot nextSyncCommittee
  | none => FixedBytes.zero

def consensusProgram (C : Crypto) {S : ConsensusSpec} (proofInputs : ConsensusProofInputs S) :
    Outcome ProgramError ConsensusProofOutputs := do
  let inputStoreHash := proofInputs.storeHash
  let mut store := proofInputs.store
  let calculatedPrevStoreHash ← mapErr (fun e => .storeHashingError ("Failed to hash store: " ++ e))
    (fromResult (sha256HashHeliosStore C store))
  ensure (calculatedPrevStoreHash = inputStoreHash) (.hashChainMismatch inputStoreHash calculatedPrevStoreHash)
  let inputSlot := S.beaconSlot store.finalizedHeader
  for (update, index) in proofInputs.updates.zipIdx do
    mapErr (.invalidUpdate index) (fromResult (S.verifyUpdate update proofInputs.expectedCurrentSlot store
      proofInputs.genesisRoot proofInputs.forks))
    store := S.applyUpdate store update
  mapErr .invalidFinalityUpdate (fromResult (S.verifyFinalityUpdate proofInputs.finalityUpdate
    proofInputs.expectedCurrentSlot store proofInputs.genesisRoot proofInputs.forks))
  store := S.applyFinalityUpdate store proofInputs.finalityUpdate
  let outputSlot := S.beaconSlot store.finalizedHeader
  let nextSyncCommitteeHash := nextSyncCommitteeHashOf store
  let execution ← okOr .missingExecutionRoot (S.execution store.finalizedHeader)
  let executionStateRoot := execution.stateRoot
  let outputBlockNumber := execution.blockNumber
  let outputStoreHash ← mapErr (fun e => .storeHashingError ("Failed to hash updated store: " ++ e))
    (fromResult (sha256HashHeliosStore C store))
  pure {
    inputSlot, inputStoreHash, outputSlot, outputStoreHash, executionStateRoot, nextSyncCommitteeHash,
    outputBlockNumber }

def consensusMptProgram (C : Crypto) {S : ConsensusSpec} (proofInputs : ProofInputs S) :
    Outcome ProgramError ProofOutputs := do
  let inputStoreHash := proofInputs.storeHash
  let queueStorage := proofInputs.queueStorage
  let mut store := proofInputs.store
  let proofRequestQueueAddress := queueStorage.proofRequestQueueAddress
  let inputQueueCursor := queueStorage.inputCursor
  let calculatedPrevStoreHash ← mapErr (fun e => .storeHashingError ("Failed to hash store: " ++ e))
    (fromResult (sha256HashHeliosStore C store))
  ensure (calculatedPrevStoreHash = inputStoreHash) (.hashChainMismatch inputStoreHash calculatedPrevStoreHash)
  let inputSlot := S.beaconSlot store.finalizedHeader
  for (update, index) in proofInputs.updates.zipIdx do
    mapErr (.invalidUpdate index) (fromResult (S.verifyUpdate update proofInputs.expectedCurrentSlot store
      proofInputs.genesisRoot proofInputs.forks))
    store := S.applyUpdate store update
  mapErr .invalidFinalityUpdate (fromResult (S.verifyFinalityUpdate proofInputs.finalityUpdate
    proofInputs.expectedCurrentSlot store proofInputs.genesisRoot proofInputs.forks))
  store := S.applyFinalityUpdate store proofInputs.finalityUpdate
  let execution ← okOr .missingExecutionRoot (S.execution store.finalizedHeader)
  let executionStateRoot := execution.stateRoot
  let outputBlockNumber := execution.blockNumber
  let (outputQueueCursor, verifiedRequestsRoot) ← mapErr .mptError (verifyQueue C executionStateRoot queueStorage)
  let outputSlot := S.beaconSlot store.finalizedHeader
  let nextSyncCommitteeHash := nextSyncCommitteeHashOf store
  ensure (outputSlot % 32 = 0) (.nonCheckpointOutputSlot outputSlot)
  let outputStoreHash ← mapErr (fun e => .storeHashingError ("Failed to hash updated store: " ++ e))
    (fromResult (sha256HashHeliosStore C store))
  pure {
    inputSlot, inputStoreHash, outputSlot, outputStoreHash, executionStateRoot, verifiedRequestsRoot,
    nextSyncCommitteeHash, proofRequestQueueAddress, inputQueueCursor, outputQueueCursor, outputBlockNumber }

end NoriModel
