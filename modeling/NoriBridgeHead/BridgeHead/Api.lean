import NoriBridgeHead.BridgeHead.Detector
import NoriBridgeHead.Primitives.ProofOutputs

open Foundation

namespace NoriModel

structure BridgeHeadStarted where
  latestBeaconSlot : UInt64
  currentSlot : UInt64
  storeHash : B256
  queueCursor : UInt64

structure BridgeHeadJobCreated where
  jobId : UInt64
  inputSlot : UInt64
  inputBlockNumber : UInt64
  inputStoreHash : B256
  inputQueueCursor : UInt64
  expectedOutputSlot : UInt64
  expectedOutputBlockNumber : UInt64
  expectedOutputQueueCursor : UInt64

structure BridgeHeadJobSucceeded where
  jobId : UInt64
  inputSlot : UInt64
  inputBlockNumber : UInt64
  inputStoreHash : B256
  inputQueueCursor : UInt64
  outputSlot : UInt64
  outputBlockNumber : UInt64
  outputStoreHash : B256
  outputQueueCursor : UInt64
  executionStateRoot : B256
  verifiedRequestsRoot : B256
  nextSyncCommitteeHash : B256
  proofRequestQueueAddress : Address
  verifiedRequests : List VerifiedRequest

structure BridgeHeadJobFailed where
  jobId : UInt64
  inputSlot : UInt64
  inputBlockNumber : UInt64
  inputStoreHash : B256
  inputQueueCursor : UInt64
  expectedOutputSlot : UInt64
  expectedOutputBlockNumber : UInt64
  expectedOutputQueueCursor : UInt64
  error : String
  nJobInBuffer : Nat

structure BridgeHeadFinalityTransitionDetected (S : ConsensusSpec) where
  blockNumber : UInt64
  slot : UInt64
  inputSlot : UInt64
  currentWindowProofInputsWithWindow : ProofInputsWithWindow S
  nextWindowProofInputsWithWindow : Option (ProofInputsWithWindow S)

structure BridgeHeadAdvanced where
  slot : UInt64
  storeHash : B256
  queueCursor : UInt64

inductive TransitionNotice (S : ConsensusSpec) where
  | started (extension : BridgeHeadStarted)
  | warning (message : String)
  | jobCreated (extension : BridgeHeadJobCreated)
  | jobSucceeded (extension : BridgeHeadJobSucceeded)
  | jobFailed (extension : BridgeHeadJobFailed)
  | finalityTransitionDetected (extension : BridgeHeadFinalityTransitionDetected S)
  | headAdvanced (extension : BridgeHeadAdvanced)

structure ProofMessage where
  inputSlot : UInt64
  inputBlockNumber : UInt64
  inputStoreHash : B256
  inputQueueCursor : UInt64
  outputSlot : UInt64
  outputBlockNumber : UInt64
  outputStoreHash : B256
  outputQueueCursor : UInt64
  publicValues : List UInt8
  executionStateRoot : B256
  verifiedRequestsRoot : B256
  nextSyncCommitteeHash : B256
  proofRequestQueueAddress : Address
  verifiedRequests : List VerifiedRequest

inductive BridgeHeadEvent (S : ConsensusSpec) where
  | proofMessage (message : ProofMessage)
  | noticeMessage (notice : TransitionNotice S)

structure AdvanceMessage where
  slot : UInt64
  storeHash : B256
  queueCursor : UInt64

inductive Command (S : ConsensusSpec) where
  | stageTransitionProof (window : ProofInputsWithWindow S)
  | advance (message : AdvanceMessage)

inductive ProverJobResult where
  | proved (jobId : UInt64) (publicValues : List UInt8)
  | failed (jobId : UInt64) (error : String)

def ProverJobResult.jobId : ProverJobResult → UInt64
  | .proved jobId _ | .failed jobId _ => jobId

/-- The sends of one pass of the event loop, in order; each of them may have to wait for room. -/
inductive BridgeHeadSend (S : ConsensusSpec) where
  | event (event : BridgeHeadEvent S)
  | stageUpdate (update : FinalityChangeDetectorUpdate)
  | advanceUpdate (update : FinalityChangeDetectorUpdate)

structure BridgeHead (S : ConsensusSpec) where
  currentSlot : UInt64
  nextSlot : UInt64
  jobId : UInt64
  proverJobs : List (UInt64 × ProofInputsWithWindow S)
  storeHash : B256
  queueCursor : UInt64

namespace BridgeHead

variable {S : ConsensusSpec}

def notice (notice : TransitionNotice S) : BridgeHeadSend S := .event (.noticeMessage notice)

def expectedOutputQueueCursor (window : ProofInputsWithWindow S) : UInt64 :=
  window.proofInputs.queueStorage.inputCursor + UInt64.ofNat window.proofInputs.queueStorage.entries.length

/-- An entry of the map that has the id already is replaced. -/
def insertJob (proverJobs : List (UInt64 × ProofInputsWithWindow S)) (jobId : UInt64)
    (window : ProofInputsWithWindow S) : List (UInt64 × ProofInputsWithWindow S) :=
  (proverJobs.filter fun job => job.1 ≠ jobId) ++ [(jobId, window)]

/-- The id wraps past the last one, as it does in a release build; a debug build panics there. -/
def stageTransitionProof (bridge : BridgeHead S) (window : ProofInputsWithWindow S) :
    BridgeHead S × List (BridgeHeadSend S) :=
  let jobId := bridge.jobId + 1
  ({ bridge with jobId := jobId, proverJobs := insertJob bridge.proverJobs jobId window },
    [.stageUpdate {
        slot := window.expectedOutputSlot
        storeHash := window.expectedOutputStoreHash
        queueCursor := expectedOutputQueueCursor window },
      notice (.jobCreated {
        jobId := jobId
        inputSlot := bridge.currentSlot
        inputBlockNumber := window.inputBlockNumber
        inputStoreHash := bridge.storeHash
        inputQueueCursor := bridge.queueCursor
        expectedOutputSlot := bridge.nextSlot
        expectedOutputBlockNumber := window.expectedOutputBlockNumber
        expectedOutputQueueCursor := expectedOutputQueueCursor window })])

def verifiedRequests (queueStorage : QueueStorage) : List VerifiedRequest :=
  queueStorage.entries.map fun entry => {
    target := entry.target
    collectionKeysCount := entry.collectionKeysCount
    collectionKeys := entry.collectionKeys
    value := (((queueStorage.targets.find? fun target => target.targetAddress = entry.target).bind fun target =>
      target.slots.find? fun slot => slot.key = entry.slotKey).map TargetSlotProof.value).getD 0 }

def handleProverSuccess (bridge : BridgeHead S) (jobId : UInt64) (publicValues : List UInt8) :
    Outcome String (BridgeHead S × List (BridgeHeadSend S)) := do
  let window ← Outcome.expect "called `Option::unwrap()` on a `None` value" (bridge.proverJobs.lookup jobId)
  let proofOutputs ← Outcome.fromResult (ProofOutputs.fromBytes publicValues)
  let requests := verifiedRequests window.proofInputs.queueStorage
  pure ({ bridge with proverJobs := bridge.proverJobs.filter fun job => job.1 ≠ jobId },
    [notice (.jobSucceeded {
        jobId := jobId
        inputSlot := proofOutputs.inputSlot
        inputBlockNumber := window.inputBlockNumber
        inputStoreHash := proofOutputs.inputStoreHash
        inputQueueCursor := proofOutputs.inputQueueCursor
        outputSlot := proofOutputs.outputSlot
        outputBlockNumber := proofOutputs.outputBlockNumber
        outputStoreHash := proofOutputs.outputStoreHash
        outputQueueCursor := proofOutputs.outputQueueCursor
        executionStateRoot := proofOutputs.executionStateRoot
        verifiedRequestsRoot := proofOutputs.verifiedRequestsRoot
        nextSyncCommitteeHash := proofOutputs.nextSyncCommitteeHash
        proofRequestQueueAddress := proofOutputs.proofRequestQueueAddress
        verifiedRequests := requests }),
      .event (.proofMessage {
        inputSlot := proofOutputs.inputSlot
        inputBlockNumber := window.inputBlockNumber
        inputStoreHash := proofOutputs.inputStoreHash
        inputQueueCursor := proofOutputs.inputQueueCursor
        outputSlot := proofOutputs.outputSlot
        outputBlockNumber := proofOutputs.outputBlockNumber
        outputStoreHash := proofOutputs.outputStoreHash
        outputQueueCursor := proofOutputs.outputQueueCursor
        publicValues := publicValues
        executionStateRoot := proofOutputs.executionStateRoot
        verifiedRequestsRoot := proofOutputs.verifiedRequestsRoot
        nextSyncCommitteeHash := proofOutputs.nextSyncCommitteeHash
        proofRequestQueueAddress := proofOutputs.proofRequestQueueAddress
        verifiedRequests := requests })])

def handleProverFailure (bridge : BridgeHead S) (jobId : UInt64) (error : String) :
    Outcome String (BridgeHead S × List (BridgeHeadSend S)) := do
  let window ← Outcome.expect "called `Option::unwrap()` on a `None` value" (bridge.proverJobs.lookup jobId)
  let proverJobs := bridge.proverJobs.filter fun job => job.1 ≠ jobId
  pure ({ bridge with proverJobs := proverJobs },
    [notice (.jobFailed {
      jobId := jobId
      inputSlot := window.inputSlot
      inputBlockNumber := window.inputBlockNumber
      inputStoreHash := window.proofInputs.storeHash
      inputQueueCursor := window.proofInputs.queueStorage.inputCursor
      expectedOutputSlot := window.expectedOutputSlot
      expectedOutputBlockNumber := window.expectedOutputBlockNumber
      expectedOutputQueueCursor := window.expectedOutputQueueCursor
      error := s!"Job '{jobId}' failed with error: Prover job {jobId} failed: {error}"
      nJobInBuffer := proverJobs.length })])

/-- The detector hears of an advance before the head moves and before the observer is told. -/
def advance (bridge : BridgeHead S) (message : AdvanceMessage) : BridgeHead S × List (BridgeHeadSend S) :=
  ({ bridge with
      currentSlot := message.slot
      storeHash := message.storeHash
      queueCursor := message.queueCursor },
    [.advanceUpdate ⟨message.slot, message.storeHash, message.queueCursor⟩,
      notice (.headAdvanced ⟨message.slot, message.storeHash, message.queueCursor⟩)])

def onBeaconFinalityChange (bridge : BridgeHead S) (event : DualProofInputsWithWindow S) :
    BridgeHead S × List (BridgeHeadSend S) :=
  ({ bridge with nextSlot := event.currentWindow.expectedOutputSlot },
    [notice (.finalityTransitionDetected {
      blockNumber := event.currentWindow.expectedOutputBlockNumber
      slot := event.currentWindow.expectedOutputSlot
      inputSlot := event.currentWindow.inputSlot
      currentWindowProofInputsWithWindow := event.currentWindow
      nextWindowProofInputsWithWindow := event.nextWindow })])

def removeJob (bridge : BridgeHead S) (jobId : UInt64) : BridgeHead S :=
  { bridge with proverJobs := bridge.proverJobs.filter fun job => job.1 ≠ jobId }

def onCommand (bridge : BridgeHead S) : Command S → BridgeHead S × List (BridgeHeadSend S)
  | .stageTransitionProof window => bridge.stageTransitionProof window
  | .advance message => bridge.advance message

def onJobResult (bridge : BridgeHead S) : ProverJobResult → Outcome String (BridgeHead S × List (BridgeHeadSend S))
  | .proved jobId publicValues => bridge.handleProverSuccess jobId publicValues
  | .failed jobId error => bridge.handleProverFailure jobId error

end BridgeHead

end NoriModel
