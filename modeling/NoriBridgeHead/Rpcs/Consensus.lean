import NoriBridgeHead.Rpcs.Execution

open Foundation Foundation.Outcome

namespace NoriModel

def maxRequestLightClientUpdates : UInt8 := 128

/-- A consensus provider: what it, or helios on top of it, answers to the n-th call of a session. -/
structure ConsensusProvider (S : ConsensusSpec) where
  getBlock : Nat → UInt64 → Except String B256
  bootstrap : Nat → B256 → Except String S.Store
  getFinalityUpdate : Nat → Except String S.FinalityUpdate
  getUpdates : Nat → UInt64 → UInt8 → Except String (List S.Update)
  expectedCurrentSlot : Nat → UInt64

structure ChainConfig (S : ConsensusSpec) where
  genesisRoot : B256
  forks : S.Forks

structure Client (S : ConsensusSpec) where
  provider : ConsensusProvider S
  config : ChainConfig S
  store : S.Store

namespace Client

variable {S : ConsensusSpec}

def bootstrapFromCheckpoint (config : ChainConfig S) (provider : ConsensusProvider S) (checkpoint : B256) :
    Session HostError (Client S) := do
  let store ← Session.call fun n => provider.bootstrap n checkpoint
  let store ← Session.lift (mapErr .bootstrapFailed (fromResult store))
  pure ⟨provider, config, store⟩

/-- `getBlock` answers with the tree hash root of the block. -/
def bootstrapFromSlot (config : ChainConfig S) (provider : ConsensusProvider S) (slot : UInt64) :
    Session HostError (Client S) := do
  let block ← Session.call fun n => provider.getBlock n slot
  let checkpoint ← Session.lift (mapErr (.fetchBlock slot) (fromResult block))
  bootstrapFromCheckpoint config provider checkpoint

def getLatestFinalityUpdate (client : Client S) : Session HostError S.FinalityUpdate := do
  let finalityUpdate ← Session.call client.provider.getFinalityUpdate
  Session.lift (mapErr .fetchFinalityUpdate (fromResult finalityUpdate))

def getUpdates (client : Client S) : Session HostError (List S.Update) := do
  let period := S.calcSyncPeriod (S.beaconSlot client.store.finalizedHeader)
  let updates ← Session.call fun n => client.provider.getUpdates n period maxRequestLightClientUpdates
  Session.lift (mapErr .fetchUpdates (fromResult updates))

def getStoreWithNextSyncCommittee (expectedCurrentSlot : UInt64) (store : S.Store) (genesisRoot : B256)
    (forks : S.Forks) (firstUpdate : S.Update) : Outcome HostError S.Store := do
  mapErr .verifyUpdateFailed
    (fromResult (S.verifyUpdate firstUpdate expectedCurrentSlot store genesisRoot forks))
  let updated := S.applyUpdate store firstUpdate
  pure { store with
    nextSyncCommittee := updated.nextSyncCommittee
    previousMaxActiveParticipants := updated.previousMaxActiveParticipants
    currentMaxActiveParticipants := updated.currentMaxActiveParticipants }

def syncedStore (client : Client S) (expectedCurrentSlot inputSlot : UInt64) (updates : List S.Update) :
    Outcome HostError (S.Store × List S.Update) :=
  match updates with
  | [] => fail .missingFirstUpdate
  | firstUpdate :: rest => do
    if S.beaconSlot (S.finalizedHeaderOf firstUpdate) < inputSlot then
      mapErr .verifyUpdateFailed (fromResult (S.verifyUpdate firstUpdate expectedCurrentSlot client.store
        client.config.genesisRoot client.config.forks))
      pure (S.applyUpdate client.store firstUpdate, rest)
    else
      let store ← getStoreWithNextSyncCommittee expectedCurrentSlot client.store client.config.genesisRoot
        client.config.forks firstUpdate
      pure (store, firstUpdate :: rest)

def prepareConsensusProofInputs (config : ChainConfig S) (provider : ConsensusProvider S) (inputSlot : UInt64)
    (storeHash : B256) : Session HostError (ConsensusProofInputs S) := do
  let client ← bootstrapFromSlot config provider inputSlot
  let finalityUpdate ← client.getLatestFinalityUpdate
  let updates ← client.getUpdates
  let expectedCurrentSlot ← Session.call provider.expectedCurrentSlot
  let (store, updates) ← Session.lift (client.syncedStore expectedCurrentSlot inputSlot updates)
  pure {
    updates := updates
    finalityUpdate := finalityUpdate
    expectedCurrentSlot := expectedCurrentSlot
    store := store
    genesisRoot := config.genesisRoot
    forks := config.forks
    storeHash := storeHash }

end Client

structure ValidatedConsensus (S : ConsensusSpec) where
  inputSlot : UInt64
  outputSlot : UInt64
  validatedConsensusProofInputs : ConsensusProofInputs S
  expectedOutputStoreHash : B256
  expectedExecutionStateRoot : B256
  expectedOutputBlockNumber : UInt64

structure ConsensusHttpProxy (S : ConsensusSpec) where
  allProviders : List (ConsensusProvider S)
  schedule : Schedule
  config : ChainConfig S
  validationTimeout : Nat
  executionProxy : ExecutionHttpProxy

namespace ConsensusHttpProxy

variable {S : ConsensusSpec}

def validateOutputs (validate : Bool) (inputSlot : UInt64) (proofOutputs : ConsensusProofOutputs) :
    Outcome HostError Unit := do
  ensure (¬ (validate = true ∧ proofOutputs.outputSlot ≤ inputSlot))
    (.outputNotGreater proofOutputs.outputSlot inputSlot)
  ensure (¬ (validate = true ∧ proofOutputs.outputSlot % 32 > 0)) (.nonCheckpointOutput proofOutputs.outputSlot)
  ensure (¬ (validate = true ∧ proofOutputs.nextSyncCommitteeHash = FixedBytes.zero)) .nextSyncCommitteeZero

/-- The failure of the bootstrap from the output slot is reported within an error of its own. -/
def checkBootstrap (config : ChainConfig S) (provider : ConsensusProvider S) (outputSlot : UInt64) :
    Session HostError Unit := fun calls =>
  (mapErr (.cannotBootstrapOutput outputSlot) (Client.bootstrapFromSlot config provider outputSlot calls)).map
    fun result => ((), result.2)

def validatedConsensus (C : Crypto) (config : ChainConfig S) (inputSlot : UInt64) (storeHash : B256)
    (validate : Bool) (provider : ConsensusProvider S) : Session HostError (ValidatedConsensus S) := do
  let consensusProofInputs ← Client.prepareConsensusProofInputs config provider inputSlot storeHash
  let proofOutputs ← Session.lift (spawnBlocking (consensusProgram C consensusProofInputs))
  Session.lift (validateOutputs validate inputSlot proofOutputs)
  if validate then
    checkBootstrap config provider proofOutputs.outputSlot
  pure {
    inputSlot := inputSlot
    outputSlot := proofOutputs.outputSlot
    validatedConsensusProofInputs := consensusProofInputs
    expectedOutputStoreHash := proofOutputs.outputStoreHash
    expectedExecutionStateRoot := proofOutputs.executionStateRoot
    expectedOutputBlockNumber := proofOutputs.outputBlockNumber }

def prepareConsensusMptProofInputs (C : Crypto) (proxy : ConsensusHttpProxy S) (inputSlot : UInt64)
    (storeHash : B256) (inputQueueCursor : UInt64) (validate : Bool) :
    Outcome HostError (ProofInputsWithWindow S) := do
  let validated ← multiplex proxy.schedule
    (fun provider => (validatedConsensus C proxy.config inputSlot storeHash validate provider).outcome)
    proxy.allProviders proxy.validationTimeout
  let inputExecution ← okOr .inputExecutionHeader
    (S.execution validated.validatedConsensusProofInputs.store.finalizedHeader)
  proxy.executionProxy.prepareConsensusMptProofInputs C validated.inputSlot validated.outputSlot
    inputExecution.blockNumber validated.expectedOutputBlockNumber inputQueueCursor
    validated.validatedConsensusProofInputs validated.expectedOutputStoreHash validated.expectedExecutionStateRoot

end ConsensusHttpProxy

end NoriModel
