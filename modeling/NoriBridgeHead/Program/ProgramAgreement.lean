import NoriBridgeHead.Program.Consensus

open Foundation Foundation.Outcome

namespace NoriModel

variable {S : ConsensusSpec}

def updateStep (inputs : ConsensusProofInputs S) (store : S.Store) (enumerated : S.Update × Nat) :
    Outcome ProgramError S.Store := do
  mapErr (.invalidUpdate enumerated.2) (fromResult (S.verifyUpdate enumerated.1 inputs.expectedCurrentSlot store
    inputs.genesisRoot inputs.forks))
  pure (S.applyUpdate store enumerated.1)

/-- The part both programs share: the hash chain check, the updates and the finality update. -/
def transition (C : Crypto) (inputs : ConsensusProofInputs S) : Outcome ProgramError S.Store := do
  let calculated ← mapErr (fun e => .storeHashingError ("Failed to hash store: " ++ e))
    (fromResult (sha256HashHeliosStore C inputs.store))
  ensure (calculated = inputs.storeHash) (.hashChainMismatch inputs.storeHash calculated)
  let store ← inputs.updates.zipIdx.foldlM (updateStep inputs) inputs.store
  mapErr .invalidFinalityUpdate (fromResult (S.verifyFinalityUpdate inputs.finalityUpdate
    inputs.expectedCurrentSlot store inputs.genesisRoot inputs.forks))
  pure (S.applyFinalityUpdate store inputs.finalityUpdate)

def hashUpdatedStore (C : Crypto) (store : S.Store) : Outcome ProgramError B256 :=
  mapErr (fun e => .storeHashingError ("Failed to hash updated store: " ++ e))
    (fromResult (sha256HashHeliosStore C store))

def commitConsensus (C : Crypto) (inputs : ConsensusProofInputs S) (store : S.Store) :
    Outcome ProgramError ConsensusProofOutputs := do
  let execution ← okOr .missingExecutionRoot (S.execution store.finalizedHeader)
  let outputStoreHash ← hashUpdatedStore C store
  pure {
    inputSlot := S.beaconSlot inputs.store.finalizedHeader
    inputStoreHash := inputs.storeHash
    outputSlot := S.beaconSlot store.finalizedHeader
    outputStoreHash
    executionStateRoot := execution.stateRoot
    nextSyncCommitteeHash := nextSyncCommitteeHashOf store
    outputBlockNumber := execution.blockNumber }

def commitQueue (C : Crypto) (inputs : ProofInputs S) (store : S.Store) : Outcome ProgramError ProofOutputs := do
  let execution ← okOr .missingExecutionRoot (S.execution store.finalizedHeader)
  let drained ← mapErr .mptError (verifyQueue C execution.stateRoot inputs.queueStorage)
  ensure (S.beaconSlot store.finalizedHeader % 32 = 0)
    (.nonCheckpointOutputSlot (S.beaconSlot store.finalizedHeader))
  let outputStoreHash ← hashUpdatedStore C store
  pure {
    inputSlot := S.beaconSlot inputs.store.finalizedHeader
    inputStoreHash := inputs.storeHash
    outputSlot := S.beaconSlot store.finalizedHeader
    outputStoreHash
    executionStateRoot := execution.stateRoot
    verifiedRequestsRoot := drained.2
    nextSyncCommitteeHash := nextSyncCommitteeHashOf store
    proofRequestQueueAddress := inputs.queueStorage.proofRequestQueueAddress
    inputQueueCursor := inputs.queueStorage.inputCursor
    outputQueueCursor := drained.1
    outputBlockNumber := execution.blockNumber }

def ConsensusProofOutputs.withQueue (outputs : ConsensusProofOutputs) (queue : QueueStorage) (outputCursor : UInt64)
    (requestsRoot : B256) : ProofOutputs where
  inputSlot := outputs.inputSlot
  inputStoreHash := outputs.inputStoreHash
  outputSlot := outputs.outputSlot
  outputStoreHash := outputs.outputStoreHash
  executionStateRoot := outputs.executionStateRoot
  verifiedRequestsRoot := requestsRoot
  nextSyncCommitteeHash := outputs.nextSyncCommitteeHash
  proofRequestQueueAddress := queue.proofRequestQueueAddress
  inputQueueCursor := queue.inputCursor
  outputQueueCursor := outputCursor
  outputBlockNumber := outputs.outputBlockNumber

def ProgramError.BeforeQueue : ProgramError → Prop
  | .hashChainMismatch _ _ | .invalidUpdate _ _ | .invalidFinalityUpdate _ | .missingExecutionRoot => True
  | .storeHashingError _ | .mptError _ | .nonCheckpointOutputSlot _ => False

end NoriModel

namespace NoriProof

open NoriModel

variable {C : Crypto} {S : ConsensusSpec}

theorem forIn_updates (inputs : ConsensusProofInputs S) (items : List (S.Update × Nat)) (store : S.Store) :
    (forIn items store fun enumerated store => do
      mapErr (ProgramError.invalidUpdate enumerated.2) (fromResult (S.verifyUpdate enumerated.1
        inputs.expectedCurrentSlot store inputs.genesisRoot inputs.forks))
      pure (ForInStep.yield (S.applyUpdate store enumerated.1))) =
    items.foldlM (updateStep inputs) store :=
  forIn_yield_eq_foldlM _ _ items store

theorem consensusProgram_eq (inputs : ConsensusProofInputs S) :
    consensusProgram C inputs = transition C inputs >>= commitConsensus C inputs := by
  simp only [consensusProgram, transition, commitConsensus, hashUpdatedStore, bind_assoc, pure_bind,
    forIn_updates]

theorem consensusMptProgram_eq (inputs : ProofInputs S) :
    consensusMptProgram C inputs = transition C inputs.consensus >>= commitQueue C inputs := by
  simp only [consensusMptProgram, transition, commitQueue, hashUpdatedStore, bind_assoc, pure_bind,
    ← forIn_updates, ProofInputs.consensus]
  rfl

theorem commitConsensus_ok_iff (inputs : ConsensusProofInputs S) (store : S.Store) (outputs : ConsensusProofOutputs) :
    commitConsensus C inputs store = .ok outputs ↔
      ∃ execution storeHash, S.execution store.finalizedHeader = some execution ∧
        sha256HashHeliosStore C store = .ok storeHash ∧
        outputs = ⟨S.beaconSlot inputs.store.finalizedHeader, inputs.storeHash, S.beaconSlot store.finalizedHeader,
          storeHash, execution.stateRoot, nextSyncCommitteeHashOf store, execution.blockNumber⟩ := by
  simp only [commitConsensus, hashUpdatedStore, bind_ok_iff, okOr_ok_iff, mapErr_ok_iff, fromResult_ok_iff,
    pure_ok_iff]
  constructor
  · intro h
    obtain ⟨execution, found, storeHash, hashed, rfl⟩ := h
    exact ⟨execution, storeHash, found, hashed, rfl⟩
  · intro h
    obtain ⟨execution, storeHash, found, hashed, rfl⟩ := h
    exact ⟨execution, found, storeHash, hashed, rfl⟩

theorem commitQueue_ok_iff (inputs : ProofInputs S) (store : S.Store) (outputs : ProofOutputs) :
    commitQueue C inputs store = .ok outputs ↔
      ∃ consensus cursor root, commitConsensus C inputs.consensus store = .ok consensus ∧
        verifyQueue C consensus.executionStateRoot inputs.queueStorage = .ok (cursor, root) ∧
        consensus.outputSlot % 32 = 0 ∧ outputs = consensus.withQueue inputs.queueStorage cursor root := by
  simp only [commitQueue, hashUpdatedStore, bind_ok_iff, okOr_ok_iff, mapErr_ok_iff, fromResult_ok_iff,
    ensure_ok_iff, pure_ok_iff, commitConsensus_ok_iff]
  constructor
  · intro h
    obtain ⟨execution, found, ⟨cursor, root⟩, drained, ⟨⟩, checkpoint, storeHash, hashed, rfl⟩ := h
    exact ⟨_, cursor, root, ⟨execution, storeHash, found, hashed, rfl⟩, drained, checkpoint, rfl⟩
  · intro h
    obtain ⟨_, cursor, root, ⟨execution, storeHash, found, hashed, rfl⟩, drained, checkpoint, rfl⟩ := h
    exact ⟨execution, found, (cursor, root), drained, (), checkpoint, storeHash, hashed, rfl⟩

theorem consensusMptProgram_ok_iff (inputs : ProofInputs S) (outputs : ProofOutputs) :
    consensusMptProgram C inputs = .ok outputs ↔
      ∃ consensus cursor root, consensusProgram C inputs.consensus = .ok consensus ∧
        verifyQueue C consensus.executionStateRoot inputs.queueStorage = .ok (cursor, root) ∧
        consensus.outputSlot % 32 = 0 ∧ outputs = consensus.withQueue inputs.queueStorage cursor root := by
  simp only [consensusMptProgram_eq, consensusProgram_eq, bind_ok_iff, commitQueue_ok_iff]
  constructor
  · intro h
    obtain ⟨store, reached, consensus, cursor, root, committed, rest⟩ := h
    exact ⟨consensus, cursor, root, ⟨store, reached, committed⟩, rest⟩
  · intro h
    obtain ⟨consensus, cursor, root, ⟨store, reached, committed⟩, rest⟩ := h
    exact ⟨store, reached, consensus, cursor, root, committed, rest⟩

theorem transition_ok_iff (inputs : ConsensusProofInputs S) (result : S.Store) :
    transition C inputs = .ok result ↔
      sha256HashHeliosStore C inputs.store = .ok inputs.storeHash ∧
      ∃ store, inputs.updates.zipIdx.foldlM (updateStep inputs) inputs.store = .ok store ∧
        S.verifyFinalityUpdate inputs.finalityUpdate inputs.expectedCurrentSlot store inputs.genesisRoot
          inputs.forks = .ok () ∧
        result = S.applyFinalityUpdate store inputs.finalityUpdate := by
  simp only [transition, bind_ok_iff, mapErr_ok_iff, fromResult_ok_iff, ensure_ok_iff, pure_ok_iff]
  constructor
  · intro h
    obtain ⟨calculated, hashed, ⟨⟩, same, store, looped, ⟨⟩, verified, applied⟩ := h
    rw [same] at hashed
    exact ⟨hashed, store, looped, verified, applied.symm⟩
  · intro h
    obtain ⟨hashed, store, looped, verified, applied⟩ := h
    exact ⟨_, hashed, (), rfl, store, looped, (), verified, applied.symm⟩

theorem consensusProgram_input {inputs : ConsensusProofInputs S} {outputs : ConsensusProofOutputs}
    (accepted : consensusProgram C inputs = .ok outputs) :
    sha256HashHeliosStore C inputs.store = .ok inputs.storeHash ∧
      outputs.inputSlot = S.beaconSlot inputs.store.finalizedHeader ∧ outputs.inputStoreHash = inputs.storeHash := by
  rw [consensusProgram_eq, bind_ok_iff] at accepted
  rcases accepted with ⟨store, reached, committed⟩
  rcases (commitConsensus_ok_iff _ _ _).mp committed with ⟨execution, storeHash, _, _, rfl⟩
  exact ⟨((transition_ok_iff _ _).mp reached).1, rfl, rfl⟩

theorem commitConsensus_error (inputs : ProofInputs S) (store : S.Store) (error : ProgramError)
    (before : error.BeforeQueue) (failed : commitConsensus C inputs.consensus store = .error (.error error)) :
    commitQueue C inputs store = .error (.error error) := by
  cases found : S.execution store.finalizedHeader with
  | none =>
    simp only [commitConsensus, found, okOr, fail_bind] at failed
    simp only [commitQueue, found, okOr, fail_bind]
    cases failed
    rfl
  | some execution =>
    simp only [commitConsensus, found, okOr, ok_bind, hashUpdatedStore] at failed
    cases hashed : sha256HashHeliosStore C store with
    | ok storeHash =>
      rw [hashed] at failed
      cases failed
    | error reason =>
      rw [hashed] at failed
      cases failed
      exact before.elim

/-- The dry run predicts the circuit, on every success and on every failure before the queue. -/
theorem consensusMptProgram_agrees (C : Crypto) {S : ConsensusSpec} (inputs : ProofInputs S) :
    (∀ outputs, consensusMptProgram C inputs = .ok outputs ↔
      ∃ consensus cursor root, consensusProgram C inputs.consensus = .ok consensus ∧
        verifyQueue C consensus.executionStateRoot inputs.queueStorage = .ok (cursor, root) ∧
        consensus.outputSlot % 32 = 0 ∧ outputs = consensus.withQueue inputs.queueStorage cursor root) ∧
    (∀ error : ProgramError, error.BeforeQueue →
      consensusProgram C inputs.consensus = .error (.error error) →
      consensusMptProgram C inputs = .error (.error error)) := by
  refine ⟨consensusMptProgram_ok_iff inputs, ?_⟩
  intro error before failed
  rw [consensusProgram_eq] at failed
  rw [consensusMptProgram_eq]
  cases reached : transition C inputs.consensus with
  | error failure =>
    rw [reached] at failed
    simp only [error_bind] at failed ⊢
    cases failed
    rfl
  | ok store =>
    rw [reached] at failed
    exact commitConsensus_error inputs store error before failed

end NoriProof
