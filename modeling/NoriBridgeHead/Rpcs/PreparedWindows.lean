import NoriBridgeHead.BridgeHead.Observer
import NoriBridgeHead.Program.StoreHashPins
import NoriBridgeHead.Rpcs.Consensus
import NoriBridgeHead.Rpcs.QueueCompleteness

open Foundation Foundation.Outcome Foundation.Session

namespace NoriModel

/-- What the outputs of the program must be for a window prepared from a slot, a store hash and a cursor. -/
structure Predicts {S : ConsensusSpec} (window : ProofInputsWithWindow S) (slot : UInt64) (storeHash : B256)
    (cursor : UInt64) (outputs : ProofOutputs) : Prop where
  windowSlot : window.inputSlot = slot
  windowHash : window.proofInputs.storeHash = storeHash
  windowCursor : window.proofInputs.queueStorage.inputCursor = cursor
  inputStoreHash : outputs.inputStoreHash = storeHash
  inputQueueCursor : outputs.inputQueueCursor = cursor
  outputSlot : outputs.outputSlot = window.expectedOutputSlot
  outputStoreHash : outputs.outputStoreHash = window.expectedOutputStoreHash
  outputBlockNumber : outputs.outputBlockNumber = window.expectedOutputBlockNumber
  outputQueueCursor : outputs.outputQueueCursor = window.expectedOutputQueueCursor
  restaged : outputs.outputQueueCursor = BridgeHead.expectedOutputQueueCursor window

structure Validated (slot outputSlot : UInt64) (nextSyncCommitteeHash : B256) : Prop where
  progress : slot < outputSlot
  checkpoint : outputSlot % 32 = 0
  recoverable : nextSyncCommitteeHash ≠ FixedBytes.zero

structure ConsensusPredicts (C : Crypto) {S : ConsensusSpec} (slot : UInt64) (storeHash : B256) (validate : Bool)
    (validated : ValidatedConsensus S) (outputs : ConsensusProofOutputs) : Prop where
  accepted : consensusProgram C validated.validatedConsensusProofInputs = .ok outputs
  inputSlot : validated.inputSlot = slot
  storeHash : validated.validatedConsensusProofInputs.storeHash = storeHash
  outputSlot : validated.outputSlot = outputs.outputSlot
  outputStoreHash : validated.expectedOutputStoreHash = outputs.outputStoreHash
  outputBlockNumber : validated.expectedOutputBlockNumber = outputs.outputBlockNumber
  validated : validate = true → Validated slot outputs.outputSlot outputs.nextSyncCommitteeHash

end NoriModel

namespace NoriProof

open NoriModel

variable {C : Crypto} {S : ConsensusSpec}

theorem withQueue_consensus (inputs : ConsensusProofInputs S) (queueStorage : QueueStorage) :
    (inputs.withQueue queueStorage).consensus = inputs := rfl

theorem assembleQueueStorage_inputCursor (attempt : ExecutionAttempt) (address : Address) (cursor block : UInt64)
    (stateRoot : B256) (chunkLimit : Nat) :
    Ensures (ExecutionHttpProxy.assembleQueueStorage C attempt address cursor block stateRoot chunkLimit)
      fun queue => queue.inputCursor = cursor := by
  unfold ExecutionHttpProxy.assembleQueueStorage
  iterate 8
    refine ensures_skip ?_
    intro _
  exact ensures_pure rfl

theorem prepareWith_ensures (attempt : ExecutionAttempt) (address : Address) (cursor block : UInt64)
    (inputs : ConsensusProofInputs S) (stateRoot : B256) (chunkLimit : Nat) :
    Ensures (ExecutionHttpProxy._prepareConsensusMptProofInputs C attempt address cursor block inputs stateRoot
      chunkLimit) fun prepared => prepared.consensus = inputs ∧ prepared.queueStorage.inputCursor = cursor ∧
        ∃ outputs, consensusMptProgram C prepared = .ok outputs := by
  unfold ExecutionHttpProxy._prepareConsensusMptProofInputs
  refine Ensures.bind (assembleQueueStorage_inputCursor attempt address cursor block stateRoot chunkLimit) ?_
  intro queue sameCursor
  refine Ensures.bind (ensures_lift fun outputs returned => spawnBlocking_ok_iff.mp returned) ?_
  intro outputs ran
  exact ensures_pure ⟨withQueue_consensus inputs queue, sameCursor, outputs, ran⟩

theorem prepareConsensusProofInputs_storeHash (config : ChainConfig S) (provider : ConsensusProvider S)
    (slot : UInt64) (storeHash : B256) :
    Ensures (Client.prepareConsensusProofInputs config provider slot storeHash)
      fun inputs => inputs.storeHash = storeHash := by
  unfold Client.prepareConsensusProofInputs
  iterate 5
    refine ensures_skip ?_
    intro _
  exact ensures_pure rfl

theorem validateOutputs_ok {slot : UInt64} {outputs : ConsensusProofOutputs} {validate : Bool}
    (accepted : ConsensusHttpProxy.validateOutputs validate slot outputs = .ok ()) :
    validate = true → Validated slot outputs.outputSlot outputs.nextSyncCommitteeHash := by
  simp only [ConsensusHttpProxy.validateOutputs, bind_ok_iff, ensure_ok_iff] at accepted
  rcases accepted with ⟨_, progress, _, checkpoint, recoverable⟩
  intro validating
  constructor
  · exact UInt64.not_le.mp fun below => progress ⟨validating, below⟩
  · have none : ¬ outputs.outputSlot % 32 > 0 := fun some => checkpoint ⟨validating, some⟩
    apply UInt64.toNat_inj.mp
    have bound := mt UInt64.lt_iff_toNat_lt.mpr none
    show (outputs.outputSlot % 32).toNat = 0
    have zero : (0 : UInt64).toNat = 0 := rfl
    omega
  · exact fun zero => recoverable ⟨validating, zero⟩

theorem validatedConsensus_ensures (config : ChainConfig S) (slot : UInt64) (storeHash : B256) (validate : Bool)
    (provider : ConsensusProvider S) :
    Ensures (ConsensusHttpProxy.validatedConsensus C config slot storeHash validate provider) fun validated =>
      ∃ outputs, ConsensusPredicts C slot storeHash validate validated outputs := by
  unfold ConsensusHttpProxy.validatedConsensus
  refine Ensures.bind (prepareConsensusProofInputs_storeHash config provider slot storeHash) ?_
  intro inputs sameHash
  refine Ensures.bind (ensures_lift fun outputs returned => spawnBlocking_ok_iff.mp returned) ?_
  intro outputs ran
  refine Ensures.bind (ensures_lift fun _ accepted => validateOutputs_ok accepted) ?_
  intro _ valid
  have predicts : ConsensusPredicts C slot storeHash validate ⟨slot, outputs.outputSlot, inputs,
      outputs.outputStoreHash, outputs.executionStateRoot, outputs.outputBlockNumber⟩ outputs :=
    ⟨ran, rfl, sameHash, rfl, rfl, rfl, valid⟩
  cases validate with
  | true => exact ensures_skip fun _ => ensures_pure ⟨outputs, predicts⟩
  | false => exact ensures_pure ⟨outputs, predicts⟩

/-- The three computations of the output cursor agree on every accepted window. -/
theorem outputCursor_agrees {stateRoot root : B256} {queue : QueueStorage} {output expected : UInt64}
    (accepted : verifyQueue C stateRoot queue = .ok (output, root))
    (computed : addU64 (ε := HostError) queue.inputCursor (UInt64.ofNat queue.entries.length) = .ok expected) :
    output = expected ∧ output = queue.inputCursor + UInt64.ofNat queue.entries.length := by
  rcases verifyQueue_ok_iff.mp accepted with ⟨_, _, _, count, _, _, advanced⟩
  have limit : maxBatch = 65536 := rfl
  have small : queue.entries.length < 2^64 := by omega
  have wide : (UInt64.ofNat queue.entries.length).toNat = queue.entries.length :=
    UInt64.toNat_ofNat_of_lt' small
  have fits : queue.inputCursor.toNat + queue.entries.length < 2^64 := by
    rw [← advanced]
    exact output.toNat_lt
  have sum := addU64_ok_iff.mp computed
  rw [wide] at sum
  constructor
  · apply UInt64.toNat_inj.mp
    rw [advanced, sum]
  · apply UInt64.toNat_inj.mp
    rw [UInt64.toNat_add, wide, Nat.mod_eq_of_lt fits]
    exact advanced

theorem execution_ok {proxy : ExecutionHttpProxy} {inputSlot outputSlot inputBlock outputBlock cursor : UInt64}
    {inputs : ConsensusProofInputs S} {storeHash stateRoot : B256} {window : ProofInputsWithWindow S}
    (prepared : proxy.prepareConsensusMptProofInputs C inputSlot outputSlot inputBlock outputBlock cursor inputs
      storeHash stateRoot = .ok window) :
    window.inputSlot = inputSlot ∧ window.expectedOutputSlot = outputSlot ∧
      window.expectedOutputBlockNumber = outputBlock ∧ window.expectedOutputStoreHash = storeHash ∧
      window.proofInputs.consensus = inputs ∧ window.proofInputs.queueStorage.inputCursor = cursor ∧
      addU64 (ε := HostError) cursor (UInt64.ofNat window.proofInputs.queueStorage.entries.length) =
        .ok window.expectedOutputQueueCursor ∧
      ∃ outputs, consensusMptProgram C window.proofInputs = .ok outputs := by
  simp only [ExecutionHttpProxy.prepareConsensusMptProofInputs, bind_ok_iff, pure_ok_iff] at prepared
  rcases prepared with ⟨output, queried, expected, computed, rfl⟩
  rcases queryWithFallback_ok queried with ⟨attempt, _, ran⟩
  rcases (prepareWith_ensures attempt _ _ _ _ _ _).outcome ran with ⟨sameInputs, sameCursor, outputs, accepted⟩
  exact ⟨rfl, rfl, rfl, rfl, sameInputs, sameCursor, computed, outputs, accepted⟩

theorem prepared_predicts {proxy : ConsensusHttpProxy S} {slot : UInt64} {storeHash : B256} {cursor : UInt64}
    {validate : Bool} {window : ProofInputsWithWindow S}
    (prepared : proxy.prepareConsensusMptProofInputs C slot storeHash cursor validate = .ok window) :
    ∃ outputs, consensusMptProgram C window.proofInputs = .ok outputs ∧
      Predicts window slot storeHash cursor outputs ∧
      (validate = true → Validated slot outputs.outputSlot outputs.nextSyncCommitteeHash) := by
  simp only [ConsensusHttpProxy.prepareConsensusMptProofInputs, bind_ok_iff] at prepared
  rcases prepared with ⟨validated, multiplexed, execution, _, executed⟩
  rcases multiplex_ok multiplexed with ⟨provider, _, ran⟩
  rcases (validatedConsensus_ensures _ _ _ _ provider).outcome ran with ⟨consensus, predicted⟩
  rcases execution_ok executed with
    ⟨inputSlot, outputSlot, outputBlock, outputHash, sameInputs, sameCursor, computed, outputs, accepted⟩
  rcases (consensusMptProgram_ok_iff _ _).mp accepted with ⟨consensus', output, root, again, drained, _, rfl⟩
  rw [sameInputs, predicted.accepted] at again
  cases again
  have hash : window.proofInputs.storeHash = storeHash := by
    have carried : window.proofInputs.storeHash = window.proofInputs.consensus.storeHash := rfl
    rw [carried, sameInputs, predicted.storeHash]
  rw [← sameCursor] at computed
  have cursors := outputCursor_agrees drained computed
  refine ⟨_, accepted, ?_, predicted.validated⟩
  constructor
  · rw [inputSlot, predicted.inputSlot]
  · exact hash
  · exact sameCursor
  · rw [← predicted.storeHash]
    exact (consensusProgram_input predicted.accepted).2.2
  · exact sameCursor
  · rw [outputSlot, predicted.outputSlot]
    rfl
  · rw [outputHash, predicted.outputStoreHash]
    rfl
  · rw [outputBlock, predicted.outputBlockNumber]
    rfl
  · exact cursors.1
  · exact cursors.2

/-- A prepared window predicts the outputs of the program, so the triple that staging announces to the detector
    is the one to which the finished proof advances the head. -/
theorem prepared_window_predicts (C : Crypto) {S : ConsensusSpec} (headers : SelfDelimiting S.headerToVec)
    (committees : SelfDelimiting S.committeeToVec) (proxy : ConsensusHttpProxy S) (slot : UInt64) (storeHash : B256)
    (cursor : UInt64) (validate : Bool) (window : ProofInputsWithWindow S) (store : S.Store)
    (hashed : sha256HashHeliosStore C store = .ok storeHash) (finalized : S.beaconSlot store.finalizedHeader = slot)
    (distinct : NoCollision C store window.proofInputs.store)
    (prepared : proxy.prepareConsensusMptProofInputs C slot storeHash cursor validate = .ok window) :
    ∃ outputs, consensusMptProgram C window.proofInputs = .ok outputs ∧ outputs.inputSlot = slot ∧
      Predicts window slot storeHash cursor outputs ∧
      (validate = true → Validated slot outputs.outputSlot outputs.nextSyncCommitteeHash) ∧
      (∀ bridge : BridgeHead S,
        .stageUpdate ⟨outputs.outputSlot, outputs.outputStoreHash, outputs.outputQueueCursor⟩ ∈
          (bridge.stageTransitionProof window).2) ∧
      ∀ (bridge bridge' : BridgeHead S) jobId sends message (observer : Observer S),
        bridge.handleProverSuccess jobId outputs.toBytes = .ok (bridge', sends) →
        .event (.proofMessage message) ∈ sends →
        .advance ⟨outputs.outputSlot, outputs.outputStoreHash, outputs.outputQueueCursor⟩ ∈
          (observer.onTransitionProofSucceeded message).2 := by
  rcases prepared_predicts prepared with ⟨outputs, accepted, predicts, valid⟩
  have inputSlot : outputs.inputSlot = slot := by
    rcases (consensusMptProgram_ok_iff _ _).mp accepted with ⟨consensus, output, root, programmed, _, _, rfl⟩
    rcases consensusProgram_input programmed with ⟨rehashed, taken, _⟩
    have carried : window.proofInputs.consensus.storeHash = storeHash := predicts.windowHash
    rw [carried] at rehashed
    have pinned := sha256HashHeliosStore_pins headers committees distinct hashed rehashed
    rw [← finalized, pinned.finalizedHeader]
    exact taken
  refine ⟨outputs, accepted, inputSlot, predicts, valid, ?_, ?_⟩
  · intro bridge
    rw [predicts.outputSlot, predicts.outputStoreHash, predicts.restaged]
    exact List.mem_cons_self ..
  · intro bridge bridge' jobId sends message observer handled sent
    rcases handleProverSuccess_message handled sent with ⟨slot, hash, cursor⟩
    rw [← slot, ← hash, ← cursor]
    exact onTransitionProofSucceeded_advances observer message

end NoriProof

namespace NoriModel.Sample

def consensusProvider (bootstrapped : Minimal.Store) (finality : Minimal.Header) : ConsensusProvider Minimal.spec where
  getBlock := fun _ slot => .ok (word slot.toNat)
  bootstrap := fun _ _ => .ok bootstrapped
  getFinalityUpdate := fun _ => .ok finality
  getUpdates := fun _ _ _ => .ok [⟨⟨32, emptyRootHash, 68⟩, committee2⟩]
  expectedCurrentSlot := fun _ => 200

def inOrder : Schedule := ⟨fun _ => false, List.range, fun _ => .refl _⟩

def proxy (bootstrapped : Minimal.Store) (finality : Minimal.Header) (world : World) :
    ConsensusHttpProxy Minimal.spec where
  allProviders := [consensusProvider bootstrapped finality]
  schedule := inOrder
  config := ⟨word 0, ()⟩
  validationTimeout := 300
  executionProxy := ⟨world.attempt, [], inOrder, queueAddress, 300, 100⟩

def bootstrapped1 : Minimal.Store := { store1 with nextSyncCommittee := none }

end NoriModel.Sample

namespace NoriProof

open NoriModel NoriModel.Sample

theorem prepared_window_predicts_sample : ∃ window outputs,
    (proxy bootstrapped1 header2 world2).prepareConsensusMptProofInputs known.crypto 96 storeHash1 1 true =
      .ok window ∧
    consensusMptProgram known.crypto window.proofInputs = .ok outputs ∧
    Predicts window 96 storeHash1 1 outputs ∧ 96 < outputs.outputSlot := by
  have succeeds : ((proxy bootstrapped1 header2 world2).prepareConsensusMptProofInputs known.crypto 96 storeHash1 1
      true).isOk = true := by decide +kernel
  cases prepared : (proxy bootstrapped1 header2 world2).prepareConsensusMptProofInputs known.crypto 96 storeHash1 1
      true with
  | error failure =>
    rw [prepared] at succeeds
    cases succeeds
  | ok window =>
    rcases prepared_window_predicts known.crypto minimal_headers minimal_committees _ 96 storeHash1 1 true window store1
      (by decide +kernel) rfl (sample_noCollision (Or.inr (Or.inl rfl)) _) prepared with
      ⟨outputs, accepted, _, predicts, valid, _⟩
    exact ⟨window, outputs, rfl, accepted, predicts, (valid rfl).progress⟩

end NoriProof
