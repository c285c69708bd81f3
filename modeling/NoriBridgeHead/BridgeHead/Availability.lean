import NoriBridgeHead.BridgeHead.Resumption
import NoriBridgeHead.Rpcs.UntrustedProvider

open Foundation Foundation.Outcome Foundation.Session Foundation.LightClient Foundation.Transition

namespace NoriModel

variable {S : ConsensusSpec}

/-- A state with the queue in it, as the types of its contract keep it. -/
structure HoldsQueue (C : Crypto) (state : ExecutionState) (queueAddress : Address) (cursor head : UInt64) : Prop where
  account : ∃ account, state.account queueAddress = some account
  headWord : state.storage queueAddress (storageSlotOfIndex queueHeadStorageIndex) = U256.ofU64 head
  typed : ∀ index < head.toNat, (state.storage queueAddress (requestSlot C index 0)).toNat < 2^160 ∧
    (state.storage queueAddress (requestSlot C index 2)).toNat < 2^8
  behind : cursor ≤ head

/-- An execution node of the chain: whichever later header is finalized, it answers truthfully about the queue at the
    block of that header. -/
def ExecutionProvider.ServesQueue (C : Crypto) (beacon : Beacon S) (queueAddress : Address)
    (position : FinalityChangeDetectorUpdate) (provider : ExecutionProvider) : Prop :=
  ∀ (slot : UInt64) (execution : ExecutionHeader), position.slot < slot →
    S.execution (beacon.header slot.toNat) = some execution →
    ∃ state head, HoldsQueue C state queueAddress position.queueCursor head ∧
      HonestProvider C execution.stateRoot state execution.blockNumber (QueueWord C state queueAddress head.toNat)
        provider

/-- One provider of each kind is good and in time. Of the others nothing is asked but that they answer no count of keys
    that a byte cannot hold. -/
structure ConsensusHttpProxy.Sufficient (C : Crypto) (beacon : Beacon S) (position : FinalityChangeDetectorUpdate)
    (proxy : ConsensusHttpProxy S) : Prop where
  consensus : AnswersInTime proxy.schedule 0 (fun provider => (ConsensusHttpProxy.validatedConsensus C proxy.config
    position.slot position.storeHash true provider).outcome) proxy.allProviders
  execution : ∃ index attempt,
    (proxy.executionProxy.principalProvider :: proxy.executionProxy.backupProviders)[index]? = some attempt ∧
    proxy.executionProxy.schedule.timedOut index = false ∧
    attempt.provider.ServesQueue C beacon proxy.executionProxy.proofQueueAddress position
  counts : ∀ attempt ∈ proxy.executionProxy.principalProvider :: proxy.executionProxy.backupProviders, ∀ block,
    CountsFit C attempt.provider proxy.executionProxy.proofQueueAddress position.queueCursor block
      proxy.executionProxy.chunkLimit

/-- A store that a provider of the proxy is validated with collides with the store of the chain. -/
def ConsensusHttpProxy.StoresCollide (C : Crypto) (beacon : Beacon S) (position : FinalityChangeDetectorUpdate)
    (proxy : ConsensusHttpProxy S) : Prop :=
  ∃ provider ∈ proxy.allProviders, ∃ validated, (ConsensusHttpProxy.validatedConsensus C proxy.config position.slot
    position.storeHash true provider).outcome = .ok validated ∧
      ChainCollision C beacon position validated.validatedConsensusProofInputs.store

end NoriModel

namespace NoriProof

open NoriModel ExecutionHttpProxy

variable {C : Crypto} {S : ConsensusSpec} {beacon : Beacon S} {position : FinalityChangeDetectorUpdate}

section Consensus

theorem fetched_survives {α : Type} (change : String → HostError) (answer : Except String α) :
    Survives (Session.lift (mapErr change (fromResult answer))) :=
  survives_lift (failsOnly_mapErr_fromResult (fun _ => trivial) _)

theorem bootstrapFromSlot_survives (config : ChainConfig S) (provider : ConsensusProvider S) (slot : UInt64) :
    Survives (Client.bootstrapFromSlot config provider slot) := by
  apply Survives.bind (survives_call _)
  intro block
  apply Survives.bind (fetched_survives _ block)
  intro checkpoint
  apply Survives.bind (survives_call _)
  intro store
  apply Survives.bind (fetched_survives _ store)
  intro store
  exact survives_pure _

theorem syncedStore_fails (client : Client S) (expectedCurrentSlot inputSlot : UInt64) (updates : List S.Update) :
    FailsOnly Failure.IsError (client.syncedStore expectedCurrentSlot inputSlot updates) := by
  cases updates with
  | nil =>
    apply FailsOnly.mk
    intro failure failed
    cases failed
    trivial
  | cons firstUpdate rest =>
    unfold Client.syncedStore
    dsimp only
    split
    · apply FailsOnly.bind (failsOnly_mapErr_fromResult (fun _ => trivial) _)
      intro _ _
      exact .of_ok rfl
    · apply FailsOnly.bind
      · apply FailsOnly.bind (failsOnly_mapErr_fromResult (fun _ => trivial) _)
        intro _ _
        exact .of_ok rfl
      · intro _ _
        exact .of_ok rfl

theorem prepareConsensusProofInputs_survives (config : ChainConfig S) (provider : ConsensusProvider S) (slot : UInt64)
    (storeHash : B256) : Survives (Client.prepareConsensusProofInputs config provider slot storeHash) := by
  apply Survives.bind (bootstrapFromSlot_survives config provider slot)
  intro client
  apply Survives.bind
  · apply Survives.bind (survives_call _)
    intro answer
    exact fetched_survives _ answer
  intro finalityUpdate
  apply Survives.bind
  · apply Survives.bind (survives_call _)
    intro answer
    exact fetched_survives _ answer
  intro updates
  apply Survives.bind (survives_call _)
  intro expectedCurrentSlot
  apply Survives.bind (survives_lift (syncedStore_fails client expectedCurrentSlot slot updates))
  intro synced
  exact survives_pure _

theorem checkBootstrap_survives (config : ChainConfig S) (provider : ConsensusProvider S) (slot : UInt64) :
    Survives (ConsensusHttpProxy.checkBootstrap config provider slot) := by
  intro calls
  have handled : FailsOnly Failure.IsError (mapErr (HostError.cannotBootstrapOutput slot)
      (Client.bootstrapFromSlot config provider slot calls)) :=
    mapErr_fails (bootstrapFromSlot_survives config provider slot calls)
  apply FailsOnly.mk
  intro failure failed
  unfold ConsensusHttpProxy.checkBootstrap at failed
  cases booted : mapErr (HostError.cannotBootstrapOutput slot)
      (Client.bootstrapFromSlot config provider slot calls) with
  | ok value =>
    rw [booted] at failed
    cases failed
  | error earlier =>
    rw [booted] at failed
    cases failed
    exact handled.only _ booted

/-- A consensus provider that answers badly costs no more than its own attempt. -/
theorem validatedConsensus_survives (config : ChainConfig S) (slot : UInt64) (storeHash : B256) (validate : Bool)
    (provider : ConsensusProvider S) :
    Survives (ConsensusHttpProxy.validatedConsensus C config slot storeHash validate provider) := by
  apply Survives.bind (prepareConsensusProofInputs_survives config provider slot storeHash)
  intro inputs
  apply Survives.bind (survives_lift (spawnBlocking_fails _))
  intro outputs
  apply Survives.bind
  · apply survives_lift
    apply FailsOnly.bind (failsOnly_ensure trivial)
    intro _ _
    apply FailsOnly.bind (failsOnly_ensure trivial)
    intro _ _
    exact failsOnly_ensure trivial
  intro _
  cases validate with
  | true =>
    apply Survives.bind (checkBootstrap_survives config provider _)
    intro _
    exact survives_pure _
  | false => exact survives_pure _

theorem validatedConsensus_stateRoot (config : ChainConfig S) (slot : UInt64) (storeHash : B256) (validate : Bool)
    (provider : ConsensusProvider S) :
    Ensures (ConsensusHttpProxy.validatedConsensus C config slot storeHash validate provider) fun validated =>
      ∀ outputs, consensusProgram C validated.validatedConsensusProofInputs = .ok outputs →
        validated.expectedExecutionStateRoot = outputs.executionStateRoot := by
  refine ensures_skip ?_
  intro inputs
  refine Ensures.bind (ensures_lift fun outputs returned => spawnBlocking_ok_iff.mp returned) ?_
  intro outputs ran
  refine ensures_skip ?_
  intro _
  have same : ∀ again, consensusProgram C inputs = .ok again →
      outputs.executionStateRoot = again.executionStateRoot := by
    intro again accepted
    cases ran.symm.trans accepted
    rfl
  cases validate with
  | true => exact ensures_skip fun _ => ensures_pure same
  | false => exact ensures_pure same

end Consensus

section Execution

variable {trie : TrieContents} {stateRoot : B256} {state : ExecutionState} {queueAddress : Address}
  {cursor head block : UInt64} {attempt : ExecutionAttempt}

theorem honest_assembles (sound : VerifyProofSound C trie) (chunkLimit : Nat)
    (holds : HoldsQueue C state queueAddress cursor head)
    (honest : HonestProvider C stateRoot state block (QueueWord C state queueAddress head.toNat) attempt.provider) :
    Returns (assembleQueueStorage C attempt queueAddress cursor block stateRoot chunkLimit) fun queueStorage =>
      ∃ output root, verifyQueue C stateRoot queueStorage = .ok (output, root) := by
  rcases holds.account with ⟨account, present⟩
  intro calls
  rcases assembleQueueStorage_honest sound chunkLimit present holds.headWord holds.typed holds.behind honest calls with
    ⟨queueStorage, after, assembled, output, root, accepted, _⟩
  exact ⟨queueStorage, after, assembled, output, root, accepted⟩

/-- An honest node's answers are assembled, and the dry run on them passes. -/
theorem honest_prepares (sound : VerifyProofSound C trie) (chunkLimit : Nat)
    (holds : HoldsQueue C state queueAddress cursor head)
    (honest : HonestProvider C stateRoot state block (QueueWord C state queueAddress head.toNat) attempt.provider)
    {inputs : ConsensusProofInputs S} {outputs : ConsensusProofOutputs}
    (programmed : consensusProgram C inputs = .ok outputs) (sameRoot : outputs.executionStateRoot = stateRoot)
    (checkpoint : outputs.outputSlot % 32 = 0) :
    ∃ proofInputs, (_prepareConsensusMptProofInputs C attempt queueAddress cursor block inputs stateRoot
      chunkLimit).outcome = .ok proofInputs := by
  have prepares : Returns (_prepareConsensusMptProofInputs C attempt queueAddress cursor block inputs stateRoot
      chunkLimit) fun _ => True := by
    refine Returns.bind (honest_assembles sound chunkLimit holds honest) ?_
    rintro queueStorage ⟨output, root, accepted⟩
    rw [← sameRoot] at accepted
    have dryRun : consensusMptProgram C (inputs.withQueue queueStorage) =
        .ok (outputs.withQueue queueStorage output root) :=
      (consensusMptProgram_ok_iff _ _).mpr ⟨outputs, output, root, programmed, accepted, checkpoint, rfl⟩
    exact returns_bind_lift (spawnBlocking_ok_iff.mpr dryRun) (returns_pure trivial)
  rcases prepares 0 with ⟨proofInputs, calls, returned, _⟩
  exact ⟨proofInputs, outcome_ok_iff.mpr ⟨calls, returned⟩⟩

/-- The output cursor of inputs that the dry run has accepted does not overflow. -/
theorem execution_cursor {proxy : ExecutionHttpProxy} {inputs : ConsensusProofInputs S} {proofInputs : ProofInputs S}
    (queried : queryWithFallback proxy.schedule proxy.principalProvider proxy.backupProviders
      (fun attempt => (_prepareConsensusMptProofInputs C attempt proxy.proofQueueAddress cursor block inputs stateRoot
        proxy.chunkLimit).outcome) proxy.validationTimeout = .ok proofInputs) :
    ∃ output, addU64 (ε := HostError) cursor (UInt64.ofNat proofInputs.queueStorage.entries.length) = .ok output := by
  rcases queryWithFallback_ok queried with ⟨attempt, _, ran⟩
  rcases (prepareWith_ensures attempt _ _ _ _ _ _).outcome ran with ⟨_, sameCursor, outputs, accepted⟩
  rcases (consensusMptProgram_ok_iff _ _).mp accepted with ⟨_, output, root, _, drained, _, _⟩
  rcases verifyQueue_ok_iff.mp drained with ⟨_, _, _, count, _, _, advanced⟩
  have limit : maxBatch = 65536 := rfl
  have small : proofInputs.queueStorage.entries.length < 2^64 := by omega
  refine ⟨output, addU64_ok_iff.mpr ?_⟩
  rw [UInt64.toNat_ofNat_of_lt' small, advanced, sameCursor]

theorem execution_returns {proxy : ExecutionHttpProxy} {inputs : ConsensusProofInputs S} {proofInputs : ProofInputs S}
    (inputSlot outputSlot inputBlock : UInt64) (storeHash : B256)
    (queried : queryWithFallback proxy.schedule proxy.principalProvider proxy.backupProviders
      (fun attempt => (_prepareConsensusMptProofInputs C attempt proxy.proofQueueAddress cursor block inputs stateRoot
        proxy.chunkLimit).outcome) proxy.validationTimeout = .ok proofInputs) :
    ∃ window, proxy.prepareConsensusMptProofInputs C inputSlot outputSlot inputBlock block cursor inputs storeHash
      stateRoot = .ok window := by
  rcases execution_cursor queried with ⟨output, sum⟩
  simp only [ExecutionHttpProxy.prepareConsensusMptProofInputs, bind_ok_iff, pure_ok_iff]
  exact ⟨_, proofInputs, queried, output, sum, rfl⟩

end Execution

section Sufficient

variable {store : S.Store} {proxy : ConsensusHttpProxy S}

/-- A store with the hash of a position on the chain is finalized at a header of the chain, which has a payload. -/
theorem OnChain.payload {other : S.Store} (payloads : ∀ slot, (S.execution (beacon.header slot)).isSome)
    (chained : OnChain C beacon position store) (apart : ¬ ChainCollision C beacon position other)
    (hashed : sha256HashHeliosStore C other = .ok position.storeHash) :
    ∃ execution, S.execution other.finalizedHeader = some execution := by
  rcases chained.recorded with ⟨_, recorded⟩
  have canonical : store.finalizedHeader = beacon.header (S.beaconSlot store.finalizedHeader).toNat :=
    recorded.toCanonical.finalized
  have same : store.finalizedHeader = other.finalizedHeader :=
    congrArg LightClient.Client.finalized (OnChain.same_pinned chained apart hashed)
  apply Option.isSome_iff_exists.mp
  rw [← same, canonical]
  exact payloads _

/-- Whichever consensus provider came first, the execution node knows the block that its header names. -/
theorem Sufficient.queries {trie : TrieContents} (sound : VerifyProofSound C trie)
    (sufficient : proxy.Sufficient C beacon position) {inputs : ConsensusProofInputs S}
    {outputs : ConsensusProofOutputs} (programmed : consensusProgram C inputs = .ok outputs)
    (valid : Validated position.slot outputs.outputSlot outputs.nextSyncCommitteeHash)
    (payload : S.execution (beacon.header outputs.outputSlot.toNat) =
      some ⟨outputs.executionStateRoot, outputs.outputBlockNumber⟩) :
    ∃ proofInputs, queryWithFallback proxy.executionProxy.schedule proxy.executionProxy.principalProvider
      proxy.executionProxy.backupProviders (fun attempt => (_prepareConsensusMptProofInputs C attempt
        proxy.executionProxy.proofQueueAddress position.queueCursor outputs.outputBlockNumber inputs
        outputs.executionStateRoot proxy.executionProxy.chunkLimit).outcome)
      proxy.executionProxy.validationTimeout = .ok proofInputs := by
  rcases sufficient.execution with ⟨index, attempt, found, inTime, serves⟩
  rcases serves _ _ valid.progress payload with ⟨state, head, holds, honest⟩
  rcases honest_prepares sound proxy.executionProxy.chunkLimit holds honest programmed rfl valid.checkpoint with
    ⟨proofInputs, prepared⟩
  apply queryWithFallback_returns
  · intro attempt member
    exact prepare_fails attempt inputs (sufficient.counts attempt member _)
  · exact ⟨index, attempt, proofInputs, found, by rwa [Nat.zero_add], prepared⟩

theorem Sufficient.prepares {trie : TrieContents} (sound : VerifyProofSound C trie) (helios : beacon.Helios)
    (payloads : ∀ slot, (S.execution (beacon.header slot)).isSome) (chained : OnChain C beacon position store)
    (apart : ¬ proxy.StoresCollide C beacon position) (sufficient : proxy.Sufficient C beacon position) :
    ∃ window, proxy.prepareConsensusMptProofInputs C position.slot position.storeHash position.queueCursor true =
      .ok window := by
  rcases multiplex_returns proxy.validationTimeout
    (fun provider _ => (validatedConsensus_survives _ _ _ _ provider).outcome) sufficient.consensus with
    ⟨validated, multiplexed⟩
  rcases multiplex_ok multiplexed with ⟨provider, member, ran⟩
  have differ : ¬ ChainCollision C beacon position validated.validatedConsensusProofInputs.store :=
    fun collision => apart ⟨provider, member, validated, ran, collision⟩
  rcases (validatedConsensus_ensures _ _ _ _ provider).outcome ran with ⟨outputs, predicted⟩
  have sameRoot := (validatedConsensus_stateRoot _ _ _ _ provider).outcome ran outputs predicted.accepted
  have hashed := (consensusProgram_input predicted.accepted).1
  rw [predicted.storeHash] at hashed
  rcases OnChain.payload payloads chained differ hashed with ⟨execution, known⟩
  rcases OnChain.follow helios chained differ predicted.storeHash predicted.accepted position.queueCursor with
    ⟨_, _, _, payload⟩
  rcases Sufficient.queries sound sufficient predicted.accepted (predicted.validated rfl) payload with
    ⟨proofInputs, queried⟩
  rw [← predicted.outputBlockNumber, ← sameRoot] at queried
  rcases execution_returns validated.inputSlot validated.outputSlot execution.blockNumber
    validated.expectedOutputStoreHash queried with ⟨window, executed⟩
  refine ⟨window, ?_⟩
  simp only [ConsensusHttpProxy.prepareConsensusMptProofInputs, bind_ok_iff, okOr_ok_iff]
  exact ⟨validated, multiplexed, execution, known, executed⟩

/-- A prepared window holds the inputs that one of the providers was validated with. -/
theorem prepared_validated {slot : UInt64} {storeHash : B256} {cursor : UInt64} {window : ProofInputsWithWindow S}
    (prepared : proxy.prepareConsensusMptProofInputs C slot storeHash cursor true = .ok window) :
    ∃ provider ∈ proxy.allProviders, ∃ validated, (ConsensusHttpProxy.validatedConsensus C proxy.config slot storeHash
      true provider).outcome = .ok validated ∧ window.proofInputs.consensus = validated.validatedConsensusProofInputs ∧
        window.expectedOutputSlot = validated.outputSlot := by
  simp only [ConsensusHttpProxy.prepareConsensusMptProofInputs, bind_ok_iff] at prepared
  rcases prepared with ⟨validated, multiplexed, execution, _, executed⟩
  rcases multiplex_ok multiplexed with ⟨provider, member, ran⟩
  rcases execution_ok executed with ⟨_, outputSlot, _, _, sameInputs, _⟩
  exact ⟨provider, member, validated, ran, sameInputs, outputSlot⟩

end Sufficient

end NoriProof

namespace NoriModel.Sample

end NoriModel.Sample

namespace NoriProof

open NoriModel NoriModel.Sample

end NoriProof
