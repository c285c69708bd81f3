import NoriBridgeHead.Foundation.LightClient
import NoriBridgeHead.Program.StoreHashPins
import NoriBridgeHead.Rpcs.Consensus

open Foundation Foundation.Outcome Foundation.LightClient

namespace NoriModel

variable {S : ConsensusSpec}

/-- The hashed fields of a store, as the light client that they are. -/
def pinned (store : S.Store) : LightClient.Client S.LightClientHeader S.SyncCommittee where
  finalized := store.finalizedHeader
  current := store.currentSyncCommittee
  next := store.nextSyncCommittee

/-- The beacon chain, and what the updates of helios say about it. -/
structure Beacon (S : ConsensusSpec) where
  header : Nat → S.LightClientHeader
  committee : Nat → S.SyncCommittee
  period : Nat → Nat
  ordered : Monotone period
  update : S.Update → LightClient.Update S.LightClientHeader S.SyncCommittee
  finalityUpdate : S.FinalityUpdate → LightClient.Update S.LightClientHeader S.SyncCommittee

namespace Beacon

def chain (beacon : Beacon S) : Chain S.LightClientHeader S.SyncCommittee where
  slot := fun header => (S.beaconSlot header).toNat
  period := beacon.period
  header := beacon.header
  committee := beacon.committee
  ordered := beacon.ordered

/-- What the program relies on in helios: verification guards the canonical stores, and applying an update
    changes the hashed fields as a light client's. -/
structure Helios (beacon : Beacon S) : Prop where
  calcSyncPeriod : ∀ slot, (S.calcSyncPeriod slot).toNat = beacon.period slot.toNat
  finalizedHeader : ∀ update, (beacon.update update).finalized = S.finalizedHeaderOf update
  verifyUpdate : ∀ update expectedCurrentSlot (store : S.Store) genesisRoot forks,
    beacon.chain.Canonical (pinned store) →
    S.verifyUpdate update expectedCurrentSlot store genesisRoot forks = .ok () →
    beacon.chain.Accepts (pinned store) (beacon.update update)
  verifyFinalityUpdate : ∀ update expectedCurrentSlot (store : S.Store) genesisRoot forks,
    beacon.chain.Canonical (pinned store) →
    S.verifyFinalityUpdate update expectedCurrentSlot store genesisRoot forks = .ok () →
    beacon.chain.Accepts (pinned store) (beacon.finalityUpdate update)
  applyUpdate : ∀ (store : S.Store) update,
    pinned (S.applyUpdate store update) = beacon.chain.apply (pinned store) (beacon.update update)
  applyFinalityUpdate : ∀ (store : S.Store) update,
    pinned (S.applyFinalityUpdate store update) = beacon.chain.apply (pinned store) (beacon.finalityUpdate update)

def observed (beacon : Beacon S) (inputs : ConsensusProofInputs S) :
    List (LightClient.Update S.LightClientHeader S.SyncCommittee) :=
  inputs.updates.map beacon.update ++ [beacon.finalityUpdate inputs.finalityUpdate]

end Beacon

/-- What the reconstruction of a store relies on: an update replaces the finalized header only by its own, of a
    strictly greater slot, and the current committee only where the next one was known. -/
structure AppliesInOrder (S : ConsensusSpec) : Prop where
  finalizedHeader : ∀ (store : S.Store) update,
    (S.applyUpdate store update).finalizedHeader = store.finalizedHeader ∨
      (S.applyUpdate store update).finalizedHeader = S.finalizedHeaderOf update ∧
        S.beaconSlot store.finalizedHeader < S.beaconSlot (S.finalizedHeaderOf update)
  currentSyncCommittee : ∀ (store : S.Store) update, store.nextSyncCommittee = none →
    (S.applyUpdate store update).currentSyncCommittee = store.currentSyncCommittee

/-- A store with the next committee and the participant counts of another. -/
def withNextSyncCommittee (store updated : S.Store) : S.Store :=
  { store with
    nextSyncCommittee := updated.nextSyncCommittee
    previousMaxActiveParticipants := updated.previousMaxActiveParticipants
    currentMaxActiveParticipants := updated.currentMaxActiveParticipants }

structure ConsensusRun (C : Crypto) (S : ConsensusSpec) where
  inputs : ConsensusProofInputs S
  outputs : ConsensusProofOutputs
  accepted : consensusProgram C inputs = .ok outputs

/-- Every run is given the hash that the run before it committed. -/
def HashLinked {C : Crypto} (storeHash : B256) : List (ConsensusRun C S) → Prop
  | [] => True
  | run :: rest => run.inputs.storeHash = storeHash ∧ HashLinked run.outputs.outputStoreHash rest

/-- The stores that a chain of runs hashes. -/
def Hashed {C : Crypto} (start : S.Store) (runs : List (ConsensusRun C S)) (store : S.Store) : Prop :=
  store = start ∨ ∃ run ∈ runs, store = run.inputs.store ∨ transition C run.inputs = .ok store

/-- The answers to the first four calls of a preparation. -/
structure ConsensusProvider.Serves (provider : ConsensusProvider S) (slot : UInt64) (bootstrapped : S.Store)
    (firstUpdate : S.Update) : Prop where
  bootstrap : ∃ checkpoint, provider.getBlock 0 slot = .ok checkpoint ∧
    provider.bootstrap 1 checkpoint = .ok bootstrapped
  finalityUpdate : ∃ finalityUpdate, provider.getFinalityUpdate 2 = .ok finalityUpdate
  updates : ∃ rest, provider.getUpdates 3 (S.calcSyncPeriod (S.beaconSlot bootstrapped.finalizedHeader))
    maxRequestLightClientUpdates = .ok (firstUpdate :: rest)

/-- A preparation from the output slot returns when the first update verifies, and then it rebuilds the committed
    store exactly when that update supplies the next committee that the store has. -/
structure Rebuilds (C : Crypto) (beacon : Beacon S) (outputs : ConsensusProofOutputs) (committed : S.Store)
    (config : ChainConfig S) (provider : ConsensusProvider S) (bootstrapped : S.Store) (firstUpdate : S.Update) :
    Prop where
  returns : (∃ inputs, (Client.prepareConsensusProofInputs config provider outputs.outputSlot
      outputs.outputStoreHash).outcome = .ok inputs) ↔
    S.verifyUpdate firstUpdate (provider.expectedCurrentSlot 4) bootstrapped config.genesisRoot config.forks = .ok ()
  pinned_iff : ∀ inputs, (Client.prepareConsensusProofInputs config provider outputs.outputSlot
      outputs.outputStoreHash).outcome = .ok inputs →
    (pinned inputs.store = pinned committed ↔ (committed.nextSyncCommittee.isSome ↔
      beacon.chain.Supplies (beacon.update firstUpdate) (beacon.period outputs.outputSlot.toNat)))
  rehashes : ∀ inputs, (Client.prepareConsensusProofInputs config provider outputs.outputSlot
      outputs.outputStoreHash).outcome = .ok inputs → outputs.nextSyncCommitteeHash ≠ FixedBytes.zero →
    beacon.chain.Supplies (beacon.update firstUpdate) (beacon.period outputs.outputSlot.toNat) →
    sha256HashHeliosStore C inputs.store = .ok outputs.outputStoreHash

end NoriModel

namespace NoriProof

open NoriModel

variable {C : Crypto} {S : ConsensusSpec}

theorem samePinned_iff {left right : S.Store} : SamePinned left right ↔ pinned left = pinned right := by
  simp only [pinned, LightClient.Client.mk.injEq]
  constructor
  · intro same
    exact ⟨same.finalizedHeader, same.currentSyncCommittee, same.nextSyncCommittee⟩
  · intro same
    exact ⟨same.1, same.2.1, same.2.2⟩

section Runs

variable {beacon : Beacon S} (helios : beacon.Helios)
include helios

theorem updateStep_recorded {inputs : ConsensusProofInputs S} {store next : S.Store} {enumerated : S.Update × Nat}
    {seen : List (LightClient.Update S.LightClientHeader S.SyncCommittee)}
    (recorded : beacon.chain.Recorded (pinned store) seen) (stepped : updateStep inputs store enumerated = .ok next) :
    beacon.chain.Recorded (pinned next) (seen ++ [beacon.update enumerated.1]) := by
  simp only [updateStep, bind_ok_iff, mapErr_ok_iff, fromResult_ok_iff, pure_ok_iff] at stepped
  rcases stepped with ⟨_, verified, rfl⟩
  rw [helios.applyUpdate]
  exact recorded.apply (helios.verifyUpdate _ _ _ _ _ recorded.toCanonical verified)

theorem transition_recorded {inputs : ConsensusProofInputs S} {store : S.Store}
    {seen : List (LightClient.Update S.LightClientHeader S.SyncCommittee)}
    (recorded : beacon.chain.Recorded (pinned inputs.store) seen) (reached : transition C inputs = .ok store) :
    beacon.chain.Recorded (pinned store) (seen ++ beacon.observed inputs) := by
  rcases (transition_ok_iff inputs store).mp reached with ⟨_, looped, folded, verified, rfl⟩
  let invariant := fun (done : List (S.Update × Nat)) (store : S.Store) =>
    beacon.chain.Recorded (pinned store) (seen ++ done.map fun enumerated => beacon.update enumerated.1)
  have kept : invariant ([] ++ inputs.updates.zipIdx) looped := by
    apply foldlM_ok_invariant (updateStep inputs) invariant ?_ _ _ inputs.store looped ?_ folded
    · intro done enumerated store next recorded stepped
      have extended := updateStep_recorded helios recorded stepped
      rw [List.append_assoc] at extended
      simpa only [invariant, List.map_append, List.map_cons, List.map_nil] using extended
    · simpa only [invariant, List.map_nil, List.append_nil] using recorded
  have names : (inputs.updates.zipIdx.map fun enumerated => beacon.update enumerated.1) =
      inputs.updates.map beacon.update := by
    calc inputs.updates.zipIdx.map (beacon.update ∘ Prod.fst)
      _ = (inputs.updates.zipIdx.map Prod.fst).map beacon.update := (List.map_map ..).symm
      _ = inputs.updates.map beacon.update := by rw [List.zipIdx_map_fst]
  have updated : beacon.chain.Recorded (pinned looped) (seen ++ inputs.updates.map beacon.update) := by
    rw [← names]
    exact kept
  rw [helios.applyFinalityUpdate, Beacon.observed, ← List.append_assoc]
  exact updated.apply (helios.verifyFinalityUpdate _ _ _ _ _ updated.toCanonical verified)

omit helios in
theorem consensusRun_commits (run : ConsensusRun C S) : ∃ committed, transition C run.inputs = .ok committed ∧
    sha256HashHeliosStore C committed = .ok run.outputs.outputStoreHash ∧
    run.outputs.outputSlot = S.beaconSlot committed.finalizedHeader ∧
    run.outputs.nextSyncCommitteeHash = nextSyncCommitteeHashOf committed := by
  have accepted := run.accepted
  rw [consensusProgram_eq, bind_ok_iff] at accepted
  rcases accepted with ⟨committed, reached, outputs⟩
  rcases (commitConsensus_ok_iff _ _ _).mp outputs with ⟨_, storeHash, _, hashed, same⟩
  rw [same]
  exact ⟨committed, reached, hashed, rfl, rfl⟩

variable (headers : SelfDelimiting S.headerToVec) (committees : SelfDelimiting S.committeeToVec)
include headers committees

omit helios in
/-- The input store of a run has the hashed fields of the store that was committed before it. -/
theorem linked_pinned {start : S.Store} {storeHash : B256} {run : ConsensusRun C S}
    (hashed : sha256HashHeliosStore C start = .ok storeHash) (linked : run.inputs.storeHash = storeHash)
    (distinct : NoCollision C start run.inputs.store) : pinned start = pinned run.inputs.store := by
  have checked := (consensusProgram_input run.accepted).1
  rw [linked] at checked
  exact samePinned_iff.mp (sha256HashHeliosStore_pins headers committees distinct hashed checked)

theorem linked_recorded {start committed : S.Store} {storeHash : B256}
    {seen : List (LightClient.Update S.LightClientHeader S.SyncCommittee)} {before after : List (ConsensusRun C S)}
    {run : ConsensusRun C S} (recorded : beacon.chain.Recorded (pinned start) seen)
    (hashed : sha256HashHeliosStore C start = .ok storeHash) (linked : HashLinked storeHash (before ++ run :: after))
    (distinct : ∀ left right, Hashed start (before ++ run :: after) left →
      Hashed start (before ++ run :: after) right → NoCollision C left right)
    (reached : transition C run.inputs = .ok committed) :
    beacon.chain.Recorded (pinned committed)
      (seen ++ (before ++ [run]).flatMap fun run => beacon.observed run.inputs) := by
  induction before generalizing start storeHash seen with
  | nil =>
    have apart := distinct start run.inputs.store (Or.inl rfl) (Or.inr ⟨run, List.mem_cons_self .., Or.inl rfl⟩)
    rw [linked_pinned headers committees hashed linked.1 apart] at recorded
    have stepped := transition_recorded helios recorded reached
    rwa [List.nil_append, List.flatMap_singleton]
  | cons first before ih =>
    have member : first ∈ first :: before ++ run :: after := List.mem_cons_self ..
    have apart := distinct start first.inputs.store (Or.inl rfl) (Or.inr ⟨first, member, Or.inl rfl⟩)
    rw [linked_pinned headers committees hashed linked.1 apart] at recorded
    rcases consensusRun_commits first with ⟨next, moved, rehashed, _, _⟩
    have stepped := transition_recorded helios recorded moved
    have later : ∀ store, Hashed next (before ++ run :: after) store →
        Hashed start (first :: before ++ run :: after) store := by
      intro store held
      rcases held with rfl | ⟨other, inside, holds⟩
      · exact Or.inr ⟨first, member, Or.inr moved⟩
      · exact Or.inr ⟨other, List.mem_cons_of_mem _ inside, holds⟩
    have rest := ih stepped rehashed linked.2 fun left right heldLeft heldRight =>
      distinct left right (later left heldLeft) (later right heldRight)
    rw [List.cons_append, List.flatMap_cons, ← List.append_assoc]
    exact rest

end Runs

section Rebuilt

theorem prepared_ok_iff (config : ChainConfig S) {provider : ConsensusProvider S} {slot : UInt64} (storeHash : B256)
    {bootstrapped : S.Store} {firstUpdate : S.Update} (serves : provider.Serves slot bootstrapped firstUpdate) :
    ∃ finalityUpdate rest, ∀ inputs,
      (Client.prepareConsensusProofInputs config provider slot storeHash).outcome = .ok inputs ↔
        ∃ synced, Client.syncedStore ⟨provider, config, bootstrapped⟩ (provider.expectedCurrentSlot 4) slot
          (firstUpdate :: rest) = .ok synced ∧ inputs = ⟨synced.2, finalityUpdate, provider.expectedCurrentSlot 4,
            synced.1, config.genesisRoot, config.forks, storeHash⟩ := by
  rcases serves with ⟨⟨checkpoint, block, boot⟩, ⟨finalityUpdate, finality⟩, ⟨rest, updates⟩⟩
  refine ⟨finalityUpdate, rest, ?_⟩
  intro inputs
  have checkpointed : Client.bootstrapFromCheckpoint config provider checkpoint 1 =
      .ok (⟨provider, config, bootstrapped⟩, 2) := by
    simp only [Client.bootstrapFromCheckpoint, Session.bind_apply, Session.call, ok_bind, boot]
    rfl
  have client : Client.bootstrapFromSlot config provider slot 0 = .ok (⟨provider, config, bootstrapped⟩, 2) := by
    simp only [Client.bootstrapFromSlot, Session.bind_apply, Session.call, ok_bind, block]
    exact checkpointed
  have newest : Client.getLatestFinalityUpdate ⟨provider, config, bootstrapped⟩ 2 = .ok (finalityUpdate, 3) := by
    simp only [Client.getLatestFinalityUpdate, Session.bind_apply, Session.call, ok_bind, finality]
    rfl
  have fetched : Client.getUpdates ⟨provider, config, bootstrapped⟩ 3 = .ok (firstUpdate :: rest, 4) := by
    simp only [Client.getUpdates, Session.bind_apply, Session.call, ok_bind, updates]
    rfl
  simp only [Client.prepareConsensusProofInputs, Session.outcome, Session.bind_apply, client, newest, fetched, ok_bind,
    Session.call, Session.lift]
  cases Client.syncedStore ⟨provider, config, bootstrapped⟩ (provider.expectedCurrentSlot 4) slot
      (firstUpdate :: rest) with
  | error failure =>
    constructor
    · intro returned
      cases returned
    · rintro ⟨_, returned, _⟩
      cases returned
  | ok synced =>
    constructor
    · intro returned
      cases returned
      exact ⟨synced, rfl, rfl⟩
    · rintro ⟨_, returned, rfl⟩
      cases returned
      rfl

variable {client : Client S} {expectedCurrentSlot slot : UInt64} {firstUpdate : S.Update} {rest : List S.Update}

theorem syncedStore_returns_iff :
    (∃ synced, client.syncedStore expectedCurrentSlot slot (firstUpdate :: rest) = .ok synced) ↔
      S.verifyUpdate firstUpdate expectedCurrentSlot client.store client.config.genesisRoot client.config.forks =
        .ok () := by
  simp only [Client.syncedStore, Client.getStoreWithNextSyncCommittee]
  split
  · simp only [bind_ok_iff, mapErr_ok_iff, fromResult_ok_iff, pure_ok_iff]
    constructor
    · rintro ⟨_, _, verified, _⟩
      exact verified
    · intro verified
      exact ⟨_, (), verified, rfl⟩
  · simp only [bind_ok_iff, mapErr_ok_iff, fromResult_ok_iff, pure_ok_iff]
    constructor
    · rintro ⟨_, _, ⟨_, verified, _⟩, _⟩
      exact verified
    · intro verified
      exact ⟨_, _, ⟨(), verified, rfl⟩, rfl⟩

/-- Whether the first update is older than the slot or not, only its next committee reaches the rebuilt store. -/
theorem syncedStore_grafts {beacon : Beacon S} (helios : beacon.Helios) {synced : S.Store × List S.Update}
    (atSlot : S.beaconSlot client.store.finalizedHeader = slot) (missing : client.store.nextSyncCommittee = none)
    (returned : client.syncedStore expectedCurrentSlot slot (firstUpdate :: rest) = .ok synced) :
    pinned synced.1 = beacon.chain.graft (pinned client.store) (beacon.update firstUpdate) := by
  simp only [Client.syncedStore, Client.getStoreWithNextSyncCommittee] at returned
  split at returned
  · rename_i older
    simp only [bind_ok_iff, pure_ok_iff] at returned
    rcases returned with ⟨_, _, rfl⟩
    rw [helios.applyUpdate]
    apply apply_eq_graft missing
    show ¬ (S.beaconSlot client.store.finalizedHeader).toNat <
      (S.beaconSlot (beacon.update firstUpdate).finalized).toNat
    rw [helios.finalizedHeader, atSlot]
    have bound := UInt64.lt_iff_toNat_lt.mp older
    omega
  · simp only [bind_ok_iff, pure_ok_iff] at returned
    rcases returned with ⟨_, ⟨_, _, rfl⟩, rfl⟩
    have applied := helios.applyUpdate client.store firstUpdate
    show (⟨client.store.finalizedHeader, client.store.currentSyncCommittee,
      (pinned (S.applyUpdate client.store firstUpdate)).next⟩ : LightClient.Client _ _) = _
    rw [applied]
    rfl

theorem bootstrap_slot {beacon : Beacon S} {committed : S.Store} {slot : Nat}
    (canonical : beacon.chain.Canonical (pinned committed))
    (atSlot : beacon.chain.clientSlot (pinned committed) = slot) :
    beacon.chain.slot (beacon.chain.header slot) = slot := by
  have header := canonical.finalized
  rw [atSlot] at header
  rw [← header]
  exact atSlot

theorem prepared_rebuilds {beacon : Beacon S} (helios : beacon.Helios) {outputs : ConsensusProofOutputs}
    {committed bootstrapped : S.Store} {config : ChainConfig S} {provider : ConsensusProvider S}
    (canonical : beacon.chain.Canonical (pinned committed))
    (hashed : sha256HashHeliosStore C committed = .ok outputs.outputStoreHash)
    (atSlot : beacon.chain.clientSlot (pinned committed) = outputs.outputSlot.toNat)
    (nonzero : outputs.nextSyncCommitteeHash ≠ FixedBytes.zero → committed.nextSyncCommittee.isSome)
    (serves : provider.Serves outputs.outputSlot bootstrapped firstUpdate)
    (booted : pinned bootstrapped = beacon.chain.bootstrap outputs.outputSlot.toNat) :
    Rebuilds C beacon outputs committed config provider bootstrapped firstUpdate := by
  rcases prepared_ok_iff config outputs.outputStoreHash serves with ⟨finalityUpdate, rest, prepared_iff⟩
  have filled := bootstrap_slot canonical atSlot
  have bootCanonical : beacon.chain.Canonical (pinned bootstrapped) := by
    rw [booted]
    exact (bootstrap_recorded filled).toCanonical
  have bootSlot : beacon.chain.clientSlot (pinned bootstrapped) = outputs.outputSlot.toNat := by
    rw [booted]
    exact filled
  have sameSlot : S.beaconSlot bootstrapped.finalizedHeader = outputs.outputSlot := UInt64.toNat_inj.mp bootSlot
  have missing : (pinned bootstrapped).next = none := by
    rw [booted]
    rfl
  have agrees : ∀ inputs, (Client.prepareConsensusProofInputs config provider outputs.outputSlot
      outputs.outputStoreHash).outcome = .ok inputs → (pinned inputs.store = pinned committed ↔
        (committed.nextSyncCommittee.isSome ↔
          beacon.chain.Supplies (beacon.update firstUpdate) (beacon.period outputs.outputSlot.toNat))) := by
    intro inputs returned
    rcases (prepared_iff inputs).mp returned with ⟨synced, ran, rfl⟩
    have verified := syncedStore_returns_iff.mp ⟨synced, ran⟩
    have accepted := helios.verifyUpdate _ _ _ _ _ bootCanonical verified
    have grafted := syncedStore_grafts helios sameSlot missing ran
    have rebuilt := graft_canonical missing accepted bootCanonical
    have supplies := graft_isSome_iff missing accepted
    have period : beacon.chain.clientPeriod (pinned bootstrapped) = beacon.period outputs.outputSlot.toNat :=
      congrArg beacon.period bootSlot
    rw [period] at supplies
    show pinned synced.1 = pinned committed ↔ _
    rw [grafted, rebuilt.eq_iff canonical (bootSlot.trans atSlot.symm), supplies]
    exact Iff.comm
  apply Rebuilds.mk
  · constructor
    · rintro ⟨inputs, returned⟩
      rcases (prepared_iff inputs).mp returned with ⟨synced, ran, _⟩
      exact syncedStore_returns_iff.mp ⟨synced, ran⟩
    · intro verified
      have synced : ∃ synced, Client.syncedStore ⟨provider, config, bootstrapped⟩ (provider.expectedCurrentSlot 4)
          outputs.outputSlot (firstUpdate :: rest) = .ok synced := syncedStore_returns_iff.mpr verified
      rcases synced with ⟨synced, ran⟩
      exact ⟨_, (prepared_iff _).mpr ⟨synced, ran, rfl⟩⟩
  · exact agrees
  · intro inputs returned next supplies
    have same := (agrees inputs returned).mpr ⟨fun _ => supplies, fun _ => nonzero next⟩
    rw [SamePinned.hash (samePinned_iff.mpr same)]
    exact hashed

end Rebuilt

section Reconstructed

theorem helios_appliesInOrder {beacon : Beacon S} (helios : beacon.Helios) : AppliesInOrder S := by
  apply AppliesInOrder.mk
  · intro store update
    have applied := congrArg LightClient.Client.finalized (helios.applyUpdate store update)
    by_cases newer : beacon.chain.Newer (pinned store) (beacon.update update)
    · have slots : S.beaconSlot store.finalizedHeader < S.beaconSlot (S.finalizedHeaderOf update) := by
        rw [UInt64.lt_iff_toNat_lt, ← helios.finalizedHeader]
        exact newer
      by_cases applies : beacon.chain.Applies (pinned store) (beacon.update update)
      · right
        rw [Chain.apply, if_pos applies, if_pos newer] at applied
        exact ⟨applied.trans (helios.finalizedHeader update), slots⟩
      · left
        rw [Chain.apply, if_neg applies] at applied
        exact applied
    · left
      rw [Chain.apply, if_neg newer] at applied
      split at applied
      · rw [Chain.rotate] at applied
        split at applied
        · exact applied
        · split at applied <;> exact applied
      · exact applied
  · intro store update missing
    have applied := congrArg LightClient.Client.current (helios.applyUpdate store update)
    have unknown : (pinned store).next = none := missing
    rw [Chain.apply, rotate_of_missing unknown] at applied
    split at applied
    · split at applied <;> exact applied
    · exact applied

theorem getStoreWithNextSyncCommittee_ok_iff {expectedCurrentSlot : UInt64} {store grafted : S.Store}
    {genesisRoot : B256} {forks : S.Forks} {firstUpdate : S.Update} :
    Client.getStoreWithNextSyncCommittee expectedCurrentSlot store genesisRoot forks firstUpdate = .ok grafted ↔
      S.verifyUpdate firstUpdate expectedCurrentSlot store genesisRoot forks = .ok () ∧
        grafted = withNextSyncCommittee store (S.applyUpdate store firstUpdate) := by
  simp only [Client.getStoreWithNextSyncCommittee, bind_ok_iff, mapErr_ok_iff, fromResult_ok_iff, pure_ok_iff]
  constructor
  · rintro ⟨_, verified, rfl⟩
    exact ⟨verified, rfl⟩
  · rintro ⟨verified, rfl⟩
    exact ⟨(), verified, rfl⟩

variable (ordered : AppliesInOrder S) {store : S.Store} {update : S.Update}
include ordered

/-- An update that is not newer changes only the next committee among the hashed fields of a bootstrapped store. -/
theorem applyUpdate_older (missing : store.nextSyncCommittee = none)
    (older : S.beaconSlot (S.finalizedHeaderOf update) ≤ S.beaconSlot store.finalizedHeader) :
    SamePinned (S.applyUpdate store update) (withNextSyncCommittee store (S.applyUpdate store update)) := by
  apply SamePinned.mk
  · rcases ordered.finalizedHeader store update with kept | ⟨_, newer⟩
    · exact kept
    · exact absurd newer (UInt64.not_lt.mpr older)
  · exact ordered.currentSyncCommittee store update missing
  · rfl

theorem syncedStore_agrees {provider : ConsensusProvider S} {config : ChainConfig S} {expectedCurrentSlot : UInt64}
    (missing : store.nextSyncCommittee = none)
    (verified : S.verifyUpdate update expectedCurrentSlot store config.genesisRoot config.forks = .ok ())
    (rest : List S.Update) : ∃ synced updates,
      Client.syncedStore ⟨provider, config, store⟩ expectedCurrentSlot (S.beaconSlot store.finalizedHeader)
        (update :: rest) = .ok (synced, updates) ∧
      SamePinned synced (withNextSyncCommittee store (S.applyUpdate store update)) := by
  unfold Client.syncedStore
  by_cases older : S.beaconSlot (S.finalizedHeaderOf update) < S.beaconSlot store.finalizedHeader
  · have applied : mapErr HostError.verifyUpdateFailed (fromResult (S.verifyUpdate update expectedCurrentSlot store
        config.genesisRoot config.forks)) = .ok () := mapErr_ok_iff.mpr (fromResult_ok_iff.mpr verified)
    simp only [older, ↓reduceIte, applied, ok_bind]
    exact ⟨_, _, rfl, applyUpdate_older ordered missing (UInt64.le_of_lt older)⟩
  · have grafted : Client.getStoreWithNextSyncCommittee expectedCurrentSlot store config.genesisRoot config.forks
        update = .ok (withNextSyncCommittee store (S.applyUpdate store update)) :=
      getStoreWithNextSyncCommittee_ok_iff.mpr ⟨verified, rfl⟩
    simp only [older, ↓reduceIte, grafted, ok_bind]
    exact ⟨_, _, rfl, rfl, rfl, rfl⟩

end Reconstructed

/-- The store is rebuilt without being advanced, whatever the slot of the first update, and for an update that is not
    newer than the store the branch that applies it in place rebuilds the same hashed fields. -/
theorem reconstruction_agrees (C : Crypto) {S : ConsensusSpec} (ordered : AppliesInOrder S) (bootstrapped : S.Store)
    (inputSlot : UInt64) (missing : bootstrapped.nextSyncCommittee = none)
    (atSlot : S.beaconSlot bootstrapped.finalizedHeader = inputSlot) (config : ChainConfig S)
    (firstUpdate : S.Update) (expectedCurrentSlot : UInt64)
    (verified : S.verifyUpdate firstUpdate expectedCurrentSlot bootstrapped config.genesisRoot config.forks = .ok ()) :
    ∃ grafted, Client.getStoreWithNextSyncCommittee expectedCurrentSlot bootstrapped config.genesisRoot config.forks
        firstUpdate = .ok grafted ∧
      grafted.finalizedHeader = bootstrapped.finalizedHeader ∧
      grafted.currentSyncCommittee = bootstrapped.currentSyncCommittee ∧
      grafted.optimisticHeader = bootstrapped.optimisticHeader ∧
      grafted.bestValidUpdate = bootstrapped.bestValidUpdate ∧
      (S.beaconSlot (S.finalizedHeaderOf firstUpdate) ≤ inputSlot →
        SamePinned (S.applyUpdate bootstrapped firstUpdate) grafted ∧
        sha256HashHeliosStore C (S.applyUpdate bootstrapped firstUpdate) = sha256HashHeliosStore C grafted) ∧
      ∀ (provider : ConsensusProvider S) (rest : List S.Update), ∃ store updates,
        Client.syncedStore ⟨provider, config, bootstrapped⟩ expectedCurrentSlot inputSlot (firstUpdate :: rest) =
          .ok (store, updates) ∧
        SamePinned store grafted ∧ sha256HashHeliosStore C store = sha256HashHeliosStore C grafted := by
  subst atSlot
  refine ⟨withNextSyncCommittee bootstrapped (S.applyUpdate bootstrapped firstUpdate),
    getStoreWithNextSyncCommittee_ok_iff.mpr ⟨verified, rfl⟩, rfl, rfl, rfl, rfl, ?_, ?_⟩
  · intro older
    have same := applyUpdate_older ordered missing older
    exact ⟨same, SamePinned.hash same⟩
  · intro provider rest
    rcases syncedStore_agrees ordered missing verified rest with ⟨store, updates, returned, same⟩
    exact ⟨store, updates, returned, same, SamePinned.hash same⟩

/-- Every store that a chain of runs commits is canonical, its next committee came with an update of the chain, and
    a bootstrap at its slot with an update that supplies the committee rebuilds it. -/
theorem hash_chain_recoverable (C : Crypto) {S : ConsensusSpec} (headers : SelfDelimiting S.headerToVec)
    (committees : SelfDelimiting S.committeeToVec) (beacon : Beacon S) (helios : beacon.Helios) (start : S.Store)
    (seen : List (LightClient.Update S.LightClientHeader S.SyncCommittee))
    (recorded : beacon.chain.Recorded (pinned start) seen) (storeHash : B256)
    (hashed : sha256HashHeliosStore C start = .ok storeHash) (before after : List (ConsensusRun C S))
    (run : ConsensusRun C S) (linked : HashLinked storeHash (before ++ run :: after))
    (distinct : ∀ left right, Hashed start (before ++ run :: after) left →
      Hashed start (before ++ run :: after) right → NoCollision C left right) :
    ∃ committed : S.Store, sha256HashHeliosStore C committed = .ok run.outputs.outputStoreHash ∧
      beacon.chain.clientSlot (pinned committed) = run.outputs.outputSlot.toNat ∧
      beacon.chain.Recorded (pinned committed)
        (seen ++ (before ++ [run]).flatMap fun run => beacon.observed run.inputs) ∧
      (run.outputs.nextSyncCommitteeHash ≠ FixedBytes.zero → committed.nextSyncCommittee.isSome) ∧
      ∀ (config : ChainConfig S) (provider : ConsensusProvider S) (bootstrapped : S.Store) (firstUpdate : S.Update),
        provider.Serves run.outputs.outputSlot bootstrapped firstUpdate →
        pinned bootstrapped = beacon.chain.bootstrap run.outputs.outputSlot.toNat →
        Rebuilds C beacon run.outputs committed config provider bootstrapped firstUpdate := by
  rcases consensusRun_commits run with ⟨committed, reached, rehashed, slot, next⟩
  have kept := linked_recorded helios headers committees recorded hashed linked distinct reached
  have atSlot : beacon.chain.clientSlot (pinned committed) = run.outputs.outputSlot.toNat := by
    rw [slot]
    rfl
  have nonzero : run.outputs.nextSyncCommitteeHash ≠ FixedBytes.zero → committed.nextSyncCommittee.isSome := by
    intro nonzero
    rw [next, nextSyncCommitteeHashOf] at nonzero
    cases known : committed.nextSyncCommittee with
    | none =>
      rw [known] at nonzero
      exact absurd rfl nonzero
    | some committee => rfl
  refine ⟨committed, rehashed, atSlot, kept, nonzero, ?_⟩
  intro config provider bootstrapped firstUpdate serves booted
  exact prepared_rebuilds helios kept.toCanonical rehashed atSlot nonzero serves booted

end NoriProof

namespace NoriModel.Sample

abbrev BeaconUpdate := LightClient.Update Minimal.Header B256
abbrev BeaconStore := LightClientStore Minimal.Header B256 BeaconUpdate

def beaconHeader (slot : Nat) : Minimal.Header := ⟨UInt64.ofNat slot, emptyRootHash, UInt64.ofNat (slot + 36)⟩
def beaconCommittee (period : Nat) : B256 := word (0xc0 + period)

def beaconChain : Chain Minimal.Header B256 where
  slot := fun header => header.slot.toNat
  period := fun slot => slot / 8192
  header := beaconHeader
  committee := beaconCommittee
  ordered := fun _ _ earlier => Nat.div_le_div_right earlier

def beaconClient (store : BeaconStore) : LightClient.Client Minimal.Header B256 :=
  ⟨store.finalizedHeader, store.currentSyncCommittee, store.nextSyncCommittee⟩

def beaconVerify (update : BeaconUpdate) (expectedCurrentSlot : UInt64) (store : BeaconStore) : Except String Unit :=
  if update.signatureSlot ≤ expectedCurrentSlot.toNat ∧ beaconChain.Accepts (beaconClient store) update then .ok ()
  else .error "NotRelevant"

def beaconApply (store : BeaconStore) (update : BeaconUpdate) : BeaconStore :=
  let client := beaconChain.apply (beaconClient store) update
  { store with
    finalizedHeader := client.finalized
    currentSyncCommittee := client.current
    nextSyncCommittee := client.next }

/-- Consensus types whose updates say what they attest. -/
def beaconSpec : ConsensusSpec where
  LightClientHeader := Minimal.Header
  SyncCommittee := B256
  GenericUpdate := BeaconUpdate
  Update := BeaconUpdate
  FinalityUpdate := BeaconUpdate
  Forks := Unit
  beaconSlot := Minimal.Header.slot
  execution := fun header => some header.execution
  treeHashRoot := id
  finalizedHeaderOf := LightClient.Update.finalized
  calcSyncPeriod := fun slot => slot / 8192
  verifyUpdate := fun update slot store _ _ => beaconVerify update slot store
  verifyFinalityUpdate := fun update slot store _ _ => beaconVerify update slot store
  applyUpdate := beaconApply
  applyFinalityUpdate := beaconApply
  headerToVec := fun header => .ok (Minimal.encodeHeader header)
  committeeToVec := fun committee => .ok (Minimal.encodeB256 committee)

instance : DecidableEq beaconSpec.Store := inferInstanceAs (DecidableEq BeaconStore)

def beacon : Beacon beaconSpec where
  header := beaconHeader
  committee := beaconCommittee
  period := fun slot => slot / 8192
  ordered := beaconChain.ordered
  update := id
  finalityUpdate := id

def beaconStore (optimistic slot period : Nat) (next : Option B256) : BeaconStore :=
  ⟨beaconHeader slot, beaconCommittee period, next, beaconHeader optimistic, 0, 0, none⟩

def bootStore : beaconSpec.Store := beaconStore 8128 8128 0 none

/-- The committees that the two runs go through: the second update finalizes a slot of the next period. -/
def rotatingUpdates : List BeaconUpdate :=
  [⟨beaconHeader 8096, 8170, 8171, some (beaconCommittee 1), true⟩,
    ⟨beaconHeader 8224, 8290, 8291, some (beaconCommittee 2), true⟩]

def bootHash : B256 := word 0xf2a285dee87c43608dd91a5e02d9ca34ebcc3a0fc47b4de30189623ad24cfd1c
def rotatedHash : B256 := word 0x23f377aa6fa1f26edaf412d8c5fa0e3bad7115967102a14748260f5b7e2210eb
def advancedHash : B256 := word 0x9e55db55623f0c5a5fd335ba17fca51ab51e0d0e2e84379dcf73de29b0ebb8ac

def beaconCode (store : BeaconStore) : List UInt8 :=
  Minimal.encodeHeader store.finalizedHeader ++ (Minimal.encodeB256 store.currentSyncCommittee ++
    (store.nextSyncCommittee.map Minimal.encodeB256).getD [])

def rotatedStore : beaconSpec.Store := beaconStore 8128 8256 1 (some (beaconCommittee 2))
def advancedStore : beaconSpec.Store := beaconStore 8128 8288 1 (some (beaconCommittee 2))

def beaconKnown : KnownTries where
  keccak := []
  sha := [(beaconCode bootStore, bootHash), (beaconCode rotatedStore, rotatedHash),
    (beaconCode advancedStore, advancedHash)]
  poseidon := []
  proofs := []

def rotatingRun : ConsensusRun beaconKnown.crypto beaconSpec where
  inputs := ⟨rotatingUpdates, ⟨beaconHeader 8256, 8330, 8331, none, true⟩, 9000, bootStore, word 0, (), bootHash⟩
  outputs := ⟨8128, bootHash, 8256, rotatedHash, emptyRootHash, beaconCommittee 2, 8292⟩
  accepted := by decide +kernel

def advancingRun : ConsensusRun beaconKnown.crypto beaconSpec where
  inputs := ⟨[], ⟨beaconHeader 8288, 8360, 8361, none, true⟩, 9000, rotatedStore, word 0, (), rotatedHash⟩
  outputs := ⟨8256, rotatedHash, 8288, advancedHash, emptyRootHash, beaconCommittee 2, 8324⟩
  accepted := by decide +kernel

def rebootStore : beaconSpec.Store := beaconStore 8288 8288 1 none

def beaconProvider : ConsensusProvider beaconSpec where
  getBlock := fun _ slot => .ok (word slot.toNat)
  bootstrap := fun _ _ => .ok rebootStore
  getFinalityUpdate := fun _ => .ok ⟨beaconHeader 8320, 8400, 8401, none, true⟩
  getUpdates := fun _ _ _ => .ok (rotatingUpdates.drop 1)
  expectedCurrentSlot := fun _ => 9000

end NoriModel.Sample

namespace NoriProof

open NoriModel NoriModel.Sample

theorem beaconVerify_accepts {update : BeaconUpdate} {slot : UInt64} {store : BeaconStore}
    (verified : beaconVerify update slot store = .ok ()) : beaconChain.Accepts (beaconClient store) update := by
  unfold beaconVerify at verified
  split at verified
  · rename_i both
    exact both.2
  · cases verified

theorem beacon_helios : beacon.Helios := by
  apply Beacon.Helios.mk
  · intro slot
    exact UInt64.toNat_div slot 8192
  · intro update
    rfl
  · intro update slot store _ _ _ verified
    exact beaconVerify_accepts verified
  · intro update slot store _ _ _ verified
    exact beaconVerify_accepts verified
  · intro store update
    rfl
  · intro store update
    rfl

theorem beacon_stores {store : beaconSpec.Store} (hashed : Hashed bootStore [rotatingRun, advancingRun] store) :
    store = bootStore ∨ store = rotatedStore ∨ store = advancedStore := by
  have rotated : transition beaconKnown.crypto rotatingRun.inputs = .ok rotatedStore := by decide +kernel
  have advanced : transition beaconKnown.crypto advancingRun.inputs = .ok advancedStore := by decide +kernel
  rcases hashed with rfl | ⟨run, member, holds⟩
  · exact Or.inl rfl
  · rcases List.mem_pair.mp member with rfl | rfl
    · rcases holds with rfl | reached
      · exact Or.inl rfl
      · exact Or.inr (Or.inl (Except.ok.inj (reached.symm.trans rotated)))
    · rcases holds with rfl | reached
      · exact Or.inr (Or.inl rfl)
      · exact Or.inr (Or.inr (Except.ok.inj (reached.symm.trans advanced)))

theorem beacon_serialize (store : beaconSpec.Store) : serializeHeliosStoreSerde store = .ok (beaconCode store) := by
  apply (serializeHeliosStoreSerde_ok_iff store _).mpr
  refine ⟨_, _, _, rfl, rfl, ?_, rfl⟩
  cases store.nextSyncCommittee <;> rfl

theorem beacon_noCollision {store : beaconSpec.Store} (hashed : Hashed bootStore [rotatingRun, advancingRun] store)
    (other : beaconSpec.Store) : NoCollision beaconKnown.crypto store other := by
  apply knownTries_noCollision (beacon_serialize store)
  · rcases beacon_stores hashed with rfl | rfl | rfl <;> decide +kernel
  · rcases beacon_stores hashed with rfl | rfl | rfl <;> decide +kernel

/-- Two runs from a bootstrap at slot 8128 rotate the committees; a bootstrap at slot 8288 rebuilds their store. -/
theorem hash_chain_recoverable_rotation : ∃ inputs, (Client.prepareConsensusProofInputs ⟨word 0, ()⟩ beaconProvider
      8288 advancedHash).outcome = .ok inputs ∧
    sha256HashHeliosStore beaconKnown.crypto inputs.store = .ok advancedHash := by
  have hashed : sha256HashHeliosStore beaconKnown.crypto bootStore = .ok bootHash := by decide +kernel
  have linked : HashLinked bootHash ([rotatingRun] ++ advancingRun :: []) := ⟨rfl, rfl, trivial⟩
  have recorded : beacon.chain.Recorded (pinned bootStore) [] := bootstrap_recorded rfl
  have serves : beaconProvider.Serves 8288 rebootStore
      ⟨beaconHeader 8224, 8290, 8291, some (beaconCommittee 2), true⟩ :=
    ⟨⟨_, rfl, rfl⟩, ⟨_, rfl⟩, ⟨[], rfl⟩⟩
  have headers : SelfDelimiting beaconSpec.headerToVec := minimal_headers
  have committees : SelfDelimiting beaconSpec.committeeToVec := minimal_committees
  rcases hash_chain_recoverable beaconKnown.crypto headers committees beacon beacon_helios bootStore [] recorded
    bootHash hashed [rotatingRun] [] advancingRun linked
    (fun left right held _ => beacon_noCollision held right) with ⟨committed, _, _, _, _, rebuilds⟩
  have rebuilt := rebuilds ⟨word 0, ()⟩ beaconProvider rebootStore _ serves rfl
  rcases rebuilt.returns.mpr (by decide +kernel) with ⟨inputs, returned⟩
  exact ⟨inputs, returned, rebuilt.rehashes inputs returned (by decide +kernel) ⟨rfl, rfl, rfl, rfl⟩⟩

theorem reconstruction_agrees_boot : ∃ grafted,
    Client.getStoreWithNextSyncCommittee 9000 bootStore (word 0) () (rotatingUpdates[0]) = .ok grafted ∧
      grafted.finalizedHeader = bootStore.finalizedHeader ∧
      sha256HashHeliosStore beaconKnown.crypto (beaconSpec.applyUpdate bootStore (rotatingUpdates[0])) =
        sha256HashHeliosStore beaconKnown.crypto grafted := by
  have verified : beaconSpec.verifyUpdate (rotatingUpdates[0]) 9000 bootStore (word 0) () = .ok () := by decide +kernel
  have older : beaconSpec.beaconSlot (beaconSpec.finalizedHeaderOf (rotatingUpdates[0])) ≤ 8128 := by decide +kernel
  rcases reconstruction_agrees beaconKnown.crypto (helios_appliesInOrder beacon_helios) bootStore 8128 rfl rfl
    ⟨word 0, ()⟩ (rotatingUpdates[0]) 9000 verified with ⟨grafted, returned, kept, _, _, _, inPlace, _⟩
  exact ⟨grafted, returned, kept, (inPlace older).2⟩

end NoriProof
