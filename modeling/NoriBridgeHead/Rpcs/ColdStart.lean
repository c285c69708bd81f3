import NoriBridgeHead.Rpcs.PreparedWindows
import NoriBridgeHead.Rpcs.Recovery

open Foundation Foundation.Outcome Foundation.LightClient

namespace NoriModel

def consensusProviderTimeout : Nat := 20

/-- What `get_latest_checkpoint` makes of the public checkpoint services, at the n-th call of a session. -/
abbrev LatestCheckpoint := Nat → Except HostError B256

namespace Client

variable {S : ConsensusSpec}

def getLatestCheckpoint (services : LatestCheckpoint) : Session HostError B256 := do
  let checkpoint ← Session.call services
  Session.lift (fromResult checkpoint)

def getFirstUpdate (client : Client S) : Session HostError S.Update := do
  let period := S.calcSyncPeriod (S.beaconSlot client.store.finalizedHeader)
  let updates ← Session.call fun n => client.provider.getUpdates n period 1
  let updates ← Session.lift (mapErr
    (fun reason => .fetchUpdates s!"Failed to fetch light client updates for period {period}: {reason}")
    (fromResult updates))
  Session.lift (okOr .missingFirstUpdate updates.head?)

def getLatestFinalitySlotAndStoreHash (C : Crypto) (config : ChainConfig S) (services : LatestCheckpoint)
    (provider : ConsensusProvider S) : Session HostError (UInt64 × B256) := do
  let latestCheckpoint ← getLatestCheckpoint services
  let client ← bootstrapFromCheckpoint config provider latestCheckpoint
  let slot := S.beaconSlot client.store.finalizedHeader
  let firstUpdate ← client.getFirstUpdate
  let expectedCurrentSlot ← Session.call provider.expectedCurrentSlot
  let syncedStore ← Session.lift (getStoreWithNextSyncCommittee expectedCurrentSlot client.store config.genesisRoot
    config.forks firstUpdate)
  let storeHash ← Session.lift (mapErr (fun reason => .program (.storeHashingError reason))
    (fromResult (sha256HashHeliosStore C syncedStore)))
  pure (slot, storeHash)

end Client

namespace ConsensusHttpProxy

variable {S : ConsensusSpec}

/-- The principal provider is the first of the list, which `from_env` refuses to be empty. -/
def getLatestFinalitySlotAndStoreHash (C : Crypto) (proxy : ConsensusHttpProxy S) (some : proxy.allProviders ≠ [])
    (services : LatestCheckpoint) : Outcome HostError (UInt64 × B256) :=
  queryWithFallback proxy.schedule (proxy.allProviders.head some) proxy.allProviders.tail
    (fun provider => (Client.getLatestFinalitySlotAndStoreHash C proxy.config services provider).outcome)
    consensusProviderTimeout

end ConsensusHttpProxy

/-- A position that a cold start can begin from. -/
def ColdStart (C : Crypto) (S : ConsensusSpec) (latestFinality : UInt64 × B256) : Prop :=
  ∃ (proxy : ConsensusHttpProxy S) (some : proxy.allProviders ≠ []) (services : LatestCheckpoint),
    proxy.getLatestFinalitySlotAndStoreHash C some services = .ok latestFinality

/-- The store that a cold start hashes: a bootstrapped one with the next committee of the first update. -/
structure ColdStarted (C : Crypto) {S : ConsensusSpec} (config : ChainConfig S) (provider : ConsensusProvider S)
    (bootstrapped : S.Store) (firstUpdate : S.Update) (latestFinality : UInt64 × B256) : Prop where
  bootstrap : ∃ calls checkpoint, provider.bootstrap calls checkpoint = .ok bootstrapped
  updates : ∃ calls rest, provider.getUpdates calls (S.calcSyncPeriod latestFinality.1) 1 = .ok (firstUpdate :: rest)
  verified : ∃ expectedCurrentSlot, S.verifyUpdate firstUpdate expectedCurrentSlot bootstrapped config.genesisRoot
    config.forks = .ok ()
  atSlot : S.beaconSlot bootstrapped.finalizedHeader = latestFinality.1
  hashed : sha256HashHeliosStore C (withNextSyncCommittee bootstrapped (S.applyUpdate bootstrapped firstUpdate)) =
    .ok latestFinality.2

/-- What helios checks of a bootstrap: the store it returns is that of the chain at its slot. -/
def ConsensusProvider.BootstrapsFrom {S : ConsensusSpec} (provider : ConsensusProvider S) (beacon : Beacon S) : Prop :=
  ∀ calls checkpoint store, provider.bootstrap calls checkpoint = .ok store →
    pinned store = beacon.chain.bootstrap (S.beaconSlot store.finalizedHeader).toNat

end NoriModel

namespace NoriProof

open NoriModel

variable {C : Crypto} {S : ConsensusSpec}

theorem bootstrapFromCheckpoint_ensures (config : ChainConfig S) (provider : ConsensusProvider S) (checkpoint : B256) :
    Session.Ensures (Client.bootstrapFromCheckpoint config provider checkpoint) fun client =>
      client.provider = provider ∧ ∃ calls, provider.bootstrap calls checkpoint = .ok client.store := by
  intro calls client after returned
  simp only [Client.bootstrapFromCheckpoint, Session.bind_apply, Session.call, ok_bind, Session.lift] at returned
  cases answered : provider.bootstrap calls checkpoint with
  | error reason =>
    rw [answered] at returned
    cases returned
  | ok store =>
    rw [answered] at returned
    cases returned
    exact ⟨rfl, calls, answered⟩

theorem getFirstUpdate_ensures (client : Client S) : Session.Ensures client.getFirstUpdate fun firstUpdate =>
    ∃ calls rest, client.provider.getUpdates calls (S.calcSyncPeriod (S.beaconSlot client.store.finalizedHeader)) 1 =
      .ok (firstUpdate :: rest) := by
  intro calls firstUpdate after returned
  simp only [Client.getFirstUpdate, Session.bind_apply, Session.call, ok_bind, Session.lift] at returned
  cases answered : client.provider.getUpdates calls
      (S.calcSyncPeriod (S.beaconSlot client.store.finalizedHeader)) 1 with
  | error reason =>
    rw [answered] at returned
    cases returned
  | ok updates =>
    rw [answered] at returned
    cases updates with
    | nil => cases returned
    | cons first rest =>
      cases returned
      exact ⟨calls, rest, answered⟩

theorem coldStarted_ensures (config : ChainConfig S) (services : LatestCheckpoint) (provider : ConsensusProvider S) :
    Session.Ensures (Client.getLatestFinalitySlotAndStoreHash C config services provider) fun latestFinality =>
      ∃ bootstrapped firstUpdate, ColdStarted C config provider bootstrapped firstUpdate latestFinality := by
  apply Session.ensures_skip
  intro checkpoint
  refine Session.Ensures.bind (bootstrapFromCheckpoint_ensures config provider checkpoint) ?_
  rintro client ⟨rfl, calls, answered⟩
  refine Session.Ensures.bind (getFirstUpdate_ensures client) ?_
  intro firstUpdate updates
  apply Session.ensures_skip
  intro expectedCurrentSlot
  refine Session.Ensures.bind (Session.ensures_lift fun store returned => returned) ?_
  intro syncedStore synced
  refine Session.Ensures.bind (Session.ensures_lift fun hash returned => returned) ?_
  intro storeHash hashed
  rcases getStoreWithNextSyncCommittee_ok_iff.mp synced with ⟨verified, rfl⟩
  apply Session.ensures_pure
  exact ⟨client.store, firstUpdate, ⟨calls, checkpoint, answered⟩, updates, ⟨expectedCurrentSlot, verified⟩, rfl,
    fromResult_ok_iff.mp (mapErr_ok_iff.mp hashed)⟩

theorem coldStart_started {proxy : ConsensusHttpProxy S} {some : proxy.allProviders ≠ []} {services : LatestCheckpoint}
    {latestFinality : UInt64 × B256}
    (returned : proxy.getLatestFinalitySlotAndStoreHash C some services = .ok latestFinality) :
    ∃ provider ∈ proxy.allProviders, ∃ bootstrapped firstUpdate,
      ColdStarted C proxy.config provider bootstrapped firstUpdate latestFinality := by
  rcases queryWithFallback_ok returned with ⟨provider, member, ran⟩
  rw [List.cons_head_tail] at member
  exact ⟨provider, member, Session.Ensures.outcome (coldStarted_ensures proxy.config services provider) ran⟩

/-- Whatever the providers answer, a cold start begins at a slot with the hash of a store that is finalized there. -/
theorem coldStart_named {latestFinality : UInt64 × B256} (started : ColdStart C S latestFinality) :
    ∃ store : S.Store, sha256HashHeliosStore C store = .ok latestFinality.2 ∧
      S.beaconSlot store.finalizedHeader = latestFinality.1 := by
  rcases started with ⟨proxy, some, services, returned⟩
  rcases coldStart_started returned with ⟨_, _, bootstrapped, firstUpdate, started⟩
  exact ⟨_, started.hashed, started.atSlot⟩

section Canonical

variable {beacon : Beacon S} (helios : beacon.Helios) {config : ChainConfig S} {provider : ConsensusProvider S}
  {bootstrapped : S.Store} {firstUpdate : S.Update} {slot : UInt64} {storeHash : B256}
include helios

/-- The store of a cold start is canonical, and it has its next committee exactly when the first update supplies it. -/
theorem coldStarted_canonical (honest : provider.BootstrapsFrom beacon)
    (started : ColdStarted C config provider bootstrapped firstUpdate (slot, storeHash)) :
    beacon.chain.Canonical (pinned (withNextSyncCommittee bootstrapped (S.applyUpdate bootstrapped firstUpdate))) ∧
      ((withNextSyncCommittee bootstrapped (S.applyUpdate bootstrapped firstUpdate)).nextSyncCommittee.isSome ↔
        beacon.chain.Supplies (beacon.update firstUpdate) (beacon.period slot.toNat)) := by
  rcases started with ⟨⟨calls, checkpoint, answered⟩, _, ⟨expectedCurrentSlot, verified⟩, atSlot, _⟩
  have atSlot : S.beaconSlot bootstrapped.finalizedHeader = slot := atSlot
  have booted := honest calls checkpoint bootstrapped answered
  rw [atSlot] at booted
  have filled : beacon.chain.slot (beacon.chain.header slot.toNat) = slot.toNat := by
    have header : bootstrapped.finalizedHeader = beacon.chain.header slot.toNat :=
      congrArg LightClient.Client.finalized booted
    rw [← header, ← atSlot]
    rfl
  have missing : (pinned bootstrapped).next = none := by
    rw [booted]
    rfl
  have canonical : beacon.chain.Canonical (pinned bootstrapped) := by
    rw [booted]
    exact (bootstrap_recorded filled).toCanonical
  have accepted := helios.verifyUpdate _ _ _ _ _ canonical verified
  have grafted : pinned (withNextSyncCommittee bootstrapped (S.applyUpdate bootstrapped firstUpdate)) =
      beacon.chain.graft (pinned bootstrapped) (beacon.update firstUpdate) := by
    rw [Chain.graft, ← helios.applyUpdate]
    rfl
  have period : beacon.chain.clientPeriod (pinned bootstrapped) = beacon.period slot.toNat := by
    rw [← atSlot]
    rfl
  have supplies := graft_isSome_iff missing accepted
  rw [period, ← grafted] at supplies
  rw [grafted]
  exact ⟨graft_canonical missing accepted canonical, supplies⟩

end Canonical

/-- A preparation at the slot of a canonical store rebuilds it exactly when the first update knows the next committee
    where the store does. -/
theorem canonical_rebuilt_iff {beacon : Beacon S} (helios : beacon.Helios) (config : ChainConfig S)
    {provider : ConsensusProvider S} {committed bootstrapped : S.Store} {firstUpdate : S.Update} {slot : UInt64}
    {storeHash : B256} (canonical : beacon.chain.Canonical (pinned committed))
    (hashed : sha256HashHeliosStore C committed = .ok storeHash)
    (atSlot : S.beaconSlot committed.finalizedHeader = slot)
    (serves : provider.Serves slot bootstrapped firstUpdate)
    (booted : pinned bootstrapped = beacon.chain.bootstrap slot.toNat) :
    ((∃ inputs, (Client.prepareConsensusProofInputs config provider slot storeHash).outcome = .ok inputs) ↔
      S.verifyUpdate firstUpdate (provider.expectedCurrentSlot 4) bootstrapped config.genesisRoot config.forks =
        .ok ()) ∧
    ∀ inputs, (Client.prepareConsensusProofInputs config provider slot storeHash).outcome = .ok inputs →
      (sha256HashHeliosStore C inputs.store = .ok storeHash → pinned inputs.store = pinned committed) →
      (sha256HashHeliosStore C inputs.store = .ok storeHash ↔
        (committed.nextSyncCommittee.isSome ↔
          beacon.chain.Supplies (beacon.update firstUpdate) (beacon.period slot.toNat))) := by
  -- only the slot and the hash of the outputs matter to the preparation
  let outputs : ConsensusProofOutputs :=
    ⟨slot, storeHash, slot, storeHash, FixedBytes.zero, FixedBytes.zero, 0⟩
  have nonzero : outputs.nextSyncCommitteeHash ≠ FixedBytes.zero → committed.nextSyncCommittee.isSome := by
    intro apart
    exact absurd rfl apart
  have rebuilds : Rebuilds C beacon outputs committed config provider bootstrapped firstUpdate :=
    prepared_rebuilds helios canonical hashed (congrArg UInt64.toNat atSlot) nonzero serves booted
  refine ⟨rebuilds.returns, ?_⟩
  intro inputs returned pins
  rw [← rebuilds.pinned_iff inputs returned]
  constructor
  · exact pins
  · intro same
    rw [SamePinned.hash (samePinned_iff.mpr same)]
    exact hashed

/-- A preparation that begins where a cold start did passes the check of the store hash exactly when its first update
    supplies the next committee as the first update of the cold start did. -/
theorem cold_start_rebuilt_iff (C : Crypto) {S : ConsensusSpec} (headers : SelfDelimiting S.headerToVec)
    (committees : SelfDelimiting S.committeeToVec) (beacon : Beacon S) (helios : beacon.Helios)
    (proxy : ConsensusHttpProxy S) (some : proxy.allProviders ≠ []) (services : LatestCheckpoint)
    (honest : ∀ provider ∈ proxy.allProviders, provider.BootstrapsFrom beacon) (slot : UInt64) (storeHash : B256)
    (started : proxy.getLatestFinalitySlotAndStoreHash C some services = .ok (slot, storeHash)) :
    ∃ cold ∈ proxy.allProviders, ∃ (coldStore : S.Store) (coldUpdate : S.Update),
      ColdStarted C proxy.config cold coldStore coldUpdate (slot, storeHash) ∧
      ∀ (config : ChainConfig S) (provider : ConsensusProvider S) (bootstrapped : S.Store) (firstUpdate : S.Update),
        provider.Serves slot bootstrapped firstUpdate →
        pinned bootstrapped = beacon.chain.bootstrap slot.toNat →
        ((∃ inputs, (Client.prepareConsensusProofInputs config provider slot storeHash).outcome = .ok inputs) ↔
          S.verifyUpdate firstUpdate (provider.expectedCurrentSlot 4) bootstrapped config.genesisRoot config.forks =
            .ok ()) ∧
        ∀ inputs, (Client.prepareConsensusProofInputs config provider slot storeHash).outcome = .ok inputs →
          NoCollision C inputs.store (withNextSyncCommittee coldStore (S.applyUpdate coldStore coldUpdate)) →
          (sha256HashHeliosStore C inputs.store = .ok storeHash ↔
            (beacon.chain.Supplies (beacon.update coldUpdate) (beacon.period slot.toNat) ↔
              beacon.chain.Supplies (beacon.update firstUpdate) (beacon.period slot.toNat))) := by
  rcases coldStart_started started with ⟨cold, member, coldStore, coldUpdate, coldStarted⟩
  rcases coldStarted_canonical helios (honest cold member) coldStarted with ⟨canonical, supplied⟩
  refine ⟨cold, member, coldStore, coldUpdate, coldStarted, ?_⟩
  intro config provider bootstrapped firstUpdate serves booted
  rcases canonical_rebuilt_iff helios config canonical coldStarted.hashed coldStarted.atSlot serves booted with
    ⟨returns, rehashes⟩
  refine ⟨returns, ?_⟩
  intro inputs returned distinct
  rw [← supplied]
  apply rehashes inputs returned
  intro rehashed
  exact samePinned_iff.mp (sha256HashHeliosStore_pins headers committees distinct rehashed coldStarted.hashed)

section Sample

open NoriModel.Sample

def coldProxy : ConsensusHttpProxy beaconSpec where
  allProviders := [beaconProvider]
  schedule := inOrder
  config := ⟨word 0, ()⟩
  validationTimeout := 300
  executionProxy := ⟨world1.attempt, [], inOrder, queueAddress, 300, 100⟩

theorem beaconKnown_noCollision {store other : beaconSpec.Store} {hash : B256} (nonzero : hash ≠ FixedBytes.zero)
    (hashed : sha256HashHeliosStore beaconKnown.crypto store = .ok hash) :
    NoCollision beaconKnown.crypto other store := by
  rcases (sha256HashHeliosStore_ok_iff store hash).mp hashed with ⟨code, serialized, rfl⟩
  have apart : ∀ first ∈ beaconKnown.sha, ∀ second ∈ beaconKnown.sha, first.2 = second.2 → first.1 = second.1 := by
    decide +kernel
  have listed := knownTries_sha beaconKnown nonzero
  have unique : NoCollision beaconKnown.crypto store other :=
    knownTries_noCollision serialized nonzero fun pair member same => apart pair member (code, _) listed same
  intro code' code'' first second same
  exact (unique code'' code' second first same.symm).symm

/-- A cold start at slot 8288 in the second period, and a preparation from there. -/
theorem cold_start_rebuilt_iff_sample : ∃ inputs,
    coldProxy.getLatestFinalitySlotAndStoreHash beaconKnown.crypto (List.cons_ne_nil _ _) (fun _ => .ok (word 8288)) =
      .ok (8288, advancedHash) ∧
    (Client.prepareConsensusProofInputs ⟨word 0, ()⟩ beaconProvider 8288 advancedHash).outcome = .ok inputs ∧
    sha256HashHeliosStore beaconKnown.crypto inputs.store = .ok advancedHash := by
  have started : coldProxy.getLatestFinalitySlotAndStoreHash beaconKnown.crypto (List.cons_ne_nil _ _)
      (fun _ => .ok (word 8288)) = .ok (8288, advancedHash) := by rfl
  have honest : ∀ provider ∈ coldProxy.allProviders, provider.BootstrapsFrom beacon := by
    intro provider member calls checkpoint store answered
    cases List.mem_singleton.mp member
    cases answered
    rfl
  have headers : SelfDelimiting beaconSpec.headerToVec := minimal_headers
  have committees : SelfDelimiting beaconSpec.committeeToVec := minimal_committees
  rcases cold_start_rebuilt_iff beaconKnown.crypto headers committees beacon beacon_helios coldProxy _ _ honest 8288
    advancedHash started with ⟨cold, member, coldStore, coldUpdate, coldStarted, rebuilds⟩
  have serves : beaconProvider.Serves 8288 rebootStore
      ⟨beaconHeader 8224, 8290, 8291, some (beaconCommittee 2), true⟩ :=
    ⟨⟨_, rfl, rfl⟩, ⟨_, rfl⟩, ⟨[], rfl⟩⟩
  rcases rebuilds ⟨word 0, ()⟩ beaconProvider rebootStore _ serves rfl with ⟨returns, rehashes⟩
  rcases returns.mpr (by decide +kernel) with ⟨inputs, returned⟩
  cases List.mem_singleton.mp member
  rcases coldStarted.updates with ⟨_, _, answered⟩
  cases answered
  have nonzero : advancedHash ≠ FixedBytes.zero := by decide +kernel
  exact ⟨inputs, started, returned,
    (rehashes inputs returned (beaconKnown_noCollision nonzero coldStarted.hashed)).mpr Iff.rfl⟩

end Sample

end NoriProof
