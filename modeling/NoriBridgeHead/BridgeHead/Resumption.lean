import NoriBridgeHead.BridgeHead.Restarts

open Foundation Foundation.Outcome Foundation.LightClient Foundation.Transition

namespace NoriModel

variable {S : ConsensusSpec}

/-- A store that a light client of the chain can hold at the position, under the hash of the position. -/
structure OnChain (C : Crypto) (beacon : Beacon S) (position : FinalityChangeDetectorUpdate) (store : S.Store) :
    Prop where
  hashed : sha256HashHeliosStore C store = .ok position.storeHash
  atSlot : S.beaconSlot store.finalizedHeader = position.slot
  recorded : ∃ seen, beacon.chain.Recorded (pinned store) seen

/-- The store has the hash of the position, as a store of the chain does, and differs from it in what is hashed. -/
def ChainCollision (C : Crypto) (beacon : Beacon S) (position : FinalityChangeDetectorUpdate) (other : S.Store) :
    Prop :=
  ∃ store, OnChain C beacon position store ∧ sha256HashHeliosStore C other = .ok position.storeHash ∧
    pinned store ≠ pinned other

/-- Where the machine stands once these proofs are settled. -/
def positionAfter (origin : FinalityChangeDetectorUpdate) (settled : List ProofMessage) :
    FinalityChangeDetectorUpdate :=
  (settled.getLast?.map ProofMessage.output).getD origin

/-- The input store of a settled proof collides with the store that the machine stood at. -/
def Host.StoresCollide {N : Type} (C : Crypto) (beacon : Beacon S) (host : Host S N) : Prop :=
  ∃ (before : List ProofMessage) (message : ProofMessage) (after : List ProofMessage) (run : Run C S),
    host.settled = before ++ message :: after ∧ message.outputs = run.outputs ∧
    ChainCollision C beacon (positionAfter host.origin before) run.inputs.store

/-- A preparation from the position returns when the first update verifies, and then its store, unless it collides with
    that of the chain, passes the check of the program exactly when that update supplies the next committee. -/
structure Resumes (C : Crypto) (beacon : Beacon S) (position : FinalityChangeDetectorUpdate) (config : ChainConfig S)
    (provider : ConsensusProvider S) (bootstrapped : S.Store) (firstUpdate : S.Update) : Prop where
  returns : (∃ inputs, (Client.prepareConsensusProofInputs config provider position.slot
      position.storeHash).outcome = .ok inputs) ↔
    S.verifyUpdate firstUpdate (provider.expectedCurrentSlot 4) bootstrapped config.genesisRoot config.forks = .ok ()
  rehashes : ∀ inputs, (Client.prepareConsensusProofInputs config provider position.slot
      position.storeHash).outcome = .ok inputs →
    ChainCollision C beacon position inputs.store ∨
      (sha256HashHeliosStore C inputs.store = .ok inputs.storeHash ↔
        beacon.chain.Supplies (beacon.update firstUpdate) (beacon.period position.slot.toNat))

section Invariant

variable {N : Type} (C : Crypto) (P : CheckpointPrimitives N) (beacon : Beacon S) (host : Host S N)

/-- A run that was started at all was started on the chain. -/
structure Rooted : Prop where
  kept : HostInvariant C P host
  origin : host.system.isSome ∨ host.settled ≠ [] → ∃ store, OnChain C beacon host.origin store

end Invariant

end NoriModel

namespace NoriProof

open NoriModel

variable {C : Crypto} {S : ConsensusSpec} {N : Type} {P : CheckpointPrimitives N} {beacon : Beacon S}
  {host next : Host S N} {position : FinalityChangeDetectorUpdate}

theorem OnChain.same_pinned {store other : S.Store} (chained : OnChain C beacon position store)
    (apart : ¬ ChainCollision C beacon position other)
    (hashed : sha256HashHeliosStore C other = .ok position.storeHash) : pinned store = pinned other := by
  by_contra differ
  exact apart ⟨store, chained, hashed, differ⟩

section Chain

variable (helios : beacon.Helios)
include helios

/-- An accepted run from a position on the chain ends on the chain, at the state that the header there names. -/
theorem OnChain.follow {store : S.Store} {inputs : ConsensusProofInputs S} {outputs : ConsensusProofOutputs}
    (chained : OnChain C beacon position store) (apart : ¬ ChainCollision C beacon position inputs.store)
    (linked : inputs.storeHash = position.storeHash) (programmed : consensusProgram C inputs = .ok outputs)
    (queueCursor : UInt64) :
    ∃ committed, OnChain C beacon ⟨outputs.outputSlot, outputs.outputStoreHash, queueCursor⟩ committed ∧
      outputs.nextSyncCommitteeHash = nextSyncCommitteeHashOf committed ∧
      S.execution (beacon.header outputs.outputSlot.toNat) =
        some ⟨outputs.executionStateRoot, outputs.outputBlockNumber⟩ := by
  have rehashed := (consensusProgram_input programmed).1
  rw [linked] at rehashed
  rcases chained.recorded with ⟨seen, recorded⟩
  rw [OnChain.same_pinned chained apart rehashed] at recorded
  rw [consensusProgram_eq, bind_ok_iff] at programmed
  rcases programmed with ⟨committed, reached, commits⟩
  rcases (commitConsensus_ok_iff _ _ _).mp commits with ⟨execution, storeHash, payload, hashed, rfl⟩
  have further := transition_recorded helios recorded reached
  refine ⟨committed, ⟨hashed, rfl, _, further⟩, rfl, ?_⟩
  have canonical : committed.finalizedHeader = beacon.header (S.beaconSlot committed.finalizedHeader).toNat :=
    further.toCanonical.finalized
  rw [← canonical]
  exact payload

/-- What the program accepts leads from a store of the chain to one that knows its next committee. -/
theorem OnChain.accepted {store : S.Store} {inputs : ProofInputs S} {outputs : ProofOutputs}
    (chained : OnChain C beacon position store) (apart : ¬ ChainCollision C beacon position inputs.store)
    (linked : inputs.storeHash = position.storeHash) (accepted : consensusMptProgram C inputs = .ok outputs)
    (recoverable : outputs.nextSyncCommitteeHash ≠ FixedBytes.zero) :
    ∃ committed, OnChain C beacon outputs.position committed ∧ committed.nextSyncCommittee.isSome := by
  rcases (consensusMptProgram_ok_iff _ _).mp accepted with ⟨consensus, output, _, programmed, _, _, rfl⟩
  rcases OnChain.follow helios chained apart linked programmed output with ⟨committed, further, next, _⟩
  refine ⟨committed, further, ?_⟩
  have nonzero : nextSyncCommitteeHashOf committed ≠ FixedBytes.zero := by
    rw [← next]
    exact recoverable
  cases known : committed.nextSyncCommittee with
  | none =>
    rw [nextSyncCommitteeHashOf, known] at nonzero
    exact absurd rfl nonzero
  | some committee => rfl

theorem OnChain.settle {store : S.Store} {message : ProofMessage} (chained : OnChain C beacon position store)
    (apart : ∀ run : Run C S, message.outputs = run.outputs → ¬ ChainCollision C beacon position run.inputs.store)
    (attested : Attested C S message) (continued : message.inputStoreHash = position.storeHash) :
    ∃ committed, OnChain C beacon message.output committed ∧ committed.nextSyncCommittee.isSome := by
  rcases attested with ⟨window, outputs, prepared, accepted, rfl⟩
  rcases Prepared.predicts prepared with ⟨predicted, again, predicts, validated⟩
  cases accepted.symm.trans again
  have linked : window.proofInputs.storeHash = position.storeHash :=
    predicts.inputStoreHash.symm.trans continued
  have differ := apart ⟨window.proofInputs, outputs, accepted⟩ rfl
  exact OnChain.accepted helios chained differ linked accepted validated.recoverable

theorem Settled.onChain {origin : FinalityChangeDetectorUpdate} {settled : List ProofMessage} {store : S.Store}
    (rooted : OnChain C beacon origin store)
    (apart : ∀ before message after (run : Run C S), settled = before ++ message :: after →
      message.outputs = run.outputs → ¬ ChainCollision C beacon (positionAfter origin before) run.inputs.store)
    (chain : Settled C S origin settled position) :
    ∃ committed, OnChain C beacon position committed ∧ (settled ≠ [] → committed.nextSyncCommittee.isSome) := by
  induction chain with
  | origin => exact ⟨store, rooted, fun some => absurd rfl some⟩
  | @proof settled position message earlier attested continues ih =>
    have earlierApart : ∀ before other after (run : Run C S), settled = before ++ other :: after →
        other.outputs = run.outputs → ¬ ChainCollision C beacon (positionAfter origin before) run.inputs.store := by
      intro before other after run split
      apply apart before other (after ++ [message]) run
      rw [split, List.append_assoc, List.cons_append]
    rcases ih earlierApart with ⟨before, chained, _⟩
    have differ : ∀ run : Run C S, message.outputs = run.outputs →
        ¬ ChainCollision C beacon position run.inputs.store := by
      intro run outputs
      have here := apart settled message [] run rfl outputs
      rwa [positionAfter, ← Settled.last earlier] at here
    rcases OnChain.settle helios chained differ attested continues.storeHash with ⟨committed, onChain, known⟩
    exact ⟨committed, onChain, fun _ => known⟩

/-- What is settled stands on the chain. -/
theorem Rooted.onChain (rooted : Rooted C P beacon host) (started : host.system.isSome ∨ host.settled ≠ [])
    (apart : ¬ host.StoresCollide C beacon) :
    ∃ committed, OnChain C beacon host.position committed ∧
      (host.settled ≠ [] → committed.nextSyncCommittee.isSome) := by
  rcases rooted.origin started with ⟨start, origin⟩
  apply Settled.onChain helios origin ?_ rooted.kept.settled
  intro before message after run split outputs collision
  exact apart ⟨before, message, after, run, split, outputs, collision⟩

theorem OnChain.resumes {committed bootstrapped : S.Store} {firstUpdate : S.Update} {provider : ConsensusProvider S}
    (chained : OnChain C beacon position committed) (known : committed.nextSyncCommittee.isSome)
    (config : ChainConfig S) (serves : provider.Serves position.slot bootstrapped firstUpdate)
    (booted : pinned bootstrapped = beacon.chain.bootstrap position.slot.toNat) :
    Resumes C beacon position config provider bootstrapped firstUpdate := by
  rcases chained.recorded with ⟨_, recorded⟩
  rcases canonical_rebuilt_iff helios config recorded.toCanonical chained.hashed chained.atSlot serves booted with
    ⟨returns, rehashes⟩
  refine ⟨returns, ?_⟩
  intro inputs returned
  have given : inputs.storeHash = position.storeHash :=
    (prepareConsensusProofInputs_storeHash config provider position.slot position.storeHash).outcome returned
  by_cases apart : ChainCollision C beacon position inputs.store
  · exact .inl apart
  right
  have exactly := rehashes inputs returned fun hashed => (OnChain.same_pinned chained apart hashed).symm
  rw [given, exactly]
  simp only [known, true_iff]

end Chain

end NoriProof

namespace NoriModel.Sample

def chainStore (slot : UInt64) (known : Bool) : BeaconStore :=
  beaconStore slot.toNat slot.toNat (slot.toNat / 8192)
    (if known then some (beaconCommittee (slot.toNat / 8192 + 1)) else none)

/-- Which canonical store of the slot the code is of, if any. -/
def chainKind (slot : UInt64) (code : List UInt8) : Nat :=
  if code = beaconCode (chainStore slot true) then 2
  else if code = beaconCode (chainStore slot false) then 1
  else 0

def chainTag (code : List UInt8) : Nat := 4 * (slotOfCode code).toNat + chainKind (slotOfCode code) code

def chained : Crypto := { known.crypto with sha256 := fun code => word (chainTag code) }

end NoriModel.Sample

namespace NoriProof

open NoriModel NoriModel.Sample

end NoriProof
