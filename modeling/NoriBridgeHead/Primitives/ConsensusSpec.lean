import NoriBridgeHead.Primitives.Types

open Foundation

namespace NoriModel

structure LightClientStore (Header Committee GenericUpdate : Type) where
  finalizedHeader : Header
  currentSyncCommittee : Committee
  nextSyncCommittee : Option Committee
  optimisticHeader : Header
  previousMaxActiveParticipants : UInt64
  currentMaxActiveParticipants : UInt64
  bestValidUpdate : Option GenericUpdate
deriving DecidableEq

structure ExecutionHeader where
  stateRoot : B256
  blockNumber : UInt64
deriving DecidableEq

/-- The consensus types and functions of helios that the program is generic over. -/
structure ConsensusSpec where
  LightClientHeader : Type
  SyncCommittee : Type
  GenericUpdate : Type
  Update : Type
  FinalityUpdate : Type
  Forks : Type
  beaconSlot : LightClientHeader → UInt64
  execution : LightClientHeader → Option ExecutionHeader
  treeHashRoot : SyncCommittee → B256
  finalizedHeaderOf : Update → LightClientHeader
  calcSyncPeriod : UInt64 → UInt64
  verifyUpdate : Update → UInt64 → LightClientStore LightClientHeader SyncCommittee GenericUpdate → B256 →
    Forks → Except String Unit
  verifyFinalityUpdate : FinalityUpdate → UInt64 →
    LightClientStore LightClientHeader SyncCommittee GenericUpdate → B256 → Forks → Except String Unit
  applyUpdate : LightClientStore LightClientHeader SyncCommittee GenericUpdate → Update →
    LightClientStore LightClientHeader SyncCommittee GenericUpdate
  applyFinalityUpdate : LightClientStore LightClientHeader SyncCommittee GenericUpdate → FinalityUpdate →
    LightClientStore LightClientHeader SyncCommittee GenericUpdate
  headerToVec : LightClientHeader → Except String (List UInt8)
  committeeToVec : SyncCommittee → Except String (List UInt8)

abbrev ConsensusSpec.Store (S : ConsensusSpec) :=
  LightClientStore S.LightClientHeader S.SyncCommittee S.GenericUpdate

section Assumptions

variable {S : ConsensusSpec}

structure SamePinned (left right : S.Store) : Prop where
  finalizedHeader : left.finalizedHeader = right.finalizedHeader
  currentSyncCommittee : left.currentSyncCommittee = right.currentSyncCommittee
  nextSyncCommittee : left.nextSyncCommittee = right.nextSyncCommittee

/-- Verification, and the effect of an update on the hashed fields, read only the hashed fields. -/
structure PinnedOnly (S : ConsensusSpec) : Prop where
  verifyUpdate : ∀ update slot (left right : S.Store) genesisRoot forks, SamePinned left right →
    S.verifyUpdate update slot left genesisRoot forks = S.verifyUpdate update slot right genesisRoot forks
  verifyFinalityUpdate : ∀ update slot (left right : S.Store) genesisRoot forks, SamePinned left right →
    S.verifyFinalityUpdate update slot left genesisRoot forks =
      S.verifyFinalityUpdate update slot right genesisRoot forks
  applyUpdate : ∀ update (left right : S.Store), SamePinned left right →
    SamePinned (S.applyUpdate left update) (S.applyUpdate right update)
  applyFinalityUpdate : ∀ update (left right : S.Store), SamePinned left right →
    SamePinned (S.applyFinalityUpdate left update) (S.applyFinalityUpdate right update)

/-- An update replaces the finalized header only by one of a strictly greater slot. -/
structure FinalizedForward (S : ConsensusSpec) : Prop where
  applyUpdate : ∀ (store : S.Store) update, (S.applyUpdate store update).finalizedHeader = store.finalizedHeader ∨
    S.beaconSlot store.finalizedHeader < S.beaconSlot (S.applyUpdate store update).finalizedHeader
  applyFinalityUpdate : ∀ (store : S.Store) update,
    (S.applyFinalityUpdate store update).finalizedHeader = store.finalizedHeader ∨
      S.beaconSlot store.finalizedHeader < S.beaconSlot (S.applyFinalityUpdate store update).finalizedHeader

end Assumptions

structure ConsensusProofInputs (S : ConsensusSpec) where
  updates : List S.Update
  finalityUpdate : S.FinalityUpdate
  expectedCurrentSlot : UInt64
  store : S.Store
  genesisRoot : B256
  forks : S.Forks
  storeHash : B256

structure ProofInputs (S : ConsensusSpec) where
  updates : List S.Update
  finalityUpdate : S.FinalityUpdate
  expectedCurrentSlot : UInt64
  store : S.Store
  genesisRoot : B256
  forks : S.Forks
  storeHash : B256
  queueStorage : QueueStorage

structure ProofInputsWithWindow (S : ConsensusSpec) where
  inputSlot : UInt64
  expectedOutputSlot : UInt64
  inputBlockNumber : UInt64
  expectedOutputBlockNumber : UInt64
  proofInputs : ProofInputs S
  expectedOutputStoreHash : B256
  expectedOutputQueueCursor : UInt64

structure DualProofInputsWithWindow (S : ConsensusSpec) where
  currentWindow : ProofInputsWithWindow S
  nextWindow : Option (ProofInputsWithWindow S)

def ProofInputs.consensus {S : ConsensusSpec} (inputs : ProofInputs S) : ConsensusProofInputs S where
  updates := inputs.updates
  finalityUpdate := inputs.finalityUpdate
  expectedCurrentSlot := inputs.expectedCurrentSlot
  store := inputs.store
  genesisRoot := inputs.genesisRoot
  forks := inputs.forks
  storeHash := inputs.storeHash

end NoriModel
