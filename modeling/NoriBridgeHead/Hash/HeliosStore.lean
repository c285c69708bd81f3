import NoriBridgeHead.Primitives.ConsensusSpec

open Foundation

namespace NoriModel

/-- The concatenation that is hashed. The optional committee at the end carries no tag. -/
def serializeHeliosStoreSerde {S : ConsensusSpec} (heliosStore : S.Store) : Except String (List UInt8) := do
  let finalizedHeader ← S.headerToVec heliosStore.finalizedHeader
  let currentSyncCommittee ← S.committeeToVec heliosStore.currentSyncCommittee
  let nextSyncCommittee ← match heliosStore.nextSyncCommittee with
    | some next => S.committeeToVec next
    | none => pure []
  pure (finalizedHeader ++ currentSyncCommittee ++ nextSyncCommittee)

def sha256HashHeliosStore (C : Crypto) {S : ConsensusSpec} (heliosStore : S.Store) : Except String B256 := do
  let encodedStore ← serializeHeliosStoreSerde heliosStore
  pure (C.sha256 encodedStore)

end NoriModel
