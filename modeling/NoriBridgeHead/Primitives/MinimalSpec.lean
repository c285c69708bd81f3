import NoriBridgeHead.Foundation.SelfDelimiting
import NoriBridgeHead.Primitives.ConsensusSpec

open Foundation

namespace NoriModel.Minimal

structure Header where
  slot : UInt64
  execution : ExecutionHeader
deriving DecidableEq

structure Update where
  finalizedHeader : Header
  nextSyncCommittee : B256
deriving DecidableEq

abbrev Store := LightClientStore Header B256 Update

def encodeU64 (value : UInt64) : List UInt8 := 0xcf :: natBe 8 value.toNat
def encodeB256 (word : B256) : List UInt8 := 0xc4 :: 32 :: word.bytes

def encodeHeader (header : Header) : List UInt8 :=
  0x93 :: (encodeU64 header.slot ++ (encodeB256 header.execution.stateRoot ++ encodeU64 header.execution.blockNumber))

def verifyHeader (header : Header) (expectedCurrentSlot : UInt64) : Except String Unit :=
  if header.slot ≤ expectedCurrentSlot then .ok () else .error "InvalidTimestamp"

def applyHeader (store : Store) (header : Header) : Store :=
  { store with
    finalizedHeader := if store.finalizedHeader.slot < header.slot then header else store.finalizedHeader
    optimisticHeader := if store.optimisticHeader.slot < header.slot then header else store.optimisticHeader }

def applyUpdate (store : Store) (update : Update) : Store :=
  applyHeader { store with
    nextSyncCommittee := some (store.nextSyncCommittee.getD update.nextSyncCommittee) } update.finalizedHeader

/-- A small instance of the generic consensus types: one key stands for a committee. -/
def spec : ConsensusSpec where
  LightClientHeader := Header
  SyncCommittee := B256
  GenericUpdate := Update
  Update := Update
  FinalityUpdate := Header
  Forks := Unit
  beaconSlot := Header.slot
  execution := fun header => some header.execution
  treeHashRoot := id
  finalizedHeaderOf := Update.finalizedHeader
  calcSyncPeriod := fun slot => slot / 8192
  verifyUpdate := fun update slot _ _ _ => verifyHeader update.finalizedHeader slot
  verifyFinalityUpdate := fun header slot _ _ _ => verifyHeader header slot
  applyUpdate := applyUpdate
  applyFinalityUpdate := applyHeader
  headerToVec := fun header => .ok (encodeHeader header)
  committeeToVec := fun committee => .ok (encodeB256 committee)

instance : DecidableEq spec.Store := inferInstanceAs (DecidableEq Store)

end NoriModel.Minimal

namespace NoriProof

open NoriModel NoriModel.Minimal

theorem encodeU64_split {left right : UInt64} {rest rest' : List UInt8}
    (same : encodeU64 left ++ rest = encodeU64 right ++ rest') : left = right ∧ rest = rest' := by
  have tails : natBe 8 left.toNat ++ rest = natBe 8 right.toNat ++ rest' := (List.cons.inj same).2
  obtain ⟨digits, rests⟩ := List.append_inj tails (by rw [natBe_length, natBe_length])
  have numbers := congrArg beNat digits
  have boundLeft : left.toNat < 256 ^ 8 := left.toNat_lt
  have boundRight : right.toNat < 256 ^ 8 := right.toNat_lt
  rw [beNat_natBe, beNat_natBe, Nat.mod_eq_of_lt boundLeft, Nat.mod_eq_of_lt boundRight] at numbers
  exact ⟨UInt64.toNat_inj.mp numbers, rests⟩

theorem encodeB256_split {left right : B256} {rest rest' : List UInt8}
    (same : encodeB256 left ++ rest = encodeB256 right ++ rest') : left = right ∧ rest = rest' := by
  have tails : left.bytes ++ rest = right.bytes ++ rest' := (List.cons.inj (List.cons.inj same).2).2
  obtain ⟨bytes, rests⟩ := List.append_inj tails (by rw [left.size, right.size])
  exact ⟨FixedBytes.ext bytes, rests⟩

theorem minimal_headers : SelfDelimiting spec.headerToVec := by
  constructor
  · intro left right code code' rest rest' first second same
    cases first
    cases second
    simp only [encodeHeader, List.cons_append, List.append_assoc, List.cons.injEq, true_and] at same
    obtain ⟨slot, same⟩ := encodeU64_split same
    obtain ⟨stateRoot, same⟩ := encodeB256_split same
    obtain ⟨blockNumber, _⟩ := encodeU64_split same
    obtain ⟨_, ⟨_, _⟩⟩ := left
    obtain ⟨_, ⟨_, _⟩⟩ := right
    cases slot
    cases stateRoot
    cases blockNumber
    rfl
  · intro header code encoded
    cases encoded
    exact List.cons_ne_nil _ _

theorem minimal_committees : SelfDelimiting spec.committeeToVec := by
  constructor
  · intro left right code code' rest rest' first second same
    cases first
    cases second
    exact (encodeB256_split same).1
  · intro committee code encoded
    cases encoded
    exact List.cons_ne_nil _ _

theorem minimal_pinnedOnly : PinnedOnly spec := by
  constructor
  · intro update slot left right genesisRoot forks same
    rfl
  · intro update slot left right genesisRoot forks same
    rfl
  · intro update left right same
    obtain ⟨header, current, next⟩ := same
    exact ⟨by simp only [spec, applyUpdate, applyHeader, header], current,
      by simp only [spec, applyUpdate, applyHeader, next]⟩
  · intro update left right same
    obtain ⟨header, current, next⟩ := same
    exact ⟨by simp only [spec, applyHeader, header], current, next⟩

theorem applyHeader_forward (store : Store) (header : Header) :
    (applyHeader store header).finalizedHeader = store.finalizedHeader ∨
      store.finalizedHeader.slot < (applyHeader store header).finalizedHeader.slot := by
  unfold applyHeader
  by_cases newer : store.finalizedHeader.slot < header.slot
  · right
    simp only [newer, ↓reduceIte]
  · left
    simp only [newer, ↓reduceIte]

theorem minimal_forward : FinalizedForward spec :=
  ⟨fun _ _ => applyHeader_forward _ _, fun _ _ => applyHeader_forward _ _⟩

end NoriProof
