import NoriBridgeHead.Program.KnownTries
import NoriBridgeHead.Program.ProgramAgreement

open Foundation Foundation.Outcome

namespace NoriModel

variable {S : ConsensusSpec}

/-- The encodings of two given stores are not a SHA-256 collision. -/
def NoCollision (C : Crypto) (left right : S.Store) : Prop :=
  ∀ code code', serializeHeliosStoreSerde left = .ok code → serializeHeliosStoreSerde right = .ok code' →
    C.sha256 code = C.sha256 code' → code = code'

end NoriModel

namespace NoriProof

open NoriModel

variable {C : Crypto} {S : ConsensusSpec}

theorem serializeHeliosStoreSerde_ok_iff (store : S.Store) (code : List UInt8) :
    serializeHeliosStoreSerde store = .ok code ↔
      ∃ header current next, S.headerToVec store.finalizedHeader = .ok header ∧
        S.committeeToVec store.currentSyncCommittee = .ok current ∧
        encodeOptional S.committeeToVec store.nextSyncCommittee = .ok next ∧
        code = header ++ (current ++ next) := by
  have optional : serializeHeliosStoreSerde store = (do
      let header ← S.headerToVec store.finalizedHeader
      let current ← S.committeeToVec store.currentSyncCommittee
      let next ← encodeOptional S.committeeToVec store.nextSyncCommittee
      pure (header ++ current ++ next)) := by
    unfold serializeHeliosStoreSerde
    cases store.nextSyncCommittee <;> rfl
  simp only [optional, bind_ok_iff, pure_ok_iff, List.append_assoc]
  constructor
  · intro h
    obtain ⟨header, first, current, second, next, third, whole⟩ := h
    exact ⟨header, current, next, first, second, third, whole.symm⟩
  · intro h
    obtain ⟨header, current, next, first, second, third, rfl⟩ := h
    exact ⟨header, first, current, second, next, third, rfl⟩

theorem sha256HashHeliosStore_ok_iff (store : S.Store) (hash : B256) :
    sha256HashHeliosStore C store = .ok hash ↔
      ∃ code, serializeHeliosStoreSerde store = .ok code ∧ C.sha256 code = hash := by
  simp only [sha256HashHeliosStore, bind_ok_iff, pure_ok_iff]

theorem SamePinned.serialize {left right : S.Store} (same : SamePinned left right) :
    serializeHeliosStoreSerde left = serializeHeliosStoreSerde right := by
  simp only [serializeHeliosStoreSerde, same.finalizedHeader, same.currentSyncCommittee, same.nextSyncCommittee]

theorem SamePinned.hash {left right : S.Store} (same : SamePinned left right) :
    sha256HashHeliosStore C left = sha256HashHeliosStore C right := by
  simp only [sha256HashHeliosStore, SamePinned.serialize same]

/-- A store whose encoding alone has its digest in the table collides with no other store. -/
theorem knownTries_noCollision {known : KnownTries} {store other : S.Store} {encoded : List UInt8}
    (serialized : serializeHeliosStoreSerde store = .ok encoded)
    (nonzero : known.crypto.sha256 encoded ≠ FixedBytes.zero)
    (unique : ∀ pair ∈ known.sha, pair.2 = known.crypto.sha256 encoded → pair.1 = encoded) :
    NoCollision known.crypto store other := by
  intro code code' serialized' _ collides
  obtain rfl : encoded = code := Except.ok.inj (serialized.symm.trans serialized')
  have listed : (code', known.crypto.sha256 code') ∈ known.sha := by
    apply knownTries_sha known
    rw [← collides]
    exact nonzero
  exact (unique _ listed collides.symm).symm

section Pins

variable (headers : SelfDelimiting S.headerToVec) (committees : SelfDelimiting S.committeeToVec)
include headers committees

theorem serializeHeliosStoreSerde_pins {left right : S.Store} {code : List UInt8}
    (first : serializeHeliosStoreSerde left = .ok code) (second : serializeHeliosStoreSerde right = .ok code) :
    SamePinned left right := by
  obtain ⟨header, current, next, encoded, encodedCurrent, encodedNext, rfl⟩ :=
    (serializeHeliosStoreSerde_ok_iff left _).mp first
  obtain ⟨header', current', next', encoded', encodedCurrent', encodedNext', same⟩ :=
    (serializeHeliosStoreSerde_ok_iff right _).mp second
  obtain ⟨sameHeader, tail⟩ := headers.split encoded encoded' same
  obtain ⟨sameCurrent, optional⟩ := committees.split encodedCurrent encodedCurrent' tail
  subst optional
  exact ⟨sameHeader, sameCurrent, committees.optional encodedNext encodedNext'⟩

theorem sha256HashHeliosStore_pins {left right : S.Store} {hash : B256} (distinct : NoCollision C left right)
    (first : sha256HashHeliosStore C left = .ok hash) (second : sha256HashHeliosStore C right = .ok hash) :
    SamePinned left right := by
  obtain ⟨code, serialized, digest⟩ := (sha256HashHeliosStore_ok_iff left hash).mp first
  obtain ⟨code', serialized', digest'⟩ := (sha256HashHeliosStore_ok_iff right hash).mp second
  obtain rfl := distinct code code' serialized serialized' (digest.trans digest'.symm)
  exact serializeHeliosStoreSerde_pins headers committees serialized serialized'

end Pins

section TwoRuns

variable (reads : PinnedOnly S) {left right : ProofInputs S} (agree : right = { left with store := right.store })
include reads agree

theorem updateStep_same (enumerated : S.Update × Nat) {store other : S.Store} (same : SamePinned store other) :
    Related SamePinned (updateStep left.consensus store enumerated) (updateStep right.consensus other enumerated) := by
  rw [agree]
  unfold updateStep
  have verdict := reads.verifyUpdate enumerated.1 left.expectedCurrentSlot store other left.genesisRoot left.forks same
  simp only [ProofInputs.consensus, verdict]
  exact Related.bind (Related.refl _) fun _ _ _ => reads.applyUpdate enumerated.1 store other same

theorem transition_same (same : SamePinned left.store right.store) :
    Related SamePinned (transition C left.consensus) (transition C right.consensus) := by
  have steps := Related.foldlM (fun enumerated _ _ => updateStep_same reads agree enumerated)
    left.updates.zipIdx same
  rw [agree] at steps ⊢
  simp only [transition, ProofInputs.consensus, SamePinned.hash same] at steps ⊢
  refine Related.bind (Related.refl _) fun calculated _ equal => ?_
  subst equal
  refine Related.bind (Related.refl _) fun _ _ _ => ?_
  refine Related.bind steps fun store other reached => ?_
  have verdict := reads.verifyFinalityUpdate left.finalityUpdate left.expectedCurrentSlot store other
    left.genesisRoot left.forks reached
  rw [verdict]
  exact Related.bind (Related.refl _) fun _ _ _ => reads.applyFinalityUpdate left.finalityUpdate store other reached

omit reads in
theorem commitQueue_same (inputSlot : left.store.finalizedHeader = right.store.finalizedHeader) {store other : S.Store}
    (same : SamePinned store other) : commitQueue C left store = commitQueue C right other := by
  rw [agree]
  simp only [commitQueue, hashUpdatedStore, nextSyncCommitteeHashOf, SamePinned.hash same, same.finalizedHeader,
    same.nextSyncCommittee, inputSlot]

end TwoRuns

/-- Two runs whose stores pass the same hash check return the same outputs or the same error,
    however the stores differ outside the hash. -/
theorem storeHash_pins_transition (C : Crypto) {S : ConsensusSpec} (headers : SelfDelimiting S.headerToVec)
    (committees : SelfDelimiting S.committeeToVec) (reads : PinnedOnly S) (left right : ProofInputs S)
    (agree : right = { left with store := right.store }) (distinct : NoCollision C left.store right.store)
    (first : sha256HashHeliosStore C left.store = .ok left.storeHash)
    (second : sha256HashHeliosStore C right.store = .ok right.storeHash) :
    SamePinned left.store right.store ∧ consensusMptProgram C left = consensusMptProgram C right := by
  have sameHash : right.storeHash = left.storeHash := by rw [agree]
  rw [sameHash] at second
  have same := sha256HashHeliosStore_pins headers committees distinct first second
  refine ⟨same, Related.eq ?_⟩
  rw [consensusMptProgram_eq, consensusMptProgram_eq]
  refine Related.bind (transition_same reads agree same) fun store other reached => ?_
  rw [commitQueue_same agree same.finalizedHeader reached]
  exact Related.refl _

theorem minimal_serialize (store : Minimal.spec.Store) :
    serializeHeliosStoreSerde store = .ok (Sample.storeCode store) := by
  apply (serializeHeliosStoreSerde_ok_iff store _).mpr
  refine ⟨_, _, _, rfl, rfl, ?_, rfl⟩
  cases store.nextSyncCommittee <;> rfl

open Sample in
theorem sample_noCollision {store : Minimal.spec.Store} (sample : store = store0 ∨ store = store1 ∨ store = store2)
    (other : Minimal.spec.Store) : NoCollision known.crypto store other := by
  apply knownTries_noCollision (minimal_serialize store)
  · rcases sample with rfl | rfl | rfl <;> decide +kernel
  · rcases sample with rfl | rfl | rfl <;> decide +kernel

open Sample in
def unhashedVariant : Minimal.spec.Store :=
  { store0 with optimisticHeader := header2, currentMaxActiveParticipants := 512,
                bestValidUpdate := some ⟨header1, committee1⟩ }

open Sample in
theorem storeHash_pins_transition_sample :
    SamePinned proofInputs1.store unhashedVariant ∧ consensusMptProgram known.crypto proofInputs1 =
      consensusMptProgram known.crypto { proofInputs1 with store := unhashedVariant } := by
  apply storeHash_pins_transition known.crypto minimal_headers minimal_committees minimal_pinnedOnly proofInputs1
    { proofInputs1 with store := unhashedVariant } rfl
  · intro code code' serialized serialized' _
    exact Except.ok.inj (serialized.symm.trans serialized')
  · decide +kernel
  · decide +kernel

end NoriProof
