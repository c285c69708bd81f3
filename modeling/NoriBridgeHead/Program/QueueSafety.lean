import NoriBridgeHead.Hash.LeafPacking
import NoriBridgeHead.Program.QueueSoundness

open Foundation Foundation.Outcome NoriModel

namespace NoriModel

/-- The errors that a witness can provoke: no panic, no tree that is too deep and no leaf that does not hash. -/
def MptError.Provoked : Failure MptError → Prop
  | .panic _ => False
  | .error (.exceedsMaxTreeDepth ..) => False
  | .error (.leafHashError ..) => False
  | .error _ => True

end NoriModel

namespace NoriProof

variable {C : Crypto}

theorem failsOnly_mapErr_fromResult {ε ε' α : Type} {allowed : Failure ε' → Prop} {change : ε → ε'}
    (errors : ∀ error, allowed (.error (change error))) (result : Except ε α) :
    FailsOnly allowed (mapErr change (fromResult result)) := by
  apply FailsOnly.mk
  intro failure failed
  cases result with
  | ok value => cases failed
  | error error =>
    cases failed
    exact errors error

theorem failsOnly_okOr {ε α : Type} {allowed : Failure ε → Prop} {error : ε} (expected : allowed (.error error))
    (option : Option α) : FailsOnly allowed (okOr error option) := by
  apply FailsOnly.mk
  intro failure failed
  cases option with
  | some value => cases failed
  | none =>
    cases failed
    exact expected

theorem failsOnly_ensure {ε : Type} {allowed : Failure ε → Prop} {condition : Prop} [Decidable condition] {error : ε}
    (expected : allowed (.error error)) : FailsOnly allowed (ensure condition error) := by
  apply FailsOnly.mk
  intro failure failed
  unfold ensure at failed
  split at failed
  · cases failed
  · cases failed
    exact expected

theorem verifyStorageWord_fails (storageRoot key : B256) (value : U256) (proof : List Bytes) :
    FailsOnly MptError.Provoked (verifyStorageWord C storageRoot key value proof) :=
  failsOnly_mapErr_fromResult (fun _ => trivial) _

theorem verifyAccount_fails (stateRoot : B256) (provenAccount : ProvenAccount) (address : Address)
    (account : Option TrieAccount) (proof : List Bytes) :
    FailsOnly MptError.Provoked (verifyAccount C stateRoot provenAccount address account proof) := by
  apply FailsOnly.bind
  · apply failsOnly_mapErr_fromResult
    intro reason
    cases provenAccount <;> trivial
  · intro _ _
    exact .of_ok rfl

/-- An index within the batch does not overflow, so only the words of an entry can be refused. -/
theorem verifyEntry_fails {storageRoot : B256} {cursor : UInt64} {entry : QueueEntryProof} {offset : Nat}
    (fits : cursor.toNat + offset < 2^64) :
    FailsOnly MptError.Provoked (verifyEntry C storageRoot cursor (entry, offset)) := by
  have wide : (UInt64.ofNat offset).toNat = offset := UInt64.toNat_ofNat_of_lt' (by
    change offset < 2^64
    omega)
  have added : (addU64 cursor (UInt64.ofNat offset) : Outcome MptError UInt64) =
      .ok (cursor + UInt64.ofNat offset) := by
    rw [addU64, wide, if_pos fits]
  apply FailsOnly.bind (.of_ok added)
  intro _ _
  apply FailsOnly.forM
  intro word _
  exact verifyStorageWord_fails _ _ _ _

theorem verifyTarget_fails (stateRoot : B256) (maps : TargetMaps) (target : TargetStorageProof) :
    FailsOnly MptError.Provoked (verifyTarget C stateRoot maps target) :=
  .bind (verifyAccount_fails _ _ _ _ _) fun _ _ => .of_ok rfl

theorem entryLeaf_fails (maps : TargetMaps) (entry : QueueEntryProof) :
    FailsOnly MptError.Provoked (entryLeaf C maps entry) := by
  unfold entryLeaf
  apply FailsOnly.bind (failsOnly_okOr trivial _)
  intro storageRoot _
  apply FailsOnly.bind (failsOnly_okOr trivial _)
  intro slot _
  apply FailsOnly.bind (verifyStorageWord_fails _ _ _ _)
  intro _ _
  rcases hashRequestLeaf_total C entry.target entry.collectionKeysCount (entry.collectionKeys[0])
    (entry.collectionKeys[1]) slot.value with ⟨leaf, hashed⟩
  rw [hashed]
  exact .of_ok rfl

theorem requestsRoot_total {leaves : List Fp} (batch : leaves.length ≤ maxBatch) :
    ∃ root, requestsRoot C leaves = .ok root := by
  rcases getMerkleZeros_ok (ε := Empty) with ⟨zeros, loaded, _⟩
  exact ⟨_, requestsRoot_merkleNode C loaded batch⟩

theorem verifyQueue_fails (stateRoot : B256) (queue : QueueStorage) :
    FailsOnly MptError.Provoked (verifyQueue C stateRoot queue) := by
  unfold verifyQueue
  apply FailsOnly.bind (verifyAccount_fails _ _ _ _ _)
  intro storageRoot _
  apply FailsOnly.bind (verifyStorageWord_fails _ _ _ _)
  intro _ _
  apply FailsOnly.bind (failsOnly_ensure trivial)
  intro _ behind
  rw [ensure_ok_iff, gt_iff_lt, UInt64.lt_iff_toNat_lt] at behind
  have order : queue.inputCursor ≤ queue.head := UInt64.le_iff_toNat_le.mpr (by omega)
  apply FailsOnly.bind (.of_ok (if_pos order))
  intro remaining subtracted
  rcases subU64_ok_iff.mp subtracted with ⟨_, rest⟩
  apply FailsOnly.bind (failsOnly_ensure trivial)
  intro _ counted
  rw [ensure_ok_iff, batch_toNat, rest] at counted
  have bound := queue.head.toNat_lt
  have room : queue.inputCursor.toNat + queue.entries.length ≤ queue.head.toNat := by omega
  apply FailsOnly.bind
  · apply FailsOnly.forM
    rintro ⟨entry, offset⟩ member
    have inside : offset < queue.entries.length :=
      (List.getElem?_eq_some_iff.mp (List.mk_mem_zipIdx_iff_getElem?.mp member)).1
    exact verifyEntry_fails (by omega)
  · intro _ _
    apply FailsOnly.bind (FailsOnly.foldlM (fun maps target => verifyTarget_fails stateRoot maps target) _ _)
    intro maps _
    apply FailsOnly.bind (FailsOnly.mapM (fun entry => entryLeaf_fails maps entry) _)
    intro leaves hashed
    have size : leaves.length = queue.entries.length := ((mapM_ok_iff _ _ _).mp hashed).length_eq.symm
    rcases requestsRoot_total (C := C) (show leaves.length ≤ maxBatch by omega) with ⟨root, rooted⟩
    apply FailsOnly.bind (.of_ok rooted)
    intro _ _
    have fits : queue.inputCursor.toNat + (min remaining (UInt64.ofNat maxBatch)).toNat < 2^64 := by
      rw [batch_toNat, rest]
      omega
    exact .bind (.of_ok (if_pos fits)) fun _ _ => .of_ok rfl

/-- No witness aborts the check or provokes either dead error, and an accepted one stays between cursor and head. -/
theorem verifyQueue_cannot_abort (C : Crypto) (executionStateRoot : B256) (queueStorage : QueueStorage) :
    (∀ message, verifyQueue C executionStateRoot queueStorage ≠ panicked message) ∧
      (∀ slots requestedDepth maxDepth,
        verifyQueue C executionStateRoot queueStorage ≠ fail (.exceedsMaxTreeDepth slots requestedDepth maxDepth)) ∧
      (∀ target slotKey value reason,
        verifyQueue C executionStateRoot queueStorage ≠ fail (.leafHashError target slotKey value reason)) ∧
      ∀ outputCursor root, verifyQueue C executionStateRoot queueStorage = .ok (outputCursor, root) →
        queueStorage.inputCursor ≤ outputCursor ∧ outputCursor ≤ queueStorage.head := by
  have fails := verifyQueue_fails (C := C) executionStateRoot queueStorage
  refine ⟨fun _ failed => fails.only _ failed, fun _ _ _ failed => fails.only _ failed,
    fun _ _ _ _ failed => fails.only _ failed, ?_⟩
  intro outputCursor root accepted
  rcases verifyQueue_ok_iff.mp accepted with ⟨_, _, behind, count, _, _, output⟩
  rw [UInt64.le_iff_toNat_le, UInt64.le_iff_toNat_le]
  omega

end NoriProof
