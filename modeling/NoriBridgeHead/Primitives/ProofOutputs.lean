import NoriBridgeHead.Primitives.Types

open Foundation

namespace NoriModel

def u64ToBeBytes (value : UInt64) : List UInt8 := natBe 8 value.toNat

def slice (bytes : List UInt8) (first width : Nat) : List UInt8 := (bytes.drop first).take width

/-- Overwrites the bytes from `first` up to `last`. -/
def copyFromSlice (buf : List UInt8) (first last : Nat) (bytes : List UInt8) : List UInt8 :=
  buf.take first ++ bytes ++ buf.drop last

def u64FromBeBytes (bytes : List UInt8) : UInt64 := UInt64.ofNat (beNat bytes)

def fixedFromSlice (width : Nat) (bytes : List UInt8) : FixedBytes width := FixedBytes.ofNat width (beNat bytes)

namespace ProofOutputs

def size : Nat := 220

@[irreducible] def toBytes (outputs : ProofOutputs) : List UInt8 :=
  let buf := List.replicate size 0
  let buf := copyFromSlice buf 0 8 (u64ToBeBytes outputs.inputSlot)
  let buf := copyFromSlice buf 8 40 outputs.inputStoreHash.bytes
  let buf := copyFromSlice buf 40 48 (u64ToBeBytes outputs.outputSlot)
  let buf := copyFromSlice buf 48 80 outputs.outputStoreHash.bytes
  let buf := copyFromSlice buf 80 112 outputs.executionStateRoot.bytes
  let buf := copyFromSlice buf 112 144 outputs.verifiedRequestsRoot.bytes
  let buf := copyFromSlice buf 144 176 outputs.nextSyncCommitteeHash.bytes
  let buf := copyFromSlice buf 176 196 outputs.proofRequestQueueAddress.bytes
  let buf := copyFromSlice buf 196 204 (u64ToBeBytes outputs.inputQueueCursor)
  let buf := copyFromSlice buf 204 212 (u64ToBeBytes outputs.outputQueueCursor)
  copyFromSlice buf 212 220 (u64ToBeBytes outputs.outputBlockNumber)

def fromBytes (bytes : List UInt8) : Except String ProofOutputs :=
  if bytes.length ≠ size then
    .error s!"Invalid input length for ProofOutputs: expected {size} bytes, got {bytes.length}"
  else
    .ok {
      inputSlot := u64FromBeBytes (slice bytes 0 8)
      inputStoreHash := fixedFromSlice 32 (slice bytes 8 32)
      outputSlot := u64FromBeBytes (slice bytes 40 8)
      outputStoreHash := fixedFromSlice 32 (slice bytes 48 32)
      executionStateRoot := fixedFromSlice 32 (slice bytes 80 32)
      verifiedRequestsRoot := fixedFromSlice 32 (slice bytes 112 32)
      nextSyncCommitteeHash := fixedFromSlice 32 (slice bytes 144 32)
      proofRequestQueueAddress := fixedFromSlice 20 (slice bytes 176 20)
      inputQueueCursor := u64FromBeBytes (slice bytes 196 8)
      outputQueueCursor := u64FromBeBytes (slice bytes 204 8)
      outputBlockNumber := u64FromBeBytes (slice bytes 212 8) }

end ProofOutputs

namespace ConsensusProofOutputs

def size : Nat := 152

@[irreducible] def toBytes (outputs : ConsensusProofOutputs) : List UInt8 :=
  let buf := List.replicate size 0
  let buf := copyFromSlice buf 0 8 (u64ToBeBytes outputs.inputSlot)
  let buf := copyFromSlice buf 8 40 outputs.inputStoreHash.bytes
  let buf := copyFromSlice buf 40 48 (u64ToBeBytes outputs.outputSlot)
  let buf := copyFromSlice buf 48 80 outputs.outputStoreHash.bytes
  let buf := copyFromSlice buf 80 112 outputs.executionStateRoot.bytes
  let buf := copyFromSlice buf 112 144 outputs.nextSyncCommitteeHash.bytes
  copyFromSlice buf 144 152 (u64ToBeBytes outputs.outputBlockNumber)

def fromBytes (bytes : List UInt8) : Except String ConsensusProofOutputs :=
  if bytes.length ≠ size then
    .error s!"Invalid input length for ConsensusProofOutputs: expected {size} bytes, got {bytes.length}"
  else
    .ok {
      inputSlot := u64FromBeBytes (slice bytes 0 8)
      inputStoreHash := fixedFromSlice 32 (slice bytes 8 32)
      outputSlot := u64FromBeBytes (slice bytes 40 8)
      outputStoreHash := fixedFromSlice 32 (slice bytes 48 32)
      executionStateRoot := fixedFromSlice 32 (slice bytes 80 32)
      nextSyncCommitteeHash := fixedFromSlice 32 (slice bytes 112 32)
      outputBlockNumber := u64FromBeBytes (slice bytes 144 8) }

end ConsensusProofOutputs

end NoriModel

namespace NoriProof

open NoriModel

@[simp] theorem u64ToBeBytes_length (value : UInt64) : (u64ToBeBytes value).length = 8 := natBe_length 8 _

@[simp] theorem u64FromBeBytes_toBeBytes (value : UInt64) : u64FromBeBytes (u64ToBeBytes value) = value := by
  have bound : value.toNat < 256 ^ 8 := value.toNat_lt
  rw [u64FromBeBytes, u64ToBeBytes, beNat_natBe, Nat.mod_eq_of_lt bound, UInt64.ofNat_toNat]

@[simp] theorem fixedFromSlice_bytes {width : Nat} (fixed : FixedBytes width) :
    fixedFromSlice width fixed.bytes = fixed := fixed.ofNat_toNat

theorem u64ToBeBytes_fromBeBytes {bytes : List UInt8} (width : bytes.length = 8) :
    u64ToBeBytes (u64FromBeBytes bytes) = bytes := by
  have bound : beNat bytes < UInt64.size := by
    have below := beNat_lt bytes
    rw [width] at below
    exact below
  have encoded := natBe_beNat bytes
  rw [width] at encoded
  rw [u64FromBeBytes, u64ToBeBytes, UInt64.toNat_ofNat_of_lt' bound, encoded]

theorem bytes_fixedFromSlice {width : Nat} {bytes : List UInt8} (sized : bytes.length = width) :
    (fixedFromSlice width bytes).bytes = bytes := by
  subst sized
  exact natBe_beNat bytes

theorem slice_length {bytes : List UInt8} {first width : Nat} (inside : first + width ≤ bytes.length) :
    (slice bytes first width).length = width := by
  rw [slice, List.length_take, List.length_drop]
  omega

theorem slice_append_drop (bytes : List UInt8) {first width next : Nat} (adjacent : first + width = next) :
    slice bytes first width ++ bytes.drop next = bytes.drop first := by
  rw [slice, ← adjacent, ← List.drop_drop, List.take_append_drop]

theorem slice_last {bytes : List UInt8} {first width : Nat} (size : bytes.length = first + width) :
    slice bytes first width = bytes.drop first := by
  apply List.take_of_length_le
  rw [List.length_drop]
  omega

/-- A field written right after the ones already written. -/
theorem copyFromSlice_next {written bytes : List UInt8} (first last missing : Nat) (start : written.length = first)
    (order : first ≤ last) :
    copyFromSlice (written ++ List.replicate missing 0) first last bytes =
      (written ++ bytes) ++ List.replicate (missing - (last - first)) 0 := by
  subst start
  have tail : (written ++ List.replicate missing (0 : UInt8)).drop last =
      List.replicate (missing - (last - written.length)) 0 := by
    rw [List.drop_append, List.drop_of_length_le order, List.nil_append, List.drop_replicate]
  rw [copyFromSlice, List.take_left, tail]

theorem toBytes_fields (outputs : ProofOutputs) : outputs.toBytes =
    u64ToBeBytes outputs.inputSlot ++ (outputs.inputStoreHash.bytes ++ (u64ToBeBytes outputs.outputSlot ++
      (outputs.outputStoreHash.bytes ++ (outputs.executionStateRoot.bytes ++ (outputs.verifiedRequestsRoot.bytes ++
        (outputs.nextSyncCommitteeHash.bytes ++ (outputs.proofRequestQueueAddress.bytes ++
          (u64ToBeBytes outputs.inputQueueCursor ++ (u64ToBeBytes outputs.outputQueueCursor ++
            u64ToBeBytes outputs.outputBlockNumber))))))))) := by
  have blank : List.replicate ProofOutputs.size (0 : UInt8) = [] ++ List.replicate 220 0 := rfl
  simp (disch := simp [FixedBytes.size]) only [ProofOutputs.toBytes, blank, copyFromSlice_next]
  simp

theorem toBytes_length (outputs : ProofOutputs) : outputs.toBytes.length = ProofOutputs.size := by
  simp only [toBytes_fields, List.length_append, u64ToBeBytes_length, FixedBytes.size]
  rfl

/-- The eleven ranges of the buffer are the eleven fields in order. -/
theorem fromBytes_toBytes (outputs : ProofOutputs) : ProofOutputs.fromBytes outputs.toBytes = .ok outputs := by
  rw [ProofOutputs.fromBytes, if_neg (not_not.mpr (toBytes_length outputs)), toBytes_fields]
  simp [slice, List.drop_append, FixedBytes.size, List.drop_of_length_le, List.take_of_length_le]

theorem toBytes_fromBytes {bytes : List UInt8} (size : bytes.length = ProofOutputs.size) :
    ∃ outputs, ProofOutputs.fromBytes bytes = .ok outputs ∧ outputs.toBytes = bytes := by
  refine ⟨_, if_neg (not_not.mpr size), ?_⟩
  change bytes.length = 220 at size
  have last : slice bytes 212 8 = bytes.drop 212 := slice_last size
  simp (disch := apply slice_length; omega) only [toBytes_fields, u64ToBeBytes_fromBeBytes, bytes_fixedFromSlice]
  rw [last]
  simp (disch := decide) only [slice_append_drop, List.drop_zero]

theorem consensus_toBytes_fields (outputs : ConsensusProofOutputs) : outputs.toBytes =
    u64ToBeBytes outputs.inputSlot ++ (outputs.inputStoreHash.bytes ++ (u64ToBeBytes outputs.outputSlot ++
      (outputs.outputStoreHash.bytes ++ (outputs.executionStateRoot.bytes ++ (outputs.nextSyncCommitteeHash.bytes ++
        u64ToBeBytes outputs.outputBlockNumber))))) := by
  have blank : List.replicate ConsensusProofOutputs.size (0 : UInt8) = [] ++ List.replicate 152 0 := rfl
  simp (disch := simp [FixedBytes.size]) only [ConsensusProofOutputs.toBytes, blank, copyFromSlice_next]
  simp

theorem consensus_toBytes_length (outputs : ConsensusProofOutputs) :
    outputs.toBytes.length = ConsensusProofOutputs.size := by
  simp only [consensus_toBytes_fields, List.length_append, u64ToBeBytes_length, FixedBytes.size]
  rfl

theorem consensus_fromBytes_toBytes (outputs : ConsensusProofOutputs) :
    ConsensusProofOutputs.fromBytes outputs.toBytes = .ok outputs := by
  rw [ConsensusProofOutputs.fromBytes, if_neg (not_not.mpr (consensus_toBytes_length outputs)),
    consensus_toBytes_fields]
  simp [slice, List.drop_append, FixedBytes.size, List.drop_of_length_le, List.take_of_length_le]

theorem consensus_toBytes_fromBytes {bytes : List UInt8} (size : bytes.length = ConsensusProofOutputs.size) :
    ∃ outputs, ConsensusProofOutputs.fromBytes bytes = .ok outputs ∧ outputs.toBytes = bytes := by
  refine ⟨_, if_neg (not_not.mpr size), ?_⟩
  change bytes.length = 152 at size
  have last : slice bytes 144 8 = bytes.drop 144 := slice_last size
  simp (disch := apply slice_length; omega) only [consensus_toBytes_fields, u64ToBeBytes_fromBeBytes,
    bytes_fixedFromSlice]
  rw [last]
  simp (disch := decide) only [slice_append_drop, List.drop_zero]

theorem proofOutputs_codec : ExactCodec 220 ProofOutputs.toBytes ProofOutputs.fromBytes := by
  apply ExactCodec.of_inverses fromBytes_toBytes
  · intro bytes outputs decoded
    by_contra wrong
    change bytes.length ≠ ProofOutputs.size at wrong
    rw [ProofOutputs.fromBytes, if_pos wrong] at decoded
    cases decoded
  · intro bytes size
    exact toBytes_fromBytes size

theorem consensusProofOutputs_codec :
    ExactCodec 152 ConsensusProofOutputs.toBytes ConsensusProofOutputs.fromBytes := by
  apply ExactCodec.of_inverses consensus_fromBytes_toBytes
  · intro bytes outputs decoded
    by_contra wrong
    change bytes.length ≠ ConsensusProofOutputs.size at wrong
    rw [ConsensusProofOutputs.fromBytes, if_pos wrong] at decoded
    cases decoded
  · intro bytes size
    exact consensus_toBytes_fromBytes size

/-- Both public-output codecs are exact, so the encoders are bijections onto the strings of their lengths. -/
theorem outputs_codecs_exact :
    ExactCodec 220 ProofOutputs.toBytes ProofOutputs.fromBytes ∧
      Set.BijOn ProofOutputs.toBytes Set.univ {bytes | bytes.length = 220} ∧
      ExactCodec 152 ConsensusProofOutputs.toBytes ConsensusProofOutputs.fromBytes ∧
      Set.BijOn ConsensusProofOutputs.toBytes Set.univ {bytes | bytes.length = 152} :=
  ⟨proofOutputs_codec, proofOutputs_codec.bijOn, consensusProofOutputs_codec, consensusProofOutputs_codec.bijOn⟩

end NoriProof
