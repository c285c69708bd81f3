import Mathlib.Data.Nat.Digits.Lemmas
import NoriBridgeHead.BridgeHead.Api
import NoriBridgeHead.Foundation.Serde
import NoriBridgeHead.Program.KnownTries

open Foundation Foundation.Serde

namespace NoriModel.NoticeMessages

inductive TransitionNoticeMessageType where
  | bridgeHeadStarted
  | bridgeHeadWarning
  | bridgeHeadJobCreated
  | bridgeHeadJobSucceeded
  | bridgeHeadJobFailed
  | bridgeHeadFinalityTransitionDetected
  | bridgeHeadAdvanced
deriving DecidableEq

structure TransitionNoticeExtensionBridgeHeadStarted where
  latestBeaconSlot : UInt64
  currentSlot : UInt64
  storeHash : B256
  queueCursor : UInt64

structure TransitionNoticeExtensionBridgeHeadWarning where
  message : String

structure TransitionNoticeExtensionBridgeHeadJobCreated where
  jobId : UInt64
  inputSlot : UInt64
  inputBlockNumber : UInt64
  inputStoreHash : B256
  inputQueueCursor : UInt64
  expectedOutputSlot : UInt64
  expectedOutputBlockNumber : UInt64
  expectedOutputQueueCursor : UInt64

structure TransitionNoticeExtensionBridgeHeadJobSucceeded (F64 : Type) where
  jobId : UInt64
  inputSlot : UInt64
  inputBlockNumber : UInt64
  inputStoreHash : B256
  inputQueueCursor : UInt64
  outputSlot : UInt64
  outputBlockNumber : UInt64
  outputStoreHash : B256
  outputQueueCursor : UInt64
  executionStateRoot : B256
  verifiedRequestsRoot : B256
  nextSyncCommitteeHash : B256
  proofRequestQueueAddress : Address
  verifiedRequests : List VerifiedRequest
  elapsedSec : F64

structure TransitionNoticeExtensionBridgeHeadJobFailed (F64 : Type) where
  jobId : UInt64
  inputSlot : UInt64
  inputBlockNumber : UInt64
  inputStoreHash : B256
  inputQueueCursor : UInt64
  expectedOutputSlot : UInt64
  expectedOutputBlockNumber : UInt64
  expectedOutputQueueCursor : UInt64
  error : String
  elapsedSec : F64
  nJobInBuffer : UInt64

structure TransitionNoticeExtensionBridgeHeadFinalityTransitionDetected (S : ConsensusSpec) where
  blockNumber : UInt64
  slot : UInt64
  inputSlot : UInt64
  currentWindowProofInputsWithWindow : ProofInputsWithWindow S
  nextWindowProofInputsWithWindow : Option (ProofInputsWithWindow S)

structure TransitionNoticeExtensionBridgeHeadAdvanced where
  slot : UInt64
  storeHash : B256
  queueCursor : UInt64

inductive TransitionNoticeBridgeHeadMessageExtension (S : ConsensusSpec) (F64 : Type) where
  | started (extension : TransitionNoticeExtensionBridgeHeadStarted)
  | warning (extension : TransitionNoticeExtensionBridgeHeadWarning)
  | jobCreated (extension : TransitionNoticeExtensionBridgeHeadJobCreated)
  | jobSucceeded (extension : TransitionNoticeExtensionBridgeHeadJobSucceeded F64)
  | jobFailed (extension : TransitionNoticeExtensionBridgeHeadJobFailed F64)
  | finalityTransitionDetected (extension : TransitionNoticeExtensionBridgeHeadFinalityTransitionDetected S)
  | headAdvanced (extension : TransitionNoticeExtensionBridgeHeadAdvanced)

/-- The struct that `define_message!` makes for an extension. -/
structure DefinedMessage (Extension : Type) where
  datetimeIso : String
  extension : Extension
  messageType : TransitionNoticeMessageType

abbrev BridgeHeadStarted := DefinedMessage TransitionNoticeExtensionBridgeHeadStarted
abbrev BridgeHeadWarning := DefinedMessage TransitionNoticeExtensionBridgeHeadWarning
abbrev BridgeHeadJobCreated := DefinedMessage TransitionNoticeExtensionBridgeHeadJobCreated
abbrev BridgeHeadJobSucceeded (F64 : Type) := DefinedMessage (TransitionNoticeExtensionBridgeHeadJobSucceeded F64)
abbrev BridgeHeadJobFailed (F64 : Type) := DefinedMessage (TransitionNoticeExtensionBridgeHeadJobFailed F64)
abbrev BridgeHeadFinalityTransitionDetected (S : ConsensusSpec) :=
  DefinedMessage (TransitionNoticeExtensionBridgeHeadFinalityTransitionDetected S)
abbrev BridgeHeadAdvanced := DefinedMessage TransitionNoticeExtensionBridgeHeadAdvanced

inductive TransitionNoticeBridgeHeadMessage (S : ConsensusSpec) (F64 : Type) where
  | started (message : BridgeHeadStarted)
  | warning (message : BridgeHeadWarning)
  | jobCreated (message : BridgeHeadJobCreated)
  | jobSucceeded (message : BridgeHeadJobSucceeded F64)
  | jobFailed (message : BridgeHeadJobFailed F64)
  | finalityTransitionDetected (message : BridgeHeadFinalityTransitionDetected S)
  | headAdvanced (message : BridgeHeadAdvanced)

variable {S : ConsensusSpec} {N F64 : Type}

def TransitionNoticeBridgeHeadMessageExtension.intoMessage (datetimeIso : String) :
    TransitionNoticeBridgeHeadMessageExtension S F64 → TransitionNoticeBridgeHeadMessage S F64
  | .started extension => .started ⟨datetimeIso, extension, .bridgeHeadStarted⟩
  | .warning extension => .warning ⟨datetimeIso, extension, .bridgeHeadWarning⟩
  | .jobCreated extension => .jobCreated ⟨datetimeIso, extension, .bridgeHeadJobCreated⟩
  | .jobSucceeded extension => .jobSucceeded ⟨datetimeIso, extension, .bridgeHeadJobSucceeded⟩
  | .jobFailed extension => .jobFailed ⟨datetimeIso, extension, .bridgeHeadJobFailed⟩
  | .finalityTransitionDetected extension =>
    .finalityTransitionDetected ⟨datetimeIso, extension, .bridgeHeadFinalityTransitionDetected⟩
  | .headAdvanced extension => .headAdvanced ⟨datetimeIso, extension, .bridgeHeadAdvanced⟩

/-- The implementations that other packages have for the types of the fields. -/
structure Primitives (N F64 : Type) (S : ConsensusSpec) where
  u8 : Codec N UInt8
  u64 : Codec N UInt64
  f64 : Codec N F64
  u256 : Codec N U256
  fixedBytes : Codec N B256
  address : Codec N Address
  proofInputsWithWindow : Value N → Except DeError (ProofInputsWithWindow S)

structure Primitives.RoundTrip (P : Primitives N F64 S) : Prop where
  u8 : P.u8.RoundTrips
  u64 : P.u64.RoundTrips
  f64 : P.f64.RoundTrips
  u256 : P.u256.RoundTrips
  fixedBytes : P.fixedBytes.RoundTrips
  address : P.address.RoundTrips

namespace TransitionNoticeMessageType

def variantName : TransitionNoticeMessageType → String
  | bridgeHeadStarted => "BridgeHeadStarted"
  | bridgeHeadWarning => "BridgeHeadWarning"
  | bridgeHeadJobCreated => "BridgeHeadJobCreated"
  | bridgeHeadJobSucceeded => "BridgeHeadJobSucceeded"
  | bridgeHeadJobFailed => "BridgeHeadJobFailed"
  | bridgeHeadFinalityTransitionDetected => "BridgeHeadFinalityTransitionDetected"
  | bridgeHeadAdvanced => "BridgeHeadAdvanced"

def variants : List TransitionNoticeMessageType :=
  [bridgeHeadStarted, bridgeHeadWarning, bridgeHeadJobCreated, bridgeHeadJobSucceeded, bridgeHeadJobFailed,
    bridgeHeadFinalityTransitionDetected, bridgeHeadAdvanced]

def ofVariantName (name : String) : Except DeError TransitionNoticeMessageType :=
  match variants.find? fun messageType => messageType.variantName == name with
  | some messageType => .ok messageType
  | none => .error (.unknownVariant name)

/-- A variant without data is a string; it may also be given as the only key of an object. -/
def codec : Codec N TransitionNoticeMessageType where
  serialize messageType := .string messageType.variantName
  deserialize
    | .string name | .object [(name, .null)] => ofVariantName name
    | _ => .error .invalidType

end TransitionNoticeMessageType

section Derived

variable (P : Primitives N F64 S)

def startedCodec : Codec N TransitionNoticeExtensionBridgeHeadStarted :=
  (Fields.of TransitionNoticeExtensionBridgeHeadStarted.mk
    |>.field "latest_beacon_slot" P.u64 (·.latestBeaconSlot)
    |>.field "current_slot" P.u64 (·.currentSlot)
    |>.field "store_hash" P.fixedBytes (·.storeHash)
    |>.field "queue_cursor" P.u64 (·.queueCursor)).codec

def warningCodec : Codec N TransitionNoticeExtensionBridgeHeadWarning :=
  (Fields.of TransitionNoticeExtensionBridgeHeadWarning.mk
    |>.field "message" .string (·.message)).codec

def jobCreatedCodec : Codec N TransitionNoticeExtensionBridgeHeadJobCreated :=
  (Fields.of TransitionNoticeExtensionBridgeHeadJobCreated.mk
    |>.field "job_id" P.u64 (·.jobId)
    |>.field "input_slot" P.u64 (·.inputSlot)
    |>.field "input_block_number" P.u64 (·.inputBlockNumber)
    |>.field "input_store_hash" P.fixedBytes (·.inputStoreHash)
    |>.field "input_queue_cursor" P.u64 (·.inputQueueCursor)
    |>.field "expected_output_slot" P.u64 (·.expectedOutputSlot)
    |>.field "expected_output_block_number" P.u64 (·.expectedOutputBlockNumber)
    |>.field "expected_output_queue_cursor" P.u64 (·.expectedOutputQueueCursor)).codec

def verifiedRequestCodec : Codec N VerifiedRequest :=
  (Fields.of VerifiedRequest.mk
    |>.field "target" P.address (·.target)
    |>.field "collection_keys_count" P.u8 (·.collectionKeysCount)
    |>.field "collection_keys" (P.fixedBytes.vector maxCollectionKeys) (·.collectionKeys)
    |>.field "value" P.u256 (·.value)).codec

def jobSucceededCodec : Codec N (TransitionNoticeExtensionBridgeHeadJobSucceeded F64) :=
  (Fields.of TransitionNoticeExtensionBridgeHeadJobSucceeded.mk
    |>.field "job_id" P.u64 (·.jobId)
    |>.field "input_slot" P.u64 (·.inputSlot)
    |>.field "input_block_number" P.u64 (·.inputBlockNumber)
    |>.field "input_store_hash" P.fixedBytes (·.inputStoreHash)
    |>.field "input_queue_cursor" P.u64 (·.inputQueueCursor)
    |>.field "output_slot" P.u64 (·.outputSlot)
    |>.field "output_block_number" P.u64 (·.outputBlockNumber)
    |>.field "output_store_hash" P.fixedBytes (·.outputStoreHash)
    |>.field "output_queue_cursor" P.u64 (·.outputQueueCursor)
    |>.field "execution_state_root" P.fixedBytes (·.executionStateRoot)
    |>.field "verified_requests_root" P.fixedBytes (·.verifiedRequestsRoot)
    |>.field "next_sync_committee_hash" P.fixedBytes (·.nextSyncCommitteeHash)
    |>.field "proof_request_queue_address" P.address (·.proofRequestQueueAddress)
    |>.field "verified_requests" (verifiedRequestCodec P).list (·.verifiedRequests)
    |>.field "elapsed_sec" P.f64 (·.elapsedSec)).codec

def jobFailedCodec : Codec N (TransitionNoticeExtensionBridgeHeadJobFailed F64) :=
  (Fields.of TransitionNoticeExtensionBridgeHeadJobFailed.mk
    |>.field "job_id" P.u64 (·.jobId)
    |>.field "input_slot" P.u64 (·.inputSlot)
    |>.field "input_block_number" P.u64 (·.inputBlockNumber)
    |>.field "input_store_hash" P.fixedBytes (·.inputStoreHash)
    |>.field "input_queue_cursor" P.u64 (·.inputQueueCursor)
    |>.field "expected_output_slot" P.u64 (·.expectedOutputSlot)
    |>.field "expected_output_block_number" P.u64 (·.expectedOutputBlockNumber)
    |>.field "expected_output_queue_cursor" P.u64 (·.expectedOutputQueueCursor)
    |>.field "error" .string (·.error)
    |>.field "elapsed_sec" P.f64 (·.elapsedSec)
    |>.field "n_job_in_buffer" P.u64 (·.nJobInBuffer)).codec

def finalityTransitionDetectedWritten : Fields N (TransitionNoticeExtensionBridgeHeadFinalityTransitionDetected S)
    (UInt64 → ProofInputsWithWindow S → Option (ProofInputsWithWindow S) →
      TransitionNoticeExtensionBridgeHeadFinalityTransitionDetected S) :=
  Fields.of TransitionNoticeExtensionBridgeHeadFinalityTransitionDetected.mk
    |>.field "block_number" P.u64 (·.blockNumber)
    |>.field "slot" P.u64 (·.slot)

/-- The windows and the input slot are read like any other field although they are never written. -/
def finalityTransitionDetectedCodec : Codec N (TransitionNoticeExtensionBridgeHeadFinalityTransitionDetected S) :=
  (finalityTransitionDetectedWritten P
    |>.skipSerializing "input_slot" P.u64.deserialize (·.inputSlot)
    |>.skipSerializing "current_window_proof_inputs_with_window" P.proofInputsWithWindow
      (·.currentWindowProofInputsWithWindow)
    |>.skipSerializingOption "next_window_proof_inputs_with_window" P.proofInputsWithWindow
      (·.nextWindowProofInputsWithWindow)).codec

def advancedCodec : Codec N TransitionNoticeExtensionBridgeHeadAdvanced :=
  (Fields.of TransitionNoticeExtensionBridgeHeadAdvanced.mk
    |>.field "slot" P.u64 (·.slot)
    |>.field "store_hash" P.fixedBytes (·.storeHash)
    |>.field "queue_cursor" P.u64 (·.queueCursor)).codec

def messageCodec {Extension : Type} (extension : Codec N Extension) : Codec N (DefinedMessage Extension) :=
  (Fields.of DefinedMessage.mk
    |>.field "datetime_iso" .string (·.datetimeIso)
    |>.field "extension" extension (·.extension)
    |>.field "message_type" TransitionNoticeMessageType.codec (·.messageType)).codec

end Derived

structure Helper (N : Type) where
  messageType : TransitionNoticeMessageType
  other : List (String × Value N)

/-- A struct with a flattened map is read from an object only. -/
def Helper.deserialize : Value N → Except DeError (Helper N)
  | .object entries => do
    let messageType ← readField entries "message_type" TransitionNoticeMessageType.codec.deserialize
    pure ⟨messageType, entries.filter fun entry => entry.1 ≠ "message_type"⟩
  | _ => .error .invalidType

namespace TransitionNoticeBridgeHeadMessage

variable (P : Primitives N F64 S)

def serialize : TransitionNoticeBridgeHeadMessage S F64 → Value N
  | .started message => (messageCodec (startedCodec P)).serialize message
  | .warning message => (messageCodec warningCodec).serialize message
  | .jobCreated message => (messageCodec (jobCreatedCodec P)).serialize message
  | .jobSucceeded message => (messageCodec (jobSucceededCodec P)).serialize message
  | .jobFailed message => (messageCodec (jobFailedCodec P)).serialize message
  | .finalityTransitionDetected message => (messageCodec (finalityTransitionDetectedCodec P)).serialize message
  | .headAdvanced message => (messageCodec (advancedCodec P)).serialize message

def deserializeAs {Extension : Type} (extension : Codec N Extension) (jsonValue : Value N) :
    Except DeError (DefinedMessage Extension) :=
  ((messageCodec extension).deserialize jsonValue).mapError .custom

def dispatch (messageType : TransitionNoticeMessageType) (jsonValue : Value N) :
    Except DeError (TransitionNoticeBridgeHeadMessage S F64) :=
  match messageType with
  | .bridgeHeadStarted => .started <$> deserializeAs (startedCodec P) jsonValue
  | .bridgeHeadWarning => .warning <$> deserializeAs warningCodec jsonValue
  | .bridgeHeadJobCreated => .jobCreated <$> deserializeAs (jobCreatedCodec P) jsonValue
  | .bridgeHeadJobSucceeded => .jobSucceeded <$> deserializeAs (jobSucceededCodec P) jsonValue
  | .bridgeHeadJobFailed => .jobFailed <$> deserializeAs (jobFailedCodec P) jsonValue
  | .bridgeHeadFinalityTransitionDetected =>
    .finalityTransitionDetected <$> deserializeAs (finalityTransitionDetectedCodec P) jsonValue
  | .bridgeHeadAdvanced => .headAdvanced <$> deserializeAs (advancedCodec P) jsonValue

def deserialize (value : Value N) : Except DeError (TransitionNoticeBridgeHeadMessage S F64) := do
  let helper ← Helper.deserialize value
  -- The map gives up the type to the helper and gets it back.
  let other := helper.other ++ [("message_type", TransitionNoticeMessageType.codec.serialize helper.messageType)]
  dispatch P helper.messageType (.object other)

end TransitionNoticeBridgeHeadMessage

def DefinedMessage.Agrees {Extension : Type} (same : Extension → Extension → Prop)
    (left right : DefinedMessage Extension) : Prop :=
  left.messageType = right.messageType ∧ left.datetimeIso = right.datetimeIso ∧ same left.extension right.extension

/-- The same variant with the same type, time and serialized fields. -/
def SameOnWire : TransitionNoticeBridgeHeadMessage S F64 → TransitionNoticeBridgeHeadMessage S F64 → Prop
  | .started left, .started right => left.Agrees Eq right
  | .warning left, .warning right => left.Agrees Eq right
  | .jobCreated left, .jobCreated right => left.Agrees Eq right
  | .jobSucceeded left, .jobSucceeded right => left.Agrees Eq right
  | .jobFailed left, .jobFailed right => left.Agrees Eq right
  | .finalityTransitionDetected left, .finalityTransitionDetected right =>
    left.Agrees (fun sent read => sent.blockNumber = read.blockNumber ∧ sent.slot = read.slot) right
  | .headAdvanced left, .headAdvanced right => left.Agrees Eq right
  | _, _ => False

def SurvivesWire (P : Primitives N F64 S) (message : TransitionNoticeBridgeHeadMessage S F64) : Prop :=
  ∃ read, TransitionNoticeBridgeHeadMessage.deserialize P (message.serialize P) = .ok read ∧ SameOnWire message read

/-- A notice of the event loop as the extension that it sends; the time that the job took is not part of the notice. -/
def ofNotice (elapsedSec : F64) : TransitionNotice S → TransitionNoticeBridgeHeadMessageExtension S F64
  | .started data => .started ⟨data.latestBeaconSlot, data.currentSlot, data.storeHash, data.queueCursor⟩
  | .warning message => .warning ⟨message⟩
  | .jobCreated data => .jobCreated {
      jobId := data.jobId
      inputSlot := data.inputSlot
      inputBlockNumber := data.inputBlockNumber
      inputStoreHash := data.inputStoreHash
      inputQueueCursor := data.inputQueueCursor
      expectedOutputSlot := data.expectedOutputSlot
      expectedOutputBlockNumber := data.expectedOutputBlockNumber
      expectedOutputQueueCursor := data.expectedOutputQueueCursor }
  | .jobSucceeded data => .jobSucceeded {
      jobId := data.jobId
      inputSlot := data.inputSlot
      inputBlockNumber := data.inputBlockNumber
      inputStoreHash := data.inputStoreHash
      inputQueueCursor := data.inputQueueCursor
      outputSlot := data.outputSlot
      outputBlockNumber := data.outputBlockNumber
      outputStoreHash := data.outputStoreHash
      outputQueueCursor := data.outputQueueCursor
      executionStateRoot := data.executionStateRoot
      verifiedRequestsRoot := data.verifiedRequestsRoot
      nextSyncCommitteeHash := data.nextSyncCommitteeHash
      proofRequestQueueAddress := data.proofRequestQueueAddress
      verifiedRequests := data.verifiedRequests
      elapsedSec := elapsedSec }
  | .jobFailed data => .jobFailed {
      jobId := data.jobId
      inputSlot := data.inputSlot
      inputBlockNumber := data.inputBlockNumber
      inputStoreHash := data.inputStoreHash
      inputQueueCursor := data.inputQueueCursor
      expectedOutputSlot := data.expectedOutputSlot
      expectedOutputBlockNumber := data.expectedOutputBlockNumber
      expectedOutputQueueCursor := data.expectedOutputQueueCursor
      error := data.error
      elapsedSec := elapsedSec
      nJobInBuffer := UInt64.ofNat data.nJobInBuffer }
  | .finalityTransitionDetected data => .finalityTransitionDetected {
      blockNumber := data.blockNumber
      slot := data.slot
      inputSlot := data.inputSlot
      currentWindowProofInputsWithWindow := data.currentWindowProofInputsWithWindow
      nextWindowProofInputsWithWindow := data.nextWindowProofInputsWithWindow }
  | .headAdvanced data => .headAdvanced ⟨data.slot, data.storeHash, data.queueCursor⟩

def TransitionNoticeBridgeHeadMessageExtension.isFinalityTransitionDetected :
    TransitionNoticeBridgeHeadMessageExtension S F64 → Bool
  | .finalityTransitionDetected _ => true
  | .started _ | .warning _ | .jobCreated _ | .jobSucceeded _ | .jobFailed _ | .headAdvanced _ => false

end NoriModel.NoticeMessages

namespace NoriProof

open NoriModel NoriModel.NoticeMessages TransitionNoticeBridgeHeadMessage

variable {S : ConsensusSpec} {N F64 Extension : Type} {P : Primitives N F64 S}

theorem messageType_roundTrips :
    (TransitionNoticeMessageType.codec : Codec N TransitionNoticeMessageType).RoundTrips := by
  apply Codec.RoundTrips.mk
  intro messageType
  show TransitionNoticeMessageType.ofVariantName messageType.variantName = .ok messageType
  cases messageType <;> decide

theorem warningCodec_roundTrips : (warningCodec : Codec N TransitionNoticeExtensionBridgeHeadWarning).RoundTrips := by
  apply Fields.codec_roundTrips (by simp) (fun _ => rfl)
  exact Fields.recovers_of _ |>.field Codec.string_roundTrips

theorem messageCodec_roundTrips {extension : Codec N Extension} (lawful : extension.RoundTrips) :
    (messageCodec extension).RoundTrips := by
  apply Fields.codec_roundTrips (by simp) (fun _ => rfl)
  exact Fields.recovers_of _ |>.field Codec.string_roundTrips |>.field lawful |>.field messageType_roundTrips

theorem messageCodec_serialize (extension : Codec N Extension) (message : DefinedMessage Extension) :
    (messageCodec extension).serialize message = .object
      [("datetime_iso", .string message.datetimeIso), ("extension", extension.serialize message.extension),
        ("message_type", .string message.messageType.variantName)] := rfl

/-- What the helper takes out of a written message and puts back is the message as it was written. -/
theorem deserialize_written (extension : Codec N Extension) (message : DefinedMessage Extension) :
    deserialize P ((messageCodec extension).serialize message) =
      dispatch P message.messageType ((messageCodec extension).serialize message) := by
  have typed : TransitionNoticeMessageType.codec.deserialize (.string message.messageType.variantName : Value N) =
      .ok message.messageType := messageType_roundTrips.back message.messageType
  have helped : Helper.deserialize ((messageCodec extension).serialize message) = .ok ⟨message.messageType,
      [("datetime_iso", .string message.datetimeIso), ("extension", extension.serialize message.extension)]⟩ := by
    rw [messageCodec_serialize]
    simp [Helper.deserialize, readField, List.lookup_cons, typed]
  rw [deserialize, helped, messageCodec_serialize]
  rfl

theorem messageCodec_fails {extension : Codec N Extension} {content : Extension} {error : DeError}
    (failed : extension.deserialize (extension.serialize content) = .error error) (datetimeIso : String)
    (messageType : TransitionNoticeMessageType) :
    (messageCodec extension).deserialize ((messageCodec extension).serialize ⟨datetimeIso, content, messageType⟩) =
      .error error := by
  rw [messageCodec_serialize]
  simp [messageCodec, Fields.codec, Fields.field, Fields.of, readField, List.lookup_cons, Codec.string, failed]

/-- A message whose type leads the dispatch to its own variant is read back. -/
theorem read_back {extension : Codec N Extension} (lawful : extension.RoundTrips)
    {make : DefinedMessage Extension → TransitionNoticeBridgeHeadMessage S F64}
    {messageType : TransitionNoticeMessageType}
    (dispatched : ∀ jsonValue, dispatch P messageType jsonValue = make <$> deserializeAs extension jsonValue)
    (datetimeIso : String) (content : Extension) :
    deserialize P ((messageCodec extension).serialize ⟨datetimeIso, content, messageType⟩) =
      .ok (make ⟨datetimeIso, content, messageType⟩) := by
  rw [deserialize_written, dispatched, deserializeAs, (messageCodec_roundTrips lawful).back]
  rfl

theorem sameOnWire_self (extension : TransitionNoticeBridgeHeadMessageExtension S F64) (datetimeIso : String) :
    SameOnWire (extension.intoMessage datetimeIso) (extension.intoMessage datetimeIso) := by
  cases extension with
  | finalityTransitionDetected extension => exact ⟨rfl, rfl, rfl, rfl⟩
  | _ => exact ⟨rfl, rfl, rfl⟩

section Lawful

variable (lawful : P.RoundTrip)
include lawful

theorem startedCodec_roundTrips : (startedCodec P).RoundTrips := by
  apply Fields.codec_roundTrips (by simp) (fun _ => rfl)
  exact Fields.recovers_of _
    |>.field lawful.u64 |>.field lawful.u64 |>.field lawful.fixedBytes |>.field lawful.u64

theorem jobCreatedCodec_roundTrips : (jobCreatedCodec P).RoundTrips := by
  apply Fields.codec_roundTrips (by simp) (fun _ => rfl)
  exact Fields.recovers_of _
    |>.field lawful.u64 |>.field lawful.u64 |>.field lawful.u64 |>.field lawful.fixedBytes
    |>.field lawful.u64 |>.field lawful.u64 |>.field lawful.u64 |>.field lawful.u64

theorem verifiedRequestCodec_roundTrips : (verifiedRequestCodec P).RoundTrips := by
  apply Fields.codec_roundTrips (by simp) (fun _ => rfl)
  exact Fields.recovers_of _
    |>.field lawful.address |>.field lawful.u8 |>.field (lawful.fixedBytes.vector _) |>.field lawful.u256

theorem jobSucceededCodec_roundTrips : (jobSucceededCodec P).RoundTrips := by
  apply Fields.codec_roundTrips (by simp) (fun _ => rfl)
  exact Fields.recovers_of _
    |>.field lawful.u64 |>.field lawful.u64 |>.field lawful.u64 |>.field lawful.fixedBytes |>.field lawful.u64
    |>.field lawful.u64 |>.field lawful.u64 |>.field lawful.fixedBytes |>.field lawful.u64
    |>.field lawful.fixedBytes |>.field lawful.fixedBytes |>.field lawful.fixedBytes |>.field lawful.address
    |>.field (verifiedRequestCodec_roundTrips lawful).list |>.field lawful.f64

theorem jobFailedCodec_roundTrips : (jobFailedCodec P).RoundTrips := by
  apply Fields.codec_roundTrips (by simp) (fun _ => rfl)
  exact Fields.recovers_of _
    |>.field lawful.u64 |>.field lawful.u64 |>.field lawful.u64 |>.field lawful.fixedBytes |>.field lawful.u64
    |>.field lawful.u64 |>.field lawful.u64 |>.field lawful.u64 |>.field Codec.string_roundTrips
    |>.field lawful.f64 |>.field lawful.u64

theorem advancedCodec_roundTrips : (advancedCodec P).RoundTrips := by
  apply Fields.codec_roundTrips (by simp) (fun _ => rfl)
  exact Fields.recovers_of _ |>.field lawful.u64 |>.field lawful.fixedBytes |>.field lawful.u64

theorem notice_read_back (extension : TransitionNoticeBridgeHeadMessageExtension S F64) (datetimeIso : String)
    (other : extension.isFinalityTransitionDetected = false) :
    deserialize P ((extension.intoMessage datetimeIso).serialize P) = .ok (extension.intoMessage datetimeIso) := by
  cases extension with
  | started extension => exact read_back (startedCodec_roundTrips lawful) (fun _ => rfl) datetimeIso extension
  | warning extension => exact read_back warningCodec_roundTrips (fun _ => rfl) datetimeIso extension
  | jobCreated extension => exact read_back (jobCreatedCodec_roundTrips lawful) (fun _ => rfl) datetimeIso extension
  | jobSucceeded extension => exact read_back (jobSucceededCodec_roundTrips lawful) (fun _ => rfl) datetimeIso extension
  | jobFailed extension => exact read_back (jobFailedCodec_roundTrips lawful) (fun _ => rfl) datetimeIso extension
  | finalityTransitionDetected extension => cases other
  | headAdvanced extension => exact read_back (advancedCodec_roundTrips lawful) (fun _ => rfl) datetimeIso extension

theorem finalityTransitionDetected_unreadable
    (extension : TransitionNoticeExtensionBridgeHeadFinalityTransitionDetected S) :
    (finalityTransitionDetectedCodec P).deserialize ((finalityTransitionDetectedCodec P).serialize extension) =
      .error (.missingField "input_slot") := by
  have distinct : (finalityTransitionDetectedWritten P).declared.Nodup := by simp [finalityTransitionDetectedWritten]
  have recovers : (finalityTransitionDetectedWritten P).Recovers :=
    Fields.recovers_of _ |>.field lawful.u64 |>.field lawful.u64
  have absent : ((finalityTransitionDetectedWritten P).write extension).lookup "input_slot" = none := by
    show List.lookup "input_slot" [("block_number", P.u64.serialize extension.blockNumber),
      ("slot", P.u64.serialize extension.slot)] = none
    simp [List.lookup_cons]
  have missing := Fields.skipSerializing_missing (Fields.read_write distinct recovers extension) absent
    P.u64.deserialize (·.inputSlot)
  have stopped := Fields.skipSerializing_stops missing "current_window_proof_inputs_with_window"
    P.proofInputsWithWindow (·.currentWindowProofInputsWithWindow)
  exact Fields.skipSerializingOption_stops stopped _ _ (·.nextWindowProofInputsWithWindow)

/-- No notice of a finality transition is read back: the input slot that it does not write is required. -/
theorem finality_notice_unreadable (extension : TransitionNoticeExtensionBridgeHeadFinalityTransitionDetected S)
    (datetimeIso : String) :
    deserialize P ((messageCodec (finalityTransitionDetectedCodec P)).serialize
      ⟨datetimeIso, extension, .bridgeHeadFinalityTransitionDetected⟩) =
        .error (.custom (.missingField "input_slot")) := by
  have missing := messageCodec_fails (finalityTransitionDetected_unreadable lawful extension) datetimeIso
    .bridgeHeadFinalityTransitionDetected
  rw [deserialize_written, dispatch, deserializeAs, missing]
  rfl

/-- The notices of the event loop reach the wire through `ofNotice`, so that what holds of the messages holds of every
    notice a `BridgeHead` sends: all but the detected transitions are read back as they were sent. -/
theorem sent_notice_read_back (notice : TransitionNotice S) (elapsedSec : F64) (datetimeIso : String)
    (other : ∀ data, notice ≠ .finalityTransitionDetected data) :
    deserialize P (((ofNotice elapsedSec notice).intoMessage datetimeIso).serialize P) =
      .ok ((ofNotice elapsedSec notice).intoMessage datetimeIso) := by
  apply notice_read_back lawful
  cases notice with
  | finalityTransitionDetected data => exact absurd rfl (other data)
  | _ => rfl

end Lawful

end NoriProof

namespace NoriModel.Sample

open NoriModel.NoticeMessages

inductive JsonNumber where
  | posInt (value : UInt64)
  | float (bits : UInt64)

/-- A finite double, by its bits. -/
structure Double where
  bits : UInt64

def hexSymbols : List Char := "0123456789abcdef".toList

def hexSymbol (digit : Nat) : Char := hexSymbols.getD digit '0'

def hexDigit? (symbol : Char) : Option Nat :=
  if symbol ∈ hexSymbols then some (hexSymbols.idxOf symbol) else none

def hexText (digits : List Nat) : String := String.ofList ('0' :: 'x' :: digits.map hexSymbol)

def hexDigits? (text : String) : Option (List Nat) :=
  match text.toList with
  | '0' :: 'x' :: symbols => symbols.mapM hexDigit?
  | _ => none

def nibbles (bytes : List UInt8) : List Nat := bytes.flatMap fun byte => [byte.toNat / 16, byte.toNat % 16]

def ofNibbles? : List Nat → Option (List UInt8)
  | [] => some []
  | [_] => none
  | high :: low :: rest => (ofNibbles? rest).map (UInt8.ofNat (16 * high + low) :: ·)

def hexBytes (width : Nat) : Codec JsonNumber (FixedBytes width) where
  serialize fixed := .string (hexText (nibbles fixed.bytes))
  deserialize
    | .string text =>
      match (hexDigits? text).bind ofNibbles? with
      | some bytes => if size : bytes.length = width then .ok ⟨bytes, size⟩ else .error (.invalidLength bytes.length)
      | none => .error .invalidValue
    | _ => .error .invalidType

def quantityDigits (value : Nat) : List Nat := if value = 0 then [0] else (Nat.digits 16 value).reverse

def hexQuantity : Codec JsonNumber U256 where
  serialize word := .string (hexText (quantityDigits word.toNat))
  deserialize
    | .string text =>
      match hexDigits? text with
      | some digits =>
        let value := Nat.ofDigits 16 digits.reverse
        if value < 2^256 then .ok (BitVec.ofNat 256 value) else .error .invalidValue
      | none => .error .invalidValue
    | _ => .error .invalidType

def jsonPrimitives (S : ConsensusSpec) : Primitives JsonNumber Double S where
  u8 := {
    serialize := fun value => .number (.posInt value.toUInt64)
    deserialize := fun
      | .number (.posInt value) => if value < 256 then .ok value.toUInt8 else .error .invalidValue
      | _ => .error .invalidType }
  u64 := {
    serialize := fun value => .number (.posInt value)
    deserialize := fun
      | .number (.posInt value) => .ok value
      | _ => .error .invalidType }
  f64 := {
    serialize := fun value => .number (.float value.bits)
    deserialize := fun
      | .number (.float bits) => .ok ⟨bits⟩
      | _ => .error .invalidType }
  u256 := hexQuantity
  fixedBytes := hexBytes 32
  address := hexBytes 20
  proofInputsWithWindow := fun _ => .error .invalidType

end NoriModel.Sample

namespace NoriProof

open NoriModel NoriModel.NoticeMessages NoriModel.Sample TransitionNoticeBridgeHeadMessage

theorem hexDigit?_hexSymbol : ∀ digit : Fin 16, hexDigit? (hexSymbol digit) = some digit.val := by decide

theorem hexDigits?_hexText {digits : List Nat} (small : ∀ digit ∈ digits, digit < 16) :
    hexDigits? (hexText digits) = some digits := by
  rw [hexDigits?, hexText, String.toList_ofList]
  show (digits.map hexSymbol).mapM hexDigit? = some digits
  induction digits with
  | nil => rfl
  | cons digit digits ih =>
    rcases List.forall_mem_cons.mp small with ⟨below, others⟩
    have first := hexDigit?_hexSymbol ⟨digit, below⟩
    dsimp only at first
    rw [List.map_cons, List.mapM_cons, first, ih others]
    rfl

theorem nibbles_small (bytes : List UInt8) : ∀ digit ∈ nibbles bytes, digit < 16 := by
  intro digit member
  rcases List.mem_flatMap.mp member with ⟨byte, _, inside⟩
  have bound := byte.toNat_lt
  simp only [List.mem_cons, List.not_mem_nil, or_false] at inside
  omega

theorem ofNibbles?_nibbles (bytes : List UInt8) : ofNibbles? (nibbles bytes) = some bytes := by
  induction bytes with
  | nil => rfl
  | cons byte bytes ih =>
    have whole : 16 * (byte.toNat / 16) + byte.toNat % 16 = byte.toNat := by omega
    show (ofNibbles? (nibbles bytes)).map (UInt8.ofNat (16 * (byte.toNat / 16) + byte.toNat % 16) :: ·) = _
    rw [ih, whole, UInt8.ofNat_toNat]
    rfl

theorem hexBytes_roundTrips (width : Nat) : (hexBytes width).RoundTrips := by
  apply Codec.RoundTrips.mk
  intro fixed
  have parsed : (hexDigits? (hexText (nibbles fixed.bytes))).bind ofNibbles? = some fixed.bytes := by
    rw [hexDigits?_hexText (nibbles_small fixed.bytes)]
    exact ofNibbles?_nibbles fixed.bytes
  simp only [hexBytes, parsed, fixed.size, ↓reduceDIte]

theorem hexQuantity_roundTrips : hexQuantity.RoundTrips := by
  apply Codec.RoundTrips.mk
  intro word
  have small : ∀ digit ∈ quantityDigits word.toNat, digit < 16 := by
    intro digit member
    unfold quantityDigits at member
    split at member
    · rw [List.mem_singleton.mp member]
      decide
    · exact Nat.digits_lt_base (by decide) (List.mem_reverse.mp member)
  have value : Nat.ofDigits 16 (quantityDigits word.toNat).reverse = word.toNat := by
    unfold quantityDigits
    split
    · rename_i zero
      rw [zero]
      rfl
    · rw [List.reverse_reverse, Nat.ofDigits_digits]
  simp only [hexQuantity, hexDigits?_hexText small, value, word.isLt, ↓reduceIte, BitVec.ofNat_toNat,
    BitVec.setWidth_eq]

theorem jsonPrimitives_roundTrip (S : ConsensusSpec) : (jsonPrimitives S).RoundTrip := by
  refine ⟨⟨?_⟩, ⟨fun _ => rfl⟩, ⟨fun _ => rfl⟩, hexQuantity_roundTrips, hexBytes_roundTrips 32, hexBytes_roundTrips 20⟩
  intro value
  have below : value.toUInt64 < 256 := by
    rw [UInt64.lt_iff_toNat_lt, UInt8.toNat_toUInt64]
    exact value.toNat_lt
  simp [jsonPrimitives, below]

/-- A notice survives the wire exactly when it is not one of a finality transition. -/
theorem notice_survives_wire_iff {S : ConsensusSpec} {N F64 : Type} (P : Primitives N F64 S) (lawful : P.RoundTrip)
    (extension : TransitionNoticeBridgeHeadMessageExtension S F64) (datetimeIso : String) :
    SurvivesWire P (extension.intoMessage datetimeIso) ↔ extension.isFinalityTransitionDetected = false := by
  constructor
  · intro survives
    rcases survives with ⟨read, returned, _⟩
    cases extension with
    | finalityTransitionDetected extension =>
      have unreadable := finality_notice_unreadable lawful extension datetimeIso
      cases unreadable.symm.trans returned
    | _ => rfl
  · intro other
    exact ⟨_, notice_read_back lawful extension datetimeIso other, sameOnWire_self extension datetimeIso⟩

def jobSucceededSample : TransitionNoticeExtensionBridgeHeadJobSucceeded Double where
  jobId := 1
  inputSlot := 64
  inputBlockNumber := 68
  inputStoreHash := storeHash0
  inputQueueCursor := 0
  outputSlot := 96
  outputBlockNumber := 132
  outputStoreHash := storeHash1
  outputQueueCursor := 1
  executionStateRoot := Sample.word stateRoot1
  verifiedRequestsRoot := Sample.word 0
  nextSyncCommitteeHash := Sample.word 0
  proofRequestQueueAddress := queueAddress
  verifiedRequests := [⟨queueAddress, 1, #v[Sample.word 7, Sample.word 0], 256⟩]
  elapsedSec := ⟨0x4028000000000000⟩

theorem notice_survives_wire_succeeded :
    SurvivesWire (jsonPrimitives Minimal.spec) ((TransitionNoticeBridgeHeadMessageExtension.jobSucceeded
      jobSucceededSample).intoMessage "2026-01-01T00:00:00.000Z") := by
  apply (notice_survives_wire_iff (jsonPrimitives Minimal.spec) (jsonPrimitives_roundTrip Minimal.spec)
    (.jobSucceeded jobSucceededSample) "2026-01-01T00:00:00.000Z").mpr
  rfl

def detectedSample : TransitionNoticeExtensionBridgeHeadFinalityTransitionDetected Minimal.spec where
  blockNumber := 132
  slot := 96
  inputSlot := 64
  currentWindowProofInputsWithWindow := ⟨64, 96, 68, 132, proofInputs1, storeHash1, 1⟩
  nextWindowProofInputsWithWindow := none

theorem finality_notice_lost :
    deserialize (jsonPrimitives Minimal.spec) (((TransitionNoticeBridgeHeadMessageExtension.finalityTransitionDetected
      detectedSample).intoMessage "2026-01-01T00:00:00.000Z").serialize (jsonPrimitives Minimal.spec)) =
        .error (.custom (.missingField "input_slot")) ∧
    ¬ SurvivesWire (jsonPrimitives Minimal.spec) ((TransitionNoticeBridgeHeadMessageExtension.finalityTransitionDetected
      detectedSample).intoMessage "2026-01-01T00:00:00.000Z") := by
  have unreadable := finality_notice_unreadable (jsonPrimitives_roundTrip Minimal.spec) detectedSample
    "2026-01-01T00:00:00.000Z"
  refine ⟨unreadable, ?_⟩
  intro survives
  rcases survives with ⟨read, returned, _⟩
  cases unreadable.symm.trans returned

end NoriProof
