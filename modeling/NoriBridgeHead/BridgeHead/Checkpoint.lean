import NoriBridgeHead.BridgeHead.Provenance
import NoriBridgeHead.Foundation.Serde

open Foundation Foundation.Outcome Foundation.Serde Foundation.Transition

namespace NoriModel

structure NoriBridgeCheckpoint where
  slot : UInt64
  storeHash : B256
  queueCursor : UInt64
deriving DecidableEq

/-- The implementations that other packages have for the types of the fields. -/
structure CheckpointPrimitives (N : Type) where
  u64 : Codec N UInt64
  fixedBytes : Codec N B256

structure CheckpointPrimitives.RoundTrip {N : Type} (P : CheckpointPrimitives N) : Prop where
  u64 : P.u64.RoundTrips
  fixedBytes : P.fixedBytes.RoundTrips

namespace NoriBridgeCheckpoint

variable {N : Type} (P : CheckpointPrimitives N)

def fieldsBeforeQueue : Fields N NoriBridgeCheckpoint (UInt64 → NoriBridgeCheckpoint) :=
  Fields.of NoriBridgeCheckpoint.mk
    |>.field "slot" P.u64 (·.slot)
    |>.field "store_hash" P.fixedBytes (·.storeHash)

def fields : Fields N NoriBridgeCheckpoint NoriBridgeCheckpoint :=
  (fieldsBeforeQueue P).fieldOr "queue_cursor" P.u64 0 (·.queueCursor)

/-- The last field may be missing from an array too. -/
def codec : Codec N NoriBridgeCheckpoint where
  serialize checkpoint := .object ((fields P).write checkpoint)
  deserialize
    | .object entries => (fields P).read entries
    | .array items =>
      if items.length = 2 ∨ items.length = 3 then (fields P).read ((fields P).declared.zip items)
      else .error (.invalidLength items.length)
    | _ => .error .invalidType

end NoriBridgeCheckpoint

/-- What a crash can leave of a file: `fs::write` truncates the file before it writes. -/
inductive Written (α : Type) where
  | torn
  | whole (content : α)

inductive Path where
  | proof (inputSlot : UInt64)
  | message (inputSlot : UInt64)
  | checkpoint
deriving DecidableEq

inductive Content (N : Type) where
  | proof (publicValues : List UInt8)
  | message (message : ProofMessage)
  | checkpoint (value : Value N)

structure FileWrite (N : Type) where
  path : Path
  content : Content N

abbrev Disk (N : Type) := Path → Option (Written (Content N))

section Files

variable {N : Type} (P : CheckpointPrimitives N)

def handleNoriProof (message : ProofMessage) : FileWrite N :=
  ⟨.proof message.inputSlot, .proof message.publicValues⟩

def handleNoriProofMessage (message : ProofMessage) : FileWrite N := ⟨.message message.inputSlot, .message message⟩

def saveNbCheckpoint (slot : UInt64) (storeHash : B256) (queueCursor : UInt64) : FileWrite N :=
  ⟨.checkpoint, .checkpoint ((NoriBridgeCheckpoint.codec P).serialize ⟨slot, storeHash, queueCursor⟩)⟩

/-- The files that `on_transition_proof_succeeded` writes before it sends its first command. -/
def filesOf (message : ProofMessage) : List (FileWrite N) :=
  [handleNoriProof message, handleNoriProofMessage message,
    saveNbCheckpoint P message.outputSlot message.outputStoreHash message.outputQueueCursor]

def nbCheckpointExists (disk : Disk N) : Bool := (disk .checkpoint).isSome

/-- The text of a checkpoint that was cut off is no JSON value. -/
def loadNbCheckpoint (disk : Disk N) : Outcome Empty NoriBridgeCheckpoint :=
  match disk .checkpoint with
  | none => panicked "Failed to open nori checkpoint file."
  | some (.whole (.checkpoint value)) =>
    match (NoriBridgeCheckpoint.codec P).deserialize value with
    | .ok checkpoint => pure checkpoint
    | .error _ => panicked "Failed to deserialize nori checkpoint."
  | some _ => panicked "Failed to deserialize nori checkpoint."

end Files

/-- The proof that the observer is saving and the files it has still to write. -/
structure Saving (N : Type) where
  message : ProofMessage
  remaining : List (FileWrite N)
  truncated : Bool

/-- The machine: its disk, the process while one is up, and the record of the run: where the first checkpoint
    continues from, and the proofs whose checkpoint was written. -/
structure Host (S : ConsensusSpec) (N : Type) where
  disk : Disk N
  system : Option (System S)
  saving : Option (Saving N)
  origin : FinalityChangeDetectorUpdate
  settled : List ProofMessage

inductive HostEvent (β : Type) where
  | task (event : SystemEvent β)
  | writeBegins
  | writeEnds
  | writeFails
  | crash
  | main (latestFinality : UInt64 × B256) (latestBeaconSlot : UInt64)

/-- The proof that the observer takes with this event. -/
def System.taken {S : ConsensusSpec} {β : Type} (system : System S) : SystemEvent β → Option ProofMessage
  | .observerHandles => system.events.head?.bind BridgeHeadEvent.message?
  | _ => none

def SystemEvent.ofObserver {β : Type} : SystemEvent β → Bool
  | .observerHandles | .observerSends => true
  | _ => false

def NoriBridgeCheckpoint.position (checkpoint : NoriBridgeCheckpoint) : FinalityChangeDetectorUpdate :=
  ⟨checkpoint.slot, checkpoint.storeHash, checkpoint.queueCursor⟩

namespace Host

variable {S : ConsensusSpec} {β N : Type}

def blank : Host S N where
  disk := fun _ => none
  system := none
  saving := none
  origin := ⟨0, FixedBytes.zero, 0⟩
  settled := []

/-- Where the last checkpoint stands. -/
def position (host : Host S N) : FinalityChangeDetectorUpdate :=
  (host.settled.getLast?.map ProofMessage.output).getD host.origin

/-- While the observer saves a proof it neither takes an event nor sends a command. -/
def task (P : CheckpointPrimitives N) (prepare : Prepare S β) (host : Host S N) (event : SystemEvent β) :
    Option (Host S N) :=
  match host.system with
  | none => none
  | some system =>
    if event.ofObserver && host.saving.isSome then none
    else (system.step prepare event).map fun next =>
      { host with
        system := some next
        saving := match system.taken event with
          | some message => some ⟨message, filesOf P message, false⟩
          | none => host.saving }

def writeBegins (host : Host S N) : Option (Host S N) :=
  match host.saving with
  | some ⟨message, write :: rest, false⟩ =>
    some { host with
      disk := Function.update host.disk write.path (some .torn)
      saving := some ⟨message, write :: rest, true⟩ }
  | _ => none

def writeEnds (host : Host S N) : Option (Host S N) :=
  match host.saving with
  | some ⟨message, [write], true⟩ =>
    some { host with
      disk := Function.update host.disk write.path (some (.whole write.content))
      saving := none
      settled := host.settled ++ [message] }
  | some ⟨message, write :: rest, true⟩ =>
    some { host with
      disk := Function.update host.disk write.path (some (.whole write.content))
      saving := some ⟨message, rest, false⟩ }
  | _ => none

/-- The panic of a write ends the task of the observer and nothing else. -/
def writeFails (host : Host S N) : Option (Host S N) :=
  match host.saving, host.system with
  | some _, some system =>
    some { host with system := some { system with observerStopped := true, observerSends := [] }, saving := none }
  | _, _ => none

def crash (host : Host S N) : Option (Host S N) :=
  match host.system with
  | some _ => some { host with system := none, saving := none }
  | none => none

/-- A start with no proof settled begins a new record. -/
def starts (host : Host S N) (checkpoint : NoriBridgeCheckpoint) (latestBeaconSlot : UInt64) : Host S N :=
  { host with
    system := some (System.start checkpoint.slot checkpoint.storeHash checkpoint.queueCursor latestBeaconSlot)
    origin := if host.settled.isEmpty then checkpoint.position else host.origin }

/-- A panic of `main` leaves the process down. -/
def main (P : CheckpointPrimitives N) (host : Host S N) (latestFinality : UInt64 × B256) (latestBeaconSlot : UInt64) :
    Option (Host S N) :=
  match host.system with
  | some _ => none
  | none =>
    if nbCheckpointExists host.disk then
      match loadNbCheckpoint P host.disk with
      | .ok checkpoint => some (host.starts checkpoint latestBeaconSlot)
      | .error _ => some host
    else some (host.starts ⟨latestFinality.1, latestFinality.2, 0⟩ latestBeaconSlot)

def step (P : CheckpointPrimitives N) (prepare : Prepare S β) (host : Host S N) : HostEvent β → Option (Host S N)
  | .task event => host.task P prepare event
  | .writeBegins => host.writeBegins
  | .writeEnds => host.writeEnds
  | .writeFails => host.writeFails
  | .crash => host.crash
  | .main latestFinality latestBeaconSlot => host.main P latestFinality latestBeaconSlot

end Host

end NoriModel

namespace NoriProof

open NoriModel

section Codec

variable {N : Type} {P : CheckpointPrimitives N}

theorem checkpoint_roundTrips (codecs : P.RoundTrip) : (NoriBridgeCheckpoint.codec P).RoundTrips := by
  apply Codec.RoundTrips.mk
  intro checkpoint
  have recovers : (NoriBridgeCheckpoint.fields P).Recovers :=
    ((Fields.recovers_of _).field codecs.u64).field codecs.fixedBytes |>.fieldOr codecs.u64
  have distinct : (NoriBridgeCheckpoint.fields P).declared.Nodup := by
    show ["slot", "store_hash", "queue_cursor"].Nodup
    decide
  exact Fields.read_write distinct recovers checkpoint

end Codec

section Steps

variable {S : ConsensusSpec} {β N : Type} {P : CheckpointPrimitives N} {prepare : Prepare S β} {host next : Host S N}

theorem task_cases {event : SystemEvent β} (stepped : host.task P prepare event = some next) :
    ∃ system after, host.system = some system ∧ (event.ofObserver = true → host.saving = none) ∧
      system.step prepare event = some after ∧
      ((∃ message, system.taken event = some message ∧
          next = { host with system := some after, saving := some ⟨message, filesOf P message, false⟩ }) ∨
        (system.taken event = none ∧ next = { host with system := some after })) := by
  unfold Host.task at stepped
  cases up : host.system with
  | none =>
    rw [up] at stepped
    cases stepped
  | some system =>
    rw [up] at stepped
    dsimp only at stepped
    split at stepped
    · cases stepped
    · rename_i idle
      rcases Option.map_eq_some_iff.mp stepped with ⟨after, taken, same⟩
      refine ⟨system, after, rfl, ?_, taken, ?_⟩
      · intro observer
        cases saving : host.saving with
        | none => rfl
        | some saving => simp [observer, saving] at idle
      · cases proof : system.taken event with
        | none =>
          rw [proof] at same
          exact .inr ⟨rfl, same.symm⟩
        | some message =>
          rw [proof] at same
          exact .inl ⟨message, rfl, same.symm⟩

theorem writeBegins_cases (stepped : host.writeBegins = some next) :
    ∃ message write rest, host.saving = some ⟨message, write :: rest, false⟩ ∧
      next = { host with
        disk := Function.update host.disk write.path (some .torn)
        saving := some ⟨message, write :: rest, true⟩ } := by
  unfold Host.writeBegins at stepped
  split at stepped
  · rename_i message write rest saving
    exact ⟨message, write, rest, saving, (Option.some.inj stepped).symm⟩
  · cases stepped

theorem writeEnds_cases (stepped : host.writeEnds = some next) :
    ∃ message write rest, host.saving = some ⟨message, write :: rest, true⟩ ∧
      ((rest = [] ∧ next = { host with
          disk := Function.update host.disk write.path (some (.whole write.content))
          saving := none
          settled := host.settled ++ [message] }) ∨
        (rest ≠ [] ∧ next = { host with
          disk := Function.update host.disk write.path (some (.whole write.content))
          saving := some ⟨message, rest, false⟩ })) := by
  unfold Host.writeEnds at stepped
  split at stepped
  · rename_i message write saving
    exact ⟨message, write, [], saving, .inl ⟨rfl, (Option.some.inj stepped).symm⟩⟩
  · rename_i message write rest more saving
    exact ⟨message, write, rest, saving, .inr ⟨more, (Option.some.inj stepped).symm⟩⟩
  · cases stepped

theorem writeFails_cases (stepped : host.writeFails = some next) :
    ∃ saving system, host.saving = some saving ∧ host.system = some system ∧ next = { host with
      system := some { system with observerStopped := true, observerSends := [] }, saving := none } := by
  unfold Host.writeFails at stepped
  split at stepped
  · rename_i saving system writing up
    exact ⟨saving, system, writing, up, (Option.some.inj stepped).symm⟩
  · cases stepped

theorem crash_cases (stepped : host.crash = some next) : next = { host with system := none, saving := none } := by
  unfold Host.crash at stepped
  split at stepped
  · exact (Option.some.inj stepped).symm
  · cases stepped

theorem main_cases {latestFinality : UInt64 × B256} {latestBeaconSlot : UInt64}
    (stepped : host.main P latestFinality latestBeaconSlot = some next) :
    host.system = none ∧
      ((∃ checkpoint, loadNbCheckpoint P host.disk = .ok checkpoint ∧
          next = host.starts checkpoint latestBeaconSlot) ∨
        (host.disk .checkpoint = none ∧ next = host.starts ⟨latestFinality.1, latestFinality.2, 0⟩ latestBeaconSlot) ∨
        next = host) := by
  unfold Host.main at stepped
  split at stepped
  · cases stepped
  · rename_i down
    refine ⟨down, ?_⟩
    split at stepped
    · split at stepped
      · rename_i checkpoint loaded
        exact .inl ⟨checkpoint, loaded, (Option.some.inj stepped).symm⟩
      · exact .inr (.inr (Option.some.inj stepped).symm)
    · rename_i absent
      have missing : host.disk .checkpoint = none := by simpa [nbCheckpointExists] using absent
      exact .inr (.inl ⟨missing, (Option.some.inj stepped).symm⟩)

end Steps

end NoriProof
