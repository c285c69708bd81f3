import Mathlib.Data.List.Chain
import NoriBridgeHead.BridgeHead.Checkpoint
import NoriBridgeHead.BridgeHead.NoticeMessages
import NoriBridgeHead.Program.Drain
import NoriBridgeHead.Rpcs.ColdStart

open Foundation Foundation.Outcome Foundation.Serde Foundation.Transition

namespace NoriModel

/-- The hash of the position is that of a store which is finalized at its slot. -/
def Named (C : Crypto) (S : ConsensusSpec) (position : FinalityChangeDetectorUpdate) : Prop :=
  ∃ store : S.Store, sha256HashHeliosStore C store = .ok position.storeHash ∧
    S.beaconSlot store.finalizedHeader = position.slot

/-- The store has the hash of the position, as a store that is finalized at its slot does, and is itself finalized at
    another slot. -/
structure SlotCollision (C : Crypto) {S : ConsensusSpec} (position : FinalityChangeDetectorUpdate) (other : S.Store) :
    Prop where
  named : Named C S position
  hashed : sha256HashHeliosStore C other = .ok position.storeHash
  differs : S.beaconSlot other.finalizedHeader ≠ position.slot

structure Continues (position : FinalityChangeDetectorUpdate) (message : ProofMessage) : Prop where
  inputSlot : message.inputSlot = position.slot
  storeHash : message.inputStoreHash = position.storeHash
  queueCursor : message.inputQueueCursor = position.queueCursor
  forward : position.slot < message.outputSlot

/-- Proofs of accepted runs, each of which continues the one before it. -/
inductive Settled (C : Crypto) (S : ConsensusSpec) (origin : FinalityChangeDetectorUpdate) :
    List ProofMessage → FinalityChangeDetectorUpdate → Prop
  | origin : Settled C S origin [] origin
  | proof {settled : List ProofMessage} {position : FinalityChangeDetectorUpdate} {message : ProofMessage}
      (earlier : Settled C S origin settled position) (attested : Attested C S message)
      (continues : Continues position message) : Settled C S origin (settled ++ [message]) message.output

def FinalityChangeDetectorUpdate.checkpoint (position : FinalityChangeDetectorUpdate) : NoriBridgeCheckpoint :=
  ⟨position.slot, position.storeHash, position.queueCursor⟩

section Invariant

variable {S : ConsensusSpec} {N : Type} (C : Crypto) (P : CheckpointPrimitives N) (host : Host S N)

/-- The prover proves the program, the observer stages from the head, and a cold start begins where some providers made
    `get_latest_finality_slot_and_store_hash` return. -/
def Host.Admits : HostEvent (ConsensusHttpProxy S) → Prop
  | .task event => ∀ system, host.system = some system →
    system.provesTheProgram C event = true ∧ system.stagesFromHead event = true
  | .main latestFinality _ => nbCheckpointExists host.disk = false → ColdStart C S latestFinality
  | .writeBegins | .writeEnds | .writeFails | .crash => True

/-- The observer takes a proof whose input store collides with the store that the head stands at. -/
def Host.SlotsCollide : HostEvent (ConsensusHttpProxy S) → Prop
  | .task event => ∃ (system : System S) (message : ProofMessage) (run : Run C S), host.system = some system ∧
    system.taken event = some message ∧ message.outputs = run.outputs ∧ SlotCollision C system.head run.inputs.store
  | .main _ _ | .writeBegins | .writeEnds | .writeFails | .crash => False

structure OnDisk (disk : Disk N) (message : ProofMessage) : Prop where
  proof : disk (.proof message.inputSlot) = some (.whole (.proof message.publicValues))
  message : disk (.message message.inputSlot) = some (.whole (.message message))

structure SavingInvariant (saving : Saving N) (head : FinalityChangeDetectorUpdate) : Prop where
  atHead : head = saving.message.output
  attested : Attested C S saving.message
  continues : Continues host.position saving.message
  unwritten : saving.remaining ≠ []
  written : ∃ done, filesOf P saving.message = done ++ saving.remaining ∧
    ∀ write ∈ done, host.disk write.path = some (.whole write.content)
  torn : host.disk .checkpoint = some .torn →
    saving.truncated = true ∧ ∀ write ∈ saving.remaining, write.path = .checkpoint

structure SavedUpTo (head : FinalityChangeDetectorUpdate) : Prop where
  idle : host.saving = none → head = host.position ∧ host.disk .checkpoint ≠ some .torn
  busy : ∀ saving, host.saving = some saving → SavingInvariant C P host saving head

def Live (system : System S) : Prop :=
  ∃ head token, Contiguous C head system ∧ TokenInvariant system token ∧ Provenance C system ∧
    Attestation C system ∧ Named C S head ∧ SavedUpTo C P host head

/-- A checkpoint that is cut off leaves the message whose output it was to hold. -/
def CheckpointFile : Prop :=
  (host.disk .checkpoint = some .torn ∧
    ∃ message, OnDisk host.disk message ∧ Attested C S message ∧ Continues host.position message) ∨
  (host.disk .checkpoint = none ∧ host.settled = []) ∨
  (host.disk .checkpoint =
    some (.whole (.checkpoint ((NoriBridgeCheckpoint.codec P).serialize host.position.checkpoint))) ∧
    host.settled ≠ [])

/-- What the run has settled and what the disk holds of it. -/
structure Recoverable : Prop where
  attested : ∀ message ∈ host.settled, Attested C S message
  first : ∀ message, host.settled.head? = some message → Continues host.origin message
  chain : host.settled.IsChain fun earlier later => Continues earlier.output later
  increasing : host.settled.Pairwise fun earlier later => earlier.outputSlot < later.outputSlot
  files : ∀ message ∈ host.settled, OnDisk host.disk message
  checkpoint : CheckpointFile C P host

structure HostInvariant : Prop where
  settled : Settled C S host.origin host.settled host.position
  files : ∀ message ∈ host.settled, OnDisk host.disk message
  checkpoint : CheckpointFile C P host
  live : ∀ system, host.system = some system → system.observerStopped = false → Live C P host system
  quiet : (∀ system, host.system = some system → system.observerStopped = true) → host.saving = none

end Invariant

end NoriModel

namespace NoriProof

open NoriModel

variable {C : Crypto} {S : ConsensusSpec} {β N : Type} {P : CheckpointPrimitives N} {host next : Host S N}
  {system after : System S} {token : Token S} {head origin position : FinalityChangeDetectorUpdate}

section Record

theorem Attested.run {message : ProofMessage} (attested : Attested C S message) :
    ∃ run : Run C S, message.outputs = run.outputs ∧
      message.verifiedRequests = BridgeHead.verifiedRequests run.inputs.queueStorage ∧
      DistinctTargets run.inputs.queueStorage.targets := by
  rcases attested with ⟨window, outputs, prepared, accepted, rfl⟩
  exact ⟨⟨window.proofInputs, outputs, accepted⟩, rfl, rfl, Prepared.distinct prepared⟩

theorem run_inputs (run : Run C S) : run.outputs.inputStoreHash = run.inputs.storeHash ∧
    run.outputs.inputQueueCursor = run.inputs.queueStorage.inputCursor ∧
    run.outputs.proofRequestQueueAddress = run.address := by
  rcases (consensusMptProgram_ok_iff _ _).mp run.accepted with ⟨consensus, _, _, programmed, _, _, outputs⟩
  rw [outputs]
  exact ⟨(consensusProgram_input programmed).2.2, rfl, rfl⟩

theorem Attested.named {message : ProofMessage} (attested : Attested C S message) : Named C S message.output := by
  rcases Attested.run attested with ⟨run, outputs, _, _⟩
  rcases run_transition run with ⟨store, _, _, hashed, _, slot, _⟩
  refine ⟨store, ?_, ?_⟩
  · rw [hashed, ← outputs]
    rfl
  · rw [← slot, ← outputs]
    rfl

/-- A proof from a named state starts at the slot of that state, or the hash of that state collides. -/
theorem Attested.inputSlot {message : ProofMessage} (attested : Attested C S message)
    (apart : ∀ run : Run C S, message.outputs = run.outputs → ¬ SlotCollision C head run.inputs.store)
    (named : Named C S head) (same : message.inputStoreHash = head.storeHash) : message.inputSlot = head.slot := by
  rcases Attested.run attested with ⟨run, outputs, _, _⟩
  rcases run_transition run with ⟨_, _, hashed, _, slot, _, _⟩
  have input : message.inputSlot = S.beaconSlot run.inputs.store.finalizedHeader := by
    rw [← slot, ← outputs]
    rfl
  have hash : run.inputs.storeHash = head.storeHash := by
    rw [← (run_inputs run).1, ← outputs]
    exact same
  by_contra differ
  apply apart run outputs
  refine ⟨named, ?_, ?_⟩
  · rw [hashed, hash]
  · rw [← input]
    exact differ

theorem Settled.named {settled : List ProofMessage} (chain : Settled C S origin settled position)
    (nonempty : settled ≠ []) : Named C S position := by
  cases chain with
  | origin => exact absurd rfl nonempty
  | proof _ attested _ => exact Attested.named attested

theorem Settled.attested {settled : List ProofMessage} (chain : Settled C S origin settled position) :
    ∀ message ∈ settled, Attested C S message := by
  induction chain with
  | origin => simp
  | proof _ attested _ ih =>
    intro message member
    rcases List.mem_append.mp member with old | new
    · exact ih message old
    · cases List.mem_singleton.mp new
      exact attested

theorem Settled.before {settled : List ProofMessage} (chain : Settled C S origin settled position) :
    ∀ message ∈ settled, message.inputSlot < message.outputSlot ∧ message.outputSlot ≤ position.slot := by
  induction chain with
  | origin => simp
  | @proof settled position last _ _ continues ih =>
    intro message member
    rcases List.mem_append.mp member with old | new
    · rcases ih message old with ⟨forward, below⟩
      exact ⟨forward, UInt64.le_of_lt (UInt64.lt_of_le_of_lt below continues.forward)⟩
    · cases List.mem_singleton.mp new
      refine ⟨?_, UInt64.le_refl _⟩
      rw [continues.inputSlot]
      exact continues.forward

theorem Settled.first {settled : List ProofMessage} (chain : Settled C S origin settled position) :
    ∀ message, settled.head? = some message → Continues origin message := by
  induction chain with
  | origin => simp
  | @proof settled position last earlier _ continues ih =>
    intro message found
    cases earlier with
    | origin =>
      cases found
      exact continues
    | proof earlier _ _ =>
      apply ih
      simpa using found

theorem Settled.last {settled : List ProofMessage} (chain : Settled C S origin settled position) :
    position = (settled.getLast?.map ProofMessage.output).getD origin := by
  cases chain with
  | origin => rfl
  | proof _ _ _ => simp

theorem Settled.chain {settled : List ProofMessage} (chain : Settled C S origin settled position) :
    settled.IsChain fun earlier later => Continues earlier.output later := by
  induction chain with
  | origin => exact .nil
  | @proof settled position message earlier _ continues ih =>
    rw [List.isChain_append]
    refine ⟨ih, .singleton _, ?_⟩
    intro last found next same
    cases same
    rw [Settled.last earlier, found] at continues
    exact continues

theorem Settled.increasing {settled : List ProofMessage} (chain : Settled C S origin settled position) :
    settled.Pairwise fun earlier later => earlier.outputSlot < later.outputSlot := by
  induction chain with
  | origin => exact .nil
  | @proof settled position message earlier _ continues ih =>
    rw [List.pairwise_append]
    refine ⟨ih, List.pairwise_singleton _ _, ?_⟩
    intro before member last same
    cases List.mem_singleton.mp same
    exact UInt64.lt_of_le_of_lt (Settled.before earlier before member).2 continues.forward

theorem Settled.fresh {settled : List ProofMessage} {message : ProofMessage}
    (chain : Settled C S origin settled position) (continues : Continues position message) :
    ∀ earlier ∈ settled, earlier.inputSlot ≠ message.inputSlot := by
  intro earlier member same
  rcases Settled.before chain earlier member with ⟨forward, below⟩
  rw [same, continues.inputSlot] at forward
  exact absurd below (UInt64.not_le.mpr forward)

end Record

section Tasks

variable {event : SystemEvent (ConsensusHttpProxy S)}

theorem taken_proof {message : ProofMessage} (taken : system.taken event = some message) :
    event = .observerHandles ∧ ∃ events, system.events = .proofMessage message :: events := by
  cases event with
  | observerHandles =>
    refine ⟨rfl, ?_⟩
    cases pending : system.events with
    | nil => simp [System.taken, pending] at taken
    | cons first events =>
      cases first with
      | noticeMessage notice => simp [System.taken, pending, BridgeHeadEvent.message?] at taken
      | proofMessage other =>
        simp only [System.taken, pending, List.head?_cons, Option.bind_some, BridgeHeadEvent.message?,
          Option.some.injEq] at taken
        rw [taken]
        exact ⟨events, rfl⟩
  | _ => cases taken

/-- The commands of a proof end with the head at its output. -/
theorem head_taken {message : ProofMessage} (taken : system.taken event = some message)
    (stepped : system.step (preparing C) event = some after) (held : TokenInvariant system token) :
    after.head = message.output := by
  rcases taken_proof taken with ⟨rfl, events, pending⟩
  rcases observerHandles_cases stepped with ⟨first, rest, idle, again, outcome⟩
  cases pending.symm.trans again
  rcases tokenInvariant_onEvent held idle pending with ⟨_, _, _, accepted, _⟩
  rcases outcome with ⟨observer, commands, handled, rfl⟩ | ⟨⟨failure, failed⟩, _⟩
  · have returned : system.observer.onTransitionProofSucceeded message = (observer, commands) := Except.ok.inj handled
    rcases onTransitionProofSucceeded_cases system.observer message with ⟨_, _, _, staged⟩ | waits
    · cases staged.symm.trans returned
      simp only [System.head, System.pendingCommands, List.foldl_append]
      rfl
    · cases waits.symm.trans returned
      simp only [System.head, System.pendingCommands, List.foldl_append]
      rfl
  · rw [accepted] at failed
    cases failed

theorem notice_stages {observer observer' : Observer S} {notice : TransitionNotice S} {commands : List (Command S)}
    (handled : observer.onEvent (.noticeMessage notice) = .ok (observer', commands)) :
    ∀ command ∈ commands, command.stages = true := by
  cases notice with
  | finalityTransitionDetected data =>
    rcases onFinalityTransitionDetected_cases observer data with ⟨_, noted⟩ | ⟨_, noted⟩
    · cases noted.symm.trans handled
      simp
    · cases noted.symm.trans handled
      simp [Command.stages]
  | jobFailed data =>
    simp only [Observer.onEvent, Observer.onBridgeHeadTransitionNotice] at handled
    split at handled
    · split at handled
      · cases handled
        simp [Command.stages]
      · cases handled
    · cases handled
      simp
  | _ =>
    cases handled
    simp

/-- Only a proof moves the head. -/
theorem head_stays (kept : Contiguous C head system) (held : TokenInvariant system token)
    (condition : system.provesTheProgram C event = true ∧ system.stagesFromHead event = true)
    (untaken : system.taken event = none) (stepped : system.step (preparing C) event = some after) :
    Contiguous C head after := by
  cases event with
  | observerHandles =>
    rcases observerHandles_cases stepped with ⟨first, events, idle, pending, outcome⟩
    rcases tokenInvariant_onEvent held idle pending with ⟨_, _, _, accepted, _⟩
    rcases outcome with ⟨observer, commands, handled, rfl⟩ | ⟨⟨failure, failed⟩, rfl⟩
    · cases first with
      | proofMessage message => simp [System.taken, pending, BridgeHeadEvent.message?] at untaken
      | noticeMessage notice =>
        rcases contiguous_observerHandles kept held condition.2 stepped with ⟨higher, moved⟩
        have stays : higher = head := by
          rw [← moved.atHead, ← kept.atHead]
          simp only [System.head, System.pendingCommands, idle, List.append_nil, List.foldl_append]
          exact moves_stages _ (notice_stages handled)
        rw [← stays]
        exact moved
    · rw [accepted] at failed
      cases failed
  | observerSends => exact contiguous_observerSends kept stepped
  | bridgeHandlesFinality => exact contiguous_bridgeHandlesFinality kept stepped
  | bridgeHandlesCommand => exact contiguous_bridgeHandlesCommand kept held stepped
  | bridgeHandlesJobResult => exact contiguous_bridgeHandlesJobResult kept stepped
  | bridgeSends => exact contiguous_bridgeSends kept stepped
  | proverProves position outputs => exact contiguous_proverProves kept held condition.1 stepped
  | proverFails position error =>
    have ended : system.proverEnds position (fun jobId => .failed jobId error) = some after := stepped
    exact contiguous_proverEnds kept ended fun _ _ => trivial
  | detectorHandlesStage => exact contiguous_detectorHandlesStage kept stepped
  | detectorHandlesAdvance => exact contiguous_detectorHandlesAdvance kept stepped
  | detectorTicks => exact contiguous_detectorTicks kept stepped
  | detectorHandlesResult providers => exact contiguous_detectorHandlesResult kept stepped
  | detectorSends => exact contiguous_detectorSends kept stepped

/-- An observer that has ended takes no proof, and no task brings it back. -/
theorem step_observerStopped (stopped : system.observerStopped = true)
    (stepped : system.step (preparing C) event = some after) :
    after.observerStopped = true ∧ system.taken event = none := by
  have disabled : system.observerHandles = none := by simp [System.observerHandles, stopped]
  rcases step_observerStops stepped with rfl | same
  · cases disabled.symm.trans stepped
  · refine ⟨same.trans stopped, ?_⟩
    cases event with
    | observerHandles => cases disabled.symm.trans stepped
    | _ => rfl

/-- The proof that the observer takes continues the last checkpoint. -/
theorem taken_continues {message : ProofMessage} (kept : Contiguous C head system)
    (attested : Attestation C system) (named : Named C S head) (taken : system.taken event = some message)
    (apart : ∀ run : Run C S, message.outputs = run.outputs → ¬ SlotCollision C head run.inputs.store) :
    Attested C S message ∧ Continues head message := by
  rcases taken_proof taken with ⟨_, events, pending⟩
  have unread : .proofMessage message ∈ system.pendingEvents := pendingEvents_first pending
  have proved := attested.messages message unread
  have follows : Follows head message.inputStoreHash message.inputQueueCursor message.outputSlot :=
    kept.events (.proofMessage message) unread
  exact ⟨proved, Attested.inputSlot proved apart named follows.storeHash, follows.storeHash, follows.queueCursor,
    follows.forward⟩

theorem live_task (live : Live C P host system)
    (apart : ∀ message, system.taken event = some message → ∀ run : Run C S, message.outputs = run.outputs →
      ¬ SlotCollision C system.head run.inputs.store)
    (busy : event.ofObserver = true → host.saving = none)
    (condition : system.provesTheProgram C event = true ∧ system.stagesFromHead event = true)
    (stepped : system.step (preparing C) event = some after) {saving : Option (Saving N)}
    (saves : (∃ message, system.taken event = some message ∧ saving = some ⟨message, filesOf P message, false⟩) ∨
      (system.taken event = none ∧ saving = host.saving)) :
    after.observerStopped = false ∧ Live C P { host with system := some after, saving := saving } after := by
  rcases live with ⟨head, token, kept, held, prepared, attested, named, saved⟩
  rcases tokenInvariant_step ⟨token, held⟩ stepped with ⟨token', heldAfter⟩
  have preparedAfter := provenance_step prepared stepped
  have attestedAfter := attestation_step attested prepared held condition.1 stepped
  refine ⟨heldAfter.observerRuns, ?_⟩
  rcases saves with ⟨message, taken, rfl⟩ | ⟨untaken, rfl⟩
  · have differ := apart message taken
    rw [kept.atHead] at differ
    rcases taken_continues kept attested named taken differ with ⟨proved, continues⟩
    rcases taken_proof taken with ⟨rfl, _, _⟩
    rcases saved.idle (busy rfl) with ⟨atPosition, whole⟩
    rcases contiguous_step ⟨head, token, kept, held⟩ condition stepped with ⟨higher, _, moved, _⟩
    obtain rfl : higher = message.output := moved.atHead.symm.trans (head_taken taken stepped held)
    rw [atPosition] at continues
    refine ⟨message.output, token', moved, heldAfter, preparedAfter, attestedAfter, Attested.named proved, ?_, ?_⟩
    · intro idle
      cases idle
    · intro saving same
      cases same
      refine ⟨rfl, proved, continues, by simp [filesOf], ⟨[], rfl, by simp⟩, ?_⟩
      intro torn
      exact absurd torn whole
  · have moved := head_stays kept held condition untaken stepped
    refine ⟨head, token', moved, heldAfter, preparedAfter, attestedAfter, named, saved.idle, ?_⟩
    intro saving same
    exact { saved.busy saving same with }

theorem hostInvariant_task (kept : HostInvariant C P host) (admitted : host.Admits C (.task event))
    (apart : ¬ host.SlotsCollide C (.task event)) (stepped : host.task P (preparing C) event = some next) :
    HostInvariant C P next := by
  rcases task_cases stepped with ⟨system, after, up, busy, taken, outcome⟩
  cases stopped : system.observerStopped with
  | true =>
    rcases step_observerStopped stopped taken with ⟨stoppedAfter, untaken⟩
    rcases outcome with ⟨message, other, _⟩ | ⟨_, rfl⟩
    · cases untaken.symm.trans other
    · refine ⟨kept.settled, kept.files, kept.checkpoint, ?_, ?_⟩
      · intro running same runs
        cases same
        cases stoppedAfter.symm.trans runs
      · intro _
        apply kept.quiet
        intro running same
        cases up.symm.trans same
        exact stopped
  | false =>
    have live := kept.live system up stopped
    have after' : ∀ saving, ((∃ message, system.taken event = some message ∧
        saving = some ⟨message, filesOf P message, false⟩) ∨ (system.taken event = none ∧ saving = host.saving)) →
        HostInvariant C P { host with system := some after, saving := saving } := by
      intro saving saves
      have differ : ∀ message, system.taken event = some message → ∀ run : Run C S, message.outputs = run.outputs →
          ¬ SlotCollision C system.head run.inputs.store := by
        intro message proof run outputs collision
        exact apart ⟨system, message, run, up, proof, outputs, collision⟩
      rcases live_task live differ busy (admitted system up) taken saves with ⟨runs, liveAfter⟩
      refine ⟨kept.settled, kept.files, kept.checkpoint, ?_, ?_⟩
      · intro running same _
        cases same
        exact liveAfter
      · intro stops
        cases runs.symm.trans (stops after rfl)
    rcases outcome with ⟨message, proof, rfl⟩ | ⟨untaken, rfl⟩
    · exact after' _ (.inl ⟨message, proof, rfl⟩)
    · exact after' _ (.inr ⟨untaken, rfl⟩)

end Tasks

section Writes

variable {message : ProofMessage} {write : FileWrite N} {done rest : List (FileWrite N)}

/-- The files of a proof are written in this order: the proof, the message, the checkpoint. -/
theorem filesOf_split (split : filesOf P message = done ++ write :: rest) :
    (done = [] ∧ write = handleNoriProof message ∧ rest ≠ []) ∨
    (done = [handleNoriProof message] ∧ write = handleNoriProofMessage message ∧ rest ≠ []) ∨
    (done = [handleNoriProof message, handleNoriProofMessage message] ∧
      write = saveNbCheckpoint P message.outputSlot message.outputStoreHash message.outputQueueCursor ∧
      rest = []) := by
  unfold filesOf at split
  match done with
  | [] =>
    rw [List.nil_append, List.cons.injEq] at split
    refine .inl ⟨rfl, split.1.symm, ?_⟩
    rw [← split.2]
    simp
  | [first] =>
    rw [List.cons_append, List.nil_append, List.cons.injEq, List.cons.injEq] at split
    refine .inr (.inl ⟨by rw [split.1], split.2.1.symm, ?_⟩)
    rw [← split.2.2]
    simp
  | [first, second] =>
    simp only [List.cons_append, List.nil_append, List.cons.injEq] at split
    exact .inr (.inr ⟨by rw [split.1, split.2.1], split.2.2.1.symm, split.2.2.2.symm⟩)
  | first :: second :: third :: more =>
    have lengths := congrArg List.length split
    simp only [List.length_cons, List.length_nil, List.length_append, List.cons_append] at lengths
    omega

theorem OnDisk.update {disk : Disk N} {path : Path} (saved : OnDisk disk message)
    (proof : path ≠ .proof message.inputSlot) (other : path ≠ .message message.inputSlot)
    (content : Option (Written (Content N))) : OnDisk (Function.update disk path content) message := by
  constructor
  · rw [Function.update_of_ne (Ne.symm proof)]
    exact saved.proof
  · rw [Function.update_of_ne (Ne.symm other)]
    exact saved.message

/-- The files of the proof being saved are none of those of the settled proofs. -/
theorem files_update (kept : HostInvariant C P host) (continues : Continues host.position message)
    (split : filesOf P message = done ++ write :: rest) (content : Option (Written (Content N))) :
    ∀ earlier ∈ host.settled, OnDisk (Function.update host.disk write.path content) earlier := by
  intro earlier member
  have fresh := Settled.fresh kept.settled continues earlier member
  have saved := kept.files earlier member
  rcases filesOf_split split with ⟨_, rfl, _⟩ | ⟨_, rfl, _⟩ | ⟨_, rfl, _⟩
  · apply OnDisk.update saved
    · simpa [handleNoriProof] using Ne.symm fresh
    · simp [handleNoriProof]
  · apply OnDisk.update saved
    · simp [handleNoriProofMessage]
    · simpa [handleNoriProofMessage] using Ne.symm fresh
  · apply OnDisk.update saved
    · simp [saveNbCheckpoint]
    · simp [saveNbCheckpoint]

/-- A proof is saved only by an observer that runs. -/
theorem saving_live (kept : HostInvariant C P host) {saving : Saving N} (writing : host.saving = some saving) :
    ∃ system, host.system = some system ∧ system.observerStopped = false ∧ Live C P host system := by
  by_contra none
  have quiet : host.saving = Option.none := by
    apply kept.quiet
    intro system up
    by_contra runs
    have running : system.observerStopped = false := Bool.eq_false_iff.mpr runs
    exact none ⟨system, up, running, kept.live system up running⟩
  rw [quiet] at writing
  cases writing

theorem checkpointFile_update {path : Path} (kept : CheckpointFile C P host) (other : path ≠ .checkpoint)
    (whole : host.disk .checkpoint ≠ some .torn) (content : Option (Written (Content N))) (saving : Option (Saving N)) :
    CheckpointFile C P { host with disk := Function.update host.disk path content, saving := saving } := by
  have same : Function.update host.disk path content .checkpoint = host.disk .checkpoint :=
    Function.update_of_ne (Ne.symm other) _ _
  rcases kept with ⟨torn, _⟩ | absent | saved
  · exact absurd torn whole
  · exact .inr (.inl ⟨same.trans absent.1, absent.2⟩)
  · exact .inr (.inr ⟨same.trans saved.1, saved.2⟩)

theorem done_path (split : filesOf P message = done ++ write :: rest) :
    ∀ earlier ∈ done, earlier.path ≠ write.path := by
  rcases filesOf_split split with ⟨rfl, rfl, _⟩ | ⟨rfl, rfl, _⟩ | ⟨rfl, rfl, _⟩
  · simp
  · simp [handleNoriProof, handleNoriProofMessage]
  · simp [handleNoriProof, handleNoriProofMessage, saveNbCheckpoint]

theorem done_update {disk : Disk N} (split : filesOf P message = done ++ write :: rest)
    (written : ∀ earlier ∈ done, disk earlier.path = some (.whole earlier.content))
    (content : Option (Written (Content N))) :
    ∀ earlier ∈ done, Function.update disk write.path content earlier.path = some (.whole earlier.content) := by
  intro earlier member
  rw [Function.update_of_ne (done_path split earlier member)]
  exact written earlier member

theorem update_checkpoint (P : CheckpointPrimitives N) (message : ProofMessage) (disk : Disk N)
    (content : Option (Written (Content N))) :
    Function.update disk (saveNbCheckpoint P message.outputSlot message.outputStoreHash message.outputQueueCursor).path
      content .checkpoint = content := Function.update_self ..

theorem hostInvariant_writeBegins (kept : HostInvariant C P host) (stepped : host.writeBegins = some next) :
    HostInvariant C P next := by
  rcases writeBegins_cases stepped with ⟨message, write, rest, writing, rfl⟩
  rcases saving_live kept writing with
    ⟨system, up, runs, head, token, contiguous, held, prepared, attested, named, saved⟩
  have progress := saved.busy _ writing
  rcases progress.written with ⟨done, split, written⟩
  change filesOf P message = done ++ write :: rest at split
  have whole : host.disk .checkpoint ≠ some .torn := fun torn => Bool.false_ne_true (progress.torn torn).1
  have live : Live C P { host with
      disk := Function.update host.disk write.path (some .torn)
      saving := some ⟨message, write :: rest, true⟩ } system := by
    refine ⟨head, token, contiguous, held, prepared, attested, named, ?_, ?_⟩
    · intro idle
      cases idle
    · intro saving same
      cases same
      refine ⟨progress.atHead, progress.attested, progress.continues, progress.unwritten,
        ⟨done, split, done_update split written _⟩, ?_⟩
      intro torn
      refine ⟨rfl, ?_⟩
      rcases filesOf_split split with ⟨_, rfl, _⟩ | ⟨_, rfl, _⟩ | ⟨_, rfl, rfl⟩
      · exact absurd torn whole
      · exact absurd torn whole
      · simp [saveNbCheckpoint]
  refine ⟨kept.settled, files_update kept progress.continues split _, ?_, ?_, ?_⟩
  · rcases filesOf_split split with ⟨_, rfl, _⟩ | ⟨_, rfl, _⟩ | ⟨rfl, rfl, rfl⟩
    · exact checkpointFile_update kept.checkpoint (by simp [handleNoriProof]) whole _ _
    · exact checkpointFile_update kept.checkpoint (by simp [handleNoriProofMessage]) whole _ _
    · have saved : OnDisk host.disk message :=
        ⟨written (handleNoriProof message) (by simp), written (handleNoriProofMessage message) (by simp)⟩
      refine .inl ⟨update_checkpoint P message host.disk _, message, ?_, progress.attested, progress.continues⟩
      exact OnDisk.update saved (by simp [saveNbCheckpoint]) (by simp [saveNbCheckpoint]) _
  · intro other same _
    cases up.symm.trans same
    exact live
  · intro stops
    cases runs.symm.trans (stops system up)

/-- The proof or the message is whole and the next file is to be written. -/
theorem hostInvariant_writesOn (kept : HostInvariant C P host)
    (writing : host.saving = some ⟨message, write :: rest, true⟩) (more : rest ≠ []) :
    HostInvariant C P { host with
      disk := Function.update host.disk write.path (some (.whole write.content))
      saving := some ⟨message, rest, false⟩ } := by
  rcases saving_live kept writing with
    ⟨system, up, runs, head, token, contiguous, held, prepared, attested, named, saved⟩
  have progress := saved.busy _ writing
  rcases progress.written with ⟨done, split, written⟩
  change filesOf P message = done ++ write :: rest at split
  have other : write.path ≠ .checkpoint := by
    rcases filesOf_split split with ⟨_, rfl, _⟩ | ⟨_, rfl, _⟩ | ⟨_, _, last⟩
    · simp [handleNoriProof]
    · simp [handleNoriProofMessage]
    · exact absurd last more
  have whole : host.disk .checkpoint ≠ some .torn := by
    intro torn
    exact other ((progress.torn torn).2 write (List.mem_cons_self ..))
  have live : Live C P { host with
      disk := Function.update host.disk write.path (some (.whole write.content))
      saving := some ⟨message, rest, false⟩ } system := by
    refine ⟨head, token, contiguous, held, prepared, attested, named, ?_, ?_⟩
    · intro idle
      cases idle
    · intro saving same
      cases same
      refine ⟨progress.atHead, progress.attested, progress.continues, more, ⟨done ++ [write], ?_, ?_⟩, ?_⟩
      · rw [List.append_assoc]
        exact split
      · intro earlier member
        rcases List.mem_append.mp member with old | new
        · exact done_update split written _ earlier old
        · cases List.mem_singleton.mp new
          exact Function.update_self _ _ _
      · intro torn
        change Function.update host.disk write.path _ .checkpoint = _ at torn
        rw [Function.update_of_ne (Ne.symm other)] at torn
        exact absurd torn whole
  refine ⟨kept.settled, files_update kept progress.continues split _, ?_, ?_, ?_⟩
  · exact checkpointFile_update kept.checkpoint other whole _ _
  · intro running same _
    cases up.symm.trans same
    exact live
  · intro stops
    cases runs.symm.trans (stops system up)

/-- The checkpoint is whole: the proof is settled and the head stands at its output. -/
theorem hostInvariant_settles (kept : HostInvariant C P host)
    (writing : host.saving = some ⟨message, [write], true⟩) :
    HostInvariant C P { host with
      disk := Function.update host.disk write.path (some (.whole write.content))
      saving := none
      settled := host.settled ++ [message] } := by
  rcases saving_live kept writing with
    ⟨system, up, runs, head, token, contiguous, held, prepared, attested, named, saved⟩
  have progress := saved.busy _ writing
  rcases progress.written with ⟨done, split, written⟩
  change filesOf P message = done ++ [write] at split
  have last : Host.position { host with settled := host.settled ++ [message] } = message.output := by
    simp [Host.position]
  have files := files_update kept progress.continues split (some (.whole write.content))
  rcases filesOf_split split with ⟨_, _, more⟩ | ⟨_, _, more⟩ | ⟨rfl, rfl, _⟩
  · exact absurd rfl more
  · exact absurd rfl more
  have own : OnDisk host.disk message :=
    ⟨written (handleNoriProof message) (by simp), written (handleNoriProofMessage message) (by simp)⟩
  constructor
  · have settles := Settled.proof kept.settled progress.attested progress.continues
    rw [← last] at settles
    exact settles
  · intro earlier member
    rcases List.mem_append.mp member with old | new
    · exact files earlier old
    · cases List.mem_singleton.mp new
      exact OnDisk.update own (by simp [saveNbCheckpoint]) (by simp [saveNbCheckpoint]) _
  · refine .inr (.inr ⟨(update_checkpoint P message host.disk _).trans ?_, by simp⟩)
    simp only [Host.position, List.getLast?_append, List.getLast?_singleton, Option.some_or, Option.map_some,
      Option.getD_some]
    rfl
  · intro running same _
    cases up.symm.trans same
    refine ⟨head, token, contiguous, held, prepared, attested, named, ?_, ?_⟩
    · intro _
      refine ⟨progress.atHead.trans last.symm, ?_⟩
      intro torn
      cases (update_checkpoint P message host.disk _).symm.trans torn
    · intro saving same
      cases same
  · intro _
    rfl

end Writes

section Restart

theorem hostInvariant_writeEnds (kept : HostInvariant C P host) (stepped : host.writeEnds = some next) :
    HostInvariant C P next := by
  rcases writeEnds_cases stepped with ⟨message, write, rest, writing, ⟨rfl, rfl⟩ | ⟨more, rfl⟩⟩
  · exact hostInvariant_settles kept writing
  · exact hostInvariant_writesOn kept writing more

theorem hostInvariant_writeFails (kept : HostInvariant C P host) (stepped : host.writeFails = some next) :
    HostInvariant C P next := by
  rcases writeFails_cases stepped with ⟨saving, system, _, _, rfl⟩
  refine ⟨kept.settled, kept.files, kept.checkpoint, ?_, fun _ => rfl⟩
  intro running same runs
  cases same
  cases runs

theorem hostInvariant_crash (kept : HostInvariant C P host) (stepped : host.crash = some next) :
    HostInvariant C P next := by
  rw [crash_cases stepped]
  refine ⟨kept.settled, kept.files, kept.checkpoint, ?_, fun _ => rfl⟩
  intro running same
  cases same

theorem live_start (named : Named C S head) (latestBeaconSlot : UInt64) (idle : next.saving = none)
    (atPosition : head = next.position) (whole : next.disk .checkpoint ≠ some .torn) :
    Live C P next (System.start head.slot head.storeHash head.queueCursor latestBeaconSlot) := by
  refine ⟨head, _, contiguous_start head.slot head.storeHash head.queueCursor latestBeaconSlot,
    tokenInvariant_start head.slot head.storeHash head.queueCursor latestBeaconSlot,
    provenance_start head.slot head.storeHash head.queueCursor latestBeaconSlot,
    attestation_start head.slot head.storeHash head.queueCursor latestBeaconSlot, named,
    fun _ => ⟨atPosition, whole⟩, ?_⟩
  intro saving busy
  rw [idle] at busy
  cases busy

/-- What a restart loads is the last checkpoint. -/
theorem loadNbCheckpoint_position (codecs : P.RoundTrip) (kept : CheckpointFile C P host)
    {checkpoint : NoriBridgeCheckpoint} (loaded : loadNbCheckpoint P host.disk = .ok checkpoint) :
    checkpoint = host.position.checkpoint ∧ host.settled ≠ [] ∧ host.disk .checkpoint ≠ some .torn := by
  rcases kept with ⟨torn, _⟩ | ⟨absent, _⟩ | ⟨saved, nonempty⟩
  · rw [loadNbCheckpoint, torn] at loaded
    cases loaded
  · rw [loadNbCheckpoint, absent] at loaded
    cases loaded
  · rw [loadNbCheckpoint, saved] at loaded
    dsimp only at loaded
    rw [(checkpoint_roundTrips codecs).back] at loaded
    cases loaded
    refine ⟨rfl, nonempty, ?_⟩
    rw [saved]
    simp

theorem hostInvariant_main (codecs : P.RoundTrip) {latestFinality : UInt64 × B256} {latestBeaconSlot : UInt64}
    (kept : HostInvariant C P host) (admitted : host.Admits C (.main latestFinality latestBeaconSlot))
    (stepped : host.main P latestFinality latestBeaconSlot = some next) : HostInvariant C P next := by
  rcases main_cases stepped with ⟨down, ⟨checkpoint, loaded, rfl⟩ | ⟨absent, rfl⟩ | rfl⟩
  · rcases loadNbCheckpoint_position codecs kept.checkpoint loaded with ⟨rfl, nonempty, whole⟩
    have some : host.settled.isEmpty = false := by simpa using nonempty
    have idle : host.saving = none := kept.quiet (by simp [down])
    refine ⟨?_, kept.files, ?_, ?_, fun _ => idle⟩
    · simp only [Host.starts, Host.position, some, Bool.false_eq_true, ↓reduceIte]
      exact kept.settled
    · simp only [Host.starts, some, Bool.false_eq_true, ↓reduceIte]
      exact kept.checkpoint
    · intro running same _
      cases same
      apply live_start (Settled.named kept.settled nonempty) latestBeaconSlot
      · exact idle
      · simp only [Host.starts, Host.position, some, Bool.false_eq_true, ↓reduceIte]
      · exact whole
  · have none : host.settled = [] := by
      rcases kept.checkpoint with ⟨torn, _⟩ | ⟨_, empty⟩ | ⟨saved, _⟩
      · rw [absent] at torn
        cases torn
      · exact empty
      · rw [absent] at saved
        cases saved
    have idle : host.saving = Option.none := kept.quiet (by simp [down])
    have position : (host.starts ⟨latestFinality.1, latestFinality.2, 0⟩ latestBeaconSlot).position =
        ⟨latestFinality.1, latestFinality.2, 0⟩ := by
      simp [Host.starts, Host.position, none, NoriBridgeCheckpoint.position]
    refine ⟨?_, kept.files, .inr (.inl ⟨absent, none⟩), ?_, fun _ => idle⟩
    · rw [position]
      simp only [Host.starts, none, List.isEmpty_nil, ↓reduceIte]
      exact .origin
    · intro running same _
      cases same
      have cold : nbCheckpointExists host.disk = false := by
        rw [nbCheckpointExists, absent]
        rfl
      have named : Named C S ⟨latestFinality.1, latestFinality.2, 0⟩ := coldStart_named (admitted cold)
      apply live_start named latestBeaconSlot
      · exact idle
      · exact position.symm
      · intro torn
        cases absent.symm.trans torn
  · exact kept

theorem hostInvariant_blank : HostInvariant C P (Host.blank : Host S N) where
  settled := .origin
  files := by simp [Host.blank]
  checkpoint := .inr (.inl ⟨rfl, rfl⟩)
  live := by simp [Host.blank]
  quiet := fun _ => rfl

theorem hostInvariant_step (codecs : P.RoundTrip) {event : HostEvent (ConsensusHttpProxy S)}
    (kept : HostInvariant C P host) (admitted : host.Admits C event) (apart : ¬ host.SlotsCollide C event)
    (stepped : host.step P (preparing C) event = some next) : HostInvariant C P next := by
  cases event with
  | task event => exact hostInvariant_task kept admitted apart stepped
  | writeBegins => exact hostInvariant_writeBegins kept stepped
  | writeEnds => exact hostInvariant_writeEnds kept stepped
  | writeFails => exact hostInvariant_writeFails kept stepped
  | crash => exact hostInvariant_crash kept stepped
  | main latestFinality latestBeaconSlot => exact hostInvariant_main codecs kept admitted stepped

theorem hostInvariant_run (codecs : P.RoundTrip) {events : List (HostEvent (ConsensusHttpProxy S))}
    (along : Along (Host.step P (preparing C)) (fun state event => state.Admits C event) Host.blank events)
    (apart : ¬ Occurs (Host.step P (preparing C)) (fun state event => state.SlotsCollide C event) Host.blank events)
    (reached : run (Host.step P (preparing C)) Host.blank events = some host) : HostInvariant C P host :=
  run_invariant (fun _ _ _ kept met stepped => hostInvariant_step codecs kept met.1 met.2 stepped) hostInvariant_blank
    (along_and along (not_occurs_iff.mp apart)) reached

/-- Over any number of crashes and restarts the settled proofs are those of accepted runs, each of which continues the
    one before it, their files are whole, and the checkpoint stands at the output of the last one. -/
theorem restarts_settle_chain (C : Crypto) {S : ConsensusSpec} {N : Type} (P : CheckpointPrimitives N)
    (codecs : P.RoundTrip) (events : List (HostEvent (ConsensusHttpProxy S))) (host : Host S N)
    (along : Along (Host.step P (preparing C)) (fun state event => state.Admits C event) Host.blank events)
    (reached : run (Host.step P (preparing C)) Host.blank events = some host) :
    Occurs (Host.step P (preparing C)) (fun state event => state.SlotsCollide C event) Host.blank events ∨
      Recoverable C P host := by
  by_cases apart : Occurs (Host.step P (preparing C)) (fun state event => state.SlotsCollide C event) Host.blank events
  · exact .inl apart
  · have kept := hostInvariant_run codecs along apart reached
    exact .inr ⟨Settled.attested kept.settled, Settled.first kept.settled, Settled.chain kept.settled,
      Settled.increasing kept.settled, kept.files, kept.checkpoint⟩

theorem torn_stays (torn : host.disk .checkpoint = some .torn) (down : host.system = none) (idle : host.saving = none)
    {prepare : Prepare S β} {event : HostEvent β} (stepped : host.step P prepare event = some next) : next = host := by
  cases event with
  | task event =>
    rcases task_cases stepped with ⟨system, _, up, _⟩
    cases down.symm.trans up
  | writeBegins =>
    rcases writeBegins_cases stepped with ⟨_, _, _, writing, _⟩
    cases idle.symm.trans writing
  | writeEnds =>
    rcases writeEnds_cases stepped with ⟨_, _, _, writing, _⟩
    cases idle.symm.trans writing
  | writeFails =>
    rcases writeFails_cases stepped with ⟨_, _, writing, _⟩
    cases idle.symm.trans writing
  | crash =>
    simp only [Host.step, Host.crash, down] at stepped
    cases stepped
  | main latestFinality latestBeaconSlot =>
    rcases main_cases stepped with ⟨_, ⟨checkpoint, loaded, _⟩ | ⟨absent, _⟩ | same⟩
    · rw [loadNbCheckpoint, torn] at loaded
      cases loaded
    · cases torn.symm.trans absent
    · exact same

theorem torn_run (torn : host.disk .checkpoint = some .torn) (down : host.system = none) (idle : host.saving = none)
    {prepare : Prepare S β} {events : List (HostEvent β)}
    (reached : run (Host.step P prepare) host events = some next) : next = host := by
  induction events with
  | nil => exact (Option.some.inj reached).symm
  | cons event events ih =>
    rcases run_cons_iff.mp reached with ⟨middle, stepped, rest⟩
    cases torn_stays torn down idle stepped
    exact ih rest

/-- Only a start changes a machine that is down, and where there is no checkpoint it is a cold one. -/
theorem admitted_starts (down : host.system = none) (idle : host.saving = none)
    (absent : nbCheckpointExists host.disk = false) {events : List (HostEvent (ConsensusHttpProxy S))}
    (along : Along (Host.step P (preparing C)) (fun state event => state.Admits C event) host events)
    (reached : run (Host.step P (preparing C)) host events = some next) (up : next.system.isSome) :
    ∃ latestFinality, ColdStart C S latestFinality := by
  cases events with
  | nil =>
    cases reached
    rw [down] at up
    cases up
  | cons event events =>
    rcases run_cons_iff.mp reached with ⟨middle, stepped, _⟩
    cases event with
    | main latestFinality latestBeaconSlot => exact ⟨latestFinality, along.1 absent⟩
    | task event =>
      rcases task_cases stepped with ⟨system, _, running, _⟩
      cases down.symm.trans running
    | writeBegins =>
      rcases writeBegins_cases stepped with ⟨_, _, _, writing, _⟩
      cases idle.symm.trans writing
    | writeEnds =>
      rcases writeEnds_cases stepped with ⟨_, _, _, writing, _⟩
      cases idle.symm.trans writing
    | writeFails =>
      rcases writeFails_cases stepped with ⟨_, _, writing, _⟩
      cases idle.symm.trans writing
    | crash =>
      simp only [Host.step, Host.crash, down] at stepped
      cases stepped

/-- What `main` makes of a checkpoint file that no crash has cut off. -/
theorem main_starts (codecs : P.RoundTrip) (kept : CheckpointFile C P host) (down : host.system = none)
    (whole : host.disk .checkpoint ≠ some .torn) (latestFinality : UInt64 × B256) (latestBeaconSlot : UInt64) :
    nbCheckpointExists host.disk = decide (host.settled ≠ []) ∧
      host.main P latestFinality latestBeaconSlot = some (host.starts
        (if host.settled = [] then ⟨latestFinality.1, latestFinality.2, 0⟩ else host.position.checkpoint)
        latestBeaconSlot) := by
  rcases kept with ⟨torn, _⟩ | ⟨absent, empty⟩ | ⟨saved, nonempty⟩
  · exact absurd torn whole
  · have missing : nbCheckpointExists host.disk = false := by
      rw [nbCheckpointExists, absent]
      rfl
    simp [Host.main, down, missing, empty]
  · have present : nbCheckpointExists host.disk = true := by
      rw [nbCheckpointExists, saved]
      rfl
    have loads : loadNbCheckpoint P host.disk = .ok host.position.checkpoint := by
      simp only [loadNbCheckpoint, saved, (checkpoint_roundTrips codecs).back]
      rfl
    simp [Host.main, down, present, loads, nonempty]

/-- A process that is down comes up again exactly when no crash has cut off the checkpoint and, where nothing is
    settled, a cold start can return; and it takes up at the output of the last settled proof. -/
theorem restarts_unless_torn (C : Crypto) {S : ConsensusSpec} {N : Type} (P : CheckpointPrimitives N)
    (codecs : P.RoundTrip) (events : List (HostEvent (ConsensusHttpProxy S))) (host : Host S N)
    (along : Along (Host.step P (preparing C)) (fun state event => state.Admits C event) Host.blank events)
    (reached : run (Host.step P (preparing C)) Host.blank events = some host) (down : host.system = none) :
    Occurs (Host.step P (preparing C)) (fun state event => state.SlotsCollide C event) Host.blank events ∨
    (((∃ later next, Along (Host.step P (preparing C)) (fun state event => state.Admits C event) host later ∧
          run (Host.step P (preparing C)) host later = some next ∧ next.system.isSome) ↔
        host.disk .checkpoint ≠ some .torn ∧ (host.settled = [] → ∃ latestFinality, ColdStart C S latestFinality)) ∧
      (host.disk .checkpoint ≠ some .torn → host.settled ≠ [] → ∀ latestFinality latestBeaconSlot,
        host.Admits C (.main latestFinality latestBeaconSlot) ∧
        ∃ next, host.main P latestFinality latestBeaconSlot = some next ∧
          next.system = some (System.start host.position.slot host.position.storeHash host.position.queueCursor
            latestBeaconSlot))) := by
  by_cases apart : Occurs (Host.step P (preparing C)) (fun state event => state.SlotsCollide C event) Host.blank events
  · exact .inl apart
  have kept := hostInvariant_run codecs along apart reached
  have idle : host.saving = none := kept.quiet (by simp [down])
  have resumes : host.disk .checkpoint ≠ some .torn → host.settled ≠ [] → ∀ latestFinality latestBeaconSlot,
      host.Admits C (.main latestFinality latestBeaconSlot) ∧
      host.main P latestFinality latestBeaconSlot = some (host.starts host.position.checkpoint latestBeaconSlot) := by
    intro whole nonempty latestFinality latestBeaconSlot
    rcases main_starts codecs kept.checkpoint down whole latestFinality latestBeaconSlot with ⟨present, starts⟩
    rw [if_neg nonempty] at starts
    refine ⟨?_, starts⟩
    intro absent
    rw [present, decide_eq_true nonempty] at absent
    cases absent
  refine .inr ⟨⟨?_, ?_⟩, ?_⟩
  · rintro ⟨later, next, admitted, continued, up⟩
    have whole : host.disk .checkpoint ≠ some .torn := by
      intro torn
      rw [torn_run torn down idle continued, down] at up
      cases up
    refine ⟨whole, ?_⟩
    intro empty
    have absent := (main_starts codecs kept.checkpoint down whole (0, FixedBytes.zero) 0).1
    rw [decide_eq_false (not_not_intro empty)] at absent
    exact admitted_starts down idle absent admitted continued up
  · rintro ⟨whole, coldStarts⟩
    by_cases empty : host.settled = []
    · rcases coldStarts empty with ⟨latestFinality, coldStart⟩
      have starts := (main_starts codecs kept.checkpoint down whole latestFinality 0).2
      exact ⟨[.main latestFinality 0], _, ⟨fun _ => coldStart, fun _ _ => trivial⟩,
        run_cons_iff.mpr ⟨_, starts, rfl⟩, rfl⟩
    · rcases resumes whole empty (0, FixedBytes.zero) 0 with ⟨admitted, starts⟩
      exact ⟨[.main (0, FixedBytes.zero) 0], _, ⟨admitted, fun _ _ => trivial⟩,
        run_cons_iff.mpr ⟨_, starts, rfl⟩, rfl⟩
  · intro whole nonempty latestFinality latestBeaconSlot
    rcases resumes whole nonempty latestFinality latestBeaconSlot with ⟨admitted, starts⟩
    exact ⟨admitted, _, starts, rfl⟩

end Restart

end NoriProof

namespace NoriModel.Sample

def checkpointPrimitives : CheckpointPrimitives JsonNumber :=
  ⟨(jsonPrimitives Minimal.spec).u64, (jsonPrimitives Minimal.spec).fixedBytes⟩

def slotOfCode (code : List UInt8) : UInt64 := UInt64.ofNat (beNat ((code.drop 2).take 8))

/-- The known hashes, and outside of them a hash that keeps the slot of the store. -/
def tagged : Crypto :=
  { known.crypto with sha256 := fun bytes => (known.sha.lookup bytes).getD (word (slotOfCode bytes).toNat) }

def slotOfHash (hash : B256) : UInt64 :=
  ((known.sha.find? fun pair => pair.2 = hash).map fun pair => slotOfCode pair.1).getD (UInt64.ofNat hash.toNat)

/-- A cold start, the first proof of the pipeline and the files that it is saved in. -/
def savingEvents : List (HostEvent (ConsensusHttpProxy Minimal.spec)) :=
  .main (64, syncedStoreHash0) 96 :: ((NoriProof.stagingEvents ++ NoriProof.provingEvents).map .task ++
    [.task .bridgeSends, .task .observerHandles, .task .observerHandles, .task .observerHandles, .writeBegins,
      .writeEnds, .writeBegins, .writeEnds, .writeBegins])

def hostAdmits (host : Host Minimal.spec JsonNumber) : HostEvent (ConsensusHttpProxy Minimal.spec) → Bool
  | .task event => host.system.all fun system => system.provesTheProgram tagged event && system.stagesFromHead event
  | .main latestFinality _ => latestFinality = (64, syncedStoreHash0)
  | .writeBegins | .writeEnds | .writeFails | .crash => true

end NoriModel.Sample

namespace NoriProof

open NoriModel NoriModel.Sample

theorem checkpointPrimitives_roundTrip : checkpointPrimitives.RoundTrip :=
  ⟨(jsonPrimitives_roundTrip Minimal.spec).u64, (jsonPrimitives_roundTrip Minimal.spec).fixedBytes⟩

theorem tagged_slot (code : List UInt8) : slotOfHash (tagged.sha256 code) = slotOfCode code := by
  have table : ∀ pair ∈ known.sha, slotOfHash pair.2 = slotOfCode pair.1 ∧ 2^64 ≤ pair.2.toNat := by decide +kernel
  cases found : known.sha.lookup code with
  | some hash =>
    have hashed : tagged.sha256 code = hash := by simp [tagged, found]
    rcases List.lookup_eq_some_iff.mp found with ⟨_, _, whole, _⟩
    rw [hashed]
    exact (table (code, hash) (by simp [whole])).1
  | none =>
    have hashed : tagged.sha256 code = word (slotOfCode code).toNat := by simp [tagged, found]
    have bound := (slotOfCode code).toNat_lt
    have number : (word (slotOfCode code).toNat).toNat = (slotOfCode code).toNat := by
      rw [word, FixedBytes.toNat_ofNat, Nat.mod_eq_of_lt]
      omega
    have unknown : (known.sha.find? fun pair => pair.2 = word (slotOfCode code).toNat) = none := by
      apply List.find?_eq_none.mpr
      intro pair member same
      have large := (table pair member).2
      rw [of_decide_eq_true same, number] at large
      omega
    rw [hashed, slotOfHash, unknown, Option.map_none, Option.getD_none, number, UInt64.ofNat_toNat]

theorem tagged_apart (position : FinalityChangeDetectorUpdate) (other : Minimal.spec.Store) :
    ¬ SlotCollision tagged position other := by
  have pinned : ∀ (store : Minimal.spec.Store) hash, sha256HashHeliosStore tagged store = .ok hash →
      slotOfHash hash = Minimal.spec.beaconSlot store.finalizedHeader := by
    intro store hash hashed
    simp only [sha256HashHeliosStore, minimal_serialize, ok_bind] at hashed
    cases hashed
    have bound : store.finalizedHeader.slot.toNat < 256 ^ 8 := store.finalizedHeader.slot.toNat_lt
    have digits : ((storeCode store).drop 2).take 8 = natBe 8 store.finalizedHeader.slot.toNat :=
      List.take_left' (natBe_length 8 _)
    rw [tagged_slot, slotOfCode, digits, beNat_natBe, Nat.mod_eq_of_lt bound, UInt64.ofNat_toNat]
    rfl
  rintro ⟨⟨store, named, finalized⟩, hashed, differs⟩
  apply differs
  rw [← pinned other _ hashed, pinned store _ named, finalized]

theorem tagged_never (events : List (HostEvent (ConsensusHttpProxy Minimal.spec))) :
    ¬ Occurs (Host.step checkpointPrimitives (preparing tagged)) (fun state event => state.SlotsCollide tagged event)
      Host.blank events := by
  rintro ⟨_, event, _, host, _, _, collides⟩
  cases event with
  | task event =>
    rcases collides with ⟨_, _, run, _, _, _, collision⟩
    exact tagged_apart _ _ collision
  | _ => exact collides

theorem hostAdmits_sound {host : Host Minimal.spec JsonNumber} {event : HostEvent (ConsensusHttpProxy Minimal.spec)}
    (checked : hostAdmits host event = true) : host.Admits tagged event := by
  cases event with
  | task event =>
    intro system up
    simpa [hostAdmits, up] using checked
  | main latestFinality latestBeaconSlot =>
    obtain rfl : latestFinality = (64, syncedStoreHash0) := of_decide_eq_true checked
    intro _
    exact ⟨proxy store0 header1 world1, List.cons_ne_nil _ _, fun _ => .ok (word 64), rfl⟩
  | _ => trivial

theorem restarts_settle_chain_sample : ∃ (host : Host Minimal.spec JsonNumber) (message : ProofMessage),
    run (Host.step checkpointPrimitives (preparing tagged)) Host.blank (savingEvents ++ [.writeEnds, .crash]) =
      some host ∧
    host.settled = [message] ∧ host.origin.slot = message.inputSlot ∧ Attested tagged Minimal.spec message ∧
    OnDisk host.disk message ∧ CheckpointFile tagged checkpointPrimitives host := by
  have reaches : (run (guarded (Host.step checkpointPrimitives (preparing tagged)) hostAdmits) Host.blank
      (savingEvents ++ [.writeEnds, .crash])).any (fun host => host.settled.length = 1) = true := by decide +kernel
  rcases (Option.any_eq_true _ _).mp reaches with ⟨host, guardedRun, one⟩
  rcases run_guarded (fun _ _ checked => hostAdmits_sound checked) guardedRun with ⟨reached, along⟩
  rcases List.length_eq_one_iff.mp (of_decide_eq_true one) with ⟨message, settled⟩
  rcases restarts_settle_chain tagged checkpointPrimitives checkpointPrimitives_roundTrip _ host along reached with
    collision | recoverable
  · exact absurd collision (tagged_never _)
  · have member : message ∈ host.settled := by simp [settled]
    have first := recoverable.first message (by simp [settled])
    exact ⟨host, message, reached, settled, first.inputSlot.symm, recoverable.attested message member,
      recoverable.files message member, recoverable.checkpoint⟩

theorem restarts_unless_torn_sample : ∃ host : Host Minimal.spec JsonNumber,
    run (Host.step checkpointPrimitives (preparing tagged)) Host.blank (savingEvents ++ [.crash]) = some host ∧
    host.system.isNone ∧ ¬ ∃ later next,
      Along (Host.step checkpointPrimitives (preparing tagged)) (fun state event => state.Admits tagged event) host
        later ∧
      run (Host.step checkpointPrimitives (preparing tagged)) host later = some next ∧ next.system.isSome := by
  have reaches : (run (guarded (Host.step checkpointPrimitives (preparing tagged)) hostAdmits) Host.blank
      (savingEvents ++ [.crash])).any (fun host => host.system.isNone && (host.disk .checkpoint).any fun file =>
        match file with
        | .torn => true
        | .whole _ => false) = true := by decide +kernel
  rcases (Option.any_eq_true _ _).mp reaches with ⟨host, guardedRun, facts⟩
  rcases run_guarded (fun _ _ checked => hostAdmits_sound checked) guardedRun with ⟨reached, along⟩
  rcases Bool.and_eq_true_iff.mp facts with ⟨down, cut⟩
  rcases (Option.any_eq_true _ _).mp cut with ⟨file, present, torn⟩
  cases file with
  | whole content => cases torn
  | torn =>
    rcases restarts_unless_torn tagged checkpointPrimitives checkpointPrimitives_roundTrip _ host along reached
      (Option.isNone_iff_eq_none.mp down) with collision | exactly
    · exact absurd collision (tagged_never _)
    · refine ⟨host, reached, down, ?_⟩
      intro restarts
      exact (exactly.1.mp restarts).1 present

end NoriProof
