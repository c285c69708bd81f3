import Mathlib.Data.List.Perm.Basic
import NoriBridgeHead.BridgeHead.System
import NoriBridgeHead.Foundation.Ledger
import NoriBridgeHead.Program.KnownTries

open Foundation Foundation.Outcome Foundation.Transition

namespace NoriModel

variable {S : ConsensusSpec}

/-- One pass of the event loop: the job that it created, the job that it resolved, and what went out. -/
structure HeadPass (S : ConsensusSpec) where
  created : Option (UInt64 × ProofInputsWithWindow S)
  resolved : Option UInt64
  sends : List (BridgeHeadSend S)

/-- The event loop of the bridge head, the prover jobs that it spawned and the channel of their results. -/
structure HeadRun (S : ConsensusSpec) where
  bridge : BridgeHead S
  stopped : Bool
  panicked : Bool
  proving : List (UInt64 × ProofInputs S)
  jobResults : List ProverJobResult
  history : List (HeadPass S)

/-- What the loop selects, from whatever sends it commands and finality events, and what a prover job does. Of the
    sends of a pass the receivers accept the given number, and the loop breaks at the first that they do not. -/
inductive HeadEvent (S : ConsensusSpec) where
  | finality (event : DualProofInputsWithWindow S) (accepted : Nat)
  | command (command : Command S) (accepted : Nat)
  | jobResult (accepted : Nat)
  | channelClosed
  | proverProves (position : Nat) (publicValues : List UInt8)
  | proverFails (position : Nat) (error : String)

namespace HeadRun

def start (slot : UInt64) (storeHash : B256) (queueCursor latestBeaconSlot : UInt64) : HeadRun S where
  bridge := {
    currentSlot := slot
    nextSlot := latestBeaconSlot
    jobId := 0
    proverJobs := []
    storeHash := storeHash
    queueCursor := queueCursor }
  stopped := false
  panicked := false
  proving := []
  jobResults := []
  history := [⟨none, none, [BridgeHead.notice (.started ⟨latestBeaconSlot, slot, storeHash, queueCursor⟩)]⟩]

def pass (state : HeadRun S) (bridge : BridgeHead S) (created : Option (UInt64 × ProofInputsWithWindow S))
    (resolved : Option UInt64) (sends : List (BridgeHeadSend S)) (accepted : Nat) : HeadRun S :=
  { state with
    bridge := bridge
    stopped := decide (accepted < sends.length)
    history := state.history ++ [⟨created, resolved, sends.take accepted⟩] }

/-- A finality event and an advance change the head only once their first send has gone out. -/
def onFinality (state : HeadRun S) (event : DualProofInputsWithWindow S) (accepted : Nat) : HeadRun S :=
  let (bridge, sends) := state.bridge.onBeaconFinalityChange event
  state.pass (if accepted = 0 then state.bridge else bridge) none none sends accepted

def onAdvance (state : HeadRun S) (message : AdvanceMessage) (accepted : Nat) : HeadRun S :=
  let (bridge, sends) := state.bridge.advance message
  state.pass (if accepted = 0 then state.bridge else bridge) none none sends accepted

def onStage (state : HeadRun S) (window : ProofInputsWithWindow S) (accepted : Nat) : HeadRun S :=
  let (bridge, sends) := state.bridge.stageTransitionProof window
  { state.pass bridge (some (bridge.jobId, window)) none sends accepted with
    proving := state.proving ++ [(bridge.jobId, window.proofInputs)] }

/-- A job is removed before its public values are decoded, and the loop breaks where they do not decode. -/
def onJobResult (state : HeadRun S) (accepted : Nat) : Option (HeadRun S) :=
  match state.jobResults with
  | [] => none
  | result :: jobResults =>
    match state.bridge.onJobResult result with
    | .ok (bridge, sends) =>
      some { state.pass bridge none (some result.jobId) sends accepted with jobResults := jobResults }
    | .error (.error _) => some { state with
      bridge := state.bridge.removeJob result.jobId
      stopped := true
      jobResults := jobResults
      history := state.history ++ [⟨none, some result.jobId, []⟩] }
    | .error (.panic _) => some { state with stopped := true, panicked := true, jobResults := jobResults }

def proverEnds (state : HeadRun S) (position : Nat) (result : UInt64 → ProverJobResult) : Option (HeadRun S) :=
  match state.proving[position]? with
  | none => none
  | some job =>
    if state.jobResults.length < jobCapacity then
      some { state with
        proving := state.proving.eraseIdx position
        jobResults := state.jobResults ++ [result job.1] }
    else none

def step (state : HeadRun S) (event : HeadEvent S) : Option (HeadRun S) :=
  if state.stopped then none
  else match event with
    | .finality event accepted => some (state.onFinality event accepted)
    | .command (.stageTransitionProof window) accepted => some (state.onStage window accepted)
    | .command (.advance message) accepted => some (state.onAdvance message accepted)
    | .jobResult accepted => state.onJobResult accepted
    | .channelClosed => some { state with stopped := true }
    | .proverProves position publicValues => state.proverEnds position fun jobId => .proved jobId publicValues
    | .proverFails position error => state.proverEnds position fun jobId => .failed jobId error

def ledger (state : HeadRun S) : Ledger UInt64 (ProofInputsWithWindow S) :=
  ⟨state.history.filterMap HeadPass.created, state.history.filterMap HeadPass.resolved⟩

def sent (state : HeadRun S) : List (BridgeHeadSend S) := state.history.flatMap HeadPass.sends

end HeadRun

def HeadEvent.stages : HeadEvent S → Bool
  | .command (.stageTransitionProof _) _ => true
  | .command (.advance _) _ | .finality _ _ | .jobResult _ | .channelClosed | .proverProves _ _ | .proverFails _ _ =>
    false

/-- The job whose outcome a send reports. -/
def BridgeHeadSend.outcomeJob : BridgeHeadSend S → Option UInt64
  | .event (.noticeMessage (.jobSucceeded extension)) => some extension.jobId
  | .event (.noticeMessage (.jobFailed extension)) => some extension.jobId
  | _ => none

/-- A send that neither creates a job nor reports the outcome of one. -/
def BridgeHeadSend.Quiet (send : BridgeHeadSend S) : Prop :=
  send.outcomeJob = none ∧ ∀ created, send ≠ BridgeHead.notice (.jobCreated created)

section Notices

variable (jobId : UInt64) (window : ProofInputsWithWindow S)

def succeededNotice (outputs : ProofOutputs) : BridgeHeadJobSucceeded where
  jobId := jobId
  inputSlot := outputs.inputSlot
  inputBlockNumber := window.inputBlockNumber
  inputStoreHash := outputs.inputStoreHash
  inputQueueCursor := outputs.inputQueueCursor
  outputSlot := outputs.outputSlot
  outputBlockNumber := outputs.outputBlockNumber
  outputStoreHash := outputs.outputStoreHash
  outputQueueCursor := outputs.outputQueueCursor
  executionStateRoot := outputs.executionStateRoot
  verifiedRequestsRoot := outputs.verifiedRequestsRoot
  nextSyncCommitteeHash := outputs.nextSyncCommitteeHash
  proofRequestQueueAddress := outputs.proofRequestQueueAddress
  verifiedRequests := BridgeHead.verifiedRequests window.proofInputs.queueStorage

def provedMessage (publicValues : List UInt8) (outputs : ProofOutputs) : ProofMessage where
  inputSlot := outputs.inputSlot
  inputBlockNumber := window.inputBlockNumber
  inputStoreHash := outputs.inputStoreHash
  inputQueueCursor := outputs.inputQueueCursor
  outputSlot := outputs.outputSlot
  outputBlockNumber := outputs.outputBlockNumber
  outputStoreHash := outputs.outputStoreHash
  outputQueueCursor := outputs.outputQueueCursor
  publicValues := publicValues
  executionStateRoot := outputs.executionStateRoot
  verifiedRequestsRoot := outputs.verifiedRequestsRoot
  nextSyncCommitteeHash := outputs.nextSyncCommitteeHash
  proofRequestQueueAddress := outputs.proofRequestQueueAddress
  verifiedRequests := BridgeHead.verifiedRequests window.proofInputs.queueStorage

def failedNotice (error : String) (remaining : Nat) : BridgeHeadJobFailed where
  jobId := jobId
  inputSlot := window.inputSlot
  inputBlockNumber := window.inputBlockNumber
  inputStoreHash := window.proofInputs.storeHash
  inputQueueCursor := window.proofInputs.queueStorage.inputCursor
  expectedOutputSlot := window.expectedOutputSlot
  expectedOutputBlockNumber := window.expectedOutputBlockNumber
  expectedOutputQueueCursor := window.expectedOutputQueueCursor
  error := s!"Job '{jobId}' failed with error: Prover job {jobId} failed: {error}"
  nJobInBuffer := remaining

end Notices

/-- What is sent, in full, once the result of a job is in. -/
inductive Publishes (window : ProofInputsWithWindow S) : ProverJobResult → List (BridgeHeadSend S) → Prop where
  | succeeded (jobId : UInt64) (publicValues : List UInt8) (outputs : ProofOutputs)
      (decoded : ProofOutputs.fromBytes publicValues = .ok outputs) :
      Publishes window (.proved jobId publicValues)
        [BridgeHead.notice (.jobSucceeded (succeededNotice jobId window outputs)),
          .event (.proofMessage (provedMessage window publicValues outputs))]
  | undecodable (jobId : UInt64) (publicValues : List UInt8) (reason : String)
      (refused : ProofOutputs.fromBytes publicValues = .error reason) :
      Publishes window (.proved jobId publicValues) []
  | failed (jobId : UInt64) (error : String) (remaining : Nat) :
      Publishes window (.failed jobId error)
        [BridgeHead.notice (.jobFailed (failedNotice jobId window error remaining))]

/-- A pass reports the outcome of the job that it resolves and of no other; that job was created before, and what is
    published of it is of the inputs that were staged under its id. Only the last pass of a stopped loop is cut
    short. -/
structure HeadPass.Accounts (before : List (HeadPass S)) (pass : HeadPass S) (last : Prop) : Prop where
  quiet : pass.resolved = none → ∀ send ∈ pass.sends, send.outcomeJob = none
  resolves : ∀ jobId, pass.resolved = some jobId → ∃ result window sends, result.jobId = jobId ∧
    (jobId, window) ∈ before.filterMap HeadPass.created ∧ Publishes window result sends ∧ pass.sends <+: sends ∧
      (pass.sends ≠ sends ∨ sends = [] → last)

/-- What holds of the loop, the jobs and their results in every reachable state. -/
structure HeadRun.Accounted (state : HeadRun S) : Prop where
  valid : state.ledger.Valid UInt64.ofNat
  counted : state.bridge.jobId = UInt64.ofNat state.ledger.issued.length
  jobs : state.bridge.proverJobs = state.ledger.pending
  live : state.stopped = false →
    (state.proving.map Prod.fst ++ state.jobResults.map ProverJobResult.jobId).Perm
      (state.bridge.proverJobs.map Prod.fst)
  survives : state.panicked = false
  passes : ∀ before pass after, state.history = before ++ pass :: after →
    pass.Accounts before (state.stopped = true ∧ after = [])

end NoriModel

namespace NoriProof

open NoriModel

variable {S : ConsensusSpec} {state next : HeadRun S} {bridge : BridgeHead S}

section Handlers

/-- A result of a job in the map removes it, and publishes what was staged under its id unless it does not decode. -/
theorem onJobResult_resolves {result : ProverJobResult} {window : ProofInputsWithWindow S}
    (found : bridge.proverJobs.lookup result.jobId = some window) :
    (∃ sends, bridge.onJobResult result = .ok (bridge.removeJob result.jobId, sends) ∧
        Publishes window result sends ∧ sends ≠ []) ∨
      (∃ reason, bridge.onJobResult result = .error (.error reason)) ∧ Publishes window result [] := by
  cases result with
  | failed jobId error =>
    have job : bridge.proverJobs.lookup jobId = some window := found
    simp only [BridgeHead.onJobResult, BridgeHead.handleProverFailure, job, Outcome.expect, ok_bind]
    exact .inl ⟨_, rfl, .failed jobId error _, List.cons_ne_nil _ _⟩
  | proved jobId publicValues =>
    have job : bridge.proverJobs.lookup jobId = some window := found
    simp only [BridgeHead.onJobResult, BridgeHead.handleProverSuccess, job, Outcome.expect, ok_bind]
    cases decoded : ProofOutputs.fromBytes publicValues with
    | ok outputs => exact .inl ⟨_, rfl, .succeeded jobId publicValues outputs decoded, List.cons_ne_nil _ _⟩
    | error reason => exact .inr ⟨⟨reason, rfl⟩, .undecodable jobId publicValues reason decoded⟩

theorem publishes_outcomes {result : ProverJobResult} {window : ProofInputsWithWindow S}
    {sends : List (BridgeHeadSend S)} (published : Publishes window result sends) :
    (sends.filterMap BridgeHeadSend.outcomeJob).Sublist [result.jobId] := by
  cases published with
  | succeeded jobId publicValues outputs => exact List.Sublist.refl [jobId]
  | undecodable jobId publicValues reason => exact List.nil_sublist [jobId]
  | failed jobId error remaining => exact List.Sublist.refl [jobId]

end Handlers

section Passes

variable {history before : List (HeadPass S)} {pass : HeadPass S}

theorem accounts_imp {last last' : Prop} (accounts : pass.Accounts before last) (weaker : last → last') :
    pass.Accounts before last' := by
  apply HeadPass.Accounts.mk accounts.quiet
  intro jobId resolved
  rcases accounts.resolves jobId resolved with ⟨result, window, sends, own, created, published, partly, cut⟩
  exact ⟨result, window, sends, own, created, published, partly, fun short => weaker (cut short)⟩

theorem accounts_extend {stopped : Bool}
    (old : ∀ before pass after, history = before ++ pass :: after → pass.Accounts before (false = true ∧ after = []))
    (latest : pass.Accounts history (stopped = true)) :
    ∀ before other after, history ++ [pass] = before ++ other :: after →
      other.Accounts before (stopped = true ∧ after = []) := by
  intro before other after split
  induction after using List.reverseRecOn with
  | nil =>
    rcases List.append_inj' split rfl with ⟨rfl, same⟩
    cases same
    exact accounts_imp latest fun short => ⟨short, rfl⟩
  | append_singleton after final _ =>
    rw [← List.cons_append, ← List.append_assoc] at split
    rcases List.append_inj' split rfl with ⟨rfl, _⟩
    exact accounts_imp (old before other after rfl) fun impossible => absurd impossible.1 Bool.false_ne_true

theorem ledger_pass (state : HeadRun S) (bridge : BridgeHead S)
    (created : Option (UInt64 × ProofInputsWithWindow S)) (resolved : Option UInt64) (sends : List (BridgeHeadSend S))
    (accepted : Nat) :
    (state.pass bridge created resolved sends accepted).ledger =
      ⟨state.ledger.issued ++ created.toList, state.ledger.settled ++ resolved.toList⟩ := by
  simp only [HeadRun.ledger, HeadRun.pass, List.filterMap_append]
  cases created <;> cases resolved <;> rfl

end Passes

/-- Everything that a step can do. -/
theorem headStep_cases {event : HeadEvent S} (stepped : state.step event = some next) :
    state.stopped = false ∧
    ((∃ bridge sends accepted, event.stages = false ∧ bridge.jobId = state.bridge.jobId ∧
        bridge.proverJobs = state.bridge.proverJobs ∧ (∀ send ∈ sends, send.Quiet) ∧
        next = state.pass bridge none none sends accepted) ∨
      (∃ window accepted, event = .command (.stageTransitionProof window) accepted ∧
        next = state.onStage window accepted) ∨
      (∃ accepted, event = .jobResult accepted ∧ state.onJobResult accepted = some next) ∨
      (event = .channelClosed ∧ next = { state with stopped := true }) ∨
      ∃ position result, event.stages = false ∧ (∀ jobId, (result jobId).jobId = jobId) ∧
        state.proverEnds position result = some next) := by
  unfold HeadRun.step at stepped
  split at stepped
  · cases stepped
  · rename_i notStopped
    refine ⟨Bool.eq_false_iff.mpr notStopped, ?_⟩
    cases event with
    | finality event accepted =>
      refine .inl ⟨_, _, accepted, rfl, ?_, ?_, ?_, (Option.some.inj stepped).symm⟩
      · split <;> rfl
      · split <;> rfl
      · intro send member
        cases List.mem_singleton.mp member
        exact ⟨rfl, fun created same => by cases same⟩
    | command command accepted =>
      cases command with
      | stageTransitionProof window => exact .inr (.inl ⟨window, accepted, rfl, (Option.some.inj stepped).symm⟩)
      | advance message =>
        refine .inl ⟨_, _, accepted, rfl, ?_, ?_, ?_, (Option.some.inj stepped).symm⟩
        · split <;> rfl
        · split <;> rfl
        · intro send member
          rcases List.mem_cons.mp member with rfl | later
          · exact ⟨rfl, fun created same => by cases same⟩
          · cases List.mem_singleton.mp later
            exact ⟨rfl, fun created same => by cases same⟩
    | jobResult accepted => exact .inr (.inr (.inl ⟨accepted, rfl, stepped⟩))
    | channelClosed => exact .inr (.inr (.inr (.inl ⟨rfl, (Option.some.inj stepped).symm⟩)))
    | proverProves position publicValues =>
      exact .inr (.inr (.inr (.inr ⟨position, fun jobId => .proved jobId publicValues, rfl, fun _ => rfl, stepped⟩)))
    | proverFails position error =>
      exact .inr (.inr (.inr (.inr ⟨position, fun jobId => .failed jobId error, rfl, fun _ => rfl, stepped⟩)))

theorem proverEnds_next {position : Nat} {result : UInt64 → ProverJobResult}
    (stepped : state.proverEnds position result = some next) : ∃ job, state.proving[position]? = some job ∧
      next = { state with
        proving := state.proving.eraseIdx position
        jobResults := state.jobResults ++ [result job.1] } := by
  unfold HeadRun.proverEnds at stepped
  split at stepped
  · cases stepped
  · rename_i job proving
    split at stepped
    · exact ⟨job, proving, (Option.some.inj stepped).symm⟩
    · cases stepped

/-- A step adds to what the run has passed, and creates a job where it stages one. -/
theorem headStep_history {event : HeadEvent S} (stepped : state.step event = some next) :
    state.history <+: next.history ∧
      next.ledger.issued.length = state.ledger.issued.length + if event.stages then 1 else 0 := by
  have unstaged : ∀ bridge resolved sends accepted,
      (state.pass bridge none resolved sends accepted).ledger.issued = state.ledger.issued := by
    intro bridge resolved sends accepted
    rw [ledger_pass, Option.toList_none, List.append_nil]
  rcases headStep_cases stepped with ⟨_, ⟨bridge, sends, accepted, other, _, _, _, rfl⟩ |
    ⟨window, accepted, rfl, rfl⟩ | ⟨accepted, rfl, handled⟩ | ⟨rfl, rfl⟩ | ⟨position, result, other, _, ended⟩⟩
  · rw [other, unstaged]
    exact ⟨List.prefix_append _ _, rfl⟩
  · refine ⟨List.prefix_append _ _, ?_⟩
    simp [HeadRun.ledger, HeadRun.onStage, HeadRun.pass, HeadEvent.stages]
  · unfold HeadRun.onJobResult at handled
    split at handled
    · cases handled
    · split at handled
      · cases handled
        refine ⟨List.prefix_append _ _, ?_⟩
        simp [HeadRun.ledger, HeadRun.pass, HeadEvent.stages]
      · cases handled
        refine ⟨List.prefix_append _ _, ?_⟩
        simp [HeadRun.ledger, HeadEvent.stages]
      · cases handled
        exact ⟨List.prefix_rfl, rfl⟩
  · exact ⟨List.prefix_rfl, rfl⟩
  · rcases proverEnds_next ended with ⟨job, _, rfl⟩
    rw [other]
    exact ⟨List.prefix_rfl, rfl⟩

theorem run_history {start : HeadRun S} {events : List (HeadEvent S)}
    (reached : run HeadRun.step start events = some state) : start.history <+: state.history ∧
      state.ledger.issued.length = start.ledger.issued.length + events.countP HeadEvent.stages := by
  induction events generalizing start with
  | nil =>
    cases reached
    exact ⟨List.prefix_rfl, rfl⟩
  | cons event events ih =>
    rcases run_cons_iff.mp reached with ⟨middle, stepped, rest⟩
    rcases headStep_history stepped with ⟨grows, first⟩
    rcases ih rest with ⟨later, others⟩
    refine ⟨grows.trans later, ?_⟩
    rw [others, first, List.countP_cons]
    omega

/-- Ids are counted up, and different as long as the count does not wrap. -/
theorem ids_apart {count : Nat} (few : count < 2 ^ 64) : Ledger.Apart UInt64.ofNat count := by
  intro first low second high same
  have toNat : ∀ number ∈ Set.Icc 1 count, (UInt64.ofNat number).toNat = number := by
    intro number within
    exact UInt64.toNat_ofNat_of_lt' (lt_of_le_of_lt (Set.mem_Icc.mp within).2 few)
  rw [← toNat first low, ← toNat second high, same]

theorem next_id (count : Nat) : UInt64.ofNat count + 1 = UInt64.ofNat (count + 1) :=
  (UInt64.ofNat_add count 1).symm

section Steps

variable (kept : state.Accounted) (running : state.stopped = false)
include kept running

theorem running_passes : ∀ before pass after, state.history = before ++ pass :: after →
    pass.Accounts before (false = true ∧ after = []) := by
  intro before pass after split
  have accounts := kept.passes before pass after split
  rw [running] at accounts
  exact accounts

/-- A pass that touches no job, whatever else it does to the head. -/
theorem accounted_quiet {bridge : BridgeHead S} (sameId : bridge.jobId = state.bridge.jobId)
    (sameJobs : bridge.proverJobs = state.bridge.proverJobs) {sends : List (BridgeHeadSend S)}
    (quiet : ∀ send ∈ sends, send.Quiet) (accepted : Nat) :
    (state.pass bridge none none sends accepted).Accounted := by
  have sameLedger : (state.pass bridge none none sends accepted).ledger = state.ledger := by
    rw [ledger_pass, Option.toList_none, List.append_nil, Option.toList_none, List.append_nil]
  apply HeadRun.Accounted.mk
  · rw [sameLedger]
    exact kept.valid
  · rw [sameLedger]
    exact sameId.trans kept.counted
  · rw [sameLedger]
    exact sameJobs.trans kept.jobs
  · intro _
    show (state.proving.map Prod.fst ++ state.jobResults.map ProverJobResult.jobId).Perm
      (bridge.proverJobs.map Prod.fst)
    rw [sameJobs]
    exact kept.live running
  · exact kept.survives
  · apply accounts_extend (running_passes kept running)
    apply HeadPass.Accounts.mk
    · intro _ send member
      exact (quiet send (List.mem_of_mem_take member)).1
    · intro jobId resolved
      cases resolved

theorem accounted_stage (few : state.ledger.issued.length + 1 < 2 ^ 64) (window : ProofInputsWithWindow S)
    (accepted : Nat) : (state.onStage window accepted).Accounted := by
  have id : state.bridge.jobId + 1 = UInt64.ofNat (state.ledger.issued.length + 1) := by
    rw [kept.counted, next_id]
  have fresh : BridgeHead.insertJob state.bridge.proverJobs (state.bridge.jobId + 1) window =
      state.bridge.proverJobs ++ [(state.bridge.jobId + 1, window)] := by
    rw [BridgeHead.insertJob, kept.jobs, id, kept.valid.pending_fresh (ids_apart few)]
  have sameLedger : (state.onStage window accepted).ledger = state.ledger.issue UInt64.ofNat window := by
    show (state.pass (state.bridge.stageTransitionProof window).1 (some (state.bridge.jobId + 1, window)) none
      (state.bridge.stageTransitionProof window).2 accepted).ledger = _
    rw [ledger_pass, id, Option.toList_none, List.append_nil]
    rfl
  apply HeadRun.Accounted.mk
  · rw [sameLedger]
    exact kept.valid.issue window
  · rw [sameLedger]
    show state.bridge.jobId + 1 = UInt64.ofNat (state.ledger.issued ++ [_]).length
    rw [id, List.length_append]
    rfl
  · rw [sameLedger, kept.valid.pending_issue (ids_apart few), ← kept.jobs, ← id]
    exact fresh
  · intro _
    show ((state.proving ++ [(state.bridge.jobId + 1, window.proofInputs)]).map Prod.fst ++
      state.jobResults.map ProverJobResult.jobId).Perm
        ((BridgeHead.insertJob state.bridge.proverJobs (state.bridge.jobId + 1) window).map Prod.fst)
    rw [fresh, List.map_append, List.map_append, List.append_assoc]
    have moved := (kept.live running).append_right [state.bridge.jobId + 1]
    rw [List.append_assoc] at moved
    exact (List.perm_append_comm.append_left _).trans moved
  · exact kept.survives
  · apply accounts_extend (running_passes kept running)
    apply HeadPass.Accounts.mk
    · intro _ send member
      have whole := List.mem_of_mem_take member
      rcases List.mem_cons.mp whole with rfl | later
      · rfl
      · cases List.mem_singleton.mp later
        rfl
    · intro jobId resolved
      cases resolved

theorem pending_job {result : ProverJobResult} {jobResults : List ProverJobResult}
    (arrived : state.jobResults = result :: jobResults) :
    ∃ window, state.bridge.proverJobs.lookup result.jobId = some window ∧
      (result.jobId, window) ∈ state.bridge.proverJobs := by
  apply lookup_of_mem
  apply (kept.live running).mem_iff.mp
  rw [arrived]
  exact List.mem_append_right _ (List.mem_cons_self ..)

theorem accounted_resolved (few : state.ledger.issued.length < 2 ^ 64) {result : ProverJobResult}
    {jobResults : List ProverJobResult}
    (arrived : state.jobResults = result :: jobResults) {window : ProofInputsWithWindow S}
    (member : (result.jobId, window) ∈ state.bridge.proverJobs) {sends sent : List (BridgeHeadSend S)} {stopped : Bool}
    (published : Publishes window result sends) (partly : sent <+: sends)
    (cut : sent ≠ sends ∨ sends = [] → stopped = true) :
    HeadRun.Accounted { state with
      bridge := state.bridge.removeJob result.jobId
      stopped := stopped
      jobResults := jobResults
      history := state.history ++ [⟨none, some result.jobId, sent⟩] } := by
  have sameLedger : HeadRun.ledger { state with
      bridge := state.bridge.removeJob result.jobId
      stopped := stopped
      jobResults := jobResults
      history := state.history ++ [⟨none, some result.jobId, sent⟩] } = state.ledger.settle result.jobId := by
    simp only [HeadRun.ledger, List.filterMap_append, Ledger.settle]
    simp
  have pending : (result.jobId, window) ∈ state.ledger.pending := by
    rw [← kept.jobs]
    exact member
  apply HeadRun.Accounted.mk
  · rw [sameLedger]
    exact kept.valid.settle pending
  · rw [sameLedger]
    exact kept.counted
  · rw [sameLedger, Ledger.pending_settle, ← kept.jobs]
    rfl
  · intro _
    have live := kept.live running
    rw [arrived, List.map_cons] at live
    have distinct : (state.bridge.proverJobs.map Prod.fst).Nodup := by
      rw [kept.jobs]
      exact kept.valid.pending_distinct (ids_apart few)
    exact filter_ne_perm (List.perm_middle.symm.trans live) distinct
  · exact kept.survives
  · apply accounts_extend (running_passes kept running)
    apply HeadPass.Accounts.mk
    · intro resolved
      cases resolved
    · intro jobId resolved
      cases resolved
      exact ⟨result, window, sends, rfl, (Ledger.pending_issued pending).1, published, partly, cut⟩

/-- A handled result removes its job and publishes what was staged for it, or as much as was accepted. -/
theorem jobResult_next {accepted : Nat} (stepped : state.onJobResult accepted = some next) :
    ∃ result jobResults window sends sent stopped, state.jobResults = result :: jobResults ∧
      (result.jobId, window) ∈ state.bridge.proverJobs ∧ Publishes window result sends ∧ sent <+: sends ∧
      (sent ≠ sends ∨ sends = [] → stopped = true) ∧
      next = { state with
        bridge := state.bridge.removeJob result.jobId
        stopped := stopped
        jobResults := jobResults
        history := state.history ++ [⟨none, some result.jobId, sent⟩] } := by
  unfold HeadRun.onJobResult at stepped
  cases arrived : state.jobResults with
  | nil =>
    rw [arrived] at stepped
    cases stepped
  | cons result jobResults =>
    rw [arrived] at stepped
    rcases pending_job kept running arrived with ⟨window, found, member⟩
    rcases onJobResult_resolves found with ⟨sends, handled, published, nonempty⟩ | ⟨⟨reason, refused⟩, published⟩
    · simp only [handled, Option.some.injEq] at stepped
      refine ⟨result, jobResults, window, sends, sends.take accepted, decide (accepted < sends.length), rfl, member,
        published, List.take_prefix accepted sends, ?_, stepped.symm⟩
      rintro (short | empty)
      · apply decide_eq_true
        by_contra enough
        exact short (List.take_of_length_le (by omega))
      · exact absurd empty nonempty
    · simp only [refused, Option.some.injEq] at stepped
      exact ⟨result, jobResults, window, [], [], true, rfl, member, published, List.prefix_rfl, fun _ => rfl,
        stepped.symm⟩

theorem accounted_proverEnds {position : Nat} {result : UInt64 → ProverJobResult}
    (own : ∀ jobId, (result jobId).jobId = jobId)
    (stepped : state.proverEnds position result = some next) : next.Accounted := by
  rcases proverEnds_next stepped with ⟨job, proving, rfl⟩
  rcases List.getElem?_eq_some_iff.mp proving with ⟨inside, here⟩
  refine ⟨kept.valid, kept.counted, kept.jobs, ?_, kept.survives, kept.passes⟩
  intro _
  have taken : (job :: state.proving.eraseIdx position).Perm state.proving := by
    rw [← here]
    exact List.getElem_cons_eraseIdx_perm inside
  have live := kept.live running
  show ((state.proving.eraseIdx position).map Prod.fst ++
    (state.jobResults ++ [result job.1]).map ProverJobResult.jobId).Perm (state.bridge.proverJobs.map Prod.fst)
  rw [List.map_append, List.map_cons, List.map_nil, own, ← List.append_assoc]
  have rotated : ((state.proving.eraseIdx position).map Prod.fst ++ state.jobResults.map ProverJobResult.jobId ++
      [job.1]).Perm (((job :: state.proving.eraseIdx position).map Prod.fst) ++
        state.jobResults.map ProverJobResult.jobId) := List.perm_append_singleton _ _
  exact rotated.trans (((taken.map Prod.fst).append_right _).trans live)

end Steps

theorem headAccounted_step {event : HeadEvent S} (kept : state.Accounted)
    (few : next.ledger.issued.length < 2 ^ 64) (stepped : state.step event = some next) : next.Accounted := by
  have created := (headStep_history stepped).2
  rcases headStep_cases stepped with ⟨running, ⟨bridge, sends, accepted, _, sameId, sameJobs, quiet, rfl⟩ |
    ⟨window, accepted, rfl, rfl⟩ | ⟨accepted, rfl, handled⟩ | ⟨rfl, rfl⟩ | ⟨position, result, _, own, ended⟩⟩
  · exact accounted_quiet kept running sameId sameJobs quiet accepted
  · apply accounted_stage kept running
    simp only [HeadEvent.stages, ↓reduceIte] at created
    omega
  · rcases jobResult_next kept running handled with
      ⟨result, jobResults, window, sends, sent, stopped, arrived, member, published, partly, cut, rfl⟩
    apply accounted_resolved kept running ?_ arrived member published partly cut
    omega
  · refine ⟨kept.valid, kept.counted, kept.jobs, ?_, kept.survives, ?_⟩
    · intro continued
      cases continued
    · intro before pass after split
      exact accounts_imp (running_passes kept running before pass after split)
        fun impossible => absurd impossible.1 Bool.false_ne_true
  · exact accounted_proverEnds kept running own ended

theorem headAccounted_start (slot : UInt64) (storeHash : B256) (queueCursor latestBeaconSlot : UInt64) :
    (HeadRun.start slot storeHash queueCursor latestBeaconSlot : HeadRun S).Accounted := by
  apply HeadRun.Accounted.mk
  · exact Ledger.Valid.empty
  · rfl
  · rfl
  · intro _
    exact List.Perm.nil
  · rfl
  · intro before pass after split
    cases before with
    | nil =>
      cases split
      apply HeadPass.Accounts.mk
      · intro _ send member
        cases List.mem_singleton.mp member
        rfl
      · intro jobId resolved
        cases resolved
    | cons first before =>
      have size := congrArg List.length split
      simp [HeadRun.start] at size

theorem run_accounted {slot : UInt64} {storeHash : B256} {queueCursor latestBeaconSlot : UInt64}
    {events : List (HeadEvent S)} (few : events.countP HeadEvent.stages < 2 ^ 64)
    (reached : run HeadRun.step (HeadRun.start slot storeHash queueCursor latestBeaconSlot) events = some state) :
    state.Accounted := by
  have preserved : ∀ (state : HeadRun S) (event : HeadEvent S) (next : HeadRun S),
      (state.ledger.issued.length < 2 ^ 64 → state.Accounted) → state.step event = some next →
      next.ledger.issued.length < 2 ^ 64 → next.Accounted := by
    intro state event next kept stepped few
    have grows := (headStep_history stepped).2
    exact headAccounted_step (kept (by omega)) few stepped
  apply reachable_invariant preserved ?_ reached
  · have created := (run_history reached).2
    have none : (HeadRun.start (S := S) slot storeHash queueCursor latestBeaconSlot).ledger.issued.length = 0 := rfl
    omega
  · intro _
    exact headAccounted_start slot storeHash queueCursor latestBeaconSlot

/-- No two sends report the outcome of one job. -/
theorem outcomes_once (kept : state.Accounted) : (state.sent.filterMap BridgeHeadSend.outcomeJob).Nodup := by
  have each : ∀ pass ∈ state.history,
      (pass.sends.filterMap BridgeHeadSend.outcomeJob).Sublist pass.resolved.toList := by
    intro pass member
    rcases List.append_of_mem member with ⟨before, after, split⟩
    have accounts := kept.passes before pass after split
    cases resolved : pass.resolved with
    | none =>
      rw [List.filterMap_eq_nil_iff.mpr (accounts.quiet resolved)]
      exact List.nil_sublist _
    | some jobId =>
      rcases accounts.resolves jobId resolved with ⟨result, window, sends, rfl, _, published, partly, _⟩
      exact (partly.sublist.filterMap _).trans (publishes_outcomes published)
  have whole : (state.sent.filterMap BridgeHeadSend.outcomeJob).Sublist state.ledger.settled := by
    rw [HeadRun.sent, HeadRun.ledger]
    generalize state.history = history at each
    induction history with
    | nil => exact List.nil_sublist _
    | cons pass history ih =>
      rcases List.forall_mem_cons.mp each with ⟨here, others⟩
      have settled : (pass :: history).filterMap HeadPass.resolved =
          pass.resolved.toList ++ history.filterMap HeadPass.resolved := by
        cases resolved : pass.resolved <;> simp [resolved]
      rw [List.flatMap_cons, List.filterMap_append]
      show List.Sublist _ ((pass :: history).filterMap HeadPass.resolved)
      rw [settled]
      exact here.append (ih others)
  exact kept.valid.once.sublist whole

/-- However stagings, advances, finality events and results interleave, and whichever of the loop's sends are refused:
    until the ids wrap they are given out in order, the map holds the jobs that are created and not resolved, every
    result finds its job there, and a job's outcome is reported once, after its creation, from the inputs staged under
    its id. -/
theorem job_accounting {S : ConsensusSpec} (slot : UInt64) (storeHash : B256) (queueCursor latestBeaconSlot : UInt64)
    (events : List (HeadEvent S)) (final : HeadRun S) (few : events.countP HeadEvent.stages < 2 ^ 64)
    (reached : run HeadRun.step (HeadRun.start slot storeHash queueCursor latestBeaconSlot) events = some final) :
    final.ledger.issued.map (fun job => job.1.toNat) = List.range' 1 (events.countP HeadEvent.stages) ∧
    final.bridge.jobId.toNat = events.countP HeadEvent.stages ∧
    final.bridge.proverJobs = final.ledger.pending ∧
    (∀ result jobResults, final.stopped = false → final.jobResults = result :: jobResults →
      ∃ window, final.bridge.proverJobs.lookup result.jobId = some window) ∧
    final.panicked = false ∧
    (final.sent.filterMap BridgeHeadSend.outcomeJob).Nodup ∧
    ∀ before pass after, final.history = before ++ pass :: after →
      pass.Accounts before (final.stopped = true ∧ after = []) := by
  have kept := run_accounted few reached
  have count : final.ledger.issued.length = events.countP HeadEvent.stages :=
    (run_history reached).2.trans (Nat.zero_add _)
  refine ⟨?_, ?_, kept.jobs, ?_, kept.survives, outcomes_once kept, kept.passes⟩
  · calc final.ledger.issued.map (fun job => job.1.toNat)
      _ = (final.ledger.issued.map Prod.fst).map UInt64.toNat := by
        rw [List.map_map]
        rfl
      _ = (List.range' 1 (events.countP HeadEvent.stages)).map (UInt64.toNat ∘ UInt64.ofNat) := by
        rw [kept.valid.numbered, count, List.map_map]
      _ = (List.range' 1 (events.countP HeadEvent.stages)).map id := by
        apply List.map_congr_left
        intro number member
        rw [List.mem_range'_1] at member
        have below : number < 2 ^ 64 := by omega
        exact UInt64.toNat_ofNat_of_lt' below
      _ = List.range' 1 (events.countP HeadEvent.stages) := List.map_id _
  · rw [kept.counted, count]
    exact UInt64.toNat_ofNat_of_lt' few
  · intro result jobResults running arrived
    rcases pending_job kept running arrived with ⟨window, found, _⟩
    exact ⟨window, found⟩

end NoriProof

namespace NoriModel.Sample

def window1 : ProofInputsWithWindow Minimal.spec := ⟨64, 96, 100, 132, proofInputs1, storeHash1, 1⟩
def window2 : ProofInputsWithWindow Minimal.spec := ⟨96, 128, 132, 164, proofInputs2, storeHash2, 2⟩

def headStart : HeadRun Minimal.spec := HeadRun.start 64 storeHash0 0 96

/-- Two jobs overlap, and the later one ends first. -/
def overlappingEvents : List (HeadEvent Minimal.spec) :=
  [.finality ⟨window1, none⟩ 1, .command (.stageTransitionProof window1) 2, .command (.stageTransitionProof window2) 2,
    .proverProves 1 proofOutputs2.toBytes, .proverFails 0 "out of memory", .jobResult 2, .jobResult 1]

/-- A job is staged and fails. -/
def failedRound : List (HeadEvent Minimal.spec) :=
  [.command (.stageTransitionProof window1) 2, .proverFails 0 "out of memory", .jobResult 1]

def failedRounds (count : Nat) : List (HeadEvent Minimal.spec) := (List.replicate count failedRound).flatten

/-- Nothing is being proved. -/
@[mk_iff]
structure Idle (state : HeadRun Minimal.spec) : Prop where
  running : state.stopped = false
  proving : state.proving = []
  jobResults : state.jobResults = []
  proverJobs : state.bridge.proverJobs = []

end NoriModel.Sample

namespace NoriProof

open NoriModel NoriModel.Sample

theorem job_accounting_overlapping : ∃ final, run HeadRun.step headStart overlappingEvents = some final ∧
    final.bridge.jobId.toNat = 2 ∧ final.bridge.proverJobs = final.ledger.pending ∧ final.panicked = false ∧
    (final.sent.filterMap BridgeHeadSend.outcomeJob).Nodup := by
  have runs : (run HeadRun.step headStart overlappingEvents).isSome = true := by decide +kernel
  rcases Option.isSome_iff_exists.mp runs with ⟨final, reached⟩
  rcases job_accounting 64 storeHash0 0 96 overlappingEvents final (by decide) reached with
    ⟨_, count, jobs, _, survives, once, _⟩
  exact ⟨final, reached, count, jobs, survives, once⟩

theorem failedRound_idle {state : HeadRun Minimal.spec} (idle : Idle state) :
    ∃ next, run HeadRun.step state failedRound = some next ∧ Idle next := by
  rcases state with ⟨bridge, stopped, panicked, proving, jobResults, history⟩
  rcases bridge with ⟨currentSlot, nextSlot, jobId, proverJobs, storeHash, queueCursor⟩
  rcases idle with ⟨running, proved, arrived, jobs⟩
  simp only at running proved arrived jobs
  subst running proved arrived jobs
  simp [failedRound, run, HeadRun.step, HeadRun.onStage, HeadRun.pass, HeadRun.proverEnds, HeadRun.onJobResult,
    BridgeHead.stageTransitionProof, BridgeHead.insertJob, BridgeHead.onJobResult, BridgeHead.handleProverFailure,
    Outcome.expect, jobCapacity, idle_iff]

theorem failedRounds_idle (count : Nat) : ∃ final, run HeadRun.step headStart (failedRounds count) = some final ∧
    Idle final := by
  induction count with
  | zero => exact ⟨headStart, rfl, ⟨rfl, rfl, rfl, rfl⟩⟩
  | succ count ih =>
    rcases ih with ⟨middle, reached, idle⟩
    rcases failedRound_idle idle with ⟨final, round, idle'⟩
    refine ⟨final, ?_, idle'⟩
    rw [failedRounds, List.replicate_succ', List.flatten_concat]
    exact run_append.mpr ⟨middle, reached, round⟩

theorem failedRounds_stages (count : Nat) : (failedRounds count).countP HeadEvent.stages = count := by
  induction count with
  | zero => rfl
  | succ count ih =>
    rw [failedRounds, List.replicate_succ', List.flatten_concat, List.countP_append, ← failedRounds, ih]
    rfl

/-- Once every id was given out, the next job has an id that was used before. -/
theorem job_ids_wrap : ∃ final, run HeadRun.step headStart (failedRounds (2 ^ 64 + 1)) = some final ∧
    ¬ (final.ledger.issued.map Prod.fst).Nodup := by
  rcases failedRounds_idle (2 ^ 64 + 1) with ⟨final, reached, _⟩
  refine ⟨final, reached, ?_⟩
  intro distinct
  have count : final.ledger.issued.length = 2 ^ 64 + 1 := by
    rw [(run_history reached).2, failedRounds_stages]
    rfl
  have numbers : (final.ledger.issued.map Prod.fst).map UInt64.toNat ⊆ List.range (2 ^ 64) := by
    intro number member
    rcases List.mem_map.mp member with ⟨id, _, rfl⟩
    exact List.mem_range.mpr id.toNat_lt
  have different : ((final.ledger.issued.map Prod.fst).map UInt64.toNat).Nodup :=
    distinct.map fun _ _ same => UInt64.toNat_inj.mp same
  have bounded := (List.subperm_of_subset different numbers).length_le
  rw [List.length_map, List.length_map, count, List.length_range] at bounded
  omega

end NoriProof
