import NoriBridgeHead.BridgeHead.JobAccounting
import NoriBridgeHead.BridgeHead.Provenance

open Foundation Foundation.Outcome Foundation.Transition

namespace NoriModel

variable {S : ConsensusSpec}

def createdNotice (bridge : BridgeHead S) (window : ProofInputsWithWindow S) : BridgeHeadJobCreated where
  jobId := bridge.jobId + 1
  inputSlot := bridge.currentSlot
  inputBlockNumber := window.inputBlockNumber
  inputStoreHash := bridge.storeHash
  inputQueueCursor := bridge.queueCursor
  expectedOutputSlot := bridge.nextSlot
  expectedOutputBlockNumber := window.expectedOutputBlockNumber
  expectedOutputQueueCursor := BridgeHead.expectedOutputQueueCursor window

def BridgeHeadJobSucceeded.proofOutputs (succeeded : BridgeHeadJobSucceeded) : ProofOutputs where
  inputSlot := succeeded.inputSlot
  inputStoreHash := succeeded.inputStoreHash
  outputSlot := succeeded.outputSlot
  outputStoreHash := succeeded.outputStoreHash
  executionStateRoot := succeeded.executionStateRoot
  verifiedRequestsRoot := succeeded.verifiedRequestsRoot
  nextSyncCommitteeHash := succeeded.nextSyncCommitteeHash
  proofRequestQueueAddress := succeeded.proofRequestQueueAddress
  inputQueueCursor := succeeded.inputQueueCursor
  outputQueueCursor := succeeded.outputQueueCursor
  outputBlockNumber := succeeded.outputBlockNumber

namespace BridgeHeadJobCreated

structure ReportsWindow (created : BridgeHeadJobCreated) (window : ProofInputsWithWindow S) : Prop where
  inputSlot : created.inputSlot = window.inputSlot
  inputBlockNumber : created.inputBlockNumber = window.inputBlockNumber
  inputStoreHash : created.inputStoreHash = window.proofInputs.storeHash
  inputQueueCursor : created.inputQueueCursor = window.proofInputs.queueStorage.inputCursor
  expectedOutputSlot : created.expectedOutputSlot = window.expectedOutputSlot
  expectedOutputBlockNumber : created.expectedOutputBlockNumber = window.expectedOutputBlockNumber
  expectedOutputQueueCursor : created.expectedOutputQueueCursor = window.expectedOutputQueueCursor

structure AgreesWithFailed (created : BridgeHeadJobCreated) (failed : BridgeHeadJobFailed) : Prop where
  inputSlot : created.inputSlot = failed.inputSlot
  inputBlockNumber : created.inputBlockNumber = failed.inputBlockNumber
  inputStoreHash : created.inputStoreHash = failed.inputStoreHash
  inputQueueCursor : created.inputQueueCursor = failed.inputQueueCursor
  expectedOutputSlot : created.expectedOutputSlot = failed.expectedOutputSlot
  expectedOutputBlockNumber : created.expectedOutputBlockNumber = failed.expectedOutputBlockNumber
  expectedOutputQueueCursor : created.expectedOutputQueueCursor = failed.expectedOutputQueueCursor

structure AgreesWithSucceeded (created : BridgeHeadJobCreated) (succeeded : BridgeHeadJobSucceeded) : Prop where
  inputSlot : created.inputSlot = succeeded.inputSlot
  inputBlockNumber : created.inputBlockNumber = succeeded.inputBlockNumber
  inputStoreHash : created.inputStoreHash = succeeded.inputStoreHash
  inputQueueCursor : created.inputQueueCursor = succeeded.inputQueueCursor
  outputSlot : created.expectedOutputSlot = succeeded.outputSlot
  outputBlockNumber : created.expectedOutputBlockNumber = succeeded.outputBlockNumber
  outputQueueCursor : created.expectedOutputQueueCursor = succeeded.outputQueueCursor

end BridgeHeadJobCreated

/-- Whatever was sent about a job tells of the window that was staged under its id. -/
structure OneStory (C : Crypto) (state : HeadRun S) (created : BridgeHeadJobCreated)
    (window : ProofInputsWithWindow S) : Prop where
  staged : (created.jobId, window) ∈ state.ledger.issued
  reports : created.ReportsWindow window
  failed : ∀ failed, BridgeHead.notice (.jobFailed failed) ∈ state.sent → failed.jobId = created.jobId →
    created.AgreesWithFailed failed
  succeeded : ∀ succeeded, BridgeHead.notice (.jobSucceeded succeeded) ∈ state.sent →
    succeeded.jobId = created.jobId → consensusMptProgram C window.proofInputs = .ok succeeded.proofOutputs →
    created.AgreesWithSucceeded succeeded

def HeadRun.TellsOneStory (C : Crypto) (state : HeadRun S) : Prop :=
  ∀ created, BridgeHead.notice (.jobCreated created) ∈ state.sent → ∃ window, OneStory C state created window

/-- A window that was prepared from the slot at which the store of its inputs stands. -/
structure PreparedAtStore (C : Crypto) (window : ProofInputsWithWindow S) : Prop where
  prepared : Prepared C window
  finalized : S.beaconSlot window.proofInputs.store.finalizedHeader = window.inputSlot

/-- A proof that the loop handles is of a window that was prepared. -/
def ProvesPrepared (C : Crypto) (state : HeadRun S) (event : HeadEvent S) : Prop :=
  ∀ accepted jobId publicValues jobResults window, event = .jobResult accepted →
    state.jobResults = .proved jobId publicValues :: jobResults →
    (jobId, window) ∈ state.bridge.proverJobs → PreparedAtStore C window

namespace HeadEvent

def position? : HeadEvent S → Option FinalityChangeDetectorUpdate
  | .command (.advance message) _ => some ⟨message.slot, message.storeHash, message.queueCursor⟩
  | .command (.stageTransitionProof _) _ | .finality _ _ | .jobResult _ | .channelClosed | .proverProves _ _
  | .proverFails _ _ => none

def finalizedSlot? : HeadEvent S → Option UInt64
  | .finality event _ => some event.currentWindow.expectedOutputSlot
  | .command _ _ | .jobResult _ | .channelClosed | .proverProves _ _ | .proverFails _ _ => none

end HeadEvent

/-- After these events a window is staged where the last of the advances led and up to where the last of the finality
    events led: none of either came between the window and its staging. -/
structure StagedInOrder (start : FinalityChangeDetectorUpdate) (latestBeaconSlot : UInt64) (before : List (HeadEvent S))
    (window : ProofInputsWithWindow S) : Prop where
  advanced : (before.filterMap HeadEvent.position?).getLastD start = window.start
  finalized : (before.filterMap HeadEvent.finalizedSlot?).getLastD latestBeaconSlot = window.expectedOutputSlot
  cursor : window.expectedOutputQueueCursor = BridgeHead.expectedOutputQueueCursor window

end NoriModel

namespace NoriProof

open NoriModel

variable {C : Crypto} {S : ConsensusSpec} {state next : HeadRun S}

theorem created_reports_iff {bridge : BridgeHead S} {window : ProofInputsWithWindow S} :
    (createdNotice bridge window).ReportsWindow window ↔ bridge.position = window.start ∧
      bridge.nextSlot = window.expectedOutputSlot ∧
      window.expectedOutputQueueCursor = BridgeHead.expectedOutputQueueCursor window := by
  rw [BridgeHead.position, ProofInputsWithWindow.start, FinalityChangeDetectorUpdate.mk.injEq]
  constructor
  · intro reports
    exact ⟨⟨reports.inputSlot, reports.inputStoreHash, reports.inputQueueCursor⟩, reports.expectedOutputSlot,
      reports.expectedOutputQueueCursor.symm⟩
  · intro aligned
    rcases aligned with ⟨⟨slot, storeHash, queueCursor⟩, finalized, cursor⟩
    exact ⟨slot, rfl, storeHash, queueCursor, finalized, rfl, cursor.symm⟩

section Head

theorem onJobResult_bridge {bridge bridge' : BridgeHead S} {result : ProverJobResult} {sends : List (BridgeHeadSend S)}
    (handled : bridge.onJobResult result = .ok (bridge', sends)) : bridge' = bridge.removeJob result.jobId := by
  cases result with
  | failed jobId error =>
    simp only [BridgeHead.onJobResult, BridgeHead.handleProverFailure, bind_ok_iff, pure_ok_iff,
      Prod.mk.injEq] at handled
    rcases handled with ⟨_, _, rfl, _⟩
    rfl
  | proved jobId publicValues =>
    simp only [BridgeHead.onJobResult, BridgeHead.handleProverSuccess, bind_ok_iff, pure_ok_iff,
      Prod.mk.injEq] at handled
    rcases handled with ⟨_, _, _, _, rfl, _⟩
    rfl

theorem headStep_moves {event : HeadEvent S} (stepped : state.step event = some next)
    (continues : next.stopped = false) :
    next.bridge.position = event.position?.getD state.bridge.position ∧
      next.bridge.nextSlot = event.finalizedSlot?.getD state.bridge.nextSlot := by
  unfold HeadRun.step at stepped
  split at stepped
  · cases stepped
  · cases event with
    | finality event accepted =>
      cases stepped
      have went : ¬ accepted < 1 := of_decide_eq_false continues
      have some : accepted ≠ 0 := by omega
      simp only [HeadRun.onFinality, HeadRun.pass, some, ↓reduceIte]
      exact ⟨rfl, rfl⟩
    | command command accepted =>
      cases command with
      | stageTransitionProof window =>
        cases stepped
        exact ⟨rfl, rfl⟩
      | advance message =>
        cases stepped
        have went : ¬ accepted < 2 := of_decide_eq_false continues
        have some : accepted ≠ 0 := by omega
        simp only [HeadRun.onAdvance, HeadRun.pass, some, ↓reduceIte]
        exact ⟨rfl, rfl⟩
    | jobResult accepted =>
      simp only [HeadRun.onJobResult] at stepped
      split at stepped
      · cases stepped
      · split at stepped
        · rename_i handled
          cases stepped
          rw [onJobResult_bridge handled]
          exact ⟨rfl, rfl⟩
        · cases stepped
          cases continues
        · cases stepped
          cases continues
    | channelClosed =>
      cases stepped
      cases continues
    | proverProves position publicValues =>
      rcases proverEnds_next stepped with ⟨job, _, rfl⟩
      exact ⟨rfl, rfl⟩
    | proverFails position error =>
      rcases proverEnds_next stepped with ⟨job, _, rfl⟩
      exact ⟨rfl, rfl⟩

theorem lastD_filterMap_cons {α β : Type} (f : α → Option β) (first : α) (rest : List α) (default : β) :
    ((first :: rest).filterMap f).getLastD default = (rest.filterMap f).getLastD ((f first).getD default) := by
  rw [List.filterMap_cons]
  cases f first with
  | none => rfl
  | some value => exact List.getLastD_cons

theorem run_continues {start : HeadRun S} {events : List (HeadEvent S)}
    (reached : run HeadRun.step start events = some state) (continues : state.stopped = false) :
    start.stopped = false := by
  cases events with
  | nil =>
    cases reached
    exact continues
  | cons event events =>
    rcases run_cons_iff.mp reached with ⟨next, stepped, _⟩
    exact (headStep_cases stepped).1

theorem run_moves {start : HeadRun S} {events : List (HeadEvent S)}
    (reached : run HeadRun.step start events = some state) (continues : state.stopped = false) :
    state.bridge.position = (events.filterMap HeadEvent.position?).getLastD start.bridge.position ∧
      state.bridge.nextSlot = (events.filterMap HeadEvent.finalizedSlot?).getLastD start.bridge.nextSlot := by
  induction events generalizing start with
  | nil =>
    cases reached
    exact ⟨rfl, rfl⟩
  | cons event events ih =>
    rcases run_cons_iff.mp reached with ⟨next, stepped, rest⟩
    rcases headStep_moves stepped (run_continues rest continues) with ⟨moved, finalized⟩
    rcases ih rest with ⟨position, nextSlot⟩
    rw [position, nextSlot, moved, finalized, lastD_filterMap_cons, lastD_filterMap_cons]
    exact ⟨rfl, rfl⟩

end Head

section Outcomes

variable (kept : state.Accounted)
include kept

theorem sent_failed {failed : BridgeHeadJobFailed} (member : BridgeHead.notice (.jobFailed failed) ∈ state.sent) :
    ∃ (window : ProofInputsWithWindow S) (error : String) (remaining : Nat),
      (failed.jobId, window) ∈ state.ledger.issued ∧ failed = failedNotice failed.jobId window error remaining := by
  rcases List.mem_flatMap.mp member with ⟨pass, inside, sent⟩
  rcases List.append_of_mem inside with ⟨before, after, split⟩
  have accounts := kept.passes before pass after split
  cases resolved : pass.resolved with
  | none =>
    have quiet := accounts.quiet resolved _ sent
    cases quiet
  | some jobId =>
    rcases accounts.resolves jobId resolved with ⟨result, window, sends, rfl, created, published, partly, _⟩
    cases published with
    | succeeded jobId publicValues outputs decoded =>
      rcases List.mem_cons.mp (partly.subset sent) with same | later
      · cases same
      · cases List.mem_singleton.mp later
    | undecodable jobId publicValues reason refused => cases partly.subset sent
    | failed jobId error remaining =>
      have same := List.mem_singleton.mp (partly.subset sent)
      simp only [BridgeHead.notice, BridgeHeadSend.event.injEq, BridgeHeadEvent.noticeMessage.injEq,
        TransitionNotice.jobFailed.injEq] at same
      refine ⟨window, error, remaining, ?_, by rw [same]; rfl⟩
      show (failed.jobId, window) ∈ state.history.filterMap HeadPass.created
      rw [split, List.filterMap_append, same]
      exact List.mem_append_left _ created

end Outcomes

section Created

variable {pass : HeadPass S}

theorem issued_kept (later : next.history = state.history ++ [pass]) :
    ∀ job ∈ state.ledger.issued, job ∈ next.ledger.issued := by
  intro job issued
  show job ∈ next.history.filterMap HeadPass.created
  rw [later, List.filterMap_append]
  exact List.mem_append_left _ issued

theorem issued_new {job : UInt64 × ProofInputsWithWindow S} (later : next.history = state.history ++ [pass])
    (made : pass.created = some job) : job ∈ next.ledger.issued := by
  have inside : pass ∈ next.history := by
    rw [later]
    exact List.mem_append_right _ (List.mem_singleton_self _)
  exact List.mem_filterMap.mpr ⟨pass, inside, made⟩

theorem sent_later {send : BridgeHeadSend S} (later : next.history = state.history ++ [pass])
    (member : send ∈ next.sent) : send ∈ state.sent ∨ send ∈ pass.sends := by
  rw [HeadRun.sent, later, List.flatMap_append, List.flatMap_singleton] at member
  exact List.mem_append.mp member

theorem publishes_not_created {result : ProverJobResult} {window : ProofInputsWithWindow S}
    {sends : List (BridgeHeadSend S)} (published : Publishes window result sends) (created : BridgeHeadJobCreated) :
    BridgeHead.notice (.jobCreated created) ∉ sends := by
  cases published with
  | succeeded jobId publicValues outputs decoded => simp [BridgeHead.notice]
  | undecodable jobId publicValues reason refused => simp
  | failed jobId error remaining => simp [BridgeHead.notice]

theorem publishes_succeeded {result : ProverJobResult} {window : ProofInputsWithWindow S}
    {sends : List (BridgeHeadSend S)} (published : Publishes window result sends) {succeeded : BridgeHeadJobSucceeded}
    (member : BridgeHead.notice (.jobSucceeded succeeded) ∈ sends) : ∃ publicValues outputs,
      result = .proved succeeded.jobId publicValues ∧ succeeded = succeededNotice succeeded.jobId window outputs := by
  cases published with
  | succeeded jobId publicValues outputs decoded =>
    rcases List.mem_cons.mp member with same | later
    · simp only [BridgeHead.notice, BridgeHeadSend.event.injEq, BridgeHeadEvent.noticeMessage.injEq,
        TransitionNotice.jobSucceeded.injEq] at same
      rw [same]
      exact ⟨publicValues, outputs, rfl, rfl⟩
    · cases List.mem_singleton.mp later
  | undecodable jobId publicValues reason refused => cases member
  | failed jobId error remaining => cases List.mem_singleton.mp member

/-- What a step adds: a job, with the notice of its creation, where it stages one, and otherwise no such notice. -/
theorem step_created {event : HeadEvent S} (kept : state.Accounted) (stepped : state.step event = some next) :
    (∀ job ∈ state.ledger.issued, job ∈ next.ledger.issued) ∧
    ∀ created, BridgeHead.notice (.jobCreated created) ∈ next.sent →
      BridgeHead.notice (.jobCreated created) ∈ state.sent ∨
        ∃ window accepted, event = .command (.stageTransitionProof window) accepted ∧ 2 ≤ accepted ∧
          created = createdNotice state.bridge window ∧ (created.jobId, window) ∈ next.ledger.issued := by
  rcases headStep_cases stepped with ⟨running, ⟨bridge, sends, accepted, _, _, _, quiet, rfl⟩ |
    ⟨window, accepted, rfl, rfl⟩ | ⟨accepted, rfl, handled⟩ | ⟨rfl, rfl⟩ | ⟨position, result, _, _, ended⟩⟩
  · refine ⟨issued_kept rfl, ?_⟩
    intro created member
    rcases sent_later rfl member with earlier | now
    · exact .inl earlier
    · exact absurd rfl ((quiet _ (List.mem_of_mem_take now)).2 created)
  · refine ⟨issued_kept rfl, ?_⟩
    intro created member
    rcases sent_later rfl member with earlier | now
    · exact .inl earlier
    · right
      -- of the two sends of a staging only the second is a notice
      match accepted with
      | 0 => cases now
      | 1 => cases List.mem_singleton.mp now
      | accepted + 2 =>
        rcases List.mem_cons.mp (List.mem_of_mem_take now) with update | later
        · cases update
        · cases List.mem_singleton.mp later
          exact ⟨window, accepted + 2, rfl, by omega, rfl, issued_new rfl rfl⟩
  · rcases jobResult_next kept running handled with
      ⟨result, jobResults, window, sends, sent, stopped, _, _, published, partly, _, rfl⟩
    refine ⟨issued_kept rfl, ?_⟩
    intro created member
    rcases sent_later rfl member with earlier | now
    · exact .inl earlier
    · exact absurd (partly.subset now) (publishes_not_created published created)
  · exact ⟨fun _ issued => issued, fun _ member => .inl member⟩
  · rcases proverEnds_next ended with ⟨job, _, rfl⟩
    exact ⟨fun _ issued => issued, fun _ member => .inl member⟩

theorem stage_created {window : ProofInputsWithWindow S} {accepted : Nat} (both : 2 ≤ accepted)
    (stepped : state.step (.command (.stageTransitionProof window) accepted) = some next) :
    BridgeHead.notice (.jobCreated (createdNotice state.bridge window)) ∈ next.sent ∧
      ((createdNotice state.bridge window).jobId, window) ∈ next.ledger.issued := by
  unfold HeadRun.step at stepped
  split at stepped
  · cases stepped
  · cases stepped
    refine ⟨?_, issued_new rfl rfl⟩
    apply List.mem_flatMap.mpr
    refine ⟨_, List.mem_append_right _ (List.mem_singleton_self _), ?_⟩
    rw [List.take_of_length_le both]
    exact List.mem_cons_of_mem _ (List.mem_singleton_self _)

theorem step_succeeded {event : HeadEvent S} (kept : state.Accounted) (stepped : state.step event = some next)
    {succeeded : BridgeHeadJobSucceeded} (member : BridgeHead.notice (.jobSucceeded succeeded) ∈ next.sent) :
    BridgeHead.notice (.jobSucceeded succeeded) ∈ state.sent ∨
      ∃ accepted publicValues jobResults window outputs, event = .jobResult accepted ∧
        state.jobResults = .proved succeeded.jobId publicValues :: jobResults ∧
        (succeeded.jobId, window) ∈ state.bridge.proverJobs ∧
        succeeded = succeededNotice succeeded.jobId window outputs := by
  rcases headStep_cases stepped with ⟨running, ⟨bridge, sends, accepted, _, _, _, quiet, rfl⟩ |
    ⟨window, accepted, rfl, rfl⟩ | ⟨accepted, rfl, handled⟩ | ⟨rfl, rfl⟩ | ⟨position, result, _, _, ended⟩⟩
  · rcases sent_later rfl member with earlier | now
    · exact .inl earlier
    · have silent := (quiet _ (List.mem_of_mem_take now)).1
      cases silent
  · rcases sent_later rfl member with earlier | now
    · exact .inl earlier
    · rcases List.mem_cons.mp (List.mem_of_mem_take now) with update | later
      · cases update
      · cases List.mem_singleton.mp later
  · rcases jobResult_next kept running handled with
      ⟨result, jobResults, window, sends, sent, stopped, arrived, job, published, partly, _, rfl⟩
    rcases sent_later rfl member with earlier | now
    · exact .inl earlier
    · rcases publishes_succeeded published (partly.subset now) with ⟨publicValues, outputs, rfl, same⟩
      exact .inr ⟨accepted, publicValues, jobResults, window, outputs, rfl, arrived, job, same⟩
  · exact .inl member
  · rcases proverEnds_next ended with ⟨job, _, rfl⟩
    exact .inl member

end Created

/-- Every notice of a creation reports the window staged under its id, and every notice of a success is of a prepared
    window. -/
structure Reported (C : Crypto) (state : HeadRun S) : Prop where
  created : ∀ created, BridgeHead.notice (.jobCreated created) ∈ state.sent →
    ∃ window, (created.jobId, window) ∈ state.ledger.issued ∧ created.ReportsWindow window
  succeeded : ∀ succeeded, BridgeHead.notice (.jobSucceeded succeeded) ∈ state.sent →
    ∃ window outputs, (succeeded.jobId, window) ∈ state.ledger.issued ∧
      succeeded = succeededNotice succeeded.jobId window outputs ∧ PreparedAtStore C window

def ReportsStaged (state : HeadRun S) (event : HeadEvent S) : Prop :=
  ∀ window accepted, event = .command (.stageTransitionProof window) accepted → 2 ≤ accepted →
    (createdNotice state.bridge window).ReportsWindow window

theorem reported_step {event : HeadEvent S} (kept : state.Accounted) (reported : Reported C state)
    (staged : ReportsStaged state event) (proved : ProvesPrepared C state event)
    (stepped : state.step event = some next) : Reported C next := by
  rcases step_created kept stepped with ⟨grows, adds⟩
  constructor
  · intro created member
    rcases adds created member with earlier | ⟨window, accepted, same, both, rfl, issued⟩
    · rcases reported.created created earlier with ⟨window, issued, reports⟩
      exact ⟨window, grows _ issued, reports⟩
    · exact ⟨window, issued, staged window accepted same both⟩
  · intro succeeded member
    rcases step_succeeded kept stepped member with
      earlier | ⟨accepted, publicValues, jobResults, window, outputs, same, arrived, job, notice⟩
    · rcases reported.succeeded succeeded earlier with ⟨window, outputs, issued, notice, prepared⟩
      exact ⟨window, outputs, grows _ issued, notice, prepared⟩
    · have issued : (succeeded.jobId, window) ∈ state.ledger.issued := by
        rw [kept.jobs] at job
        exact (Ledger.pending_issued job).1
      exact ⟨window, outputs, grows _ issued, notice,
        proved accepted succeeded.jobId publicValues jobResults window same arrived job⟩

section Runs

variable {slot : UInt64} {storeHash : B256} {queueCursor latestBeaconSlot : UInt64} {events : List (HeadEvent S)}

theorem run_reported (few : events.countP HeadEvent.stages < 2 ^ 64)
    (staged : Along HeadRun.step ReportsStaged (HeadRun.start slot storeHash queueCursor latestBeaconSlot) events)
    (proved : Along HeadRun.step (ProvesPrepared C) (HeadRun.start slot storeHash queueCursor latestBeaconSlot) events)
    (reached : run HeadRun.step (HeadRun.start slot storeHash queueCursor latestBeaconSlot) events = some state) :
    Reported C state := by
  have preserved : ∀ (state : HeadRun S) (event : HeadEvent S) (next : HeadRun S),
      (state.ledger.issued.length < 2 ^ 64 → state.Accounted ∧ Reported C state) →
      ReportsStaged state event ∧ ProvesPrepared C state event → state.step event = some next →
      next.ledger.issued.length < 2 ^ 64 → next.Accounted ∧ Reported C next := by
    intro state event next kept conditions stepped few
    have grows := (headStep_history stepped).2
    rcases kept (by omega) with ⟨accounted, reported⟩
    exact ⟨headAccounted_step accounted few stepped,
      reported_step accounted reported conditions.1 conditions.2 stepped⟩
  have held := run_invariant preserved ?_ (along_and staged proved) reached
  · have created := (run_history reached).2
    have none : (HeadRun.start (S := S) slot storeHash queueCursor latestBeaconSlot).ledger.issued.length = 0 := rfl
    exact (held (by omega)).2
  · intro _
    refine ⟨headAccounted_start slot storeHash queueCursor latestBeaconSlot, ?_, ?_⟩
    · intro created member
      cases List.mem_singleton.mp member
    · intro succeeded member
      cases List.mem_singleton.mp member

/-- The notice of a staging reports its window if and only if the events before it were in order. -/
theorem staged_reports_iff {before : List (HeadEvent S)} {window : ProofInputsWithWindow S} {accepted : Nat}
    (reached : run HeadRun.step (HeadRun.start slot storeHash queueCursor latestBeaconSlot) before = some state)
    (stepped : state.step (.command (.stageTransitionProof window) accepted) = some next) :
    (createdNotice state.bridge window).ReportsWindow window ↔
      StagedInOrder ⟨slot, storeHash, queueCursor⟩ latestBeaconSlot before window := by
  rcases run_moves reached (headStep_cases stepped).1 with ⟨position, nextSlot⟩
  rw [created_reports_iff, position, nextSlot]
  constructor
  · intro aligned
    exact ⟨aligned.1, aligned.2.1, aligned.2.2⟩
  · intro ordered
    exact ⟨ordered.advanced, ordered.finalized, ordered.cursor⟩

end Runs

/-- The outputs of the program are those that a window foresees which was prepared from its store. -/
theorem PreparedAtStore.foresees {window : ProofInputsWithWindow S} {outputs : ProofOutputs}
    (prepared : PreparedAtStore C window) (accepted : consensusMptProgram C window.proofInputs = .ok outputs) :
    outputs.inputSlot = window.inputSlot ∧
      Predicts window window.inputSlot window.proofInputs.storeHash window.proofInputs.queueStorage.inputCursor
        outputs := by
  rcases Prepared.predicts prepared.prepared with ⟨_, again, predicts, _⟩
  cases accepted.symm.trans again
  rcases (consensusMptProgram_ok_iff _ _).mp accepted with ⟨consensus, cursor, root, programmed, _, _, rfl⟩
  exact ⟨(consensusProgram_input programmed).2.1.trans prepared.finalized, predicts⟩

theorem reported_tells (kept : state.Accounted) (apart : Ledger.Apart UInt64.ofNat state.ledger.issued.length)
    (reported : Reported C state) : state.TellsOneStory C := by
  intro created member
  rcases reported.created created member with ⟨window, issued, reports⟩
  refine ⟨window, issued, reports, ?_, ?_⟩
  · intro failed sent sameJob
    rcases sent_failed kept sent with ⟨other, error, remaining, otherIssued, same⟩
    rw [sameJob] at otherIssued
    cases kept.valid.unique apart otherIssued issued
    rw [same]
    exact ⟨reports.inputSlot, reports.inputBlockNumber, reports.inputStoreHash, reports.inputQueueCursor,
      reports.expectedOutputSlot, reports.expectedOutputBlockNumber, reports.expectedOutputQueueCursor⟩
  · intro succeeded sent sameJob accepted
    rcases reported.succeeded succeeded sent with ⟨other, _, otherIssued, same, prepared⟩
    rw [sameJob] at otherIssued
    cases kept.valid.unique apart otherIssued issued
    have block : succeeded.inputBlockNumber = window.inputBlockNumber := congrArg (·.inputBlockNumber) same
    rcases PreparedAtStore.foresees prepared accepted with ⟨inputSlot, predicts⟩
    exact ⟨reports.inputSlot.trans inputSlot.symm, reports.inputBlockNumber.trans block.symm,
      reports.inputStoreHash.trans predicts.inputStoreHash.symm,
      reports.inputQueueCursor.trans predicts.inputQueueCursor.symm,
      reports.expectedOutputSlot.trans predicts.outputSlot.symm,
      reports.expectedOutputBlockNumber.trans predicts.outputBlockNumber.symm,
      reports.expectedOutputQueueCursor.trans predicts.outputQueueCursor.symm⟩

/-- Where only prepared windows are proved, the notices of every job tell one story if and only if no advance and no
    finality event overtakes a window on its way to being staged. -/
theorem job_notices_agree (C : Crypto) {S : ConsensusSpec} (slot : UInt64) (storeHash : B256)
    (queueCursor latestBeaconSlot : UInt64) (events : List (HeadEvent S)) (final : HeadRun S)
    (few : events.countP HeadEvent.stages < 2 ^ 64)
    (proved : Along HeadRun.step (ProvesPrepared C) (HeadRun.start slot storeHash queueCursor latestBeaconSlot) events)
    (reached : run HeadRun.step (HeadRun.start slot storeHash queueCursor latestBeaconSlot) events = some final) :
    final.TellsOneStory C ↔ ∀ before window accepted after,
      events = before ++ .command (.stageTransitionProof window) accepted :: after → 2 ≤ accepted →
        StagedInOrder ⟨slot, storeHash, queueCursor⟩ latestBeaconSlot before window := by
  have kept := run_accounted few reached
  have apart : Ledger.Apart UInt64.ofNat final.ledger.issued.length := by
    apply ids_apart
    rw [(run_history reached).2]
    exact (Nat.zero_add _).trans_lt few
  constructor
  · intro story before window accepted after split both
    subst split
    rcases run_append.mp reached with ⟨state, earlier, rest⟩
    rcases run_cons_iff.mp rest with ⟨next, stepped, later⟩
    rcases stage_created both stepped with ⟨sent, issued⟩
    rcases (run_history later).1 with ⟨passes, grown⟩
    have sent' : BridgeHead.notice (.jobCreated (createdNotice state.bridge window)) ∈ final.sent := by
      rw [HeadRun.sent, ← grown, List.flatMap_append]
      exact List.mem_append_left _ sent
    have issued' : ((createdNotice state.bridge window).jobId, window) ∈ final.ledger.issued := by
      rw [HeadRun.ledger, ← grown, List.filterMap_append]
      exact List.mem_append_left _ issued
    rcases story _ sent' with ⟨other, one⟩
    cases kept.valid.unique apart one.staged issued'
    exact (staged_reports_iff earlier stepped).mp one.reports
  · intro ordered
    have staged : Along HeadRun.step ReportsStaged (HeadRun.start slot storeHash queueCursor latestBeaconSlot)
        events := by
      apply along_iff.mpr
      rintro before event after state split earlier window accepted rfl both
      rw [split] at reached
      rcases run_append.mp reached with ⟨middle, earlier', rest⟩
      cases earlier.symm.trans earlier'
      rcases run_cons_iff.mp rest with ⟨next, stepped, _⟩
      exact (staged_reports_iff earlier stepped).mpr (ordered before window accepted after split both)
    exact reported_tells kept apart (run_reported few staged proved reached)

section Staged

variable {slot : UInt64} {storeHash : B256} {queueCursor latestBeaconSlot : UInt64} {events : List (HeadEvent S)}

theorem headStep_jobs {event : HeadEvent S} (stepped : state.step event = some next)
    {job : UInt64 × ProofInputsWithWindow S} (member : job ∈ next.bridge.proverJobs) :
    job ∈ state.bridge.proverJobs ∨ ∃ accepted, event = .command (.stageTransitionProof job.2) accepted := by
  rcases headStep_cases stepped with ⟨_, ⟨bridge, sends, accepted, _, _, same, _, rfl⟩ | ⟨window, accepted, rfl, rfl⟩ |
    ⟨accepted, rfl, handled⟩ | ⟨rfl, rfl⟩ | ⟨position, result, _, _, ended⟩⟩
  · exact .inl (same ▸ member)
  · rcases mem_insertJob member with old | rfl
    · exact .inl old
    · exact .inr ⟨accepted, rfl⟩
  · unfold HeadRun.onJobResult at handled
    split at handled
    · cases handled
    · split at handled
      · rename_i handled'
        cases handled
        rw [onJobResult_bridge handled'] at member
        exact .inl (List.mem_filter.mp member).1
      · cases handled
        exact .inl (List.mem_filter.mp member).1
      · cases handled
        exact .inl member
  · exact .inl member
  · rcases proverEnds_next ended with ⟨job, _, rfl⟩
    exact .inl member

theorem proves_of_staged (prepared : ∀ window accepted,
      .command (.stageTransitionProof window) accepted ∈ events → PreparedAtStore C window) :
    Along HeadRun.step (ProvesPrepared C) (HeadRun.start slot storeHash queueCursor latestBeaconSlot) events := by
  have jobs : ∀ state events', events' ⊆ events →
      run HeadRun.step (HeadRun.start slot storeHash queueCursor latestBeaconSlot) events' = some state →
      ∀ job ∈ state.bridge.proverJobs, PreparedAtStore C job.2 := by
    intro state events' staged reached
    have within : Along HeadRun.step (fun _ event => event ∈ events)
        (HeadRun.start slot storeHash queueCursor latestBeaconSlot) events' := along_of_forall staged
    apply run_invariant ?_ ?_ within reached
    · intro state event next kept member stepped job running
      rcases headStep_jobs stepped running with old | ⟨accepted, rfl⟩
      · exact kept job old
      · exact prepared job.2 accepted member
    · intro job member
      cases member
  apply along_iff.mpr
  intro before event after state split reached accepted jobId publicValues jobResults window _ _ job
  exact jobs state before (split ▸ List.subset_append_left _ _) reached (jobId, window) job

end Staged

end NoriProof

namespace NoriModel.Sample

def syncedHead : HeadRun Minimal.spec := HeadRun.start 64 syncedStoreHash0 0 96

def prepare (proxy : ConsensusHttpProxy Minimal.spec) (slot : UInt64) (storeHash : B256) (queueCursor : UInt64) :
    Option (ProofInputsWithWindow Minimal.spec) :=
  (preparing known.crypto proxy slot storeHash queueCursor).toOption

def firstPrepared := prepare (proxy store0 header1 world1) 64 syncedStoreHash0 0
def laterPrepared := prepare (proxy store0 header1Later world1) 64 syncedStoreHash0 0
def secondPrepared := prepare (proxy bootstrapped1 header2 world2) 96 storeHash1 1

def orderedEvents (first second : ProofInputsWithWindow Minimal.spec) : List (HeadEvent Minimal.spec) :=
  [.finality ⟨first, none⟩ 1, .command (.stageTransitionProof first) 2,
    .proverProves 0 NoriProof.firstOutputs.toBytes, .jobResult 2,
    .command (.advance ⟨96, storeHash1, 1⟩) 2, .finality ⟨second, none⟩ 1, .command (.stageTransitionProof second) 2]

/-- The observer stages the first window again after its job failed, and a later finality overtakes the command. -/
def overtakenEvents (window laterWindow : ProofInputsWithWindow Minimal.spec) : List (HeadEvent Minimal.spec) :=
  [.finality ⟨window, none⟩ 1, .command (.stageTransitionProof window) 2, .proverFails 0 "out of memory", .jobResult 1,
    .finality ⟨laterWindow, none⟩ 1, .command (.stageTransitionProof window) 2, .proverFails 0 "out of memory",
    .jobResult 1]

end NoriModel.Sample

namespace NoriProof

open NoriModel NoriModel.Sample

theorem prepare_prepared {proxy : ConsensusHttpProxy Minimal.spec} {slot : UInt64} {storeHash : B256}
    {queueCursor : UInt64} {window : ProofInputsWithWindow Minimal.spec}
    (returned : prepare proxy slot storeHash queueCursor = some window) : Prepared known.crypto window := by
  refine ⟨proxy, slot, storeHash, queueCursor, ?_⟩
  cases outcome : preparing known.crypto proxy slot storeHash queueCursor with
  | error failure =>
    rw [prepare, outcome] at returned
    cases returned
  | ok prepared =>
    rw [prepare, outcome] at returned
    rw [Option.some.inj returned]

theorem job_notices_agree_ordered : ∃ first second final, firstPrepared = some first ∧ secondPrepared = some second ∧
    run HeadRun.step syncedHead (orderedEvents first second) = some final ∧ final.TellsOneStory known.crypto := by
  have runs : firstPrepared.any (fun first => secondPrepared.any fun second =>
      decide (first.start = ⟨64, syncedStoreHash0, 0⟩ ∧ second.start = ⟨96, storeHash1, 1⟩ ∧
        first.expectedOutputSlot = 96 ∧ first.expectedOutputQueueCursor = BridgeHead.expectedOutputQueueCursor first ∧
        second.expectedOutputQueueCursor = BridgeHead.expectedOutputQueueCursor second ∧
        Minimal.spec.beaconSlot first.proofInputs.store.finalizedHeader = first.inputSlot ∧
        Minimal.spec.beaconSlot second.proofInputs.store.finalizedHeader = second.inputSlot) &&
      (run HeadRun.step syncedHead (orderedEvents first second)).isSome) = true := by decide +kernel
  rcases (Option.any_eq_true _ _).mp runs with ⟨first, prepared, rest⟩
  rcases (Option.any_eq_true _ _).mp rest with ⟨second, prepared', facts⟩
  simp only [Bool.and_eq_true, decide_eq_true_eq] at facts
  rcases facts with ⟨⟨start, start', slot, cursor, cursor', finalized, finalized'⟩, ran⟩
  rcases Option.isSome_iff_exists.mp ran with ⟨final, reached⟩
  refine ⟨first, second, final, prepared, prepared', reached, ?_⟩
  have count : (orderedEvents first second).countP HeadEvent.stages = 2 := rfl
  have proved : Along HeadRun.step (ProvesPrepared known.crypto) syncedHead (orderedEvents first second) := by
    apply proves_of_staged
    intro window accepted member
    simp only [orderedEvents, List.mem_cons, reduceCtorEq, HeadEvent.command.injEq, Command.stageTransitionProof.injEq,
      List.not_mem_nil, false_or, or_false, false_and] at member
    rcases member with ⟨rfl, _⟩ | ⟨rfl, _⟩
    · exact ⟨prepare_prepared prepared, finalized⟩
    · exact ⟨prepare_prepared prepared', finalized'⟩
  apply (job_notices_agree known.crypto 64 syncedStoreHash0 0 96 _ final (by omega) proved reached).mpr
  intro before window accepted after split _
  simp only [orderedEvents, List.cons_eq_append_iff, List.cons.injEq, reduceCtorEq, false_and, and_false,
    HeadEvent.command.injEq, Command.stageTransitionProof.injEq, List.nil_eq, List.append_eq_nil_iff, exists_const,
    or_false, ↓existsAndEq, true_and, false_or] at split
  rcases split with ⟨_, rfl, ⟨rfl, ⟨rfl, _⟩, _⟩ | ⟨rfl, ⟨rfl, _⟩, _⟩⟩
  · exact ⟨start.symm, rfl, cursor⟩
  · exact ⟨start'.symm, rfl, cursor'⟩

/-- A finality event overtakes the window that the observer stages again: the notice of the new job reports where the
    later window ends, and the notice of its failure where the staged one does. -/
theorem overtaken_staging_misreported : ∃ window later final created failed, firstPrepared = some window ∧
    laterPrepared = some later ∧ run HeadRun.step syncedHead (overtakenEvents window later) = some final ∧
    BridgeHead.notice (.jobCreated created) ∈ final.sent ∧ BridgeHead.notice (.jobFailed failed) ∈ final.sent ∧
    created.jobId = failed.jobId ∧ (created.jobId, window) ∈ final.ledger.issued ∧
    created.expectedOutputSlot = 128 ∧ window.expectedOutputSlot = 96 ∧ failed.expectedOutputSlot = 96 ∧
    ¬ final.TellsOneStory known.crypto := by
  have slots : firstPrepared.any (fun window => laterPrepared.any fun later =>
      decide (window.expectedOutputSlot = 96 ∧ later.expectedOutputSlot = 128)) = true := by decide +kernel
  rcases (Option.any_eq_true _ _).mp slots with ⟨window, prepared, rest⟩
  rcases (Option.any_eq_true _ _).mp rest with ⟨later, prepared', facts⟩
  rcases of_decide_eq_true facts with ⟨slot, slot'⟩
  refine ⟨window, later, _, _, _, prepared, prepared', rfl, List.mem_of_getElem? (i := 7) rfl,
    List.mem_of_getElem? (i := 8) rfl, rfl, List.mem_of_getElem? (i := 1) rfl, slot', slot, slot, ?_⟩
  intro story
  rcases story _ (List.mem_of_getElem? (i := 7) rfl) with ⟨other, one⟩
  have staged : other = window := by
    rcases List.mem_cons.mp one.staged with first | second
    · exact congrArg Prod.snd first
    · exact congrArg Prod.snd (List.mem_singleton.mp second)
  have reported := one.reports.expectedOutputSlot
  rw [staged, slot] at reported
  exact absurd (slot'.symm.trans reported) (by decide)

end NoriProof
