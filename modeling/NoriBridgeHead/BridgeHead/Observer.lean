import NoriBridgeHead.BridgeHead.Api

open Foundation

namespace NoriModel

structure Observer (S : ConsensusSpec) where
  started : Bool
  currentSlot : UInt64
  storeHash : B256
  queueCursor : UInt64
  stageTransitionProof : Bool
  latestCurrentWindowValidatedProofInput : Option (ProofInputsWithWindow S)
  latestNextWindowValidatedProofInput : Option (ProofInputsWithWindow S)

namespace Observer

variable {S : ConsensusSpec}

def new : Observer S where
  started := false
  currentSlot := 0
  storeHash := FixedBytes.zero
  queueCursor := 0
  stageTransitionProof := false
  latestCurrentWindowValidatedProofInput := none
  latestNextWindowValidatedProofInput := none

def advance (observer : Observer S) (slot : UInt64) (storeHash : B256) (queueCursor : UInt64) :
    Observer S × List (Command S) :=
  ({ observer with currentSlot := slot, storeHash := storeHash, queueCursor := queueCursor },
    [.advance ⟨slot, storeHash, queueCursor⟩])

def onTransitionProofSucceeded (observer : Observer S) (proofData : ProofMessage) : Observer S × List (Command S) :=
  let (observer, commands) :=
    observer.advance proofData.outputSlot proofData.outputStoreHash proofData.outputQueueCursor
  match observer.latestNextWindowValidatedProofInput with
  | some nextWindow =>
    if nextWindow.inputSlot = proofData.outputSlot then
      (observer, commands ++ [.stageTransitionProof nextWindow])
    else ({ observer with stageTransitionProof := true }, commands)
  | none => ({ observer with stageTransitionProof := true }, commands)

def onBridgeHeadTransitionNotice (observer : Observer S) (noticeData : TransitionNotice S) :
    Outcome Empty (Observer S × List (Command S)) :=
  match noticeData with
  | .started data =>
    -- the queue cursor of the notice is not taken over
    pure ({ observer with
      started := true
      currentSlot := data.currentSlot
      storeHash := data.storeHash
      stageTransitionProof := true }, [])
  | .warning _ | .jobCreated _ | .jobSucceeded _ | .headAdvanced _ => pure (observer, [])
  | .jobFailed data =>
    if data.nJobInBuffer = 0 then
      match observer.latestCurrentWindowValidatedProofInput with
      | some window => pure (observer, [.stageTransitionProof window])
      | none =>
        Outcome.panicked "Tried to redo a job but latest_validated_proof_input_with_window was not defined"
    else pure (observer, [])
  | .finalityTransitionDetected data =>
    let observer := { observer with
      latestCurrentWindowValidatedProofInput := some data.currentWindowProofInputsWithWindow
      latestNextWindowValidatedProofInput := data.nextWindowProofInputsWithWindow }
    if observer.stageTransitionProof then
      pure ({ observer with stageTransitionProof := false },
        [.stageTransitionProof data.currentWindowProofInputsWithWindow])
    else pure (observer, [])

def onEvent (observer : Observer S) : BridgeHeadEvent S → Outcome Empty (Observer S × List (Command S))
  | .proofMessage proofData => pure (observer.onTransitionProofSucceeded proofData)
  | .noticeMessage noticeData => observer.onBridgeHeadTransitionNotice noticeData

end Observer

end NoriModel

namespace NoriProof

open NoriModel

variable {S : ConsensusSpec}

/-- A proof advances the head, and is followed by the cached next window or by the wait for a notice. -/
theorem onTransitionProofSucceeded_cases (observer : Observer S) (proofData : ProofMessage) :
    (∃ nextWindow, observer.latestNextWindowValidatedProofInput = some nextWindow ∧
      nextWindow.inputSlot = proofData.outputSlot ∧
      observer.onTransitionProofSucceeded proofData =
        ((observer.advance proofData.outputSlot proofData.outputStoreHash proofData.outputQueueCursor).1,
          [.advance ⟨proofData.outputSlot, proofData.outputStoreHash, proofData.outputQueueCursor⟩,
            .stageTransitionProof nextWindow])) ∨
    observer.onTransitionProofSucceeded proofData =
      ({ (observer.advance proofData.outputSlot proofData.outputStoreHash proofData.outputQueueCursor).1 with
          stageTransitionProof := true },
        [.advance ⟨proofData.outputSlot, proofData.outputStoreHash, proofData.outputQueueCursor⟩]) := by
  cases cached : observer.latestNextWindowValidatedProofInput with
  | none =>
    right
    simp only [Observer.onTransitionProofSucceeded, Observer.advance, cached]
  | some nextWindow =>
    by_cases contiguous : nextWindow.inputSlot = proofData.outputSlot
    · left
      refine ⟨nextWindow, rfl, contiguous, ?_⟩
      simp only [Observer.onTransitionProofSucceeded, Observer.advance, cached, contiguous, ↓reduceIte]
      rfl
    · right
      simp only [Observer.onTransitionProofSucceeded, Observer.advance, cached, contiguous, ↓reduceIte]

theorem onFinalityTransitionDetected_cases (observer : Observer S) (data : BridgeHeadFinalityTransitionDetected S) :
    (observer.stageTransitionProof = false ∧
      observer.onBridgeHeadTransitionNotice (.finalityTransitionDetected data) = .ok
        ({ observer with
            latestCurrentWindowValidatedProofInput := some data.currentWindowProofInputsWithWindow
            latestNextWindowValidatedProofInput := data.nextWindowProofInputsWithWindow }, [])) ∨
    (observer.stageTransitionProof = true ∧
      observer.onBridgeHeadTransitionNotice (.finalityTransitionDetected data) = .ok
        ({ observer with
            stageTransitionProof := false
            latestCurrentWindowValidatedProofInput := some data.currentWindowProofInputsWithWindow
            latestNextWindowValidatedProofInput := data.nextWindowProofInputsWithWindow },
          [.stageTransitionProof data.currentWindowProofInputsWithWindow])) := by
  cases flag : observer.stageTransitionProof with
  | false =>
    left
    refine ⟨rfl, ?_⟩
    simp only [Observer.onBridgeHeadTransitionNotice, flag, Bool.false_eq_true, ↓reduceIte]
    rfl
  | true =>
    right
    refine ⟨rfl, ?_⟩
    simp only [Observer.onBridgeHeadTransitionNotice, flag, ↓reduceIte]
    rfl

theorem mem_insertJob {proverJobs : List (UInt64 × ProofInputsWithWindow S)} {jobId : UInt64}
    {window : ProofInputsWithWindow S} {job : UInt64 × ProofInputsWithWindow S}
    (member : job ∈ BridgeHead.insertJob proverJobs jobId window) : job ∈ proverJobs ∨ job = (jobId, window) := by
  rcases List.mem_append.mp member with kept | new
  · exact .inl (List.mem_filter.mp kept).1
  · exact .inr (List.mem_singleton.mp new)

theorem mem_removeJob {bridge : BridgeHead S} {jobId : UInt64} {job : UInt64 × ProofInputsWithWindow S}
    (member : job ∈ (bridge.removeJob jobId).proverJobs) : job ∈ bridge.proverJobs := (List.mem_filter.mp member).1

theorem handleProverSuccess_message {bridge bridge' : BridgeHead S} {jobId : UInt64} {outputs : ProofOutputs}
    {sends : List (BridgeHeadSend S)} {message : ProofMessage}
    (handled : bridge.handleProverSuccess jobId outputs.toBytes = .ok (bridge', sends))
    (sent : .event (.proofMessage message) ∈ sends) :
    message.outputSlot = outputs.outputSlot ∧ message.outputStoreHash = outputs.outputStoreHash ∧
      message.outputQueueCursor = outputs.outputQueueCursor := by
  simp only [BridgeHead.handleProverSuccess, bind_ok_iff, fromBytes_toBytes, Outcome.fromResult, Except.ok.injEq,
    pure_ok_iff, Prod.mk.injEq] at handled
  rcases handled with ⟨window, _, _, rfl, _, rfl⟩
  simp only [List.mem_cons, BridgeHead.notice, BridgeHeadSend.event.injEq, BridgeHeadEvent.proofMessage.injEq,
    reduceCtorEq, List.not_mem_nil, or_false, false_or] at sent
  rw [sent]
  exact ⟨rfl, rfl, rfl⟩

theorem onTransitionProofSucceeded_advances (observer : Observer S) (message : ProofMessage) :
    .advance ⟨message.outputSlot, message.outputStoreHash, message.outputQueueCursor⟩ ∈
      (observer.onTransitionProofSucceeded message).2 := by
  rcases onTransitionProofSucceeded_cases observer message with ⟨_, _, _, handled⟩ | handled
  · rw [handled]
    exact List.mem_cons_self ..
  · rw [handled]
    exact List.mem_cons_self ..

end NoriProof
