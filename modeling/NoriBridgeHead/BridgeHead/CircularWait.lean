import NoriBridgeHead.BridgeHead.PipelineRuns

open Foundation Foundation.Outcome Foundation.Transition

namespace NoriModel

variable {S : ConsensusSpec}

/-- The bridge head waits for the detector to take an update, and the detector for the bridge head to take a finality
    change. -/
def CircularWait (system : System S) : Prop :=
  system.detectorSends.isSome = true ∧ finalityCapacity ≤ system.finalityOutput.length ∧
  ((∃ update rest, system.bridgeSends = .stageUpdate update :: rest ∧ updateCapacity ≤ system.stageUpdates.length) ∨
    ∃ update rest, system.bridgeSends = .advanceUpdate update :: rest ∧
      updateCapacity ≤ system.advanceUpdates.length)

/-- Only the first send of a pass of the bridge head can be for the detector. -/
def UpdatesFirst (system : System S) : Prop := ∀ send ∈ system.bridgeSends.tail, ∃ event, send = .event event

/-- The bridge head and the detector, with what lies between them, are where they were, and the observer has been sent
    nothing new. -/
structure Frozen (before after : System S) : Prop where
  bridge : after.bridge = before.bridge
  bridgeSends : after.bridgeSends = before.bridgeSends
  stageUpdates : after.stageUpdates = before.stageUpdates
  advanceUpdates : after.advanceUpdates = before.advanceUpdates
  detector : after.detector = before.detector
  detectorSends : after.detectorSends = before.detectorSends
  finalityOutput : after.finalityOutput = before.finalityOutput
  events : after.events <:+ before.events

/-- The steps that need neither a provider nor the prover. -/
def SystemEvent.internal {β : Type} : SystemEvent β → Bool
  | .observerHandles | .observerSends | .bridgeHandlesFinality | .bridgeHandlesCommand | .bridgeHandlesJobResult
  | .bridgeSends | .detectorHandlesStage | .detectorHandlesAdvance | .detectorSends => true
  | .proverProves _ _ | .proverFails _ _ | .detectorTicks | .detectorHandlesResult _ => false

/-- Every channel is empty and no task holds anything to send. The observer waits for a finality change, or one job is
    at the prover. -/
structure Resting (system : System S) : Prop where
  observerSends : system.observerSends = []
  commands : system.commands = []
  bridgeSends : system.bridgeSends = []
  events : system.events = []
  jobResults : system.jobResults = []
  stageUpdates : system.stageUpdates = []
  advanceUpdates : system.advanceUpdates = []
  detectorSends : system.detectorSends = none
  finalityOutput : system.finalityOutput = []
  awaits : (system.observer.stageTransitionProof = true ∧ system.bridge.proverJobs = [] ∧ system.proving = []) ∨
    ∃ jobId window, system.bridge.proverJobs = [(jobId, window)] ∧ system.proving = [(jobId, window.proofInputs)]

/-- A bound on the internal steps that an event still leads to: its handling sends up to two commands. -/
def BridgeHeadEvent.work : BridgeHeadEvent S → Nat
  | .proofMessage _ | .noticeMessage (.started _) | .noticeMessage (.jobFailed _)
  | .noticeMessage (.finalityTransitionDetected _) => 13
  | .noticeMessage (.warning _) | .noticeMessage (.jobCreated _) | .noticeMessage (.jobSucceeded _)
  | .noticeMessage (.headAdvanced _) => 1

def BridgeHeadSend.work : BridgeHeadSend S → Nat
  | .event sent => sent.work + 1
  | .stageUpdate _ | .advanceUpdate _ => 2

/-- Each internal step does at least one unit of it. -/
def System.work (system : System S) : Nat :=
  (system.events.map BridgeHeadEvent.work).sum + (system.bridgeSends.map BridgeHeadSend.work).sum +
    6 * system.observerSends.length + 5 * system.commands.length + system.stageUpdates.length +
    system.advanceUpdates.length + 15 * system.finalityOutput.length + 16 * system.detectorSends.toList.length +
    17 * system.jobResults.length

end NoriModel

namespace NoriProof

open NoriModel

variable {S : ConsensusSpec} {β : Type} {prepare : Prepare S β} {system next later : System S} {token : Token S}

section Order

theorem updatesFirst_start (slot : UInt64) (storeHash : B256) (queueCursor latestBeaconSlot : UInt64) :
    UpdatesFirst (System.start (S := S) slot storeHash queueCursor latestBeaconSlot) := by
  simp [UpdatesFirst, System.start]

theorem onJobResult_updatesFirst {bridge bridge' : BridgeHead S} {result : ProverJobResult}
    {sends : List (BridgeHeadSend S)} (handled : bridge.onJobResult result = .ok (bridge', sends)) :
    ∀ send ∈ sends.tail, ∃ event, send = .event event := by
  cases result with
  | proved jobId publicValues =>
    simp only [BridgeHead.onJobResult, BridgeHead.handleProverSuccess, bind_ok_iff, pure_ok_iff,
      Prod.mk.injEq] at handled
    rcases handled with ⟨_, _, _, _, _, rfl⟩
    simp
  | failed jobId error =>
    simp only [BridgeHead.onJobResult, BridgeHead.handleProverFailure, bind_ok_iff, pure_ok_iff,
      Prod.mk.injEq] at handled
    rcases handled with ⟨_, _, _, rfl⟩
    simp

theorem onCommand_updatesFirst (bridge : BridgeHead S) (command : Command S) :
    ∀ send ∈ (bridge.onCommand command).2.tail, ∃ event, send = .event event := by
  cases command <;> simp [BridgeHead.onCommand, BridgeHead.stageTransitionProof, BridgeHead.advance, BridgeHead.notice]

theorem updatesFirst_step {event : SystemEvent β} (kept : UpdatesFirst system)
    (stepped : system.step prepare event = some next) : UpdatesFirst next := by
  cases event with
  | observerHandles =>
    rcases observerHandles_cases stepped with ⟨_, _, _, _, ⟨_, _, _, rfl⟩ | ⟨_, rfl⟩⟩
    · exact kept
    · exact kept
  | observerSends =>
    rcases observerSends_cases stepped with ⟨_, _, _, rfl⟩
    exact kept
  | bridgeHandlesFinality =>
    rcases bridgeHandlesFinality_cases stepped with ⟨_, _, _, _, rfl⟩
    simp [UpdatesFirst, BridgeHead.onBeaconFinalityChange]
  | bridgeHandlesCommand =>
    rcases bridgeHandlesCommand_cases stepped with ⟨_, _, _, _, rfl⟩
    exact onCommand_updatesFirst _ _
  | bridgeHandlesJobResult =>
    rcases bridgeHandlesJobResult_cases stepped with ⟨_, _, _, _, ⟨_, _, handled, rfl⟩ | ⟨_, rfl⟩⟩
    · exact onJobResult_updatesFirst handled
    · exact kept
  | bridgeSends =>
    rcases bridgeSends_cases stepped with ⟨send, rest, pending, moved⟩
    have sent : next.bridgeSends = rest := by
      rcases moved with ⟨_, _, rfl⟩ | ⟨_, _, rfl⟩ | ⟨_, _, rfl⟩ <;> rfl
    intro other member
    apply kept
    rw [pending, List.tail_cons]
    rw [sent] at member
    exact List.mem_of_mem_tail member
  | proverProves position outputs =>
    have ended : system.proverEnds position (fun jobId => .proved jobId outputs.toBytes) = some next := stepped
    rcases proverEnds_cases ended with ⟨_, _, rfl⟩
    exact kept
  | proverFails position error =>
    have ended : system.proverEnds position (fun jobId => .failed jobId error) = some next := stepped
    rcases proverEnds_cases ended with ⟨_, _, rfl⟩
    exact kept
  | detectorHandlesStage =>
    rcases detectorHandlesStage_cases stepped with ⟨_, _, _, _, rfl⟩
    exact kept
  | detectorHandlesAdvance =>
    rcases detectorHandlesAdvance_cases stepped with ⟨_, _, _, _, rfl⟩
    exact kept
  | detectorTicks =>
    rcases detectorTicks_cases stepped with ⟨_, rfl⟩
    exact kept
  | detectorHandlesResult providers =>
    rcases detectorHandlesResult_cases stepped with ⟨_, _, _, _, rfl⟩
    exact kept
  | detectorSends =>
    rcases detectorSends_cases stepped with ⟨_, _, rfl⟩
    exact kept

end Order

section Frozen

theorem frozen_step {event : SystemEvent β} (waits : CircularWait system)
    (stepped : system.step prepare event = some next) : Frozen system next := by
  rcases waits with ⟨sending, full, blocked⟩
  have busy : system.bridgeSends ≠ [] := by
    rcases blocked with ⟨_, _, pending, _⟩ | ⟨_, _, pending, _⟩ <;> simp [pending]
  have stuck : system.detectorSends ≠ none := by
    rw [← Option.isSome_iff_ne_none]
    exact sending
  cases event with
  | observerHandles =>
    rcases observerHandles_cases stepped with ⟨first, events, _, pending, outcome⟩
    have fewer : events <:+ system.events := by
      rw [pending]
      exact List.suffix_cons first events
    rcases outcome with ⟨_, _, _, rfl⟩ | ⟨_, rfl⟩
    · exact ⟨rfl, rfl, rfl, rfl, rfl, rfl, rfl, fewer⟩
    · exact ⟨rfl, rfl, rfl, rfl, rfl, rfl, rfl, fewer⟩
  | observerSends =>
    rcases observerSends_cases stepped with ⟨_, _, _, rfl⟩
    exact ⟨rfl, rfl, rfl, rfl, rfl, rfl, rfl, List.suffix_rfl⟩
  | proverProves position outputs =>
    have ended : system.proverEnds position (fun jobId => .proved jobId outputs.toBytes) = some next := stepped
    rcases proverEnds_cases ended with ⟨_, _, rfl⟩
    exact ⟨rfl, rfl, rfl, rfl, rfl, rfl, rfl, List.suffix_rfl⟩
  | proverFails position error =>
    have ended : system.proverEnds position (fun jobId => .failed jobId error) = some next := stepped
    rcases proverEnds_cases ended with ⟨_, _, rfl⟩
    exact ⟨rfl, rfl, rfl, rfl, rfl, rfl, rfl, List.suffix_rfl⟩
  | bridgeHandlesFinality =>
    rcases bridgeHandlesFinality_cases stepped with ⟨_, _, quiet, _⟩
    exact absurd quiet busy
  | bridgeHandlesCommand =>
    rcases bridgeHandlesCommand_cases stepped with ⟨_, _, quiet, _⟩
    exact absurd quiet busy
  | bridgeHandlesJobResult =>
    rcases bridgeHandlesJobResult_cases stepped with ⟨_, _, quiet, _⟩
    exact absurd quiet busy
  | bridgeSends =>
    have sent : system.bridgeSendsNext = some next := stepped
    rcases blocked with ⟨update, rest, pending, noRoom⟩ | ⟨update, rest, pending, noRoom⟩
    · simp [System.bridgeSendsNext, pending, Nat.not_lt.mpr noRoom] at sent
    · simp [System.bridgeSendsNext, pending, Nat.not_lt.mpr noRoom] at sent
  | detectorHandlesStage =>
    rcases detectorHandlesStage_cases stepped with ⟨_, _, idle, _⟩
    exact absurd idle stuck
  | detectorHandlesAdvance =>
    rcases detectorHandlesAdvance_cases stepped with ⟨_, _, idle, _⟩
    exact absurd idle stuck
  | detectorTicks => exact absurd (detectorTicks_cases stepped).1 stuck
  | detectorHandlesResult providers =>
    rcases detectorHandlesResult_cases stepped with ⟨_, _, idle, _⟩
    exact absurd idle stuck
  | detectorSends =>
    have sent : system.detectorSendsNext = some next := stepped
    rcases Option.isSome_iff_exists.mp sending with ⟨dual, pending⟩
    simp [System.detectorSendsNext, pending, Nat.not_lt.mpr full] at sent

theorem circularWait_frozen (waits : CircularWait system) (frozen : Frozen system next) : CircularWait next := by
  unfold CircularWait
  rw [frozen.detectorSends, frozen.finalityOutput, frozen.bridgeSends, frozen.stageUpdates, frozen.advanceUpdates]
  exact waits

theorem frozen_trans (first : Frozen system next) (second : Frozen next later) : Frozen system later where
  bridge := second.bridge.trans first.bridge
  bridgeSends := second.bridgeSends.trans first.bridgeSends
  stageUpdates := second.stageUpdates.trans first.stageUpdates
  advanceUpdates := second.advanceUpdates.trans first.advanceUpdates
  detector := second.detector.trans first.detector
  detectorSends := second.detectorSends.trans first.detectorSends
  finalityOutput := second.finalityOutput.trans first.finalityOutput
  events := second.events.trans first.events

end Frozen

theorem circularWait_run {events : List (SystemEvent β)} (waits : CircularWait system)
    (reached : run (System.step prepare) system events = some later) : CircularWait later ∧ Frozen system later := by
  have still : CircularWait system ∧ Frozen system system :=
    ⟨waits, ⟨rfl, rfl, rfl, rfl, rfl, rfl, rfl, List.suffix_rfl⟩⟩
  have preserved : ∀ (state : System S) (event : SystemEvent β) (next : System S),
      CircularWait state ∧ Frozen system state → state.step prepare event = some next →
      CircularWait next ∧ Frozen system next := by
    intro state event next kept stepped
    have frozen := frozen_step kept.1 stepped
    exact ⟨circularWait_frozen kept.1 frozen, frozen_trans kept.2 frozen⟩
  exact reachable_invariant preserved still reached

section Rest

/-- The order of the sends, and a token that keeps the observer from failing. -/
def Orderly (system : System S) : Prop := UpdatesFirst system ∧ ∃ token, TokenInvariant system token

theorem orderly_step {event : SystemEvent β} (kept : Orderly system)
    (stepped : system.step prepare event = some next) : Orderly next :=
  ⟨updatesFirst_step kept.1 stepped, tokenInvariant_step kept.2 stepped⟩

theorem orderly_run {slot : UInt64} {storeHash : B256} {queueCursor latestBeaconSlot : UInt64}
    {events : List (SystemEvent β)}
    (reached : run (System.step prepare) (System.start slot storeHash queueCursor latestBeaconSlot) events =
      some system) : Orderly system := by
  have initial : Orderly (System.start (S := S) slot storeHash queueCursor latestBeaconSlot) :=
    ⟨updatesFirst_start slot storeHash queueCursor latestBeaconSlot,
      _, tokenInvariant_start slot storeHash queueCursor latestBeaconSlot⟩
  exact reachable_invariant (fun _ _ _ before stepped => orderly_step before stepped) initial reached

/-- An internal step that leads into no circular wait. -/
def Works (prepare : Prepare S β) (system : System S) : Prop :=
  ∃ event next, SystemEvent.internal event = true ∧ system.step prepare event = some next ∧ ¬ CircularWait next

theorem not_circularWait_of_idle (idle : system.detectorSends = none) : ¬ CircularWait system := by
  rintro ⟨sending, _⟩
  rw [idle] at sending
  cases sending

theorem not_circularWait_of_events (eventsOnly : ∀ send ∈ system.bridgeSends, ∃ event, send = .event event) :
    ¬ CircularWait system := by
  rintro ⟨_, _, ⟨update, rest, pending, _⟩ | ⟨update, rest, pending, _⟩⟩
  · rcases eventsOnly (.stageUpdate update) (by simp [pending]) with ⟨_, other⟩
    cases other
  · rcases eventsOnly (.advanceUpdate update) (by simp [pending]) with ⟨_, other⟩
    cases other

theorem pendingCommands_bounded (held : TokenInvariant system token) :
    system.pendingCommands.length ≤ commandCapacity := by
  have counted : system.pendingCommands.length = system.tokenView.commands.length := rfl
  have placed := held.placed
  rw [counted]
  generalize system.tokenView = view at placed
  cases placed <;> simp [commandCapacity]

theorem event_work_pos (event : BridgeHeadEvent S) : 0 < event.work := by
  unfold BridgeHeadEvent.work
  split <;> decide

theorem onEvent_work {observer observer' : Observer S} {event : BridgeHeadEvent S} {commands : List (Command S)}
    (handled : observer.onEvent event = .ok (observer', commands)) : 6 * commands.length < event.work := by
  cases event with
  | proofMessage message =>
    have returned : observer.onTransitionProofSucceeded message = (observer', commands) := Except.ok.inj handled
    rcases onTransitionProofSucceeded_cases observer message with ⟨_, _, _, staged⟩ | waits
    · cases staged.symm.trans returned
      simp [BridgeHeadEvent.work]
    · cases waits.symm.trans returned
      simp [BridgeHeadEvent.work]
  | noticeMessage notice =>
    cases notice with
    | finalityTransitionDetected data =>
      rcases onFinalityTransitionDetected_cases observer data with ⟨_, noted⟩ | ⟨_, noted⟩
      · cases noted.symm.trans handled
        simp [BridgeHeadEvent.work]
      · cases noted.symm.trans handled
        simp [BridgeHeadEvent.work]
    | jobFailed data =>
      simp only [Observer.onEvent, Observer.onBridgeHeadTransitionNotice] at handled
      split at handled
      · split at handled
        · cases handled
          simp [BridgeHeadEvent.work]
        · cases handled
      · cases handled
        simp [BridgeHeadEvent.work]
    | _ =>
      cases handled
      simp [BridgeHeadEvent.work]

theorem onJobResult_work {bridge bridge' : BridgeHead S} {result : ProverJobResult} {sends : List (BridgeHeadSend S)}
    (handled : bridge.onJobResult result = .ok (bridge', sends)) : (sends.map BridgeHeadSend.work).sum < 17 := by
  cases result with
  | proved jobId publicValues =>
    simp only [BridgeHead.onJobResult, BridgeHead.handleProverSuccess, bind_ok_iff, pure_ok_iff,
      Prod.mk.injEq] at handled
    rcases handled with ⟨_, _, _, _, _, rfl⟩
    simp [BridgeHead.notice, BridgeHeadSend.work, BridgeHeadEvent.work]
  | failed jobId error =>
    simp only [BridgeHead.onJobResult, BridgeHead.handleProverFailure, bind_ok_iff, pure_ok_iff,
      Prod.mk.injEq] at handled
    rcases handled with ⟨_, _, _, rfl⟩
    simp [BridgeHead.notice, BridgeHeadSend.work, BridgeHeadEvent.work]

theorem onCommand_work (bridge : BridgeHead S) (command : Command S) :
    ((bridge.onCommand command).2.map BridgeHeadSend.work).sum < 5 := by
  cases command <;>
  simp [BridgeHead.onCommand, BridgeHead.stageTransitionProof, BridgeHead.advance, BridgeHead.notice,
    BridgeHeadSend.work, BridgeHeadEvent.work]

theorem internal_less {event : SystemEvent β} (own : event.internal = true)
    (stepped : system.step prepare event = some next) : next.work < system.work := by
  cases event with
  | observerHandles =>
    rcases observerHandles_cases stepped with ⟨event, events, sends, pending, ⟨_, _, handled, rfl⟩ | ⟨_, rfl⟩⟩
    · have less := onEvent_work handled
      simp only [System.work, sends, pending, List.map_cons, List.sum_cons, List.length_nil]
      omega
    · have some := event_work_pos event
      simp only [System.work, pending, List.map_cons, List.sum_cons]
      omega
  | observerSends =>
    rcases observerSends_cases stepped with ⟨command, rest, pending, rfl⟩
    simp only [System.work, pending, List.length_append, List.length_cons, List.length_nil]
    omega
  | bridgeHandlesFinality =>
    rcases bridgeHandlesFinality_cases stepped with ⟨dual, rest, quiet, pending, rfl⟩
    simp only [System.work, quiet, pending, BridgeHead.onBeaconFinalityChange, BridgeHead.notice, List.map_cons,
      List.map_nil, List.sum_cons, List.sum_nil, BridgeHeadSend.work, BridgeHeadEvent.work, List.length_cons]
    omega
  | bridgeHandlesCommand =>
    rcases bridgeHandlesCommand_cases stepped with ⟨command, rest, quiet, pending, rfl⟩
    have less := onCommand_work system.bridge command
    simp only [System.work, quiet, pending, List.map_nil, List.sum_nil, List.length_cons]
    omega
  | bridgeHandlesJobResult =>
    rcases bridgeHandlesJobResult_cases stepped with ⟨result, rest, quiet, pending, ⟨_, _, handled, rfl⟩ | ⟨_, rfl⟩⟩
    · have less := onJobResult_work handled
      simp only [System.work, quiet, pending, List.map_nil, List.sum_nil, List.length_cons]
      omega
    · simp only [System.work, pending, List.length_cons]
      omega
  | bridgeSends =>
    rcases bridgeSends_cases stepped with ⟨send, rest, pending, ⟨event, rfl, rfl⟩ | ⟨update, rfl, rfl⟩ |
      ⟨update, rfl, rfl⟩⟩ <;>
    · simp only [System.work, pending, List.map_append, List.map_cons, List.map_nil, List.sum_append, List.sum_cons,
        List.sum_nil, BridgeHeadSend.work, List.length_append, List.length_singleton]
      omega
  | detectorHandlesStage =>
    rcases detectorHandlesStage_cases stepped with ⟨update, rest, _, pending, rfl⟩
    simp only [System.work, pending, List.length_cons]
    omega
  | detectorHandlesAdvance =>
    rcases detectorHandlesAdvance_cases stepped with ⟨update, rest, _, pending, rfl⟩
    simp only [System.work, pending, List.length_cons]
    omega
  | detectorSends =>
    rcases detectorSends_cases stepped with ⟨dual, pending, rfl⟩
    simp only [System.work, pending, List.length_append, Option.toList_none, Option.toList_some,
      List.length_singleton, List.length_nil]
    omega
  | _ => cases own

theorem detectorSends_works (prepare : Prepare S β) {dual : DualProofInputsWithWindow S}
    (pending : system.detectorSends = some dual) (room : system.finalityOutput.length < finalityCapacity) :
    Works prepare system := by
  have stepped : system.step prepare .detectorSends = some { system with
      detectorSends := none, finalityOutput := system.finalityOutput ++ [dual] } := by
    simp only [System.step, System.detectorSendsNext, pending, room, ↓reduceIte]
  exact ⟨.detectorSends, _, rfl, stepped, not_circularWait_of_idle rfl⟩

theorem detectorUpdates_works (prepare : Prepare S β) (idle : system.detectorSends = none)
    (untaken : ¬ (system.stageUpdates = [] ∧ system.advanceUpdates = [])) : Works prepare system := by
  cases stages : system.stageUpdates with
  | cons update updates =>
    have stepped : system.step prepare .detectorHandlesStage = some { system with
        detector := system.detector.onStage update, stageUpdates := updates } := by
      simp only [System.step, System.detectorHandlesStage, idle, stages]
    exact ⟨.detectorHandlesStage, _, rfl, stepped, not_circularWait_of_idle idle⟩
  | nil =>
    cases advances : system.advanceUpdates with
    | nil => exact absurd ⟨stages, advances⟩ untaken
    | cons update updates =>
      have stepped : system.step prepare .detectorHandlesAdvance = some { system with
          detector := system.detector.onAdvance update, advanceUpdates := updates } := by
        simp only [System.step, System.detectorHandlesAdvance, idle, advances]
      exact ⟨.detectorHandlesAdvance, _, rfl, stepped, not_circularWait_of_idle idle⟩

/-- A token leaves at most two commands pending, so the observer is never held up. -/
theorem observer_works (prepare : Prepare S β) (kept : Orderly system) (free : ¬ CircularWait system)
    (busy : ¬ (system.observerSends = [] ∧ system.events = [])) : Works prepare system := by
  rcases kept.2 with ⟨token, held⟩
  cases sends : system.observerSends with
  | cons command rest =>
    have bounded := pendingCommands_bounded held
    rw [System.pendingCommands, sends, List.length_append, List.length_cons] at bounded
    have room : system.commands.length < commandCapacity := by omega
    have stepped : system.step prepare .observerSends =
        some { system with observerSends := rest, commands := system.commands ++ [command] } := by
      simp only [System.step, System.observerSendsNext, sends, room, ↓reduceIte]
    exact ⟨.observerSends, _, rfl, stepped, free⟩
  | nil =>
    cases unread : system.events with
    | nil => exact absurd ⟨sends, unread⟩ busy
    | cons event events =>
      rcases tokenInvariant_onEvent held sends unread with ⟨observer, commands, _, handled, _⟩
      have stepped : system.step prepare .observerHandles =
          some { system with observer := observer, observerSends := commands, events := events } := by
        simp only [System.step, System.observerHandles, held.observerRuns, sends, unread, handled]
      exact ⟨.observerHandles, _, rfl, stepped, free⟩

/-- With the observer's channel empty the bridge head delivers an event, and outside a circular wait an update too. -/
theorem bridgeSends_works (prepare : Prepare S β) (kept : UpdatesFirst system) (free : ¬ CircularWait system)
    (read : system.events = [])
    (settled : system.detectorSends = none → system.stageUpdates = [] ∧ system.advanceUpdates = [])
    (blocked : system.detectorSends ≠ none → finalityCapacity ≤ system.finalityOutput.length)
    {send : BridgeHeadSend S} {rest : List (BridgeHeadSend S)} (pending : system.bridgeSends = send :: rest) :
    Works prepare system := by
  have eventsOnly := kept
  rw [UpdatesFirst, pending, List.tail_cons] at eventsOnly
  have waits : system.detectorSends ≠ none → system.detectorSends.isSome = true ∧
      finalityCapacity ≤ system.finalityOutput.length := by
    intro sending
    exact ⟨Option.isSome_iff_ne_none.mpr sending, blocked sending⟩
  cases send with
  | event event =>
    have stepped : system.step prepare .bridgeSends =
        some { system with bridgeSends := rest, events := [event] } := by
      simp [System.step, System.bridgeSendsNext, pending, read, eventCapacity]
    exact ⟨.bridgeSends, _, rfl, stepped, not_circularWait_of_events eventsOnly⟩
  | stageUpdate update =>
    have room : system.stageUpdates.length < updateCapacity := by
      by_cases idle : system.detectorSends = none
      · simp [(settled idle).1, updateCapacity]
      · apply Nat.lt_of_not_le
        intro full
        exact free ⟨(waits idle).1, (waits idle).2, .inl ⟨update, rest, pending, full⟩⟩
    have stepped : system.step prepare .bridgeSends = some { system with
        bridgeSends := rest, stageUpdates := system.stageUpdates ++ [update] } := by
      simp only [System.step, System.bridgeSendsNext, pending, room, ↓reduceIte]
    exact ⟨.bridgeSends, _, rfl, stepped, not_circularWait_of_events eventsOnly⟩
  | advanceUpdate update =>
    have room : system.advanceUpdates.length < updateCapacity := by
      by_cases idle : system.detectorSends = none
      · simp [(settled idle).2, updateCapacity]
      · apply Nat.lt_of_not_le
        intro full
        exact free ⟨(waits idle).1, (waits idle).2, .inr ⟨update, rest, pending, full⟩⟩
    have stepped : system.step prepare .bridgeSends = some { system with
        bridgeSends := rest, advanceUpdates := system.advanceUpdates ++ [update] } := by
      simp only [System.step, System.bridgeSendsNext, pending, room, ↓reduceIte]
    exact ⟨.bridgeSends, _, rfl, stepped, not_circularWait_of_events eventsOnly⟩

theorem bridgeHandlesFinality_works (prepare : Prepare S β) (ready : system.bridgeReady = true)
    {dual : DualProofInputsWithWindow S} {rest : List (DualProofInputsWithWindow S)}
    (pending : system.finalityOutput = dual :: rest) : Works prepare system := by
  have stepped : system.step prepare .bridgeHandlesFinality = some { system with
      bridge := (system.bridge.onBeaconFinalityChange dual).1
      bridgeSends := (system.bridge.onBeaconFinalityChange dual).2
      finalityOutput := rest } := by
    simp only [System.step, System.bridgeHandlesFinality, ready, pending]
  refine ⟨.bridgeHandlesFinality, _, rfl, stepped, not_circularWait_of_events ?_⟩
  simp [BridgeHead.onBeaconFinalityChange, BridgeHead.notice]

theorem bridgeHandlesCommand_works (prepare : Prepare S β) (ready : system.bridgeReady = true)
    (idle : system.detectorSends = none) {command : Command S} {rest : List (Command S)}
    (pending : system.commands = command :: rest) : Works prepare system := by
  have stepped : system.step prepare .bridgeHandlesCommand = some { system with
      bridge := (system.bridge.onCommand command).1
      bridgeSends := (system.bridge.onCommand command).2
      commands := rest
      proving := system.proving ++ System.spawned (system.bridge.onCommand command).1 command } := by
    simp only [System.step, System.bridgeHandlesCommand, ready, pending]
  exact ⟨.bridgeHandlesCommand, _, rfl, stepped, not_circularWait_of_idle idle⟩

theorem bridgeHandlesJobResult_works (prepare : Prepare S β) (held : TokenInvariant system token)
    (ready : system.bridgeReady = true) (idle : system.detectorSends = none) {result : ProverJobResult}
    {rest : List ProverJobResult} (pending : system.jobResults = result :: rest) : Works prepare system := by
  have placed := held.placed
  simp only [System.tokenView, pending] at placed
  rcases tokenAt_result placed with ⟨window, _, decodes, _, _, _, jobs, _, _⟩
  rcases onJobResult_only jobs decodes with ⟨sends, _, handled, _, _⟩
  have stepped : system.step prepare .bridgeHandlesJobResult = some { system with
      bridge := { system.bridge with proverJobs := [] }, bridgeSends := sends, jobResults := rest } := by
    simp only [System.step, System.bridgeHandlesJobResult, ready, pending, handled]
  exact ⟨.bridgeHandlesJobResult, _, rfl, stepped, not_circularWait_of_idle idle⟩

theorem awaits_of_empty (held : TokenInvariant system token) (events : system.events = [])
    (bridgeSends : system.bridgeSends = []) (commands : system.commands = [])
    (observerSends : system.observerSends = []) (jobResults : system.jobResults = []) :
    (system.observer.stageTransitionProof = true ∧ system.bridge.proverJobs = [] ∧ system.proving = []) ∨
      ∃ jobId window, system.bridge.proverJobs = [(jobId, window)] ∧
        system.proving = [(jobId, window.proofInputs)] := by
  have placed := held.placed
  simp only [System.tokenView, System.pendingEvents, System.pendingCommands, events, bridgeSends, commands,
    observerSends, jobResults, List.filterMap_nil, List.append_nil, List.filter_nil] at placed
  generalize system.observer.stageTransitionProof = flag at placed ⊢
  generalize system.bridge.proverJobs = jobs at placed ⊢
  generalize system.proving = proving at placed ⊢
  cases placed with
  | waiting => exact .inl ⟨rfl, rfl, rfl⟩
  | proving jobId window => exact .inr ⟨jobId, window, rfl, rfl⟩

/-- The detector goes first, then the observer, then the bridge head: in this order no step leads into a circular
    wait. -/
theorem works_or_rests (prepare : Prepare S β) (kept : Orderly system) (free : ¬ CircularWait system) :
    Works prepare system ∨ Resting system := by
  by_contra stuck
  rcases not_or.mp stuck with ⟨noWork, noRest⟩
  rcases kept.2 with ⟨token, held⟩
  have blocked : system.detectorSends ≠ none → finalityCapacity ≤ system.finalityOutput.length := by
    intro sending
    rcases Option.ne_none_iff_exists'.mp sending with ⟨dual, pending⟩
    apply Nat.le_of_not_lt
    intro room
    exact noWork (detectorSends_works prepare pending room)
  have settled : system.detectorSends = none → system.stageUpdates = [] ∧ system.advanceUpdates = [] := by
    intro idle
    by_contra untaken
    exact noWork (detectorUpdates_works prepare idle untaken)
  have observer : system.observerSends = [] ∧ system.events = [] := by
    by_contra busy
    exact noWork (observer_works prepare kept free busy)
  have quiet : system.bridgeSends = [] := by
    by_contra busy
    rcases List.exists_cons_of_ne_nil busy with ⟨send, rest, pending⟩
    exact noWork (bridgeSends_works prepare kept.1 free observer.2 settled blocked pending)
  have ready : system.bridgeReady = true := bridgeReady_iff.mpr ⟨held.bridgeRuns, quiet⟩
  have taken : system.finalityOutput = [] := by
    by_contra busy
    rcases List.exists_cons_of_ne_nil busy with ⟨dual, rest, pending⟩
    exact noWork (bridgeHandlesFinality_works prepare ready pending)
  have idle : system.detectorSends = none := by
    by_contra sending
    have full := blocked sending
    simp [taken, finalityCapacity] at full
  have commands : system.commands = [] := by
    by_contra busy
    rcases List.exists_cons_of_ne_nil busy with ⟨command, rest, pending⟩
    exact noWork (bridgeHandlesCommand_works prepare ready idle pending)
  have results : system.jobResults = [] := by
    by_contra busy
    rcases List.exists_cons_of_ne_nil busy with ⟨result, rest, pending⟩
    exact noWork (bridgeHandlesJobResult_works prepare held ready idle pending)
  exact noRest ⟨observer.1, commands, quiet, observer.2, results, (settled idle).1, (settled idle).2, idle, taken,
    awaits_of_empty held observer.2 quiet commands observer.1 results⟩

theorem comes_to_rest (prepare : Prepare S β) (kept : Orderly system) (free : ¬ CircularWait system) :
    ∃ steps later, (∀ step ∈ steps, SystemEvent.internal step = true) ∧
      run (System.step prepare) system steps = some later ∧ Resting later := by
  induction left : system.work using Nat.strong_induction_on generalizing system with
  | _ left ih =>
    rcases works_or_rests prepare kept free with ⟨event, next, own, stepped, free'⟩ | rests
    · have less := internal_less own stepped
      rcases ih next.work (left ▸ less) (orderly_step kept stepped) free' rfl with ⟨steps, later, rest, reached, rests⟩
      refine ⟨event :: steps, later, ?_, run_cons_iff.mpr ⟨next, stepped, reached⟩, rests⟩
      rw [List.forall_mem_cons]
      exact ⟨own, rest⟩
    · exact ⟨[], system, by simp, rfl, rests⟩

end Rest

/-- From every reachable state but a circular wait the tasks can empty every channel on their own, and then they only
    wait for finality or for the prover. A circular wait lasts in every continuation: nothing more is staged, advanced
    or published. -/
theorem pipeline_rests_iff (prepare : Prepare S β) (slot : UInt64) (storeHash : B256)
    (queueCursor latestBeaconSlot : UInt64) (events : List (SystemEvent β)) (system : System S)
    (reached : run (System.step prepare) (System.start slot storeHash queueCursor latestBeaconSlot) events =
      some system) :
    ((∃ steps later, (∀ step ∈ steps, SystemEvent.internal step = true) ∧
        run (System.step prepare) system steps = some later ∧ Resting later) ↔ ¬ CircularWait system) ∧
    (CircularWait system → ∀ steps later, run (System.step prepare) system steps = some later →
      CircularWait later ∧ Frozen system later) := by
  have kept := orderly_run reached
  refine ⟨⟨?_, comes_to_rest prepare kept⟩, ?_⟩
  · rintro ⟨steps, later, _, after, rests⟩ waits
    exact not_circularWait_of_idle rests.detectorSends (circularWait_run waits after).1
  · intro waits steps later after
    exact circularWait_run waits after

section Sample

open NoriModel.Sample

def header1Latest : Minimal.Header := ⟨160, word stateRoot1, 196⟩
def store1Latest : Minimal.Store := ⟨header1Latest, committee1, some committee2, header1Latest, 0, 0, none⟩
def storeHash1Latest : B256 := word 0xea6a0abfdc49a0fe5e1a2382ea7e051e2a8d807dadd7dd81b3b89ffbc41508b0

def knownLatest : KnownTries := { known with sha := (storeCode store1Latest, storeHash1Latest) :: known.sha }

/-- Finality reaches slots 128 and 160 while the first stage update is not taken. The job fails and is staged again. -/
def waitingEvents : List (SystemEvent (ConsensusHttpProxy Minimal.spec)) :=
  [.detectorTicks, .detectorHandlesResult (proxy store0 header1Later world1, proxy store0 header1Later world1),
    .detectorSends, .detectorTicks,
    .detectorHandlesResult (proxy store0 header1Latest world1, proxy store0 header1Latest world1),
    .proverFails 0 "out of gas", .bridgeHandlesJobResult, .bridgeSends, .observerHandles, .observerHandles,
    .observerSends, .bridgeHandlesCommand]

def stagesNext : List (BridgeHeadSend Minimal.spec) → Bool
  | .stageUpdate _ :: _ => true
  | _ => false

theorem pipeline_rests_iff_sample : ∃ system : System Minimal.spec,
    run (System.step (preparing knownLatest.crypto)) pipelineStart (stagingEvents ++ waitingEvents) = some system ∧
    system.bridge.jobId = 2 ∧
    ∀ steps later, run (System.step (preparing knownLatest.crypto)) system steps = some later →
      ¬ Resting later ∧ later.bridge.jobId = 2 := by
  have reaches : (run (System.step (preparing knownLatest.crypto)) pipelineStart
      (stagingEvents ++ waitingEvents)).any (fun system => system.detectorSends.isSome &&
        (finalityCapacity ≤ system.finalityOutput.length && (updateCapacity ≤ system.stageUpdates.length &&
          (stagesNext system.bridgeSends && system.bridge.jobId = 2)))) = true := by decide +kernel
  rcases (Option.any_eq_true _ _).mp reaches with ⟨system, reached, facts⟩
  simp only [Bool.and_eq_true, decide_eq_true_eq] at facts
  rcases facts with ⟨sending, full, noRoom, stages, second⟩
  have waits : CircularWait system := by
    refine ⟨sending, full, .inl ?_⟩
    generalize system.bridgeSends = sends at stages
    match sends, stages with
    | .stageUpdate update :: rest, _ => exact ⟨update, rest, rfl, noRoom⟩
  rcases pipeline_rests_iff (preparing knownLatest.crypto) 64 syncedStoreHash0 0 96 _ system reached with ⟨_, lasts⟩
  refine ⟨system, reached, second, ?_⟩
  intro steps later after
  rcases lasts waits steps later after with ⟨still, frozen⟩
  refine ⟨?_, (congrArg BridgeHead.jobId frozen.bridge).trans second⟩
  intro rests
  exact not_circularWait_of_idle rests.detectorSends still

end Sample

end NoriProof
