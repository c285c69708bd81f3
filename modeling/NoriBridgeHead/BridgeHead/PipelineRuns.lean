import NoriBridgeHead.BridgeHead.Contiguity

open Foundation Foundation.Outcome Foundation.Transition

namespace NoriProof

open NoriModel

variable {C : Crypto} {S : ConsensusSpec} {system next : System S} {token : Token S}
  {head : FinalityChangeDetectorUpdate}

theorem contiguous_step {event : SystemEvent (ConsensusHttpProxy S)}
    (kept : ∃ head token, Contiguous C head system ∧ TokenInvariant system token)
    (condition : system.provesTheProgram C event = true ∧ system.stagesFromHead event = true)
    (stepped : system.step (preparing C) event = some next) :
    ∃ head token, Contiguous C head next ∧ TokenInvariant next token := by
  rcases kept with ⟨head, token, kept, held⟩
  have after : ∃ higher, Contiguous C higher next := by
    cases event with
    | observerHandles => exact contiguous_observerHandles kept held condition.2 stepped
    | observerSends => exact ⟨head, contiguous_observerSends kept stepped⟩
    | bridgeHandlesFinality => exact ⟨head, contiguous_bridgeHandlesFinality kept stepped⟩
    | bridgeHandlesCommand => exact ⟨head, contiguous_bridgeHandlesCommand kept held stepped⟩
    | bridgeHandlesJobResult => exact ⟨head, contiguous_bridgeHandlesJobResult kept stepped⟩
    | bridgeSends => exact ⟨head, contiguous_bridgeSends kept stepped⟩
    | proverProves position outputs => exact ⟨head, contiguous_proverProves kept held condition.1 stepped⟩
    | proverFails position error =>
      have ended : system.proverEnds position (fun jobId => .failed jobId error) = some next := stepped
      exact ⟨head, contiguous_proverEnds kept ended fun _ _ => trivial⟩
    | detectorHandlesStage => exact ⟨head, contiguous_detectorHandlesStage kept stepped⟩
    | detectorHandlesAdvance => exact ⟨head, contiguous_detectorHandlesAdvance kept stepped⟩
    | detectorTicks => exact ⟨head, contiguous_detectorTicks kept stepped⟩
    | detectorHandlesResult providers => exact ⟨head, contiguous_detectorHandlesResult kept stepped⟩
    | detectorSends => exact ⟨head, contiguous_detectorSends kept stepped⟩
  rcases after with ⟨higher, after⟩
  rcases tokenInvariant_step ⟨token, held⟩ stepped with ⟨token', heldAfter⟩
  exact ⟨higher, token', after, heldAfter⟩

theorem contiguous_run {slot : UInt64} {storeHash : B256} {queueCursor latestBeaconSlot : UInt64}
    {events : List (SystemEvent (ConsensusHttpProxy S))}
    (along : Along (System.step (preparing C))
      (fun state event => state.provesTheProgram C event = true ∧ state.stagesFromHead event = true)
      (System.start slot storeHash queueCursor latestBeaconSlot) events)
    (reached : run (System.step (preparing C)) (System.start slot storeHash queueCursor latestBeaconSlot) events =
      some system) : ∃ head token, Contiguous C head system ∧ TokenInvariant system token := by
  apply run_invariant (fun _ _ _ kept condition stepped => contiguous_step kept condition stepped) ?_ along reached
  exact ⟨_, _, contiguous_start slot storeHash queueCursor latestBeaconSlot,
    tokenInvariant_start slot storeHash queueCursor latestBeaconSlot⟩

section Exactness

theorem staged_apart {commands : List (Command S)} {window : ProofInputsWithWindow S}
    {position : FinalityChangeDetectorUpdate} (atHead : commands.foldl Command.moves position = head)
    (apart : window.inputSlot ≠ head.slot) :
    ∃ staged, Command.stageTransitionProof staged ∈ commands ++ [Command.stageTransitionProof window] ∧
      staged.start ≠ (commands ++ [Command.stageTransitionProof window]).foldl Command.moves position := by
  refine ⟨window, List.mem_append_right _ (List.mem_singleton.mpr rfl), ?_⟩
  rw [List.foldl_append, atHead]
  intro same
  exact apart (congrArg FinalityChangeDetectorUpdate.slot same)

/-- Where the check fails, the observer queues a window that does not start where the bridge head will stand. -/
theorem observerHandles_stale (kept : Contiguous C head system) (held : TokenInvariant system token)
    (stale : system.stagesFromHead (β := ConsensusHttpProxy S) .observerHandles = false)
    (stepped : system.observerHandles = some next) :
    ∃ window, .stageTransitionProof window ∈ next.pendingCommands ∧ window.start ≠ next.head := by
  rcases observerHandles_cases stepped with ⟨event, events, idle, pending, outcome⟩
  rcases tokenInvariant_onEvent held idle pending with ⟨_, _, _, accepted, _⟩
  have atHead := kept.atHead
  rw [System.head, System.pendingCommands, idle, List.append_nil] at atHead
  simp only [System.stagesFromHead, pending, List.head?_cons] at stale
  rcases outcome with ⟨observer, commands, handled, rfl⟩ | ⟨⟨failure, failed⟩, rfl⟩
  · cases event with
    | proofMessage message =>
      have returned : system.observer.onTransitionProofSucceeded message = (observer, commands) :=
        Except.ok.inj handled
      cases cached : system.observer.latestNextWindowValidatedProofInput with
      | none => simp [cached] at stale
      | some window =>
        simp only [cached, Option.all_some, ne_eq, Bool.or_eq_false_iff, decide_eq_false_iff_not, not_not] at stale
        rcases onTransitionProofSucceeded_cases system.observer message with ⟨other, same, _, staged⟩ | waits
        · cases cached.symm.trans same
          cases staged.symm.trans returned
          refine ⟨window, by simp [System.pendingCommands], ?_⟩
          simp only [System.head, System.pendingCommands, List.foldl_append]
          exact stale.2
        · simp [Observer.onTransitionProofSucceeded, Observer.advance, cached, stale.1] at waits
    | noticeMessage notice =>
      cases notice with
      | finalityTransitionDetected data =>
        simp only [Bool.or_eq_false_iff, Bool.not_eq_false', decide_eq_false_iff_not] at stale
        rcases onFinalityTransitionDetected_cases system.observer data with ⟨noFlag, _⟩ | ⟨flag, noted⟩
        · rw [stale.1] at noFlag
          cases noFlag
        · cases noted.symm.trans handled
          apply staged_apart atHead
          rw [← flagged_slot kept held flag]
          exact stale.2
      | jobFailed data =>
        have unread : .noticeMessage (.jobFailed data) ∈ system.pendingEvents := pendingEvents_first pending
        rcases tokenInvariant_failure held unread with ⟨window, cached, staged⟩
        cases staged.symm.trans handled
        simp only [cached, Option.all_some, Bool.or_eq_false_iff, decide_eq_false_iff_not] at stale
        apply staged_apart atHead
        rw [← failure_slot kept held unread]
        exact stale.2
      | _ => simp at stale
  · rw [accepted] at failed
    cases failed

/-- A step whose result has every staged window at the head has passed the check. -/
theorem stagesFromHead_of_staged {event : SystemEvent (ConsensusHttpProxy S)} (kept : Contiguous C head system)
    (held : TokenInvariant system token) (stepped : system.step (preparing C) event = some next)
    (staged : ∀ window, .stageTransitionProof window ∈ next.pendingCommands → window.start = next.head) :
    system.stagesFromHead event = true := by
  cases event with
  | observerHandles =>
    by_contra fails
    have stale := Bool.eq_false_iff.mpr fails
    rcases observerHandles_stale kept held stale stepped with ⟨window, member, apart⟩
    exact apart (staged window member)
  | _ => rfl

theorem along_of_staged {final : System S} {events : List (SystemEvent (ConsensusHttpProxy S))}
    (kept : ∃ head token, Contiguous C head system ∧ TokenInvariant system token)
    (proves : Along (System.step (preparing C)) (fun state event => state.provesTheProgram C event = true) system
      events)
    (reached : run (System.step (preparing C)) system events = some final)
    (staged : ∀ done rest state, events = done ++ rest → run (System.step (preparing C)) system done = some state →
      ∀ window, .stageTransitionProof window ∈ state.pendingCommands → window.start = state.head) :
    Along (System.step (preparing C)) (fun state event => state.stagesFromHead event = true) system events := by
  induction events generalizing system with
  | nil => trivial
  | cons event events ih =>
    rcases run_cons_iff.mp reached with ⟨next, stepped, rest⟩
    rcases kept with ⟨head, token, kept, held⟩
    have single : run (System.step (preparing C)) system [event] = some next :=
      run_cons_iff.mpr ⟨next, stepped, rfl⟩
    have checked := stagesFromHead_of_staged kept held stepped (staged [event] events next rfl single)
    refine ⟨checked, ?_⟩
    intro other again
    cases stepped.symm.trans again
    apply ih (contiguous_step ⟨head, token, kept, held⟩ ⟨proves.1, checked⟩ stepped) (proves.2 next stepped) rest
    intro done later state whole between
    apply staged (event :: done) later state (by rw [whole, List.cons_append])
    exact run_cons_iff.mpr ⟨next, stepped, between⟩

/-- Along a run the staged windows start at the head exactly when every step passes the check. -/
theorem staged_at_head_iff (C : Crypto) {S : ConsensusSpec} (slot : UInt64) (storeHash : B256)
    (queueCursor latestBeaconSlot : UInt64) (events : List (SystemEvent (ConsensusHttpProxy S))) (final : System S)
    (proves : Along (System.step (preparing C)) (fun state event => state.provesTheProgram C event = true)
      (System.start slot storeHash queueCursor latestBeaconSlot) events)
    (reached : run (System.step (preparing C)) (System.start slot storeHash queueCursor latestBeaconSlot) events =
      some final) :
    Along (System.step (preparing C)) (fun state event => state.stagesFromHead event = true)
      (System.start slot storeHash queueCursor latestBeaconSlot) events ↔
    ∀ done rest state, events = done ++ rest →
      run (System.step (preparing C)) (System.start slot storeHash queueCursor latestBeaconSlot) done = some state →
      ∀ window, .stageTransitionProof window ∈ state.pendingCommands → window.start = state.head := by
  constructor
  · intro checked done rest state whole between window member
    have along := along_and proves checked
    rw [whole] at along
    rcases contiguous_run (along_take along) between with ⟨head, token, kept, held⟩
    rw [kept.atHead]
    exact (kept.commands _ member).1
  · intro staged
    exact along_of_staged ⟨_, _, contiguous_start slot storeHash queueCursor latestBeaconSlot,
      tokenInvariant_start slot storeHash queueCursor latestBeaconSlot⟩ proves reached staged

end Exactness

theorem tokenAt_unstaged {view : TokenView S} (placed : TokenAt token view)
    (busy : view.events ≠ [] ∨ view.proverJobs ≠ []) : view.commands = [] := by
  cases placed <;> simp at busy ⊢

theorem position_of_stages (kept : Contiguous C head system)
    (stages : ∀ command ∈ system.pendingCommands, command.stages = true) : system.bridge.position = head := by
  rw [← kept.atHead, System.head, moves_stages _ stages]

/-- In a run in which the observer stages only windows that start where it stands, every job starts where the bridge
    head stands, and the proofs chain. -/
theorem pipeline_contiguous (C : Crypto) {S : ConsensusSpec} (slot : UInt64) (storeHash : B256)
    (queueCursor latestBeaconSlot : UInt64) (events : List (SystemEvent (ConsensusHttpProxy S))) (system : System S)
    (along : Along (System.step (preparing C))
      (fun state event => state.provesTheProgram C event = true ∧ state.stagesFromHead event = true)
      (System.start slot storeHash queueCursor latestBeaconSlot) events)
    (reached : run (System.step (preparing C)) (System.start slot storeHash queueCursor latestBeaconSlot) events =
      some system) :
    (∀ window rest, system.commands = .stageTransitionProof window :: rest →
      window.start = system.bridge.position) ∧
    (∀ job ∈ system.bridge.proverJobs, job.2.start = system.bridge.position) ∧
    (∀ message, .proofMessage message ∈ system.pendingEvents →
      Follows system.bridge.position message.inputStoreHash message.inputQueueCursor message.outputSlot) ∧
    ∀ message rest, system.commands = .advance message :: rest → system.bridge.currentSlot < message.slot := by
  rcases contiguous_run along reached with ⟨head, token, kept, held⟩
  have placed := held.placed
  refine ⟨?_, ?_, ?_, ?_⟩
  · intro window rest pending
    simp only [System.tokenView, System.pendingCommands, pending, List.cons_append] at placed
    rcases tokenAt_command placed with ⟨_, other, _⟩ | ⟨_, _, _, _, _, last, _⟩
    · cases other
    · have commands : system.pendingCommands = [.stageTransitionProof window] := by
        rw [System.pendingCommands, pending, List.cons_append, last]
      have started := kept.commands (.stageTransitionProof window) (by simp [commands])
      rw [position_of_stages kept (by simp [commands, Command.stages])]
      exact started.1
  · intro job member
    have noCommands : system.pendingCommands = [] := tokenAt_unstaged placed (.inr (List.ne_nil_of_mem member))
    rw [position_of_stages kept (by simp [noCommands])]
    exact (kept.jobs job member).1
  · intro message member
    have carried : .proofMessage message ∈ system.tokenView.events := List.mem_filter.mpr ⟨member, rfl⟩
    have noCommands : system.pendingCommands = [] := tokenAt_unstaged placed (.inl (List.ne_nil_of_mem carried))
    rw [position_of_stages kept (by simp [noCommands])]
    exact kept.events (.proofMessage message) member
  · intro message rest pending
    apply kept.commands (.advance message)
    rw [System.pendingCommands, pending]
    exact List.mem_cons_self ..

section Sample

open NoriModel.Sample

def pipelineStart : System Minimal.spec := System.start 64 syncedStoreHash0 0 96

def firstOutputs : ProofOutputs := { proofOutputs1 with inputStoreHash := syncedStoreHash0 }

def stagingEvents : List (SystemEvent (ConsensusHttpProxy Minimal.spec)) :=
  [.bridgeSends, .observerHandles, .detectorTicks,
    .detectorHandlesResult (proxy store0 header1 world1, proxy store0 header1 world1), .detectorSends,
    .bridgeHandlesFinality, .bridgeSends, .observerHandles, .observerSends, .bridgeHandlesCommand, .bridgeSends,
    .bridgeSends]

/-- Finality reaches slot 128: the observer caches the windows from 64 and from 96. The first proof succeeds and
    the window from 96 is staged. -/
def advancingEvents : List (SystemEvent (ConsensusHttpProxy Minimal.spec)) :=
  [.detectorHandlesStage, .detectorTicks,
    .detectorHandlesResult (proxy store0 header1Later world1, proxy bootstrapped1 header1Later world1),
    .detectorSends, .bridgeHandlesFinality, .bridgeSends, .observerHandles, .observerHandles,
    .proverProves 0 firstOutputs, .bridgeHandlesJobResult, .bridgeSends, .bridgeSends, .observerHandles,
    .observerHandles, .observerSends, .observerSends, .bridgeHandlesCommand, .bridgeSends, .bridgeSends,
    .bridgeHandlesCommand, .bridgeSends, .bridgeSends]

/-- The second proof fails and the observer stages the window from 64 that it still caches. -/
def retryEvents : List (SystemEvent (ConsensusHttpProxy Minimal.spec)) :=
  [.proverFails 0 "out of gas", .bridgeHandlesJobResult, .bridgeSends, .observerHandles, .observerHandles,
    .observerHandles, .observerSends]

theorem pipeline_contiguous_sample : ∃ system : System Minimal.spec,
    run (System.step (preparing known.crypto)) pipelineStart (stagingEvents ++ advancingEvents) = some system ∧
    system.bridge.currentSlot = 96 ∧ ∃ job ∈ system.bridge.proverJobs, job.2.start = system.bridge.position := by
  have reaches : (run (guarded (System.step (preparing known.crypto)) fun state event =>
      state.provesTheProgram known.crypto event && state.stagesFromHead event) pipelineStart
      (stagingEvents ++ advancingEvents)).any (fun system => system.bridge.currentSlot = 96 &&
        !system.bridge.proverJobs.isEmpty) = true := by decide +kernel
  rcases (Option.any_eq_true _ _).mp reaches with ⟨system, guardedRun, facts⟩
  simp only [Bool.and_eq_true, decide_eq_true_eq, Bool.not_eq_true', List.isEmpty_eq_false_iff] at facts
  rcases run_guarded (fun _ _ both => Bool.and_eq_true_iff.mp both) guardedRun with ⟨reached, along⟩
  have contiguous := pipeline_contiguous known.crypto 64 syncedStoreHash0 0 96 _ system along reached
  rcases List.exists_mem_of_ne_nil _ facts.2 with ⟨job, member⟩
  exact ⟨system, reached, facts.1, job, member, contiguous.2.1 job member⟩

def stagedSlot? : Command Minimal.spec → Option UInt64
  | .stageTransitionProof window => some window.inputSlot
  | .advance _ => none

/-- Every proof of the run is the program's, yet a job is created that proves from slot 64 again. -/
theorem retry_behind_head : ∃ (system next : System Minimal.spec) (window : ProofInputsWithWindow Minimal.spec),
    run (System.step (preparing known.crypto)) pipelineStart (stagingEvents ++ advancingEvents ++ retryEvents) =
      some system ∧
    Along (System.step (preparing known.crypto))
      (fun state event => state.provesTheProgram known.crypto event = true) pipelineStart
      (stagingEvents ++ advancingEvents ++ retryEvents) ∧
    system.commands = [.stageTransitionProof window] ∧
    system.step (preparing known.crypto) .bridgeHandlesCommand = some next ∧
    (next.bridge.jobId, window) ∈ next.bridge.proverJobs ∧ window.inputSlot = 64 ∧
    system.bridge.currentSlot = 96 ∧ window.start ≠ system.bridge.position := by
  have reaches : (run (guarded (System.step (preparing known.crypto)) fun state event =>
      state.provesTheProgram known.crypto event) pipelineStart
      (stagingEvents ++ advancingEvents ++ retryEvents)).any (fun system => system.bridgeReady &&
        (system.bridge.currentSlot = 96 && system.commands.map stagedSlot? = [some 64])) = true := by
    decide +kernel
  rcases (Option.any_eq_true _ _).mp reaches with ⟨system, guardedRun, facts⟩
  rcases run_guarded (fun _ _ proves => proves) guardedRun with ⟨reached, along⟩
  simp only [Bool.and_eq_true, decide_eq_true_eq] at facts
  rcases facts with ⟨ready, slot, staged⟩
  rcases List.map_eq_singleton_iff.mp staged with ⟨command, pending, stages⟩
  cases command with
  | advance message => cases stages
  | stageTransitionProof window =>
    have from64 : window.inputSlot = 64 := Option.some.inj stages
    have stepped : system.step (preparing known.crypto) .bridgeHandlesCommand = some { system with
        bridge := (system.bridge.stageTransitionProof window).1
        bridgeSends := (system.bridge.stageTransitionProof window).2
        commands := []
        proving := system.proving ++ [(system.bridge.jobId + 1, window.proofInputs)] } := by
      simp only [System.step, System.bridgeHandlesCommand, ready, pending]
      rfl
    have apart : window.start ≠ system.bridge.position := by
      intro same
      have sameSlot : window.inputSlot = system.bridge.currentSlot := congrArg FinalityChangeDetectorUpdate.slot same
      rw [from64, slot] at sameSlot
      exact absurd sameSlot (by decide)
    have created : (system.bridge.jobId + 1, window) ∈
        BridgeHead.insertJob system.bridge.proverJobs (system.bridge.jobId + 1) window :=
      List.mem_append_right _ (List.mem_singleton.mpr rfl)
    exact ⟨system, _, window, reached, along, pending, stepped, created, from64, slot, apart⟩

end Sample

end NoriProof
