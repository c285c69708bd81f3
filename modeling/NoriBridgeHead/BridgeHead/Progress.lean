import NoriBridgeHead.BridgeHead.CircularWait
import NoriBridgeHead.BridgeHead.Provenance

open Foundation Foundation.Outcome Foundation.Transition

namespace NoriModel

variable {S : ConsensusSpec} {β : Type}

def BridgeHeadEvent.detected? : BridgeHeadEvent S → Option (ProofInputsWithWindow S)
  | .noticeMessage (.finalityTransitionDetected data) => some data.currentWindowProofInputsWithWindow
  | .proofMessage _ | .noticeMessage (.started _) | .noticeMessage (.warning _) | .noticeMessage (.jobCreated _)
  | .noticeMessage (.jobSucceeded _) | .noticeMessage (.jobFailed _) | .noticeMessage (.headAdvanced _) => none

/-- The windows that are on their way to the observer, the next one first. -/
def System.announced (system : System S) : List (ProofInputsWithWindow S) :=
  system.pendingEvents.filterMap BridgeHeadEvent.detected? ++
    system.pendingDuals.map DualProofInputsWithWindow.currentWindow

/-- No task can take a step of its own. -/
def Idle (prepare : Prepare S β) (system : System S) : Prop :=
  ∀ event, SystemEvent.internal event = true → system.step prepare event = none

/-- Every order in which the tasks take their steps ends within a bound, in a state at rest that meets a goal. -/
def SettlesAs (prepare : Prepare S β) (bound : Nat) (goal : System S → Prop) (system : System S) : Prop :=
  ∀ steps later, (∀ step ∈ steps, SystemEvent.internal step = true) →
    run (System.step prepare) system steps = some later →
    steps.length ≤ bound ∧ (Idle prepare later → Resting later ∧ goal later)

/-- The way of a proof to the head: with its job, on its way to the observer, or taken. -/
inductive HeadsFor (position : FinalityChangeDetectorUpdate) (system : System S) : Prop
  | ended (jobId : UInt64) (outputs : ProofOutputs) (result : system.jobResults = [.proved jobId outputs.toBytes])
      (output : outputs.position = position)
  | proved (message : ProofMessage) (pending : system.tokenView.events = [.proofMessage message])
      (output : message.output = position)
  | taken (atHead : system.head = position) (results : system.jobResults = [])
      (none : ∀ message, .proofMessage message ∉ system.tokenView.events)

/-- The way of a window to the prover, as the job after the `count`-th. -/
inductive Stages (count : UInt64) (window : ProofInputsWithWindow S) (system : System S) : Prop
  | announced (flag : system.observer.stageTransitionProof = true) (next : system.announced = [window])
      (free : system.pendingCommands = []) (counted : system.bridge.jobId = count)
  | failed (cached : system.observer.latestCurrentWindowValidatedProofInput = some window)
      (still : system.announced = []) (counted : system.bridge.jobId = count)
      (failed : (∃ jobId error, system.jobResults = [.failed jobId error]) ∨
        ∃ data, system.tokenView.events = [.noticeMessage (.jobFailed data)])
  | commanded (staged : system.pendingCommands = [.stageTransitionProof window])
      (counted : system.bridge.jobId = count)
  | created (job : system.bridge.proverJobs = [(count + 1, window)]) (running : system.jobResults = [])

/-- What the providers have to give for a finality change: windows from where the detector stands that go beyond what
    it has seen. -/
structure Finalizes (prepare : Prepare S β) (providers : β × β) (detector : Detector)
    (dual : DualProofInputsWithWindow S) : Prop where
  prepared : validateAndPrepareProofInputs prepare providers detector.jobInput = .ok dual
  fromSlot : dual.currentWindow.inputSlot = detector.slot
  beyond : ProgressFrom detector.latestSlot dual

/-- With these answers of the providers no window of a validation job that is under way panics. -/
def System.SurvivesJobs (prepare : Prepare S β) (providers : β × β) (system : System S) : Prop :=
  ∀ job ∈ system.validating, (actorResult prepare providers job).isSome = true

end NoriModel

namespace NoriProof

open NoriModel

variable {S : ConsensusSpec} {β : Type} {prepare : Prepare S β} {system next later : System S} {token : Token S}
  {event : SystemEvent β}

section Steps

/-- A step that moves something along and leaves the token where it is. -/
structure Framed (before after : System S) : Prop where
  view : after.tokenView = before.tokenView
  observer : after.observer = before.observer
  jobId : after.bridge.jobId = before.bridge.jobId
  position : after.bridge.position = before.bridge.position
  announced : after.announced = before.announced

theorem framed_bridgeHandlesFinality (stepped : system.bridgeHandlesFinality = some next) : Framed system next := by
  rcases bridgeHandlesFinality_cases stepped with ⟨dual, rest, quiet, pending, rfl⟩
  refine ⟨?_, rfl, rfl, rfl, ?_⟩
  · simp [System.tokenView, System.pendingEvents, System.pendingCommands, BridgeHead.onBeaconFinalityChange,
      BridgeHead.notice, BridgeHeadSend.event?, BridgeHeadEvent.carriesToken, quiet]
  · simp [System.announced, System.pendingEvents, System.pendingDuals, quiet, pending,
      BridgeHead.onBeaconFinalityChange, BridgeHead.notice, BridgeHeadSend.event?, BridgeHeadEvent.detected?]

theorem framed_bridgeSends (stepped : system.bridgeSendsNext = some next) : Framed system next := by
  rcases bridgeSends_cases stepped with ⟨send, rest, pending, ⟨event, rfl, rfl⟩ | ⟨update, rfl, rfl⟩ |
    ⟨update, rfl, rfl⟩⟩ <;>
  · refine ⟨?_, rfl, rfl, rfl, ?_⟩
    · simp [System.tokenView, System.pendingEvents, System.pendingCommands, BridgeHeadSend.event?, pending,
        List.filterMap_cons]
    · simp [System.announced, System.pendingEvents, System.pendingDuals, BridgeHeadSend.event?, pending,
        List.filterMap_cons]

/-- Three of the internal steps can move the token. -/
theorem internal_cases (own : event.internal = true) (stepped : system.step prepare event = some next) :
    Framed system next ∨ system.observerHandles = some next ∨ system.bridgeHandlesCommand = some next ∨
      system.bridgeHandlesJobResult = some next := by
  cases event with
  | observerHandles => exact .inr (.inl stepped)
  | bridgeHandlesCommand => exact .inr (.inr (.inl stepped))
  | bridgeHandlesJobResult => exact .inr (.inr (.inr stepped))
  | observerSends =>
    rcases observerSends_cases stepped with ⟨command, rest, pending, rfl⟩
    refine .inl ⟨?_, rfl, rfl, rfl, rfl⟩
    simp [System.tokenView, System.pendingEvents, System.pendingCommands, pending]
  | bridgeHandlesFinality => exact .inl (framed_bridgeHandlesFinality stepped)
  | bridgeSends => exact .inl (framed_bridgeSends stepped)
  | detectorHandlesStage =>
    rcases detectorHandlesStage_cases stepped with ⟨_, _, _, _, rfl⟩
    exact .inl ⟨rfl, rfl, rfl, rfl, rfl⟩
  | detectorHandlesAdvance =>
    rcases detectorHandlesAdvance_cases stepped with ⟨_, _, _, _, rfl⟩
    exact .inl ⟨rfl, rfl, rfl, rfl, rfl⟩
  | detectorSends =>
    rcases detectorSends_cases stepped with ⟨dual, pending, rfl⟩
    refine .inl ⟨rfl, rfl, rfl, rfl, ?_⟩
    simp [System.announced, System.pendingEvents, System.pendingDuals, pending]
  | _ => cases own

/-- What the observer reads, with the token it has before and after. -/
theorem observerHandles_token (held : TokenInvariant system token) (stepped : system.observerHandles = some next) :
    ∃ read events observer commands, system.observerSends = [] ∧ system.events = read :: events ∧
      system.observer.onEvent read = .ok (observer, commands) ∧
      next = { system with observer := observer, observerSends := commands, events := events } := by
  rcases observerHandles_cases stepped with ⟨read, events, idle, pending, outcome⟩
  rcases tokenInvariant_onEvent held idle pending with ⟨_, _, _, handled, _⟩
  rcases outcome with ⟨observer, commands, taken, rfl⟩ | ⟨⟨failure, failed⟩, rfl⟩
  · exact ⟨read, events, observer, commands, idle, pending, taken, rfl⟩
  · rw [handled] at failed
    cases failed

theorem view_reads {read : BridgeHeadEvent S} {events : List (BridgeHeadEvent S)}
    (pending : system.events = read :: events) (observer : Observer S) (commands : List (Command S)) :
    (read.carriesToken = true ∧ system.tokenView.events = read ::
      ({ system with
        observer := observer, observerSends := commands, events := events } : System S).tokenView.events) ∨
    (read.carriesToken = false ∧ system.tokenView.events =
      ({ system with
        observer := observer, observerSends := commands, events := events } : System S).tokenView.events) := by
  cases carries : read.carriesToken with
  | true => exact .inl ⟨rfl, by simp [System.tokenView, System.pendingEvents, pending, carries]⟩
  | false => exact .inr ⟨rfl, by simp [System.tokenView, System.pendingEvents, pending, carries]⟩

theorem announced_reads {read : BridgeHeadEvent S} {events : List (BridgeHeadEvent S)}
    (pending : system.events = read :: events) (observer : Observer S) (commands : List (Command S)) :
    system.announced = read.detected?.toList ++
      ({ system with observer := observer, observerSends := commands, events := events } : System S).announced := by
  simp only [System.announced, System.pendingEvents, System.pendingDuals, pending, List.cons_append,
    List.filterMap_cons]
  cases read.detected? <;> rfl

/-- An event that neither carries the token nor announces a window is passed over. -/
theorem onEvent_ignores {observer observer' : Observer S} {read : BridgeHeadEvent S} {commands : List (Command S)}
    (handled : observer.onEvent read = .ok (observer', commands)) (light : read.carriesToken = false)
    (silent : read.detected? = none) : observer' = observer ∧ commands = [] := by
  cases read with
  | proofMessage message => cases light
  | noticeMessage notice =>
    cases notice with
    | started data => cases light
    | jobFailed data => cases light
    | finalityTransitionDetected data => cases silent
    | _ =>
      cases handled
      exact ⟨rfl, rfl⟩

theorem detected_eq_some {read : BridgeHeadEvent S} {window : ProofInputsWithWindow S}
    (found : read.detected? = some window) : ∃ data, read = .noticeMessage (.finalityTransitionDetected data) ∧
      data.currentWindowProofInputsWithWindow = window := by
  cases read with
  | proofMessage message => cases found
  | noticeMessage notice =>
    cases notice with
    | finalityTransitionDetected data => exact ⟨data, rfl, Option.some.inj found⟩
    | _ => cases found

end Steps

section Heads

variable {position : FinalityChangeDetectorUpdate}

theorem headsFor_frame (heads : HeadsFor position system) (framed : Framed system next) : HeadsFor position next := by
  have view := framed.view
  have results : next.jobResults = system.jobResults := congrArg TokenView.jobResults view
  have commands : next.pendingCommands = system.pendingCommands := congrArg TokenView.commands view
  cases heads with
  | ended jobId outputs result output => exact .ended jobId outputs (results.trans result) output
  | proved message pending output => exact .proved message (view ▸ pending) output
  | taken atHead empty none =>
    refine .taken ?_ (results.trans empty) (view ▸ none)
    rw [System.head, commands, framed.position]
    exact atHead

theorem onEvent_stages {observer observer' : Observer S} {read : BridgeHeadEvent S} {commands : List (Command S)}
    (handled : observer.onEvent read = .ok (observer', commands)) (other : ∀ message, read ≠ .proofMessage message) :
    ∀ command ∈ commands, command.stages = true := by
  cases read with
  | proofMessage message => exact absurd rfl (other message)
  | noticeMessage notice =>
    cases notice with
    | finalityTransitionDetected data =>
      rcases onFinalityTransitionDetected_cases observer data with ⟨_, noted⟩ | ⟨_, noted⟩
      · cases noted.symm.trans handled
        simp
      · cases noted.symm.trans handled
        simp [Command.stages]
    | jobFailed data =>
      simp only [Observer.onEvent, Observer.onBridgeHeadTransitionNotice] at handled
      split at handled
      · split at handled
        · cases handled
          simp [Command.stages]
        · cases handled
      · cases handled
        simp
    | _ =>
      cases handled
      simp

/-- The observer passes a proof on as the advance that the head then stands at. -/
theorem onTransitionProofSucceeded_moves (observer : Observer S) (message : ProofMessage)
    (position : FinalityChangeDetectorUpdate) :
    (observer.onTransitionProofSucceeded message).2.foldl Command.moves position = message.output := by
  rcases onTransitionProofSucceeded_cases observer message with ⟨_, _, _, handled⟩ | handled
  · rw [handled]
    rfl
  · rw [handled]
    rfl

theorem headsFor_observerHandles (held : TokenInvariant system token) (heads : HeadsFor position system)
    (stepped : system.observerHandles = some next) : HeadsFor position next := by
  rcases observerHandles_token held stepped with ⟨read, events, observer, commands, idle, pending, handled, rfl⟩
  cases heads with
  | ended jobId outputs result output => exact .ended jobId outputs result output
  | proved message only output =>
    rcases view_reads pending observer commands with ⟨_, first⟩ | ⟨_, same⟩
    · rw [only] at first
      rcases List.cons_eq_cons.mp first with ⟨rfl, rest⟩
      have placed := held.placed
      simp only [System.tokenView, pendingEvents_cons pending, List.filter_cons, BridgeHeadEvent.carriesToken,
        ↓reduceIte] at placed
      rcases tokenAt_event placed with ⟨_, _, noCommands, _, _, noResults, _⟩
      have sent : (system.observer.onTransitionProofSucceeded message).2 = commands :=
        congrArg Prod.snd (Except.ok.inj handled)
      have free : system.commands = [] := (List.append_eq_nil_iff.mp noCommands).1
      refine .taken ?_ noResults ?_
      · rw [System.head, System.pendingCommands, free, List.nil_append, ← sent, onTransitionProofSucceeded_moves]
        exact output
      · intro message
        rw [← rest]
        exact List.not_mem_nil
    · exact .proved message (same.symm.trans only) output
  | taken atHead results none =>
    have fewer : ∀ message, .proofMessage message ∉ ({ system with
        observer := observer, observerSends := commands, events := events } : System S).tokenView.events := by
      intro message member
      apply none message
      rcases view_reads pending observer commands with ⟨_, first⟩ | ⟨_, same⟩
      · rw [first]
        exact List.mem_cons_of_mem _ member
      · rw [same]
        exact member
    have other : ∀ message, read ≠ .proofMessage message := by
      rintro message rfl
      rcases view_reads pending observer commands with ⟨_, first⟩ | ⟨light, _⟩
      · apply none message
        rw [first]
        exact List.mem_cons_self ..
      · cases light
    refine .taken ?_ results fewer
    rw [System.head, System.pendingCommands, idle, List.append_nil] at atHead
    rw [System.head, System.pendingCommands, List.foldl_append, moves_stages _ (onEvent_stages handled other)]
    exact atHead

/-- A command that is taken moves the bridge head as it was to move it. -/
theorem onCommand_position (bridge : BridgeHead S) (command : Command S) :
    (bridge.onCommand command).1.position = command.moves bridge.position := by
  cases command <;> rfl

theorem onCommand_light (bridge : BridgeHead S) (command : Command S) :
    ((bridge.onCommand command).2.filterMap BridgeHeadSend.event?).filter BridgeHeadEvent.carriesToken = [] ∧
      ((bridge.onCommand command).2.filterMap BridgeHeadSend.event?).filterMap BridgeHeadEvent.detected? = [] := by
  cases command <;> exact ⟨rfl, rfl⟩

theorem headsFor_bridgeHandlesCommand (heads : HeadsFor position system)
    (stepped : system.bridgeHandlesCommand = some next) : HeadsFor position next := by
  rcases bridgeHandlesCommand_cases stepped with ⟨command, commands, quiet, pending, rfl⟩
  have light := (onCommand_light system.bridge command).1
  cases heads with
  | ended jobId outputs result output => exact .ended jobId outputs result output
  | proved message only output =>
    refine .proved message ?_ output
    simp only [System.tokenView, pendingEvents_ready quiet] at only
    simp only [System.tokenView, System.pendingEvents, List.filter_append, light, only, List.append_nil]
  | taken atHead results none =>
    refine .taken ?_ results ?_
    · simp only [System.head, System.pendingCommands, pending, List.cons_append, List.foldl_cons] at atHead
      simp only [System.head, System.pendingCommands, onCommand_position]
      exact atHead
    · simp only [System.tokenView, pendingEvents_ready quiet] at none
      simp only [System.tokenView, System.pendingEvents, List.filter_append, light, List.append_nil]
      exact none

/-- The result of the only job is the only thing that carries the token on. -/
theorem onJobResult_proved {bridge : BridgeHead S} {jobId : UInt64} {window : ProofInputsWithWindow S}
    (jobs : bridge.proverJobs = [(jobId, window)]) (outputs : ProofOutputs) :
    ∃ sends message,
      bridge.onJobResult (.proved jobId outputs.toBytes) = .ok ({ bridge with proverJobs := [] }, sends) ∧
      (sends.filterMap BridgeHeadSend.event?).filter BridgeHeadEvent.carriesToken = [.proofMessage message] ∧
      message.output = outputs.position := by
  simp only [BridgeHead.onJobResult, BridgeHead.handleProverSuccess, jobs, List.lookup_cons_self, fromBytes_toBytes,
    Outcome.expect, Outcome.fromResult, ok_bind, ne_eq, not_true_eq_false, decide_false, List.filter_cons,
    List.filter_nil, Bool.false_eq_true, ↓reduceIte]
  exact ⟨_, _, rfl, rfl, rfl⟩

theorem headsFor_bridgeHandlesJobResult (held : TokenInvariant system token) (heads : HeadsFor position system)
    (stepped : system.bridgeHandlesJobResult = some next) : HeadsFor position next := by
  rcases bridgeHandlesJobResult_cases stepped with ⟨result, rest, quiet, pending, outcome⟩
  have placed := held.placed
  simp only [System.tokenView, pending, pendingEvents_ready quiet] at placed
  rcases tokenAt_result placed with ⟨window, _, _, noEvents, _, _, jobs, _, noResults⟩
  cases heads with
  | ended jobId outputs only output =>
    rw [pending] at only
    rcases List.cons_eq_cons.mp only with ⟨rfl, _⟩
    rcases onJobResult_proved jobs outputs with ⟨sends, message, handled, sent, positioned⟩
    rcases outcome with ⟨bridge, sends', handled', rfl⟩ | ⟨⟨failure, failed⟩, rfl⟩
    · cases handled.symm.trans handled'
      refine .proved message ?_ (positioned.trans output)
      simp only [System.tokenView, System.pendingEvents, List.filter_append, noEvents, sent, List.nil_append]
    · cases handled.symm.trans failed
  | proved message only _ =>
    simp only [System.tokenView, pendingEvents_ready quiet, noEvents] at only
    cases only
  | taken _ results _ =>
    rw [pending] at results
    cases results

theorem headsFor_step (held : TokenInvariant system token) (heads : HeadsFor position system)
    (own : event.internal = true) (stepped : system.step prepare event = some next) : HeadsFor position next := by
  rcases internal_cases own stepped with framed | read | commanded | ended
  · exact headsFor_frame heads framed
  · exact headsFor_observerHandles held heads read
  · exact headsFor_bridgeHandlesCommand heads commanded
  · exact headsFor_bridgeHandlesJobResult held heads ended

/-- At rest nothing is on its way any more. -/
theorem headsFor_rests (heads : HeadsFor position system) (rests : Resting system) :
    system.bridge.position = position := by
  cases heads with
  | ended jobId outputs result _ =>
    rw [rests.jobResults] at result
    cases result
  | proved message only _ =>
    simp [System.tokenView, System.pendingEvents, rests.events, rests.bridgeSends] at only
  | taken atHead _ _ =>
    rw [System.head, System.pendingCommands, rests.commands, rests.observerSends] at atHead
    exact atHead

end Heads

section Staging

variable {count : UInt64} {window : ProofInputsWithWindow S}

theorem stages_frame (stages : Stages count window system) (framed : Framed system next) :
    Stages count window next := by
  have view := framed.view
  have results : next.jobResults = system.jobResults := congrArg TokenView.jobResults view
  have commands : next.pendingCommands = system.pendingCommands := congrArg TokenView.commands view
  have jobs : next.bridge.proverJobs = system.bridge.proverJobs := congrArg TokenView.proverJobs view
  cases stages with
  | announced flag first free counted =>
    exact .announced (framed.observer ▸ flag) (framed.announced.trans first) (commands.trans free)
      (framed.jobId.trans counted)
  | failed cached still counted failed =>
    exact .failed (framed.observer ▸ cached) (framed.announced.trans still) (framed.jobId.trans counted)
      (results ▸ view ▸ failed)
  | commanded staged counted => exact .commanded (commands.trans staged) (framed.jobId.trans counted)
  | created job running => exact .created (jobs.trans job) (results.trans running)

/-- Where the token is while the window is on its way. -/
theorem tokenAt_commanded {staged : ProofInputsWithWindow S} (held : TokenInvariant system token)
    (commanded : system.pendingCommands = [.stageTransitionProof staged]) :
    system.tokenView.events = [] ∧ system.observer.stageTransitionProof = false ∧ system.bridge.proverJobs = [] ∧
      system.jobResults = [] := by
  have placed := held.placed
  have shown : system.tokenView = ⟨system.tokenView.events, system.observer.stageTransitionProof,
      [.stageTransitionProof staged], system.bridge.proverJobs, system.proving, system.jobResults⟩ := by
    rw [← commanded]
    rfl
  rw [shown] at placed
  rcases tokenAt_command placed with ⟨_, other, _⟩ | ⟨_, _, _, noEvents, noFlag, _, noJobs, _, noResults⟩
  · cases other
  · exact ⟨noEvents, noFlag, noJobs, noResults⟩

theorem tokenAt_created {events : List (BridgeHeadEvent S)} {flag : Bool} {commands : List (Command S)}
    {job : UInt64 × ProofInputsWithWindow S} {proving : List (UInt64 × ProofInputs S)}
    (placed : TokenAt token ⟨events, flag, commands, [job], proving, []⟩) : commands = [] := by
  cases placed
  rfl

theorem tokenAt_staged {job : UInt64 × ProofInputsWithWindow S} (held : TokenInvariant system token)
    (jobs : system.bridge.proverJobs = [job]) : token.afterStaging = true := by
  have placed := held.placed
  have shown : system.tokenView.proverJobs = [job] := jobs
  generalize system.tokenView = view at placed shown
  cases placed with
  | proving jobId window => rfl
  | ended jobId window result own decodes => rfl
  | _ => cases shown

theorem tokenAt_waiting (held : TokenInvariant system token) (flag : system.observer.stageTransitionProof = true) :
    system.tokenView.events = [] ∧ system.jobResults = [] := by
  have placed := held.placed
  simp only [System.tokenView, flag] at placed
  rcases tokenAt_flagged placed with ⟨_, noEvents, _, _, noResults, _⟩
  exact ⟨noEvents, noResults⟩

theorem tokenAt_carried {read : BridgeHeadEvent S} {rest : List (BridgeHeadEvent S)}
    (held : TokenInvariant system token) (carried : system.tokenView.events = read :: rest) :
    rest = [] ∧ system.pendingCommands = [] ∧ system.jobResults = [] := by
  have placed := held.placed
  have shown : system.tokenView = ⟨read :: rest, system.observer.stageTransitionProof, system.pendingCommands,
      system.bridge.proverJobs, system.proving, system.jobResults⟩ := by
    rw [← carried]
    rfl
  rw [shown] at placed
  rcases tokenAt_event placed with ⟨alone, _, noCommands, _, _, noResults, _⟩
  exact ⟨alone, noCommands, noResults⟩

theorem stages_announced (held : TokenInvariant system token) (flag : system.observer.stageTransitionProof = true)
    (first : system.announced = [window]) (free : system.pendingCommands = []) (counted : system.bridge.jobId = count)
    (stepped : system.observerHandles = some next) : Stages count window next := by
  rcases observerHandles_token held stepped with ⟨read, events, observer, commands, idle, pending, handled, rfl⟩
  have announced := announced_reads pending observer commands
  have noCommands : system.commands = [] := (List.append_eq_nil_iff.mp free).1
  have light : read.carriesToken = false := by
    rcases view_reads pending observer commands with ⟨_, carried⟩ | ⟨light, _⟩
    · rw [(tokenAt_waiting held flag).1] at carried
      cases carried
    · exact light
  rw [first] at announced
  cases detected : read.detected? with
  | none =>
    rw [detected] at announced
    rcases onEvent_ignores handled light detected with ⟨rfl, rfl⟩
    exact .announced flag announced.symm (by simp [System.pendingCommands, noCommands]) counted
  | some found =>
    rw [detected] at announced
    rcases detected_eq_some detected with ⟨data, rfl, rfl⟩
    have same : window = data.currentWindowProofInputsWithWindow := (List.cons_eq_cons.mp announced).1
    rcases onFinalityTransitionDetected_cases system.observer data with ⟨noFlag, _⟩ | ⟨_, noted⟩
    · rw [flag] at noFlag
      cases noFlag
    · cases noted.symm.trans handled
      refine .commanded ?_ counted
      simp [System.pendingCommands, noCommands, same]

theorem stages_failed (held : TokenInvariant system token)
    (cached : system.observer.latestCurrentWindowValidatedProofInput = some window) (still : system.announced = [])
    (counted : system.bridge.jobId = count)
    (failed : (∃ jobId error, system.jobResults = [.failed jobId error]) ∨
      ∃ data, system.tokenView.events = [.noticeMessage (.jobFailed data)])
    (stepped : system.observerHandles = some next) : Stages count window next := by
  rcases observerHandles_token held stepped with ⟨read, events, observer, commands, idle, pending, handled, rfl⟩
  have announced := announced_reads pending observer commands
  rw [still] at announced
  rcases List.append_eq_nil_iff.mp announced.symm with ⟨silent, later⟩
  rcases view_reads pending observer commands with ⟨_, carried⟩ | ⟨light, same⟩
  · rcases tokenAt_carried held carried with ⟨_, free, noResults⟩
    rcases failed with ⟨jobId, error, result⟩ | ⟨data, only⟩
    · rw [noResults] at result
      cases result
    · rw [only] at carried
      rcases List.cons_eq_cons.mp carried with ⟨rfl, _⟩
      rcases tokenInvariant_failure held (pendingEvents_first pending) with ⟨retried, found, staged⟩
      cases staged.symm.trans handled
      cases cached.symm.trans found
      refine .commanded ?_ counted
      simp [System.pendingCommands, (List.append_eq_nil_iff.mp free).1]
  · rcases onEvent_ignores handled light (Option.toList_eq_nil_iff.mp silent) with ⟨rfl, rfl⟩
    rw [same] at failed
    exact .failed cached later counted failed

theorem stages_observerHandles (held : TokenInvariant system token) (stages : Stages count window system)
    (stepped : system.observerHandles = some next) : Stages count window next := by
  cases stages with
  | announced flag first free counted => exact stages_announced held flag first free counted stepped
  | failed cached still counted failed => exact stages_failed held cached still counted failed stepped
  | commanded staged counted =>
    rcases observerHandles_token held stepped with ⟨read, events, observer, commands, idle, pending, handled, rfl⟩
    rcases tokenAt_commanded held staged with ⟨noEvents, noFlag, _, _⟩
    have light : read.carriesToken = false := by
      rcases view_reads pending observer commands with ⟨_, carried⟩ | ⟨light, _⟩
      · rw [noEvents] at carried
        cases carried
      · exact light
    have quiet : commands = [] := by
      cases detected : read.detected? with
      | none => exact (onEvent_ignores handled light detected).2
      | some found =>
        rcases detected_eq_some detected with ⟨data, rfl, _⟩
        rcases onFinalityTransitionDetected_cases system.observer data with ⟨_, noted⟩ | ⟨flag, _⟩
        · cases noted.symm.trans handled
          rfl
        · rw [noFlag] at flag
          cases flag
    refine .commanded ?_ counted
    rw [System.pendingCommands, idle] at staged
    rw [System.pendingCommands, quiet]
    exact staged
  | created job running =>
    rcases observerHandles_token held stepped with ⟨read, events, observer, commands, idle, pending, handled, rfl⟩
    exact .created job running

theorem stages_bridgeHandlesCommand (held : TokenInvariant system token) (stages : Stages count window system)
    (stepped : system.bridgeHandlesCommand = some next) : Stages count window next := by
  rcases bridgeHandlesCommand_cases stepped with ⟨command, commands, quiet, pending, rfl⟩
  have placed := held.placed
  simp only [System.tokenView, System.pendingCommands, pending, List.cons_append] at placed
  have some : system.pendingCommands ≠ [] := by simp [System.pendingCommands, pending]
  cases stages with
  | announced flag first free counted => exact absurd free some
  | failed cached still counted failed =>
    rcases failed with ⟨jobId, error, result⟩ | ⟨data, only⟩
    · rw [result] at placed
      rcases tokenAt_result placed with ⟨_, _, _, _, _, noCommands, _⟩
      cases noCommands
    · exact absurd (tokenAt_carried held only).2.1 some
  | commanded staged counted =>
    rcases tokenAt_commanded held staged with ⟨_, _, noJobs, noResults⟩
    rw [System.pendingCommands, pending] at staged
    rcases List.cons_eq_cons.mp staged with ⟨rfl, _⟩
    refine .created ?_ noResults
    simp [BridgeHead.onCommand, BridgeHead.stageTransitionProof, BridgeHead.insertJob, noJobs, counted]
  | created job running =>
    rw [job, running] at placed
    cases tokenAt_created placed

theorem onJobResult_failed {bridge : BridgeHead S} {jobId : UInt64} {window : ProofInputsWithWindow S}
    (jobs : bridge.proverJobs = [(jobId, window)]) (error : String) :
    ∃ sends data, bridge.onJobResult (.failed jobId error) = .ok ({ bridge with proverJobs := [] }, sends) ∧
      sends.filterMap BridgeHeadSend.event? = [.noticeMessage (.jobFailed data)] := by
  simp only [BridgeHead.onJobResult, BridgeHead.handleProverFailure, jobs, List.lookup_cons_self, Outcome.expect,
    ok_bind, ne_eq, not_true_eq_false, decide_false, List.filter_cons, List.filter_nil, Bool.false_eq_true, ↓reduceIte]
  exact ⟨_, _, rfl, rfl⟩

theorem onJobResult_silent {bridge bridge' : BridgeHead S} {result : ProverJobResult}
    {sends : List (BridgeHeadSend S)} (handled : bridge.onJobResult result = .ok (bridge', sends)) :
    (sends.filterMap BridgeHeadSend.event?).filterMap BridgeHeadEvent.detected? = [] := by
  cases result with
  | proved jobId publicValues =>
    simp only [BridgeHead.onJobResult, BridgeHead.handleProverSuccess, bind_ok_iff, pure_ok_iff,
      Prod.mk.injEq] at handled
    rcases handled with ⟨_, _, _, _, _, rfl⟩
    rfl
  | failed jobId error =>
    simp only [BridgeHead.onJobResult, BridgeHead.handleProverFailure, bind_ok_iff, pure_ok_iff,
      Prod.mk.injEq] at handled
    rcases handled with ⟨_, _, _, rfl⟩
    rfl

theorem stages_bridgeHandlesJobResult (held : TokenInvariant system token) (stages : Stages count window system)
    (stepped : system.bridgeHandlesJobResult = some next) : Stages count window next := by
  rcases bridgeHandlesJobResult_cases stepped with ⟨result, rest, quiet, pending, outcome⟩
  have placed := held.placed
  simp only [System.tokenView, pending, pendingEvents_ready quiet] at placed
  rcases tokenAt_result placed with ⟨proved, _, _, noEvents, _, _, jobs, _, _⟩
  have some : system.jobResults ≠ [] := by simp [pending]
  cases stages with
  | announced flag first free counted => exact absurd (tokenAt_waiting held flag).2 some
  | failed cached still counted failed =>
    rcases failed with ⟨jobId, error, only⟩ | ⟨data, only⟩
    · rw [pending] at only
      rcases List.cons_eq_cons.mp only with ⟨rfl, _⟩
      rcases onJobResult_failed jobs error with ⟨sends, data, handled, sent⟩
      rcases outcome with ⟨bridge, sends', handled', rfl⟩ | ⟨⟨failure, broken⟩, rfl⟩
      · cases handled.symm.trans handled'
        refine .failed cached ?_ counted (.inr ⟨data, ?_⟩)
        · rw [System.announced, pendingEvents_ready quiet] at still
          rcases List.append_eq_nil_iff.mp still with ⟨silent, noDuals⟩
          rw [System.announced, System.pendingEvents, sent, List.filterMap_append, silent]
          exact noDuals
        · simp only [System.tokenView, System.pendingEvents, sent, List.filter_append, noEvents, List.nil_append]
          rfl
      · cases handled.symm.trans broken
    · exact absurd (tokenAt_carried held only).2.2 some
  | commanded staged counted => exact absurd (tokenAt_commanded held staged).2.2.2 some
  | created job running => exact absurd running some

theorem stages_step (held : TokenInvariant system token) (stages : Stages count window system)
    (own : event.internal = true) (stepped : system.step prepare event = some next) : Stages count window next := by
  rcases internal_cases own stepped with framed | read | commanded | ended
  · exact stages_frame stages framed
  · exact stages_observerHandles held stages read
  · exact stages_bridgeHandlesCommand held stages commanded
  · exact stages_bridgeHandlesJobResult held stages ended

theorem stages_rests (stages : Stages count window system) (rests : Resting system) :
    system.bridge.proverJobs = [(count + 1, window)] := by
  cases stages with
  | announced flag first free counted =>
    simp [System.announced, System.pendingEvents, System.pendingDuals, rests.events, rests.bridgeSends,
      rests.finalityOutput, rests.detectorSends] at first
  | failed cached still counted failed =>
    rcases failed with ⟨_, _, result⟩ | ⟨data, only⟩
    · rw [rests.jobResults] at result
      cases result
    · simp [System.tokenView, System.pendingEvents, rests.events, rests.bridgeSends] at only
  | commanded staged counted =>
    rw [System.pendingCommands, rests.commands, rests.observerSends] at staged
    cases staged
  | created job running => exact job

end Staging

section Settling

theorem announced_fewer (own : event.internal = true) (stepped : system.step prepare event = some next) :
    next.announced.length ≤ system.announced.length := by
  rcases internal_cases own stepped with framed | read | commanded | ended
  · rw [framed.announced]
  · rcases observerHandles_cases read with ⟨read, events, _, pending, ⟨observer, commands, _, rfl⟩ | ⟨_, rfl⟩⟩
    · rw [announced_reads pending observer commands, List.length_append]
      omega
    · have announced := announced_reads pending system.observer system.observerSends
      rw [announced, List.length_append]
      exact Nat.le_add_left ..
  · rcases bridgeHandlesCommand_cases commanded with ⟨command, _, quiet, _, rfl⟩
    have silent := (onCommand_light system.bridge command).2
    simp [System.announced, System.pendingEvents, System.pendingDuals, quiet, silent]
  · rcases bridgeHandlesJobResult_cases ended with ⟨result, _, quiet, _, ⟨_, _, handled, rfl⟩ | ⟨_, rfl⟩⟩
    · have silent := onJobResult_silent handled
      simp [System.announced, System.pendingEvents, System.pendingDuals, quiet, silent]
    · exact Nat.le_refl _

/-- For a circular wait the detector must be sending a second window. -/
theorem not_circularWait_of_few (few : system.announced.length ≤ 1) : ¬ CircularWait system := by
  rintro ⟨sending, full, _⟩
  rcases Option.isSome_iff_exists.mp sending with ⟨dual, pending⟩
  have several : 2 ≤ system.announced.length := by
    simp only [System.announced, System.pendingDuals, pending, List.length_append, List.length_map,
      Option.toList_some, List.length_singleton]
    simp only [finalityCapacity] at full
    omega
  omega

theorem idle_rests (kept : Orderly system) (free : ¬ CircularWait system) (idle : Idle prepare system) :
    Resting system := by
  rcases works_or_rests prepare kept free with ⟨event, next, own, stepped, _⟩ | rests
  · rw [idle event own] at stepped
    cases stepped
  · exact rests

/-- The work left bounds the steps, and what every step keeps track of is there at rest. -/
theorem settles_of_track {track goal : System S → Prop} (kept : Orderly system) (few : system.announced.length ≤ 1)
    (tracked : track system)
    (preserved : ∀ (state : System S) (event : SystemEvent β) (next : System S) (token : Token S),
      TokenInvariant state token → track state → event.internal = true → state.step prepare event = some next →
      track next)
    (arrives : ∀ state, Orderly state → track state → Resting state → goal state) :
    SettlesAs prepare system.work goal system := by
  intro steps later own reached
  have bounded : steps.length + later.work ≤ system.work :=
    run_length_le (fun _ _ _ internal stepped => internal_less internal stepped) own reached
  refine ⟨by omega, ?_⟩
  intro idle
  have each : ∀ (state : System S) (event : SystemEvent β) (next : System S),
      (Orderly state ∧ state.announced.length ≤ 1 ∧ track state) → event.internal = true →
      state.step prepare event = some next → Orderly next ∧ next.announced.length ≤ 1 ∧ track next := by
    rintro state event next ⟨orderly, below, tracked⟩ internal stepped
    rcases orderly.2 with ⟨token, held⟩
    exact ⟨orderly_step orderly stepped, Nat.le_trans (announced_fewer internal stepped) below,
      preserved state event next token held tracked internal stepped⟩
  rcases run_invariant each ⟨kept, few, tracked⟩ (along_of_forall own) reached with ⟨orderly, below, tracked⟩
  have rests := idle_rests orderly (not_circularWait_of_few below) idle
  exact ⟨rests, arrives later orderly tracked rests⟩

end Settling

section Rest

theorem rests_work (rests : Resting system) : system.work = 0 := by
  simp [System.work, rests.events, rests.bridgeSends, rests.observerSends, rests.commands, rests.stageUpdates,
    rests.advanceUpdates, rests.finalityOutput, rests.detectorSends, rests.jobResults]

theorem rests_announced (rests : Resting system) : system.announced = [] := by
  simp [System.announced, System.pendingEvents, System.pendingDuals, rests.events, rests.bridgeSends,
    rests.finalityOutput, rests.detectorSends]

theorem rests_proving {jobId : UInt64} {window : ProofInputsWithWindow S} (rests : Resting system)
    (job : system.bridge.proverJobs = [(jobId, window)]) : system.proving = [(jobId, window.proofInputs)] := by
  rcases rests.awaits with ⟨_, none, _⟩ | ⟨other, staged, booked, running⟩
  · rw [job] at none
    cases none
  · cases job.symm.trans booked
    exact running

/-- The one job ends and its result is all there is to be done. -/
theorem rests_ended {jobId : UInt64} {window : ProofInputsWithWindow S} (rests : Resting system)
    (job : system.bridge.proverJobs = [(jobId, window)]) (result : UInt64 → ProverJobResult) :
    system.proverEnds 0 result = some { system with proving := [], jobResults := [result jobId] } ∧
      ({ system with proving := [], jobResults := [result jobId] } : System S).work = 17 := by
  constructor
  · simp [System.proverEnds, rests_proving rests job, rests.jobResults, jobCapacity]
  · have done := rests_work rests
    simp only [System.work, rests.jobResults, List.length_nil, List.length_singleton] at done ⊢
    omega

theorem proof_settles {jobId : UInt64} {window : ProofInputsWithWindow S} (kept : Orderly system)
    (rests : Resting system)
    (job : system.bridge.proverJobs = [(jobId, window)]) (outputs : ProofOutputs) :
    ∃ ended, system.step prepare (.proverProves 0 outputs) = some ended ∧
      SettlesAs prepare 17 (fun later => later.bridge.position = outputs.position) ended := by
  rcases rests_ended rests job (fun jobId => .proved jobId outputs.toBytes) with ⟨ends, work⟩
  have stepped : system.step prepare (.proverProves 0 outputs) = _ := ends
  refine ⟨_, stepped, ?_⟩
  rw [← work]
  refine settles_of_track (orderly_step kept stepped) ?_ (HeadsFor.ended jobId outputs rfl rfl) ?_ ?_
  · show system.announced.length ≤ 1
    simp [rests_announced rests]
  · intro state event next token held heads own stepped
    exact headsFor_step held heads own stepped
  · intro state _ heads rests
    exact headsFor_rests heads rests

end Rest

/-- Whatever order the tasks take their steps in, the result of a job settles within 17 steps: a proof moves the bridge
    head to its output, and a failure is followed by a job for the window that the observer has cached. -/
theorem prover_result_settles (prepare : Prepare S β) (slot : UInt64) (storeHash : B256)
    (queueCursor latestBeaconSlot : UInt64) (events : List (SystemEvent β)) (system : System S)
    (reached : run (System.step prepare) (System.start slot storeHash queueCursor latestBeaconSlot) events =
      some system) (rests : Resting system) (jobId : UInt64) (window : ProofInputsWithWindow S)
    (job : system.bridge.proverJobs = [(jobId, window)]) :
    (∀ outputs, ∃ ended, system.step prepare (.proverProves 0 outputs) = some ended ∧
      SettlesAs prepare 17 (fun later => later.bridge.position = outputs.position) ended) ∧
    ∀ error, ∃ ended retried, system.step prepare (.proverFails 0 error) = some ended ∧
      system.observer.latestCurrentWindowValidatedProofInput = some retried ∧
      SettlesAs prepare 17 (fun later => later.bridge.proverJobs = [(system.bridge.jobId + 1, retried)]) ended := by
  have kept := orderly_run reached
  constructor
  · intro outputs
    exact proof_settles kept rests job outputs
  · intro error
    rcases rests_ended rests job (fun jobId => .failed jobId error) with ⟨ends, work⟩
    have stepped : system.step prepare (.proverFails 0 error) = _ := ends
    rcases kept.2 with ⟨token, held⟩
    rcases Option.isSome_iff_exists.mp (held.cached (tokenAt_staged held job)) with ⟨retried, cached⟩
    refine ⟨_, retried, stepped, cached, ?_⟩
    rw [← work]
    have silent := rests_announced rests
    refine settles_of_track (orderly_step kept stepped) ?_
      (Stages.failed cached silent rfl (.inl ⟨jobId, error, rfl⟩)) ?_ ?_
    · show system.announced.length ≤ 1
      simp [silent]
    · intro state event next token held stages own stepped
      exact stages_step held stages own stepped
    · intro state _ stages rests
      exact stages_rests stages rests

section Polls

variable {providers : β × β} {dual : DualProofInputsWithWindow S}

/-- The polls that lead the detector to send the windows, whatever it was doing. -/
def Polls (prepare : Prepare S β) (providers : β × β) (dual : DualProofInputsWithWindow S) (bound : Nat)
    (system : System S) : Prop :=
  ∃ polls detector, polls.length ≤ bound ∧
    (∀ poll ∈ polls, poll = .detectorTicks ∨ poll = .detectorHandlesResult providers) ∧
    run (System.step prepare) system polls =
      some { system with detector := detector, detectorSends := some dual, validating := [] }

theorem polls_mono {bound bound' : Nat} (below : bound ≤ bound') (found : Polls prepare providers dual bound system) :
    Polls prepare providers dual bound' system := by
  rcases found with ⟨polls, detector, short, each, reached⟩
  exact ⟨polls, detector, Nat.le_trans short below, each, reached⟩

theorem polls_cons {bound : Nat} {detector : Detector} {validating : List FinalityChangeDetectorJobInput}
    {poll : SystemEvent β} (named : poll = .detectorTicks ∨ poll = .detectorHandlesResult providers)
    (stepped : system.step prepare poll = some { system with detector := detector, validating := validating })
    (later : Polls prepare providers dual bound { system with detector := detector, validating := validating }) :
    Polls prepare providers dual (bound + 1) system := by
  rcases later with ⟨polls, last, short, each, reached⟩
  refine ⟨poll :: polls, last, Nat.succ_le_succ short, ?_, run_cons_iff.mpr ⟨_, stepped, reached⟩⟩
  rw [List.forall_mem_cons]
  exact ⟨named, each⟩

theorem onResult_emits {detector : Detector} (fresh : detector.stale = false)
    (finalizes : Finalizes prepare providers detector dual) :
    detector.onResult (.ok dual) = ⟨{ detector with
      inFlight := false, latestSlot := dual.currentWindow.expectedOutputSlot }, none, some dual⟩ := by
  have ahead : ¬ dual.currentWindow.expectedOutputSlot ≤ detector.latestSlot :=
    UInt64.not_le.mpr finalizes.beyond.1
  unfold Detector.onResult
  dsimp only
  rw [if_neg (by simp [fresh]), if_neg (by simp [finalizes.fromSlot]), if_neg ahead]
  cases window : dual.nextWindow with
  | none => rfl
  | some nextWindow =>
    dsimp only
    rw [if_pos (finalizes.beyond.2 nextWindow window)]

theorem polls_fresh (idle : system.detectorSends = none) (fresh : system.detector.stale = false)
    (validating : system.validating = [system.detector.jobInput])
    (finalizes : Finalizes prepare providers system.detector dual) : Polls prepare providers dual 1 system := by
  have stepped : system.step prepare (.detectorHandlesResult providers) = some { system with
      detector := { system.detector with
        inFlight := false, latestSlot := dual.currentWindow.expectedOutputSlot }
      detectorSends := some dual
      validating := [] } := by
    simp only [System.step, System.detectorHandlesResult, idle, validating, actorResult_of_ok finalizes.prepared,
      Outcome.fromResult, onResult_emits fresh finalizes, System.detectorReacts, Option.toList_none, List.append_nil]
  refine ⟨[.detectorHandlesResult providers], _, Nat.le_refl 1, by simp, run_cons_iff.mpr ⟨_, stepped, rfl⟩⟩

theorem polls_stale (idle : system.detectorSends = none) (stale : system.detector.stale = true)
    {job : FinalityChangeDetectorJobInput} (validating : system.validating = [job])
    {answer : DualProofInputsWithWindow S} (answered : actorResult prepare providers job = some (.ok answer))
    (finalizes : Finalizes prepare providers system.detector dual) : Polls prepare providers dual 2 system := by
  have stepped : system.step prepare (.detectorHandlesResult providers) = some { system with
      detector := { system.detector with inFlight := true, stale := false }
      validating := [system.detector.jobInput] } := by
    simp [System.step, System.detectorHandlesResult, idle, validating, answered, Outcome.fromResult,
      Detector.onResult, stale, System.detectorReacts, Detector.tryStartValidationJob, Detector.jobInput]
  apply polls_cons (.inr rfl) stepped
  exact polls_fresh idle rfl rfl ⟨finalizes.prepared, finalizes.fromSlot, finalizes.beyond⟩

theorem polls_waiting (idle : system.detectorSends = none) (waiting : system.detector.inFlight = false)
    (validating : system.validating = []) (finalizes : Finalizes prepare providers system.detector dual) :
    Polls prepare providers dual 3 system := by
  have stepped : system.step prepare .detectorTicks = some { system with
      detector := { system.detector with inFlight := true }
      validating := [system.detector.jobInput] } := by
    simp [System.step, System.detectorTicks, idle, validating, Detector.onTick, waiting, System.detectorReacts,
      Detector.tryStartValidationJob]
  apply polls_cons (.inl rfl) stepped
  have again : Finalizes prepare providers { system.detector with inFlight := true } dual :=
    ⟨finalizes.prepared, finalizes.fromSlot, finalizes.beyond⟩
  cases stale : system.detector.stale with
  | false =>
    apply polls_mono (by decide : 1 ≤ 2)
    exact polls_fresh idle stale rfl again
  | true => exact polls_stale idle stale rfl (actorResult_of_ok again.prepared) again

/-- A job that is under way ends first, well or badly; after a failure its stale flag is still to be got over. -/
theorem polls_reach {slot : UInt64} {storeHash : B256} {queueCursor latestBeaconSlot : UInt64}
    {events : List (SystemEvent β)}
    (reached : run (System.step prepare) (System.start slot storeHash queueCursor latestBeaconSlot) events =
      some system) (idle : system.detectorSends = none) (survives : system.SurvivesJobs prepare providers)
    (finalizes : Finalizes prepare providers system.detector dual) : Polls prepare providers dual 4 system := by
  rcases (system_detector reached).1 with ⟨state, kept, sameDetector, sameJobs⟩
  cases inFlight : system.detector.inFlight with
  | false =>
    have validating : system.validating = [] := by
      rw [← sameJobs]
      exact kept.idle (sameDetector ▸ inFlight)
    exact polls_mono (by decide) (polls_waiting idle inFlight validating finalizes)
  | true =>
    rcases kept.busy (sameDetector ▸ inFlight) with ⟨job, validating⟩
    rw [sameJobs] at validating
    cases stale : system.detector.stale with
    | false =>
      have present := (kept.fresh (sameDetector ▸ inFlight) (sameDetector ▸ stale)).1
      rw [sameJobs, sameDetector] at present
      exact polls_mono (by decide) (polls_fresh idle stale present finalizes)
    | true =>
      rcases Option.isSome_iff_exists.mp (survives job (by simp [validating])) with ⟨result, answered⟩
      cases result with
      | ok answer =>
        exact polls_mono (by decide) (polls_stale idle stale validating answered finalizes)
      | error error =>
        have stepped : system.step prepare (.detectorHandlesResult providers) = some { system with
            detector := { system.detector with inFlight := false }, validating := [] } := by
          simp [System.step, System.detectorHandlesResult, idle, validating, answered, Outcome.fromResult,
            Outcome.fail, Detector.onResult, System.detectorReacts, Detector.quiet]
        apply polls_cons (.inr rfl) stepped
        exact polls_waiting idle rfl rfl ⟨finalizes.prepared, finalizes.fromSlot, finalizes.beyond⟩

/-- What holds once the window is with the prover is where every order of the steps ends. -/
theorem found_settles {slot : UInt64} {storeHash : B256} {queueCursor latestBeaconSlot : UInt64}
    {events : List (SystemEvent β)} {goal : System S → Prop}
    (reached : run (System.step prepare) (System.start slot storeHash queueCursor latestBeaconSlot) events =
      some system) (rests : Resting system) (waiting : system.observer.stageTransitionProof = true)
    (survives : system.SurvivesJobs prepare providers)
    (finalizes : Finalizes prepare providers system.detector dual)
    (arrives : ∀ state, Orderly state → Resting state →
      state.bridge.proverJobs = [(system.bridge.jobId + 1, dual.currentWindow)] → goal state) :
    ∃ polls found, polls.length ≤ 4 ∧
      (∀ poll ∈ polls, poll = .detectorTicks ∨ poll = .detectorHandlesResult providers) ∧
      run (System.step prepare) system polls = some found ∧ SettlesAs prepare 16 goal found := by
  rcases polls_reach reached rests.detectorSends survives finalizes with ⟨polls, detector, short, each, polled⟩
  refine ⟨polls, _, short, each, polled, ?_⟩
  have kept := orderly_run (run_append.mpr ⟨system, reached, polled⟩)
  have work : ({ system with detector := detector, detectorSends := some dual, validating := [] } : System S).work =
      16 := by
    have done := rests_work rests
    simp only [System.work, rests.detectorSends, Option.toList_none, Option.toList_some, List.length_nil,
      List.length_singleton] at done ⊢
    omega
  have announced : ({ system with
      detector := detector, detectorSends := some dual, validating := [] } : System S).announced =
      [dual.currentWindow] := by
    simp [System.announced, System.pendingEvents, System.pendingDuals, rests.events, rests.bridgeSends,
      rests.finalityOutput]
  have free : system.pendingCommands = [] := by
    rw [System.pendingCommands, rests.commands, rests.observerSends]
    rfl
  rw [← work]
  refine settles_of_track kept ?_ (Stages.announced waiting announced free rfl) ?_ ?_
  · simp [announced]
  · intro state event next token held stages own stepped
    exact stages_step held stages own stepped
  · intro state orderly stages rests
    exact arrives state orderly rests (stages_rests stages rests)

end Polls

/-- While the observer waits for a finality change, four polls suffice to find one that the providers know of, and then
    the tasks stage its window within 16 steps, whatever their order. -/
theorem finality_change_stages (prepare : Prepare S β) (slot : UInt64) (storeHash : B256)
    (queueCursor latestBeaconSlot : UInt64) (events : List (SystemEvent β)) (system : System S)
    (reached : run (System.step prepare) (System.start slot storeHash queueCursor latestBeaconSlot) events =
      some system) (rests : Resting system) (waiting : system.observer.stageTransitionProof = true)
    (providers : β × β) (survives : system.SurvivesJobs prepare providers) (dual : DualProofInputsWithWindow S)
    (finalizes : Finalizes prepare providers system.detector dual) :
    ∃ polls found, polls.length ≤ 4 ∧
      (∀ poll ∈ polls, poll = .detectorTicks ∨ poll = .detectorHandlesResult providers) ∧
      run (System.step prepare) system polls = some found ∧
      SettlesAs prepare 16
        (fun later => later.bridge.proverJobs = [(system.bridge.jobId + 1, dual.currentWindow)]) found := by
  exact found_settles reached rests waiting survives finalizes fun _ _ _ job => job

section Sample

open NoriModel.Sample

theorem rests_of_work (prepare : Prepare S β) (kept : Orderly system) (done : system.work = 0) : Resting system := by
  have idle : Idle prepare system := by
    intro event own
    by_contra taken
    rcases Option.ne_none_iff_exists'.mp taken with ⟨next, stepped⟩
    have less := internal_less own stepped
    omega
  have unsent : system.detectorSends.toList.length = 0 := by
    simp only [System.work] at done
    omega
  apply idle_rests kept (not_circularWait_of_idle ?_) idle
  exact Option.toList_eq_nil_iff.mp (List.eq_nil_of_length_eq_zero unsent)

/-- The tasks have nothing left to do while the first job is proved. -/
def restingEvents : List (SystemEvent (ConsensusHttpProxy Minimal.spec)) :=
  stagingEvents ++ [.detectorHandlesStage, .observerHandles]

theorem prover_result_settles_sample : ∃ system ended : System Minimal.spec,
    run (System.step (preparing known.crypto)) pipelineStart restingEvents = some system ∧
    system.step (preparing known.crypto) (.proverProves 0 firstOutputs) = some ended ∧
    SettlesAs (preparing known.crypto) 17 (fun later => later.bridge.currentSlot = 96) ended := by
  have reaches : (run (System.step (preparing known.crypto)) pipelineStart restingEvents).any (fun system =>
      system.work = 0 && system.bridge.proverJobs.length = 1) = true := by decide +kernel
  rcases (Option.any_eq_true _ _).mp reaches with ⟨system, reached, facts⟩
  simp only [Bool.and_eq_true, decide_eq_true_eq] at facts
  rcases List.length_eq_one_iff.mp facts.2 with ⟨⟨jobId, window⟩, job⟩
  have rests := rests_of_work (preparing known.crypto) (orderly_run reached) facts.1
  rcases (prover_result_settles (preparing known.crypto) 64 syncedStoreHash0 0 96 restingEvents system reached rests
    jobId window job).1 firstOutputs with ⟨ended, stepped, settles⟩
  refine ⟨system, ended, reached, stepped, ?_⟩
  intro steps later own after
  rcases settles steps later own after with ⟨bounded, settled⟩
  refine ⟨bounded, ?_⟩
  intro idle
  rcases settled idle with ⟨rests, positioned⟩
  exact ⟨rests, congrArg FinalityChangeDetectorUpdate.slot positioned⟩

/-- The started notice is read, the observer waits and a first validation is under way; finality has reached slot 96. -/
theorem finality_change_stages_sample : ∃ (system found : System Minimal.spec)
    (window : ProofInputsWithWindow Minimal.spec),
    run (System.step (preparing known.crypto)) pipelineStart [.bridgeSends, .observerHandles, .detectorTicks] =
      some system ∧
    (∃ polls, run (System.step (preparing known.crypto)) system polls = some found) ∧
    SettlesAs (preparing known.crypto) 16 (fun later => later.bridge.proverJobs = [(1, window)]) found := by
  have reaches : (run (System.step (preparing known.crypto)) pipelineStart
      [.bridgeSends, .observerHandles, .detectorTicks]).any (fun system =>
        system.work = 0 && (system.observer.stageTransitionProof && (system.bridge.jobId = 0 &&
        ((system.validating.length = 1 && system.validating.all fun job => (actorResult
          (preparing known.crypto) (proxy store0 header1 world1, proxy store0 header1 world1) job).isSome) &&
        (validateAndPrepareProofInputs (preparing known.crypto)
          (proxy store0 header1 world1, proxy store0 header1 world1) system.detector.jobInput).toOption.any fun dual =>
            dual.currentWindow.inputSlot = system.detector.slot &&
              (system.detector.latestSlot < dual.currentWindow.expectedOutputSlot && dual.nextWindow.isNone))))) =
      true := by decide +kernel
  rcases (Option.any_eq_true _ _).mp reaches with ⟨system, reached, facts⟩
  simp only [Bool.and_eq_true, decide_eq_true_eq, List.all_eq_true] at facts
  rcases facts with ⟨done, waiting, first, ⟨_, survives⟩, found⟩
  rcases (Option.any_eq_true _ _).mp found with ⟨dual, answered, windows⟩
  simp only [Bool.and_eq_true, decide_eq_true_eq, Option.isNone_iff_eq_none] at windows
  rcases windows with ⟨fromSlot, beyond, alone⟩
  have rests := rests_of_work (preparing known.crypto) (orderly_run reached) done
  have finalizes : Finalizes (preparing known.crypto) (proxy store0 header1 world1, proxy store0 header1 world1)
      system.detector dual := by
    refine ⟨?_, fromSlot, beyond, ?_⟩
    · cases outcome : validateAndPrepareProofInputs (preparing known.crypto)
          (proxy store0 header1 world1, proxy store0 header1 world1) system.detector.jobInput with
      | error failure =>
        rw [outcome] at answered
        cases answered
      | ok prepared =>
        rw [outcome] at answered
        cases answered
        rfl
    · intro nextWindow present
      rw [alone] at present
      cases present
  rcases finality_change_stages (preparing known.crypto) 64 syncedStoreHash0 0 96 _ system reached rests waiting _
    survives dual finalizes with ⟨polls, found, _, _, polled, settles⟩
  rw [first] at settles
  exact ⟨system, found, dual.currentWindow, reached, ⟨polls, polled⟩, settles⟩

end Sample

end NoriProof
