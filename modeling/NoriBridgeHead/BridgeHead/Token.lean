import NoriBridgeHead.BridgeHead.DetectorRuns
import NoriBridgeHead.BridgeHead.System

open Foundation Foundation.Outcome Foundation.Transition

namespace NoriModel

variable {S : ConsensusSpec}

def BridgeHeadSend.event? : BridgeHeadSend S → Option (BridgeHeadEvent S)
  | .event sent => some sent
  | .stageUpdate _ | .advanceUpdate _ => none

/-- The events whose handling lets the observer stage, now or at the next finality notice. -/
def BridgeHeadEvent.carriesToken : BridgeHeadEvent S → Bool
  | .proofMessage _ | .noticeMessage (.started _) | .noticeMessage (.jobFailed _) => true
  | .noticeMessage (.warning _) | .noticeMessage (.jobCreated _) | .noticeMessage (.jobSucceeded _)
  | .noticeMessage (.finalityTransitionDetected _) | .noticeMessage (.headAdvanced _) => false

def Command.stages : Command S → Bool
  | .stageTransitionProof _ => true
  | .advance _ => false

def ProverJobResult.Decodes : ProverJobResult → Prop
  | .proved _ publicValues => ∃ outputs : ProofOutputs, publicValues = outputs.toBytes
  | .failed _ _ => True

namespace System

def pendingEvents (system : System S) : List (BridgeHeadEvent S) :=
  system.events ++ system.bridgeSends.filterMap BridgeHeadSend.event?

def pendingCommands (system : System S) : List (Command S) := system.commands ++ system.observerSends

/-- Unprocessed started, proof and failure events, the flag, pending stage commands and prover jobs. -/
def tokens (system : System S) : Nat :=
  (system.pendingEvents.filter BridgeHeadEvent.carriesToken).length +
    (if system.observer.stageTransitionProof then 1 else 0) +
    (system.pendingCommands.filter Command.stages).length + system.bridge.proverJobs.length

end System

/-- Where the one permission to stage a job is. -/
inductive Token (S : ConsensusSpec) where
  | started (data : BridgeHeadStarted)
  | waiting
  | staged (window : ProofInputsWithWindow S)
  | job (jobId : UInt64) (window : ProofInputsWithWindow S)
  | proved (message : ProofMessage)
  | failed (data : BridgeHeadJobFailed)

def Token.afterStaging : Token S → Bool
  | .started _ | .waiting => false
  | .staged _ | .job _ _ | .proved _ | .failed _ => true

structure TokenView (S : ConsensusSpec) where
  events : List (BridgeHeadEvent S)
  flag : Bool
  commands : List (Command S)
  proverJobs : List (UInt64 × ProofInputsWithWindow S)
  proving : List (UInt64 × ProofInputs S)
  jobResults : List ProverJobResult

def System.tokenView (system : System S) : TokenView S where
  events := system.pendingEvents.filter BridgeHeadEvent.carriesToken
  flag := system.observer.stageTransitionProof
  commands := system.pendingCommands
  proverJobs := system.bridge.proverJobs
  proving := system.proving
  jobResults := system.jobResults

/-- At most one advance is pending, and none once a job exists. -/
inductive TokenAt : Token S → TokenView S → Prop
  | started (data) : TokenAt (.started data) ⟨[.noticeMessage (.started data)], false, [], [], [], []⟩
  | waiting : TokenAt .waiting ⟨[], true, [], [], [], []⟩
  | waitingAdvance (message) : TokenAt .waiting ⟨[], true, [.advance message], [], [], []⟩
  | staged (window) : TokenAt (.staged window) ⟨[], false, [.stageTransitionProof window], [], [], []⟩
  | stagedAdvance (message window) :
    TokenAt (.staged window) ⟨[], false, [.advance message, .stageTransitionProof window], [], [], []⟩
  | proving (jobId window) :
    TokenAt (.job jobId window) ⟨[], false, [], [(jobId, window)], [(jobId, window.proofInputs)], []⟩
  | ended (jobId window result) (own : result.jobId = jobId) (decodes : result.Decodes) :
    TokenAt (.job jobId window) ⟨[], false, [], [(jobId, window)], [], [result]⟩
  | proved (message) : TokenAt (.proved message) ⟨[.proofMessage message], false, [], [], [], []⟩
  | failed (data) (alone : data.nJobInBuffer = 0) :
    TokenAt (.failed data) ⟨[.noticeMessage (.jobFailed data)], false, [], [], [], []⟩

structure TokenInvariant (system : System S) (token : Token S) : Prop where
  placed : TokenAt token system.tokenView
  observerRuns : system.observerStopped = false
  bridgeRuns : system.bridgeStopped = false
  cached : token.afterStaging = true → system.observer.latestCurrentWindowValidatedProofInput.isSome
  nextCached : system.observer.latestNextWindowValidatedProofInput.isSome →
    system.observer.latestCurrentWindowValidatedProofInput.isSome

end NoriModel

namespace NoriProof

open NoriModel

variable {S : ConsensusSpec} {β : Type} {system next : System S} {token : Token S}

theorem tokens_eq_one (placed : TokenAt token system.tokenView) : system.tokens = 1 := by
  have counted : system.tokens = system.tokenView.events.length + (if system.tokenView.flag then 1 else 0) +
      (system.tokenView.commands.filter Command.stages).length + system.tokenView.proverJobs.length := rfl
  rw [counted]
  generalize system.tokenView = view at placed
  cases placed <;> rfl

theorem tokenInvariant_start (slot : UInt64) (storeHash : B256) (queueCursor latestBeaconSlot : UInt64) :
    TokenInvariant (System.start (S := S) slot storeHash queueCursor latestBeaconSlot)
      (.started ⟨latestBeaconSlot, slot, storeHash, queueCursor⟩) := by
  refine ⟨TokenAt.started _, rfl, rfl, ?_, ?_⟩
  · intro staged
    cases staged
  · intro cached
    cases cached

theorem tokenInvariant_frame (kept : TokenInvariant system token) (view : next.tokenView = system.tokenView)
    (observer : next.observer = system.observer) (observerStopped : next.observerStopped = system.observerStopped)
    (bridgeStopped : next.bridgeStopped = system.bridgeStopped) : TokenInvariant next token := by
  constructor
  · rw [view]
    exact kept.placed
  · rw [observerStopped]
    exact kept.observerRuns
  · rw [bridgeStopped]
    exact kept.bridgeRuns
  · rw [observer]
    exact kept.cached
  · rw [observer]
    exact kept.nextCached

theorem pendingEvents_ready (quiet : system.bridgeSends = []) : system.pendingEvents = system.events := by
  rw [System.pendingEvents, quiet, List.filterMap_nil, List.append_nil]

theorem pendingEvents_cons {event : BridgeHeadEvent S} {events : List (BridgeHeadEvent S)}
    (pending : system.events = event :: events) :
    system.pendingEvents = event :: (events ++ system.bridgeSends.filterMap BridgeHeadSend.event?) := by
  rw [System.pendingEvents, pending, List.cons_append]

theorem pendingEvents_first {event : BridgeHeadEvent S} {events : List (BridgeHeadEvent S)}
    (pending : system.events = event :: events) : event ∈ system.pendingEvents := by
  rw [pendingEvents_cons pending]
  exact List.mem_cons_self ..

section Places

variable {events : List (BridgeHeadEvent S)} {flag : Bool} {commands : List (Command S)}
  {jobs : List (UInt64 × ProofInputsWithWindow S)} {proving : List (UInt64 × ProofInputs S)}
  {results : List ProverJobResult}

theorem tokenAt_command {command : Command S}
    (placed : TokenAt token ⟨events, flag, command :: commands, jobs, proving, results⟩) :
    (∃ message, command = .advance message ∧ TokenAt token ⟨events, flag, commands, jobs, proving, results⟩ ∧
      ∀ later ∈ commands, later.stages = true) ∨
    ∃ window, command = .stageTransitionProof window ∧ token = .staged window ∧ events = [] ∧ flag = false ∧
      commands = [] ∧ jobs = [] ∧ proving = [] ∧ results = [] := by
  cases placed with
  | waitingAdvance message => exact .inl ⟨message, rfl, .waiting, by simp⟩
  | staged window => exact .inr ⟨window, rfl, rfl, rfl, rfl, rfl, rfl, rfl, rfl⟩
  | stagedAdvance message window => exact .inl ⟨message, rfl, .staged window, by simp [Command.stages]⟩

theorem tokenAt_result {result : ProverJobResult}
    (placed : TokenAt token ⟨events, flag, commands, jobs, proving, result :: results⟩) :
    ∃ window, token = .job result.jobId window ∧ result.Decodes ∧ events = [] ∧ flag = false ∧ commands = [] ∧
      jobs = [(result.jobId, window)] ∧ proving = [] ∧ results = [] := by
  cases placed with
  | ended jobId window result own decodes =>
    subst own
    exact ⟨window, rfl, decodes, rfl, rfl, rfl, rfl, rfl, rfl⟩

theorem tokenAt_running {position : Nat} {job : UInt64 × ProofInputs S}
    (placed : TokenAt token ⟨events, flag, commands, jobs, proving, results⟩)
    (running : proving[position]? = some job) :
    ∃ window, token = .job job.1 window ∧ job.2 = window.proofInputs ∧ events = [] ∧ flag = false ∧ commands = [] ∧
      jobs = [(job.1, window)] ∧ proving.eraseIdx position = [] ∧ results = [] := by
  cases placed with
  | proving jobId window =>
    cases position with
    | zero =>
      cases running
      exact ⟨window, rfl, rfl, rfl, rfl, rfl, rfl, rfl, rfl⟩
    | succ position =>
      simp at running
  | _ => simp at running

theorem tokenAt_event {event : BridgeHeadEvent S}
    (placed : TokenAt token ⟨event :: events, flag, commands, jobs, proving, results⟩) :
    events = [] ∧ flag = false ∧ commands = [] ∧ jobs = [] ∧ proving = [] ∧ results = [] ∧
    ((∃ data, event = .noticeMessage (.started data) ∧ token = .started data) ∨
      (∃ message, event = .proofMessage message ∧ token = .proved message) ∨
      ∃ data, event = .noticeMessage (.jobFailed data) ∧ token = .failed data ∧ data.nJobInBuffer = 0) := by
  cases placed with
  | started data => exact ⟨rfl, rfl, rfl, rfl, rfl, rfl, .inl ⟨data, rfl, rfl⟩⟩
  | proved message => exact ⟨rfl, rfl, rfl, rfl, rfl, rfl, .inr (.inl ⟨message, rfl, rfl⟩)⟩
  | failed data alone => exact ⟨rfl, rfl, rfl, rfl, rfl, rfl, .inr (.inr ⟨data, rfl, rfl, alone⟩)⟩

theorem tokenAt_flagged (placed : TokenAt token ⟨events, true, commands, jobs, proving, results⟩) :
    token = .waiting ∧ events = [] ∧ jobs = [] ∧ proving = [] ∧ results = [] ∧
      (commands = [] ∨ ∃ message, commands = [.advance message]) := by
  cases placed with
  | waiting => exact ⟨rfl, rfl, rfl, rfl, rfl, .inl rfl⟩
  | waitingAdvance message => exact ⟨rfl, rfl, rfl, rfl, rfl, .inr ⟨message, rfl⟩⟩

end Places

theorem tokenInvariant_bridgeHandlesCommand (kept : TokenInvariant system token)
    (stepped : system.bridgeHandlesCommand = some next) : ∃ token', TokenInvariant next token' := by
  rcases bridgeHandlesCommand_cases stepped with ⟨command, commands, quiet, pending, rfl⟩
  have placed := kept.placed
  simp only [System.tokenView, System.pendingCommands, pending, pendingEvents_ready quiet, List.cons_append] at placed
  rcases tokenAt_command placed with ⟨message, rfl, rest, _⟩ |
    ⟨window, rfl, rfl, noEvents, noFlag, noCommands, noJobs, noProving, noResults⟩
  · refine ⟨token, ?_, kept.observerRuns, kept.bridgeRuns, kept.cached, kept.nextCached⟩
    simp only [System.tokenView, System.pendingEvents, System.pendingCommands, BridgeHead.onCommand,
      BridgeHead.advance, System.spawned, BridgeHead.notice, BridgeHeadSend.event?, List.filterMap_cons,
      List.filterMap_nil, List.filter_append, List.filter_cons, List.filter_nil, BridgeHeadEvent.carriesToken,
      List.append_nil, Bool.false_eq_true, ↓reduceIte]
    exact rest
  · refine ⟨.job (system.bridge.jobId + 1) window, ?_, kept.observerRuns, kept.bridgeRuns, kept.cached,
      kept.nextCached⟩
    simp only [System.tokenView, System.pendingEvents, System.pendingCommands, BridgeHead.onCommand,
      BridgeHead.stageTransitionProof, System.spawned, BridgeHead.notice, BridgeHeadSend.event?,
      List.filterMap_cons, List.filterMap_nil, List.filter_append, List.filter_cons, List.filter_nil,
      BridgeHeadEvent.carriesToken, noEvents, noFlag, noCommands, noJobs, noProving, noResults, Bool.false_eq_true,
      ↓reduceIte]
    exact .proving _ window

theorem tokenInvariant_bridgeHandlesFinality (kept : TokenInvariant system token)
    (stepped : system.bridgeHandlesFinality = some next) : TokenInvariant next token := by
  rcases bridgeHandlesFinality_cases stepped with ⟨dual, finalityOutput, quiet, pending, rfl⟩
  refine tokenInvariant_frame kept ?_ rfl rfl rfl
  simp [System.tokenView, System.pendingEvents, System.pendingCommands, BridgeHead.onBeaconFinalityChange,
    BridgeHead.notice, BridgeHeadSend.event?, BridgeHeadEvent.carriesToken, quiet]

theorem tokenInvariant_bridgeSends (kept : TokenInvariant system token)
    (stepped : system.bridgeSendsNext = some next) : TokenInvariant next token := by
  rcases bridgeSends_cases stepped with ⟨send, rest, pending, ⟨event, rfl, rfl⟩ | ⟨update, rfl, rfl⟩ |
    ⟨update, rfl, rfl⟩⟩ <;>
  · refine tokenInvariant_frame kept ?_ rfl rfl rfl
    simp [System.tokenView, System.pendingEvents, System.pendingCommands, BridgeHeadSend.event?, pending,
      List.filterMap_cons]

theorem tokenInvariant_observerSends (kept : TokenInvariant system token)
    (stepped : system.observerSendsNext = some next) : TokenInvariant next token := by
  rcases observerSends_cases stepped with ⟨command, rest, pending, rfl⟩
  refine tokenInvariant_frame kept ?_ rfl rfl rfl
  simp [System.tokenView, System.pendingEvents, System.pendingCommands, pending]

theorem tokenInvariant_proverEnds (kept : TokenInvariant system token) {position : Nat}
    {result : UInt64 → ProverJobResult} (stepped : system.proverEnds position result = some next)
    (own : ∀ jobId, (result jobId).jobId = jobId) (decodes : ∀ jobId, (result jobId).Decodes) :
    TokenInvariant next token := by
  rcases proverEnds_cases stepped with ⟨job, running, rfl⟩
  rcases tokenAt_running kept.placed running with
    ⟨window, rfl, sameInputs, noEvents, noFlag, noCommands, jobs, noProving, noResults⟩
  refine ⟨?_, kept.observerRuns, kept.bridgeRuns, kept.cached, kept.nextCached⟩
  show TokenAt _ ⟨system.pendingEvents.filter BridgeHeadEvent.carriesToken, system.observer.stageTransitionProof,
    system.pendingCommands, system.bridge.proverJobs, system.proving.eraseIdx position,
    system.jobResults ++ [result job.1]⟩
  rw [noEvents, noFlag, noCommands, jobs, noProving, noResults]
  exact .ended _ window _ (own _) (decodes _)

theorem onJobResult_only {bridge : BridgeHead S} {result : ProverJobResult} {window : ProofInputsWithWindow S}
    (jobs : bridge.proverJobs = [(result.jobId, window)]) (decodes : result.Decodes) :
    ∃ sends token', bridge.onJobResult result = .ok ({ bridge with proverJobs := [] }, sends) ∧
      Token.afterStaging token' = true ∧ TokenAt token'
        ⟨(sends.filterMap BridgeHeadSend.event?).filter BridgeHeadEvent.carriesToken, false, [], [], [], []⟩ := by
  cases result with
  | proved jobId publicValues =>
    rcases decodes with ⟨outputs, rfl⟩
    have jobs : bridge.proverJobs = [(jobId, window)] := jobs
    simp only [BridgeHead.onJobResult, BridgeHead.handleProverSuccess, jobs, List.lookup_cons_self,
      fromBytes_toBytes, Outcome.expect, Outcome.fromResult, ok_bind, ne_eq, not_true_eq_false, decide_false,
      List.filter_cons, List.filter_nil, Bool.false_eq_true, ↓reduceIte]
    exact ⟨_, .proved _, rfl, rfl, .proved _⟩
  | failed jobId error =>
    have jobs : bridge.proverJobs = [(jobId, window)] := jobs
    simp only [BridgeHead.onJobResult, BridgeHead.handleProverFailure, jobs, List.lookup_cons_self,
      Outcome.expect, ok_bind, ne_eq, not_true_eq_false, decide_false, List.filter_cons, List.filter_nil,
      Bool.false_eq_true, ↓reduceIte]
    exact ⟨_, .failed _, rfl, rfl, .failed _ rfl⟩

theorem tokenInvariant_bridgeHandlesJobResult (kept : TokenInvariant system token)
    (stepped : system.bridgeHandlesJobResult = some next) : ∃ token', TokenInvariant next token' := by
  rcases bridgeHandlesJobResult_cases stepped with ⟨result, jobResults, quiet, pending, outcome⟩
  have placed := kept.placed
  simp only [System.tokenView, pending, pendingEvents_ready quiet] at placed
  rcases tokenAt_result placed with
    ⟨window, rfl, decodes, noEvents, noFlag, noCommands, jobs, noProving, noResults⟩
  rcases onJobResult_only jobs decodes with ⟨sends, token', handled, staged, announced⟩
  rcases outcome with ⟨bridge, sends', handled', rfl⟩ | ⟨⟨failure, failed⟩, rfl⟩
  · rw [handled] at handled'
    cases handled'
    refine ⟨token', ?_, kept.observerRuns, kept.bridgeRuns, fun _ => kept.cached rfl, kept.nextCached⟩
    simp only [System.tokenView, System.pendingEvents, System.pendingCommands, List.filter_append, noEvents,
      List.nil_append, noFlag, noProving, noResults] at noCommands ⊢
    rw [noCommands]
    exact announced
  · rw [handled] at failed
    cases failed

theorem tokenInvariant_carrier {event : BridgeHeadEvent S} {events : List (BridgeHeadEvent S)}
    (kept : TokenInvariant system token) (idle : system.observerSends = []) (pending : system.events = event :: events)
    (carries : event.carriesToken = true) :
    ∃ observer commands token', system.observer.onEvent event = .ok (observer, commands) ∧
      TokenInvariant { system with observer := observer, observerSends := commands, events := events } token' := by
  have placed := kept.placed
  simp only [System.tokenView, System.pendingEvents, pending, List.cons_append, List.filter_cons, carries,
    ↓reduceIte, System.pendingCommands, idle, List.append_nil] at placed
  rcases tokenAt_event placed with ⟨noEvents, noFlag, noCommands, noJobs, noProving, noResults,
    ⟨data, rfl, rfl⟩ | ⟨message, rfl, rfl⟩ | ⟨data, rfl, rfl, alone⟩⟩
  · refine ⟨_, _, .waiting, rfl, ?_, kept.observerRuns, kept.bridgeRuns, ?_, kept.nextCached⟩
    · simp only [System.tokenView, System.pendingEvents, System.pendingCommands, noEvents, noCommands, noJobs,
        noProving, noResults, List.append_nil]
      exact .waiting
    · intro staged
      cases staged
  · rcases onTransitionProofSucceeded_cases system.observer message with ⟨nextWindow, _, _, handled⟩ | handled
    · refine ⟨_, _, .staged nextWindow, congrArg Except.ok handled, ?_, kept.observerRuns, kept.bridgeRuns,
        fun _ => kept.cached rfl, kept.nextCached⟩
      simp only [System.tokenView, System.pendingEvents, System.pendingCommands, Observer.advance, noEvents, noFlag,
        noCommands, noJobs, noProving, noResults, List.nil_append]
      exact .stagedAdvance _ nextWindow
    · refine ⟨_, _, .waiting, congrArg Except.ok handled, ?_, kept.observerRuns, kept.bridgeRuns,
        fun _ => kept.cached rfl, kept.nextCached⟩
      simp only [System.tokenView, System.pendingEvents, System.pendingCommands, noEvents, noCommands, noJobs,
        noProving, noResults, List.nil_append]
      exact .waitingAdvance _
  · rcases Option.isSome_iff_exists.mp (kept.cached rfl) with ⟨window, cached⟩
    refine ⟨system.observer, [.stageTransitionProof window], .staged window, ?_, ?_, kept.observerRuns,
      kept.bridgeRuns, fun _ => kept.cached rfl, kept.nextCached⟩
    · simp only [Observer.onEvent, Observer.onBridgeHeadTransitionNotice, alone, ↓reduceIte, cached]
      rfl
    · simp only [System.tokenView, System.pendingEvents, System.pendingCommands, noEvents, noFlag, noCommands, noJobs,
        noProving, noResults, List.nil_append]
      exact .staged window

theorem tokenInvariant_finality {data : BridgeHeadFinalityTransitionDetected S} {events : List (BridgeHeadEvent S)}
    (kept : TokenInvariant system token) (idle : system.observerSends = [])
    (pending : system.events = .noticeMessage (.finalityTransitionDetected data) :: events) :
    ∃ observer commands token',
      system.observer.onEvent (.noticeMessage (.finalityTransitionDetected data)) = .ok (observer, commands) ∧
      TokenInvariant { system with observer := observer, observerSends := commands, events := events } token' := by
  have placed := kept.placed
  simp only [System.tokenView, System.pendingEvents, pending, List.cons_append, List.filter_cons,
    BridgeHeadEvent.carriesToken, Bool.false_eq_true, ↓reduceIte, System.pendingCommands, idle,
    List.append_nil] at placed
  rcases onFinalityTransitionDetected_cases system.observer data with ⟨noFlag, handled⟩ | ⟨flag, handled⟩
  · refine ⟨_, _, token, handled, ?_, kept.observerRuns, kept.bridgeRuns, fun _ => rfl, fun _ => rfl⟩
    simp only [System.tokenView, System.pendingEvents, System.pendingCommands, List.append_nil]
    exact placed
  · rw [flag] at placed
    rcases tokenAt_flagged placed with ⟨rfl, noEvents, noJobs, noProving, noResults, advances⟩
    refine ⟨_, _, .staged data.currentWindowProofInputsWithWindow, handled, ?_, kept.observerRuns, kept.bridgeRuns,
      fun _ => rfl, fun _ => rfl⟩
    simp only [System.tokenView, System.pendingEvents, System.pendingCommands, noEvents, noJobs, noProving, noResults]
    rcases advances with noCommands | ⟨message, oneAdvance⟩
    · rw [noCommands]
      exact .staged _
    · rw [oneAdvance]
      exact .stagedAdvance message _

theorem tokenInvariant_ignored {event : BridgeHeadEvent S} {events : List (BridgeHeadEvent S)}
    (kept : TokenInvariant system token) (idle : system.observerSends = []) (pending : system.events = event :: events)
    (idleEvent : event.carriesToken = false) :
    TokenInvariant { system with observerSends := [], events := events } token := by
  refine tokenInvariant_frame kept ?_ rfl rfl rfl
  simp [System.tokenView, System.pendingEvents, System.pendingCommands, pending, idle, idleEvent]

theorem tokenInvariant_onEvent {event : BridgeHeadEvent S} {events : List (BridgeHeadEvent S)}
    (kept : TokenInvariant system token) (idle : system.observerSends = [])
    (pending : system.events = event :: events) :
    ∃ observer commands token', system.observer.onEvent event = .ok (observer, commands) ∧
      TokenInvariant { system with observer := observer, observerSends := commands, events := events } token' := by
  cases event with
  | proofMessage message => exact tokenInvariant_carrier kept idle pending rfl
  | noticeMessage notice =>
    cases notice with
    | started data => exact tokenInvariant_carrier kept idle pending rfl
    | jobFailed data => exact tokenInvariant_carrier kept idle pending rfl
    | finalityTransitionDetected data => exact tokenInvariant_finality kept idle pending
    | _ => exact ⟨system.observer, [], token, rfl, tokenInvariant_ignored kept idle pending rfl⟩

/-- No event ends the observer: the token shows a cached window wherever a retry needs one. -/
theorem tokenInvariant_observerHandles (kept : TokenInvariant system token)
    (stepped : system.observerHandles = some next) : ∃ token', TokenInvariant next token' := by
  rcases observerHandles_cases stepped with ⟨event, events, idle, pending, outcome⟩
  rcases tokenInvariant_onEvent kept idle pending with ⟨observer, commands, token', handled, after⟩
  rcases outcome with ⟨observer', commands', handled', rfl⟩ | ⟨⟨failure, failed⟩, rfl⟩
  · rw [handled] at handled'
    cases handled'
    exact ⟨token', after⟩
  · rw [handled] at failed
    cases failed

theorem tokenInvariant_step {prepare : Prepare S β} {event : SystemEvent β}
    (kept : ∃ token, TokenInvariant system token) (stepped : system.step prepare event = some next) :
    ∃ token', TokenInvariant next token' := by
  rcases kept with ⟨token, kept⟩
  cases event with
  | observerHandles => exact tokenInvariant_observerHandles kept stepped
  | observerSends => exact ⟨token, tokenInvariant_observerSends kept stepped⟩
  | bridgeHandlesFinality => exact ⟨token, tokenInvariant_bridgeHandlesFinality kept stepped⟩
  | bridgeHandlesCommand => exact tokenInvariant_bridgeHandlesCommand kept stepped
  | bridgeHandlesJobResult => exact tokenInvariant_bridgeHandlesJobResult kept stepped
  | bridgeSends => exact ⟨token, tokenInvariant_bridgeSends kept stepped⟩
  | proverProves position outputs =>
    have ended : system.proverEnds position (fun jobId => .proved jobId outputs.toBytes) = some next := stepped
    exact ⟨token, tokenInvariant_proverEnds kept ended (fun _ => rfl) (fun _ => ⟨outputs, rfl⟩)⟩
  | proverFails position error =>
    have ended : system.proverEnds position (fun jobId => .failed jobId error) = some next := stepped
    exact ⟨token, tokenInvariant_proverEnds kept ended (fun _ => rfl) (fun _ => trivial)⟩
  | detectorHandlesStage =>
    rcases detectorHandlesStage_cases stepped with ⟨update, stageUpdates, _, _, rfl⟩
    exact ⟨token, tokenInvariant_frame kept rfl rfl rfl rfl⟩
  | detectorHandlesAdvance =>
    rcases detectorHandlesAdvance_cases stepped with ⟨update, advanceUpdates, _, _, rfl⟩
    exact ⟨token, tokenInvariant_frame kept rfl rfl rfl rfl⟩
  | detectorTicks =>
    rcases detectorTicks_cases stepped with ⟨_, rfl⟩
    exact ⟨token, tokenInvariant_frame kept rfl rfl rfl rfl⟩
  | detectorHandlesResult providers =>
    rcases detectorHandlesResult_cases stepped with ⟨job, validating, _, _, rfl⟩
    exact ⟨token, tokenInvariant_frame kept rfl rfl rfl rfl⟩
  | detectorSends =>
    rcases detectorSends_cases stepped with ⟨dual, _, rfl⟩
    exact ⟨token, tokenInvariant_frame kept rfl rfl rfl rfl⟩

/-- What holds of the detector's own runs holds of it among the other tasks; in particular its actor never holds
    two jobs. -/
theorem system_detector {prepare : Prepare S β} {slot : UInt64} {storeHash : B256}
    {queueCursor latestBeaconSlot : UInt64} {events : List (SystemEvent β)}
    (reached : run (System.step prepare) (System.start slot storeHash queueCursor latestBeaconSlot) events =
      some system) :
    (∃ state : DetectorRun S, DetectorInvariant slot state ∧ state.detector = system.detector ∧
      state.validating = system.validating) ∧ system.validating.length ≤ 1 := by
  have initial : (DetectorRun.start (S := S) (Detector.start slot storeHash queueCursor none)).detector =
      (System.start (S := S) slot storeHash queueCursor latestBeaconSlot).detector := rfl
  rcases run_detector reached initial rfl with ⟨passes, state, projected, sameDetector, sameJobs⟩
  have kept := detectorInvariant_run projected
  refine ⟨⟨state, kept, sameDetector, sameJobs⟩, ?_⟩
  rw [← sameJobs]
  cases inFlight : state.detector.inFlight with
  | false => simp [kept.idle inFlight]
  | true =>
    rcases kept.busy inFlight with ⟨job, only⟩
    simp [only]

theorem tokenAt_commands (placed : TokenAt token system.tokenView) :
    system.pendingCommands.length ≤ commandCapacity := by
  have same : system.pendingCommands = system.tokenView.commands := rfl
  rw [same]
  generalize system.tokenView = view at placed
  cases placed <;> simp [commandCapacity]

theorem tokenAt_jobs (placed : TokenAt token system.tokenView) : system.bridge.proverJobs.length ≤ 1 := by
  have same : system.bridge.proverJobs = system.tokenView.proverJobs := rfl
  rw [same]
  generalize system.tokenView = view at placed
  cases placed <;> simp

theorem failure_token (kept : TokenInvariant system token) {data : BridgeHeadJobFailed}
    (pending : .noticeMessage (.jobFailed data) ∈ system.pendingEvents) :
    token = .failed data ∧ data.nJobInBuffer = 0 := by
  have carried : .noticeMessage (.jobFailed data) ∈ system.tokenView.events := List.mem_filter.mpr ⟨pending, rfl⟩
  have placed := kept.placed
  generalize system.tokenView = view at placed carried
  cases placed with
  | failed data' alone =>
    cases List.mem_singleton.mp carried
    exact ⟨rfl, alone⟩
  | _ => simp at carried

theorem tokenInvariant_failure (kept : TokenInvariant system token) {data : BridgeHeadJobFailed}
    (pending : .noticeMessage (.jobFailed data) ∈ system.pendingEvents) :
    ∃ window, system.observer.latestCurrentWindowValidatedProofInput = some window ∧
      system.observer.onEvent (.noticeMessage (.jobFailed data)) =
        .ok (system.observer, [.stageTransitionProof window]) := by
  rcases failure_token kept pending with ⟨rfl, alone⟩
  rcases Option.isSome_iff_exists.mp (kept.cached rfl) with ⟨window, cached⟩
  refine ⟨window, cached, ?_⟩
  simp only [Observer.onEvent, Observer.onBridgeHeadTransitionNotice, alone, ↓reduceIte, cached]
  rfl

/-- In every reachable state there is exactly one token, so there is at most one job, every failure stages
    its retry, neither task ends, and the observer finds room for every command. -/
theorem one_token (prepare : Prepare S β) (slot : UInt64) (storeHash : B256) (queueCursor latestBeaconSlot : UInt64)
    (events : List (SystemEvent β)) (system : System S)
    (reached : run (System.step prepare) (System.start slot storeHash queueCursor latestBeaconSlot) events =
      some system) :
    system.tokens = 1 ∧ system.bridge.proverJobs.length ≤ 1 ∧
    (∀ data, .noticeMessage (.jobFailed data) ∈ system.pendingEvents →
      data.nJobInBuffer = 0 ∧ ∃ window, system.observer.onEvent (.noticeMessage (.jobFailed data)) =
        .ok (system.observer, [.stageTransitionProof window])) ∧
    system.observerStopped = false ∧ system.bridgeStopped = false ∧
    system.commands.length + system.observerSends.length ≤ 2 ∧
    (system.observerSends ≠ [] → system.commands.length < commandCapacity) := by
  have kept : ∃ token, TokenInvariant system token :=
    reachable_invariant (fun _ _ _ kept stepped => tokenInvariant_step kept stepped)
      ⟨_, tokenInvariant_start slot storeHash queueCursor latestBeaconSlot⟩ reached
  rcases kept with ⟨token, kept⟩
  have bounded : system.commands.length + system.observerSends.length ≤ commandCapacity := by
    rw [← List.length_append]
    exact tokenAt_commands kept.placed
  have retried : ∀ data, .noticeMessage (.jobFailed data) ∈ system.pendingEvents →
      data.nJobInBuffer = 0 ∧ ∃ window, system.observer.onEvent (.noticeMessage (.jobFailed data)) =
        .ok (system.observer, [.stageTransitionProof window]) := by
    intro data pending
    rcases tokenInvariant_failure kept pending with ⟨window, _, handled⟩
    exact ⟨(failure_token kept pending).2, window, handled⟩
  refine ⟨tokens_eq_one kept.placed, tokenAt_jobs kept.placed, retried, kept.observerRuns, kept.bridgeRuns, bounded, ?_⟩
  intro unsent
  have someUnsent : 0 < system.observerSends.length := List.length_pos_of_ne_nil unsent
  omega

def failureEvents : List (SystemEvent UInt64) :=
  [.bridgeSends, .observerHandles, .detectorTicks, .detectorHandlesResult (32, 32), .detectorSends,
    .bridgeHandlesFinality, .bridgeSends, .observerHandles, .observerSends, .bridgeHandlesCommand, .bridgeSends,
    .bridgeSends, .proverFails 0 "out of gas", .bridgeHandlesJobResult, .bridgeSends]

def failureStart : System Minimal.spec := System.start 0 Sample.storeHash0 0 0

def failureState : System Minimal.spec :=
  (run (System.step samplePrepare) failureStart failureEvents).getD failureStart

theorem one_token_failure :
    run (System.step samplePrepare) failureStart failureEvents = some failureState ∧
    failureState.events.length = 2 ∧ failureState.tokens = 1 ∧ failureState.bridge.proverJobs.length ≤ 1 :=
  have reached : run (System.step samplePrepare) failureStart failureEvents = some failureState := rfl
  have holds := one_token samplePrepare 0 Sample.storeHash0 0 0 failureEvents failureState reached
  ⟨reached, rfl, holds.1, holds.2.1⟩

end NoriProof
