import NoriBridgeHead.BridgeHead.Restarts

open Foundation Foundation.Outcome Foundation.Transition

namespace NoriModel

/-- What the bridge publishes of a request: everything but the slot that its value was read from. -/
def Request.verified (request : Request) : VerifiedRequest :=
  ⟨request.entry.target, request.entry.collectionKeysCount, request.entry.collectionKeys, request.value⟩

structure Accounts {C : Crypto} {S : ConsensusSpec} (message : ProofMessage) (run : Run C S) : Prop where
  outputs : message.outputs = run.outputs
  requests : message.verifiedRequests = BridgeHead.verifiedRequests run.inputs.queueStorage
  distinct : DistinctTargets run.inputs.queueStorage.targets

/-- The message publishes the batch that the queue determines at its state root. -/
def PublishesBatch (C : Crypto) (trie : TrieContents) (queue : Address) (message : ProofMessage)
    (batch : List Request) : Prop :=
  message.verifiedRequests = batch.map Request.verified ∧ ∃ account head,
    Drained C trie message.executionStateRoot queue message.inputQueueCursor.toNat account head batch
      message.outputQueueCursor.toNat message.verifiedRequestsRoot

end NoriModel

namespace NoriProof

open NoriModel

variable {C : Crypto} {S : ConsensusSpec} {N : Type} {P : CheckpointPrimitives N} {host next : Host S N}
  {trie : TrieContents}

section Batches

variable (sound : VerifyProofSound C trie) (rlp : RlpInjective C) (built : ZerosBuilt C)
include sound rlp built

/-- The published list is the drained batch: with distinct targets the host and the guest look up the same values. -/
theorem verifiedRequests_drained {stateRoot root : B256} {queue : QueueStorage} {output : UInt64}
    {account : TrieAccount} {head : U256} {batch : List Request} {cursor : Nat}
    (distinct : DistinctTargets queue.targets) (accepted : verifyQueue C stateRoot queue = .ok (output, root))
    (drained : Drained C trie stateRoot queue.proofRequestQueueAddress queue.inputCursor.toNat account head batch
      cursor root) : BridgeHead.verifiedRequests queue = batch.map Request.verified := by
  rcases verifyQueue_drains sound built accepted with ⟨maps, leaves, verified, hashed, own⟩
  obtain ⟨rfl, _, _⟩ := Drained.unique rlp own drained
  rw [BridgeHead.verifiedRequests, List.map_map]
  apply List.map_congr_left
  intro entry member
  rcases forall₂_left ((mapM_ok_iff _ _ _).mp hashed) member with ⟨leaf, _, entryHashed⟩
  simp only [entryLeaf, bind_ok_iff, okOr_ok_iff] at entryHashed
  rcases entryHashed with ⟨_, _, slot, found, _⟩
  have first := firstMatch_eq distinct verified found
  unfold firstMatch at first
  simp only [Function.comp_apply, Request.verified, TargetMaps.request, QueueEntryProof.entry, first, found,
    Option.map_some, Option.getD_some]

theorem Accounts.publishes {message : ProofMessage} {run : Run C S} {batch : List Request}
    (accounts : Accounts message run)
    (drains : run.Drains trie batch) : PublishesBatch C trie message.proofRequestQueueAddress message batch := by
  rcases drains with ⟨account, head, drained⟩
  rcases run_inputs run with ⟨_, cursor, address⟩
  have outputs := accounts.outputs
  constructor
  · rw [accounts.requests]
    exact verifiedRequests_drained sound rlp built accounts.distinct (run_verifyQueue run) drained
  · have root : message.executionStateRoot = run.stateRoot := congrArg ProofOutputs.executionStateRoot outputs
    have queue : message.proofRequestQueueAddress = run.address :=
      (congrArg ProofOutputs.proofRequestQueueAddress outputs).trans address
    have input : message.inputQueueCursor.toNat = run.cursor := by
      rw [Run.cursor, ← cursor]
      exact congrArg (fun outputs => outputs.inputQueueCursor.toNat) outputs
    have output : message.outputQueueCursor.toNat = run.outputCursor :=
      congrArg (fun outputs => outputs.outputQueueCursor.toNat) outputs
    have committed : message.verifiedRequestsRoot = run.outputs.verifiedRequestsRoot :=
      congrArg ProofOutputs.verifiedRequestsRoot outputs
    rw [root, queue, input, output, committed]
    exact ⟨account, head, drained⟩

end Batches

section Runs

theorem accounts_runs {settled : List ProofMessage} (attested : ∀ message ∈ settled, Attested C S message) :
    ∃ runs : List (Run C S), List.Forall₂ Accounts settled runs := by
  induction settled with
  | nil => exact ⟨[], .nil⟩
  | cons message settled ih =>
    rw [List.forall_mem_cons] at attested
    rcases Attested.run attested.1 with ⟨run, outputs, requests, distinct⟩
    rcases ih attested.2 with ⟨runs, paired⟩
    exact ⟨run :: runs, .cons ⟨outputs, requests, distinct⟩ paired⟩

theorem isChain_forall₂ {α β : Type} {relation : α → α → Prop} {relation' : β → β → Prop} {pairing : α → β → Prop}
    {left : List α} {right : List β} (paired : List.Forall₂ pairing left right)
    (carries : ∀ first ∈ left, ∀ second ∈ left, ∀ first' second', pairing first first' → pairing second second' →
      relation first second → relation' first' second')
    (chain : left.IsChain relation) : right.IsChain relation' := by
  induction paired with
  | nil => exact .nil
  | @cons first first' left right here later ih =>
    cases later with
    | nil => exact .singleton first'
    | @cons second second' left right there later =>
      rw [List.isChain_cons_cons] at chain ⊢
      refine ⟨carries first (by simp) second (by simp) first' second' here there chain.1, ih ?_ chain.2⟩
      intro item member item' member'
      exact carries item (List.mem_cons_of_mem _ member) item' (List.mem_cons_of_mem _ member')

theorem Continues.chained {earlier later : ProofMessage} {previous following : Run C S}
    (continues : Continues earlier.output later) (first : Accounts earlier previous) (second : Accounts later following)
    (address : later.proofRequestQueueAddress = earlier.proofRequestQueueAddress) :
    Run.Chained previous following := by
  rcases run_inputs following with ⟨hash, cursor, queue⟩
  rcases run_inputs previous with ⟨_, _, queue'⟩
  constructor
  · rw [← hash, ← second.outputs, ← first.outputs]
    exact continues.storeHash
  · rw [← cursor, ← second.outputs, ← first.outputs]
    exact continues.queueCursor
  · rw [← queue, ← queue', ← second.outputs, ← first.outputs]
    exact address

end Runs

section Once

/-- A cold start takes the cursor to be zero, and every other start continues a settled proof. -/
theorem origin_cursor (codecs : P.RoundTrip) (kept : HostInvariant C P host) (zero : host.origin.queueCursor = 0)
    {event : HostEvent (ConsensusHttpProxy S)} (stepped : host.step P (preparing C) event = some next) :
    next.origin.queueCursor = 0 := by
  cases event with
  | task event =>
    rcases task_cases stepped with ⟨_, _, _, _, _, ⟨_, _, rfl⟩ | ⟨_, rfl⟩⟩
    · exact zero
    · exact zero
  | writeBegins =>
    rcases writeBegins_cases stepped with ⟨_, _, _, _, rfl⟩
    exact zero
  | writeEnds =>
    rcases writeEnds_cases stepped with ⟨_, _, _, _, ⟨_, rfl⟩ | ⟨_, rfl⟩⟩
    · exact zero
    · exact zero
  | writeFails =>
    rcases writeFails_cases stepped with ⟨_, _, _, _, rfl⟩
    exact zero
  | crash =>
    rw [crash_cases stepped]
    exact zero
  | main latestFinality latestBeaconSlot =>
    rcases main_cases stepped with ⟨_, ⟨checkpoint, loaded, rfl⟩ | ⟨_, rfl⟩ | rfl⟩
    · rcases loadNbCheckpoint_position codecs kept.checkpoint loaded with ⟨_, nonempty, _⟩
      have some : host.settled.isEmpty = false := by simpa using nonempty
      simp only [Host.starts, some, Bool.false_eq_true, ↓reduceIte]
      exact zero
    · by_cases empty : host.settled.isEmpty
      · simp only [Host.starts, empty, ↓reduceIte]
        rfl
      · simp only [Host.starts, empty, Bool.false_eq_true, ↓reduceIte]
        exact zero
    · exact zero

theorem hostInvariant_cold (codecs : P.RoundTrip) {events : List (HostEvent (ConsensusHttpProxy S))}
    (along : Along (Host.step P (preparing C)) (fun state event => state.Admits C event) Host.blank events)
    (apart : ¬ Occurs (Host.step P (preparing C)) (fun state event => state.SlotsCollide C event) Host.blank events)
    (reached : run (Host.step P (preparing C)) Host.blank events = some host) :
    HostInvariant C P host ∧ host.origin.queueCursor = 0 := by
  apply run_invariant ?_ ?_ (along_and along (not_occurs_iff.mp apart)) reached
  · intro state event after kept met stepped
    exact ⟨hostInvariant_step codecs kept.1 met.1 met.2 stepped, origin_cursor codecs kept.1 kept.2 stepped⟩
  · exact ⟨hostInvariant_blank, rfl⟩

theorem forall₂_trans {α β γ : Type} {first : α → β → Prop} {second : β → γ → Prop} {third : α → γ → Prop}
    {items : List α} {middles : List β} {results : List γ} (paired : List.Forall₂ first items middles)
    (paired' : List.Forall₂ second middles results)
    (compose : ∀ item ∈ items, ∀ middle result, first item middle → second middle result → third item result) :
    List.Forall₂ third items results := by
  induction paired generalizing results with
  | nil =>
    cases paired'
    exact .nil
  | cons here later ih =>
    cases paired' with
    | cons here' later' =>
      refine .cons (compose _ (by simp) _ _ here here') (ih later' ?_)
      intro item member
      exact compose item (List.mem_cons_of_mem _ member)

theorem publishes_flatten {queue : Address} {settled : List ProofMessage} {batches : List (List Request)}
    (paired : List.Forall₂ (PublishesBatch C trie queue) settled batches) :
    settled.flatMap ProofMessage.verifiedRequests = batches.flatten.map Request.verified := by
  induction paired with
  | nil => rfl
  | cons here _ ih =>
    rw [List.flatMap_cons, List.flatten_cons, List.map_append, here.1, ih]

theorem forall₂_getLast {α β : Type} {relation : α → β → Prop} {items : List α} {results : List β}
    (paired : List.Forall₂ relation items results) (some : items ≠ []) (some' : results ≠ []) :
    relation (items.getLast some) (results.getLast some') := by
  induction paired with
  | nil => exact absurd rfl some
  | cons here later ih =>
    cases later with
    | nil => exact here
    | cons there rest => exact ih (by simp) (by simp)

/-- Over any number of crashes and restarts, the requests that the settled messages publish are, each exactly once and
    in order, the entries of the queue below the cursor of the checkpoint. -/
theorem settled_requests_once (C : Crypto) {S : ConsensusSpec} {N : Type} (P : CheckpointPrimitives N)
    (codecs : P.RoundTrip) (events : List (HostEvent (ConsensusHttpProxy S))) (host : Host S N)
    (along : Along (Host.step P (preparing C)) (fun state event => state.Admits C event) Host.blank events)
    (reached : run (Host.step P (preparing C)) Host.blank events = some host) (trie : TrieContents)
    (sound : VerifyProofSound C trie) (rlp : RlpInjective C) (built : ZerosBuilt C) (queue : Address)
    (addressed : ∀ message ∈ host.settled, message.proofRequestQueueAddress = queue)
    (appended : host.settled.IsChain fun earlier later =>
      AppendOnly C trie queue earlier.executionStateRoot later.executionStateRoot) :
    Occurs (Host.step P (preparing C)) (fun state event => state.SlotsCollide C event) Host.blank events ∨
    ∃ batches : List (List Request),
      List.Forall₂ (PublishesBatch C trie queue) host.settled batches ∧
      host.settled.flatMap ProofMessage.verifiedRequests = batches.flatten.map Request.verified ∧
      batches.flatten.length = host.position.queueCursor.toNat ∧
      ∀ last, host.settled.getLast? = some last → ∃ account head,
        QueueAt C trie last.executionStateRoot queue account head ∧
        ∀ offset (inside : offset < batches.flatten.length),
          EntryAt C trie account.storageRoot offset (batches.flatten[offset]).entry := by
  by_cases apart : Occurs (Host.step P (preparing C)) (fun state event => state.SlotsCollide C event) Host.blank events
  · exact .inl apart
  right
  rcases hostInvariant_cold codecs along apart reached with ⟨kept, cold⟩
  have position : host.position = (host.settled.getLast?.map ProofMessage.output).getD host.origin := rfl
  have firsts := Settled.first kept.settled
  rcases accounts_runs (Settled.attested kept.settled) with ⟨runs, paired⟩
  have chained : runs.IsChain Run.Chained := by
    apply isChain_forall₂ paired ?_ (Settled.chain kept.settled)
    intro earlier member later member' previous following first second continues
    apply Continues.chained continues first second
    rw [addressed later member', addressed earlier member]
  have growing : runs.IsChain fun previous following =>
      AppendOnly C trie previous.address previous.stateRoot following.stateRoot := by
    apply isChain_forall₂ paired ?_ appended
    intro earlier member later member' previous following first second grown
    have address : previous.address = queue := by
      rw [← addressed earlier member, ← (run_inputs previous).2.2, ← first.outputs]
      rfl
    rw [address, Run.stateRoot, Run.stateRoot, ← first.outputs, ← second.outputs]
    exact grown
  generalize host.settled = settled at paired addressed position firsts
  cases paired with
  | nil =>
    refine ⟨[], .nil, rfl, ?_, by simp⟩
    rw [position]
    simp [cold]
  | @cons first run rest runs here later =>
    rcases chain_batches sound rlp built run runs chained growing with ⟨batches, account, head, whole⟩
    have published : List.Forall₂ (PublishesBatch C trie queue) (first :: rest) batches := by
      apply forall₂_trans (.cons here later) whole.drains
      intro message member own batch accounts drains
      rw [← addressed message member]
      exact Accounts.publishes sound rlp built accounts drains
    have lasts := forall₂_getLast (.cons here later) (List.cons_ne_nil first rest) (List.cons_ne_nil run runs)
    have start : run.cursor = 0 := by
      have continues := firsts first rfl
      rw [Run.cursor, ← (run_inputs run).2.1, ← here.outputs]
      show first.inputQueueCursor.toNat = 0
      rw [continues.queueCursor, cold]
      rfl
    have final : host.position.queueCursor.toNat = (lastRun run runs).outputCursor := by
      rw [position, List.getLast?_eq_some_getLast (List.cons_ne_nil first rest), Run.outputCursor, lastRun,
        ← lasts.outputs]
      rfl
    refine ⟨batches, published, publishes_flatten published, ?_, ?_⟩
    · rw [whole.count, final, start, Nat.sub_zero]
    · intro last found
      rw [List.getLast?_eq_some_getLast (List.cons_ne_nil first rest)] at found
      cases found
      have address : (lastRun run runs).address = queue := by
        rw [← addressed _ (List.getLast_mem (List.cons_ne_nil first rest)), lastRun, ← (run_inputs _).2.2,
          ← lasts.outputs]
        rfl
      have root : (lastRun run runs).stateRoot =
          ((first :: rest).getLast (List.cons_ne_nil first rest)).executionStateRoot := by
        rw [lastRun, Run.stateRoot, ← lasts.outputs]
        rfl
      refine ⟨account, head, ?_, ?_⟩
      · rw [← address, ← root]
        exact whole.queue
      · intro offset inside
        have stored := whole.stored offset inside
        rw [start, Nat.zero_add] at stored
        exact stored

theorem settled_requests_once_sample : ∃ (host : Host Minimal.spec Sample.JsonNumber) (request : Request),
    run (Host.step Sample.checkpointPrimitives (preparing Sample.tagged)) Host.blank
      (Sample.savingEvents ++ [.writeEnds, .crash]) = some host ∧
    host.position.queueCursor = 1 ∧
    host.settled.flatMap ProofMessage.verifiedRequests = [request.verified] := by
  have reaches : (run (guarded (Host.step Sample.checkpointPrimitives (preparing Sample.tagged)) Sample.hostAdmits)
      Host.blank (Sample.savingEvents ++ [.writeEnds, .crash])).any (fun host => host.settled.length = 1 &&
        (host.position.queueCursor = 1 && host.settled.all fun message =>
          message.proofRequestQueueAddress = Sample.queueAddress)) = true := by decide +kernel
  rcases (Option.any_eq_true _ _).mp reaches with ⟨host, guardedRun, facts⟩
  rcases run_guarded (fun _ _ checked => hostAdmits_sound checked) guardedRun with ⟨reached, along⟩
  simp only [Bool.and_eq_true, decide_eq_true_eq, List.all_eq_true] at facts
  rcases facts with ⟨one, cursor, addressed⟩
  rcases List.length_eq_one_iff.mp one with ⟨message, settled⟩
  have sound : VerifyProofSound Sample.tagged Sample.known.trie :=
    ⟨(knownTries_sound Sample.known).accepted, (knownTries_sound Sample.known).empty⟩
  have rlp : RlpInjective Sample.tagged := ⟨(knownTries_rlp Sample.known).words, (knownTries_rlp Sample.known).accounts⟩
  rcases settled_requests_once Sample.tagged Sample.checkpointPrimitives checkpointPrimitives_roundTrip _ host along
    reached Sample.known.trie sound rlp sample_zerosBuilt Sample.queueAddress addressed
    (by rw [settled]; exact .singleton _) with collision | ⟨batches, _, published, count, _⟩
  · exact absurd collision (tagged_never _)
  · rw [cursor] at count
    rcases List.length_eq_one_iff.mp count with ⟨request, only⟩
    refine ⟨host, request, reached, cursor, ?_⟩
    rw [published, only]
    rfl

end Once

end NoriProof
