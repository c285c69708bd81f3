import Mathlib.Data.Nat.Find
import NoriBridgeHead.Rpcs.PreparedWindows

open Foundation Foundation.Outcome Foundation.Session

namespace NoriModel

/-- The first answer to a request that is asked again after a failure, and the number of calls made by then. -/
def firstAnswer {α : Type} (answer : Nat → Except String α) : Nat → Nat → Option (α × Nat)
  | calls, 0 =>
    match answer calls with
    | .ok response => some (response, calls + 1)
    | .error _ => none
  | calls, retries + 1 =>
    match answer calls with
    | .ok response => some (response, calls + 1)
    | .error _ => firstAnswer answer (calls + 1) retries

section Answers

variable (provider : ExecutionProvider) (address : Address) (block : UInt64)

def chunkAnswers : List (List B256) → Nat → Option (List EIP1186AccountProofResponse × Nat)
  | [], calls => some ([], calls)
  | chunk :: chunks, calls =>
    (firstAnswer (fun n => provider.getProof n address chunk block) calls ExecutionHttpProxy.maxRetries).bind
      fun first => (chunkAnswers chunks first.2).map fun rest => (first.1 :: rest.1, rest.2)

/-- The number of entries between a cursor and a head that one proof takes. -/
def batchSize (cursor head : UInt64) : Nat := min (head.toNat - cursor.toNat) maxBatch

def queueKeys (C : Crypto) (cursor head : UInt64) : List B256 :=
  storageSlotOfIndex queueHeadStorageIndex :: (entryRows C cursor (batchSize cursor head)).flatten

/-- What a provider answers about the queue: a head at or ahead of the cursor, and then one response for each chunk
    of the words that this head asks for. -/
structure QueueAnswers (C : Crypto) (cursor : UInt64) (chunkLimit : Nat) (head : UInt64)
    (responses : List EIP1186AccountProofResponse) (after : Nat) : Prop where
  headWord : provider.getStorageAt 0 address (storageSlotOfIndex queueHeadStorageIndex) block = .ok (U256.ofU64 head)
  behind : cursor ≤ head
  words : chunkAnswers provider address block ((queueKeys C cursor head).toChunks (max chunkLimit 1)) 1 =
    some (responses, after)

end Answers

/-- The words of several responses, of which a later one replaces an earlier one. -/
def answeredWords (responses : List EIP1186AccountProofResponse) : B256 → Option (U256 × List Bytes) :=
  collect ((responses.flatMap EIP1186AccountProofResponse.storageProof).map fun slot =>
    (slot.key, (slot.value, slot.proof)))

/-- The first response about the queue names the queue that was asked for. -/
def NamesQueue (C : Crypto) (provider : ExecutionProvider) (proofQueueAddress : Address) (cursor block : UInt64)
    (chunkLimit : Nat) : Prop :=
  ∀ head first rest after,
    QueueAnswers provider proofQueueAddress block C cursor chunkLimit head (first :: rest) after →
      first.address = proofQueueAddress

/-- Where all the words of an entry and of the entries before it are answered, its count fits a byte. -/
def CountsFit (C : Crypto) (provider : ExecutionProvider) (proofQueueAddress : Address) (cursor block : UInt64)
    (chunkLimit : Nat) : Prop :=
  ∀ head responses after, QueueAnswers provider proofQueueAddress block C cursor chunkLimit head responses after →
    ∀ offset < batchSize cursor head,
      (∀ earlier ≤ offset, ∀ key ∈ entrySlots C (cursor.toNat + earlier), (answeredWords responses key).isSome) →
      ∀ word proof, answeredWords responses (requestSlot C (cursor.toNat + offset) 2) = some (word, proof) →
        word.toNat < 2^8

/-- The queue that the inputs are about is the one that a proof of them commits to. -/
structure CommitsTo {S : ConsensusSpec} (inputs : ProofInputs S) (outputs : ProofOutputs) (address : Address) :
    Prop where
  witness : inputs.queueStorage.proofRequestQueueAddress = address
  committed : outputs.proofRequestQueueAddress = address

/-- The queue that a proof of the inputs commits to, and from whose storage its head and entries are read. -/
structure AnchorsOn (C : Crypto) (trie : TrieContents) {S : ConsensusSpec} (inputs : ProofInputs S)
    (outputs : ProofOutputs) (address : Address) : Prop extends CommitsTo inputs outputs address where
  account : AccountAt C trie outputs.executionStateRoot address (some inputs.queueStorage.proofRequestQueueAccount)
  head : WordAt C trie inputs.queueStorage.proofRequestQueueAccount.storageRoot
    (storageSlotOfIndex queueHeadStorageIndex) (U256.ofU64 inputs.queueStorage.head)
  entries : ∀ offset (inside : offset < inputs.queueStorage.entries.length),
    EntryAt C trie inputs.queueStorage.proofRequestQueueAccount.storageRoot
      (inputs.queueStorage.inputCursor.toNat + offset) (inputs.queueStorage.entries[offset]).entry

namespace ExecutionHttpProxy

/-- What is assembled once the queue has been answered. -/
def finishQueueStorage (C : Crypto) (attempt : ExecutionAttempt) (inputQueueCursor block : UInt64)
    (executionStateRoot : B256) (chunkLimit : Nat) (queueHead : UInt64) (queueProof : EIP1186AccountProofResponse) :
    Session HostError QueueStorage := do
  let entries ← Session.lift ((List.range (batchSize inputQueueCursor queueHead)).mapM fun offset =>
    assembleEntry queueProof.words (entrySlots C (inputQueueCursor.toNat + offset)))
  let targets ← (attempt.order.iterate (slotsByTarget entries)).mapM
    (targetProof C attempt.provider block executionStateRoot chunkLimit)
  let headWord ← Session.lift
    (wordAt queueProof.words .queueProofMissing (storageSlotOfIndex queueHeadStorageIndex))
  pure {
    proofRequestQueueAddress := queueProof.address
    proofRequestQueueAccount := queueProof.account
    proofRequestQueueAccountMptProof := queueProof.accountProof
    head := queueHead
    headMptProof := headWord.2
    inputCursor := inputQueueCursor
    entries := entries
    targets := targets }

end ExecutionHttpProxy

end NoriModel

namespace NoriProof

open NoriModel ExecutionHttpProxy

variable {C : Crypto} {S : ConsensusSpec} {provider : ExecutionProvider} {attempt : ExecutionAttempt}
  {address : Address} {cursor block head : UInt64} {stateRoot : B256} {chunkLimit : Nat}

section Requests

variable (provider : ExecutionProvider) (address : Address) (block : UInt64)

theorem requestChunk_settles (chunk : List B256) (retries calls : Nat) :
    Settles (requestChunk provider address chunk block retries) calls
      (firstAnswer (fun n => provider.getProof n address chunk block) calls retries) := by
  induction retries generalizing calls with
  | zero =>
    unfold firstAnswer requestChunk
    cases answered : provider.getProof calls address chunk block with
    | ok response => simp [Settles, Session.bind_apply, Session.call, answered, Session.pure_apply]
    | error reason => simp [Settles, Session.bind_apply, Session.call, Session.lift, answered, fail, Except.map]
  | succ retries ih =>
    unfold firstAnswer requestChunk
    have continued := ih (calls + 1)
    cases answered : provider.getProof calls address chunk block with
    | ok response => simp [Settles, Session.bind_apply, Session.call, answered, Session.pure_apply]
    | error reason =>
      cases later : firstAnswer (fun n => provider.getProof n address chunk block) (calls + 1) retries with
      | none => simpa [Settles, Session.bind_apply, Session.call, answered, later] using continued
      | some result => simpa [Settles, Session.bind_apply, Session.call, answered, later] using continued

/-- The first response with the words of all of them. -/
def mergeResponses (first : EIP1186AccountProofResponse) (rest : List EIP1186AccountProofResponse) :
    EIP1186AccountProofResponse :=
  { first with storageProof := first.storageProof ++ rest.flatMap EIP1186AccountProofResponse.storageProof }

theorem mergeResponses_words (first : EIP1186AccountProofResponse) (rest : List EIP1186AccountProofResponse) :
    (mergeResponses first rest).words = answeredWords (first :: rest) := by
  rw [EIP1186AccountProofResponse.words, answeredWords, List.flatMap_cons]
  rfl

def requestNext (merged : Option EIP1186AccountProofResponse) (chunk : List B256) :
    Session HostError (Option EIP1186AccountProofResponse) := do
  let proof ← requestChunk provider address chunk block maxRetries
  pure (some (mergeChunk merged proof))

theorem requestNext_bind {α : Type} (merged : Option EIP1186AccountProofResponse) (chunk : List B256)
    (next : Option EIP1186AccountProofResponse → Session HostError α) :
    (requestNext provider address block merged chunk >>= next) =
      (requestChunk provider address chunk block maxRetries >>= fun proof =>
        next (some (mergeChunk merged proof))) := by
  rw [requestNext, bind_assoc]
  simp only [pure_bind]

theorem requestMore_settles (chunks : List (List B256)) (merged : EIP1186AccountProofResponse) (calls : Nat) :
    Settles (chunks.foldlM (requestNext provider address block) (some merged)) calls
      ((chunkAnswers provider address block chunks calls).map fun answers =>
        (some (mergeResponses merged answers.1), answers.2)) := by
  induction chunks generalizing merged calls with
  | nil => simp [chunkAnswers, Settles, mergeResponses, Session.pure_apply]
  | cons chunk chunks ih =>
    rw [List.foldlM_cons, requestNext_bind]
    have settled := Settles.bind (requestChunk_settles provider address block chunk maxRetries calls)
      fun proof after _ => ih (mergeChunk (some merged) proof) after
    simpa [chunkAnswers, Option.map_bind, Function.comp_def, mergeResponses, mergeChunk] using settled

theorem requestRest_settles (chunks : List (List B256)) (first : EIP1186AccountProofResponse) (calls : Nat) :
    Settles (chunks.foldlM (requestNext provider address block) (some first) >>= fun merged =>
        Session.lift (expect "at least one request is always issued" merged)) calls
      ((chunkAnswers provider address block chunks calls).map fun answers =>
        (mergeResponses first answers.1, answers.2)) := by
  have more := requestMore_settles provider address block chunks first calls
  cases answered : chunkAnswers provider address block chunks calls with
  | none =>
    rw [answered] at more
    rcases more with ⟨error, failed⟩
    exact ⟨error, by rw [bind_apply, failed, error_bind]⟩
  | some answers =>
    rw [answered] at more
    have merged : chunks.foldlM (requestNext provider address block) (some first) calls =
      .ok (some (mergeResponses first answers.1), answers.2) := more
    unfold Settles
    rw [Option.map_some, bind_apply, merged, ok_bind]
    rfl

def requestChunks (storageKeys : List B256) (chunkLimit : Nat) : List (List B256) :=
  if storageKeys.isEmpty then [[]] else storageKeys.toChunks (max chunkLimit 1)

theorem requestChunks_ne_nil (storageKeys : List B256) (chunkLimit : Nat) :
    requestChunks storageKeys chunkLimit ≠ [] := by
  unfold requestChunks
  split
  · simp
  · rename_i nonempty
    intro none
    have whole := toChunks_flatten (max chunkLimit 1) storageKeys (by omega)
    rw [none] at whole
    simp [← whole] at nonempty

theorem getProof_settles (storageKeys : List B256) (chunkLimit calls : Nat) :
    Settles (_getProof provider address storageKeys block chunkLimit) calls
      ((chunkAnswers provider address block (requestChunks storageKeys chunkLimit) calls).bind fun answers =>
        answers.1.head?.map fun first => (mergeResponses first answers.1.tail, answers.2)) := by
  show Settles ((requestChunks storageKeys chunkLimit).foldlM (requestNext provider address block) none >>=
    fun merged => Session.lift (expect "at least one request is always issued" merged)) calls _
  cases chunked : requestChunks storageKeys chunkLimit with
  | nil => exact absurd chunked (requestChunks_ne_nil storageKeys chunkLimit)
  | cons chunk chunks =>
    rw [List.foldlM_cons, requestNext_bind, bind_assoc]
    have settled := Settles.bind (requestChunk_settles provider address block chunk maxRetries calls)
      fun first after _ => requestRest_settles provider address block chunks first after
    simpa [chunkAnswers, Option.bind_assoc, Option.bind_map, Option.map_eq_bind, Function.comp_def, mergeChunk]
      using settled

theorem chunkAnswers_length {chunks : List (List B256)} {calls after : Nat}
    {responses : List EIP1186AccountProofResponse}
    (answered : chunkAnswers provider address block chunks calls = some (responses, after)) :
    responses.length = chunks.length := by
  induction chunks generalizing calls after responses with
  | nil =>
    cases answered
    rfl
  | cons chunk chunks ih =>
    simp only [chunkAnswers, Option.bind_eq_some_iff, Option.map_eq_some_iff] at answered
    rcases answered with ⟨first, _, rest, later, same⟩
    cases same
    simp [ih later]

theorem u64_of_word_iff (word : U256) (head : UInt64) :
    (if word.toNat < 2^64 then some (UInt64.ofNat word.toNat) else none) = some head ↔ word = U256.ofU64 head := by
  constructor
  · intro converted
    split at converted
    · rename_i fits
      cases converted
      apply BitVec.eq_of_toNat_eq
      rw [ofU64_toNat, UInt64.toNat_ofNat_of_lt' fits]
    · cases converted
  · rintro rfl
    have fits : (U256.ofU64 head).toNat < 2^64 := by
      rw [ofU64_toNat]
      exact head.toNat_lt
    rw [if_pos fits, ofU64_toNat, UInt64.ofNat_toNat]

theorem getQueueHead_ok_iff (calls after : Nat) (head : UInt64) :
    _getQueueHead provider address block calls = .ok (head, after) ↔
      provider.getStorageAt calls address (storageSlotOfIndex queueHeadStorageIndex) block = .ok (U256.ofU64 head) ∧
        after = calls + 1 := by
  unfold _getQueueHead _getStorageWord
  rw [bind_apply, bind_apply, Session.call, ok_bind]
  cases provider.getStorageAt calls address (storageSlotOfIndex queueHeadStorageIndex) block with
  | error reason => simp [Session.lift, fail, Except.map]
  | ok word =>
    show Session.lift (okOr HostError.queueHeadExceedsU64 _) (calls + 1) = .ok (head, after) ↔ _
    rw [Except.ok.injEq, ← u64_of_word_iff]
    cases (if word.toNat < 2^64 then some (UInt64.ofNat word.toNat) else none) with
    | none => simp [Session.lift, okOr, fail, Except.map]
    | some value => simp [Session.lift, okOr, Except.map, eq_comm]

theorem survives_call {α : Type} (answer : Nat → α) : Survives (Session.call answer : Session HostError α) :=
  fun _ => .of_ok rfl

theorem survives_fail {α : Type} (error : HostError) : Survives (Session.lift (fail error) : Session HostError α) := by
  apply survives_lift
  apply FailsOnly.mk
  intro failure failed
  cases failed
  trivial

theorem getQueueHead_survives : Survives (_getQueueHead provider address block) := by
  apply Survives.bind
  · apply Survives.bind (survives_call _)
    intro answer
    cases answer with
    | ok word => exact survives_pure word
    | error reason => exact survives_fail _
  · intro word
    exact survives_lift (failsOnly_okOr trivial _)

theorem getProof_survives (storageKeys : List B256) (chunkLimit : Nat) :
    Survives (_getProof provider address storageKeys block chunkLimit) :=
  fun calls => (getProof_settles provider address block storageKeys chunkLimit calls).failsOnly

theorem wordAt_fails (words : B256 → Option (U256 × List Bytes)) (missing : B256 → HostError) (key : B256) :
    FailsOnly Failure.IsError (wordAt words missing key) := failsOnly_okOr trivial _

theorem accountWitness_fails (response : EIP1186AccountProofResponse) (stateRoot : B256) :
    FailsOnly Failure.IsError (_accountWitness C response stateRoot) := by
  simp only [_accountWitness]
  split
  · exact .of_ok rfl
  · apply FailsOnly.bind (failsOnly_mapErr_fromResult (fun _ => trivial) _)
    intro _ _
    exact .of_ok rfl

theorem targetProof_survives (stateRoot : B256) (chunkLimit : Nat) (group : Address × List B256) :
    Survives (targetProof C provider block stateRoot chunkLimit group) := by
  apply Survives.bind (getProof_survives provider group.1 block group.2 chunkLimit)
  intro response
  apply Survives.bind (survives_lift (accountWitness_fails response stateRoot))
  intro account
  apply Survives.bind
  · apply survives_lift
    apply FailsOnly.mapM
    intro key
    exact .bind (wordAt_fails _ _ _) fun _ _ => .of_ok rfl
  · intro slots
    exact survives_pure _

end Requests

section Assembled

theorem queueAnswers_cons {responses : List EIP1186AccountProofResponse} {after : Nat}
    (answers : QueueAnswers provider address block C cursor chunkLimit head responses after) :
    ∃ first rest, responses = first :: rest := by
  have size := chunkAnswers_length provider address block answers.words
  have chunks := requestChunks_ne_nil (queueKeys C cursor head) chunkLimit
  cases responses with
  | nil => exact absurd (List.eq_nil_of_length_eq_zero size.symm) chunks
  | cons first rest => exact ⟨first, rest, rfl⟩

theorem queueAnswers_unique {head' : UInt64} {responses responses' : List EIP1186AccountProofResponse}
    {after after' : Nat} (answers : QueueAnswers provider address block C cursor chunkLimit head responses after)
    (answers' : QueueAnswers provider address block C cursor chunkLimit head' responses' after') :
    head = head' ∧ responses = responses' ∧ after = after' := by
  have heads : head = head' := ofU64_injective (Except.ok.inj (answers.headWord.symm.trans answers'.headWord))
  subst heads
  have same := Option.some.inj (answers.words.symm.trans answers'.words)
  exact ⟨rfl, congrArg Prod.fst same, congrArg Prod.snd same⟩

/-- The reads before the entries are assembled: a head, the keys it asks for, and their responses. -/
theorem assembleQueueStorage_eq (headWord : attempt.provider.getStorageAt 0 address
      (storageSlotOfIndex queueHeadStorageIndex) block = .ok (U256.ofU64 head)) (behind : cursor ≤ head) :
    assembleQueueStorage C attempt address cursor block stateRoot chunkLimit 0 =
      (_getProof attempt.provider address (queueKeys C cursor head) block chunkLimit >>=
        finishQueueStorage C attempt cursor block stateRoot chunkLimit head) 1 := by
  have read : _getQueueHead attempt.provider address block 0 = .ok (head, 1) :=
    (getQueueHead_ok_iff attempt.provider address block 0 1 head).mpr ⟨headWord, rfl⟩
  have order : cursor.toNat ≤ head.toNat := UInt64.le_iff_toNat_le.mp behind
  have bound := head.toNat_lt
  have rest : (head - cursor).toNat = head.toNat - cursor.toNat := UInt64.toNat_sub_of_le _ _ behind
  have notAhead : ensure (¬ cursor > head) (HostError.cursorAheadOfHead cursor head) = .ok () :=
    ensure_ok_iff.mpr (UInt64.not_lt.mpr behind)
  have remaining : subU64 (ε := HostError) head cursor = .ok (head - cursor) := subU64_ok_iff.mpr ⟨order, rest⟩
  have size : (min (head - cursor) (UInt64.ofNat maxBatch)).toNat = batchSize cursor head := by
    rw [batch_toNat, rest, batchSize]
  have small : batchSize cursor head ≤ head.toNat - cursor.toNat := by
    unfold batchSize
    omega
  have rows : (List.range (batchSize cursor head)).mapM (entryWordKeys C cursor) =
    .ok (entryRows C cursor (batchSize cursor head)) := entryRows_ok (by omega)
  unfold assembleQueueStorage
  have sliced : ∀ queueProof : EIP1186AccountProofResponse,
      ((List.range (batchSize cursor head)).mapM fun offset => assembleEntry queueProof.words
        (((entryRows C cursor (batchSize cursor head)).flatten.drop (offset * queueEntryWords)).take queueEntryWords)) =
      (List.range (batchSize cursor head)).mapM fun offset =>
        assembleEntry queueProof.words (entrySlots C (cursor.toNat + offset)) := by
    intro queueProof
    apply mapM_congr
    intro offset member
    rw [entryRows_slice (List.mem_range.mp member)]
  simp only [bind_apply, read, ok_bind, Session.lift, notAhead, remaining, size, rows, Except.map, sliced,
    finishQueueStorage, queueKeys]

theorem assembleQueueStorage_answered {first : EIP1186AccountProofResponse} {rest : List EIP1186AccountProofResponse}
    {after : Nat}
    (answers : QueueAnswers attempt.provider address block C cursor chunkLimit head (first :: rest) after) :
    assembleQueueStorage C attempt address cursor block stateRoot chunkLimit 0 =
      finishQueueStorage C attempt cursor block stateRoot chunkLimit head (mergeResponses first rest) after := by
  have settled := getProof_settles attempt.provider address block (queueKeys C cursor head) chunkLimit 1
  have words : chunkAnswers attempt.provider address block (requestChunks (queueKeys C cursor head) chunkLimit) 1 =
    some (first :: rest, after) := answers.words
  rw [words] at settled
  have returned : _getProof attempt.provider address (queueKeys C cursor head) block chunkLimit 1 =
    .ok (mergeResponses first rest, after) := settled
  rw [assembleQueueStorage_eq answers.headWord answers.behind, bind_apply, returned, ok_bind]

/-- Without these answers the preparation ends in an error. -/
theorem assembleQueueStorage_unanswered (stateRoot : B256)
    (unanswered : ∀ head responses after,
      ¬ QueueAnswers attempt.provider address block C cursor chunkLimit head responses after) :
    ∃ error, assembleQueueStorage C attempt address cursor block stateRoot chunkLimit 0 = .error (.error error) := by
  cases read : _getQueueHead attempt.provider address block 0 with
  | error failure =>
    have handled := (getQueueHead_survives attempt.provider address block 0).only failure read
    cases failure with
    | panic message => exact handled.elim
    | error error => exact ⟨error, by rw [assembleQueueStorage, bind_apply, read, error_bind]⟩
  | ok result =>
    rcases result with ⟨head, after⟩
    rcases (getQueueHead_ok_iff attempt.provider address block 0 after head).mp read with ⟨headWord, rfl⟩
    by_cases behind : cursor ≤ head
    · rw [assembleQueueStorage_eq headWord behind]
      have settled := getProof_settles attempt.provider address block (queueKeys C cursor head) chunkLimit 1
      cases words : chunkAnswers attempt.provider address block
          (requestChunks (queueKeys C cursor head) chunkLimit) 1 with
      | some answers => exact absurd ⟨headWord, behind, words⟩ (unanswered head answers.1 answers.2)
      | none =>
        rw [words] at settled
        rcases settled with ⟨error, failed⟩
        exact ⟨error, by rw [bind_apply, failed, error_bind]⟩
    · have ahead : ensure (¬ cursor > head) (HostError.cursorAheadOfHead cursor head) =
          fail (.cursorAheadOfHead cursor head) := by
        have overtaken : ¬ ¬ cursor > head := by
          rw [not_not]
          exact UInt64.not_le.mp behind
        rw [ensure, if_neg overtaken]
      refine ⟨.cursorAheadOfHead cursor head, ?_⟩
      unfold assembleQueueStorage
      simp only [bind_apply, read, ok_bind, Session.lift, ahead, fail, Except.map, error_bind]

theorem finishQueueStorage_address (queueProof : EIP1186AccountProofResponse) :
    Ensures (finishQueueStorage C attempt cursor block stateRoot chunkLimit head queueProof) fun queue =>
      queue.proofRequestQueueAddress = queueProof.address ∧ queue.inputCursor = cursor ∧
        queue.entries.length = batchSize cursor head := by
  have counted : Ensures (Session.lift ((List.range (batchSize cursor head)).mapM fun offset =>
      assembleEntry queueProof.words (entrySlots C (cursor.toNat + offset)))) fun entries =>
        entries.length = batchSize cursor head := by
    apply ensures_lift
    intro entries returned
    have paired := ((mapM_ok_iff _ _ _).mp returned).length_eq
    rw [← paired, List.length_range]
  refine Ensures.bind counted ?_
  intro entries size
  exact ensures_skip fun targets => ensures_skip fun headWord => ensures_pure ⟨rfl, rfl, size⟩

end Assembled

section Panics

variable {words : B256 → Option (U256 × List Bytes)} {index : Nat}

theorem wordAt_ok_iff {missing : B256 → HostError} {key : B256} {word : U256 × List Bytes} :
    wordAt words missing key = .ok word ↔ words key = some word := okOr_ok_iff

theorem assembleEntry_missing {key : B256} (member : key ∈ entrySlots C index) (missing : words key = none) :
    ∃ error, assembleEntry words (entrySlots C index) = .error (.error error) := by
  cases looked : (entrySlots C index).mapM (wordAt words .queueProofMissing) with
  | ok found =>
    rcases forall₂_left ((mapM_ok_iff _ _ _).mp looked) member with ⟨word, _, present⟩
    rw [wordAt_ok_iff, missing] at present
    cases present
  | error failure =>
    have handled := (FailsOnly.mapM (wordAt_fails words .queueProofMissing) (entrySlots C index)).only failure looked
    cases failure with
    | panic message => exact handled.elim
    | error error => exact ⟨error, by rw [assembleEntry, looked, error_bind]⟩

/-- With all five words at hand only the count decides: it is narrowed to a byte without a check. -/
theorem assembleEntry_present (present : ∀ key ∈ entrySlots C index, (words key).isSome) :
    ∃ word proof, words (requestSlot C index 2) = some (word, proof) ∧
      (word.toNat < 2^8 → ∃ entry, assembleEntry words (entrySlots C index) = .ok entry) ∧
      (2^8 ≤ word.toNat → assembleEntry words (entrySlots C index) = panicked "Uint conversion error") := by
  have found : ∀ key ∈ entrySlots C index, ∃ word, words key = some word := fun key member =>
    Option.isSome_iff_exists.mp (present key member)
  rcases found (requestSlot C index 0) (by simp [entrySlots]) with ⟨target, found0⟩
  rcases found (requestSlot C index 1) (by simp [entrySlots]) with ⟨slotKey, found1⟩
  rcases found (requestSlot C index 2) (by simp [entrySlots]) with ⟨count, found2⟩
  rcases found (requestSlot C index 3) (by simp [entrySlots]) with ⟨key0, found3⟩
  rcases found (requestSlot C index 4) (by simp [entrySlots]) with ⟨key1, found4⟩
  have assembled : assembleEntry words (entrySlots C index) = entryOfWords [target, slotKey, count, key0, key1] := by
    simp only [assembleEntry, entrySlots, List.mapM_cons, List.mapM_nil, wordAt, found0, found1, found2, found3, found4,
      okOr, ok_bind, pure_bind]
  refine ⟨count.1, count.2, found2, ?_, ?_⟩
  · intro fits
    rw [assembled, entryOfWords, toU8, if_pos fits]
    exact ⟨_, rfl⟩
  · intro large
    rw [assembled, entryOfWords, toU8, if_neg (Nat.not_lt.mpr large)]
    rfl

theorem assembleEntries_panic {count : Nat} {message : String}
    (panics : ((List.range count).mapM fun offset => assembleEntry words (entrySlots C (cursor.toNat + offset))) =
      .error (.panic message)) :
    ∃ offset < count, (∀ earlier ≤ offset, ∀ key ∈ entrySlots C (cursor.toNat + earlier), (words key).isSome) ∧
      ∃ word proof, words (requestSlot C (cursor.toNat + offset) 2) = some (word, proof) ∧ 2^8 ≤ word.toNat := by
  rcases (mapM_error_iff _ _ _).mp panics with ⟨offset, inside, before, failed⟩
  rw [List.getElem_range] at failed
  rw [List.length_range] at inside
  have present : ∀ earlier ≤ offset, ∀ key ∈ entrySlots C (cursor.toNat + earlier), (words key).isSome := by
    intro earlier below key member
    cases found : words key with
    | some word => rfl
    | none =>
      rcases assembleEntry_missing member found with ⟨error, missing⟩
      by_cases last : earlier = offset
      · rw [last] at missing
        cases missing.symm.trans failed
      · rcases before earlier (by omega) with ⟨entry, passed⟩
        rw [List.getElem_range] at passed
        cases missing.symm.trans passed
  rcases assembleEntry_present (present offset (Nat.le_refl offset)) with ⟨word, proof, found, fits, _⟩
  refine ⟨offset, inside, present, word, proof, found, ?_⟩
  by_contra small
  rcases fits (by omega) with ⟨entry, passed⟩
  cases passed.symm.trans failed

theorem assembleEntries_panics {count offset : Nat} (inside : offset < count)
    (present : ∀ earlier ≤ offset, ∀ key ∈ entrySlots C (cursor.toNat + earlier), (words key).isSome)
    {word : U256} {proof : List Bytes} (found : words (requestSlot C (cursor.toNat + offset) 2) = some (word, proof))
    (large : 2^8 ≤ word.toNat) :
    ((List.range count).mapM fun offset => assembleEntry words (entrySlots C (cursor.toNat + offset))) =
      panicked "Uint conversion error" := by
  -- the first entry with a large count is the one at which the loop stops
  let Large := fun earlier => ∃ word proof,
    words (requestSlot C (cursor.toNat + earlier) 2) = some (word, proof) ∧ 2^8 ≤ word.toNat
  have exists_large : ∃ earlier, Large earlier := ⟨offset, word, proof, found, large⟩
  classical
  have below : Nat.find exists_large ≤ offset := Nat.find_min' exists_large ⟨word, proof, found, large⟩
  have isLarge : Large (Nat.find exists_large) := Nat.find_spec exists_large
  have isFirst : ∀ earlier < Nat.find exists_large, ¬ Large earlier := fun earlier => Nat.find_min exists_large
  generalize Nat.find exists_large = stop at below isLarge isFirst
  apply (mapM_error_iff _ _ _).mpr
  refine ⟨stop, by rw [List.length_range]; omega, ?_, ?_⟩
  · intro earlier before
    rw [List.getElem_range]
    rcases assembleEntry_present (present earlier (by omega)) with ⟨count, countProof, counted, fits, _⟩
    apply fits
    by_contra notSmall
    exact isFirst earlier before ⟨count, countProof, counted, by omega⟩
  · rw [List.getElem_range]
    rcases assembleEntry_present (present stop below) with ⟨count, countProof, counted, _, panics⟩
    rcases isLarge with ⟨other, otherProof, sameWord, notSmall⟩
    rw [counted] at sameWord
    cases sameWord
    exact panics notSmall

theorem finishQueueStorage_panics_iff (attempt : ExecutionAttempt) (queueProof : EIP1186AccountProofResponse)
    (calls : Nat) :
    (∃ message, finishQueueStorage C attempt cursor block stateRoot chunkLimit head queueProof calls =
        .error (.panic message)) ↔
      ∃ offset < batchSize cursor head,
        (∀ earlier ≤ offset, ∀ key ∈ entrySlots C (cursor.toNat + earlier), (queueProof.words key).isSome) ∧
        ∃ word proof, queueProof.words (requestSlot C (cursor.toNat + offset) 2) = some (word, proof) ∧
          2^8 ≤ word.toNat := by
  constructor
  · rintro ⟨message, panics⟩
    unfold finishQueueStorage at panics
    rw [bind_apply, bind_error_iff] at panics
    rcases panics with assembling | ⟨entries, _, later⟩
    · cases assembled : (List.range (batchSize cursor head)).mapM fun offset =>
          assembleEntry queueProof.words (entrySlots C (cursor.toNat + offset)) with
      | ok entries =>
        rw [assembled] at assembling
        cases assembling
      | error failure =>
        rw [assembled] at assembling
        cases assembling
        exact assembleEntries_panic assembled
    · have survives : Survives (do
          let targets ← (attempt.order.iterate (slotsByTarget entries.1)).mapM
            (targetProof C attempt.provider block stateRoot chunkLimit)
          let headWord ← Session.lift (wordAt queueProof.words HostError.queueProofMissing
            (storageSlotOfIndex queueHeadStorageIndex))
          pure (QueueStorage.mk queueProof.address queueProof.account queueProof.accountProof head headWord.2 cursor
            entries.1 targets)) := by
        apply Survives.bind (survives_mapM (targetProof_survives attempt.provider block stateRoot chunkLimit) _)
        intro targets
        apply Survives.bind (survives_lift (wordAt_fails _ _ _))
        intro headWord
        exact survives_pure _
      exact ((survives entries.2).only _ later).elim
  · rintro ⟨offset, inside, present, word, proof, found, large⟩
    have panics := assembleEntries_panics inside present found large
    refine ⟨"Uint conversion error", ?_⟩
    rw [finishQueueStorage, bind_apply, panics]
    rfl

theorem assembleQueueStorage_panics_iff (attempt : ExecutionAttempt) :
    (∃ message, assembleQueueStorage C attempt address cursor block stateRoot chunkLimit 0 = .error (.panic message)) ↔
      ¬ CountsFit C attempt.provider address cursor block chunkLimit := by
  constructor
  · rintro ⟨message, panics⟩ fit
    by_cases answered : ∃ head responses after,
        QueueAnswers attempt.provider address block C cursor chunkLimit head responses after
    · rcases answered with ⟨head, responses, after, answers⟩
      rcases queueAnswers_cons answers with ⟨first, rest, rfl⟩
      rw [assembleQueueStorage_answered answers] at panics
      rcases (finishQueueStorage_panics_iff attempt _ _).mp ⟨message, panics⟩ with
        ⟨offset, inside, present, word, proof, found, large⟩
      rw [mergeResponses_words] at present found
      have small := fit head (first :: rest) after answers offset inside present word proof found
      omega
    · have unanswered : ∀ head responses after,
          ¬ QueueAnswers attempt.provider address block C cursor chunkLimit head responses after :=
        fun head responses after answers => answered ⟨head, responses, after, answers⟩
      rcases assembleQueueStorage_unanswered stateRoot unanswered with ⟨error, failed⟩
      cases failed.symm.trans panics
  · intro unfit
    simp only [CountsFit, not_forall, not_lt] at unfit
    rcases unfit with ⟨head, responses, after, answers, offset, inside, present, word, proof, found, large⟩
    rcases queueAnswers_cons answers with ⟨first, rest, rfl⟩
    rw [assembleQueueStorage_answered answers]
    apply (finishQueueStorage_panics_iff attempt _ _).mpr
    rw [mergeResponses_words]
    exact ⟨offset, inside, present, word, proof, found, large⟩

theorem prepare_panics_iff (attempt : ExecutionAttempt) (inputs : ConsensusProofInputs S) (message : String) :
    (_prepareConsensusMptProofInputs C attempt address cursor block inputs stateRoot chunkLimit).outcome =
        panicked message ↔
      assembleQueueStorage C attempt address cursor block stateRoot chunkLimit 0 = .error (.panic message) := by
  rw [panicked, outcome_error_iff, _prepareConsensusMptProofInputs, bind_apply, bind_error_iff]
  constructor
  · rintro (assembling | ⟨queue, _, later⟩)
    · exact assembling
    · have dryRun : Survives (do
          let _ ← Session.lift (spawnBlocking (consensusMptProgram C (inputs.withQueue queue.1)))
          pure (inputs.withQueue queue.1)) := by
        apply Survives.bind (survives_lift (spawnBlocking_fails _))
        intro _
        exact survives_pure _
      exact ((dryRun queue.2).only _ later).elim
  · exact .inl

theorem prepare_survives_iff (attempt : ExecutionAttempt) (inputs : ConsensusProofInputs S) :
    (∀ message, (_prepareConsensusMptProofInputs C attempt address cursor block inputs stateRoot chunkLimit).outcome ≠
        panicked message) ↔ CountsFit C attempt.provider address cursor block chunkLimit := by
  have assembling : (∃ message, assembleQueueStorage C attempt address cursor block stateRoot chunkLimit 0 =
      .error (.panic message)) ↔ ¬ CountsFit C attempt.provider address cursor block chunkLimit :=
    assembleQueueStorage_panics_iff attempt
  rw [← not_iff_not, ← assembling]
  simp only [ne_eq, not_forall, not_not, prepare_panics_iff]

end Panics

section Prepared

variable {inputs : ConsensusProofInputs S} {proofInputs : ProofInputs S}

/-- Prepared inputs were assembled from the provider's answers about the queue, and the dry run accepted them. -/
theorem prepared_answers (prepared : (_prepareConsensusMptProofInputs C attempt address cursor block inputs stateRoot
      chunkLimit).outcome = .ok proofInputs) :
    ∃ head first rest after outputs,
      QueueAnswers attempt.provider address block C cursor chunkLimit head (first :: rest) after ∧
      proofInputs.queueStorage.proofRequestQueueAddress = first.address ∧
      proofInputs.queueStorage.entries.length = batchSize cursor head ∧
      consensusMptProgram C proofInputs = .ok outputs := by
  rcases outcome_ok_iff.mp prepared with ⟨after, returned⟩
  rw [_prepareConsensusMptProofInputs, bind_apply, bind_ok_iff] at returned
  rcases returned with ⟨⟨queue, calls⟩, assembled, finished⟩
  rw [bind_apply, bind_ok_iff] at finished
  rcases finished with ⟨⟨outputs, later⟩, ran, same⟩
  cases same
  have accepted : consensusMptProgram C (inputs.withQueue queue) = .ok outputs := by
    cases dryRun : consensusMptProgram C (inputs.withQueue queue) with
    | ok value =>
      rw [dryRun] at ran
      cases ran
      rfl
    | error failure =>
      rw [dryRun] at ran
      cases failure <;> cases ran
  by_cases answered : ∃ head responses after,
      QueueAnswers attempt.provider address block C cursor chunkLimit head responses after
  · rcases answered with ⟨head, responses, after, answers⟩
    rcases queueAnswers_cons answers with ⟨first, rest, rfl⟩
    rw [assembleQueueStorage_answered answers] at assembled
    rcases finishQueueStorage_address _ _ _ _ assembled with ⟨named, _, size⟩
    exact ⟨head, first, rest, after, outputs, answers, named, size, accepted⟩
  · have unanswered : ∀ head responses after,
        ¬ QueueAnswers attempt.provider address block C cursor chunkLimit head responses after :=
      fun head responses after answers => answered ⟨head, responses, after, answers⟩
    rcases assembleQueueStorage_unanswered stateRoot unanswered with ⟨error, failed⟩
    cases failed.symm.trans assembled

theorem program_commits {outputs : ProofOutputs} (accepted : consensusMptProgram C proofInputs = .ok outputs) :
    CommitsTo proofInputs outputs proofInputs.queueStorage.proofRequestQueueAddress := by
  rcases (consensusMptProgram_ok_iff _ _).mp accepted with ⟨_, _, _, _, _, _, rfl⟩
  exact ⟨rfl, rfl⟩

theorem program_anchors {trie : TrieContents} (sound : VerifyProofSound C trie) {outputs : ProofOutputs}
    (accepted : consensusMptProgram C proofInputs = .ok outputs) :
    AnchorsOn C trie proofInputs outputs proofInputs.queueStorage.proofRequestQueueAddress := by
  have commits := program_commits accepted
  rcases (consensusMptProgram_ok_iff _ _).mp accepted with ⟨consensus, output, root, _, drained, _, rfl⟩
  rcases verifyQueue_ok_iff.mp drained with ⟨account, head, _, count, entries, _, _⟩
  apply AnchorsOn.mk
  · exact commits
  · exact sound.accepted _ _ _ _ account
  · exact verifyStorageWord_sound sound head
  · intro offset inside
    have small : offset < 2^64 := by
      have limit : maxBatch = 65536 := rfl
      omega
    exact verifyEntry_sound sound small (entries offset inside)

theorem prepare_fails (attempt : ExecutionAttempt) (inputs : ConsensusProofInputs S)
    (fit : CountsFit C attempt.provider address cursor block chunkLimit) :
    FailsOnly Failure.IsError
      (_prepareConsensusMptProofInputs C attempt address cursor block inputs stateRoot chunkLimit).outcome := by
  apply FailsOnly.mk
  intro failure failed
  cases failure with
  | error error => trivial
  | panic message => exact absurd failed ((prepare_survives_iff attempt inputs).mpr fit message)

theorem addBatch_fails (prepared : (_prepareConsensusMptProofInputs C attempt address cursor block inputs stateRoot
      chunkLimit).outcome = .ok proofInputs) :
    FailsOnly Failure.IsError
      (addU64 cursor (UInt64.ofNat proofInputs.queueStorage.entries.length) : Outcome HostError UInt64) := by
  rcases prepared_answers prepared with ⟨head, _, _, _, _, answers, _, size, _⟩
  have order := UInt64.le_iff_toNat_le.mp answers.behind
  have bound := head.toNat_lt
  have room : cursor.toNat + proofInputs.queueStorage.entries.length < 2^64 := by
    rw [size, batchSize]
    omega
  have wide : (UInt64.ofNat proofInputs.queueStorage.entries.length).toNat = proofInputs.queueStorage.entries.length :=
    UInt64.toNat_ofNat_of_lt' (by
      change proofInputs.queueStorage.entries.length < 2^64
      omega)
  have added : (addU64 cursor (UInt64.ofNat proofInputs.queueStorage.entries.length) : Outcome HostError UInt64) =
      .ok (cursor + UInt64.ofNat proofInputs.queueStorage.entries.length) := by
    rw [addU64, wide, if_pos room]
  exact .of_ok added

end Prepared

end NoriProof

namespace NoriModel.Sample

open ExecutionHttpProxy

/-- A provider that answers every request with the words of one queue, whatever address was asked for. -/
def World.misnamed (world : World) (address : Address) : ExecutionAttempt where
  provider := {
    getStorageAt := fun n asked => world.provider.getStorageAt n (if asked = address then queueAddress else asked)
    getProof := fun n asked => world.provider.getProof n (if asked = address then queueAddress else asked) }
  order := world.attempt.order

/-- A provider whose first entry has a count of 256. -/
def World.oversized (world : World) : ExecutionAttempt where
  provider := {
    getStorageAt := world.provider.getStorageAt
    getProof := fun n asked keys block =>
      (world.provider.getProof n asked keys block).map fun response =>
        { response with storageProof := response.storageProof.map fun slot =>
            if slot.key = Sample.word (entry0 + 2) then { slot with value := 256 } else slot } }
  order := world.attempt.order

end NoriModel.Sample

namespace NoriProof

open NoriModel NoriModel.Sample ExecutionHttpProxy

def panicMessage {ε α : Type} : Outcome ε α → Option String
  | .error (.panic message) => some message
  | _ => none

theorem panicMessage_eq_some {ε α : Type} {outcome : Outcome ε α} {message : String}
    (panics : panicMessage outcome = some message) : outcome = panicked message := by
  unfold panicMessage at panics
  split at panics
  · cases panics
    rfl
  · cases panics

/-- Prepared inputs take the address of the queue from the provider's first response about it, so a proof of them
    commits to the configured queue exactly when that response names it. Where accepted Merkle proofs are right, it
    is then that contract's storage from which the head and the entries are read. -/
theorem prepared_anchor_iff (C : Crypto) {S : ConsensusSpec} (attempt : ExecutionAttempt)
    (proofQueueAddress : Address) (inputQueueCursor outputBlockNumber : UInt64) (inputs : ConsensusProofInputs S)
    (executionStateRoot : B256) (chunkLimit : Nat) (proofInputs : ProofInputs S)
    (prepared : (_prepareConsensusMptProofInputs C attempt proofQueueAddress inputQueueCursor outputBlockNumber inputs
      executionStateRoot chunkLimit).outcome = .ok proofInputs) :
    ∃ outputs, consensusMptProgram C proofInputs = .ok outputs ∧
      (CommitsTo proofInputs outputs proofQueueAddress ↔
        NamesQueue C attempt.provider proofQueueAddress inputQueueCursor outputBlockNumber chunkLimit) ∧
      ∀ trie, VerifyProofSound C trie →
        (AnchorsOn C trie proofInputs outputs proofQueueAddress ↔
          NamesQueue C attempt.provider proofQueueAddress inputQueueCursor outputBlockNumber chunkLimit) := by
  rcases prepared_answers prepared with ⟨head, first, rest, after, outputs, answers, named, _, accepted⟩
  have names_of_commits : CommitsTo proofInputs outputs proofQueueAddress →
      NamesQueue C attempt.provider proofQueueAddress inputQueueCursor outputBlockNumber chunkLimit := by
    intro commits other first' rest' after' answers'
    rcases queueAnswers_unique answers answers' with ⟨_, same, _⟩
    cases same
    rw [← named]
    exact commits.witness
  have address_of_names : NamesQueue C attempt.provider proofQueueAddress inputQueueCursor outputBlockNumber
      chunkLimit → proofInputs.queueStorage.proofRequestQueueAddress = proofQueueAddress := by
    intro names
    rw [named]
    exact names head first rest after answers
  refine ⟨outputs, accepted, ⟨names_of_commits, ?_⟩, ?_⟩
  · intro names
    rw [← address_of_names names]
    exact program_commits accepted
  · intro trie sound
    refine ⟨fun anchors => names_of_commits anchors.toCommitsTo, ?_⟩
    intro names
    rw [← address_of_names names]
    exact program_anchors sound accepted

theorem misnamed_queue_prepared : ∃ proofInputs : ProofInputs Minimal.spec,
    (_prepareConsensusMptProofInputs known.crypto (world1.misnamed absentTarget) absentTarget 0 132
      proofInputs1.consensus (Sample.word stateRoot1) 0).outcome = .ok proofInputs ∧
    proofInputs.queueStorage.proofRequestQueueAddress ≠ absentTarget ∧
    ∃ outputs, consensusMptProgram known.crypto proofInputs = .ok outputs ∧
      outputs.proofRequestQueueAddress ≠ absentTarget := by
  have succeeds : (_prepareConsensusMptProofInputs known.crypto (world1.misnamed absentTarget) absentTarget 0 132
      proofInputs1.consensus (Sample.word stateRoot1) 0).outcome.toOption.any (fun proofInputs =>
        proofInputs.queueStorage.proofRequestQueueAddress ≠ absentTarget) = true := by
    decide +kernel
  cases prepared : (_prepareConsensusMptProofInputs known.crypto (world1.misnamed absentTarget) absentTarget 0 132
      proofInputs1.consensus (Sample.word stateRoot1) 0).outcome with
  | error failure =>
    rw [prepared] at succeeds
    cases succeeds
  | ok proofInputs =>
    rw [prepared] at succeeds
    have other : proofInputs.queueStorage.proofRequestQueueAddress ≠ absentTarget := decide_eq_true_eq.mp succeeds
    rcases prepared_answers prepared with ⟨_, _, _, _, outputs, _, _, _, accepted⟩
    have committed := (program_commits accepted).committed
    refine ⟨proofInputs, rfl, other, outputs, accepted, ?_⟩
    rw [committed]
    exact other

theorem prepared_anchor_world1 : ∃ (proofInputs : ProofInputs Minimal.spec) (outputs : ProofOutputs),
    (_prepareConsensusMptProofInputs known.crypto world1.attempt queueAddress 0 132 proofInputs1.consensus
      (Sample.word stateRoot1) 0).outcome = .ok proofInputs ∧
    consensusMptProgram known.crypto proofInputs = .ok outputs ∧
    (AnchorsOn known.crypto known.trie proofInputs outputs queueAddress ↔
      NamesQueue known.crypto world1.provider queueAddress 0 132 0) := by
  have succeeds : (_prepareConsensusMptProofInputs known.crypto world1.attempt queueAddress 0 132
      proofInputs1.consensus (Sample.word stateRoot1) 0).outcome.toOption.isSome = true := by
    decide +kernel
  cases prepared : (_prepareConsensusMptProofInputs known.crypto world1.attempt queueAddress 0 132
      proofInputs1.consensus (Sample.word stateRoot1) 0).outcome with
  | error failure =>
    rw [prepared] at succeeds
    cases succeeds
  | ok proofInputs =>
    rcases prepared_anchor_iff known.crypto world1.attempt queueAddress 0 132 proofInputs1.consensus
      (Sample.word stateRoot1) 0 proofInputs prepared with ⟨outputs, accepted, _, anchors⟩
    exact ⟨proofInputs, outputs, rfl, accepted, anchors known.trie (knownTries_sound known)⟩

/-- The preparation of one provider panics exactly when that provider answers an entry whose count does not fit a
    byte; where no provider does, a failing one is passed over for the backups and the task survives. -/
theorem preparation_survives_iff (C : Crypto) {S : ConsensusSpec} (proofQueueAddress : Address)
    (inputQueueCursor outputBlockNumber : UInt64) (inputs : ConsensusProofInputs S) (executionStateRoot : B256)
    (chunkLimit : Nat) (attempt : ExecutionAttempt) :
    ((∀ message, (_prepareConsensusMptProofInputs C attempt proofQueueAddress inputQueueCursor outputBlockNumber inputs
        executionStateRoot chunkLimit).outcome ≠ panicked message) ↔
      CountsFit C attempt.provider proofQueueAddress inputQueueCursor outputBlockNumber chunkLimit) ∧
    (CountsFit C attempt.provider proofQueueAddress inputQueueCursor outputBlockNumber chunkLimit →
      ∀ (schedule : Schedule) (backups : List ExecutionAttempt) (seconds : Nat),
        let query := fun attempt : ExecutionAttempt => (_prepareConsensusMptProofInputs C attempt proofQueueAddress
          inputQueueCursor outputBlockNumber inputs executionStateRoot chunkLimit).outcome
        ((∀ result, timeout schedule 0 seconds (query attempt) ≠ .ok result) → backups ≠ [] →
          queryWithFallback schedule attempt backups query seconds =
            mapErr .allBackupsFailed (together schedule 1 seconds query backups)) ∧
        ((∀ backup ∈ backups,
            CountsFit C backup.provider proofQueueAddress inputQueueCursor outputBlockNumber chunkLimit) →
          ∀ (inputSlot outputSlot inputBlockNumber : UInt64) (expectedOutputStoreHash : B256) (message : String),
            (ExecutionHttpProxy.mk attempt backups schedule proofQueueAddress seconds
              chunkLimit).prepareConsensusMptProofInputs C inputSlot outputSlot inputBlockNumber outputBlockNumber
              inputQueueCursor inputs expectedOutputStoreHash executionStateRoot ≠ panicked message)) := by
  refine ⟨prepare_survives_iff attempt inputs, ?_⟩
  intro fit schedule backups seconds query
  refine ⟨fun refused some => queryWithFallback_backups (prepare_fails attempt inputs fit) some refused, ?_⟩
  intro backupsFit inputSlot outputSlot inputBlockNumber expectedOutputStoreHash message panics
  have each : ∀ provider ∈ attempt :: backups, FailsOnly Failure.IsError (query provider) := by
    intro provider member
    rcases List.mem_cons.mp member with rfl | backup
    · exact prepare_fails provider inputs fit
    · exact prepare_fails provider inputs (backupsFit provider backup)
  have survives : FailsOnly Failure.IsError ((ExecutionHttpProxy.mk attempt backups schedule proofQueueAddress seconds
      chunkLimit).prepareConsensusMptProofInputs C inputSlot outputSlot inputBlockNumber outputBlockNumber
      inputQueueCursor inputs expectedOutputStoreHash executionStateRoot) := by
    apply FailsOnly.bind (queryWithFallback_fails each)
    intro proofInputs queried
    rcases queryWithFallback_ok queried with ⟨provider, _, prepared⟩
    apply FailsOnly.bind (addBatch_fails prepared)
    intro _ _
    exact .of_ok rfl
  exact survives.only _ panics

theorem oversized_count_panics :
    (_prepareConsensusMptProofInputs known.crypto world1.oversized queueAddress 0 132 proofInputs1.consensus
      (Sample.word stateRoot1) 0).outcome = panicked "Uint conversion error" ∧
    queryWithFallback inOrder world1.oversized [world1.attempt] (fun attempt =>
      (_prepareConsensusMptProofInputs known.crypto attempt queueAddress 0 132 proofInputs1.consensus
        (Sample.word stateRoot1) 0).outcome) 300 = panicked "Uint conversion error" := by
  constructor
  · apply panicMessage_eq_some
    decide +kernel
  · apply panicMessage_eq_some
    decide +kernel

theorem preparation_survives_world1 :
    (∀ message, (_prepareConsensusMptProofInputs known.crypto world1.attempt queueAddress 0 132 proofInputs1.consensus
      (Sample.word stateRoot1) 0).outcome ≠ panicked message) ∧
    CountsFit known.crypto world1.provider queueAddress 0 132 0 := by
  have returned : (_prepareConsensusMptProofInputs known.crypto world1.attempt queueAddress 0 132
      proofInputs1.consensus (Sample.word stateRoot1) 0).outcome.toOption.isSome = true := by
    decide +kernel
  have survives : ∀ message, (_prepareConsensusMptProofInputs known.crypto world1.attempt queueAddress 0 132
      proofInputs1.consensus (Sample.word stateRoot1) 0).outcome ≠ panicked message := by
    intro message panics
    rw [panics] at returned
    cases returned
  exact ⟨survives, (preparation_survives_iff known.crypto queueAddress 0 132 proofInputs1.consensus
    (Sample.word stateRoot1) 0 world1.attempt).1.mp survives⟩

end NoriProof
