import NoriBridgeHead.Program.QueueSoundness
import NoriBridgeHead.Program.StoreHashPins

open Foundation Foundation.Outcome

namespace NoriModel

variable {C : Crypto} {S : ConsensusSpec}

structure Run (C : Crypto) (S : ConsensusSpec) where
  inputs : ProofInputs S
  outputs : ProofOutputs
  accepted : consensusMptProgram C inputs = .ok outputs

namespace Run

def address (run : Run C S) : Address := run.inputs.queueStorage.proofRequestQueueAddress
def cursor (run : Run C S) : Nat := run.inputs.queueStorage.inputCursor.toNat
def outputCursor (run : Run C S) : Nat := run.outputs.outputQueueCursor.toNat
def stateRoot (run : Run C S) : B256 := run.outputs.executionStateRoot

def indices (run : Run C S) : List Nat := List.range' run.cursor (run.outputCursor - run.cursor)

def Drains (trie : TrieContents) (run : Run C S) (requests : List Request) : Prop :=
  ∃ account head, Drained C trie run.stateRoot run.address run.cursor account head requests run.outputCursor
    run.outputs.verifiedRequestsRoot

def Holds (run : Run C S) (store : S.Store) : Prop :=
  store = run.inputs.store ∨ transition C run.inputs.consensus = .ok store

structure Chained (previous next : Run C S) : Prop where
  storeHash : next.inputs.storeHash = previous.outputs.outputStoreHash
  cursor : next.inputs.queueStorage.inputCursor = previous.outputs.outputQueueCursor
  address : next.address = previous.address

end Run

/-- No two stores of the runs share a hash and differ in the finalized header. -/
def HashPinsHeader (runs : List (Run C S)) : Prop :=
  ∀ run ∈ runs, ∀ run' ∈ runs, ∀ store store' hash, run.Holds store → run'.Holds store' →
    sha256HashHeliosStore C store = .ok hash → sha256HashHeliosStore C store' = .ok hash →
    store.finalizedHeader = store'.finalizedHeader

structure QueueAt (C : Crypto) (trie : TrieContents) (stateRoot : B256) (address : Address) (account : TrieAccount)
    (head : U256) : Prop where
  queue : AccountAt C trie stateRoot address (some account)
  headWord : WordAt C trie account.storageRoot (storageSlotOfIndex queueHeadStorageIndex) head

/-- From one state to the other the head never decreases and no entry below it changes. -/
def AppendOnly (C : Crypto) (trie : TrieContents) (address : Address) (before after : B256) : Prop :=
  ∀ account account' head head', QueueAt C trie before address account head →
    QueueAt C trie after address account' head' →
    head.toNat ≤ head'.toNat ∧ ∀ index < head.toNat, ∀ entry, EntryAt C trie account.storageRoot index entry →
      EntryAt C trie account'.storageRoot index entry

def lastRun (first : Run C S) (rest : List (Run C S)) : Run C S := (first :: rest).getLast (List.cons_ne_nil _ _)

/-- What a chain of runs from `first` to `last` proves about the queue and the slots. -/
structure DrainedOnce (trie : TrieContents) (runs : List (Run C S)) (first last : Run C S) : Prop where
  slotsChain : runs.IsChain fun previous next => next.outputs.inputSlot = previous.outputs.outputSlot
  slotsGrow : runs.Pairwise fun earlier later => earlier.outputs.outputSlot ≤ later.outputs.outputSlot
  slots : ∀ run ∈ runs, run.outputs.inputSlot ≤ run.outputs.outputSlot ∧ run.outputs.outputSlot % 32 = 0
  cursors : ∀ run ∈ runs, run.cursor ≤ run.outputCursor ∧ run.outputCursor ≤ run.cursor + maxBatch
  idle : ∀ run ∈ runs, run.outputCursor = run.cursor →
    ∃ account head, QueueAt C trie run.stateRoot run.address account head ∧ head.toNat = run.cursor
  covered : runs.flatMap Run.indices = List.range' first.cursor (last.outputCursor - first.cursor)
  batches : ∃ batches account head, List.Forall₂ (Run.Drains trie) runs batches ∧
    QueueAt C trie last.stateRoot last.address account head ∧
    batches.flatten.length = last.outputCursor - first.cursor ∧
    ∀ offset (inside : offset < batches.flatten.length),
      EntryAt C trie account.storageRoot (first.cursor + offset) (batches.flatten[offset]).entry

structure ChainBatches (trie : TrieContents) (runs : List (Run C S)) (first last : Run C S)
    (batches : List (List Request)) (account : TrieAccount) (head : U256) : Prop where
  drains : List.Forall₂ (Run.Drains trie) runs batches
  queue : QueueAt C trie last.stateRoot last.address account head
  address : last.address = first.address
  appended : AppendOnly C trie first.address first.stateRoot last.stateRoot
  ordered : first.cursor ≤ last.outputCursor
  covered : runs.flatMap Run.indices = List.range' first.cursor (last.outputCursor - first.cursor)
  count : batches.flatten.length = last.outputCursor - first.cursor
  stored : ∀ offset (inside : offset < batches.flatten.length),
    EntryAt C trie account.storageRoot (first.cursor + offset) (batches.flatten[offset]).entry

end NoriModel

namespace NoriProof

open NoriModel

variable {C : Crypto} {S : ConsensusSpec} {trie : TrieContents}

/-- An accepted witness leaves the prover no choice: the queue's state and the cursor fix both outputs. -/
theorem verifyQueue_sound (C : Crypto) (trie : TrieContents) (sound : VerifyProofSound C trie) (rlp : RlpInjective C)
    (built : ZerosBuilt C) (stateRoot : B256) (queue : QueueStorage) (output : UInt64) (root : B256)
    (accepted : verifyQueue C stateRoot queue = .ok (output, root)) :
    (∃ account head requests, Drained C trie stateRoot queue.proofRequestQueueAddress queue.inputCursor.toNat
      account head requests output.toNat root) ∧
    (∀ (other : QueueStorage) (result : UInt64 × B256),
      other.proofRequestQueueAddress = queue.proofRequestQueueAddress → other.inputCursor = queue.inputCursor →
      verifyQueue C stateRoot other = .ok result → result = (output, root)) := by
  rcases verifyQueue_drained sound built accepted with ⟨requests, drained⟩
  refine ⟨⟨_, _, requests, drained⟩, ?_⟩
  intro other result sameAddress sameCursor accepted'
  rcases verifyQueue_drained sound built accepted' with ⟨requests', drained'⟩
  rw [sameAddress, sameCursor] at drained'
  rcases Drained.unique rlp drained' drained with ⟨_, outputs, roots⟩
  exact Prod.ext (UInt64.toNat_inj.mp outputs) roots

open Sample in
theorem verifyQueue_sound_sample :
    verifyQueue known.crypto (word stateRoot2) queueStorage2 = .ok (2, leaf1.toBytes) ∧
    ∃ account head requests, Drained known.crypto known.trie (word stateRoot2) queueAddress 1 account head requests 2
      leaf1.toBytes := by
  have accepted : verifyQueue known.crypto (word stateRoot2) queueStorage2 = .ok (2, leaf1.toBytes) := by
    decide +kernel
  exact ⟨accepted, (verifyQueue_sound known.crypto known.trie (knownTries_sound known) (knownTries_rlp known)
    sample_zerosBuilt _ _ _ _ accepted).1⟩

section Slots

variable (forward : FinalizedForward S)
include forward

theorem updates_forward (inputs : ConsensusProofInputs S) (items : List (S.Update × Nat)) (store result : S.Store)
    (accepted : items.foldlM (updateStep inputs) store = .ok result) :
    S.beaconSlot store.finalizedHeader ≤ S.beaconSlot result.finalizedHeader := by
  apply foldlM_ok_invariant (updateStep inputs)
    (fun _ reached => S.beaconSlot store.finalizedHeader ≤ S.beaconSlot reached.finalizedHeader) ?_ items [] store
    result (UInt64.le_refl _) accepted
  intro done enumerated state next below stepped
  simp only [updateStep, bind_ok_iff, pure_ok_iff] at stepped
  rcases stepped with ⟨_, _, rfl⟩
  rcases forward.applyUpdate state enumerated.1 with kept | grown
  · rw [kept]
    exact below
  · exact UInt64.le_trans below (UInt64.le_of_lt grown)

theorem transition_forward {inputs : ConsensusProofInputs S} {result : S.Store}
    (accepted : transition C inputs = .ok result) :
    S.beaconSlot inputs.store.finalizedHeader ≤ S.beaconSlot result.finalizedHeader := by
  rcases (transition_ok_iff inputs result).mp accepted with ⟨_, store, looped, _, rfl⟩
  have below := updates_forward forward inputs _ _ _ looped
  rcases forward.applyFinalityUpdate store inputs.finalityUpdate with kept | grown
  · rw [kept]
    exact below
  · exact UInt64.le_trans below (UInt64.le_of_lt grown)

end Slots

theorem run_transition (run : Run C S) : ∃ store, transition C run.inputs.consensus = .ok store ∧
    sha256HashHeliosStore C run.inputs.store = .ok run.inputs.storeHash ∧
    sha256HashHeliosStore C store = .ok run.outputs.outputStoreHash ∧
    run.outputs.inputSlot = S.beaconSlot run.inputs.store.finalizedHeader ∧
    run.outputs.outputSlot = S.beaconSlot store.finalizedHeader ∧
    run.outputs.outputSlot % 32 = 0 := by
  have accepted := run.accepted
  rw [consensusMptProgram_eq, bind_ok_iff] at accepted
  rcases accepted with ⟨store, reached, committed⟩
  rcases (commitQueue_ok_iff _ _ _).mp committed with ⟨consensus, cursor, root, committed, _, checkpoint, outputs⟩
  rcases (commitConsensus_ok_iff _ _ _).mp committed with ⟨execution, storeHash, _, hashed, rfl⟩
  rw [outputs]
  exact ⟨store, reached, ((transition_ok_iff _ _).mp reached).1, hashed, rfl, rfl, checkpoint⟩

theorem run_verifyQueue (run : Run C S) : verifyQueue C run.stateRoot run.inputs.queueStorage =
    .ok (run.outputs.outputQueueCursor, run.outputs.verifiedRequestsRoot) := by
  rcases (consensusMptProgram_ok_iff _ _).mp run.accepted with ⟨consensus, cursor, root, _, drained, _, outputs⟩
  rw [Run.stateRoot, outputs]
  exact drained

theorem run_slots (forward : FinalizedForward S) (run : Run C S) :
    run.outputs.inputSlot ≤ run.outputs.outputSlot ∧ run.outputs.outputSlot % 32 = 0 := by
  rcases run_transition run with ⟨store, reached, _, _, input, output, checkpoint⟩
  refine ⟨?_, checkpoint⟩
  rw [input, output]
  exact transition_forward forward reached

theorem chained_inputSlot {runs : List (Run C S)} (pinned : HashPinsHeader runs) {previous next : Run C S}
    (inRuns : previous ∈ runs) (inRuns' : next ∈ runs) (chained : Run.Chained previous next) :
    next.outputs.inputSlot = previous.outputs.outputSlot := by
  rcases run_transition previous with ⟨store, reached, _, hashed, _, output, _⟩
  rcases run_transition next with ⟨_, _, hashed', _, input, _, _⟩
  rw [chained.storeHash] at hashed'
  rw [input, output, pinned next inRuns' previous inRuns _ _ _ (.inl rfl) (.inr reached) hashed' hashed]

theorem isChain_of_mem {α : Type} {relation relation' : α → α → Prop} {items : List α}
    (chain : items.IsChain relation)
    (weaken : ∀ first ∈ items, ∀ second ∈ items, relation first second → relation' first second) :
    items.IsChain relation' := by
  induction items with
  | nil => exact .nil
  | cons first rest ih =>
    cases rest with
    | nil => exact .singleton first
    | cons second rest =>
      rw [List.isChain_cons_cons] at chain ⊢
      refine ⟨weaken first (by simp) second (by simp) chain.1, ih chain.2 ?_⟩
      intro item member item' member'
      exact weaken item (List.mem_cons_of_mem _ member) item' (List.mem_cons_of_mem _ member')

theorem Drained.queueAt {stateRoot : B256} {address : Address} {cursor output : Nat} {account : TrieAccount}
    {head : U256} {requests : List Request} {root : B256}
    (drained : Drained C trie stateRoot address cursor account head requests output root) :
    QueueAt C trie stateRoot address account head := ⟨drained.queue, drained.headWord⟩

theorem AppendOnly.refl (rlp : RlpInjective C) (address : Address) (stateRoot : B256) :
    AppendOnly C trie address stateRoot stateRoot := by
  intro account account' head head' before after
  cases AccountAt.unique rlp before.queue after.queue
  obtain rfl := WordAt.unique rlp before.headWord after.headWord
  exact ⟨Nat.le_refl _, fun _ _ _ stored => stored⟩

theorem AppendOnly.trans {address : Address} {first second third : B256} {account : TrieAccount} {head : U256}
    (middle : QueueAt C trie second address account head) (before : AppendOnly C trie address first second)
    (after : AppendOnly C trie address second third) : AppendOnly C trie address first third := by
  intro account₁ account₃ head₁ head₃ at₁ at₃
  rcases before account₁ account head₁ head at₁ middle with ⟨grown, kept⟩
  rcases after account account₃ head head₃ middle at₃ with ⟨grown', kept'⟩
  refine ⟨Nat.le_trans grown grown', ?_⟩
  intro index below entry stored
  exact kept' index (Nat.lt_of_lt_of_le below grown) entry (kept index below entry stored)

theorem ChainBatches.cons {runs : List (Run C S)} {first second last : Run C S} {batch : List Request}
    {batches : List (List Request)} {account : TrieAccount} {head : U256}
    (batchesAfter : ChainBatches trie runs second last batches account head)
    {account₁ account₂ : TrieAccount} {head₁ head₂ : U256}
    (drained : Drained C trie first.stateRoot first.address first.cursor account₁ head₁ batch first.outputCursor
      first.outputs.verifiedRequestsRoot)
    (middle : QueueAt C trie second.stateRoot second.address account₂ head₂) (chained : Run.Chained first second)
    (grown : AppendOnly C trie first.address first.stateRoot second.stateRoot) :
    ChainBatches trie (first :: runs) first last (batch :: batches) account head := by
  obtain ⟨drains, queue, address, appended, ordered, covered, count, stored⟩ := batchesAfter
  have next : second.cursor = first.outputCursor := congrArg UInt64.toNat chained.cursor
  have sameAddress : last.address = first.address := address.trans chained.address
  rw [chained.address] at middle appended
  have whole := AppendOnly.trans middle grown appended
  have output := drained.output
  have batchCount := drained.count
  have kept := (whole account₁ account head₁ head (Drained.queueAt drained) (sameAddress ▸ queue)).2
  refine ⟨.cons ⟨account₁, head₁, drained⟩ drains, queue, sameAddress, whole, by omega, ?_, ?_, ?_⟩
  · rw [List.flatMap_cons, covered, Run.indices, next]
    have reached : first.outputCursor = first.cursor + 1 * (first.outputCursor - first.cursor) := by omega
    nth_rewrite 2 [reached]
    rw [List.range'_append]
    congr 1
    omega
  · rw [List.flatten_cons, List.length_append, count]
    omega
  · intro offset inside
    simp only [List.flatten_cons]
    by_cases early : offset < batch.length
    · rw [List.getElem_append_left early]
      exact kept _ (by omega) _ (drained.stored offset early).entry
    · have late : batch.length ≤ offset := by omega
      rw [List.getElem_append_right late]
      have position : second.cursor + (offset - batch.length) = first.cursor + offset := by omega
      rw [← position]
      exact stored _ _

section Chains

variable (sound : VerifyProofSound C trie) (rlp : RlpInjective C) (built : ZerosBuilt C)
include sound built

theorem run_drained (run : Run C S) : ∃ requests account head, Drained C trie run.stateRoot run.address run.cursor
    account head requests run.outputCursor run.outputs.verifiedRequestsRoot := by
  rcases verifyQueue_drained sound built (run_verifyQueue run) with ⟨requests, drained⟩
  exact ⟨requests, _, _, drained⟩

theorem run_cursors (run : Run C S) : run.cursor ≤ run.outputCursor ∧ run.outputCursor ≤ run.cursor + maxBatch := by
  rcases run_drained sound built run with ⟨requests, account, head, drained⟩
  have output := drained.output
  omega

theorem run_idle (run : Run C S) (idle : run.outputCursor = run.cursor) :
    ∃ account head, QueueAt C trie run.stateRoot run.address account head ∧ head.toNat = run.cursor := by
  rcases run_drained sound built run with ⟨requests, account, head, drained⟩
  have output := drained.output
  have behind := drained.behind
  have limit : maxBatch = 65536 := rfl
  exact ⟨account, head, Drained.queueAt drained, by omega⟩

include rlp in
theorem chain_batches (first : Run C S) (rest : List (Run C S)) (chained : (first :: rest).IsChain Run.Chained)
    (appended : (first :: rest).IsChain fun previous next =>
      AppendOnly C trie previous.address previous.stateRoot next.stateRoot) :
    ∃ batches account head, ChainBatches trie (first :: rest) first (lastRun first rest) batches account head := by
  induction rest generalizing first with
  | nil =>
    rcases run_drained sound built first with ⟨requests, account, head, drained⟩
    refine ⟨[requests], account, head, .cons ⟨account, head, drained⟩ .nil, Drained.queueAt drained, rfl,
      AppendOnly.refl rlp _ _, (run_cursors sound built first).1, ?_, ?_, ?_⟩
    · simp only [List.flatMap_cons, List.flatMap_nil, List.append_nil]
      rfl
    · simp only [List.flatten_cons, List.flatten_nil, List.append_nil]
      exact drained.count
    · intro offset inside
      simp only [List.flatten_cons, List.flatten_nil, List.append_nil] at inside ⊢
      exact (drained.stored offset inside).entry
  | cons second rest ih =>
    rw [List.isChain_cons_cons] at chained appended
    rcases ih second chained.2 appended.2 with ⟨batches, account, head, after⟩
    rcases run_drained sound built first with ⟨batch, account₁, head₁, drained⟩
    rcases run_drained sound built second with ⟨_, account₂, head₂, drained₂⟩
    exact ⟨batch :: batches, account, head,
      ChainBatches.cons after drained (Drained.queueAt drained₂) chained.1 appended.1⟩

end Chains

theorem slots_pairwise (forward : FinalizedForward S) {runs : List (Run C S)}
    (chain : runs.IsChain fun previous next => next.outputs.inputSlot = previous.outputs.outputSlot) :
    runs.Pairwise fun earlier later => earlier.outputs.outputSlot ≤ later.outputs.outputSlot := by
  have monotone : runs.IsChain fun previous next => previous.outputs.outputSlot ≤ next.outputs.outputSlot := by
    apply chain.imp
    intro previous next linked
    rw [← linked]
    exact (run_slots forward next).1
  have : Trans (fun left right : Run C S => left.outputs.outputSlot ≤ right.outputs.outputSlot)
      (fun left right : Run C S => left.outputs.outputSlot ≤ right.outputs.outputSlot)
      (fun left right : Run C S => left.outputs.outputSlot ≤ right.outputs.outputSlot) :=
    ⟨fun lower upper => UInt64.le_trans lower upper⟩
  exact List.isChain_iff_pairwise.mp monotone

/-- Over every chain of accepted runs the slots move forward through checkpoints and the batches
    partition the queue between the first and the last cursor. -/
theorem chain_drains_once (C : Crypto) {S : ConsensusSpec} (trie : TrieContents) (sound : VerifyProofSound C trie)
    (rlp : RlpInjective C) (built : ZerosBuilt C) (forward : FinalizedForward S) (first : Run C S)
    (rest : List (Run C S)) (chained : (first :: rest).IsChain Run.Chained) (pinned : HashPinsHeader (first :: rest))
    (appended : (first :: rest).IsChain fun previous next =>
      AppendOnly C trie previous.address previous.stateRoot next.stateRoot) :
    DrainedOnce trie (first :: rest) first (lastRun first rest) := by
  have slotsChain : (first :: rest).IsChain fun previous next =>
      next.outputs.inputSlot = previous.outputs.outputSlot :=
    isChain_of_mem chained fun _ member _ member' linked => chained_inputSlot pinned member member' linked
  rcases chain_batches sound rlp built first rest chained appended with ⟨batches, account, head, whole⟩
  exact {
    slotsChain := slotsChain
    slotsGrow := slots_pairwise forward slotsChain
    slots := fun run _ => run_slots forward run
    cursors := fun run _ => run_cursors sound built run
    idle := fun run _ => run_idle sound built run
    covered := whole.covered
    batches := ⟨batches, account, head, whole.drains, whole.queue, whole.count, whole.stored⟩ }

section SampleChain

open Sample

def sampleRun1 : Run known.crypto Minimal.spec := ⟨proofInputs1, proofOutputs1, by decide +kernel⟩
def sampleRun2 : Run known.crypto Minimal.spec := ⟨proofInputs2, proofOutputs2, by decide +kernel⟩

theorem sampleRun_chained : Run.Chained sampleRun1 sampleRun2 := ⟨rfl, rfl, rfl⟩

theorem sample_holds {run : Run known.crypto Minimal.spec} (member : run ∈ [sampleRun1, sampleRun2])
    {store : Minimal.spec.Store} (holds : run.Holds store) : store = store0 ∨ store = store1 ∨ store = store2 := by
  have first : transition known.crypto proofInputs1.consensus = .ok store1 := by decide +kernel
  have second : transition known.crypto proofInputs2.consensus = .ok store2 := by decide +kernel
  rcases List.mem_cons.mp member with rfl | member
  · rcases holds with rfl | reached
    · exact .inl rfl
    · exact .inr (.inl (Except.ok.inj (reached.symm.trans first)))
  · rcases List.mem_singleton.mp member with rfl
    rcases holds with rfl | reached
    · exact .inr (.inl rfl)
    · exact .inr (.inr (Except.ok.inj (reached.symm.trans second)))

theorem sample_hashPinsHeader : HashPinsHeader [sampleRun1, sampleRun2] := by
  intro run member run' member' store store' hash holds holds' hashed hashed'
  have apart := sample_noCollision (sample_holds member holds) store'
  exact (sha256HashHeliosStore_pins minimal_headers minimal_committees apart hashed hashed').finalizedHeader

theorem sample_appendOnly : AppendOnly known.crypto known.trie queueAddress (word stateRoot1) (word stateRoot2) := by
  intro account account' head head' before after
  have rlp := knownTries_rlp known
  have account₁ : AccountAt known.crypto known.trie (word stateRoot1) queueAddress
      (some (queueAccount queueRoot1)) := by decide +kernel
  have account₂ : AccountAt known.crypto known.trie (word stateRoot2) queueAddress
      (some (queueAccount queueRoot2)) := by decide +kernel
  cases AccountAt.unique rlp before.queue account₁
  cases AccountAt.unique rlp after.queue account₂
  have head₁ : WordAt known.crypto known.trie (word queueRoot1) (storageSlotOfIndex queueHeadStorageIndex) 1 := by
    decide +kernel
  have head₂ : WordAt known.crypto known.trie (word queueRoot2) (storageSlotOfIndex queueHeadStorageIndex) 2 := by
    decide +kernel
  obtain rfl := WordAt.unique rlp before.headWord head₁
  obtain rfl := WordAt.unique rlp after.headWord head₂
  refine ⟨by decide, ?_⟩
  intro index below entry stored
  obtain rfl : index = 0 := by
    change index < 1 at below
    omega
  have entry₁ : EntryAt known.crypto known.trie (word queueRoot1) 0 queueEntry0 := by
    constructor <;> decide +kernel
  obtain rfl := EntryAt.unique rlp stored entry₁
  constructor <;> decide +kernel

theorem chain_drains_once_sample : DrainedOnce known.trie [sampleRun1, sampleRun2] sampleRun1 sampleRun2 :=
  chain_drains_once known.crypto known.trie (knownTries_sound known) (knownTries_rlp known) sample_zerosBuilt
    minimal_forward sampleRun1 [sampleRun2] (List.isChain_cons_cons.mpr ⟨sampleRun_chained, .singleton _⟩)
    sample_hashPinsHeader
    (List.isChain_cons_cons.mpr ⟨sample_appendOnly, .singleton _⟩)

end SampleChain

end NoriProof
