import Mathlib.Order.Monotone.Defs
import Mathlib.Order.Nat

namespace Foundation.LightClient

/-- A chain as light clients follow it: a canonical header for each slot, a committee for each period. -/
structure Chain (Header Committee : Type) where
  slot : Header → Nat
  period : Nat → Nat
  header : Nat → Header
  committee : Nat → Committee
  ordered : Monotone period

structure Client (Header Committee : Type) where
  finalized : Header
  current : Committee
  next : Option Committee
deriving DecidableEq

structure Update (Header Committee : Type) where
  finalized : Header
  attestedSlot : Nat
  signatureSlot : Nat
  next : Option Committee
  quorum : Bool
deriving DecidableEq

variable {Header Committee : Type}

namespace Chain

variable (chain : Chain Header Committee) (client : Client Header Committee) (update : Update Header Committee)

def clientSlot : Nat := chain.slot client.finalized
def clientPeriod : Nat := chain.period (chain.clientSlot client)
def finalizedSlot : Nat := chain.slot update.finalized
def finalizedPeriod : Nat := chain.period (chain.finalizedSlot update)
def attestedPeriod : Nat := chain.period update.attestedSlot
def signaturePeriod : Nat := chain.period update.signatureSlot

/-- What the verification of an update guarantees to the client. -/
structure Accepts : Prop where
  canonical : update.finalized = chain.header (chain.finalizedSlot update)
  committee : ∀ next ∈ update.next, next = chain.committee (chain.attestedPeriod update + 1)
  finalizedFirst : chain.finalizedSlot update ≤ update.attestedSlot
  signedLater : update.attestedSlot < update.signatureSlot
  signers : chain.signaturePeriod update = chain.clientPeriod client ∨
    client.next.isSome ∧ chain.signaturePeriod update = chain.clientPeriod client + 1
  relevant : chain.clientSlot client < update.attestedSlot ∨
    client.next.isNone ∧ update.next.isSome ∧ chain.attestedPeriod update = chain.clientPeriod client

instance [DecidableEq Header] [DecidableEq Committee] : Decidable (chain.Accepts client update) :=
  decidable_of_iff (update.finalized = chain.header (chain.finalizedSlot update) ∧
    (∀ next ∈ update.next, next = chain.committee (chain.attestedPeriod update + 1)) ∧
    chain.finalizedSlot update ≤ update.attestedSlot ∧ update.attestedSlot < update.signatureSlot ∧
    (chain.signaturePeriod update = chain.clientPeriod client ∨
      client.next.isSome ∧ chain.signaturePeriod update = chain.clientPeriod client + 1) ∧
    (chain.clientSlot client < update.attestedSlot ∨
      client.next.isNone ∧ update.next.isSome ∧ chain.attestedPeriod update = chain.clientPeriod client))
    ⟨fun ⟨canonical, committee, finalizedFirst, signedLater, signers, relevant⟩ =>
      ⟨canonical, committee, finalizedFirst, signedLater, signers, relevant⟩,
    fun accepted => ⟨accepted.canonical, accepted.committee, accepted.finalizedFirst, accepted.signedLater,
      accepted.signers, accepted.relevant⟩⟩

def Newer : Prop := chain.clientSlot client < chain.finalizedSlot update

def SuppliesMissing : Prop :=
  client.next.isNone ∧ update.next.isSome ∧ chain.finalizedPeriod update = chain.attestedPeriod update

def Applies : Prop := update.quorum ∧ (chain.Newer client update ∨ chain.SuppliesMissing client update)

instance : Decidable (chain.Newer client update) := inferInstanceAs (Decidable (_ < _))
instance : Decidable (chain.SuppliesMissing client update) := inferInstanceAs (Decidable (_ ∧ _))
instance : Decidable (chain.Applies client update) := inferInstanceAs (Decidable (_ ∧ _))

def rotate : Client Header Committee :=
  match client.next with
  | none => { client with next := update.next }
  | some next =>
    if chain.finalizedPeriod update = chain.clientPeriod client + 1 then
      { client with current := next, next := update.next }
    else client

def apply : Client Header Committee :=
  if chain.Applies client update then
    let rotated := chain.rotate client update
    if chain.Newer client update then { rotated with finalized := update.finalized } else rotated
  else client

/-- Takes only the next committee from the update. -/
def graft : Client Header Committee := { client with next := (chain.apply client update).next }

def bootstrap (slot : Nat) : Client Header Committee := ⟨chain.header slot, chain.committee (chain.period slot), none⟩

structure Canonical : Prop where
  finalized : client.finalized = chain.header (chain.clientSlot client)
  current : client.current = chain.committee (chain.clientPeriod client)
  next : ∀ next ∈ client.next, next = chain.committee (chain.clientPeriod client + 1)

/-- An update from which a client of the period can learn the next committee. -/
structure Supplies (period : Nat) : Prop where
  quorum : update.quorum
  carries : update.next.isSome
  attested : chain.attestedPeriod update = period
  finalized : chain.finalizedPeriod update = period

/-- A canonical client whose next committee came from one of the updates seen so far. -/
structure Recorded (seen : List (Update Header Committee)) : Prop extends chain.Canonical client where
  supplied : client.next.isSome → ∃ update ∈ seen, chain.Supplies update (chain.clientPeriod client)

/-- The four effects of an accepted update. -/
inductive Effect : Client Header Committee → Prop where
  | kept : Effect client
  | supplied (header : Header) (missing : client.next = none) (quorum : update.quorum)
      (attested : chain.attestedPeriod update = chain.clientPeriod client)
      (finalized : chain.finalizedPeriod update = chain.clientPeriod client)
      (known : header = client.finalized ∨ header = update.finalized) :
      Effect ⟨header, client.current, update.next⟩
  | advanced (known : client.next.isSome) (finalized : chain.finalizedPeriod update = chain.clientPeriod client) :
      Effect { client with finalized := update.finalized }
  | rotated (next : Committee) (known : client.next = some next) (quorum : update.quorum)
      (attested : chain.attestedPeriod update = chain.clientPeriod client + 1)
      (finalized : chain.finalizedPeriod update = chain.clientPeriod client + 1) :
      Effect ⟨update.finalized, next, update.next⟩

end Chain

variable {chain : Chain Header Committee} {client : Client Header Committee} {update : Update Header Committee}

section Periods

variable (accepted : chain.Accepts client update)
include accepted

theorem Chain.Accepts.finalized_le_attested : chain.finalizedPeriod update ≤ chain.attestedPeriod update :=
  chain.ordered accepted.finalizedFirst

theorem Chain.Accepts.attested_le_signature : chain.attestedPeriod update ≤ chain.signaturePeriod update :=
  chain.ordered (Nat.le_of_lt accepted.signedLater)

theorem Chain.Accepts.client_le_attested : chain.clientPeriod client ≤ chain.attestedPeriod update := by
  rcases accepted.relevant with later | ⟨_, _, same⟩
  · exact chain.ordered (Nat.le_of_lt later)
  · omega

theorem Chain.Accepts.attested_of_missing (missing : client.next = none) :
    chain.attestedPeriod update = chain.clientPeriod client := by
  have lower := accepted.client_le_attested
  have upper := accepted.attested_le_signature
  rcases accepted.signers with same | ⟨known, _⟩
  · omega
  · rw [missing] at known
    cases known

theorem Chain.Accepts.attested_le : chain.attestedPeriod update ≤ chain.clientPeriod client + 1 := by
  have upper := accepted.attested_le_signature
  rcases accepted.signers with same | ⟨_, later⟩ <;> omega

end Periods

theorem Chain.Newer.client_le_finalized (newer : chain.Newer client update) :
    chain.clientPeriod client ≤ chain.finalizedPeriod update := chain.ordered (Nat.le_of_lt newer)

theorem Chain.Applies.finalized_of_missing (applies : chain.Applies client update) (missing : client.next = none)
    (accepted : chain.Accepts client update) : chain.finalizedPeriod update = chain.clientPeriod client := by
  have attested := accepted.attested_of_missing missing
  rcases applies.2 with newer | ⟨_, _, same⟩
  · have lower := newer.client_le_finalized
    have upper := accepted.finalized_le_attested
    omega
  · omega

theorem rotate_of_missing (missing : client.next = none) :
    chain.rotate client update = { client with next := update.next } := by
  simp only [Chain.rotate, missing]

theorem Chain.Accepts.effect (accepted : chain.Accepts client update) :
    chain.Effect client update (chain.apply client update) := by
  by_cases applies : chain.Applies client update
  · rw [Chain.apply, if_pos applies]
    cases next : client.next with
    | none =>
      have attested := accepted.attested_of_missing next
      have finalized := applies.finalized_of_missing next accepted
      rw [rotate_of_missing next]
      split
      · exact .supplied _ next applies.1 attested finalized (Or.inr rfl)
      · exact .supplied _ next applies.1 attested finalized (Or.inl rfl)
    | some committee =>
      have newer : chain.Newer client update := by
        rcases applies.2 with newer | ⟨missing, _⟩
        · exact newer
        · rw [next] at missing
          cases missing
      have lower := newer.client_le_finalized
      have between := accepted.finalized_le_attested
      have upper := accepted.attested_le
      rw [if_pos newer]
      by_cases later : chain.finalizedPeriod update = chain.clientPeriod client + 1
      · simp only [Chain.rotate, next, later, ↓reduceIte]
        exact .rotated committee next applies.1 (by omega) later
      · simp only [Chain.rotate, next, later, ↓reduceIte]
        have known : client.next.isSome := by
          rw [next]
          rfl
        rw [← next]
        exact .advanced known (by omega)
  · rw [Chain.apply, if_neg applies]
    exact .kept

theorem recorded_of_period {seen : List (Update Header Committee)} (period : Nat) {header : Header}
    {current : Committee} {next : Option Committee} (canonical : header = chain.header (chain.slot header))
    (inPeriod : chain.period (chain.slot header) = period) (signs : current = chain.committee period)
    (signsNext : ∀ committee ∈ next, committee = chain.committee (period + 1))
    (supplied : next.isSome → ∃ update ∈ seen, chain.Supplies update period) :
    chain.Recorded ⟨header, current, next⟩ seen := by
  subst inPeriod
  exact ⟨⟨canonical, signs, signsNext⟩, supplied⟩

/-- One accepted update keeps the client canonical and its next committee on record. -/
theorem Chain.Recorded.apply {seen : List (Update Header Committee)} (recorded : chain.Recorded client seen)
    (accepted : chain.Accepts client update) : chain.Recorded (chain.apply client update) (seen ++ [update]) := by
  have observed : update ∈ seen ++ [update] := List.mem_append_right _ (List.mem_singleton_self _)
  have earlier : client.next.isSome → ∃ supplier ∈ seen ++ [update],
      chain.Supplies supplier (chain.clientPeriod client) := by
    intro known
    rcases recorded.supplied known with ⟨supplier, member, supplies⟩
    exact ⟨supplier, List.mem_append_left _ member, supplies⟩
  have effect := accepted.effect
  generalize chain.apply client update = result at effect
  cases effect with
  | kept => exact ⟨recorded.toCanonical, earlier⟩
  | supplied header missing quorum attested finalized known =>
    apply recorded_of_period (chain.clientPeriod client)
    · rcases known with rfl | rfl
      · exact recorded.finalized
      · exact accepted.canonical
    · rcases known with rfl | rfl
      · rfl
      · exact finalized
    · exact recorded.current
    · rw [← attested]
      exact accepted.committee
    · intro carries
      exact ⟨update, observed, quorum, carries, attested, finalized⟩
  | advanced known finalized =>
    exact recorded_of_period _ accepted.canonical finalized recorded.current recorded.next earlier
  | rotated next known quorum attested finalized =>
    apply recorded_of_period _ accepted.canonical finalized (recorded.next next known)
    · rw [← attested]
      exact accepted.committee
    · intro carries
      exact ⟨update, observed, quorum, carries, attested, finalized⟩

theorem bootstrap_recorded {slot : Nat} (filled : chain.slot (chain.header slot) = slot) :
    chain.Recorded (chain.bootstrap slot) [] := by
  apply recorded_of_period (chain.period slot)
  · rw [filled]
  · rw [filled]
  · rfl
  · intro committee member
    cases member
  · intro known
    cases known

section Graft

/-- Two canonical clients of one slot differ only when one of them misses the next committee. -/
theorem Chain.Canonical.eq_iff {other : Client Header Committee} (canonical : chain.Canonical client)
    (canonical' : chain.Canonical other) (slot : chain.clientSlot client = chain.clientSlot other) :
    client = other ↔ (client.next.isSome ↔ other.next.isSome) := by
  have period : chain.clientPeriod client = chain.clientPeriod other := congrArg chain.period slot
  have finalized : client.finalized = other.finalized := by
    rw [canonical.finalized, canonical'.finalized, slot]
  have current : client.current = other.current := by
    rw [canonical.current, canonical'.current, period]
  have next := canonical.next
  have next' := canonical'.next
  rcases client with ⟨header, committee, first⟩
  rcases other with ⟨header', committee', second⟩
  cases finalized
  cases current
  cases first with
  | none =>
    cases second with
    | none => simp
    | some committee' => simp
  | some committee =>
    cases second with
    | none => simp
    | some committee' =>
      have same : committee = committee' := by
        rw [next committee rfl, next' committee' rfl]
        rfl
      simp [same]

variable (missing : client.next = none)
include missing

/-- An older update changes nothing but the next committee of a client that misses it. -/
theorem apply_eq_graft (older : ¬ chain.Newer client update) :
    chain.apply client update = chain.graft client update := by
  unfold Chain.graft
  by_cases applies : chain.Applies client update
  · rw [Chain.apply, if_pos applies, if_neg older, rotate_of_missing missing]
  · rw [Chain.apply, if_neg applies]

variable (accepted : chain.Accepts client update)
include accepted

theorem graft_cases : ¬ chain.Applies client update ∧ chain.graft client update = client ∨
    chain.Applies client update ∧ chain.finalizedPeriod update = chain.clientPeriod client ∧
      chain.graft client update = { client with next := update.next } := by
  unfold Chain.graft
  by_cases applies : chain.Applies client update
  · right
    refine ⟨applies, applies.finalized_of_missing missing accepted, ?_⟩
    rw [Chain.apply, if_pos applies, rotate_of_missing missing]
    split <;> rfl
  · left
    refine ⟨applies, ?_⟩
    rw [Chain.apply, if_neg applies]

theorem graft_canonical (canonical : chain.Canonical client) : chain.Canonical (chain.graft client update) := by
  rcases graft_cases missing accepted with ⟨_, kept⟩ | ⟨_, _, grafted⟩
  · rw [kept]
    exact canonical
  · rw [grafted]
    refine ⟨canonical.finalized, canonical.current, ?_⟩
    intro next member
    show next = chain.committee (chain.clientPeriod client + 1)
    rw [← accepted.attested_of_missing missing]
    exact accepted.committee next member

theorem graft_isSome_iff : (chain.graft client update).next.isSome ↔
    chain.Supplies update (chain.clientPeriod client) := by
  have attested := accepted.attested_of_missing missing
  rcases graft_cases missing accepted with ⟨skipped, kept⟩ | ⟨applies, finalized, grafted⟩
  · rw [kept, missing]
    constructor
    · intro known
      cases known
    · intro supplies
      have same : chain.finalizedPeriod update = chain.attestedPeriod update :=
        supplies.finalized.trans supplies.attested.symm
      exact absurd ⟨supplies.quorum, Or.inr ⟨Option.isNone_iff_eq_none.mpr missing, supplies.carries, same⟩⟩ skipped
  · rw [grafted]
    constructor
    · intro carries
      exact ⟨applies.1, carries, attested, finalized⟩
    · intro supplies
      exact supplies.carries

end Graft

end Foundation.LightClient
