import Mathlib.Data.Finset.Insert
import NoriBridgeHead.BridgeHead.NoticeMessages
import NoriBridgeHead.Prover.Config

open Foundation Foundation.Outcome

namespace NoriModel

inductive FulfillmentStrategy where
  | auction
  | hosted
  | reserved
deriving DecidableEq

/-- The request as `generate_proof` builds it; what it does not set is absent. -/
structure ProofRequest where
  proofType : ProofType
  strategy : FulfillmentStrategy
  auctionTimeout : Option UInt64
  minAuctionPeriod : Option UInt64
  maxPricePerPgu : UInt64
  skipSimulation : Bool
  timeout : UInt64
  whitelist : Option (List Address)
  cycleLimit : Option UInt64
  gasLimit : Option UInt64
deriving DecidableEq

def getFulfillmentStrategy : FulfillmentConfig → FulfillmentStrategy
  | .auction _ _ => .auction
  | .hosted => .hosted
  | .reserved => .reserved

/-- The request that goes to the network; a local prover sends none. -/
def generateProof (config : ProverConfig) (extendedWhitelist : Option (List Address)) : Option ProofRequest :=
  match config.mode with
  | .network net => some {
      proofType := config.proofType
      strategy := getFulfillmentStrategy net.fulfillment
      auctionTimeout := match net.fulfillment with
        | .auction timeout _ => some timeout
        | .hosted | .reserved => none
      minAuctionPeriod := match net.fulfillment with
        | .auction _ minAuctionPeriod => some minAuctionPeriod
        | .hosted | .reserved => none
      maxPricePerPgu := net.maxPricePerPgu
      skipSimulation := net.skipSimulation
      timeout := net.timeout
      whitelist := extendedWhitelist.or net.whitelist
      cycleLimit := net.cycleLimit
      gasLimit := net.gasLimit }
  | .local _ => none

/-- The list so far and the set of the addresses in it. -/
structure Extension where
  extended : List Address
  seen : Finset Address

namespace Extension

def start (whitelist : List Address) : Extension := ⟨whitelist, whitelist.toFinset⟩

def appendUnique (extension : Extension) (fetched : List Address) : Extension :=
  fetched.foldl (fun extension addr =>
    if addr ∈ extension.seen then extension
    else ⟨extension.extended ++ [addr], insert addr extension.seen⟩) extension

/-- A query that fails is skipped. -/
def addPool (extension : Extension) (enabled : Bool) (fetched : Outcome String (List Address)) :
    Outcome String Extension :=
  if enabled then
    match fetched with
    | .ok provers => .ok (extension.appendUnique provers)
    | .error (.error _) => .ok extension
    | .error (.panic message) => panicked message
  else .ok extension

end Extension

/-- `fetch true` is the query for the high-availability provers, `fetch false` the one for the default pool. -/
def extendWhitelist (mode : ProverMode) (fetch : Bool → Outcome String (List Address)) :
    Outcome String (Option (List Address)) :=
  match mode with
  | .network net =>
    if net.whitelistAddHighAvailability || net.whitelistAddDefault then do
      let extension := Extension.start (net.whitelist.getD [])
      let extension ← extension.addPool net.whitelistAddHighAvailability (fetch true)
      let extension ← extension.addPool net.whitelistAddDefault (fetch false)
      pure (some extension.extended)
    else pure none
  | .local _ => pure none

def finalityUpdateJob (config : ProverConfig) (fetch : Bool → Outcome String (List Address)) :
    Outcome String (Option ProofRequest) := do
  let extendedWhitelist ← extendWhitelist config.mode fetch
  pure (generateProof config extendedWhitelist)

/-- The list that a job sends to the network. -/
def whitelistSent (config : ProverConfig) (results : Bool → Except String (List Address)) :
    Outcome String (Option (Option (List Address))) := do
  let request ← finalityUpdateJob config fun highAvailabilityOnly => fromResult (results highAvailabilityOnly)
  pure (request.map (·.whitelist))

/-- The addresses of a pool that is asked for and answers. -/
def poolOf (enabled : Bool) : Except String (List Address) → List Address
  | .ok provers => if enabled then provers else []
  | .error _ => []

def enabledPools (env : Env) (results : Bool → Except String (List Address)) : List Address :=
  poolOf (env "SP1_WHITELIST_ADD_HIGH_AVAILABILITY" = .ok "true") (results true) ++
    poolOf (env "SP1_WHITELIST_ADD_DEFAULT" = .ok "true") (results false)

/-- The user's list comes first, then each address of the pools that it lacks, once and in the order of the pools. -/
def ExtendsUserList (user pools : List Address) (sent : Option (List Address)) : Prop :=
  ∃ added, sent = some (user ++ added) ∧ added = fresh user pools ∧ added.Sublist pools ∧ added.Nodup ∧
    (∀ address ∈ added, address ∉ user) ∧ (∀ address, address ∈ user ++ added ↔ address ∈ user ∨ address ∈ pools) ∧
    user ++ added ≠ []

end NoriModel

namespace NoriProof

open NoriModel

theorem appendUnique_start (whitelist fetched : List Address) :
    (Extension.start whitelist).appendUnique fetched = Extension.start (appendFresh whitelist fetched) := by
  induction fetched generalizing whitelist with
  | nil => rfl
  | cons addr fetched ih =>
    have step : (Extension.start whitelist).appendUnique (addr :: fetched) =
        (if addr ∈ (Extension.start whitelist).seen then Extension.start whitelist
          else ⟨whitelist ++ [addr], insert addr whitelist.toFinset⟩ : Extension).appendUnique fetched := rfl
    have unfolded : appendFresh whitelist (addr :: fetched) =
        appendFresh (if addr ∈ whitelist then whitelist else whitelist ++ [addr]) fetched := rfl
    rw [step, unfolded]
    by_cases member : addr ∈ whitelist
    · have seen : addr ∈ (Extension.start whitelist).seen := List.mem_toFinset.mpr member
      rw [if_pos seen, if_pos member, ih]
    · have unseen : addr ∉ (Extension.start whitelist).seen := fun seen => member (List.mem_toFinset.mp seen)
      have grown : (⟨whitelist ++ [addr], insert addr whitelist.toFinset⟩ : Extension) =
          Extension.start (whitelist ++ [addr]) := by
        rw [Extension.start, Extension.mk.injEq]
        refine ⟨rfl, ?_⟩
        ext other
        simp
      rw [if_neg unseen, if_neg member, grown, ih]

theorem addPool_start (whitelist : List Address) (enabled : Bool) (result : Except String (List Address)) :
    (Extension.start whitelist).addPool enabled (fromResult result) =
      .ok (Extension.start (appendFresh whitelist (poolOf enabled result))) := by
  cases enabled with
  | false => cases result <;> rfl
  | true =>
    cases result with
    | error reason => rfl
    | ok provers =>
      show Except.ok ((Extension.start whitelist).appendUnique provers) = _
      rw [appendUnique_start]
      rfl

theorem extendWhitelist_network (net : NetworkConfig) (results : Bool → Except String (List Address)) :
    extendWhitelist (.network net) (fun highAvailabilityOnly => fromResult (results highAvailabilityOnly)) = .ok
      (if net.whitelistAddHighAvailability || net.whitelistAddDefault then
        some (appendFresh (net.whitelist.getD []) (poolOf net.whitelistAddHighAvailability (results true) ++
          poolOf net.whitelistAddDefault (results false)))
      else none) := by
  unfold extendWhitelist
  dsimp only
  split
  · simp only [addPool_start, ok_bind, appendFresh_append]
    rfl
  · rfl

/-- A list that is empty counts as given: only an absent one is replaced by the configuration's. -/
theorem generateProof_whitelist {config : ProverConfig} {net : NetworkConfig} (network : config.mode = .network net)
    (extendedWhitelist : Option (List Address)) :
    (generateProof config extendedWhitelist).map (·.whitelist) = some (extendedWhitelist.or net.whitelist) := by
  simp [generateProof, network]

theorem whitelistSent_network {config : ProverConfig} {net : NetworkConfig} (network : config.mode = .network net)
    (results : Bool → Except String (List Address)) :
    whitelistSent config results = .ok (some
      (if net.whitelistAddHighAvailability || net.whitelistAddDefault then
        some (appendFresh (net.whitelist.getD []) (poolOf net.whitelistAddHighAvailability (results true) ++
          poolOf net.whitelistAddDefault (results false)))
      else net.whitelist)) := by
  rw [whitelistSent, finalityUpdateJob, network, extendWhitelist_network, ok_bind]
  show Except.ok ((generateProof config _).map (·.whitelist)) = _
  rw [generateProof_whitelist network]
  split <;> rfl

theorem poolOf_false (result : Except String (List Address)) : poolOf false result = [] := by
  cases result <;> rfl

theorem whitelistSent_user {config : ProverConfig} {net : NetworkConfig} (network : config.mode = .network net)
    {user : List Address} (listed : net.whitelist = some user) (results : Bool → Except String (List Address)) :
    whitelistSent config results = .ok (some (some (appendFresh user
      (poolOf net.whitelistAddHighAvailability (results true) ++
        poolOf net.whitelistAddDefault (results false))))) := by
  rw [whitelistSent_network network, listed]
  split
  · rfl
  · rename_i unset
    rcases Bool.or_eq_false_iff.mp (Bool.eq_false_iff.mpr unset) with ⟨noHighAvailability, noDefault⟩
    rw [noHighAvailability, noDefault, poolOf_false, poolOf_false]
    rfl

theorem appendFresh_extends {user : List Address} (nonempty : user ≠ []) (pools : List Address) :
    ExtendsUserList user pools (some (appendFresh user pools)) := by
  refine ⟨fresh user pools, by rw [appendFresh_eq], rfl, fresh_sublist user pools, fresh_nodup user pools, ?_, ?_, ?_⟩
  · intro address added
    exact (mem_fresh.mp added).2
  · intro address
    rw [List.mem_append, mem_fresh]
    by_cases listed : address ∈ user <;> simp [listed]
  · intro empty
    exact nonempty (List.append_eq_nil_iff.mp empty).1

/-- What is sent to the network, by the variables that are set and the queries that answer. -/
theorem whitelist_regimes (P : Parsing) (env : Env) (results : Bool → Except String (List Address)) :
    (∀ config net, ProverConfig.fromEnv env P = .ok config → config.mode = .network net →
      ∃ sent, whitelistSent config results = .ok (some sent) ∧
        (∀ text, env "SP1_WHITELIST" = .ok text → ∃ user, parseWhitelist P text = .ok user ∧
          ExtendsUserList user (enabledPools env results) sent) ∧
        (∀ unset, env "SP1_WHITELIST" = .error unset →
          (sent = some [] ↔ env "SP1_WHITELIST_OPEN" = .ok "true") ∧
          (sent = none ↔ env "SP1_WHITELIST_OPEN" ≠ .ok "true"))) ∧
    (env "SP1_PROVER" = .ok "network" → (∃ text, env "SP1_WHITELIST" = .ok text) →
      env "SP1_WHITELIST_OPEN" = .ok "true" → ∃ reason, ProverConfig.fromEnv env P = .error reason) := by
  constructor
  · intro config net loaded network
    rcases whitelistVars_ok (networkConfig_whitelist (fromEnv_network loaded network)) with
      ⟨text, user, set, parsed, _, listed, highAvailability, default⟩ |
      ⟨⟨unset, absent⟩, noHighAvailability, noDefault, listed⟩
    · refine ⟨_, whitelistSent_user network listed results, ?_, ?_⟩
      · intro other again
        cases set.symm.trans again
        refine ⟨user, parsed, ?_⟩
        rw [highAvailability, default]
        exact appendFresh_extends (parseWhitelist_nonempty parsed) _
      · intro unset absent
        cases set.symm.trans absent
    · have unextended : whitelistSent config results = .ok (some net.whitelist) := by
        rw [whitelistSent_network network, noHighAvailability, noDefault]
        rfl
      refine ⟨net.whitelist, unextended, ?_, ?_⟩
      · intro text set
        cases absent.symm.trans set
      · intro _ _
        rw [listed]
        by_cases opened : env "SP1_WHITELIST_OPEN" = .ok "true" <;> simp [opened]
  · rintro network ⟨text, set⟩ opened
    cases loaded : ProverConfig.fromEnv env P with
    | error reason => exact ⟨reason, rfl⟩
    | ok config =>
      rcases fromEnv_mode network loaded with ⟨net, isNetwork⟩
      rcases whitelistVars_ok (networkConfig_whitelist (fromEnv_network loaded isNetwork)) with
        ⟨_, _, _, _, closed, _⟩ | ⟨⟨unset, absent⟩, _⟩
      · exact absurd opened closed
      · cases set.symm.trans absent

section Sample

open NoriModel.Sample

/-- Addresses in lower case hexadecimal; every key and every URL is taken. -/
def sampleParsing : Parsing where
  address text := ((hexDigits? text).bind ofNibbles?).bind fun bytes =>
    if size : bytes.length = 20 then some ⟨bytes, size⟩ else none
  privateKeySigner _ := true
  url _ := true

def sampleEnv (settings : List (String × String)) : Env := fun name =>
  match settings.lookup name with
  | some value => .ok value
  | none => .error .notPresent

def proverA : Address := FixedBytes.ofNat 20 0xa1
def proverB : Address := FixedBytes.ofNat 20 0xb2
def proverC : Address := FixedBytes.ofNat 20 0xc3

def userList : String := " 0x00000000000000000000000000000000000000b2,0x00000000000000000000000000000000000000a1"

def restrictedEnv : Env := sampleEnv
  [("SP1_PROOF_TYPE", "plonk"), ("SP1_PROVER", "network"), ("SP1_NETWORK_PRIVATE_KEY", "0x01"),
    ("SP1_WHITELIST", userList), ("SP1_WHITELIST_ADD_HIGH_AVAILABILITY", "true"),
    ("SP1_WHITELIST_ADD_DEFAULT", "true")]

/-- The high-availability query repeats an address of the list and one of its own; the other one fails. -/
def poolResults : Bool → Except String (List Address)
  | true => .ok [proverC, proverA, proverC]
  | false => .error "connection refused"

theorem whitelist_regimes_restricted : ∃ config sent, ProverConfig.fromEnv restrictedEnv sampleParsing = .ok config ∧
    whitelistSent config poolResults = .ok (some sent) ∧
    ExtendsUserList [proverB, proverA] (enabledPools restrictedEnv poolResults) sent ∧
    sent = some [proverB, proverA, proverC] := by
  have loads : (ProverConfig.fromEnv restrictedEnv sampleParsing).isOk = true := by decide +kernel
  cases loaded : ProverConfig.fromEnv restrictedEnv sampleParsing with
  | error reason =>
    rw [loaded] at loads
    cases loads
  | ok config =>
    rcases fromEnv_mode rfl loaded with ⟨net, network⟩
    rcases (whitelist_regimes sampleParsing restrictedEnv poolResults).1 config net loaded network with
      ⟨sent, returned, restricted, _⟩
    rcases restricted _ rfl with ⟨user, parsed, extends'⟩
    have listed : parseWhitelist sampleParsing userList = .ok [proverB, proverA] := by decide +kernel
    cases parsed.symm.trans listed
    refine ⟨config, sent, rfl, returned, extends', ?_⟩
    rcases extends' with ⟨added, rfl, rfl, _⟩
    decide +kernel

end Sample

end NoriProof
