import NoriBridgeHead.Foundation.Collect
import NoriBridgeHead.Primitives.Types

open Foundation Foundation.Outcome

namespace NoriModel

inductive VarError where
  | notPresent
  | notUnicode
deriving DecidableEq

/-- What `env::var` answers for each name. -/
abbrev Env := String → Except VarError String

/-- The parsers of other packages. -/
structure Parsing where
  address : String → Option Address
  privateKeySigner : String → Bool
  url : String → Bool

inductive NetworkMode where
  | mainnet
  | reserved
deriving DecidableEq

inductive ProofType where
  | plonk
  | groth16
deriving DecidableEq

/-- Durations are in seconds. -/
inductive FulfillmentConfig where
  | auction (timeout minAuctionPeriod : UInt64)
  | hosted
  | reserved
deriving DecidableEq

structure NetworkConfig where
  networkMode : NetworkMode
  privateKey : String
  rpcUrl : String
  fulfillment : FulfillmentConfig
  maxPricePerPgu : UInt64
  cycleLimit : Option UInt64
  gasLimit : Option UInt64
  skipSimulation : Bool
  timeout : UInt64
  whitelist : Option (List Address)
  whitelistAddHighAvailability : Bool
  whitelistAddDefault : Bool
deriving DecidableEq

inductive LocalProverMode where
  | mock
  | cpu
  | cuda
deriving DecidableEq

inductive ProverMode where
  | «local» (mode : LocalProverMode)
  | network (config : NetworkConfig)
deriving DecidableEq

structure ProverConfig where
  mode : ProverMode
  proofType : ProofType
deriving DecidableEq

section Text

/-- The characters with the Unicode property `White_Space`. -/
def isWhitespace (symbol : Char) : Bool :=
  let code := symbol.toNat
  (9 ≤ code && code ≤ 13) || code = 0x20 || code = 0x85 || code = 0xa0 || code = 0x1680 ||
    (0x2000 ≤ code && code ≤ 0x200a) || code = 0x2028 || code = 0x2029 || code = 0x202f || code = 0x205f ||
    code = 0x3000

def trim (text : List Char) : List Char :=
  ((text.dropWhile isWhitespace).reverse.dropWhile isWhitespace).reverse

def parseBool (text : String) : Option Bool :=
  if text = "true" then some true else if text = "false" then some false else none

/-- Decimal digits after an optional plus sign. -/
def parseU64 (text : String) : Option UInt64 :=
  let digits := match text.toList with
    | '+' :: digits => digits
    | digits => digits
  if digits.isEmpty || !digits.all Char.isDigit then none
  else
    let value := digits.foldl (fun value digit => 10 * value + (digit.toNat - 48)) 0
    if value < 2^64 then some (UInt64.ofNat value) else none

end Text

section Environment

variable (env : Env)

def u64Var (name : String) (default : UInt64) : Except String UInt64 :=
  match env name with
  | .ok text =>
    match parseU64 text with
    | some value => .ok value
    | none => .error s!"Failed to parse {name} as u64. Got: '{text}'"
  | .error _ => .ok default

def u64OptionVar (name : String) : Except String (Option UInt64) :=
  match env name with
  | .ok text =>
    match parseU64 text with
    | some value => .ok (some value)
    | none => .error s!"Failed to parse {name} as u64. Got: '{text}'"
  | .error _ => .ok none

/-- `expected` is the end of the message, which not all the flags have. -/
def boolVar (name expected : String) (default : Bool) : Except String Bool :=
  match env name with
  | .ok text =>
    match parseBool text with
    | some value => .ok value
    | none => .error s!"Failed to parse {name} as bool. Got: '{text}'{expected}"
  | .error _ => .ok default

def proofTypeVar : Except String ProofType :=
  match env "SP1_PROOF_TYPE" with
  | .ok "plonk" => .ok .plonk
  | .ok "groth16" => .ok .groth16
  | .ok invalid => .error s!"Invalid SP1_PROOF_TYPE value: '{invalid}'. Expected 'plonk' or 'groth16'"
  | .error _ => .error "Missing SP1_PROOF_TYPE environment variable. Expected 'plonk' or 'groth16'"

def networkModeVar : Except String NetworkMode :=
  match env "SP1_NETWORK_MODE" with
  | .ok "mainnet" => .ok .mainnet
  | .ok "reserved" => .ok .reserved
  | .ok invalid => .error s!"Invalid SP1_NETWORK_MODE value: '{invalid}'. Expected 'mainnet' or 'reserved'"
  | .error _ => .ok .mainnet

def privateKeyVar (P : Parsing) : Except String String :=
  match env "SP1_NETWORK_PRIVATE_KEY" with
  | .ok text =>
    if P.privateKeySigner text then .ok text
    else .error "Failed to parse SP1_NETWORK_PRIVATE_KEY as PrivateKeySigner."
  | .error _ => .error "SP1_NETWORK_PRIVATE_KEY required for network mode"

def rpcUrlVar (P : Parsing) (networkMode : NetworkMode) : Except String String :=
  match env "SP1_NETWORK_RPC_URL" with
  | .ok text =>
    if P.url text then .ok text
    else .error s!"Environment variable SP1_NETWORK_RPC_URL contains invalid URL: '{text}'"
  | .error _ =>
    match networkMode with
    | .mainnet => .ok "https://rpc.mainnet.succinct.xyz"
    | .reserved => .ok "https://rpc.production.succinct.xyz"

def fulfillmentVar (networkMode : NetworkMode) (minAuctionPeriod : UInt64) : Except String FulfillmentConfig :=
  match env "SP1_FULFILLMENT_STRATEGY" with
  | .ok "auction" => do
    let timeout ← u64Var env "SP1_AUCTION_TIMEOUT_SECS" 30
    pure (.auction timeout minAuctionPeriod)
  | .ok "hosted" => .ok .hosted
  | .ok "reserved" => .ok .reserved
  | .ok other =>
    .error s!"Invalid SP1_FULFILLMENT_STRATEGY value: '{other}'. Expected 'auction', 'hosted', or 'reserved'"
  | .error _ =>
    match networkMode with
    | .mainnet => .ok (.auction 30 minAuctionPeriod)
    | .reserved => .ok .reserved

def parseWhitelist (P : Parsing) (text : String) : Except String (List Address) :=
  (text.toList.splitOn ',').mapM fun piece =>
    let addr := String.ofList (trim piece)
    match P.address addr with
    | some address => .ok address
    | none => .error s!"Invalid address in SP1_WHITELIST: '{addr}'"

def whitelistVar (P : Parsing) : Except String (Option (List Address)) :=
  match env "SP1_WHITELIST" with
  | .ok text => some <$> parseWhitelist P text
  | .error _ => .ok none

/-- Without a whitelist to extend the flag is not even parsed. -/
def whitelistAddVar (name : String) : Option (List Address) → Except String Bool
  | some _ => boolVar env name "" false
  | none => .ok false

/-- The whitelist and the two flags that extend it. -/
def whitelistVars (P : Parsing) : Except String (Option (List Address) × Bool × Bool) := do
  let whitelist ← whitelistVar env P
  let whitelistAddHighAvailability ← whitelistAddVar env "SP1_WHITELIST_ADD_HIGH_AVAILABILITY" whitelist
  let whitelistAddDefault ← whitelistAddVar env "SP1_WHITELIST_ADD_DEFAULT" whitelist
  let whitelistOpen ← boolVar env "SP1_WHITELIST_OPEN" ". Expected 'true' or 'false'" false
  if whitelistOpen && whitelist.isSome then
    .error ("SP1_WHITELIST_OPEN and SP1_WHITELIST are mutually exclusive. Set SP1_WHITELIST_OPEN to opt out of any " ++
      "whitelist, or provide SP1_WHITELIST to restrict bidders — not both.")
  else
    pure (if whitelistOpen then some [] else whitelist, whitelistAddHighAvailability, whitelistAddDefault)

def networkConfig (P : Parsing) : Except String NetworkConfig := do
  let networkMode ← networkModeVar env
  let privateKey ← privateKeyVar env P
  let rpcUrl ← rpcUrlVar env P networkMode
  let minAuctionPeriod ← u64Var env "SP1_MIN_AUCTION_PERIOD_SECS" 1
  let fulfillment ← fulfillmentVar env networkMode minAuctionPeriod
  let maxPricePerPgu ← u64Var env "SP1_MAX_PRICE_PER_PGU" 1000000000
  let skipSimulation ← boolVar env "SP1_SKIP_SIMULATION" ". Expected 'true' or 'false'" false
  let cycleLimit ← u64OptionVar env "SP1_CYCLE_LIMIT"
  let gasLimit ← u64OptionVar env "SP1_GAS_LIMIT"
  let defaultCycleLimit : UInt64 := match networkMode with
    | .mainnet => 1000000000000
    | .reserved => 100000000
  let timeout ← u64Var env "SP1_TIMEOUT_SECS" 600
  let (whitelist, whitelistAddHighAvailability, whitelistAddDefault) ← whitelistVars env P
  pure {
    networkMode := networkMode
    privateKey := privateKey
    rpcUrl := rpcUrl
    fulfillment := fulfillment
    maxPricePerPgu := maxPricePerPgu
    -- A skipped simulation leaves the limits to be given.
    cycleLimit := if skipSimulation then cycleLimit.or (some defaultCycleLimit) else cycleLimit
    gasLimit := if skipSimulation then gasLimit.or (some 1000000000) else gasLimit
    skipSimulation := skipSimulation
    timeout := timeout
    whitelist := whitelist
    whitelistAddHighAvailability := whitelistAddHighAvailability
    whitelistAddDefault := whitelistAddDefault }

def proverModeVar (P : Parsing) : Except String ProverMode :=
  match env "SP1_PROVER" with
  | .ok "mock" => .ok (.local .mock)
  | .ok "cpu" => .ok (.local .cpu)
  | .ok "cuda" => .ok (.local .cuda)
  | .ok "network" => .network <$> networkConfig env P
  | .ok invalid => .error s!"Invalid SP1_PROVER value: '{invalid}'. Expected one of: mock, cpu, cuda, network"
  | .error _ => .error "Missing SP1_PROVER environment variable. Expected one of: mock, cpu, cuda, network"

def ProverConfig.fromEnv (P : Parsing) : Except String ProverConfig := do
  let proofType ← proofTypeVar env
  let mode ← proverModeVar env P
  pure ⟨mode, proofType⟩

end Environment

end NoriModel

namespace NoriProof

open NoriModel

variable {env : Env} {P : Parsing}

theorem parseBool_eq_some {text : String} {value : Bool} (parsed : parseBool text = some value) :
    value = decide (text = "true") := by
  unfold parseBool at parsed
  by_cases yes : text = "true"
  · rw [if_pos yes] at parsed
    cases parsed
    simp [yes]
  · rw [if_neg yes] at parsed
    split at parsed
    · cases parsed
      simp [yes]
    · cases parsed

theorem boolVar_ok {name expected : String} {value : Bool} (read : boolVar env name expected false = .ok value) :
    value = decide (env name = .ok "true") := by
  unfold boolVar at read
  cases set : env name with
  | error unset =>
    rw [set] at read
    cases read
    rfl
  | ok text =>
    simp only [set] at read
    split at read
    · rename_i parsed
      cases read
      rw [parseBool_eq_some parsed]
      simp
    · cases read

/-- Splitting gives at least one piece, so a whitelist that parses is not empty. -/
theorem parseWhitelist_nonempty {text : String} {whitelist : List Address}
    (parsed : parseWhitelist P text = .ok whitelist) :
    whitelist ≠ [] := by
  have pieces := List.splitOn_ne_nil ',' text.toList
  rcases List.exists_cons_of_ne_nil pieces with ⟨first, rest, split⟩
  have paired := (mapM_ok_iff _ _ _).mp parsed
  rw [split] at paired
  cases paired with
  | cons _ _ => exact List.cons_ne_nil _ _

/-- The two regimes of the variables that an accepted configuration has. -/
theorem whitelistVars_ok {whitelist : Option (List Address)} {addHighAvailability addDefault : Bool}
    (read : whitelistVars env P = .ok (whitelist, addHighAvailability, addDefault)) :
    (∃ text user, env "SP1_WHITELIST" = .ok text ∧ parseWhitelist P text = .ok user ∧
      env "SP1_WHITELIST_OPEN" ≠ .ok "true" ∧ whitelist = some user ∧
      addHighAvailability = decide (env "SP1_WHITELIST_ADD_HIGH_AVAILABILITY" = .ok "true") ∧
      addDefault = decide (env "SP1_WHITELIST_ADD_DEFAULT" = .ok "true")) ∨
    (∃ unset, env "SP1_WHITELIST" = .error unset) ∧ addHighAvailability = false ∧ addDefault = false ∧
      whitelist = if env "SP1_WHITELIST_OPEN" = .ok "true" then some [] else none := by
  simp only [whitelistVars, bind_ok_iff] at read
  rcases read with ⟨listed, listRead, high, highRead, pool, poolRead, opened, openRead, accepted⟩
  have isOpen := boolVar_ok openRead
  split at accepted
  · cases accepted
  · rename_i compatible
    cases accepted
    cases set : env "SP1_WHITELIST" with
    | ok text =>
      left
      simp only [whitelistVar, set] at listRead
      cases parsed : parseWhitelist P text with
      | error reason =>
        rw [parsed] at listRead
        cases listRead
      | ok user =>
        rw [parsed] at listRead
        cases listRead
        have closed : opened = false := by simpa using compatible
        rw [closed] at isOpen
        refine ⟨text, user, rfl, parsed, ?_, by simp [closed], boolVar_ok highRead, boolVar_ok poolRead⟩
        exact of_decide_eq_false isOpen.symm
    | error unset =>
      right
      simp only [whitelistVar, set] at listRead
      cases listRead
      cases highRead
      cases poolRead
      refine ⟨⟨unset, rfl⟩, rfl, rfl, ?_⟩
      simp [isOpen]

theorem networkConfig_whitelist {net : NetworkConfig} (read : networkConfig env P = .ok net) :
    whitelistVars env P = .ok (net.whitelist, net.whitelistAddHighAvailability, net.whitelistAddDefault) := by
  simp only [networkConfig, bind_ok_iff, pure_ok_iff] at read
  rcases read with ⟨_, _, _, _, _, _, _, _, _, _, _, _, _, _, _, _, _, _, _, _, vars, varsRead, rfl⟩
  exact varsRead

theorem networkConfig_of_map {mode : ProverMode} (read : ProverMode.network <$> networkConfig env P = .ok mode) :
    ∃ net, networkConfig env P = .ok net ∧ mode = .network net := by
  cases loaded : networkConfig env P with
  | error reason =>
    rw [loaded] at read
    cases read
  | ok net =>
    rw [loaded] at read
    cases read
    exact ⟨net, rfl, rfl⟩

theorem fromEnv_network {config : ProverConfig} {net : NetworkConfig} (loaded : ProverConfig.fromEnv env P = .ok config)
    (network : config.mode = .network net) : networkConfig env P = .ok net := by
  simp only [ProverConfig.fromEnv, bind_ok_iff, pure_ok_iff] at loaded
  rcases loaded with ⟨proofType, _, mode, modeRead, rfl⟩
  obtain rfl : mode = .network net := network
  unfold proverModeVar at modeRead
  split at modeRead
  · cases modeRead
  · cases modeRead
  · cases modeRead
  · rcases networkConfig_of_map modeRead with ⟨other, read, same⟩
    cases same
    exact read
  · cases modeRead
  · cases modeRead

theorem fromEnv_mode {config : ProverConfig} (set : env "SP1_PROVER" = .ok "network")
    (loaded : ProverConfig.fromEnv env P = .ok config) : ∃ net, config.mode = .network net := by
  simp only [ProverConfig.fromEnv, bind_ok_iff, pure_ok_iff] at loaded
  rcases loaded with ⟨proofType, _, mode, modeRead, rfl⟩
  rw [proverModeVar, set] at modeRead
  rcases networkConfig_of_map modeRead with ⟨net, _, same⟩
  exact ⟨net, same⟩

end NoriProof
