import Mathlib.Data.List.Basic
import OneCipher.Base.Text
import OneCipher.Base.Json

/-!
# OneCipher.Policy.V1 — policies and their evaluation

The policy types of `oc-core/src/policy.rs` and the evaluator of `oc-policy/src/v1.rs`.  Policies are conjunctive:
the first rule or policy that denies decides.  Executable policies and rules run a program of the host; the host's
answers, the RFC 3339 reader and Unicode lower-casing are a parameter (`PolicyHost`).
-/

namespace OneCipher

/-! ## Types -/

/-- The only action. -/
inductive PolicyAction where
  | deny
  deriving DecidableEq, Repr

inductive PolicyRule where
  | allowedChains (chainIds : List String)
  | expiresAt (timestamp : String)
  | allowedTypedDataContracts (contracts : List String)
  | maxAmount (maxValue : String)
  | allowedAddresses (addresses : List String)
  | allowedAssets (assets : List String)
  | executable (path : String)
  deriving DecidableEq, Repr

structure Policy where
  id : String
  name : String
  version : Nat
  createdAt : String
  rules : List PolicyRule
  executable : Option String
  config : Option Json
  action : PolicyAction

structure TransactionContext where
  toAddress : Option String
  value : Option String
  rawHex : String
  data : Option String
  deriving DecidableEq, Repr

structure SpendingContext where
  dailyTotal : String
  date : String
  deriving DecidableEq, Repr

structure TypedDataContext where
  verifyingContract : Option String
  domainChainId : Option Nat
  primaryType : String
  domainName : Option String
  domainVersion : Option String
  rawJson : String
  deriving DecidableEq, Repr

structure PolicyContext where
  chainId : String
  walletId : String
  apiKeyId : String
  transaction : TransactionContext
  spending : SpendingContext
  timestamp : String
  typedData : Option TypedDataContext
  deriving DecidableEq, Repr

structure PolicyResult where
  allow : Bool
  reason : Option String
  policyId : Option String
  deriving DecidableEq, Repr

namespace PolicyResult

def allowed : PolicyResult := ⟨true, none, none⟩

def denied (policyId reason : String) : PolicyResult := ⟨false, some reason, some policyId⟩

@[simp] theorem allow_allowed : allowed.allow = true := rfl

@[simp] theorem allow_denied (id reason : String) : (denied id reason).allow = false := rfl

end PolicyResult

/-! ## Comparisons -/

/-- `str::parse::<u128>`. -/
def parseU128 (s : String) : Option Nat := Text.parseUnsigned 10 (2 ^ 128) s

/-- Does the amount exceed the limit?  An unreadable limit or amount does; a missing one does not. -/
def amountExceeds (actual : Option String) (limit : String) : Bool :=
  match parseU128 (Text.trim limit) with
  | none => true
  | some limitVal =>
    match actual with
    | none => false
    | some s =>
      if Text.trim s = "" then false
      else match parseU128 (Text.trim s) with
        | some v => decide (limitVal < v)
        | none => true

def addressEq (a b : String) : Bool := Text.eqIgnoreAsciiCase a b

/-! ## The host -/

/-- A program that ended. -/
structure ExeExit where
  success : Bool
  status : String
  stderr : String
  stdout : Bytes

/-- What came of running a program: start failure, stdin failure (and whether the pipe was closed by
the program), and the failure to wait for it or its exit. -/
structure ExeRun where
  start : Option String
  stdin : Option (String × Bool)
  wait : Except String ExeExit

structure PolicyHost where
  parseRfc3339 : String → Option Int
  toLowercase : String → String
  run : String → PolicyContext → Option Json → ExeRun
  parseResult : Bytes → Except String (Bool × Option String)

variable (h : PolicyHost)

/-- The verdict of a run.  A closed pipe is a failure for a policy's own program
(`evaluate_executable`) but not for an executable rule (`run_executable`). -/
def exeVerdict (brokenPipeOk : Bool) (policyId : String) (r : ExeRun) : PolicyResult :=
  match r.start with
  | some e => .denied policyId ("failed to start executable: " ++ e)
  | none =>
    match r.stdin with
    | some (e, brokenPipe) =>
      if brokenPipe && brokenPipeOk then exitVerdict r.wait
      else .denied policyId ("failed to write stdin: " ++ e)
    | none => exitVerdict r.wait
where
  exitVerdict : Except String ExeExit → PolicyResult
    | .error reason => .denied policyId reason
    | .ok exit =>
      if !exit.success then
        .denied policyId ("executable exited with " ++ exit.status ++ ": " ++ Text.trim exit.stderr)
      else match h.parseResult exit.stdout with
        | .ok (true, _) => .allowed
        | .ok (false, reason) => .denied policyId (reason.getD "denied by executable")
        | .error e => .denied policyId ("invalid JSON from executable: " ++ e)

/-- An absolute path without `..` components. -/
def validateExecutablePath (path : String) : Except String Unit :=
  if !Text.startsWith "/" path then .error ("executable path must be absolute: '" ++ path ++ "'")
  else if ".." ∈ (path.toList.splitOn '/').map String.ofList then
    .error ("executable path must not contain '..': '" ++ path ++ "'")
  else .ok ()

/-! ## Evaluation -/

def evalAllowedChains (policyId : String) (chainIds : List String) (ctx : PolicyContext) : PolicyResult :=
  if ctx.chainId ∈ chainIds then .allowed
  else .denied policyId ("chain " ++ ctx.chainId ++ " not in allowlist")

def evalExpiresAt (policyId timestamp : String) (ctx : PolicyContext) : PolicyResult :=
  match h.parseRfc3339 ctx.timestamp, h.parseRfc3339 timestamp with
  | some now, some exp => if exp < now then .denied policyId ("policy expired at " ++ timestamp) else .allowed
  | _, _ => .denied policyId
      ("invalid timestamp in expiry check: ctx=" ++ ctx.timestamp ++ ", rule=" ++ timestamp)

def evalAllowedTypedDataContracts (policyId : String) (contracts : List String) (ctx : PolicyContext) : PolicyResult :=
  match ctx.typedData with
  | none => .allowed
  | some td =>
    match td.verifyingContract with
    | none => .denied policyId "typed data has no verifyingContract but policy requires one"
    | some contract =>
      if contracts.any fun c => h.toLowercase c == h.toLowercase contract then .allowed
      else .denied policyId ("verifyingContract " ++ contract ++ " not in allowed list")

def evaluateRule (rule : PolicyRule) (policyId : String) (ctx : PolicyContext) : PolicyResult :=
  match rule with
  | .allowedChains chainIds => evalAllowedChains policyId chainIds ctx
  | .expiresAt timestamp => evalExpiresAt h policyId timestamp ctx
  | .allowedTypedDataContracts contracts => evalAllowedTypedDataContracts h policyId contracts ctx
  | .maxAmount maxValue =>
    if amountExceeds ctx.transaction.value maxValue then
      .denied policyId ("value exceeds max " ++ maxValue)
    else .allowed
  | .allowedAddresses addresses =>
    match ctx.transaction.toAddress with
    | none => .allowed
    | some addr =>
      if addresses.any (addressEq · addr) then .allowed
      else .denied policyId ("address " ++ addr ++ " not in allowlist")
  -- the context carries no asset
  | .allowedAssets _ => .allowed
  | .executable path =>
    match validateExecutablePath path with
    | .error reason => .denied policyId reason
    | .ok () => exeVerdict h true policyId (h.run path ctx none)

def firstDenial {α : Type} (f : α → PolicyResult) : List α → PolicyResult
  | [] => .allowed
  | a :: as => if (f a).allow then firstDenial f as else f a

def evaluateOne (policy : Policy) (ctx : PolicyContext) : PolicyResult :=
  let rules := firstDenial (fun rule => evaluateRule h rule policy.id ctx) policy.rules
  if !rules.allow then rules
  else match policy.executable with
    | some exe => exeVerdict h false policy.id (h.run exe ctx policy.config)
    | none => .allowed

def evaluatePolicies (policies : List Policy) (ctx : PolicyContext) : PolicyResult :=
  firstDenial (fun policy => evaluateOne h policy ctx) policies

/-! ## Evaluation as a conjunction -/

variable {h}

theorem firstDenial_allow {α : Type} {f : α → PolicyResult} {as : List α} :
    (firstDenial f as).allow = true ↔ ∀ a ∈ as, (f a).allow = true := by
  induction as with
  | nil => simp [firstDenial]
  | cons a _ ih =>
    rw [firstDenial, List.forall_mem_cons]
    by_cases ha : (f a).allow = true
    · rw [if_pos ha, ih]; exact ⟨fun h => ⟨ha, h⟩, fun h => h.2⟩
    · rw [if_neg ha]; exact ⟨fun h => absurd h ha, fun h => absurd h.1 ha⟩

theorem evaluatePolicies_allow {policies : List Policy} {ctx : PolicyContext} :
    (evaluatePolicies h policies ctx).allow = true ↔ ∀ policy ∈ policies, (evaluateOne h policy ctx).allow = true :=
  firstDenial_allow

theorem evaluateOne_allow {policy : Policy} {ctx : PolicyContext} :
    (evaluateOne h policy ctx).allow = true ↔
      (∀ rule ∈ policy.rules, (evaluateRule h rule policy.id ctx).allow = true) ∧
      ∀ exe, policy.executable = some exe →
        (exeVerdict h false policy.id (h.run exe ctx policy.config)).allow = true := by
  rw [evaluateOne, ← firstDenial_allow (f := fun rule => evaluateRule h rule policy.id ctx)]
  cases hr : (firstDenial (fun rule => evaluateRule h rule policy.id ctx) policy.rules).allow with
  | false => simp [hr]
  | true => rcases he : policy.executable with _ | exe <;> simp

/-! ## Denials -/

end OneCipher
