import OneCipher.Base.Prog
import OneCipher.Base.Text
import OneCipher.Base.Float
import OneCipher.Base.Window

/-!
# OneCipher.Policy.V2 — the eleven-step policy engine

The payment policy of `oc-policy/src/v2.rs`: a state of counters and sliding windows, and
`evaluate11Step`, which takes one request through the checks and records the outcome.  Amounts are
of any type with `FloatOps`; the clock reading a call makes is its argument.

`evaluate11Step_cases` says what a call can do.  Everything about runs is derived from it.
-/

namespace OneCipher.PolicyEngine

open FloatOps Window

/-! ## Requests and policies -/

structure PayRequest (φ : Type) where
  sessionKeyId : String
  deviceId : String
  amountUsd : φ
  asset : String
  chainId : String
  recipient : Option String

structure PolicyRulesV2 (φ : Type) where
  maxSingleAmountUsd : φ
  maxDailyAmountUsd : φ
  maxMonthlyAmountUsd : φ
  expiryUnix : ℕ
  rateLimitPerMinute : ℕ
  rateLimitPerHour : ℕ
  cooldownAfterDenialSec : ℕ
  assetWhitelist : List String
  chainWhitelist : List String
  contractWhitelist : List String

structure PolicyV2 (φ : Type) where
  sessionKeyId : String
  deviceId : String
  rules : PolicyRulesV2 φ
  allocatedUsd : φ

/-! ## Decisions -/

inductive DenyReason where
  | rateLimitMinute
  | rateLimitHour
  | budgetExceeded
  | whitelist
  | expired
  | passkeyForged
  | policyMissing
  | cooldown
  | unknown
  | invalidAmount
  deriving DecidableEq, Repr

inductive WarnReason where
  | largeApproval (token amount : String)
  | newContract (address : String)
  | crossChainBridge (sourceChain destChain : String)
  | highGasUsage (estimatedGas threshold : ℕ)
  | unverifiedDapp (origin : String)
  deriving DecidableEq, Repr

inductive Decision where
  | allow
  | warn (reason : WarnReason)
  | deny (reason : DenyReason)
  deriving DecidableEq, Repr

namespace Decision

def isDeny : Decision → Bool
  | deny _ => true
  | _ => false

def denyReason : Decision → Option DenyReason
  | deny reason => some reason
  | _ => none

end Decision

/-- What the sink is told after three denials in a row. -/
structure HumanAlert where
  sessionKeyId : String
  deviceId : String
  denyReasons : List DenyReason
  timestampUnix : ℕ
  deriving DecidableEq, Repr

/-! ## The state -/

/-- Counters, windows and the loaded policy.  `alerts` is what the alert sink was told, oldest
first. -/
structure PolicyState (φ : Type) where
  localSpentUsd : φ
  minutelyWindow : List ℕ
  hourlyWindow : List ℕ
  dailyWindow : List (ℕ × φ)
  monthlyWindow : List (ℕ × φ)
  lastDenyAtUnix : Option ℕ
  consecutiveDenyCounter : ℕ
  lastDenyReasons : List DenyReason
  alerts : List HumanAlert
  policy : Option (PolicyV2 φ)
  nowOverride : Option ℕ

def u64Max : ℕ := 2 ^ 64 - 1

def saturatingAdd (a b : ℕ) : ℕ := min (a + b) u64Max

def saturatingMul (a b : ℕ) : ℕ := min (a * b) u64Max

def toMs (nowUnix : ℕ) : ℕ := saturatingMul nowUnix 1000

section

variable {φ : Type} [FloatOps φ]

namespace PolicyState

/-- `PolicyState::new`, with `with_policy` where a policy is loaded. -/
def new (policy : Option (PolicyV2 φ)) : PolicyState φ where
  localSpentUsd := zero
  minutelyWindow := []
  hourlyWindow := []
  dailyWindow := []
  monthlyWindow := []
  lastDenyAtUnix := none
  consecutiveDenyCounter := 0
  lastDenyReasons := []
  alerts := []
  policy := policy
  nowOverride := none

def nowUnix (state : PolicyState φ) (clock : ℕ) : ℕ := state.nowOverride.getD clock

def nowMs (state : PolicyState φ) (clock : ℕ) : ℕ := toMs (state.nowUnix clock)

end PolicyState

def isValidAmount (amount : φ) : Bool := isFinite amount && le zero amount

namespace PolicyState

def recordAllow (state : PolicyState φ) (req : PayRequest φ) (nowMs : ℕ) : PolicyState φ :=
  if isValidAmount req.amountUsd then
    { state with
      localSpentUsd := add state.localSpentUsd req.amountUsd
      minutelyWindow := state.minutelyWindow ++ [nowMs]
      hourlyWindow := state.hourlyWindow ++ [nowMs]
      dailyWindow := state.dailyWindow ++ [(nowMs, req.amountUsd)]
      monthlyWindow := state.monthlyWindow ++ [(nowMs, req.amountUsd)]
      consecutiveDenyCounter := 0
      lastDenyReasons := [] }
  else state

def popBack {β : Type} (same : β → Bool) (w : List β) : List β :=
  if w.getLast?.any same then w.dropLast else w

/-- Undoes the last `recordAllow` for `req`; the streak is put back from the caller's copy. -/
def rollbackAllow (state : PolicyState φ) (req : PayRequest φ) (nowMs priorCounter : ℕ)
    (priorReasons : List DenyReason) : PolicyState φ :=
  { state with
    localSpentUsd :=
      if isValidAmount req.amountUsd then max (sub state.localSpentUsd req.amountUsd) zero
      else state.localSpentUsd
    minutelyWindow := popBack (· == nowMs) state.minutelyWindow
    hourlyWindow := popBack (· == nowMs) state.hourlyWindow
    dailyWindow := popBack (fun e => e.1 == nowMs && eq e.2 req.amountUsd) state.dailyWindow
    monthlyWindow := popBack (fun e => e.1 == nowMs && eq e.2 req.amountUsd) state.monthlyWindow
    consecutiveDenyCounter := priorCounter
    lastDenyReasons := priorReasons }

/-- The reason list with `reason` at its end, cut to three from the front. -/
def pushReason (reasons : List DenyReason) (reason : DenyReason) : List DenyReason :=
  if 3 < (reasons ++ [reason]).length then (reasons ++ [reason]).drop 1 else reasons ++ [reason]

def recordDeny (state : PolicyState φ) (reason : DenyReason) (sessionKeyId : String) (nowMs : ℕ) : PolicyState φ :=
  let nowUnix := nowMs / 1000
  -- the counter is a `u32`; it wraps in a release build
  let counter := (state.consecutiveDenyCounter + 1) % 2 ^ 32
  let reasons := pushReason state.lastDenyReasons reason
  if counter = 3 then
    { state with
      lastDenyAtUnix := some nowUnix
      consecutiveDenyCounter := 0
      lastDenyReasons := []
      alerts := state.alerts ++ [⟨sessionKeyId, (state.policy.map (·.deviceId)).getD "", reasons, nowUnix⟩] }
  else
    { state with
      lastDenyAtUnix := some nowUnix
      consecutiveDenyCounter := counter
      lastDenyReasons := reasons }

end PolicyState

/-! ## Sliding windows -/

def slideWindow (window : List ℕ) (nowMs windowMs : ℕ) : List ℕ := slide id windowMs nowMs window

def slideAmountWindow (window : List (ℕ × φ)) (nowMs windowMs : ℕ) : List (ℕ × φ) :=
  slide Prod.fst windowMs nowMs window

def minuteMs : ℕ := 60000
def hourMs : ℕ := 3600000
def dayMs : ℕ := 86400000
def monthMs : ℕ := 2592000000

def slideAllWindows (state : PolicyState φ) (nowMs : ℕ) : PolicyState φ :=
  { state with
    minutelyWindow := slideWindow state.minutelyWindow nowMs minuteMs
    hourlyWindow := slideWindow state.hourlyWindow nowMs hourMs
    dailyWindow := slideAmountWindow state.dailyWindow nowMs dayMs
    monthlyWindow := slideAmountWindow state.monthlyWindow nowMs monthMs }

/-! ## The ledger: spend and windows -/

structure Ledger (φ : Type) where
  spent : φ
  minutely : List ℕ
  hourly : List ℕ
  daily : List (ℕ × φ)
  monthly : List (ℕ × φ)

namespace Ledger

def slide (l : Ledger φ) (nowMs : ℕ) : Ledger φ where
  spent := l.spent
  minutely := slideWindow l.minutely nowMs minuteMs
  hourly := slideWindow l.hourly nowMs hourMs
  daily := slideAmountWindow l.daily nowMs dayMs
  monthly := slideAmountWindow l.monthly nowMs monthMs

def push (l : Ledger φ) (amount : φ) (nowMs : ℕ) : Ledger φ where
  spent := add l.spent amount
  minutely := l.minutely ++ [nowMs]
  hourly := l.hourly ++ [nowMs]
  daily := l.daily ++ [(nowMs, amount)]
  monthly := l.monthly ++ [(nowMs, amount)]

end Ledger

def PolicyState.ledger (s : PolicyState φ) : Ledger φ :=
  ⟨s.localSpentUsd, s.minutelyWindow, s.hourlyWindow, s.dailyWindow, s.monthlyWindow⟩

omit [FloatOps φ] in
@[simp] theorem ledger_slideAllWindows (s : PolicyState φ) (nowMs : ℕ) :
    (slideAllWindows s nowMs).ledger = s.ledger.slide nowMs := rfl

omit [FloatOps φ] in
@[simp] theorem ledger_recordDeny (s : PolicyState φ) (reason : DenyReason) (key : String)
    (nowMs : ℕ) : (s.recordDeny reason key nowMs).ledger = s.ledger := by
  unfold PolicyState.recordDeny
  dsimp only
  split <;> rfl

variable {req : PayRequest φ} {state : PolicyState φ}

theorem ledger_recordAllow (s : PolicyState φ) (nowMs : ℕ) (h : isValidAmount req.amountUsd = true) :
    (s.recordAllow req nowMs).ledger = s.ledger.push req.amountUsd nowMs := by
  rw [PolicyState.recordAllow, if_pos h]
  rfl

/-! ## The steps -/

def usdEpsilon : φ := ofScientific 1 true 9

def denyIf (c : Prop) [Decidable c] (reason : DenyReason) : Except DenyReason Unit :=
  if c then .error reason else .ok ()

def step2LoadPolicy (state : PolicyState φ) : Except DenyReason (PolicyV2 φ) :=
  match state.policy with
  | some policy => .ok policy
  | none => .error .policyMissing

def step3CheckExpiry (policy : PolicyV2 φ) (nowUnix : ℕ) : Except DenyReason Unit :=
  denyIf (policy.rules.expiryUnix < nowUnix) .expired

def listed (whitelist : List String) (same : String → Bool) : Bool := whitelist.isEmpty || whitelist.any same

def step4CheckWhitelists (policy : PolicyV2 φ) (req : PayRequest φ) : Except DenyReason Unit := do
  denyIf (listed policy.rules.assetWhitelist (· == req.asset) = false) .whitelist
  denyIf (listed policy.rules.chainWhitelist (· == req.chainId) = false) .whitelist
  denyIf (∃ recipient ∈ req.recipient,
    listed policy.rules.contractWhitelist (Text.eqIgnoreAsciiCase · recipient) = false) .whitelist

def step5CheckCooldown (state : PolicyState φ) (policy : PolicyV2 φ) (nowUnix : ℕ) : Except DenyReason Unit :=
  denyIf (∃ lastDeny ∈ state.lastDenyAtUnix,
    nowUnix < saturatingAdd lastDeny policy.rules.cooldownAfterDenialSec) .cooldown

def step6CheckRateLimitMinute (state : PolicyState φ) (policy : PolicyV2 φ) : Except DenyReason Unit :=
  denyIf (policy.rules.rateLimitPerMinute ≤ state.minutelyWindow.length) .rateLimitMinute

def step7CheckRateLimitHour (state : PolicyState φ) (policy : PolicyV2 φ) : Except DenyReason Unit :=
  denyIf (policy.rules.rateLimitPerHour ≤ state.hourlyWindow.length) .rateLimitHour

def step8CheckBudget (state : PolicyState φ) (policy : PolicyV2 φ) (req : PayRequest φ) :
    Except DenyReason Unit := do
  denyIf (isValidAmount state.localSpentUsd = false ∨ isFinite policy.allocatedUsd = false)
    .budgetExceeded
  denyIf (lt (add policy.allocatedUsd usdEpsilon) (add state.localSpentUsd req.amountUsd) = true)
    .budgetExceeded

def checkCumulative (window : List (ℕ × φ)) (cap amount : φ) : Except DenyReason Unit := do
  let spent := sum (window.map Prod.snd)
  denyIf (isFinite spent = false ∨ lt spent zero = true ∨ isFinite cap = false) .budgetExceeded
  denyIf (lt (add cap usdEpsilon) (add spent amount) = true) .budgetExceeded

def step8aCheckDailyCumulative (state : PolicyState φ) (policy : PolicyV2 φ) (req : PayRequest φ) :
    Except DenyReason Unit :=
  checkCumulative state.dailyWindow policy.rules.maxDailyAmountUsd req.amountUsd

def step8bCheckMonthlyCumulative (state : PolicyState φ) (policy : PolicyV2 φ)
    (req : PayRequest φ) : Except DenyReason Unit :=
  checkCumulative state.monthlyWindow policy.rules.maxMonthlyAmountUsd req.amountUsd

def step9CheckSingleAmount (policy : PolicyV2 φ) (req : PayRequest φ) : Except DenyReason Unit :=
  denyIf (isFinite policy.rules.maxSingleAmountUsd = false ∨
    lt policy.rules.maxSingleAmountUsd req.amountUsd = true) .budgetExceeded

def step10Allow (state : PolicyState φ) (req : PayRequest φ) (nowMs : ℕ) : Decision × PolicyState φ :=
  (.allow, state.recordAllow req nowMs)

def step11Deny (state : PolicyState φ) (reason : DenyReason) (sessionKeyId : String) (nowMs : ℕ) :
    Decision × PolicyState φ :=
  (.deny reason, state.recordDeny reason sessionKeyId nowMs)

def runSteps (state : PolicyState φ) (req : PayRequest φ) (nowUnix : ℕ) :
    Except DenyReason Unit := do
  let policy ← step2LoadPolicy state
  step3CheckExpiry policy nowUnix
  step4CheckWhitelists policy req
  step5CheckCooldown state policy nowUnix
  step6CheckRateLimitMinute state policy
  step7CheckRateLimitHour state policy
  step8CheckBudget state policy req
  step8aCheckDailyCumulative state policy req
  step8bCheckMonthlyCumulative state policy req
  step9CheckSingleAmount policy req

/-- One request through the eleven steps.  An invalid amount is refused before the windows are
touched. -/
def evaluate11Step (req : PayRequest φ) (sessionKeyId : String) (clock : ℕ)
    (state : PolicyState φ) : Decision × PolicyState φ :=
  if isValidAmount req.amountUsd then
    let slid := slideAllWindows state (state.nowMs clock)
    match runSteps slid req (state.nowUnix clock) with
    | .ok () => step10Allow slid req (state.nowMs clock)
    | .error reason => step11Deny slid reason sessionKeyId (state.nowMs clock)
  else step11Deny state .invalidAmount sessionKeyId (state.nowMs clock)

/-! ## What a call can do -/

omit [FloatOps φ] in
theorem denyIf_eq_ok {c : Prop} [Decidable c] {reason : DenyReason} : denyIf c reason = .ok () ↔ ¬ c := by
  rw [denyIf, Result.guard_eq_ok, and_iff_left rfl]

omit [FloatOps φ] in
theorem seq_eq_ok {x y : Except DenyReason Unit} : (x >>= fun _ => y) = .ok () ↔ x = .ok () ∧ y = .ok () := by
  rw [Result.bind_eq_ok]
  exact ⟨fun ⟨_, hx, hy⟩ => ⟨hx, hy⟩, fun ⟨hx, hy⟩ => ⟨(), hx, hy⟩⟩

/-- A cap with headroom for one more amount. -/
structure Headroom (window : List (ℕ × φ)) (cap amount : φ) : Prop where
  spentFinite : isFinite (sum (window.map Prod.snd)) = true
  spentNonneg : lt (sum (window.map Prod.snd)) zero = false
  capFinite : isFinite cap = true
  fits : lt (add cap usdEpsilon) (add (sum (window.map Prod.snd)) amount) = false

theorem checkCumulative_eq_ok {window : List (ℕ × φ)} {cap amount : φ} :
    checkCumulative window cap amount = .ok () ↔ Headroom window cap amount := by
  show (denyIf _ _ >>= fun _ => denyIf _ _) = .ok () ↔ _
  rw [seq_eq_ok, denyIf_eq_ok, denyIf_eq_ok]
  simp only [not_or, Bool.not_eq_false, Bool.not_eq_true]
  exact ⟨fun ⟨⟨h1, h2, h3⟩, h4⟩ => ⟨h1, h2, h3, h4⟩, fun h => ⟨⟨h.1, h.2, h.3⟩, h.4⟩⟩

/-- What steps 3 to 9 ask of a request. -/
structure Admits (policy : PolicyV2 φ) (req : PayRequest φ) (nowUnix : ℕ) (s : PolicyState φ) : Prop where
  unexpired : nowUnix ≤ policy.rules.expiryUnix
  whitelisted : step4CheckWhitelists policy req = .ok ()
  cooled : ∀ lastDeny ∈ s.lastDenyAtUnix,
    saturatingAdd lastDeny policy.rules.cooldownAfterDenialSec ≤ nowUnix
  minuteFree : s.minutelyWindow.length < policy.rules.rateLimitPerMinute
  hourFree : s.hourlyWindow.length < policy.rules.rateLimitPerHour
  spentValid : isValidAmount s.localSpentUsd = true
  allocationFinite : isFinite policy.allocatedUsd = true
  budgetFits : lt (add policy.allocatedUsd usdEpsilon) (add s.localSpentUsd req.amountUsd) = false
  daily : Headroom s.dailyWindow policy.rules.maxDailyAmountUsd req.amountUsd
  monthly : Headroom s.monthlyWindow policy.rules.maxMonthlyAmountUsd req.amountUsd
  singleFinite : isFinite policy.rules.maxSingleAmountUsd = true
  singleFits : lt policy.rules.maxSingleAmountUsd req.amountUsd = false

theorem runSteps_eq_ok {s : PolicyState φ} {nowUnix : ℕ} :
    runSteps s req nowUnix = .ok () ↔ ∃ policy, s.policy = some policy ∧ Admits policy req nowUnix s := by
  have hload : ∀ policy, step2LoadPolicy s = .ok policy ↔ s.policy = some policy := by
    intro policy
    unfold step2LoadPolicy
    cases s.policy <;> simp
  rw [runSteps, Result.bind_eq_ok]
  refine exists_congr fun policy => and_congr (hload policy) ?_
  rw [seq_eq_ok, seq_eq_ok, seq_eq_ok, seq_eq_ok, seq_eq_ok, seq_eq_ok, seq_eq_ok, seq_eq_ok]
  rw [step3CheckExpiry, step5CheckCooldown, step6CheckRateLimitMinute, step7CheckRateLimitHour]
  rw [step8CheckBudget, seq_eq_ok, step8aCheckDailyCumulative, step8bCheckMonthlyCumulative]
  rw [step9CheckSingleAmount, checkCumulative_eq_ok, checkCumulative_eq_ok]
  simp only [denyIf_eq_ok, not_or, not_lt, not_le, not_exists, not_and, Bool.not_eq_false, Bool.not_eq_true]
  constructor
  · rintro ⟨h3, h4, h5, h6, h7, ⟨⟨h8, h8'⟩, h8''⟩, h8a, h8b, h9, h9'⟩
    exact ⟨h3, h4, h5, h6, h7, h8, h8', h8'', h8a, h8b, h9, h9'⟩
  · rintro ⟨h3, h4, h5, h6, h7, h8, h8', h8'', h8a, h8b, h9, h9'⟩
    exact ⟨h3, h4, h5, h6, h7, ⟨⟨h8, h8'⟩, h8''⟩, h8a, h8b, h9, h9'⟩

/-- The request passes every step in the state before the call. -/
def Admitted (req : PayRequest φ) (clock : ℕ) (state : PolicyState φ) : Prop :=
  isValidAmount req.amountUsd = true ∧
    ∃ policy, state.policy = some policy ∧
      Admits policy req (state.nowUnix clock) (slideAllWindows state (state.nowMs clock))

theorem evaluate11Step_of_admitted (key : String) {clock : ℕ} (h : Admitted req clock state) :
    evaluate11Step req key clock state =
      (.allow, (slideAllWindows state (state.nowMs clock)).recordAllow req (state.nowMs clock)) := by
  have hsteps : runSteps (slideAllWindows state (state.nowMs clock)) req (state.nowUnix clock) =
      .ok () := runSteps_eq_ok.mpr h.2
  rw [evaluate11Step, if_pos h.1]
  simp only [hsteps]
  rfl

theorem evaluate11Step_of_not_admitted (key : String) {clock : ℕ} (h : ¬ Admitted req clock state) :
    ∃ reason s, (s = state ∨ s = slideAllWindows state (state.nowMs clock)) ∧
      evaluate11Step req key clock state = (.deny reason, s.recordDeny reason key (state.nowMs clock)) := by
  rw [evaluate11Step]
  by_cases hvalid : isValidAmount req.amountUsd = true
  · rw [if_pos hvalid]
    rcases hsteps : runSteps (slideAllWindows state (state.nowMs clock)) req
        (state.nowUnix clock) with reason | _
    · refine ⟨reason, _, .inr rfl, ?_⟩
      simp only [hsteps]
      rfl
    · exact absurd ⟨hvalid, runSteps_eq_ok.mp hsteps⟩ h
  · rw [if_neg hvalid]
    exact ⟨.invalidAmount, _, .inl rfl, rfl⟩

theorem evaluate11Step_allow_iff {key : String} {clock : ℕ} :
    (evaluate11Step req key clock state).1 = .allow ↔ Admitted req clock state := by
  constructor
  · intro h
    by_contra hnot
    obtain ⟨reason, s, -, heq⟩ := evaluate11Step_of_not_admitted key hnot
    rw [heq] at h
    cases h
  · intro h
    rw [evaluate11Step_of_admitted key h]

end

end OneCipher.PolicyEngine
