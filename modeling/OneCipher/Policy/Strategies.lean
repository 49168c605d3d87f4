import OneCipher.Policy.V3

/-!
# OneCipher.Policy.Strategies — strategy plugins after the rules

`oc-policy/src/native_strategy.rs` and `evaluate_v3_with_strategies`.  When the rules allow, every
registered plugin is asked, and a denial by one of them takes the recorded payment back before it is
recorded as a denial.

The undo finds the recorded entries by a second reading of the clock.  `plugin_deny_restored_iff`:
it restores the state exactly when both readings give the same stamp.
-/

namespace OneCipher.PolicyEngine

open FloatOps
open PolicyState (popBack recordAllow)

/-! ## Plugins and their registry -/

section

variable {φ : Type} [FloatOps φ]

structure StrategyEvalRequest (φ : Type) where
  method : String
  chainId : String
  amountUsd : φ
  asset : String
  recipient : String
  sessionKeyId : String
  hostFacts : Json

inductive StrategyOutcome where
  | allow
  | warn (message : String)
  | deny (reason message : String)
  deriving DecidableEq, Repr

abbrev StrategyHost (φ : Type) := StrategyEvalRequest φ → Json

abbrev StrategyFn (φ : Type) := StrategyEvalRequest φ → StrategyHost φ → StrategyOutcome

/-- Plugins by name, in the order of the names. -/
structure StrategyRegistry (φ : Type) where
  plugins : List (String × StrategyFn φ)
  sorted : (plugins.map Prod.fst).Pairwise (· < ·)

structure RegistryOutcome where
  deniedBy : Option (String × String × String)
  warnings : List (String × String)
  errors : List (String × String)
  deriving DecidableEq, Repr

/-- `StrategyPlugin::evaluate`: the host's facts go into the request first. -/
def evaluatePlugin (func : StrategyFn φ) (req : StrategyEvalRequest φ) (host : StrategyHost φ) : StrategyOutcome :=
  func { req with hostFacts := host req } host

def consult (req : StrategyEvalRequest φ) (host : StrategyHost φ) :
    List (String × StrategyFn φ) → RegistryOutcome → RegistryOutcome
  | [], outcome => outcome
  | (name, func) :: rest, outcome =>
    match evaluatePlugin func req host with
    | .allow => consult req host rest outcome
    | .warn message =>
      consult req host rest { outcome with warnings := outcome.warnings ++ [(name, message)] }
    | .deny reason message => { outcome with deniedBy := some (name, reason, message) }

def StrategyRegistry.evaluate (registry : StrategyRegistry φ) (req : StrategyEvalRequest φ)
    (host : StrategyHost φ) : RegistryOutcome :=
  consult req host registry.plugins ⟨none, [], []⟩

def strategyRequestFromPay (req : PayRequest φ) (method : String) : StrategyEvalRequest φ where
  method := method
  chainId := req.chainId
  amountUsd := req.amountUsd
  asset := req.asset
  recipient := req.recipient.getD ""
  sessionKeyId := req.sessionKeyId
  hostFacts := .obj []

structure StrategyDecision where
  decision : Decision
  deniedBy : Option (String × String × String)
  warnings : List (String × String)
  errors : List (String × String)
  deriving DecidableEq, Repr

def StrategyDecision.passthrough (decision : Decision) : StrategyDecision := ⟨decision, none, [], []⟩

/-- `evaluate_v3`, then the plugins.  `clock` is what the eleven steps read, `clockAfter` what is
read once the plugins have run. -/
def evaluateV3WithStrategies (policy : PolicyV3 φ) (request : PayRequest φ)
    (registry : StrategyRegistry φ) (method : String) (host : StrategyHost φ)
    (clock clockAfter : ℕ) (state : PolicyState φ) : StrategyDecision × PolicyState φ :=
  let (decision, after) := evaluateV3 policy request clock state
  if decision.isDeny ∨ registry.plugins.isEmpty then (.passthrough decision, after)
  else
    let outcome := registry.evaluate (strategyRequestFromPay request method) host
    if outcome.deniedBy.isSome then
      let nowMs := after.nowMs clockAfter
      (⟨.deny .unknown, outcome.deniedBy, outcome.warnings, outcome.errors⟩,
        (after.rollbackAllow request nowMs state.consecutiveDenyCounter
          state.lastDenyReasons).recordDeny .unknown request.sessionKeyId nowMs)
    else (⟨decision, none, outcome.warnings, outcome.errors⟩, after)

/-! ## The undo -/

omit [FloatOps φ] in
theorem popBack_concat {β : Type} (same : β → Bool) (w : List β) (e : β) :
    popBack same (w ++ [e]) = if same e then w else w ++ [e] := by
  simp [popBack]

/-- What the state knows of denials. -/
structure Denials where
  counter : ℕ
  reasons : List DenyReason
  alerts : List HumanAlert
  lastDenyAt : Option ℕ

def PolicyState.denials (s : PolicyState φ) : Denials :=
  ⟨s.consecutiveDenyCounter, s.lastDenyReasons, s.alerts, s.lastDenyAtUnix⟩

omit [FloatOps φ] in
theorem denials_recordDeny {s t : PolicyState φ}
    (hcounter : s.consecutiveDenyCounter = t.consecutiveDenyCounter)
    (hreasons : s.lastDenyReasons = t.lastDenyReasons) (halerts : s.alerts = t.alerts)
    (hpolicy : s.policy = t.policy) (reason : DenyReason) (key : String) (nowMs : ℕ) :
    (s.recordDeny reason key nowMs).denials = (t.recordDeny reason key nowMs).denials := by
  unfold PolicyState.recordDeny
  dsimp only
  rw [hcounter, hreasons, halerts, hpolicy]
  split <;> rfl

/-- Spend and windows are the earlier ones slid to the first reading, and the denial is recorded on
the earlier streak at the second. -/
structure Restored (state : PolicyState φ) (request : PayRequest φ) (clock clockAfter : ℕ)
    (after : PolicyState φ) : Prop where
  ledger : after.ledger = state.ledger.slide (state.nowMs clock)
  denials : after.denials = (state.recordDeny .unknown request.sessionKeyId (state.nowMs clockAfter)).denials

theorem evaluateV3_of_not_deny {policy : PolicyV3 φ} {request : PayRequest φ} {clock : ℕ}
    {state : PolicyState φ} (h : (evaluateV3 policy request clock state).1.isDeny = false) :
    Passes policy request clock state ∧
      evaluateV3 policy request clock state =
        (.allow, (slideAllWindows state (state.nowMs clock)).recordAllow request (state.nowMs clock)) := by
  by_cases hpass : Passes policy request clock state
  · refine ⟨hpass, ?_⟩
    rw [evaluateV3, evaluateEmbedded_of_passes hpass] at h ⊢
    rcases hrules : evaluateRules policy.rules request with reason | _
    · simp [hrules, Decision.isDeny] at h
    · rfl
  · have hdeny := (evaluateEmbedded_of_not_passes hpass).1
    rw [evaluateV3] at h
    simp [hdeny] at h

theorem evaluateV3WithStrategies_of_deniedBy {policy : PolicyV3 φ} {request : PayRequest φ}
    {registry : StrategyRegistry φ} {method : String} {host : StrategyHost φ} {clock : ℕ}
    (clockAfter : ℕ) {state : PolicyState φ}
    (hallow : (evaluateV3 policy request clock state).1.isDeny = false)
    (hdeny : (registry.evaluate (strategyRequestFromPay request method) host).deniedBy.isSome = true) :
    (evaluateV3WithStrategies policy request registry method host clock clockAfter state).2 =
      (((slideAllWindows state (state.nowMs clock)).recordAllow request
          (state.nowMs clock)).rollbackAllow request (state.nowMs clockAfter)
        state.consecutiveDenyCounter state.lastDenyReasons).recordDeny .unknown
        request.sessionKeyId (state.nowMs clockAfter) := by
  obtain ⟨-, heq⟩ := evaluateV3_of_not_deny hallow
  have hsome : ¬ registry.plugins.isEmpty = true := fun hempty => by
    rw [StrategyRegistry.evaluate, List.isEmpty_iff.mp hempty] at hdeny
    cases hdeny
  have hnow : ((slideAllWindows state (state.nowMs clock)).recordAllow request
      (state.nowMs clock)).nowMs clockAfter = state.nowMs clockAfter := by
    rw [PolicyState.nowMs, PolicyState.nowUnix, (recordAllow_policy _ _ _).2]
    rfl
  rw [evaluateV3WithStrategies, heq]
  simp [Decision.isDeny, hsome, hdeny, hnow]

theorem minutely_rollback_of_ne {s : PolicyState φ} {req : PayRequest φ} {n m : ℕ} (h : n ≠ m)
    (hvalid : isValidAmount req.amountUsd = true) (counter : ℕ) (reasons : List DenyReason) :
    ((s.recordAllow req n).rollbackAllow req m counter reasons).minutelyWindow = s.minutelyWindow ++ [n] := by
  rw [recordAllow, if_pos hvalid]
  show popBack (· == m) (s.minutelyWindow ++ [n]) = _
  rw [popBack_concat, if_neg (by simpa using h)]

end

section Exact

theorem ledger_rollback_of_eq {s : PolicyState ExactFloat} {req : PayRequest ExactFloat} {n : ℕ}
    (hvalid : isValidAmount req.amountUsd = true) (hspent : isValidAmount s.localSpentUsd = true)
    (counter : ℕ) (reasons : List DenyReason) :
    ((s.recordAllow req n).rollbackAllow req n counter reasons).ledger = s.ledger := by
  obtain ⟨a, ha, -⟩ := isValidAmount_iff.mp hvalid
  obtain ⟨q, hq, hnonneg⟩ := isValidAmount_iff.mp hspent
  have hback : max (sub (add s.localSpentUsd req.amountUsd) req.amountUsd) zero = s.localSpentUsd := by
    rw [hq, ha, ExactFloat.add_finite, ExactFloat.sub_finite, add_sub_cancel_right,
      ExactFloat.max_zero_of_nonneg hnonneg]
  have hsame : eq req.amountUsd req.amountUsd = true := by
    rw [ha]
    exact ExactFloat.eq_finite.mpr rfl
  rw [recordAllow, if_pos hvalid, PolicyState.rollbackAllow, if_pos hvalid,
    PolicyState.ledger, PolicyState.ledger, hback]
  simp only [popBack_concat, beq_self_eq_true, hsame, Bool.and_self, if_true]

/-- **A denial by a plugin restores the state exactly when both readings of the clock give the same
stamp.** -/
theorem plugin_deny_restored_iff (policy : PolicyV3 ExactFloat) (request : PayRequest ExactFloat)
    (registry : StrategyRegistry ExactFloat) (method : String) (host : StrategyHost ExactFloat)
    (clock clockAfter : ℕ) (state : PolicyState ExactFloat)
    (hallow : (evaluateV3 policy request clock state).1.isDeny = false)
    (hdeny : (registry.evaluate (strategyRequestFromPay request method) host).deniedBy.isSome = true) :
    Restored state request clock clockAfter
        (evaluateV3WithStrategies policy request registry method host clock clockAfter state).2 ↔
      state.nowMs clock = state.nowMs clockAfter := by
  obtain ⟨⟨hvalid, _, _, hadmits⟩, -⟩ := evaluateV3_of_not_deny hallow
  rw [evaluateV3WithStrategies_of_deniedBy clockAfter hallow hdeny]
  constructor
  · intro h
    by_contra hne
    have hwindow := congrArg Ledger.minutely h.ledger
    rw [ledger_recordDeny] at hwindow
    have hrolled := minutely_rollback_of_ne (s := slideAllWindows state (state.nowMs clock)) hne hvalid
      state.consecutiveDenyCounter state.lastDenyReasons
    have hlonger := hrolled.symm.trans hwindow
    exact absurd (List.append_right_eq_self.mp hlonger) (List.cons_ne_nil _ [])
  · intro hsame
    constructor
    · have hspent : isValidAmount (slideAllWindows state (state.nowMs clock)).localSpentUsd = true := hadmits.spentValid
      rw [ledger_recordDeny, ← hsame, ledger_rollback_of_eq hvalid hspent]
      rfl
    · apply denials_recordDeny
      · rfl
      · rfl
      · rw [recordAllow, if_pos hvalid]
        rfl
      · exact (recordAllow_policy _ _ _).1

def denyingRegistry : StrategyRegistry ExactFloat where
  plugins := [("no", fun _ _ => .deny "no" "blocked")]
  sorted := List.pairwise_singleton _ _

def ruleless : PolicyV3 ExactFloat := ⟨samplePolicy 0, []⟩

theorem ruleless_allows : (evaluateV3 ruleless (samplePayment (.finite 5) 7).request 7
    (PolicyState.new none)).1.isDeny = false := by
  decide +kernel

/-- Both readings in one second. -/
theorem plugin_deny_restored_sample :
    Restored (PolicyState.new none) (samplePayment (.finite 5) 7).request 7 7
      (evaluateV3WithStrategies ruleless (samplePayment (.finite 5) 7).request denyingRegistry "pay"
        (fun _ => .obj []) 7 7 (PolicyState.new none)).2 :=
  (plugin_deny_restored_iff ruleless (samplePayment (.finite 5) 7).request denyingRegistry "pay"
    (fun _ => .obj []) 7 7 (PolicyState.new none) ruleless_allows rfl).mpr rfl

/-- A second passes while the plugin runs: the denied payment stays in the minute's window. -/
theorem plugin_deny_keeps_entry :
    (evaluateV3 ruleless (samplePayment (.finite 5) 7).request 7 (PolicyState.new none)).1.isDeny = false ∧
      (evaluateV3WithStrategies ruleless (samplePayment (.finite 5) 7).request denyingRegistry "pay"
        (fun _ => .obj []) 7 8 (PolicyState.new none)).2.minutelyWindow = [7000] ∧
      ¬ Restored (PolicyState.new none) (samplePayment (.finite 5) 7).request 7 8
        (evaluateV3WithStrategies ruleless (samplePayment (.finite 5) 7).request denyingRegistry "pay"
          (fun _ => .obj []) 7 8 (PolicyState.new none)).2 := by
  have hwindow : (evaluateV3WithStrategies ruleless (samplePayment (.finite 5) 7).request
      denyingRegistry "pay" (fun _ => .obj []) 7 8 (PolicyState.new none)).2.minutelyWindow =
      [7000] := by
    decide +kernel
  refine ⟨ruleless_allows, hwindow, fun h => ?_⟩
  have hempty : [7000] = [] := hwindow.symm.trans (congrArg Ledger.minutely h.ledger)
  cases hempty

/-! ## An undo without a recorded payment -/

section Undo

variable (s : PolicyState ExactFloat) (req : PayRequest ExactFloat) (nowMs : ℕ)

/-- The windows end with what `recordAllow` appends for `req`. -/
def EndsWithAllow : Prop :=
  isValidAmount req.amountUsd = true ∧ nowMs ∈ s.minutelyWindow.getLast? ∧ nowMs ∈ s.hourlyWindow.getLast? ∧
    (nowMs, req.amountUsd) ∈ s.dailyWindow.getLast? ∧ (nowMs, req.amountUsd) ∈ s.monthlyWindow.getLast?

/-- No window ends with an entry that the undo takes for its own. -/
def NoneTaken : Prop :=
  (∀ t ∈ s.minutelyWindow.getLast?, t ≠ nowMs) ∧ (∀ t ∈ s.hourlyWindow.getLast?, t ≠ nowMs) ∧
    (∀ e ∈ s.dailyWindow.getLast?, e.1 = nowMs → eq e.2 req.amountUsd = false) ∧
    ∀ e ∈ s.monthlyWindow.getLast?, e.1 = nowMs → eq e.2 req.amountUsd = false

variable {s req nowMs}

theorem popBack_eq_self {β : Type} {same : β → Bool} {w : List β} :
    popBack same w = w ↔ ∀ e ∈ w.getLast?, same e = false := by
  rcases w.eq_nil_or_concat with rfl | ⟨w, e, rfl⟩
  · simp [popBack]
  · rw [List.concat_eq_append, popBack_concat]
    simp

theorem max_sub_eq_self {q a : ℚ} (ha : 0 ≤ a) :
    max (sub (ExactFloat.finite q) (.finite a)) zero = .finite q ↔ q = 0 ∨ a = 0 ∧ 0 ≤ q := by
  rw [ExactFloat.sub_finite]
  rcases le_or_gt 0 (q - a) with h | h
  · rw [ExactFloat.max_zero_of_nonneg h, ExactFloat.finite.injEq]
    constructor
    · exact fun h' => .inr ⟨by linarith, by linarith⟩
    · rintro (h' | h') <;> linarith
  · have hmax : max (ExactFloat.finite (q - a)) zero = .finite 0 := if_pos (ExactFloat.lt_finite.mpr h)
    rw [hmax, ExactFloat.finite.injEq]
    constructor
    · exact fun h' => .inl h'.symm
    · rintro (h' | h') <;> linarith

/-- **When an undo without a recorded payment changes nothing**: the total stays at zero or the amount is zero or
refused, and no window ends with an entry of that time and amount. -/
theorem rollback_noop_iff {q : ℚ} (hq : s.localSpentUsd = .finite q) (counter : ℕ) (reasons : List DenyReason) :
    (¬ EndsWithAllow s req nowMs → (s.rollbackAllow req nowMs counter reasons).ledger = s.ledger) ↔
      (¬ EndsWithAllow s req nowMs → (isValidAmount req.amountUsd = true → q = 0 ∨ req.amountUsd = .finite 0 ∧ 0 ≤ q) ∧
        NoneTaken s req nowMs) := by
  refine imp_congr_right fun _ => ?_
  have hspent : (if isValidAmount req.amountUsd = true then max (sub s.localSpentUsd req.amountUsd) zero
      else s.localSpentUsd) = s.localSpentUsd ↔
        (isValidAmount req.amountUsd = true → q = 0 ∨ req.amountUsd = .finite 0 ∧ 0 ≤ q) := by
    by_cases hvalid : isValidAmount req.amountUsd = true
    · obtain ⟨a, ha, hnonneg⟩ := isValidAmount_iff.mp hvalid
      rw [if_pos hvalid, hq, ha, max_sub_eq_self hnonneg, ExactFloat.finite.injEq]
      simp [← ha, hvalid]
    · simp [hvalid]
  rw [NoneTaken, PolicyState.rollbackAllow, PolicyState.ledger, PolicyState.ledger, Ledger.mk.injEq, hspent,
    popBack_eq_self, popBack_eq_self, popBack_eq_self, popBack_eq_self]
  simp

def spentState (q : ℚ) : PolicyState ExactFloat := { PolicyState.new none with localSpentUsd := .finite q }

theorem spentState_unrecorded (q : ℚ) (req : PayRequest ExactFloat) : ¬ EndsWithAllow (spentState q) req 7000 := by
  rintro ⟨-, h, -⟩
  cases h

theorem rollback_noop_unspent :
    ((spentState 0).rollbackAllow (samplePayment (.finite 5) 7).request 7000 0 []).ledger = (spentState 0).ledger := by
  refine (rollback_noop_iff rfl 0 []).mpr (fun _ => ⟨fun _ => .inl rfl, ?_⟩) (spentState_unrecorded 0 _)
  simp [NoneTaken, spentState, PolicyState.new]

/-- Nothing was recorded, and the total falls all the same. -/
theorem rollback_lowers_total :
    ¬ EndsWithAllow (spentState 9) (samplePayment (.finite 5) 7).request 7000 ∧
      ((spentState 9).rollbackAllow (samplePayment (.finite 5) 7).request 7000 0 []).localSpentUsd = .finite 4 :=
  ⟨spentState_unrecorded 9 _, by decide +kernel⟩

end Undo

end Exact

end OneCipher.PolicyEngine
