import OneCipher.Base.Json
import OneCipher.Policy.Runs

/-!
# OneCipher.Policy.V3 — permit and forbid rules over the eleven steps

`evaluateV3` of `oc-policy/src/v3.rs` runs the eleven steps with the embedded policy and, when they allow, a list
of permit and forbid rules.  `evaluateRules_eq` says when the rules refuse, `condition_decided` that a condition
means its boolean reading.
-/

namespace OneCipher.PolicyEngine

open FloatOps Window List

/-! ## Rules -/

inductive RuleEffect where
  | permit
  | forbid
  deriving DecidableEq, Repr

inductive ComparisonOp where
  | eq
  | ne
  | lt
  | le
  | gt
  | ge
  deriving DecidableEq, Repr

inductive RuleCondition where
  | comparison (field : String) (operator : ComparisonOp) (value : Json)
  | membership (field : String) (values : List Json)
  | all (conditions : List RuleCondition)
  | any (conditions : List RuleCondition)
  | not (condition : RuleCondition)
  | always (value : Bool)

structure PolicyRule where
  id : String
  effect : RuleEffect
  condition : RuleCondition

structure PolicyV3 (φ : Type) where
  v2 : PolicyV2 φ
  rules : List PolicyRule

def maxConditionDepth : ℕ := 64

inductive CondOutcome where
  | matched
  | notMatched
  | depthExceeded
  deriving DecidableEq, Repr

section

variable {φ : Type} [FloatOps φ]

/-! ## Fields and comparisons -/

/-- The JSON value of a request field: a field is null, a float or a text, never anything else. -/
inductive FieldValue (φ : Type) where
  | null
  | number (x : φ)
  | text (s : String)

/-- `json!` of a float: null unless it is finite. -/
def FieldValue.ofFloat (x : φ) : FieldValue φ := if isFinite x then .number x else .null

def getField (request : PayRequest φ) (field : String) : FieldValue φ :=
  if field = "amount_usd" then .ofFloat request.amountUsd
  else if field = "asset" then .text request.asset
  else if field = "chain_id" then .text request.chainId
  else if field = "session_key_id" then .text request.sessionKeyId
  else if field = "device_id" then .text request.deviceId
  else if field = "recipient" then (request.recipient.map .text).getD .null
  else .null

/-- `Number::as_f64`. -/
def numberAsF64 : JsonNumber → φ
  | .posInt n => ofInt n.toNat
  | .negInt n => ofInt n.toInt
  | .float bits => ofBits bits

def numAbsEpsilon : φ := ofScientific 1 true 9

def numRelEpsilon : φ := ofScientific 1 true 9

def numbersEq (a b : φ) : Bool := le (abs (sub a b)) (max numAbsEpsilon (mul numRelEpsilon (max (abs a) (abs b))))

def compareNumbers (a e : φ) (op : ComparisonOp) : Bool :=
  if isFinite a = false ∨ isFinite e = false then op == .ne
  else match op with
    | .eq => numbersEq a e
    | .ne => !numbersEq a e
    | .lt => lt a e
    | .le => le a e
    | .gt => lt e a
    | .ge => le e a

def compareValues (actual : FieldValue φ) (op : ComparisonOp) (expected : Json) : Bool :=
  match actual, expected with
  | .number a, .num e => compareNumbers a (numberAsF64 e) op
  | .text a, .str e =>
    match op with
    | .eq => a == e
    | .ne => a != e
    | _ => false
  | _, _ => false

def FieldValue.sameJson : FieldValue φ → Json → Bool
  | .null, .null => true
  | .number x, .num (.float bits) => eq (ofBits bits) x
  | .text s, .str t => t == s
  | _, _ => false

/-! ## Conditions -/

def CondOutcome.ofBool (b : Bool) : CondOutcome := if b then .matched else .notMatched

def CondOutcome.negate : CondOutcome → CondOutcome
  | .matched => .notMatched
  | .notMatched => .matched
  | .depthExceeded => .depthExceeded

mutual

def evaluateConditionOutcome (request : PayRequest φ) : RuleCondition → ℕ → CondOutcome
  | .always value, depth =>
    if maxConditionDepth ≤ depth then .depthExceeded else .ofBool value
  | .comparison field operator value, depth =>
    if maxConditionDepth ≤ depth then .depthExceeded
    else .ofBool (compareValues (getField request field) operator value)
  | .membership field values, depth =>
    if maxConditionDepth ≤ depth then .depthExceeded
    else .ofBool (values.any (getField request field).sameJson)
  | .all conditions, depth =>
    if maxConditionDepth ≤ depth then .depthExceeded
    else evaluateEach request .notMatched conditions (depth + 1) .matched
  | .any conditions, depth =>
    if maxConditionDepth ≤ depth then .depthExceeded
    else evaluateEach request .matched conditions (depth + 1) .notMatched
  | .not condition, depth =>
    if maxConditionDepth ≤ depth then .depthExceeded
    else (evaluateConditionOutcome request condition (depth + 1)).negate

/-- The loop over the parts of a conjunction or disjunction: a part with the outcome `hit` sets the
result to it; only an overflow ends the loop early. -/
def evaluateEach (request : PayRequest φ) (hit : CondOutcome) :
    List RuleCondition → ℕ → CondOutcome → CondOutcome
  | [], _, result => result
  | c :: rest, depth, result =>
    match evaluateConditionOutcome request c depth with
    | .depthExceeded => .depthExceeded
    | outcome => evaluateEach request hit rest depth (if outcome = hit then hit else result)

end

def RuleCondition.parts : RuleCondition → List RuleCondition
  | .all conditions => conditions
  | .any conditions => conditions
  | .not condition => [condition]
  | _ => []

def readsNonFinite (request : PayRequest φ) : RuleCondition → Bool
  | .comparison field _ _ => field == "amount_usd" && !isFinite request.amountUsd
  | _ => false

/-- `Vec::extend`; the head of the list is the top of the stack. -/
def pushParts (conditions : List RuleCondition) (depth : ℕ) (stack : List (RuleCondition × ℕ)) :
    List (RuleCondition × ℕ) :=
  (conditions.map fun c => (c, depth)).reverse ++ stack

noncomputable def stackSize (stack : List (RuleCondition × ℕ)) : ℕ := (stack.map fun entry => sizeOf entry.1).sum

theorem stackSize_cons (cond : RuleCondition) (depth : ℕ) (stack : List (RuleCondition × ℕ)) :
    stackSize ((cond, depth) :: stack) = sizeOf cond + stackSize stack := by
  rfl

theorem sum_sizeOf_le (conditions : List RuleCondition) : (conditions.map sizeOf).sum ≤ sizeOf conditions := by
  induction conditions with
  | nil => exact Nat.zero_le _
  | cons =>
    rw [map_cons, sum_cons, List.cons.sizeOf_spec]
    omega

theorem sum_sizeOf_parts_lt (cond : RuleCondition) : (cond.parts.map sizeOf).sum < sizeOf cond := by
  cases cond with
  | all conditions =>
    have hle := sum_sizeOf_le conditions
    rw [RuleCondition.all.sizeOf_spec, RuleCondition.parts]
    omega
  | any conditions =>
    have hle := sum_sizeOf_le conditions
    rw [RuleCondition.any.sizeOf_spec, RuleCondition.parts]
    omega
  | not =>
    rw [RuleCondition.not.sizeOf_spec, RuleCondition.parts, map_singleton, sum_singleton]
    omega
  | _ => simp [RuleCondition.parts]

theorem stackSize_lt (cond : RuleCondition) (depth : ℕ) (stack : List (RuleCondition × ℕ)) :
    stackSize (pushParts cond.parts (depth + 1) stack) < stackSize ((cond, depth) :: stack) := by
  have hlt := sum_sizeOf_parts_lt cond
  rw [stackSize_cons, stackSize, pushParts, map_append, sum_append, map_reverse, sum_reverse, map_map]
  exact Nat.add_lt_add_right hlt _

/-- The walk of `condition_touches_non_finite_number`. -/
def walkNonFinite (request : PayRequest φ) : List (RuleCondition × ℕ) → Bool
  | [] => false
  | (cond, depth) :: stack =>
    if maxConditionDepth ≤ depth then walkNonFinite request stack
    else if readsNonFinite request cond then true
    else walkNonFinite request (pushParts cond.parts (depth + 1) stack)
  termination_by stack => stackSize stack
  decreasing_by
    · have hlt := sum_sizeOf_parts_lt cond
      rw [stackSize_cons]
      omega
    · exact stackSize_lt cond depth stack

def conditionTouchesNonFiniteNumber (condition : RuleCondition) (request : PayRequest φ) : Bool :=
  walkNonFinite request [(condition, 0)]

/-! ## Evaluation -/

def ruleOutcomes (rules : List PolicyRule) (request : PayRequest φ) : Option (List CondOutcome) :=
  rules.mapM fun rule =>
    match evaluateConditionOutcome request rule.condition 0 with
    | .depthExceeded => none
    | outcome => some outcome

def forbidFires (request : PayRequest φ) (rule : PolicyRule) (outcome : CondOutcome) : Bool :=
  rule.effect == .forbid &&
    (outcome == .matched || conditionTouchesNonFiniteNumber rule.condition request)

def permitMatched (rule : PolicyRule) (outcome : CondOutcome) : Bool := rule.effect == .permit && outcome == .matched

/-- The rule part of `evaluate_v3`. -/
def evaluateRules (rules : List PolicyRule) (request : PayRequest φ) : Except DenyReason Unit :=
  match ruleOutcomes rules request with
  | none => .error .unknown
  | some outcomes =>
    if (rules.zip outcomes).any fun (rule, outcome) => forbidFires request rule outcome then
      .error .unknown
    else if rules.any (·.effect == .permit) ∧
        ((rules.zip outcomes).any fun (rule, outcome) => permitMatched rule outcome) = false then
      .error .unknown
    else .ok ()

def evaluateEmbedded (policy : PolicyV3 φ) (request : PayRequest φ) (clock : ℕ)
    (state : PolicyState φ) : Decision × PolicyState φ :=
  let (decision, after) := evaluate11Step request policy.v2.sessionKeyId clock { state with policy := some policy.v2 }
  (decision, { after with policy := state.policy })

def evaluateV3 (policy : PolicyV3 φ) (request : PayRequest φ) (clock : ℕ) (state : PolicyState φ) :
    Decision × PolicyState φ :=
  let (decision, after) := evaluateEmbedded policy request clock state
  if decision.isDeny then (decision, after)
  else match evaluateRules policy.rules request with
    | .error reason => (.deny reason, after)
    | .ok () => (decision, after)

/-! ## When the rules refuse -/

def PolicyRule.outcome (rule : PolicyRule) (request : PayRequest φ) : CondOutcome :=
  evaluateConditionOutcome request rule.condition 0

/-- Some condition is too deep, some forbid rule fires, or there are permit rules and none matched. -/
def RulesRefuse (rules : List PolicyRule) (request : PayRequest φ) : Prop :=
  (∃ rule ∈ rules, rule.outcome request = .depthExceeded) ∨
    (∃ rule ∈ rules, forbidFires request rule (rule.outcome request) = true) ∨
    (∃ rule ∈ rules, rule.effect = .permit) ∧ ∀ rule ∈ rules, permitMatched rule (rule.outcome request) = false

theorem ruleOutcomes_cons (rule : PolicyRule) (rules : List PolicyRule) (request : PayRequest φ) :
    ruleOutcomes (rule :: rules) request = if rule.outcome request = .depthExceeded then none
      else (ruleOutcomes rules request).map (rule.outcome request :: ·) := by
  rw [ruleOutcomes, mapM_cons, PolicyRule.outcome]
  rcases evaluateConditionOutcome request rule.condition 0 <;>
    cases h : ruleOutcomes rules request <;> simp_all [ruleOutcomes]

variable {rules : List PolicyRule} {request : PayRequest φ}

theorem ruleOutcomes_of_shallow (h : ∀ rule ∈ rules, rule.outcome request ≠ .depthExceeded) :
    ruleOutcomes rules request = some (rules.map (·.outcome request)) := by
  induction rules with
  | nil => rfl
  | cons rule _ ih =>
    rw [ruleOutcomes_cons, if_neg (h rule mem_cons_self), ih fun r hr => h r (mem_cons_of_mem _ hr)]
    rfl

theorem ruleOutcomes_of_deep (h : ∃ rule ∈ rules, rule.outcome request = .depthExceeded) :
    ruleOutcomes rules request = none := by
  induction rules with
  | nil => simp at h
  | cons rule rules ih =>
    rw [ruleOutcomes_cons]
    by_cases hrule : rule.outcome request = .depthExceeded
    · rw [if_pos hrule]
    · have hrest : ∃ r ∈ rules, r.outcome request = .depthExceeded := by
        obtain ⟨r, hr, hdeep⟩ := h
        rcases mem_cons.mp hr with rfl | hr
        · exact absurd hdeep hrule
        · exact ⟨r, hr, hdeep⟩
      rw [if_neg hrule, ih hrest]
      rfl

theorem zip_any (p : PolicyRule → CondOutcome → Bool) :
    ((rules.zip (rules.map (·.outcome request))).any fun (rule, outcome) => p rule outcome) =
      rules.any fun rule => p rule (rule.outcome request) := by
  rw [← map_prod_left_eq_zip, any_map]
  rfl

/-- **The rule part refuses exactly when one of its three reasons is there.** -/
theorem evaluateRules_eq (rules : List PolicyRule) (request : PayRequest φ)
    [Decidable (RulesRefuse rules request)] :
    evaluateRules rules request = if RulesRefuse rules request then .error .unknown else .ok () := by
  rw [evaluateRules]
  by_cases hdeep : ∃ rule ∈ rules, rule.outcome request = .depthExceeded
  · rw [ruleOutcomes_of_deep hdeep, if_pos (.inl hdeep)]
  · have hshallow : ∀ rule ∈ rules, rule.outcome request ≠ .depthExceeded :=
      fun rule hr h => hdeep ⟨rule, hr, h⟩
    simp only [ruleOutcomes_of_shallow hshallow, zip_any]
    by_cases hforbid : ∃ rule ∈ rules, forbidFires request rule (rule.outcome request) = true
    · rw [if_pos (any_eq_true.mpr hforbid), if_pos (.inr (.inl hforbid))]
    · rw [if_neg (mt any_eq_true.mp hforbid)]
      have hpermit : (rules.any (·.effect == .permit) = true ∧
          (rules.any fun rule => permitMatched rule (rule.outcome request)) = false) ↔
          RulesRefuse rules request := by
        rw [any_eq_true, any_eq_false, RulesRefuse]
        simp [hdeep, hforbid]
      by_cases hrefuse : RulesRefuse rules request
      · rw [if_pos (hpermit.mpr hrefuse), if_pos hrefuse]
      · rw [if_neg (mt hpermit.mp hrefuse), if_neg hrefuse]

/-! ## What a rule-level denial leaves behind -/

/-- The request passes the eleven steps under the embedded policy. -/
def Passes (policy : PolicyV3 φ) (request : PayRequest φ) (clock : ℕ) (state : PolicyState φ) : Prop :=
  Admitted request clock { state with policy := some policy.v2 }

variable {policy : PolicyV3 φ} {clock : ℕ} {state : PolicyState φ}

theorem evaluateEmbedded_of_passes (h : Passes policy request clock state) :
    evaluateEmbedded policy request clock state =
      (.allow, (slideAllWindows state (state.nowMs clock)).recordAllow request (state.nowMs clock)) := by
  rw [evaluateEmbedded, evaluate11Step_of_admitted _ h, PolicyState.recordAllow,
    PolicyState.recordAllow, if_pos h.1, if_pos h.1]
  rfl

theorem evaluateEmbedded_of_not_passes (h : ¬ Passes policy request clock state) :
    (evaluateEmbedded policy request clock state).1.isDeny = true ∧
      ((evaluateEmbedded policy request clock state).2.ledger = state.ledger ∨
        (evaluateEmbedded policy request clock state).2.ledger = state.ledger.slide (state.nowMs clock)) := by
  obtain ⟨reason, s, hs, heq⟩ := evaluate11Step_of_not_admitted policy.v2.sessionKeyId h
  rw [evaluateEmbedded, heq]
  refine ⟨rfl, ?_⟩
  have hledger : ∀ (after : PolicyState φ) p, ({ after with policy := p } : PolicyState φ).ledger =
      after.ledger := fun _ _ => rfl
  rw [hledger, ledger_recordDeny]
  rcases hs with rfl | rfl
  · exact .inl rfl
  · exact .inr rfl

/-- Spend is unchanged and each window lost nothing but entries older than its span. -/
structure Unspent (now : ℕ) (l l' : Ledger φ) : Prop where
  spent : l'.spent = l.spent
  minutely : OnlyExpiredLost id minuteMs now l.minutely l'.minutely
  hourly : OnlyExpiredLost id hourMs now l.hourly l'.hourly
  daily : OnlyExpiredLost Prod.fst dayMs now l.daily l'.daily
  monthly : OnlyExpiredLost Prod.fst monthMs now l.monthly l'.monthly

omit [FloatOps φ] in
theorem unspent_refl (now : ℕ) (l : Ledger φ) : Unspent now l l :=
  ⟨rfl, onlyExpiredLost_refl _ _, onlyExpiredLost_refl _ _, onlyExpiredLost_refl _ _, onlyExpiredLost_refl _ _⟩

omit [FloatOps φ] in
theorem unspent_slide (now : ℕ) (l : Ledger φ) : Unspent now l (l.slide now) :=
  ⟨rfl, onlyExpiredLost_slide _ _, onlyExpiredLost_slide _ _, onlyExpiredLost_slide _ _, onlyExpiredLost_slide _ _⟩

/-- **A denied request costs nothing, exactly unless it passes the eleven steps and the rules refuse
it.** -/
theorem deny_unspent_iff (policy : PolicyV3 φ) (request : PayRequest φ) (clock : ℕ)
    (state : PolicyState φ) :
    ((evaluateV3 policy request clock state).1.isDeny = true →
        Unspent (state.nowMs clock) state.ledger (evaluateV3 policy request clock state).2.ledger) ↔
      ¬ (Passes policy request clock state ∧ RulesRefuse policy.rules request) := by
  classical
  by_cases hpass : Passes policy request clock state
  · have heq := evaluateEmbedded_of_passes hpass
    have hledger : ((slideAllWindows state (state.nowMs clock)).recordAllow request (state.nowMs clock)).ledger =
        (state.ledger.slide (state.nowMs clock)).push request.amountUsd (state.nowMs clock) :=
      ledger_recordAllow _ _ hpass.1
    rw [evaluateV3, heq, evaluateRules_eq]
    by_cases hrefuse : RulesRefuse policy.rules request
    · simp only [hpass, hrefuse, and_self, not_true_eq_false, iff_false]
      intro h
      have hunspent : Unspent _ _ _ := hledger ▸ h rfl
      exact not_onlyExpiredLost_push (Nat.le_add_right _ minuteMs) _ hunspent.minutely
    · simp only [hrefuse, and_false, not_false_eq_true, iff_true]
      intro h
      exact absurd h Bool.false_ne_true
  · obtain ⟨hdeny, hledger⟩ := evaluateEmbedded_of_not_passes hpass
    simp only [hpass, false_and, not_false_eq_true, iff_true]
    intro _
    have hafter : (evaluateV3 policy request clock state).2 = (evaluateEmbedded policy request clock state).2 := by
      rw [evaluateV3]
      simp only [hdeny, if_true]
    rw [hafter]
    rcases hledger with hledger | hledger
    · rw [hledger]
      exact unspent_refl _ _
    · rw [hledger]
      exact unspent_slide _ _

/-! ## The rules as a boolean condition -/

mutual

/-- Plain truth: the composites are `and`, `or` and `not` over the leaves. -/
def RuleCondition.holds (request : PayRequest φ) : RuleCondition → Bool
  | .comparison field operator value => compareValues (getField request field) operator value
  | .membership field values => values.any (getField request field).sameJson
  | .all conditions => allHold request conditions
  | .any conditions => anyHolds request conditions
  | .not condition => !condition.holds request
  | .always value => value

def allHold (request : PayRequest φ) : List RuleCondition → Bool
  | [] => true
  | c :: rest => c.holds request && allHold request rest

def anyHolds (request : PayRequest φ) : List RuleCondition → Bool
  | [] => false
  | c :: rest => c.holds request || anyHolds request rest

end

/-- The condition has a node at a depth. -/
inductive NodeAt : ℕ → RuleCondition → Prop
  | root (c : RuleCondition) : NodeAt 0 c
  | part {d : ℕ} {c p : RuleCondition} : p ∈ c.parts → NodeAt d p → NodeAt (d + 1) c

/-- A condition that starts at a depth has a node past the limit. -/
def TooDeep (depth : ℕ) (c : RuleCondition) : Prop := ∃ d, NodeAt d c ∧ maxConditionDepth ≤ depth + d

variable {depth : ℕ} {c : RuleCondition} {cs : List RuleCondition}

theorem tooDeep_iff : TooDeep depth c ↔ maxConditionDepth ≤ depth ∨ ∃ p ∈ c.parts, TooDeep (depth + 1) p := by
  constructor
  · rintro ⟨d, hnode, hd⟩
    cases hnode with
    | root => exact .inl hd
    | part hp hnode => exact .inr ⟨_, hp, _, hnode, by omega⟩
  · rintro (h | ⟨p, hp, d, hnode, hd⟩)
    · exact ⟨0, .root c, h⟩
    · exact ⟨d + 1, .part hp hnode, by omega⟩

/-- The evaluator overflows on the conditions that are too deep and tells the truth of the others. -/
def Decided (request : PayRequest φ) (depth : ℕ) (c : RuleCondition) : Prop :=
  (TooDeep depth c → evaluateConditionOutcome request c depth = .depthExceeded) ∧
    (¬ TooDeep depth c → evaluateConditionOutcome request c depth = .ofBool (c.holds request))

theorem evaluateEach_of_deep {hit result : CondOutcome} (h : ∀ c ∈ cs, Decided request depth c)
    (hdeep : ∃ c ∈ cs, TooDeep depth c) : evaluateEach request hit cs depth result = .depthExceeded := by
  induction cs generalizing result with
  | nil => simp at hdeep
  | cons c cs ih =>
    obtain ⟨hc, hcs⟩ := forall_mem_cons.mp h
    rw [evaluateEach]
    by_cases hd : TooDeep depth c
    · rw [hc.1 hd]
    · have hrest : ∃ c ∈ cs, TooDeep depth c := by simpa [hd] using hdeep
      rw [hc.2 hd]
      cases c.holds request <;> exact ih hcs hrest

theorem evaluateEach_of_shallow (b r : Bool) (h : ∀ c ∈ cs, Decided request depth c)
    (hdeep : ¬ ∃ c ∈ cs, TooDeep depth c) : evaluateEach request (.ofBool b) cs depth (.ofBool r) =
      .ofBool (if ∃ c ∈ cs, c.holds request = b then b else r) := by
  induction cs generalizing r with
  | nil => simp [evaluateEach]
  | cons c cs ih =>
    obtain ⟨hc, hcs⟩ := forall_mem_cons.mp h
    simp only [mem_cons, exists_eq_or_imp, not_or] at hdeep ⊢
    rw [evaluateEach, hc.2 hdeep.1]
    -- the result after the first part
    cases hv : c.holds request <;> cases b <;> cases r <;> simp_all [CondOutcome.ofBool]

theorem allHold_eq : allHold request cs = if ∃ c ∈ cs, c.holds request = false then false else true := by
  induction cs with
  | nil => rfl
  | cons c cs ih => cases h : c.holds request <;> simp [allHold, ih, h]

theorem anyHolds_eq : anyHolds request cs = if ∃ c ∈ cs, c.holds request = true then true else false := by
  induction cs with
  | nil => rfl
  | cons c cs ih => cases h : c.holds request <;> simp [anyHolds, ih, h]

/-- **The three-valued evaluator is the boolean one, except past the depth limit.** -/
theorem condition_decided (request : PayRequest φ) (depth : ℕ) (c : RuleCondition) : Decided request depth c := by
  -- induction on the size, since the parts sit in lists
  induction hn : sizeOf c using Nat.strong_induction_on generalizing depth c with
  | _ n ih =>
    have hparts : ∀ p ∈ c.parts, Decided request (depth + 1) p :=
      fun p hp => ih _ (hn ▸ (le_sum_of_mem (mem_map_of_mem hp)).trans_lt (sum_sizeOf_parts_lt c)) _ _ rfl
    rw [Decided, tooDeep_iff]
    by_cases hd : maxConditionDepth ≤ depth
    · refine ⟨fun _ => ?_, fun h => absurd (.inl hd) h⟩
      cases c <;> rw [evaluateConditionOutcome, if_pos hd]
    · simp only [hd, false_or]
      cases c with
      | all conditions =>
        rw [evaluateConditionOutcome, if_neg hd, RuleCondition.holds, allHold_eq]
        exact ⟨evaluateEach_of_deep hparts, evaluateEach_of_shallow false true hparts⟩
      | any conditions =>
        rw [evaluateConditionOutcome, if_neg hd, RuleCondition.holds, anyHolds_eq]
        exact ⟨evaluateEach_of_deep hparts, evaluateEach_of_shallow true false hparts⟩
      | not condition =>
        obtain ⟨hdeep, hshallow⟩ := hparts condition mem_cons_self
        simp only [RuleCondition.parts, mem_singleton, exists_eq_left]
        rw [evaluateConditionOutcome, if_neg hd, RuleCondition.holds]
        refine ⟨fun h => by rw [hdeep h]; rfl, fun h => ?_⟩
        rw [hshallow h]
        cases condition.holds request <;> rfl
      | _ =>
        rw [evaluateConditionOutcome, if_neg hd]
        exact ⟨fun ⟨_, hp, _⟩ => by simp [RuleCondition.parts] at hp, fun _ => rfl⟩

theorem walkNonFinite_of_finite (h : isFinite request.amountUsd = true) (stack : List (RuleCondition × ℕ)) :
    walkNonFinite request stack = false := by
  fun_induction walkNonFinite request stack with
  | case1 => rfl
  | case2 _ _ _ _ ih | case4 _ _ _ _ _ ih => exact ih
  | case3 cond _ _ _ hreads => cases cond <;> simp [readsNonFinite, h] at hreads

/-- No condition is too deep, no forbid rule holds, and a permit rule holds when there are permit rules. -/
def RulesPermit (rules : List PolicyRule) (request : PayRequest φ) : Prop :=
  (∀ rule ∈ rules, ∀ d, NodeAt d rule.condition → d < maxConditionDepth) ∧
    (∀ rule ∈ rules, rule.effect = .forbid → rule.condition.holds request = false) ∧
    ((∃ rule ∈ rules, rule.effect = .permit) →
      ∃ rule ∈ rules, rule.effect = .permit ∧ rule.condition.holds request = true)

theorem not_rulesRefuse_iff (h : isFinite request.amountUsd = true) :
    ¬ RulesRefuse rules request ↔ RulesPermit rules request := by
  have hdecided rule := condition_decided request 0 (PolicyRule.condition rule)
  by_cases hdeep : ∃ rule ∈ rules, TooDeep 0 rule.condition
  · obtain ⟨rule, hr, hd⟩ := hdeep
    refine ⟨fun hnot => absurd (.inl ⟨rule, hr, (hdecided rule).1 hd⟩) hnot, fun hpermit => ?_⟩
    obtain ⟨d, hnode, hd⟩ := hd
    have hlt := hpermit.1 rule hr d hnode
    omega
  · have hshallow : ∀ rule ∈ rules, ∀ d, NodeAt d rule.condition → d < maxConditionDepth := by
      intro rule hr d hnode
      by_contra hd
      exact hdeep ⟨rule, hr, d, hnode, by omega⟩
    have houtcome : ∀ rule ∈ rules, rule.outcome request = .ofBool (rule.condition.holds request) :=
      fun rule hr => (hdecided rule).2 fun hd => hdeep ⟨rule, hr, hd⟩
    have hforbid : ∀ rule ∈ rules, (forbidFires request rule (rule.outcome request) = true ↔
        rule.effect = .forbid ∧ rule.condition.holds request = true) := by
      intro rule hr
      rw [forbidFires, conditionTouchesNonFiniteNumber, walkNonFinite_of_finite h, houtcome rule hr]
      cases rule.condition.holds request <;> simp [CondOutcome.ofBool]
    have hpermit : ∀ rule ∈ rules, (permitMatched rule (rule.outcome request) = false ↔
        ¬ (rule.effect = .permit ∧ rule.condition.holds request = true)) := by
      intro rule hr
      rw [permitMatched, houtcome rule hr]
      cases rule.condition.holds request <;> simp [CondOutcome.ofBool]
    have hnever : ¬ ∃ rule ∈ rules, rule.outcome request = .depthExceeded := by
      rintro ⟨rule, hr, hexceeded⟩
      rw [houtcome rule hr] at hexceeded
      cases hv : rule.condition.holds request <;> simp [CondOutcome.ofBool, hv] at hexceeded
    rw [RulesRefuse, RulesPermit, or_iff_right hnever, exists_congr fun rule => and_congr_right (hforbid rule),
      forall₂_congr hpermit, not_or, and_iff_right hshallow, not_and]
    refine and_congr (by simp) (imp_congr_right fun _ => by simp)

theorem evaluateV3_of_allow (h : (evaluateEmbedded policy request clock state).1 = .allow)
    [Decidable (RulesRefuse policy.rules request)] :
    (evaluateV3 policy request clock state).1 =
      if RulesRefuse policy.rules request then .deny .unknown else .allow := by
  rw [evaluateV3, evaluateRules_eq]
  simp only [h, Decision.isDeny, Bool.false_eq_true, if_false]
  split_ifs <;> simp

/-- **Past the eleven steps a request with a finite amount is allowed exactly when no rule is too deep, no forbid
rule is true and, if there are permit rules, one of them is true; the order of the rules does not matter.** -/
theorem evaluateV3_allow_iff (policy : PolicyV3 φ) (request : PayRequest φ) (clock : ℕ) (state : PolicyState φ)
    (hfinite : isFinite request.amountUsd = true) (hallow : (evaluateEmbedded policy request clock state).1 = .allow) :
    ((evaluateV3 policy request clock state).1 = .allow ↔ RulesPermit policy.rules request) ∧
      ∀ rules : List PolicyRule, rules.Perm policy.rules →
        (evaluateV3 { policy with rules } request clock state).1 = (evaluateV3 policy request clock state).1 := by
  classical
  rw [evaluateV3_of_allow hallow, ← not_rulesRefuse_iff hfinite]
  refine ⟨by split_ifs <;> simp [*], fun rules hperm => ?_⟩
  have hother : (evaluateEmbedded { policy with rules } request clock state).1 = .allow := hallow
  have hrules : RulesRefuse rules request ↔ RulesRefuse policy.rules request := by
    simp only [RulesRefuse, hperm.mem_iff]
  rw [evaluateV3_of_allow hother, if_congr hrules rfl rfl]

end

def forbidding : PolicyV3 ExactFloat := ⟨samplePolicy 0, [⟨"no", .forbid, .always true⟩]⟩

/-- A forbidden payment of 5 is denied and 5 are spent. -/
theorem forbidden_payment_spent :
    (evaluateV3 forbidding (samplePayment (.finite 5) 7).request 7 (PolicyState.new none)).1 = .deny .unknown ∧
      ¬ Unspent 7000 (PolicyState.new none).ledger (evaluateV3 forbidding
        (samplePayment (.finite 5) 7).request 7 (PolicyState.new none)).2.ledger := by
  refine ⟨by decide +kernel, fun h => ?_⟩
  have hspent : (evaluateV3 forbidding (samplePayment (.finite 5) 7).request 7
      (PolicyState.new none)).2.ledger.spent = .finite 5 := by decide +kernel
  have hzero : ExactFloat.finite 5 = .finite 0 := hspent.symm.trans h.spent
  exact absurd hzero (by decide +kernel)

theorem forbidding_denies :
    ¬ (evaluateV3 forbidding (samplePayment (.finite 5) 7).request 7 (PolicyState.new none)).1 = .allow ∧
      ¬ RulesPermit forbidding.rules (samplePayment (.finite 5) 7).request := by
  have hiff := (evaluateV3_allow_iff forbidding (samplePayment (.finite 5) 7).request 7 (PolicyState.new none) rfl
    (by decide +kernel)).1
  have hdenied : ¬ (evaluateV3 forbidding (samplePayment (.finite 5) 7).request 7 (PolicyState.new none)).1 =
    .allow := by decide +kernel
  exact ⟨hdenied, mt hiff.mpr hdenied⟩

end OneCipher.PolicyEngine
