import Mathlib.Algebra.Order.BigOperators.Group.List
import OneCipher.Policy.V2

/-!
# OneCipher.Policy.Runs — rate limits and spending caps over whole runs

A run is a sequence of `evaluate11Step` calls on one state, each with its clock reading.  While the
clock does not go back, the four windows hold exactly what is left of the history of allowed calls
(`Tracks`), so whatever a step checked when it allowed a call was checked against that history
(`admits_when_allowed`).  The caps on every trailing interval follow by `trailing_of_capped`.
-/

namespace OneCipher.PolicyEngine

open FloatOps Window
open ExactFloat (add_finite)

/-! ## Runs -/

structure Call (φ : Type) where
  request : PayRequest φ
  sessionKeyId : String
  clock : ℕ

/-- A call with the decision it got. -/
structure Record (φ : Type) where
  call : Call φ
  decision : Decision

structure Run (φ : Type) where
  state : PolicyState φ
  records : List (Record φ)

/-- The clock does not go back. -/
def Nondecreasing {φ : Type} (calls : List (Call φ)) : Prop := calls.Pairwise fun a b => a.clock ≤ b.clock

def allowed {φ : Type} (records : List (Record φ)) : List (Call φ) :=
  (records.filter (·.decision = .allow)).map (·.call)

variable {span : ℕ}

section

variable {φ : Type} [FloatOps φ]

def Run.step (r : Run φ) (c : Call φ) : Run φ where
  state := (evaluate11Step c.request c.sessionKeyId c.clock r.state).2
  records := r.records ++ [⟨c, (evaluate11Step c.request c.sessionKeyId c.clock r.state).1⟩]

variable (policy : Option (PolicyV2 φ))

/-- The run of `calls` from a fresh state. -/
def run (calls : List (Call φ)) : Run φ := calls.foldl Run.step ⟨PolicyState.new policy, []⟩

theorem run_concat (calls : List (Call φ)) (c : Call φ) : run policy (calls ++ [c]) = (run policy calls).step c := by
  rw [run, List.foldl_concat]
  rfl

variable {c : Call φ} {calls h : List (Call φ)}

theorem allowed_step_allow {r : Run φ} (h : (evaluate11Step c.request c.sessionKeyId c.clock r.state).1 = .allow) :
    allowed (r.step c).records = allowed r.records ++ [c] := by
  simp [Run.step, allowed, h]

theorem allowed_step_refuse {r : Run φ} (h : (evaluate11Step c.request c.sessionKeyId c.clock r.state).1 ≠ .allow) :
    allowed (r.step c).records = allowed r.records := by
  simp [Run.step, allowed, h]

/-! ## What no call changes -/

theorem recordAllow_policy (s : PolicyState φ) (req : PayRequest φ) (nowMs : ℕ) :
    (s.recordAllow req nowMs).policy = s.policy ∧ (s.recordAllow req nowMs).nowOverride = s.nowOverride := by
  unfold PolicyState.recordAllow
  split <;> exact ⟨rfl, rfl⟩

theorem evaluate11Step_policy (req : PayRequest φ) (key : String) (clock : ℕ) (s : PolicyState φ) :
    (evaluate11Step req key clock s).2.policy = s.policy ∧
      (evaluate11Step req key clock s).2.nowOverride = s.nowOverride := by
  by_cases h : Admitted req clock s
  · rw [evaluate11Step_of_admitted key h]
    exact recordAllow_policy _ _ _
  · obtain ⟨reason, s', hs', heq⟩ := evaluate11Step_of_not_admitted key h
    rw [heq]
    rcases hs' with rfl | rfl <;>
    · unfold PolicyState.recordDeny
      dsimp only
      split <;> exact ⟨rfl, rfl⟩

theorem run_policy (calls : List (Call φ)) :
    (run policy calls).state.policy = policy ∧ (run policy calls).state.nowOverride = none := by
  induction calls using List.reverseRecOn with
  | nil => exact ⟨rfl, rfl⟩
  | append_singleton calls c ih =>
    rw [run_concat]
    obtain ⟨hp, ho⟩ := evaluate11Step_policy c.request c.sessionKeyId c.clock (run policy calls).state
    exact ⟨hp.trans ih.1, ho.trans ih.2⟩

/-! ## Windows and history -/

namespace Call

def stamp (c : Call φ) : ℕ := toMs c.clock

def time (c : Call φ) : ℕ := c.clock * 1000

def entry (c : Call φ) : ℕ × φ := (c.stamp, c.request.amountUsd)

omit [FloatOps φ] in
theorem stamp_sub_le (a b : Call φ) : b.stamp - a.stamp ≤ b.time - a.time := by
  unfold stamp time toMs saturatingMul
  omega

end Call

/-- The ledger is that of the history `h` of allowed calls, its windows slid at `n`. -/
structure Tracks (n : ℕ) (l : Ledger φ) (h : List (Call φ)) : Prop where
  spent : l.spent = sum (h.map (·.request.amountUsd))
  minutely : Holds id minuteMs Call.stamp n l.minutely h
  hourly : Holds id hourMs Call.stamp n l.hourly h
  daily : Holds Prod.fst dayMs Call.entry n l.daily h
  monthly : Holds Prod.fst monthMs Call.entry n l.monthly h

theorem Tracks.slide {n m : ℕ} {l : Ledger φ} (ht : Tracks n l h) (hnm : n ≤ m) : Tracks m (l.slide m) h :=
  ⟨ht.spent, ht.minutely.slide hnm, ht.hourly.slide hnm, ht.daily.slide hnm, ht.monthly.slide hnm⟩

theorem Tracks.push {l : Ledger φ} (ht : Tracks c.stamp l h) :
    Tracks c.stamp (l.push c.request.amountUsd c.stamp) (h ++ [c]) where
  spent := by
    show add l.spent c.request.amountUsd = _
    rw [ht.spent, FloatOps.sum, FloatOps.sum, List.map_append, List.map_singleton, List.foldl_concat]
  minutely := ht.minutely.push rfl
  hourly := ht.hourly.push rfl
  daily := ht.daily.push rfl
  monthly := ht.monthly.push rfl

omit [FloatOps φ] in
theorem nowMs_of_none {s : PolicyState φ} (h : s.nowOverride = none) (clock : ℕ) : s.nowMs clock = toMs clock := by
  rw [PolicyState.nowMs, PolicyState.nowUnix, h]
  rfl

theorem Tracks.step {n : ℕ} {r : Run φ} (ht : Tracks n r.state.ledger (allowed r.records)) (hn : n ≤ c.stamp)
    (ho : r.state.nowOverride = none) :
    ∃ m ≤ c.stamp, Tracks m (r.step c).state.ledger (allowed (r.step c).records) := by
  have hms : r.state.nowMs c.clock = c.stamp := nowMs_of_none ho c.clock
  by_cases h : Admitted c.request c.clock r.state
  · refine ⟨c.stamp, le_rfl, ?_⟩
    rw [allowed_step_allow (evaluate11Step_allow_iff.mpr h), Run.step, evaluate11Step_of_admitted c.sessionKeyId h]
    rw [ledger_recordAllow _ _ h.1, ledger_slideAllWindows, hms]
    exact (ht.slide hn).push
  · obtain ⟨reason, s, hs, heq⟩ := evaluate11Step_of_not_admitted c.sessionKeyId h
    rw [allowed_step_refuse (mt evaluate11Step_allow_iff.mp h), Run.step, heq, ledger_recordDeny]
    rcases hs with rfl | rfl
    · exact ⟨n, hn, ht⟩
    · rw [ledger_slideAllWindows, hms]
      exact ⟨c.stamp, le_rfl, ht.slide hn⟩

omit [FloatOps φ] in
theorem nondecreasing_concat : Nondecreasing (calls ++ [c]) ↔ Nondecreasing calls ∧ ∀ a ∈ calls, a.clock ≤ c.clock := by
  rw [Nondecreasing, List.pairwise_append]
  simp [Nondecreasing]

omit [FloatOps φ] in
theorem stamp_le_stamp {a b : Call φ} (h : a.clock ≤ b.clock) : a.stamp ≤ b.stamp := by
  unfold Call.stamp toMs saturatingMul
  omega

theorem run_tracks (h : Nondecreasing calls) :
    ∃ n, Tracks n (run policy calls).state.ledger (allowed (run policy calls).records) ∧
      ∀ c : Call φ, (∀ a ∈ calls, a.clock ≤ c.clock) → n ≤ c.stamp := by
  induction calls using List.reverseRecOn with
  | nil => exact ⟨0, ⟨rfl, holds_nil 0, holds_nil 0, holds_nil 0, holds_nil 0⟩, fun c _ => Nat.zero_le _⟩
  | append_singleton calls c ih =>
    rw [nondecreasing_concat] at h
    obtain ⟨n, ht, hn⟩ := ih h.1
    rw [run_concat]
    obtain ⟨m, hm, ht'⟩ := ht.step (hn c h.2) (run_policy policy calls).2
    exact ⟨m, ht', fun d hd => hm.trans (stamp_le_stamp (hd c (by simp)))⟩

/-- **Every allowed call was checked against the history before it**: it passed all steps in a state
that holds the ledger of the calls allowed before. -/
theorem admits_when_allowed {policy : PolicyV2 φ} (h : Nondecreasing calls) {p : List (Call φ)}
    (hp : p ++ [c] <+: allowed (run (some policy) calls).records) :
    isValidAmount c.request.amountUsd = true ∧
      ∃ s : PolicyState φ, Tracks c.stamp s.ledger p ∧ Admits policy c.request c.clock s := by
  induction calls using List.reverseRecOn with
  | nil => exact absurd (List.prefix_nil.mp hp) (by simp)
  | append_singleton calls d ih =>
    rw [nondecreasing_concat] at h
    rw [run_concat] at hp
    by_cases hd : Admitted d.request d.clock (run (some policy) calls).state
    · rw [allowed_step_allow (evaluate11Step_allow_iff.mpr hd)] at hp
      rcases List.prefix_concat_iff.mp hp with heq | hpre
      · -- the call in question is the last one: the run so far is its history
        obtain ⟨hph, hcd⟩ := List.append_inj' heq rfl
        obtain rfl : c = d := by simpa using hcd
        obtain ⟨hvalid, policy', hpolicy, hadmits⟩ := hd
        obtain ⟨hrun, ho⟩ := run_policy (some policy) calls
        obtain rfl : policy = policy' := Option.some.inj (hrun.symm.trans hpolicy)
        obtain ⟨n, ht, hn⟩ := run_tracks (some policy) h.1
        rw [nowMs_of_none ho, PolicyState.nowUnix, ho] at hadmits
        refine ⟨hvalid, _, ?_, hadmits⟩
        rw [hph, ledger_slideAllWindows]
        exact ht.slide (hn c h.2)
      · exact ih h.1 hpre
    · rw [allowed_step_refuse (mt evaluate11Step_allow_iff.mp hd)] at hp
      exact ih h.1 hp

omit [FloatOps φ] in
theorem trailing_of_pushed {P : List (Call φ) → Prop} (hsub : ∀ l l' : List (Call φ), l.Sublist l' → P l' → P l)
    (hnil : P []) (hpush : ∀ p c, p ++ [c] <+: h → P (slide Call.stamp span c.stamp p ++ [c])) (t : ℕ) :
    P (trailing Call.time span t h) := by
  refine trailing_of_capped Call.stamp_sub_le hsub hnil ?_ t
  intro p c hp
  rw [slide_concat (Nat.le_add_right _ _)]
  exact hpush p c hp

/-! ## Rate limits -/

omit [FloatOps φ] in
theorem trailing_length_le {limit : ℕ}
    (hfree : ∀ p c, p ++ [c] <+: h → (slide Call.stamp span c.stamp p).length < limit) (t : ℕ) :
    (trailing Call.time span t h).length ≤ limit := by
  refine trailing_of_pushed (P := fun l => l.length ≤ limit)
    (fun l l' hl hle => hl.length_le.trans hle) (Nat.zero_le _) ?_ t
  intro p c hp
  rw [List.length_append, List.length_singleton]
  exact hfree p c hp

/-- **No trailing minute and no trailing hour of a run holds more allowed calls than its limit.** -/
theorem rate_limits_hold (policy : PolicyV2 φ) {calls : List (Call φ)} (h : Nondecreasing calls)
    (t : ℕ) :
    (trailing Call.time minuteMs t (allowed (run (some policy) calls).records)).length ≤
        policy.rules.rateLimitPerMinute ∧
      (trailing Call.time hourMs t (allowed (run (some policy) calls).records)).length ≤
        policy.rules.rateLimitPerHour := by
  constructor
  · apply trailing_length_le
    intro p c hp
    obtain ⟨-, s, ht, hadmits⟩ := admits_when_allowed h hp
    have hfree := hadmits.minuteFree
    rwa [show s.minutelyWindow.length = _ from ht.minutely.length_eq] at hfree
  · apply trailing_length_le
    intro p c hp
    obtain ⟨-, s, ht, hadmits⟩ := admits_when_allowed h hp
    have hfree := hadmits.hourFree
    rwa [show s.hourlyWindow.length = _ from ht.hourly.length_eq] at hfree

end

/-! ## A sample policy -/

def samplePolicy (cooldown : ℕ) : PolicyV2 ExactFloat where
  sessionKeyId := "sk"
  deviceId := "dev"
  rules :=
    { maxSingleAmountUsd := .finite 10, maxDailyAmountUsd := .finite 15,
      maxMonthlyAmountUsd := .finite 20, expiryUnix := 2 ^ 64 - 1, rateLimitPerMinute := 1,
      rateLimitPerHour := 2, cooldownAfterDenialSec := cooldown, assetWhitelist := [],
      chainWhitelist := [], contractWhitelist := [] }
  allocatedUsd := .finite 20

def samplePayment (amount : ExactFloat) (clock : ℕ) : Call ExactFloat :=
  ⟨⟨"sk", "dev", amount, "USDC", "eip155:8453", none⟩, "sk", clock⟩

def samplePair : List (Call ExactFloat) := [samplePayment (.finite 5) 7, samplePayment (.finite 5) 7]

theorem nondecreasing_samplePair : Nondecreasing samplePair := by
  unfold Nondecreasing
  decide

/-- Of the pair one is allowed. -/
theorem rate_limits_hold_sample :
    (allowed (run (some (samplePolicy 0)) samplePair).records).length = 1 ∧
      (trailing Call.time minuteMs 7000 (allowed (run (some (samplePolicy 0)) samplePair).records)).length ≤ 1 :=
  ⟨by decide +kernel, (rate_limits_hold (samplePolicy 0) nondecreasing_samplePair 7000).1⟩

/-! ## Spending caps -/

theorem isValidAmount_iff {x : ExactFloat} : isValidAmount x = true ↔ ∃ q, x = .finite q ∧ 0 ≤ q := by
  rw [isValidAmount, Bool.and_eq_true, ExactFloat.isFinite_iff]
  constructor
  · rintro ⟨⟨q, rfl⟩, hle⟩
    exact ⟨q, rfl, ExactFloat.le_finite.mp hle⟩
  · rintro ⟨q, rfl, hle⟩
    exact ⟨⟨q, rfl⟩, ExactFloat.le_finite.mpr hle⟩

def epsilon : ℚ := 1 / 10 ^ 9

theorem usdEpsilon_eq : (usdEpsilon : ExactFloat) = .finite epsilon := by decide +kernel

namespace Call

def usd (c : Call ExactFloat) : ℚ := c.request.amountUsd.toRat

end Call

def total (l : List (Call ExactFloat)) : ℚ := (l.map Call.usd).sum

theorem total_concat (l : List (Call ExactFloat)) (c : Call ExactFloat) : total (l ++ [c]) = total l + c.usd := by
  rw [total, List.map_append, List.sum_append, List.map_singleton, List.sum_singleton]
  rfl

theorem trailing_total_le {h : List (Call ExactFloat)} {cap : ℚ} (hnonneg : ∀ c ∈ h, 0 ≤ c.usd)
    (hfits : ∀ p c, p ++ [c] <+: h → total (slide Call.stamp span c.stamp p) + c.usd ≤ cap) (t : ℕ) :
    total (trailing Call.time span t h) ≤ max 0 cap := by
  refine (trailing_of_pushed (P := fun l => (∀ c ∈ l, 0 ≤ c.usd) ∧ total l ≤ max 0 cap)
    ?_ ⟨by simp, le_max_left 0 cap⟩ ?_ t).2
  · rintro l l' hl ⟨hnn, hle⟩
    exact ⟨fun c hc => hnn c (hl.subset hc), ((hl.map Call.usd).sum_le_sum (by simpa using hnn)).trans hle⟩
  · intro p c hp
    constructor
    · have hsub : (slide Call.stamp span c.stamp p ++ [c]).Sublist h :=
        ((slide_sublist _ p).append_right [c]).trans hp.sublist
      exact fun d hd => hnonneg d (hsub.subset hd)
    · rw [total_concat]
      exact (hfits p c hp).trans (le_max_right 0 cap)

/-- The finite limits of a policy. -/
structure Limits where
  allocated : ℚ
  daily : ℚ
  monthly : ℚ
  single : ℚ

/-- The policy's limits are the given numbers. -/
structure PolicyV2.HasLimits (policy : PolicyV2 ExactFloat) (limits : Limits) : Prop where
  allocated : policy.allocatedUsd = .finite limits.allocated
  daily : policy.rules.maxDailyAmountUsd = .finite limits.daily
  monthly : policy.rules.maxMonthlyAmountUsd = .finite limits.monthly
  single : policy.rules.maxSingleAmountUsd = .finite limits.single

section Caps

variable {policy : PolicyV2 ExactFloat} {calls : List (Call ExactFloat)}

theorem usd_of_allowed (h : Nondecreasing calls) {c : Call ExactFloat}
    (hc : c ∈ allowed (run (some policy) calls).records) :
    c.request.amountUsd = .finite c.usd ∧ 0 ≤ c.usd := by
  obtain ⟨p, q, hpq⟩ := List.append_of_mem hc
  have hpre : p ++ [c] <+: allowed (run (some policy) calls).records := ⟨q, by rw [hpq]; simp⟩
  obtain ⟨a, ha, hnonneg⟩ := isValidAmount_iff.mp (admits_when_allowed h hpre).1
  rw [Call.usd, ha]
  exact ⟨rfl, hnonneg⟩

theorem sum_amounts {l : List (Call ExactFloat)} (h : ∀ c ∈ l, c.request.amountUsd = .finite c.usd) :
    sum (l.map (·.request.amountUsd)) = .finite (total l) := by
  rw [ExactFloat.sum_finite, List.map_map]
  · rfl
  · intro x hx
    obtain ⟨c, hc, rfl⟩ := List.mem_map.mp hx
    exact ExactFloat.isFinite_iff.mpr ⟨c.usd, h c hc⟩

theorem Headroom.total_le {n : ℕ} {w : List (ℕ × ExactFloat)} {p : List (Call ExactFloat)} {cap : ℚ}
    {amount : ExactFloat} {a : ℚ} (hroom : Headroom w (.finite cap) amount)
    (hw : Holds Prod.fst span Call.entry n w p) (ha : amount = .finite a)
    (hp : ∀ c ∈ p, c.request.amountUsd = .finite c.usd) :
    total (slide Call.stamp span n p) + a ≤ cap + epsilon := by
  have hsum : sum (w.map Prod.snd) = .finite (total (slide Call.stamp span n p)) := by
    rw [show w = _ from hw, List.map_map]
    exact sum_amounts fun c hc => hp c ((slide_sublist n p).subset hc)
  have hfits := hroom.fits
  rw [hsum, ha, usdEpsilon_eq, add_finite, add_finite] at hfits
  exact ExactFloat.lt_finite_eq_false.mp hfits

/-- **Spending caps.**  In every run from a fresh state with finite limits and a clock that does not
go back: the spend counter is the sum of the allowed amounts; that sum stays within the budget, the
amounts allowed in any trailing day and any trailing 30 days within their caps, each up to the
tolerance and never below zero; and no allowed amount is above the single cap. -/
theorem spend_caps_hold {limits : Limits} (hlimits : policy.HasLimits limits)
    (h : Nondecreasing calls) :
    (run (some policy) calls).state.localSpentUsd = .finite (total (allowed (run (some policy) calls).records)) ∧
      total (allowed (run (some policy) calls).records) ≤ max 0 (limits.allocated + epsilon) ∧
      (∀ t, total (trailing Call.time dayMs t (allowed (run (some policy) calls).records)) ≤
          max 0 (limits.daily + epsilon) ∧
        total (trailing Call.time monthMs t (allowed (run (some policy) calls).records)) ≤
          max 0 (limits.monthly + epsilon)) ∧
      ∀ c ∈ allowed (run (some policy) calls).records,
        c.request.amountUsd = .finite c.usd ∧ c.usd ≤ limits.single := by
  set spends := allowed (run (some policy) calls).records with hspends
  have husd : ∀ c ∈ spends, c.request.amountUsd = .finite c.usd := fun c hc => (usd_of_allowed h hc).1
  have hnonneg : ∀ c ∈ spends, 0 ≤ c.usd := fun c hc => (usd_of_allowed h hc).2
  have hpast : ∀ p c, p ++ [c] <+: spends → ∀ d ∈ p, d.request.amountUsd = .finite d.usd :=
    fun p c hp d hd => husd d (hp.subset (List.mem_append_left _ hd))
  refine ⟨?_, ?_, fun t => ⟨?_, ?_⟩, ?_⟩
  · obtain ⟨n, ht, -⟩ := run_tracks (some policy) h
    have hspent := ht.spent
    rw [← hspends, sum_amounts husd] at hspent
    exact hspent
  · -- the budget was checked when the last amount was allowed
    rcases List.eq_nil_or_concat spends with hnil | ⟨p, c, hpc⟩
    · rw [hnil]
      exact le_max_left 0 _
    · have hpre : p ++ [c] <+: spends := by rw [hpc, List.concat_eq_append]
      obtain ⟨-, s, ht, hadmits⟩ := admits_when_allowed h hpre
      have hp := hpast p c hpre
      have hc := husd c (hpre.subset (by simp))
      have hspent : s.localSpentUsd = .finite (total p) := ht.spent.trans (sum_amounts hp)
      have hfits := hadmits.budgetFits
      rw [hspent, hc, hlimits.allocated, usdEpsilon_eq, add_finite, add_finite] at hfits
      rw [hpc, List.concat_eq_append, total_concat]
      exact (ExactFloat.lt_finite_eq_false.mp hfits).trans (le_max_right 0 _)
  · refine trailing_total_le hnonneg (fun p c hp => ?_) t
    obtain ⟨-, s, ht, hadmits⟩ := admits_when_allowed h hp
    have hroom := hadmits.daily
    rw [hlimits.daily] at hroom
    exact hroom.total_le ht.daily (husd c (hp.subset (by simp))) (hpast p c hp)
  · refine trailing_total_le hnonneg (fun p c hp => ?_) t
    obtain ⟨-, s, ht, hadmits⟩ := admits_when_allowed h hp
    have hroom := hadmits.monthly
    rw [hlimits.monthly] at hroom
    exact hroom.total_le ht.monthly (husd c (hp.subset (by simp))) (hpast p c hp)
  · intro c hc
    refine ⟨husd c hc, ?_⟩
    obtain ⟨p, q, hpq⟩ := List.append_of_mem hc
    obtain ⟨-, s, -, hadmits⟩ := admits_when_allowed h (p := p) (c := c) ⟨q, by rw [← hspends, hpq]; simp⟩
    have hfits := hadmits.singleFits
    rw [hlimits.single, husd c hc] at hfits
    exact ExactFloat.lt_finite_eq_false.mp hfits

end Caps

theorem samplePolicy_hasLimits (cooldown : ℕ) : (samplePolicy cooldown).HasLimits ⟨20, 15, 20, 10⟩ :=
  ⟨rfl, rfl, rfl, rfl⟩

theorem spend_caps_hold_sample :
    (run (some (samplePolicy 0)) samplePair).state.localSpentUsd = .finite 5 ∧
      total (allowed (run (some (samplePolicy 0)) samplePair).records) ≤ max 0 (20 + epsilon) :=
  ⟨by decide +kernel, (spend_caps_hold (samplePolicy_hasLimits 0) nondecreasing_samplePair).2.1⟩

def overdrawnPolicy : PolicyV2 ExactFloat := { samplePolicy 0 with allocatedUsd := .finite (-1) }

/-- The fresh state of a policy with a budget below zero is above that budget. -/
theorem fresh_above_negative_budget :
    overdrawnPolicy.HasLimits ⟨-1, 15, 20, 10⟩ ∧ Nondecreasing ([] : List (Call ExactFloat)) ∧
      (run (some overdrawnPolicy) []).state.localSpentUsd = .finite 0 ∧ ¬ (0 : ℚ) ≤ -1 + epsilon := by
  refine ⟨⟨rfl, rfl, rfl, rfl⟩, List.Pairwise.nil, rfl, ?_⟩
  norm_num [epsilon]

end OneCipher.PolicyEngine
