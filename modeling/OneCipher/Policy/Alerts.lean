import Mathlib.Data.List.DropRight
import OneCipher.Policy.Runs

/-!
# OneCipher.Policy.Alerts — denial streaks, alerts and the cooldown

What the alert sink hears and when the cooldown bites, over whole runs.  The streak and the last denial are read
off the records of a run; `StreakInv` ties them to the counter, the reason list and the second the state remembers.
-/

namespace OneCipher.PolicyEngine

open FloatOps List

/-! ## Streaks -/

section Streaks

variable {φ : Type} {records : List (Record φ)}

def streak (records : List (Record φ)) : List DenyReason :=
  ((records.map (·.decision)).rtakeWhile Decision.isDeny).filterMap Decision.denyReason

def lastDeny (records : List (Record φ)) : Option (Record φ) := (records.filter (·.decision.isDeny)).getLast?

theorem streak_deny (records : List (Record φ)) (c : Call φ) (reason : DenyReason) :
    streak (records ++ [⟨c, .deny reason⟩]) = streak records ++ [reason] := by
  rw [streak, map_append, map_singleton, rtakeWhile_concat_pos _ _ _ rfl, filterMap_append]
  rfl

theorem length_streak_deny (records : List (Record φ)) (c : Call φ) (reason : DenyReason) :
    (streak (records ++ [⟨c, .deny reason⟩])).length = (streak records).length + 1 := by
  rw [streak_deny, length_append, length_singleton]

theorem streak_allow (records : List (Record φ)) (c : Call φ) : streak (records ++ [⟨c, .allow⟩]) = [] := by
  rw [streak, map_append, map_singleton, rtakeWhile_concat_neg _ _ _ (by exact Bool.false_ne_true)]
  rfl

theorem lastDeny_deny (records : List (Record φ)) (c : Call φ) (reason : DenyReason) :
    lastDeny (records ++ [⟨c, .deny reason⟩]) = some ⟨c, .deny reason⟩ := by
  simp [lastDeny, Decision.isDeny]

end Streaks

/-! ## What a run promises -/

section

variable {φ : Type} [FloatOps φ]

variable (policy : Option (PolicyV2 φ))

/-- The sink hears of the last call of a run exactly when that call was a denial whose number in its
streak is a multiple of three, and then it hears the last three reasons. -/
def Notified (pre : List (Call φ)) (c : Call φ) : Prop :=
  let reasons := streak (run policy (pre ++ [c])).records
  if reasons ≠ [] ∧ 3 ∣ reasons.length then
    ∃ alert, (run policy (pre ++ [c])).state.alerts = (run policy pre).state.alerts ++ [alert] ∧
      alert.denyReasons = reasons.drop (reasons.length - 3)
  else (run policy (pre ++ [c])).state.alerts = (run policy pre).state.alerts

/-- If the last call of a run is allowed, the last denial is at least a cooldown ago. -/
def CooledDown (pre : List (Call φ)) (c : Call φ) : Prop :=
  (evaluate11Step c.request c.sessionKeyId c.clock (run policy pre).state).1 = .allow →
    ∀ p ∈ policy, ∀ d ∈ lastDeny (run policy pre).records,
      saturatingAdd d.call.clock p.rules.cooldownAfterDenialSec ≤ c.clock

/-- Alerts, counter and cooldown are right at every point of the run of `calls`. -/
structure Supervised (policy : Option (PolicyV2 φ)) (calls : List (Call φ)) : Prop where
  alerts : ∀ pre c, pre ++ [c] <+: calls → Notified policy pre c
  counter : ∀ pre, pre <+: calls → (run policy pre).state.consecutiveDenyCounter < 3
  cooldown : ∀ pre c, pre ++ [c] <+: calls → CooledDown policy pre c

/-! ## The invariant -/

/-- What the state remembers of the denials. -/
structure StreakInv (s : PolicyState φ) (records : List (Record φ)) : Prop where
  counter : s.consecutiveDenyCounter = (streak records).length % 3
  reasons : s.lastDenyReasons = (streak records).drop ((streak records).length - (streak records).length % 3)
  lastDeny : s.lastDenyAtUnix = (lastDeny records).map fun d => toMs d.call.clock / 1000

variable {s : PolicyState φ} {records : List (Record φ)}

omit [FloatOps φ] in
theorem StreakInv.slide (h : StreakInv s records) (nowMs : ℕ) : StreakInv (slideAllWindows s nowMs) records :=
  ⟨h.counter, h.reasons, h.lastDeny⟩

theorem StreakInv.recordAllow {c : Call φ} (h : StreakInv s records)
    (hvalid : isValidAmount c.request.amountUsd = true) (nowMs : ℕ) :
    StreakInv (s.recordAllow c.request nowMs) (records ++ [⟨c, .allow⟩]) := by
  rw [PolicyState.recordAllow, if_pos hvalid]
  constructor
  · rw [streak_allow]
    rfl
  · rw [streak_allow]
    rfl
  · simpa [PolicyEngine.lastDeny, Decision.isDeny] using h.lastDeny

theorem drop_concat {α : Type} (l : List α) (x : α) {k : ℕ} (hk : 0 < k) (hl : k ≤ l.length + 1) :
    (l ++ [x]).drop ((l ++ [x]).length - k) = l.drop (l.length - (k - 1)) ++ [x] := by
  rw [length_append, length_singleton]
  rw [show l.length + 1 - k = l.length - (k - 1) by omega]
  exact drop_append_of_le_length (Nat.sub_le _ _)

omit [FloatOps φ] in
theorem StreakInv.pushReason_eq (h : StreakInv s records) (c : Call φ) (reason : DenyReason) :
    PolicyState.pushReason s.lastDenyReasons reason =
      (streak (records ++ [⟨c, .deny reason⟩])).drop
        ((streak (records ++ [⟨c, .deny reason⟩])).length - ((streak records).length % 3 + 1)) := by
  have hlen : s.lastDenyReasons.length = (streak records).length % 3 := by
    rw [h.reasons, length_drop]
    omega
  have hshort : ¬ 3 < (s.lastDenyReasons ++ [reason]).length := by
    rw [length_append, length_singleton]
    omega
  rw [PolicyState.pushReason, if_neg hshort, streak_deny, drop_concat _ _ (Nat.succ_pos _) (by omega), h.reasons]
  rfl

omit [FloatOps φ] in
theorem StreakInv.recordDeny (h : StreakInv s records) (c : Call φ) (reason : DenyReason) (key : String) :
    StreakInv (s.recordDeny reason key (toMs c.clock)) (records ++ [⟨c, .deny reason⟩]) := by
  have hcounter := h.counter
  have hpush := h.pushReason_eq c reason
  have hlen := length_streak_deny records c reason
  unfold PolicyState.recordDeny
  dsimp only
  split
  · -- the third of its group: the state forgets the group
    next hthree =>
    constructor
    · show 0 = _
      omega
    · show [] = _
      rw [hlen, show ((streak records).length + 1) % 3 = 0 by omega, Nat.sub_zero, ← hlen, drop_length]
    · rw [lastDeny_deny]
      rfl
  · next hthree =>
    constructor
    · show (s.consecutiveDenyCounter + 1) % 2 ^ 32 = _
      omega
    · show PolicyState.pushReason s.lastDenyReasons reason = _
      rw [hpush, show (streak records).length % 3 + 1 = (streak (records ++ [⟨c, .deny reason⟩])).length % 3 by omega]
    · rw [lastDeny_deny]
      rfl

omit [FloatOps φ] in
theorem StreakInv.alerts_recordDeny (h : StreakInv s records) (c : Call φ) (reason : DenyReason) (key : String)
    (nowMs : ℕ) :
    if 3 ∣ (streak (records ++ [⟨c, .deny reason⟩])).length then
      ∃ alert, (s.recordDeny reason key nowMs).alerts = s.alerts ++ [alert] ∧
        alert.denyReasons = (streak (records ++ [⟨c, .deny reason⟩])).drop
          ((streak (records ++ [⟨c, .deny reason⟩])).length - 3)
    else (s.recordDeny reason key nowMs).alerts = s.alerts := by
  have hcounter := h.counter
  have hpush := h.pushReason_eq c reason
  have hlen := length_streak_deny records c reason
  unfold PolicyState.recordDeny
  by_cases hthree : (s.consecutiveDenyCounter + 1) % 2 ^ 32 = 3
  · rw [if_pos (by omega), if_pos hthree]
    refine ⟨_, rfl, ?_⟩
    rw [hpush, show (streak records).length % 3 + 1 = 3 by omega]
  · rw [if_neg (by omega), if_neg hthree]

/-! ## Steps and runs -/

theorem StreakInv.step {r : Run φ} (h : StreakInv r.state r.records)
    (ho : r.state.nowOverride = none) (c : Call φ) :
    StreakInv (r.step c).state (r.step c).records := by
  rw [Run.step]
  by_cases hc : Admitted c.request c.clock r.state
  · rw [evaluate11Step_of_admitted c.sessionKeyId hc]
    exact (h.slide _).recordAllow hc.1 _
  · obtain ⟨reason, s, hs, heq⟩ := evaluate11Step_of_not_admitted c.sessionKeyId hc
    rw [heq, nowMs_of_none ho]
    rcases hs with rfl | rfl
    · exact h.recordDeny c reason c.sessionKeyId
    · exact (h.slide _).recordDeny c reason c.sessionKeyId

theorem run_streakInv (calls : List (Call φ)) : StreakInv (run policy calls).state (run policy calls).records := by
  induction calls using List.reverseRecOn with
  | nil => exact ⟨rfl, rfl, rfl⟩
  | append_singleton calls c ih =>
    rw [run_concat]
    exact ih.step (run_policy policy calls).2 c

theorem notified (pre : List (Call φ)) (c : Call φ) : Notified policy pre c := by
  have hinv := run_streakInv policy pre
  unfold Notified
  rw [run_concat, Run.step]
  by_cases hc : Admitted c.request c.clock (run policy pre).state
  · rw [evaluate11Step_of_admitted c.sessionKeyId hc, streak_allow, if_neg (by simp),
      PolicyState.recordAllow, if_pos hc.1]
    rfl
  · obtain ⟨reason, s, hs, heq⟩ := evaluate11Step_of_not_admitted c.sessionKeyId hc
    have hsome : streak ((run policy pre).records ++ [⟨c, .deny reason⟩]) ≠ [] := by
      rw [streak_deny]
      simp
    rw [heq]
    simp only [ne_eq, hsome, not_false_eq_true, true_and]
    rcases hs with rfl | rfl
    · exact hinv.alerts_recordDeny c reason _ _
    · exact (hinv.slide _).alerts_recordDeny c reason _ _

def lastExactSecond : ℕ := u64Max / 1000

theorem toMs_div {n : ℕ} (h : n ≤ lastExactSecond) : toMs n / 1000 = n := by
  unfold lastExactSecond u64Max at h
  unfold toMs saturatingMul u64Max
  omega

theorem run_calls (calls : List (Call φ)) : (run policy calls).records.map (·.call) = calls := by
  induction calls using List.reverseRecOn with
  | nil => rfl
  | append_singleton _ _ ih =>
    rw [run_concat, Run.step, map_append, ih]
    rfl

theorem cooledDown {policy : Option (PolicyV2 φ)} {pre : List (Call φ)} (c : Call φ)
    (h : ∀ a ∈ pre, a.clock ≤ lastExactSecond) : CooledDown policy pre c := by
  intro hallow p hp d hd
  obtain ⟨-, p', hp', hadmits⟩ := evaluate11Step_allow_iff.mp hallow
  obtain ⟨hpolicy, ho⟩ := run_policy policy pre
  obtain rfl : p = p' := Option.some.inj ((hpolicy.trans hp).symm.trans hp')
  have hexact : d.call.clock ≤ lastExactSecond := by
    apply h
    rw [← run_calls policy pre]
    exact mem_map_of_mem (mem_filter.mp (List.mem_of_getLast? hd)).1
  have hremembered : (run policy pre).state.lastDenyAtUnix = some d.call.clock := by
    rw [(run_streakInv policy pre).lastDeny, show lastDeny _ = some d from hd, Option.map_some, toMs_div hexact]
  have hcooled := hadmits.cooled d.call.clock hremembered
  rwa [PolicyState.nowUnix, ho] at hcooled

theorem supervised {policy : Option (PolicyV2 φ)} {calls : List (Call φ)}
    (h : ∀ c ∈ calls, c.clock ≤ lastExactSecond) : Supervised policy calls where
  alerts pre c _ := notified policy pre c
  counter pre _ := by
    rw [(run_streakInv policy pre).counter]
    exact Nat.mod_lt _ (by decide)
  cooldown _ c hpre := cooledDown c fun a ha => h a (hpre.subset (mem_append_left _ ha))

end

/-! ## The horizon -/

def lateCalls : List (Call ExactFloat) :=
  [samplePayment .nan (lastExactSecond + 1), samplePayment (.finite 5) (lastExactSecond + 1)]

theorem nondecreasing_lateCalls : Nondecreasing lateCalls := by
  unfold Nondecreasing
  decide

theorem not_cooledDown_late :
    ¬ CooledDown (some (samplePolicy 1)) [samplePayment .nan (lastExactSecond + 1)]
      (samplePayment (.finite 5) (lastExactSecond + 1)) := by
  intro h
  have hallow : (evaluate11Step (samplePayment (.finite 5) (lastExactSecond + 1)).request "sk"
      (lastExactSecond + 1) (run (some (samplePolicy 1))
        [samplePayment .nan (lastExactSecond + 1)]).state).1 = .allow := by
    decide +kernel
  have hlate := h hallow (samplePolicy 1) rfl
    ⟨samplePayment .nan (lastExactSecond + 1), .deny .invalidAmount⟩ rfl
  exact absurd hlate (by decide)

/-- **Alerts, counter and cooldown are right in every run whose clock stays within the horizon,
exactly when the horizon is at most the last exact second.** -/
theorem supervised_iff (horizon : ℕ) :
    (∀ (φ : Type) [FloatOps φ] (policy : Option (PolicyV2 φ)) (calls : List (Call φ)),
      Nondecreasing calls → (∀ c ∈ calls, c.clock ≤ horizon) → Supervised policy calls) ↔
      horizon ≤ lastExactSecond := by
  constructor
  · intro h
    by_contra hfar
    have hwithin : ∀ c ∈ lateCalls, c.clock ≤ horizon := by
      intro c hc
      have hclock : c.clock = lastExactSecond + 1 := by
        simp only [lateCalls, mem_cons, not_mem_nil, or_false] at hc
        rcases hc with rfl | rfl <;> rfl
      omega
    have hsup := h ExactFloat (some (samplePolicy 1)) lateCalls nondecreasing_lateCalls hwithin
    exact not_cooledDown_late (hsup.cooldown _ _ prefix_rfl)
  · intro hle φ _ policy calls _ hwithin
    exact supervised fun c hc => (hwithin c hc).trans hle

/-- A payment is allowed in the second of a denial although the cooldown is one second. -/
theorem cooldown_cut_short : Nondecreasing lateCalls ∧ ¬ Supervised (some (samplePolicy 1)) lateCalls :=
  ⟨nondecreasing_lateCalls, fun h => not_cooledDown_late (h.cooldown _ _ prefix_rfl)⟩

end OneCipher.PolicyEngine
