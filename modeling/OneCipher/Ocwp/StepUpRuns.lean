import OneCipher.Base.Runs
import OneCipher.Ocwp.State

/-!
# OneCipher.Ocwp.StepUpRuns — step-up challenges over any schedule

`StepUpStore` of `wallet_rpc/ocwp/mod.rs` under concurrent calls.  The map is a `DashMap`: `insert` and `remove_if`
are atomic, `retain` locks one shard after the other.  So an `issue` is a number of sweeps, each over some of the
keys, and then an insertion, and a `consume` is one step (`issueActs`); calls interleave at these steps.
-/

namespace OneCipher.Ocwp

open Runs AList List

/-! ## The steps -/

/-- One atomic step on the map. -/
inductive StepUpAct where
  /-- `retain` on the keys of one shard. -/
  | sweep (shard : String → Bool) (now : Nat)
  | insert (challengeHex sessionId credentialId : String) (now : Nat)
  | consume (challengeHex sessionId : String) (now : Nat)

namespace StepUpStore

def sweep (shard : String → Bool) (now : Nat) (s : StepUpStore) : StepUpStore :=
  s.retain fun c b => !shard c || b.expiresAt > now

def act (s : StepUpStore) : StepUpAct → StepUpStore
  | .sweep shard now => s.sweep shard now
  | .insert c sessionId credentialId now => AList.insert c ⟨sessionId, credentialId, now + stepUpTtlSecs⟩ s
  | .consume c sessionId now => (s.consume now c sessionId).2

/-- The steps of one `issue`. -/
def issueActs (shards : List (String → Bool)) (now : Nat) (challengeHex sessionId credentialId : String) :
    List StepUpAct :=
  shards.map (.sweep · now) ++ [.insert challengeHex sessionId credentialId now]

theorem issue_eq_after (now : Nat) (challengeHex sessionId credentialId : String) (s : StepUpStore) :
    s.issue now challengeHex sessionId credentialId =
      after act s (issueActs [fun _ => true] now challengeHex sessionId credentialId) := by
  rfl

abbrev afterActs (acts : List StepUpAct) : StepUpStore := after act ∅ acts

/-! ## What a step can do to a binding -/

theorem consume_cases (now : Nat) (c sessionId : String) (s : StepUpStore) :
    (∃ b, s.lookup c = some b ∧ now < b.expiresAt ∧ b.sessionId = sessionId ∧
      s.consume now c sessionId = (some b, AList.erase c s)) ∨ s.consume now c sessionId = (none, s) := by
  unfold consume
  rcases hl : AList.lookup c s with _ | b
  · exact .inr rfl
  · dsimp only
    split_ifs with hdead
    · exact .inr rfl
    · rw [not_or, not_le, not_not] at hdead
      exact .inl ⟨b, rfl, hdead.1, hdead.2, rfl⟩

variable {s : StepUpStore} {sessionId : String}

theorem lookup_act {a : StepUpAct} {c : String} {b : StepUpBinding} (h : AList.lookup c (s.act a) = some b) :
    AList.lookup c s = some b ∨
      ∃ cred now, a = .insert c b.sessionId cred now ∧ b = ⟨b.sessionId, cred, now + stepUpTtlSecs⟩ := by
  cases a with
  | sweep => exact .inl (Store.lookup_retain.mp h).1
  | insert c' _ cred now =>
    by_cases hc : c = c'
    · subst hc
      rw [act, lookup_insert] at h
      cases h
      exact .inr ⟨cred, now, rfl, rfl⟩
    · rw [act, lookup_insert_ne hc] at h
      exact .inl h
  | consume c' sessionId now =>
    left
    rcases consume_cases now c' sessionId s with ⟨b', -, -, -, heq⟩ | heq <;> rw [act, heq] at h
    · by_cases hc : c = c'
      · rw [hc, lookup_erase] at h
        cases h
      · rwa [lookup_erase_ne hc] at h
    · exact h

theorem lookup_of_redeemed {c : String} {now : Nat} {b : StepUpBinding} (h : (s.consume now c sessionId).1 = some b) :
    AList.lookup c (s.act (.consume c sessionId now)) = none := by
  rcases consume_cases now c sessionId s with ⟨b', -, -, -, heq⟩ | heq
  · rw [act, heq]
    exact lookup_erase c s
  · rw [heq] at h
    cases h

/-! ## One redemption per issue -/

/-- The redemption of `b` at the end of a schedule goes back to an issue to the session that makes it: the
binding is the issued one, it is not expired, and nobody redeemed the challenge since. -/
def GoesBack (acts : List StepUpAct) (c sessionId : String) (now : Nat) (b : StepUpBinding) : Prop :=
  ∃ before cred issued later, acts = before ++ .insert c sessionId cred issued :: later ∧
    b = ⟨sessionId, cred, issued + stepUpTtlSecs⟩ ∧ now < issued + stepUpTtlSecs ∧
    ∀ mid sessionId' now' rest, later = mid ++ .consume c sessionId' now' :: rest →
      ((afterActs (before ++ .insert c sessionId cred issued :: mid)).consume now' c sessionId').1 = none

theorem redeemed_goesBack {acts : List StepUpAct} {c : String} {now : Nat} {b : StepUpBinding}
    (h : ((afterActs acts).consume now c sessionId).1 = some b) : GoesBack acts c sessionId now b := by
  obtain ⟨hlookup, hnow, hsession⟩ := consume_eq_some h
  have hempty : ¬ AList.lookup c (∅ : StepUpStore) = some b := by
    nofun
  obtain ⟨before, a, later, rfl, hbefore, hkept⟩ :=
    exists_last_change (P := fun s : StepUpStore => AList.lookup c s = some b) hempty hlookup
  have hset := hkept [] nil_prefix
  rw [after_snoc] at hset
  rcases lookup_act hset with hold | ⟨cred, issued, rfl, hb⟩
  · exact absurd hold hbefore
  rw [hsession] at hb
  rw [hsession] at hkept ⊢
  have hlive : now < issued + stepUpTtlSecs := by
    rw [hb] at hnow
    exact hnow
  refine ⟨before, cred, issued, later, rfl, hb, hlive, ?_⟩
  -- the binding stays in the map until the end, so no one took it in between
  rintro mid sessionId' now' rest rfl
  rcases hnone : ((afterActs (before ++ .insert c sessionId cred issued :: mid)).consume now' c sessionId').1 with
    _ | taken
  · rfl
  · have hgone := lookup_of_redeemed hnone
    have hstill := hkept (mid ++ [.consume c sessionId' now']) ⟨rest, by rw [append_assoc]; rfl⟩
    rw [← cons_append, ← append_assoc, after_snoc, hgone] at hstill
    cases hstill

/-! ## Other sessions -/

/-- Two maps agree on the bindings of every session but one. -/
def AgreeBut (sessionId : String) (s t : StepUpStore) : Prop :=
  ∀ c b, b.sessionId ≠ sessionId → (AList.lookup c s = some b ↔ AList.lookup c t = some b)

theorem agreeBut_consume (c sessionId : String) (now : Nat) (s : StepUpStore) :
    AgreeBut sessionId (s.act (.consume c sessionId now)) s := by
  intro c' b hb
  rcases consume_cases now c sessionId s with ⟨b', hl, -, hs, heq⟩ | heq <;> rw [act, heq]
  by_cases hc : c' = c
  · subst hc
    rw [lookup_erase, hl]
    constructor
    · nofun
    · intro h
      cases h
      exact absurd hs hb
  · rw [lookup_erase_ne hc]

theorem AgreeBut.consume {sessionId' : String} {t : StepUpStore} (h : AgreeBut sessionId s t)
    (hne : sessionId' ≠ sessionId) (now : Nat) (c : String) :
    (s.consume now c sessionId').1 = (t.consume now c sessionId').1 := by
  have hiff : ∀ (u : StepUpStore) b, (u.consume now c sessionId').1 = some b ↔
      AList.lookup c u = some b ∧ now < b.expiresAt ∧ b.sessionId = sessionId' := by
    intro u b
    refine ⟨consume_eq_some, ?_⟩
    rintro ⟨hl, hnow, hs⟩
    have hlive : ¬ (b.expiresAt ≤ now ∨ b.sessionId ≠ sessionId') := by
      rw [not_or, not_le, not_not]
      exact ⟨hnow, hs⟩
    rw [StepUpStore.consume, hl]
    dsimp only
    rw [if_neg hlive]
  refine Option.ext fun b => ?_
  rw [hiff, hiff]
  refine and_congr_left fun hlive => h c b ?_
  rw [hlive.2]
  exact hne

theorem AgreeBut.act {t : StepUpStore} (h : AgreeBut sessionId s t) (a : StepUpAct) :
    AgreeBut sessionId (s.act a) (t.act a) := by
  intro c b hb
  cases a with
  | sweep =>
    rw [StepUpStore.act, StepUpStore.act, sweep, sweep, Store.lookup_retain, Store.lookup_retain, h c b hb]
  | insert c' =>
    by_cases hc : c = c'
    · subst hc
      rw [StepUpStore.act, StepUpStore.act, lookup_insert, lookup_insert]
    · rw [StepUpStore.act, StepUpStore.act, lookup_insert_ne hc, lookup_insert_ne hc, h c b hb]
  | consume c' sessionId' now =>
    by_cases hs : sessionId' = sessionId
    · subst hs
      rw [agreeBut_consume c' sessionId' now s c b hb, agreeBut_consume c' sessionId' now t c b hb, h c b hb]
    · have hanswer := h.consume hs now c'
      rw [StepUpStore.act, StepUpStore.act]
      rcases consume_cases now c' sessionId' s with ⟨b', -, -, -, heq⟩ | heq <;>
        rcases consume_cases now c' sessionId' t with ⟨b'', -, -, -, heq'⟩ | heq' <;>
        rw [heq, heq'] at hanswer ⊢
      · by_cases hc : c = c'
        · rw [hc, lookup_erase, lookup_erase]
        · rw [lookup_erase_ne hc, lookup_erase_ne hc, h c b hb]
      · cases hanswer
      · cases hanswer
      · exact h c b hb

/-- **A step-up challenge is redeemed at most once**, by the session it was issued to and before it expires; and
a consumption attempt changes no later answer to another session. -/
theorem stepUp_redeemed_once (acts : List StepUpAct) (c sessionId : String) (now : Nat) :
    (∀ b, ((afterActs acts).consume now c sessionId).1 = some b → GoesBack acts c sessionId now b) ∧
    ∀ later sessionId' c' now', sessionId' ≠ sessionId →
      ((afterActs (acts ++ .consume c sessionId now :: later)).consume now' c' sessionId').1 =
        ((afterActs (acts ++ later)).consume now' c' sessionId').1 := by
  refine ⟨fun b => redeemed_goesBack, fun later sessionId' c' now' hne => ?_⟩
  have hagree : AgreeBut sessionId (afterActs (acts ++ .consume c sessionId now :: later))
      (afterActs (acts ++ later)) := by
    rw [afterActs, afterActs, after_append, after_append, after_cons]
    exact after_related (fun s t a h => h.act a) (agreeBut_consume c sessionId now _)
  exact hagree.consume hne now' c'

-- a stranger's attempt fails and leaves the challenge to its session
example : ((afterActs [.insert "c" "a" "key" 10, .consume "c" "b" 15]).consume 20 "c" "a").1 =
    some ⟨"a", "key", 130⟩ := by decide

end StepUpStore

end OneCipher.Ocwp
