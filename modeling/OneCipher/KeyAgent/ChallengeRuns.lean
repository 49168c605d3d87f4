import OneCipher.Base.Runs
import OneCipher.KeyAgent.PasskeyRuns

/-!
# OneCipher.KeyAgent.ChallengeRuns — the challenges of one verifier over time

Runs of `generate_challenge` and `verify` on a `PasskeyVerifier` (`oc-keyagent/src/passkey.rs`).  The
verifier is used through `&mut self`, so the calls come one after the other.  A pending challenge goes back
to the call that drew it; as long as no draw repeats an earlier one, no call extends the life of a challenge
or brings a used one back.
-/

namespace OneCipher.KeyAgent

open Runs List AList

/-- One call on a verifier, with the clock readings and the random draws it makes. -/
inductive ChallengeCall where
  | generate (clock : Nat → Nat) (draws : List Nonce)
  | verify (auth : PasskeyAuthorization) (clock : Nat → Nat)

def ChallengeCall.draws : ChallengeCall → List Nonce
  | .generate _ draws => draws
  | .verify _ _ => []

namespace PasskeyVerifier

variable (c : PasskeyCrypto)

def call (v : PasskeyVerifier) : ChallengeCall → PasskeyVerifier
  | .generate clock draws => (v.generateChallenge clock draws).2
  | .verify auth clock => (v.verify c clock auth).2

/-- A challenge that a proof would be accepted for at a time. -/
def Redeemable (v : PasskeyVerifier) (n : Nonce) (t : Nat) : Prop :=
  ∃ expiry, v.pendingChallenges.lookup n = some expiry ∧ t < expiry

variable {c} {v : PasskeyVerifier} {n : Nonce} {e : Nat}

/-! ## What a call can do -/

theorem lookup_sweepExpired {now : Nat} :
    (v.sweepExpired now).pendingChallenges.lookup n = some e ↔ v.pendingChallenges.lookup n = some e ∧ now < e := by
  rw [sweepExpired, Store.lookup_retain, decide_eq_true_iff, gt_iff_lt]

theorem lookup_addPending {m : Nonce} {expiresAt : Nat}
    (h : (v.addPending m expiresAt).pendingChallenges.lookup n = some e) :
    v.pendingChallenges.lookup n = some e ∨ n = m ∧ e = expiresAt := by
  by_cases hn : n = m
  · subst hn
    rw [addPending, lookup_insert] at h
    exact .inr ⟨rfl, (Option.some.inj h).symm⟩
  · rw [addPending, lookup_insert_ne hn] at h
    exact .inl h

theorem lookup_drawNonce {expiresAt : Nat} {draws : List Nonce}
    (h : (drawNonce expiresAt draws v).2.pendingChallenges.lookup n = some e) :
    v.pendingChallenges.lookup n = some e ∨ n ∈ draws ∧ e = expiresAt := by
  induction draws generalizing v with
  | nil => exact .inl h
  | cons m draws ih =>
    have hadd : (v.addPending m expiresAt).pendingChallenges.lookup n = some e →
        v.pendingChallenges.lookup n = some e ∨ n ∈ m :: draws ∧ e = expiresAt := by
      intro hadd
      rcases lookup_addPending hadd with hold | ⟨rfl, he⟩
      · exact .inl hold
      · exact .inr ⟨mem_cons_self, he⟩
    rw [drawNonce] at h
    split_ifs at h
    · rcases ih h with hold | ⟨hn, he⟩
      · exact hadd hold
      · exact .inr ⟨mem_cons_of_mem _ hn, he⟩
    · exact hadd h

theorem size_drawNonce_le (expiresAt : Nat) (draws : List Nonce) :
    (drawNonce expiresAt draws v).2.pendingChallenges.size ≤ v.pendingChallenges.size + 1 := by
  induction draws generalizing v with
  | nil => exact Nat.le_succ _
  | cons _ _ ih =>
    rw [drawNonce]
    split_ifs with hm
    · refine ih.trans (Nat.add_le_add_right ?_ 1)
      exact (Store.size_insert_of_mem hm expiresAt).le
    · exact (Store.size_insert_of_notMem hm expiresAt).le

theorem lookup_call {a : ChallengeCall} (h : (v.call c a).pendingChallenges.lookup n = some e) :
    v.pendingChallenges.lookup n = some e ∨
      ∃ clock draws, a = .generate clock draws ∧ n ∈ draws ∧ e = clock 1 + challengeTtlSecs := by
  cases a with
  | generate clock draws =>
    rw [call, generateChallenge] at h
    split_ifs at h
    · exact .inl (lookup_sweepExpired.mp h).1
    · rcases lookup_drawNonce h with hold | ⟨hn, he⟩
      · exact .inl (lookup_sweepExpired.mp hold).1
      · exact .inr ⟨clock, draws, rfl, hn, he⟩
  | verify auth clock =>
    left
    rcases verify_cases c clock auth v with ⟨hlen, e', -, -, -, -, -, heq⟩ | ⟨err, w, heq, rfl | rfl⟩ <;>
      rw [call, heq] at h
    · by_cases hn : n = ⟨auth.challenge, hlen⟩
      · rw [hn, lookup_erase] at h
        cases h
      · rw [lookup_erase_ne hn] at h
        exact (lookup_sweepExpired.mp h).1
    · exact h
    · exact (lookup_sweepExpired.mp h).1

theorem size_call_le (a : ChallengeCall) (h : v.pendingChallenges.size ≤ maxPendingChallenges) :
    (v.call c a).pendingChallenges.size ≤ maxPendingChallenges := by
  have hsweep : ∀ now, (v.sweepExpired now).pendingChallenges.size ≤ maxPendingChallenges :=
    fun now => (Store.size_retain_le _ _).trans h
  cases a with
  | generate clock draws =>
    rw [call, generateChallenge]
    split_ifs with hfull
    · exact hsweep _
    · have hdraw := size_drawNonce_le (v := v.sweepExpired (clock 0)) (clock 1 + challengeTtlSecs) draws
      omega
  | verify auth clock =>
    rcases verify_cases c clock auth v with ⟨hlen, e, -, -, -, -, -, heq⟩ | ⟨err, w, heq, rfl | rfl⟩ <;>
      rw [call, heq]
    · exact (Store.size_erase_le _ _).trans (hsweep _)
    · exact h
    · exact hsweep _

variable {clock : Nat → Nat} {auth : PasskeyAuthorization}

theorem redeemable_verify_error {err : PasskeyError} {t : Nat} (h : (v.verify c clock auth).1 = .error err)
    (ht : clock 0 ≤ t) :
    (v.verify c clock auth).2.Redeemable n t ↔ v.Redeemable n t := by
  rcases verify_cases c clock auth v with ⟨hlen, e, -, -, -, -, -, heq⟩ | ⟨err', w, heq, rfl | rfl⟩
  · rw [heq] at h
    cases h
  · rw [heq]
  · rw [heq]
    constructor
    · rintro ⟨e, hl, hlt⟩
      exact ⟨e, (lookup_sweepExpired.mp hl).1, hlt⟩
    · rintro ⟨e, hl, hlt⟩
      exact ⟨e, lookup_sweepExpired.mpr ⟨hl, Nat.lt_of_le_of_lt ht hlt⟩, hlt⟩

theorem generateChallenge_of_fresh {m : Nonce} {draws : List Nonce} (hfresh : v.pendingChallenges.lookup m = none)
    (hroom : ¬ (v.sweepExpired (clock 0)).pendingChallenges.size ≥ maxPendingChallenges) :
    v.generateChallenge clock (m :: draws) =
      (.ok m, (v.sweepExpired (clock 0)).addPending m (clock 1 + challengeTtlSecs)) := by
  have hnot : m ∉ (v.sweepExpired (clock 0)).pendingChallenges := by
    rw [← lookup_eq_none, Option.eq_none_iff_forall_ne_some]
    intro e he
    rw [(lookup_sweepExpired.mp he).1] at hfresh
    cases hfresh
  rw [generateChallenge, if_neg hroom, drawNonce, if_neg hnot]

/-! ## Runs -/

section Runs

variable {start : PasskeyVerifier} {calls : List ChallengeCall}

/-- Each accepted proof goes back to the call that returned its challenge, less than two minutes before, and is
the first one accepted for it. -/
def GoesBack (c : PasskeyCrypto) (start : PasskeyVerifier) (calls : List ChallengeCall) (auth : PasskeyAuthorization)
    (clock : Nat → Nat) : Prop :=
  (∃ before gclock draws later m, calls = before ++ .generate gclock draws :: later ∧
    ((after (call c) start before).generateChallenge gclock draws).1 = .ok m ∧ auth.challenge = m.1 ∧
    clock 1 < gclock 1 + challengeTtlSecs) ∧
  ∀ earlier auth' clock' rest, calls = earlier ++ .verify auth' clock' :: rest →
    auth'.challenge = auth.challenge → ((after (call c) start earlier).verify c clock' auth').1 ≠ .ok ()

theorem exists_generate (hstart : start.pendingChallenges.lookup n = none)
    (h : (after (call c) start calls).pendingChallenges.lookup n = some e) :
    ∃ before clock draws later, calls = before ++ .generate clock draws :: later ∧ n ∈ draws ∧
      e = clock 1 + challengeTtlSecs ∧ (after (call c) start before).pendingChallenges.lookup n ≠ some e ∧
      ∀ mid, mid <+: later →
        (after (call c) start (before ++ .generate clock draws :: mid)).pendingChallenges.lookup n = some e := by
  have hnot : ¬ start.pendingChallenges.lookup n = some e := by
    rw [hstart]
    exact Option.some_ne_none e ∘ Eq.symm
  obtain ⟨before, a, later, rfl, hbefore, hkept⟩ :=
    exists_last_change (P := fun v : PasskeyVerifier => v.pendingChallenges.lookup n = some e) hnot h
  have hset := hkept [] nil_prefix
  rw [after_snoc] at hset
  rcases lookup_call hset with hold | ⟨clock, draws, rfl, hn, he⟩
  · exact absurd hold hbefore
  · exact ⟨before, clock, draws, later, rfl, hn, he, hbefore, hkept⟩

theorem mem_draws_of_lookup (hstart : start.pendingChallenges.lookup n = none)
    (h : (after (call c) start calls).pendingChallenges.lookup n = some e) :
    n ∈ calls.flatMap ChallengeCall.draws := by
  obtain ⟨before, clock, draws, later, rfl, hn, -⟩ := exists_generate hstart h
  rw [mem_flatMap]
  exact ⟨.generate clock draws, mem_append_right _ mem_cons_self, hn⟩

theorem lookup_of_verify_ok (h : (v.verify c clock auth).1 = .ok ()) :
    ∃ m e, auth.challenge = m.1 ∧ v.pendingChallenges.lookup m = some e ∧ clock 1 < e ∧
      (v.call c (.verify auth clock)).pendingChallenges.lookup m = none := by
  rcases verify_cases c clock auth v with ⟨hlen, e, -, hl, -, hlive, -, heq⟩ | ⟨err, w, heq, -⟩
  · refine ⟨⟨auth.challenge, hlen⟩, e, rfl, hl, hlive, ?_⟩
    rw [call, heq]
    exact lookup_erase _ _
  · rw [heq] at h
    cases h

theorem goesBack_of_verify_ok (hstart : start.pendingChallenges = ∅)
    (hdraws : (calls.flatMap ChallengeCall.draws).Nodup)
    (h : ((after (call c) start calls).verify c clock auth).1 = .ok ()) : GoesBack c start calls auth clock := by
  have hnone : ∀ m, start.pendingChallenges.lookup m = none := by
    intro m
    rw [hstart, lookup_empty]
  obtain ⟨m, e, hm, hl, hlive, -⟩ := lookup_of_verify_ok h
  obtain ⟨before, gclock, draws, later, rfl, hmem, he, hbefore, hkept⟩ := exists_generate (hnone m) hl
  -- what is drawn here is drawn nowhere else
  rw [flatMap_append, nodup_append] at hdraws
  obtain ⟨-, -, hapart⟩ := hdraws
  have hdrawn : ∀ d ∈ draws, ∀ e', (after (call c) start before).pendingChallenges.lookup d ≠ some e' := by
    intro d hd e' hold
    refine hapart d (mem_draws_of_lookup (hnone d) hold) d ?_ rfl
    exact mem_flatMap.mpr ⟨_, mem_cons_self, hd⟩
  have hset := hkept [] nil_prefix
  rw [after_snoc] at hset
  constructor
  · refine ⟨before, gclock, draws, later, m, rfl, ?_, hm, he ▸ hlive⟩
    rcases draws with _ | ⟨d, draws⟩
    · exact absurd hmem not_mem_nil
    have hfresh : (after (call c) start before).pendingChallenges.lookup d = none := by
      rw [Option.eq_none_iff_forall_ne_some]
      exact hdrawn d mem_cons_self
    have hroom : ¬ ((after (call c) start before).sweepExpired (gclock 0)).pendingChallenges.size ≥
        maxPendingChallenges := by
      intro hfull
      rw [call, generateChallenge, if_pos hfull] at hset
      exact hbefore (lookup_sweepExpired.mp hset).1
    rw [call, generateChallenge_of_fresh hfresh hroom] at hset
    rw [generateChallenge_of_fresh hfresh hroom]
    rcases lookup_addPending hset with hold | ⟨rfl, -⟩
    · exact absurd (lookup_sweepExpired.mp hold).1 hbefore
    · rfl
  · intro earlier auth' clock' rest hsplit hsame hok
    obtain ⟨m', e', hm', hl', -, hgone⟩ := lookup_of_verify_ok hok
    obtain rfl : m' = m := Subtype.ext (hm'.symm.trans (hsame.trans hm))
    rcases append_eq_append_iff.mp hsplit with ⟨mid, rfl, htail⟩ | ⟨mid, rfl, htail⟩
    · -- after the call that drew it the challenge stays pending, so no proof was accepted for it
      rcases mid with _ | ⟨a, mid⟩
      · cases htail
      · cases htail
        have hstill := hkept (mid ++ [.verify auth' clock']) ⟨rest, by rw [append_assoc]; rfl⟩
        rw [← cons_append, ← append_assoc, after_snoc, hgone] at hstill
        cases hstill
    · -- before that call it was not drawn yet
      rw [flatMap_append] at hapart
      refine hapart m' ?_ m' (mem_flatMap.mpr ⟨_, mem_cons_self, hmem⟩) rfl
      exact mem_append_left _ (mem_draws_of_lookup (hnone m') hl')

/-- **A challenge authorizes at most one proof**, within two minutes of the call that returned it; a refused proof
leaves what is redeemable as it was, and there are never more than 256 challenges. -/
theorem challenge_authorizes_once (c : PasskeyCrypto) (pubkey : PasskeyPubkey) (credentialId : Bytes)
    (calls : List ChallengeCall) (hdraws : (calls.flatMap ChallengeCall.draws).Nodup) :
    (∀ pre post, calls = pre ++ post →
      (after (call c) (new pubkey credentialId) pre).pendingChallenges.size ≤ maxPendingChallenges) ∧
    ∀ pre auth clock post, calls = pre ++ .verify auth clock :: post →
      (((after (call c) (new pubkey credentialId) pre).verify c clock auth).1 = .ok () →
        GoesBack c (new pubkey credentialId) pre auth clock) ∧
      ∀ err, ((after (call c) (new pubkey credentialId) pre).verify c clock auth).1 = .error err →
        ∀ n t, clock 0 ≤ t → (((after (call c) (new pubkey credentialId) pre).verify c clock auth).2.Redeemable n t ↔
          (after (call c) (new pubkey credentialId) pre).Redeemable n t) := by
  constructor
  · intro pre post _
    exact after_invariant (I := fun v : PasskeyVerifier => v.pendingChallenges.size ≤ maxPendingChallenges)
      (fun v a h => size_call_le a h) (Nat.zero_le _)
  · rintro pre auth clock post rfl
    rw [flatMap_append] at hdraws
    refine ⟨goesBack_of_verify_ok rfl hdraws.of_append_left, ?_⟩
    intro err herr n t ht
    exact redeemable_verify_error herr ht

def twoProofs : List ChallengeCall :=
  [.generate (fun _ => 1000) [⟨List.replicate 32 7, length_sevens⟩], .verify (proofBy 1) (fun _ => 1001),
    .verify (proofBy 1) (fun _ => 1002)]

theorem challenge_authorizes_once_twoProofs :
    ((after (call echoCrypto) (new (.ed25519 (List.replicate 32 1)) (Text.utf8 "cred")) (twoProofs.take 1)).verify
      echoCrypto (fun _ => 1001) (proofBy 1)).1 = .ok () ∧
    GoesBack echoCrypto (new (.ed25519 (List.replicate 32 1)) (Text.utf8 "cred")) (twoProofs.take 1) (proofBy 1)
      (fun _ => 1001) := by
  have hok : ((after (call echoCrypto) (new (.ed25519 (List.replicate 32 1)) (Text.utf8 "cred"))
      (twoProofs.take 1)).verify echoCrypto (fun _ => 1001) (proofBy 1)).1 = .ok () := by decide +kernel
  refine ⟨hok, ((challenge_authorizes_once echoCrypto _ _ twoProofs ?_).2 _ _ _
    [.verify (proofBy 1) (fun _ => 1002)] rfl).1 hok⟩
  decide +kernel

end Runs

end PasskeyVerifier

end OneCipher.KeyAgent
