import OneCipher.Base.Session
import OneCipher.Wallet.PolicyStore

/-!
# OneCipher.Wallet.PolicyCrash — saving a policy over an older one

`save_policy` of `oc-wallet/src/policy_store.rs` writes the policy file first and its signature sidecar second.
Both writes are atomic; a crash between them leaves the new policy next to the signature of the old one.
`savePolicy_crash_safe_iff` says when a policy survives that.

The JSON writer, the random seed and Ed25519 signing are a parameter (`PolicySigner`).
-/

namespace OneCipher.Wallet

open Prog Session Result
open Text (utf8 hexEncode)
open List (replicate)

/-- One atomic file write. -/
inductive PolicyWrite where
  | policies (path : String) (contents : Bytes)
  | signingKey (seed : Bytes)

/-- What is read of the vault after a write; `loadPolicy` never lists the directory. -/
def PolicyVault.write (v : PolicyVault) : PolicyWrite → PolicyVault
  | .policies path b =>
    { v with policies := { v.policies with file := Function.update v.policies.file path (.contents b) } }
  | .signingKey seed => { v with signingKey := .contents seed }

structure PolicySigner where
  toVecPretty : Policy → Bytes
  sign : Bytes → Bytes → Bytes
  fillSeed : Except String Bytes

section Save

variable (s : PolicySigner)

abbrev Saving (α : Type) := Prog (Session PolicyVault PolicyWrite) OcWalletError α

def loadOrGenerateSigningKey : Saving Bytes := do
  let v ← look PolicyVault.write fun v => .ok v
  if v.signingKey.exists then lift (v.readSigningKey.mapError fun e => .err (.invalidInput e))
  else do
    let seed ← lift (s.fillSeed.mapError fun e => .err (.invalidInput ("generate signing key: " ++ e)))
    perform (.signingKey seed)
    return seed

def savePolicy (policy : Policy) : Saving Unit := do
  look PolicyVault.write fun v => (v.policies.create.elim (.ok ()) fun e => .error (.err (.io e)))
  let path := PolicyVault.policyPath policy.id
  let json := s.toVecPretty policy
  perform (.policies path json)
  let key ← loadOrGenerateSigningKey s
  perform (.policies (PolicyVault.sidecarPath path) (utf8 (hexEncode (s.sign key json))))

end Save

namespace PolicyVault

variable {v : PolicyVault} {id : String}

/-! ## Loading a signed policy -/

theorem sidecarPath_ne (path : String) : sidecarPath path ≠ path := by
  intro h
  have hlen := congrArg String.length h
  simp [sidecarPath, String.length_append] at hlen

theorem loadPolicy_of_sidecar {b : Bytes} (hc : v.policies.create = none)
    (hf : v.policies.file (policyPath id) = .contents b)
    (hs : (v.policies.file (sidecarPath (policyPath id))).exists = true) :
    v.loadPolicy id = do
      v.verifySidecar (policyPath id) b
      let policy ← (v.parsePolicy b).mapError .json
      return ⟨policy, true⟩ := by
  simp only [loadPolicy, hc, hf, hs]
  rfl

theorem loadPolicy_signed {policy : Policy} (h : v.loadPolicy id = .ok ⟨policy, true⟩) :
    v.policies.create = none ∧ (v.policies.file (sidecarPath (policyPath id))).exists = true ∧
      ∃ b, v.policies.file (policyPath id) = .contents b ∧ v.verifySidecar (policyPath id) b = .ok () := by
  obtain ⟨b, hf, -⟩ := loadPolicy_ok h
  cases hc : v.policies.create with
  | some => simp [loadPolicy, hc] at h
  | none =>
    cases hs : (v.policies.file (sidecarPath (policyPath id))).exists with
    | true =>
      rw [loadPolicy_of_sidecar hc hf hs] at h
      obtain ⟨_, hverify, -⟩ := bind_eq_ok.mp h
      exact ⟨rfl, rfl, b, hf, hverify⟩
    | false =>
      -- an unsigned policy is not reported as signed
      simp only [loadPolicy, hc, hf, hs] at h
      obtain ⟨_, -, h⟩ := bind_eq_ok.mp h
      obtain ⟨_, -, h⟩ := bind_eq_ok.mp h
      cases h

theorem verifySidecar_eq_ok {path : String} {b : Bytes} :
    v.verifySidecar path b = .ok () ↔ v.signingKey.exists = true ∧ ∃ seed sig, v.readSigningKey = .ok seed ∧
      sidecarSignature (v.policies.file (sidecarPath path)) = .ok sig ∧ v.verifySeed seed b sig = .ok () := by
  unfold verifySidecar
  rw [mapError_eq_ok]
  cases hk : v.signingKey.exists with
  | false => simp [throw, throwThe, MonadExceptOf.throw, bind, Except.bind]
  | true =>
    simp only [Bool.not_true, Bool.false_eq_true, if_false, true_and]
    simp only [bind_eq_ok, mapError_eq_ok]
    constructor
    · rintro ⟨seed, hseed, sig, hsig, hverify⟩
      exact ⟨seed, sig, hseed, hsig, hverify⟩
    · rintro ⟨seed, sig, hseed, hsig, hverify⟩
      exact ⟨seed, hseed, sig, hsig, hverify⟩

theorem sidecarSignature_hexEncode {sig : Bytes} (h : sig.length = 64) :
    sidecarSignature (.contents (utf8 (hexEncode sig))) = .ok sig := by
  simp [sidecarSignature, FileState.readToString, FileState.read, utf8Text_utf8, bind, Except.bind, pure, Except.pure,
    Except.mapError, h]

/-! ## The two writes -/

theorem file_write_ne {path path' : String} (b : Bytes) (h : path' ≠ path) :
    (v.write (.policies path b)).policies.file path' = v.policies.file path' := Function.update_of_ne h _ _

theorem file_write_self (path : String) (b : Bytes) :
    (v.write (.policies path b)).policies.file path = .contents b := Function.update_self _ _ _

theorem writes_savePolicy {s : PolicySigner} {new : Policy} {seed : Bytes} (hc : v.policies.create = none)
    (hk : v.signingKey.exists = true) (hseed : v.readSigningKey = .ok seed) :
    (exec (savePolicy s new) (Session.of v)).2 = ⟨v, [.policies (policyPath new.id) (s.toVecPretty new),
      .policies (sidecarPath (policyPath new.id)) (utf8 (hexEncode (s.sign seed (s.toVecPretty new))))]⟩ := by
  have hkey : ∀ t : Session PolicyVault PolicyWrite, (t.disk PolicyVault.write).signingKey = v.signingKey →
      exec (loadOrGenerateSigningKey s) t = (.ok seed, t) := by
    intro t ht
    unfold loadOrGenerateSigningKey
    rw [exec_look_bind_of_ok PolicyVault.write rfl, if_pos (by rw [ht]; exact hk), exec_lift]
    have hread : (t.disk PolicyVault.write).readSigningKey = v.readSigningKey := by
      unfold readSigningKey
      rw [ht]
    rw [hread, hseed]
    rfl
  unfold savePolicy
  have hdir : (v.policies.create.elim (.ok ()) fun e => .error (.err (.io e)) : Outcome OcWalletError Unit) = .ok () := by
    rw [hc]
    rfl
  rw [exec_look_bind_of_ok PolicyVault.write (s := Session.of v) hdir, exec_perform_bind, exec_bind_of_ok (hkey _ rfl)]
  rfl

end PolicyVault

open PolicyVault

/-- After a crash at any point the id loads, as the old or as the new policy. -/
def CrashSafe (s : PolicySigner) (v : PolicyVault) (old new : Policy) : Prop :=
  ∀ k, ∃ sp, ((exec (savePolicy s new) (Session.of v)).2.crashedAfter PolicyVault.write k).loadPolicy new.id = .ok sp ∧
    (sp.policy = old ∨ sp.policy = new)

section Replace

variable {s : PolicySigner} {v : PolicyVault} {old new : Policy}

theorem loadPolicy_between (hc : v.policies.create = none)
    (hs : (v.policies.file (sidecarPath (policyPath new.id))).exists = true) :
    (v.write (.policies (policyPath new.id) (s.toVecPretty new))).loadPolicy new.id = do
      v.verifySidecar (policyPath new.id) (s.toVecPretty new)
      let policy ← (v.parsePolicy (s.toVecPretty new)).mapError .json
      return ⟨policy, true⟩ := by
  have hside := file_write_ne (v := v) (s.toVecPretty new) (sidecarPath_ne (policyPath new.id))
  rw [loadPolicy_of_sidecar (by exact hc) (file_write_self _ _) (by rw [hside]; exact hs)]
  have hverify : (v.write (.policies (policyPath new.id) (s.toVecPretty new))).verifySidecar (policyPath new.id) =
      v.verifySidecar (policyPath new.id) := by
    funext b
    unfold verifySidecar
    rw [hside]
    rfl
  rw [hverify]
  rfl

theorem loadPolicy_saved {seed sig : Bytes} (hc : v.policies.create = none) (hk : v.signingKey.exists = true)
    (hseed : v.readSigningKey = .ok seed) (hlen : sig.length = 64)
    (hverify : v.verifySeed seed (s.toVecPretty new) sig = .ok ())
    (hjson : v.parsePolicy (s.toVecPretty new) = .ok new) :
    ((v.write (.policies (policyPath new.id) (s.toVecPretty new))).write
      (.policies (sidecarPath (policyPath new.id)) (utf8 (hexEncode sig)))).loadPolicy new.id = .ok ⟨new, true⟩ := by
  have hfile := (file_write_ne (v := v.write (.policies (policyPath new.id) (s.toVecPretty new)))
    (utf8 (hexEncode sig)) (sidecarPath_ne (policyPath new.id)).symm).trans (file_write_self _ _)
  rw [loadPolicy_of_sidecar (by exact hc) hfile (by rw [file_write_self]; rfl)]
  have hsidecar : ((v.write (.policies (policyPath new.id) (s.toVecPretty new))).write
      (.policies (sidecarPath (policyPath new.id)) (utf8 (hexEncode sig)))).verifySidecar (policyPath new.id)
        (s.toVecPretty new) = .ok () := by
    refine verifySidecar_eq_ok.mpr ⟨hk, seed, sig, hseed, ?_, hverify⟩
    rw [file_write_self]
    exact sidecarSignature_hexEncode hlen
  rw [hsidecar]
  show ((v.parsePolicy (s.toVecPretty new)).mapError OcWalletError.json >>= fun policy =>
    Pure.pure (SignedPolicy.mk policy true)) = _
  rw [hjson]
  rfl

end Replace

/-- **Replacing a signed policy survives every crash exactly when the old signature fits the new file.** -/
theorem savePolicy_crash_safe_iff (s : PolicySigner) (v : PolicyVault) (old new : Policy)
    (hsign : ∀ seed message, (s.sign seed message).length = 64 ∧
      v.verifySeed seed message (s.sign seed message) = .ok ())
    (hjson : v.parsePolicy (s.toVecPretty new) = .ok new) (hsaved : v.loadPolicy new.id = .ok ⟨old, true⟩) :
    CrashSafe s v old new ↔ v.verifySidecar (policyPath new.id) (s.toVecPretty new) = .ok () := by
  obtain ⟨hc, hs, b, hf, hverify⟩ := loadPolicy_signed hsaved
  obtain ⟨hk, seed, sig, hseed, hsig, -⟩ := verifySidecar_eq_ok.mp hverify
  unfold CrashSafe
  rw [writes_savePolicy hc hk hseed]
  constructor
  · intro h
    obtain ⟨sp, hsp, -⟩ := h 1
    rw [show crashedAfter PolicyVault.write 1 _ = v.write (.policies (policyPath new.id) (s.toVecPretty new)) from rfl,
      loadPolicy_between hc hs] at hsp
    obtain ⟨_, h, -⟩ := bind_eq_ok.mp hsp
    exact h
  · intro h k
    -- no write, one write, or both
    rcases k with _ | _ | k
    · exact ⟨_, hsaved, .inl rfl⟩
    · refine ⟨⟨new, true⟩, (loadPolicy_between hc hs).trans ?_, .inr rfl⟩
      rw [h, hjson]
      rfl
    · rw [crashedAfter_of_le PolicyVault.write (Nat.le_add_left 2 k)]
      exact ⟨⟨new, true⟩, loadPolicy_saved hc hk hseed (hsign _ _).1 (hsign _ _).2 hjson, .inr rfl⟩

section Samples

/-- A policy file is the name of the policy, and a signature repeats the length of the message. -/
def sampleSigner : PolicySigner where
  toVecPretty policy := utf8 policy.name
  sign _ message := replicate 64 (UInt8.ofNat message.length)
  fillSeed := .ok (replicate 32 0)

def samplePolicy (name : String) : Policy := ⟨"p", name, 1, "2026-03-22T10:00:00Z", [], none, none, .deny⟩

def emptyVault : PolicyVault where
  policies := ⟨none, .entries [], fun _ => .missing⟩
  policiesPath := "policies"
  signingKey := .contents (replicate 32 0)
  parsePolicy b := .ok (samplePolicy ((utf8Text b).getD ""))
  verifySeed seed message sig :=
    if sig = sampleSigner.sign seed message then .ok () else .error "Verification equation was not satisfied"

def vaultWith (name : String) : PolicyVault :=
  (emptyVault.write (.policies (policyPath (samplePolicy name).id) (sampleSigner.toVecPretty (samplePolicy name)))).write
    (.policies (sidecarPath (policyPath (samplePolicy name).id)) (utf8 (hexEncode
      (sampleSigner.sign (replicate 32 0) (sampleSigner.toVecPretty (samplePolicy name))))))

theorem lawful_sampleSigner (seed message : Bytes) : (sampleSigner.sign seed message).length = 64 ∧
    emptyVault.verifySeed seed message (sampleSigner.sign seed message) = .ok () :=
  ⟨List.length_replicate, if_pos rfl⟩

theorem parsePolicy_samplePolicy (name : String) :
    emptyVault.parsePolicy (sampleSigner.toVecPretty (samplePolicy name)) = .ok (samplePolicy name) := by
  show Except.ok (samplePolicy ((utf8Text (utf8 name)).getD "")) = _
  rw [utf8Text_utf8]
  rfl

theorem readSigningKey_emptyVault : emptyVault.readSigningKey = .ok (replicate 32 0) := rfl

theorem loadPolicy_vaultWith (name : String) : (vaultWith name).loadPolicy "p" = .ok ⟨samplePolicy name, true⟩ := by
  exact loadPolicy_saved rfl rfl readSigningKey_emptyVault (lawful_sampleSigner _ _).1 (lawful_sampleSigner _ _).2
    (parsePolicy_samplePolicy name)

theorem verifySidecar_vaultWith (name : String) (b : Bytes) :
    (vaultWith name).verifySidecar "p.json" b =
      ((emptyVault.verifySeed (replicate 32 0) b (sampleSigner.sign (replicate 32 0) (utf8 name))).mapError
        ("signature mismatch: " ++ ·)).mapError (.signatureInvalid "policies/p.json") := by
  have hsig : sidecarSignature ((vaultWith name).policies.file (sidecarPath "p.json")) =
      .ok (sampleSigner.sign (replicate 32 0) (utf8 name)) := by
    exact (congrArg sidecarSignature (file_write_self _ _)).trans (sidecarSignature_hexEncode List.length_replicate)
  unfold verifySidecar
  rw [hsig]
  rfl

/-- **A crash between the two writes locks the policy out.** -/
theorem crash_between_locks_out :
    (vaultWith "a").loadPolicy "p" = .ok ⟨samplePolicy "a", true⟩ ∧
      ((exec (savePolicy sampleSigner (samplePolicy "bb")) (Session.of (vaultWith "a"))).2.crashedAfter
        PolicyVault.write 1).loadPolicy "p" = .error (.signatureInvalid "policies/p.json"
          "signature mismatch: Verification equation was not satisfied") ∧
      ¬ CrashSafe sampleSigner (vaultWith "a") (samplePolicy "a") (samplePolicy "bb") := by
  have hverify : (vaultWith "a").verifySidecar "p.json" (utf8 "bb") = .error (.signatureInvalid "policies/p.json"
      "signature mismatch: Verification equation was not satisfied") := by
    rw [verifySidecar_vaultWith]
    decide
  have hload : ((vaultWith "a").write (.policies (policyPath (samplePolicy "bb").id)
      (sampleSigner.toVecPretty (samplePolicy "bb")))).loadPolicy (samplePolicy "bb").id = _ := loadPolicy_between rfl rfl
  have hlocked : ((exec (savePolicy sampleSigner (samplePolicy "bb")) (Session.of (vaultWith "a"))).2.crashedAfter
      PolicyVault.write 1).loadPolicy "p" = .error (.signatureInvalid "policies/p.json"
        "signature mismatch: Verification equation was not satisfied") := by
    have hkey : (vaultWith "a").readSigningKey = .ok (replicate 32 0) := readSigningKey_emptyVault
    refine hload.trans ?_
    exact congrArg (· >>= _) hverify
  refine ⟨loadPolicy_vaultWith "a", hlocked, fun h => ?_⟩
  obtain ⟨sp, hsp, -⟩ := h 1
  cases hlocked.symm.trans hsp

/-- Saving a policy again as it is. -/
theorem crash_safe_unchanged : CrashSafe sampleSigner (vaultWith "a") (samplePolicy "a") (samplePolicy "a") :=
  (savePolicy_crash_safe_iff sampleSigner (vaultWith "a") (samplePolicy "a") (samplePolicy "a") lawful_sampleSigner
    (parsePolicy_samplePolicy "a") (loadPolicy_vaultWith "a")).mpr (verifySidecar_vaultWith "a" (utf8 "a"))

end Samples

end OneCipher.Wallet
