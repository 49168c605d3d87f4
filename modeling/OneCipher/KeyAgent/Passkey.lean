import Mathlib.Data.List.Sort
import OneCipher.Base.Prog
import OneCipher.Base.Text
import OneCipher.Base.Json

/-!
# OneCipher.KeyAgent.Passkey — challenge–response passkeys of the Key-Agent

`oc-keyagent/src/passkey.rs` and the passkey part of `handler.rs`.  A `PasskeyVerifier` is bound to one credential
and its public key and holds the pending challenges of that credential; the `AgentContext` keeps one verifier per
credential, created lazily from the registered key.
-/

namespace OneCipher.KeyAgent

open Prog
open Text (utf8)

/-! ## Keys and the registered-key store -/

/-- The signature crates: key and signature parsing, and verification. -/
structure PasskeyCrypto where
  p256FromSec1Bytes : Bytes → Except String Bytes
  p256SignatureFromSlice : Bytes → Option Bytes
  p256Verify : Bytes → Bytes → Bytes → Bool
  ed25519FromBytes : Bytes → Except String Bytes
  ed25519SignatureFromSlice : Bytes → Option Bytes
  ed25519Verify : Bytes → Bytes → Bytes → Bool

inductive PasskeyPubkey where
  | p256 (vk : Bytes)
  | ed25519 (vk : Bytes)
  deriving DecidableEq, Repr

def PasskeyPubkey.checks (c : PasskeyCrypto) (message signature : Bytes) : PasskeyPubkey → Bool
  | .p256 vk => match c.p256SignatureFromSlice signature with
    | some sig => c.p256Verify vk message sig
    | none => false
  | .ed25519 vk => match c.ed25519SignatureFromSlice signature with
    | some sig => c.ed25519Verify vk message sig
    | none => false

inductive PasskeyStoreError where
  | io (detail : String)
  | json (detail : String)
  | homeNotSet
  | corrupt (path detail : String)
  | unsupportedAlgorithm (algorithm : String)
  | invalidPublicKey (detail : String)
  deriving DecidableEq, Repr

def PasskeyStoreError.message : PasskeyStoreError → String
  | .io d => "I/O error: " ++ d
  | .json d => "JSON error: " ++ d
  | .homeNotSet => "HOME not set"
  | .corrupt path d => "passkey store at " ++ path ++ " is corrupt: " ++ d ++
      " — restore it from a backup or remove the file to re-register passkeys"
  | .unsupportedAlgorithm a => "unsupported algorithm: " ++ a ++ " (expected \"p256\" or \"ed25519\")"
  | .invalidPublicKey d => "invalid public key: " ++ d

/-- A registered passkey. -/
structure StoredPasskeyPubkey where
  algorithm : String
  publicKey : Bytes
  walletId : String
  registeredAt : Nat
  rpId : String
  deriving DecidableEq, Repr

def StoredPasskeyPubkey.defaultRpId : String := "localhost"

abbrev Passkeys := Store String StoredPasskeyPubkey

/-- An opened store: what reading its file gives. -/
structure PasskeyPubkeyStore where
  load : Except PasskeyStoreError Passkeys

namespace PasskeyPubkeyStore

def get (store : PasskeyPubkeyStore) (credentialId : String) : Except PasskeyStoreError (Option StoredPasskeyPubkey) :=
  store.load.map (·.lookup credentialId)

/-- Every credential registered to a wallet, sorted; a store that cannot be read counts as empty. -/
def credentialIdsForWallet (store : PasskeyPubkeyStore) (walletId : String) : List String :=
  match store.load with
  | .ok m => ((m.entries.filter fun e => e.2.walletId == walletId).map (·.1)).insertionSort (· ≤ ·)
  | .error _ => []

def toPasskeyPubkey (c : PasskeyCrypto) (stored : StoredPasskeyPubkey) : Except PasskeyStoreError PasskeyPubkey :=
  if stored.algorithm = "p256" then
    (c.p256FromSec1Bytes stored.publicKey).map .p256 |>.mapError .invalidPublicKey
  else if stored.algorithm = "ed25519" then
    if stored.publicKey.length ≠ 32 then
      .error (.invalidPublicKey ("ed25519 public key must be 32 bytes, got " ++ toString stored.publicKey.length))
    else (c.ed25519FromBytes stored.publicKey).map .ed25519 |>.mapError .invalidPublicKey
  else .error (.unsupportedAlgorithm stored.algorithm)

end PasskeyPubkeyStore

/-! ## The verifier of one credential -/

def challengeTtlSecs : Nat := 120

def maxPendingChallenges : Nat := 256

/-- `[u8; 32]`. -/
abbrev Nonce := { b : Bytes // b.length = 32 }

inductive PasskeyError where
  | forged
  | replay
  | missing
  | credentialMismatch
  | rateLimited
  deriving DecidableEq, Repr

def PasskeyError.message : PasskeyError → String
  | .forged => "passkey signature forged"
  | .replay => "passkey challenge replayed"
  | .missing => "passkey authorization missing"
  | .credentialMismatch => "passkey credential ID mismatch"
  | .rateLimited => "passkey challenge rate limited"

structure PasskeyAuthorization where
  challenge : Bytes
  signature : Bytes
  credentialId : String
  deriving DecidableEq, Repr

/-- The bytes a passkey signs: `challenge || credential_id`. -/
def PasskeyAuthorization.signedMessage (auth : PasskeyAuthorization) : Bytes := auth.challenge ++ utf8 auth.credentialId

structure PasskeyVerifier where
  storedPubkey : PasskeyPubkey
  storedCredentialId : Bytes
  pendingChallenges : Store Nonce Nat

namespace PasskeyVerifier

def new (pubkey : PasskeyPubkey) (credentialId : Bytes) : PasskeyVerifier := ⟨pubkey, credentialId, ∅⟩

def sweepExpired (now : Nat) (v : PasskeyVerifier) : PasskeyVerifier :=
  { v with pendingChallenges := v.pendingChallenges.retain fun _ expiry => expiry > now }

def addPending (nonce : Nonce) (expiresAt : Nat) (v : PasskeyVerifier) : PasskeyVerifier :=
  { v with pendingChallenges := v.pendingChallenges.insert nonce expiresAt }

def drawNonce (expiresAt : Nat) : List Nonce → PasskeyVerifier → Outcome PasskeyError Nonce × PasskeyVerifier
  | [], v => (.error .hang, v)
  | n :: draws, v =>
    if n ∈ v.pendingChallenges then drawNonce expiresAt draws (v.addPending n expiresAt)
    else (.ok n, v.addPending n expiresAt)

def generateChallenge (clock : Nat → Nat) (draws : List Nonce) (v : PasskeyVerifier) :
    Outcome PasskeyError Nonce × PasskeyVerifier :=
  let v := v.sweepExpired (clock 0)
  if v.pendingChallenges.size ≥ maxPendingChallenges then (.error (.err .rateLimited), v)
  else drawNonce (clock 1 + challengeTtlSecs) draws v

def verify (c : PasskeyCrypto) (clock : Nat → Nat) (auth : PasskeyAuthorization) (v : PasskeyVerifier) :
    Except PasskeyError Unit × PasskeyVerifier :=
  if h : auth.challenge.length = 32 ∧ auth.credentialId ≠ "" then
    if utf8 auth.credentialId ≠ v.storedCredentialId then (.error .credentialMismatch, v)
    else
      let v := v.sweepExpired (clock 0)
      let challenge : Nonce := ⟨auth.challenge, h.1⟩
      match v.pendingChallenges.lookup challenge with
      | some expiry =>
        if expiry > clock 1 then
          if v.storedPubkey.checks c auth.signedMessage auth.signature then
            (.ok (), { v with pendingChallenges := v.pendingChallenges.erase challenge })
          else (.error .forged, v)
        else (.error .replay, v)
      | none => (.error .replay, v)
  else (.error .missing, v)

end PasskeyVerifier

/-! ## The agent's verifier table -/

inductive EventType where
  | createSessionKey | revokeSessionKey | signUserOp | passkeyForged | passkeyMissing | passkeyReplay
  | policyLookupFailed | policyParseFailed | humanAlert | budgetReclaim | backupAttemptFailed
  | backupLocked | authFailed | secretRead | secretWritten | secretDeleted | secretMigrated
  | ageRecipientAdded | ageReencrypted | challengeIssued | vaultLocked | vaultUnlocked
  | transactionSigned | authSigned | siwxSigned | passkeyRegistered | enclavePending | enclaveResolved
  deriving DecidableEq, Repr

inductive DenyReason where
  | rateLimitMinute | rateLimitHour | budgetExceeded | whitelist | expired | passkeyForged
  | policyMissing | cooldown | unknown
  deriving DecidableEq, Repr

/-- The name `{:?}` prints. -/
def DenyReason.debug : DenyReason → String
  | .rateLimitMinute => "RateLimitMinute"
  | .rateLimitHour => "RateLimitHour"
  | .budgetExceeded => "BudgetExceeded"
  | .whitelist => "Whitelist"
  | .expired => "Expired"
  | .passkeyForged => "PasskeyForged"
  | .policyMissing => "PolicyMissing"
  | .cooldown => "Cooldown"
  | .unknown => "Unknown"

/-- A refusal of the Key-Agent. -/
inductive KeyAgentResponse where
  | deny (reason : DenyReason)
  | error (message : String)
  deriving DecidableEq, Repr

def KeyAgentResponse.message : KeyAgentResponse → String
  | .error m => m
  | .deny r => "denied: DenyReasonPayload \x7b reason: " ++ r.debug ++ " \x7d"

/-- The stable prefixes of error responses. -/
inductive ErrCode where
  | auth | param | wallet | decrypt | sessionKey | audit | internal
  deriving DecidableEq, Repr

def ErrCode.text : ErrCode → String
  | .auth => "E_AUTH"
  | .param => "E_PARAM"
  | .wallet => "E_WALLET"
  | .decrypt => "E_DECRYPT"
  | .sessionKey => "E_SESSION_KEY"
  | .audit => "E_AUDIT"
  | .internal => "E_INTERNAL"

def coded (code : ErrCode) (detail : String) : String := code.text ++ ": " ++ detail

structure AuditEvent where
  eventType : EventType
  sessionKeyId : Option String
  payload : Json

structure AgentContext where
  passkeyVerifiers : Store String PasskeyVerifier
  verifiersPoisoned : Bool
  auditLog : List AuditEvent

namespace AgentContext

def fresh : AgentContext := ⟨∅, false, []⟩

def putVerifier (credentialId : String) (v : PasskeyVerifier) (ctx : AgentContext) : AgentContext :=
  { ctx with passkeyVerifiers := ctx.passkeyVerifiers.insert credentialId v }

def recordAudit (event : EventType) (payload : Json) (ctx : AgentContext) : AgentContext :=
  { ctx with auditLog := ctx.auditLog ++ [⟨event, none, payload⟩] }

@[simp] theorem passkeyVerifiers_putVerifier (id : String) (v : PasskeyVerifier) (ctx : AgentContext) :
    (ctx.putVerifier id v).passkeyVerifiers = ctx.passkeyVerifiers.insert id v := rfl

end AgentContext

section Handlers

variable (c : PasskeyCrypto) (clock : Nat → Nat)
  (opened : Except PasskeyStoreError PasskeyPubkeyStore)

/-- The registered key of a credential.  `code` is the error code of a store failure, the one place
where the callers differ. -/
def registeredKey (code : ErrCode) (credentialId : String) : Outcome KeyAgentResponse StoredPasskeyPubkey :=
  match opened.bind (·.get credentialId) with
  | .ok (some stored) => .ok stored
  | .ok none => .error (.err (.error (coded .auth "passkey not registered")))
  | .error e => .error (.err (.error (coded code ("passkey store: " ++ e.message))))

def openVerifier (code : ErrCode) (credentialId : String) :
    Prog AgentContext KeyAgentResponse (StoredPasskeyPubkey × PasskeyVerifier) := do
  let stored ← lift (registeredKey opened code credentialId)
  let ctx ← get
  if ctx.verifiersPoisoned then
    fail (.error (coded .internal "passkey verifiers mutex poisoned"))
  else match ctx.passkeyVerifiers.lookup credentialId with
    | some v => pure (stored, v)
    | none => match PasskeyPubkeyStore.toPasskeyPubkey c stored with
      | .error e => fail (.error (coded code ("passkey pubkey: " ++ e.message)))
      | .ok pubkey => do
        let v := PasskeyVerifier.new pubkey (utf8 credentialId)
        modify (·.putVerifier credentialId v)
        pure (stored, v)

/-- `verify_passkey`. -/
def verifyPasskey (auth : PasskeyAuthorization) : Prog AgentContext KeyAgentResponse StoredPasskeyPubkey := do
  let (stored, v) ← openVerifier c opened .auth auth.credentialId
  let (result, v) := v.verify c clock auth
  modify (·.putVerifier auth.credentialId v)
  match result with
  | .ok () => pure stored
  | .error e => do
    modify (·.recordAudit .passkeyForged (.obj [("credential_id", .str auth.credentialId), ("error", .str e.message)]))
    fail (.deny .passkeyForged)

/-- `handle_generate_challenge`: an error response is a failure here. -/
def handleGenerateChallenge (draws : List Nonce) (credentialId : String) :
    Prog AgentContext KeyAgentResponse Nonce := do
  if credentialId = "" then fail (.error (coded .param "missing credential_id")) else
  let (_, v) ← openVerifier c opened .internal credentialId
  let (result, v) := v.generateChallenge clock draws
  modify (·.putVerifier credentialId v)
  let challenge ← lift (result.mapErr fun e => .error (coded .auth ("challenge rejected: " ++ e.message)))
  modify (·.recordAudit .challengeIssued (.obj [("credential_id", .str credentialId)]))
  return challenge

end Handlers

/-! ## What a verifier checks -/

namespace PasskeyVerifier

@[simp] theorem storedPubkey_sweepExpired (now : Nat) (v : PasskeyVerifier) :
    (v.sweepExpired now).storedPubkey = v.storedPubkey := rfl

/-- Two verifiers of the same key and credential, possibly with other pending challenges. -/
def SameKey (v w : PasskeyVerifier) : Prop :=
  w.storedPubkey = v.storedPubkey ∧ w.storedCredentialId = v.storedCredentialId

theorem sameKey_drawNonce (expiresAt : Nat) : ∀ (draws : List Nonce) (v : PasskeyVerifier),
    v.SameKey (drawNonce expiresAt draws v).2
  | [], v => ⟨rfl, rfl⟩
  | n :: draws, v => by
    rw [drawNonce]
    by_cases h : n ∈ v.pendingChallenges
    · rw [if_pos h]; exact sameKey_drawNonce expiresAt draws (v.addPending n expiresAt)
    · rw [if_neg h]; exact ⟨rfl, rfl⟩

theorem sameKey_generateChallenge (clock : Nat → Nat) (draws : List Nonce) (v : PasskeyVerifier) :
    v.SameKey (v.generateChallenge clock draws).2 := by
  rw [generateChallenge]
  by_cases h : (v.sweepExpired (clock 0)).pendingChallenges.size ≥ maxPendingChallenges
  · rw [if_pos h]; exact ⟨rfl, rfl⟩
  · rw [if_neg h]; exact sameKey_drawNonce _ _ (v.sweepExpired (clock 0))

theorem verify_cases (c : PasskeyCrypto) (clock : Nat → Nat) (auth : PasskeyAuthorization)
    (v : PasskeyVerifier) :
    (∃ (h : auth.challenge.length = 32) (expiry : Nat), utf8 auth.credentialId = v.storedCredentialId ∧
      v.pendingChallenges.lookup ⟨auth.challenge, h⟩ = some expiry ∧
      clock 0 < expiry ∧ clock 1 < expiry ∧
      v.storedPubkey.checks c auth.signedMessage auth.signature = true ∧
      v.verify c clock auth = (.ok (), { v.sweepExpired (clock 0) with
        pendingChallenges := (v.sweepExpired (clock 0)).pendingChallenges.erase ⟨auth.challenge, h⟩ })) ∨
    (∃ e w, v.verify c clock auth = (.error e, w) ∧ (w = v ∨ w = v.sweepExpired (clock 0))) := by
  unfold verify
  by_cases h : auth.challenge.length = 32 ∧ auth.credentialId ≠ ""
  · rw [dif_pos h]
    by_cases hid : utf8 auth.credentialId ≠ v.storedCredentialId
    · rw [if_pos hid]; exact .inr ⟨_, _, rfl, .inl rfl⟩
    rw [if_neg hid]
    rcases hp : (v.sweepExpired (clock 0)).pendingChallenges.lookup ⟨auth.challenge, h.1⟩ with _ | expiry
    · exact .inr ⟨.replay, _, by simp only [hp], .inr rfl⟩
    by_cases hexp : expiry > clock 1
    · by_cases hsig : v.storedPubkey.checks c auth.signedMessage auth.signature = true
      · obtain ⟨hpend, hnow⟩ := Store.lookup_retain.mp hp
        exact .inl ⟨h.1, expiry, not_not.mp hid, hpend, by simpa using hnow, hexp, hsig, by
          simp only [hp, if_pos hexp, storedPubkey_sweepExpired, hsig, if_true]⟩
      · exact .inr ⟨.forged, _, by
          simp only [hp, if_pos hexp, storedPubkey_sweepExpired, hsig, Bool.false_eq_true, if_false], .inr rfl⟩
    · exact .inr ⟨.replay, _, by simp only [hp, if_neg hexp], .inr rfl⟩
  · rw [dif_neg h]; exact .inr ⟨_, _, rfl, .inl rfl⟩

theorem sameKey_verify (c : PasskeyCrypto) (clock : Nat → Nat) (auth : PasskeyAuthorization)
    (v : PasskeyVerifier) : v.SameKey (v.verify c clock auth).2 := by
  rcases verify_cases c clock auth v with ⟨_, _, _, _, _, _, _, h⟩ | ⟨_, _, h, rfl | rfl⟩ <;> rw [h]
  all_goals exact ⟨rfl, rfl⟩

end PasskeyVerifier

/-! ## The table follows the registered keys -/

section Bound

variable {c : PasskeyCrypto} {clock : Nat → Nat} {reg : Passkeys}
  {opened : Except PasskeyStoreError PasskeyPubkeyStore}

/-- The verifier was made for the credential, from its registered key. -/
def VerifierOf (c : PasskeyCrypto) (reg : Passkeys) (id : String) (v : PasskeyVerifier) : Prop :=
  v.storedCredentialId = utf8 id ∧
    ∃ stored, reg.lookup id = some stored ∧ PasskeyPubkeyStore.toPasskeyPubkey c stored = .ok v.storedPubkey

/-- Every verifier of the table was made from the registered key of its credential. -/
def AgentContext.Bound (c : PasskeyCrypto) (reg : Passkeys) (ctx : AgentContext) : Prop :=
  ∀ id v, ctx.passkeyVerifiers.lookup id = some v → VerifierOf c reg id v

/-- Opening and reading the store gives the registered keys `reg`, or fails. -/
def Serves (reg : Passkeys) (opened : Except PasskeyStoreError PasskeyPubkeyStore) : Prop :=
  ∀ store m, opened = .ok store → store.load = .ok m → m = reg

theorem VerifierOf.sameKey {id : String} {v w : PasskeyVerifier} (h : VerifierOf c reg id v)
    (hw : v.SameKey w) : VerifierOf c reg id w := by
  obtain ⟨hid, stored, hl, hk⟩ := h
  exact ⟨hw.2.trans hid, stored, hl, by rw [hk, hw.1]⟩

theorem AgentContext.bound_fresh : AgentContext.fresh.Bound c reg := by
  nofun

theorem AgentContext.Bound.putVerifier {ctx : AgentContext} (h : ctx.Bound c reg) {id : String}
    {v : PasskeyVerifier} (hv : VerifierOf c reg id v) : (ctx.putVerifier id v).Bound c reg := by
  intro id' v' hl
  by_cases hid : id' = id
  · subst hid
    rw [AgentContext.passkeyVerifiers_putVerifier, AList.lookup_insert] at hl
    cases hl
    exact hv
  · rw [AgentContext.passkeyVerifiers_putVerifier, AList.lookup_insert_ne hid] at hl
    exact h id' v' hl

theorem Serves.registeredKey (h : Serves reg opened) {code : ErrCode} {id : String}
    {stored : StoredPasskeyPubkey} (hr : registeredKey opened code id = .ok stored) :
    reg.lookup id = some stored := by
  have hg : opened.bind (·.get id) = .ok (some stored) := by
    unfold KeyAgent.registeredKey at hr
    split at hr <;> simp_all
  rcases opened with _ | store
  · cases hg
  rcases hl : store.load with _ | m
  · simp [Except.bind, PasskeyPubkeyStore.get, hl, Except.map] at hg
  · have hm := h store m rfl hl
    simpa [Except.bind, PasskeyPubkeyStore.get, hl, Except.map, hm] using hg

theorem openVerifier_bound (hs : Serves reg opened) (code : ErrCode) (id : String) :
    Triple (AgentContext.Bound c reg) (openVerifier c opened code id)
      (fun r ctx => ctx.Bound c reg ∧ reg.lookup id = some r.1 ∧ VerifierOf c reg id r.2)
      (fun _ ctx => ctx.Bound c reg) := by
  refine .bind (Q := fun stored (ctx : AgentContext) => ctx.Bound c reg ∧ reg.lookup id = some stored)
    (.lift (fun _ _ hr h => ⟨h, hs.registeredKey hr⟩) fun _ _ _ h => h) ?_
  intro stored ctx ⟨hb, hl⟩
  rw [exec_bind, exec_get]
  by_cases hp : ctx.verifiersPoisoned
  · simpa only [if_pos hp, exec_fail] using hb
  simp only [if_neg hp]
  rcases hv : ctx.passkeyVerifiers.lookup id with _ | v
  · rcases hk : PasskeyPubkeyStore.toPasskeyPubkey c stored with e | pubkey
    · exact hb
    · have hnew : VerifierOf c reg id (.new pubkey (utf8 id)) := ⟨rfl, stored, hl, hk⟩
      exact ⟨hb.putVerifier hnew, hl, hnew⟩
  · exact ⟨hb, hl, hb id v hv⟩

/-- **An accepted proof was checked under the registered key of the credential it names.** -/
theorem verifyPasskey_checked (hs : Serves reg opened) (auth : PasskeyAuthorization) :
    Triple (AgentContext.Bound c reg) (verifyPasskey c clock opened auth)
      (fun stored ctx => ctx.Bound c reg ∧ reg.lookup auth.credentialId = some stored ∧
        ∃ pk, PasskeyPubkeyStore.toPasskeyPubkey c stored = .ok pk ∧
          pk.checks c auth.signedMessage auth.signature = true)
      (fun _ ctx => ctx.Bound c reg) := by
  refine .bind (openVerifier_bound hs .auth auth.credentialId) ?_
  rintro ⟨stored, v⟩ ctx ⟨hb, hl, hv⟩
  have hb' := hb.putVerifier (hv.sameKey (v.sameKey_verify c clock auth))
  rcases v.verify_cases c clock auth with ⟨_, _, _, _, _, _, hsig, h⟩ | ⟨e, w, h, _⟩ <;> rw [h] at hb'
  · obtain ⟨-, stored', hl', hk⟩ := hv
    have : stored' = stored := by rw [hl] at hl'; exact (Option.some.inj hl').symm
    subst this
    simp only [h, exec_bind, exec_modify, exec_pure]
    exact ⟨hb', hl, v.storedPubkey, hk, hsig⟩
  · simp only [h, exec_bind, exec_modify, exec_fail]
    exact hb'

theorem handleGenerateChallenge_bound (hs : Serves reg opened) (draws : List Nonce) (id : String) :
    Triple (AgentContext.Bound c reg) (handleGenerateChallenge c clock opened draws id)
      (fun _ ctx => ctx.Bound c reg) (fun _ ctx => ctx.Bound c reg) := by
  refine .ite (fun _ => .fail fun _ h => h) fun _ => ?_
  refine .bind (openVerifier_bound hs .internal id) ?_
  rintro ⟨stored, v⟩
  refine .bind (Q := fun _ (ctx : AgentContext) => ctx.Bound c reg)
    (.modify fun ctx h => h.1.putVerifier (h.2.2.sameKey (v.sameKey_generateChallenge clock draws))) ?_
  intro _
  refine .bind (.lift (fun _ _ _ h => h) fun _ _ _ h => h) ?_
  intro _
  exact .bind (.modify fun _ h => h) fun _ => .pure fun _ h => h

end Bound

end OneCipher.KeyAgent
