import OneCipher.KeyAgent.Passkey

/-!
# OneCipher.KeyAgent.PasskeyRuns — registering, challenging and verifying over time

`handle_register_passkey` of `oc-keyagent/src/handler.rs` and runs of it with the challenge and verification
handlers of `KeyAgent.Passkey`.  The registered keys live in a file; the verifiers, each with a copy of the key it
was made from, live in the process.  Registration writes the file and leaves the verifiers alone.
-/

namespace OneCipher.KeyAgent

open Prog
open PasskeyPubkeyStore (toPasskeyPubkey)

/-! ## Registration -/

structure RegisterPasskeyRequest where
  walletId : String
  credentialId : String
  algorithm : String
  publicKey : Bytes
  rpId : String
  deriving DecidableEq, Repr

/-- The process and the file of registered keys: what reading the file gives. -/
structure PasskeyWorld where
  ctx : AgentContext
  file : Except PasskeyStoreError Passkeys

/-- Opening the store, which may fail in this call (`HOME`, or reading the file). -/
def PasskeyWorld.openStore (fault : Option PasskeyStoreError) (w : PasskeyWorld) :
    Except PasskeyStoreError PasskeyPubkeyStore :=
  match fault with
  | some e => .error e
  | none => .ok ⟨w.file⟩

/-- The record of a registration at the clock reading `now`. -/
def RegisterPasskeyRequest.stored (req : RegisterPasskeyRequest) (now : Nat) : StoredPasskeyPubkey where
  algorithm := req.algorithm
  publicKey := req.publicKey
  walletId := req.walletId
  registeredAt := now
  rpId := if req.rpId = "" then StoredPasskeyPubkey.defaultRpId else req.rpId

/-- `PasskeyPubkeyStore::register`: load, insert or replace, save.  `save` is the error of the save,
if it fails; the file is then as it was. -/
def PasskeyPubkeyStore.register (credentialId : String) (stored : StoredPasskeyPubkey)
    (save : Option PasskeyStoreError) (store : PasskeyPubkeyStore) : Except PasskeyStoreError Passkeys :=
  match store.load, save with
  | .error e, _ => .error e
  | .ok _, some e => .error e
  | .ok map, none => .ok (map.insert credentialId stored)

def RegisterPasskeyRequest.auditPayload (req : RegisterPasskeyRequest) : Json :=
  .obj [("credential_id", .str req.credentialId), ("wallet_id", .str req.walletId), ("algorithm", .str req.algorithm)]

def PasskeyWorld.registered (fault save : Option PasskeyStoreError) (now : Nat) (req : RegisterPasskeyRequest)
    (w : PasskeyWorld) : Outcome KeyAgentResponse Passkeys :=
  match w.openStore fault with
  | .error e => .error (.err (.error (coded .internal ("passkey store: " ++ e.message))))
  | .ok store => (store.register req.credentialId (req.stored now) save).mapError fun e =>
      .err (.error (coded .internal ("register passkey: " ++ e.message)))

/-- `handle_register_passkey`: an error response is a failure here. -/
def handleRegisterPasskey (fault save : Option PasskeyStoreError) (now : Nat) (req : RegisterPasskeyRequest) :
    Prog PasskeyWorld KeyAgentResponse Unit :=
  if req.walletId = "" then
    fail (.error (coded .param "register_passkey requires a non-empty wallet_id (wildcard passkeys are rejected)"))
  else do
    let w ← get
    let map ← lift (w.registered fault save now req)
    modify fun w => { ctx := w.ctx.recordAudit .passkeyRegistered req.auditPayload, file := .ok map }

/-! ## Runs -/

/-- One request of a run, with the clock readings it makes and the faults it meets; or a restart of
the process. -/
inductive PasskeyCall where
  | register (req : RegisterPasskeyRequest) (now : Nat) (fault save : Option PasskeyStoreError)
  | generateChallenge (credentialId : String) (clock : Nat → Nat) (draws : List Nonce)
      (fault : Option PasskeyStoreError)
  | verify (auth : PasskeyAuthorization) (clock : Nat → Nat) (fault : Option PasskeyStoreError)
  | restart

section Runs

variable (c : PasskeyCrypto)

def PasskeyWorld.verify (auth : PasskeyAuthorization) (clock : Nat → Nat) (fault : Option PasskeyStoreError)
    (w : PasskeyWorld) : Outcome KeyAgentResponse StoredPasskeyPubkey × AgentContext :=
  exec (verifyPasskey c clock (w.openStore fault) auth) w.ctx

def PasskeyWorld.step (w : PasskeyWorld) : PasskeyCall → PasskeyWorld
  | .register req now fault save => (exec (handleRegisterPasskey fault save now req) w).2
  | .generateChallenge id clock draws fault =>
    { w with ctx := (exec (handleGenerateChallenge c clock (w.openStore fault) draws id) w.ctx).2 }
  | .verify auth clock fault => { w with ctx := (w.verify c auth clock fault).2 }
  | .restart => { w with ctx := .fresh }

def PasskeyWorld.run (w : PasskeyWorld) (calls : List PasskeyCall) : PasskeyWorld := calls.foldl (PasskeyWorld.step c) w

def PasskeyWorld.start (file : Except PasskeyStoreError Passkeys) : PasskeyWorld := ⟨.fresh, file⟩

/-- Whenever a verification returns a record here, it is the record stored for the credential and the
signature checks under its key. -/
def PasskeyWorld.Coherent (w : PasskeyWorld) : Prop :=
  ∀ auth clock fault stored ctx, w.verify c auth clock fault = (.ok stored, ctx) →
    ∃ map : Passkeys, w.file = .ok map ∧ map.lookup auth.credentialId = some stored ∧
      ∃ pk, toPasskeyPubkey c stored = .ok pk ∧ pk.checks c auth.signedMessage auth.signature = true

/-- A registration keeps the key of every verifier there is. -/
def PasskeyWorld.KeepsKeys (w : PasskeyWorld) : PasskeyCall → Prop
  | .register req now _ _ => ∀ v, w.ctx.passkeyVerifiers.lookup req.credentialId = some v →
      toPasskeyPubkey c (req.stored now) = .ok v.storedPubkey
  | _ => True

/-- Every registration of the run does. -/
def PasskeyWorld.KeepsKeysAlong : PasskeyWorld → List PasskeyCall → Prop
  | _, [] => True
  | w, call :: rest => w.KeepsKeys c call ∧ KeepsKeysAlong (w.step c call) rest

/-- The verifiers follow the file. -/
def PasskeyWorld.Bound (w : PasskeyWorld) : Prop := ∀ map, w.file = .ok map → w.ctx.Bound c map

variable {c}

variable {w : PasskeyWorld}

theorem PasskeyWorld.serves {map : Passkeys} (h : w.file = .ok map) (fault : Option PasskeyStoreError) :
    Serves map (w.openStore fault) := by
  intro store m hopen hload
  rcases fault with _ | e
  · cases hopen
    change w.file = .ok m at hload
    exact Except.ok.inj (hload.symm.trans h)
  · cases hopen

theorem PasskeyWorld.file_of_verify {auth : PasskeyAuthorization} {clock : Nat → Nat}
    {fault : Option PasskeyStoreError} {stored : StoredPasskeyPubkey} {ctx : AgentContext}
    (h : w.verify c auth clock fault = (.ok stored, ctx)) : ∃ map, w.file = .ok map := by
  obtain ⟨⟨stored', v⟩, ctx₁, hopen, -⟩ := exec_bind_ok.mp h
  obtain ⟨stored'', hkey, -⟩ := exec_lift_bind_ok.mp hopen
  rcases fault with _ | e
  · rcases hf : w.file with e | map
    · have hload : (w.openStore none).bind (·.get auth.credentialId) = .error e := by
        change w.file.map _ = _
        rw [hf]
        rfl
      rw [registeredKey, hload] at hkey
      cases hkey
    · exact ⟨map, rfl⟩
  · cases hkey

theorem PasskeyWorld.Bound.coherent (h : w.Bound c) : w.Coherent c := by
  intro auth clock fault stored ctx hv
  obtain ⟨map, hmap⟩ := file_of_verify hv
  obtain ⟨-, hl, hpk⟩ := Triple.ok (verifyPasskey_checked (serves hmap fault) auth) (h map hmap) hv
  exact ⟨map, hmap, hl, hpk⟩

/-! ### What a step does -/

theorem PasskeyWorld.registered_eq_ok {req : RegisterPasskeyRequest} {now : Nat}
    {fault save : Option PasskeyStoreError} {new : Passkeys} (h : w.registered fault save now req = .ok new) :
    ∃ map, w.file = .ok map ∧ new = map.insert req.credentialId (req.stored now) := by
  rcases fault with _ | e
  · have hreg : PasskeyPubkeyStore.register req.credentialId (req.stored now) save ⟨w.file⟩ = .ok new :=
      Result.mapError_eq_ok.mp h
    rcases hf : w.file with e | map <;> rw [hf] at hreg
    · cases hreg
    · rcases save with _ | e
      · cases hreg
        exact ⟨map, rfl, rfl⟩
      · cases hreg
  · cases h

theorem PasskeyWorld.register_cases (w : PasskeyWorld) (req : RegisterPasskeyRequest) (now : Nat)
    (fault save : Option PasskeyStoreError) :
    (exec (handleRegisterPasskey fault save now req) w).2 = w ∨
    ∃ map : Passkeys, w.file = .ok map ∧ (exec (handleRegisterPasskey fault save now req) w).2 =
      { ctx := w.ctx.recordAudit .passkeyRegistered req.auditPayload
        file := .ok (map.insert req.credentialId (req.stored now)) } := by
  rw [handleRegisterPasskey]
  by_cases hw : req.walletId = ""
  · rw [if_pos hw]
    exact .inl rfl
  rw [if_neg hw, exec_bind_of_ok (exec_get w)]
  rcases hr : w.registered fault save now req with e | new
  · exact .inl (by rw [exec_lift_bind_of_error rfl])
  · obtain ⟨map, hfile, rfl⟩ := registered_eq_ok hr
    exact .inr ⟨map, hfile, by rw [exec_lift_bind_of_ok rfl, exec_modify]⟩

theorem AgentContext.Bound.insert {ctx : AgentContext} {map : Passkeys} {id : String} {stored : StoredPasskeyPubkey}
    (h : ctx.Bound c map) (hkeep : ∀ v, ctx.passkeyVerifiers.lookup id = some v →
      toPasskeyPubkey c stored = .ok v.storedPubkey) :
    ctx.Bound c (map.insert id stored) := by
  intro id' v hv
  obtain ⟨hcred, stored', hl, hk⟩ := h id' v hv
  refine ⟨hcred, ?_⟩
  by_cases hid : id' = id
  · subst hid
    exact ⟨stored, AList.lookup_insert _, hkeep v hv⟩
  · exact ⟨stored', (AList.lookup_insert_ne hid).trans hl, hk⟩

theorem PasskeyWorld.Bound.step {call : PasskeyCall} (h : w.Bound c) (hkeep : w.KeepsKeys c call) :
    (w.step c call).Bound c := by
  intro map hmap
  cases call with
  | register req now fault save =>
    rcases w.register_cases req now fault save with heq | ⟨old, hold, heq⟩ <;>
      rw [PasskeyWorld.step, heq] at hmap ⊢
    · exact h map hmap
    · cases hmap
      exact AgentContext.Bound.insert (h old hold) hkeep
  | generateChallenge id _ draws fault =>
    exact Triple.final (handleGenerateChallenge_bound (serves hmap fault) draws id) (h map hmap)
  | verify auth clock fault =>
    have hkeeps : Prog.Preserves (AgentContext.Bound c map) (verifyPasskey c clock (w.openStore fault) auth) :=
      .of_triple (verifyPasskey_checked (serves hmap fault) auth) (fun _ _ hq => hq.1) fun _ _ he => he
    exact hkeeps w.ctx (h map hmap)
  | restart => exact AgentContext.bound_fresh

theorem PasskeyWorld.Bound.run {calls : List PasskeyCall} (h : w.Bound c) (hkeep : w.KeepsKeysAlong c calls) :
    (w.run c calls).Bound c := by
  induction calls generalizing w with
  | nil => exact h
  | cons _ _ ih => exact ih (h.step hkeep.1) hkeep.2

/-- **An accepted proof was checked under the key in the file**, and the answer is the record of that
key, after every run whose registrations keep the keys of the verifiers there are. -/
theorem verified_under_stored_key (file : Except PasskeyStoreError Passkeys) (calls : List PasskeyCall)
    (hkeep : (PasskeyWorld.start file).KeepsKeysAlong c calls) :
    ((PasskeyWorld.start file).run c calls).Coherent c := by
  have hstart : (PasskeyWorld.start file).Bound c := fun _ _ => AgentContext.bound_fresh
  exact (hstart.run hkeep).coherent

end Runs

/-! ### A replaced key -/

def echoCrypto : PasskeyCrypto where
  p256FromSec1Bytes _ := .error "unsupported"
  p256SignatureFromSlice _ := none
  p256Verify _ _ _ := false
  ed25519FromBytes b := .ok b
  ed25519SignatureFromSlice s := some s
  ed25519Verify vk _ sig := vk == sig

def registration (walletId : String) (key : UInt8) : PasskeyCall :=
  .register ⟨walletId, "cred", "ed25519", List.replicate 32 key, ""⟩ 1000 none none

theorem length_sevens : (List.replicate 32 (7 : UInt8)).length = 32 := rfl

def challengeCred : PasskeyCall := .generateChallenge "cred" (fun _ => 1000) [⟨List.replicate 32 7, length_sevens⟩] none

def proofBy (key : UInt8) : PasskeyAuthorization := ⟨List.replicate 32 7, List.replicate 32 key, "cred"⟩

/-- The credential is registered with key 1 for `wallet-a`, challenged, and registered again with
key 2 for `wallet-b`. -/
def replacedKey : PasskeyWorld :=
  (PasskeyWorld.start (.ok ∅)).run echoCrypto [registration "wallet-a" 1, challengeCred, registration "wallet-b" 2]

/-- **The replaced key still authorizes.**  The holder of key 1 is accepted and the answer names
`wallet-b`, although the key stored for the credential is key 2 and does not verify the signature. -/
theorem verified_under_replaced_key :
    (replacedKey.verify echoCrypto (proofBy 1) (fun _ => 1001) none).1.toOption =
      some ⟨"ed25519", List.replicate 32 2, "wallet-b", 1000, "localhost"⟩ ∧
    ¬ replacedKey.Coherent echoCrypto := by
  have hok : (replacedKey.verify echoCrypto (proofBy 1) (fun _ => 1001) none).1.toOption =
      some ⟨"ed25519", List.replicate 32 2, "wallet-b", 1000, "localhost"⟩ := by decide +kernel
  refine ⟨hok, fun h => ?_⟩
  obtain ⟨-, -, -, pk, hpk, hcheck⟩ := h (proofBy 1) (fun _ => 1001) none _ _
    (Prod.ext (Outcome.eq_ok_iff_toOption.mpr hok) rfl)
  cases hpk
  exact absurd hcheck (by decide)

/-- Registered once, the credential's own key is what is checked. -/
theorem registered_once_coherent :
    ((PasskeyWorld.start (.ok ∅)).run echoCrypto [registration "wallet-a" 1, challengeCred]).Coherent echoCrypto := by
  refine verified_under_stored_key _ _ ⟨?_, trivial, trivial⟩
  nofun

end OneCipher.KeyAgent
