import OneCipher.Core.Chain
import OneCipher.KeyAgent.NonceStore
import OneCipher.KeyAgent.PasskeyRuns
import OneCipher.KeyAgent.Proto
import OneCipher.Siwx.Validate
import OneCipher.Wallet.PolicyStore

/-!
# OneCipher.KeyAgent.SignSiwx — sign-in messages and their single use over time

`handle_sign_siwx` of `oc-keyagent/src/handler.rs` and runs of it, one request after the other, with passkey
requests in between.  A request is admitted when it is authorized, its message parses, is bound to the chain and in
its temporal window, and the registry of `KeyAgent.NonceStore` takes its hash; only then does the wallet sign.
-/

namespace OneCipher.KeyAgent

open Prog Siwx
open NonceStore (HasRoom consume_eq_ok)

/-! ## The handler -/

/-- What the handler uses of other crates, and its configuration. -/
structure SiwxHost where
  crypto : PasskeyCrypto
  lib : SiwxLib
  sha256 : Bytes → { b : Bytes // b.length = 32 }
  toLowercase : String → String
  auditFailClosed : Bool

/-- A request with what it meets: the instants at which it reads the clock and the faults. -/
structure SiwxCall where
  req : AuthClassRequest
  passkeyClock : Nat → Nat
  passkeyFault : Option PasskeyStoreError
  internalToken : Option (Option Bytes)
  validatedAt : Int
  defaultedAt : Int
  loadedAt : Int
  savedAt : Int
  saveFault : Option NonceStoreError
  signed : Except String (Bytes × String × Bytes)
  auditFault : Option String

/-- The process, the file of registered keys and the registry of consumed messages. -/
structure SiwxWorld where
  passkeys : PasskeyWorld
  nonces : NonceFile

/-- `now_unix` at an instant. -/
def nowUnix (t : Int) : Nat := (t / nanosPerSec).toNat

def siwxExpectedChainName (ns : String) : Option String :=
  if ns = "eip155" then some "Ethereum" else if ns = "solana" then some "Solana" else none

def paramError (detail : String) : Fault KeyAgentResponse := .err (.error (coded .param detail))

def SiwxWorld.putCtx (ctx : AgentContext) (w : SiwxWorld) : SiwxWorld :=
  { w with passkeys := { w.passkeys with ctx := ctx } }

def SiwxWorld.recordAudit (event : EventType) (payload : Json) (w : SiwxWorld) : SiwxWorld :=
  w.putCtx (w.passkeys.ctx.recordAudit event payload)

/-- `verify_passkey_for`: the credential must be registered for the wallet. -/
def verifyPasskeyFor (c : PasskeyCrypto) (clock : Nat → Nat) (opened : Except PasskeyStoreError PasskeyPubkeyStore)
    (auth : PasskeyAuthorization) (walletId : String) : Prog AgentContext KeyAgentResponse StoredPasskeyPubkey := do
  let stored ← verifyPasskey c clock opened auth
  if stored.walletId ≠ walletId then do
    modify (·.recordAudit .authFailed (.obj [("reason", .str "passkey wallet binding mismatch"),
      ("bound_wallet", .str stored.walletId), ("requested_wallet", .str walletId)]))
    fail (.error (coded .auth "passkey is not registered for this wallet"))
  else pure stored

section Handler

variable (host : SiwxHost) (req : AuthClassRequest) (call : SiwxCall)

def checkSiwxParams : Outcome KeyAgentResponse Unit :=
  if req.walletId = "" then .error (paramError "missing wallet_id")
  else if req.chainId = "" then .error (paramError "missing chain_id")
  else if req.message = [] then .error (paramError "missing message")
  else .ok ()

def authorizeSiwx : Prog SiwxWorld KeyAgentResponse String :=
  match call.req.auth with
  | some auth =>
    if call.req.agentToken ≠ [] then
      lift (.error (paramError "sign_siwx request must carry either auth or agent_token, not both"))
    else do
      let w ← get
      let _ ← zoom (·.passkeys.ctx) SiwxWorld.putCtx (verifyPasskeyFor host.crypto call.passkeyClock
        (w.passkeys.openStore call.passkeyFault) auth call.req.walletId)
      pure "passkey"
  | none => match call.internalToken with
    | none => fail (.error (coded .internal "sign_auth internal token mutex poisoned"))
    | some none => fail (.error (coded .auth "sign_auth internal token not configured"))
    | some (some expected) =>
      if call.req.agentToken = [] then fail (.deny .passkeyForged)
      else if call.req.agentToken ≠ expected then do
        modify (·.recordAudit .authFailed (.obj [("action", .str "sign_siwx_internal_token_mismatch"),
          ("wallet_id", .str call.req.walletId)]))
        fail (.deny .passkeyForged)
      else pure "internal_token"

def readSiwxMessage : Outcome KeyAgentResponse SiwxMessage :=
  match Wallet.utf8Text req.message with
  | none => .error (paramError "sign_siwx message is not valid UTF-8")
  | some raw => match SiwxMessage.fromStr host.lib raw with
    | .error e => .error (paramError ("invalid CAIP-122 message: " ++ e.display host.lib))
    | .ok msg => .ok msg

def checkSiwxChain (msg : SiwxMessage) : Outcome KeyAgentResponse Unit :=
  match Core.splitColon req.chainId with
  | none => .error (paramError ("chain_id '" ++ req.chainId ++ "' is not CAIP-2"))
  | some (ns, reference) => match siwxExpectedChainName ns with
    | none => .error (paramError ("unsupported sign-in namespace: " ++ ns))
    | some expected =>
      if reference ≠ msg.chainId then
        .error (paramError ("chain_id mismatch: request '" ++ req.chainId ++ "' != message '" ++ msg.chainId ++ "'"))
      else if msg.chainName ≠ some expected then
        .error (paramError ("chain name mismatch: expected " ++ expected ++ ", got " ++ host.lib.debug msg.chainName))
      else .ok ()

def siwxErrCode : SiwxError → ErrCode
  | .expired | .notYetValid | .staleIssuedAt => .auth
  | _ => .param

/-- The message is bound to its own domain and nonce, so shapes and temporal window remain to check. -/
def validateSiwx (msg : SiwxMessage) : Outcome KeyAgentResponse Unit :=
  (msg.validate host.lib call.validatedAt (AuthOpts.new msg.domain msg.nonce)).mapError fun e =>
    .err (.error (coded (siwxErrCode e) ("siwx validation: " ++ e.display host.lib)))

def SiwxCall.consume (msg : SiwxMessage) : Consume where
  messageHash := host.sha256 call.req.message
  expiresAtUnix := match msg.expirationTime with
    | some exp => (exp.parsed / nanosPerSec).toNat
    | none => nowUnix call.defaultedAt + defaultSiwzTtlSecs

def SiwxCall.consumed (msg : SiwxMessage) (file : NonceFile) : Except NonceStoreError Unit × NonceFile :=
  NonceStore.consume (call.consume host msg) (nowUnix call.loadedAt) (nowUnix call.savedAt) call.saveFault file

def replayPayload (msg : SiwxMessage) : Json :=
  .obj [("action", .str "sign_siwx_replay"), ("wallet_id", .str call.req.walletId), ("domain", .str msg.domain)]

def consumeSiwx (msg : SiwxMessage) : Prog SiwxWorld KeyAgentResponse Unit := do
  let w ← get
  match call.consumed host msg w.nonces with
  | (.ok (), file) => modify fun w => { w with nonces := file }
  | (.error .replay, _) => do
    modify (·.recordAudit .authFailed (replayPayload call msg))
    fail (.error (coded .auth "siwx message already consumed (replay detected)"))
  | (.error e, _) => fail (.error (coded .internal ("siwx nonce store: " ++ e.message)))

def admitSiwx : Prog SiwxWorld KeyAgentResponse (String × SiwxMessage) := do
  lift (checkSiwxParams call.req)
  let mode ← authorizeSiwx host call
  let msg ← lift (readSiwxMessage host call.req)
  lift (checkSiwxChain host call.req msg)
  lift (validateSiwx host call msg)
  consumeSiwx host call msg
  return (mode, msg)

def signedPayload (address mode : String) (msg : SiwxMessage) : Json :=
  .obj [("chain_id", .str call.req.chainId), ("wallet_id", .str call.req.walletId), ("domain", .str msg.domain),
    ("address", .str address), ("mode", .str mode)]

def auditSiwx (payload : Json) : Prog SiwxWorld KeyAgentResponse Unit :=
  match call.auditFault with
  | none => modify (·.recordAudit .siwxSigned payload)
  | some e => if host.auditFailClosed then fail (.error (coded .audit ("audit unavailable: " ++ e))) else pure ()

/-- The rest of the handler: sign, check that the wallet owns the address, write the audit entry. -/
def signAdmitted (mode : String) (msg : SiwxMessage) : Prog SiwxWorld KeyAgentResponse AccountSignature := do
  let (signature, address, publicKey) ← lift (call.signed.mapError fun e => .err (.error e))
  if host.toLowercase address ≠ host.toLowercase msg.address then
    fail (.error (coded .auth ("message address " ++ msg.address ++ " is not owned by wallet " ++ call.req.walletId)))
  else do
    auditSiwx host call (signedPayload call address mode msg)
    pure ⟨signature, address, call.req.chainId, publicKey⟩

/-- `handle_sign_siwx`: an error response is a failure here. -/
def handleSignSiwx : Prog SiwxWorld KeyAgentResponse AccountSignature := do
  let (mode, msg) ← admitSiwx host call
  signAdmitted host call mode msg

end Handler

/-! ## What the handler does to the registry -/

variable {now : Nat} {file : NonceFile} {msg : SiwxMessage} {w : SiwxWorld}

section Registry

variable {host : SiwxHost} {call : SiwxCall}

theorem authorizeSiwx_nonces (file : NonceFile) : Preserves (fun w => w.nonces = file) (authorizeSiwx host call) := by
  rw [authorizeSiwx]
  rcases call.req.auth with _ | auth
  · rcases call.internalToken with _ | _ | expected
    · exact .fail _
    · exact .fail _
    · refine .ite (.fail _) (.ite ?_ (.pure _))
      exact .bind (.modify fun _ h => h) fun _ => .fail _
  · refine .ite (.lift _) (.bind .get fun w => ?_)
    exact .bind (.zoom fun _ _ h => h) fun _ => .pure _

theorem signAdmitted_nonces (I : NonceFile → Prop) (mode : String) (msg : SiwxMessage) :
    Preserves (fun w => I w.nonces) (signAdmitted host call mode msg) := by
  refine .bind (.lift _) fun signed => .ite (.fail _) ?_
  refine .bind ?_ fun _ => .pure _
  rw [auditSiwx]
  rcases call.auditFault with _ | e
  · exact .modify fun _ h => h
  · exact .ite (.fail _) (.pure _)

/-- The registry took the hash of the call's message, which parsed and was in its window. -/
def SiwxCall.Took (host : SiwxHost) (call : SiwxCall) (before after : NonceFile) : Prop :=
  ∃ msg, readSiwxMessage host call.req = .ok msg ∧ validateSiwx host call msg = .ok () ∧
    call.consumed host msg before = (.ok (), after)

theorem consumeSiwx_took (hread : readSiwxMessage host call.req = .ok msg)
    (hvalid : validateSiwx host call msg = .ok ()) (file : NonceFile) :
    Triple (fun w => w.nonces = file) (consumeSiwx host call msg)
      (fun _ w => call.Took host file w.nonces) (fun _ w => w.nonces = file) := by
  intro w hw
  rw [consumeSiwx, exec_bind_of_ok (exec_get w), hw]
  rcases hc : call.consumed host msg file with ⟨_ | ⟨⟩, after⟩
  · rename_i e
    cases e <;> exact hw
  · exact ⟨msg, hread, hvalid, hc⟩

theorem readSiwxMessage_of_text {req : AuthClassRequest} {raw : String}
    (htext : Wallet.utf8Text req.message = some raw) (hmsg : (SiwxMessage.fromStr host.lib raw).toOption = some msg) :
    readSiwxMessage host req = .ok msg := by
  rw [readSiwxMessage, htext]
  dsimp only
  rcases hparse : SiwxMessage.fromStr host.lib raw with e | m <;> rw [hparse] at hmsg
  · cases hmsg
  · rw [Option.some.inj hmsg]

theorem exec_consumeSiwx_of_ok (h : call.consumed host msg w.nonces = (.ok (), file)) :
    exec (consumeSiwx host call msg) w = (.ok (), { w with nonces := file }) := by
  rw [consumeSiwx, exec_bind_of_ok (exec_get w), h]
  rfl

theorem exec_admitSiwx_of_ok {v : SiwxWorld} {mode : String} (hparams : checkSiwxParams call.req = .ok ())
    (hauth : exec (authorizeSiwx host call) w = (.ok mode, v)) (hread : readSiwxMessage host call.req = .ok msg)
    (hchain : checkSiwxChain host call.req msg = .ok ()) (hvalid : validateSiwx host call msg = .ok ())
    (htook : call.consumed host msg v.nonces = (.ok (), file)) :
    exec (admitSiwx host call) w = (.ok (mode, msg), { v with nonces := file }) := by
  rw [admitSiwx, exec_lift_bind_of_ok hparams, exec_bind_of_ok hauth, exec_lift_bind_of_ok hread,
    exec_lift_bind_of_ok hchain, exec_lift_bind_of_ok hvalid, exec_bind_of_ok (exec_consumeSiwx_of_ok htook), exec_pure]

theorem admitSiwx_took (file : NonceFile) :
    Triple (fun w => w.nonces = file) (admitSiwx host call)
      (fun _ w => call.Took host file w.nonces) (fun _ w => w.nonces = file) := by
  refine .bind (Q := fun _ w => w.nonces = file) (.lift (fun _ _ _ h => h) fun _ _ _ h => h) fun _ => ?_
  refine .bind (authorizeSiwx_nonces file).triple fun mode => ?_
  refine .bind (Q := fun msg w => w.nonces = file ∧ readSiwxMessage host call.req = .ok msg)
    (.lift (fun _ _ hr h => ⟨h, hr⟩) fun _ _ _ h => h) fun msg => ?_
  refine .bind (Q := fun _ w => w.nonces = file ∧ readSiwxMessage host call.req = .ok msg)
    (.lift (fun _ _ _ h => h) fun _ _ _ h => h.1) fun _ => ?_
  refine .bind (Q := fun _ w => (w.nonces = file ∧ readSiwxMessage host call.req = .ok msg) ∧
    validateSiwx host call msg = .ok ()) (.lift (fun _ _ hv h => ⟨h, hv⟩) fun _ _ _ h => h.1) fun _ => ?_
  refine .bind (Q := fun _ w => call.Took host file w.nonces) ?_ fun _ => .pure fun _ h => h
  intro w hw
  exact consumeSiwx_took hw.1.2 hw.2 file w hw.1.1

theorem handleSignSiwx_nonces (w : SiwxWorld) :
    (exec (handleSignSiwx host call) w).2.nonces = w.nonces ∨
      call.Took host w.nonces (exec (handleSignSiwx host call) w).2.nonces := by
  let I (file : NonceFile) : Prop := file = w.nonces ∨ call.Took host w.nonces file
  have hadmitted : Triple (fun u => u.nonces = w.nonces) (admitSiwx host call) (fun _ u => I u.nonces)
      (fun _ u => I u.nonces) :=
    (admitSiwx_took w.nonces).conseq (fun _ h => h) (fun _ _ h => .inr h) fun _ _ h => .inl h
  have hsign : ∀ admitted : String × SiwxMessage, Triple (fun u => I u.nonces)
      (signAdmitted host call admitted.1 admitted.2) (fun _ u => I u.nonces) (fun _ u => I u.nonces) :=
    fun admitted => (signAdmitted_nonces I admitted.1 admitted.2).triple
  exact Triple.final (R := fun u : SiwxWorld => I u.nonces) (hadmitted.bind hsign) rfl

end Registry

/-! ## Runs -/

/-- A step of a run: a request to sign in, or a request about passkeys (or a restart). -/
inductive SiwxStep where
  | sign (call : SiwxCall)
  | passkey (call : PasskeyCall)

section Runs

variable (host : SiwxHost)

def SiwxWorld.step (w : SiwxWorld) : SiwxStep → SiwxWorld
  | .sign call => (exec (handleSignSiwx host call) w).2
  | .passkey call => { w with passkeys := w.passkeys.step host.crypto call }

def SiwxWorld.run (w : SiwxWorld) (steps : List SiwxStep) : SiwxWorld := steps.foldl (SiwxWorld.step host) w

/-- The request is authorized, passes the temporal validation and the single-use check. -/
def SiwxWorld.Admits (w : SiwxWorld) (call : SiwxCall) : Prop := Returns (admitSiwx host call) w

/-- Once a message that carries an expiration time is admitted, no later request with its hash is. -/
def SiwxWorld.AdmitsOnce (w : SiwxWorld) (steps : List SiwxStep) : Prop :=
  ∀ pre first mid later post msg, steps = pre ++ .sign first :: (mid ++ .sign later :: post) →
    (w.run host pre).Admits host first → readSiwxMessage host first.req = .ok msg → msg.expirationTime.isSome →
    host.sha256 later.req.message = host.sha256 first.req.message →
    ¬ (w.run host (pre ++ .sign first :: mid)).Admits host later

/-- A request reads the clock in order. -/
def SiwxCall.InOrder (call : SiwxCall) : Prop :=
  call.validatedAt ≤ call.defaultedAt ∧ call.defaultedAt ≤ call.loadedAt ∧ call.loadedAt ≤ call.savedAt

/-- The clock never goes back, within a request or from one to a later one. -/
def NonDecreasing (steps : List SiwxStep) : Prop :=
  (∀ call, .sign call ∈ steps → call.InOrder) ∧
    steps.Pairwise fun a b => ∀ c d, a = .sign c → b = .sign d → c.savedAt ≤ d.validatedAt

/-- Every request of the run finds fewer live entries than the registry holds at most. -/
def SiwxWorld.RoomyAlong (w : SiwxWorld) (steps : List SiwxStep) : Prop :=
  ∀ pre call post, steps = pre ++ .sign call :: post → HasRoom (nowUnix call.loadedAt) (w.run host pre).nonces

/-- The later request comes while the entry of the first one lives, or more than the skew after its
own message's expiration. -/
def Apart (first later : SiwxCall) : Prop :=
  host.sha256 later.req.message = host.sha256 first.req.message →
  ∀ msg msg', readSiwxMessage host first.req = .ok msg → readSiwxMessage host later.req = .ok msg' →
    nowUnix later.loadedAt < (first.consume host msg).expiry (nowUnix first.savedAt) ∨
    ∃ exp, msg'.expirationTime = some exp ∧ later.validatedAt - exp.parsed > defaultClockSkewSecs * nanosPerSec

/-- No request of the run comes in the minute of skew after an entry of its hash ran out. -/
def OutsideSkew (steps : List SiwxStep) : Prop :=
  steps.Pairwise fun a b => ∀ c d, a = .sign c → b = .sign d → Apart host c d

variable {host}

/-- The file has a live entry for the hash. -/
def Holds (c : Consume) (exp : Nat) (file : NonceFile) : Prop :=
  ∃ map : Nonces, file = .ok map ∧ map.lookup c.key = some exp

variable {c : Consume} {exp : Nat}

theorem Holds.refuses {d : Consume} (h : Holds c exp file) (hlive : now < exp) (hhash : d.messageHash = c.messageHash)
    {map : Nonces} (hb : d.begin now file = .inr map) : False := by
  obtain ⟨stored, rfl, hl⟩ := h
  obtain ⟨stored', hs, rfl, hkey⟩ := Consume.begin_eq_inr hb
  cases hs
  have hk : d.key = c.key := by rw [Consume.key, Consume.key, hhash]
  have hkept : (stored.retain fun _ e => decide (e > now)).lookup c.key = some exp :=
    Store.lookup_retain.mpr ⟨hl, decide_eq_true hlive⟩
  refine hkey ?_
  rw [hk, ← AList.lookup_isSome, hkept]
  rfl

theorem Holds.consume {d : Consume} {savedAt : Nat} {fault : Option NonceStoreError} {file' : NonceFile}
    (h : Holds c exp file) (hlive : now < exp) (hroom : HasRoom now file)
    (hd : NonceStore.consume d now savedAt fault file = (.ok (), file')) : Holds c exp file' := by
  obtain ⟨map, hb, rfl⟩ := consume_eq_ok hd
  have hne : c.key ≠ d.key := fun he => h.refuses hlive (Consume.key_inj he).symm hb
  obtain ⟨stored, rfl, hl⟩ := h
  obtain ⟨stored', hs, rfl, -⟩ := Consume.begin_eq_inr hb
  cases hs
  refine ⟨_, rfl, ?_⟩
  rw [Consume.finish_of_lt (hroom _ rfl), AList.lookup_insert_ne hne]
  exact Store.lookup_retain.mpr ⟨hl, decide_eq_true hlive⟩

theorem holds_of_consume {savedAt : Nat} {fault : Option NonceStoreError} {file' : NonceFile}
    (hroom : HasRoom now file) (h : NonceStore.consume c now savedAt fault file = (.ok (), file')) :
    Holds c (c.expiry savedAt) file' := by
  obtain ⟨map, hb, rfl⟩ := consume_eq_ok h
  obtain ⟨stored, rfl, rfl, -⟩ := Consume.begin_eq_inr hb
  refine ⟨_, rfl, ?_⟩
  rw [Consume.finish_of_lt (hroom _ rfl), AList.lookup_insert]

theorem Holds.step {s : SiwxStep} (h : Holds c exp w.nonces)
    (hlive : ∀ call, s = .sign call → nowUnix call.loadedAt < exp)
    (hroom : ∀ call, s = .sign call → HasRoom (nowUnix call.loadedAt) w.nonces) :
    Holds c exp (w.step host s).nonces := by
  rcases s with call | call
  · rcases handleSignSiwx_nonces w with heq | ⟨msg, -, -, htook⟩
    · rw [SiwxWorld.step, heq]
      exact h
    · exact h.consume (hlive call rfl) (hroom call rfl) htook
  · exact h

theorem SiwxWorld.run_nil (w : SiwxWorld) : w.run host [] = w := rfl

theorem SiwxWorld.run_cons (w : SiwxWorld) (s : SiwxStep) (rest : List SiwxStep) :
    w.run host (s :: rest) = (w.step host s).run host rest := rfl

theorem SiwxWorld.run_append (w : SiwxWorld) (xs ys : List SiwxStep) :
    w.run host (xs ++ ys) = (w.run host xs).run host ys := List.foldl_append

theorem Holds.run {steps : List SiwxStep} (h : Holds c exp w.nonces)
    (hlive : ∀ call, .sign call ∈ steps → nowUnix call.loadedAt < exp) (hroom : w.RoomyAlong host steps) :
    Holds c exp (w.run host steps).nonces := by
  induction steps generalizing w with
  | nil => exact h
  | cons s rest ih =>
    refine ih (h.step ?_ ?_) ?_ ?_
    · rintro call rfl
      exact hlive call List.mem_cons_self
    · rintro call rfl
      exact hroom [] call rest rfl
    · intro call hmem
      exact hlive call (List.mem_cons_of_mem _ hmem)
    · intro pre call post heq
      exact hroom (s :: pre) call post (by rw [heq, List.cons_append])

theorem nonces_step_of_admits {t : SiwxWorld} {call : SiwxCall} {admitted : String × SiwxMessage}
    (h : exec (admitSiwx host call) w = (.ok admitted, t)) : (w.step host (.sign call)).nonces = t.nonces := by
  rw [SiwxWorld.step, handleSignSiwx, exec_bind_of_ok h]
  exact signAdmitted_nonces (· = t.nonces) admitted.1 admitted.2 t rfl

theorem holds_of_admits {call : SiwxCall} (h : w.Admits host call) (hread : readSiwxMessage host call.req = .ok msg)
    (hroom : HasRoom (nowUnix call.loadedAt) w.nonces) :
    Holds (call.consume host msg) ((call.consume host msg).expiry (nowUnix call.savedAt))
      (w.step host (.sign call)).nonces := by
  obtain ⟨admitted, t, hexec⟩ := h
  obtain ⟨msg', hread', -, htook⟩ := (admitSiwx_took w.nonces).ok rfl hexec
  obtain rfl := Except.ok.inj (hread.symm.trans hread')
  rw [nonces_step_of_admits hexec]
  exact holds_of_consume hroom htook

theorem validateSiwx_in_skew {call : SiwxCall} {exp : Timestamp} (h : validateSiwx host call msg = .ok ())
    (hexp : msg.expirationTime = some exp) :
    call.validatedAt - exp.parsed ≤ defaultClockSkewSecs * nanosPerSec := by
  have hvalid := Result.mapError_eq_ok.mp h
  simp only [SiwxMessage.validate, Result.bind_eq_ok] at hvalid
  obtain ⟨-, -, -, -, -, -, -, -, -, -, -, -, -, -, -, -, -, -, -, -, -, -, hwindow⟩ := hvalid
  exact SiwxMessage.checkTemporalWindow_eq_ok hwindow hexp

theorem pairwise_of_split {R : SiwxStep → SiwxStep → Prop} {pre mid post : List SiwxStep} {a b : SiwxStep}
    (h : (pre ++ a :: (mid ++ b :: post)).Pairwise R) : R a b ∧ ∀ s ∈ mid, R s b := by
  have htail := List.pairwise_cons.mp (List.pairwise_append.mp h).2.1
  have hmid := List.pairwise_append.mp htail.2
  exact ⟨htail.1 b (by simp), fun s hs => hmid.2.2 s hs b List.mem_cons_self⟩

/-- **A message with an expiration time is admitted at most once**, in every run under a clock that
does not go back, with room in the registry, whose requests stay out of the skew after an entry of
their hash has run out. -/
theorem admitted_at_most_once (w : SiwxWorld) (steps : List SiwxStep) (hclock : NonDecreasing steps)
    (hroom : w.RoomyAlong host steps) (hskew : OutsideSkew host steps) : w.AdmitsOnce host steps := by
  rintro pre first mid later post msg rfl hfirst hread - hhash hlater
  obtain ⟨admitted, t, hexec⟩ := hlater
  obtain ⟨msg', hread', hvalid, htook⟩ := (admitSiwx_took _).ok rfl hexec
  have hapart : Apart host first later := (pairwise_of_split hskew).1 _ _ rfl rfl
  rcases hapart hhash msg msg' hread hread' with hlive | ⟨exp, hexp, hlate⟩
  · -- the first request's entry is still there at the later load, so the later consume refuses
    have hmid : ∀ call, .sign call ∈ mid → nowUnix call.loadedAt <
        (first.consume host msg).expiry (nowUnix first.savedAt) := by
      intro call hmem
      have hbefore : call.loadedAt ≤ later.loadedAt := by
        have hcall := hclock.1 call (by simp [hmem])
        have hlast := hclock.1 later (by simp)
        have hnext := (pairwise_of_split hclock.2).2 (.sign call) hmem call later rfl rfl
        exact hcall.2.2.trans (hnext.trans (hlast.1.trans hlast.2.1))
      exact (Int.toNat_le_toNat (Int.ediv_le_ediv (by decide) hbefore)).trans_lt hlive
    have hroom_mid : ((w.run host pre).step host (.sign first)).RoomyAlong host mid := by
      intro pre' call post' heq
      have := hroom (pre ++ .sign first :: pre') call (post' ++ .sign later :: post) (by simp [heq])
      rwa [SiwxWorld.run_append] at this
    have hholds := (holds_of_admits hfirst hread (hroom pre first _ rfl)).run hmid hroom_mid
    rw [SiwxWorld.run_append] at htook
    obtain ⟨map, hb, -⟩ := consume_eq_ok htook
    exact hholds.refuses hlive hhash hb
  · have := validateSiwx_in_skew hvalid hexp
    omega

end Runs

/-! ### In the minute after the expiration, and before it -/

theorem length_take_pad (b : Bytes) : ((b ++ List.replicate 32 0).take 32).length = 32 := by
  simp

def sampleSiwxHost : SiwxHost where
  crypto := echoCrypto
  lib := sampleLib
  sha256 b := ⟨(b ++ List.replicate 32 0).take 32, length_take_pad b⟩
  toLowercase s := s
  auditFailClosed := true

def signInReq : AuthClassRequest := ⟨"w1", "eip155:1", Text.utf8 sampleText, none, [1]⟩

def signInAt (sec : Int) : SiwxCall where
  req := signInReq
  passkeyClock _ := 0
  passkeyFault := none
  internalToken := some (some [1])
  validatedAt := sec * nanosPerSec
  defaultedAt := sec * nanosPerSec
  loadedAt := sec * nanosPerSec
  savedAt := sec * nanosPerSec
  saveFault := none
  signed := .ok ([9], "0xaa", [2])
  auditFault := none

def freshSiwx : SiwxWorld := ⟨.start (.ok ∅), .ok ∅⟩

theorem readSiwxMessage_signInReq : readSiwxMessage sampleSiwxHost signInReq = .ok sampleMessage := by
  have htext : Wallet.utf8Text signInReq.message = some sampleText := by rw [signInReq, Wallet.utf8Text_utf8]
  exact readSiwxMessage_of_text htext fromStr_sampleText

theorem checkSiwxParams_signInReq : checkSiwxParams signInReq = .ok () := by
  have hmessage : signInReq.message ≠ [] := by
    intro h
    dsimp only [signInReq] at h
    have hround := Wallet.utf8Text_utf8 sampleText
    rw [h] at hround
    exact absurd hround (by decide +kernel)
  rw [checkSiwxParams, if_neg (by decide +kernel), if_neg (by decide +kernel), if_neg hmessage]

theorem admits_signInAt {sec : Int} (hvalid : (validateSiwx sampleSiwxHost (signInAt sec) sampleMessage).isOk = true)
    (htook : (signInAt sec).consumed sampleSiwxHost sampleMessage w.nonces = (.ok (), file)) :
    exec (admitSiwx sampleSiwxHost (signInAt sec)) w =
      (.ok ("internal_token", sampleMessage), { w with nonces := file }) := by
  have hchain : checkSiwxChain sampleSiwxHost signInReq sampleMessage = .ok () :=
    Outcome.eq_ok_unit.mpr (by decide +kernel)
  exact exec_admitSiwx_of_ok checkSiwxParams_signInReq rfl readSiwxMessage_signInReq hchain (Outcome.eq_ok_unit.mpr hvalid) htook

def twiceAt (s t : Int) : List SiwxStep := [.sign (signInAt s), .sign (signInAt t)]

theorem nonDecreasing_twiceAt {s t : Int} (h : s ≤ t) : NonDecreasing (twiceAt s t) := by
  refine ⟨?_, ?_⟩
  · intro call hmem
    simp only [twiceAt, List.mem_cons, SiwxStep.sign.injEq, List.not_mem_nil, or_false] at hmem
    rcases hmem with rfl | rfl <;> exact ⟨le_refl _, le_refl _, le_refl _⟩
  · refine List.pairwise_pair.mpr ?_
    intro c d hc hd
    cases hc
    cases hd
    exact Int.mul_le_mul_of_nonneg_right h (by decide)

def firstEntry (s : Int) : Nonces :=
  (∅ : Nonces).insert ((signInAt s).consume sampleSiwxHost sampleMessage).key
    (((signInAt s).consume sampleSiwxHost sampleMessage).expiry (nowUnix (signInAt s).savedAt))

theorem consumed_empty (s : Int) :
    (signInAt s).consumed sampleSiwxHost sampleMessage (.ok ∅) = (.ok (), .ok (firstEntry s)) := rfl

theorem hasRoom_of_size {map : Nonces} (h : map.size < maxNonceEntries) : HasRoom now (.ok map) := by
  intro kept hkept
  cases hkept
  exact (Store.size_retain_le _ _).trans_lt h

theorem roomyAlong_twiceAt {s t : Int} (hfirst : (validateSiwx sampleSiwxHost (signInAt s) sampleMessage).isOk = true) :
    freshSiwx.RoomyAlong sampleSiwxHost (twiceAt s t) := by
  intro pre call post heq
  rcases pre with _ | ⟨a, _ | ⟨b, pre⟩⟩
  · exact hasRoom_of_size (by decide)
  · cases heq
    have hadmits := admits_signInAt (w := freshSiwx) hfirst (consumed_empty s)
    have hsize : (firstEntry s).size = 1 := rfl
    rw [SiwxWorld.run_cons, SiwxWorld.run_nil, nonces_step_of_admits hadmits]
    exact hasRoom_of_size (hsize ▸ by decide)
  · simp [twiceAt] at heq

/-- **A message is admitted again in the minute after its expiration.**  It expires at second
1767229200 and is presented 200 seconds before and 30 seconds after that. -/
theorem admitted_in_skew_window :
    NonDecreasing (twiceAt 1767229000 1767229230) ∧
    freshSiwx.RoomyAlong sampleSiwxHost (twiceAt 1767229000 1767229230) ∧
    ¬ freshSiwx.AdmitsOnce sampleSiwxHost (twiceAt 1767229000 1767229230) := by
  have hfirst : (validateSiwx sampleSiwxHost (signInAt 1767229000) sampleMessage).isOk = true := by decide +kernel
  have hlater : (validateSiwx sampleSiwxHost (signInAt 1767229230) sampleMessage).isOk = true := by decide +kernel
  refine ⟨nonDecreasing_twiceAt (by decide), roomyAlong_twiceAt hfirst, fun honce => ?_⟩
  have hadmits := admits_signInAt (w := freshSiwx) hfirst (consumed_empty 1767229000)
  have hhash : sampleSiwxHost.sha256 (signInAt 1767229230).req.message =
      sampleSiwxHost.sha256 (signInAt 1767229000).req.message := congrArg _ rfl
  refine honce [] (signInAt 1767229000) [] (signInAt 1767229230) [] sampleMessage rfl ⟨_, _, hadmits⟩
    readSiwxMessage_signInReq rfl hhash ?_
  rw [List.nil_append, SiwxWorld.run_cons, SiwxWorld.run_nil]
  have htook : (signInAt 1767229230).consumed sampleSiwxHost sampleMessage
      (freshSiwx.step sampleSiwxHost (.sign (signInAt 1767229000))).nonces =
      (.ok (), ((signInAt 1767229230).consumed sampleSiwxHost sampleMessage (.ok (firstEntry 1767229000))).2) := by
    rw [nonces_step_of_admits hadmits]
    rfl
  exact ⟨_, _, admits_signInAt hlater htook⟩

/-- Presented a second time before it expires, the message is refused. -/
theorem replay_before_expiration : freshSiwx.AdmitsOnce sampleSiwxHost (twiceAt 1767229000 1767229100) := by
  have hfirst : (validateSiwx sampleSiwxHost (signInAt 1767229000) sampleMessage).isOk = true := by decide +kernel
  refine admitted_at_most_once _ _ (nonDecreasing_twiceAt (by decide)) (roomyAlong_twiceAt hfirst) ?_
  refine List.pairwise_pair.mpr ?_
  intro c d hc hd hhash msg msg' hread hread'
  cases hc
  cases hd
  obtain rfl := Except.ok.inj (readSiwxMessage_signInReq.symm.trans hread)
  exact .inl (by decide)

end OneCipher.KeyAgent
