import OneCipher.Ocwp.State

/-!
# OneCipher.Ocwp.StepUp — minting and redeeming passkey step-up challenges

`handle_passkey_challenge`, `verify_step_up` and the Key-Agent shims they call.  A challenge is minted for a
credential (the client's choice, or the only passkey of the session's wallet) and bound to the session; a proof
redeems the binding, is verified by the Key-Agent, and the wallet of the credential is compared with the session's.
-/

namespace OneCipher.Ocwp

open Prog KeyAgent
open Preserves (lift_bind)
open List (replicate)

variable (w : World)

/-! ## The passkey store and the Key-Agent, as the daemon reaches them -/

def openPasskeyStore {ε : Type} : Prog Daemon ε (Option PasskeyStoreError) := do
  return w.passkeyOpen (← nextTick)

def readPasskeyStore {ε : Type} : Prog Daemon ε PasskeyPubkeyStore := do
  let t ← nextTick
  let passkeys ← reads Daemon.passkeys
  return ⟨match w.passkeyLoad t with
    | some e => .error e
    | none => .ok passkeys⟩

/-- `default_context`: initialised on first use; a failure is not cached. -/
def defaultContext : Prog Daemon String Unit := do
  let t ← nextTick
  let d ← get
  match d.agent, w.agentOpen t with
  | some _, _ => pure ()
  | none, none => modify fun d => { d with agent := some .fresh }
  | none, some e => fail ("internal error: failed to initialize agent context: " ++ e)

def onAgent {α : Type} (m : Prog AgentContext KeyAgentResponse α) : Prog Daemon String α :=
  mapErr KeyAgentResponse.message
    (zoom (fun d => d.agent.getD .fresh) (fun ctx d => { d with agent := some ctx }) m)

def agentPasskeyStore {ε : Type} : Prog Daemon ε (Except PasskeyStoreError PasskeyPubkeyStore) := do
  let openError ← openPasskeyStore w
  let store ← readPasskeyStore w
  return match openError with
    | some e => .error e
    | none => .ok store

/-- `authorize_passkey`. -/
def authorizePasskey (auth : PasskeyAuthorization) : Prog Daemon String Unit := do
  defaultContext w
  let opened ← agentPasskeyStore w
  let t ← nextTick
  let stored ← onAgent (verifyPasskey w.crypto (w.clock t) opened auth)
  emit (.passkeyVerified auth stored)

/-- `generate_passkey_challenge`. -/
def generatePasskeyChallenge (credentialId : String) : Prog Daemon String Nonce := do
  defaultContext w
  let opened ← agentPasskeyStore w
  let t ← nextTick
  onAgent (handleGenerateChallenge w.crypto (w.clock t) opened (w.nonces t) credentialId)

/-! ## The handlers -/

/-- A string field of the request's `passkey` object. -/
def passkeyField (auth : List (String × Json)) (key : String) : Outcome OcwpError String :=
  Outcome.okOr (.invalidParams ("missing passkey." ++ key)) ((auth.lookup key).bind Json.asStr)

def consumeStepUp (challengeHex sessionId : String) : Handler StepUpBinding := do
  let now ← nowUnix w
  let bound ← Prog.state fun d =>
    let (b, s) := StepUpStore.consume now challengeHex sessionId d.stepUp
    (b, { d with stepUp := s })
  lift (Outcome.okOr (.unauthorized "passkey challenge was not issued to this session (or was already used)") bound)

def namedPasskey (credentialId : String) : Handler StoredPasskeyPubkey := do
  let openError ← openPasskeyStore w
  if openError.isSome then fail (.internal "passkey store unavailable") else
  let store ← readPasskeyStore w
  let found ← lift ((store.get credentialId).mapError fun _ => .err (.internal "passkey store unavailable"))
  lift (Outcome.okOr (.unauthorized "passkey not registered") found)

variable (params : Json) (session : SessionEntry)

/-- `verify_step_up`: the binding is consumed before the proof is verified, the proof carries the
credential of the binding, and the wallet check looks up the credential of the request. -/
def verifyStepUp (params : Json) : Handler Unit := do
  let auth ← lift (Outcome.okOr .requirePasskey ((params.get "passkey").bind Json.asObject))
  let challengeHex ← lift (passkeyField auth "challenge_hex")
  let signatureHex ← lift (passkeyField auth "signature_hex")
  let credentialId ← lift (passkeyField auth "credential_id")
  let challenge ← lift (decodeHexField challengeHex "passkey.challenge_hex")
  let bound ← consumeStepUp w challengeHex session.sessionId
  let signature ← lift (decodeHexField signatureHex "passkey.signature_hex")
  mapErr (fun e => .unauthorized ("passkey authorization failed: " ++ e))
    (authorizePasskey w ⟨challenge, signature, bound.credentialId⟩)
  let stored ← namedPasskey w credentialId
  if stored.walletId ≠ session.walletId then fail (.unauthorized "passkey is not bound to this wallet") else
  emit (.stepUp session.sessionId)

/-- The credential registered to a wallet, for an omitted `credential_id`. -/
def resolveWalletCredential (store : PasskeyPubkeyStore) (walletId : String) : Outcome OcwpError String :=
  match store.credentialIdsForWallet walletId with
  | [] => .error (.err (.unauthorized "no passkey is registered for this wallet — register one first"))
  | [only] => .ok only
  | _ => .error (.err (.invalidParams "multiple passkeys are registered for this wallet; specify 'credential_id'"))

def challengeCredential : Handler String :=
  match params.getStr "credential_id" with
  | some id => if Text.trim id = "" then fromWallet else pure id
  | none => fromWallet
where
  fromWallet : Handler String := do
    let store ← readPasskeyStore w
    lift (resolveWalletCredential store session.walletId)

/-- `handle_passkey_challenge`. -/
def handlePasskeyChallenge (origin : String) : Handler Json := do
  let session ← requireSession w params origin
  let openError ← openPasskeyStore w
  if openError.isSome then fail (.internal "passkey store unavailable") else
  let credentialId ← challengeCredential w params session
  let challenge ← mapErr (fun _ => .internal "challenge generation failed")
    (generatePasskeyChallenge w credentialId)
  let store ← readPasskeyStore w
  let stored ← lift ((store.get credentialId).mapError fun _ => .err (.internal "passkey store unavailable"))
  let rpId := (stored.map (·.rpId)).getD StoredPasskeyPubkey.defaultRpId
  let challengeHex := Text.hexEncode challenge.1
  let now ← nowUnix w
  modify fun d => { d with stepUp := d.stepUp.issue now challengeHex session.sessionId credentialId }
  return .obj [("challenge_hex", .str challengeHex), ("rp_id", .str rpId),
    ("credential_id", .str credentialId), ("timeout_ms", .num (.posInt (UInt64.ofNat (stepUpTtlSecs * 1000))))]

/-! ## Every verifier follows the registered keys -/

variable {w} {reg : Passkeys}

/-- The passkeys on disk are `reg`, and the agent's verifiers were made from them. -/
def Daemon.Bound (w : World) (reg : Passkeys) (d : Daemon) : Prop :=
  d.passkeys = reg ∧ ∀ ctx, d.agent = some ctx → ctx.Bound w.crypto reg

variable {ε : Type} {d d' : Daemon}

theorem Daemon.Bound.agent (h : d.Bound w reg) : (d.agent.getD .fresh).Bound w.crypto reg := by
  rcases ha : d.agent with _ | ctx
  · exact AgentContext.bound_fresh
  · exact h.2 ctx ha

theorem nextTick_bound : Preserves (Daemon.Bound w reg) (nextTick (ε := ε)) := .state fun _ h => h

theorem nowUnix_bound : Preserves (Daemon.Bound w reg) (nowUnix w (ε := ε)) := nextTick_bound.bind fun _ => .pure _

theorem openPasskeyStore_bound : Preserves (Daemon.Bound w reg) (openPasskeyStore w (ε := ε)) :=
  nextTick_bound.bind fun _ => .pure _

theorem readPasskeyStore_bound : Preserves (Daemon.Bound w reg) (readPasskeyStore w (ε := ε)) :=
  nextTick_bound.bind fun _ => (Preserves.reads _).bind fun _ => .pure _

theorem requireSession_bound (origin : String) : Preserves (Daemon.Bound w reg) (requireSession w params origin) :=
  lift_bind fun _ _ => nowUnix_bound.bind fun _ =>
    (Preserves.state fun _ h => h).bind fun _ => .lift _

theorem consumeStepUp_bound (challengeHex sessionId : String) :
    Preserves (Daemon.Bound w reg) (consumeStepUp w challengeHex sessionId) :=
  nowUnix_bound.bind fun _ => (Preserves.state fun _ h => h).bind fun _ => .lift _

theorem namedPasskey_bound (id : String) : Preserves (Daemon.Bound w reg) (namedPasskey w id) :=
  openPasskeyStore_bound.bind fun _ => .ite (.fail _)
    (readPasskeyStore_bound.bind fun _ => lift_bind fun _ _ => .lift _)

theorem challengeCredential_bound : Preserves (Daemon.Bound w reg) (challengeCredential w params session) := by
  have hwallet : Preserves (Daemon.Bound w reg) (challengeCredential.fromWallet w session) :=
    readPasskeyStore_bound.bind fun _ => .lift _
  unfold challengeCredential
  rcases params.getStr "credential_id" with _ | id
  · exact hwallet
  · exact .ite hwallet (.pure _)

theorem defaultContext_bound : Preserves (Daemon.Bound w reg) (defaultContext w) := by
  refine nextTick_bound.bind fun t => Preserves.get.bind fun d => ?_
  rcases d.agent with _ | _ <;> rcases w.agentOpen t with _ | e
  · exact .modify fun _ h => ⟨h.1, fun ctx hc => by cases hc; exact AgentContext.bound_fresh⟩
  · exact .fail _
  · exact .pure _
  · exact .pure _

theorem agentPasskeyStore_serves : Triple (Daemon.Bound w reg) (agentPasskeyStore w (ε := ε))
      (fun opened d => d.Bound w reg ∧ Serves reg opened) (fun _ => Daemon.Bound w reg) := by
  refine .bind openPasskeyStore_bound.triple fun openError => ?_
  refine .bind (Q := fun store d => Daemon.Bound w reg d ∧ ∀ m, store.load = .ok m → m = reg) ?_ ?_
  · intro d h
    refine ⟨h, fun m hm => ?_⟩
    rcases hl : w.passkeyLoad d.tick with _ | e <;> simp only [hl] at hm <;> cases hm
    exact h.1
  · intro store
    refine .pure fun d h => ⟨h.1, fun s m ho hm => ?_⟩
    rcases openError with _ | e <;> cases ho
    exact h.2 m hm

theorem onAgent_bound {α : Type} {m : Prog AgentContext KeyAgentResponse α}
    {Q : α → AgentContext → Prop}
    (hm : Triple (AgentContext.Bound w.crypto reg) m
      (fun a ctx => ctx.Bound w.crypto reg ∧ Q a ctx) (fun _ ctx => ctx.Bound w.crypto reg)) :
    Triple (Daemon.Bound w reg) (onAgent m)
      (fun a d => d.Bound w reg ∧ ∃ ctx, Q a ctx) (fun _ => Daemon.Bound w reg) := by
  refine .mapErr fun d h => ?_
  have := hm _ h.agent
  rw [exec_zoom]
  rcases he : exec m (d.agent.getD .fresh) with ⟨e | a, ctx⟩ <;> rw [he] at this
  · exact ⟨h.1, fun _ hc => by cases hc; exact this⟩
  · exact ⟨⟨h.1, fun _ hc => by cases hc; exact this.1⟩, ctx, this.2⟩

theorem generatePasskeyChallenge_bound (id : String) :
    Preserves (Daemon.Bound w reg) (generatePasskeyChallenge w id) := by
  refine defaultContext_bound.bind fun _ => ?_
  refine .of_triple (Q := fun _ => Daemon.Bound w reg) (E := fun _ => Daemon.Bound w reg)
    ?_ (fun _ _ h => h) fun _ _ h => h
  refine .bind agentPasskeyStore_serves fun opened => ?_
  intro d ⟨hb, hs⟩
  refine Triple.bind nextTick_bound.triple (fun t => ?_) d hb
  exact (onAgent_bound (Q := fun _ _ => True)
    ((handleGenerateChallenge_bound hs _ id).conseq (fun _ h => h) (fun _ _ h => ⟨h, trivial⟩)
      fun _ _ h => h)).conseq (fun _ h => h) (fun _ _ h => h.1) fun _ _ h => h

/-! ## What happens in one step-up -/

/-- The call records nothing. -/
abbrev Quiet {ε α : Type} (m : Prog Daemon ε α) : Prop := Trace.Quiet Daemon.log m

theorem nextTick_quiet : Quiet (nextTick (ε := ε)) := fun _ => .state fun _ h => h

theorem nowUnix_quiet : Quiet (nowUnix w (ε := ε)) := fun L =>
  (nextTick_quiet L).bind fun _ => .pure _

theorem openPasskeyStore_quiet : Quiet (openPasskeyStore w (ε := ε)) := fun L =>
  (nextTick_quiet L).bind fun _ => .pure _

theorem readPasskeyStore_quiet : Quiet (readPasskeyStore w (ε := ε)) := fun L =>
  (nextTick_quiet L).bind fun _ => (Preserves.reads _).bind fun _ => .pure _

theorem agentPasskeyStore_quiet : Quiet (agentPasskeyStore w (ε := ε)) := fun L =>
  (openPasskeyStore_quiet L).bind fun _ => (readPasskeyStore_quiet L).bind fun _ => .pure _

theorem consumeStepUp_quiet (challengeHex sessionId : String) :
    Quiet (consumeStepUp w challengeHex sessionId) := fun L =>
  (nowUnix_quiet L).bind fun _ => (Preserves.state fun _ h => h).bind fun _ => .lift _

theorem namedPasskey_quiet (id : String) : Quiet (namedPasskey w id) := fun L =>
  (openPasskeyStore_quiet L).bind fun _ => .ite (.fail _)
    ((readPasskeyStore_quiet L).bind fun _ => lift_bind fun _ _ => .lift _)

theorem onAgent_quiet {α : Type} (m : Prog AgentContext KeyAgentResponse α) : Quiet (onAgent m) :=
  fun _ => .mapErr (.zoom fun _ _ h => h)

theorem defaultContext_quiet : Quiet (defaultContext w) := by
  intro L
  refine (nextTick_quiet L).bind fun t => Preserves.get.bind fun d => ?_
  rcases d.agent with _ | _ <;> rcases w.agentOpen t with _ | e
  · exact .modify fun _ h => h
  · exact .fail _
  · exact .pure _
  · exact .pure _

/-- The proof was checked under the registered key of the credential it names. -/
def Checked (w : World) (reg : Passkeys) (auth : PasskeyAuthorization) (stored : StoredPasskeyPubkey) : Prop :=
  reg.lookup auth.credentialId = some stored ∧
    ∃ pk, PasskeyPubkeyStore.toPasskeyPubkey w.crypto stored = .ok pk ∧
      pk.checks w.crypto auth.signedMessage auth.signature = true

theorem authorizePasskey_checked (auth : PasskeyAuthorization) (L : List Event) :
    Triple (fun d => d.Bound w reg ∧ d.log = L) (authorizePasskey w auth)
      (fun _ d => d.Bound w reg ∧ ∃ stored, d.log = L ++ [.passkeyVerified auth stored] ∧ Checked w reg auth stored)
      (fun _ d => d.Bound w reg ∧ d.log = L) := by
  refine .bind ((defaultContext_quiet L).frame defaultContext_bound.triple) fun _ => ?_
  refine .bind ((agentPasskeyStore_quiet L).frame agentPasskeyStore_serves) fun opened => ?_
  intro d ⟨⟨hb, hs⟩, hL⟩
  refine Triple.bind ((nextTick_quiet L).frame nextTick_bound.triple) (fun t => ?_) d ⟨hb, hL⟩
  refine Triple.bind ((onAgent_quiet _ L).frame (onAgent_bound (verifyPasskey_checked hs auth))) ?_
  intro stored
  refine .modify fun d h => ?_
  obtain ⟨⟨hb, ctx, hl, hc⟩, hL⟩ := h
  exact ⟨hb, stored, by rw [Daemon.log_emit, hL], hl, hc⟩

theorem consumeStepUp_ok {challengeHex sessionId : String} {bound : StepUpBinding}
    (h : exec (consumeStepUp w challengeHex sessionId) d = (.ok bound, d')) :
    d.stepUp.lookup challengeHex = some bound ∧ bound.sessionId = sessionId := by
  obtain ⟨now, d₁, h₁, h⟩ := exec_bind_ok.mp h
  obtain ⟨found, d₂, h₂, h⟩ := exec_bind_ok.mp h
  cases h₁
  cases h₂
  have hb := Outcome.okOr_eq_ok.mp (congrArg Prod.fst h)
  obtain ⟨hl, -, hs⟩ := StepUpStore.consume_eq_some hb
  exact ⟨hl, hs⟩

theorem readPasskeyStore_ok {store : PasskeyPubkeyStore} (h : exec (readPasskeyStore w (ε := ε)) d = (.ok store, d')) :
    ∀ m, store.load = .ok m → m = d.passkeys := by
  cases h
  intro m hm
  rcases hl : w.passkeyLoad d.tick with _ | e
  · simpa [hl, eq_comm] using hm
  · simp [hl] at hm

theorem namedPasskey_ok {id : String} {stored : StoredPasskeyPubkey}
    (h : exec (namedPasskey w id) d = (.ok stored, d')) : d.passkeys.lookup id = some stored := by
  obtain ⟨openError, d₁, h₁, h⟩ := exec_bind_ok.mp h
  obtain ⟨-, h⟩ := exec_guard_ok.mp h
  obtain ⟨store, d₂, h₂, h⟩ := exec_bind_ok.mp h
  obtain ⟨found, hget, h⟩ := exec_lift_bind_ok.mp h
  have hp : d₁.passkeys = d.passkeys := by cases h₁; rfl
  have hfound : found = some stored := Outcome.okOr_eq_ok.mp (congrArg Prod.fst h)
  rw [PasskeyPubkeyStore.get] at hget
  rcases hl : store.load with e | m
  · simp [hl, Except.map, Except.mapError] at hget
  · have hm : m = d.passkeys := (readPasskeyStore_ok h₂ m hl).trans hp
    simp only [hl, Except.map, Except.mapError, Except.ok.injEq] at hget
    rw [← hm, hget, hfound]

/-- The two credentials of a request: the one its challenge was minted for and the one it names. -/
def StepUpCredentials (d : Daemon) (params : Json) (minted named : String) : Prop :=
  ∃ auth challengeHex bound, (params.get "passkey").bind Json.asObject = some auth ∧
    passkeyField auth "challenge_hex" = .ok challengeHex ∧
    passkeyField auth "credential_id" = .ok named ∧
    d.stepUp.lookup challengeHex = some bound ∧ minted = bound.credentialId

theorem verifyStepUp_ok {session : SessionEntry} {params : Json} (hb : d.Bound w reg)
    (h : exec (verifyStepUp w session params) d = (.ok (), d')) :
    ∃ auth stored named r, StepUpCredentials d params auth.credentialId named ∧
      d'.log = d.log ++ [.passkeyVerified auth stored, .stepUp session.sessionId] ∧
      Checked w reg auth stored ∧ reg.lookup named = some r ∧ r.walletId = session.walletId := by
  obtain ⟨obj, h₁, h⟩ := exec_lift_bind_ok.mp h
  obtain ⟨challengeHex, h₂, h⟩ := exec_lift_bind_ok.mp h
  obtain ⟨signatureHex, -, h⟩ := exec_lift_bind_ok.mp h
  obtain ⟨named, h₄, h⟩ := exec_lift_bind_ok.mp h
  obtain ⟨challenge, -, h⟩ := exec_lift_bind_ok.mp h
  obtain ⟨bound, d₁, h₆, h⟩ := exec_bind_ok.mp h
  obtain ⟨signature, -, h⟩ := exec_lift_bind_ok.mp h
  obtain ⟨_, d₂, h₈, h⟩ := exec_bind_ok.mp h
  obtain ⟨r, d₃, h₉, h⟩ := exec_bind_ok.mp h
  obtain ⟨hw, h⟩ := exec_guard_ok.mp h
  rw [Outcome.okOr_eq_ok] at h₁
  obtain ⟨hl, -⟩ := consumeStepUp_ok h₆
  have hb₁ : d₁.Bound w reg := by
    have := consumeStepUp_bound challengeHex session.sessionId _ hb
    rwa [h₆] at this
  obtain ⟨hb₂, stored, hlog, hc⟩ :=
    (authorizePasskey_checked ⟨challenge, signature, bound.credentialId⟩ d₁.log).ok ⟨hb₁, rfl⟩
      (exec_mapErr_ok.mp h₈)
  have hr : reg.lookup named = some r := by rw [← hb₂.1]; exact namedPasskey_ok h₉
  refine ⟨⟨challenge, signature, bound.credentialId⟩, stored, named, r,
    ⟨obj, challengeHex, bound, h₁, h₂, h₄, hl, rfl⟩, ?_, hc, hr, not_not.mp hw⟩
  have hd' : d' = d₃.emit (.stepUp session.sessionId) := (congrArg Prod.snd h).symm
  rw [hd', Daemon.log_emit, (namedPasskey_quiet named).log_eq h₉, hlog,
    (consumeStepUp_quiet challengeHex session.sessionId).log_eq h₆, List.append_assoc]
  rfl

theorem authorizePasskey_bound (auth : PasskeyAuthorization) :
    Preserves (Daemon.Bound w reg) (authorizePasskey w auth) := by
  intro d hb
  have h := authorizePasskey_checked (w := w) auth d.log d ⟨hb, rfl⟩
  rcases he : exec (authorizePasskey w auth) d with ⟨e | a, d'⟩ <;> rw [he] at h <;> exact h.1

theorem verifyStepUp_bound (params : Json) : Preserves (Daemon.Bound w reg) (verifyStepUp w session params) := by
  iterate 5 refine lift_bind fun _ _ => ?_
  refine (consumeStepUp_bound _ _).bind fun _ => lift_bind fun _ _ => ?_
  refine (authorizePasskey_bound _).mapErr.bind fun _ => (namedPasskey_bound _).bind fun _ => ?_
  exact .ite (.fail _) (.modify fun _ h => h)

theorem handlePasskeyChallenge_bound (origin : String) :
    Preserves (Daemon.Bound w reg) (handlePasskeyChallenge w params origin) := by
  refine (requireSession_bound _ _).bind fun _ => openPasskeyStore_bound.bind fun _ => ?_
  refine .ite (.fail _) ((challengeCredential_bound _ _).bind fun id => ?_)
  refine (generatePasskeyChallenge_bound id).mapErr.bind fun _ => readPasskeyStore_bound.bind fun _ => ?_
  refine lift_bind fun _ _ => nowUnix_bound.bind fun _ => ?_
  refine .bind (.modify ?_) fun _ => .pure _
  exact fun _ h => h

/-! ## Runs -/

/-- A step-up call of some client. -/
inductive StepUpCall where
  | challenge (params : Json) (origin : String)
  | verify (session : SessionEntry) (params : Json)

def StepUpCall.run (w : World) (d : Daemon) : StepUpCall → Daemon
  | .challenge params origin => (exec (handlePasskeyChallenge w params origin) d).2
  | .verify session params => (exec (verifyStepUp w session params) d).2

def runStepUpCalls (w : World) (calls : List StepUpCall) (d : Daemon) : Daemon := calls.foldl (StepUpCall.run w) d

/-- The daemon when its process starts: no challenge is outstanding and the Key-Agent context is not
yet open.  Sessions and registered passkeys are arbitrary. -/
def Daemon.start (sessions : SessionStore) (reg : Passkeys) (requirePasskeyEip7702 : Bool) : Daemon :=
  ⟨sessions, ∅, none, reg, requirePasskeyEip7702, 0, []⟩

theorem runStepUpCalls_bound (calls : List StepUpCall) (h : d.Bound w reg) :
    (runStepUpCalls w calls d).Bound w reg := by
  induction calls generalizing d with
  | nil => exact h
  | cons call _ ih =>
    cases call with
    | challenge params origin => exact ih (handlePasskeyChallenge_bound params origin d h)
    | verify session params => exact ih (verifyStepUp_bound session params d h)

theorem StepUpCredentials.unique {params : Json} {minted named minted' named' : String}
    (h : StepUpCredentials d params minted named) (h' : StepUpCredentials d params minted' named') :
    minted' = minted ∧ named' = named := by
  obtain ⟨auth, challengeHex, bound, h₁, h₂, h₃, h₄, rfl⟩ := h
  obtain ⟨auth', challengeHex', bound', h₁', h₂', h₃', h₄', rfl⟩ := h'
  obtain rfl : auth = auth' := by simpa [h₁] using h₁'
  obtain rfl : challengeHex = challengeHex' := by simpa [h₂] using h₂'
  obtain rfl : bound = bound' := by simpa [h₄] using h₄'
  exact ⟨rfl, by simpa [h₃, eq_comm] using h₃'⟩

/-- The credential the challenge was minted for and the credential the request names are registered
to one wallet. -/
def SameWallet (d : Daemon) (params : Json) : Prop :=
  ∃ minted named r₁ r₂, StepUpCredentials d params minted named ∧
    d.passkeys.lookup minted = some r₁ ∧ d.passkeys.lookup named = some r₂ ∧ r₁.walletId = r₂.walletId

/-- **Whose passkey authorizes a step-up.**  In any run, a step-up that returns recorded exactly one
verified proof, checked under the registered key of its credential, and that credential belongs to
the session's wallet if and only if the credential the challenge was minted for and the credential
the request names are registered to one wallet. -/
theorem stepUp_wallet_iff (w : World) (sessions : SessionStore) (reg : Passkeys) (req : Bool)
    (calls : List StepUpCall) (session : SessionEntry) (params : Json)
    (hok : (exec (verifyStepUp w session params) (runStepUpCalls w calls (.start sessions reg req))).1 = .ok ()) :
    ∃ auth stored,
      (exec (verifyStepUp w session params) (runStepUpCalls w calls (.start sessions reg req))).2.log =
        (runStepUpCalls w calls (.start sessions reg req)).log ++
          [.passkeyVerified auth stored, .stepUp session.sessionId] ∧
      Checked w reg auth stored ∧
      (stored.walletId = session.walletId ↔ SameWallet (runStepUpCalls w calls (.start sessions reg req)) params) := by
  have hstart : (Daemon.start sessions reg req).Bound w reg := ⟨rfl, fun _ h => by cases h⟩
  have hb := runStepUpCalls_bound calls hstart
  generalize runStepUpCalls w calls (.start sessions reg req) = d at hok hb ⊢
  rcases he : exec (verifyStepUp w session params) d with ⟨r, d'⟩
  rw [he] at hok
  obtain rfl : r = .ok () := hok
  obtain ⟨auth, stored, named, r, hcred, hlog, hcheck, hnamed, hwallet⟩ := verifyStepUp_ok hb he
  refine ⟨auth, stored, hlog, hcheck, fun hw => ?_, ?_⟩
  · exact ⟨_, named, stored, r, hcred, hb.1.symm ▸ hcheck.1, hb.1.symm ▸ hnamed, hw.trans hwallet.symm⟩
  · rintro ⟨minted, named', r₁, r₂, hcred', h₁, h₂, hw⟩
    obtain ⟨rfl, rfl⟩ := hcred.unique hcred'
    rw [hb.1] at h₁ h₂
    obtain rfl : r₁ = stored := by simpa [h₁] using hcheck.1
    obtain rfl : r₂ = r := by simpa [h₂] using hnamed
    exact hw.trans hwallet

/-! ### Two wallets, one session -/

/-- A scheme in which a signature names its key (and the last byte of its message), so it verifies
under one key only. -/
def taggedCrypto : PasskeyCrypto where
  p256FromSec1Bytes _ := .error "unsupported"
  p256SignatureFromSlice _ := none
  p256Verify _ _ _ := false
  ed25519FromBytes b := .ok b
  ed25519SignatureFromSlice s := some s
  ed25519Verify vk msg sig := match sig with
    | [k, x] => vk == replicate 32 k && msg.getLast? == some x
    | _ => false

/-- A signature verifies only under the public key it was made for. -/
def SignatureExclusive (c : PasskeyCrypto) : Prop :=
  ∀ (pk pk' : PasskeyPubkey) (m m' sig : Bytes),
    pk.checks c m sig = true → pk'.checks c m' sig = true → pk = pk'

theorem taggedCrypto_verify {vk m sig : Bytes} (h : taggedCrypto.ed25519Verify vk m sig = true) :
    vk = replicate 32 (sig.headD 0) := by
  simp only [taggedCrypto] at h
  split at h
  · simp only [Bool.and_eq_true, beq_iff_eq] at h
    exact h.1
  · cases h

theorem taggedCrypto_exclusive : SignatureExclusive taggedCrypto := by
  intro pk pk' m m' sig h h'
  rcases pk with vk | vk
  · cases h
  rcases pk' with vk' | vk'
  · cases h'
  rw [taggedCrypto_verify h, taggedCrypto_verify h']

def calmWorld : World where
  crypto := taggedCrypto
  clock _ _ := 1000
  nonces _ := [⟨replicate 32 7, rfl⟩]
  passkeyOpen _ := none
  passkeyLoad _ := none
  agentOpen _ := none

def twoWallets : Passkeys :=
  (AList.singleton "cred-b" (⟨"ed25519", replicate 32 2, "wallet-b", 0, "localhost"⟩ : StoredPasskeyPubkey)).insert
    "cred-a" ⟨"ed25519", replicate 32 1, "wallet-a", 0, "localhost"⟩

def sessionA : SessionEntry := ⟨"0011223344", "main", "wallet-a", 0, "pass", [], "chrome-extension://a", 900, 1800, 900⟩

def sessionsA : SessionStore := ⟨AList.singleton sessionA.sessionId sessionA, ⟨900, 300⟩⟩

def challengeFor (credentialId : String) : StepUpCall :=
  .challenge (.obj [("session_id", .str sessionA.sessionId), ("credential_id", .str credentialId)])
    "chrome-extension://a"

def proofParams (signatureHex named : String) : Json :=
  .obj [("passkey", .obj [("challenge_hex", .str (Text.hexEncode (replicate 32 7))),
    ("signature_hex", .str signatureHex), ("credential_id", .str named)])]

/-- The wallet's own passkey: minted for it and naming it, the step-up is sound. -/
theorem stepUp_own_passkey :
    (exec (verifyStepUp calmWorld sessionA (proofParams "0161" "cred-a"))
      (runStepUpCalls calmWorld [challengeFor "cred-a"] (.start sessionsA twoWallets true))).1 = .ok () ∧
    ∃ auth stored, Checked calmWorld twoWallets auth stored ∧
      (stored.walletId = "wallet-a" ↔ SameWallet
        (runStepUpCalls calmWorld [challengeFor "cred-a"] (.start sessionsA twoWallets true))
        (proofParams "0161" "cred-a")) := by
  have hok := Outcome.eq_ok_unit.mpr (show (exec (verifyStepUp calmWorld sessionA
    (proofParams "0161" "cred-a")) (runStepUpCalls calmWorld [challengeFor "cred-a"]
      (.start sessionsA twoWallets true))).1.isOk = true by decide +kernel)
  obtain ⟨auth, stored, -, hc, hw⟩ := stepUp_wallet_iff calmWorld sessionsA twoWallets true
    [challengeFor "cred-a"] sessionA (proofParams "0161" "cred-a") hok
  exact ⟨hok, auth, stored, hc, hw⟩

/-- **A foreign passkey authorizes the session.**  The session of `wallet-a` mints a challenge for
the passkey of `wallet-b`, signs it with that passkey and names its own credential: the step-up
returns, although the key that verified the signature is registered to `wallet-b`. -/
theorem stepUp_foreign_passkey :
    SignatureExclusive calmWorld.crypto ∧
    (exec (verifyStepUp calmWorld sessionA (proofParams "0262" "cred-a"))
      (runStepUpCalls calmWorld [challengeFor "cred-b"] (.start sessionsA twoWallets true))).1 = .ok () ∧
    ∃ auth stored,
      Event.passkeyVerified auth stored ∈
        (exec (verifyStepUp calmWorld sessionA (proofParams "0262" "cred-a"))
          (runStepUpCalls calmWorld [challengeFor "cred-b"] (.start sessionsA twoWallets true))).2.log ∧
      Checked calmWorld twoWallets auth stored ∧ stored.walletId ≠ sessionA.walletId := by
  refine ⟨taggedCrypto_exclusive, Outcome.eq_ok_unit.mpr (by decide +kernel), ⟨replicate 32 7, [2, 0x62], "cred-b"⟩,
    ⟨"ed25519", replicate 32 2, "wallet-b", 0, "localhost"⟩, ?_, ⟨rfl, .ed25519 (replicate 32 2), rfl, ?_⟩, ?_⟩
  · decide +kernel
  · decide
  · decide

end OneCipher.Ocwp
