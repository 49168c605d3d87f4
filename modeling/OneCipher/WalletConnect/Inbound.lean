import OneCipher.WalletConnect.Server

/-!
# OneCipher.WalletConnect.Inbound — what a message from the relay can do

Anybody may publish on the relay, so the only proof of a message's origin is that it opens under the key stored for
its topic.  `only_sealed_iff` says for which runs that proof is asked for: those in which no request arrives in
plain text.
-/

namespace OneCipher.WalletConnect

open Prog

/-! ## Acting -/

section Acting

variable {τ α β : Type} {s : ServerState τ}

/-- The handler was called, or the table is not what it was. -/
def Acted (s s' : ServerState τ) : Prop := s'.calls ≠ s.calls ∨ WcSessionTable.Differs s.sessions s'.sessions

theorem not_acted {s' : ServerState τ} (hc : s'.calls = s.calls) (hs : s'.sessions = s.sessions) : ¬ Acted s s' := by
  rintro (h | h)
  · exact h hc
  · rw [hs] at h
    exact WcSessionTable.not_differs _ h

/-- The call leaves the table, the record of handler calls and the handler alone. -/
def Silent (m : ServerCall τ α) : Prop :=
  ∀ table calls handler, Preserves (fun s => s.sessions = table ∧ s.calls = calls ∧ s.handler = handler) m

namespace Silent

variable {m : ServerCall τ α}

theorem sessions (hm : Silent m) (s : ServerState τ) : (exec m s).2.sessions = s.sessions :=
  (hm _ _ _ s ⟨rfl, rfl, rfl⟩).1

theorem calls (hm : Silent m) (s : ServerState τ) : (exec m s).2.calls = s.calls := (hm _ _ _ s ⟨rfl, rfl, rfl⟩).2.1

theorem handler (hm : Silent m) (s : ServerState τ) : (exec m s).2.handler = s.handler :=
  (hm _ _ _ s ⟨rfl, rfl, rfl⟩).2.2

theorem pure (a : α) : Silent (Pure.pure a : ServerCall τ α) := fun _ _ _ => .pure a

theorem lift (x : Outcome WcError α) : Silent (Prog.lift x : ServerCall τ α) := fun _ _ _ => .lift x

theorem reads (f : ServerState τ → α) : Silent (Prog.reads f) := fun _ _ _ => .reads f

theorem modify {f : ServerState τ → ServerState τ}
    (hf : ∀ s, (f s).sessions = s.sessions ∧ (f s).calls = s.calls ∧ (f s).handler = s.handler) :
    Silent (modify f : ServerCall τ PUnit) := by
  intro table calls handler
  refine .modify fun s h => ?_
  obtain ⟨hs, hc, hh⟩ := hf s
  rw [hs, hc, hh]
  exact h

theorem state {f : ServerState τ → α × ServerState τ}
    (hf : ∀ s, (f s).2.sessions = s.sessions ∧ (f s).2.calls = s.calls ∧ (f s).2.handler = s.handler) :
    Silent (Prog.state f : ServerCall τ α) := by
  intro table calls handler
  refine .state fun s h => ?_
  obtain ⟨hs, hc, hh⟩ := hf s
  rw [hs, hc, hh]
  exact h

theorem bind {f : α → ServerCall τ β} (hm : Silent m) (hf : ∀ a, Silent (f a)) :
    Silent (m >>= f) := fun table calls handler => (hm table calls handler).bind fun a => hf a table calls handler

theorem attempt (hm : Silent m) : Silent (Prog.attempt m : ServerCall τ (Except WcError α)) :=
  fun table calls handler => (hm table calls handler).attempt

theorem ite {c : Prop} [Decidable c] {n : ServerCall τ α} (hm : Silent m) (hn : Silent n) :
    Silent (if c then m else n) := fun table calls handler => (hm table calls handler).ite (hn table calls handler)

theorem after {f : α → ServerCall τ β} (hf : ∀ a, Silent (f a)) (s : ServerState τ) :
    (exec (m >>= f) s).2.sessions = (exec m s).2.sessions ∧ (exec (m >>= f) s).2.calls = (exec m s).2.calls ∧
      (exec (m >>= f) s).2.handler = (exec m s).2.handler := by
  rw [exec_bind]
  rcases exec m s with ⟨e | a, t⟩
  · exact ⟨rfl, rfl, rfl⟩
  · exact ⟨(hf a).sessions t, (hf a).calls t, (hf a).handler t⟩

theorem not_acted (hm : Silent m) (s : ServerState τ) : ¬ Acted s (exec m s).2 :=
  WalletConnect.not_acted (hm.calls s) (hm.sessions s)

end Silent

end Acting

/-! ## Sending is silent -/

section Sending

variable {τ : Type} {h : WcHost} {s : ServerState τ}

theorem nextTick_silent : Silent (nextTick : ServerCall τ Nat) := .state fun _ => ⟨rfl, rfl, rfl⟩

theorem bumpId_silent : Silent (bumpId : ServerCall τ Int) := .state fun _ => ⟨rfl, rfl, rfl⟩

theorem nowUnix_silent : Silent (nowUnix h : ServerCall τ Nat) := nextTick_silent.bind fun _ => .pure _

theorem sendFrame_silent (frame : RelayFrame) : Silent (sendFrame h frame : ServerCall τ Unit) := by
  refine Silent.bind (Silent.modify ?_) fun _ => nextTick_silent.bind fun _ => .lift _
  exact fun _ => ⟨rfl, rfl, rfl⟩

theorem relayId_silent (counter : Int) : Silent (relayId h counter : ServerCall τ String) :=
  nextTick_silent.bind fun _ => .pure _

variable {takeId : ServerCall τ Int}

theorem sendEncrypted_silent (hid : Silent takeId) (topic : String) (key : WcSymKey) (resp : JsonRpcResponse) :
    Silent (sendEncrypted h takeId topic key resp) :=
  (nextTick_silent.bind fun _ => .lift _).bind fun _ => hid.bind fun _ => (relayId_silent _).bind fun _ => sendFrame_silent _

theorem subscribeNew_silent (sessions : List WcSession) : Silent (subscribeNew h sessions : ServerCall τ Unit) := by
  induction sessions with
  | nil => exact .pure ()
  | cons _ _ ih =>
    refine nowUnix_silent.bind fun _ => (Silent.reads _).bind fun _ => Silent.ite ?_ ih
    refine Silent.bind (Silent.attempt ?_) fun _ => ?_
    · exact bumpId_silent.bind fun _ => (relayId_silent _).bind fun _ => sendFrame_silent _
    refine Silent.bind (Silent.modify ?_) fun _ => ih
    exact fun _ => ⟨rfl, rfl, rfl⟩

end Sending

/-! ## Requests that act -/

/-- What a request that is dispatched does: it reaches the handler or changes the table. -/
def RequestActs (table : WcSessionTable) (topic : String) (req : JsonRpcRequest) (session : WcSession) : Prop :=
  match SessionMethod.ofString req.method with
  | .delete => (table.lookup topic).isSome = true
  | .update =>
    validateUpdateSubset session (parseUpdateNamespaces req.params).1 (parseUpdateNamespaces req.params).2 = .ok () ∧
      ∃ s, table.lookup topic = some s ∧ narrowed (parseUpdateNamespaces req.params) s ≠ s
  | .ping => False
  | .authRequest => True
  | .propose | .other =>
    ∃ s, table.lookup topic = some s ∧ crossChainRejection s req = none ∧ s.isMethodAllowed req.method = true

section Requests

variable {τ : Type} {h : WcHost} {cfg : WcWalletConfig} {handler : WalletMethodHandler τ} {s : ServerState τ}

theorem invoke_calls (c : HandlerCall) (s : ServerState τ) : (exec (invoke handler c) s).2.calls = s.calls ++ [c] := by
  rw [invoke, exec_bind, exec_modify]
  simp only [exec_attempt_snd, exec_zoom]

theorem acted_invoke (c : HandlerCall) (g : Except (JsonRpcErrorCode × String) Json → JsonRpcResponse)
    (s : ServerState τ) : Acted s (exec (invoke handler c >>= fun r => pure (g r)) s).2 := by
  rw [exec_bind_pure_snd]
  refine .inl ?_
  rw [invoke_calls]
  simp

variable {req : JsonRpcRequest} {topic : String} {session : WcSession}

theorem acted_answerDelete : Acted s (exec (answerDelete topic req) s).2 ↔ (s.sessions.lookup topic).isSome = true := by
  rw [answerDelete, exec_bind_pure_snd, exec_modify, ← WcSessionTable.differs_erase]
  exact or_iff_right fun hc => hc rfl

theorem acted_answerUpdate :
    Acted s (exec (answerUpdate topic req session) s).2 ↔
      validateUpdateSubset session (parseUpdateNamespaces req.params).1 (parseUpdateNamespaces req.params).2 = .ok () ∧
        ∃ x, s.sessions.lookup topic = some x ∧ narrowed (parseUpdateNamespaces req.params) x ≠ x := by
  unfold answerUpdate
  rcases hv : validateUpdateSubset session (parseUpdateNamespaces req.params).1
    (parseUpdateNamespaces req.params).2 with reason | ⟨⟩
  · simp [hv, not_acted]
  · simp only [hv, true_and]
    rw [exec_bind_pure_snd, exec_modify, ← WcSessionTable.differs_updateSession]
    exact or_iff_right fun hc => hc rfl

theorem acted_answerAuth : Acted s (exec (answerAuth handler topic req) s).2 := by
  exact acted_invoke _ _ _

theorem acted_answerRequest :
    Acted s (exec (answerRequest handler topic req session) s).2 ↔
      ∃ x, s.sessions.lookup topic = some x ∧ crossChainRejection x req = none ∧
        x.isMethodAllowed req.method = true := by
  rw [answerRequest, exec_bind, exec_reads]
  rcases hx : s.sessions.lookup topic with _ | x
  · simp [not_acted]
  · rcases hr : crossChainRejection x req with _ | rejection
    · by_cases hm : x.isMethodAllowed req.method = true
      · simp only [hr, hm, if_true]
        exact iff_of_true (acted_invoke _ _ _) ⟨x, rfl, hr, hm⟩
      · simp [hr, hm, not_acted]
    · simp [hr, not_acted]

/-- **What a dispatched request does** is decided by the table and the request, not by the relay. -/
theorem acted_dispatch_iff {key : WcSymKey} :
    Acted s (exec (dispatchSessionRequest h handler topic req session key) s).2 ↔
      RequestActs s.sessions topic req session := by
  -- the response is sent after the fact
  have hsend : ∀ resp, Silent (sendEncrypted h (bumpId : ServerCall τ Int) topic key resp) :=
    fun resp => sendEncrypted_silent bumpId_silent topic key resp
  have hanswer : Acted s (exec (dispatchSessionRequest h handler topic req session key) s).2 ↔
      Acted s (exec (answer handler topic req session) s).2 := by
    obtain ⟨hs, hc, -⟩ := Silent.after (m := answer handler topic req session) hsend s
    rw [Acted, Acted, dispatchSessionRequest, hs, hc]
  rw [hanswer, answer, RequestActs]
  cases SessionMethod.ofString req.method with
  | delete => exact acted_answerDelete
  | update => exact acted_answerUpdate
  | ping => exact iff_of_false (Silent.not_acted (.pure _) s) id
  | authRequest => exact iff_of_true acted_answerAuth trivial
  | propose | other => exact acted_answerRequest

/-! ## Messages that act -/

/-- A message in plain text that acts. -/
def PlaintextActs (h : WcHost) (table : WcSessionTable) (m : Inbound) : Prop :=
  m.session.symKey.toSymKey.isSome = true ∧ m.bytes.head? ≠ some envelopeType0 ∧ m.bytes.head? ≠ some envelopeType1 ∧
    ∃ req, h.parseRequest m.bytes = .ok req ∧ RequestActs table m.topic req m.session

theorem openInbound_eq_none {key : WcSymKey} {bytes : Bytes} :
    openInbound h key bytes = none ↔ bytes.head? ≠ some envelopeType0 ∧ bytes.head? ≠ some envelopeType1 := by
  unfold openInbound
  by_cases h1 : bytes.head? = some envelopeType1
  · simp [h1]
  · by_cases h0 : bytes.head? = some envelopeType0
    · rw [if_neg h1, if_pos h0]
      simp [h0]
    · simp [h0, h1]

theorem opens_of_openInbound {key : WcSymKey} {bytes text : Bytes}
    (ho : openInbound h key bytes = some (.ok text)) : Opens h.aead key bytes := by
  unfold openInbound at ho
  split_ifs at ho
  · obtain ⟨⟨sender, text'⟩, hr, -⟩ := Result.map_eq_ok.mp (Option.some.inj ho)
    exact .inr ⟨sender, text', hr⟩
  · exact .inl ⟨text, Option.some.inj ho⟩

theorem opens_or_plaintext {m : Inbound}
    (ha : Acted s (exec (processInboundMessage h cfg handler m.topic m.session m.bytes) s).2) :
    (∃ key, m.session.symKey.toSymKey = some key ∧ Opens h.aead key m.bytes) ∨ PlaintextActs h s.sessions m := by
  unfold processInboundMessage at ha
  rcases hkey : m.session.symKey.toSymKey with _ | key
  · rw [exec_lift_bind_of_error (Outcome.okOr_of_none hkey)] at ha
    exact absurd ha (not_acted rfl rfl)
  · rw [exec_lift_bind_of_ok (Outcome.okOr_eq_ok.mpr hkey)] at ha
    rcases ho : openInbound h key m.bytes with _ | opened
    · -- no envelope: the bytes are parsed as they are
      rw [ho] at ha
      rcases hp : parseRequest h m.bytes with e | req
      · simp only [exec_lift_bind_of_error (raised_of_error hp)] at ha
        exact absurd ha (not_acted rfl rfl)
      · simp only [exec_lift_bind_of_ok (raised_eq_ok.mpr hp), acted_dispatch_iff] at ha
        obtain ⟨h0, h1⟩ := openInbound_eq_none.mp ho
        exact .inr ⟨by rw [hkey]; rfl, h0, h1, req, Result.mapError_eq_ok.mp hp, ha⟩
    · rw [ho] at ha
      rcases opened with e | text
      · exact absurd ha (not_acted rfl rfl)
      · exact .inl ⟨key, rfl, opens_of_openInbound ho⟩

theorem PlaintextActs.acted {m : Inbound} (hp : PlaintextActs h s.sessions m) :
    Acted s (exec (processInboundMessage h cfg handler m.topic m.session m.bytes) s).2 := by
  obtain ⟨hkey, h0, h1, req, hreq, hacts⟩ := hp
  obtain ⟨key, hkey⟩ := Option.isSome_iff_exists.mp hkey
  have hparse : parseRequest h m.bytes = .ok req := Result.mapError_eq_ok.mpr hreq
  rw [processInboundMessage, exec_lift_bind_of_ok (Outcome.okOr_eq_ok.mpr hkey)]
  simp only [openInbound_eq_none.mpr ⟨h0, h1⟩, exec_lift_bind_of_ok (raised_eq_ok.mpr hparse)]
  exact acted_dispatch_iff.mpr hacts

theorem PlaintextActs.not_opens {table : WcSessionTable} {m : Inbound} (hp : PlaintextActs h table m)
    (key : WcSymKey) : ¬ Opens h.aead key m.bytes := by
  intro ho
  rcases ho.head with h0 | h1
  · exact hp.2.1 h0
  · exact hp.2.2.1 h1

end Requests

/-! ## Rounds of the run loop -/

section Rounds

variable {τ : Type} {h : WcHost} {cfg : WcWalletConfig} {handler : WalletMethodHandler τ} {s : ServerState τ}
  {t : Turn} {s s' : ServerState τ} {m : Inbound}

/-- In the round that begins in `s`, the message is passed on to be processed, in the state `s'`. -/
def Processes (h : WcHost) (t : Turn) (s : ServerState τ) (m : Inbound) (s' : ServerState τ) : Prop :=
  ∃ raw s₁ s₂, t.wake = .received (.ok raw) ∧ exec (checkSubscriptions h t) s = (.ok (), s₁) ∧
    exec (takeUp h raw) { s₁ with sessions := t.arrived s₁.sessions } = (.ok (some m), s₂) ∧
    s' = { s₂ with sessions := t.meanwhile s₂.sessions }

theorem checkSubscriptions_sessions : (exec (checkSubscriptions h t) s).2.sessions = t.others s.sessions := by
  rw [checkSubscriptions, otherTasks, exec_bind, exec_modify]
  exact ((Silent.reads _).bind fun all => subscribeNew_silent all).sessions _

theorem takeUp_session {raw : String} (hm : exec (takeUp h raw) s = (.ok (some m), s')) :
    s.sessions.lookup m.topic = some m.session := by
  unfold takeUp at hm
  split at hm
  · cases congrArg Prod.fst hm
  · rw [exec_bind, exec_reads] at hm
    dsimp only at hm
    split at hm
    · next hstored _ =>
      obtain ⟨now, s₁, -, hm⟩ := exec_bind_ok.mp hm
      obtain ⟨replay, s₂, -, hm⟩ := exec_bind_ok.mp hm
      have hr := Except.ok.inj (congrArg Prod.fst hm)
      split_ifs at hr
      cases hr
      exact hstored
    · cases congrArg Prod.fst hm

theorem Processes.session (hp : Processes h t s m s') :
    (t.arrived (t.others s.sessions)).lookup m.topic = some m.session := by
  obtain ⟨raw, s₁, s₂, -, hcheck, htake, -⟩ := hp
  have hs₁ : s₁.sessions = t.others s.sessions := by
    rw [← checkSubscriptions_sessions (h := h), hcheck]
  rw [← hs₁]
  exact takeUp_session htake

/-! ## Runs -/

/-- The table stores the key for the topic. -/
def StoredKey (table : WcSessionTable) (topic : String) (key : WcSymKey) : Prop :=
  ∃ session, table.lookup topic = some session ∧ session.symKey.toSymKey = some key

/-- In every round of the run, a message acts only if its bytes open under the key stored for its topic. -/
def OnlySealed (h : WcHost) (cfg : WcWalletConfig) (handler : WalletMethodHandler τ) (turns : List Turn)
    (s₀ : ServerState τ) : Prop :=
  ∀ pre t post s m s', turns = pre ++ t :: post → exec (run h cfg handler pre) s₀ = (.ok true, s) →
    Processes h t s m s' →
    Acted s' (exec (processInboundMessage h cfg handler m.topic m.session m.bytes) s').2 →
    ∃ key, StoredKey (t.arrived (t.others s.sessions)) m.topic key ∧ Opens h.aead key m.bytes

/-- In no round of the run is a request processed that came in plain text and that the dispatcher serves. -/
def NoPlaintextRequest (h : WcHost) (cfg : WcWalletConfig) (handler : WalletMethodHandler τ) (turns : List Turn)
    (s₀ : ServerState τ) : Prop :=
  ∀ pre t post s m s', turns = pre ++ t :: post → exec (run h cfg handler pre) s₀ = (.ok true, s) →
    Processes h t s m s' → ¬ PlaintextActs h s'.sessions m

/-- **When a run acts on sealed messages only.**  Whatever the relay delivers and other tasks do to the table,
every message that reaches the handler or changes the table was opened under the key stored for its topic, if
and only if no request that the dispatcher serves arrives in plain text. -/
theorem only_sealed_iff (h : WcHost) (cfg : WcWalletConfig) (handler : WalletMethodHandler τ) (turns : List Turn)
    (s₀ : ServerState τ) : OnlySealed h cfg handler turns s₀ ↔ NoPlaintextRequest h cfg handler turns s₀ := by
  constructor
  · intro hsealed pre t post s m s' hsplit hrun hproc hplain
    obtain ⟨key, -, hopens⟩ := hsealed pre t post s m s' hsplit hrun hproc hplain.acted
    exact hplain.not_opens key hopens
  · intro hno pre t post s m s' hsplit hrun hproc hacted
    rcases opens_or_plaintext hacted with ⟨key, hkey, hopens⟩ | hplain
    · exact ⟨key, ⟨m.session, hproc.session, hkey⟩, hopens⟩
    · exact absurd hplain (hno pre t post s m s' hsplit hrun hproc)

end Rounds

/-! ### A request in plain text -/

section Plaintext

/-- A `personal_sign` request, as text. -/
def plainBytes : Bytes := Text.utf8 "\x7b\"jsonrpc\":\"2.0\",\"method\":\"personal_sign\",\"params\":null,\"id\":1\x7d"

def plainRequest : JsonRpcRequest := ⟨"2.0", "personal_sign", .null, 1⟩

def plainHost : WcHost where
  aead := ⟨fun _ _ text => .ok text, fun _ _ _ => .error "aead::Error"⟩
  iv _ := List.replicate 12 0
  keyPair _ := ⟨[], id⟩
  deriveSymKey _ := ⟨List.replicate 32 0, rfl⟩
  sha256 := id
  clockMillis _ := 1800000000000
  connect _ := .ok ()
  reconnect _ := .ok ()
  send _ _ := .ok ()
  base64Encode _ := ""
  base64Decode _ := .ok plainBytes
  parseRelayEnvelope _ := .ok ⟨some "irn_subscription", some ⟨some ⟨"topic", ""⟩⟩⟩
  parseRequest bytes := if bytes = plainBytes then .ok plainRequest else .error "expected value"
  parsePropose _ := .error "missing field"
  encodeResponse _ := []
  encodeSettle _ _ := []
  toLowercase := id
  projectId := none
  attestation := none
  skipSettle := false

def plainConfig : WcWalletConfig := ⟨"wss://relay", "irn", []⟩

def plainSession : WcSession :=
  ⟨"topic", ⟨Text.hexEncode (List.replicate 32 7)⟩, .active, 1900000000, ["eip155:1"], ["personal_sign"], none, none, 0⟩

def plainStart : ServerState Unit := ⟨(∅ : WcSessionTable).insertSession plainSession, [], .new 1, 0, 0, [], [], ()⟩

def plainTurn : Turn := ⟨.error (.relayTimeout ""), .received (.ok ""), id, id, id⟩

def plainInbound : Inbound := ⟨"topic", plainSession, plainBytes⟩

def plainHandler : WalletMethodHandler Unit := fun _ => pure (.str "0x01")

theorem plaintext_acts : PlaintextActs plainHost plainStart.sessions plainInbound := by
  refine ⟨?_, by decide, by decide, plainRequest, by simp [plainHost, plainInbound], ?_⟩
  · rfl
  · exact ⟨plainSession, rfl, rfl, rfl⟩

/-- **A plain text is served.**  The run loop takes the message, the handler is called with it, and its bytes
open under no key at all. -/
theorem plaintext_reaches_handler :
    (exec (run plainHost plainConfig plainHandler [plainTurn]) plainStart).2.calls =
      [⟨"personal_sign", .null, "topic", none, none⟩] ∧
    (∀ key, ¬ Opens plainHost.aead key plainBytes) ∧
    ¬ OnlySealed plainHost plainConfig plainHandler [plainTurn] plainStart := by
  refine ⟨rfl, ?_, ?_⟩
  · exact fun key => plaintext_acts.not_opens key
  · intro hsealed
    obtain ⟨key, -, hopens⟩ := hsealed [] plainTurn [] _ plainInbound _ rfl rfl ⟨"", _, _, rfl, rfl, rfl, rfl⟩
      (PlaintextActs.acted (by exact plaintext_acts))
    exact plaintext_acts.not_opens key hopens

end Plaintext

end OneCipher.WalletConnect
