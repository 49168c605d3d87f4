import OneCipher.Ocwp.SigningCalls

/-!
# OneCipher.Ocwp.SignAudit — signatures and their audit records

Every signing handler makes its audit record last, behind steps that can still fail: a child's answer is lost, a
signed transaction cannot be encoded, a node refuses a broadcast, a public key cannot be derived.  A signature made
before such a failure has no record.

`sign_recorded_iff` says for which requests every signature is recorded, whatever nodes and children do.
-/

namespace OneCipher.Ocwp

open Prog Trace Core Signer Wallet KeyAgent List Result

/-! ## Records -/

variable {resolved : ResolvedTx} {method : String}

namespace Event

/-- The event is a record of the method made by `record_sign_audit`. -/
def IsSignAudit (method : String) (e : Event) : Prop :=
  ∃ entry details, e = audit entry ∧ entry.operation = "wallet.sign" ∧ entry.details = some (method ++ details)

theorem IsSignAudit.isAudit {e : Event} (h : e.IsSignAudit method) : e.isAudit = true := by
  obtain ⟨entry, details, rfl, -⟩ := h
  rfl

end Event

def TxMethod.name : TxMethod → String
  | signTransaction => "oc_sign_transaction"
  | sendTransaction => "oc_send_transaction"
  | simulate => "oc_simulate"

/-- The methods that sign. -/
inductive SignMethod where
  | signTransaction | sendTransaction | signMessage | signTypedData | signAuthorization
  deriving DecidableEq, Repr

namespace SignMethod

def name : SignMethod → String
  | signTransaction => "oc_sign_transaction"
  | sendTransaction => "oc_send_transaction"
  | signMessage => "oc_sign_message"
  | signTypedData => "oc_sign_typed_data"
  | signAuthorization => "oc_sign_authorization"

def handle (w : World) (x : SignHost) (m : MessageHost) (params : Json) (origin : String) : SignMethod → Handler Json
  | signTransaction => handleSignTransaction w x params origin
  | sendTransaction => handleSendTransaction w x params origin
  | signMessage => handleSignMessage w x m params origin
  | signTypedData => handleSignTypedData w x m params origin
  | signAuthorization => handleSignAuthorization w x params origin

end SignMethod

/-- Every signature among the events is followed by a record of the method. -/
def Recorded (method : String) (events : List Event) : Prop :=
  Answered (Event.isSignature ·) (Event.IsSignAudit method) events

theorem not_recorded {events : List Event} {e : Event} (he : e ∈ events) (hs : e.isSignature)
    (h : ∀ f ∈ events, f.isAudit = false) : ¬ Recorded method events := by
  refine not_answered he hs fun f hf ha => ?_
  have haudit := ha.isAudit
  rw [h f hf] at haudit
  cases haudit

/-! ## Requests whose signature can lose its record -/

section Exposed

variable (w : World) (env : WalletEnv) (m : MessageHost) (host : GateHost) (enabled : Bool) (params : Json)
  (origin : String) (d : Daemon)

/-- Some answers of the nodes make the transaction one that passes the gate and whose signature comes before a step
that can fail. -/
def LateResolved (method : TxMethod) (session : SessionEntry) (chain : Chain) (tx : Json) (d1 : Daemon) : Prop :=
  ∃ node resolved d2 txBytes,
    exec (resolveTransaction (nodesOnly env host node) session chain tx) d1 = (.ok resolved, d2) ∧
    gate host env.policyVault session (transactionView method.name chain resolved) = .ok () ∧
    decodeHexField resolved.rawHex "transaction" = .ok txBytes ∧
    LateTx env enabled session chain.chainId (method = .sendTransaction) txBytes

/-- The request signs an authorization while it is resolved, or what it resolves to is signed before a step that can
fail. -/
def ExposedTx (method : TxMethod) : Prop :=
  Delegates w env params origin d method ∨
    ∃ session chain sender tx d1, method.Accepts w env params origin d session chain sender tx d1 ∧
      LateResolved env host enabled method session chain tx d1

/-- The request is signed before a step that can fail. -/
def Exposed : SignMethod → Prop
  | .signTransaction => ExposedTx w env host enabled params origin d .signTransaction
  | .sendTransaction => ExposedTx w env host enabled params origin d .sendTransaction
  | .signMessage => ∃ session chain message d1, exec (requireSession w params origin) d = (.ok session, d1) ∧
      accountChain env params = .ok chain ∧ messageParam m params = .ok message ∧
      gate host env.policyVault session (plainView "oc_sign_message" chain none none) = .ok () ∧
      LateMessage env m enabled session chain.chainId message
  | .signTypedData => ∃ session chain typedData d1, exec (requireSession w params origin) d = (.ok session, d1) ∧
      accountChain env params = .ok chain ∧ typedDataParam params = .ok typedData ∧
      gate host env.policyVault session (plainView "oc_sign_typed_data" chain none (some typedData)) = .ok () ∧
      LateTypedData env m enabled session chain.chainId (host.jsonText typedData)
  | .signAuthorization => False

end Exposed

/-! ## Calls that fail only before they sign -/

/-- Every signature since `L` is recorded. -/
abbrev RecordedSince (method : String) (L : List Event) (d : Daemon) : Prop :=
  Settled Daemon.log (Event.isSignature ·) (Event.IsSignAudit method) L d

theorem recorded_of_since {d d' : Daemon} (h : RecordedSince method d.log d') : Recorded method (newEvents d d') := by
  obtain ⟨es, hes, ha⟩ := h
  rwa [newEvents_eq hes]

/-! ## Requests that are recorded -/

section Handlers

variable {w : World} {x : SignHost} {m : MessageHost} {params : Json} {origin : String} {d : Daemon}
  {session : SessionEntry} {chain : Chain} {L : List Event} {P : Event → Prop} {α : Type} {method : String}

theorem recordSignAudit_records (chainId outcome details : String) {E : Fault OcwpError → Daemon → Prop} :
    Triple (LogSince L P) (recordSignAudit x method session chainId outcome details)
      (fun _ => RecordedSince method L) E := by
  refine .bind (Q := fun _ => LogSince L P) (.state fun _ h => h) fun t => .modify fun d h => ?_
  refine settled_answer (Daemon.log_emit _)
    ⟨_, " origin=" ++ session.origin ++ " " ++ outcome ++ " " ++ details, rfl, rfl, ?_⟩ Bool.false_ne_true h
  simp only [String.append_assoc]

theorem records_bind {call : Handler α} {k : α → Handler Json} (hcall : FailsUnsigned call)
    (hk : ∀ a, Triple (LogSince L fun _ => True) (k a) (fun _ => RecordedSince method L) (fun _ => RecordedSince method L)) :
    Triple (Unsigned L) (call >>= k) (fun _ => RecordedSince method L) (fun _ => RecordedSince method L) :=
  .bind ((hcall L).conseq (fun _ h => h) (fun _ _ h => h) fun _ _ h => h.settled) hk

/-! ### Transactions -/

/-- A transaction that passes the gate is not signed before a step that can fail. -/
def SignedLast (x : SignHost) (session : SessionEntry) (chain : Chain) (resolved : ResolvedTx) (name : String)
    (sending : Bool) : Prop :=
  gate x.gate x.wallet.policyVault session (transactionView name chain resolved) = .ok () → ∀ txBytes,
    decodeHexField resolved.rawHex "transaction" = .ok txBytes →
      ¬ LateTx x.wallet x.enclave.enabled session chain.chainId sending txBytes

theorem gatedSign_failsUnsigned {sending : Bool}
    (h : SignedLast x session chain resolved method sending) :
    FailsUnsigned (gatedSign x method session chain resolved) := by
  intro L d hd
  have hd1 : Unsigned L (d.emit (.enforced method resolved.rawHex)) := emit_since (ε := OcwpError) Bool.false_ne_true d hd
  rw [gatedSign]
  rcases hgate : gate x.gate x.wallet.policyVault session (transactionView method chain resolved) with e | ⟨⟩
  · exact hd
  rcases hdec : decodeHexField resolved.rawHex "transaction" with e | txBytes
  · exact hd1
  · exact signTxBytes_failsUnsigned (h hgate txBytes hdec) L _ hd1

theorem gatedSign_unsigned
    (h : SignedLast x session chain resolved method true) :
    Preserves (Unsigned L) (gatedSign x method session chain resolved) :=
  .lift_bind fun _ hgate => (emit_since Bool.false_ne_true).bind fun _ =>
    .lift_bind fun txBytes hdec => signTxBytes_unsigned (h hgate txBytes hdec)

theorem finish_records {method : TxMethod} (hm : method ≠ .simulate) {sender : String}
    (h : SignedLast x session chain resolved method.name (method = .sendTransaction)) :
    Triple (Unsigned L) (method.finish x session chain sender resolved) (fun _ => RecordedSince method.name L)
      (fun _ => RecordedSince method.name L) := by
  cases method with
  | signTransaction =>
    refine records_bind (gatedSign_failsUnsigned h) fun _ => ?_
    exact .bind (recordSignAudit_records _ _ _) fun _ => .pure fun _ h => h
  | sendTransaction =>
    -- nothing is signed at all
    have hall : Preserves (Unsigned L) (finishSend x session chain resolved) := by
      refine (gatedSign_unsigned h).bind fun _ => (broadcastRaw_quiet _ _).since.bind fun _ => ?_
      refine .bind (emit_since Bool.false_ne_true) fun _ => ?_
      exact (recordAudit_since (fun _ => Bool.false_ne_true) _ _ _).bind fun _ =>
        (recordAudit_since (fun _ => Bool.false_ne_true) _ _ _).bind fun _ => .pure _
    exact hall.triple.conseq (fun _ h => h) (fun _ _ h => h.settled) fun _ _ h => h.settled
  | simulate => exact absurd rfl hm

variable {enabled : Bool}

theorem tx_recorded (method : TxMethod) {host : GateHost} (hm : method ≠ .simulate) (hgate : x.gate = host)
    (henabled : x.enclave.enabled = enabled) (h : ¬ ExposedTx w x.wallet host enabled params origin d method) :
    Recorded method.name (newEvents d (exec (method.handle w x params origin) d).2) := by
  subst hgate henabled
  apply recorded_of_since
  rcases method.handle_cases w x params origin d with hlog | ⟨session, chain, sender, tx, d1, hacc⟩
  · exact (Since.start hlog).settled
  have hres := resolve_log_of_not_delegates hacc fun hdel => h (.inl hdel)
  rw [TxMethod.exec_handle hacc, exec_bind]
  rcases hr : exec (resolveTransaction x session chain tx) d1 with ⟨e | resolved, d2⟩ <;> rw [hr] at hres
  · exact (Since.start hres).settled
  refine (finish_records hm fun hgate txBytes hdec hlate => h (.inr ?_)).final (Since.start hres)
  refine ⟨session, chain, sender, tx, d1, hacc, x.node, resolved, d2, txBytes, ?_, hgate, hdec, hlate⟩
  rw [resolveTransaction_congr (sameCalls_nodesOnly x), hr]

/-! ### Messages, documents and authorizations -/

theorem enforceView_bind {view : PolicyView} {k : Unit → Handler α} {Q : α → Daemon → Prop}
    {E : Fault OcwpError → Daemon → Prop}
    (hk : gate x.gate x.wallet.policyVault session view = .ok () → Triple (Unsigned L) (k ()) Q E)
    (hE : ∀ e d, Unsigned L d → E e d) : Triple (Unsigned L) (enforceView x session view >>= k) Q E := by
  rw [enforceView, bind_assoc]
  refine .lift_bind (fun _ hgate => ?_) hE
  refine .bind ((emit_since Bool.false_ne_true).triple.conseq (fun _ h => h) (fun _ _ h => h) hE) fun _ => hk hgate

theorem recorded_of_session {k : SessionEntry → Handler Json}
    (h : ∀ session d1, exec (requireSession w params origin) d = (.ok session, d1) →
      Triple (Unsigned d.log) (k session) (fun _ => RecordedSince method d.log) (fun _ => RecordedSince method d.log)) :
    Recorded method (newEvents d (exec (requireSession w params origin >>= k) d).2) := by
  apply recorded_of_since
  rw [exec_bind]
  rcases hs : exec (requireSession w params origin) d with ⟨e | session, d1⟩
  · exact (Since.start ((requireSession_quiet params origin).log_eq hs)).settled
  · exact (h session d1 hs).final (Since.start ((requireSession_quiet params origin).log_eq hs))

theorem message_recorded {host : GateHost} (hgate : x.gate = host) (henabled : x.enclave.enabled = enabled)
    (h : ¬ Exposed w x.wallet m host enabled params origin d .signMessage) :
    Recorded "oc_sign_message" (newEvents d (exec (handleSignMessage w x m params origin) d).2) := by
  subst hgate henabled
  refine recorded_of_session fun session d1 hs => ?_
  refine .lift_bind (fun chain hchain => ?_) fun _ _ h => h.settled
  refine .lift_bind (fun message hmessage => ?_) fun _ _ h => h.settled
  refine enforceView_bind (fun hgate => ?_) fun _ _ h => h.settled
  refine records_bind (signMessageBytes_failsUnsigned fun hlate => h ?_) fun _ => ?_
  · exact ⟨session, chain, message, d1, hs, hchain, hmessage, hgate, hlate⟩
  · exact .bind (recordSignAudit_records _ _ _) fun _ => .pure fun _ h => h

theorem typedData_recorded {host : GateHost} (hgate : x.gate = host) (henabled : x.enclave.enabled = enabled)
    (h : ¬ Exposed w x.wallet m host enabled params origin d .signTypedData) :
    Recorded "oc_sign_typed_data" (newEvents d (exec (handleSignTypedData w x m params origin) d).2) := by
  subst hgate henabled
  refine recorded_of_session fun session d1 hs => ?_
  refine .lift_bind (fun chain hchain => ?_) fun _ _ h => h.settled
  refine .lift_bind (fun typedData hdata => ?_) fun _ _ h => h.settled
  refine enforceView_bind (fun hgate => ?_) fun _ _ h => h.settled
  refine records_bind (signTypedData_failsUnsigned fun hlate => h ?_) fun _ => ?_
  · exact ⟨session, chain, typedData, d1, hs, hchain, hdata, hgate, hlate⟩
  · exact .bind (recordSignAudit_records _ _ _) fun _ => .pure fun _ h => h

theorem requireStepUp_unsigned : Preserves (Unsigned L) (requireStepUp w session params) := by
  have hpasskey : ∀ auth, Preserves (Unsigned L) (authorizePasskey w auth) := fun auth =>
    defaultContext_quiet.since.bind fun _ => agentPasskeyStore_quiet.since.bind fun _ =>
      nextTick_quiet.since.bind fun _ => (onAgent_quiet _).since.bind fun _ => emit_since Bool.false_ne_true
  refine (Preserves.reads _).bind fun required => .ite ?_ (.pure _)
  iterate 5 refine (Preserves.lift _).bind fun _ => ?_
  refine (consumeStepUp_quiet _ _).since.bind fun _ => (Preserves.lift _).bind fun _ => ?_
  refine (hpasskey _).mapErr.bind fun _ => (namedPasskey_quiet _).since.bind fun _ => ?_
  exact .ite (.fail _) (emit_since Bool.false_ne_true)

theorem authorization_recorded :
    Recorded "oc_sign_authorization" (newEvents d (exec (handleSignAuthorization w x params origin) d).2) := by
  refine recorded_of_session fun session d1 hs => ?_
  refine .lift_bind (fun chain _ => ?_) fun _ _ h => h.settled
  refine .bind (requireStepUp_unsigned.triple.conseq (fun _ h => h) (fun _ _ h => h) fun _ _ h => h.settled)
    fun _ => ?_
  refine .lift_bind (fun address _ => .lift_bind (fun nonce _ => ?_) fun _ _ h => h.settled)
    fun _ _ h => h.settled
  refine enforceView_bind (fun _ => ?_) fun _ _ h => h.settled
  refine .lift_bind (fun result _ => ?_) fun _ _ h => h.settled
  refine .bind (emit_grows _) fun _ => ?_
  refine .bind (Q := fun _ => LogSince d.log fun _ => True) (.reads fun _ h => h) fun _ => ?_
  exact .bind (recordSignAudit_records _ _ _) fun _ => .pure fun _ h => h

end Handlers

/-! ## Requests that lose a record -/

section Slips

variable {x : SignHost} {session : SessionEntry} {d : Daemon} {α β : Type}

theorem not_recorded_of_slips {handler : Handler α} {call : Handler β} {d1 : Daemon} {name rawHex : String}
    (hexec : (exec handler d).2 = (exec call (d1.emit (.enforced name rawHex))).2) (hlog : d1.log = d.log)
    (h : Slips call (d1.emit (.enforced name rawHex))) : ¬ Recorded method (newEvents d (exec handler d).2) := by
  obtain ⟨e, d', ev, he, hev, hs⟩ := h
  have hnew : d'.log = d.log ++ [.enforced name rawHex, ev] := by
    rw [hev, Daemon.log_emit, hlog, append_assoc, singleton_append]
  rw [hexec, he, newEvents_eq hnew]
  refine not_recorded (e := ev) (by simp) hs fun f hf => ?_
  rcases mem_cons.mp hf with rfl | hf
  · rfl
  · rw [mem_singleton.mp hf]
    exact Event.isAudit_of_isSignature hs

theorem exec_gatedSign_bind {chain : Chain} {txBytes : Bytes}
    (hgate : gate x.gate x.wallet.policyVault session (transactionView method chain resolved) = .ok ())
    (hdec : decodeHexField resolved.rawHex "transaction" = .ok txBytes) (k : Bytes × Option UInt8 → Handler α)
    (d : Daemon) : exec (gatedSign x method session chain resolved >>= k) d =
      exec (signTxBytes x session chain.chainId txBytes >>= k) (d.emit (.enforced method resolved.rawHex)) := by
  rw [gatedSign, bind_assoc, exec_lift_bind_of_ok hgate, bind_assoc, exec_emit_bind, bind_assoc,
    exec_lift_bind_of_ok hdec]

end Slips

/-! ### Delegations -/

def stuck (env : WalletEnv) (host : GateHost) (enabled : Bool) : SignHost :=
  ⟨env, host, zeroNode, ⟨enabled, fun _ => "", fun _ => .failed ⟨none, ""⟩⟩, fun _ => ""⟩

section Delegation

variable {w : World} {env : WalletEnv} {host : GateHost} {enabled : Bool} {session : SessionEntry} {chain : Chain}
  {d d' : Daemon}

theorem signEntry_evm {e : AuthorizationEntry} {result : SignResult} (h : signEntry env session chain e = .ok result)
    {c : Chain} (hc : parseChain env.chains chain.chainId = .ok c) : c.chainType = .evm := by
  obtain ⟨c', hc', h⟩ := bind_eq_ok.mp (Outcome.mapErr_eq_ok.mp h)
  obtain ⟨chainId, hchain, -⟩ := bind_eq_ok.mp h
  have hparse := mapError_eq_ok.mp (fromResult_eq_ok.mp hc')
  rw [hc] at hparse
  cases hparse
  exact not_not.mp (guard_eq_ok.mp hchain).1

theorem signTxBytes_setCode {x : SignHost} {body : Bytes} {r : Bytes × Option UInt8}
    (hevm : ∀ c, parseChain x.wallet.chains chain.chainId = .ok c → c.chainType = .evm) :
    exec (signTxBytes x session chain.chainId (0x04 :: body)) d ≠ (.ok r, d') := by
  intro h
  obtain ⟨c, secret, signable, output, signed, hc, -, -, henc⟩ := signTxBytes_ok h
  have hsigner : signerForChain x.wallet.evm x.wallet.others c.chainType = evmSigner x.wallet.evm := if_pos (hevm c hc)
  rw [hsigner] at henc
  exact not_encodes_setCode henc

theorem rawHex_of_delegation {x : SignHost} {obj : List (String × Json)}
    (h : SignsDelegation x.wallet session chain obj)
    (hres : exec (resolveTransaction x session chain (.obj obj)) d = (.ok resolved, d')) :
    ∃ body, resolved.rawHex = Text.hexEncode (0x04 :: body) := by
  obtain ⟨f, d1, raw, hf, he, rfl⟩ := resolveTransaction_eq h.structured hres
  obtain ⟨r, hr, hkind⟩ := h.stated
  have hrequest : f.request = r := Except.ok.inj ((prepare_ok hf).request.symm.trans hr.request)
  rw [← hrequest] at hkind
  rcases encodeEnvelope_ok he with ⟨hcapped, -⟩ | ⟨-, last, hraw⟩
  · rw [hkind] at hcapped
    cases hcapped
  · rw [hkind] at hraw
    exact ⟨_, by rw [hraw]; rfl⟩

theorem delegates_not_recorded (host : GateHost) (enabled : Bool) {params : Json} {origin : String} {method : TxMethod} (hm : method ≠ .simulate)
    (h : Delegates w env params origin d method) :
    ¬ Recorded method.name (newEvents d (exec (method.handle w (stuck env host enabled) params origin) d).2) := by
  obtain ⟨session, chain, sender, obj, d1, hacc, hsign⟩ := h
  obtain ⟨address, nonce, hsince⟩ := resolveTransaction_signs (P := fun e => e.isAudit = false) (fun _ _ _ => rfl)
    (x := stuck env host enabled) rfl hsign d1
  rw [(requireSession_quiet params origin).log_eq hacc.session] at hsince
  have hend : LogSince (d.log ++ [.signedAuthorization chain.chainId address nonce]) (fun e => e.isAudit = false)
      (exec (method.handle w (stuck env host enabled) params origin) d).2 := by
    rw [TxMethod.exec_handle hacc, exec_bind]
    rcases hr : exec (resolveTransaction (stuck env host enabled) session chain (.obj obj)) d1 with ⟨e | resolved, d2⟩ <;>
      rw [hr] at hsince
    · exact hsince
    -- behind the resolver the transaction is signed at most
    have hfails : ∀ name, ∃ e d3, exec (gatedSign (stuck env host enabled) name session chain resolved) d2 = (.error e, d3) ∧
        LogSince (d.log ++ [.signedAuthorization chain.chainId address nonce]) (fun e => e.isAudit = false) d3 := by
      intro name
      have hkeep : LogSince (d.log ++ [.signedAuthorization chain.chainId address nonce]) (fun e => e.isAudit = false)
          (exec (gatedSign (stuck env host enabled) name session chain resolved) d2).2 :=
        gatedSign_since (fun _ _ => rfl) (fun _ => rfl) name resolved d2 hsince
      rcases hg : exec (gatedSign (stuck env host enabled) name session chain resolved) d2 with ⟨e | r, d3⟩ <;>
        rw [hg] at hkeep
      · exact ⟨e, d3, rfl, hkeep⟩
      obtain ⟨-, txBytes, hdec, htx⟩ := gatedSign_ok hg
      obtain ⟨body, hraw⟩ := rawHex_of_delegation hsign hr
      rw [decodeHexField_eq_ok, hraw, Text.stripHex_hexEncode, Text.hexDecode_hexEncode] at hdec
      cases hdec
      obtain ⟨chainRef, entry, rest, e, result, -, -, -, hentry⟩ := hsign.first
      exact absurd htx (signTxBytes_setCode fun c hc => signEntry_evm hentry hc)
    cases method with
    | signTransaction =>
      obtain ⟨e, d3, hg, hlog⟩ := hfails "oc_sign_transaction"
      simp only [TxMethod.finish, finishSign, exec_bind, hg]
      exact hlog
    | sendTransaction =>
      obtain ⟨e, d3, hg, hlog⟩ := hfails "oc_send_transaction"
      simp only [TxMethod.finish, finishSend, exec_bind, hg]
      exact hlog
    | simulate => exact absurd rfl hm
  obtain ⟨es, hes, hall⟩ := hend
  rw [newEvents_eq (hes.trans (append_assoc _ _ _))]
  refine not_recorded mem_cons_self rfl fun f hf => ?_
  rcases mem_cons.mp hf with rfl | hf
  · rfl
  · exact hall f hf

end Delegation

/-! ## Which requests are recorded -/

section Result

variable {w : World} {env : WalletEnv} {m : MessageHost} {host : GateHost} {enabled : Bool} {params : Json}
  {origin : String} {d : Daemon}

theorem tx_not_recorded (method : TxMethod) (hm : method ≠ .simulate)
    (h : ExposedTx w env host enabled params origin d method) :
    ∃ node requestId run timestamp, ¬ Recorded method.name
      (newEvents d (exec (method.handle w ⟨env, host, node, ⟨enabled, requestId, run⟩, timestamp⟩ params origin) d).2) := by
  by_cases hdel : Delegates w env params origin d method
  · exact ⟨_, _, _, _, delegates_not_recorded host enabled hm hdel⟩
  obtain ⟨session, chain, sender, tx, d1, hacc, node, resolved, d2, txBytes, hres, hgate, hdec, hlate⟩ :=
    h.resolve_left hdel
  obtain ⟨requestId, hsign⟩ := signTxBytes_late hlate
  have hlog : d2.log = d.log := by
    have hd1 := (requireSession_quiet params origin).log_eq hacc.session
    rcases resolveTransaction_log (nodesOnly env host node) session chain tx d1 with hl | ⟨obj, rfl, hs⟩
    · rw [hres] at hl
      rw [hl, hd1]
    · exact absurd ⟨session, chain, sender, obj, d1, hacc, hs⟩ hdel
  rw [resolveTransaction_congr (sameCalls_refusing env host node (losing enabled requestId) fun _ => "")] at hres
  refine ⟨refusing node, fun _ => requestId, fun _ => .lost ⟨none, ""⟩, fun _ => "", ?_⟩
  have hslip := hsign ⟨env, host, refusing node, losing enabled requestId, fun _ => ""⟩ rfl rfl
    (d2.emit (.enforced method.name resolved.rawHex))
  have hexec := TxMethod.exec_handle (x := ⟨env, host, refusing node, losing enabled requestId, fun _ => ""⟩) hacc
  rw [exec_bind_of_ok hres] at hexec
  cases method with
  | signTransaction =>
    refine not_recorded_of_slips (congrArg Prod.snd (hexec.trans (exec_gatedSign_bind hgate hdec _ d2))) hlog ?_
    exact (hslip.resolve_right fun h => by cases h.1).bind _
  | sendTransaction =>
    refine not_recorded_of_slips (congrArg Prod.snd (hexec.trans (exec_gatedSign_bind hgate hdec _ d2))) hlog ?_
    rcases hslip with hslip | ⟨-, r, d3, ev, hr, hev, hs⟩
    · exact hslip.bind _
    · obtain ⟨e, d4, hb, hd4⟩ := broadcastRaw_refused
        (x := ⟨env, host, refusing node, losing enabled requestId, fun _ => ""⟩) rfl chain.chainId (Text.hexEncode r.1) d3
      refine ⟨e, d4, ev, (exec_bind_of_ok hr).trans ?_, hd4.trans hev, hs⟩
      rw [exec_bind, hb]
  | simulate => exact absurd rfl hm

theorem exec_enforceView_bind {x : SignHost} {session : SessionEntry} {view : PolicyView} {α : Type}
    (hgate : gate x.gate x.wallet.policyVault session view = .ok ()) (k : Unit → Handler α) (d : Daemon) :
    exec (enforceView x session view >>= k) d = exec (k ()) (d.emit (.enforced view.method view.rawHex)) := by
  rw [enforceView, bind_assoc, exec_lift_bind_of_ok hgate, exec_emit_bind]

theorem message_not_recorded (h : Exposed w env m host enabled params origin d .signMessage) (node : Node)
    (timestamp : Nat → String) :
    ∃ requestId run, ¬ Recorded "oc_sign_message"
      (newEvents d (exec (handleSignMessage w ⟨env, host, node, ⟨enabled, requestId, run⟩, timestamp⟩ m params origin) d).2) := by
  obtain ⟨session, chain, message, d1, hs, hchain, hmessage, hgate, hlate⟩ := h
  obtain ⟨requestId, hsign⟩ := signMessageBytes_late hlate
  refine ⟨fun _ => requestId, fun _ => .lost ⟨none, ""⟩, ?_⟩
  refine not_recorded_of_slips (congrArg Prod.snd ((exec_bind_of_ok hs).trans ((exec_lift_bind_of_ok hchain).trans
    ((exec_lift_bind_of_ok hmessage).trans (exec_enforceView_bind hgate _ d1)))))
    ((requireSession_quiet params origin).log_eq hs) ?_
  exact (hsign ⟨env, host, node, losing enabled requestId, timestamp⟩ rfl rfl _).bind _

theorem typedData_not_recorded (h : Exposed w env m host enabled params origin d .signTypedData) (node : Node)
    (timestamp : Nat → String) :
    ∃ requestId run, ¬ Recorded "oc_sign_typed_data"
      (newEvents d (exec (handleSignTypedData w ⟨env, host, node, ⟨enabled, requestId, run⟩, timestamp⟩ m params origin) d).2) := by
  obtain ⟨session, chain, typedData, d1, hs, hchain, hdata, hgate, hlate⟩ := h
  obtain ⟨requestId, hsign⟩ := signTypedData_late hlate
  refine ⟨fun _ => requestId, fun _ => .lost ⟨none, ""⟩, ?_⟩
  refine not_recorded_of_slips (congrArg Prod.snd ((exec_bind_of_ok hs).trans ((exec_lift_bind_of_ok hchain).trans
    ((exec_lift_bind_of_ok hdata).trans (exec_enforceView_bind hgate _ d1)))))
    ((requireSession_quiet params origin).log_eq hs) ?_
  exact (hsign ⟨env, host, node, losing enabled requestId, timestamp⟩ rfl rfl _).bind _

/-- **Which signatures are recorded.**  For every vault, policy set, state and request of the five methods, with
subprocess signing on or off: whatever nodes and subprocesses do, every signature is followed by its audit record, if
and only if the request is not one that is signed before a step that can fail. -/
theorem sign_recorded_iff (w : World) (env : WalletEnv) (m : MessageHost) (host : GateHost) (enabled : Bool)
    (method : SignMethod) (params : Json) (origin : String) (d : Daemon) :
    (∀ node requestId run timestamp, Recorded method.name (newEvents d
      (exec (method.handle w ⟨env, host, node, ⟨enabled, requestId, run⟩, timestamp⟩ m params origin) d).2)) ↔
      ¬ Exposed w env m host enabled params origin d method := by
  constructor
  · intro h hexp
    cases method with
    | signTransaction =>
      obtain ⟨node, requestId, run, timestamp, hnot⟩ := tx_not_recorded .signTransaction (by decide) hexp
      exact hnot (h node requestId run timestamp)
    | sendTransaction =>
      obtain ⟨node, requestId, run, timestamp, hnot⟩ := tx_not_recorded .sendTransaction (by decide) hexp
      exact hnot (h node requestId run timestamp)
    | signMessage =>
      obtain ⟨requestId, run, hnot⟩ := message_not_recorded hexp zeroNode fun _ => ""
      exact hnot (h zeroNode requestId run fun _ => "")
    | signTypedData =>
      obtain ⟨requestId, run, hnot⟩ := typedData_not_recorded hexp zeroNode fun _ => ""
      exact hnot (h zeroNode requestId run fun _ => "")
    | signAuthorization => exact hexp
  · intro h node requestId run timestamp
    cases method with
    | signTransaction => exact tx_recorded .signTransaction (by decide) rfl rfl h
    | sendTransaction => exact tx_recorded .sendTransaction (by decide) rfl rfl h
    | signMessage => exact message_recorded rfl rfl h
    | signTypedData => exact typedData_recorded rfl rfl h
    | signAuthorization => exact authorization_recorded

/-! ### A refused broadcast -/

def refusedHost : SignHost :=
  { offlineHost with node := ⟨fun _ => some "http://node", fun _ _ _ =>
      .json (.obj [("error", .obj [("message", .str "nonce too low")])])⟩ }

/-- **A signature without a record.**  A transaction is signed, the node refuses it, and the request ends. -/
theorem refused_broadcast_unrecorded :
    (exec (handleSendTransaction calmWorld refusedHost (rawParams "eip155:1" (transferOf 7).unsigned)
      "chrome-extension://a") startDaemon).2.log =
        [.enforced "oc_send_transaction" (Text.hexEncode (transferOf 7).unsigned),
          .signedTransaction (transferOf 7).unsigned] ∧
    ¬ Recorded "oc_send_transaction" (newEvents startDaemon
      (exec (handleSendTransaction calmWorld refusedHost (rawParams "eip155:1" (transferOf 7).unsigned)
        "chrome-extension://a") startDaemon).2) := by
  have hlog : (exec (handleSendTransaction calmWorld refusedHost (rawParams "eip155:1" (transferOf 7).unsigned)
      "chrome-extension://a") startDaemon).2.log =
        [.enforced "oc_send_transaction" (Text.hexEncode (transferOf 7).unsigned),
          .signedTransaction (transferOf 7).unsigned] := by decide +kernel
  have hnew : ∀ d', newEvents startDaemon d' = d'.log := fun _ => rfl
  refine ⟨hlog, ?_⟩
  rw [hnew, hlog]
  exact not_recorded (mem_cons_of_mem _ mem_cons_self) rfl (by simp [Event.isAudit])

end Result

end OneCipher.Ocwp
