import OneCipher.Ocwp.Handlers

/-!
# OneCipher.Ocwp.SigningOrder — what comes before a signature

The order of events in a whole run of `oc_sign_transaction`, `oc_send_transaction` or `oc_simulate`.
Transactions are signed behind the policy gate.  EIP-7702 authorizations are not: they are signed while
the transaction is being resolved, which all three methods do first.

`gate_first_iff` says for which requests the gate comes first.
-/

namespace OneCipher.Ocwp

open Prog Trace Core Signer Wallet KeyAgent Result
open Preserves (lift_bind)

/-! ## The order of events -/

namespace Event

def isAuthorization : Event → Bool
  | signedAuthorization _ _ _ => true
  | _ => false

def isSignature : Event → Bool
  | signedTransaction _ | signedAuthorization _ _ _ | signedMessage _ | signedTypedData _ => true
  | _ => false

def isEnforced : Event → Bool
  | enforced _ _ => true
  | _ => false

def isStepUp : Event → Bool
  | stepUp _ => true
  | _ => false

theorem isSignature_of_isAuthorization {e : Event} (h : e.isAuthorization) : e.isSignature := by
  cases e <;> first | rfl | cases h

end Event

/-- The events of one request in the order they should have: policy before any signature, no signature
in a simulation, and a passkey step-up before an authorization where one is required. -/
structure GateFirst (simulating requirePasskey : Bool) (events : List Event) : Prop where
  enforced : Precedes (Event.isEnforced ·) (Event.isSignature ·) events
  simulated : simulating → ∀ e ∈ events, e.isSignature = false
  steppedUp : requirePasskey → Precedes (Event.isStepUp ·) (Event.isAuthorization ·) events

theorem gateFirst_nil (simulating requirePasskey : Bool) : GateFirst simulating requirePasskey [] :=
  ⟨precedes_nil, by simp, fun _ => precedes_nil⟩

theorem not_gateFirst_cons {simulating requirePasskey : Bool} {e : Event} {es : List Event}
    (he : e.isAuthorization) : ¬ GateFirst simulating requirePasskey (e :: es) := fun h =>
  absurd h.enforced (not_precedes_cons (Event.isSignature_of_isAuthorization he))

def newEvents (d d' : Daemon) : List Event := d'.log.drop d.log.length

theorem newEvents_eq {d d' : Daemon} {es : List Event} (h : d'.log = d.log ++ es) : newEvents d d' = es := by
  rw [newEvents, h, List.drop_left]

theorem newEvents_eq_nil {d d' : Daemon} (h : d'.log = d.log) : newEvents d d' = [] := by
  rw [newEvents, h, List.drop_length]

/-! ## Following the log -/

/-- The daemon's log is `L` and then events with `P`. -/
abbrev LogSince (L : List Event) (P : Event → Prop) (d : Daemon) : Prop := Since Daemon.log L P d

theorem emit_since {ε : Type} {L : List Event} {P : Event → Prop} {e : Event} (h : P e) :
    Preserves (LogSince L P) (emit (ε := ε) e) :=
  since_append (Daemon.log_emit e) h

section Runs

variable {w : World} {x : SignHost} {session : SessionEntry} {chain : Chain} {L : List Event} {P : Event → Prop}

/-! ### Calls that record nothing -/

theorem requireSession_quiet (params : Json) (origin : String) : Quiet (requireSession w params origin) := fun L =>
  lift_bind fun _ _ => (nowUnix_quiet L).bind fun _ =>
    (Preserves.state fun _ h => h).bind fun _ => .lift _

theorem exchange_quiet (endpoint rejected chainId method : String) (params : Json) :
    Quiet (exchange x endpoint rejected chainId method params) := fun L =>
  lift_bind fun _ _ => (nextTick_quiet L).bind fun _ => .lift _

theorem internalCall_quiet (chainId method : String) (params : Json) :
    Quiet (internalCall x chainId method params) := fun L =>
  (exchange_quiet _ _ _ _ _ L).bind fun _ => .lift _

theorem broadcastRaw_quiet (chainId signedTxHex : String) : Quiet (broadcastRaw x chainId signedTxHex) := fun L =>
  (exchange_quiet _ _ _ _ _ L).bind fun _ => .lift _

theorem fetchQuantity_quiet (method : String) (params : Json) : Quiet (fetchQuantity x chain method params) := fun L =>
  (internalCall_quiet _ _ _ L).bind fun _ => lift_bind fun _ _ => lift_bind fun _ _ =>
    .pure _

theorem fetchOr_quiet (method : String) (default : Nat) : Quiet (fetchOr x chain method default) := fun L =>
  (fetchQuantity_quiet _ _ L).attempt.bind fun _ => .pure _

theorem fetchNonce_quiet (sender : String) (stated : Option Nat) : Quiet (fetchNonce x chain sender stated) := by
  intro L
  rcases stated with _ | n
  · exact (fetchQuantity_quiet _ _ L).bind fun _ => .lift _
  · exact .pure n

theorem fetchGas_quiet (sender : String) (r : TxRequest) (stated : Option Nat) :
    Quiet (fetchGas x chain sender r stated) := by
  intro L
  rcases stated with _ | n
  · exact (fetchQuantity_quiet _ _ L).bind fun _ => .pure _
  · exact .pure n

theorem fetchBaseFee_quiet (kind : TxKind) (fees : FeeRequest) : Quiet (fetchBaseFee x chain kind fees) := fun L =>
  .ite (.pure _) (fetchOr_quiet _ _ L)

theorem fetchPriorityFee_quiet (kind : TxKind) (fees : FeeRequest) : Quiet (fetchPriorityFee x chain kind fees) := by
  intro L
  unfold fetchPriorityFee
  split
  · exact .pure _
  · exact .ite (fetchOr_quiet _ _ L) (.pure _)

theorem prepare_quiet (obj : List (String × Json)) : Quiet (prepare x session chain obj) := by
  intro L
  refine lift_bind fun r _ => lift_bind fun sender _ => ?_
  refine lift_bind fun _ _ => lift_bind fun fees _ => ?_
  refine lift_bind fun _ _ => (fetchNonce_quiet _ _ L).bind fun nonce => ?_
  refine lift_bind fun _ _ => (fetchGas_quiet _ _ _ L).bind fun gasLimit => ?_
  refine (fetchBaseFee_quiet _ _ L).bind fun baseFee => (fetchPriorityFee_quiet _ _ L).bind fun priority => ?_
  exact .ite (.fail _) (.pure _)

theorem childAnswer_quiet {α : Type} (pid : Nat) (o : Outcome String α) : Quiet (childAnswer pid o) := by
  intro L
  rcases o with (_ | _ | _) | a
  · exact .fail _
  · exact .fail _
  · exact .fail _
  · exact .pure _

theorem finishSimulate_quiet (sender : String) (resolved : ResolvedTx) :
    Quiet (finishSimulate x chain sender resolved) := fun L =>
  (internalCall_quiet _ _ _ L).attempt.bind fun _ => (internalCall_quiet _ _ _ L).attempt.bind fun _ =>
    .pure _

/-! ### Calls that sign -/

theorem recordAudit_since (haudit : ∀ entry, P (.audit entry)) (operation chainId details : String) :
    Preserves (LogSince L P) (recordAudit x session operation chainId details) :=
  nextTick_quiet.since.bind fun _ => emit_since (haudit _)

theorem runChild_since {req : EnclaveRequest}
    (hsign : ∀ s, childSign x.wallet req = .ok s → P (.signedTransaction s.txBytes)) (run : ChildRun) :
    Preserves (LogSince L P) (runChild x req run) := by
  rcases run with err | err | pid
  · exact .fail _
  · refine .bind ?_ fun _ => .fail _
    rcases hs : childSign x.wallet req with _ | s
    · exact .pure _
    · exact emit_since (hsign s hs)
  · rw [runChild]
    rcases hs : childSign x.wallet req with e | s
    · -- no signature, no answer
      rcases e with _ | _ | _ <;> exact fun _ h => h
    · exact (emit_since (hsign s hs)).bind fun _ => (childAnswer_quiet pid _).since

theorem spawnEnclave_since {req : EnclaveRequest}
    (hsign : ∀ s, childSign x.wallet req = .ok s → P (.signedTransaction s.txBytes)) :
    Preserves (LogSince L P) (spawnEnclave x req) := by
  unfold spawnEnclave
  rcases req.validate with e | ⟨⟩
  · exact .fail _
  · exact nextTick_quiet.since.bind fun _ => runChild_since hsign _

theorem signTxBytes_since (hsign : ∀ txBytes, P (.signedTransaction txBytes)) (chainId : String) (txBytes : Bytes) :
    Preserves (LogSince L P) (signTxBytes x session chainId txBytes) := by
  refine .ite ?_ ?_
  · exact nextTick_quiet.since.bind fun _ => (spawnEnclave_since fun _ _ => hsign _).mapErr.bind fun _ =>
      lift_bind fun _ _ => .pure _
  · refine lift_bind fun _ _ => lift_bind fun _ _ => lift_bind fun _ _ => ?_
    exact lift_bind fun _ _ => (emit_since (hsign _)).bind fun _ =>
      lift_bind fun _ _ => .pure _

theorem gatedSign_since (henforced : ∀ method rawHex, P (.enforced method rawHex))
    (hsign : ∀ txBytes, P (.signedTransaction txBytes)) (method : String) (resolved : ResolvedTx) :
    Preserves (LogSince L P) (gatedSign x method session chain resolved) :=
  lift_bind fun _ _ => (emit_since (henforced _ _)).bind fun _ => lift_bind fun _ _ =>
    signTxBytes_since hsign _ _

theorem encodeEntries_since (hauth : ∀ chainId address nonce, P (.signedAuthorization chainId address nonce))
    (chainRef : String) (entries : List Json) :
    Preserves (LogSince L P) (encodeEntries x session chain chainRef entries) := by
  induction entries with
  | nil => exact .pure _
  | cons _ _ ih =>
    refine lift_bind fun e _ => lift_bind fun _ _ => ?_
    exact (emit_since (hauth _ _ _)).bind fun _ => lift_bind fun _ _ => ih.bind fun _ => .pure _

/-- Behind the gate: nothing was recorded, or policy passed first and then no authorization was signed. -/
def Gated (L : List Event) (d : Daemon) : Prop :=
  d.log = L ∨ ∃ method rawHex, LogSince (L ++ [.enforced method rawHex]) (fun e => e.isAuthorization = false) d

theorem gatedSign_gated (method : String) (resolved : ResolvedTx) :
    Triple (fun d => d.log = L) (gatedSign x method session chain resolved)
      (fun _ => LogSince (L ++ [.enforced method resolved.rawHex]) fun e => e.isAuthorization = false)
      (fun _ => Gated L) := by
  refine .bind (Q := fun _ d => d.log = L) (.lift (fun _ _ _ h => h) fun _ _ _ h => .inl h) fun _ => ?_
  refine .bind (Q := fun _ => LogSince (L ++ [.enforced method resolved.rawHex]) fun e => e.isAuthorization = false)
    (.modify fun d h => .start (by rw [Daemon.log_emit, h])) fun _ => ?_
  refine .conseq (Preserves.triple ?_) (fun _ h => h) (fun _ _ h => h) fun _ _ h => .inr ⟨_, _, h⟩
  exact lift_bind fun _ _ => signTxBytes_since (fun _ => rfl) _ _

end Runs

/-! ## The three methods -/

/-- The methods that resolve a transaction. -/
inductive TxMethod where
  | signTransaction | sendTransaction | simulate
  deriving DecidableEq, Repr

namespace TxMethod

def handle (w : World) (x : SignHost) (params : Json) (origin : String) : TxMethod → Handler Json
  | signTransaction => handleSignTransaction w x params origin
  | sendTransaction => handleSendTransaction w x params origin
  | simulate => handleSimulate w x params origin

def finish (x : SignHost) (session : SessionEntry) (chain : Chain) (sender : String) :
    TxMethod → ResolvedTx → Handler Json
  | signTransaction => finishSign x session chain
  | sendTransaction => finishSend x session chain
  | simulate => finishSimulate x chain sender

/-- The request has a session, an account, a transaction and, for a simulation, a sender. -/
structure Accepts (w : World) (env : WalletEnv) (params : Json) (origin : String) (d : Daemon) (method : TxMethod)
    (session : SessionEntry) (chain : Chain) (sender : String) (tx : Json) (d1 : Daemon) : Prop where
  session : exec (requireSession w params origin) d = (.ok session, d1)
  chain : accountChain env params = .ok chain
  sender : method = .simulate → simulationSender params = .ok sender
  transaction : transactionParam params = .ok tx

section Methods

variable {w : World} {x : SignHost} {params : Json} {origin : String} {d d1 : Daemon} {session : SessionEntry}
  {chain : Chain} {sender : String} {tx : Json} {L : List Event} {P : Event → Prop} {method : TxMethod}

theorem exec_handle (h : Accepts w x.wallet params origin d method session chain sender tx d1) :
    exec (method.handle w x params origin) d =
      exec (resolveTransaction x session chain tx >>= method.finish x session chain sender) d1 := by
  cases method with
  | signTransaction =>
    simp only [handle, handleSignTransaction, exec_bind, exec_lift, h.session, h.chain, h.transaction, finish]
  | sendTransaction =>
    simp only [handle, handleSendTransaction, exec_bind, exec_lift, h.session, h.chain, h.transaction, finish]
  | simulate =>
    simp only [handle, handleSimulate, exec_bind, exec_lift, h.session, h.chain, h.sender rfl, h.transaction, finish]

theorem handle_cases (w : World) (x : SignHost) (params : Json) (origin : String) (d : Daemon) (method : TxMethod) :
    (exec (method.handle w x params origin) d).2.log = d.log ∨
      ∃ session chain sender tx d1, Accepts w x.wallet params origin d method session chain sender tx d1 := by
  rcases hs : exec (requireSession w params origin) d with ⟨e | session, d1⟩
  · have hlog := (requireSession_quiet params origin).log_eq hs
    cases method <;>
      simp only [handle, handleSignTransaction, handleSendTransaction, handleSimulate, exec_bind, hs, hlog, true_or]
  have hlog := (requireSession_quiet params origin).log_eq hs
  rcases hc : accountChain x.wallet params with e | chain
  · cases method <;>
      simp only [handle, handleSignTransaction, handleSendTransaction, handleSimulate, exec_bind, exec_lift, hs, hc,
        hlog, true_or]
  rcases ht : transactionParam params with e | tx
  · cases method with
    | simulate =>
      rcases hsend : simulationSender params with e | sender <;>
        simp only [handle, handleSimulate, exec_bind, exec_lift, hs, hc, ht, hsend, hlog, true_or]
    | _ =>
      simp only [handle, handleSignTransaction, handleSendTransaction, exec_bind, exec_lift, hs, hc, ht, hlog, true_or]
  rcases hsend : simulationSender params with e | sender
  · cases method with
    | simulate => simp only [handle, handleSimulate, exec_bind, exec_lift, hs, hc, hsend, hlog, true_or]
    | _ => exact .inr ⟨session, chain, "", tx, d1, hs, hc, nofun, ht⟩
  · exact .inr ⟨session, chain, sender, tx, d1, hs, hc, fun _ => hsend, ht⟩

theorem finish_gated (method : TxMethod) (resolved : ResolvedTx) :
    Triple (fun d => d.log = L) (method.finish x session chain sender resolved)
      (fun _ d => if method = .simulate then d.log = L else Gated L d)
      (fun _ d => if method = .simulate then d.log = L else Gated L d) := by
  have hafter : ∀ {m : String} {α : Type} {k : Handler α},
      Preserves (LogSince (L ++ [.enforced m resolved.rawHex]) fun e => e.isAuthorization = false) k →
      Triple (LogSince (L ++ [.enforced m resolved.rawHex]) fun e => e.isAuthorization = false) k
        (fun _ => Gated L) (fun _ => Gated L) :=
    fun hk => hk.triple.conseq (fun _ h => h) (fun _ _ h => .inr ⟨_, _, h⟩) fun _ _ h => .inr ⟨_, _, h⟩
  have haudit : ∀ entry, (Event.audit entry).isAuthorization = false := fun _ => rfl
  cases method with
  | signTransaction =>
    refine .bind (gatedSign_gated _ _) fun _ => hafter ?_
    exact (recordAudit_since haudit _ _ _).bind fun _ => .pure _
  | sendTransaction =>
    refine .bind (gatedSign_gated _ _) fun _ => hafter ?_
    refine (broadcastRaw_quiet _ _).since.bind fun _ => .bind (emit_since (by rfl)) fun _ => ?_
    exact (recordAudit_since haudit _ _ _).bind fun _ => (recordAudit_since haudit _ _ _).bind fun _ => .pure _
  | simulate => exact (finishSimulate_quiet sender resolved L).triple

theorem finish_grows (method : TxMethod) (resolved : ResolvedTx) :
    Preserves (LogSince L fun _ => True) (method.finish x session chain sender resolved) := by
  have hsign : ∀ m, Preserves (LogSince L fun _ => True) (gatedSign x m session chain resolved) := fun m =>
    gatedSign_since (fun _ _ => trivial) (fun _ => trivial) m resolved
  have haudit : ∀ operation details,
      Preserves (LogSince L fun _ => True) (recordAudit x session operation chain.chainId details) :=
    fun operation details => recordAudit_since (fun _ => trivial) _ _ _
  cases method with
  | signTransaction => exact (hsign _).bind fun _ => (haudit _ _).bind fun _ => .pure _
  | sendTransaction =>
    refine (hsign _).bind fun _ => (broadcastRaw_quiet _ _).since.bind fun _ => (emit_since trivial).bind fun _ => ?_
    exact (haudit _ _).bind fun _ => (haudit _ _).bind fun _ => .pure _
  | simulate => exact (finishSimulate_quiet sender resolved).since

end Methods

end TxMethod

/-! ## Signing while resolving -/

section Delegation

variable {x : SignHost} {session : SessionEntry} {chain : Chain} {obj : List (String × Json)} {d : Daemon}
  {P : Event → Prop}

/-- The first authorization of the request can be signed with the session's credential. -/
def FirstSigned (env : WalletEnv) (session : SessionEntry) (chain : Chain) (obj : List (String × Json)) : Prop :=
  ∃ chainRef entry rest e result, Text.stripPrefix "eip155:" chain.chainId = some chainRef ∧
    authorizationEntries obj = .ok (entry :: rest) ∧ readEntry chainRef entry = .ok e ∧
    signEntry env session chain e = .ok result

/-- The request is a structured EIP-7702 transaction that passes every check made on it before its
authorizations are signed, and the first of them can be. -/
structure SignsDelegation (env : WalletEnv) (session : SessionEntry) (chain : Chain) (obj : List (String × Json)) :
    Prop where
  structured : (obj.lookup "raw").bind Json.asStr = none
  stated : ∃ r, Stated env session chain obj r ∧ r.kind = .eip7702
  first : FirstSigned env session chain obj

theorem encodeAuthorizationList_log (x : SignHost) (session : SessionEntry) (chain : Chain)
    (obj : List (String × Json)) (d : Daemon) :
    (exec (encodeAuthorizationList x session chain obj) d).2.log = d.log ∨ FirstSigned x.wallet session chain obj := by
  rw [encodeAuthorizationList]
  rcases href : Text.stripPrefix "eip155:" chain.chainId with _ | chainRef
  · exact .inl rfl
  rw [exec_lift_bind_of_ok (by rfl : _ = Except.ok chainRef)]
  rcases hentries : authorizationEntries obj with e | entries
  · exact .inl rfl
  rw [exec_lift_bind_of_ok (by rfl : _ = Except.ok entries)]
  rcases entries with _ | ⟨entry, rest⟩
  · exact .inl rfl
  rw [encodeEntries, bind_assoc]
  rcases hread : readEntry chainRef entry with e | e
  · exact .inl rfl
  rw [exec_lift_bind_of_ok (by rfl : _ = Except.ok e), bind_assoc]
  rcases hsign : signEntry x.wallet session chain e with err | result
  · exact .inl rfl
  · exact .inr ⟨chainRef, entry, rest, e, result, href, hentries, hread, hsign⟩

theorem exec_resolveTransaction_structured (hraw : (obj.lookup "raw").bind Json.asStr = none) :
    exec (resolveTransaction x session chain (.obj obj)) d = exec (resolveStructured x session chain obj) d := by
  rw [resolveTransaction, exec_lift_bind_of_ok (by rfl : _ = Except.ok obj), hraw]

theorem resolveTransaction_setCode {f : Filled} {d1 : Daemon} (hraw : (obj.lookup "raw").bind Json.asStr = none)
    (hf : exec (prepare x session chain obj) d = (.ok f, d1)) (hkind : f.request.kind = .eip7702) :
    (exec (resolveTransaction x session chain (.obj obj)) d).2 =
      (exec (encodeAuthorizationList x session chain obj) d1).2 := by
  simp only [exec_resolveTransaction_structured hraw, resolveStructured, exec_bind_of_ok hf, encodeEnvelope, lastItem,
    hkind, TxKind.isCapped, if_true, bind_assoc]
  rw [exec_bind]
  rcases exec (encodeAuthorizationList x session chain obj) d1 with ⟨_ | _, _⟩ <;> rfl

/-- **Resolving signs nothing else**: the log is unchanged unless the request signs a delegation. -/
theorem resolveTransaction_log (x : SignHost) (session : SessionEntry) (chain : Chain) (tx : Json) (d : Daemon) :
    (exec (resolveTransaction x session chain tx) d).2.log = d.log ∨
      ∃ obj, tx = .obj obj ∧ SignsDelegation x.wallet session chain obj := by
  rcases tx with _ | _ | _ | _ | _ | obj
  iterate 5 exact .inl rfl
  rcases hraw : (obj.lookup "raw").bind Json.asStr with _ | raw
  · rcases hf : exec (prepare x session chain obj) d with ⟨e | f, d1⟩
    · refine .inl (Eq.trans ?_ ((prepare_quiet obj).log_eq hf))
      simp only [exec_resolveTransaction_structured hraw, resolveStructured, exec_bind, hf]
    have hlog := (prepare_quiet obj).log_eq hf
    by_cases hkind : f.request.kind = .eip7702
    · rcases encodeAuthorizationList_log x session chain obj d1 with hl | hfirst
      · exact .inl (by rw [resolveTransaction_setCode hraw hf hkind, hl, hlog])
      · exact .inr ⟨obj, rfl, hraw, ⟨_, prepare_ok hf, hkind⟩, hfirst⟩
    · refine .inl (Eq.trans ?_ hlog)
      simp only [exec_resolveTransaction_structured hraw, resolveStructured, exec_bind_of_ok hf, encodeEnvelope, lastItem,
        if_neg hkind]
      split <;> rfl
  · left
    rw [resolveTransaction, exec_lift_bind_of_ok (by rfl : _ = Except.ok obj), hraw]
    rfl

/-! ### A node that lets every request through -/

def zeroNode : Node := ⟨fun _ => some "", fun _ _ _ => .json (.obj [("result", .str "0x0")])⟩

theorem parseQuantity_zero (fieldName : String) : parseQuantity "0x0" fieldName = .ok 0 :=
  Outcome.okOr_eq_ok.mpr (by decide +kernel)

theorem fetchQuantity_zero (hx : x.node = zeroNode) (chain : Chain) (method : String) (params : Json) (d : Daemon) :
    ∃ t, exec (fetchQuantity x chain method params) d = (.ok (some 0), t) := by
  have hcall : ∃ t, exec (internalCall x chain.chainId method params) d = (.ok (.str "0x0"), t) := by
    rw [internalCall, exchange, hx]
    exact ⟨_, rfl⟩
  obtain ⟨t, hcall⟩ := hcall
  refine ⟨t, ?_⟩
  rw [fetchQuantity, exec_bind_of_ok hcall, exec_lift_bind_of_ok (by rfl : _ = Except.ok "0x0"),
    exec_lift_bind_of_ok (parseQuantity_zero _)]
  rfl

theorem fetchOr_zero (hx : x.node = zeroNode) (chain : Chain) (method : String) (default : Nat) (d : Daemon) :
    ∃ t, exec (fetchOr x chain method default) d = (.ok 0, t) := by
  obtain ⟨t, h⟩ := fetchQuantity_zero hx chain method (.arr []) d
  exact ⟨t, by rw [fetchOr, exec_bind, exec_attempt, h]; rfl⟩

theorem fetchNonce_returns (hx : x.node = zeroNode) (chain : Chain) (sender : String) (stated : Option Nat) (d : Daemon) :
    Returns (fetchNonce x chain sender stated) d := by
  rcases stated with _ | n
  · obtain ⟨t, h⟩ := fetchQuantity_zero hx chain _ _ d
    exact .bind h ⟨0, t, rfl⟩
  · exact .pure n d

theorem fetchGas_returns (hx : x.node = zeroNode) (chain : Chain) (sender : String) (r : TxRequest) (stated : Option Nat)
    (d : Daemon) : Returns (fetchGas x chain sender r stated) d := by
  rcases stated with _ | n
  · obtain ⟨t, h⟩ := fetchQuantity_zero hx chain _ _ d
    exact .bind h (.pure _ t)
  · exact .pure n d

theorem fetchBaseFee_zero (hx : x.node = zeroNode) (chain : Chain) (kind : TxKind) (fees : FeeRequest) (d : Daemon) :
    ∃ t, exec (fetchBaseFee x chain kind fees) d = (.ok 0, t) := by
  unfold fetchBaseFee
  split
  · exact ⟨d, rfl⟩
  · exact fetchOr_zero hx chain _ _ d

theorem fetchPriorityFee_zero (hx : x.node = zeroNode) (chain : Chain) (kind : TxKind) (fees : FeeRequest) (d : Daemon) :
    ∃ t, exec (fetchPriorityFee x chain kind fees) d =
      (.ok ((fees.priority.orElse fun _ => fees.gasPrice).getD 0), t) := by
  rw [fetchPriorityFee]
  rcases fees.priority.orElse fun _ => fees.gasPrice with _ | p
  · cases kind.isCapped with
    | true => exact fetchOr_zero hx chain _ _ d
    | false => exact ⟨d, rfl⟩
  · exact ⟨d, rfl⟩

theorem priority_le_maxFee {kind : TxKind} {fees : FeeRequest} (h : readFees kind obj = .ok fees)
    (hfit : exceeds (fees.priority.orElse fun _ => fees.gasPrice) (fees.maxFee.orElse fun _ => fees.gasPrice) = false) :
    (fees.priority.orElse fun _ => fees.gasPrice).getD 0 ≤
      maxFeeOf fees 0 ((fees.priority.orElse fun _ => fees.gasPrice).getD 0) := by
  rcases hp : fees.priority.orElse fun _ => fees.gasPrice with _ | p
  · exact Nat.zero_le _
  have hlt := readFees_lt h hp
  rw [maxFeeOf]
  rcases hm : fees.maxFee.orElse fun _ => fees.gasPrice with _ | m
  · simp only [Option.getD_some, Option.getD_none, u128Max]
    omega
  · rw [hp, hm] at hfit
    exact not_lt.mp (of_decide_eq_false hfit)

theorem prepare_returns (hx : x.node = zeroNode) {r : TxRequest} (h : Stated x.wallet session chain obj r)
    (d : Daemon) : ∃ f t, exec (prepare x session chain obj) d = (.ok f, t) ∧ f.request = r := by
  obtain ⟨hr, ⟨sender, hsender, hfrom⟩, ⟨fees, hfees, hfit⟩, ⟨nonce, hnonce⟩, ⟨gas, hgas⟩⟩ := h
  have hreturns : Returns (prepare x session chain obj) d := by
    refine .lift_bind hr (.lift_bind hsender (.lift_bind hfrom (.lift_bind hfees (.lift_bind hnonce ?_))))
    obtain ⟨n, d1, h1⟩ := fetchNonce_returns hx chain sender nonce d
    refine .bind h1 (.lift_bind hgas ?_)
    obtain ⟨g, d2, h2⟩ := fetchGas_returns hx chain sender r gas d1
    obtain ⟨d3, h3⟩ := fetchBaseFee_zero hx chain r.kind fees d2
    obtain ⟨d4, h4⟩ := fetchPriorityFee_zero hx chain r.kind fees d3
    refine .bind h2 (.bind h3 (.bind h4 ?_))
    exact ⟨_, _, exec_guard_ok.mpr ⟨not_lt.mpr (priority_le_maxFee hfees hfit), rfl⟩⟩
  obtain ⟨f, t, hf⟩ := hreturns
  exact ⟨f, t, hf, Except.ok.inj ((prepare_ok hf).request.symm.trans hr)⟩

theorem encodeAuthorizationList_signs (hauth : ∀ chainId address nonce, P (.signedAuthorization chainId address nonce))
    (h : FirstSigned x.wallet session chain obj) (d : Daemon) :
    ∃ address nonce, LogSince (d.log ++ [.signedAuthorization chain.chainId address nonce]) P
      (exec (encodeAuthorizationList x session chain obj) d).2 := by
  obtain ⟨chainRef, entry, rest, e, result, href, hentries, hread, hsign⟩ := h
  refine ⟨e.address, toString e.nonce, ?_⟩
  rw [encodeAuthorizationList, exec_lift_bind_of_ok (Outcome.okOr_eq_ok.mpr href), exec_lift_bind_of_ok hentries,
    encodeEntries, bind_assoc, exec_lift_bind_of_ok hread, bind_assoc, exec_lift_bind_of_ok hsign, bind_assoc,
    exec_bind_of_ok (by rfl : exec (emit (.signedAuthorization chain.chainId e.address (toString e.nonce))) d =
      (.ok (), d.emit (.signedAuthorization chain.chainId e.address (toString e.nonce))))]
  refine Preserves.bind ?_ (fun _ => Preserves.pure _) _ (.start rfl)
  exact lift_bind fun _ _ => (encodeEntries_since hauth _ _).bind fun _ => Preserves.pure _

theorem resolveTransaction_signs (hauth : ∀ chainId address nonce, P (.signedAuthorization chainId address nonce)) (hx : x.node = zeroNode) (h : SignsDelegation x.wallet session chain obj)
    (d : Daemon) : ∃ address nonce, LogSince (d.log ++ [.signedAuthorization chain.chainId address nonce]) P
      (exec (resolveTransaction x session chain (.obj obj)) d).2 := by
  obtain ⟨r, hr, hkind⟩ := h.stated
  obtain ⟨f, d1, hf, rfl⟩ := prepare_returns hx hr d
  obtain ⟨address, nonce, hsince⟩ := encodeAuthorizationList_signs hauth h.first d1
  rw [(prepare_quiet obj).log_eq hf] at hsince
  exact ⟨address, nonce, by rwa [resolveTransaction_setCode h.structured hf hkind]⟩

end Delegation

/-! ## Which requests keep the order -/

/-- The request is accepted and its transaction signs a delegation. -/
def Delegates (w : World) (env : WalletEnv) (params : Json) (origin : String) (d : Daemon) (method : TxMethod) : Prop :=
  ∃ session chain sender obj d1, method.Accepts w env params origin d session chain sender (.obj obj) d1 ∧
    SignsDelegation env session chain obj

section Order

variable {w : World} {x : SignHost} {params : Json} {origin : String} {d : Daemon} {method : TxMethod}

theorem resolve_log_of_not_delegates {session : SessionEntry} {chain : Chain} {sender : String} {tx : Json} {d1 : Daemon}
    (hacc : method.Accepts w x.wallet params origin d session chain sender tx d1)
    (h : ¬ Delegates w x.wallet params origin d method) :
    (exec (resolveTransaction x session chain tx) d1).2.log = d.log := by
  rcases resolveTransaction_log x session chain tx d1 with hl | ⟨obj, rfl, hsign⟩
  · rw [hl, (requireSession_quiet params origin).log_eq hacc.session]
  · exact absurd ⟨session, chain, sender, obj, d1, hacc, hsign⟩ h

theorem gateFirst_of_not_delegates (h : ¬ Delegates w x.wallet params origin d method) :
    GateFirst (method = .simulate) d.requirePasskeyEip7702
      (newEvents d (exec (method.handle w x params origin) d).2) := by
  rcases method.handle_cases w x params origin d with hlog | ⟨session, chain, sender, tx, d1, hacc⟩
  · rw [newEvents_eq_nil hlog]
    exact gateFirst_nil _ _
  have hres := resolve_log_of_not_delegates hacc h
  -- the run ends in the resolver with nothing recorded, or goes on behind it
  have hend : if method = .simulate then (exec (method.handle w x params origin) d).2.log = d.log
      else Gated d.log (exec (method.handle w x params origin) d).2 := by
    rw [TxMethod.exec_handle hacc, exec_bind]
    rcases hr : exec (resolveTransaction x session chain tx) d1 with ⟨e | resolved, d2⟩ <;> rw [hr] at hres
    · split
      · exact hres
      · exact .inl hres
    · exact (method.finish_gated resolved).final hres
  by_cases hm : method = .simulate
  · rw [if_pos hm] at hend
    rw [newEvents_eq_nil hend]
    exact gateFirst_nil _ _
  rw [if_neg hm] at hend
  rcases hend with hend | ⟨m, rawHex, es, hes, hauth⟩
  · rw [newEvents_eq_nil hend]
    exact gateFirst_nil _ _
  · rw [newEvents_eq (hes.trans (List.append_assoc _ _ _)), decide_eq_false hm]
    exact ⟨precedes_cons rfl Bool.false_ne_true, nofun,
      fun _ => precedes_of_forall_not (by simpa [Event.isAuthorization] using hauth)⟩

theorem not_gateFirst_of_delegates (hx : x.node = zeroNode) (h : Delegates w x.wallet params origin d method)
    (simulating requirePasskey : Bool) :
    ¬ GateFirst simulating requirePasskey (newEvents d (exec (method.handle w x params origin) d).2) := by
  obtain ⟨session, chain, sender, obj, d1, hacc, hsign⟩ := h
  obtain ⟨address, nonce, hsince⟩ := resolveTransaction_signs (P := fun _ => True) (fun _ _ _ => trivial) hx hsign d1
  rw [(requireSession_quiet params origin).log_eq hacc.session] at hsince
  have hend : LogSince (d.log ++ [.signedAuthorization chain.chainId address nonce]) (fun _ => True)
      (exec (method.handle w x params origin) d).2 := by
    rw [TxMethod.exec_handle hacc, exec_bind]
    rcases hr : exec (resolveTransaction x session chain (.obj obj)) d1 with ⟨e | resolved, d2⟩ <;> rw [hr] at hsince
    · exact hsince
    · exact method.finish_grows resolved d2 hsince
  obtain ⟨es, hes, -⟩ := hend
  rw [newEvents_eq (hes.trans (List.append_assoc _ _ _))]
  exact not_gateFirst_cons rfl

/-- **When the gate comes first.**  For every vault, policy set, state and request of the three methods:
whatever nodes and subprocesses answer, signatures follow the gate, a simulation makes none and a
required step-up precedes each authorization, if and only if the request is not one that delegates. -/
theorem gate_first_iff (w : World) (env : WalletEnv) (host : GateHost) (method : TxMethod) (params : Json)
    (origin : String) (d : Daemon) :
    (∀ node enclave timestamp, GateFirst (method = .simulate) d.requirePasskeyEip7702
      (newEvents d (exec (method.handle w ⟨env, host, node, enclave, timestamp⟩ params origin) d).2)) ↔
      ¬ Delegates w env params origin d method := by
  constructor
  · intro h hdel
    exact not_gateFirst_of_delegates (x := ⟨env, host, zeroNode, offlineHost.enclave, offlineHost.timestamp⟩) rfl hdel
      _ _ (h _ _ _)
  · intro h node enclave timestamp
    exact gateFirst_of_not_delegates (x := ⟨env, host, node, enclave, timestamp⟩) h

/-! ### A simulated delegation -/

def delegationParams : Json :=
  .obj [("session_id", .str sessionA.sessionId), ("account_id", .str "eip155:1"),
    ("from", .str "0xaaaaaaaaaaaaaaaaaaaaaaaaaaaaaaaaaaaaaaaa"),
    ("transaction", .obj (transferRequest "0x4" ++ [("authorization_list",
      .arr [.obj [("address", .str "0xbbbbbbbbbbbbbbbbbbbbbbbbbbbbbbbbbbbbbbbb"), ("nonce", .str "1")]])]))]

/-- **A simulation signs.**  The daemon requires a passkey for authorizations; a simulation signs one, and
that is the only thing it records. -/
theorem simulate_signs_authorization :
    (exec (handleSimulate calmWorld offlineHost delegationParams "chrome-extension://a")
      (.start sessionsA twoWallets true)).2.log =
        [.signedAuthorization "eip155:1" "0xbbbbbbbbbbbbbbbbbbbbbbbbbbbbbbbbbbbbbbbb" "1"] ∧
    ¬ GateFirst true true (newEvents (.start sessionsA twoWallets true)
      (exec (TxMethod.simulate.handle calmWorld offlineHost delegationParams "chrome-extension://a")
        (.start sessionsA twoWallets true)).2) := by
  have hlog : (exec (handleSimulate calmWorld offlineHost delegationParams "chrome-extension://a")
      (.start sessionsA twoWallets true)).2.log =
        [.signedAuthorization "eip155:1" "0xbbbbbbbbbbbbbbbbbbbbbbbbbbbbbbbbbbbbbbbb" "1"] := by decide +kernel
  have hnew : ∀ d', newEvents (.start sessionsA twoWallets true) d' = d'.log := fun _ => rfl
  refine ⟨hlog, ?_⟩
  rw [hnew, TxMethod.handle, hlog]
  exact not_gateFirst_cons rfl

end Order

end OneCipher.Ocwp
