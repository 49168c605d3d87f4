import OneCipher.Ocwp.Messages
import OneCipher.Ocwp.SigningOrder

/-!
# OneCipher.Ocwp.SigningCalls — signing calls that can fail behind the signature

A signing call of the daemon makes its signature and then still has work to do: read a child's answer, encode the
transaction, derive a public key.  `LateTx`, `LateMessage` and `LateTypedData` name the requests for which that work can
fail.  For all others a call that fails has signed nothing (`FailsUnsigned`); for these there are surroundings in which
it fails right behind the signature (`Slips`).
-/

namespace OneCipher.Ocwp

open Prog Trace Core Signer Wallet KeyAgent Result
open Outcome (mapErr_eq_ok)

namespace Event

def isAudit : Event → Bool
  | audit _ => true
  | _ => false

theorem isAudit_of_isSignature {e : Event} (h : e.isSignature = true) : e.isAudit = false := by
  cases e <;> first | rfl | cases h

end Event

/-! ## Late requests -/

section Conditions

variable (env : WalletEnv) (m : MessageHost) (enabled : Bool) (session : SessionEntry) (chainId : String)

def txRequest (txBytes : Bytes) (requestId : String) : EnclaveRequest :=
  { requestId := requestId
    walletId := session.walletId
    chainId := chainId
    payloadHex := Text.hexEncode txBytes
    index := session.index
    credentialHex := Text.hexEncode (Text.utf8 session.passphrase) }

/-- The daemon's own process signs the transaction. -/
structure SignsTx (txBytes : Bytes) (chain : Chain) (output : SignOutput) : Prop where
  parsed : parseChain env.chains chainId = .ok chain
  signed : ∃ secret signable, sessionKey env session chain = .ok secret ∧
    (env.signerFor chain).extractSignableBytes txBytes = .ok signable ∧
    (env.signerFor chain).signTransaction secret signable = .ok output

/-- A child signs the transaction and its answer can be lost; or the daemon does, and the transaction is to be
broadcast or cannot be encoded. -/
def LateTx (sending : Bool) (txBytes : Bytes) : Prop :=
  if enabled then ∃ requestId s, childSign env (txRequest session chainId txBytes requestId) = .ok s
  else ∃ chain output, SignsTx env session chainId txBytes chain output ∧
    (sending ∨ ∀ signed, (env.signerFor chain).encodeSignedTransaction txBytes output.signature ≠ .ok signed)

/-- The daemon's own process signs the message. -/
structure SignsMessage (message : Bytes) (chain : Chain) (secret : Bytes) : Prop where
  parsed : parseChain env.chains chainId = .ok chain
  opened : sessionKey env session chain = .ok secret
  signed : ∃ output, (messageSignerFor m env chain).signMessage secret message = .ok output

/-- A child signs the message; or the daemon does, and the key has no public key of the expected kind. -/
def LateMessage (message : Bytes) : Prop :=
  if enabled then
    ∃ requestId s, childSignOp m env (opRequest session chainId .message (Text.hexEncode message) "" requestId) = .ok s
  else ∃ chain secret, SignsMessage env m session chainId message chain secret ∧
    ∀ publicKey, messagePublicKey m env chain secret ≠ .ok publicKey

/-- The daemon's own process signs the document. -/
structure SignsTypedData (typedDataJson : String) (chain : Chain) : Prop where
  parsed : typedDataChain env chainId = .ok chain
  signed : ∃ result, walletSignTypedData env session.wallet chainId typedDataJson session.passphrase
    (some session.index) = .ok result

/-- A child signs the document; or the daemon does, and the session's key cannot be opened once more. -/
def LateTypedData (typedDataJson : String) : Prop :=
  if enabled then
    ∃ requestId s, childSignOp m env (opRequest session chainId .typedData "" typedDataJson requestId) = .ok s
  else ∃ chain, SignsTypedData env session chainId typedDataJson chain ∧
    ∀ publicKey, typedDataPublicKey env session chain ≠ .ok publicKey

end Conditions

/-! ## Calls that fail only before they sign -/

/-- No signature since `L`. -/
abbrev Unsigned (L : List Event) (d : Daemon) : Prop := LogSince L (fun e => ¬ e.isSignature) d

/-- If the call fails, it has signed nothing. -/
def FailsUnsigned {ε α : Type} (call : Prog Daemon ε α) : Prop :=
  ∀ L, Triple (Unsigned L) call (fun _ => LogSince L fun _ => True) (fun _ => Unsigned L)

variable {txBytes : Bytes} {env : WalletEnv}

section Calls

variable {x : SignHost} {m : MessageHost} {session : SessionEntry} {chainId : String} {L : List Event}
  {P : Event → Prop} {ε α : Type}

theorem exec_nextTick_bind (k : Nat → Prog Daemon ε α) (d : Daemon) :
    exec (nextTick >>= k) d = exec (k d.tick) { d with tick := d.tick + 1 } := exec_bind_of_ok rfl

theorem exec_emit_bind (e : Event) (k : Unit → Prog Daemon ε α) (d : Daemon) :
    exec (emit e >>= k) d = exec (k ()) (d.emit e) := exec_bind_of_ok rfl

theorem failsUnsigned_of_preserves {call : Prog Daemon ε α} (h : ∀ L, Preserves (Unsigned L) call) :
    FailsUnsigned call := fun L =>
  (h L).triple.conseq (fun _ h => h) (fun _ _ h => h.mono fun _ _ => trivial) fun _ _ h => h

theorem since_emit {d : Daemon} (h : LogSince L P d) (e : Event) : LogSince L (fun _ => True) (d.emit e) :=
  emit_since (P := fun _ => True) (ε := OcwpError) trivial d (h.mono fun _ _ => trivial)

theorem emit_grows (e : Event) {E : Fault ε → Daemon → Prop} :
    Triple (LogSince L P) (emit e) (fun _ => LogSince L fun _ => True) E :=
  .modify fun _ h => since_emit h e

/-! ### Transactions -/

theorem enclaveSign_since
    (hsign : ∀ requestId s, childSign x.wallet (txRequest session chainId txBytes requestId) = .ok s → P (.signedTransaction s.txBytes)) :
    Preserves (LogSince L P) (enclaveSign x session chainId txBytes) :=
  nextTick_quiet.since.bind fun _ => (spawnEnclave_since fun s hs => hsign _ s hs).mapErr.bind fun _ =>
    (Preserves.lift _).bind fun _ => .pure _

theorem localSign_since
    (hsign : ∀ chain output, SignsTx x.wallet session chainId txBytes chain output → P (.signedTransaction txBytes)) :
    Preserves (LogSince L P) (localSign x session chainId txBytes) := by
  refine .lift_bind fun chain hchain => .lift_bind fun secret hsecret => ?_
  refine .lift_bind fun signable hext => .lift_bind fun output hout => ?_
  have hs : SignsTx x.wallet session chainId txBytes chain output :=
    ⟨mapError_eq_ok.mp hchain, secret, signable, hsecret, mapErr_eq_ok.mp hext, mapErr_eq_ok.mp hout⟩
  exact (emit_since (hsign chain output hs)).bind fun _ => (Preserves.lift _).bind fun _ => .pure _

theorem localSign_failsUnsigned
    (henc : ∀ chain output, SignsTx x.wallet session chainId txBytes chain output → ∃ signed, (x.wallet.signerFor chain).encodeSignedTransaction txBytes output.signature = .ok signed) :
    FailsUnsigned (localSign x session chainId txBytes) := by
  intro L
  refine .lift_bind (fun chain hchain => .lift_bind (fun secret hsecret => ?_) fun _ _ h => h) fun _ _ h => h
  refine .lift_bind (fun signable hext => .lift_bind (fun output hout => ?_) fun _ _ h => h) fun _ _ h => h
  obtain ⟨signed, hsigned⟩ := henc chain output ⟨mapError_eq_ok.mp hchain, secret, signable, hsecret,
    mapErr_eq_ok.mp hext, mapErr_eq_ok.mp hout⟩
  exact .bind (emit_grows _) fun _ => .lift_bind_of_ok (mapErr_eq_ok.mpr hsigned) (.pure fun _ h => h)

theorem signTxBytes_unsigned (h : ¬ LateTx x.wallet x.enclave.enabled session chainId true txBytes) :
    Preserves (Unsigned L) (signTxBytes x session chainId txBytes) := by
  rw [signTxBytes]
  rw [LateTx] at h
  split_ifs at h ⊢
  · exact enclaveSign_since fun requestId s hs => absurd ⟨requestId, s, hs⟩ h
  · exact localSign_since fun chain output hs => absurd ⟨chain, output, hs, .inl rfl⟩ h

theorem signTxBytes_failsUnsigned {sending : Bool}
    (h : ¬ LateTx x.wallet x.enclave.enabled session chainId sending txBytes) :
    FailsUnsigned (signTxBytes x session chainId txBytes) := by
  rw [signTxBytes]
  rw [LateTx] at h
  split_ifs at h ⊢
  · exact failsUnsigned_of_preserves fun L =>
      enclaveSign_since fun requestId s hs => absurd ⟨requestId, s, hs⟩ h
  · refine localSign_failsUnsigned fun chain output hs => ?_
    by_contra hnone
    exact h ⟨chain, output, hs, .inr fun signed hsigned => hnone ⟨signed, hsigned⟩⟩

/-! ### Messages and documents -/

theorem runOpChild_since {req : OpRequest} (hsign : ∀ s, childSignOp m x.wallet req = .ok s → P (OpRequest.event req))
    (run : ChildRun) : Preserves (LogSince L P) (runOpChild x m req run) := by
  rcases run with err | err | pid
  · exact .fail _
  · refine .bind ?_ fun _ => .fail _
    rcases hs : childSignOp m x.wallet req with _ | s
    · exact .pure _
    · exact emit_since (hsign s hs)
  · rw [runOpChild]
    rcases hs : childSignOp m x.wallet req with e | s
    · rcases e with _ | _ | _ <;> exact fun _ h => h
    · exact (emit_since (hsign s hs)).bind fun _ => (childAnswer_quiet pid _).since

theorem enclaveOp_since {op : SignOp} {payloadHex extraJson : String}
    (hsign : ∀ requestId s, childSignOp m x.wallet (opRequest session chainId op payloadHex extraJson requestId) = .ok s →
      P (OpRequest.event (opRequest session chainId op payloadHex extraJson requestId))) :
    Preserves (LogSince L P) (enclaveOp x m session chainId op payloadHex extraJson) := by
  have hspawn : ∀ requestId, Preserves (LogSince L P)
      (spawnOp x m (opRequest session chainId op payloadHex extraJson requestId)) := by
    intro requestId
    unfold spawnOp
    rcases (opRequest session chainId op payloadHex extraJson requestId).validateOp with e | ⟨⟩
    · exact .fail _
    · exact nextTick_quiet.since.bind fun _ => runOpChild_since (fun s hs => hsign _ s hs) _
  exact nextTick_quiet.since.bind fun _ => (hspawn _).mapErr.bind fun _ => (Preserves.lift _).bind fun _ =>
    (Preserves.lift _).bind fun _ => .pure _

theorem signMessageBytes_failsUnsigned {message : Bytes}
    (h : ¬ LateMessage x.wallet m x.enclave.enabled session chainId message) :
    FailsUnsigned (signMessageBytes x m session chainId message) := by
  rw [signMessageBytes]
  rw [LateMessage] at h
  split_ifs at h ⊢
  · exact failsUnsigned_of_preserves fun L => enclaveOp_since fun requestId s hs => absurd ⟨requestId, s, hs⟩ h
  intro L
  refine .lift_bind (fun chain hchain => .lift_bind (fun secret hsecret => ?_) fun _ _ h => h) fun _ _ h => h
  refine .lift_bind (fun output hout => ?_) fun _ _ h => h
  have hs : SignsMessage x.wallet m session chainId message chain secret :=
    ⟨mapError_eq_ok.mp hchain, hsecret, output, mapErr_eq_ok.mp hout⟩
  rcases hkey : messagePublicKey m x.wallet chain secret with e | publicKey
  · exact absurd ⟨chain, secret, hs, fun pk hpk => by rw [hkey] at hpk; cases hpk⟩ h
  · exact .bind (emit_grows _) fun _ => .lift_bind_of_ok rfl (.pure fun _ h => h)

theorem walletSignTypedData_hex {wallet chain json credential : String} {index : Option Nat} {result : SignResult}
    (h : walletSignTypedData env wallet chain json credential index = .ok result) :
    ∃ bytes, result.signature = Text.hexEncode bytes := by
  obtain ⟨c, -, h⟩ := bind_eq_ok.mp h
  obtain ⟨-, h⟩ := guard_eq_ok.mp h
  split at h
  · obtain ⟨-, h⟩ := guard_eq_ok.mp h
    obtain ⟨_, -, h⟩ := bind_eq_ok.mp h
    obtain ⟨_, -, h⟩ := bind_eq_ok.mp h
    obtain ⟨_, -, h⟩ := bind_eq_ok.mp h
    obtain ⟨_, -, h⟩ := bind_eq_ok.mp h
    obtain ⟨_, -, h⟩ := bind_eq_ok.mp h
    obtain ⟨_, -, h⟩ := bind_eq_ok.mp h
    obtain ⟨output, -, h⟩ := bind_eq_ok.mp h
    cases h
    exact ⟨_, rfl⟩
  · obtain ⟨_, -, h⟩ := bind_eq_ok.mp h
    obtain ⟨output, -, h⟩ := bind_eq_ok.mp h
    cases h
    exact ⟨_, rfl⟩

theorem signTypedData_failsUnsigned {typedDataJson : String}
    (h : ¬ LateTypedData x.wallet m x.enclave.enabled session chainId typedDataJson) :
    FailsUnsigned (signTypedData x m session chainId typedDataJson) := by
  rw [signTypedData]
  rw [LateTypedData] at h
  split_ifs at h ⊢
  · refine failsUnsigned_of_preserves fun L => .bind ?_ fun _ => .pure _
    exact enclaveOp_since fun requestId s hs => absurd ⟨requestId, s, hs⟩ h
  intro L
  refine .lift_bind (fun chain hchain => .lift_bind (fun result hresult => ?_) fun _ _ h => h) fun _ _ h => h
  have hresult := mapErr_eq_ok.mp hresult
  obtain ⟨bytes, hhex⟩ := walletSignTypedData_hex hresult
  have hdec : decodeHexField result.signature "signature" = .ok bytes := by
    rw [decodeHexField_eq_ok, hhex, Text.stripHex_hexEncode, Text.hexDecode_hexEncode]
  obtain ⟨publicKey, hkey⟩ : ∃ publicKey, typedDataPublicKey x.wallet session chain = .ok publicKey := by
    by_contra hnone
    exact h ⟨chain, ⟨hchain, result, hresult⟩, fun publicKey hkey => hnone ⟨publicKey, hkey⟩⟩
  intro d hd
  rw [exec_emit_bind, exec_lift_bind_of_ok hkey, exec_lift_bind_of_ok hdec]
  exact since_emit hd _

end Calls

/-! ## What resolving depends on -/

def nodesOnly (env : WalletEnv) (host : GateHost) (node : Node) : SignHost := ⟨env, host, node, ⟨false, fun _ => "", fun _ => .failed ⟨none, ""⟩⟩, fun _ => ""⟩

/-- The same wallet, and the same answers of nodes to everything but a broadcast. -/
structure SameCalls (x x' : SignHost) : Prop where
  wallet : x.wallet = x'.wallet
  exchange : ∀ endpoint rejected chainId method params, method ≠ "eth_sendRawTransaction" →
    exchange x endpoint rejected chainId method params = exchange x' endpoint rejected chainId method params

section SameCalls

variable {x x' : SignHost} {session : SessionEntry} {chain : Chain}

theorem fetchQuantity_congr (h : SameCalls x x') {method : String} (hm : method ≠ "eth_sendRawTransaction")
    (params : Json) : fetchQuantity x chain method params = fetchQuantity x' chain method params := by
  rw [fetchQuantity, fetchQuantity, internalCall, internalCall, h.exchange _ _ _ _ _ hm]

theorem fetchOr_congr (h : SameCalls x x') {method : String} (hm : method ≠ "eth_sendRawTransaction") (default : Nat) :
    fetchOr x chain method default = fetchOr x' chain method default := by
  rw [fetchOr, fetchOr, fetchQuantity_congr h hm]

theorem prepare_congr (h : SameCalls x x') (obj : List (String × Json)) :
    prepare x session chain obj = prepare x' session chain obj := by
  have hnonce : ∀ sender stated, fetchNonce x chain sender stated = fetchNonce x' chain sender stated := by
    intro sender stated
    rcases stated with _ | n
    · rw [fetchNonce, fetchNonce, fetchQuantity_congr h (by decide)]
    · rfl
  have hgas : ∀ sender r stated, fetchGas x chain sender r stated = fetchGas x' chain sender r stated := by
    intro sender r stated
    rcases stated with _ | n
    · rw [fetchGas, fetchGas, fetchQuantity_congr h (by decide)]
    · rfl
  have hbase : ∀ kind fees, fetchBaseFee x chain kind fees = fetchBaseFee x' chain kind fees := by
    intro kind fees
    rw [fetchBaseFee, fetchBaseFee, fetchOr_congr h (by decide)]
  have hpriority : ∀ kind fees, fetchPriorityFee x chain kind fees = fetchPriorityFee x' chain kind fees := by
    intro kind fees
    rw [fetchPriorityFee, fetchPriorityFee, fetchOr_congr h (by decide)]
  simp only [prepare, h.wallet, hnonce, hgas, hbase, hpriority]

theorem encodeEntries_congr (h : SameCalls x x') (chainRef : String) (entries : List Json) :
    encodeEntries x session chain chainRef entries = encodeEntries x' session chain chainRef entries := by
  induction entries with
  | nil => rfl
  | cons _ _ ih => rw [encodeEntries, encodeEntries, h.wallet, ih]

theorem resolveTransaction_congr (h : SameCalls x x') (tx : Json) :
    resolveTransaction x session chain tx = resolveTransaction x' session chain tx := by
  have hlast : ∀ obj kind, lastItem x session chain obj kind = lastItem x' session chain obj kind := by
    intro obj kind
    simp only [lastItem, encodeAuthorizationList, encodeEntries_congr h]
  simp only [resolveTransaction, resolveStructured, prepare_congr h, encodeEnvelope, hlast]

theorem sameCalls_nodesOnly (x : SignHost) : SameCalls (nodesOnly x.wallet x.gate x.node) x :=
  ⟨rfl, fun _ _ _ _ _ _ => rfl⟩

def refusing (node : Node) : Node where
  rpcUrl := node.rpcUrl
  post t url document :=
    if document.getStr "method" = some "eth_sendRawTransaction" then .unreachable else node.post t url document

theorem sameCalls_refusing (env : WalletEnv) (host : GateHost) (node : Node) (enclave : EnclaveHost)
    (timestamp : Nat → String) :
    SameCalls (nodesOnly env host node) ⟨env, host, refusing node, enclave, timestamp⟩ where
  wallet := rfl
  exchange endpoint rejected chainId method params hm := by
    have hpost : ∀ t url, (refusing node).post t url (.obj [("jsonrpc", .str "2.0"), ("id", .num (.posInt 1)),
        ("method", .str method), ("params", params)]) = node.post t url (.obj [("jsonrpc", .str "2.0"),
        ("id", .num (.posInt 1)), ("method", .str method), ("params", params)]) :=
      fun _ _ => if_neg fun he => hm (Option.some.inj he)
    simp only [exchange, nodesOnly, hpost]
    rfl

end SameCalls

/-! ## Calls that fail behind the signature -/

/-- The call fails right behind a signature. -/
def Slips {α : Type} (call : Handler α) (d : Daemon) : Prop :=
  ∃ e d' ev, exec call d = (.error e, d') ∧ d'.log = d.log ++ [ev] ∧ ev.isSignature = true

def losing (enabled : Bool) (requestId : String) : EnclaveHost := ⟨enabled, fun _ => requestId, fun _ => .lost ⟨none, ""⟩⟩

section Slips

variable {x : SignHost} {m : MessageHost} {session : SessionEntry} {chainId : String} {d : Daemon} {α β : Type}
  {enabled : Bool} {requestId : String}

theorem Slips.bind {call : Handler α} (h : Slips call d) (k : α → Handler β) : Slips (call >>= k) d := by
  obtain ⟨e, d', ev, he, hlog, hs⟩ := h
  exact ⟨e, d', ev, by rw [exec_bind, he], hlog, hs⟩

theorem slips_of_emit {e : Event} (he : e.isSignature = true) {o : Outcome OcwpError α} {er : Fault OcwpError}
    (ho : o = .error er) (k : α → Handler β) (d : Daemon) : Slips (emit e >>= fun _ => lift o >>= k) d :=
  ⟨er, d.emit e, e, by rw [exec_emit_bind, exec_lift_bind_of_error ho], rfl, he⟩

theorem Slips.lift_bind {o : Outcome OcwpError α} {a : α} (ho : o = .ok a) {k : α → Handler β} (h : Slips (k a) d) :
    Slips (lift o >>= k) d := by
  obtain ⟨e, d', ev, he, hlog, hs⟩ := h
  exact ⟨e, d', ev, by rw [exec_lift_bind_of_ok ho, he], hlog, hs⟩

/-! ### Transactions -/

theorem childSign_validates {req : EnclaveRequest} {s : ChildSignature} (h : childSign env req = .ok s) :
    req.validate = .ok () := by
  obtain ⟨⟨⟩, hv, -⟩ := bind_eq_ok.mp h
  exact mapError_eq_ok.mp hv

theorem enclaveSign_slips (hx : x.enclave = losing enabled requestId) {s : ChildSignature}
    (h : childSign x.wallet (txRequest session chainId txBytes requestId) = .ok s) (d : Daemon) :
    Slips (enclaveSign x session chainId txBytes) d := by
  have hspawn : ∀ d, exec (spawnEnclave x (txRequest session chainId txBytes requestId)) d =
      (.error (.err (spawnError ⟨none, ""⟩)),
        Daemon.emit (.signedTransaction s.txBytes) { d with tick := d.tick + 1 }) := by
    intro d
    simp only [spawnEnclave, childSign_validates h]
    rw [exec_nextTick_bind, hx, losing, runChild, h, recordChild, exec_emit_bind]
    rfl
  refine ⟨.err (enclaveError (spawnError ⟨none, ""⟩)), Daemon.emit (.signedTransaction s.txBytes)
    { d with tick := d.tick + 1 + 1 }, .signedTransaction s.txBytes, ?_, rfl, rfl⟩
  rw [enclaveSign, exec_nextTick_bind, hx]
  change exec (mapErr enclaveError (spawnEnclave x (txRequest session chainId txBytes requestId)) >>= _) _ = _
  rw [exec_bind, exec_mapErr, hspawn]
  rfl

theorem signTxBytes_late {sending : Bool} (h : LateTx env enabled session chainId sending txBytes) :
    ∃ requestId, ∀ x : SignHost, x.wallet = env → x.enclave = losing enabled requestId → ∀ d,
      Slips (signTxBytes x session chainId txBytes) d ∨ sending = true ∧ ∃ r d' ev,
        exec (signTxBytes x session chainId txBytes) d = (.ok r, d') ∧ d'.log = d.log ++ [ev] ∧ ev.isSignature = true := by
  cases enabled with
  | true =>
    obtain ⟨requestId, s, hs⟩ := h
    refine ⟨requestId, ?_⟩
    rintro x rfl hx d
    rw [signTxBytes, if_pos (by rw [hx]; rfl)]
    exact .inl (enclaveSign_slips hx hs d)
  | false =>
    obtain ⟨chain, output, ⟨hp, secret, signable, hsecret, hext, hout⟩, hlate⟩ := h
    refine ⟨"", ?_⟩
    rintro x rfl hx d
    rw [signTxBytes, if_neg (by rw [hx]; simp [losing]), localSign]
    rcases henc : (x.wallet.signerFor chain).encodeSignedTransaction txBytes output.signature with e | signed
    · left
      refine .lift_bind (mapError_eq_ok.mpr hp) (.lift_bind hsecret ?_)
      refine .lift_bind (mapErr_eq_ok.mpr hext) (.lift_bind (mapErr_eq_ok.mpr hout) ?_)
      rw [henc]
      exact slips_of_emit rfl rfl _ d
    · right
      refine ⟨hlate.resolve_right fun hnone => hnone signed henc, (signed, output.recoveryId),
        d.emit (.signedTransaction txBytes), .signedTransaction txBytes, ?_, rfl, rfl⟩
      rw [exec_lift_bind_of_ok (mapError_eq_ok.mpr hp), exec_lift_bind_of_ok hsecret,
        exec_lift_bind_of_ok (mapErr_eq_ok.mpr hext), exec_lift_bind_of_ok (mapErr_eq_ok.mpr hout),
        exec_emit_bind, exec_lift_bind_of_ok (mapErr_eq_ok.mpr henc), exec_pure]

theorem broadcastRaw_refused {node : Node} (hx : x.node = refusing node) (chainId signedTxHex : String) (d : Daemon) :
    ∃ e d', exec (broadcastRaw x chainId signedTxHex) d = (.error e, d') ∧ d'.log = d.log := by
  rcases h : exec (broadcastRaw x chainId signedTxHex) d with ⟨e | txHash, d'⟩
  · exact ⟨e, d', rfl, (broadcastRaw_quiet _ _).log_eq h⟩
  obtain ⟨parsed, d1, hex, -⟩ := exec_bind_ok.mp h
  obtain ⟨url, -, hex⟩ := exec_lift_bind_ok.mp hex
  obtain ⟨t, d2, -, hex⟩ := exec_bind_ok.mp hex
  rw [exec_lift, hx] at hex
  cases (Prod.mk.inj hex).1

/-! ### Messages and documents -/

theorem childSignOp_validates {req : OpRequest} {s : ChildOpSignature} (h : childSignOp m env req = .ok s) :
    req.validateOp = .ok () := by
  unfold childSignOp at h
  split at h
  all_goals
    obtain ⟨⟨⟩, hv, -⟩ := bind_eq_ok.mp h
    exact mapError_eq_ok.mp hv

theorem enclaveOp_slips (hx : x.enclave = losing enabled requestId) {op : SignOp} {payloadHex extraJson : String}
    {s : ChildOpSignature}
    (h : childSignOp m x.wallet (opRequest session chainId op payloadHex extraJson requestId) = .ok s) (d : Daemon) :
    Slips (enclaveOp x m session chainId op payloadHex extraJson) d := by
  have hspawn : ∀ d, exec (spawnOp x m (opRequest session chainId op payloadHex extraJson requestId)) d =
      (.error (.err (spawnError ⟨none, ""⟩)),
        Daemon.emit (OpRequest.event (opRequest session chainId op payloadHex extraJson requestId))
          { d with tick := d.tick + 1 }) := by
    intro d
    simp only [spawnOp, childSignOp_validates h]
    rw [exec_nextTick_bind, hx, losing, runOpChild, h, recordOp, exec_emit_bind]
    rfl
  refine ⟨.err (enclaveError (spawnError ⟨none, ""⟩)),
    Daemon.emit (OpRequest.event (opRequest session chainId op payloadHex extraJson requestId))
      { d with tick := d.tick + 1 + 1 },
    OpRequest.event (opRequest session chainId op payloadHex extraJson requestId), ?_, rfl,
    by unfold OpRequest.event; split <;> rfl⟩
  rw [enclaveOp, exec_nextTick_bind, hx, exec_bind, exec_mapErr]
  simp only [losing, hspawn]
  rfl

theorem signMessageBytes_late {message : Bytes} (h : LateMessage env m enabled session chainId message) :
    ∃ requestId, ∀ x : SignHost, x.wallet = env → x.enclave = losing enabled requestId → ∀ d,
      Slips (signMessageBytes x m session chainId message) d := by
  cases enabled with
  | true =>
    obtain ⟨requestId, s, hs⟩ := h
    refine ⟨requestId, ?_⟩
    rintro x rfl hx d
    rw [signMessageBytes, if_pos (by rw [hx]; rfl)]
    exact enclaveOp_slips hx hs d
  | false =>
    obtain ⟨chain, secret, ⟨hp, hsecret, output, hout⟩, hkey⟩ := h
    refine ⟨"", ?_⟩
    rintro x rfl hx d
    rw [signMessageBytes, if_neg (by rw [hx]; simp [losing]), localSignMessage]
    refine .lift_bind (mapError_eq_ok.mpr hp) (.lift_bind hsecret (.lift_bind (mapErr_eq_ok.mpr hout) ?_))
    rcases hpk : messagePublicKey m x.wallet chain secret with e | pk
    · exact slips_of_emit rfl rfl _ d
    · exact absurd hpk (hkey pk)

theorem signTypedData_late {typedDataJson : String} (h : LateTypedData env m enabled session chainId typedDataJson) :
    ∃ requestId, ∀ x : SignHost, x.wallet = env → x.enclave = losing enabled requestId → ∀ d,
      Slips (signTypedData x m session chainId typedDataJson) d := by
  cases enabled with
  | true =>
    obtain ⟨requestId, s, hs⟩ := h
    refine ⟨requestId, ?_⟩
    rintro x rfl hx d
    rw [signTypedData, if_pos (by rw [hx]; rfl)]
    exact (enclaveOp_slips hx hs d).bind _
  | false =>
    obtain ⟨chain, ⟨hp, result, hresult⟩, hkey⟩ := h
    refine ⟨"", ?_⟩
    rintro x rfl hx d
    rw [signTypedData, if_neg (by rw [hx]; simp [losing]), localSignTypedData]
    refine .lift_bind hp (.lift_bind (mapErr_eq_ok.mpr hresult) ?_)
    rcases hpk : typedDataPublicKey x.wallet session chain with e | pk
    · exact slips_of_emit rfl rfl _ d
    · exact absurd hpk (hkey pk)

end Slips

end OneCipher.Ocwp
