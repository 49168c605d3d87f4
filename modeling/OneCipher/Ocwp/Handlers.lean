import Mathlib.Data.BitVec
import OneCipher.Ocwp.Resolve
import OneCipher.Ocwp.StepUp

/-!
# OneCipher.Ocwp.Handlers — signing, sending and simulating a transaction

`handle_sign_transaction`, `handle_send_transaction` and `handle_simulate` of `wallet_rpc/ocwp/handlers.rs`.  All
three resolve the `transaction` parameter; the first two then put the result through the policy gate, sign it (in a
subprocess, or in the daemon when the subprocess is switched off) and leave an audit record.
-/

namespace OneCipher.Ocwp

open Prog Core Signer Wallet KeyAgent Result Text List
open Text (hexEncode hexText)

/-! ## Signing -/

def sanitizeEnclaveError (e : String) : String :=
  if Text.startsWith "E_PARAM" e then e else "internal error"

def enclaveError (e : String) : OcwpError := .new (-32603) (sanitizeEnclaveError e)

def spawnError (e : EnclaveError) : String :=
  if Text.startsWith "E_" e.message then e.display else "E_INTERNAL: " ++ e.display

def responseHex (text name : String) : Outcome String Bytes :=
  match Text.hexDecode text with
  | .ok b => .ok b
  | .error e => .error (.err ("E_INTERNAL: enclave bad " ++ name ++ " hex: " ++ e.message))

def childAnswer {α : Type} (pid : Nat) : Outcome String α → Prog Daemon String α
  | .ok a => pure a
  | .error (.err message) => fail (spawnError ⟨some pid, message⟩)
  | .error .panic => fail (spawnError ⟨some pid, "enclave child exited with exit status: 101"⟩)
  | .error .hang => fail (spawnError ⟨some pid, "enclave timeout after 30s"⟩)

def recordChild : Outcome String ChildSignature → Prog Daemon String Unit
  | .ok s => emit (.signedTransaction s.txBytes)
  | .error _ => pure ()

section Handlers

variable (w : World) (x : SignHost)

def runChild (req : EnclaveRequest) : ChildRun → Prog Daemon String EnclaveResponse
  | .failed e => fail (spawnError e)
  | .lost e => do
    recordChild (childSign x.wallet req)
    fail (spawnError e)
  | .answered pid => do
    let s ← childAnswer pid (childSign x.wallet req)
    emit (.signedTransaction s.txBytes)
    childAnswer pid (childEncode s)

def spawnEnclave (req : EnclaveRequest) : Prog Daemon String EnclaveResponse :=
  match req.validate with
  | .error e => fail (spawnError ⟨none, "enclave request invalid: " ++ e⟩)
  | .ok () => do
    let t ← nextTick
    runChild x req (x.enclave.run t)

variable (params : Json) (session : SessionEntry) (chainId : String) (resolved : ResolvedTx)

def enclaveSign (txBytes : Bytes) : Handler (Bytes × Option UInt8) := do
  let t ← nextTick
  let resp ← mapErr enclaveError (spawnEnclave x
    { requestId := x.enclave.requestId t
      walletId := session.walletId
      chainId := chainId
      payloadHex := hexEncode txBytes
      index := session.index
      credentialHex := hexEncode (Text.utf8 session.passphrase) })
  let signed ← lift ((responseHex resp.signedTxHex "signed tx").mapErr enclaveError)
  return (signed, resp.recoveryId)

def localSign (txBytes : Bytes) : Handler (Bytes × Option UInt8) := do
  let chain ← lift ((parseChain x.wallet.chains chainId).mapError fun e =>
    .err (.invalidParams ("invalid chain: " ++ e)))
  let secret ← lift (sessionKey x.wallet session chain)
  let signable ← lift (((x.wallet.signerFor chain).extractSignableBytes txBytes).mapErr fun e =>
    .invalidParams ("invalid transaction: " ++ e.message))
  let output ← lift (((x.wallet.signerFor chain).signTransaction secret signable).mapErr fun _ =>
    .internal "signing failed")
  emit (.signedTransaction txBytes)
  let signed ← lift (((x.wallet.signerFor chain).encodeSignedTransaction txBytes output.signature).mapErr fun _ =>
    .internal "transaction encoding failed")
  return (signed, output.recoveryId)

def signTxBytes (txBytes : Bytes) : Handler (Bytes × Option UInt8) :=
  if x.enclave.enabled then enclaveSign x session chainId txBytes else localSign x session chainId txBytes

/-! ## Audit records -/

def recordAudit (operation chainId details : String) : Handler Unit := do
  let t ← nextTick
  emit (.audit
    { timestamp := x.timestamp t
      walletId := session.walletId
      operation := operation
      chainId := some chainId
      address := none
      details := some details
      secretName := none })

def recordSignAudit (method : String) (session : SessionEntry) (chainId outcome details : String) : Handler Unit :=
  recordAudit x session "wallet.sign" chainId
    (method ++ " origin=" ++ session.origin ++ " " ++ outcome ++ " " ++ details)

def recordBroadcastAudit (txHash : String) : Handler Unit :=
  recordAudit x session "wallet.broadcast" chainId
    ("oc_send_transaction origin=" ++ session.origin ++ " tx_hash=" ++ txHash)

def delegationDetail : String :=
  if resolved.delegations = [] then ""
  else " delegations=[" ++ String.intercalate "," resolved.delegations ++ "]"

def transactionDetail : String :=
  "type=" ++ resolved.kindLabel ++ " to=" ++ resolved.toAddress.getD "(create)" ++ " value=" ++ resolved.value.getD "0"

/-! ## The handlers -/

/-- The chain `account_id` names. -/
def accountChain (env : WalletEnv) (params : Json) : Outcome OcwpError Chain := do
  let accountId ← requireStr params "account_id"
  (parseChain env.chains accountId).mapError fun e =>
    .err (.invalidParams ("invalid account_id '" ++ accountId ++ "': " ++ e))

def transactionParam : Outcome OcwpError Json :=
  Outcome.okOr (.invalidParams "missing 'transaction'") (params.get "transaction")

def transactionView (method : String) (chain : Chain) (resolved : ResolvedTx) : PolicyView :=
  ⟨method, chain.chainId, resolved.toAddress, resolved.value, resolved.data, resolved.rawHex, none⟩

def gatedSign (method : String) (session : SessionEntry) (chain : Chain) (resolved : ResolvedTx) :
    Handler (Bytes × Option UInt8) := do
  lift (gate x.gate x.wallet.policyVault session (transactionView method chain resolved))
  emit (.enforced method resolved.rawHex)
  let txBytes ← lift (decodeHexField resolved.rawHex "transaction")
  signTxBytes x session chain.chainId txBytes

def recoveryJson (recoveryId : Option UInt8) : Json :=
  match recoveryId with
  | some r => .num (.posInt r.toUInt64)
  | none => .null

def finishSign (chain : Chain) (resolved : ResolvedTx) : Handler Json := do
  let (signed, recoveryId) ← gatedSign x "oc_sign_transaction" session chain resolved
  recordSignAudit x "oc_sign_transaction" session chain.chainId "ok"
    (transactionDetail resolved ++ " recovery_id=" ++ ((recoveryId.map toString).getD "none") ++
      delegationDetail resolved)
  return .obj [("raw_transaction", .str (hexText signed)), ("recovery_id", recoveryJson recoveryId),
    ("type", .str resolved.kindLabel), ("delegations", .arr (resolved.delegations.map .str))]

/-- `oc_sign_transaction`. -/
def handleSignTransaction (origin : String) : Handler Json := do
  let session ← requireSession w params origin
  let chain ← lift (accountChain x.wallet params)
  let tx ← lift (transactionParam params)
  let resolved ← resolveTransaction x session chain tx
  finishSign x session chain resolved

def finishSend (chain : Chain) (resolved : ResolvedTx) : Handler Json := do
  let (signed, _) ← gatedSign x "oc_send_transaction" session chain resolved
  let txHash ← broadcastRaw x chain.chainId (hexEncode signed)
  emit (.broadcast chain.chainId (hexEncode signed))
  recordSignAudit x "oc_send_transaction" session chain.chainId "ok"
    (transactionDetail resolved ++ delegationDetail resolved)
  recordBroadcastAudit x session chain.chainId txHash
  return .obj [("tx_hash", .str txHash), ("type", .str resolved.kindLabel)]

/-- `oc_send_transaction`. -/
def handleSendTransaction (origin : String) : Handler Json := do
  let session ← requireSession w params origin
  let chain ← lift (accountChain x.wallet params)
  let tx ← lift (transactionParam params)
  let resolved ← resolveTransaction x session chain tx
  finishSend x session chain resolved

def simulationSender : Outcome OcwpError String := do
  let sender ← requireStr params "from"
  let bytes ← decodeHexField sender "from"
  if bytes.length ≠ 20 then .error (.err (.invalidParams "'from' must be a 0x-prefixed 20-byte address"))
  else return sender

def optionalStr (s : Option String) : Json := (s.map Json.str).getD .null

def simulationAnswer (kindLabel : String) (call gas : Except OcwpError Json) : Json :=
  match call with
  | .ok result => .obj [("ok", .bool true), ("call_result", result),
      ("gas_used", (gas.toOption).getD .null), ("type", .str kindLabel)]
  | .error e => .obj [("ok", .bool false), ("revert_reason", .str e.message), ("type", .str kindLabel)]

def finishSimulate (chain : Chain) (sender : String) (resolved : ResolvedTx) : Handler Json := do
  let callObject := .obj [("from", .str sender), ("to", optionalStr resolved.toAddress),
    ("value", optionalStr resolved.value), ("data", optionalStr resolved.data)]
  let call ← attempt (internalCall x chain.chainId "eth_call" (.arr [callObject, .str "latest"]))
  let gas ← attempt (internalCall x chain.chainId "eth_estimateGas" (.arr [callObject]))
  return simulationAnswer resolved.kindLabel call gas

/-- `oc_simulate`. -/
def handleSimulate (origin : String) : Handler Json := do
  let session ← requireSession w params origin
  let chain ← lift (accountChain x.wallet params)
  let sender ← lift (simulationSender params)
  let tx ← lift (transactionParam params)
  let resolved ← resolveTransaction x session chain tx
  finishSimulate x chain sender resolved

end Handlers

/-! ## Signed raw transactions -/

section Raw

variable {w : World} {x : SignHost} {params : Json} {origin : String} {d d' : Daemon}

variable {raw : Bytes} {chain : Chain} {session : SessionEntry}

theorem gatedSign_ok {method : String} {resolved : ResolvedTx} {r : Bytes × Option UInt8}
    (h : exec (gatedSign x method session chain resolved) d = (.ok r, d')) :
    gate x.gate x.wallet.policyVault session (transactionView method chain resolved) = .ok () ∧
    ∃ txBytes, decodeHexField resolved.rawHex "transaction" = .ok txBytes ∧
      exec (signTxBytes x session chain.chainId txBytes) (d.emit (.enforced method resolved.rawHex)) = (.ok r, d') := by
  obtain ⟨⟨⟩, hgate, h⟩ := exec_lift_bind_ok.mp h
  obtain ⟨_, d1, he, h⟩ := exec_bind_ok.mp h
  cases he
  obtain ⟨txBytes, hdec, h⟩ := exec_lift_bind_ok.mp h
  exact ⟨hgate, txBytes, hdec, h⟩

theorem handleSignTransaction_ok {answer : Json}
    (h : exec (handleSignTransaction w x params origin) d = (.ok answer, d')) :
    ∃ session chain tx resolved r d1 d2 d3,
      exec (requireSession w params origin) d = (.ok session, d1) ∧ accountChain x.wallet params = .ok chain ∧
      params.get "transaction" = some tx ∧ exec (resolveTransaction x session chain tx) d1 = (.ok resolved, d2) ∧
      exec (gatedSign x "oc_sign_transaction" session chain resolved) d2 = (.ok r, d3) := by
  obtain ⟨session, d1, hs, h⟩ := exec_bind_ok.mp h
  obtain ⟨chain, hchain, h⟩ := exec_lift_bind_ok.mp h
  obtain ⟨tx, htx, h⟩ := exec_lift_bind_ok.mp h
  obtain ⟨resolved, d2, hres, h⟩ := exec_bind_ok.mp h
  obtain ⟨r, d3, hsign, -⟩ := exec_bind_ok.mp h
  exact ⟨session, chain, tx, resolved, r, d1, d2, d3, hs, hchain, Outcome.okOr_eq_ok.mp htx, hres, hsign⟩

/-- The request's transaction is these bytes, encoded by the client. -/
def RawRequest (params : Json) (raw : Bytes) : Prop :=
  ∃ obj text, params.get "transaction" = some (.obj obj) ∧ obj.lookup "raw" = some (.str text) ∧
    Text.hexDecode (Text.stripHex (Text.stripHex text)) = .ok raw

theorem resolveTransaction_raw (hreq : RawRequest params raw) {tx : Json} (htx : params.get "transaction" = some tx)
    {resolved : ResolvedTx} (h : exec (resolveTransaction x session chain tx) d = (.ok resolved, d')) :
    decodeHexField resolved.rawHex "transaction" = .ok raw ∧
    ∃ s, (decodeTxSummary raw : Outcome OcwpError TxSummary) = .ok s ∧ resolved.value = s.value := by
  obtain ⟨obj, text, hobj, hraw, hdec⟩ := hreq
  rw [hobj] at htx
  cases htx
  obtain ⟨obj', ho, h⟩ := exec_lift_bind_ok.mp h
  cases ho
  simp only [hraw, Option.bind_some, Json.asStr] at h
  obtain ⟨bytes, hb, hr⟩ := bind_eq_ok.mp (Prod.mk.inj h).1
  obtain ⟨s, hs, hr⟩ := bind_eq_ok.mp hr
  cases hr
  rw [decodeHexField_eq_ok, hdec] at hb
  cases hb
  exact ⟨decodeHexField_eq_ok.mpr hdec, s, hs, rfl⟩

/-! ### Amounts -/

theorem amountExceeds_toString {v : Nat} (hv : v < 2 ^ 128) {limit : String}
    (h : amountExceeds (some (toString v)) limit = false) :
    ∃ max, parseU128 (Text.trim limit) = some max ∧ v ≤ max := by
  have hne : toString v ≠ "" := by
    intro he
    have := parseUnsigned_toString hv
    rw [he] at this
    cases this
  have hparse : parseU128 (toString v) = some v := parseUnsigned_toString hv
  unfold amountExceeds at h
  rcases hl : parseU128 (Text.trim limit) with _ | max
  · rw [hl] at h; cases h
  · simp only [hl, trim_toString, if_neg hne, hparse, decide_eq_false_iff_not, not_lt] at h
    exact ⟨max, rfl, h⟩

/-- The transaction keeps to every amount limit of the session's policies. -/
def WithinAmounts (x : SignHost) (session : SessionEntry) (t : EvmTx) : Prop :=
  ∀ ps, selectedPolicies x.wallet.policyVault session = .ok ps → ∀ p ∈ ps, ∀ limit,
    PolicyRule.maxAmount limit ∈ p.rules → ∃ max, parseU128 (Text.trim limit) = some max ∧ t.value.toNat ≤ max

theorem withinAmounts_of_gate {view : PolicyView} {t : EvmTx} (hv : t.value.toNat < 2 ^ 128)
    (hview : view.value = some (toString t.value.toNat)) (h : gate x.gate x.wallet.policyVault session view = .ok ()) :
    WithinAmounts x session t := by
  obtain ⟨ps, hps, henf⟩ := bind_eq_ok.mp h
  obtain ⟨ctx, hctx, hall⟩ := enforce_ok henf
  intro ps' hps' p hp limit hlimit
  rw [hps] at hps'
  cases hps'
  have hrule := (evaluateOne_allow.mp (hall p hp)).1 _ hlimit
  refine amountExceeds_toString hv ?_
  by_contra hex
  rw [Bool.not_eq_false] at hex
  have hvalue : ctx.transaction.value = view.value := by
    unfold buildContext at hctx
    split at hctx
    · cases hctx
    · cases hctx; rfl
  rw [evaluateRule, hvalue, hview, hex] at hrule
  cases hrule

/-- **Amount limits on raw transactions.**  For a canonical transaction, policy is told the value
that is signed, and every signature keeps to the amount limits of the session's policies, if and only
if the value fits 128 bits. -/
theorem raw_value_iff (t : EvmTx) (hfit : t.body.length < 2 ^ 64) :
    ((∃ s v, (decodeTxSummary t.unsigned : Outcome OcwpError TxSummary) = .ok s ∧ s.value = some v ∧
        Text.parseUnsigned 10 (2 ^ 256) v = some t.value.toNat) ∧
      ∀ (w : World) (x : SignHost) (params : Json) (origin : String) (d d' : Daemon) (session : SessionEntry)
        (answer : Json), RawRequest params t.unsigned →
        (exec (requireSession w params origin) d).1 = .ok session →
        exec (handleSignTransaction w x params origin) d = (.ok answer, d') → WithinAmounts x session t) ↔
      t.value.toNat < 2 ^ 128 := by
  have hsum := decodeTxSummary_unsigned (ε := OcwpError) hfit
  constructor
  · rintro ⟨⟨s, v, hs, hv, hparse⟩, -⟩
    rw [hsum] at hs
    cases hs
    cases hv
    have hlt : t.value.toNat % 2 ^ 128 < 2 ^ 128 := Nat.mod_lt _ (by norm_num)
    rw [parseUnsigned_toString (hlt.trans (by norm_num))] at hparse
    rw [← Option.some.inj hparse]
    exact hlt
  · intro hv
    rw [Nat.mod_eq_of_lt hv] at hsum
    refine ⟨⟨_, _, hsum, rfl, parseUnsigned_toString t.value.isLt⟩, ?_⟩
    intro w x params origin d d' session answer hreq hsession h
    obtain ⟨session', chain, tx, resolved, r, d1, d2, d3, hs, -, htx, hres, hsign⟩ := handleSignTransaction_ok h
    rw [hs] at hsession
    cases hsession
    obtain ⟨-, s, hsum', hvalue⟩ := resolveTransaction_raw hreq htx hres
    rw [hsum] at hsum'
    cases hsum'
    exact withinAmounts_of_gate hv hvalue (gatedSign_ok hsign).1

/-! #### A value of 129 bits -/

/-- A raw transaction for an account, in the session of `sessionsA`. -/
def rawParams (accountId : String) (raw : Bytes) : Json :=
  .obj [("session_id", .str sessionA.sessionId), ("account_id", .str accountId),
    ("transaction", .obj [("raw", .str (hexText raw))])]

theorem rawRequest_rawParams (accountId : String) (raw : Bytes) : RawRequest (rawParams accountId raw) raw :=
  ⟨_, _, rfl, rfl, by rw [stripHex_hexText, stripHex_hexEncode, hexDecode_hexEncode]⟩

def startDaemon : Daemon := .start sessionsA ∅ false

def touchedA : SessionEntry := { sessionA with lastActivity := 1000 }

theorem raw_value_small :
    (transferOf 7).body.length < 2 ^ 64 ∧
    (((∃ s v, (decodeTxSummary (transferOf 7).unsigned : Outcome OcwpError TxSummary) = .ok s ∧ s.value = some v ∧
        Text.parseUnsigned 10 (2 ^ 256) v = some (transferOf 7).value.toNat) ∧
      ∀ (w : World) (x : SignHost) (params : Json) (origin : String) (d d' : Daemon) (session : SessionEntry)
        (answer : Json), RawRequest params (transferOf 7).unsigned →
        (exec (requireSession w params origin) d).1 = .ok session →
        exec (handleSignTransaction w x params origin) d = (.ok answer, d') →
        WithinAmounts x session (transferOf 7)) ↔
      (transferOf 7).value.toNat < 2 ^ 128) := by
  have hfit : (transferOf 7).body.length < 2 ^ 64 := by decide +kernel
  exact ⟨hfit, raw_value_iff (transferOf 7) hfit⟩

def wideTransfer : EvmTx := transferOf (2 ^ 128 + 5)

/-- **A value of 129 bits passes a limit of 100.**  The value is 5 above `2 ^ 128`; policy is told 5, the
only policy of the vault allows 100, and the transaction is signed. -/
theorem signs_wide_value :
    RawRequest (rawParams "eip155:1" wideTransfer.unsigned) wideTransfer.unsigned ∧
    (exec (requireSession calmWorld (rawParams "eip155:1" wideTransfer.unsigned) "chrome-extension://a")
      startDaemon).1 = .ok touchedA ∧
    (∃ answer, (exec (handleSignTransaction calmWorld offlineHost (rawParams "eip155:1" wideTransfer.unsigned)
      "chrome-extension://a") startDaemon).1 = .ok answer) ∧
    ¬ WithinAmounts offlineHost touchedA wideTransfer := by
  refine ⟨rawRequest_rawParams _ _, Outcome.eq_ok_iff_toOption.mpr (by decide +kernel),
    Outcome.exists_ok_iff.mpr (by decide +kernel), ?_⟩
  intro h
  obtain ⟨max, hmax, hle⟩ := h [capped] rfl capped mem_cons_self "100" mem_cons_self
  have h100 : parseU128 (Text.trim "100") = some 100 := by decide +kernel
  cases hmax
  have hwide : ¬ wideTransfer.value.toNat ≤ 100 := by decide +kernel
  exact hwide hle

/-! ### Chains -/

/-- The account's signer takes the bytes: with some key they can be signed and encoded. -/
def Signable (evm : EvmCrypto) (others : ChainType → ChainSigner) (chains : ChainHost) (chainId : String)
    (raw : Bytes) : Prop :=
  ∃ chain key signable output signed, parseChain chains chainId = .ok chain ∧
    (signerForChain evm others chain.chainType).extractSignableBytes raw = .ok signable ∧
    (signerForChain evm others chain.chainType).signTransaction key signable = .ok output ∧
    (signerForChain evm others chain.chainType).encodeSignedTransaction raw output.signature = .ok signed

theorem childAnswer_ok {α : Type} {pid : Nat} {o : Outcome String α} {a : α}
    (h : exec (childAnswer pid o) d = (.ok a, d')) : o = .ok a ∧ d' = d := by
  rcases o with (_ | _ | _) | a'
  · cases h
  · cases h
  · cases h
  · cases h
    exact ⟨rfl, rfl⟩

theorem signable_of_child {env : WalletEnv} {req : EnclaveRequest} {s : ChildSignature} {resp : EnclaveResponse}
    (hs : childSign env req = .ok s) (he : childEncode s = .ok resp) (hraw : req.payloadHex = hexEncode raw) :
    Signable env.evm env.others env.chains req.chainId raw := by
  obtain ⟨-, -, hs⟩ := bind_eq_ok.mp hs
  obtain ⟨txBytes, htx, hs⟩ := bind_eq_ok.mp hs
  obtain ⟨⟨key, signer⟩, hkey, hs⟩ := bind_eq_ok.mp hs
  obtain ⟨signable, hext, hs⟩ := bind_eq_ok.mp hs
  obtain ⟨output, hout, hs⟩ := bind_eq_ok.mp hs
  cases hs
  obtain ⟨signed, hsigned, -⟩ := bind_eq_ok.mp he
  have htx' : txBytes = raw := by
    have hdec := decodePayload_ok (mapError_eq_ok.mp htx)
    rw [hraw, stripHex_hexEncode, trim_hexEncode, hexDecode_hexEncode] at hdec
    exact (Except.ok.inj hdec).symm
  subst htx'
  obtain ⟨chain, hchain, hkey⟩ := bind_eq_ok.mp (mapError_eq_ok.mp hkey)
  obtain ⟨cred, -, hkey⟩ := bind_eq_ok.mp hkey
  obtain ⟨-, hkey⟩ := guard_eq_ok.mp hkey
  obtain ⟨key', -, hkey⟩ := bind_eq_ok.mp hkey
  cases hkey
  exact ⟨chain, key, signable, output, signed, mapError_eq_ok.mp hchain, Outcome.mapErr_eq_ok.mp hext,
    Outcome.mapErr_eq_ok.mp hout, Outcome.mapErr_eq_ok.mp hsigned⟩

theorem spawnEnclave_ok {req : EnclaveRequest} {resp : EnclaveResponse}
    (h : exec (spawnEnclave x req) d = (.ok resp, d')) :
    ∃ s, childSign x.wallet req = .ok s ∧ childEncode s = .ok resp := by
  unfold spawnEnclave at h
  rcases hv : req.validate with e | ⟨⟩ <;> rw [hv] at h
  · cases h
  obtain ⟨t, d1, -, h⟩ := exec_bind_ok.mp h
  rcases hr : x.enclave.run t with e | e | pid <;> rw [hr] at h
  · cases h
  · obtain ⟨_, d2, -, h⟩ := exec_bind_ok.mp h
    cases h
  · obtain ⟨s, d2, hs, h⟩ := exec_bind_ok.mp h
    obtain ⟨_, d3, -, h⟩ := exec_bind_ok.mp h
    exact ⟨s, (childAnswer_ok hs).1, (childAnswer_ok h).1⟩

theorem signTxBytes_ok {chainId : String} {r : Bytes × Option UInt8}
    (h : exec (signTxBytes x session chainId raw) d = (.ok r, d')) :
    Signable x.wallet.evm x.wallet.others x.wallet.chains chainId raw := by
  rcases exec_ite_ok.mp h with ⟨-, h⟩ | ⟨-, h⟩
  · obtain ⟨t, d1, -, h⟩ := exec_bind_ok.mp h
    obtain ⟨resp, d2, hspawn, h⟩ := exec_bind_ok.mp h
    obtain ⟨s, hs, he⟩ := spawnEnclave_ok (exec_mapErr_ok.mp hspawn)
    exact signable_of_child hs he rfl
  · obtain ⟨chain, hchain, h⟩ := exec_lift_bind_ok.mp h
    obtain ⟨secret, -, h⟩ := exec_lift_bind_ok.mp h
    obtain ⟨signable, hext, h⟩ := exec_lift_bind_ok.mp h
    obtain ⟨output, hout, h⟩ := exec_lift_bind_ok.mp h
    obtain ⟨_, d1, -, h⟩ := exec_bind_ok.mp h
    obtain ⟨signed, hsigned, h⟩ := exec_lift_bind_ok.mp h
    exact ⟨chain, secret, signable, output, signed, mapError_eq_ok.mp hchain,
      Outcome.mapErr_eq_ok.mp hext, Outcome.mapErr_eq_ok.mp hout, Outcome.mapErr_eq_ok.mp hsigned⟩

/-- The chain id a transaction carries: the first item of a typed envelope, or the seventh of the nine
items of a replay-protected legacy transaction. -/
def CarriesChain (raw : Bytes) (c : Nat) : Prop :=
  if (splitType raw).1 = 0x00 then
    ∃ items b, Rlp.splitItems (Rlp.payloadOf raw) = some items ∧ items.length = 9 ∧
      Rlp.fieldAt (Rlp.payloadOf raw) 6 = some b ∧ Bytes.beNat b = c
  else ∃ b, Rlp.fieldAt (Rlp.payloadOf (splitType raw).2) 0 = some b ∧ Bytes.beNat b = c

/-- The CAIP-2 id is `eip155:` and a decimal numeral of the number. -/
def NamesChain (id : String) (c : Nat) : Prop :=
  ∃ reference bound, Text.stripPrefix "eip155:" id = some reference ∧ Text.parseUnsigned 10 bound reference = some c

/-- The chain is on every chain list of the session's policies. -/
def ChainAllowed (x : SignHost) (session : SessionEntry) (c : Nat) : Prop :=
  ∀ ps, selectedPolicies x.wallet.policyVault session = .ok ps → ∀ p ∈ ps, ∀ ids,
    PolicyRule.allowedChains ids ∈ p.rules → ∃ id ∈ ids, NamesChain id c

theorem chain_mem_of_gate {view : PolicyView} {ps : List Policy}
    (h : gate x.gate x.wallet.policyVault session view = .ok ())
    (hps : selectedPolicies x.wallet.policyVault session = .ok ps) {p : Policy} (hp : p ∈ ps) {ids : List String}
    (hids : PolicyRule.allowedChains ids ∈ p.rules) : view.chainId ∈ ids := by
  obtain ⟨ps', hps', henf⟩ := bind_eq_ok.mp h
  rw [hps] at hps'
  cases hps'
  obtain ⟨ctx, hctx, hall⟩ := enforce_ok henf
  have hchain : ctx.chainId = view.chainId := by
    unfold buildContext at hctx
    split at hctx
    · cases hctx
    · cases hctx; rfl
  have hrule := (evaluateOne_allow.mp (hall p hp)).1 _ hids
  by_contra hnot
  rw [evaluateRule, evalAllowedChains, hchain, if_neg hnot] at hrule
  cases hrule

def accountEnv (evm : EvmCrypto) (others : ChainType → ChainSigner) (chains : ChainHost) (key : Bytes)
    (policy : Policy) : WalletEnv :=
  { agentEnv evm (fun _ => .error "") [] policy with
    others := others
    chains := chains
    secretToSigningKey := fun _ _ _ _ => .ok key }

def onlyChain (chainId : String) : Policy :=
  ⟨"cap", "One chain", 1, "2026-01-01", [.allowedChains [chainId]], none, none, .deny⟩

def accountHost (env : WalletEnv) : SignHost := { offlineHost with wallet := env }

theorem gate_onlyChain {env : WalletEnv} {view : PolicyView}
    (hv : env.policyVault.listPolicies = .ok [onlyChain view.chainId]) :
    gate (accountHost env).gate env.policyVault touchedA view = .ok () := by
  refine bind_eq_ok.mpr ⟨[onlyChain view.chainId], ?_, bind_eq_ok.mpr ⟨_, rfl, ?_⟩⟩
  · rw [selectedPolicies, hv]
    rfl
  · simp [evaluatePolicies, firstDenial, evaluateOne, onlyChain, evaluateRule, evalAllowedChains]

theorem requireSession_rawParams (accountId : String) (raw : Bytes) :
    (exec (requireSession calmWorld (rawParams accountId raw) "chrome-extension://a") startDaemon).1 = .ok touchedA :=
  rfl

theorem localSign_returns {env : WalletEnv} {chainId : String} {key signable signed : Bytes} {output : SignOutput}
    (hchain : parseChain env.chains chainId = .ok chain) (hkey : sessionKey env touchedA chain = .ok key)
    (hext : (env.signerFor chain).extractSignableBytes raw = .ok signable)
    (hout : (env.signerFor chain).signTransaction key signable = .ok output)
    (hsigned : (env.signerFor chain).encodeSignedTransaction raw output.signature = .ok signed) (d : Daemon) :
    exec (signTxBytes (accountHost env) touchedA chainId raw) d =
      (.ok (signed, output.recoveryId), d.emit (.signedTransaction raw)) := by
  refine exec_ite_ok.mpr (.inr ⟨Bool.false_ne_true, ?_⟩)
  refine exec_lift_bind_ok.mpr ⟨chain, mapError_eq_ok.mpr hchain, ?_⟩
  refine exec_lift_bind_ok.mpr ⟨key, hkey, ?_⟩
  refine exec_lift_bind_ok.mpr ⟨signable, Outcome.mapErr_eq_ok.mpr hext, ?_⟩
  refine exec_lift_bind_ok.mpr ⟨output, Outcome.mapErr_eq_ok.mpr hout, ?_⟩
  refine exec_bind_ok.mpr ⟨⟨⟩, d.emit (.signedTransaction raw), rfl, ?_⟩
  exact exec_lift_bind_ok.mpr ⟨signed, Outcome.mapErr_eq_ok.mpr hsigned, rfl⟩

theorem handleSignTransaction_returns (env : WalletEnv) {accountId : String} {chain' : Chain}
    {key signable signed : Bytes} {output : SignOutput} {s : TxSummary}
    (hpolicy : env.policyVault.listPolicies = .ok [onlyChain chain.chainId])
    (haccount : parseChain env.chains accountId = .ok chain)
    (hsum : (decodeTxSummary raw : Outcome OcwpError TxSummary) = .ok s)
    (hchain : parseChain env.chains chain.chainId = .ok chain') (hkey : sessionKey env touchedA chain' = .ok key)
    (hext : (env.signerFor chain').extractSignableBytes raw = .ok signable)
    (hout : (env.signerFor chain').signTransaction key signable = .ok output)
    (hsigned : (env.signerFor chain').encodeSignedTransaction raw output.signature = .ok signed) :
    Returns (handleSignTransaction calmWorld (accountHost env) (rawParams accountId raw) "chrome-extension://a")
      startDaemon := by
  have hdec : ∀ fieldName, decodeHexField (hexEncode raw) fieldName = .ok raw := fun fieldName =>
    decodeHexField_eq_ok.mpr (by rw [stripHex_hexEncode, hexDecode_hexEncode])
  have hraw : resolveRaw (hexText raw) = .ok ⟨hexEncode raw, s.toAddress, s.value, s.data, s.kindLabel, []⟩ := by
    refine bind_eq_ok.mpr ⟨raw, ?_, bind_ok hsum ?_⟩
    · rw [stripHex_hexText]
      exact hdec _
    · rw [stripHex_hexText]
      rfl
  refine .bind (Prod.ext (requireSession_rawParams accountId raw) rfl) ?_
  refine .lift_bind (bind_eq_ok.mpr ⟨accountId, rfl, mapError_eq_ok.mpr haccount⟩) ?_
  refine .lift_bind rfl ?_
  refine .bind (show (resolveRaw (hexText raw), _) = _ by rw [hraw]) ?_
  refine .bind (exec_lift_bind_ok.mpr ⟨(), gate_onlyChain hpolicy, exec_bind_ok.mpr ⟨⟨⟩, _, rfl,
    exec_lift_bind_ok.mpr ⟨raw, hdec _, localSign_returns hchain hkey hext hout hsigned _⟩⟩⟩) ?_
  exact .bind rfl (.pure _ _)

/-- **Chain rules on raw transactions.**  For an account and raw bytes: every signature is for a chain
on every chain list of the session's policies if and only if the bytes carry the account's own chain,
or they are never signed (the policy reader panics on them, or the account's signer refuses them). -/
theorem raw_chain_iff (evm : EvmCrypto) (others : ChainType → ChainSigner) (chains : ChainHost)
    (accountId : String) (chain : Chain) (raw : Bytes) (haccount : parseChain chains accountId = .ok chain) :
    (∀ (w : World) (x : SignHost) (params : Json) (origin : String) (d d' : Daemon) (session : SessionEntry)
        (answer : Json), x.wallet.evm = evm → x.wallet.others = others → x.wallet.chains = chains →
        params.getStr "account_id" = some accountId → RawRequest params raw →
        (exec (requireSession w params origin) d).1 = .ok session →
        exec (handleSignTransaction w x params origin) d = (.ok answer, d') →
        ∀ c, CarriesChain raw c → ChainAllowed x session c) ↔
      (∀ c, CarriesChain raw c → NamesChain chain.chainId c) ∨
        (∀ s, (decodeTxSummary raw : Outcome OcwpError TxSummary) ≠ .ok s) ∨
        ¬ Signable evm others chains chain.chainId raw := by
  constructor
  · intro h
    by_contra hnot
    simp only [not_or, not_forall, not_not] at hnot
    obtain ⟨⟨c, hc, hname⟩, ⟨s, hsum⟩, chain', key, signable, output, signed, hchain, hext, hout, hsigned⟩ := hnot
    obtain ⟨answer, d', hrun⟩ := handleSignTransaction_returns
      (accountEnv evm others chains key (onlyChain chain.chainId)) rfl haccount hsum hchain rfl hext hout hsigned
    obtain ⟨id, hid, hn⟩ := h _ _ _ _ _ _ touchedA _ rfl rfl rfl rfl (rawRequest_rawParams _ _)
      (requireSession_rawParams _ _) hrun c hc [onlyChain chain.chainId] rfl _ mem_cons_self [chain.chainId]
      mem_cons_self
    obtain rfl := mem_singleton.mp hid
    exact hname hn
  · rintro h w x params origin d d' session answer rfl rfl rfl hid hreq hsession hrun c hc ps hps p hp ids hids
    obtain ⟨session', chain', tx, resolved, r, d1, d2, d3, hs, haccount', htx, hres, hsign⟩ :=
      handleSignTransaction_ok hrun
    rw [hs] at hsession
    cases hsession
    have hsame : chain' = chain := by
      obtain ⟨a, ha, hp⟩ := bind_eq_ok.mp haccount'
      rw [requireStr, Outcome.okOr_eq_ok, hid] at ha
      cases ha
      exact Except.ok.inj ((mapError_eq_ok.mp hp).symm.trans haccount)
    subst hsame
    obtain ⟨hdec, s, hsum, -⟩ := resolveTransaction_raw hreq htx hres
    obtain ⟨hgate, txBytes, hdec', hrun'⟩ := gatedSign_ok hsign
    rw [hdec] at hdec'
    cases hdec'
    rcases h with h | h | h
    · exact ⟨chain'.chainId, chain_mem_of_gate hgate hps hp hids, h c hc⟩
    · exact absurd hsum (h s)
    · exact absurd (signTxBytes_ok hrun') h

/-! #### A transaction for another chain -/

def transferOn (chainId : U256) : EvmTx :=
  ⟨.feeMarket chainId 1 1 [], 0, 21000, some ⟨List.replicate 20 0xaa, length_replicate_aa⟩, 100, []⟩

def mainnetHost : SignHost :=
  accountHost (accountEnv (plainCrypto zeroHash length_zeroHash) (fun _ => noSigner) plainChains []
    (onlyChain "eip155:1"))

theorem raw_chain_own :
    parseChain plainChains "eip155:1" = .ok mainnet ∧
    ((∀ (w : World) (x : SignHost) (params : Json) (origin : String) (d d' : Daemon) (session : SessionEntry)
        (answer : Json), x.wallet.evm = plainCrypto zeroHash (fun _ => rfl) → x.wallet.others = (fun _ => noSigner) →
        x.wallet.chains = plainChains → params.getStr "account_id" = some "eip155:1" →
        RawRequest params (transferOn 1).unsigned →
        (exec (requireSession w params origin) d).1 = .ok session →
        exec (handleSignTransaction w x params origin) d = (.ok answer, d') →
        ∀ c, CarriesChain (transferOn 1).unsigned c → ChainAllowed x session c) ↔
      (∀ c, CarriesChain (transferOn 1).unsigned c → NamesChain mainnet.chainId c) ∨
        (∀ s, (decodeTxSummary (transferOn 1).unsigned : Outcome OcwpError TxSummary) ≠ .ok s) ∨
        ¬ Signable (plainCrypto zeroHash fun _ => rfl) (fun _ => noSigner) plainChains mainnet.chainId
          (transferOn 1).unsigned) :=
  ⟨rfl, raw_chain_iff _ _ plainChains "eip155:1" mainnet _ rfl⟩

/-- **A chain rule that the bytes do not keep.**  The only policy allows `eip155:1`, which is the account
of the request; the raw transaction in it is for chain 137, and it is signed. -/
theorem signs_other_chain :
    RawRequest (rawParams "eip155:1" (transferOn 137).unsigned) (transferOn 137).unsigned ∧
    CarriesChain (transferOn 137).unsigned 137 ∧
    (exec (requireSession calmWorld (rawParams "eip155:1" (transferOn 137).unsigned) "chrome-extension://a")
      startDaemon).1 = .ok touchedA ∧
    (∃ answer, (exec (handleSignTransaction calmWorld mainnetHost (rawParams "eip155:1" (transferOn 137).unsigned)
      "chrome-extension://a") startDaemon).1 = .ok answer) ∧
    ¬ ChainAllowed mainnetHost touchedA 137 := by
  refine ⟨rawRequest_rawParams _ _, ?_, requireSession_rawParams _ _, Outcome.exists_ok_iff.mpr (by decide +kernel), ?_⟩
  · have hkind : (splitType (transferOn 137).unsigned).1 ≠ 0x00 := by decide +kernel
    exact ⟨[0x89], by decide +kernel, by decide⟩
  · intro h
    obtain ⟨id, hid, reference, bound, hpre, hparse⟩ :=
      h [onlyChain "eip155:1"] rfl _ mem_cons_self ["eip155:1"] mem_cons_self
    obtain rfl := mem_singleton.mp hid
    have hone : Text.stripPrefix "eip155:" "eip155:1" = some "1" := by decide +kernel
    cases hpre
    have hvalue := (parseUnsigned_eq_some.mp hparse).2.1
    revert hvalue
    decide +kernel

end Raw

end OneCipher.Ocwp
