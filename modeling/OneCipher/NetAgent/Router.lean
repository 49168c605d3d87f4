import OneCipher.KeyAgent.Proto
import OneCipher.NetAgent.Approval
import OneCipher.WalletConnect.Auth

/-!
# OneCipher.NetAgent.Router — from JSON-RPC methods to Key-Agent requests

`oc-netagent/src/wc_method_router.rs`.  Every method is translated into requests to the Key-Agent.  A method that
signs goes through the router's policy and through the approval gate first; the gate lets everything pass while
approval mode is off.
-/

namespace OneCipher.NetAgent

open Prog KeyAgent WalletConnect
open Outcome (okOr)
open Text (utf8 hexText)

/-! ## Errors -/

inductive JsonRpcErrorCode where
  | userRejected | unauthorized | unsupportedMethod | policyRateLimit | policyBudgetExceeded
  | policyWhitelist | policyCooldown | policyMissing | policyExpired | policyChainNotWhitelisted
  | internal | signer
  deriving DecidableEq, Repr

def JsonRpcErrorCode.code : JsonRpcErrorCode → Int
  | userRejected => 4001
  | unauthorized => 4100
  | unsupportedMethod => 4200
  | policyRateLimit => 4031
  | policyBudgetExceeded => 4032
  | policyWhitelist => 4033
  | policyCooldown => 4034
  | policyMissing => 4036
  | policyExpired => 4037
  | policyChainNotWhitelisted => 4039
  | internal => 5000
  | signer => 5001

abbrev RpcError := JsonRpcErrorCode × String

/-- `deny_reason_to_rpc_code_from_proto`. -/
def denyCode : Int → JsonRpcErrorCode
  | 0 | 1 => .policyRateLimit
  | 2 => .policyBudgetExceeded
  | 3 => .policyWhitelist
  | 4 => .policyExpired
  | 5 => .unauthorized
  | 6 => .policyMissing
  | 7 => .policyCooldown
  | _ => .internal

/-! ## Surroundings -/

/-- A declared payment or signing intent; `kind` is its JSON, which the engine has read. -/
structure Intent where
  id : String
  kind : Json
  chainId : String
  sessionKeyId : String
  createdAt : Nat
  expiresAt : Nat

/-- The intent engine of `oc-netagent/src/intent`, with its RPC client; errors are texts. -/
structure IntentHost where
  kindError : Json → Option String
  envRpcUrl : Nat → Option String
  connect : String → String → Except String Unit
  simulate : Nat → Intent → Except String Json
  build : Nat → Intent → String → Except String Bytes
  publish : Nat → Bytes → Except String (String × Json)
  canBlock : Bool

structure RouterHost where
  send : Nat → KeyAgentRequestKind → Except String KeyAgentReply
  decoder : ProtoDecoder
  clock : Nat → Except String Nat
  uuid : Nat → String
  rfc3339 : Nat → String
  keccak256 : Bytes → Bytes
  parseChainId : String → Except String (String × String)
  simulateEvmTx : String → String → Except String TxSimulation
  parseSiwx : String → Except String SiwxSummary
  siwxText : String → String → AuthRequestParams → Except String String
  parseAuthParams : Json → Except String AuthRequestParams
  intents : IntentHost

/-- What the log records. -/
inductive RouterEvent where
  /-- A request was handed to the Key-Agent. -/
  | forwarded (kind : KeyAgentRequestKind)
  /-- A decision about a pending approval came back. -/
  | decided (id : String) (decision : ApprovalDecision)
  | loggedPending (pending : PendingApproval)
  | loggedResolved (id decision reason : String)

structure RouterState where
  tick : Nat
  log : List RouterEvent

def RouterState.emit (e : RouterEvent) (s : RouterState) : RouterState := { s with log := s.log ++ [e] }

@[simp] theorem RouterState.log_emit (e : RouterEvent) (s : RouterState) : (s.emit e).log = s.log ++ [e] := rfl

abbrev RouterCall (α : Type) := Prog RouterState RpcError α

def nextTick : RouterCall Nat := Prog.state fun s => (s.tick, { s with tick := s.tick + 1 })

def emit (e : RouterEvent) : RouterCall Unit := modify (RouterState.emit e)

/-! ## The router -/

inductive SignAuthMode where
  | requirePasskey
  | internalToken (token : Bytes)
  deriving DecidableEq, Repr

/-- The rules of a `PolicyV2` that the router reads. -/
structure PolicyRules where
  expiryUnix : Nat
  chainWhitelist : List String
  contractWhitelist : List String
  deriving DecidableEq, Repr

abbrev SessionView := String → Option (Option String × Option String)

structure WcMethodRouter where
  approval : Option ApprovalChannel
  approvalMode : Nat → Bool
  approvalTimeoutSecs : Nat
  approvalLog : Bool
  policy : Option PolicyRules
  blockOnDangerSimulation : Bool
  sessions : Option (Nat → Option SessionView)
  signAuthMode : SignAuthMode

namespace WcMethodRouter

def new : WcMethodRouter where
  approval := none
  approvalMode _ := false
  approvalTimeoutSecs := 300
  approvalLog := false
  policy := none
  blockOnDangerSimulation := true
  sessions := none
  signAuthMode := .requirePasskey

def withApproval (approval : ApprovalChannel) (approvalMode : Nat → Bool) (approvalTimeoutSecs : Nat)
    (approvalLog : Bool) : WcMethodRouter :=
  { new with
    approval := some approval
    approvalMode := approvalMode
    approvalTimeoutSecs := approvalTimeoutSecs
    approvalLog := approvalLog }

end WcMethodRouter

/-! ## Parameters -/

def requireField (params : Json) (key : String) : Outcome RpcError String :=
  okOr (.unsupportedMethod, "missing " ++ key) (params.getStr key)

structure CommonParams where
  walletId : String
  chainId : String
  sessionKeyId : Option String
  deriving DecidableEq, Repr

def extractCommonParams (params : Json) : Outcome RpcError CommonParams := do
  let walletId ← requireField params "wallet_id"
  let chainId ← requireField params "chain_id"
  return ⟨walletId, chainId, params.getStr "session_key_id"⟩

/-- A member of the `auth` object. -/
def authField (auth : Json) (key : String) : Outcome RpcError String :=
  okOr (.unauthorized, "missing auth." ++ key) (auth.getStr key)

def authBytes (key text : String) : Outcome RpcError Bytes :=
  match Text.hexDecode text with
  | .ok b => .ok b
  | .error e => .error (.err (.unauthorized, "invalid auth." ++ key ++ ": " ++ e.message))

/-- The passkey proof in the `auth` object, if there is one. -/
def extractPasskeyAuth (params : Json) : Outcome RpcError (Option PasskeyAuthorization) :=
  match (params.get "auth").filter fun v => !v.isNull with
  | none => .ok none
  | some auth => do
    let challengeHex ← authField auth "challenge_hex"
    let signatureHex ← authField auth "signature_hex"
    let credentialId ← authField auth "credential_id"
    let challenge ← authBytes "challenge_hex" challengeHex
    let signature ← authBytes "signature_hex" signatureHex
    return some ⟨challenge, signature, credentialId⟩

def requirePasskey (params : Json) (missing : String) : Outcome RpcError PasskeyAuthorization := do
  let auth ← extractPasskeyAuth params
  okOr (.unauthorized, missing) auth

def labelled {α : Type} (code : JsonRpcErrorCode) (label : String) : Except String α → Outcome RpcError α
  | .ok a => .ok a
  | .error e => .error (.err (code, label ++ e))

def decoded {α : Type} (r : Except String α) : Outcome RpcError α := labelled .internal "decode: " r

/-- `Vec<u8>` as JSON: an array of numbers. -/
def bytesJson (b : Bytes) : Json := .arr (b.map fun x => .num (.posInt x.toUInt64))

section Router

variable (h : RouterHost) (r : WcMethodRouter)

/-! ## Policy and simulation -/

def nowUnixSecs : RouterCall Nat := do
  let t ← nextTick
  lift (labelled .internal "system clock error (refusing to evaluate time-based policy): " (h.clock t))

def chainReasons (rules : PolicyRules) (chainId : String) : Outcome RpcError (List RiskReason) :=
  if rules.chainWhitelist = [] then .ok []
  else if chainId = "" then .ok
    [⟨"policy_warn_chain_unspecified", .warning,
      "request carries no chain id; chain-whitelist policy was not evaluated", .policy, none⟩]
  else if chainId ∈ rules.chainWhitelist then .ok []
  else .error (.err (.policyChainNotWhitelisted, "chain " ++ chainId ++ " not in policy whitelist"))

def contractReasons (rules : PolicyRules) (params : Json) : List RiskReason :=
  match params.getStr "to" with
  | none => []
  | some recipient =>
    if rules.contractWhitelist ≠ [] ∧ !rules.contractWhitelist.any (Text.eqIgnoreAsciiCase · recipient) then
      [⟨"policy_warn_new_contract", .warning, "contract " ++ recipient ++ " is not in the whitelist", .policy,
        some (.obj [("address", .str recipient)])⟩]
    else []

variable (c : RpcCall) (params : Json) (chainId : String)

def policyEvaluateSigning : RouterCall (RiskLevel × List RiskReason) :=
  match r.policy with
  | none => pure (.safe, [])
  | some rules => do
    let reasons ← lift (chainReasons rules chainId)
    let now ← nowUnixSecs h
    if now > rules.expiryUnix then fail (.policyExpired, "policy has expired")
    else
      let reasons := reasons ++ contractReasons rules params
      return (if reasons = [] then .safe else .warning, reasons)

def applySimulationResult : Except String TxSimulation → Option TxSimulation × RiskLevel × List RiskReason
  | .ok sim =>
    if sim.success then (some sim, .safe, [])
    else (some sim, .danger,
      [⟨"sim_revert", .danger, "simulation indicates revert: " ++ sim.error.getD "execution failed", .simulation,
        some (.obj [("gas_used", .num (.posInt sim.gasUsed))])⟩])
  | .error e => (none, .warning,
      [⟨"sim_unavailable", .warning, "transaction simulation was not available", .simulation,
        some (.obj [("error", .str e)])⟩])

def chainNamespace : Option String := (h.parseChainId chainId).toOption.map (·.1)

def simulateFor (rawTxHex chainId : String) : Option TxSimulation × RiskLevel × List RiskReason :=
  if chainNamespace h chainId = some "eip155" then applySimulationResult (h.simulateEvmTx rawTxHex chainId)
  else (none, .safe, [])

/-! ## The approval gate -/

def loadApprovalMode : RouterCall Bool := do return r.approvalMode (← nextTick)

def approvalGatingActive : RouterCall Bool := do
  let on ← loadApprovalMode r
  return on && r.approval.isSome

def dangerResult (gated : Bool) (risk : RiskLevel) (reasons : List RiskReason) : Outcome RpcError Unit :=
  if gated = false ∧ risk = .danger then
    .error (.err (.userRejected, "transaction rejected: " ++ (reasons.head?.map (·.message)).getD "simulation failed"))
  else .ok ()

def maybeBlockOnDanger (risk : RiskLevel) (reasons : List RiskReason) : RouterCall Unit :=
  if r.blockOnDangerSimulation = false then pure ()
  else do
    let gated ← approvalGatingActive r
    lift (dangerResult gated risk reasons)

def siwxSummaryFor : Option SiwxSummary := (params.getStr "message").bind fun text => (h.parseSiwx text).toOption

def logPending (pending : PendingApproval) : RouterCall Unit :=
  if r.approvalLog then emit (.loggedPending pending) else pure ()

def resolvedText : ApprovalDecision → String × String
  | .approve => ("approved", "")
  | .reject reason => ("rejected", reason)
  | .timeout => ("timeout", "")

def logResolved (id : String) (decision : ApprovalDecision) : RouterCall Unit :=
  if r.approvalLog then emit (.loggedResolved id (resolvedText decision).1 (resolvedText decision).2) else pure ()

def decisionResult : ApprovalDecision → Outcome RpcError Bool
  | .approve => .ok true
  | .reject reason => .error (.err (.userRejected, "user rejected: " ++ reason))
  | .timeout => .error (.err (.userRejected, "approval timeout"))

/-- What an approver is asked about a request. -/
structure GateRequest where
  method : String
  params : Json
  dappName : String
  dappOrigin : String
  chainId : String
  risk : RiskLevel
  riskReasons : List RiskReason
  simulation : Option TxSimulation

def requestApproval (channel : ApprovalChannel) (g : GateRequest) : RouterCall Bool := do
  let now ← nowUnixSecs h
  let t ← nextTick
  let pending : PendingApproval :=
    { id := h.uuid t
      method := g.method
      params := g.params
      dappName := g.dappName
      dappOrigin := g.dappOrigin
      chainId := g.chainId
      risk := g.risk
      riskReasons := g.riskReasons
      simulation := g.simulation
      siwxSummary := siwxSummaryFor h g.params
      createdAtUnix := now
      expiresAtUnix := (now + r.approvalTimeoutSecs) % 2 ^ 64 }
  logPending r pending
  let t ← nextTick
  let decision := channel.request t pending
  emit (.decided pending.id decision)
  logResolved r pending.id decision
  lift (decisionResult decision)

def maybeGateApproval (g : GateRequest) : RouterCall Bool := do
  let on ← loadApprovalMode r
  if on = false then pure true
  else match r.approval with
    | none => fail (.internal, "approval required but no approver connected — Web UI not running")
    | some channel => requestApproval h r channel g

/-! ## The Key-Agent -/

def readKeyAgent : Except String KeyAgentReply → Outcome RpcError Bytes
  | .error e => .error (.err (.internal, "key-agent wire: " ++ e))
  | .ok (.ok payload) => .ok payload
  | .ok (.deny reason) => .error (.err (denyCode reason, "policy denied"))
  | .ok (.error message) => .error (.err (.signer, message))
  | .ok .empty => .error (.err (.internal, "empty key-agent response"))

def forward (kind : KeyAgentRequestKind) : RouterCall Bytes := do
  emit (.forwarded kind)
  let t ← nextTick
  lift (readKeyAgent (h.send t kind))

def firstWallet (wallets : List WalletInfo) : Outcome RpcError (String × String) := do
  let wallet ← okOr (.internal, "no wallet available for auth request") wallets.head?
  let account ← okOr
    (.unsupportedMethod, "default wallet has no account for requested chain " ++ chainId)
    (wallet.accounts.find? (·.chainId == chainId))
  return (wallet.id, account.address)

def defaultWalletForChain : RouterCall (String × String) :=
  if chainId = "" then fail (.unsupportedMethod, "chain_id is required when resolving a default wallet")
  else do
    let bytes ← forward h .listWallets
    let wallets ← lift (decoded (h.decoder.listWallets bytes))
    lift (firstWallet chainId wallets)

def walletFor : RouterCall String :=
  match params.getStr "wallet_id" with
  | some walletId => pure walletId
  | none => do
    let (walletId, _) ← defaultWalletForChain h chainId
    return walletId

/-! ## The methods -/

/-- A request as it reaches the router, with what is known of the dApp behind it. -/
structure RpcCall where
  method : String
  params : Json
  dappName : String
  dappOrigin : String

def approve : RouterCall Bool := do
  let (risk, reasons) ← policyEvaluateSigning h r c.params chainId
  maybeGateApproval h r ⟨c.method, c.params, c.dappName, c.dappOrigin, chainId, risk, reasons, none⟩

def accountJson (a : WalletAccount) : Json :=
  .obj [("account_id", .str a.accountId), ("address", .str a.address), ("chain_id", .str a.chainId),
    ("derivation_path", .str a.derivationPath)]

def walletJson (w : WalletInfo) : Json :=
  .obj [("id", .str w.id), ("name", .str w.name), ("key_type", .str w.keyType),
    ("created_at", .num (.posInt w.createdAt)), ("accounts", .arr (w.accounts.map accountJson))]

def handleListWallets : RouterCall Json := do
  let bytes ← forward h .listWallets
  let wallets ← lift (decoded (h.decoder.listWallets bytes))
  return .obj [("wallets", .arr (wallets.map walletJson))]

/-- `eth_sendTransaction`, `onecipher_signTransaction` and the like. -/
def handleSignTransaction : RouterCall Json := do
  let auth ← lift (requirePasskey c.params "missing passkey authorization")
  let common ← lift (extractCommonParams c.params)
  let rawTxHex ← lift (requireField c.params "raw_tx_hex")
  let (risk, reasons) ← policyEvaluateSigning h r c.params common.chainId
  let (simulation, simRisk, simReasons) := simulateFor h rawTxHex common.chainId
  maybeBlockOnDanger r simRisk simReasons
  let _ ← maybeGateApproval h r ⟨c.method, c.params, c.dappName, c.dappOrigin, common.chainId,
    risk.max simRisk, reasons ++ simReasons, simulation⟩
  let bytes ← forward h (.signTransaction
    ⟨common.sessionKeyId.getD "", common.walletId, common.chainId, rawTxHex, some auth⟩)
  let resp ← lift (decoded (h.decoder.signTransaction bytes))
  return .obj [("signature", bytesJson resp.signature), ("signed_tx_hex", .str resp.signedHex)]

def authClassRequest (missing walletId chainId : String) (message : Bytes) : Outcome RpcError AuthClassRequest :=
  match r.signAuthMode with
  | .requirePasskey => do
    let auth ← requirePasskey params missing
    return ⟨walletId, chainId, message, some auth, []⟩
  | .internalToken token => .ok ⟨walletId, chainId, message, none, token⟩

/-- `solana_signMessage`: the signature is an array of numbers, and there is no public key. -/
def handleSolanaSignMessage : RouterCall Json := do
  let chainId := (c.params.getStr "chain_id").getD "solana:mainnet"
  let walletId ← walletFor h c.params chainId
  let message ← lift (requireField c.params "message")
  let _ ← approve h r c chainId
  let req ← lift (authClassRequest r c.params "missing passkey authorization" walletId chainId (utf8 message))
  let bytes ← forward h (.signAuth req)
  let resp ← lift (decoded (h.decoder.signAuth bytes))
  return .obj [("signature", bytesJson resp.signature), ("address", .str resp.address), ("chain_id", .str resp.chainId)]

/-- The methods that take a passkey proof, the common parameters and one payload field: policy and
approver are told `chainOf`, and the request is made from all three. -/
def passkeySigning (fieldName : String) (chainOf : CommonParams → String)
    (kind : PasskeyAuthorization → CommonParams → String → KeyAgentRequestKind)
    (answer : Bytes → Outcome RpcError Json) : RouterCall Json := do
  let auth ← lift (requirePasskey c.params "missing passkey authorization")
  let common ← lift (extractCommonParams c.params)
  let payload ← lift (requireField c.params fieldName)
  let _ ← approve h r c (chainOf common)
  let bytes ← forward h (kind auth common payload)
  lift (answer bytes)

def signatureJson (signature : Bytes) : Json := .obj [("signature", bytesJson signature)]

/-- `personal_sign`, `eth_sign` and `onecipher_signMessage`: no chain is told. -/
def handleSignMessage : RouterCall Json :=
  passkeySigning h r c "message" (fun _ => "")
    (fun auth common message =>
      .signMessage ⟨common.sessionKeyId.getD "", common.walletId, utf8 message, some auth⟩)
    fun bytes => (decoded (h.decoder.signMessage bytes)).map signatureJson

/-- `eth_signTypedData_v4` and `onecipher_signTypedData`: no chain is told. -/
def handleSignTypedData : RouterCall Json :=
  passkeySigning h r c "typed_data_json" (fun _ => "")
    (fun auth common typedDataJson =>
      .signTypedData ⟨common.sessionKeyId.getD "", common.walletId, typedDataJson, some auth⟩)
    fun bytes => (decoded (h.decoder.signTypedData bytes)).map signatureJson

/-- `onecipher_signUserOp`. -/
def handleSignUserOp : RouterCall Json :=
  passkeySigning h r c "user_op_hex" (·.chainId)
    (fun auth common userOpHex =>
      .signUserOp ⟨common.sessionKeyId.getD "", common.walletId, common.chainId, userOpHex, some auth⟩)
    fun bytes => (decoded (h.decoder.signUserOp bytes)).map fun resp =>
      .obj [("signature", bytesJson resp.signature), ("signed_user_op_hex", .str resp.signedHex)]

def accountSignatureJson (s : AccountSignature) : Json :=
  .obj [("signature", .str (hexText s.signature)), ("address", .str s.address), ("chain_id", .str s.chainId),
    ("public_key", .str (hexText s.publicKey))]

/-- `onecipher_signAuth`: here the proof is asked for before policy and gate. -/
def handleSignAuth : RouterCall Json := do
  let chainId ← lift (requireField c.params "chain_id")
  let walletId ← walletFor h c.params chainId
  let message ← lift (requireField c.params "message")
  let req ← lift (authClassRequest r c.params "missing auth for onecipher_signAuth" walletId chainId (utf8 message))
  let _ ← approve h r c chainId
  let bytes ← forward h (.signAuth req)
  let resp ← lift (decoded (h.decoder.signAuth bytes))
  return accountSignatureJson resp

/-- `solana_signIn`. -/
def handleSolanaSignIn : RouterCall Json := do
  let chainId ← lift (requireField c.params "chain_id")
  let message ← lift (requireField c.params "message")
  let _ ← lift (labelled .unsupportedMethod "invalid CAIP-122 message: " (h.parseSiwx message))
  let walletId ← walletFor h c.params chainId
  let _ ← approve h r c chainId
  let req ← lift (authClassRequest r c.params "missing auth for solana_signIn" walletId chainId (utf8 message))
  let bytes ← forward h (.signSiwx req)
  let resp ← lift (decoded (h.decoder.signSiwx bytes))
  return accountSignatureJson resp

/-! ### Sign-in requests -/

/-- Only the daemon's own token authorizes a `wc_authRequest`. -/
def daemonToken : Outcome RpcError Bytes :=
  match r.signAuthMode with
  | .internalToken token => .ok token
  | .requirePasskey => .error (.err
      (.unauthorized, "wc_authRequest requires WalletConnect daemon internal authorization"))

def authAnswer (signature hash : Bytes) (params : Json) : Json :=
  .obj [("signature", .str (hexText signature)), ("hash", .str (hexText hash)), ("payload", params)]

def buildSiwxMessage (address : String) (auth : AuthRequestParams) : Outcome RpcError String := do
  let reference ← labelled .internal "invalid wc_authRequest: " ((chainReference auth.chainId).mapError AuthError.message)
  labelled .internal "invalid wc_authRequest: " (h.siwxText address reference auth)

def handleWcAuthSolana (auth : AuthRequestParams) : RouterCall Json := do
  let (walletId, address) ← defaultWalletForChain h auth.chainId
  let text ← lift (buildSiwxMessage h address auth)
  let _ ← approve h r c auth.chainId
  let token ← lift (daemonToken r)
  let bytes ← forward h (.signSiwx ⟨walletId, auth.chainId, utf8 text, none, token⟩)
  let resp ← lift (decoded (h.decoder.signSiwx bytes))
  return authAnswer resp.signature (h.keccak256 (utf8 text)) c.params

/-- `eip191_prefixed_message`. -/
def eip191Prefixed (message : Bytes) : Bytes :=
  utf8 ("\x19Ethereum Signed Message:\n" ++ toString message.length) ++ message

def authMessage (now address : String) (params : Json) (auth : AuthRequestParams) : Outcome RpcError (Bytes × Bytes) :=
  match auth.type with
  | .eip4361 => do
    let text ← labelled .internal "siwe build: " ((buildSiweMessage now address auth).mapError AuthError.message)
    return (utf8 text, h.keccak256 (utf8 text))
  | .eip191 =>
    let raw := utf8 ((params.getStr "message").getD (auth.aud ++ "\n" ++ auth.nonce))
    .ok (raw, h.keccak256 (eip191Prefixed raw))

def handleWcAuthEvm (auth : AuthRequestParams) : RouterCall Json := do
  let (walletId, address) ← defaultWalletForChain h auth.chainId
  let t ← nextTick
  let (message, hash) ← lift (authMessage h (h.rfc3339 t) address c.params auth)
  let _ ← approve h r c auth.chainId
  let token ← lift (daemonToken r)
  let bytes ← forward h (.signAuth ⟨walletId, auth.chainId, message, none, token⟩)
  let resp ← lift (decoded (h.decoder.signAuth bytes))
  return authAnswer resp.signature hash c.params

/-- `wc_authRequest`. -/
def handleWcAuthRequest : RouterCall Json := do
  let auth ← lift (labelled .internal "bad wc_authRequest params: " (h.parseAuthParams c.params))
  lift (labelled .internal "invalid wc_authRequest: " (auth.validate.mapError AuthError.message))
  if chainNamespace h auth.chainId = some "solana" then handleWcAuthSolana h r c auth
  else if chainNamespace h auth.chainId = some "eip155" then handleWcAuthEvm h r c auth
  else fail (.unsupportedMethod, "wc_authRequest not supported for non-EVM chain " ++ auth.chainId)

/-- `onecipher_generateChallenge`. -/
def handleGenerateChallenge : RouterCall Json := do
  let credentialId ← lift (requireField c.params "credential_id")
  let bytes ← forward h (.generateChallenge credentialId)
  let challenge ← lift (decoded (h.decoder.generateChallenge bytes))
  return .obj [("challenge_hex", .str (Text.hexEncode challenge))]

/-- `onecipher_getBalance` is not served here. -/
def handleGetBalance : RouterCall Json := do
  let _ ← lift (extractCommonParams c.params)
  fail (.unsupportedMethod,
    "onecipher_getBalance is not served over WalletConnect; use the local HTTP-RPC or CLI surface")

/-! ### Intents -/

def nowOrZero : RouterCall Nat := do
  let t ← nextTick
  return (h.clock t).toOption.getD 0

def intentKind : Outcome RpcError Json := do
  let kind ← okOr (.unsupportedMethod, "missing kind (IntentKind JSON)") (params.get "kind")
  match h.intents.kindError kind with
  | some e => .error (.err (.unsupportedMethod, "invalid kind: " ++ e))
  | none => return kind

def parseIntentParams : RouterCall (Intent × Option String) := do
  let chainId ← lift (requireField params "chain_id")
  let sessionKeyId ← lift (requireField params "session_key_id")
  let kind ← lift (intentKind h params)
  let now ← nowOrZero h
  let t ← nextTick
  return (⟨h.uuid t, kind, chainId, sessionKeyId, now, now + 300⟩, params.getStr "rpc_url")

def noRpcEndpoint : String :=
  "invalid input: no RPC endpoint configured (pass rpc_url or set OC_RPC_URL); refusing to simulate/execute " ++
    "against a mock on the hot path"

def selectRpcClient (rpcUrl envUrl : Option String) : Except String Unit :=
  match rpcUrl.orElse fun _ => envUrl.filter fun v => Text.trim v ≠ "" with
  | some url => (h.intents.connect chainId url).mapError ("RPC error: transport error: " ++ ·)
  | none => .error noRpcEndpoint

def openRpcClient (rpcUrl : Option String) : RouterCall Unit := do
  let t ← nextTick
  lift (labelled .internal "intent RPC unavailable: " (selectRpcClient h chainId rpcUrl (h.intents.envRpcUrl t)))

/-- `onecipher_intentSimulate`. -/
def handleIntentSimulate : RouterCall Json := do
  let (intent, rpcUrl) ← parseIntentParams h c.params
  openRpcClient h intent.chainId rpcUrl
  let t ← nextTick
  lift (labelled .internal "intent simulate: " (h.intents.simulate t intent))

def executionError (e : String) : RpcError := (.internal, "intent execute: execution failed: " ++ e)

/-- `str::trim_start_matches("0x")`. -/
def trimHexMarks : List Char → List Char
  | '0' :: 'x' :: rest => trimHexMarks rest
  | cs => cs

def signedBytes : Except String KeyAgentReply → Except String Bytes
  | .error e => .error ("key-agent sign: " ++ e)
  | .ok (.deny _) => .error "policy denied"
  | .ok (.error message) => .error ("signer: " ++ message)
  | .ok .empty => .error "empty key-agent response"
  | .ok (.ok payload) =>
    match h.decoder.signTransaction payload with
    | .error e => .error ("sign decode: " ++ e)
    | .ok resp =>
      match Text.hexDecode (String.ofList (trimHexMarks resp.signedHex.toList)) with
      | .error e => .error ("signed hex: " ++ e.message)
      | .ok b => .ok b

def intentSigner (common : CommonParams) (auth : PasskeyAuthorization) (unsignedTx : Bytes) : RouterCall Bytes :=
  if h.intents.canBlock = false then lift (.error .panic)
  else do
    let kind := .signTransaction
      ⟨common.sessionKeyId.getD "", common.walletId, common.chainId, hexText unsignedTx, some auth⟩
    emit (.forwarded kind)
    let t ← nextTick
    lift ((signedBytes h (h.send t kind)).mapError fun e =>
      .err (executionError ("signing failed: execution failed: " ++ e)))

def intentResult (id status : String) (txHash receipt error : Json) : Json :=
  .obj [("intent_id", .str id), ("status", .str status), ("tx_hash", txHash), ("receipt", receipt), ("error", error)]

/-- `execute_intent`: build, sign, broadcast and wait; an expired intent is not executed. -/
def executeIntent (intent : Intent) (fromAddress : String) (signer : Bytes → RouterCall Bytes) : RouterCall Json := do
  let now ← nowOrZero h
  if now > intent.expiresAt then pure (intentResult intent.id "Expired" .null .null (.str "intent expired"))
  else do
    let t ← nextTick
    let unsignedTx ← lift (labelled .internal "intent execute: " (h.intents.build t intent fromAddress))
    let signed ← signer unsignedTx
    let t ← nextTick
    let (txHash, receipt) ← lift (labelled .internal "intent execute: " (h.intents.publish t signed))
    return intentResult intent.id "Confirmed" (.str txHash) receipt .null

/-- `onecipher_intentExecute`. -/
def handleIntentExecute : RouterCall Json := do
  let auth ← lift (requirePasskey c.params "missing passkey authorization")
  let (intent, rpcUrl) ← parseIntentParams h c.params
  let common ← lift (extractCommonParams c.params)
  let fromAddress ← lift (requireField c.params "from_address")
  let _ ← approve h r c common.chainId
  openRpcClient h intent.chainId rpcUrl
  executeIntent h intent fromAddress (intentSigner h common auth)

/-! ## Dispatch -/

/-- The arms of the router. -/
inductive RouterMethod where
  | listWallets | signTransaction | solanaSignMessage | signMessage | signAuth | solanaSignIn | wcAuthRequest
  | signTypedData | signUserOp | generateChallenge | getBalance | intentSimulate | intentExecute | unknown
  deriving DecidableEq, Repr

namespace RouterMethod

def ofString : String → RouterMethod
  | "onecipher_listWallets" => listWallets
  | "eth_sendTransaction" | "eth_signTransaction" | "solana_signTransaction" | "cosmos_signDirect"
  | "cosmos_signAmino" | "onecipher_signTransaction" => signTransaction
  | "solana_signMessage" => solanaSignMessage
  | "personal_sign" | "eth_sign" | "onecipher_signMessage" => signMessage
  | "onecipher_signAuth" => signAuth
  | "solana_signIn" => solanaSignIn
  | "wc_authRequest" => wcAuthRequest
  | "eth_signTypedData_v4" | "onecipher_signTypedData" => signTypedData
  | "onecipher_signUserOp" => signUserOp
  | "onecipher_generateChallenge" => generateChallenge
  | "onecipher_getBalance" => getBalance
  | "onecipher_intentSimulate" => intentSimulate
  | "onecipher_intentExecute" => intentExecute
  | _ => unknown

def isSigning : RouterMethod → Bool
  | listWallets | generateChallenge | getBalance | intentSimulate | unknown => false
  | _ => true

end RouterMethod

def dispatch : RouterMethod → RouterCall Json
  | .listWallets => handleListWallets h
  | .signTransaction => handleSignTransaction h r c
  | .solanaSignMessage => handleSolanaSignMessage h r c
  | .signMessage => handleSignMessage h r c
  | .signAuth => handleSignAuth h r c
  | .solanaSignIn => handleSolanaSignIn h r c
  | .wcAuthRequest => handleWcAuthRequest h r c
  | .signTypedData => handleSignTypedData h r c
  | .signUserOp => handleSignUserOp h r c
  | .generateChallenge => handleGenerateChallenge h c
  | .getBalance => handleGetBalance c
  | .intentSimulate => handleIntentSimulate h c
  | .intentExecute => handleIntentExecute h r c
  | .unknown => fail (.unsupportedMethod, "unknown method: " ++ c.method)

/-- The name and origin of the dApp: those that came with the request, or those of its session. -/
def resolveDappMetadata (sessionTopic dappName dappOrigin : String) : RouterCall (String × String) :=
  if dappName ≠ "" ∨ dappOrigin ≠ "" then pure (dappName, dappOrigin)
  else match r.sessions with
    | none => pure ("", "")
    | some table => do
      let t ← nextTick
      return match (table t).bind (· sessionTopic) with
        | some (name, origin) => (name.getD "", origin.getD "")
        | none => ("", "")

def handle (method : String) (params : Json) (sessionTopic : String) (dappName dappOrigin : Option String) :
    RouterCall Json := do
  let (name, origin) ← resolveDappMetadata r sessionTopic (dappName.getD "") (dappOrigin.getD "")
  dispatch h r ⟨method, params, name, origin⟩ (.ofString method)

end Router

end OneCipher.NetAgent
