import OneCipher.KeyAgent.EnclaveMessages
import OneCipher.Ocwp.Handlers

/-!
# OneCipher.Ocwp.Messages — signing messages, typed data and authorizations

`handle_sign_message`, `handle_sign_typed_data` and `handle_sign_authorization` of `wallet_rpc/ocwp/handlers.rs`, with
`sign_message_bytes` and `sign_typed_data`.  Messages and documents are signed in a subprocess, or in the daemon when
the subprocess is switched off; authorizations are always signed in the daemon.
-/

namespace OneCipher.Ocwp

open Prog Core Signer Wallet KeyAgent

section Messages

variable (w : World) (x : SignHost) (m : MessageHost)

/-! ## In a subprocess -/

def responseField (field : Option String) (name : String) : Outcome String Bytes :=
  match field with
  | some text => responseHex text name
  | none => .error (.err ("E_INTERNAL: enclave omitted " ++ name))

variable (env : WalletEnv) (req : OpRequest) (session : SessionEntry) (params : Json) (chainId : String)

def OpRequest.event : Event :=
  match req.op with
  | .message => .signedMessage ((decodePayload req.toEnclaveRequest).toOption.getD [])
  | .typedData => .signedTypedData req.extraJson

def recordOp : Outcome String ChildOpSignature → Prog Daemon String Unit
  | .ok _ => emit (OpRequest.event req)
  | .error _ => pure ()

def runOpChild : ChildRun → Prog Daemon String OpResponse
  | .failed e => fail (spawnError e)
  | .lost e => do
    recordOp req (childSignOp m x.wallet req)
    fail (spawnError e)
  | .answered pid => do
    let s ← childAnswer pid (childSignOp m x.wallet req)
    emit (OpRequest.event req)
    childAnswer pid (childRespond m x.wallet req.op s)

def spawnOp : Prog Daemon String OpResponse :=
  match req.validateOp with
  | .error e => fail (spawnError ⟨none, "enclave request invalid: " ++ e⟩)
  | .ok () => do
    let t ← nextTick
    runOpChild x m req (x.enclave.run t)

def opRequest (op : SignOp) (payloadHex extraJson requestId : String) : OpRequest :=
  { requestId := requestId
    walletId := session.walletId
    chainId := chainId
    payloadHex := payloadHex
    index := session.index
    credentialHex := Text.hexEncode (Text.utf8 session.passphrase)
    op := op
    extraJson := extraJson }

def enclaveOp (op : SignOp) (payloadHex extraJson : String) : Handler (Bytes × Bytes × Option UInt8) := do
  let t ← nextTick
  let resp ← mapErr enclaveError
    (spawnOp x m (opRequest session chainId op payloadHex extraJson (x.enclave.requestId t)))
  let signature ← lift ((responseField resp.signatureHex "signature").mapErr enclaveError)
  let publicKey ← lift ((responseField resp.publicKeyHex "public key").mapErr enclaveError)
  return (signature, publicKey, resp.recoveryId)

/-! ## In the daemon -/

/-- The public key returned with a message signature; every family but EVM is taken for Ed25519. -/
def messagePublicKey (chain : Chain) (secret : Bytes) : Outcome OcwpError Bytes :=
  if chain.chainType = .evm then
    if env.evm.validKey secret then .ok (compressedKey env.evm secret)
    else .error (.err (.internal "invalid secp256k1 key"))
  else if secret.length ≠ 32 then .error (.err (.internal "invalid ed25519 key length"))
  else .ok (m.ed25519PublicKey secret)

def localSignMessage (message : Bytes) : Handler (Bytes × Bytes × Option UInt8) := do
  let chain ← lift ((parseChain x.wallet.chains chainId).mapError fun e =>
    .err (.invalidParams ("invalid chain: " ++ e)))
  let secret ← lift (sessionKey x.wallet session chain)
  let output ← lift (((messageSignerFor m x.wallet chain).signMessage secret message).mapErr fun _ =>
    .internal "signing failed")
  emit (.signedMessage message)
  let publicKey ← lift (messagePublicKey m x.wallet chain secret)
  return (output.signature, publicKey, output.recoveryId)

/-- `sign_message_bytes`. -/
def signMessageBytes (message : Bytes) : Handler (Bytes × Bytes × Option UInt8) :=
  if x.enclave.enabled then enclaveOp x m session chainId .message (Text.hexEncode message) ""
  else localSignMessage x m session chainId message

/-- `oc_wallet::sign_typed_data`. -/
def walletSignTypedData (wallet chain typedDataJson credential : String) (index : Option Nat) :
    WalletCall SignResult := do
  let chain ← fromResult ((parseChain env.chains chain).mapError .invalidInput)
  if chain.chainType ≠ .evm then
    .error (.err (.invalidInput "EIP-712 typed data signing is only supported for EVM chains"))
  else if WalletEnv.isToken credential then signTypedDataWithApiKey env credential wallet chain typedDataJson index
  else do
    let key ← fromResult (env.decryptSigningKey wallet chain.chainType (Text.utf8 credential) index)
    let output ← fromSigner (EvmSigner.signTypedData env.evm env.parseJson key typedDataJson)
    return SignResult.of output

def typedDataChain : Outcome OcwpError Chain := do
  let chain ← (parseChain env.chains chainId).mapError fun e => .err (.invalidParams ("invalid chain: " ++ e))
  if chain.chainType ≠ .evm then
    .error (.err (.invalidParams "typed data signing is only supported for EVM accounts"))
  else return chain

/-- The public key returned with a document's signature; the session's key is opened once more for it. -/
def typedDataPublicKey (chain : Chain) : Outcome OcwpError Bytes := do
  let secret ← sessionKey env session chain
  if env.evm.validKey secret then return compressedKey env.evm secret
  else .error (.err (.internal "invalid secp256k1 key"))

def localSignTypedData (typedDataJson : String) : Handler (Bytes × Bytes) := do
  let chain ← lift (typedDataChain x.wallet chainId)
  let result ← lift ((walletSignTypedData x.wallet session.wallet chainId typedDataJson session.passphrase
    (some session.index)).mapErr fun _ => .unauthorized "failed to decrypt signing key (wrong passphrase?)")
  emit (.signedTypedData typedDataJson)
  let publicKey ← lift (typedDataPublicKey x.wallet session chain)
  let signature ← lift (decodeHexField result.signature "signature")
  return (signature, publicKey)

/-- `sign_typed_data`. -/
def signTypedData (typedDataJson : String) : Handler (Bytes × Bytes) :=
  if x.enclave.enabled then do
    let (signature, publicKey, _) ← enclaveOp x m session chainId .typedData "" typedDataJson
    return (signature, publicKey)
  else localSignTypedData x session chainId typedDataJson

/-! ## The handlers -/

def plainView (method : String) (chain : Chain) (toAddress : Option String) (typedData : Option Json) : PolicyView :=
  ⟨method, chain.chainId, toAddress, none, none, "", typedData⟩

def enforceView (view : PolicyView) : Handler Unit := do
  lift (gate x.gate x.wallet.policyVault session view)
  emit (.enforced view.method view.rawHex)

def messageParam : Outcome OcwpError Bytes := do
  let messageB64 ← requireStr params "message"
  let message ← (m.base64Decode messageB64).mapError fun e => .err (.invalidParams ("invalid base64 message: " ++ e))
  if message.length > 1024 * 1024 then .error (.err (.invalidParams "message exceeds 1 MiB limit"))
  else return message

def signatureJson (signature publicKey : Bytes) : List (String × Json) :=
  [("signature", .str (Text.hexText signature)), ("public_key", .str (Text.hexText publicKey))]

/-- `oc_sign_message`. -/
def handleSignMessage (origin : String) : Handler Json := do
  let session ← requireSession w params origin
  let chain ← lift (accountChain x.wallet params)
  let message ← lift (messageParam m params)
  enforceView x session (plainView "oc_sign_message" chain none none)
  let (signature, publicKey, recoveryId) ← signMessageBytes x m session chain.chainId message
  recordSignAudit x "oc_sign_message" session chain.chainId "ok"
    ("bytes=" ++ toString message.length ++ " encoding=" ++ (params.getStr "encoding").getD "utf8")
  return .obj (signatureJson signature publicKey ++ [("recovery_id", recoveryJson recoveryId)])

def typedDataParam : Outcome OcwpError Json := do
  let typedData ← Outcome.okOr (.invalidParams "missing 'typed_data'") (params.get "typed_data")
  if typedData.asObject.isNone then .error (.err (.invalidParams "'typed_data' must be an object"))
  else return typedData

def typedDataDetail (typedData : Json) : String :=
  "primary_type=" ++ (typedData.getStr "primaryType").getD "unknown" ++ " verifying_contract=" ++
    ((typedData.get "domain").bind fun domain => domain.getStr "verifyingContract").getD "(none)"

/-- `oc_sign_typed_data`. -/
def handleSignTypedData (origin : String) : Handler Json := do
  let session ← requireSession w params origin
  let chain ← lift (accountChain x.wallet params)
  let typedData ← lift (typedDataParam params)
  enforceView x session (plainView "oc_sign_typed_data" chain none (some typedData))
  let (signature, publicKey) ← signTypedData x m session chain.chainId (x.gate.jsonText typedData)
  recordSignAudit x "oc_sign_typed_data" session chain.chainId "ok" (typedDataDetail typedData)
  return .obj (signatureJson signature publicKey)

def authorizationAccount : Outcome OcwpError Chain := do
  let chain ← accountChain env params
  if chain.chainType ≠ .evm then
    .error (.err (.invalidParams "EIP-7702 authorization signing is only supported for EVM accounts"))
  else return chain

def requireStepUp : Handler Unit := do
  let required ← reads Daemon.requirePasskeyEip7702
  if required then verifyStepUp w session params else pure ()

/-- `oc_sign_authorization`. -/
def handleSignAuthorization (origin : String) : Handler Json := do
  let session ← requireSession w params origin
  let chain ← lift (authorizationAccount x.wallet params)
  requireStepUp w session params
  let address ← lift (requireStr params "address")
  let nonce ← lift (requireStr params "nonce")
  enforceView x session (plainView "oc_sign_authorization" chain (some address) none)
  let result ← lift ((signAuthorization x.wallet session.wallet chain.chainId address nonce session.passphrase
    (some session.index)).mapErr fun _ => .unauthorized "failed to decrypt signing key (wrong passphrase?)")
  emit (.signedAuthorization chain.chainId address nonce)
  let required ← reads Daemon.requirePasskeyEip7702
  recordSignAudit x "oc_sign_authorization" session chain.chainId "ok"
    ("address=" ++ address ++ " nonce=" ++ nonce ++ " step_up=" ++ toString required)
  return .obj [("signature", .str ("0x" ++ result.signature)), ("recovery_id", recoveryJson result.recoveryId)]

end Messages

end OneCipher.Ocwp
