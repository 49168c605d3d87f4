import OneCipher.KeyAgent.Enclave

/-!
# OneCipher.KeyAgent.EnclaveMessages — messages and typed data in the signing subprocess

The operations `sign_message` and `sign_typed_data` of `oc-keyagent/src/enclave.rs`, in passphrase mode, and message
signing of the chain signers.  As for transactions, what the child does behind the signature is a step of its own.
-/

namespace OneCipher.KeyAgent

open Core Signer Wallet

/-! ## Message signers -/

/-- The part of the signer trait that signing messages uses. -/
structure MessageSigner where
  signMessage : Bytes → Bytes → Signed SignOutput
  deriveAddress : Bytes → Signed String

/-- What message signing reaches besides the wallet. -/
structure MessageHost where
  others : ChainType → MessageSigner
  ed25519PublicKey : Bytes → Bytes
  base64Decode : String → Except String Bytes

/-- `personal_sign`: the prefixed message is hashed, and the recovery id becomes 27 or 28. -/
def EvmSigner.signMessage (c : EvmCrypto) (privateKey message : Bytes) : Signed SignOutput := do
  let text := "\x19Ethereum Signed Message:\n" ++ toString message.length
  let output ← Signer.EvmSigner.sign c privateKey (c.keccak256 (Text.utf8 text ++ message))
  match output.recoveryId with
  | some rid => return { output with signature := output.signature.set 64 (rid + 27), recoveryId := some (rid + 27) }
  | none => return output

variable (m : MessageHost) (env : WalletEnv)

def messageSignerFor (chain : Chain) : MessageSigner :=
  if chain.chainType = .evm then ⟨EvmSigner.signMessage env.evm, Signer.EvmSigner.deriveAddress env.evm⟩
  else m.others chain.chainType

def compressedKey (c : EvmCrypto) (key : Bytes) : Bytes :=
  (if (c.publicKey key).getLastD 0 % 2 = 0 then 0x02 else 0x03) :: ((c.publicKey key).drop 1).take 32

/-- `derive_public_key`. -/
def derivePublicKey (isSecp256k1 : Bool) (key : Bytes) : Option Bytes :=
  if isSecp256k1 then if env.evm.validKey key then some (compressedKey env.evm key) else none
  else if key.length < 32 then none else some (m.ed25519PublicKey (key.take 32))

/-! ## The protocol -/

inductive SignOp where
  | message | typedData
  deriving DecidableEq, Repr

def SignOp.name : SignOp → String
  | message => "sign_message"
  | typedData => "sign_typed_data"

/-- A request for one of the two operations. -/
structure OpRequest extends EnclaveRequest where
  op : SignOp
  extraJson : String
  deriving DecidableEq, Repr

def enclaveMaxExtraJsonBytes : Nat := 256 * 1024

def OpRequest.validateOp (req : OpRequest) : Except String Unit :=
  if req.requestId = "" ∨ (Text.utf8 req.requestId).length > enclaveMaxFieldChars then
    .error "enclave request_id missing or oversized"
  else if (Text.utf8 req.walletId).length > enclaveMaxFieldChars then .error "enclave wallet_id oversized"
  else if (Text.utf8 req.chainId).length > enclaveMaxFieldChars then .error "enclave chain_id oversized"
  else if req.walletId = "" then .error ("enclave op '" ++ req.op.name ++ "' requires wallet_id")
  else if req.chainId = "" then .error ("enclave op '" ++ req.op.name ++ "' requires chain_id")
  else if (Text.utf8 req.payloadHex).length > enclaveMaxPayloadBytes * 2 + 8 then
    .error "enclave payload_hex oversized"
  else if (Text.utf8 req.extraJson).length > enclaveMaxExtraJsonBytes then .error "enclave extra_json oversized"
  else .ok ()

/-- What the parent reads of a successful answer. -/
structure OpResponse where
  signatureHex : Option String
  publicKeyHex : Option String
  recoveryId : Option UInt8
  deriving DecidableEq, Repr

/-! ## The child -/

/-- A signature made by the child, and the key it was made with. -/
structure ChildOpSignature where
  chain : Chain
  key : Bytes
  signer : ChainSigner
  output : SignOutput

def childSignMessage (req : OpRequest) : Outcome String ChildOpSignature := do
  req.validateOp.mapError .err
  let message ← (decodePayload req.toEnclaveRequest).mapError .err
  let (key, signer) ← (loadChildKey env req.toEnclaveRequest).mapError .err
  -- the chain of the key, for its message signer
  let chain ← (parseChain env.chains req.chainId).mapError fun e => .err (coded .param ("invalid chain: " ++ e))
  let output ← ((messageSignerFor m env chain).signMessage key message).mapErr fun e =>
    coded .internal ("signing failed: " ++ e.message)
  return ⟨chain, key, signer, output⟩

def checkTypedDataJson (req : OpRequest) : Except String Unit :=
  if req.extraJson = "" then .error (coded .param "missing typed-data JSON")
  else match env.parseJson req.extraJson with
    | .error _ => .error (coded .param "invalid typed-data JSON")
    | .ok _ => .ok ()

def childSignTypedData (req : OpRequest) : Outcome String ChildOpSignature := do
  req.validateOp.mapError .err
  (checkTypedDataJson env req).mapError .err
  let chain ← (parseChain env.chains req.chainId).mapError fun e => .err (coded .param ("invalid chain: " ++ e))
  if chain.chainType ≠ .evm then .error (.err (coded .param "typed-data signing is EVM-only"))
  else do
    let (key, signer) ← (loadChildKey env req.toEnclaveRequest).mapError .err
    let output ← (Signer.EvmSigner.signTypedData env.evm env.parseJson key req.extraJson).mapErr fun e =>
      coded .internal ("signing failed: " ++ e.message)
    return ⟨chain, key, signer, output⟩

def childSignOp (req : OpRequest) : Outcome String ChildOpSignature :=
  match req.op with
  | .message => childSignMessage m env req
  | .typedData => childSignTypedData env req

/-- The answer behind a signature.  For a message the address is derived, and a public key; for a document neither. -/
def childRespond (op : SignOp) (s : ChildOpSignature) : Outcome String OpResponse :=
  match op with
  | .message => do
    let _ ← ((messageSignerFor m env s.chain).deriveAddress s.key).mapErr fun e =>
      coded .internal ("address derivation: " ++ e.message)
    let publicKey := s.output.publicKey.orElse fun _ => derivePublicKey m env s.signer.isSecp256k1 s.key
    return ⟨some (Text.hexEncode s.output.signature), publicKey.map Text.hexEncode, s.output.recoveryId⟩
  | .typedData => return ⟨some (Text.hexEncode s.output.signature), none, s.output.recoveryId⟩

end OneCipher.KeyAgent
