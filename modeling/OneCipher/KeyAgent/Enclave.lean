import OneCipher.KeyAgent.Passkey
import OneCipher.Wallet.Ops

/-!
# OneCipher.KeyAgent.Enclave — the signing subprocess

`oc-keyagent/src/enclave.rs`, for transactions in passphrase mode: the request crosses a pipe, the child
checks it again, opens the wallet, signs and encodes.  Signing and encoding are two steps here, because
a transaction that is signed and then not encodable has been signed.  What becomes of the child (it may
not start, or its answer may be lost) is a `ChildRun`.
-/

namespace OneCipher.KeyAgent

open Core Signer Wallet

/-! ## The protocol -/

/-- A request to sign a transaction with an owner's passphrase. -/
structure EnclaveRequest where
  requestId : String
  walletId : String
  chainId : String
  payloadHex : String
  index : Nat
  credentialHex : String
  deriving DecidableEq, Repr

def enclaveMaxPayloadBytes : Nat := 1024 * 1024

def enclaveMaxFieldChars : Nat := 256

def EnclaveRequest.validate (req : EnclaveRequest) : Except String Unit :=
  if req.requestId = "" ∨ (Text.utf8 req.requestId).length > enclaveMaxFieldChars then
    .error "enclave request_id missing or oversized"
  else if (Text.utf8 req.walletId).length > enclaveMaxFieldChars then .error "enclave wallet_id oversized"
  else if (Text.utf8 req.chainId).length > enclaveMaxFieldChars then .error "enclave chain_id oversized"
  else if req.walletId = "" then .error "enclave op 'sign_transaction' requires wallet_id"
  else if req.chainId = "" then .error "enclave op 'sign_transaction' requires chain_id"
  else if (Text.utf8 req.payloadHex).length > enclaveMaxPayloadBytes * 2 + 8 then
    .error "enclave payload_hex oversized"
  else .ok ()

/-- What the parent reads of a successful answer. -/
structure EnclaveResponse where
  signedTxHex : String
  recoveryId : Option UInt8
  deriving DecidableEq, Repr

/-- A failed call, with the child's process id if it was started. -/
structure EnclaveError where
  pid : Option Nat
  message : String
  deriving DecidableEq, Repr

def EnclaveError.display (e : EnclaveError) : String :=
  match e.pid with
  | some pid => "enclave(pid " ++ toString pid ++ "): " ++ e.message
  | none => "enclave: " ++ e.message

/-- What becomes of a child. -/
inductive ChildRun where
  /-- It was not started, or it stopped before the request was handled. -/
  | failed (e : EnclaveError)
  /-- It handled the request; the answer was not received, or not accepted. -/
  | lost (e : EnclaveError)
  | answered (pid : Nat)
  deriving DecidableEq, Repr

/-! ## The child -/

def decodePayload (req : EnclaveRequest) : Except String Bytes :=
  match Text.hexDecode (Text.trim (Text.stripHex req.payloadHex)) with
  | .error e => .error (coded .param ("invalid payload hex: " ++ e.message))
  | .ok bytes =>
    if bytes.length > enclaveMaxPayloadBytes then .error (coded .param "payload exceeds enclave limit")
    else if bytes = [] then .error (coded .param "empty payload")
    else .ok bytes

theorem decodePayload_ok {req : EnclaveRequest} {b : Bytes} (h : decodePayload req = .ok b) :
    Text.hexDecode (Text.trim (Text.stripHex req.payloadHex)) = .ok b := by
  unfold decodePayload at h
  split at h
  · cases h
  · split_ifs at h
    rename_i hd _ _
    cases h
    exact hd

section Child

variable (env : WalletEnv)

def loadChildKey (req : EnclaveRequest) : Except String (Bytes × ChainSigner) := do
  let chain ← (parseChain env.chains req.chainId).mapError fun e => coded .param ("invalid chain: " ++ e)
  let raw ← (Text.hexDecode (Text.trim req.credentialHex)).mapError fun e =>
    coded .param ("invalid credential hex: " ++ e.message)
  if raw.length > 1024 then .error (coded .param "credential oversized")
  else do
    let key ← (env.decryptSigningKey req.walletId chain.chainType raw (some req.index)).mapError fun e =>
      coded .decrypt ("wallet decrypt failed: " ++ e.message)
    return (key, env.signerFor chain)

/-- A signature made by the child. -/
structure ChildSignature where
  txBytes : Bytes
  signer : ChainSigner
  output : SignOutput

def childSign (req : EnclaveRequest) : Outcome String ChildSignature := do
  req.validate.mapError .err
  let txBytes ← (decodePayload req).mapError .err
  let (key, signer) ← (loadChildKey env req).mapError .err
  let signable ← (signer.extractSignableBytes txBytes).mapErr fun e =>
    coded .param ("extract signable failed: " ++ e.message)
  let output ← (signer.signTransaction key signable).mapErr fun e =>
    coded .internal ("signing failed: " ++ e.message)
  return ⟨txBytes, signer, output⟩

def childEncode (s : ChildSignature) : Outcome String EnclaveResponse := do
  let signedTx ← (s.signer.encodeSignedTransaction s.txBytes s.output.signature).mapErr fun e =>
    coded .internal ("encode signed tx failed: " ++ e.message)
  return ⟨Text.hexEncode signedTx, s.output.recoveryId⟩

end Child

end OneCipher.KeyAgent
