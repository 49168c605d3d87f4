import OneCipher.Wallet.KeyOps

/-!
# OneCipher.Wallet.Ops — signing with a credential

`oc-wallet/src/ops.rs`: a credential is the owner's passphrase, which opens the wallet directly, or an
API token, which goes through the key's policies.  The daemon signs EIP-7702 authorizations through
`signAuthorization`.
-/

namespace OneCipher.Wallet

open Core Signer

/-! ## Error texts -/

def OcError.message : OcError → String
  | .walletNotFound id => "wallet not found: " ++ id
  | .chainNotSupported chain => "chain not supported: " ++ chain
  | .invalidPassphrase => "invalid passphrase"
  | .invalidInput m => "invalid input: " ++ m
  | .caipParseError m => "CAIP parse error: " ++ m
  | .policyDenied _ reason => "policy denied: " ++ reason
  | .apiKeyNotFound => "API key not found"
  | .apiKeyExpired id => "API key expired: " ++ id

def OcWalletError.message : OcWalletError → String
  | .walletNotFound id => "wallet not found: '" ++ id ++ "'"
  | .ambiguousWallet name count => "ambiguous wallet name '" ++ name ++ "' matches " ++ toString count ++
      " wallets; use the wallet ID instead"
  | .walletNameExists name => "wallet name already exists: '" ++ name ++ "'"
  | .invalidInput m => "invalid input: " ++ m
  | .broadcastFailed m => "broadcast failed: " ++ m
  | .crypto m | .signer m | .mnemonic m | .hd m => m
  | .core e => e.message
  | .io m => "I/O error: " ++ m
  | .json m => "JSON error: " ++ m
  | .signatureInvalid path reason => "policy signature invalid for '" ++ path ++ "': " ++ reason

/-! ## Requests -/

section Requests

variable (env : WalletEnv)

/-- Sign a hash with a passphrase, or with a token whose policies see `policyBytes`. -/
def signHashWithCredential (wallet : String) (chain : Chain) (policyBytes hashBytes : Bytes)
    (credential : String) (index : Option Nat) : WalletCall SignResult :=
  if (env.signerFor chain).isSecp256k1 = false then
    .error (.err (.invalidInput "raw hash signing is only supported for secp256k1-backed chains"))
  else if hashBytes.length ≠ 32 then
    .error (.err (.invalidInput ("raw hash signing requires exactly 32 bytes, got " ++ toString hashBytes.length)))
  else if WalletEnv.isToken credential then
    signHashWithApiKey env credential wallet chain policyBytes hashBytes index
  else do
    let key ← fromResult (env.decryptSigningKey wallet chain.chainType (Text.utf8 credential) index)
    let output ← fromSigner ((env.signerFor chain).sign key hashBytes)
    return SignResult.of output

def authorizationChain (chain : Chain) : WalletCall String :=
  if chain.chainType ≠ .evm then
    .error (.err (.invalidInput "EIP-7702 authorization signing is only supported for EVM chains"))
  else Outcome.okOr (.invalidInput ("EVM chain '" ++ chain.chainId ++ "' is missing an eip155 reference"))
    (Text.stripPrefix "eip155:" chain.chainId)

def signAuthorization (wallet chain address nonce credential : String) (index : Option Nat) :
    WalletCall SignResult := do
  let chain ← fromResult ((parseChain env.chains chain).mapError .invalidInput)
  let chainId ← authorizationChain chain
  let payload ← fromSigner (EvmSigner.authorizationPayload chainId address nonce)
  let hash ← fromSigner (EvmSigner.authorizationHash env.evm chainId address nonce)
  signHashWithCredential env wallet chain payload hash credential index

end Requests

end OneCipher.Wallet
