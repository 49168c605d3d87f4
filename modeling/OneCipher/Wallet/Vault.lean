import OneCipher.Signer.Eip712
import OneCipher.Wallet.PolicyStore

/-!
# OneCipher.Wallet.Vault — wallet files, API key files and the wallet's surroundings

The parts of `oc-vault/src/vault.rs` and `oc-wallet/src/key_store.rs` that signing uses.  Wallets and
API keys are looked up in lenient directory listings, newest first.  `WalletEnv` holds what a request
reads of its surroundings: the directories with their JSON readers, the age encryption, the key
derivation, the clock, and the signers.
-/

namespace OneCipher.Wallet

open Core Signer

inductive KeyType where
  | mnemonic
  | privateKey
  deriving DecidableEq, Repr

/-- A wallet file, as far as signing reads it. -/
structure EncryptedWallet where
  id : String
  name : String
  createdAt : String
  crypto : Json
  keyType : KeyType

/-- An API key file, as far as signing reads it. -/
structure ApiKeyFile where
  id : String
  name : String
  tokenHash : String
  recipient : String
  createdAt : String
  walletIds : List String
  policyIds : List String
  expiresAt : Option String
  walletSecrets : Store String Json

structure WalletEnv where
  evm : EvmCrypto
  others : ChainType → ChainSigner
  chains : ChainHost
  policyVault : PolicyVault
  policyHost : PolicyHost
  wallets : Directory
  walletsSecure : Except OcWalletError Unit
  parseWallet : Bytes → Except String EncryptedWallet
  keys : Directory
  parseApiKey : Bytes → Except String ApiKeyFile
  parseJson : String → Except String Json
  sha256 : Bytes → Bytes
  parseEnvelope : Json → Except String Bytes
  tokenIdentity : String → Except String Bytes
  toRecipientString : Bytes → String
  decryptWithIdentity : Bytes → Bytes → Except String Bytes
  decryptWithPassphrase : Bytes → Bytes → Except String Bytes
  secretToSigningKey : Bytes → KeyType → ChainType → Option Nat → Except OcWalletError Bytes
  parseTimestamp : String → Except String Int
  expiryNow : Int
  today : String
  nowText : String

namespace WalletEnv

variable (env : WalletEnv)

/-! ## Wallets -/

def listEncryptedWallets : Except OcWalletError (List EncryptedWallet) :=
  match env.wallets.create with
  | some e => .error (.io e)
  | none => do
    env.walletsSecure
    (env.wallets.listJson env.parseWallet).map (List.insertionSort fun a b => b.createdAt ≤ a.createdAt)

def findWallet (wallets : List EncryptedWallet) (nameOrId : String) : Except OcWalletError EncryptedWallet :=
  match wallets.find? (·.id == nameOrId) with
  | some w => .ok w
  | none =>
    match wallets.filter (·.name == nameOrId) with
    | [] => .error (.walletNotFound nameOrId)
    | [w] => .ok w
    | ws => .error (.ambiguousWallet nameOrId ws.length)

def loadWalletByNameOrId (nameOrId : String) : Except OcWalletError EncryptedWallet := do
  findWallet (← env.listEncryptedWallets) nameOrId

def decryptSigningKey (nameOrId : String) (chainType : ChainType) (passphrase : Bytes) (index : Option Nat) :
    Except OcWalletError Bytes := do
  let wallet ← env.loadWalletByNameOrId nameOrId
  let envelope ← (env.parseEnvelope wallet.crypto).mapError .json
  let secret ← (env.decryptWithPassphrase envelope passphrase).mapError .crypto
  env.secretToSigningKey secret wallet.keyType chainType index

/-! ## API keys -/

def tokenPrefix : String := "oc_key_"

/-- `Credential::parse(..).is_token()`. -/
def isToken (credential : String) : Bool := Text.startsWith tokenPrefix credential

def hashToken (token : String) : String := Text.hexEncode (env.sha256 (Text.utf8 token))

def ctEq (a b : String) : Bool := Text.utf8 a == Text.utf8 b

def listApiKeys : Except OcWalletError (List ApiKeyFile) :=
  (env.keys.listJson env.parseApiKey).map (List.insertionSort fun a b => b.createdAt ≤ a.createdAt)

def loadApiKeyByTokenHash (tokenHash : String) : Except OcWalletError ApiKeyFile := do
  let keys ← env.listApiKeys
  match keys.find? fun k => ctEq k.tokenHash tokenHash with
  | some key => .ok key
  | none => .error (.core .apiKeyNotFound)

def signerFor (chain : Chain) : ChainSigner := signerForChain env.evm env.others chain.chainType

end WalletEnv

end OneCipher.Wallet
