import OneCipher.Signer.EvmTx
import OneCipher.Wallet.Vault

/-!
# OneCipher.Wallet.KeyOps — signing with an API key

`oc-wallet/src/key_ops.rs`.  A token selects an API key file; the key's policies are loaded, each with its
signature check, and evaluated; then the key's copy of the wallet secret is decrypted and used.  Three requests are
modelled: a transaction, a raw hash, and a typed-data document.
-/

namespace OneCipher.Wallet

open Core Signer Result Outcome

structure SignResult where
  signature : String
  recoveryId : Option UInt8
  deriving DecidableEq, Repr

def SignResult.of (output : SignOutput) : SignResult := ⟨Text.hexEncode output.signature, output.recoveryId⟩

abbrev WalletCall := Outcome OcWalletError

def fromSigner {α : Type} (x : Signed α) : WalletCall α := x.mapErr fun e => .signer e.message

def fromResult {α : Type} (x : Except OcWalletError α) : WalletCall α := x.mapError .err

/-! ## Checks shared by the requests -/

section Requests

variable (env : WalletEnv)

variable (key : ApiKeyFile) (token : String)

def checkExpiry : Except OcWalletError Unit :=
  match key.expiresAt with
  | none => .ok ()
  | some expires =>
    match env.parseTimestamp expires with
    | .error e => .error (.core (.invalidInput ("invalid expires_at timestamp '" ++ expires ++ "': " ++ e)))
    | .ok exp => if exp < env.expiryNow then .error (.core (.apiKeyExpired key.id)) else .ok ()

def openKey (walletNameOrId : String) : Except OcWalletError (ApiKeyFile × EncryptedWallet) := do
  let key ← env.loadApiKeyByTokenHash (env.hashToken token)
  checkExpiry env key
  let wallet ← env.loadWalletByNameOrId walletNameOrId
  if wallet.id ∉ key.walletIds then
    throw (.invalidInput ("API key '" ++ key.name ++ "' does not have access to wallet '" ++ wallet.id ++ "'"))
  return (key, wallet)

/-- Every policy of the key, each through `load_policy`. -/
def loadPoliciesForKey : Except OcWalletError (List Policy) :=
  key.policyIds.mapM fun id => do return (← env.policyVault.loadPolicy id).policy

def checkPolicies (policies : List Policy) (ctx : PolicyContext) : Except OcWalletError Unit :=
  let result := evaluatePolicies env.policyHost policies ctx
  if result.allow then .ok ()
  else .error (.core (.policyDenied (result.policyId.getD "") (result.reason.getD "denied")))

def decryptKeyFromApiKey (wallet : EncryptedWallet) (token : String) (chainType : ChainType) (index : Option Nat) :
    Except OcWalletError Bytes := do
  let envelopeValue ← match key.walletSecrets.lookup wallet.id with
    | some v => .ok v
    | none => .error (.invalidInput ("API key has no encrypted secret for wallet " ++ wallet.id))
  let envelope ← (env.parseEnvelope envelopeValue).mapError .json
  let identity ← (env.tokenIdentity token).mapError .crypto
  if !WalletEnv.ctEq (env.toRecipientString identity) key.recipient then
    throw (.invalidInput "API token does not match key recipient")
  let secret ← (env.decryptWithIdentity envelope identity).mapError .crypto
  env.secretToSigningKey secret wallet.keyType chainType index

/-! ## Transactions and hashes -/

def rawContext (wallet : EncryptedWallet) (chain : Chain) (rawHex : String) : PolicyContext where
  chainId := chain.chainId
  walletId := wallet.id
  apiKeyId := key.id
  transaction := ⟨none, none, rawHex, none⟩
  spending := ⟨"0", env.today⟩
  timestamp := env.nowText
  typedData := none

def enforcePolicyAndDecryptKey (walletNameOrId : String) (chain : Chain) (rawHex : String) (index : Option Nat) :
    Except OcWalletError Bytes := do
  let (key, wallet) ← openKey env token walletNameOrId
  let policies ← loadPoliciesForKey env key
  checkPolicies env policies (rawContext env key wallet chain rawHex)
  decryptKeyFromApiKey env key wallet token chain.chainType index

/-- Sign a hash; policy sees `policyBytes`. -/
def signHashWithApiKey (walletNameOrId : String) (chain : Chain) (policyBytes hash : Bytes) (index : Option Nat) :
    WalletCall SignResult := do
  let key ← fromResult
    (enforcePolicyAndDecryptKey env token walletNameOrId chain (Text.hexEncode policyBytes) index)
  let output ← fromSigner ((env.signerFor chain).sign key hash)
  return SignResult.of output

/-! ## Typed data -/

def parseDomainChainId (v : Json) : Option Nat :=
  (v.asStr.bind (Text.parseUnsigned 10 (2 ^ 64))).orElse fun _ => v.asU64

def domainChainId (data : TypedData) : Option Nat := (data.domain.get "chainId").bind parseDomainChainId

def checkDomainChain (data : TypedData) (chain : Chain) : Except OcWalletError Unit :=
  match domainChainId data with
  | none => .ok ()
  | some id => do
    let expected ← (chain.evmChainIdU64 env.chains).mapError .invalidInput
    if expected ≠ id then
      throw (.invalidInput ("EIP-712 domain chainId (" ++ toString id ++
        ") does not match requested chain (" ++ chain.chainId ++ ")"))

def typedDataContext (wallet : EncryptedWallet) (chain : Chain) (data : TypedData) (json : String) : PolicyContext where
  chainId := chain.chainId
  walletId := wallet.id
  apiKeyId := key.id
  transaction := ⟨none, none, "", none⟩
  spending := ⟨"0", env.today⟩
  timestamp := env.nowText
  typedData := some
    { verifyingContract := data.domain.getStr "verifyingContract"
      domainChainId := domainChainId data
      primaryType := data.primaryType
      domainName := data.domain.getStr "name"
      domainVersion := data.domain.getStr "version"
      rawJson := json }

def signTypedDataWithApiKey (walletNameOrId : String) (chain : Chain) (json : String) (index : Option Nat) :
    WalletCall SignResult :=
  if chain.chainType ≠ .evm then
    .error (.err (.invalidInput "EIP-712 typed data signing is only supported for EVM chains"))
  else do
    let (key, wallet) ← fromResult (openKey env token walletNameOrId)
    let data ← fromSigner (parseTypedData env.parseJson json)
    fromResult (checkDomainChain env data chain)
    let policies ← fromResult (loadPoliciesForKey env key)
    fromResult (checkPolicies env policies (typedDataContext env key wallet chain data json))
    let secret ← fromResult (decryptKeyFromApiKey env key wallet token chain.chainType index)
    let output ← fromSigner (EvmSigner.signTypedData env.evm env.parseJson secret json)
    return SignResult.of output

end Requests

/-! ## Results -/

theorem fromResult_eq_ok {α : Type} {x : Except OcWalletError α} {a : α} : fromResult x = .ok a ↔ x = .ok a :=
  mapError_eq_ok

theorem fromSigner_eq_ok {α : Type} {x : Signed α} {a : α} : fromSigner x = .ok a ↔ x = .ok a := mapErr_eq_ok

variable {data : TypedData} {chain : Chain} {walletNameOrId : String} {env : WalletEnv}

def PolicyRule.aboutTransfer : PolicyRule → Bool
  | .maxAmount _ => true
  | .allowedAddresses _ => true
  | _ => false

def Policy.withoutTransferRules (p : Policy) : Policy :=
  { p with rules := p.rules.filter fun rule => !PolicyRule.aboutTransfer rule }

/-- Every amount limit is a number. -/
def LimitsReadable (p : Policy) : Prop :=
  ∀ limit, PolicyRule.maxAmount limit ∈ p.rules → (parseU128 (Text.trim limit)).isSome = true

/-- The transaction keeps to a rule about its value or its recipient. -/
def RuleKept (t : EvmTx) : PolicyRule → Prop
  | .maxAmount limit => ∃ max, parseU128 (Text.trim limit) = some max ∧ t.value.toNat ≤ max
  | .allowedAddresses addresses =>
    ∀ a, t.recipient = some a → addresses.any (addressEq · (Text.hexText a.1)) = true
  | _ => True

/-- The transaction keeps to every amount limit and every address list of the policies. -/
def WithinLimits (policies : List Policy) (t : EvmTx) : Prop := ∀ p ∈ policies, ∀ rule ∈ p.rules, RuleKept t rule

/-- The request passes everything that is checked: the key is unexpired and has the wallet in scope,
the amount limits are numbers, the policies without their amount and address rules allow the hex,
and the key's copy of the secret yields a valid signing key. -/
def Admits (env : WalletEnv) (token walletNameOrId : String) (chain : Chain) (txBytes : Bytes)
    (index : Option Nat) (policies : List Policy) : Prop :=
  ∃ key wallet secret, openKey env token walletNameOrId = .ok (key, wallet) ∧
    (∀ p ∈ policies, LimitsReadable p ∧ (evaluateOne env.policyHost (Policy.withoutTransferRules p)
      (rawContext env key wallet chain (Text.hexEncode txBytes))).allow = true) ∧
    decryptKeyFromApiKey env key wallet token chain.chainType index = .ok secret ∧
    env.evm.validKey secret = true

def plainCrypto (keccak : Bytes → Bytes) (hk : ∀ b, (keccak b).length = 32) : EvmCrypto where
  keccak256 := keccak
  length_keccak256 := hk
  validKey _ := true
  publicKey _ := []
  signPrehash _ _ := ⟨List.replicate 32 1, List.replicate 32 1, 0, rfl, rfl⟩

def zeroHash (_ : Bytes) : Bytes := List.replicate 32 0

theorem length_zeroHash (b : Bytes) : (zeroHash b).length = 32 := rfl

theorem length_replicate_aa : (List.replicate 20 (0xaa : UInt8)).length = 20 := rfl

def noSigner : ChainSigner where
  isSecp256k1 := false
  extractSignableBytes _ := .error (.err (.unsupported ""))
  sign _ _ := .error (.err (.unsupported ""))
  signTransaction _ _ := .error (.err (.unsupported ""))
  encodeSignedTransaction _ _ := .error (.err (.unsupported ""))

def plainChains : ChainHost where
  toLowercase := id
  parseChainId s := match splitColon s with
    | some p => .ok p
    | none => .error "invalid"
  interns _ := true

def bareHost : PolicyHost where
  parseRfc3339 _ := none
  toLowercase := id
  run _ _ _ := ⟨some "not found", none, .error "not started"⟩
  parseResult _ := .error "no output"

def agentWallet : EncryptedWallet := ⟨"w", "main", "2026-01-01", .null, .privateKey⟩

def agentKey (policyIds : List String) : ApiKeyFile where
  id := "k"
  name := "agent"
  tokenHash := ""
  recipient := ""
  createdAt := "2026-01-01"
  walletIds := ["w"]
  policyIds := policyIds
  expiresAt := none
  walletSecrets := AList.insert "w" .null ∅

/-- A vault with one wallet, one API key, and one policy `cap`. -/
def agentEnv (evm : EvmCrypto) (parseJson : String → Except String Json) (policyIds : List String)
    (policy : Policy) : WalletEnv where
  evm := evm
  others _ := noSigner
  chains := plainChains
  policyVault := ⟨.holding ["cap.json"], "policies", .missing, fun _ => .ok policy, fun _ _ _ => .error "invalid"⟩
  policyHost := bareHost
  wallets := .holding ["w.json"]
  walletsSecure := .ok ()
  parseWallet _ := .ok agentWallet
  keys := .holding ["k.json"]
  parseApiKey _ := .ok (agentKey policyIds)
  parseJson := parseJson
  sha256 _ := []
  parseEnvelope _ := .ok []
  tokenIdentity _ := .ok []
  toRecipientString _ := ""
  decryptWithIdentity _ _ := .ok []
  decryptWithPassphrase _ _ := .ok []
  secretToSigningKey _ _ _ _ := .ok []
  parseTimestamp _ := .error "invalid"
  expiryNow := 0
  today := "2026-01-01"
  nowText := "2026-01-01T00:00:00Z"

def capped : Policy := ⟨"cap", "Cap", 1, "2026-01-01", [.maxAmount "100"], none, none, .deny⟩

def transferOf (value : U256) : EvmTx :=
  ⟨.legacy 1 none, 0, 0, some ⟨List.replicate 20 0xaa, length_replicate_aa⟩, value, []⟩

def mainnet : Chain := ⟨"ethereum", .evm, "eip155:1"⟩

/-- The hasher puts the domain's chain id `v` into the digest as the integer `c`: the domain type
declares it with an integer type. -/
structure HashesChainId (keccak : Bytes → Bytes) (data : TypedData) (v : Json) (c : Nat) : Prop where
  carried : data.domain.get "chainId" = some v
  encoded : ∃ fields f word, data.types.lookup "EIP712Domain" = some fields ∧ f ∈ fields ∧
    f.name = "chainId" ∧ IsIntegerType f.typeName ∧ f.typeName.toList.getLast? ≠ some ']' ∧
    data.types.lookup f.typeName = none ∧ encodeAtomic keccak f.typeName v = .ok word ∧ word.beNat = c

theorem parseDomainChainId_eq_some {v : Json} {n : Nat} : parseDomainChainId v = some n ↔ Denotes v n := by
  unfold parseDomainChainId Denotes
  rcases hs : v.asStr with _ | s
  · simp
  · have hread : (∃ t, some s = some t ∧ Text.parseUnsigned 10 (2 ^ 64) t = some n) ↔
        Text.parseUnsigned 10 (2 ^ 64) s = some n :=
      ⟨fun ⟨_, ht, hn⟩ => Option.some.inj ht ▸ hn, fun hn => ⟨s, rfl, hn⟩⟩
    rw [hread, Option.bind_some, asU64_of_asStr hs]
    cases Text.parseUnsigned 10 (2 ^ 64) s <;> simp

theorem HashesChainId.eq {keccak : Bytes → Bytes} {v : Json} {c n : Nat} (h : HashesChainId keccak data v c)
    (hn : parseDomainChainId v = some n) : c = n := by
  obtain ⟨fields, f, word, -, -, -, hint, -, -, henc, rfl⟩ := h.encoded
  exact encodeAtomic_denotes hint (parseDomainChainId_eq_some.mp hn) henc

theorem checkDomainChain_ok {n N : Nat} (hn : domainChainId data = some n)
    (hN : chain.evmChainIdU64 env.chains = .ok N) (h : checkDomainChain env data chain = .ok ()) : n = N := by
  simp only [checkDomainChain, hn] at h
  obtain ⟨expected, he, h⟩ := bind_eq_ok.mp h
  rw [hN] at he
  cases he
  by_contra hne
  rw [if_pos (Ne.symm hne)] at h
  cases h

theorem signTypedData_checked {token json : String} {index : Option Nat} {r : SignResult} {doc : Json}
    (hdoc : env.parseJson json = .ok doc) (hdata : readTypedData doc = .ok data)
    (h : signTypedDataWithApiKey env token walletNameOrId chain json index = .ok r) :
    checkDomainChain env data chain = .ok () := by
  obtain ⟨-, h⟩ := guard_eq_ok.mp h
  obtain ⟨⟨key, wallet⟩, -, h⟩ := bind_eq_ok.mp h
  obtain ⟨data', hd, h⟩ := bind_eq_ok.mp h
  obtain ⟨⟨⟩, hcheck, -⟩ := bind_eq_ok.mp h
  have hd' := fromSigner_eq_ok.mp hd
  simp only [parseTypedData, hdoc, hdata] at hd'
  cases hd'
  exact fromResult_eq_ok.mp hcheck

theorem signTypedData_isOk {c : EvmCrypto} {parseJson : String → Except String Json} {key hash : Bytes}
    {json : String} (hdata : parseTypedData parseJson json = .ok data)
    (hhash : hashTypedData c.keccak256 data = .ok hash) (hkey : c.validKey key = true) :
    ∃ out, EvmSigner.signTypedData c parseJson key json = .ok out := by
  have hlen : hash.length = 32 := by
    obtain ⟨_, _, h⟩ := bind_eq_ok.mp hhash
    obtain ⟨_, _, h⟩ := bind_eq_ok.mp h
    cases h
    exact c.length_keccak256 _
  obtain ⟨out, hout⟩ : ∃ out, EvmSigner.sign c key hash = .ok out := by
    rw [EvmSigner.sign, if_neg (not_not.mpr hlen), EvmSigner.signingKey, if_pos hkey]
    exact ⟨_, rfl⟩
  rcases hrid : out.recoveryId with _ | rid
  · exact ⟨out, bind_ok hdata (bind_ok hhash (bind_ok hout (by rw [hrid]; rfl)))⟩
  · exact ⟨_, bind_ok hdata (bind_ok hhash (bind_ok hout (by rw [hrid]; rfl)))⟩

theorem signTypedData_unchecked {keccak : Bytes → Bytes} (hk : ∀ b, (keccak b).length = 32) {json : String}
    {doc : Json} {hash : Bytes} (hdata : readTypedData doc = .ok data) (hhash : hashTypedData keccak data = .ok hash)
    (hnone : domainChainId data = none) (hchain : chain.chainType = .evm) :
    ∃ r, signTypedDataWithApiKey (agentEnv (plainCrypto keccak hk) (fun _ => .ok doc) [] capped) "oc_key_a" "w"
      chain json none = .ok r := by
  have hparse : parseTypedData (fun _ => .ok doc) json = .ok data := by rw [parseTypedData]; exact hdata
  obtain ⟨out, hout⟩ : ∃ out, EvmSigner.signTypedData (plainCrypto keccak hk) (fun _ => .ok doc) [] json = .ok out :=
    signTypedData_isOk hparse hhash rfl
  refine ⟨SignResult.of out, ?_⟩
  rw [signTypedDataWithApiKey, if_neg (not_not.mpr hchain)]
  refine bind_eq_ok.mpr ⟨(agentKey [], agentWallet), rfl, ?_⟩
  refine bind_ok (fromSigner_eq_ok.mpr hparse) ?_
  refine bind_eq_ok.mpr ⟨(), by rw [checkDomainChain, hnone]; rfl, ?_⟩
  refine bind_eq_ok.mpr ⟨[], rfl, ?_⟩
  refine bind_eq_ok.mpr ⟨(), rfl, ?_⟩
  refine bind_eq_ok.mpr ⟨[], rfl, ?_⟩
  exact bind_ok (fromSigner_eq_ok.mpr hout) rfl

def polygon : Chain := ⟨"polygon", .evm, "eip155:137"⟩

/-- **When a signed document is for the requested chain.**  For a document the hasher accepts, with
chain id `c` in its digest: every signature for `eip155:N`, by any key in any vault, has `c = N` if and
only if the chain id is a JSON number or a decimal string of at most 64 bits. -/
theorem typedData_chain_iff (keccak : Bytes → Bytes) (hk : ∀ b, (keccak b).length = 32) (json : String)
    (doc : Json) (data : TypedData) (v : Json) (c : Nat) (hash : Bytes) (hdata : readTypedData doc = .ok data)
    (hhash : hashTypedData keccak data = .ok hash) (hc : HashesChainId keccak data v c) :
    (∀ (env : WalletEnv) (token walletNameOrId : String) (chain : Chain) (index : Option Nat) (N : Nat)
        (r : SignResult), env.evm.keccak256 = keccak → env.parseJson json = .ok doc →
        chain.evmChainIdU64 env.chains = .ok N →
        signTypedDataWithApiKey env token walletNameOrId chain json index = .ok r → c = N) ↔
      ∃ n, Denotes v n := by
  have hdom : domainChainId data = parseDomainChainId v := by rw [domainChainId, hc.carried, Option.bind_some]
  constructor
  · intro h
    by_contra hnot
    have hnone : parseDomainChainId v = none := by
      rw [Option.eq_none_iff_forall_ne_some]
      exact fun n hn => hnot ⟨n, parseDomainChainId_eq_some.mp hn⟩
    -- one of two chains is not the document's
    obtain ⟨chain, N, hchain, hN, hne⟩ : ∃ (chain : Chain) (N : Nat), chain.chainType = .evm ∧
        chain.evmChainIdU64 plainChains = .ok N ∧ c ≠ N := by
      by_cases h1 : c = 1
      · exact ⟨polygon, 137, rfl, rfl, by omega⟩
      · exact ⟨mainnet, 1, rfl, rfl, h1⟩
    obtain ⟨r, hr⟩ := signTypedData_unchecked hk hdata hhash (hdom.trans hnone) hchain
    exact hne (h _ _ _ _ _ _ _ rfl rfl hN hr)
  · rintro ⟨n, hn⟩ env token walletNameOrId chain index N r _ hdoc hN hr
    rw [← parseDomainChainId_eq_some] at hn
    have hcn := hc.eq hn
    have hnN := checkDomainChain_ok (hdom.trans hn) hN (signTypedData_checked hdoc hdata hr)
    exact hcn.trans hnN

/-! ### A hexadecimal chain id -/

def domainDoc (chainId : Json) : Json :=
  .obj [("types", .obj [("EIP712Domain", .arr [.obj [("name", .str "chainId"), ("type", .str "uint256")]])]),
    ("primaryType", .str "EIP712Domain"), ("domain", .obj [("chainId", chainId)]),
    ("message", .obj [("chainId", chainId)])]

def domainData (chainId : Json) : TypedData :=
  ⟨[("EIP712Domain", [⟨"chainId", "uint256"⟩])], "EIP712Domain", .obj [("chainId", chainId)],
    .obj [("chainId", chainId)]⟩

theorem hashesChainId_domainData {v : Json} {word : Bytes} (h : encodeAtomic zeroHash "uint256" v = .ok word) :
    HashesChainId zeroHash (domainData v) v word.beNat where
  carried := rfl
  encoded := ⟨[⟨"chainId", "uint256"⟩], ⟨"chainId", "uint256"⟩, word, rfl, List.mem_singleton.mpr rfl, rfl,
    .inl (by decide), by decide, rfl, h, rfl⟩

def onePadded : Bytes := List.replicate 31 0 ++ [1]

def chainOne : Json := .num (.posInt 1)

theorem typedData_chain_number :
    readTypedData (domainDoc chainOne) = .ok (domainData chainOne) ∧
    hashTypedData zeroHash (domainData chainOne) = .ok (zeroHash []) ∧
    HashesChainId zeroHash (domainData chainOne) chainOne 1 ∧
    ((∀ (env : WalletEnv) (token walletNameOrId : String) (chain : Chain) (index : Option Nat) (N : Nat)
        (r : SignResult), env.evm.keccak256 = zeroHash → env.parseJson "doc" = .ok (domainDoc chainOne) →
        chain.evmChainIdU64 env.chains = .ok N →
        signTypedDataWithApiKey env token walletNameOrId chain "doc" index = .ok r → 1 = N) ↔
      ∃ n, Denotes chainOne n) := by
  have hread : readTypedData (domainDoc chainOne) = .ok (domainData chainOne) := rfl
  have hhash : hashTypedData zeroHash (domainData chainOne) = .ok (zeroHash []) :=
    eq_ok_iff_toOption.mpr (by decide +kernel)
  have hc : HashesChainId zeroHash (domainData chainOne) chainOne 1 :=
    hashesChainId_domainData (eq_ok_iff_toOption.mpr (by decide +kernel) :
      encodeAtomic zeroHash "uint256" chainOne = .ok onePadded)
  exact ⟨hread, hhash, hc,
    typedData_chain_iff zeroHash (fun _ => rfl) "doc" (domainDoc chainOne) _ chainOne 1 _ hread hhash hc⟩

/-- **A document for another chain is signed.**  The domain's chain id is the string `0x01`: the hasher
reads 1, the check reads nothing, and the document is signed for `eip155:137`. -/
theorem signs_foreign_chain :
    HashesChainId zeroHash (domainData (.str "0x01")) (.str "0x01") 1 ∧
    readTypedData (domainDoc (.str "0x01")) = .ok (domainData (.str "0x01")) ∧
    polygon.evmChainIdU64 plainChains = .ok 137 ∧
    ∃ r, signTypedDataWithApiKey
      (agentEnv (plainCrypto zeroHash fun _ => rfl) (fun _ => .ok (domainDoc (.str "0x01"))) [] capped)
      "oc_key_a" "w" polygon "doc" none = .ok r :=
  ⟨hashesChainId_domainData (eq_ok_iff_toOption.mpr (by decide +kernel) :
      encodeAtomic zeroHash "uint256" (.str "0x01") = .ok onePadded), rfl, rfl,
    exists_ok_iff.mpr (by decide +kernel)⟩

end OneCipher.Wallet
