import OneCipher.KeyAgent.Enclave
import OneCipher.Ocwp.PolicyGate
import OneCipher.Ocwp.TxSummary

/-!
# OneCipher.Ocwp.Resolve — from a `transaction` parameter to unsigned bytes

`resolve_transaction` in `wallet_rpc/ocwp/handlers.rs` and what it calls.  A raw transaction passes through with
the summary the policy reader makes of it.  A structured one is checked field by field, missing fields are asked
from a node, and the envelope is built; for EIP-7702 the authorizations are signed on the way, so resolving can use
the wallet key.
-/

namespace OneCipher.Ocwp

open Prog Core Signer Wallet KeyAgent Result List Outcome
open Outcome (okOr)
open Json (asStr)
open Text (stripPrefix parseUnsigned hexEncode)
open Rlp (Whole)

/-! ## Surroundings -/

/-- What comes back from a node. -/
inductive RpcReply where
  | unreachable
  | malformed
  | json (document : Json)

structure Node where
  rpcUrl : String → Option String
  post : Nat → String → Json → RpcReply

structure EnclaveHost where
  enabled : Bool
  requestId : Nat → String
  run : Nat → ChildRun

/-- What signing handlers reach besides the daemon's own state. -/
structure SignHost where
  wallet : WalletEnv
  gate : GateHost
  node : Node
  enclave : EnclaveHost
  timestamp : Nat → String

/-! ## Request fields -/

def field (obj : List (String × Json)) (keys : List String) : Option Json :=
  keys.findSome? fun key => (obj.lookup key).filter fun value => !value.isNull

def fieldStr (obj : List (String × Json)) (keys : List String) : Option String := (field obj keys).bind asStr

/-- A decimal or `0x`-hex quantity of at most 128 bits. -/
def parseQuantity (value fieldName : String) : Outcome OcwpError Nat :=
  okOr (.invalidParams ("invalid " ++ fieldName ++ " quantity"))
    (match stripPrefix "0x" (Text.trim value) with
      | some hexText => parseUnsigned 16 (2 ^ 128) hexText
      | none => parseUnsigned 10 (2 ^ 128) (Text.trim value))

def fieldQuantity (obj : List (String × Json)) (keys : List String) (fieldName : String) :
    Outcome OcwpError (Option Nat) :=
  match field obj keys with
  | none => .ok none
  | some (.str text) => (parseQuantity text fieldName).map some
  | some (.num number) =>
    (okOr (.invalidParams ("invalid " ++ fieldName ++ " quantity")) number.asU64).map some
  | some _ => .error (.err (.invalidParams ("invalid " ++ fieldName ++ " quantity")))

/-- The digits of a chain id and their radix: CAIP-2 is decimal, a `0x` quantity is hex. -/
def chainDigits (trimmed : String) : Option (String × Nat) :=
  match stripPrefix "eip155:" trimmed with
  | some rest => some (rest, 10)
  | none => ((stripPrefix "0x" trimmed).orElse fun _ => stripPrefix "0X" trimmed).map (·, 16)

def isHexDigit (c : Char) : Bool := (Text.toDigit 16 c).isSome

def normalizeChainReference (value : String) : Outcome OcwpError String :=
  okOr
    (.invalidParams ("invalid chainId '" ++ value ++ "' (expected 0x-prefixed hex or eip155:<decimal id>)"))
    ((chainDigits (Text.trim value)).bind fun (numeric, radix) =>
      if numeric = "" ∨ !numeric.toList.all (if radix = 16 then isHexDigit else Char.isDigit) then none
      else (parseUnsigned radix (2 ^ 64) numeric).map fun n => "eip155:" ++ toString n)

/-! ## Envelope kinds -/

inductive TxKind where
  | legacy | eip2930 | eip1559 | eip7702
  deriving DecidableEq, Repr

namespace TxKind

def typeByte : TxKind → UInt8
  | legacy => 0x00
  | eip2930 => 0x01
  | eip1559 => 0x02
  | eip7702 => 0x04

def isCapped : TxKind → Bool
  | eip1559 | eip7702 => true
  | _ => false

def label : TxKind → String
  | legacy => "0x00 (legacy)"
  | eip2930 => "0x01 (EIP-2930)"
  | eip1559 => "0x02 (EIP-1559)"
  | eip7702 => "0x04 (EIP-7702 delegation)"

def wireByte : Json → Outcome OcwpError Nat
  | .num number => okOr (.invalidParams "transaction.type out of range") (number.asU64.filter (· ≤ 0xff))
  | .str text =>
    let trimmed := Text.trim text
    let hex := ((stripPrefix "0x" trimmed).orElse fun _ => stripPrefix "0X" trimmed).getD trimmed
    okOr (.invalidParams ("invalid transaction.type '" ++ trimmed ++ "'")) (parseUnsigned 16 256 hex)
  | _ => .error (.err (.invalidParams "transaction.type must be a string"))

def ofByte : Nat → Outcome OcwpError TxKind
  | 0x00 => .ok legacy
  | 0x01 => .ok eip2930
  | 0x02 => .ok eip1559
  | 0x04 => .ok eip7702
  | 0x03 => .error (.err (.invalidParams "EIP-4844 blob transactions are not supported"))
  | other => .error (.err (.invalidParams ("unsupported transaction type 0x" ++ hexEncode [UInt8.ofNat other])))

def fromWire (value : Option Json) : Outcome OcwpError TxKind :=
  match value.filter fun v => !v.isNull with
  | none => .ok eip1559
  | some v => do ofByte (← wireByte v)

end TxKind

/-! ## The node -/

section Calls

variable (x : SignHost)

def rpcError (defaultMessage : String) (error : Json) : OcwpError :=
  .new (((error.get "code").bind Json.asI64).getD (-32000) |>.bmod (2 ^ 32))
    ((error.getStr "message").getD defaultMessage)

def readReply (endpoint rejected : String) : RpcReply → Outcome OcwpError Json
  | .unreachable => .error (.err (.internal (endpoint ++ " endpoint unreachable")))
  | .malformed => .error (.err (.internal (endpoint ++ " endpoint returned malformed JSON")))
  | .json document =>
    match document.get "error" with
    | some error => .error (.err (rpcError rejected error))
    | none => .ok document

def exchange (endpoint rejected chainId method : String) (params : Json) : Handler Json := do
  let url ← lift (okOr (.invalidParams ("no RPC endpoint for chain '" ++ chainId ++ "'")) (x.node.rpcUrl chainId))
  let t ← nextTick
  lift (readReply endpoint rejected (x.node.post t url
    (.obj [("jsonrpc", .str "2.0"), ("id", .num (.posInt 1)), ("method", .str method), ("params", params)])))

def internalCall (chainId method : String) (params : Json) : Handler Json := do
  let parsed ← exchange x "rpc" "upstream rpc error" chainId method params
  lift (okOr (.internal "rpc response missing result") (parsed.get "result"))

def broadcastRaw (chainId signedTxHex : String) : Handler String := do
  let parsed ← exchange x "broadcast" "broadcast rejected" chainId "eth_sendRawTransaction"
    (.arr [.str ("0x" ++ signedTxHex)])
  lift (okOr (.internal "broadcast response missing result") (parsed.getStr "result"))

variable (session : SessionEntry) (chain : Chain) (obj : List (String × Json)) (kind : TxKind)

def fetchQuantity (method : String) (params : Json) : Handler (Option Nat) := do
  let result ← internalCall x chain.chainId method params
  let text ← lift (okOr (.internal "rpc returned non-string quantity") result.asStr)
  return some (← lift (parseQuantity text "rpc quantity"))

/-! ## The session's key -/

def sessionKey (env : WalletEnv) (session : SessionEntry) (chain : Chain) : Outcome OcwpError Bytes :=
  (env.decryptSigningKey session.wallet chain.chainType (Text.utf8 session.passphrase)
    (some session.index)).mapError fun _ =>
      .err (.unauthorized "failed to decrypt signing key (wrong passphrase?)")

def sessionAddress (env : WalletEnv) (session : SessionEntry) (chain : Chain) : Outcome OcwpError String := do
  let secret ← sessionKey env session chain
  (EvmSigner.deriveAddress env.evm secret).mapErr fun _ => .internal "address derivation failed"

/-! ## EIP-7702 authorizations -/

def authorizationEntries : Outcome OcwpError (List Json) :=
  okOr (.invalidParams "'authorizationList' must be an array")
    ((field obj ["authorization_list", "authorizationList"]).bind Json.asArray)

def entryAddress (entry : Json) : Outcome OcwpError (List (String × Json) × String × Bytes) := do
  let members ← okOr (.invalidParams "authorizationList entries must be objects") entry.asObject
  let address ← okOr (.invalidParams "authorizationList entry needs 'address'")
    ((members.lookup "address").bind asStr)
  let bytes ← decodeHexField address "authorizationList[].address"
  if bytes.length ≠ 20 then
    .error (.err (.invalidParams "authorizationList[].address must be a 20-byte address"))
  else return (members, address, bytes)

def entryNonce (members : List (String × Json)) : Outcome OcwpError Nat := do
  let nonce ← fieldQuantity members ["nonce"] "authorizationList[].nonce"
  okOr (.invalidParams "authorizationList[].nonce is required") nonce

def validateAuthorizationList : Outcome OcwpError Unit := do
  let entries ← authorizationEntries obj
  if entries = [] then .error (.err (.invalidParams "'authorizationList' must not be empty"))
  else entries.forM fun entry => do
    let (members, _, _) ← entryAddress entry
    let _ ← entryNonce members

/-- What is read of an entry before it is signed. -/
structure AuthorizationEntry where
  address : String
  addressBytes : Bytes
  entryChain : String
  nonce : Nat
  deriving DecidableEq, Repr

/-- The chain an entry asks for; `0` and no chain mean the account's. -/
def entryChain (chainRef : String) (members : List (String × Json)) : Outcome OcwpError String :=
  match fieldStr members ["chainId", "chain_id"] with
  | none => .ok chainRef
  | some raw => do
    let parsed ← parseQuantity raw "authorizationList[].chainId"
    return if parsed = 0 then chainRef else toString parsed

def readEntry (chainRef : String) (entry : Json) : Outcome OcwpError AuthorizationEntry := do
  let (members, address, addressBytes) ← entryAddress entry
  let entryChain ← entryChain chainRef members
  let nonce ← entryNonce members
  return ⟨address, addressBytes, entryChain, nonce⟩

def signEntry (env : WalletEnv) (session : SessionEntry) (chain : Chain) (e : AuthorizationEntry) :
    Outcome OcwpError SignResult :=
  (signAuthorization env session.wallet chain.chainId e.address (toString e.nonce) session.passphrase
    (some session.index)).mapErr fun _ => .unauthorized "failed to sign the EIP-7702 authorization"

def toU64 (n : Nat) (message : String) : Outcome OcwpError Nat :=
  if n < 2 ^ 64 then .ok n else .error (.err (.invalidParams message))

/-- The tuple `[chain_id, address, nonce, y_parity, r, s]` of a signed entry.  The second half of the
signature is everything behind `r`. -/
def encodeEntry (e : AuthorizationEntry) (result : SignResult) : Outcome OcwpError Bytes := do
  let signature ← decodeHexField result.signature "authorizationList[].signature"
  if signature.length ≠ 65 then .error (.err (.internal "authorization signature must be 65 bytes"))
  else do
    let recovery := if signature.getD 64 0 ≥ 27 then 1 else 0
    let parsed ← parseQuantity e.entryChain "authorizationList[].chainId"
    let chainNumeric ← toU64 parsed "authorizationList[].chainId is out of range"
    let nonce ← toU64 e.nonce "authorizationList[].nonce is out of range"
    return encodeList (encodeU64 chainNumeric ++ encodeBytes e.addressBytes ++ encodeU64 nonce ++
      encodeU64 recovery ++ encodeBytes (signature.take 32) ++ encodeBytes (signature.drop 32))

def encodeEntries (chainRef : String) : List Json → Handler Bytes
  | [] => pure []
  | entry :: rest => do
    let e ← lift (readEntry chainRef entry)
    let result ← lift (signEntry x.wallet session chain e)
    emit (.signedAuthorization chain.chainId e.address (toString e.nonce))
    let encoded ← lift (encodeEntry e result)
    let tail ← encodeEntries chainRef rest
    return encoded ++ tail

def encodeAuthorizationList : Handler Bytes := do
  let chainRef ← lift (okOr (.invalidParams "EIP-7702 requires an EVM chain") (stripPrefix "eip155:" chain.chainId))
  let entries ← lift (authorizationEntries obj)
  let encoded ← encodeEntries x session chain chainRef entries
  return encodeList encoded

/-! ## Structured transactions -/

/-- A transaction resolved into what will be signed and what policy sees of it. -/
structure ResolvedTx where
  rawHex : String
  toAddress : Option String
  value : Option String
  data : Option String
  kindLabel : String
  delegations : List String
  deriving DecidableEq, Repr

/-- The fields a structured request states itself. -/
structure TxRequest where
  chainNumeric : Nat
  kind : TxKind
  toAddress : Option String
  toBytes : Option Bytes
  value : Nat
  data : Bytes
  deriving DecidableEq, Repr

def chainNumber : Outcome OcwpError Nat := do
  let chainRef ← okOr (.invalidParams "structured transactions require an EVM account")
    (stripPrefix "eip155:" chain.chainId)
  okOr (.invalidParams "invalid eip155 chain id") (parseUnsigned 10 (2 ^ 128) chainRef)

def checkChainField : Outcome OcwpError Unit :=
  match fieldStr obj ["chain_id", "chainId"] with
  | none => .ok ()
  | some raw => do
    let requested ← normalizeChainReference raw
    if requested ≠ chain.chainId then
      .error (.err (.invalidParams ("transaction.chain_id '" ++ requested ++
        "' does not match the signing account chain '" ++ chain.chainId ++ "'")))
    else .ok ()

def readKind : Outcome OcwpError TxKind := do
  let kind ← TxKind.fromWire (field obj ["type"])
  match kind with
  | .eip2930 => .error (.err (.invalidParams
      "EIP-2930 access lists are not supported; omit 'type' for an EIP-1559 transaction"))
  | .eip7702 =>
    if (field obj ["authorization_list", "authorizationList"]).isNone then
      .error (.err (.invalidParams "EIP-7702 transactions require an authorizationList"))
    else do
      validateAuthorizationList obj
      return kind
  | _ => return kind

def readRecipient : Option String → Outcome OcwpError (Option Bytes)
  | none => .ok none
  | some addr => do
    let bytes ← decodeHexField addr "transaction.to"
    if bytes.length ≠ 20 then .error (.err (.invalidParams "transaction.to must be a 20-byte address"))
    else return some bytes

def readData : Outcome OcwpError Bytes :=
  match fieldStr obj ["data", "input"] with
  | some d => decodeHexField d "transaction.data"
  | none => .ok []

def readRequest : Outcome OcwpError TxRequest := do
  let chainNumeric ← chainNumber chain
  checkChainField chain obj
  let kind ← readKind obj
  let toAddress := (obj.lookup "to").bind asStr
  let toBytes ← readRecipient toAddress
  let value ← fieldQuantity obj ["value"] "transaction.value"
  let data ← readData obj
  return ⟨chainNumeric, kind, toAddress, toBytes, value.getD 0, data⟩

def checkFrom (derivedFrom : String) (obj : List (String × Json)) : Outcome OcwpError Unit :=
  match (obj.lookup "from").bind asStr with
  | some sender =>
    if Text.eqIgnoreAsciiCase sender derivedFrom then .ok ()
    else .error (.err (.invalidParams "transaction.from does not match the signing account"))
  | none => .ok ()

/-! ### Fees -/

/-- The fee fields a request states. -/
structure FeeRequest where
  gasPrice : Option Nat
  priority : Option Nat
  maxFee : Option Nat
  deriving DecidableEq, Repr

def exceeds : Option Nat → Option Nat → Bool
  | some a, some b => b < a
  | _, _ => false

def readFees (obj : List (String × Json)) : Outcome OcwpError FeeRequest := do
  let gasPrice ← fieldQuantity obj ["gas_price", "gasPrice"] "transaction.gas_price"
  let priority ← fieldQuantity obj ["max_priority_fee_per_gas", "maxPriorityFeePerGas"]
    "transaction.max_priority_fee_per_gas"
  let maxFee ← fieldQuantity obj ["max_fee_per_gas", "maxFeePerGas"] "transaction.max_fee_per_gas"
  if exceeds priority maxFee then
    .error (.err (.invalidParams "transaction.max_priority_fee_per_gas exceeds max_fee_per_gas"))
  else if kind.isCapped && exceeds gasPrice maxFee then
    .error (.err (.invalidParams "transaction.gas_price exceeds max_fee_per_gas on a capped envelope"))
  else return ⟨gasPrice, priority, maxFee⟩

def u128Max : Nat := 2 ^ 128 - 1

def defaultPriorityFeeWei : Nat := 1000000000

def fetchNonce (sender : String) : Option Nat → Handler Nat
  | some n => pure n
  | none => do
    let fetched ← fetchQuantity x chain "eth_getTransactionCount" (.arr [.str sender, .str "pending"])
    lift (okOr (.invalidParams "transaction.nonce required (RPC unavailable)") fetched)

def estimateCall (sender : String) (r : TxRequest) : Json :=
  .obj [("from", .str sender), ("to", (r.toAddress.map Json.str).getD .null),
    ("value", .str ("0x" ++ String.ofList (Nat.toDigits 16 r.value))), ("data", .str (Text.hexText r.data))]

def fetchGas (sender : String) (r : TxRequest) : Option Nat → Handler Nat
  | some g => pure g
  | none => do
    let fetched ← fetchQuantity x chain "eth_estimateGas" (.arr [estimateCall sender r])
    return match fetched with
      | some g => min (g * 2) u128Max
      | none => 1000000

def fetchOr (method : String) (default : Nat) : Handler Nat := do
  let fetched ← attempt (fetchQuantity x chain method (.arr []))
  return match fetched with
    | .ok (some n) => n
    | _ => default

def fetchBaseFee (fees : FeeRequest) : Handler Nat :=
  if kind.isCapped && fees.maxFee.isSome then pure 0 else fetchOr x chain "eth_gasPrice" 0

def fetchPriorityFee (fees : FeeRequest) : Handler Nat :=
  match fees.priority.orElse fun _ => fees.gasPrice with
  | some p => pure p
  | none =>
    if kind.isCapped then fetchOr x chain "eth_maxPriorityFeePerGas" defaultPriorityFeeWei else pure 0

def maxFeeOf (fees : FeeRequest) (baseFee maxPriorityFee : Nat) : Nat :=
  (fees.maxFee.orElse fun _ => fees.gasPrice).getD (min (min (baseFee * 2) u128Max + maxPriorityFee) u128Max)

/-- Everything the envelope is built from. -/
structure Filled where
  request : TxRequest
  gasPrice : Option Nat
  nonce : Nat
  gasLimit : Nat
  maxPriorityFee : Nat
  maxFee : Nat
  deriving DecidableEq, Repr

def prepare : Handler Filled := do
  let r ← lift (readRequest chain obj)
  let sender ← lift (sessionAddress x.wallet session chain)
  lift (checkFrom sender obj)
  let fees ← lift (readFees r.kind obj)
  let nonceField ← lift (fieldQuantity obj ["nonce"] "transaction.nonce")
  let nonce ← fetchNonce x chain sender nonceField
  let gasField ← lift (fieldQuantity obj ["gas_limit", "gas"] "transaction.gas_limit")
  let gasLimit ← fetchGas x chain sender r gasField
  let baseFee ← fetchBaseFee x chain r.kind fees
  let maxPriorityFee ← fetchPriorityFee x chain r.kind fees
  let maxFee := maxFeeOf fees baseFee maxPriorityFee
  if maxPriorityFee > maxFee then
    fail (.invalidParams "transaction.max_priority_fee_per_gas exceeds max_fee_per_gas")
  else return ⟨r, fees.gasPrice, nonce, gasLimit, maxPriorityFee, maxFee⟩

/-! ### The envelope -/

def transferFields (r : TxRequest) : List Bytes :=
  [encodeBytes (r.toBytes.getD []), encodeU128 r.value, encodeBytes r.data]

def legacyItems (f : Filled) : List Bytes :=
  [encodeU128 f.nonce, encodeU128 (f.gasPrice.getD f.maxFee), encodeU128 f.gasLimit] ++ transferFields f.request

def cappedItems (f : Filled) : List Bytes :=
  [encodeU128 f.request.chainNumeric, encodeU128 f.nonce, encodeU128 f.maxPriorityFee, encodeU128 f.maxFee,
    encodeU128 f.gasLimit] ++ transferFields f.request

def lastItem : Handler Bytes :=
  if kind = .eip7702 then encodeAuthorizationList x session chain obj else pure (encodeList [])

def encodeEnvelope (f : Filled) : Handler Bytes :=
  if f.request.kind.isCapped then do
    let last ← lastItem x session chain obj f.request.kind
    return f.request.kind.typeByte :: encodeList ((cappedItems f).flatten ++ last)
  else pure (encodeList (legacyItems f).flatten)

def delegationsOf : List String :=
  if kind = .eip7702 then
    (((field obj ["authorization_list", "authorizationList"]).bind Json.asArray).getD []).filterMap
      fun entry => (entry.getStr "address").map Text.toAsciiLowercase
  else []

def resolveStructured : Handler ResolvedTx := do
  let f ← prepare x session chain obj
  let raw ← encodeEnvelope x session chain obj f
  return { rawHex := hexEncode raw
           toAddress := f.request.toAddress
           value := some (toString f.request.value)
           data := if f.request.data = [] then none else some (Text.hexText f.request.data)
           kindLabel := f.request.kind.label
           delegations := delegationsOf obj f.request.kind }

def resolveRaw (raw : String) : Outcome OcwpError ResolvedTx := do
  let rawHex := Text.stripHex raw
  let bytes ← decodeHexField rawHex "transaction.raw"
  let summary ← decodeTxSummary bytes
  return ⟨rawHex, summary.toAddress, summary.value, summary.data, summary.kindLabel, []⟩

def resolveTransaction (tx : Json) : Handler ResolvedTx := do
  let obj ← lift (okOr (.invalidParams "'transaction' must be an object") tx.asObject)
  match (obj.lookup "raw").bind asStr with
  | some raw => lift (resolveRaw raw)
  | none => resolveStructured x session chain obj

end Calls

/-! ## What a resolved transaction commits to -/

section Commitment

open Bytes EvmSigner

/-- The signed transaction is for one chain: its chain id item is `N`, or its `v` is made from `N`. -/
def CommitsTo (signed : Bytes) (N : Nat) : Prop :=
  if (splitType signed).1 = 0x00 then
    ∃ v, Rlp.fieldAt (Rlp.payloadOf signed) 6 = some v ∧ (beNat v = 2 * N + 35 ∨ beNat v = 2 * N + 36)
  else ∃ b, Rlp.fieldAt (Rlp.payloadOf (splitType signed).2) 0 = some b ∧ beNat b = N

variable {x : SignHost} {session : SessionEntry} {chain : Chain} {obj : List (String × Json)} {d d' : Daemon}

theorem whole_encodeMinimalInt {b : Bytes} (h : b.length ≤ 32) :
    Whole (encodeMinimalInt b) ∧ Rlp.itemBytes (encodeMinimalInt b) = some (stripZeros b) := by
  have hlen := length_stripZeros_le b
  rw [encodeMinimalInt, encodeBytes_eq]
  exact Rlp.whole_encodeBytes (by omega)

theorem fieldAt_encodeMinimalInt (items : List Bytes) (hw : ∀ item ∈ items, Whole item) {b : Bytes}
    (h : b.length ≤ 32) (rest : Bytes) :
    Rlp.fieldAt (items.flatten ++ (encodeMinimalInt b ++ rest)) items.length = some (stripZeros b) := by
  obtain ⟨hwhole, hitem⟩ := whole_encodeMinimalInt h
  have hw' : ∀ item ∈ items ++ [encodeMinimalInt b], Whole item := by
    intro item hm
    rcases mem_append.mp hm with hm | hm
    · exact hw item hm
    · rw [mem_singleton.mp hm]; exact hwhole
  have hflat : items.flatten ++ (encodeMinimalInt b ++ rest) = (items ++ [encodeMinimalInt b]).flatten ++ rest := by
    rw [flatten_append, flatten_singleton, append_assoc]
  rw [hflat, Rlp.fieldAt_flatten_append hw' (by simp), List.getElem?_append_right le_rfl, Nat.sub_self]
  exact hitem

theorem typedForm_commits {ty : UInt8} {c rest signature out : Bytes} (hc : c.length ≤ 32)
    (ha : Addressable (ty :: Rlp.encodeList (encodeMinimalInt c ++ rest)))
    (hform : TypedForm (ty :: Rlp.encodeList (encodeMinimalInt c ++ rest)) signature out) :
    CommitsTo out (beNat c) := by
  obtain ⟨t, body, h, he, ht, hp, -, rfl⟩ := hform
  cases he
  have ht0 : ty ≠ 0x00 := by rcases ht with rfl | rfl <;> decide
  have hbody : (ty :: Rlp.encodeList (encodeMinimalInt c ++ rest)).length < 2 ^ 63 := ha
  have hlist := Rlp.length_encodeList (encodeMinimalInt c ++ rest)
  have hsig := length_signatureItems_le signature
  rw [length_cons] at hbody
  have hslice : h.slice (Rlp.encodeList (encodeMinimalInt c ++ rest)) = encodeMinimalInt c ++ rest := by
    rw [← Rlp.payloadOf_eq hp, Rlp.payloadOf_encodeList (by omega)]
  rw [CommitsTo, splitType_typed ht, if_neg ht0, hslice, Rlp.payloadOf_encodeList
    (by rw [length_append]; omega), append_assoc]
  exact ⟨stripZeros c, fieldAt_encodeMinimalInt [] (by simp) hc _, beNat_stripZeros c⟩

/-- **A legacy transaction with six items commits to no chain.** -/
theorem legacyForm_not_commits {items : List Bytes} {signature out : Bytes}
    (hw : ∀ item ∈ items, Whole item) (h6 : items.length = 6) (ha : Addressable (Rlp.encodeList items.flatten))
    (hform : LegacyForm (Rlp.encodeList items.flatten) signature out) (N : Nat) : ¬ CommitsTo out N := by
  obtain ⟨hrec, h, items', v, hp, -, hle, hw', hflat, hv, rfl⟩ := hform
  have hraw : (Rlp.encodeList items.flatten).length < 2 ^ 63 := ha
  have hlist := Rlp.length_encodeList items.flatten
  have hlen := length_legacyItems_lt signature ha hle hflat v
  rw [← Rlp.payloadOf_eq hp, Rlp.payloadOf_encodeList (by omega)] at hflat
  -- bytes split in one way only
  have hsame : items' = items :=
    Option.some.inj ((Rlp.splitItems_eq_some.mpr ⟨hw', hflat⟩).symm.trans (Rlp.splitItems_eq_some.mpr ⟨hw, rfl⟩))
  subst hsame
  have hv27 : v = 27 + (sigV signature).toNat := by
    cases hv with
    | eip155 => omega
    | unprotected => rfl
  have hrec' : (sigV signature).toNat ≤ 1 := hrec
  obtain ⟨first, rest, hx, hge⟩ := Rlp.head_encodeList _ hlen
  have hkind : (splitType (Rlp.encodeList ((items'.take 6).flatten ++ encodeU64 v ++
      encodeMinimalInt (sigR signature) ++ encodeMinimalInt (sigS signature)))).1 = 0x00 := by
    rw [hx, splitType_legacy hge]
  rw [CommitsTo, if_pos hkind, Rlp.payloadOf_encodeList hlen, take_of_length_le h6.le, append_assoc,
    append_assoc, encodeU64]
  have hfield := fieldAt_encodeMinimalInt items' hw (b := toBe 8 v) (by rw [length_toBe]; omega)
    (encodeMinimalInt (sigR signature) ++ encodeMinimalInt (sigS signature))
  rw [h6] at hfield
  rintro ⟨b, hb, hN⟩
  rw [hfield] at hb
  cases hb
  rw [beNat_stripZeros, beNat_toBe (by norm_num; omega)] at hN
  omega

/-! ### Successful resolutions -/

theorem parseQuantity_lt {text fieldName : String} {n : Nat} (h : parseQuantity text fieldName = .ok n) :
    n < 2 ^ 128 := by
  have hn := okOr_eq_ok.mp h
  split at hn <;> exact (Text.parseUnsigned_eq_some.mp hn).2.2

theorem fieldQuantity_lt {keys : List String} {fieldName : String} {n : Nat}
    (h : fieldQuantity obj keys fieldName = .ok (some n)) : n < 2 ^ 128 := by
  unfold fieldQuantity at h
  split at h
  · cases h
  · obtain ⟨m, hm, he⟩ := map_eq_ok.mp h
    cases he
    exact parseQuantity_lt hm
  · obtain ⟨m, hm, he⟩ := map_eq_ok.mp h
    cases he
    exact (JsonNumber.asU64_lt (okOr_eq_ok.mp hm)).trans (by norm_num)
  · cases h

theorem readKind_ok {kind : TxKind} (h : readKind obj = .ok kind) :
    TxKind.fromWire (field obj ["type"]) = .ok kind ∧ kind ≠ .eip2930 := by
  obtain ⟨k, hk, h⟩ := bind_eq_ok.mp h
  cases k with
  | legacy | eip1559 => cases h; exact ⟨hk, by decide⟩
  | eip2930 => cases h
  | eip7702 =>
    obtain ⟨-, h⟩ := guard_eq_ok.mp h
    obtain ⟨-, -, h⟩ := bind_eq_ok.mp h
    cases h
    exact ⟨hk, by decide⟩

/-- What `readRequest` reads. -/
structure Requested (chain : Chain) (obj : List (String × Json)) (r : TxRequest) : Prop where
  number : chainNumber chain = .ok r.chainNumeric
  check : checkChainField chain obj = .ok ()
  kind : readKind obj = .ok r.kind
  address : r.toAddress = (obj.lookup "to").bind asStr
  recipient : readRecipient r.toAddress = .ok r.toBytes
  value : ∃ q, fieldQuantity obj ["value"] "transaction.value" = .ok q ∧ r.value = q.getD 0
  data : readData obj = .ok r.data

theorem readRequest_ok {r : TxRequest} (h : readRequest chain obj = .ok r) : Requested chain obj r := by
  obtain ⟨n, hn, h⟩ := bind_eq_ok.mp h
  obtain ⟨⟨⟩, hcheck, h⟩ := bind_eq_ok.mp h
  obtain ⟨kind, hkind, h⟩ := bind_eq_ok.mp h
  obtain ⟨toBytes, hto, h⟩ := bind_eq_ok.mp h
  obtain ⟨value, hvalue, h⟩ := bind_eq_ok.mp h
  obtain ⟨data, hdata, h⟩ := bind_eq_ok.mp h
  cases h
  exact ⟨hn, hcheck, hkind, rfl, hto, ⟨value, hvalue, rfl⟩, hdata⟩

theorem readFees_ok {kind : TxKind} {fees : FeeRequest} (h : readFees kind obj = .ok fees) :
    fieldQuantity obj ["gas_price", "gasPrice"] "transaction.gas_price" = .ok fees.gasPrice ∧
    fieldQuantity obj ["max_priority_fee_per_gas", "maxPriorityFeePerGas"] "transaction.max_priority_fee_per_gas" =
      .ok fees.priority ∧
    fieldQuantity obj ["max_fee_per_gas", "maxFeePerGas"] "transaction.max_fee_per_gas" = .ok fees.maxFee := by
  obtain ⟨gasPrice, hgas, h⟩ := bind_eq_ok.mp h
  obtain ⟨priority, hpriority, h⟩ := bind_eq_ok.mp h
  obtain ⟨maxFee, hmax, h⟩ := bind_eq_ok.mp h
  obtain ⟨-, h⟩ := guard_eq_ok.mp h
  obtain ⟨-, h⟩ := guard_eq_ok.mp h
  cases h
  exact ⟨hgas, hpriority, hmax⟩

theorem readFees_lt {kind : TxKind} {fees : FeeRequest} (h : readFees kind obj = .ok fees) {p : Nat}
    (hp : (fees.priority.orElse fun _ => fees.gasPrice) = some p) : p < 2 ^ 128 := by
  obtain ⟨hgas, hpriority, -⟩ := readFees_ok h
  rcases hq : fees.priority with _ | q <;> rw [hq] at hp hpriority
  · rw [show fees.gasPrice = some p from hp] at hgas
    exact fieldQuantity_lt hgas
  · cases hp
    exact fieldQuantity_lt hpriority

/-- What a request must satisfy before a node is asked, and the fee comparison no node can change. -/
structure Stated (env : WalletEnv) (session : SessionEntry) (chain : Chain) (obj : List (String × Json))
    (r : TxRequest) : Prop where
  request : readRequest chain obj = .ok r
  sender : ∃ address, sessionAddress env session chain = .ok address ∧ checkFrom address obj = .ok ()
  fees : ∃ fees, readFees r.kind obj = .ok fees ∧
    exceeds (fees.priority.orElse fun _ => fees.gasPrice) (fees.maxFee.orElse fun _ => fees.gasPrice) = false
  nonce : ∃ n, fieldQuantity obj ["nonce"] "transaction.nonce" = .ok n
  gas : ∃ n, fieldQuantity obj ["gas_limit", "gas"] "transaction.gas_limit" = .ok n

theorem fetchPriorityFee_stated {kind : TxKind} {fees : FeeRequest} {p q : Nat}
    (hq : (fees.priority.orElse fun _ => fees.gasPrice) = some q)
    (h : exec (fetchPriorityFee x chain kind fees) d = (.ok p, d')) : p = q := by
  rw [fetchPriorityFee, hq] at h
  cases h
  rfl

theorem prepare_ok {f : Filled} (h : exec (prepare x session chain obj) d = (.ok f, d')) :
    Stated x.wallet session chain obj f.request := by
  obtain ⟨r, hr, h⟩ := exec_lift_bind_ok.mp h
  obtain ⟨sender, hsender, h⟩ := exec_lift_bind_ok.mp h
  obtain ⟨⟨⟩, hfrom, h⟩ := exec_lift_bind_ok.mp h
  obtain ⟨fees, hfees, h⟩ := exec_lift_bind_ok.mp h
  obtain ⟨nonceField, hnonce, h⟩ := exec_lift_bind_ok.mp h
  obtain ⟨nonce, d1, -, h⟩ := exec_bind_ok.mp h
  obtain ⟨gasField, hgas, h⟩ := exec_lift_bind_ok.mp h
  obtain ⟨gasLimit, d2, -, h⟩ := exec_bind_ok.mp h
  obtain ⟨baseFee, d3, -, h⟩ := exec_bind_ok.mp h
  obtain ⟨priority, d4, hpriority, h⟩ := exec_bind_ok.mp h
  obtain ⟨hle, h⟩ := exec_guard_ok.mp h
  cases h
  refine ⟨hr, ⟨sender, hsender, hfrom⟩, ⟨fees, hfees, ?_⟩, ⟨_, hnonce⟩, ⟨_, hgas⟩⟩
  rcases hp : fees.priority.orElse fun _ => fees.gasPrice with _ | p
  · rfl
  rcases hm : fees.maxFee.orElse fun _ => fees.gasPrice with _ | m
  · rfl
  obtain rfl := fetchPriorityFee_stated hp hpriority
  rw [maxFeeOf, hm, Option.getD_some, gt_iff_lt] at hle
  exact decide_eq_false hle

theorem resolveTransaction_eq {resolved : ResolvedTx} (hraw : (obj.lookup "raw").bind asStr = none)
    (h : exec (resolveTransaction x session chain (.obj obj)) d = (.ok resolved, d')) :
    ∃ f d1 raw, exec (prepare x session chain obj) d = (.ok f, d1) ∧
      exec (encodeEnvelope x session chain obj f) d1 = (.ok raw, d') ∧
      resolved = ⟨hexEncode raw, f.request.toAddress, some (toString f.request.value),
        if f.request.data = [] then none else some (Text.hexText f.request.data), f.request.kind.label,
        delegationsOf obj f.request.kind⟩ := by
  obtain ⟨obj', hobj, h⟩ := exec_lift_bind_ok.mp h
  cases hobj
  rw [hraw] at h
  obtain ⟨f, d1, hf, h⟩ := exec_bind_ok.mp h
  obtain ⟨raw, d2, hr, h⟩ := exec_bind_ok.mp h
  obtain ⟨hres, rfl⟩ := Prod.mk.inj h
  exact ⟨f, d1, raw, hf, hr, (Except.ok.inj hres).symm⟩

theorem encodeEnvelope_ok {f : Filled} {raw : Bytes}
    (h : exec (encodeEnvelope x session chain obj f) d = (.ok raw, d')) :
    f.request.kind.isCapped = false ∧ raw = Rlp.encodeList (legacyItems f).flatten ∨
      f.request.kind.isCapped = true ∧ ∃ last,
        raw = f.request.kind.typeByte :: Rlp.encodeList ((cappedItems f).flatten ++ last) := by
  rcases exec_ite_ok.mp h with ⟨hc, h⟩ | ⟨hc, h⟩
  · obtain ⟨last, d1, -, h⟩ := exec_bind_ok.mp h
    have hraw := Except.ok.inj (Prod.mk.inj h).1
    exact .inr ⟨hc, last, by rw [← hraw, encodeList_eq]⟩
  · have hraw := Except.ok.inj (Prod.mk.inj h).1
    exact .inl ⟨Bool.not_eq_true _ ▸ hc, by rw [← hraw, encodeList_eq]⟩

theorem whole_encodeU128 (n : Nat) : Whole (encodeU128 n) := (whole_encodeMinimalInt (by rw [length_toBe]; omega)).1

theorem whole_of_mem_flatten {b : Bytes} {items : List Bytes} (hm : encodeBytes b ∈ items)
    (ha : Addressable (Rlp.encodeList items.flatten)) : Whole (encodeBytes b) := by
  have hle := (infix_of_mem_flatten hm).length_le
  have hlist := Rlp.length_encodeList items.flatten
  have hraw : (Rlp.encodeList items.flatten).length < 2 ^ 63 := ha
  have hb := Rlp.length_le_encodeBytes b
  rw [encodeBytes_eq] at hle ⊢
  exact (Rlp.whole_encodeBytes (by omega)).1

theorem whole_legacyItems {f : Filled} (ha : Addressable (Rlp.encodeList (legacyItems f).flatten)) :
    ∀ item ∈ legacyItems f, Whole item := by
  have hbytes : ∀ b, encodeBytes b ∈ legacyItems f → Whole (encodeBytes b) :=
    fun b hb => whole_of_mem_flatten hb ha
  intro item hm
  have hm' : item = encodeU128 f.nonce ∨ item = encodeU128 (f.gasPrice.getD f.maxFee) ∨
      item = encodeU128 f.gasLimit ∨ item = encodeBytes (f.request.toBytes.getD []) ∨
      item = encodeU128 f.request.value ∨ item = encodeBytes f.request.data := by
    simpa [legacyItems, transferFields] using hm
  rcases hm' with h | h | h | h | h | h <;> rw [h] at hm ⊢
  · exact whole_encodeU128 _
  · exact whole_encodeU128 _
  · exact whole_encodeU128 _
  · exact hbytes _ hm
  · exact whole_encodeU128 _
  · exact hbytes _ hm

/-- The chain is `eip155:N`. -/
def IsEip155 (chain : Chain) (N : Nat) : Prop :=
  ∃ reference, stripPrefix "eip155:" chain.chainId = some reference ∧ parseUnsigned 10 (2 ^ 128) reference = some N

theorem chainNumber_eq_ok {N : Nat} : chainNumber chain = .ok N ↔ IsEip155 chain N := by
  rw [chainNumber, bind_eq_ok]
  simp only [okOr_eq_ok, IsEip155]

theorem not_encodes_setCode {body signature out : Bytes} :
    encodeSignedTransaction (0x04 :: body) signature ≠ .ok out := by
  intro h
  obtain ⟨-, h⟩ := guard_eq_ok.mp h
  rw [if_neg (by simp)] at h
  obtain ⟨-, h⟩ := guard_eq_ok.mp h
  cases h

/-- **Which envelopes bind the signed transaction to the account's chain.**  A structured transaction
for an account on `eip155:N` that resolves and is then signed commits to `N` if and only if it is not
a legacy transaction. -/
theorem resolved_commits_iff (x : SignHost) (session : SessionEntry) (chain : Chain)
    (obj : List (String × Json)) (N : Nat) (d d' : Daemon) (resolved : ResolvedTx) (raw signature out : Bytes)
    (hstruct : (obj.lookup "raw").bind asStr = none) (hchain : IsEip155 chain N)
    (hres : exec (resolveTransaction x session chain (.obj obj)) d = (.ok resolved, d'))
    (hraw : Text.hexDecode resolved.rawHex = .ok raw) (ha : Addressable raw)
    (henc : encodeSignedTransaction raw signature = .ok out) :
    CommitsTo out N ↔ TxKind.fromWire (field obj ["type"]) ≠ .ok .legacy := by
  obtain ⟨f, d1, raw', hf, he, rfl⟩ := resolveTransaction_eq hstruct hres
  rw [Text.hexDecode_hexEncode] at hraw
  cases hraw
  have hr := readRequest_ok (prepare_ok hf).request
  obtain ⟨hwire, h2930⟩ := readKind_ok hr.kind
  have hN : f.request.chainNumeric = N := Except.ok.inj (hr.number.symm.trans (chainNumber_eq_ok.mpr hchain))
  have hlt : N < 2 ^ 128 := by
    obtain ⟨_, -, hp⟩ := hchain
    exact (Text.parseUnsigned_eq_some.mp hp).2.2
  rw [hwire]
  rcases encodeEnvelope_ok he with ⟨hcapped, hshape⟩ | ⟨hcapped, last, hshape⟩
  · -- a legacy envelope
    have hlegacy : f.request.kind = .legacy := by
      revert hcapped h2930
      cases f.request.kind <;> decide
    rw [hshape] at ha henc
    obtain ⟨-, ⟨t, body, _, hcons, ht, -⟩ | hform⟩ := (encodeSignedTransaction_eq_ok ha).mp henc
    · exfalso
      have hlist := Rlp.length_encodeList (legacyItems f).flatten
      have hraw : (Rlp.encodeList (legacyItems f).flatten).length < 2 ^ 63 := ha
      obtain ⟨first, rest, hx, hge⟩ := Rlp.head_encodeList (legacyItems f).flatten (by omega)
      rw [hx] at hcons
      cases hcons
      rcases ht with rfl | rfl <;> revert hge <;> decide
    · have hnot := legacyForm_not_commits (whole_legacyItems ha) rfl ha hform N
      simp [hlegacy, hnot]
  · -- a capped envelope
    have hitems : (cappedItems f).flatten ++ last = encodeMinimalInt (toBe 16 N) ++
        ((cappedItems f).tail.flatten ++ last) := by
      rw [← append_assoc]
      simp only [cappedItems, hN, encodeU128, cons_append, flatten_cons, tail_cons]
    rw [hshape, hitems] at ha henc
    have hkind : f.request.kind = .eip1559 ∨ f.request.kind = .eip7702 := by
      revert hcapped
      cases f.request.kind <;> decide
    rcases hkind with hkind | hkind <;> rw [hkind] at ha henc ⊢
    · obtain ⟨-, hform | ⟨-, h, _, _, hp, hl, -⟩⟩ := (encodeSignedTransaction_eq_ok ha).mp henc
      · have hcommit := typedForm_commits (by rw [length_toBe]; omega) ha hform
        rw [beNat_toBe (by norm_num; exact hlt)] at hcommit
        simp [hcommit]
      · cases hp
        cases hl
    · exact absurd henc not_encodes_setCode

/-! ### A legacy transaction -/

def offlineHost : SignHost where
  wallet := agentEnv (plainCrypto zeroHash length_zeroHash) (fun _ => .error "") [] capped
  gate := plainHost
  node := ⟨fun _ => none, fun _ _ _ => .unreachable⟩
  enclave := ⟨false, fun _ => "", fun _ => .failed ⟨none, ""⟩⟩
  timestamp _ := "2026-01-01T00:00:00Z"

def idleDaemon : Daemon := ⟨⟨∅, ⟨3600, 900⟩⟩, ∅, none, ∅, false, 0, []⟩

def transferRequest (type : String) : List (String × Json) :=
  [("type", .str type), ("nonce", .str "0"), ("gas", .str "0x5208"), ("gas_price", .str "1"),
    ("to", .str "0xaaaaaaaaaaaaaaaaaaaaaaaaaaaaaaaaaaaaaaaa"), ("value", .str "100")]

def transferTail : Bytes := [0x82, 0x52, 0x08, 0x94] ++ List.replicate 20 0xaa ++ [0x64, 0x80]

def legacyTransfer : Bytes := [0xdc, 0x80, 0x01] ++ transferTail

def onesItems : Bytes := [0xa0] ++ List.replicate 32 0x01 ++ [0xa0] ++ List.replicate 32 0x01

def signedLegacyTransfer : Bytes := [0xf8, 0x5f, 0x80, 0x01] ++ transferTail ++ [0x1b] ++ onesItems

def cappedTransfer : Bytes := [0x02, 0xdf, 0x01, 0x80, 0x01, 0x01] ++ transferTail ++ [0xc0]

def signedCappedTransfer : Bytes :=
  [0x02, 0xf8, 0x62, 0x01, 0x80, 0x01, 0x01] ++ transferTail ++ [0xc0, 0x80] ++ onesItems

def resolvedTransfer (raw : Bytes) (kind : TxKind) : ResolvedTx :=
  ⟨hexEncode raw, some "0xaaaaaaaaaaaaaaaaaaaaaaaaaaaaaaaaaaaaaaaa", some "100", none, kind.label, []⟩

theorem exec_ok_of_toOption {α : Type} {m : Handler α} {d : Daemon} {a : α}
    (h : (exec m d).1.toOption = some a) : exec m d = (.ok a, (exec m d).2) :=
  Prod.ext (eq_ok_iff_toOption.mpr h) rfl

theorem isEip155_mainnet : IsEip155 mainnet 1 := ⟨"1", by decide +kernel, by decide +kernel⟩

theorem resolved_commits_capped :
    ∃ d', exec (resolveTransaction offlineHost (selecting []) mainnet (.obj (transferRequest "0x2"))) idleDaemon =
        (.ok (resolvedTransfer cappedTransfer .eip1559), d') ∧
      (CommitsTo signedCappedTransfer 1 ↔ TxKind.fromWire (field (transferRequest "0x2") ["type"]) ≠ .ok .legacy) := by
  have hres := exec_ok_of_toOption (m := resolveTransaction offlineHost (selecting []) mainnet
      (.obj (transferRequest "0x2"))) (d := idleDaemon) (a := resolvedTransfer cappedTransfer .eip1559)
    (by decide +kernel)
  refine ⟨_, hres, resolved_commits_iff _ _ _ _ 1 _ _ _ cappedTransfer onesSignature signedCappedTransfer ?_ ?_
    hres ?_ ?_ ?_⟩
  · rfl
  · exact isEip155_mainnet
  · exact Text.hexDecode_hexEncode _
  · unfold Addressable; decide +kernel
  · exact eq_ok_iff_toOption.mpr (by decide +kernel)

/-- **A legacy transaction is signed for every chain.**  It is resolved for an account on `eip155:1`
with six items, and the signed transaction has `v = 27`. -/
theorem legacy_commits_to_no_chain :
    IsEip155 mainnet 1 ∧
    (∃ d', exec (resolveTransaction offlineHost (selecting []) mainnet (.obj (transferRequest "0x0"))) idleDaemon =
      (.ok (resolvedTransfer legacyTransfer .legacy), d')) ∧
    encodeSignedTransaction legacyTransfer onesSignature = .ok signedLegacyTransfer ∧
    ¬ CommitsTo signedLegacyTransfer 1 := by
  refine ⟨isEip155_mainnet, ⟨_, exec_ok_of_toOption (by decide +kernel)⟩,
    eq_ok_iff_toOption.mpr (by decide +kernel), ?_⟩
  have hkind : (splitType signedLegacyTransfer).1 = 0x00 := by decide +kernel
  have hv : Rlp.fieldAt (Rlp.payloadOf signedLegacyTransfer) 6 = some [0x1b] := by decide +kernel
  rw [CommitsTo, if_pos hkind, hv]
  rintro ⟨v, he, hN⟩
  cases he
  revert hN
  decide

end Commitment

end OneCipher.Ocwp
