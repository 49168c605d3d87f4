import OneCipher.Base.Text
import OneCipher.Base.Json
import OneCipher.Signer.Rlp
import OneCipher.Signer.EvmTx

/-!
# OneCipher.NetAgent.Intent — executing payment intents

`oc-netagent/src/intent`: an intent is read into call data, filled with what the RPC client answers,
encoded as an unsigned EIP-1559 transaction and handed to the signer.  The CAIP-2 reader and the
hash are crates of their own and stand here as parameters (`IntentEnv`).  The state of a run is the
log of what the signer was handed.
-/

namespace OneCipher.Intents

open Bytes Signer
open String (ofList)

/-! ## Data -/

inductive RpcError where
  | rpc (text : String)
  | transport (text : String)
  | parse (text : String)
  | server (text : String)
  | timeout
  | notFound
  deriving DecidableEq, Repr

def RpcError.message : RpcError → String
  | .rpc text => "RPC error: " ++ text
  | .transport text => "transport error: " ++ text
  | .parse text => "parse error: " ++ text
  | .server text => "server error: " ++ text
  | .timeout => "timeout"
  | .notFound => "not found"

inductive IntentError where
  | rpc (e : RpcError)
  | invalidInput (text : String)
  | invalidChain (text : String)
  | expired
  | simulation (text : String)
  | execution (text : String)
  | unsupported (text : String)
  deriving DecidableEq, Repr

def IntentError.message : IntentError → String
  | .rpc e => "RPC error: " ++ e.message
  | .invalidInput text => "invalid input: " ++ text
  | .invalidChain text => "invalid chain id: " ++ text
  | .expired => "intent expired"
  | .simulation text => "simulation failed: " ++ text
  | .execution text => "execution failed: " ++ text
  | .unsupported text => "unsupported intent: " ++ text

inductive MessageEncoding where
  | utf8
  | hex
  deriving DecidableEq, Repr

inductive IntentKind where
  | pay (amount recipient : String) (token : Option String)
  | signTransaction (txHex chainId : String)
  | signMessage (message : String) (encoding : MessageEncoding)
  | crossChainTransfer (amount asset fromChain toChain recipient : String)
  deriving DecidableEq, Repr

structure Intent where
  id : String
  kind : IntentKind
  chainId : String
  sessionKeyId : String
  expiresAt : ℕ
  deriving DecidableEq, Repr

inductive IntentStatus where
  | pending | simulated | denied | submitted | confirmed | failed | expired
  deriving DecidableEq, Repr

structure IntentResult where
  intentId : String
  status : IntentStatus
  txHash : Option String
  receipt : Option Json
  error : Option String

structure CallData where
  sender : Option String
  toAddress : String
  value : Option String
  data : Option Bytes
  deriving DecidableEq, Repr

/-- The answers of an RPC client; an execution asks each of them once. -/
structure RpcClient where
  chainId : String
  transactionCount : String → Except RpcError UInt64
  estimateGas : CallData → Except RpcError UInt64
  gasPrice : Except RpcError UInt64
  sendRawTransaction : Bytes → Except RpcError String
  waitForReceipt : String → Except RpcError Json

/-- The crates the engine leans on. -/
structure IntentEnv where
  parseCaip2 : String → Except String (String × String)
  parseCaip2_split : ∀ {s nspace reference : String}, parseCaip2 s = .ok (nspace, reference) →
    s = nspace ++ ":" ++ reference
  keccak256 : Bytes → Bytes

/-! ## Reading amounts and addresses -/

/-- Where `from_str_radix` stops: at the first character that is no digit, or that does not fit. -/
def parseIntErrorLoop (radix bound : ℕ) : List Char → ℕ → String
  | [], _ => ""
  | ch :: cs, acc =>
    match Text.toDigit radix ch with
    | none => "invalid digit found in string"
    | some d =>
      if bound ≤ acc * radix + d then "number too large to fit in target type"
      else parseIntErrorLoop radix bound cs (acc * radix + d)

/-- The error text of `u128::from_str_radix`. -/
def parseU128Error (radix : ℕ) (s : String) : String :=
  match s.toList with
  | [] => "cannot parse integer from empty string"
  | ['+'] => "invalid digit found in string"
  | '+' :: cs => parseIntErrorLoop radix (2 ^ 128) cs 0
  | cs => parseIntErrorLoop radix (2 ^ 128) cs 0

def parseAmountDigits (radix : ℕ) (label amount digits : String) : Except IntentError ℕ :=
  match Text.parseUnsigned radix (2 ^ 128) digits with
  | some n => .ok n
  | none => .error (.invalidInput ("invalid " ++ label ++ " '" ++ amount ++ "': " ++ parseU128Error radix digits))

/-- An amount in minimal units: hex behind `0x`, or plain decimal digits. -/
def parseAmount (amount : String) : Except IntentError ℕ :=
  let trimmed := Text.trim amount
  if trimmed = "" then .error (.invalidInput "amount is empty")
  else match (Text.stripPrefix "0x" trimmed).orElse fun _ => Text.stripPrefix "0X" trimmed with
    | some hexStr => parseAmountDigits 16 "hex amount" amount hexStr
    | none =>
      if trimmed.toList.all Char.isDigit then parseAmountDigits 10 "amount" amount trimmed
      else .error (.invalidInput ("amount '" ++ amount ++ "' is not a plain integer (0x-hex or decimal); " ++
        "token decimals are resolved by the caller"))

/-- `str::trim_start_matches("0x")`. -/
def trimHexMarks : List Char → List Char
  | '0' :: 'x' :: rest => trimHexMarks rest
  | cs => cs

def unmarked (s : String) : String := ofList (trimHexMarks s.toList)

def parseAddress (addr : String) : Except IntentError Bytes :=
  match Text.hexDecode (unmarked addr) with
  | .error e => .error (.invalidInput ("invalid address '" ++ addr ++ "': " ++ e.message))
  | .ok bytes =>
    if bytes.length ≠ 20 then
      .error (.invalidInput ("address '" ++ addr ++ "' is " ++ toString bytes.length ++ " bytes; expected 20"))
    else .ok bytes

/-- `str::split_once('/')`. -/
def splitSlash (s : String) : Option (String × String) :=
  match s.toList.span (· ≠ '/') with
  | (before, _ :: after) => some (ofList before, ofList after)
  | (_, []) => none

def splitToken (token : String) : Except IntentError (Option String × String) :=
  match splitSlash token with
  | none => .ok (none, token)
  | some (chainPart, addrPart) =>
    match Text.stripPrefix "erc20:" addrPart with
    | some addr => .ok (some chainPart, addr)
    | none => .error (.invalidInput ("token '" ++ token ++ "' is not an erc20 asset id"))

def parseTokenAddress (token : String) : Except IntentError (Option String × Bytes) := do
  let (chain, addrStr) ← splitToken token
  let addr ← parseAddress addrStr
  return (chain, addr)

/-! ## Call data -/

variable (env : IntentEnv) (intent : Intent) (rpc : RpcClient) (fromAddress : String)

def erc20TransferSelector : Bytes := (env.keccak256 (Text.utf8 "transfer(address,uint256)")).take 4

def abiEncodeAddress (addr : Bytes) : Bytes := List.replicate 12 0 ++ addr

def abiEncodeUint256 (value : ℕ) : Bytes := List.replicate 16 0 ++ toBe 16 value

/-- `transfer(recipient, amount)`. -/
def transferCall (recipient : Bytes) (amount : ℕ) : Bytes :=
  erc20TransferSelector env ++ abiEncodeAddress recipient ++ abiEncodeUint256 amount

/-- `{:x}` of a `u128`: its hex digits without leading zeros. -/
def lowerHex (n : ℕ) : List Char :=
  let digits := (Text.hexEncode (toBe 16 n)).toList.dropWhile (· == '0')
  if digits = [] then ['0'] else digits

def checkTokenChain (tokenChain : Option String) (chain : String) : Except IntentError Unit :=
  match tokenChain with
  | some tc =>
    if tc ≠ chain then
      .error (.invalidChain ("token chain '" ++ tc ++ "' does not match expected chain '" ++ chain ++ "'"))
    else .ok ()
  | none => .ok ()

def zeroAddressEvm : String := "0x0000000000000000000000000000000000000000"

def nativeCallData (amount recipient : String) : Except IntentError CallData := do
  let baseUnits ← parseAmount amount
  return ⟨none, recipient, some (ofList ('0' :: 'x' :: lowerHex baseUnits)), none⟩

def tokenCallData (amount recipient token chain : String) : Except IntentError CallData := do
  let amountValue ← parseAmount amount
  let (tokenChain, tokenAddr) ← parseTokenAddress token
  checkTokenChain tokenChain chain
  let recipientBytes ← parseAddress recipient
  return ⟨none, Text.hexText tokenAddr, some "0x0", some (transferCall env recipientBytes amountValue)⟩

def buildCallData (kind : IntentKind) (chain : String) : Except IntentError CallData :=
  match kind with
  | .pay amount recipient none => nativeCallData amount recipient
  | .pay amount recipient (some token) => tokenCallData env amount recipient token chain
  | .signTransaction txHex _ =>
    match Text.hexDecode (unmarked txHex) with
    | .ok data => .ok ⟨none, zeroAddressEvm, none, some data⟩
    | .error e => .error (.invalidInput ("invalid hex: " ++ e.message))
  | .signMessage _ _ => .ok ⟨none, zeroAddressEvm, none, none⟩
  | .crossChainTransfer _ _ _ _ _ =>
    .error (.unsupported ("CrossChainTransfer requires bridge integration; refusing to sign " ++
      "a no-op transfer that does not move the approved asset"))

/-! ## The transaction -/

def padDigits (digits : List Char) : List Char :=
  if (Text.utf8 (ofList digits)).length % 2 = 1 then '0' :: digits else digits

/-- `hex::decode` of a quantity, padded to whole bytes. -/
def decodeQuantity (s : String) : Except IntentError Bytes :=
  match Text.hexDecode (ofList (padDigits (trimHexMarks s.toList))) with
  | .ok b => .ok b
  | .error e => .error (.invalidInput ("invalid hex quantity '" ++ s ++ "': " ++ e.message))

def decodeRecipient (toAddress : String) : Except IntentError Bytes :=
  match Text.hexDecode (unmarked toAddress) with
  | .ok b => .ok b
  | .error e => .error (.invalidInput ("invalid recipient: " ++ e.message))

def decodeValue (value : Option String) : Except IntentError Bytes :=
  match value with
  | none => .ok []
  | some v => (decodeQuantity v).mapError fun e =>
      .invalidInput ("invalid value (must be hex wei): " ++ e.message)

def maxPriority : ℕ := 1000000000

def saturatingDouble (gasPrice : UInt64) : ℕ := min (gasPrice.toNat * 2) (2 ^ 64 - 1)

def txItems (chainId : ℕ) (toBytes valueBytes dataBytes : Bytes) (gasLimit gasPrice nonce : UInt64) : List Bytes :=
  [encodeU64 chainId, encodeU64 nonce.toNat, encodeU64 maxPriority,
    encodeU64 (saturatingDouble gasPrice), encodeU64 gasLimit.toNat, encodeBytes toBytes,
    encodeBytes valueBytes, encodeBytes dataBytes, encodeList []]

def buildUnsignedEip1559Tx (chainId : ℕ) (toAddress : String) (value : Option String) (data : Option Bytes)
    (gasLimit gasPrice nonce : UInt64) : Except IntentError Bytes := do
  let toBytes ← decodeRecipient toAddress
  let valueBytes ← decodeValue value
  return 0x02 :: encodeList (txItems chainId toBytes valueBytes (data.getD []) gasLimit gasPrice nonce).flatten

/-- The number of an `eip155` chain. -/
def parseChainId (chainId : String) : Except IntentError ℕ :=
  match env.parseCaip2 chainId with
  | .error e => .error (.invalidChain ("not a CAIP-2 id: " ++ chainId ++ ": " ++ e))
  | .ok (nspace, reference) =>
    match if nspace = "eip155" then Text.parseUnsigned 10 (2 ^ 64) reference else none with
    | some n => .ok n
    | none => .error (.invalidChain ("not a numeric EVM chain id: " ++ chainId))

def checkSender : Except IntentError Unit :=
  if Text.trim fromAddress = "" then
    .error (.invalidInput "sender address is required to fetch the transaction nonce")
  else .ok ()

def paymentTx : Except IntentError Bytes := do
  let chainNum ← parseChainId env intent.chainId
  let call ← buildCallData env intent.kind rpc.chainId
  checkSender fromAddress
  let nonce ← (rpc.transactionCount fromAddress).mapError .rpc
  let gasLimit ← (rpc.estimateGas call).mapError .rpc
  let gasPrice ← rpc.gasPrice.mapError .rpc
  buildUnsignedEip1559Tx chainNum call.toAddress call.value call.data gasLimit gasPrice nonce

def unsignedTx : Except IntentError Bytes :=
  match intent.kind with
  | .signTransaction txHex _ =>
    match Text.hexDecode (unmarked txHex) with
    | .ok b => .ok b
    | .error e => .error (.invalidInput ("invalid tx_hex: " ++ e.message))
  | .pay _ _ _ | .crossChainTransfer _ _ _ _ _ => paymentTx env intent rpc fromAddress
  | .signMessage _ _ => .error (.execution "SignMessage intents are not broadcastable transactions")

/-! ## Execution -/

abbrev Signer := String → Bytes → Except IntentError Bytes

def ask {σ ε α : Type} (x : Except ε α) : Prog σ ε α := Prog.lift (x.mapError .err)

def signAndSend {σ : Type} (intent : Intent) (rpc : RpcClient) (signer : Signer) (txBytes : Bytes) :
    Prog σ IntentError IntentResult := do
  let signedTxBytes ← ask ((signer intent.sessionKeyId txBytes).mapError fun e =>
    .execution ("signing failed: " ++ e.message))
  let txHash ← ask ((rpc.sendRawTransaction signedTxBytes).mapError fun e =>
    .execution ("broadcast failed: " ++ e.message))
  let receipt ← ask ((rpc.waitForReceipt txHash).mapError fun e =>
    .execution ("receipt wait failed for tx " ++ txHash ++ ": " ++ e.message))
  return ⟨intent.id, .confirmed, some txHash, some receipt, none⟩

/-- `execute_intent`; `now` is the clock and the state is the log of what the signer was handed. -/
def executeIntent (signer : Signer) (now : ℕ) : Prog (List (String × Bytes)) IntentError IntentResult :=
  if now > intent.expiresAt then pure ⟨intent.id, .expired, none, none, some "intent expired"⟩
  else do
    let txBytes ← ask (unsignedTx env intent rpc fromAddress)
    modify (· ++ [(intent.sessionKeyId, txBytes)])
    signAndSend intent rpc signer txBytes

def handed (signer : Signer) (now : ℕ) : List Bytes :=
  ((executeIntent env intent rpc fromAddress signer now).exec []).2.map Prod.snd

end OneCipher.Intents
