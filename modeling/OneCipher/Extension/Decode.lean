import OneCipher.Base.Rlp
import OneCipher.Extension.EvmTx

/-!
# OneCipher.Extension.Decode — what the consent window shows of a transaction

The transaction part of `extension/src/lib/consent/decode.ts`: wei as ETH, the extension's own RLP
reader and its summary of an encoded transaction, and `buildTransactionView`.  Positions in a text
count characters.

`ethAmount` says what a Value text means, and `ethAmount_formatWei` that `formatWei` writes it.
-/

namespace OneCipher.Extension

open Bytes List

/-! ## Bytes -/

def stripHexPrefix (value : String) : String :=
  ((Text.stripPrefix "0x" value).orElse fun _ => Text.stripPrefix "0X" value).getD value

/-- A byte for every two characters; what is no hex counts as `parseInt` reads it. -/
def pairBytes : List Char → Bytes
  | a :: b :: rest => Js.toUint8 (Js.parseIntHex [a, b]) :: pairBytes rest
  | _ => []

def hexToBytes (value : String) : Bytes := pairBytes (stripHexPrefix value).toList

/-! ## Amounts -/

def formatWei (wei : String) : String :=
  if !Js.isDecimal wei.toList then wei
  else
    let negative := Text.startsWith "-" wei
    let digits := if negative then wei.toList.drop 1 else wei.toList
    if digits = ['0'] then "0 ETH"
    else
      let padded := digits.leftpad 19 '0'
      let whole := Js.dropLeadingZeros (padded.take (padded.length - 18))
      let frac := Js.dropTrailingZeros (padded.drop (padded.length - 18))
      let eth := if frac = [] then whole else whole ++ '.' :: frac
      (if negative then "-" else "") ++ String.ofList eth ++ " ETH"

def ethAmount (text : String) : Option ℚ :=
  (Text.stripSuffix " ETH" text).bind fun amount => Js.decimalValue amount.toList

/-! ## The RLP reader -/

def rlpReadLen (data : Bytes) (lenOfLen : ℕ) : Option (ℕ × ℕ) :=
  if lenOfLen = 0 ∨ lenOfLen > 8 ∨ data.length < 1 + lenOfLen then none
  else
    -- the loop gives up as soon as a partial length is no safe integer, and these only grow
    let len := beNat ((data.drop 1).take lenOfLen)
    if 2 ^ 53 ≤ len ∨ len < 56 then none
    else if data.length < 1 + lenOfLen + len then none
    else some (len, 1 + lenOfLen + len)

mutual
/-- One item and where it ends, with recursion depth bounded by `fuel`. -/
def rlpDecodeFuel : ℕ → Bytes → Option (Rlp × ℕ)
  | 0, _ => none
  | _ + 1, [] => none
  | fuel + 1, first :: rest =>
    let data := first :: rest
    if first < 0x80 then some (.bytes [first], 1)
    else if first ≤ 0xb7 then
      let len := first.toNat - 0x80
      if data.length < 1 + len then none else some (.bytes ((data.drop 1).take len), 1 + len)
    else if first ≤ 0xbf then do
      let (len, stop) ← rlpReadLen data (first.toNat - 0xb7)
      return (.bytes ((data.take stop).drop (stop - len)), stop)
    else if first ≤ 0xf7 then
      let len := first.toNat - 0xc0
      if data.length < 1 + len then none
      else do
        let items ← rlpDecodeListFuel fuel ((data.drop 1).take len)
        return (.list items, 1 + len)
    else do
      let (len, stop) ← rlpReadLen data (first.toNat - 0xf7)
      let items ← rlpDecodeListFuel fuel ((data.take stop).drop (stop - len))
      return (.list items, stop)

def rlpDecodeListFuel : ℕ → Bytes → Option (List Rlp)
  | 0, _ => none
  | _ + 1, [] => some []
  | fuel + 1, first :: rest => do
    let (item, stop) ← rlpDecodeFuel fuel (first :: rest)
    let items ← rlpDecodeListFuel fuel ((first :: rest).drop stop)
    return item :: items
end

def rlpDecode (data : Bytes) : Option (Rlp × ℕ) := rlpDecodeFuel (2 * data.length + 1) data

def rlpBytes : Rlp → Option Bytes
  | .bytes b => some b
  | .list _ => none

/-! ## Function selectors -/

def selectors : List (String × String) :=
  [("a9059cbb", "transfer(address,uint256)"), ("095ea7b3", "approve(address,uint256)"),
    ("23b872dd", "transferFrom(address,address,uint256)"), ("d0e30db0", "deposit()"),
    ("2e1a7d4d", "withdraw(uint256)"), ("6e553f65", "permit2 analogue (verify the contract!)"),
    ("dd62ed3e", "allowance(address,address)"), ("70a08231", "balanceOf(address)"),
    ("e8e33700", "permit(...) (EIP-2612)"), ("b6f9de95", "swapExactETHForTokens*"),
    ("38ed1739", "swapExactTokensForTokens*"), ("18cbafe5", "swapExactTokensForETH*"),
    ("7ff36ab5", "swapExactETHForTokensSupportingFee*"), ("5c11d795", "swapExactTokensForTokensSupportingFee*"),
    ("791ac947", "swapExactTokensForETHSupportingFee*"), ("fb3bdb41", "swapETHForExactTokens*"),
    ("4e71d92d", "claim()"), ("1249c58b", "mint(...)")]

/-- `approve(spender, 2^256-1)`. -/
def isUnlimitedApprove (selector : Option String) (data : Bytes) : Bool :=
  selector == some "095ea7b3" && decide (4 + 32 + 32 ≤ data.length) && ((data.drop 36).take 32).all (· == 0xff)

/-! ## The summary of an encoded transaction -/

inductive SummaryType where
  | legacy | eip2930 | eip1559 | eip7702 | unknown
  deriving DecidableEq, Repr

def SummaryType.name : SummaryType → String
  | legacy => "legacy"
  | eip2930 => "eip2930"
  | eip1559 => "eip1559"
  | eip7702 => "eip7702"
  | unknown => "unknown"

structure TxSummary where
  type : SummaryType
  toAddress : Option String
  value : Option String
  data : Option String
  chainId : Option String
  nonce : Option String
  gasLimit : Option String
  selectorName : Option String
  unlimitedApprove : Bool
  deriving DecidableEq, Repr

def emptySummary : TxSummary := ⟨.unknown, none, none, none, none, none, none, none, false⟩

/-- Where the fields of a type stand. -/
structure Indexes where
  toAddress : ℕ
  value : ℕ
  data : ℕ
  chain : Option ℕ
  nonce : ℕ
  gas : ℕ
  deriving DecidableEq, Repr

def SummaryType.indexes : SummaryType → Indexes
  | eip1559 | eip7702 => ⟨5, 6, 7, some 0, 1, 4⟩
  | eip2930 => ⟨4, 5, 6, some 0, 1, 3⟩
  | legacy | unknown => ⟨3, 4, 5, none, 0, 2⟩

def splitEnvelope (bytes : Bytes) : SummaryType × Bytes :=
  match bytes with
  | 0x01 :: body => (.eip2930, body)
  | 0x02 :: body => (.eip1559, body)
  | 0x03 :: body => (.unknown, body)
  | 0x04 :: body => (.eip7702, body)
  | _ => (.legacy, bytes)

def bytesToDecimal (b : Bytes) : String := toString (beNat b)

def summarize (type : SummaryType) (fields : List Rlp) : TxSummary :=
  let bytesAt (i : ℕ) : Option Bytes := fields[i]?.bind rlpBytes
  let dataBytes := bytesAt type.indexes.data
  let selector := (dataBytes.filter (4 ≤ ·.length)).map fun d => Text.hexEncode (d.take 4)
  { type
    toAddress := ((bytesAt type.indexes.toAddress).filter (·.length = 20)).map Text.hexText
    value := (bytesAt type.indexes.value).map bytesToDecimal
    data := (dataBytes.filter (0 < ·.length)).map Text.hexText
    chainId := (type.indexes.chain.bind bytesAt).map bytesToDecimal
    nonce := (bytesAt type.indexes.nonce).map bytesToDecimal
    gasLimit := (bytesAt type.indexes.gas).map bytesToDecimal
    selectorName := selector.bind fun s => selectors.lookup s
    unlimitedApprove := isUnlimitedApprove selector (dataBytes.getD []) }

def decodeTransactionSummary (rawHex : String) : TxSummary :=
  let bytes := hexToBytes rawHex
  if bytes = [] then emptySummary
  else match rlpDecode (splitEnvelope bytes).2 with
    | some (.list fields, _) => summarize (splitEnvelope bytes).1 fields
    | _ => emptySummary

/-! ## The view -/

inductive FieldKind where
  | text | code | warn
  deriving DecidableEq, Repr

structure ConsentField where
  label : String
  value : String
  kind : Option FieldKind
  deriving DecidableEq, Repr

structure ConsentView where
  title : String
  summary : String
  fields : List ConsentField
  warnings : List String
  deriving DecidableEq, Repr

def ConsentView.shows (view : ConsentView) (label : String) : Option String :=
  (view.fields.find? (·.label = label)).map (·.value)

/-- The kinds of consent a transaction asks for. -/
inductive TxConsent where
  | signTransaction
  | sendTransaction
  deriving DecidableEq, Repr

def truncateMiddle (value : String) (head tail : ℕ) : String :=
  let cs := value.toList
  if cs.length ≤ head + tail + 1 then value
  else String.ofList (cs.take head ++ '…' :: cs.drop (cs.length - tail))

def optionalField (label : String) (kind : Option FieldKind) (value : Option String) : List ConsentField :=
  (value.map fun v => ⟨label, v, kind⟩).toList

def unlimitedWarning : String := "UNLIMITED token approval detected — the spender can move your entire balance."

def rawParts (raw : String) : List ConsentField × List String :=
  let decoded := decodeTransactionSummary raw
  (optionalField "To" (some .code) decoded.toAddress ++ optionalField "Value" none (decoded.value.map formatWei) ++
    [⟨"Tx type", decoded.type.name, none⟩] ++
    optionalField "Gas limit" none decoded.gasLimit ++
    optionalField "Nonce" none decoded.nonce ++
    optionalField "Function" none decoded.selectorName ++
    optionalField "Data" (some .code) (decoded.data.map fun d => truncateMiddle d 20 10),
  (if decoded.unlimitedApprove then [unlimitedWarning] else []) ++
    (if decoded.type = .eip7702 then
      ["EIP-7702 delegation: this transaction changes who can act as your account."] else []))

def text (tx : Members) (key : String) : Option String := (tx.lookup key).bind Json.asStr

def shownData (tx : Members) : Option String := (text tx "data").filter fun d => d ≠ "" ∧ d ≠ "0x"

def selectorOf (data : String) : String := String.ofList ((data.toList.drop 2).take 8)

def structuredParts (tx : Members) : List ConsentField × List String :=
  let data := shownData tx
  ([⟨"To", (text tx "to").getD "(contract creation)", some (if ((text tx "to").getD "") = "" then .warn else .code)⟩,
    ⟨"Value", formatWei ((text tx "value").getD "0"), none⟩] ++
    optionalField "Function" none (data.map fun d =>
      (selectors.lookup (selectorOf d)).getD ("selector 0x" ++ selectorOf d)) ++
    optionalField "Data" (some .code) (data.map fun d => truncateMiddle d 20 10) ++
    optionalField "Gas limit" none (text tx "gas_limit") ++
    optionalField "Nonce" none (text tx "nonce") ++
    optionalField "Max fee" none ((text tx "max_fee_per_gas").map fun fee => formatWei fee ++ "/gas") ++
    optionalField "Priority fee" none
      ((text tx "max_priority_fee_per_gas").map fun fee => formatWei fee ++ "/gas") ++
    optionalField "Tx type" none (text tx "type"),
  if data.any fun d => isUnlimitedApprove (some (selectorOf d)) (hexToBytes d) then [unlimitedWarning] else [])

def viewSummary (kind : TxConsent) (raw : Bool) : String :=
  match kind, raw with
  | .sendTransaction, true => "Approve & broadcast transaction"
  | .signTransaction, true => "Approve transaction"
  | .sendTransaction, false => "Approve & send transaction"
  | .signTransaction, false => "Sign transaction"

def buildTransactionView (kind : TxConsent) (tx : Members) (chainName : String) (delegations : List String) :
    ConsentView :=
  let parts := match text tx "raw" with
    | some raw => rawParts raw
    | none => structuredParts tx
  { title := if kind = .sendTransaction then "Send transaction" else "Sign transaction"
    summary := viewSummary kind (text tx "raw").isSome
    fields := parts.1 ++ [⟨"Chain", chainName, none⟩]
    warnings := parts.2 ++ delegations.map fun delegation =>
      "EIP-7702: this transaction delegates your account to " ++ delegation ++ "." }

/-! ## What a Value text means -/

/-- **`formatWei` writes the amount**: decimal digits of wei are shown as that many ETH over `10 ^ 18`. -/
theorem ethAmount_formatWei {wei : String} (h : Js.isDecimal wei.toList = true) :
    ethAmount (formatWei wei) = some ((Nat.ofDigitChars 10 wei.toList 0 : ℚ) / 10 ^ 18) := by
  obtain ⟨hne, hdigits⟩ := Js.isDecimal_iff.mp h
  have hminus : Text.startsWith "-" wei = false := by
    rw [Bool.eq_false_iff]
    intro hstart
    obtain ⟨rest, hrest⟩ := isPrefixOf_iff_prefix.mp hstart
    have hdash := hdigits '-' (by rw [← hrest]; exact mem_cons_self)
    revert hdash
    decide
  unfold formatWei
  rw [h, hminus]
  simp only [Bool.not_true, Bool.false_eq_true, if_false]
  split
  · next hzero =>
    rw [hzero]
    decide +kernel
  · set padded := wei.toList.leftpad 19 '0' with hpadded
    have hlen : 19 ≤ padded.length := by
      rw [hpadded, length_leftpad]
      exact Nat.le_max_left _ _
    have hpad : ∀ c ∈ padded, c.isDigit = true := by
      intro c hc
      rw [hpadded, List.leftpad, mem_append] at hc
      rcases hc with hc | hc
      · rw [(mem_replicate.mp hc).2]
        decide
      · exact hdigits c hc
    have hwhole : Js.isDecimal (padded.take (padded.length - 18)) = true := by
      refine Js.isDecimal_iff.mpr ⟨?_, fun c hc => hpad c (mem_of_mem_take hc)⟩
      intro hnil
      have hnone := congrArg List.length hnil
      rw [length_take, length_nil] at hnone
      omega
    have hfrac : ∀ c ∈ Js.dropTrailingZeros (padded.drop (padded.length - 18)), c.isDigit = true := fun c hc =>
      hpad c (mem_of_mem_drop (( rdropWhile_prefix _ _).subset hc))
    have hvalue : (Nat.ofDigitChars 10 (Js.dropLeadingZeros (padded.take (padded.length - 18))) 0 : ℚ) +
        Nat.ofDigitChars 10 (Js.dropTrailingZeros (padded.drop (padded.length - 18))) 0 /
          10 ^ (Js.dropTrailingZeros (padded.drop (padded.length - 18))).length =
        Nat.ofDigitChars 10 wei.toList 0 / 10 ^ 18 := by
      rw [Js.fraction_dropTrailingZeros, Js.ofDigitChars_dropLeadingZeros, Js.ofDigitChars_split (by omega),
        hpadded, Js.ofDigitChars_leftpad]
    have hwhole' := Js.isDecimal_dropLeadingZeros hwhole
    rw [ethAmount, String.empty_append, Text.stripSuffix_append, Option.bind_some, String.toList_ofList, ← hvalue]
    split
    · next hnil =>
      rw [hnil, Js.decimalValue_whole hwhole']
      simp [Nat.ofDigitChars]
    · exact Js.decimalValue_point hwhole' hfrac

end OneCipher.Extension
