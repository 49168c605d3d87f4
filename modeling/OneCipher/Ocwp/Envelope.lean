import OneCipher.Ocwp.Resolve

/-!
# OneCipher.Ocwp.Envelope — the EIP-1559 transactions `resolve_transaction` builds

A structured request is read field by field, completed with a node's answers and encoded.  `Faithful` says what is
expected of the result: the canonical envelope of the account's chain in which every field the caller gave stands at
its value, and of which the policy reader says what the request says.

`eip1559_faithful_iff`: this is so exactly when the fields that are read as text are text.  A recipient, call data or
a chain of another JSON type is taken for absent.
-/

namespace OneCipher.Ocwp

open Prog Core Signer Wallet Bytes Result Option List Outcome
open EvmTx (scalar toNat_ofNat_u128)

/-! ## What is expected -/

/-- A decimal or `0x`-hex quantity. -/
def quantityOf (text : String) : Option Nat :=
  match Text.stripPrefix "0x" (Text.trim text) with
  | some hexText => Text.parseUnsigned 16 (2 ^ 128) hexText
  | none => Text.parseUnsigned 10 (2 ^ 128) (Text.trim text)

def givenQuantity : Json → Option Nat
  | .str text => quantityOf text
  | .num number => number.asU64
  | _ => none

def givenBytes : Json → Option Bytes
  | .str text => (Text.hexDecode (Text.stripHex text)).toOption
  | _ => none

/-- The caller gives the chain by name or by number. -/
def GivesChain (chain : Chain) (N : Nat) : Json → Prop
  | .str text => normalizeChainReference text = .ok chain.chainId
  | .num number => number.asU64 = some N
  | _ => False

/-- The fields of a fee-capped envelope; no recipient is no bytes. -/
structure CappedFields where
  chainId : U256
  nonce : U256
  maxPriorityFee : U256
  maxFee : U256
  gas : U256
  recipient : Bytes
  value : U256
  data : Bytes

def CappedFields.items (c : CappedFields) : List Rlp :=
  [scalar c.chainId.toNat, scalar c.nonce.toNat, scalar c.maxPriorityFee.toNat,
    scalar c.maxFee.toNat, scalar c.gas.toNat, .bytes c.recipient, scalar c.value.toNat,
    .bytes c.data]

/-- Two texts of one recipient, or none. -/
def SameRecipient (a b : Option String) : Prop :=
  (a.bind fun text => (Text.hexDecode (Text.stripHex text)).toOption) =
      (b.bind fun text => (Text.hexDecode (Text.stripHex text)).toOption) ∧ a.isSome = b.isSome

def callData (data : Option String) : Option String := data.filter (· ≠ "0x")

/-- What the policy reader says of the bytes is what policy is told. -/
def SummaryAgrees (raw : Bytes) (resolved : ResolvedTx) : Prop :=
  ∃ s, (decodeTxSummary raw : Outcome OcwpError TxSummary) = .ok s ∧ SameRecipient s.toAddress resolved.toAddress ∧
    s.value = resolved.value ∧ callData s.data = callData resolved.data

/-- The bytes are the envelope of the account's chain with these fields, and the fields are the caller's. -/
structure Faithful (chain : Chain) (obj : List (String × Json)) (resolved : ResolvedTx) (raw : Bytes)
    (c : CappedFields) : Prop where
  shape : raw = 0x02 :: Rlp.encode (.list (c.items ++ [.list []]))
  account : IsEip155 chain c.chainId.toNat
  chainId : ∀ v, field obj ["chain_id", "chainId"] = some v → GivesChain chain c.chainId.toNat v
  nonce : ∀ v, field obj ["nonce"] = some v → givenQuantity v = some c.nonce.toNat
  maxPriorityFee : ∀ v, field obj ["max_priority_fee_per_gas", "maxPriorityFeePerGas"] = some v →
    givenQuantity v = some c.maxPriorityFee.toNat
  maxFee : ∀ v, field obj ["max_fee_per_gas", "maxFeePerGas"] = some v → givenQuantity v = some c.maxFee.toNat
  gas : ∀ v, field obj ["gas_limit", "gas"] = some v → givenQuantity v = some c.gas.toNat
  recipient : ∀ v, field obj ["to"] = some v → givenBytes v = some c.recipient
  value : ∀ v, field obj ["value"] = some v → givenQuantity v = some c.value.toNat
  data : ∀ v, field obj ["data", "input"] = some v → givenBytes v = some c.data
  creates : field obj ["to"] = none → c.recipient = []
  priority_le : c.maxPriorityFee.toNat ≤ c.maxFee.toNat
  summary : SummaryAgrees raw resolved

/-- The field is text or absent. -/
def TextOrAbsent (f : Option Json) : Prop := ∀ v, f = some v → ∃ text, v = .str text

/-- The fields that are read as text are text; a chain may be the account's number. -/
structure FieldsReadable (chain : Chain) (obj : List (String × Json)) : Prop where
  recipient : TextOrAbsent (field obj ["to"])
  data : TextOrAbsent (field obj ["data", "input"])
  chainId : ∀ v, field obj ["chain_id", "chainId"] = some v →
    (∃ text, v = .str text) ∨ ∃ number N, v = .num number ∧ number.asU64 = some N ∧ IsEip155 chain N

/-! ## Encoded fields -/

variable {f : Filled} {n : Nat} {fieldName : String}

theorem encodeU128_eq (h : n < 2 ^ 128) : encodeU128 n = Rlp.encode (scalar n) := by
  have hword : stripZeros (toBe 32 n) = stripZeros (toBe 16 n) := stripZeros_toBe (by norm_num; exact h) (by norm_num)
  rw [encodeU128, encodeMinimalInt, encodeBytes_eq, scalar, Rlp.encode, hword]

/-- Every number of the envelope is a `u128`. -/
structure Filled.Fits (f : Filled) : Prop where
  chainNumeric : f.request.chainNumeric < 2 ^ 128
  nonce : f.nonce < 2 ^ 128
  maxPriorityFee : f.maxPriorityFee < 2 ^ 128
  maxFee : f.maxFee < 2 ^ 128
  gasLimit : f.gasLimit < 2 ^ 128
  value : f.request.value < 2 ^ 128

def Filled.fields (f : Filled) : CappedFields where
  chainId := BitVec.ofNat 256 f.request.chainNumeric
  nonce := BitVec.ofNat 256 f.nonce
  maxPriorityFee := BitVec.ofNat 256 f.maxPriorityFee
  maxFee := BitVec.ofNat 256 f.maxFee
  gas := BitVec.ofNat 256 f.gasLimit
  recipient := f.request.toBytes.getD []
  value := BitVec.ofNat 256 f.request.value
  data := f.request.data

theorem encodeAll_fields (h : f.Fits) : Rlp.encodeAll f.fields.items = (cappedItems f).flatten := by
  simp only [CappedFields.items, Filled.fields, toNat_ofNat_u128, h.chainNumeric, h.nonce, h.maxPriorityFee, h.maxFee,
    h.gasLimit, h.value, cappedItems, transferFields, encodeU128_eq, encodeBytes_eq, Rlp.encodeAll_eq_flatten,
    Rlp.encode, map_cons, map_nil, cons_append, nil_append]

theorem encode_capped (h : f.Fits) (last : Rlp) :
    Rlp.encodeList ((cappedItems f).flatten ++ Rlp.encode last) = Rlp.encode (.list (f.fields.items ++ [last])) := by
  rw [Rlp.encode, Rlp.encodeAll_eq_flatten, map_append, flatten_append, ← Rlp.encodeAll_eq_flatten, encodeAll_fields h]
  simp

/-! ## What the resolver takes from a request -/

section Given

variable {x : SignHost} {session : SessionEntry} {chain : Chain} {obj : List (String × Json)} {d d' : Daemon}

theorem parseQuantity_eq_ok {text : String} : parseQuantity text fieldName = .ok n ↔ quantityOf text = some n := by
  rw [parseQuantity, okOr_eq_ok]
  unfold quantityOf
  cases Text.stripPrefix "0x" (Text.trim text) <;> exact Iff.rfl

variable {q : Option Nat}

theorem fieldQuantity_given {keys : List String} {v : Json} (h : fieldQuantity obj keys fieldName = .ok q)
    (hv : field obj keys = some v) : givenQuantity v = q ∧ q.isSome := by
  rw [fieldQuantity, hv] at h
  cases v with
  | str =>
    obtain ⟨n, hn, rfl⟩ := map_eq_ok.mp h
    rw [givenQuantity, parseQuantity_eq_ok.mp hn]
    exact ⟨rfl, rfl⟩
  | num =>
    obtain ⟨n, hn, rfl⟩ := map_eq_ok.mp h
    rw [givenQuantity, okOr_eq_ok.mp hn]
    exact ⟨rfl, rfl⟩
  | null | bool | arr | obj => cases h

theorem given_of_read {keys : List String} (h : fieldQuantity obj keys fieldName = .ok q)
    (hn : ∀ m, q = some m → n = m) (v : Json) (hv : field obj keys = some v) : givenQuantity v = some n := by
  obtain ⟨hg, hs⟩ := fieldQuantity_given h hv
  obtain ⟨m, rfl⟩ := isSome_iff_exists.mp hs
  rw [hg, hn m rfl]

theorem fetchQuantity_lt {method : String} {params : Json}
    (h : exec (fetchQuantity x chain method params) d = (.ok (some n), d')) : n < 2 ^ 128 := by
  obtain ⟨result, d1, -, h⟩ := exec_bind_ok.mp h
  obtain ⟨text, -, h⟩ := exec_lift_bind_ok.mp h
  obtain ⟨m, hm, h⟩ := exec_lift_bind_ok.mp h
  cases h
  exact parseQuantity_lt hm

theorem fetchOr_lt {method : String} {default : Nat} (hd : default < 2 ^ 128)
    (h : exec (fetchOr x chain method default) d = (.ok n, d')) : n < 2 ^ 128 := by
  obtain ⟨fetched, d1, hf, h⟩ := exec_bind_ok.mp h
  rw [exec_attempt] at hf
  rcases hq : exec (fetchQuantity x chain method (.arr [])) d with ⟨(e | _ | _) | (_ | m), d2⟩ <;> rw [hq] at hf <;>
    cases hf <;> cases h
  · exact hd
  · exact hd
  · exact fetchQuantity_lt hq

theorem fetchNonce_ok {sender : String} (hq : ∀ m, q = some m → m < 2 ^ 128)
    (h : exec (fetchNonce x chain sender q) d = (.ok n, d')) : (∀ m, q = some m → n = m) ∧ n < 2 ^ 128 := by
  rcases q with _ | m
  · obtain ⟨fetched, d1, hf, h⟩ := exec_bind_ok.mp h
    obtain rfl := okOr_eq_ok.mp (Prod.mk.inj h).1
    exact ⟨(fun _ hm => by cases hm), fetchQuantity_lt hf⟩
  · cases h
    exact ⟨fun _ hm => Option.some.inj hm, hq n rfl⟩

theorem fetchGas_ok {sender : String} {r : TxRequest} (hq : ∀ m, q = some m → m < 2 ^ 128)
    (h : exec (fetchGas x chain sender r q) d = (.ok n, d')) : (∀ m, q = some m → n = m) ∧ n < 2 ^ 128 := by
  rcases q with _ | m
  · refine ⟨(fun _ hm => by cases hm), ?_⟩
    obtain ⟨fetched, d1, hf, h⟩ := exec_bind_ok.mp h
    obtain rfl := Except.ok.inj (Prod.mk.inj h).1
    rcases fetched with _ | g
    · norm_num
    · simp only [u128Max]
      omega
  · cases h
    exact ⟨fun _ hm => Option.some.inj hm, hq n rfl⟩

theorem fetchPriorityFee_ok {kind : TxKind} {fees : FeeRequest} {p : Nat} (hfees : readFees kind obj = .ok fees)
    (h : exec (fetchPriorityFee x chain kind fees) d = (.ok p, d')) :
    (∀ m, fees.priority = some m → p = m) ∧ p < 2 ^ 128 := by
  rcases hq : fees.priority.orElse fun _ => fees.gasPrice with _ | q
  · rw [fetchPriorityFee, hq] at h
    refine ⟨(fun m hm => by rw [hm] at hq; cases hq), ?_⟩
    dsimp only at h
    split at h
    · exact fetchOr_lt (by norm_num [defaultPriorityFeeWei]) h
    · cases h
      norm_num
  · obtain rfl := fetchPriorityFee_stated hq h
    refine ⟨fun m hm => ?_, readFees_lt hfees hq⟩
    rw [hm] at hq
    cases hq
    rfl

theorem maxFeeOf_lt {kind : TxKind} {fees : FeeRequest} (hfees : readFees kind obj = .ok fees) (baseFee p : Nat) :
    maxFeeOf fees baseFee p < 2 ^ 128 := by
  obtain ⟨hgas, -, hmax⟩ := readFees_ok hfees
  rcases hm : fees.maxFee with _ | m <;> rw [hm] at hmax
  · rcases hg : fees.gasPrice with _ | g <;> rw [hg] at hgas
    · simp only [maxFeeOf, hm, hg, u128Max, orElse_none, getD_none]
      omega
    · simpa [maxFeeOf, hm, hg] using fieldQuantity_lt hgas
  · simpa [maxFeeOf, hm] using fieldQuantity_lt hmax

/-- The numbers of the envelope are the request's where the request states them. -/
structure Filled.Keeps (f : Filled) (obj : List (String × Json)) : Prop where
  nonce : ∀ v, field obj ["nonce"] = some v → givenQuantity v = some f.nonce
  maxPriorityFee : ∀ v, field obj ["max_priority_fee_per_gas", "maxPriorityFeePerGas"] = some v →
    givenQuantity v = some f.maxPriorityFee
  maxFee : ∀ v, field obj ["max_fee_per_gas", "maxFeePerGas"] = some v → givenQuantity v = some f.maxFee
  gas : ∀ v, field obj ["gas_limit", "gas"] = some v → givenQuantity v = some f.gasLimit
  value : ∀ v, field obj ["value"] = some v → givenQuantity v = some f.request.value

/-- **A prepared request keeps what was stated**, in numbers of 128 bits. -/
theorem prepare_keeps (h : exec (prepare x session chain obj) d = (.ok f, d')) :
    f.Keeps obj ∧ f.Fits ∧ f.maxPriorityFee ≤ f.maxFee := by
  obtain ⟨r, hr, h⟩ := exec_lift_bind_ok.mp h
  obtain ⟨sender, -, h⟩ := exec_lift_bind_ok.mp h
  obtain ⟨⟨⟩, -, h⟩ := exec_lift_bind_ok.mp h
  obtain ⟨fees, hfees, h⟩ := exec_lift_bind_ok.mp h
  obtain ⟨nonceField, hnonceField, h⟩ := exec_lift_bind_ok.mp h
  obtain ⟨nonce, d1, hnonce, h⟩ := exec_bind_ok.mp h
  obtain ⟨gasField, hgasField, h⟩ := exec_lift_bind_ok.mp h
  obtain ⟨gasLimit, d2, hgas, h⟩ := exec_bind_ok.mp h
  obtain ⟨baseFee, d3, -, h⟩ := exec_bind_ok.mp h
  obtain ⟨priority, d4, hpriority, h⟩ := exec_bind_ok.mp h
  obtain ⟨hle, h⟩ := exec_guard_ok.mp h
  cases h
  obtain ⟨hkeepNonce, hltNonce⟩ := fetchNonce_ok (fun m hm => fieldQuantity_lt (hm ▸ hnonceField)) hnonce
  obtain ⟨hkeepGas, hltGas⟩ := fetchGas_ok (fun m hm => fieldQuantity_lt (hm ▸ hgasField)) hgas
  obtain ⟨hkeepPriority, hltPriority⟩ := fetchPriorityFee_ok hfees hpriority
  obtain ⟨-, hpriorityField, hmaxField⟩ := readFees_ok hfees
  obtain ⟨q, hvalueField, hvalue⟩ := (readRequest_ok hr).value
  refine ⟨?_, ?_, not_lt.mp hle⟩
  · exact {
      nonce := given_of_read hnonceField hkeepNonce
      maxPriorityFee := given_of_read hpriorityField hkeepPriority
      maxFee := given_of_read hmaxField fun m hm => by simp [maxFeeOf, hm]
      gas := given_of_read hgasField hkeepGas
      value := given_of_read hvalueField fun m hm => by rw [hvalue, hm, getD_some] }
  · obtain ⟨_, -, hparse⟩ := chainNumber_eq_ok.mp (readRequest_ok hr).number
    have hltValue : r.value < 2 ^ 128 := by
      rcases q with _ | m
      · rw [hvalue]
        norm_num
      · rw [hvalue]
        exact fieldQuantity_lt hvalueField
    exact ⟨(Text.parseUnsigned_eq_some.mp hparse).2.2, hltNonce, hltPriority, maxFeeOf_lt hfees _ _, hltGas, hltValue⟩

end Given

/-! ## The result -/

section Result

variable {x : SignHost} {session : SessionEntry} {chain : Chain} {obj : List (String × Json)} {d d' : Daemon}

theorem lookup_bind_asStr (key : String) : (obj.lookup key).bind Json.asStr = (field obj [key]).bind Json.asStr := by
  rcases h : obj.lookup key with _ | v
  · simp [field, h]
  · cases v <;> simp [field, h] <;> rfl

theorem givenBytes_of_decode {text : String} {b : Bytes} (h : decodeHexField text fieldName = .ok b) :
    givenBytes (.str text) = some b := by
  rw [givenBytes, decodeHexField_eq_ok.mp h]
  rfl

theorem isText_of_givenBytes {v : Json} {b : Bytes} (h : givenBytes v = some b) : ∃ text, v = .str text := by
  cases v with
  | str text => exact ⟨text, rfl⟩
  | num | null | bool | arr | obj => cases h

theorem readRecipient_ok {toAddress : Option String} {toBytes : Option Bytes}
    (h : readRecipient toAddress = .ok toBytes) :
    toAddress = none ∧ toBytes = none ∨ ∃ text b, toAddress = some text ∧ toBytes = some b ∧ b.length = 20 ∧
      decodeHexField text "transaction.to" = .ok b := by
  rcases toAddress with _ | text
  · cases h
    exact .inl ⟨rfl, rfl⟩
  · obtain ⟨b, hb, h⟩ := bind_eq_ok.mp h
    obtain ⟨hlen, h⟩ := guard_eq_ok.mp h
    cases h
    exact .inr ⟨text, b, rfl, rfl, not_not.mp hlen, hb⟩

theorem decodeTxSummary_items {c : CappedFields} (h : (Rlp.encode (.list (c.items ++ [.list []]))).length < 2 ^ 64) :
    (decodeTxSummary (0x02 :: Rlp.encode (.list (c.items ++ [.list []]))) : Outcome OcwpError TxSummary) =
      .ok { toAddress := if c.recipient.length = 20 then some (Text.hexText c.recipient) else none
            value := some (toString (c.value.toNat % 2 ^ 128))
            data := some (Text.hexText c.data)
            kindLabel := kindLabel 0x02 } := by
  have h16 : (256 : Nat) ^ 16 = 2 ^ 128 := by norm_num
  have hsplit : splitType (0x02 :: Rlp.encode (.list (c.items ++ [.list []]))) =
      (0x02, Rlp.encode (.list (c.items ++ [.list []]))) := splitType_typed (.inr rfl)
  have hindexes : fieldIndexes 0x02 = (5, 6, 7) := rfl
  have hto : (c.items ++ [Rlp.list []])[5]? = some (.bytes c.recipient) := rfl
  have hvalue : (c.items ++ [Rlp.list []])[6]? = some (scalar c.value.toNat) := rfl
  have hdata : (c.items ++ [Rlp.list []])[7]? = some (.bytes c.data) := rfl
  simp only [decodeTxSummary, hsplit, rlpDecode_encode h, summarize, hindexes, hto, hvalue, hdata, bind_some,
    scalar, rlpBytes, map_some, valueText, beNat_drop, EvmTx.beNat_scalar c.value.isLt, h16]
  congr 2
  by_cases h20 : c.recipient.length = 20 <;> simp [h20]

theorem encodeEnvelope_eip1559 {raw : Bytes} (hkind : f.request.kind = .eip1559) (hfits : f.Fits)
    (h : exec (encodeEnvelope x session chain obj f) d = (.ok raw, d')) :
    raw = 0x02 :: Rlp.encode (.list (f.fields.items ++ [.list []])) := by
  rw [encodeEnvelope, if_pos (by rw [hkind]; rfl), hkind] at h
  obtain ⟨last, d1, hlast, h⟩ := exec_bind_ok.mp h
  obtain rfl := Except.ok.inj (Prod.mk.inj hlast).1
  obtain rfl := Except.ok.inj (Prod.mk.inj h).1
  have hempty : Rlp.encodeList [] = Rlp.encode (.list []) := by rw [Rlp.encode, Rlp.encodeAll]
  rw [encodeList_eq, encodeList_eq, hempty, encode_capped hfits]
  rfl

theorem summaryAgrees {resolved : ResolvedTx} (hfits : f.Fits)
    (hto : readRecipient f.request.toAddress = .ok f.request.toBytes)
    (hlen : (Rlp.encode (.list (f.fields.items ++ [.list []]))).length < 2 ^ 64)
    (haddress : resolved.toAddress = f.request.toAddress) (hvalue : resolved.value = some (toString f.request.value))
    (hdata : resolved.data = if f.request.data = [] then none else some (Text.hexText f.request.data)) :
    SummaryAgrees (0x02 :: Rlp.encode (.list (f.fields.items ++ [.list []]))) resolved := by
  refine ⟨_, decodeTxSummary_items hlen, ?_, ?_, ?_⟩
  · rw [haddress]
    rcases readRecipient_ok hto with ⟨hnone, hbytes⟩ | ⟨text, b, hsome, hbytes, h20, hb⟩
    · have hrecipient : f.fields.recipient = [] := by simp [Filled.fields, hbytes]
      simp [SameRecipient, hrecipient, hnone]
    · have hrecipient : f.fields.recipient = b := by simp [Filled.fields, hbytes]
      rw [hrecipient, if_pos h20, hsome]
      simp [SameRecipient, decodeHexField_eq_ok.mp hb, Except.toOption]
  · have hnat : f.fields.value.toNat = f.request.value := toNat_ofNat_u128 hfits.value
    rw [hvalue, hnat, Nat.mod_eq_of_lt hfits.value]
  · have hbytes : f.fields.data = f.request.data := rfl
    rw [hdata, hbytes]
    rcases f.request.data with _ | ⟨byte, rest⟩
    · rfl
    · rw [if_neg (cons_ne_nil _ _)]

/-- **When an EIP-1559 transaction is the one asked for.**  A structured transaction that resolves is the canonical
envelope of the account's chain with every field at the value the caller gave, and the policy reader sees in it what
policy is told, if and only if the recipient and the call data are text where they are given, and so is the chain, or
it is the account's number. -/
theorem eip1559_faithful_iff (x : SignHost) (session : SessionEntry) (chain : Chain) (obj : List (String × Json))
    (d d' : Daemon) (resolved : ResolvedTx) (raw : Bytes) (hstruct : (obj.lookup "raw").bind Json.asStr = none)
    (hkind : TxKind.fromWire (field obj ["type"]) = .ok .eip1559)
    (hres : exec (resolveTransaction x session chain (.obj obj)) d = (.ok resolved, d'))
    (hraw : Text.hexDecode resolved.rawHex = .ok raw) (ha : Addressable raw) :
    (∃ c, Faithful chain obj resolved raw c) ↔ FieldsReadable chain obj := by
  constructor
  · rintro ⟨c, hc⟩
    refine ⟨fun v hv => isText_of_givenBytes (hc.recipient v hv), fun v hv => isText_of_givenBytes (hc.data v hv), ?_⟩
    intro v hv
    have hgives := hc.chainId v hv
    cases v with
    | str text => exact .inl ⟨text, rfl⟩
    | num number => exact .inr ⟨number, _, rfl, hgives, hc.account⟩
    | null | bool | arr | obj => cases hgives
  · intro hread
    obtain ⟨f, d1, raw', hf, he, rfl⟩ := resolveTransaction_eq hstruct hres
    rw [Text.hexDecode_hexEncode] at hraw
    cases hraw
    obtain ⟨hnumber, hcheck, hk, haddress, hto, -, hdata⟩ := readRequest_ok (prepare_ok hf).request
    have hk1559 : f.request.kind = .eip1559 := Except.ok.inj ((readKind_ok hk).1.symm.trans hkind)
    obtain ⟨hkeeps, hfits, hle⟩ := prepare_keeps hf
    have hshape := encodeEnvelope_eip1559 hk1559 hfits he
    have haccount := chainNumber_eq_ok.mp hnumber
    have hchainId : f.fields.chainId.toNat = f.request.chainNumeric := toNat_ofNat_u128 hfits.chainNumeric
    rw [lookup_bind_asStr] at haddress
    refine ⟨f.fields, {
      shape := hshape
      account := by rwa [hchainId]
      chainId := ?_
      nonce := fun v hv => by rw [hkeeps.nonce v hv]; exact congrArg some (toNat_ofNat_u128 hfits.nonce).symm
      maxPriorityFee := fun v hv => by
        rw [hkeeps.maxPriorityFee v hv]; exact congrArg some (toNat_ofNat_u128 hfits.maxPriorityFee).symm
      maxFee := fun v hv => by rw [hkeeps.maxFee v hv]; exact congrArg some (toNat_ofNat_u128 hfits.maxFee).symm
      gas := fun v hv => by rw [hkeeps.gas v hv]; exact congrArg some (toNat_ofNat_u128 hfits.gasLimit).symm
      recipient := ?_
      value := fun v hv => by rw [hkeeps.value v hv]; exact congrArg some (toNat_ofNat_u128 hfits.value).symm
      data := ?_
      creates := ?_
      priority_le := ?_
      summary := ?_ }⟩
    · -- a chain by name was compared with the account's
      intro v hv
      rcases hread.chainId v hv with ⟨text, rfl⟩ | ⟨number, N, rfl, hN, hisN⟩
      · rw [checkChainField, fieldStr, hv] at hcheck
        obtain ⟨requested, hnorm, hcheck⟩ := bind_eq_ok.mp hcheck
        obtain ⟨hsame, -⟩ := guard_eq_ok.mp hcheck
        rw [GivesChain, hnorm, not_not.mp hsame]
      · rw [GivesChain, hN, hchainId]
        exact congrArg some (Except.ok.inj ((chainNumber_eq_ok.mpr hisN).symm.trans hnumber))
    · intro v hv
      obtain ⟨text, rfl⟩ := hread.recipient v hv
      rw [haddress, hv] at hto
      rcases readRecipient_ok hto with ⟨hnone, -⟩ | ⟨text', b, hsome, hbytes, -, hb⟩
      · cases hnone
      · cases hsome
        rw [givenBytes_of_decode hb]
        simp [Filled.fields, hbytes]
    · intro v hv
      obtain ⟨text, rfl⟩ := hread.data v hv
      rw [readData, fieldStr, hv] at hdata
      exact givenBytes_of_decode hdata
    · intro hnone
      rw [haddress, hnone] at hto
      have hbytes : none = f.request.toBytes := Except.ok.inj hto
      simp [Filled.fields, ← hbytes]
    · rw [show f.fields.maxPriorityFee.toNat = f.maxPriorityFee from toNat_ofNat_u128 hfits.maxPriorityFee,
        show f.fields.maxFee.toNat = f.maxFee from toNat_ofNat_u128 hfits.maxFee]
      exact hle
    · rw [hshape] at ha ⊢
      have hlen : (0x02 :: Rlp.encode (.list (f.fields.items ++ [.list []]))).length < 2 ^ 63 := ha
      rw [length_cons] at hlen
      exact summaryAgrees hfits hto (by omega) rfl rfl rfl

end Result

/-! ### A chain given as a number -/

def baseRequest : List (String × Json) := transferRequest "0x2" ++ [("chainId", .num (.posInt 8453))]

theorem resolve_transfer :
    ∃ d', exec (resolveTransaction offlineHost (selecting []) mainnet (.obj (transferRequest "0x2"))) idleDaemon =
      (.ok (resolvedTransfer cappedTransfer .eip1559), d') :=
  ⟨_, exec_ok_of_toOption (by decide +kernel)⟩

theorem eip1559_faithful_transfer :
    (∃ c, Faithful mainnet (transferRequest "0x2") (resolvedTransfer cappedTransfer .eip1559) cappedTransfer c) ↔
      FieldsReadable mainnet (transferRequest "0x2") := by
  obtain ⟨d', hres⟩ := resolve_transfer
  refine eip1559_faithful_iff offlineHost (selecting []) mainnet (transferRequest "0x2") idleDaemon d' _ cappedTransfer
    rfl ?_ hres (Text.hexDecode_hexEncode _) ?_
  · exact eq_ok_iff_toOption.mpr (by decide +kernel)
  · unfold Addressable; decide +kernel

/-- **A transaction for another chain is signed for the account's.**  The request names chain 8453 as a JSON number;
the envelope that is built is for chain 1. -/
theorem numeric_chain_ignored :
    (∃ d', exec (resolveTransaction offlineHost (selecting []) mainnet (.obj baseRequest)) idleDaemon =
      (.ok (resolvedTransfer cappedTransfer .eip1559), d')) ∧
    IsEip155 mainnet 1 ∧ field baseRequest ["chain_id", "chainId"] = some (.num (.posInt 8453)) ∧
    ¬ ∃ c, Faithful mainnet baseRequest (resolvedTransfer cappedTransfer .eip1559) cappedTransfer c := by
  refine ⟨⟨_, exec_ok_of_toOption (by decide +kernel)⟩, isEip155_mainnet, rfl, ?_⟩
  rintro ⟨c, hc⟩
  have hgiven : JsonNumber.asU64 (.posInt 8453) = some c.chainId.toNat := hc.chainId _ rfl
  have haccount : c.chainId.toNat = 1 :=
    Except.ok.inj ((chainNumber_eq_ok.mpr hc.account).symm.trans (chainNumber_eq_ok.mpr isEip155_mainnet))
  rw [haccount] at hgiven
  revert hgiven
  decide

end OneCipher.Ocwp
