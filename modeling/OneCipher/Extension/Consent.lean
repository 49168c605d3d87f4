import OneCipher.Ocwp.Resolve
import OneCipher.Extension.Decode

/-!
# OneCipher.Extension.Consent — the view against the bytes

The extension shows a transaction and sends it to the daemon, which resolves it into the bytes that are signed
(`Ocwp.resolveTransaction`).  The two readers are compared on the recipient, the value and the chain.  The
recipient always agrees.  The value agrees when the normalizer could read it: what it could not read is carried
over, and the daemon may still read it.
-/

namespace OneCipher.Extension

open Bytes Signer Prog Option Result List Text Outcome
open Core (Chain)
open Ocwp (SignHost SessionEntry Daemon ResolvedTx TxKind TxRequest Filled splitType unsignedFields recipientAt
  valueAt field fieldQuantity parseQuantity readRequest readRecipient resolveTransaction cappedItems legacyItems)

/-! ## What the bytes say -/

/-- The chain among some fields: a typed transaction starts with it, a legacy one has it behind its
six fields. -/
def chainAt (txType : UInt8) (fields : Bytes) : Option Bytes := Rlp.fieldAt fields (if txType = 0x00 then 6 else 0)

def encodedRecipient (raw : Bytes) : Option Bytes := recipientAt (splitType raw).1 (unsignedFields raw)

def encodedValue (raw : Bytes) : Option ℕ := (valueAt (splitType raw).1 (unsignedFields raw)).map beNat

def encodedChain (raw : Bytes) : Option ℕ := (chainAt (splitType raw).1 (unsignedFields raw)).map beNat

/-- The text names the recipient, and says so when there is none. -/
def NamesRecipient (text : String) (recipient : Option Bytes) : Prop :=
  (text = "(contract creation)" ↔ recipient = none) ∧
    ∀ r, recipient = some r → Text.hexDecode (Text.stripHex text) = .ok r

/-- The view says what the bytes say. -/
structure ShownAs (view : ConsentView) (raw : Bytes) : Prop where
  recipient : ∃ text, view.shows "To" = some text ∧ NamesRecipient text (encodedRecipient raw)
  value : ∃ text v, view.shows "Value" = some text ∧ encodedValue raw = some v ∧
    ethAmount text = some ((v : ℚ) / 10 ^ 18)
  chain : ∃ N, encodedChain raw = some N ∧ view.shows "Chain" = some ("eip155:" ++ toString N)

/-! ## The fields of resolved bytes -/

variable {b : Option Bytes} {name s : String} {n : ℕ}

section Bytes

variable {f : Filled} {raw : Bytes}

theorem recipient_of_length (h : ∀ r, b = some r → r.length = 20) : (some (b.getD [])).filter (·.length = 20) = b := by
  cases b with
  | none => rfl
  | some r => simp [h r rfl]

theorem itemBytes_encodeU128 (n : ℕ) : Rlp.itemBytes (encodeU128 n) = some (stripZeros (toBe 16 n)) :=
  (Ocwp.whole_encodeMinimalInt (by rw [length_toBe]; omega)).2

theorem beNat_u128 (h : n < 2 ^ 128) : beNat (stripZeros (toBe 16 n)) = n := by
  rw [beNat_stripZeros, beNat_toBe (by norm_num; omega)]

theorem length_recipient (h : ∀ r, b = some r → r.length = 20) : (b.getD []).length < 2 ^ 64 := by
  cases b with
  | none => decide
  | some r =>
    rw [getD_some, h r rfl]
    decide

def cappedFront (f : Filled) : List Bytes :=
  [encodeU128 f.request.chainNumeric, encodeU128 f.nonce, encodeU128 f.maxPriorityFee, encodeU128 f.maxFee,
    encodeU128 f.gasLimit, encodeBytes (f.request.toBytes.getD []), encodeU128 f.request.value]

theorem flatten_cappedItems (f : Filled) (last : Bytes) :
    (cappedItems f).flatten ++ last = (cappedFront f).flatten ++ (encodeBytes f.request.data ++ last) := by
  simp only [cappedItems, cappedFront, Ocwp.transferFields, cons_append, nil_append, flatten_cons,
    flatten_nil, append_assoc]

theorem whole_cappedFront (hto : ∀ r, f.request.toBytes = some r → r.length = 20) :
    ∀ item ∈ cappedFront f, Rlp.Whole item := by
  have hbytes : Rlp.Whole (encodeBytes (f.request.toBytes.getD [])) := by
    rw [encodeBytes_eq]
    exact (Rlp.whole_encodeBytes (length_recipient hto)).1
  intro item hm
  simp only [cappedFront, mem_cons, not_mem_nil, or_false] at hm
  rcases hm with h | h | h | h | h | h | h <;> rw [h]
  · exact Ocwp.whole_encodeU128 _
  · exact Ocwp.whole_encodeU128 _
  · exact Ocwp.whole_encodeU128 _
  · exact Ocwp.whole_encodeU128 _
  · exact Ocwp.whole_encodeU128 _
  · exact hbytes
  · exact Ocwp.whole_encodeU128 _

theorem itemBytes_recipient (hto : ∀ r, f.request.toBytes = some r → r.length = 20) :
    Rlp.itemBytes (encodeBytes (f.request.toBytes.getD [])) = some (f.request.toBytes.getD []) := by
  rw [encodeBytes_eq]
  exact (Rlp.whole_encodeBytes (length_recipient hto)).2

/-- What the bytes of a filled request say. -/
structure Encodes (raw : Bytes) (recipient : Option Bytes) (value : ℕ) (chain : Option ℕ) : Prop where
  recipient : encodedRecipient raw = recipient
  value : encodedValue raw = some value
  chain : encodedChain raw = chain

theorem encodes_capped {ty : UInt8} {last : Bytes} (hty : ty = 0x02 ∨ ty = 0x04)
    (hto : ∀ r, f.request.toBytes = some r → r.length = 20) (hv : f.request.value < 2 ^ 128)
    (hc : f.request.chainNumeric < 2 ^ 128)
    (ha : Addressable (ty :: Rlp.encodeList ((cappedItems f).flatten ++ last))) :
    Encodes (ty :: Rlp.encodeList ((cappedItems f).flatten ++ last)) f.request.toBytes f.request.value
      (some f.request.chainNumeric) := by
  have hsplit : splitType (ty :: Rlp.encodeList ((cappedItems f).flatten ++ last)) =
      (ty, Rlp.encodeList ((cappedItems f).flatten ++ last)) := by
    rcases hty with rfl | rfl <;> rfl
  have hindex : Ocwp.fieldIndexes ty = (5, 6, 7) := by rcases hty with rfl | rfl <;> rfl
  have hty0 : ty ≠ 0x00 := by rcases hty with rfl | rfl <;> decide
  have hlist := Rlp.length_encodeList ((cappedItems f).flatten ++ last)
  rw [Addressable, length_cons] at ha
  have hfields : unsignedFields (ty :: Rlp.encodeList ((cappedItems f).flatten ++ last)) =
      (cappedFront f).flatten ++ (encodeBytes f.request.data ++ last) := by
    rw [unsignedFields, hsplit, Rlp.payloadOf_encodeList (by omega), flatten_cappedItems]
  have hat : ∀ i < 7, Rlp.fieldAt ((cappedFront f).flatten ++ (encodeBytes f.request.data ++ last)) i =
      (cappedFront f)[i]?.bind Rlp.itemBytes := fun i hi =>
    Rlp.fieldAt_flatten_append (whole_cappedFront hto) hi _
  have hto5 : (cappedFront f)[5]? = some (encodeBytes (f.request.toBytes.getD [])) := rfl
  have hvalue6 : (cappedFront f)[6]? = some (encodeU128 f.request.value) := rfl
  have hchain0 : (cappedFront f)[0]? = some (encodeU128 f.request.chainNumeric) := rfl
  refine ⟨?_, ?_, ?_⟩
  · rw [encodedRecipient, recipientAt, hfields, hsplit, hindex, hat 5 (by decide), hto5, bind_some,
      itemBytes_recipient hto, recipient_of_length hto]
  · rw [encodedValue, valueAt, hfields, hsplit, hindex, hat 6 (by decide), hvalue6, bind_some,
      itemBytes_encodeU128, map_some, beNat_u128 hv]
  · rw [encodedChain, chainAt, hfields, hsplit, if_neg hty0, hat 0 (by decide), hchain0, bind_some,
      itemBytes_encodeU128, map_some, beNat_u128 hc]

theorem encodes_legacy (hto : ∀ r, f.request.toBytes = some r → r.length = 20) (hv : f.request.value < 2 ^ 128)
    (ha : Addressable (Rlp.encodeList (legacyItems f).flatten)) :
    Encodes (Rlp.encodeList (legacyItems f).flatten) f.request.toBytes f.request.value none := by
  have hlist := Rlp.length_encodeList (legacyItems f).flatten
  have hlen : (Rlp.encodeList (legacyItems f).flatten).length < 2 ^ 63 := ha
  obtain ⟨first, rest, hx, hge⟩ := Rlp.head_encodeList (legacyItems f).flatten (by omega)
  have hsplit : splitType (Rlp.encodeList (legacyItems f).flatten) =
      (0x00, Rlp.encodeList (legacyItems f).flatten) := by
    rw [hx, Ocwp.splitType_legacy hge]
  have hfields : unsignedFields (Rlp.encodeList (legacyItems f).flatten) = (legacyItems f).flatten := by
    rw [unsignedFields, hsplit, Rlp.payloadOf_encodeList (by omega)]
  have hat : ∀ i, Rlp.fieldAt (legacyItems f).flatten i = (legacyItems f)[i]?.bind Rlp.itemBytes :=
    Rlp.fieldAt_flatten (Ocwp.whole_legacyItems ha)
  have hindex : Ocwp.fieldIndexes 0x00 = (3, 4, 5) := rfl
  have hto3 : (legacyItems f)[3]? = some (encodeBytes (f.request.toBytes.getD [])) := rfl
  have hvalue4 : (legacyItems f)[4]? = some (encodeU128 f.request.value) := rfl
  have hnone6 : (legacyItems f)[6]? = none := rfl
  refine ⟨?_, ?_, ?_⟩
  · rw [encodedRecipient, recipientAt, hfields, hsplit, hindex, hat, hto3, bind_some,
      itemBytes_recipient hto, recipient_of_length hto]
  · rw [encodedValue, valueAt, hfields, hsplit, hindex, hat, hvalue4, bind_some,
      itemBytes_encodeU128, map_some, beNat_u128 hv]
  · rw [encodedChain, chainAt, hfields, hsplit, if_pos rfl, hat, hnone6]
    rfl

end Bytes

/-! ## What the daemon read -/

section Request

variable {chain : Chain} {obj : Members}

theorem field_single (obj : Members) (key : String) :
    field obj [key] = (obj.lookup key).filter fun value => !value.isNull := by
  rw [field, List.findSome?_cons, List.findSome?_nil]
  cases (obj.lookup key).filter fun value => !value.isNull <;> rfl

theorem read_single (obj : Members) (key : String) : read obj [key] = field obj [key] := rfl

theorem readRecipient_some {addr : String} (h : readRecipient (some addr) = .ok b) :
    ∃ r, b = some r ∧ r.length = 20 ∧ Text.hexDecode (Text.stripHex addr) = .ok r := by
  obtain ⟨r, hr, h⟩ := bind_eq_ok.mp h
  obtain ⟨hlen, h⟩ := guard_eq_ok.mp h
  cases h
  exact ⟨r, rfl, not_not.mp hlen, Ocwp.decodeHexField_eq_ok.mp hr⟩

/-- **The view names the recipient**: the two read the same member. -/
theorem namesRecipient (h : readRecipient (text obj "to") = .ok b) :
    NamesRecipient ((text obj "to").getD "(contract creation)") b ∧ ∀ r, b = some r → r.length = 20 := by
  rcases haddr : text obj "to" with _ | addr
  · rw [haddr] at h
    cases h
    refine ⟨⟨?_, ?_⟩, ?_⟩
    · simp
    · nofun
    · nofun
  · rw [haddr] at h
    obtain ⟨r, rfl, hlen, hdec⟩ := readRecipient_some h
    have hcreation : Text.hexDecode (Text.stripHex "(contract creation)") ≠ .ok r := by
      have hodd : Text.hexDecode (Text.stripHex "(contract creation)") = .error .oddLength := by decide +kernel
      nofun
    refine ⟨⟨?_, ?_⟩, ?_⟩
    · constructor
      · intro htext
        rw [getD_some] at htext
        rw [htext] at hdec
        exact absurd hdec hcreation
      · nofun
    · intro r' hr'
      cases hr'
      exact hdec
    · intro r' hr'
      cases hr'
      exact hlen

theorem fieldQuantity_cases {key : String} {v : Option ℕ} (h : fieldQuantity obj [key] name = .ok v) :
    (field obj [key] = none ∧ v = none) ∨
      (∃ s n, field obj [key] = some (.str s) ∧ parseQuantity s name = .ok n ∧ v = some n) ∨
      ∃ number n, field obj [key] = some (.num number) ∧ number.asU64 = some n ∧ v = some n := by
  unfold fieldQuantity at h
  split at h
  · next hnone =>
    cases h
    exact .inl ⟨hnone, rfl⟩
  · next s hs =>
    obtain ⟨n, hn, rfl⟩ := map_eq_ok.mp h
    exact .inr (.inl ⟨s, n, hs, hn, rfl⟩)
  · next number hnumber =>
    obtain ⟨n, hn, rfl⟩ := map_eq_ok.mp h
    exact .inr (.inr ⟨number, n, hnumber, okOr_eq_ok.mp hn, rfl⟩)
  · cases h

theorem fieldQuantity_lt {key : String} {v : Option ℕ} (h : fieldQuantity obj [key] name = .ok v) :
    v.getD 0 < 2 ^ 128 := by
  obtain ⟨-, rfl⟩ | ⟨s, n, -, hn, rfl⟩ | ⟨number, n, -, hn, rfl⟩ := fieldQuantity_cases h
  · decide
  · exact Ocwp.parseQuantity_lt hn
  · have hlt := JsonNumber.asU64_lt hn
    rw [getD_some]
    omega

end Request

/-! ## What the normalizer passes on -/

section Passed

variable {tx : Members} {fallback : String} {n : NormalizedTx} {type : Option String} {auth : Authorizations}

theorem lookup_authorizations (h : readAuthorizations tx type = .ok auth) {k : String}
    (hlist : k ≠ "authorization_list") (htype : k ≠ "type") : auth.members.lookup k = none := by
  unfold readAuthorizations at h
  split at h
  · obtain ⟨-, h⟩ := guard_eq_ok.mp h
    obtain ⟨mapped, -, h⟩ := bind_eq_ok.mp h
    obtain ⟨-, h⟩ := guard_eq_ok.mp h
    cases h
    split
    · simp [lookup_cons, beq_eq_false_iff_ne.mpr hlist]
    · simp [lookup_cons, beq_eq_false_iff_ne.mpr hlist, beq_eq_false_iff_ne.mpr htype]
  · obtain ⟨-, h⟩ := guard_eq_ok.mp h
    cases h
    rfl

theorem lookup_value (h : Normalized tx fallback n type auth) :
    n.transaction.lookup "value" = (quantity tx ["value"]).or (tx.lookup "value") := by
  rw [h.lookup (by decide), lookup_append, lookup_append,
    lookup_authorizations h.authorizations (by decide) (by decide)]
  simp [namedMembers, lookup_append, lookup_member]

theorem lookup_raw (h : Normalized tx fallback n type auth) : n.transaction.lookup "raw" = tx.lookup "raw" := by
  rw [h.lookup (by decide), lookup_append, lookup_append,
    lookup_authorizations h.authorizations (by decide) (by decide)]
  simp [namedMembers, lookup_append, lookup_member]

theorem lookup_type (h : Normalized tx fallback n type auth) :
    n.transaction.lookup "type" = ((type.map Json.str).or (auth.members.lookup "type")).or (tx.lookup "type") := by
  rw [h.lookup (by decide), lookup_append, lookup_append]
  simp [namedMembers, lookup_append, lookup_member]

end Passed

/-! ## What the view shows -/

section View

variable {tx : Members} (kind : TxConsent) (chainName : String) (delegations : List String)

theorem find_optionalField {label l : String} (h : label ≠ l) (fieldKind : Option FieldKind)
    (value : Option String) : (optionalField label fieldKind value).find? (·.label = l) = none := by
  cases value with
  | none => rfl
  | some => simp [optionalField, h]

theorem shows_to (hraw : text tx "raw" = none) :
    (buildTransactionView kind tx chainName delegations).shows "To" =
      some ((text tx "to").getD "(contract creation)") := by
  simp [ConsentView.shows, buildTransactionView, hraw, structuredParts]

theorem shows_value (hraw : text tx "raw" = none) :
    (buildTransactionView kind tx chainName delegations).shows "Value" =
      some (formatWei ((text tx "value").getD "0")) := by
  simp [ConsentView.shows, buildTransactionView, hraw, structuredParts]

theorem shows_chain (hraw : text tx "raw" = none) :
    (buildTransactionView kind tx chainName delegations).shows "Chain" = some chainName := by
  simp [ConsentView.shows, buildTransactionView, hraw, structuredParts, List.find?_append, find_optionalField]

end View

/-! ## The value -/

section Value

/-- A quantity in the normalizer's words: a safe non-negative integer, or text that is, but for white
space around it, decimal digits or `0x` and hex digits. -/
def PlainQuantity : Json → Prop
  | .num number => (Js.safeNat number).isSome
  | .str s => Js.isDecimal (Js.trim s).toList ∨ (Js.hexQuantity (Js.trim s)).isSome
  | _ => False

theorem hexQuantityToDecimal_isSome {v : Json} : (hexQuantityToDecimal v).isSome ↔ PlainQuantity v := by
  cases v with
  | num | null | bool | arr | obj => simp [hexQuantityToDecimal, PlainQuantity]
  | str s =>
    rw [hexQuantityToDecimal, PlainQuantity]
    split
    · next hdec => simp [hdec]
    · next hdec => simp [hdec]

theorem isDecimal_of_hexQuantityToDecimal {v : Json} {dec : String} (h : hexQuantityToDecimal v = some dec) :
    Js.isDecimal dec.toList = true := by
  unfold hexQuantityToDecimal at h
  split at h
  · obtain ⟨n, -, rfl⟩ := map_eq_some_iff.mp h
    exact Js.isDecimal_toString n
  · dsimp only at h
    split at h
    · next hdec =>
      cases h
      exact hdec
    · obtain ⟨digits, -, rfl⟩ := map_eq_some_iff.mp h
      exact Js.isDecimal_toString _
  · cases h

theorem parseQuantity_decimal (hs : Js.isDecimal s.toList = true) (h : parseQuantity s name = .ok n) :
    n = Nat.ofDigitChars 10 s.toList 0 := by
  obtain ⟨hne, hdigits⟩ := Js.isDecimal_iff.mp hs
  have htrim : Text.trim s = s := trim_of_forall fun c hc => not_isWhitespace_of_isDigit (hdigits c hc)
  have hmark : Text.stripPrefix "0x" s = none := by
    rcases hstrip : Text.stripPrefix "0x" s with _ | rest
    · rfl
    · have hx := hdigits 'x' (by rw [toList_of_stripPrefix hstrip]; simp)
      exact absurd hx (by decide)
  have hplus : Text.numberDigits s = s.toList := by
    unfold Text.numberDigits
    split
    · next cs hcs =>
      have hp := hdigits '+' (by rw [hcs]; exact mem_cons_self)
      exact absurd hp (by decide)
    · rfl
  rw [parseQuantity, htrim, hmark, okOr_eq_ok] at h
  obtain ⟨-, hv, -⟩ := parseUnsigned_eq_some.mp h
  rw [hplus, digitsValue_ten hdigits] at hv
  exact (Option.some.inj hv).symm

theorem not_mem_of_parseQuantity (h : parseQuantity s name = .ok n) : 'H' ∉ s.toList := by
  intro hH
  have hmem := mem_trim hH (by decide)
  rw [parseQuantity, okOr_eq_ok] at h
  split at h
  · next rest hstrip =>
    rw [toList_of_stripPrefix hstrip, mem_append] at hmem
    rcases hmem with hmem | hmem
    · exact absurd hmem (by decide)
    · exact absurd (toDigit_of_parseUnsigned h hmem) (by decide)
  · exact absurd (toDigit_of_parseUnsigned h hmem) (by decide)

theorem ethAmount_of_parseQuantity (h : parseQuantity s name = .ok n) : ethAmount s = none := by
  rcases hs : Text.stripSuffix " ETH" s with _ | amount
  · rw [ethAmount, hs]
    rfl
  · obtain ⟨cs, hcs, -⟩ := map_eq_some_iff.mp hs
    have happ := List.append_eq_of_isPrefixOf?_eq_some hcs
    have hH : 'H' ∈ s.toList.reverse := by
      rw [← happ]
      exact mem_append_left _ (by decide)
    exact absurd (mem_reverse.mp hH) (not_mem_of_parseQuantity h)

theorem value_not_shown {value : Json} (hplain : ¬ PlainQuantity value)
    (hread : (∃ s, value = .str s ∧ parseQuantity s "transaction.value" = .ok n) ∨
      ∃ number, value = .num number ∧ number.asU64 = some n) :
    ethAmount (formatWei (value.asStr.getD "0")) ≠ some ((n : ℚ) / 10 ^ 18) := by
  rcases hread with ⟨s, rfl, hs⟩ | ⟨number, rfl, hnumber⟩
  · -- a text that only the daemon reads
    have hdec : Js.isDecimal s.toList = false := by
      rw [Bool.eq_false_iff]
      intro hdec
      exact hplain (.inl (by rwa [Js.trim_of_isDecimal hdec]))
    have hshown : formatWei ((Json.str s).asStr.getD "0") = s := by
      change formatWei s = s
      rw [formatWei, hdec]
      rfl
    rw [hshown, ethAmount_of_parseQuantity hs]
    nofun
  · -- a number beyond the safe integers
    have hlarge : 2 ^ 53 ≤ n := Js.le_of_safeNat_eq_none (by simpa [PlainQuantity] using hplain) hnumber
    have hzero : ethAmount (formatWei ((Json.num number).asStr.getD "0")) = some 0 := by
      change ethAmount (formatWei "0") = some 0
      decide +kernel
    rw [hzero]
    intro heq
    have hdiv := (Option.some.inj heq).symm
    rw [div_eq_zero_iff] at hdiv
    rcases hdiv with hdiv | hdiv
    · have hn : n = 0 := by exact_mod_cast hdiv
      omega
    · exact absurd hdiv (by positivity)

variable {tx obj : Members} {v : Option ℕ}

def shownAmount (obj : Members) : Option ℚ := ethAmount (formatWei ((text obj "value").getD "0"))

theorem shownAmount_absent (hfield : field obj ["value"] = none)
    (hv : fieldQuantity obj ["value"] "transaction.value" = .ok v) :
    shownAmount obj = some (((v.getD 0 : ℕ) : ℚ) / 10 ^ 18) := by
  have htext : text obj "value" = none := by
    rw [field_single] at hfield
    rw [text]
    rcases hvalue : obj.lookup "value" with _ | j
    · rfl
    · rw [hvalue] at hfield
      cases j with
      | null => rfl
      | _ => cases hfield
  rw [fieldQuantity, hfield] at hv
  cases hv
  rw [shownAmount, htext]
  decide +kernel

theorem shownAmount_digits {dec : String} (hdigits : Js.isDecimal dec.toList = true)
    (hvalue : obj.lookup "value" = some (.str dec))
    (hv : fieldQuantity obj ["value"] "transaction.value" = .ok v) :
    shownAmount obj = some (((v.getD 0 : ℕ) : ℚ) / 10 ^ 18) := by
  have hfield : field obj ["value"] = some (.str dec) := by
    rw [field_single, hvalue]
    rfl
  rw [shownAmount, text, hvalue, bind_some, Json.asStr, getD_some, ethAmount_formatWei hdigits]
  rw [fieldQuantity, hfield] at hv
  obtain ⟨m, hm, rfl⟩ := map_eq_ok.mp hv
  rw [parseQuantity_decimal hdigits hm]
  rfl

theorem shownAmount_unread {value : Json} (hplain : ¬ PlainQuantity value)
    (hfield : field obj ["value"] = some value)
    (hv : fieldQuantity obj ["value"] "transaction.value" = .ok v) :
    shownAmount obj ≠ some (((v.getD 0 : ℕ) : ℚ) / 10 ^ 18) := by
  have hvalue : obj.lookup "value" = some value := (filter_eq_some_iff.mp ((field_single _ _).symm.trans hfield)).1
  rw [shownAmount, text, hvalue, bind_some]
  obtain ⟨hs, -⟩ | ⟨s, m, hs, hm, rfl⟩ | ⟨number, m, hs, hm, rfl⟩ := fieldQuantity_cases hv
  · rw [hfield] at hs
    cases hs
  · rw [hfield] at hs
    exact value_not_shown hplain (.inl ⟨s, Option.some.inj hs, hm⟩)
  · rw [hfield] at hs
    exact value_not_shown hplain (.inr ⟨number, Option.some.inj hs, hm⟩)

/-- **The value is shown as it is encoded exactly when the normalizer could read it.** -/
theorem value_shown_iff {fallback : String} {n : NormalizedTx} {type : Option String} {auth : Authorizations}
    (hn : Normalized tx fallback n type auth)
    (hv : fieldQuantity n.transaction ["value"] "transaction.value" = .ok v) :
    shownAmount n.transaction = some (((v.getD 0 : ℕ) : ℚ) / 10 ^ 18) ↔
      ∀ value, read tx ["value"] = some value → PlainQuantity value := by
  have hlookup := lookup_value hn
  rw [quantity] at hlookup
  rcases hdec : (read tx ["value"]).bind hexQuantityToDecimal with _ | dec
  · -- the member is carried over
    rw [hdec, map_none, none_or] at hlookup
    have hfield : field n.transaction ["value"] = read tx ["value"] := by
      rw [field_single, hlookup, ← field_single, read_single]
    rcases hread : read tx ["value"] with _ | value
    · rw [hread] at hfield
      constructor
      · nofun
      · intro _
        exact shownAmount_absent hfield hv
    · rw [hread, bind_some] at hdec
      rw [hread] at hfield
      have hplain : ¬ PlainQuantity value := by
        rw [← hexQuantityToDecimal_isSome, hdec]
        nofun
      constructor
      · intro hshown
        exact absurd hshown (shownAmount_unread hplain hfield hv)
      · intro hall
        exact absurd (hall value rfl) hplain
  · -- the member is its decimal digits
    obtain ⟨value, hread, hvalue⟩ := bind_eq_some_iff.mp hdec
    rw [hdec, map_some, some_or] at hlookup
    constructor
    · intro _ value' hvalue'
      rw [hread] at hvalue'
      cases hvalue'
      exact hexQuantityToDecimal_isSome.mp (by rw [hvalue]; rfl)
    · intro _
      exact shownAmount_digits (isDecimal_of_hexQuantityToDecimal hvalue) hlookup hv

end Value

/-! ## The kind -/

section Kind

variable {tx : Members} {fallback : String} {n : NormalizedTx} {type : Option String} {auth : Authorizations}
  {kind : TxKind}

/-- A type that means a legacy transaction: zero in hex, or the number. -/
def NamesLegacy : Option Json → Prop
  | some (.str s) => typeByte s = some 0
  | some (.num number) => number.asU64 = some 0
  | _ => False

/-- The dApp asks for a legacy transaction: by its type, and with no authorization list, which would
make it EIP-7702. -/
def AsksLegacy (tx : Members) : Prop :=
  (∀ entries, read tx ["authorizationList", "authorization_list"] ≠ some (.arr entries)) ∧
    NamesLegacy (read tx ["type"])

theorem readType_cases (h : readType tx = .ok type) :
    (∃ s byte, read tx ["type"] = some (.str s) ∧ typeByte s = some byte ∧
      (byte = 0 ∧ type = some "0x00" ∨ byte = 2 ∧ type = some "0x02" ∨ byte = 4 ∧ type = some "0x04")) ∨
      type = none ∧ ∀ s, read tx ["type"] = some (.str s) → s = "" := by
  unfold readType at h
  split at h
  · next s hs =>
    split at h
    · next hempty =>
      cases h
      refine .inr ⟨rfl, ?_⟩
      intro s' hs'
      rw [hs] at hs'
      cases hs'
      exact hempty
    · split at h
      · next byte hbyte =>
        obtain ⟨htype, hmem⟩ := filter_eq_some_iff.mp hbyte
        refine .inl ⟨s, byte, hs, htype, ?_⟩
        have hcases : byte = 0 ∨ byte = 2 ∨ byte = 4 := by simpa [supportedTxTypes] using hmem
        rcases hcases with rfl | rfl | rfl
        · exact .inl ⟨rfl, (Except.ok.inj h).symm⟩
        · exact .inr (.inl ⟨rfl, (Except.ok.inj h).symm⟩)
        · exact .inr (.inr ⟨rfl, (Except.ok.inj h).symm⟩)
      · cases h
  · next hother =>
    cases h
    exact .inr ⟨rfl, fun s hs => absurd hs (hother s)⟩

theorem readAuthorizations_cases (htyped : readType tx = .ok type) (h : readAuthorizations tx type = .ok auth) :
    (∃ entries, read tx ["authorizationList", "authorization_list"] = some (.arr entries) ∧ type = none ∧
      auth.members.lookup "type" = some (.str "0x04")) ∨
      (∀ entries, read tx ["authorizationList", "authorization_list"] ≠ some (.arr entries)) ∧
        type ≠ some "0x04" ∧ auth.members = [] := by
  unfold readAuthorizations at h
  split at h
  · next entries hentries =>
    obtain ⟨hany, h⟩ := guard_eq_ok.mp h
    obtain ⟨mapped, -, h⟩ := bind_eq_ok.mp h
    obtain ⟨-, h⟩ := guard_eq_ok.mp h
    cases h
    -- every type the normalizer writes is padded, and so refused here
    have hnone : type = none := by
      obtain ⟨s, byte, -, -, hcode⟩ | ⟨hnone, -⟩ := readType_cases htyped
      · rcases hcode with ⟨-, rfl⟩ | ⟨-, rfl⟩ | ⟨-, rfl⟩ <;> exact absurd rfl hany
      · exact hnone
    subst hnone
    exact .inl ⟨entries, hentries, rfl, rfl⟩
  · next hnot =>
    obtain ⟨hne, h⟩ := guard_eq_ok.mp h
    cases h
    exact .inr ⟨hnot, hne, rfl⟩

theorem fromWire_str {k : TxKind} (h : (TxKind.fromWire (some (.str s))).toOption = some k) :
    TxKind.fromWire (some (.str s)) = .ok k :=
  eq_ok_iff_toOption.mpr h

theorem ofByte_legacy {byte : ℕ} (h : TxKind.ofByte byte = .ok kind) : kind = .legacy ↔ byte = 0 := by
  unfold TxKind.ofByte at h
  split at h
  · cases h
    simp
  · cases h
    simp
  · cases h
    simp
  · cases h
    simp
  · cases h
  · cases h

theorem fromWire_num {number : JsonNumber} (h : TxKind.fromWire (some (.num number)) = .ok kind) :
    kind = .legacy ↔ number.asU64 = some 0 := by
  obtain ⟨byte, hbyte, h⟩ := bind_eq_ok.mp h
  obtain ⟨hu64, -⟩ := filter_eq_some_iff.mp (okOr_eq_ok.mp hbyte)
  rw [ofByte_legacy h, hu64, Option.some.injEq]

theorem not_fromWire_empty : TxKind.fromWire (some (.str "")) ≠ .ok kind := by
  intro h
  have hnone : (TxKind.fromWire (some (.str ""))).toOption = none := by decide +kernel
  rw [h] at hnone
  cases hnone

/-- **The daemon makes a legacy transaction exactly when the dApp asks for one.** -/
theorem kind_legacy_iff (hn : Normalized tx fallback n type auth)
    (hkind : TxKind.fromWire (field n.transaction ["type"]) = .ok kind) : kind = .legacy ↔ AsksLegacy tx := by
  have hlookup := lookup_type hn
  obtain ⟨entries, hentries, rfl, hauth⟩ | ⟨hnot, hne, hauth⟩ := readAuthorizations_cases hn.typed hn.authorizations
  · rw [hauth, map_none, none_or, some_or] at hlookup
    rw [field_single, hlookup] at hkind
    have h7702 : kind = .eip7702 := Except.ok.inj (hkind.symm.trans (fromWire_str (s := "0x04") (by decide +kernel)))
    rw [h7702]
    constructor
    · nofun
    · rintro ⟨hno, -⟩
      exact absurd hentries (hno entries)
  · rw [hauth, lookup_nil, or_none] at hlookup
    have hasks : AsksLegacy tx ↔ NamesLegacy (read tx ["type"]) := and_iff_right hnot
    rw [hasks]
    obtain ⟨s, byte, hread, hbyte, hcode⟩ | ⟨rfl, hempty⟩ := readType_cases hn.typed
    · rw [hread, NamesLegacy, hbyte, Option.some.injEq]
      rcases hcode with ⟨rfl, rfl⟩ | ⟨rfl, rfl⟩ | ⟨rfl, rfl⟩
      · rw [field_single, hlookup] at hkind
        have hlegacy : kind = .legacy :=
          Except.ok.inj (hkind.symm.trans (fromWire_str (s := "0x00") (by decide +kernel)))
        simp [hlegacy]
      · rw [field_single, hlookup] at hkind
        have hcapped : kind = .eip1559 :=
          Except.ok.inj (hkind.symm.trans (fromWire_str (s := "0x02") (by decide +kernel)))
        simp [hcapped]
      · exact absurd rfl hne
    · -- the type is carried over
      rw [map_none, none_or] at hlookup
      have hfield : field n.transaction ["type"] = read tx ["type"] := by
        rw [field_single, hlookup, read_single, field_single]
      rw [hfield] at hkind
      rcases hread : read tx ["type"] with _ | value
      · rw [hread] at hkind
        cases hkind
        simp [NamesLegacy]
      · rw [hread] at hkind
        cases value with
        | num => exact fromWire_num hkind
        | str s =>
          rw [hempty s hread] at hkind
          exact absurd hkind not_fromWire_empty
        | null =>
          cases hkind
          simp [NamesLegacy]
        | bool | arr | obj => cases hkind

end Kind

/-! ## The view and the bytes -/

section Shown

variable {x : SignHost} {session : SessionEntry} {chain : Chain} {d d' : Daemon}

theorem encodes_of_resolved {obj : Members} {f : Filled} {raw : Bytes} (ha : Addressable raw)
    (hrequest : readRequest chain obj = .ok f.request)
    (hraw : exec (Ocwp.encodeEnvelope x session chain obj f) d = (.ok raw, d')) :
    Encodes raw f.request.toBytes f.request.value
      (if f.request.kind = .legacy then none else some f.request.chainNumeric) := by
  obtain ⟨hnumber, -, hkind, haddress, hto, ⟨v, hv, hvalue⟩, -⟩ := Ocwp.readRequest_ok hrequest
  rw [haddress] at hto
  obtain ⟨-, hlen⟩ := namesRecipient hto
  have hlt : f.request.value < 2 ^ 128 := by
    rw [hvalue]
    exact fieldQuantity_lt hv
  obtain ⟨-, h2930⟩ := Ocwp.readKind_ok hkind
  have hchain : f.request.chainNumeric < 2 ^ 128 := by
    obtain ⟨_, -, hp⟩ := Ocwp.chainNumber_eq_ok.mp hnumber
    exact (parseUnsigned_eq_some.mp hp).2.2
  rcases Ocwp.encodeEnvelope_ok hraw with ⟨hcapped, hshape⟩ | ⟨hcapped, last, hshape⟩
  · have hlegacy : f.request.kind = .legacy := by
      revert hcapped h2930
      cases f.request.kind <;> decide
    rw [hshape] at ha ⊢
    rw [if_pos hlegacy]
    exact encodes_legacy hlen hlt ha
  · have hnot : f.request.kind ≠ .legacy := by
      revert hcapped
      cases f.request.kind <;> decide
    have hty : f.request.kind.typeByte = 0x02 ∨ f.request.kind.typeByte = 0x04 := by
      revert hcapped
      cases f.request.kind <;> decide
    rw [hshape] at ha ⊢
    rw [if_neg hnot]
    exact encodes_capped hty hlen hlt hchain ha

theorem chainNumber_of_normalized {N : ℕ} (hname : ∃ m : ℕ, name = "eip155:" ++ toString m)
    (hchain : chain.chainId = name) (h : Ocwp.chainNumber chain = .ok N) : name = "eip155:" ++ toString N := by
  obtain ⟨m, rfl⟩ := hname
  obtain ⟨reference, hstrip, hparse⟩ := Ocwp.chainNumber_eq_ok.mp h
  have hreference : reference = toString m := by
    have hlist := toList_of_stripPrefix hstrip
    rw [hchain, String.toList_append] at hlist
    exact String.toList_inj.mp (append_cancel_left hlist).symm
  rw [hreference] at hparse
  have hwide := parseUnsigned_mono (Nat.le_add_right (2 ^ 128) (m + 1)) hparse
  have hm : m = N := Option.some.inj ((parseUnsigned_toString (by omega)).symm.trans hwide)
  rw [hm]

/-- **When the view says what is signed.**  A dApp's transaction without `raw` that the normalizer takes
and the daemon resolves for an account on the chain it names is shown as it is encoded if and only if
its value is a plain quantity, or not there, and it does not ask for a legacy transaction. -/
theorem shown_as_signed_iff {tx : Members} {siteChain : String} {n : NormalizedTx} {resolved : ResolvedTx}
    {raw : Bytes} (kind : TxConsent) (hstruct : tx.lookup "raw" = none)
    (hn : normalizeEvmTx tx siteChain = .ok n) (hchain : chain.chainId = n.chainId)
    (hres : exec (resolveTransaction x session chain (.obj n.transaction)) d = (.ok resolved, d'))
    (hraw : Text.hexDecode resolved.rawHex = .ok raw) (ha : Addressable raw) :
    ShownAs (buildTransactionView kind n.transaction n.chainId n.delegations) raw ↔
      (∀ value, read tx ["value"] = some value → PlainQuantity value) ∧ ¬ AsksLegacy tx := by
  obtain ⟨type, auth, hnorm⟩ := normalizeEvmTx_ok hn
  have hnoraw : text n.transaction "raw" = none := by
    rw [text, lookup_raw hnorm, hstruct]
    rfl
  obtain ⟨f, d1, raw', hf, he, rfl⟩ := Ocwp.resolveTransaction_eq hnoraw hres
  rw [hexDecode_hexEncode] at hraw
  cases hraw
  have hrequest := (Ocwp.prepare_ok hf).request
  obtain ⟨hnumber, -, hkind, haddress, hto, ⟨v, hv, hvalue⟩, -⟩ := Ocwp.readRequest_ok hrequest
  rw [haddress] at hto
  have hlegacy := kind_legacy_iff hnorm (Ocwp.readKind_ok hkind).1
  have hencoded := encodes_of_resolved ha hrequest he
  have hshown := value_shown_iff hnorm hv
  rw [← hvalue] at hshown
  constructor
  · rintro ⟨-, ⟨text', w, htext, hw, hamount⟩, N, hN, -⟩
    rw [shows_value _ _ _ hnoraw] at htext
    rw [hencoded.value] at hw
    cases htext
    cases hw
    refine ⟨hshown.mp hamount, ?_⟩
    intro hasks
    rw [hencoded.chain, if_pos (hlegacy.mpr hasks)] at hN
    cases hN
  · rintro ⟨hplain, hasks⟩
    have hnot : f.request.kind ≠ .legacy := fun h => hasks (hlegacy.mp h)
    refine ⟨⟨_, shows_to _ _ _ hnoraw, ?_⟩, ⟨_, _, shows_value _ _ _ hnoraw, hencoded.value, hshown.mpr hplain⟩,
      f.request.chainNumeric, ?_, ?_⟩
    · rw [hencoded.recipient]
      exact (namesRecipient hto).1
    · rw [hencoded.chain, if_neg hnot]
    · rw [shows_chain _ _ _ hnoraw, ← chainNumber_of_normalized (txChain_ok hnorm.chain) hchain hnumber]

end Shown

/-! ### Two transfers -/

section Transfers

open Ocwp (offlineHost idleDaemon transferRequest cappedTransfer resolvedTransfer selecting)
open Wallet (mainnet)

/-- Normalize a transaction for a site on mainnet and resolve it for the account there: the bytes, and
the value the window shows. -/
def approveOnMainnet (tx : Members) : Option (ResolvedTx × Option String) :=
  (normalizeEvmTx tx "eip155:1").toOption.bind fun n =>
    if mainnet.chainId = n.chainId then
      (exec (resolveTransaction offlineHost (selecting []) mainnet (.obj n.transaction)) idleDaemon).1.toOption.map
        (·, (buildTransactionView .sendTransaction n.transaction n.chainId n.delegations).shows "Value")
    else none

theorem approveOnMainnet_some {tx : Members} {resolved : ResolvedTx} {shown : Option String}
    (h : approveOnMainnet tx = some (resolved, shown)) :
    ∃ n d', normalizeEvmTx tx "eip155:1" = .ok n ∧ mainnet.chainId = n.chainId ∧
      exec (resolveTransaction offlineHost (selecting []) mainnet (.obj n.transaction)) idleDaemon =
        (.ok resolved, d') ∧
      (buildTransactionView .sendTransaction n.transaction n.chainId n.delegations).shows "Value" = shown := by
  obtain ⟨n, hn, h⟩ := bind_eq_some_iff.mp h
  split at h
  · next hchain =>
    obtain ⟨r, hr, h⟩ := map_eq_some_iff.mp h
    cases h
    refine ⟨n, _, ?_, hchain, Ocwp.exec_ok_of_toOption hr, rfl⟩
    cases hnorm : normalizeEvmTx tx "eip155:1" with
    | error =>
      rw [hnorm] at hn
      cases hn
    | ok =>
      rw [hnorm] at hn
      cases hn
      rfl
  · cases h

theorem transfer_shown_as_signed :
    ∃ n d', normalizeEvmTx (transferRequest "0x2") "eip155:1" = .ok n ∧
      exec (resolveTransaction offlineHost (selecting []) mainnet (.obj n.transaction)) idleDaemon =
        (.ok (resolvedTransfer cappedTransfer .eip1559), d') ∧
      ShownAs (buildTransactionView .sendTransaction n.transaction n.chainId n.delegations) cappedTransfer := by
  have happrove : approveOnMainnet (transferRequest "0x2") =
      some (resolvedTransfer cappedTransfer .eip1559, some "0.0000000000000001 ETH") := by decide +kernel
  obtain ⟨n, d', hn, hchain, hres, -⟩ := approveOnMainnet_some happrove
  refine ⟨n, d', hn, hres, (shown_as_signed_iff .sendTransaction rfl hn hchain hres
    (hexDecode_hexEncode _) ?_).mpr ⟨?_, ?_⟩⟩
  · unfold Addressable
    decide +kernel
  · intro value hvalue
    cases hvalue
    exact .inl (by decide +kernel)
  · rintro ⟨-, hlegacy⟩
    revert hlegacy
    change ¬ typeByte "0x2" = some 0
    decide +kernel

def numberTransfer : Members := (transferRequest "0x2").dropLast ++ [("value", .num (.posInt 10000000000000000000))]

def numberTransferBytes : Bytes :=
  [0x02, 0xe7, 0x01, 0x80, 0x01, 0x01, 0x82, 0x52, 0x08, 0x94] ++ List.replicate 20 0xaa ++
    [0x88, 0x8a, 0xc7, 0x23, 0x04, 0x89, 0xe8, 0x00, 0x00, 0x80, 0xc0]

/-- **A value beyond the safe integers is shown as nothing and signed as it is.** -/
theorem number_shown_as_nothing :
    ∃ n d', normalizeEvmTx numberTransfer "eip155:1" = .ok n ∧ mainnet.chainId = n.chainId ∧
      exec (resolveTransaction offlineHost (selecting []) mainnet (.obj n.transaction)) idleDaemon =
        (.ok ⟨Text.hexEncode numberTransferBytes, some "0xaaaaaaaaaaaaaaaaaaaaaaaaaaaaaaaaaaaaaaaa",
          some "10000000000000000000", none, TxKind.eip1559.label, []⟩, d') ∧
      (buildTransactionView .sendTransaction n.transaction n.chainId n.delegations).shows "Value" = some "0 ETH" ∧
      ¬ ShownAs (buildTransactionView .sendTransaction n.transaction n.chainId n.delegations)
        numberTransferBytes := by
  have happrove : approveOnMainnet numberTransfer =
      some (⟨Text.hexEncode numberTransferBytes, some "0xaaaaaaaaaaaaaaaaaaaaaaaaaaaaaaaaaaaaaaaa",
        some "10000000000000000000", none, TxKind.eip1559.label, []⟩, some "0 ETH") := by decide +kernel
  obtain ⟨n, d', hn, hchain, hres, hshows⟩ := approveOnMainnet_some happrove
  refine ⟨n, d', hn, hchain, hres, hshows, ?_⟩
  rintro ⟨-, ⟨shown, v, hshown, hv, hamount⟩, -⟩
  rw [hshows] at hshown
  cases hshown
  have hten : encodedValue numberTransferBytes = some 10000000000000000000 := by decide +kernel
  cases hv
  revert hamount
  decide +kernel

end Transfers

end OneCipher.Extension
