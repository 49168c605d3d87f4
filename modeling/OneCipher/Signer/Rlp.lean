import OneCipher.Base.Prog
import OneCipher.Base.Rlp

/-!
# OneCipher.Signer.Rlp — building signed EVM transactions

`oc-signer/src/rlp.rs`.  The signed bytes are made from the unsigned ones without decoding a transaction: the list
header is read, the items are kept as they are, and the signature's items are appended.
-/

namespace OneCipher.Signer

open Bytes Result List

/-! ## Errors -/

/-- `DeriveError`, alias `SignerError`. -/
inductive SignerError where
  | input (message : String)
  | crypto (message : String)
  | addressEncoding (message : String)
  | transaction (message : String)
  | unsupported (message : String)
  deriving DecidableEq, Repr

/-- `Display`. -/
def SignerError.message : SignerError → String
  | input m => "invalid input: " ++ m
  | crypto m => "crypto failure: " ++ m
  | addressEncoding m => "address encoding failed: " ++ m
  | transaction m => "invalid transaction: " ++ m
  | unsupported m => "unsupported: " ++ m

/-- A result of the signer: `Err`, or a panic. -/
abbrev Signed := Outcome SignerError

abbrev invalidTx {α : Type} (m : String) : Signed α := .error (.err (.transaction m))

/-- `usize::saturating_add`. -/
def saturatingAdd (a b : Nat) : Nat := min (a + b) (2 ^ 64 - 1)

/-- The length of a Rust slice. -/
def Addressable (b : Bytes) : Prop := b.length < 2 ^ 63

/-! ## Reading -/

/-- The long forms of `decode_length`. -/
def decodeLongLength (data : Bytes) (lenBytes : Nat) : Signed (Nat × Nat) :=
  if data.length < 1 + lenBytes then invalidTx "truncated RLP length"
  else .ok (1 + lenBytes, beNat ((data.drop 1).take lenBytes))

def decodeLength (data : Bytes) : Signed (Nat × Nat) :=
  match data with
  | [] => invalidTx "empty input"
  | first :: _ =>
    if first ≤ 0x7f then .ok (0, 1)
    else if first ≤ 0xb7 then .ok (1, first.toNat - 0x80)
    else if first ≤ 0xbf then decodeLongLength data (first.toNat - 0xb7)
    else if first ≤ 0xf7 then .ok (1, first.toNat - 0xc0)
    else decodeLongLength data (first.toNat - 0xf7)

/-- The loop of `split_items`; every round takes at least one byte. -/
def splitItemsLoop : Nat → Bytes → Signed (List Bytes)
  | _, [] => .ok []
  | 0, _ :: _ => .error .hang
  | fuel + 1, x :: xs => do
    let (off, len) ← decodeLength (x :: xs)
    let total := saturatingAdd off len
    if (x :: xs).length < total then invalidTx "truncated RLP item"
    else
      let items ← splitItemsLoop fuel ((x :: xs).drop total)
      return (x :: xs).take total :: items

def splitItems (payload : Bytes) : Signed (List Bytes) := splitItemsLoop payload.length payload

def decodeUint (item : Bytes) : Signed Nat := do
  let (off, len) ← decodeLength item
  if item.length < saturatingAdd off len then invalidTx "truncated RLP integer"
  else
    let bytes := (item.drop off).take len
    if bytes.length > 8 then invalidTx "integer exceeds u64"
    else return beNat bytes

/-! ## Writing -/

def beBytes (val : Nat) : Bytes := if val = 0 then [0] else stripZeros (toBe 8 val)

def encodeLength (len offset : Nat) : Bytes :=
  if len < 56 then [UInt8.ofNat (offset + len)]
  else UInt8.ofNat (offset + 55 + (beBytes len).length) :: beBytes len

def encodeBytes (data : Bytes) : Bytes :=
  match data with
  | [x] => if x < 0x80 then [x] else encodeLength 1 0x80 ++ [x]
  | data => encodeLength data.length 0x80 ++ data

def encodeList (items : Bytes) : Bytes := encodeLength items.length 0xc0 ++ items

/-- `encode_minimal_int`, and `encode_bytes` of `strip_leading_zeros`. -/
def encodeMinimalInt (bytes : Bytes) : Bytes := encodeBytes (stripZeros bytes)

def encodeU64 (val : Nat) : Bytes := encodeMinimalInt (toBe 8 val)

def encodeU128 (val : Nat) : Bytes := encodeMinimalInt (toBe 16 val)

/-! ## Signed transactions -/

def signatureItems (v : UInt8) (r s : Bytes) : Bytes := encodeMinimalInt [v] ++ encodeMinimalInt r ++ encodeMinimalInt s

/-- `type_byte || RLP([...fields, v, r, s])`. -/
def encodeSignedTypedTx (unsignedTx : Bytes) (v : UInt8) (r s : Bytes) : Signed Bytes :=
  match unsignedTx with
  | [] => invalidTx "empty transaction"
  | typeByte :: rlpData =>
    if typeByte ≠ 0x01 ∧ typeByte ≠ 0x02 then
      invalidTx "unsupported transaction type (expected 0x01 or 0x02)"
    else do
      let (payloadOffset, payloadLength) ← decodeLength rlpData
      -- the sum overflows, or wraps to an end before the start of the slice
      if 2 ^ 64 ≤ payloadOffset + payloadLength then .error .panic
      else if rlpData.length < payloadOffset + payloadLength then invalidTx "truncated RLP payload"
      else
        let items := (rlpData.drop payloadOffset).take payloadLength
        return typeByte :: encodeList (items ++ signatureItems v r s)

/-- The fields to keep and `v`: nine items are replay protected, six are not. -/
def legacyFields (items : List Bytes) (recoveryId : UInt8) : Signed (List Bytes × Nat) :=
  if items.length = 9 then do
    let chainId ← decodeUint (items.getD 6 [])
    let v := chainId * 2 + (35 + recoveryId.toNat)
    if v < 2 ^ 64 then return (items.take 6, v) else invalidTx "v overflows u64"
  else if items.length = 6 then .ok (items, 27 + recoveryId.toNat)
  else invalidTx "expected 6 (pre-EIP-155) or 9 (EIP-155) unsigned items"

/-- `RLP([nonce, gasPrice, gasLimit, to, value, data, v, r, s])`. -/
def encodeSignedLegacyTx (unsignedTx : Bytes) (recoveryId : UInt8) (r s : Bytes) : Signed Bytes :=
  if recoveryId > 1 then invalidTx "invalid recovery id (expected 0 or 1)"
  else match unsignedTx with
    | [] => invalidTx "empty transaction"
    | first :: _ =>
      if first < 0xc0 then invalidTx "expected RLP list (legacy transaction)"
      else do
        let (payloadOffset, payloadLength) ← decodeLength unsignedTx
        if unsignedTx.length < saturatingAdd payloadOffset payloadLength then
          invalidTx "truncated RLP payload"
        else
          let items ← splitItems ((unsignedTx.drop payloadOffset).take payloadLength)
          let (fields, v) ← legacyFields items recoveryId
          return encodeList (fields.flatten ++ encodeU64 v ++ encodeMinimalInt r ++ encodeMinimalInt s)

/-! ## The writers are canonical -/

theorem encodeLength_eq (len offset : Nat) : encodeLength len offset = Rlp.header offset len := by
  unfold encodeLength Rlp.header
  by_cases h : len < 56
  · rw [if_pos h, if_pos h]
  · have hb : beBytes len = Rlp.lengthBytes len := by
      rw [beBytes, if_neg (by omega), Rlp.lengthBytes]
    rw [if_neg h, if_neg h, hb]

theorem encodeBytes_eq (data : Bytes) : encodeBytes data = Rlp.encodeBytes data := by
  rcases data with _ | ⟨x, _ | ⟨y, ys⟩⟩ <;> simp only [encodeBytes, Rlp.encodeBytes, encodeLength_eq]

theorem encodeList_eq (items : Bytes) : encodeList items = Rlp.encodeList items := by
  rw [encodeList, Rlp.encodeList, encodeLength_eq]

/-! ## The readers agree with the header grammar -/

theorem decodeLongLength_eq_ok {x : UInt8} {rest : Bytes} {k off len : Nat} (isList : Bool) :
    decodeLongLength (x :: rest) k = .ok (off, len) ↔
      ∃ h, Rlp.longHeader isList k rest = some h ∧ h.offset = off ∧ h.payload = len := by
  unfold decodeLongLength Rlp.longHeader
  by_cases hk : rest.length < k
  · rw [if_pos hk, if_pos (by rw [length_cons]; omega)]
    constructor
    · nofun
    · nofun
  · rw [if_neg hk, if_neg (by rw [length_cons]; omega)]
    constructor
    · intro h; cases h; exact ⟨_, rfl, rfl, rfl⟩
    · rintro ⟨_, h, rfl, rfl⟩; cases h; rfl

theorem decodeLength_eq_ok {data : Bytes} {off len : Nat} :
    decodeLength data = .ok (off, len) ↔ ∃ h, Rlp.parseHeader data = some h ∧ h.offset = off ∧ h.payload = len := by
  have hshort : ∀ {isList o l}, (Except.ok (o, l) : Signed (Nat × Nat)) = .ok (off, len) ↔
      ∃ h, some (Rlp.Header.mk isList o l) = some h ∧ h.offset = off ∧ h.payload = len := by
    intro isList o l
    constructor
    · intro h; cases h; exact ⟨_, rfl, rfl, rfl⟩
    · rintro ⟨_, h, rfl, rfl⟩; cases h; rfl
  rcases data with _ | ⟨x, rest⟩
  · constructor
    · nofun
    · nofun
  · -- the two readers make the same five-way split
    have h7f : x ≤ 0x7f ↔ x.toNat < 0x80 := le_ofNat_iff (n := 0x7f) (by decide)
    have hb7 : x ≤ 0xb7 ↔ x.toNat < 0xb8 := le_ofNat_iff (n := 0xb7) (by decide)
    have hbf : x ≤ 0xbf ↔ x.toNat < 0xc0 := le_ofNat_iff (n := 0xbf) (by decide)
    have hf7 : x ≤ 0xf7 ↔ x.toNat < 0xf8 := le_ofNat_iff (n := 0xf7) (by decide)
    simp only [decodeLength, Rlp.parseHeader, h7f, hb7, hbf, hf7]
    split_ifs
    · exact hshort
    · exact hshort
    · exact decodeLongLength_eq_ok false
    · exact hshort
    · exact decodeLongLength_eq_ok true

theorem saturatingAdd_le {a b n : Nat} (hn : n < 2 ^ 64 - 1) : saturatingAdd a b ≤ n ↔ a + b ≤ n := by
  unfold saturatingAdd
  omega

theorem saturatingAdd_of_le {a b n : Nat} (hn : n < 2 ^ 64 - 1) (h : a + b ≤ n) : saturatingAdd a b = a + b := by
  unfold saturatingAdd
  omega

variable {items : List Bytes} {recoveryId : UInt8}

theorem splitItemsLoop_eq_ok {fuel : Nat} {payload : Bytes} (ha : payload.length < 2 ^ 64 - 1)
    (hf : payload.length ≤ fuel) :
    splitItemsLoop fuel payload = .ok items ↔ (∀ raw ∈ items, Rlp.Whole raw) ∧ payload = items.flatten := by
  rw [← Rlp.splitItemsFuel_eq_some hf]
  induction fuel generalizing payload items with
  | zero =>
    obtain rfl : payload = [] := length_eq_zero_iff.mp (by omega)
    simp [splitItemsLoop, Rlp.splitItemsFuel]
  | succ fuel ih =>
    rcases payload with _ | ⟨x, xs⟩
    · simp [splitItemsLoop, Rlp.splitItemsFuel]
    rw [splitItemsLoop, Rlp.splitItemsFuel, bind_eq_ok, Option.bind_eq_some_iff]
    constructor
    · rintro ⟨⟨off, len⟩, hd, hrest⟩
      obtain ⟨h, hp, rfl, rfl⟩ := decodeLength_eq_ok.mp hd
      obtain ⟨hle, hrest⟩ := guard_eq_ok.mp hrest
      rw [not_lt, saturatingAdd_le ha] at hle
      replace hle : h.total ≤ (x :: xs).length := hle
      have hsat : saturatingAdd h.offset h.payload = h.total := saturatingAdd_of_le ha hle
      rw [hsat] at hrest
      obtain ⟨items', hi, he⟩ := bind_eq_ok.mp hrest
      cases he
      have hpos := Rlp.Header.total_pos hp
      have hlen : ((x :: xs).drop h.total).length ≤ fuel := by
        rw [length_drop]
        omega
      have hnext : Rlp.nextItem (x :: xs) = some ((x :: xs).take h.total, (x :: xs).drop h.total) := by
        rw [Rlp.nextItem, hp, Option.bind_some, if_neg (not_lt.mpr hle)]
      refine ⟨_, hnext, ?_⟩
      simp only [(ih (by rw [length_drop]; omega) hlen).mp hi, Option.map_some]
    · rintro ⟨⟨raw, rest⟩, hn, hrest⟩
      obtain ⟨⟨h, hp, ht⟩, he⟩ := Rlp.nextItem_eq_some.mp hn
      have hxp : Rlp.parseHeader (x :: xs) = some h := by
        rw [he]
        exact Rlp.parseHeader_append hp rest
      have hlen := congrArg List.length he
      rw [length_append] at hlen
      have hle : h.offset + h.payload ≤ (x :: xs).length := by
        change h.total ≤ _
        omega
      refine ⟨(h.offset, h.payload), decodeLength_eq_ok.mpr ⟨h, hxp, rfl, rfl⟩, ?_⟩
      obtain ⟨items', hi, rfl⟩ := Option.map_eq_some_iff.mp hrest
      have hsplit : saturatingAdd h.offset h.payload = raw.length := by
        rw [saturatingAdd_of_le ha hle]
        exact ht
      have hpos := Rlp.Header.total_pos hp
      refine guard_eq_ok.mpr ⟨by omega, ?_⟩
      rw [hsplit, he, drop_left, take_left, (ih (by omega) (by omega)).mpr hi]
      rfl

theorem splitItems_eq_ok {payload : Bytes} (ha : payload.length < 2 ^ 64 - 1) :
    splitItems payload = .ok items ↔ (∀ raw ∈ items, Rlp.Whole raw) ∧ payload = items.flatten :=
  splitItemsLoop_eq_ok ha le_rfl

/-! ## What the encoders produce -/

/-- **The typed encoder.**  It keeps the payload behind the header as it is. -/
theorem encodeSignedTypedTx_eq_ok {raw out : Bytes} {v : UInt8} {r s : Bytes} (ha : Addressable raw) :
    encodeSignedTypedTx raw v r s = .ok out ↔
      ∃ typeByte body h, raw = typeByte :: body ∧ (typeByte = 0x01 ∨ typeByte = 0x02) ∧
        Rlp.parseHeader body = some h ∧ h.total ≤ body.length ∧
        out = typeByte :: Rlp.encodeList (h.slice body ++ signatureItems v r s) := by
  rcases raw with _ | ⟨typeByte, body⟩
  · constructor
    · nofun
    · nofun
  have hlen : body.length < 2 ^ 63 := by
    have : (typeByte :: body).length < 2 ^ 63 := ha
    rw [length_cons] at this
    omega
  rw [encodeSignedTypedTx]
  by_cases ht : typeByte ≠ 0x01 ∧ typeByte ≠ 0x02
  · rw [if_pos ht]
    constructor
    · nofun
    · rintro ⟨_, _, _, he, h1 | h2, _⟩
      · cases he; exact absurd h1 ht.1
      · cases he; exact absurd h2 ht.2
  · rw [if_neg ht, bind_eq_ok]
    constructor
    · rintro ⟨⟨off, len⟩, hd, hrest⟩
      obtain ⟨h, hp, rfl, rfl⟩ := decodeLength_eq_ok.mp hd
      obtain ⟨-, hrest⟩ := guard_eq_ok.mp hrest
      obtain ⟨hle, hrest⟩ := guard_eq_ok.mp hrest
      cases hrest
      refine ⟨typeByte, body, h, rfl, ?_, hp, not_lt.mp hle, ?_⟩
      · by_contra hne
        exact ht (not_or.mp hne)
      · rw [← encodeList_eq]
        rfl
    · rintro ⟨_, _, h, he, -, hp, hle, rfl⟩
      cases he
      refine ⟨(h.offset, h.payload), decodeLength_eq_ok.mpr ⟨h, hp, rfl, rfl⟩, ?_⟩
      have hle' : h.offset + h.payload ≤ body.length := hle
      refine guard_eq_ok.mpr ⟨by omega, guard_eq_ok.mpr ⟨by omega, ?_⟩⟩
      rw [← encodeList_eq]
      rfl

/-- The signature's `v` in a legacy transaction with the given unsigned items. -/
inductive LegacyV (items : List Bytes) (recoveryId : UInt8) : Nat → Prop
  | eip155 {chainId : Nat} : items.length = 9 → decodeUint (items.getD 6 []) = .ok chainId →
      chainId * 2 + (35 + recoveryId.toNat) < 2 ^ 64 →
      LegacyV items recoveryId (chainId * 2 + (35 + recoveryId.toNat))
  | unprotected : items.length = 6 → LegacyV items recoveryId (27 + recoveryId.toNat)

theorem LegacyV.lt {v : Nat} (h : LegacyV items recoveryId v) : v < 2 ^ 64 := by
  cases h with
  | eip155 _ _ hlt => exact hlt
  | unprotected =>
    have := recoveryId.toNat_lt
    omega

theorem legacyFields_eq_ok {fields : List Bytes} {v : Nat} :
    legacyFields items recoveryId = .ok (fields, v) ↔ LegacyV items recoveryId v ∧ fields = items.take 6 := by
  unfold legacyFields
  by_cases h9 : items.length = 9
  · rw [if_pos h9, bind_eq_ok]
    constructor
    · rintro ⟨chainId, hc, h⟩
      by_cases hv : chainId * 2 + (35 + recoveryId.toNat) < 2 ^ 64
      · simp only [if_pos hv] at h
        cases h
        exact ⟨.eip155 h9 hc hv, rfl⟩
      · simp only [if_neg hv] at h
        cases h
    · rintro ⟨hv, rfl⟩
      cases hv with
      | eip155 _ hc hlt =>
        refine ⟨_, hc, ?_⟩
        simp only [if_pos hlt]
        rfl
      | unprotected => omega
  · rw [if_neg h9]
    by_cases h6 : items.length = 6
    · rw [if_pos h6]
      constructor
      · intro h
        cases h
        exact ⟨.unprotected h6, (take_of_length_le h6.le).symm⟩
      · rintro ⟨hv, rfl⟩
        cases hv with
        | eip155 h9' => exact absurd h9' h9
        | unprotected => rw [take_of_length_le h6.le]
    · rw [if_neg h6]
      constructor
      · nofun
      · rintro ⟨hv, -⟩
        cases hv with
        | eip155 h9' => exact absurd h9' h9
        | unprotected h6' => exact absurd h6' h6

/-- **The legacy encoder.**  It keeps the first six items as they are. -/
theorem encodeSignedLegacyTx_eq_ok {raw out : Bytes} {r s : Bytes} (ha : Addressable raw) :
    encodeSignedLegacyTx raw recoveryId r s = .ok out ↔
      recoveryId ≤ 1 ∧ ∃ h items v, Rlp.parseHeader raw = some h ∧ h.isList = true ∧ h.total ≤ raw.length ∧
        (∀ item ∈ items, Rlp.Whole item) ∧ h.slice raw = items.flatten ∧ LegacyV items recoveryId v ∧
        out = Rlp.encodeList
          ((items.take 6).flatten ++ encodeU64 v ++ encodeMinimalInt r ++ encodeMinimalInt s) := by
  have hlen : raw.length < 2 ^ 63 := ha
  unfold encodeSignedLegacyTx
  by_cases hrec : recoveryId > 1
  · rw [if_pos hrec]
    constructor
    · nofun
    · rintro ⟨h, _⟩; exact absurd hrec (UInt8.not_lt.mpr h)
  rw [if_neg hrec]
  rcases raw with _ | ⟨first, rest⟩
  · constructor
    · nofun
    · nofun
  have hkind : ∀ {h}, Rlp.parseHeader (first :: rest) = some h → (h.isList = true ↔ ¬ first < 0xc0) := by
    intro h hp
    rw [UInt8.not_lt, UInt8.le_iff_toNat_le]
    change _ ↔ 0xc0 ≤ first.toNat
    rcases Rlp.parseHeader_cons hp with ⟨_, rfl⟩ | ⟨_, _, rfl⟩ | ⟨_, _, hl⟩ | ⟨_, _, rfl⟩ | ⟨_, hl⟩
    · simp; omega
    · simp; omega
    · rw [(Rlp.longHeader_eq_some.mp hl).2]; simp; omega
    · simp; omega
    · rw [(Rlp.longHeader_eq_some.mp hl).2]; simp; omega
  have hslice : ∀ h : Rlp.Header, (h.slice (first :: rest)).length < 2 ^ 64 - 1 := by
    intro h
    rw [Rlp.Header.slice, length_take, length_drop]
    omega
  rw [guard_eq_ok, bind_eq_ok]
  constructor
  · rintro ⟨hfirst, ⟨off, len⟩, hd, hrest⟩
    obtain ⟨h, hp, rfl, rfl⟩ := decodeLength_eq_ok.mp hd
    obtain ⟨hle, hrest⟩ := guard_eq_ok.mp hrest
    rw [not_lt, saturatingAdd_le (by omega)] at hle
    obtain ⟨items, hi, hrest⟩ := bind_eq_ok.mp hrest
    obtain ⟨⟨fields, v⟩, hf, hrest⟩ := bind_eq_ok.mp hrest
    cases hrest
    obtain ⟨hw, hflat⟩ := (splitItems_eq_ok (hslice h)).mp hi
    obtain ⟨hv, rfl⟩ := legacyFields_eq_ok.mp hf
    exact ⟨UInt8.not_lt.mp hrec, h, items, v, hp, (hkind hp).mpr hfirst, hle, hw, hflat, hv, encodeList_eq _⟩
  · rintro ⟨-, h, items, v, hp, hl, hle, hw, hflat, hv, rfl⟩
    have hle' : h.offset + h.payload ≤ (first :: rest).length := hle
    refine ⟨(hkind hp).mp hl, (h.offset, h.payload), decodeLength_eq_ok.mpr ⟨h, hp, rfl, rfl⟩, ?_⟩
    refine guard_eq_ok.mpr ⟨?_, bind_eq_ok.mpr ⟨items, ?_, ?_⟩⟩
    · rw [not_lt, saturatingAdd_le (by omega)]
      exact hle'
    · exact (splitItems_eq_ok (hslice h)).mpr ⟨hw, hflat⟩
    · refine bind_ok (legacyFields_eq_ok.mpr ⟨hv, rfl⟩) ?_
      rw [← encodeList_eq]
      rfl

end OneCipher.Signer
