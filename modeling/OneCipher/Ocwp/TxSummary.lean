import OneCipher.Signer.Evm
import OneCipher.Signer.EvmTx

/-!
# OneCipher.Ocwp.TxSummary — what policy sees of a raw transaction

The policy projection of `wallet_rpc/ocwp/handlers.rs`: a second RLP reader, independent of the signer's, decodes
the whole transaction and picks the recipient, the value and the data by position.
-/

namespace OneCipher.Ocwp

open Bytes Signer List Rlp Result Outcome
open EvmSigner (sigS sigR)
open Rlp (Header parseHeader encodeAll header fieldAt)
open Rlp.Header (length_slice slice_append)
open EvmSigner (sigV encodeSignedTransaction)

/-! ## The reader -/

/-- `None`. -/
abbrev noItem {α : Type} : Outcome Unit α := .error (.err ())

def rlpReadLen (data : Bytes) (lenOfLen : Nat) : Outcome Unit (Nat × Nat) :=
  if lenOfLen = 0 ∨ lenOfLen > 8 ∨ data.length < 1 + lenOfLen then noItem
  else
    -- eight length bytes never overflow the checked arithmetic of the loop
    let len := beNat ((data.drop 1).take lenOfLen)
    if len < 56 then noItem
    -- the end overflows, or wraps to before the start of the slice
    else if 2 ^ 64 ≤ 1 + lenOfLen + len then .error .panic
    else if data.length < 1 + lenOfLen + len then noItem
    else .ok (len, 1 + lenOfLen + len)

mutual
/-- One item and the number of bytes it takes, with recursion depth bounded by `fuel`. -/
def rlpDecodeFuel : Nat → Bytes → Outcome Unit (Rlp × Nat)
  | 0, _ => .error .hang
  | _ + 1, [] => noItem
  | fuel + 1, first :: rest =>
    let data := first :: rest
    if first < 0x80 then .ok (.bytes [first], 1)
    else if first ≤ 0xb7 then
      let len := first.toNat - 0x80
      if data.length < 1 + len then noItem else .ok (.bytes ((data.drop 1).take len), 1 + len)
    else if first ≤ 0xbf then do
      let (len, stop) ← rlpReadLen data (first.toNat - 0xb7)
      return (.bytes ((data.take stop).drop (stop - len)), stop)
    else if first ≤ 0xf7 then
      let len := first.toNat - 0xc0
      if data.length < 1 + len then noItem
      else do
        let items ← rlpDecodeListFuel fuel ((data.drop 1).take len)
        return (.list items, 1 + len)
    else do
      let (len, stop) ← rlpReadLen data (first.toNat - 0xf7)
      let items ← rlpDecodeListFuel fuel ((data.take stop).drop (stop - len))
      return (.list items, stop)

def rlpDecodeListFuel : Nat → Bytes → Outcome Unit (List Rlp)
  | 0, _ => .error .hang
  | _ + 1, [] => .ok []
  | fuel + 1, first :: rest => do
    let (item, used) ← rlpDecodeFuel fuel (first :: rest)
    let items ← rlpDecodeListFuel fuel ((first :: rest).drop used)
    return item :: items
end

def rlpDecode (data : Bytes) : Outcome Unit (Rlp × Nat) := rlpDecodeFuel (2 * data.length + 1) data

def rlpBytes : Rlp → Option Bytes
  | .bytes b => some b
  | .list _ => none

/-! ## The summary -/

structure TxSummary where
  toAddress : Option String
  value : Option String
  data : Option String
  kindLabel : String
  deriving DecidableEq, Repr

def splitType (raw : Bytes) : UInt8 × Bytes :=
  match raw with
  | t :: rest => if 0x01 ≤ t ∧ t ≤ 0x04 then (t, rest) else (0x00, raw)
  | [] => (0x00, raw)

variable (txType : UInt8)

def fieldIndexes : Nat × Nat × Nat :=
  if txType = 0x02 ∨ txType = 0x04 then (5, 6, 7)
  else if txType = 0x01 then (4, 5, 6)
  else (3, 4, 5)

def valueText (b : Bytes) : String := toString (beNat (b.drop (b.length - 16)))

def kindLabel : String :=
  if txType = 0x00 then "0x00 (legacy)"
  else if txType = 0x01 then "0x01 (EIP-2930)"
  else if txType = 0x02 then "0x02 (EIP-1559)"
  else if txType = 0x04 then "0x04 (EIP-7702 delegation)"
  else "0x" ++ Text.hexEncode [txType]

def summarize (fields : List Rlp) : TxSummary :=
  let (toIdx, valueIdx, dataIdx) := fieldIndexes txType
  { toAddress := ((fields[toIdx]?.bind rlpBytes).filter (·.length = 20)).map Text.hexText
    value := (fields[valueIdx]?.bind rlpBytes).map valueText
    data := (fields[dataIdx]?.bind rlpBytes).map Text.hexText
    kindLabel := kindLabel txType }

def emptySummary : TxSummary := ⟨none, none, none, "unknown"⟩

/-- The policy-visible summary of a raw transaction; bytes the reader does not accept have none. -/
def decodeTxSummary {ε : Type} (raw : Bytes) : Outcome ε TxSummary :=
  match rlpDecode (splitType raw).2 with
  | .ok (.list fields, _) => .ok (summarize (splitType raw).1 fields)
  | .ok (.bytes _, _) => .ok emptySummary
  | .error (.err ()) => .ok emptySummary
  | .error .panic => .error .panic
  | .error .hang => .error .hang

/-! ## The reader's grammar -/

/-- A long header is needed. -/
def Minimal (h : Header) : Prop := 1 < h.offset → 56 ≤ h.payload

/-- The bytes are an item as the reader wants it. -/
inductive Strict : Bytes → Rlp → Prop
  | bytes {raw : Bytes} {h : Header} : parseHeader raw = some h → h.total = raw.length →
      Minimal h → h.isList = false → Strict raw (.bytes (h.slice raw))
  | list {raw : Bytes} {h : Header} (ps : List (Bytes × Rlp)) : parseHeader raw = some h →
      h.total = raw.length → Minimal h → h.isList = true → h.slice raw = (ps.map (·.1)).flatten →
      (∀ p ∈ ps, Strict p.1 p.2) → Strict raw (.list (ps.map (·.2)))

variable {data raw signature : Bytes} {used : Nat} {x : Rlp}

theorem Strict.whole (h : Strict raw x) : Rlp.Whole raw := by
  cases h with
  | bytes hp ht | list _ hp ht => exact ⟨_, hp, ht⟩

/-- The header is minimal and all of the item is there. -/
def Accepts (data : Bytes) (h : Header) : Prop := Minimal h ∧ h.total ≤ data.length

def Fails {α : Type} (o : Outcome Unit α) : Prop := o = noItem ∨ o = .error .panic

theorem rlpReadLen_cases {first : UInt8} {rest : Bytes} {k : Nat} (isList : Bool) (hk : 1 ≤ k ∧ k ≤ 8)
    (ha : (first :: rest).length < 2 ^ 64) :
    (∃ h, Rlp.longHeader isList k rest = some h ∧ Accepts (first :: rest) h ∧
      rlpReadLen (first :: rest) k = .ok (h.payload, h.total)) ∨
    (∀ h, Rlp.longHeader isList k rest = some h → ¬ Accepts (first :: rest) h) ∧ Fails (rlpReadLen (first :: rest) k) := by
  by_cases hlen : rest.length < k
  · refine .inr ⟨fun h hl _ => absurd (longHeader_eq_some.mp hl).1 (not_le.mpr hlen), .inl ?_⟩
    rw [rlpReadLen, if_pos (by rw [length_cons]; omega)]
  have hl : Rlp.longHeader isList k rest = some ⟨isList, 1 + k, beNat (rest.take k)⟩ :=
    longHeader_eq_some.mpr ⟨by omega, rfl⟩
  rw [rlpReadLen, if_neg (by rw [length_cons]; omega), hl]
  simp only [drop_succ_cons, drop_zero, Option.some.injEq, forall_eq', exists_eq_left', Accepts, Minimal, Rlp.Header.total]
  split_ifs with h56 hwrap hcut
  · exact .inr ⟨by omega, .inl rfl⟩
  · exact .inr ⟨by omega, .inr rfl⟩
  · exact .inr ⟨by omega, .inl rfl⟩
  · exact .inl ⟨by omega, rfl⟩

/-- The item behind a header. -/
def Content (fuel : Nat) (h : Header) (data : Bytes) (x : Rlp) : Prop :=
  if h.isList then ∃ xs, rlpDecodeListFuel fuel (h.slice data) = .ok xs ∧ x = .list xs
  else x = .bytes (h.slice data)

/-- What the reader goes on to do behind a header. -/
def readContent (fuel : Nat) (h : Header) (data : Bytes) : Outcome Unit (Rlp × Nat) :=
  if h.isList then rlpDecodeListFuel fuel (h.slice data) >>= fun items => pure (.list items, h.total)
  else .ok (.bytes (h.slice data), h.total)

theorem readContent_eq_ok {fuel : Nat} {h : Header} :
    readContent fuel h data = .ok (x, used) ↔ used = h.total ∧ Content fuel h data x := by
  unfold readContent Content
  split
  · rw [bind_eq_ok]
    constructor
    · rintro ⟨xs, hxs, he⟩
      cases he
      exact ⟨rfl, xs, hxs, rfl⟩
    · rintro ⟨rfl, xs, hxs, rfl⟩
      exact ⟨xs, hxs, rfl⟩
  · simp [eq_comm, and_comm]

/-- **One step of the reader**: it reads on behind a header that it accepts, and fails where there is none. -/
theorem rlpDecodeFuel_cases (fuel : Nat) (ha : data.length < 2 ^ 64) :
    (∃ h, parseHeader data = some h ∧ Accepts data h ∧ rlpDecodeFuel (fuel + 1) data = readContent fuel h data) ∨
    (∀ h, parseHeader data = some h → ¬ Accepts data h) ∧ Fails (rlpDecodeFuel (fuel + 1) data) := by
  rcases data with _ | ⟨first, rest⟩
  · exact .inr ⟨fun _ h => (by cases h), .inl rfl⟩
  have hbyte := first.toNat_lt
  have h80 : first < 0x80 ↔ first.toNat < 0x80 := UInt8.lt_iff_toNat_lt
  have hb7 : first ≤ 0xb7 ↔ first.toNat < 0xb8 := le_ofNat_iff (n := 0xb7) (by decide)
  have hbf : first ≤ 0xbf ↔ first.toNat < 0xc0 := le_ofNat_iff (n := 0xbf) (by decide)
  have hf7 : first ≤ 0xf7 ↔ first.toNat < 0xf8 := le_ofNat_iff (n := 0xf7) (by decide)
  simp only [rlpDecodeFuel, parseHeader, h80, hb7, hbf, hf7]
  split_ifs with c1 c2 c3 c4 c5 c6
  · -- a byte for itself
    exact .inl ⟨_, rfl, ⟨by simp [Minimal], by simp [Rlp.Header.total]⟩, rfl⟩
  · exact .inr ⟨fun h hh hacc => by cases hh; exact absurd hacc.2 (not_le.mpr c3), .inl rfl⟩
  · exact .inl ⟨_, rfl, ⟨by simp [Minimal], not_lt.mp c3⟩, rfl⟩
  · -- a long string
    obtain ⟨h, hl, hacc, hr⟩ | ⟨hno, hr⟩ := rlpReadLen_cases false (k := first.toNat - 0xb7) (by omega) ha
    · refine .inl ⟨h, hl, hacc, ?_⟩
      rw [hr, readContent, if_neg (by simp [(longHeader_eq_some.mp hl).2]), ← h.drop_take_total]
      rfl
    · exact .inr ⟨hno, hr.imp (by rw [·]; rfl) (by rw [·]; rfl)⟩
  · exact .inr ⟨fun h hh hacc => by cases hh; exact absurd hacc.2 (not_le.mpr c6), .inl rfl⟩
  · exact .inl ⟨_, rfl, ⟨by simp [Minimal], not_lt.mp c6⟩, rfl⟩
  · -- a long list
    obtain ⟨h, hl, hacc, hr⟩ | ⟨hno, hr⟩ := rlpReadLen_cases true (k := first.toNat - 0xf7) (by omega) ha
    · refine .inl ⟨h, hl, hacc, ?_⟩
      rw [hr, readContent, if_pos (by rw [(longHeader_eq_some.mp hl).2]), ← h.drop_take_total]
      rfl
    · exact .inr ⟨hno, hr.imp (by rw [·]; rfl) (by rw [·]; rfl)⟩

theorem rlpDecodeFuel_succ_eq_ok {fuel : Nat} (ha : data.length < 2 ^ 64) :
    rlpDecodeFuel (fuel + 1) data = .ok (x, used) ↔
      ∃ h, parseHeader data = some h ∧ Minimal h ∧ h.total ≤ data.length ∧ used = h.total ∧ Content fuel h data x := by
  obtain ⟨h, hp, ⟨hmin, hle⟩, heq⟩ | ⟨hno, hfail⟩ := rlpDecodeFuel_cases fuel ha
  · simp [heq, readContent_eq_ok, hp, hmin, hle]
  · refine iff_of_false (fun h => ?_) fun ⟨h, hp, hmin, hle, _⟩ => hno h hp ⟨hmin, hle⟩
    rcases hfail with hfail | hfail <;> cases hfail.symm.trans h

/-- **Soundness.**  What the reader accepts is strict, and what it returns is what was there. -/
theorem rlpDecode_sound (fuel : Nat) :
    (∀ data x used, data.length < 2 ^ 64 → rlpDecodeFuel fuel data = .ok (x, used) →
      used ≤ data.length ∧ 0 < used ∧ Strict (data.take used) x) ∧
    (∀ data xs, data.length < 2 ^ 64 → rlpDecodeListFuel fuel data = .ok xs →
      ∃ ps : List (Bytes × Rlp), data = (ps.map (·.1)).flatten ∧ (∀ p ∈ ps, Strict p.1 p.2) ∧ xs = ps.map (·.2)) := by
  induction fuel with
  | zero =>
    refine ⟨?_, ?_⟩
    · nofun
    · nofun
  | succ fuel ih =>
    obtain ⟨ihItem, ihList⟩ := ih
    refine ⟨?_, ?_⟩
    · intro data x used ha hdec
      obtain ⟨h, hp, hmin, hle, rfl, hc⟩ := (rlpDecodeFuel_succ_eq_ok ha).mp hdec
      refine ⟨hle, Rlp.Header.total_pos hp, ?_⟩
      have hp' := parseHeader_take hp
      have ht : h.total = (data.take h.total).length := by rw [length_take]; omega
      unfold Content at hc
      split at hc
      · next hl =>
        obtain ⟨xs, hxs, rfl⟩ := hc
        have hlen : (h.slice data).length < 2 ^ 64 := by
          rw [length_slice hle]
          have : h.offset + h.payload ≤ data.length := hle
          omega
        obtain ⟨ps, hflat, hps, rfl⟩ := ihList _ _ hlen hxs
        exact .list ps hp' ht hmin hl (by rw [h.slice_take_total]; exact hflat) hps
      · next hl =>
        rw [hc, ← h.slice_take_total]
        exact .bytes hp' ht hmin (Bool.eq_false_of_not_eq_true hl)
    · intro data xs ha h
      rcases data with _ | ⟨first, rest⟩
      · cases h
        exact ⟨[], rfl, by simp, rfl⟩
      obtain ⟨⟨item, used⟩, hitem, h⟩ := bind_eq_ok.mp h
      obtain ⟨items, hitems, h⟩ := bind_eq_ok.mp h
      cases h
      obtain ⟨-, -, hs⟩ := ihItem _ _ _ ha hitem
      have hlen : ((first :: rest).drop used).length < 2 ^ 64 := by rw [length_drop]; omega
      obtain ⟨ps, hflat, hps, rfl⟩ := ihList _ _ hlen hitems
      refine ⟨((first :: rest).take used, item) :: ps, ?_, forall_mem_cons.mpr ⟨hs, hps⟩, rfl⟩
      rw [map_cons, flatten_cons, ← hflat, take_append_drop]

theorem rlpDecodeListFuel_flatten {ps : List (Bytes × Rlp)}
    (hps : ∀ p ∈ ps, p.1 ≠ [] ∧ ∀ rest fuel, (p.1 ++ rest).length < 2 ^ 64 → 2 * p.1.length < fuel →
      rlpDecodeFuel fuel (p.1 ++ rest) = .ok (p.2, p.1.length)) {fuel : Nat}
    (ha : (ps.map (·.1)).flatten.length < 2 ^ 64) (hf : 2 * (ps.map (·.1)).flatten.length + 1 < fuel) :
    rlpDecodeListFuel fuel (ps.map (·.1)).flatten = .ok (ps.map (·.2)) := by
  induction ps generalizing fuel with
  | nil =>
    obtain ⟨n, rfl⟩ : ∃ n, fuel = n + 1 := ⟨fuel - 1, by omega⟩
    rfl
  | cons p ps ih =>
    obtain ⟨⟨hne, hitem⟩, hps⟩ := forall_mem_cons.mp hps
    obtain ⟨n, rfl⟩ : ∃ n, fuel = n + 1 := ⟨fuel - 1, by omega⟩
    have hpos := length_pos_iff.mpr hne
    rw [map_cons, flatten_cons] at ha hf ⊢
    rw [length_append] at hf
    have hrest : rlpDecodeListFuel n (ps.map (·.1)).flatten = .ok (ps.map (·.2)) := by
      rw [length_append] at ha
      exact ih hps (by omega) (by omega)
    have hfirst := hitem (ps.map (·.1)).flatten n ha (by omega)
    obtain ⟨x, xs, hx⟩ : ∃ x xs, p.1 ++ (ps.map (·.1)).flatten = x :: xs :=
      exists_cons_of_ne_nil (append_ne_nil_of_left_ne_nil hne _)
    rw [hx, rlpDecodeListFuel, ← hx, hfirst]
    refine bind_eq_ok.mpr ⟨_, rfl, bind_eq_ok.mpr ⟨_, ?_, rfl⟩⟩
    rw [drop_left]
    exact hrest

/-- **Completeness.**  The reader accepts every strict item, whatever follows it. -/
theorem Strict.decode (hs : Strict raw x) (rest : Bytes) {fuel : Nat} (ha : (raw ++ rest).length < 2 ^ 64)
    (hf : 2 * raw.length < fuel) :
    rlpDecodeFuel fuel (raw ++ rest) = .ok (x, raw.length) := by
  induction hs generalizing rest fuel with
  | @bytes raw h hp ht hmin hl =>
    obtain ⟨n, rfl⟩ : ∃ n, fuel = n + 1 := ⟨fuel - 1, by omega⟩
    refine (rlpDecodeFuel_succ_eq_ok ha).mpr
      ⟨h, parseHeader_append hp rest, hmin, by rw [length_append]; omega, ht.symm, ?_⟩
    rw [Content, if_neg (by rw [hl]; decide), slice_append ht.le]
  | @list raw h ps hp ht hmin hl hflat hps ih =>
    obtain ⟨n, rfl⟩ : ∃ n, fuel = n + 1 := ⟨fuel - 1, by omega⟩
    refine (rlpDecodeFuel_succ_eq_ok ha).mpr
      ⟨h, parseHeader_append hp rest, hmin, by rw [length_append]; omega, ht.symm, ?_⟩
    have hlen : (ps.map (·.1)).flatten.length = h.payload := by
      rw [← hflat, length_slice ht.le]
    have hoff := Rlp.Header.offset_pos hp hl
    have htot : h.offset + h.payload = raw.length := ht
    rw [length_append] at ha
    rw [Content, if_pos hl, slice_append ht.le, hflat]
    refine ⟨_, rlpDecodeListFuel_flatten (fun p hp => ⟨(hps p hp).whole.ne_nil, ?_⟩) (by omega) (by omega), rfl⟩
    intro rest fuel ha hf
    exact ih p hp rest ha hf

/-- **The reader reads exactly the strict grammar.** -/
theorem rlpDecode_eq_ok (ha : data.length < 2 ^ 64) :
    rlpDecode data = .ok (x, used) ↔ used ≤ data.length ∧ Strict (data.take used) x := by
  constructor
  · intro h
    obtain ⟨hle, -, hs⟩ := (rlpDecode_sound _).1 _ _ _ ha h
    exact ⟨hle, hs⟩
  · rintro ⟨hle, hs⟩
    have hlen : (data.take used).length = used := by rw [length_take]; omega
    have h : rlpDecodeFuel (2 * data.length + 1) (data.take used ++ data.drop used) =
        .ok (x, (data.take used).length) :=
      hs.decode (data.drop used) (by rw [take_append_drop]; exact ha) (by omega)
    rw [take_append_drop, hlen] at h
    exact h

/-! ## Canonical encodings are strict -/

mutual
/-- **The reader accepts what the canonical encoder writes**, and reads back what was written. -/
theorem strict_encode : ∀ x : Rlp, (Rlp.encode x).length < 2 ^ 64 → Strict (Rlp.encode x) x
  | .bytes b, h => by
    rw [Rlp.encode] at h ⊢
    obtain ⟨off, hp, ht, hdrop, hmin⟩ := parseHeader_encodeBytes (lt_of_le_of_lt (length_le_encodeBytes b) h) []
    rw [append_nil] at hp
    have hs : (Rlp.Header.mk false off b.length).slice (Rlp.encodeBytes b) = b := by
      rw [Rlp.Header.slice, hdrop, take_of_length_le le_rfl]
    have hmin' : Minimal ⟨false, off, b.length⟩ := by
      intro hlt
      change 1 < off at hlt
      by_contra hb
      have := hmin (not_le.mp hb)
      omega
    have hstrict := Strict.bytes hp ht hmin' rfl
    rwa [hs] at hstrict
  | .list items, h => by
    rw [Rlp.encode] at h ⊢
    have hlen := length_encodeList (encodeAll items)
    have hlt : (encodeAll items).length < 2 ^ 64 := by omega
    have hp := parseHeader_encodeList' hlt
    have hslice : (Rlp.Header.mk true (header 0xc0 (encodeAll items).length).length
        (encodeAll items).length).slice (Rlp.encodeList (encodeAll items)) =
        ((items.map fun x => (Rlp.encode x, x)).map (·.1)).flatten := by
      rw [← payloadOf_eq hp, payloadOf_encodeList hlt, encodeAll_eq_flatten, map_map]
      rfl
    have hmin : Minimal ⟨true, (header 0xc0 (encodeAll items).length).length, (encodeAll items).length⟩ := by
      intro hlt
      by_contra hb
      have hone : (header 0xc0 (encodeAll items).length).length = 1 := length_header_of_lt 0xc0 (not_le.mp hb)
      change 1 < (header 0xc0 (encodeAll items).length).length at hlt
      omega
    have hstrict := Strict.list _ hp hlen.symm hmin rfl hslice (strict_encodeAll items hlt)
    rw [map_map] at hstrict
    rwa [show ((fun p : Bytes × Rlp => p.2) ∘ fun x => (Rlp.encode x, x)) = id from rfl, map_id] at hstrict

theorem strict_encodeAll : ∀ xs : List Rlp, (encodeAll xs).length < 2 ^ 64 →
    ∀ p ∈ xs.map (fun x => (Rlp.encode x, x)), Strict p.1 p.2
  | [], _ => by simp
  | x :: xs, h => by
    rw [encodeAll, length_append] at h
    rw [map_cons]
    exact forall_mem_cons.mpr ⟨strict_encode x (by omega), strict_encodeAll xs (by omega)⟩

end

theorem rlpDecode_encode (h : (Rlp.encode x).length < 2 ^ 64) :
    rlpDecode (Rlp.encode x) = .ok (x, (Rlp.encode x).length) :=
  (rlpDecode_eq_ok h).mpr ⟨le_rfl, by rw [take_length]; exact strict_encode x h⟩

/-! ## The reader comes to an end -/

theorem rlpDecodeFuel_ne_hang (fuel : Nat) :
    (∀ data, data.length < 2 ^ 64 → 2 * data.length < fuel → rlpDecodeFuel fuel data ≠ .error .hang) ∧
    (∀ data, data.length < 2 ^ 64 → 2 * data.length + 1 < fuel → rlpDecodeListFuel fuel data ≠ .error .hang) := by
  induction fuel with
  | zero => exact ⟨by omega, by omega⟩
  | succ fuel ih =>
    obtain ⟨ihItem, ihList⟩ := ih
    refine ⟨?_, ?_⟩
    · intro data ha hf
      obtain ⟨h, hp, ⟨-, hle⟩, heq⟩ | ⟨-, hfail⟩ := rlpDecodeFuel_cases fuel ha
      · rw [heq, readContent]
        split_ifs with hl
        · -- a nested list is at least its header byte shorter
          have hlen := length_slice hle
          have hoff := Rlp.Header.offset_pos hp hl
          have htotal : h.offset + h.payload ≤ data.length := hle
          refine bind_ne_hang (ihList _ (by omega) (by omega)) ?_
          nofun
        · nofun
      · rcases hfail with hfail | hfail <;> rw [hfail] <;> nofun
    · intro data ha hf
      rcases data with _ | ⟨first, rest⟩
      · nofun
      refine bind_ne_hang (ihItem _ ha (by omega)) ?_
      rintro ⟨item, used⟩ hitem
      obtain ⟨hle, hpos, -⟩ := (rlpDecode_sound fuel).1 _ _ _ ha hitem
      have hlen : ((first :: rest).drop used).length < (first :: rest).length := by
        rw [length_drop]
        omega
      refine bind_ne_hang (ihList _ (by omega) (by omega)) ?_
      nofun

/-! ## Fields by position -/

def unsignedFields (raw : Bytes) : Bytes := Rlp.payloadOf (splitType raw).2

/-- The bytes of the transaction fields in a signed output: a typed transaction ends in the three
items of the signature, and in a legacy transaction they stand behind the sixth item. -/
def signedFields (signature out : Bytes) : Bytes :=
  let payload := Rlp.payloadOf (splitType out).2
  if (splitType out).1 = 0x00 then payload
  else
    let sigItems := signatureItems (sigV signature) (sigR signature)
      (sigS signature)
    payload.take (payload.length - sigItems.length)

def recipientAt (fields : Bytes) : Option Bytes := (fieldAt fields (fieldIndexes txType).1).filter (·.length = 20)

def valueAt (fields : Bytes) : Option Bytes := fieldAt fields (fieldIndexes txType).2.1

def dataAt (fields : Bytes) : Option Bytes := fieldAt fields (fieldIndexes txType).2.2

/-- The summary reports these fields, the value as an integer. -/
def Reports (s : TxSummary) (txType : UInt8) (fields : Bytes) : Prop :=
  s.toAddress = (recipientAt txType fields).map Text.hexText ∧
  s.value = (valueAt txType fields).map (fun b => toString (beNat b)) ∧
  s.data = (dataAt txType fields).map Text.hexText

theorem Strict.itemBytes (hs : Strict raw x) : Rlp.itemBytes raw = rlpBytes x := by
  cases hs with
  | bytes hp _ _ hl | list _ hp _ _ hl => simp [Rlp.itemBytes, hp, hl, rlpBytes]

theorem fieldAt_of_decode (ha : data.length < 2 ^ 64) {fields : List Rlp}
    (h : rlpDecode data = .ok (.list fields, used)) (i : Nat) :
    fieldAt (Rlp.payloadOf data) i = fields[i]?.bind rlpBytes := by
  obtain ⟨hle, hs⟩ := (rlpDecode_eq_ok ha).mp h
  cases hs with
  | @list _ hd ps hp ht _ _ hflat hps =>
    have hp' : parseHeader data = some hd := by
      have := parseHeader_append hp (data.drop used)
      rwa [take_append_drop] at this
    have hslice : hd.slice data = (ps.map (·.1)).flatten := by
      rw [← hflat, ← slice_append ht.le (data.drop used), take_append_drop]
    have hw : ∀ raw ∈ ps.map (·.1), Rlp.Whole raw := by
      intro raw hraw
      obtain ⟨p, hp, rfl⟩ := mem_map.mp hraw
      exact (hps p hp).whole
    rw [payloadOf_eq hp', hslice, fieldAt_flatten hw, List.getElem?_map, List.getElem?_map]
    rcases hi : ps[i]? with _ | p
    · rfl
    · exact (hps p (mem_of_getElem? hi)).itemBytes

theorem valueText_eq {b : Bytes} (h : beNat b < 2 ^ 128) : valueText b = toString (beNat b) := by
  have h16 : (256 : Nat) ^ 16 = 2 ^ 128 := by norm_num
  rw [valueText, beNat_drop, h16, Nat.mod_eq_of_lt h]

/-! ## The signed output keeps the fields -/

theorem splitType_legacy {x : UInt8} {rest : Bytes} (hx : 0xc0 ≤ x.toNat) :
    splitType (x :: rest) = (0x00, x :: rest) := by
  have : ¬ (0x01 ≤ x ∧ x ≤ 0x04) := by
    rintro ⟨-, h⟩
    have h4 : x.toNat < 5 := (le_ofNat_iff (n := 4) (by decide)).mp h
    omega
  simp only [splitType, if_neg this]

theorem splitType_typed {t : UInt8} {rest : Bytes} (ht : t = 0x01 ∨ t = 0x02) : splitType (t :: rest) = (t, rest) := by
  rcases ht with rfl | rfl <;> rfl

theorem length_encodeMinimalInt_le (b : Bytes) (h : b.length ≤ 32) : (encodeMinimalInt b).length ≤ 33 := by
  have hs := length_stripZeros_le b
  rw [encodeMinimalInt, encodeBytes_eq]
  generalize stripZeros b = z at hs
  rcases z with _ | ⟨x, _ | ⟨y, ys⟩⟩
  · decide
  · simp only [Rlp.encodeBytes]
    split <;> simp [header]
  · simp only [Rlp.encodeBytes, header, length_append, length_cons] at hs ⊢
    rw [if_pos (by omega)]
    simp only [length_cons, length_nil]
    omega

theorem length_signatureItems_le (signature : Bytes) :
    (signatureItems (sigV signature) (sigR signature) (sigS signature)).length ≤ 99 := by
  have hv := length_encodeMinimalInt_le [sigV signature] (by simp)
  have hr := length_encodeMinimalInt_le (sigR signature) (by simp [sigR])
  have hs := length_encodeMinimalInt_le (sigS signature) (by simp [sigS])
  simp only [signatureItems, length_append]
  omega

theorem splitType_list {h : Header} (hp : parseHeader data = some h) (hl : h.isList = true) :
    splitType data = (0x00, data) := by
  rcases data with _ | ⟨x, rest⟩
  · cases hp
  refine splitType_legacy ?_
  rcases parseHeader_cons hp with ⟨_, rfl⟩ | ⟨_, _, rfl⟩ | ⟨_, _, hk⟩ | ⟨hge, _⟩ | ⟨hge, _⟩
  · cases hl
  · cases hl
  · rw [(longHeader_eq_some.mp hk).2] at hl; cases hl
  · exact hge
  · omega

theorem signedFields_typed {out : Bytes} (ha : Addressable raw) (hform : EvmSigner.TypedForm raw signature out) :
    (splitType out).1 = (splitType raw).1 ∧ signedFields signature out = unsignedFields raw := by
  obtain ⟨t, body, h, rfl, ht, hp, hle, rfl⟩ := hform
  have ht0 : t ≠ 0x00 := by rcases ht with rfl | rfl <;> decide
  have hlen : (h.slice body ++ signatureItems (sigV signature) (sigR signature) (sigS signature)).length < 2 ^ 64 := by
    have hbody : (t :: body).length < 2 ^ 63 := ha
    have hpay := length_slice hle
    have hle' : h.offset + h.payload ≤ body.length := hle
    have hsig := length_signatureItems_le signature
    rw [length_cons] at hbody
    rw [length_append]
    omega
  rw [signedFields, unsignedFields, splitType_typed ht, splitType_typed ht]
  refine ⟨rfl, ?_⟩
  simp only [if_neg ht0, payloadOf_encodeList hlen, payloadOf_eq hp, length_append, Nat.add_sub_cancel, take_left]

theorem length_legacyItems_lt (signature : Bytes) (ha : Addressable raw) {h : Header} {items : List Bytes}
    (hle : h.total ≤ raw.length) (hflat : h.slice raw = items.flatten) (v : Nat) :
    ((items.take 6).flatten ++ encodeU64 v ++ encodeMinimalInt (sigR signature) ++
      encodeMinimalInt (sigS signature)).length < 2 ^ 64 := by
  have hraw : raw.length < 2 ^ 63 := ha
  have hpay := length_slice hle
  have hle' : h.offset + h.payload ≤ raw.length := hle
  have htake : items.flatten = (items.take 6).flatten ++ (items.drop 6).flatten := by
    rw [← flatten_append, take_append_drop]
  have hv := length_encodeMinimalInt_le (toBe 8 v) (by rw [length_toBe]; omega)
  have hr := length_encodeMinimalInt_le (sigR signature) (by simp [sigR])
  have hs := length_encodeMinimalInt_le (sigS signature) (by simp [sigS])
  rw [hflat, htake, length_append] at hpay
  simp only [encodeU64, length_append]
  omega

theorem signedFields_legacy {out : Bytes} (ha : Addressable raw) (hform : EvmSigner.LegacyForm raw signature out) :
    (splitType out).1 = 0x00 ∧ (splitType raw).1 = 0x00 ∧
      ∀ i < 6, fieldAt (signedFields signature out) i = fieldAt (unsignedFields raw) i := by
  obtain ⟨-, h, items, v, hp, hl, hle, hw, hflat, hv, rfl⟩ := hform
  have h6 : 6 ≤ items.length := by
    cases hv with
    | eip155 => omega
    | unprotected h6 => exact h6.ge
  have hlen := length_legacyItems_lt signature ha hle hflat v
  obtain ⟨x, rest, hx, hge⟩ := head_encodeList _ hlen
  have hout : splitType (x :: rest) = (0x00, x :: rest) := splitType_legacy hge
  rw [← hx] at hout
  have hraw := splitType_list hp hl
  refine ⟨by rw [hout], by rw [hraw], ?_⟩
  intro i hi
  have hwtake : ∀ raw ∈ items.take 6, Rlp.Whole raw := fun raw hraw => hw raw (mem_of_mem_take hraw)
  rw [signedFields, unsignedFields, hout, hraw]
  simp only [if_true]
  rw [payloadOf_encodeList hlen, payloadOf_eq hp, hflat, append_assoc, append_assoc,
    fieldAt_flatten_append hwtake (by rw [length_take]; omega), fieldAt_flatten hw,
    List.getElem?_take_of_lt hi]

/-- **Signing keeps the type and the fields**: the recipient, the value and the data of the signed
output are those of the unsigned bytes, read leniently. -/
theorem signed_keeps_fields {out : Bytes} (ha : Addressable raw)
    (henc : encodeSignedTransaction raw signature = .ok out) :
    recipientAt (splitType out).1 (signedFields signature out) = recipientAt (splitType raw).1 (unsignedFields raw) ∧
    valueAt (splitType out).1 (signedFields signature out) = valueAt (splitType raw).1 (unsignedFields raw) ∧
    dataAt (splitType out).1 (signedFields signature out) = dataAt (splitType raw).1 (unsignedFields raw) := by
  obtain ⟨-, hform | hform⟩ := (EvmSigner.encodeSignedTransaction_eq_ok ha).mp henc
  · obtain ⟨ht, hf⟩ := signedFields_typed ha hform
    rw [ht, hf]
    exact ⟨rfl, rfl, rfl⟩
  · obtain ⟨hto, htr, hf⟩ := signedFields_legacy ha hform
    rw [hto, htr]
    exact ⟨congrArg (Option.filter _) (hf 3 (by omega)), hf 4 (by omega), hf 5 (by omega)⟩

/-! ## When the summary agrees -/

/-- The policy reader accepts the body as a list: strict headers, all the way down. -/
def PolicyReadable (raw : Bytes) : Prop := ∃ n fields, Strict ((splitType raw).2.take n) (.list fields)

/-- No recipient, value or data stands at its place. -/
def NothingToReport (raw : Bytes) : Prop :=
  recipientAt (splitType raw).1 (unsignedFields raw) = none ∧
  valueAt (splitType raw).1 (unsignedFields raw) = none ∧
  dataAt (splitType raw).1 (unsignedFields raw) = none

theorem length_splitType_le (raw : Bytes) : (splitType raw).2.length ≤ raw.length := by
  unfold splitType
  split
  · split <;> simp
  · simp

theorem policyReadable_iff (ha : (splitType raw).2.length < 2 ^ 64) :
    PolicyReadable raw ↔ ∃ fields used, rlpDecode (splitType raw).2 = .ok (.list fields, used) := by
  constructor
  · rintro ⟨n, fields, hs⟩
    have htake : (splitType raw).2.take n = (splitType raw).2.take (min n (splitType raw).2.length) := by
      rw [← take_take, take_length]
    rw [htake] at hs
    exact ⟨fields, _, (rlpDecode_eq_ok ha).mpr ⟨min_le_right _ _, hs⟩⟩
  · rintro ⟨fields, used, h⟩
    exact ⟨used, fields, ((rlpDecode_eq_ok ha).mp h).2⟩

theorem reports_summarize (ha : (splitType raw).2.length < 2 ^ 64) {fields : List Rlp}
    (h : rlpDecode (splitType raw).2 = .ok (.list fields, used))
    (hv : ∀ b, valueAt (splitType raw).1 (unsignedFields raw) = some b → beNat b < 2 ^ 128) :
    Reports (summarize (splitType raw).1 fields) (splitType raw).1 (unsignedFields raw) := by
  have hf := fieldAt_of_decode ha h
  refine ⟨?_, ?_, ?_⟩
  · simp only [summarize, recipientAt, unsignedFields, hf]
  · have hvalue : valueAt (splitType raw).1 (unsignedFields raw) =
        fields[(fieldIndexes (splitType raw).1).2.1]?.bind rlpBytes := hf _
    rw [hvalue] at hv ⊢
    exact Option.map_congr fun b hb => valueText_eq (hv b hb)
  · simp only [summarize, dataAt, unsignedFields, hf]

theorem reports_empty_iff {txType : UInt8} {fields : Bytes} :
    Reports emptySummary txType fields ↔
      recipientAt txType fields = none ∧ valueAt txType fields = none ∧ dataAt txType fields = none := by
  simp only [Reports, emptySummary, eq_comm (a := none), Option.map_eq_none_iff]

/-- **When policy sees what is signed.**  For unsigned bytes that can be signed, the summary reports
the recipient, the value and the data of the signed output if and only if the policy reader accepts
the body, or none of the three is there and the reader does not panic on the way. -/
theorem summary_agrees_iff {ε : Type} {raw signature out : Bytes} (ha : Addressable raw)
    (henc : encodeSignedTransaction raw signature = .ok out)
    (hv : ∀ b, valueAt (splitType out).1 (signedFields signature out) = some b → beNat b < 2 ^ 128) :
    (∃ s, (decodeTxSummary raw : Outcome ε TxSummary) = .ok s ∧
        Reports s (splitType out).1 (signedFields signature out)) ↔
      PolicyReadable raw ∨ NothingToReport raw ∧ rlpDecode (splitType raw).2 ≠ .error .panic := by
  have hlen : (splitType raw).2.length < 2 ^ 64 := by
    have hraw : raw.length < 2 ^ 63 := ha
    have := length_splitType_le raw
    omega
  obtain ⟨hto, hval, hdata⟩ := signed_keeps_fields ha henc
  have hrep : ∀ s, Reports s (splitType out).1 (signedFields signature out) ↔
      Reports s (splitType raw).1 (unsignedFields raw) := by
    intro s
    rw [Reports, hto, hval, hdata, Reports]
  rw [hval] at hv
  simp only [hrep, policyReadable_iff hlen]
  -- an empty summary is right exactly when there is nothing to report
  have hempty : Reports emptySummary (splitType raw).1 (unsignedFields raw) ↔ NothingToReport raw := reports_empty_iff
  unfold decodeTxSummary
  rcases hd : rlpDecode (splitType raw).2 with e | ⟨b | fields, used⟩
  · rcases e with ⟨⟩ | _ | _
    · simp [hempty]
    · simp
    · exact absurd hd ((rlpDecodeFuel_ne_hang _).1 _ hlen (by omega))
  · simp [hempty]
  · simp only [Except.ok.injEq, Prod.mk.injEq, Rlp.list.injEq, ↓existsAndEq, and_true,
      exists_eq_left', true_or, iff_true]
    exact reports_summarize hlen hd hv

/-! ## Canonical transactions -/

def wireType (t : EvmTx) : UInt8 := t.typeByte.getD 0x00

theorem splitType_unsigned {t : EvmTx} (h : t.body.length < 2 ^ 64) : splitType t.unsigned = (wireType t, t.body) := by
  have hlist : splitType t.body = (0x00, t.body) := by
    have hlen := length_encodeList (encodeAll t.fields)
    rw [EvmTx.body, Rlp.encode] at h ⊢
    have hlt : (encodeAll t.fields).length < 2 ^ 64 := by omega
    exact splitType_list (parseHeader_encodeList' hlt) rfl
  unfold EvmTx.unsigned wireType EvmTx.typeByte
  cases t.envelope with
  | legacy => exact hlist
  | accessList | feeMarket | setCode => rfl

theorem fieldIndexes_wireType (t : EvmTx) :
    fieldIndexes (wireType t) = (t.leading.length, t.leading.length + 1, t.leading.length + 2) := by
  unfold wireType EvmTx.typeByte EvmTx.leading
  cases t.envelope <;> rfl

/-- **What policy sees of a canonical transaction**: its recipient, its data, and its value modulo
`2 ^ 128`. -/
theorem decodeTxSummary_unsigned {ε : Type} {t : EvmTx} (h : t.body.length < 2 ^ 64) :
    (decodeTxSummary t.unsigned : Outcome ε TxSummary) = .ok
      { toAddress := t.recipient.map fun a => Text.hexText a.1
        value := some (toString (t.value.toNat % 2 ^ 128))
        data := some (Text.hexText t.data)
        kindLabel := kindLabel (wireType t) } := by
  have hdec : rlpDecode t.body = .ok (.list t.fields, t.body.length) := rlpDecode_encode h
  obtain ⟨hto, hvalue, hdata⟩ := t.fields_getElem?
  have h16 : (256 : Nat) ^ 16 = 2 ^ 128 := by norm_num
  simp only [decodeTxSummary, splitType_unsigned h, hdec, summarize, fieldIndexes_wireType, hto, hvalue,
    hdata, Option.bind_some, EvmTx.recipientRlp, EvmTx.scalar, rlpBytes, Option.map_some, valueText,
    beNat_drop, EvmTx.beNat_scalar t.value.isLt, h16]
  congr 2
  rcases t.recipient with _ | a
  · rfl
  · simp [a.2]

/-! ### A header with a length it does not need -/

def transferItems : Bytes := [0x01, 0x01, 0x01, 0x94] ++ List.replicate 20 0xaa ++ [0x64, 0x80]

def plainTransfer : Bytes := 0xda :: transferItems

def paddedTransfer : Bytes := [0xf8, 0x1a] ++ transferItems

def onesSignature : Bytes := List.replicate 64 0x01 ++ [0x00]

/-- The transfer with `v = 27` and the signature. -/
def signedTransfer : Bytes :=
  [0xf8, 0x5d] ++ transferItems ++ [0x1b, 0xa0] ++ List.replicate 32 0x01 ++ [0xa0] ++ List.replicate 32 0x01

theorem encode_plainTransfer : encodeSignedTransaction plainTransfer onesSignature = .ok signedTransfer :=
  eq_ok_iff_toOption.mpr (by decide +kernel)

theorem valueAt_signedTransfer :
    valueAt (splitType signedTransfer).1 (signedFields onesSignature signedTransfer) = some [0x64] := by
  decide +kernel

theorem summary_agrees_plain :
    Addressable plainTransfer ∧
    encodeSignedTransaction plainTransfer onesSignature = .ok signedTransfer ∧
    ((∃ s, (decodeTxSummary plainTransfer : Outcome Unit TxSummary) = .ok s ∧
        Reports s (splitType signedTransfer).1 (signedFields onesSignature signedTransfer)) ↔
      PolicyReadable plainTransfer ∨
        NothingToReport plainTransfer ∧ rlpDecode (splitType plainTransfer).2 ≠ .error .panic) := by
  have ha : Addressable plainTransfer := by unfold Addressable; decide +kernel
  refine ⟨ha, encode_plainTransfer, summary_agrees_iff ha encode_plainTransfer ?_⟩
  intro b hb
  rw [valueAt_signedTransfer] at hb
  cases hb
  decide

/-- **Policy sees nothing of a padded transaction.**  The signer takes the header as it is and signs
a transfer of 100 wei; the policy reader refuses it, and the summary has no recipient and no value. -/
theorem summary_misses_padded :
    encodeSignedTransaction paddedTransfer onesSignature = .ok signedTransfer ∧
    valueAt (splitType signedTransfer).1 (signedFields onesSignature signedTransfer) = some [0x64] ∧
    (decodeTxSummary paddedTransfer : Outcome Unit TxSummary) = .ok emptySummary ∧
    ¬ ∃ s, (decodeTxSummary paddedTransfer : Outcome Unit TxSummary) = .ok s ∧
      Reports s (splitType signedTransfer).1 (signedFields onesSignature signedTransfer) := by
  have hsum : (decodeTxSummary paddedTransfer : Outcome Unit TxSummary) = .ok emptySummary :=
    eq_ok_iff_toOption.mpr (by decide +kernel)
  refine ⟨eq_ok_iff_toOption.mpr (by decide +kernel), valueAt_signedTransfer, hsum, ?_⟩
  rintro ⟨s, hs, hr⟩
  cases hs
  have hnone := (reports_empty_iff.mp hr).2.1
  rw [valueAt_signedTransfer] at hnone
  cases hnone

end OneCipher.Ocwp
