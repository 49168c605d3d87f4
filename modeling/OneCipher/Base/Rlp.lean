import OneCipher.Base.Bytes

/-!
# OneCipher.Base.Rlp — recursive length prefix encoding

RLP items are byte strings or lists of items.  `encode` is the canonical encoding.  Reading is described at two
grains:
-/

namespace OneCipher

open List

/-- An RLP item. -/
inductive Rlp where
  | bytes (b : Bytes)
  | list (items : List Rlp)
  deriving Repr

namespace Rlp

open Bytes

/-! ## Canonical encoding -/

def lengthBytes (len : Nat) : Bytes := stripZeros (toBe 8 len)

/-- The header of an item with a payload of `len` bytes; `offset` is 0x80 for byte strings and 0xc0
for lists. -/
def header (offset len : Nat) : Bytes :=
  if len < 56 then [UInt8.ofNat (offset + len)]
  else UInt8.ofNat (offset + 55 + (lengthBytes len).length) :: lengthBytes len

def encodeBytes (b : Bytes) : Bytes :=
  match b with
  | [x] => if x < 0x80 then [x] else header 0x80 1 ++ [x]
  | b => header 0x80 b.length ++ b

def encodeList (payload : Bytes) : Bytes := header 0xc0 payload.length ++ payload

mutual
def encode : Rlp → Bytes
  | bytes b => encodeBytes b
  | list items => encodeList (encodeAll items)

def encodeAll : List Rlp → Bytes
  | [] => []
  | x :: xs => encode x ++ encodeAll xs
end

theorem encodeAll_eq_flatten (xs : List Rlp) : encodeAll xs = (xs.map encode).flatten := by
  induction xs with
  | nil => rfl
  | cons _ _ ih => rw [encodeAll, ih]; rfl

theorem encodeAll_append (xs ys : List Rlp) : encodeAll (xs ++ ys) = encodeAll xs ++ encodeAll ys := by
  rw [encodeAll_eq_flatten, encodeAll_eq_flatten, encodeAll_eq_flatten, map_append, flatten_append]

/-! ## Headers -/

/-- A header: the kind of the item, the offset of its payload and the length of its payload. -/
structure Header where
  isList : Bool
  offset : Nat
  payload : Nat
  deriving DecidableEq, Repr

def Header.total (h : Header) : Nat := h.offset + h.payload

def Header.slice (h : Header) (data : Bytes) : Bytes := (data.drop h.offset).take h.payload

theorem Header.drop_take_total (h : Header) (data : Bytes) :
    (data.take h.total).drop (h.total - h.payload) = h.slice data := by
  have ho : h.total - h.payload = h.offset := by simp only [Header.total]; omega
  have hl : h.total - h.offset = h.payload := by simp only [Header.total]; omega
  rw [ho, drop_take, hl, Header.slice]

theorem Header.slice_take_total (h : Header) (data : Bytes) : h.slice (data.take h.total) = h.slice data := by
  have hl : h.total - h.offset = h.payload := by simp only [Header.total]; omega
  rw [Header.slice, drop_take, hl, take_take, Nat.min_self, Header.slice]

variable {data payload : Bytes} {h : Header} {raws : List Bytes}

theorem Header.slice_append {raw : Bytes} (hle : h.total ≤ raw.length) (rest : Bytes) :
    h.slice (raw ++ rest) = h.slice raw := by
  have hle' : h.offset + h.payload ≤ raw.length := hle
  rw [Header.slice, drop_append_of_le_length (by omega),
    take_append_of_le_length (by rw [length_drop]; omega), Header.slice]

theorem Header.length_slice (hle : h.total ≤ data.length) : (h.slice data).length = h.payload := by
  have hle' : h.offset + h.payload ≤ data.length := hle
  rw [Header.slice, length_take, length_drop]
  omega

/-- A header with `k` length bytes. -/
def longHeader (isList : Bool) (k : Nat) (rest : Bytes) : Option Header :=
  if rest.length < k then none else some ⟨isList, 1 + k, beNat (rest.take k)⟩

def parseHeader : Bytes → Option Header
  | [] => none
  | x :: rest =>
    if x.toNat < 0x80 then some ⟨false, 0, 1⟩
    else if x.toNat < 0xb8 then some ⟨false, 1, x.toNat - 0x80⟩
    else if x.toNat < 0xc0 then longHeader false (x.toNat - 0xb7) rest
    else if x.toNat < 0xf8 then some ⟨true, 1, x.toNat - 0xc0⟩
    else longHeader true (x.toNat - 0xf7) rest

theorem longHeader_eq_some {isList : Bool} {k : Nat} {rest : Bytes} :
    longHeader isList k rest = some h ↔ k ≤ rest.length ∧ h = ⟨isList, 1 + k, beNat (rest.take k)⟩ := by
  unfold longHeader
  by_cases hk : rest.length < k
  · simp [hk]
  · simp [hk, Nat.not_lt.mp hk, eq_comm]

theorem parseHeader_cons {x : UInt8} {rest : Bytes} (hp : parseHeader (x :: rest) = some h) :
    (x.toNat < 0x80 ∧ h = ⟨false, 0, 1⟩) ∨
    (0x80 ≤ x.toNat ∧ x.toNat < 0xb8 ∧ h = ⟨false, 1, x.toNat - 0x80⟩) ∨
    (0xb8 ≤ x.toNat ∧ x.toNat < 0xc0 ∧ longHeader false (x.toNat - 0xb7) rest = some h) ∨
    (0xc0 ≤ x.toNat ∧ x.toNat < 0xf8 ∧ h = ⟨true, 1, x.toNat - 0xc0⟩) ∨
    (0xf8 ≤ x.toNat ∧ longHeader true (x.toNat - 0xf7) rest = some h) := by
  simp only [parseHeader] at hp
  split_ifs at hp with h1 h2 h3 h4
  · exact .inl ⟨h1, (Option.some.inj hp).symm⟩
  · exact .inr (.inl ⟨not_lt.mp h1, h2, (Option.some.inj hp).symm⟩)
  · exact .inr (.inr (.inl ⟨not_lt.mp h2, h3, hp⟩))
  · exact .inr (.inr (.inr (.inl ⟨not_lt.mp h3, h4, (Option.some.inj hp).symm⟩)))
  · exact .inr (.inr (.inr (.inr ⟨not_lt.mp h4, hp⟩)))

theorem parseHeader_ne_nil (hp : parseHeader data = some h) : data ≠ [] := by
  rintro rfl
  cases hp

theorem Header.total_pos (hp : parseHeader data = some h) : 0 < h.total := by
  rcases data with _ | ⟨x, rest⟩
  · cases hp
  rcases parseHeader_cons hp with ⟨_, rfl⟩ | ⟨_, _, rfl⟩ | ⟨_, _, hl⟩ | ⟨_, _, rfl⟩ | ⟨_, hl⟩
  · decide
  · simp [Header.total]
  · rw [(longHeader_eq_some.mp hl).2]; simp only [Header.total]; omega
  · simp [Header.total]
  · rw [(longHeader_eq_some.mp hl).2]; simp only [Header.total]; omega

theorem Header.offset_pos (hp : parseHeader data = some h) (hl : h.isList = true) : 0 < h.offset := by
  rcases data with _ | ⟨x, rest⟩
  · cases hp
  rcases parseHeader_cons hp with ⟨_, rfl⟩ | ⟨_, _, rfl⟩ | ⟨_, _, hk⟩ | ⟨_, _, rfl⟩ | ⟨_, hk⟩
  · cases hl
  · cases hl
  · rw [(longHeader_eq_some.mp hk).2] at hl; cases hl
  · exact Nat.one_pos
  · rw [(longHeader_eq_some.mp hk).2]; dsimp only; omega

theorem parseHeader_append (hp : parseHeader data = some h) (rest : Bytes) : parseHeader (data ++ rest) = some h := by
  rcases data with _ | ⟨x, tail⟩
  · cases hp
  have hlong : ∀ {isList k}, longHeader isList k tail = some h → longHeader isList k (tail ++ rest) = some h := by
    intro isList k hl
    obtain ⟨hk, rfl⟩ := longHeader_eq_some.mp hl
    rw [longHeader_eq_some, take_append_of_le_length hk, length_append]
    exact ⟨by omega, rfl⟩
  rw [cons_append]
  simp only [parseHeader] at hp ⊢
  split_ifs at hp ⊢
  · exact hp
  · exact hp
  · exact hlong hp
  · exact hp
  · exact hlong hp

theorem parseHeader_take (hp : parseHeader data = some h) : parseHeader (data.take h.total) = some h := by
  rcases data with _ | ⟨x, tail⟩
  · cases hp
  have hpos := Header.total_pos hp
  obtain ⟨n, hn⟩ : ∃ n, h.total = n + 1 := ⟨h.total - 1, by omega⟩
  have hlong : ∀ {isList k}, longHeader isList k tail = some h → longHeader isList k (tail.take n) = some h := by
    intro isList k hl
    obtain ⟨hk, rfl⟩ := longHeader_eq_some.mp hl
    have hkn : k ≤ n := by simp only [Header.total] at hn; omega
    rw [longHeader_eq_some, take_take, min_eq_left hkn, length_take]
    exact ⟨by omega, rfl⟩
  rw [hn, take_succ_cons]
  simp only [parseHeader] at hp ⊢
  split_ifs at hp ⊢
  · exact hp
  · exact hp
  · exact hlong hp
  · exact hp
  · exact hlong hp

/-! ## Whole items -/

/-- The bytes are one item: a header whose item ends where the bytes end. -/
def Whole (raw : Bytes) : Prop := ∃ h, parseHeader raw = some h ∧ h.total = raw.length

def nextItem (data : Bytes) : Option (Bytes × Bytes) :=
  (parseHeader data).bind fun h =>
    if data.length < h.total then none else some (data.take h.total, data.drop h.total)

theorem nextItem_eq_some {raw rest : Bytes} : nextItem data = some (raw, rest) ↔ Whole raw ∧ data = raw ++ rest := by
  unfold nextItem
  constructor
  · intro hn
    rcases hp : parseHeader data with _ | h
    · simp [hp] at hn
    · by_cases hlt : data.length < h.total
      · simp [hp, hlt] at hn
      · simp only [hp, Option.bind_some, if_neg hlt, Option.some.injEq, Prod.mk.injEq] at hn
        obtain ⟨rfl, rfl⟩ := hn
        refine ⟨⟨h, parseHeader_take hp, ?_⟩, (take_append_drop _ _).symm⟩
        rw [length_take]
        omega
  · rintro ⟨⟨h, hp, ht⟩, rfl⟩
    have hlt : ¬ (raw ++ rest).length < h.total := by rw [ht, length_append]; omega
    rw [parseHeader_append hp, Option.bind_some, if_neg hlt, ht, take_left, drop_left]

theorem Whole.ne_nil {raw : Bytes} (h : Whole raw) : raw ≠ [] := by
  obtain ⟨_, hp, _⟩ := h
  exact parseHeader_ne_nil hp

/-- Split bytes into whole items, at most `fuel` of them. -/
def splitItemsFuel : Nat → Bytes → Option (List Bytes)
  | _, [] => some []
  | 0, _ :: _ => none
  | fuel + 1, x :: xs => (nextItem (x :: xs)).bind fun (raw, rest) => (splitItemsFuel fuel rest).map (raw :: ·)

def splitItems (data : Bytes) : Option (List Bytes) := splitItemsFuel data.length data

theorem splitItemsFuel_eq_some {fuel : Nat} (hf : data.length ≤ fuel) :
    splitItemsFuel fuel data = some raws ↔ (∀ raw ∈ raws, Whole raw) ∧ data = raws.flatten := by
  induction fuel generalizing data raws with
  | zero =>
    obtain rfl : data = [] := length_eq_zero_iff.mp (by omega)
    rcases raws with _ | ⟨raw, raws⟩
    · simp [splitItemsFuel]
    · constructor
      · nofun
      · rintro ⟨hw, he⟩
        exact absurd (append_eq_nil_iff.mp he.symm).1 (hw raw mem_cons_self).ne_nil
  | succ fuel ih =>
    rcases data with _ | ⟨x, xs⟩
    · rcases raws with _ | ⟨raw, raws⟩
      · simp [splitItemsFuel]
      · constructor
        · nofun
        · rintro ⟨hw, he⟩
          exact absurd (append_eq_nil_iff.mp he.symm).1 (hw raw mem_cons_self).ne_nil
    · rw [splitItemsFuel]
      constructor
      · intro h
        obtain ⟨⟨raw, rest⟩, hn, h⟩ := Option.bind_eq_some_iff.mp h
        obtain ⟨hw, he⟩ := nextItem_eq_some.mp hn
        have hlen : rest.length ≤ fuel := by
          have := congrArg List.length he
          have := length_pos_iff.mpr hw.ne_nil
          simp only [length_append, length_cons] at *
          omega
        obtain ⟨raws', hr, rfl⟩ := Option.map_eq_some_iff.mp h
        obtain ⟨hws, hrest⟩ := (ih hlen).mp hr
        exact ⟨forall_mem_cons.mpr ⟨hw, hws⟩, by rw [he, hrest, flatten_cons]⟩
      · rintro ⟨hw, he⟩
        rcases raws with _ | ⟨raw, raws⟩
        · cases he
        obtain ⟨hraw, hws⟩ := forall_mem_cons.mp hw
        have hlen : raws.flatten.length ≤ fuel := by
          have := congrArg List.length he
          have := length_pos_iff.mpr hraw.ne_nil
          simp only [flatten_cons, length_append, length_cons] at *
          omega
        simp only [nextItem_eq_some.mpr ⟨hraw, he⟩, Option.bind_some, (ih hlen).mpr ⟨hws, rfl⟩, Option.map_some]

/-- **Bytes split in at most one way**, into the whole items they are put together from. -/
theorem splitItems_eq_some : splitItems data = some raws ↔ (∀ raw ∈ raws, Whole raw) ∧ data = raws.flatten :=
  splitItemsFuel_eq_some le_rfl

def nthItem : Nat → Bytes → Option Bytes
  | 0, data => (nextItem data).map (·.1)
  | i + 1, data => (nextItem data).bind fun (_, rest) => nthItem i rest

theorem nthItem_flatten_append (hw : ∀ raw ∈ raws, Whole raw) (i : Nat) (tail : Bytes) :
    nthItem i (raws.flatten ++ tail) = raws[i]?.or (nthItem (i - raws.length) tail) := by
  induction raws generalizing i with
  | nil => rfl
  | cons raw raws ih =>
    obtain ⟨hraw, hws⟩ := forall_mem_cons.mp hw
    have hn : nextItem ((raw :: raws).flatten ++ tail) = some (raw, raws.flatten ++ tail) :=
      nextItem_eq_some.mpr ⟨hraw, by rw [flatten_cons, append_assoc]⟩
    rcases i with _ | i
    · rw [nthItem, hn]; rfl
    · rw [nthItem, hn, Option.bind_some, List.getElem?_cons_succ, length_cons, Nat.add_sub_add_right]
      exact ih hws i

theorem nthItem_nil (i : Nat) : nthItem i [] = none := by
  cases i <;> rfl

/-! ## Byte-string items -/

def itemBytes (raw : Bytes) : Option Bytes :=
  (parseHeader raw).bind fun h => if h.isList then none else some (h.slice raw)

def fieldAt (payload : Bytes) (i : Nat) : Option Bytes := (nthItem i payload).bind itemBytes

theorem fieldAt_flatten (hw : ∀ raw ∈ raws, Whole raw) (i : Nat) :
    fieldAt raws.flatten i = raws[i]?.bind itemBytes := by
  rw [fieldAt, ← append_nil raws.flatten, nthItem_flatten_append hw, nthItem_nil, Option.or_none]

theorem fieldAt_flatten_append (hw : ∀ raw ∈ raws, Whole raw) {i : Nat} (hi : i < raws.length) (tail : Bytes) :
    fieldAt (raws.flatten ++ tail) i = raws[i]?.bind itemBytes := by
  rw [fieldAt, nthItem_flatten_append hw, getElem?_eq_getElem hi, Option.some_or]

def payloadOf (data : Bytes) : Bytes :=
  match parseHeader data with
  | some h => h.slice data
  | none => []

theorem payloadOf_eq (hp : parseHeader data = some h) : payloadOf data = h.slice data := by
  rw [payloadOf, hp]

/-! ## Canonical items are whole -/

def kindOffset (isList : Bool) : Nat := if isList then 0xc0 else 0x80

theorem beNat_lengthBytes {n : Nat} (h : n < 2 ^ 64) : beNat (lengthBytes n) = n := by
  rw [lengthBytes, beNat_stripZeros, beNat_toBe]
  norm_num
  exact h

theorem length_lengthBytes_le (n : Nat) : (lengthBytes n).length ≤ 8 := by
  have h := length_stripZeros_le (toBe 8 n)
  rwa [length_toBe] at h

theorem length_lengthBytes_pos {n : Nat} (h0 : 0 < n) (h : n < 2 ^ 64) : 0 < (lengthBytes n).length := by
  rw [length_pos_iff]
  intro he
  have := beNat_lengthBytes h
  rw [he, beNat_nil] at this
  omega

theorem parseHeader_header (isList : Bool) {n : Nat} (h : n < 2 ^ 64) (rest : Bytes) :
    parseHeader (header (kindOffset isList) n ++ rest) = some ⟨isList, (header (kindOffset isList) n).length, n⟩ := by
  have hoff : kindOffset isList = 0x80 ∧ isList = false ∨ kindOffset isList = 0xc0 ∧ isList = true := by
    cases isList
    · exact .inl ⟨rfl, rfl⟩
    · exact .inr ⟨rfl, rfl⟩
  unfold header
  by_cases hn : n < 56
  · rw [if_pos hn, singleton_append]
    have hx : (UInt8.ofNat (kindOffset isList + n)).toNat = kindOffset isList + n := by
      rw [UInt8.toNat_ofNat']
      omega
    rcases hoff with ⟨ho, rfl⟩ | ⟨ho, rfl⟩ <;> rw [ho] at hx ⊢ <;> simp only [parseHeader, hx]
    · rw [if_neg (by omega), if_pos (by omega), Nat.add_sub_cancel_left]
      rfl
    · rw [if_neg (by omega), if_neg (by omega), if_neg (by omega), if_pos (by omega), Nat.add_sub_cancel_left]
      rfl
  · rw [if_neg hn, cons_append]
    have hpos := length_lengthBytes_pos (by omega) h
    have hle := length_lengthBytes_le n
    have hx : (UInt8.ofNat (kindOffset isList + 55 + (lengthBytes n).length)).toNat =
        kindOffset isList + 55 + (lengthBytes n).length := by
      rw [UInt8.toNat_ofNat']
      omega
    -- the length bytes are the first of what follows
    have hlong : longHeader isList (lengthBytes n).length (lengthBytes n ++ rest) =
        some ⟨isList, 1 + (lengthBytes n).length, n⟩ := by
      rw [longHeader_eq_some, take_left, beNat_lengthBytes h, length_append]
      exact ⟨by omega, rfl⟩
    rw [length_cons, Nat.add_comm (lengthBytes n).length 1]
    rcases hoff with ⟨ho, rfl⟩ | ⟨ho, rfl⟩ <;> rw [ho] at hx ⊢ <;> simp only [parseHeader, hx]
    · have hk : 0x80 + 55 + (lengthBytes n).length - 0xb7 = (lengthBytes n).length := by omega
      rw [if_neg (by omega), if_neg (by omega), if_pos (by omega), hk, hlong]
    · have hk : 0xc0 + 55 + (lengthBytes n).length - 0xf7 = (lengthBytes n).length := by omega
      rw [if_neg (by omega), if_neg (by omega), if_neg (by omega), if_neg (by omega), hk, hlong]

theorem length_header_of_lt {n : Nat} (offset : Nat) (h : n < 56) : (header offset n).length = 1 := by
  rw [header, if_pos h]
  rfl

theorem parseHeader_encodeBytes {b : Bytes} (h : b.length < 2 ^ 64) (rest : Bytes) :
    ∃ off, parseHeader (encodeBytes b ++ rest) = some ⟨false, off, b.length⟩ ∧
      off + b.length = (encodeBytes b).length ∧ (encodeBytes b).drop off = b ∧ (b.length < 56 → off ≤ 1) := by
  have hlong : ∃ off, parseHeader ((header 0x80 b.length ++ b) ++ rest) = some ⟨false, off, b.length⟩ ∧
      off + b.length = (header 0x80 b.length ++ b).length ∧ (header 0x80 b.length ++ b).drop off = b ∧
      (b.length < 56 → off ≤ 1) := by
    refine ⟨(header 0x80 b.length).length, ?_, by rw [length_append], drop_left, ?_⟩
    · rw [append_assoc]
      exact parseHeader_header false h _
    · intro hb
      exact (length_header_of_lt _ hb).le
  rcases b with _ | ⟨x, _ | ⟨y, ys⟩⟩
  · exact hlong
  · by_cases hx : x < 0x80
    · refine ⟨0, ?_, ?_, ?_, fun _ => Nat.zero_le 1⟩ <;> simp only [encodeBytes, if_pos hx]
      · have : x.toNat < 0x80 := hx
        simp only [singleton_append, parseHeader, if_pos this, length_singleton]
      · rfl
      · rfl
    · simp only [encodeBytes, if_neg hx]
      exact hlong
  · exact hlong

theorem parseHeader_encodeList' (h : payload.length < 2 ^ 64) :
    parseHeader (encodeList payload) = some ⟨true, (header 0xc0 payload.length).length, payload.length⟩ :=
  parseHeader_header true h payload

theorem length_encodeList (payload : Bytes) :
    (encodeList payload).length = (header 0xc0 payload.length).length + payload.length := by
  rw [encodeList, length_append]

theorem payloadOf_encodeList (h : payload.length < 2 ^ 64) : payloadOf (encodeList payload) = payload := by
  rw [payloadOf_eq (parseHeader_encodeList' h), Header.slice, encodeList, drop_left, take_of_length_le le_rfl]

theorem head_encodeList (payload : Bytes) (h : payload.length < 2 ^ 64) :
    ∃ x rest, encodeList payload = x :: rest ∧ 0xc0 ≤ x.toNat := by
  have hp := parseHeader_encodeList' h
  obtain ⟨x, rest, hx⟩ := exists_cons_of_ne_nil (parseHeader_ne_nil hp)
  rw [hx] at hp
  refine ⟨x, rest, hx, ?_⟩
  rcases parseHeader_cons hp with ⟨_, he⟩ | ⟨_, _, he⟩ | ⟨_, _, hl⟩ | ⟨hge, _⟩ | ⟨hge, _⟩
  · cases he
  · cases he
  · cases (longHeader_eq_some.mp hl).2
  · exact hge
  · omega

theorem length_le_encodeBytes (b : Bytes) : b.length ≤ (encodeBytes b).length := by
  unfold encodeBytes
  split
  · split <;> simp
  · simp

theorem length_header_le (offset len : Nat) : (header offset len).length ≤ 9 := by
  have h := length_lengthBytes_le len
  unfold header
  split
  · simp
  · rw [length_cons]
    omega

theorem length_encodeBytes_le (b : Bytes) : (encodeBytes b).length ≤ b.length + 9 := by
  have h1 := length_header_le 0x80 1
  have hb := length_header_le 0x80 b.length
  unfold encodeBytes
  split
  · split
    · simp
    · rw [length_append]
      omega
  · rw [length_append]
    omega

theorem whole_encodeBytes {b : Bytes} (h : b.length < 2 ^ 64) :
    Whole (encodeBytes b) ∧ itemBytes (encodeBytes b) = some b := by
  obtain ⟨off, hp, hl, hdrop, -⟩ := parseHeader_encodeBytes h []
  rw [append_nil] at hp
  refine ⟨⟨_, hp, hl⟩, ?_⟩
  simp only [itemBytes, hp, Option.bind_some, Header.slice, hdrop, take_length, Bool.false_eq_true, if_false]

/-! ## Encodings are unambiguous -/

theorem encodeBytes_inj {a b : Bytes} (ha : (encodeBytes a).length < 2 ^ 64)
    (h : encodeBytes a = encodeBytes b) : a = b := by
  have hb : (encodeBytes b).length < 2 ^ 64 := h ▸ ha
  have hla := length_le_encodeBytes a
  have hlb := length_le_encodeBytes b
  have hitem := (whole_encodeBytes (show a.length < 2 ^ 64 by omega)).2
  rw [h, (whole_encodeBytes (show b.length < 2 ^ 64 by omega)).2] at hitem
  exact (Option.some.inj hitem).symm

theorem whole_encode {r : Rlp} (h : (encode r).length < 2 ^ 64) : Whole (encode r) := by
  cases r with
  | bytes b =>
    rw [encode] at h ⊢
    have hle := length_le_encodeBytes b
    exact (whole_encodeBytes (by omega)).1
  | list items =>
    rw [encode] at h ⊢
    have hlen := length_encodeList (encodeAll items)
    exact ⟨_, parseHeader_encodeList' (by omega), hlen.symm⟩

theorem length_encode_le_of_mem {r : Rlp} {items : List Rlp} (h : r ∈ items) :
    (encode r).length ≤ (encodeAll items).length := by
  rw [encodeAll_eq_flatten]
  exact (infix_of_mem_flatten (mem_map_of_mem h)).length_le

theorem whole_map_encode {items : List Rlp} (h : (encodeAll items).length < 2 ^ 64) :
    ∀ raw ∈ items.map encode, Whole raw := by
  intro raw hraw
  obtain ⟨r, hr, rfl⟩ := mem_map.mp hraw
  have hle := length_encode_le_of_mem hr
  exact whole_encode (by omega)

theorem flatten_eq_encodeAll {ys : List Rlp} (hw : ∀ raw ∈ raws, Whole raw) (hys : (encodeAll ys).length < 2 ^ 64)
    (h : raws.flatten = encodeAll ys) : raws = ys.map encode := by
  have hsplit := splitItems_eq_some.mpr ⟨hw, rfl⟩
  rw [h, splitItems_eq_some.mpr ⟨whole_map_encode hys, encodeAll_eq_flatten ys⟩] at hsplit
  exact (Option.some.inj hsplit).symm

/-- **A list of whole items is the encoding of those items and no others.** -/
theorem encodeList_flatten_inj {ys : List Rlp} (hw : ∀ raw ∈ raws, Whole raw)
    (hx : (encodeList raws.flatten).length < 2 ^ 64) (h : encodeList raws.flatten = encode (.list ys)) :
    raws = ys.map encode := by
  have hy : (encode (.list ys)).length < 2 ^ 64 := h ▸ hx
  rw [encode, length_encodeList] at hy
  rw [length_encodeList] at hx
  have hys : (encodeAll ys).length < 2 ^ 64 := by omega
  rw [encode] at h
  have hpayload : raws.flatten = encodeAll ys := by
    rw [← payloadOf_encodeList (show raws.flatten.length < 2 ^ 64 by omega), h, payloadOf_encodeList hys]
  exact flatten_eq_encodeAll hw hys hpayload

theorem encode_list_inj {xs ys : List Rlp} (hx : (encode (.list xs)).length < 2 ^ 64)
    (h : encode (.list xs) = encode (.list ys)) : xs.map encode = ys.map encode := by
  have hlen := hx
  rw [encode, length_encodeList] at hlen
  rw [encode, encodeAll_eq_flatten] at h hx
  exact encodeList_flatten_inj (whole_map_encode (by omega)) hx h

end Rlp

end OneCipher
