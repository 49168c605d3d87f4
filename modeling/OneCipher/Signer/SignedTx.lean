import OneCipher.Signer.EvmTx
import OneCipher.Signer.Rlp

/-!
# OneCipher.Signer.SignedTx — what a signed transaction is a signature of

A signature covers the Keccak-256 digest of the unsigned bytes as they came in.  A node rebuilds those bytes from
the signed ones: it takes the signature's three items off the list, puts the chain id and two empty strings in
their place if a legacy transaction is replay protected, and encodes the rest canonically.  `TypedSigned` and
`LegacySigned` say that this gives the unsigned bytes back.
-/

namespace OneCipher.Signer

open Bytes List Rlp
open Rlp (encodeAll)
open EvmTx (scalar)

/-! ## Writing items -/

mutual
def write : Rlp → Bytes
  | .bytes b => encodeBytes b
  | .list items => encodeList (writeAll items)

def writeAll : List Rlp → Bytes
  | [] => []
  | x :: xs => write x ++ writeAll xs
end

mutual
theorem write_eq : ∀ r : Rlp, write r = r.encode
  | .bytes b => by rw [write, encodeBytes_eq, Rlp.encode]
  | .list items => by rw [write, writeAll_eq items, encodeList_eq, Rlp.encode]

theorem writeAll_eq : ∀ items : List Rlp, writeAll items = encodeAll items
  | [] => rfl
  | x :: xs => by rw [writeAll, write_eq x, writeAll_eq xs, encodeAll]
end

def writeUnsigned (t : EvmTx) : Bytes := t.typeByte.toList ++ write (.list t.fields)

theorem writeUnsigned_eq (t : EvmTx) : writeUnsigned t = t.unsigned := by
  rw [writeUnsigned, write_eq, EvmTx.unsigned, EvmTx.body]

/-! ## The items of a signature -/

def intItem (b : Bytes) : Rlp := .bytes (stripZeros b)

theorem encodeMinimalInt_eq (b : Bytes) : encodeMinimalInt b = (intItem b).encode := by
  rw [encodeMinimalInt, encodeBytes_eq, intItem, Rlp.encode]

theorem encodeMinimalInt_toBe {w n : Nat} (h : n < 256 ^ w) (hw : w ≤ 32) :
    encodeMinimalInt (toBe w n) = (scalar n).encode := by
  rw [encodeMinimalInt_eq, intItem, scalar, stripZeros_toBe h hw]

theorem encodeU64_eq {n : Nat} (h : n < 2 ^ 64) : encodeU64 n = (scalar n).encode :=
  encodeMinimalInt_toBe (by norm_num; exact h) (by decide)

def signatureRlp (v : UInt8) (r s : Bytes) : List Rlp := [intItem [v], intItem r, intItem s]

theorem signatureItems_eq (v : UInt8) (r s : Bytes) : signatureItems v r s = encodeAll (signatureRlp v r s) := by
  simp only [signatureItems, encodeMinimalInt_eq, signatureRlp, encodeAll, append_nil, append_assoc]

/-! ## Typed transactions -/

/-- The signed bytes `out` are the type byte of `u` and a list that ends in the signature's items; the
list without them is what stands behind the type byte in `u`. -/
def TypedSigned (u : Bytes) (v : UInt8) (r s out : Bytes) : Prop :=
  ∃ typeByte items, u.head? = some typeByte ∧ out = typeByte :: Rlp.encode (.list items) ∧
    typeByte :: Rlp.encode (.list (items.take (items.length - 3))) = u ∧
    items.drop (items.length - 3) = signatureRlp v r s

/-- One byte and a canonical list. -/
def CanonicalTyped (u : Bytes) : Prop := ∃ typeByte fields, u = typeByte :: Rlp.encode (.list fields)

theorem Addressable.tail {x : UInt8} {b : Bytes} (h : Addressable (x :: b)) : Addressable b := by
  unfold Addressable at *
  rw [length_cons] at h
  omega

theorem slice_encode_list {xs : List Rlp} {h : Rlp.Header} (ha : Addressable (Rlp.encode (.list xs)))
    (hp : Rlp.parseHeader (Rlp.encode (.list xs)) = some h) :
    h.slice (Rlp.encode (.list xs)) = encodeAll xs ∧ (encodeAll xs).length < 2 ^ 63 := by
  unfold Addressable at ha
  rw [Rlp.encode] at ha hp ⊢
  have hlen := length_encodeList (encodeAll xs)
  rw [← payloadOf_eq hp, payloadOf_encodeList (by omega)]
  exact ⟨rfl, by omega⟩

theorem encodeSignedTypedTx_canonical {typeByte : UInt8} {fields : List Rlp} {v : UInt8} {r s out : Bytes}
    (ha : Addressable (typeByte :: Rlp.encode (.list fields)))
    (h : encodeSignedTypedTx (typeByte :: Rlp.encode (.list fields)) v r s = .ok out) :
    out = typeByte :: Rlp.encode (.list (fields ++ signatureRlp v r s)) := by
  obtain ⟨_, _, hd, he, -, hp, -, rfl⟩ := (encodeSignedTypedTx_eq_ok ha).mp h
  cases he
  rw [(slice_encode_list ha.tail hp).1, signatureItems_eq, ← encodeAll_append, Rlp.encode]

/-- **What a signed typed transaction is a signature of**: of the bytes that were hashed, exactly when
they are one canonical list behind the type byte. -/
theorem typed_signed_iff {u out : Bytes} {v : UInt8} {r s : Bytes} (ha : Addressable u)
    (h : encodeSignedTypedTx u v r s = .ok out) : TypedSigned u v r s out ↔ CanonicalTyped u := by
  constructor
  · rintro ⟨typeByte, items, -, -, hu, -⟩
    exact ⟨typeByte, _, hu.symm⟩
  · rintro ⟨typeByte, fields, rfl⟩
    have hlen : (fields ++ signatureRlp v r s).length - 3 = fields.length := by
      rw [length_append]
      rfl
    refine ⟨typeByte, _, rfl, encodeSignedTypedTx_canonical ha h, ?_, ?_⟩
    · rw [hlen, take_left]
    · rw [hlen, drop_left]

/-- The shortest typed transaction the encoder signs. -/
theorem typed_signed_short :
    ∃ out, encodeSignedTypedTx [0x02, 0xc1, 0x05] 1 (toBe 32 7) (toBe 32 9) = .ok out ∧
      TypedSigned [0x02, 0xc1, 0x05] 1 (toBe 32 7) (toBe 32 9) out :=
  have h : encodeSignedTypedTx [0x02, 0xc1, 0x05] 1 (toBe 32 7) (toBe 32 9) =
      .ok [0x02, 0xc4, 0x05, 0x01, 0x07, 0x09] := by decide +kernel
  ⟨_, h, (typed_signed_iff (by unfold Addressable; decide) h).mpr ⟨0x02, [.bytes [0x05]], by decide +kernel⟩⟩

/-- A byte behind the list is hashed with it, and left out of the signed bytes. -/
theorem typed_signed_trailing_byte :
    ∃ out, encodeSignedTypedTx [0x02, 0xc1, 0x05, 0xff] 1 (toBe 32 7) (toBe 32 9) = .ok out ∧
      ¬ TypedSigned [0x02, 0xc1, 0x05, 0xff] 1 (toBe 32 7) (toBe 32 9) out := by
  refine ⟨[0x02, 0xc4, 0x05, 0x01, 0x07, 0x09], by decide +kernel, ?_⟩
  rintro ⟨typeByte, items, -, -, hu, -⟩
  have hbody : Rlp.encode (.list (items.take (items.length - 3))) = [0xc1, 0x05, 0xff] := (List.cons.inj hu).2
  obtain ⟨hd, hp, ht⟩ := whole_encode (r := .list (items.take (items.length - 3))) (by rw [hbody]; decide)
  rw [hbody] at hp ht
  cases hp
  cases ht

/-! ## Legacy transactions -/

/-- The unsigned bytes `u` are one list of six fields, or of six fields, a chain id and two empty
strings; the signed bytes `out` are the list of the same fields and the signature's items. -/
def LegacySigned (u : Bytes) (recoveryId : UInt8) (r s out : Bytes) : Prop :=
  ∃ fields : List Rlp, fields.length = 6 ∧
    ((u = Rlp.encode (.list fields) ∧
        out = Rlp.encode (.list (fields ++ [scalar (27 + recoveryId.toNat), intItem r, intItem s]))) ∨
      ∃ chainId < 2 ^ 64, u = Rlp.encode (.list (fields ++ [scalar chainId, .bytes [], .bytes []])) ∧
        out = Rlp.encode (.list (fields ++ [scalar (2 * chainId + 35 + recoveryId.toNat), intItem r, intItem s])))

/-- A canonical list of six fields, or of six fields, a chain id and two empty strings. -/
def CanonicalLegacy (u : Bytes) : Prop :=
  ∃ fields : List Rlp, fields.length = 6 ∧
    (u = Rlp.encode (.list fields) ∨
      ∃ chainId < 2 ^ 64, u = Rlp.encode (.list (fields ++ [scalar chainId, .bytes [], .bytes []])))

theorem decodeUint_scalar {n : Nat} (h : n < 2 ^ 64) : decodeUint (scalar n).encode = .ok n := by
  rw [← encodeU64_eq h, encodeU64, encodeMinimalInt, encodeBytes_eq]
  have hle : (stripZeros (toBe 8 n)).length ≤ 8 := by
    have := length_stripZeros_le (toBe 8 n)
    rwa [length_toBe] at this
  obtain ⟨off, hp, hlen, hdrop, -⟩ := parseHeader_encodeBytes (show (stripZeros (toBe 8 n)).length < 2 ^ 64 by omega) []
  rw [append_nil] at hp
  have hmax := length_encodeBytes_le (stripZeros (toBe 8 n))
  refine Result.bind_ok (decodeLength_eq_ok.mpr ⟨_, hp, rfl, rfl⟩) ?_
  refine Result.guard_eq_ok.mpr ⟨?_, Result.guard_eq_ok.mpr ⟨?_, ?_⟩⟩
  · rw [not_lt, saturatingAdd_le (by omega)]
    exact hlen.le
  · rw [length_take, not_lt]
    exact (min_le_left _ _).trans hle
  · rw [hdrop, take_length, beNat_stripZeros, beNat_toBe (by norm_num; exact h)]
    rfl

theorem encodeSignedLegacyTx_canonical {xs : List Rlp} {recoveryId : UInt8} {r s out : Bytes}
    (ha : Addressable (Rlp.encode (.list xs)))
    (h : encodeSignedLegacyTx (Rlp.encode (.list xs)) recoveryId r s = .ok out) :
    ∃ v, LegacyV (xs.map Rlp.encode) recoveryId v ∧
      out = Rlp.encodeList (encodeAll (xs.take 6) ++ encodeU64 v ++ encodeMinimalInt r ++ encodeMinimalInt s) := by
  obtain ⟨-, hd, items, v, hp, -, -, hw, hflat, hv, rfl⟩ := (encodeSignedLegacyTx_eq_ok ha).mp h
  obtain ⟨hslice, hlen⟩ := slice_encode_list ha hp
  obtain rfl := flatten_eq_encodeAll hw (by omega) (hflat.symm.trans hslice)
  exact ⟨v, hv, by rw [← map_take, ← encodeAll_eq_flatten]⟩

theorem encodeList_signed {fields : List Rlp} {v : Nat} (hv : v < 2 ^ 64) (r s : Bytes) :
    Rlp.encodeList (encodeAll fields ++ encodeU64 v ++ encodeMinimalInt r ++ encodeMinimalInt s) =
      Rlp.encode (.list (fields ++ [scalar v, intItem r, intItem s])) := by
  simp only [encodeU64_eq hv, encodeMinimalInt_eq, Rlp.encode, encodeAll_append, encodeAll, append_nil, append_assoc]

theorem getD_chainId {fields : List Rlp} (h6 : fields.length = 6) (chainId : Rlp) (rest : List Rlp) :
    ((fields ++ chainId :: rest).map Rlp.encode).getD 6 [] = chainId.encode := by
  rw [getD_eq_getElem?_getD, List.getElem?_map, List.getElem?_append_right h6.le, h6, Nat.sub_self,
    List.getElem?_cons_zero, Option.map_some, Option.getD_some]

/-- **What a signed legacy transaction is a signature of**: of the bytes that were hashed, exactly when
they are a canonical list of six fields or of six fields, the chain id and two empty strings. -/
theorem legacy_signed_iff {u out : Bytes} {recoveryId : UInt8} {r s : Bytes} (ha : Addressable u)
    (h : encodeSignedLegacyTx u recoveryId r s = .ok out) :
    LegacySigned u recoveryId r s out ↔ CanonicalLegacy u := by
  constructor
  · rintro ⟨fields, h6, ⟨hu, -⟩ | ⟨chainId, hc, hu, -⟩⟩
    · exact ⟨fields, h6, .inl hu⟩
    · exact ⟨fields, h6, .inr ⟨chainId, hc, hu⟩⟩
  · rintro ⟨fields, h6, rfl | ⟨chainId, hc, rfl⟩⟩
    · obtain ⟨v, hv, rfl⟩ := encodeSignedLegacyTx_canonical ha h
      refine ⟨fields, h6, .inl ⟨rfl, ?_⟩⟩
      rw [take_of_length_le h6.le]
      have hlt := hv.lt
      cases hv with
      | eip155 h9 => rw [length_map] at h9; omega
      | unprotected => exact encodeList_signed hlt r s
    · obtain ⟨v, hv, rfl⟩ := encodeSignedLegacyTx_canonical ha h
      refine ⟨fields, h6, .inr ⟨chainId, hc, rfl, ?_⟩⟩
      rw [take_left' h6]
      cases hv with
      | unprotected h6' => rw [length_map, length_append] at h6'; simp at h6'; omega
      | eip155 _ hd hlt =>
        rw [getD_chainId h6, decodeUint_scalar hc] at hd
        cases hd
        have hv : chainId * 2 + (35 + recoveryId.toNat) = 2 * chainId + 35 + recoveryId.toNat := by omega
        rw [hv] at hlt ⊢
        exact encodeList_signed hlt r s

/-- A replay protected transaction on chain 1. -/
theorem legacy_signed_mainnet :
    ∃ out, encodeSignedLegacyTx [0xc9, 1, 2, 3, 0x80, 4, 0x80, 1, 0x80, 0x80] 0 (toBe 32 7) (toBe 32 9) = .ok out ∧
      LegacySigned [0xc9, 1, 2, 3, 0x80, 4, 0x80, 1, 0x80, 0x80] 0 (toBe 32 7) (toBe 32 9) out :=
  have h : encodeSignedLegacyTx [0xc9, 1, 2, 3, 0x80, 4, 0x80, 1, 0x80, 0x80] 0 (toBe 32 7) (toBe 32 9) =
      .ok [0xc9, 1, 2, 3, 0x80, 4, 0x80, 37, 7, 9] := by decide +kernel
  ⟨_, h, (legacy_signed_iff (by unfold Addressable; decide) h).mpr
    ⟨[.bytes [1], .bytes [2], .bytes [3], .bytes [], .bytes [4], .bytes []], rfl,
      .inr ⟨1, by decide, by decide +kernel⟩⟩⟩

/-- The two items behind the chain id are not looked at: they are hashed, and a node puts empty
strings in their place. -/
theorem legacy_signed_nonempty_tail :
    ∃ out, encodeSignedLegacyTx [0xc9, 1, 2, 3, 0x80, 4, 0x80, 1, 5, 6] 0 (toBe 32 7) (toBe 32 9) = .ok out ∧
      ¬ LegacySigned [0xc9, 1, 2, 3, 0x80, 4, 0x80, 1, 5, 6] 0 (toBe 32 7) (toBe 32 9) out := by
  have hu : Rlp.encode (.list [.bytes [1], .bytes [2], .bytes [3], .bytes [], .bytes [4], .bytes [], .bytes [1],
      .bytes [5], .bytes [6]]) = [0xc9, 1, 2, 3, 0x80, 4, 0x80, 1, 5, 6] := by decide +kernel
  refine ⟨[0xc9, 1, 2, 3, 0x80, 4, 0x80, 37, 7, 9], by decide +kernel, ?_⟩
  rintro ⟨fields, h6, ⟨he, -⟩ | ⟨chainId, -, he, -⟩⟩
  · have hmap := encode_list_inj (by rw [hu]; decide) (hu.trans he)
    have hlen := congrArg List.length hmap
    rw [length_map, length_map, h6] at hlen
    cases hlen
  · have hmap := encode_list_inj (by rw [hu]; decide) (hu.trans he)
    have hlast : some (Rlp.encode (.bytes [6])) = some (Rlp.encode (.bytes [])) := by
      have := congrArg List.getLast? hmap
      rwa [map_append, List.getLast?_append] at this
    revert hlast
    decide +kernel

/-! ## Items read back -/

/-- What `decode_length` and `split_items` find, level by level. -/
inductive Reads : Bytes → Rlp → Prop
  | bytes {raw b : Bytes} {off : Nat} : decodeLength raw = .ok (off, b.length) → raw.drop off = b → Reads raw (.bytes b)
  | list {raw : Bytes} (off : Nat) {raws : List Bytes} {items : List Rlp} :
      decodeLength raw = .ok (off, (raw.drop off).length) → splitItems (raw.drop off) = .ok raws →
      Forall₂ Reads raws items → Reads raw (.list items)

mutual
theorem reads_encode : ∀ t : Rlp, t.encode.length < 2 ^ 63 → Reads t.encode t
  | .bytes b, ha => by
    rw [Rlp.encode] at ha ⊢
    have hle := length_le_encodeBytes b
    obtain ⟨off, hp, -, hdrop, -⟩ := parseHeader_encodeBytes (show b.length < 2 ^ 64 by omega) []
    rw [append_nil] at hp
    exact .bytes (decodeLength_eq_ok.mpr ⟨_, hp, rfl, rfl⟩) hdrop
  | .list items, ha => by
    rw [Rlp.encode] at ha ⊢
    have hlen := length_encodeList (encodeAll items)
    have hdrop : (Rlp.encodeList (encodeAll items)).drop (header 0xc0 (encodeAll items).length).length =
        encodeAll items := drop_left
    refine .list (header 0xc0 (encodeAll items).length).length ?_ ?_ (readsAll_encode items (by omega)) <;> rw [hdrop]
    · exact decodeLength_eq_ok.mpr ⟨_, parseHeader_encodeList' (by omega), rfl, rfl⟩
    · exact (splitItems_eq_ok (by omega)).mpr ⟨whole_map_encode (by omega), encodeAll_eq_flatten items⟩

theorem readsAll_encode : ∀ ts : List Rlp, (encodeAll ts).length < 2 ^ 63 → Forall₂ Reads (ts.map Rlp.encode) ts
  | [], _ => .nil
  | t :: ts, ha => by
    rw [encodeAll, length_append] at ha
    exact .cons (reads_encode t (by omega)) (readsAll_encode ts (by omega))
end

/-- **A tree that is written item by item is read back level by level.**  Its text is the canonical one, and a
number takes no leading zero. -/
theorem written_reads_back :
    (∀ t, Addressable (write t) → Reads (write t) t ∧ write t = t.encode) ∧
      ∀ n < 2 ^ 128, (∃ b, encodeU128 n = Rlp.encode (.bytes b) ∧ beNat b = n ∧ b.head? ≠ some 0) ∧
        (n < 2 ^ 64 → encodeU64 n = encodeU128 n ∧ decodeUint (encodeU128 n) = .ok n) := by
  refine ⟨fun t ha => ?_, fun n hn => ?_⟩
  · rw [write_eq] at ha ⊢
    exact ⟨reads_encode t ha, rfl⟩
  · have h256 : n < 256 ^ 16 := hn.trans_eq (by norm_num)
    have h128 : encodeU128 n = (scalar n).encode := encodeMinimalInt_toBe h256 (by decide)
    refine ⟨⟨stripZeros (toBe 32 n), h128, ?_, ?_⟩, fun hu => ?_⟩
    · have hlt : n < 256 ^ 32 := h256.trans (by norm_num)
      rw [beNat_stripZeros, beNat_toBe hlt]
    · exact head?_stripZeros _
    · rw [h128, encodeU64_eq hu, decodeUint_scalar hu]
      exact ⟨rfl, rfl⟩

/-- A list in a list, and a number of nine bytes. -/
theorem written_reads_back_nested :
    Reads [0xc3, 0x05, 0xc1, 0x80] (.list [.bytes [5], .list [.bytes []]]) ∧
      ∃ b, encodeU128 (2 ^ 64) = Rlp.encode (.bytes b) ∧ beNat b = 2 ^ 64 ∧ b.head? ≠ some 0 :=
  ⟨(written_reads_back.1 (.list [.bytes [5], .list [.bytes []]]) (by unfold Addressable; decide +kernel)).1,
    (written_reads_back.2 (2 ^ 64) (by decide)).1⟩

end OneCipher.Signer
