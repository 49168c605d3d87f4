import OneCipher.Base.Lines

/-!
# OneCipher.Base.Utf8 — texts and their bytes

`encode` writes a text in UTF-8.  Encodings of characters are prefix-free, so a prefix of the bytes that is
itself a text is the bytes of a prefix (`prefix_of_encode`); a byte below 128 is a character of its own, so
cutting the bytes at newlines gives back the records of a file (`splitOn_encode_unlines`).
-/

namespace OneCipher

open List
open String (utf8EncodeChar)

namespace Utf8

def encode (cs : List Char) : Bytes := cs.flatMap utf8EncodeChar

@[simp] theorem encode_nil : encode [] = [] := rfl

theorem encode_cons (c : Char) (cs : List Char) : encode (c :: cs) = utf8EncodeChar c ++ encode cs := flatMap_cons

@[simp] theorem encode_append (a b : List Char) : encode (a ++ b) = encode a ++ encode b := flatMap_append

theorem length_encode (cs : List Char) : (encode cs).length = Lines.byteLen cs := rfl

theorem utf8EncodeChar_append_inj {c d : Char} {a b : Bytes}
    (h : utf8EncodeChar c ++ a = utf8EncodeChar d ++ b) : c = d ∧ a = b := by
  have hc : (utf8EncodeChar c ++ a).toByteArray.utf8DecodeChar? 0 = some c := by
    rw [toByteArray_append]
    exact ByteArray.utf8DecodeChar?_utf8EncodeChar_append
  rw [h, toByteArray_append, ByteArray.utf8DecodeChar?_utf8EncodeChar_append] at hc
  cases hc
  exact ⟨rfl, append_cancel_left h⟩

theorem prefix_of_encode {a b : List Char} (h : encode a <+: encode b) : a <+: b := by
  induction a generalizing b with
  | nil => exact nil_prefix
  | cons c a ih =>
    obtain ⟨t, ht⟩ := h
    rw [encode_cons, append_assoc] at ht
    rcases b with _ | ⟨d, b⟩
    · exact absurd (append_eq_nil_iff.mp ht).1 String.utf8EncodeChar_ne_nil
    · obtain ⟨rfl, hrest⟩ := utf8EncodeChar_append_inj ht
      exact cons_prefix_cons.mpr ⟨rfl, ih ⟨t, hrest⟩⟩

theorem encode_injective {a b : List Char} (h : encode a = encode b) : a = b := by
  have hab : a <+: b := prefix_of_encode (h ▸ prefix_rfl)
  have hba : b <+: a := prefix_of_encode (h ▸ prefix_rfl)
  exact hab.eq_of_length_le hba.length_le

theorem eq_append_of_encode {text a : List Char} {rest : Bytes} (h : encode text = encode a ++ rest) :
    ∃ b, text = a ++ b ∧ encode b = rest := by
  obtain ⟨b, rfl⟩ := prefix_of_encode ⟨rest, h.symm⟩
  rw [encode_append] at h
  exact ⟨b, rfl, append_cancel_left h⟩

theorem toNat_of_mem_utf8EncodeChar {c : Char} {b : UInt8} (h : b ∈ utf8EncodeChar c) (hb : b.toNat < 128) :
    c.toNat = b.toNat := by
  have hv : c.toNat = c.val.toNat := rfl
  -- the bytes of a longer encoding have their highest bit set
  have hhigh : ∀ n, 128 ≤ n → n < 256 → b ≠ UInt8.ofNat n := by
    intro n h128 h256 hn
    rw [hn, UInt8.toNat_ofNat_of_lt' h256] at hb
    omega
  unfold utf8EncodeChar at h
  dsimp only at h
  split_ifs at h <;> simp only [mem_cons, not_mem_nil, or_false] at h
  · rw [h, UInt8.toNat_ofNat_of_lt' (show c.val.toNat < 256 by omega), hv]
  · rcases h with h | h <;> exact absurd h (hhigh _ (by omega) (by omega))
  · rcases h with h | h | h <;> exact absurd h (hhigh _ (by omega) (by omega))
  · rcases h with h | h | h | h <;> exact absurd h (hhigh _ (by omega) (by omega))

theorem encode_newline : encode ['\n'] = [10] := rfl

theorem newline_notMem_encode {cs : List Char} (h : '\n' ∉ cs) : (10 : UInt8) ∉ encode cs := by
  intro hmem
  obtain ⟨c, hc, hb⟩ := mem_flatMap.mp hmem
  have hnat : c.toNat = 10 := toNat_of_mem_utf8EncodeChar hb (by decide)
  have hchar : c = '\n' := by
    rw [← Char.ofNat_toNat c, hnat]
  exact h (hchar ▸ hc)

theorem splitOn_encode_unlines {records : List (List Char)} (h : ∀ r ∈ records, '\n' ∉ r) (rest : Bytes) :
    (encode (Lines.unlines records) ++ rest).splitOn 10 = records.map encode ++ rest.splitOn 10 := by
  induction records with
  | nil => rfl
  | cons r rs ih =>
    have hcons : encode (Lines.unlines (r :: rs)) ++ rest = encode r ++ 10 :: (encode (Lines.unlines rs) ++ rest) := by
      rw [Lines.unlines, flatMap_cons, encode_append, encode_append, encode_newline, append_assoc, append_assoc]
      rfl
    rw [hcons, splitOn_append_cons_self_of_not_mem (newline_notMem_encode (h r mem_cons_self)),
      ih fun s hs => h s (mem_cons_of_mem r hs)]
    rfl

end Utf8

end OneCipher
