import OneCipher.Signer.Evm

/-!
# OneCipher.Signer.Solana — signing a Solana transaction in place

`oc-signer/src/chains/solana.rs`.  A transaction is a count of signatures, that many slots of 64 bytes, and the
message; signing fills the first slot.
-/

namespace OneCipher.Signer.SolanaSigner

open List Result

/-- The loop of `decode_compact_u16`, from byte `i` on. -/
def decodeCompactFrom (value shift i : Nat) : Bytes → Signed (Nat × Nat)
  | [] => invalidTx "truncated compact-u16"
  | byte :: rest =>
    if i ≥ 3 then invalidTx "compact-u16 encoding exceeds 3 bytes"
    else
      let value := value ||| (byte &&& 0x7F).toNat <<< shift
      if byte &&& 0x80 = 0 then .ok (value, i + 1) else decodeCompactFrom value (shift + 7) (i + 1) rest

/-- The value, and how many bytes it takes. -/
def decodeCompactU16 : Bytes → Signed (Nat × Nat) := decodeCompactFrom 0 0 0

def extractSignableBytes (txBytes : Bytes) : Signed Bytes :=
  if txBytes.isEmpty then invalidTx "empty transaction"
  else do
    let (numSigs, headerLen) ← decodeCompactU16 txBytes
    let messageStart := headerLen + numSigs * 64
    if txBytes.length ≤ messageStart then invalidTx "transaction too short for declared signature slots"
    else return txBytes.drop messageStart

def encodeSignedTransaction (txBytes : Bytes) (signature : SignOutput) : Signed Bytes :=
  if signature.signature.length ≠ 64 then invalidTx "expected 64-byte Ed25519 signature"
  else if txBytes.isEmpty then invalidTx "empty transaction"
  else do
    let (numSigs, headerLen) ← decodeCompactU16 txBytes
    if numSigs = 0 then invalidTx "transaction has no signature slots"
    else if txBytes.length < headerLen + numSigs * 64 then
      invalidTx "transaction too short for declared signature slots"
    else return txBytes.take headerLen ++ signature.signature ++ txBytes.drop (headerLen + 64)

/-! ## What signing changes -/

/-- The count is read off its own bytes. -/
theorem decodeCompactFrom_ok {data : Bytes} {value shift i n used : Nat}
    (h : decodeCompactFrom value shift i data = .ok (n, used)) :
    i < used ∧ ∀ rest, decodeCompactFrom value shift i (data.take (used - i) ++ rest) = .ok (n, used) := by
  induction data generalizing value shift i with
  | nil => cases h
  | cons byte data ih =>
    rw [decodeCompactFrom] at h
    split_ifs at h with hi hlast
    · cases h
      refine ⟨i.lt_succ_self, fun rest => ?_⟩
      rw [Nat.add_sub_cancel_left, take_succ_cons, cons_append, decodeCompactFrom, if_neg hi, if_pos hlast]
    · obtain ⟨hlt, hread⟩ := ih h
      refine ⟨by omega, fun rest => ?_⟩
      rw [show used - i = used - (i + 1) + 1 by omega, take_succ_cons, cons_append, decodeCompactFrom, if_neg hi,
        if_neg hlast]
      exact hread rest

/-- **Signing fills the first slot and nothing else**: the length, all bytes outside the slot and the message to be
signed are those of the unsigned transaction. -/
theorem signed_in_first_slot (txBytes signed : Bytes) (signature : SignOutput)
    (h : encodeSignedTransaction txBytes signature = .ok signed) :
    ∃ numSigs headerLen, decodeCompactU16 txBytes = .ok (numSigs, headerLen) ∧ signed.length = txBytes.length ∧
      (∀ i, i < headerLen ∨ headerLen + 64 ≤ i → signed[i]? = txBytes[i]?) ∧
      (signed.drop headerLen).take 64 = signature.signature ∧
      extractSignableBytes signed = extractSignableBytes txBytes := by
  unfold encodeSignedTransaction at h
  split_ifs at h with hlen hempty
  rw [not_not] at hlen
  obtain ⟨⟨numSigs, headerLen⟩, hcount, h⟩ := bind_eq_ok.mp h
  dsimp only at h
  split_ifs at h with hzero hshort
  have hsigned : signed = txBytes.take headerLen ++ (signature.signature ++ txBytes.drop (headerLen + 64)) := by
    rw [← append_assoc]
    exact (Except.ok.inj h).symm
  have hheader : (txBytes.take headerLen).length = headerLen := length_take_of_le (by omega)
  have hlength : signed.length = txBytes.length := by
    rw [hsigned, length_append, length_append, hheader, hlen, length_drop]
    omega
  have hslots : signed.drop headerLen = signature.signature ++ txBytes.drop (headerLen + 64) := by
    rw [hsigned, drop_left' hheader]
  have hafter : signed.drop (headerLen + 64) = txBytes.drop (headerLen + 64) := by
    rw [← drop_drop, hslots, drop_left' hlen]
  refine ⟨numSigs, headerLen, hcount, hlength, fun i hi => ?_, by rw [hslots, take_left' hlen], ?_⟩
  · rcases hi with hi | hi
    · rw [hsigned, getElem?_append_left (hi.trans_eq hheader.symm), getElem?_take_of_lt hi]
    · obtain ⟨k, rfl⟩ := Nat.exists_eq_add_of_le hi
      rw [← getElem?_drop, ← getElem?_drop, hafter]
  · have hmessage : signed.drop (headerLen + numSigs * 64) = txBytes.drop (headerLen + numSigs * 64) := by
      rw [show headerLen + numSigs * 64 = headerLen + 64 + (numSigs - 1) * 64 by omega, ← drop_drop, hafter, drop_drop]
    have hsame : decodeCompactU16 signed = .ok (numSigs, headerLen) := by
      rw [hsigned]
      exact (decodeCompactFrom_ok hcount).2 _
    have hnonempty : ¬signed.isEmpty := by
      rwa [isEmpty_iff_length_eq_zero, hlength, ← isEmpty_iff_length_eq_zero]
    rw [extractSignableBytes, extractSignableBytes, if_neg hnonempty, if_neg hempty, hsame, hcount]
    show (if _ ≤ _ then _ else _) = if _ ≤ _ then _ else _
    rw [hlength, hmessage]

/-- Two signatures are declared, and the message is one byte. -/
theorem signed_two_slots :
    ∃ signed, encodeSignedTransaction (2 :: replicate 128 0 ++ [5]) ⟨replicate 64 7, none, none⟩ = .ok signed ∧
      extractSignableBytes signed = .ok [5] := by
  refine ⟨2 :: replicate 64 7 ++ replicate 64 0 ++ [5], by decide +kernel, ?_⟩
  obtain ⟨-, -, -, -, -, -, h⟩ := signed_in_first_slot (2 :: replicate 128 0 ++ [5])
    (2 :: replicate 64 7 ++ replicate 64 0 ++ [5]) ⟨replicate 64 7, none, none⟩ (by decide +kernel)
  decide +kernel

end OneCipher.Signer.SolanaSigner
