import Mathlib.Data.List.DropRight
import Mathlib.Data.List.Induction
import Mathlib.Tactic.Ring
import Mathlib.Tactic.Linarith

/-!
# OneCipher.Base.Bytes — byte strings and big-endian integers

Byte strings are lists of `UInt8`.  `beNat` reads one as a big-endian integer of any width, `toBe`
writes an integer into a given number of bytes, and `stripZeros` drops the leading zero bytes; the
lemmas say how the three compose.
-/

namespace OneCipher

open List

abbrev Bytes := List UInt8

namespace Bytes

theorem le_ofNat_iff {x : UInt8} {n : Nat} (hn : n < 256) : x ≤ UInt8.ofNat n ↔ x.toNat < n + 1 := by
  rw [UInt8.le_iff_toNat_le, UInt8.toNat_ofNat_of_lt' hn, Nat.lt_succ_iff]

/-! ## Big-endian integers -/

variable (b : Bytes)

def beNat : Nat := b.foldl (fun n x => n * 256 + x.toNat) 0

/-- The last `w` bytes of an integer, most significant byte first. -/
def toBe : Nat → Nat → Bytes
  | 0, _ => []
  | w + 1, n => toBe w (n / 256) ++ [UInt8.ofNat n]

def stripZeros : Bytes := b.dropWhile (· == 0)

theorem foldl_beNat (n : Nat) : b.foldl (fun n x => n * 256 + x.toNat) n = n * 256 ^ b.length + beNat b := by
  induction b generalizing n with
  | nil => simp [beNat]
  | cons _ _ ih =>
    rw [beNat, foldl_cons, foldl_cons, ih, ih, length_cons]
    ring

@[simp] theorem beNat_nil : beNat [] = 0 := rfl

theorem beNat_cons (x : UInt8) (b : Bytes) : beNat (x :: b) = x.toNat * 256 ^ b.length + beNat b := by
  rw [beNat, foldl_cons, foldl_beNat]
  simp

theorem beNat_append (a b : Bytes) : beNat (a ++ b) = beNat a * 256 ^ b.length + beNat b := by
  rw [beNat, foldl_append, foldl_beNat]
  rfl

theorem beNat_concat (x : UInt8) : beNat (b ++ [x]) = beNat b * 256 + x.toNat := by
  simp [beNat_append, beNat_cons]

theorem beNat_lt : beNat b < 256 ^ b.length := by
  induction b with
  | nil => simp
  | cons x =>
    rw [beNat_cons, length_cons, pow_succ]
    have hx : x.toNat < 256 := x.toNat_lt
    nlinarith

theorem beNat_drop (k : Nat) : beNat (b.drop (b.length - k)) = beNat b % 256 ^ k := by
  by_cases hk : b.length ≤ k
  · have hlt : beNat b < 256 ^ k := lt_of_lt_of_le (beNat_lt b) (Nat.pow_le_pow_right (by decide) hk)
    rw [Nat.sub_eq_zero_of_le hk, drop_zero, Nat.mod_eq_of_lt hlt]
  · have hlen : (b.drop (b.length - k)).length = k := by rw [length_drop]; omega
    have hlt := beNat_lt (b.drop (b.length - k))
    have happ := beNat_append (b.take (b.length - k)) (b.drop (b.length - k))
    rw [hlen] at hlt happ
    rw [take_append_drop] at happ
    rw [happ, Nat.mul_add_mod', Nat.mod_eq_of_lt hlt]

@[simp] theorem length_toBe (w n : Nat) : (toBe w n).length = w := by
  induction w generalizing n with
  | zero => rfl
  | succ _ ih => simp [toBe, ih]

theorem beNat_toBe_mod (w n : Nat) : beNat (toBe w n) = n % 256 ^ w := by
  induction w generalizing n with
  | zero => simp [toBe, Nat.mod_one]
  | succ _ ih =>
    have h8 : n % 2 ^ 8 = n % 256 := rfl
    rw [toBe, beNat_concat, ih, UInt8.toNat_ofNat', h8, pow_succ', Nat.mod_mul]
    ring

theorem beNat_toBe {w n : Nat} (h : n < 256 ^ w) : beNat (toBe w n) = n := by
  rw [beNat_toBe_mod, Nat.mod_eq_of_lt h]

theorem toBe_beNat : toBe b.length (beNat b) = b := by
  induction b using List.reverseRecOn with
  | nil => rfl
  | append_singleton b x ih =>
    have hx : x.toNat < 256 := x.toNat_lt
    have hd : (beNat b * 256 + x.toNat) / 256 = beNat b := by omega
    have hm : UInt8.ofNat (beNat b * 256 + x.toNat) = x := by
      apply UInt8.toNat_inj.mp
      rw [UInt8.toNat_ofNat']
      omega
    rw [length_append, length_singleton, toBe, beNat_concat, hd, ih, hm]

/-! ## Leading zeros -/

@[simp] theorem stripZeros_nil : stripZeros [] = [] := rfl

@[simp] theorem stripZeros_zero_cons : stripZeros (0 :: b) = stripZeros b := by
  simp [stripZeros]

theorem stripZeros_cons_of_ne {x : UInt8} (hx : x ≠ 0) (b : Bytes) : stripZeros (x :: b) = x :: b := by
  simp [stripZeros, hx]

@[simp] theorem beNat_stripZeros : beNat (stripZeros b) = beNat b := by
  induction b with
  | nil => rfl
  | cons x _ ih =>
    by_cases hx : x = 0
    · subst hx; simp [ih, beNat_cons]
    · rw [stripZeros_cons_of_ne hx]

theorem head?_stripZeros : (stripZeros b).head? ≠ some 0 := by
  intro h
  have hhead := head?_dropWhile_not (· == 0) b
  rw [stripZeros] at h
  rw [h] at hhead
  cases hhead

theorem length_stripZeros_le : (stripZeros b).length ≤ b.length := (dropWhile_sublist _).length_le

theorem stripZeros_stripZeros : stripZeros (stripZeros b) = stripZeros b := dropWhile_idempotent _ _

theorem stripZeros_replicate_append (n : Nat) (b : Bytes) : stripZeros (List.replicate n 0 ++ b) = stripZeros b := by
  induction n with
  | zero => rfl
  | succ _ ih => rw [replicate_succ, cons_append, stripZeros_zero_cons, ih]

theorem beNat_replicate_append (n : Nat) (b : Bytes) : beNat (List.replicate n 0 ++ b) = beNat b := by
  rw [← beNat_stripZeros, stripZeros_replicate_append, beNat_stripZeros]

theorem stripZeros_toBe {w k n : Nat} (h : n < 256 ^ w) (hk : w ≤ k) :
    stripZeros (toBe k n) = stripZeros (toBe w n) := by
  have hlen : (List.replicate (k - w) 0 ++ toBe w n).length = k := by
    rw [length_append, length_replicate, length_toBe]
    omega
  have hword := toBe_beNat (List.replicate (k - w) 0 ++ toBe w n)
  rw [hlen, beNat_replicate_append, beNat_toBe h] at hword
  rw [hword, stripZeros_replicate_append]

end Bytes

end OneCipher
