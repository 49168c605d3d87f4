import Mathlib.Algebra.Order.Field.Rat
import Mathlib.Tactic.FieldSimp
import Mathlib.Tactic.Ring
import OneCipher.Base.Text
import OneCipher.Base.Json

/-!
# OneCipher.Base.Js — text and numbers of JavaScript

The string methods and number readers of ECMAScript that differ from those of `Base.Text`, over Lean strings.  A
number is given in the form its JSON text reads back in (`JsonNumber`): an integer below `2 ^ 64` prints its
digits, and everything else prints with a sign, a point, an exponent or more digits.
-/

namespace OneCipher.Js

open List Bool
open Nat (ofDigitChars)

/-! ## Strings -/

/-- `WhiteSpace` and `LineTerminator`: unlike Unicode `White_Space`, with U+FEFF and without U+0085. -/
def isWhiteSpace (c : Char) : Bool :=
  let n := c.toNat
  (9 ≤ n && n ≤ 13) || n == 0x20 || n == 0xA0 || n == 0x1680 || (0x2000 ≤ n && n ≤ 0x200A) ||
    n == 0x2028 || n == 0x2029 || n == 0x202F || n == 0x205F || n == 0x3000 || n == 0xFEFF

def trim (s : String) : String := String.ofList ((s.toList.dropWhile isWhiteSpace).rdropWhile isWhiteSpace)

def isHexDigit (c : Char) : Bool := (Text.toDigit 16 c).isSome

/-- `/^\d+$/`. -/
def isDecimal (cs : List Char) : Bool := !cs.isEmpty && cs.all Char.isDigit

/-- `/^[0-9a-fA-F]+$/`. -/
def isHexDigits (cs : List Char) : Bool := !cs.isEmpty && cs.all isHexDigit

/-- The digits of `/^0x[0-9a-fA-F]+$/`. -/
def hexQuantity (s : String) : Option (List Char) := ((Text.stripPrefix "0x" s).map String.toList).filter isHexDigits

/-- `BigInt` of a digit string. -/
def bigInt (radix : ℕ) (cs : List Char) : ℕ := (Text.digitsValue radix cs 0).getD 0

/-- `Number.parseInt(text, 16)`; none is `NaN`. -/
def parseIntHex (cs : List Char) : Option ℤ :=
  let signed : Bool × List Char := match cs.dropWhile isWhiteSpace with
    | '-' :: rest => (true, rest)
    | '+' :: rest => (false, rest)
    | rest => (false, rest)
  let body := match signed.2 with
    | '0' :: 'x' :: rest => rest
    | '0' :: 'X' :: rest => rest
    | rest => rest
  let digits := body.takeWhile isHexDigit
  if digits = [] then none
  else some (if signed.1 then -(bigInt 16 digits : ℤ) else bigInt 16 digits)

/-- Storing a number in a `Uint8Array`. -/
def toUint8 (n : Option ℤ) : UInt8 := UInt8.ofNat ((n.getD 0) % 256).toNat

theorem trim_of_forall {s : String} (h : ∀ c ∈ s.toList, isWhiteSpace c = false) : trim s = s := by
  rw [trim, Text.rdropWhile_dropWhile_of_forall h, String.ofList_toList]

theorem not_isWhiteSpace_of_isDigit {c : Char} (h : c.isDigit = true) : isWhiteSpace c = false := by
  have hrange := Text.toNat_of_isDigit h
  simp only [isWhiteSpace, or_eq_false_iff, and_eq_false_iff, decide_eq_false_iff_not, beq_eq_false_iff_ne]
  omega

/-! ## Numbers -/

/-- `Number.isSafeInteger(value) && value >= 0`. -/
def safeNat : JsonNumber → Option ℕ
  | .posInt n => if n.toNat < 2 ^ 53 then some n.toNat else none
  | _ => none

theorem le_of_safeNat_eq_none {number : JsonNumber} {n : ℕ} (h : safeNat number = none)
    (hn : number.asU64 = some n) : 2 ^ 53 ≤ n := by
  cases number with
  | posInt =>
    cases hn
    rw [safeNat] at h
    split at h
    · cases h
    · omega
  | negInt | float => cases hn

/-! ## Decimal text -/

section Decimal

/-- The value of `w` or `w.f`. -/
def decimalValue (cs : List Char) : Option ℚ :=
  let whole := cs.takeWhile (· != '.')
  let frac := (cs.dropWhile (· != '.')).drop 1
  if isDecimal whole && frac.all Char.isDigit then
    some ((ofDigitChars 10 whole 0 : ℚ) + ofDigitChars 10 frac 0 / 10 ^ frac.length)
  else none

/-- `.replace(/^0+(?=\d)/, '')`: the last digit stays. -/
def dropLeadingZeros (cs : List Char) : List Char :=
  if cs.all (· == '0') then cs.drop (cs.length - 1) else cs.dropWhile (· == '0')

/-- `.replace(/0+$/, '')`. -/
def dropTrailingZeros (cs : List Char) : List Char := cs.rdropWhile (· == '0')

variable {cs whole frac : List Char}

theorem isDecimal_iff : isDecimal cs = true ↔ cs ≠ [] ∧ ∀ c ∈ cs, c.isDigit = true := by
  rw [isDecimal, and_eq_true, all_eq_true]
  simp

theorem trim_of_isDecimal {s : String} (h : isDecimal s.toList = true) : trim s = s :=
  trim_of_forall fun c hc => not_isWhiteSpace_of_isDigit ((isDecimal_iff.mp h).2 c hc)

theorem isDecimal_toString (n : ℕ) : isDecimal (toString n).toList = true := by
  refine isDecimal_iff.mpr ⟨?_, fun c hc => Text.isDigit_of_mem_toString hc⟩
  rw [Nat.toString_eq_repr, Nat.toList_repr]
  exact Nat.toDigits_ne_nil

theorem ne_point_of_isDigit {c : Char} (h : c.isDigit = true) : (c != '.') = true := by
  rw [bne_iff_ne]
  rintro rfl
  revert h
  decide

theorem decimalValue_whole (hw : isDecimal whole = true) : decimalValue whole = some (ofDigitChars 10 whole 0 : ℚ) := by
  have hpoint : ∀ c ∈ whole, (c != '.') = true := fun c hc =>
    ne_point_of_isDigit ((isDecimal_iff.mp hw).2 c hc)
  rw [decimalValue, takeWhile_eq_self_iff.mpr hpoint, dropWhile_eq_nil_iff.mpr hpoint]
  simp [hw, ofDigitChars]

theorem decimalValue_point (hw : isDecimal whole = true) (hf : ∀ c ∈ frac, c.isDigit = true) :
    decimalValue (whole ++ '.' :: frac) =
      some ((ofDigitChars 10 whole 0 : ℚ) + ofDigitChars 10 frac 0 / 10 ^ frac.length) := by
  have hpoint : ∀ c ∈ whole, (c != '.') = true := fun c hc =>
    ne_point_of_isDigit ((isDecimal_iff.mp hw).2 c hc)
  have htake : (whole ++ '.' :: frac).takeWhile (· != '.') = whole := by
    rw [takeWhile_append_of_pos hpoint]
    simp
  have hdrop : (whole ++ '.' :: frac).dropWhile (· != '.') = '.' :: frac := by
    rw [dropWhile_append_of_pos hpoint]
    simp
  have hall : frac.all Char.isDigit = true := all_eq_true.mpr hf
  rw [decimalValue, htake, hdrop, drop_one, tail_cons, hw, hall]
  rfl

theorem ofDigitChars_dropWhile_zero (cs : List Char) :
    ofDigitChars 10 (cs.dropWhile (· == '0')) 0 = ofDigitChars 10 cs 0 := by
  induction cs with
  | nil => rfl
  | cons c cs ih =>
    rw [dropWhile_cons]
    split
    · next hc =>
      rw [ih, beq_iff_eq.mp hc]
      rfl
    · rfl

theorem ofDigitChars_dropLeadingZeros (cs : List Char) :
    ofDigitChars 10 (dropLeadingZeros cs) 0 = ofDigitChars 10 cs 0 := by
  unfold dropLeadingZeros
  split
  · next hzero =>
    have hcs : cs = List.replicate cs.length '0' := by
      refine eq_replicate_iff.mpr ⟨rfl, fun c hc => ?_⟩
      exact beq_iff_eq.mp (all_eq_true.mp hzero c hc)
    rw [hcs, drop_replicate, Nat.ofDigitChars_replicate_zero, Nat.ofDigitChars_replicate_zero,
      Nat.mul_zero, Nat.mul_zero]
  · exact ofDigitChars_dropWhile_zero cs

theorem isDecimal_dropLeadingZeros (h : isDecimal cs = true) : isDecimal (dropLeadingZeros cs) = true := by
  obtain ⟨hne, hdigits⟩ := isDecimal_iff.mp h
  refine isDecimal_iff.mpr ⟨?_, ?_⟩
  · unfold dropLeadingZeros
    split
    · have hlen := length_pos_iff.mpr hne
      rw [ne_eq, drop_eq_nil_iff]
      omega
    · next hzero =>
      intro hnil
      exact hzero (all_eq_true.mpr (dropWhile_eq_nil_iff.mp hnil))
  · intro c hc
    unfold dropLeadingZeros at hc
    split at hc
    · exact hdigits c (mem_of_mem_drop hc)
    · exact hdigits c ((dropWhile_sublist _).subset hc)

theorem ofDigitChars_dropTrailingZeros (cs : List Char) :
    ofDigitChars 10 cs 0 =
      ofDigitChars 10 (dropTrailingZeros cs) 0 * 10 ^ (cs.length - (dropTrailingZeros cs).length) := by
  unfold dropTrailingZeros
  induction cs using List.reverseRecOn with
  | nil => rfl
  | append_singleton cs c ih =>
    by_cases hc : (c == '0') = true
    · have hle : (cs.rdropWhile (· == '0')).length ≤ cs.length := ( rdropWhile_prefix _ _).length_le
      rw [rdropWhile_concat_pos (· == '0') _ _ hc, beq_iff_eq.mp hc, Nat.ofDigitChars_append,
        Nat.ofDigitChars_cons, ih, length_append, length_singleton,
        show cs.length + 1 - (cs.rdropWhile (· == '0')).length =
          cs.length - (cs.rdropWhile (· == '0')).length + 1 by omega, pow_succ]
      change 10 * _ + 0 = _
      ring
    · rw [rdropWhile_concat_neg (· == '0') _ _ hc, Nat.sub_self, pow_zero, Nat.mul_one]

theorem fraction_dropTrailingZeros (cs : List Char) :
    (ofDigitChars 10 (dropTrailingZeros cs) 0 : ℚ) / 10 ^ (dropTrailingZeros cs).length =
      ofDigitChars 10 cs 0 / 10 ^ cs.length := by
  have hle : (dropTrailingZeros cs).length ≤ cs.length := ( rdropWhile_prefix _ _).length_le
  have hpow : (10 : ℚ) ^ cs.length =
      10 ^ (cs.length - (dropTrailingZeros cs).length) * 10 ^ (dropTrailingZeros cs).length := by
    rw [← pow_add, Nat.sub_add_cancel hle]
  rw [ofDigitChars_dropTrailingZeros cs, hpow]
  push_cast
  field_simp

theorem ofDigitChars_leftpad (k : ℕ) (cs : List Char) :
    ofDigitChars 10 (cs.leftpad k '0') 0 = ofDigitChars 10 cs 0 := by
  rw [List.leftpad, Nat.ofDigitChars_append, Nat.ofDigitChars_replicate_zero, Nat.mul_zero]

theorem ofDigitChars_split {cs : List Char} (h : 18 ≤ cs.length) :
    (ofDigitChars 10 (cs.take (cs.length - 18)) 0 : ℚ) +
        ofDigitChars 10 (cs.drop (cs.length - 18)) 0 / 10 ^ (cs.drop (cs.length - 18)).length =
      ofDigitChars 10 cs 0 / 10 ^ 18 := by
  have hlen : (cs.drop (cs.length - 18)).length = 18 := by
    rw [length_drop]
    omega
  have hsplit : ofDigitChars 10 cs 0 =
      10 ^ 18 * ofDigitChars 10 (cs.take (cs.length - 18)) 0 + ofDigitChars 10 (cs.drop (cs.length - 18)) 0 := by
    conv_lhs => rw [← take_append_drop (cs.length - 18) cs]
    rw [Nat.ofDigitChars_append, Nat.ofDigitChars_eq_ofDigitChars_zero, hlen]
  rw [hlen, hsplit, Nat.cast_add, Nat.cast_mul, Nat.cast_pow, Nat.cast_ofNat, add_div,
    mul_div_cancel_left₀ _ (by positivity)]

end Decimal

end OneCipher.Js
