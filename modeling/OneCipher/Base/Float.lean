import Mathlib.Algebra.Order.Field.Rat
import Mathlib.Algebra.Field.Rat
import Mathlib.Tactic.NormNum

/-!
# OneCipher.Base.Float — what a program asks of its floating-point numbers

`FloatOps` lists the operations a program may apply to an `f64`, with no law attached: a theorem
over an arbitrary `FloatOps` holds whatever the rounding does.  `ExactFloat` is the reading in which
finite numbers are rationals and arithmetic on them is exact; the infinities and NaN stay, with
their IEEE comparisons.
-/

namespace OneCipher

class FloatOps (φ : Type) where
  zero : φ
  add : φ → φ → φ
  sub : φ → φ → φ
  mul : φ → φ → φ
  abs : φ → φ
  max : φ → φ → φ
  lt : φ → φ → Bool
  le : φ → φ → Bool
  eq : φ → φ → Bool
  isFinite : φ → Bool
  ofScientific : Nat → Bool → Nat → φ
  ofInt : Int → φ
  ofBits : UInt64 → φ

namespace FloatOps

/-- `Iterator::sum`. -/
def sum {φ : Type} [FloatOps φ] (xs : List φ) : φ := xs.foldl add zero

end FloatOps

/-- The machine's own `f64`. -/
instance : FloatOps Float where
  zero := 0
  add := Float.add
  sub := Float.sub
  mul := Float.mul
  abs := Float.abs
  max a b := if a.isNaN then b else if b.isNaN then a else if a < b then b else a
  lt a b := decide (a < b)
  le a b := decide (a ≤ b)
  eq a b := a == b
  isFinite := Float.isFinite
  ofScientific := Float.ofScientific
  ofInt := Float.ofInt
  ofBits := Float.ofBits

/-! ## The exact reading -/

/-- A float with an exact finite part. -/
inductive ExactFloat where
  | finite (q : ℚ)
  | inf (negative : Bool)
  | nan
  deriving DecidableEq

namespace ExactFloat

def neg : ExactFloat → ExactFloat
  | finite q => finite (-q)
  | inf negative => inf (!negative)
  | nan => nan

def add : ExactFloat → ExactFloat → ExactFloat
  | finite a, finite b => finite (a + b)
  | nan, _ | _, nan => nan
  | inf s, inf t => if s = t then inf s else nan
  | inf s, finite _ | finite _, inf s => inf s

def scaleInf (negative : Bool) (q : ℚ) : ExactFloat :=
  if q = 0 then nan else inf (negative != decide (q < 0))

def mul : ExactFloat → ExactFloat → ExactFloat
  | finite a, finite b => finite (a * b)
  | nan, _ | _, nan => nan
  | inf s, inf t => inf (s != t)
  | inf s, finite q | finite q, inf s => scaleInf s q

def abs : ExactFloat → ExactFloat
  | finite q => finite |q|
  | inf _ => inf false
  | nan => nan

def lt : ExactFloat → ExactFloat → Bool
  | finite a, finite b => decide (a < b)
  | nan, _ | _, nan => false
  | inf s, inf t => s && !t
  | inf s, finite _ => s
  | finite _, inf t => !t

def eq : ExactFloat → ExactFloat → Bool
  | nan, _ | _, nan => false
  | a, b => decide (a = b)

def max (a b : ExactFloat) : ExactFloat :=
  if a = nan then b else if b = nan then a else if lt a b then b else a

def isFinite : ExactFloat → Bool
  | finite _ => true
  | _ => false

def ofBits (bits : UInt64) : ExactFloat :=
  let n := bits.toNat
  let negative := decide (2 ^ 63 ≤ n)
  let exponent : ℕ := n / 2 ^ 52 % 2 ^ 11
  let mantissa : ℕ := n % 2 ^ 52
  if exponent = 2 ^ 11 - 1 then
    if mantissa = 0 then inf negative else nan
  else
    let sign : ℚ := if negative then -1 else 1
    -- a zero exponent field marks a subnormal: no implicit leading bit
    let significand : ℚ := if exponent = 0 then mantissa else mantissa + 2 ^ 52
    finite (sign * significand * 2 ^ ((Nat.max exponent 1 : ℤ) - 1075))

instance : FloatOps ExactFloat where
  zero := finite 0
  add := add
  sub a b := add a b.neg
  mul := mul
  abs := abs
  max := max
  lt := lt
  le a b := lt a b || eq a b
  eq := eq
  isFinite := isFinite
  ofScientific m s e := finite (OfScientific.ofScientific m s e)
  ofInt n := finite n
  ofBits := ofBits

@[simp] theorem zero_eq : (FloatOps.zero : ExactFloat) = finite 0 := rfl

@[simp] theorem add_finite (a b : ℚ) : FloatOps.add (finite a) (finite b) = finite (a + b) := rfl

@[simp] theorem sub_finite (a b : ℚ) : FloatOps.sub (finite a) (finite b) = finite (a - b) := by
  show finite (a + -b) = finite (a - b)
  rw [sub_eq_add_neg]

@[simp] theorem lt_finite {a b : ℚ} : FloatOps.lt (finite a) (finite b) = true ↔ a < b := decide_eq_true_iff

theorem lt_finite_eq_false {a b : ℚ} : FloatOps.lt (finite a) (finite b) = false ↔ b ≤ a := by
  rw [← Bool.not_eq_true, lt_finite, not_lt]

@[simp] theorem le_finite {a b : ℚ} : FloatOps.le (finite a) (finite b) = true ↔ a ≤ b := by
  show (decide (a < b) || decide (finite a = finite b)) = true ↔ a ≤ b
  rw [Bool.or_eq_true, decide_eq_true_iff, decide_eq_true_iff, finite.injEq, le_iff_lt_or_eq]

@[simp] theorem eq_finite {a b : ℚ} : FloatOps.eq (finite a) (finite b) = true ↔ a = b := by
  show decide (finite a = finite b) = true ↔ a = b
  rw [decide_eq_true_iff, finite.injEq]

theorem isFinite_iff {x : ExactFloat} : FloatOps.isFinite x = true ↔ ∃ q, x = finite q := by
  constructor
  · intro h
    cases x with
    | finite q => exact ⟨q, rfl⟩
    | _ => cases h
  · rintro ⟨q, rfl⟩
    rfl

theorem max_zero_of_nonneg {q : ℚ} (h : 0 ≤ q) : FloatOps.max (finite q) FloatOps.zero = finite q := by
  show (if lt (finite q) (finite 0) = true then finite 0 else finite q) = finite q
  rw [if_neg]
  exact fun hlt => absurd (lt_finite.mp hlt) (not_lt.mpr h)

def toRat : ExactFloat → ℚ
  | finite q => q
  | _ => 0

@[simp] theorem toRat_finite (q : ℚ) : toRat (finite q) = q := rfl

theorem foldl_add_finite (a : ℚ) {xs : List ExactFloat} (h : ∀ x ∈ xs, FloatOps.isFinite x = true) :
    xs.foldl FloatOps.add (finite a) = finite (a + (xs.map toRat).sum) := by
  induction xs generalizing a with
  | nil => simp
  | cons x _ ih =>
    obtain ⟨q, rfl⟩ := isFinite_iff.mp (h x List.mem_cons_self)
    rw [List.foldl_cons, add_finite, ih (a + q) fun y hy => h y (List.mem_cons_of_mem _ hy)]
    rw [List.map_cons, List.sum_cons, toRat_finite, add_assoc]

theorem sum_finite {xs : List ExactFloat} (h : ∀ x ∈ xs, FloatOps.isFinite x = true) :
    FloatOps.sum xs = finite (xs.map toRat).sum := by
  rw [FloatOps.sum, zero_eq, foldl_add_finite 0 h, zero_add]

end ExactFloat

end OneCipher
