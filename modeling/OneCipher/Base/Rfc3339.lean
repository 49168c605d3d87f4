import Mathlib.Data.List.DropRight
import Mathlib.Data.List.Lex
import Mathlib.Data.String.Basic

/-!
# OneCipher.Base.Rfc3339 — the order of rendered instants

An instant is rendered as its date and time of day, its fraction of a second without trailing zeros, and `Z`.
The order of the texts is that of time except within one second: there `Z` is greater than the dot and the
digits, so an instant whose fraction is a proper prefix of a later one's is rendered after it (`text_le_iff`).
-/

namespace OneCipher

open List

namespace Rfc3339

/-! ## Decimals of a fixed width -/

/-- The last `width` decimal digits. -/
def fixed : Nat → Nat → List Char
  | 0, _ => []
  | width + 1, n => fixed width (n / 10) ++ [Nat.digitChar (n % 10)]

theorem length_fixed (width n : Nat) : (fixed width n).length = width := by
  induction width generalizing n with
  | zero => rfl
  | succ _ ih => rw [fixed, length_append, ih, length_singleton]

theorem digitChar_lt : ∀ m < 10, ∀ n < 10, m < n → Nat.digitChar m < Nat.digitChar n := by
  decide

theorem isDigit_of_mem_fixed {width n : Nat} {c : Char} (h : c ∈ fixed width n) : '0' ≤ c ∧ c ≤ '9' := by
  induction width generalizing n with
  | zero => cases h
  | succ _ ih =>
    rcases mem_append.mp h with h | h
    · exact ih h
    · obtain rfl := mem_singleton.mp h
      have hdigit : ∀ m < 10, '0' ≤ Nat.digitChar m ∧ Nat.digitChar m ≤ '9' := by decide
      exact hdigit (n % 10) (Nat.mod_lt n (by decide))

/-! ## The first difference -/

/-- At the first place where the texts differ, `a` has the smaller character. -/
def Differs (a b : List Char) : Prop :=
  ∃ common left right leftRest rightRest, a = common ++ left :: leftRest ∧ b = common ++ right :: rightRest ∧ left < right

namespace Differs

variable {a b : List Char}

theorem lt (h : Differs a b) : a < b := by
  obtain ⟨common, left, right, leftRest, rightRest, rfl, rfl, hlt⟩ := h
  exact List.Lex.append_left _ (List.Lex.rel hlt) common

theorem append (h : Differs a b) (x y : List Char) : Differs (a ++ x) (b ++ y) := by
  obtain ⟨common, left, right, leftRest, rightRest, rfl, rfl, hlt⟩ := h
  exact ⟨common, left, right, leftRest ++ x, rightRest ++ y, by simp, by simp, hlt⟩

theorem append_left (h : Differs a b) (x : List Char) : Differs (x ++ a) (x ++ b) := by
  obtain ⟨common, left, right, leftRest, rightRest, rfl, rfl, hlt⟩ := h
  exact ⟨x ++ common, left, right, leftRest, rightRest, by simp, by simp, hlt⟩

theorem not_prefix (h : Differs a b) : ¬ a <+: b := by
  obtain ⟨common, left, right, leftRest, rightRest, rfl, rfl, hlt⟩ := h
  intro hpre
  rw [prefix_append_right_inj, cons_prefix_cons] at hpre
  exact absurd hpre.1 (ne_of_lt hlt)

theorem of_lt (hlen : a.length = b.length) (h : a < b) : Differs a b := by
  induction h with
  | nil => cases hlen
  | cons _ ih =>
    obtain ⟨common, left, right, leftRest, rightRest, rfl, rfl, hlt⟩ := ih (Nat.succ.inj hlen)
    exact ⟨_ :: common, left, right, leftRest, rightRest, rfl, rfl, hlt⟩
  | rel hlt => exact ⟨[], _, _, _, _, rfl, rfl, hlt⟩

end Differs

theorem differs_fixed {width m n : Nat} (hn : n < 10 ^ width) (h : m < n) :
    Differs (fixed width m) (fixed width n) := by
  induction width generalizing m n with
  | zero => omega
  | succ width ih =>
    by_cases hdiv : m / 10 < n / 10
    · exact (ih (by omega) hdiv).append _ _
    · have heq : m / 10 = n / 10 := by omega
      refine ⟨fixed width (n / 10), Nat.digitChar (m % 10), Nat.digitChar (n % 10), [], [], ?_, rfl, ?_⟩
      · rw [fixed, heq]
      · exact digitChar_lt _ (Nat.mod_lt m (by decide)) _ (Nat.mod_lt n (by decide)) (by omega)

/-! ## Fractions without trailing zeros -/

def digits (nanos : Nat) : List Char := (fixed 9 nanos).rdropWhile (· == '0')

theorem rdropWhile_append {p : Char → Bool} (a b : List Char) :
    (a ++ b).rdropWhile p = if b.rdropWhile p = [] then a.rdropWhile p else a ++ b.rdropWhile p := by
  rw [List.rdropWhile, reverse_append, dropWhile_append]
  by_cases h : (b.reverse.dropWhile p).isEmpty = true
  · rw [if_pos h, if_pos]
    · rfl
    · rw [List.rdropWhile, List.isEmpty_iff.mp h]
      rfl
  · rw [if_neg h, if_neg, reverse_append, reverse_reverse]
    · rfl
    · intro hnil
      rw [List.rdropWhile, reverse_eq_nil_iff] at hnil
      exact h (List.isEmpty_iff.mpr hnil)

theorem rdropWhile_cons {p : Char → Bool} {c : Char} (hc : p c = false) (r : List Char) :
    (c :: r).rdropWhile p = c :: r.rdropWhile p := by
  have hsingle : [c].rdropWhile p = [c] := by
    rw [rdropWhile_singleton, hc]
    rfl
  rw [← singleton_append, rdropWhile_append, hsingle]
  split_ifs with hr
  · rw [hr]
  · rfl

/-- **The order of two fractions**: they differ at a digit, or the smaller one is a proper prefix of the
greater. -/
theorem digits_cases {m n : Nat} (hn : n < 10 ^ 9) (h : m < n) :
    Differs (digits m) (digits n) ∨ ∃ c rest, digits n = digits m ++ c :: rest ∧ c ≤ '9' := by
  obtain ⟨common, left, right, leftRest, rightRest, hleft, hright, hlt⟩ := differs_fixed hn h
  have hzero : (right == '0') = false := by
    have hdigit : '0' ≤ left := (isDigit_of_mem_fixed (hleft ▸ mem_append_right _ mem_cons_self)).1
    rw [beq_eq_false_iff_ne]
    rintro rfl
    exact absurd hlt (not_lt.mpr hdigit)
  -- the greater digit is not zero, so the greater fraction reaches at least to it
  have hn' : digits n = common ++ right :: rightRest.rdropWhile (· == '0') := by
    rw [digits, hright, rdropWhile_append, rdropWhile_cons (p := (· == '0')) hzero, if_neg (cons_ne_nil _ _)]
  by_cases hm : (left :: leftRest).rdropWhile (· == '0') = []
  · right
    have hm' : digits m = common.rdropWhile (· == '0') := by
      rw [digits, hleft, rdropWhile_append, if_pos hm]
    obtain ⟨t, ht⟩ : digits m <+: common := hm' ▸ rdropWhile_prefix _ _
    have hdigit : ∀ c ∈ common ++ [right], c ≤ '9' := by
      intro c hc
      have hmem : c ∈ fixed 9 n := by
        rw [hright, append_cons]
        exact mem_append_left _ hc
      exact (isDigit_of_mem_fixed hmem).2
    rcases t with _ | ⟨c, t⟩
    · rw [append_nil] at ht
      exact ⟨right, _, by rw [hn', ht], hdigit right (by simp)⟩
    · refine ⟨c, t ++ right :: rightRest.rdropWhile (· == '0'), ?_, hdigit c ?_⟩
      · rw [hn', ← ht]
        simp
      · rw [← ht]
        simp
  · left
    obtain ⟨t, ht⟩ : ∃ t, (left :: leftRest).rdropWhile (· == '0') = left :: t := by
      obtain ⟨u, hu⟩ := rdropWhile_prefix (fun c : Char => c == '0') (left :: leftRest)
      rcases hd : (left :: leftRest).rdropWhile (· == '0') with _ | ⟨d, t⟩
      · exact absurd hd hm
      · rw [hd] at hu
        exact ⟨t, by rw [(List.cons.inj hu).1]⟩
    refine ⟨common, left, right, t, _, ?_, hn', hlt⟩
    rw [digits, hleft, rdropWhile_append, if_neg hm, ht]

/-! ## Instants -/

/-- How the date and the time of day of a second are rendered, for the years `0000` to `9999`. -/
structure Calendar where
  seconds : Int → List Char
  first : Int
  last : Int
  length_seconds : ∀ s, first ≤ s → s ≤ last → (seconds s).length = 19
  seconds_lt : ∀ s t, first ≤ s → s < t → t ≤ last → seconds s < seconds t

structure Instant (calendar : Calendar) where
  second : Int
  nanos : Nat
  first_le : calendar.first ≤ second
  le_last : second ≤ calendar.last
  nanos_lt : nanos < 10 ^ 9

namespace Instant

variable {calendar : Calendar}

instance : LE (Instant calendar) where
  le a b := a.second < b.second ∨ a.second = b.second ∧ a.nanos ≤ b.nanos

def fraction (nanos : Nat) : List Char := if digits nanos = [] then [] else '.' :: digits nanos

def text (t : Instant calendar) : List Char := calendar.seconds t.second ++ (fraction t.nanos ++ ['Z'])

theorem differs_fraction_of_differs {m n : Nat} (h : Differs (digits m) (digits n)) :
    Differs (fraction m ++ ['Z']) (fraction n ++ ['Z']) := by
  have hm : digits m ≠ [] := by
    obtain ⟨common, left, _, leftRest, _, hm, -⟩ := h
    rw [hm]
    exact append_ne_nil_of_right_ne_nil _ (cons_ne_nil _ _)
  have hn : digits n ≠ [] := by
    obtain ⟨common, _, right, _, rightRest, -, hn, -⟩ := h
    rw [hn]
    exact append_ne_nil_of_right_ne_nil _ (cons_ne_nil _ _)
  rw [fraction, fraction, if_neg hm, if_neg hn]
  have hdot := (h.append_left ['.']).append ['Z'] ['Z']
  rwa [singleton_append, singleton_append] at hdot

theorem differs_fraction_of_digits {m n : Nat} {c : Char} {rest : List Char} (h : digits n = digits m ++ c :: rest)
    (hc : c ≤ '9') : Differs (fraction n ++ ['Z']) (fraction m ++ ['Z']) := by
  have hn : digits n ≠ [] := by
    rw [h]
    exact append_ne_nil_of_right_ne_nil _ (cons_ne_nil _ _)
  rw [fraction, fraction, if_neg hn]
  by_cases hm : digits m = []
  · rw [if_pos hm]
    exact ⟨[], '.', 'Z', digits n ++ ['Z'], [], rfl, rfl, by decide⟩
  · rw [if_neg hm]
    have hn' : '.' :: digits n ++ ['Z'] = '.' :: digits m ++ c :: (rest ++ ['Z']) := by
      rw [h]
      simp
    exact ⟨_, c, 'Z', _, [], hn', rfl, lt_of_le_of_lt hc (by decide)⟩

/-- **When the texts are in the order of time**: unless, within one second, the digits of the earlier fraction
are a proper prefix of the later one's. -/
theorem text_le_iff {a b : Instant calendar} (h : a ≤ b) :
    a.text ≤ b.text ↔ (a.second = b.second → digits a.nanos <+: digits b.nanos → a.nanos = b.nanos) := by
  rcases h with hsecond | ⟨hsecond, hnanos⟩
  · have hlength : (calendar.seconds a.second).length = (calendar.seconds b.second).length := by
      rw [calendar.length_seconds _ a.first_le a.le_last, calendar.length_seconds _ b.first_le b.le_last]
    have hlt := calendar.seconds_lt _ _ a.first_le hsecond b.le_last
    have hdiffers : Differs a.text b.text := by
      exact (Differs.of_lt hlength hlt).append _ _
    exact ⟨fun _ heq => absurd heq (ne_of_lt hsecond), fun _ => le_of_lt hdiffers.lt⟩
  · rcases Nat.eq_or_lt_of_le hnanos with heq | hlt
    · refine ⟨fun _ _ _ => heq, fun _ => le_of_eq ?_⟩
      rw [text, text, hsecond, heq]
    · rcases digits_cases b.nanos_lt hlt with hdiffers | ⟨c, rest, hpre, hc⟩
      · have htext : Differs a.text b.text := by
          rw [text, text, hsecond]
          exact (differs_fraction_of_differs hdiffers).append_left _
        exact ⟨fun _ _ hpre => absurd hpre hdiffers.not_prefix, fun _ => le_of_lt htext.lt⟩
      · have htext : Differs b.text a.text := by
          rw [text, text, hsecond]
          exact (differs_fraction_of_digits hpre hc).append_left _
        constructor
        · intro hle
          exact absurd htext.lt (not_lt.mpr hle)
        · intro hcond
          have heq := hcond hsecond (hpre ▸ prefix_append _ _)
          omega

end Instant

end Rfc3339

end OneCipher
