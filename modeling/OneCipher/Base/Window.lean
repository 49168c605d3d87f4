import Mathlib.Data.List.Infix

/-!
# OneCipher.Base.Window — sliding windows over a history

A window is a queue of stamped entries from whose front the entries older than a span are dropped.
`Holds` ties such a queue to the whole history it was fed with, and `trailing_of_capped` turns what
was checked at each push into a statement about every trailing interval of the history.
-/

namespace OneCipher.Window

open List

section Slide

variable {β : Type*} (stamp : β → ℕ) (span : ℕ)

/-- Pops entries off the front while they are more than `span` older than `now`. -/
def slide (now : ℕ) (w : List β) : List β := w.dropWhile fun e => decide (span < now - stamp e)

variable {stamp span}

@[simp] theorem slide_nil (now : ℕ) : slide stamp span now [] = [] := rfl

theorem slide_cons (now : ℕ) (e : β) (w : List β) :
    slide stamp span now (e :: w) = if span < now - stamp e then slide stamp span now w else e :: w := by
  simp [slide, dropWhile_cons]

theorem slide_sublist (now : ℕ) (w : List β) : (slide stamp span now w).Sublist w := dropWhile_sublist _

theorem slide_slide {m n : ℕ} (h : m ≤ n) (w : List β) :
    slide stamp span n (slide stamp span m w) = slide stamp span n w := by
  induction w with
  | nil => rfl
  | cons e w ih =>
    rw [slide_cons m]
    by_cases he : span < m - stamp e
    · rw [if_pos he, ih, slide_cons n, if_pos (by omega)]
    · rw [if_neg he]

theorem slide_concat {now : ℕ} {e : β} (he : now ≤ stamp e + span) (w : List β) :
    slide stamp span now (w ++ [e]) = slide stamp span now w ++ [e] := by
  induction w with
  | nil => rw [nil_append, slide_cons, if_neg (by omega)]; rfl
  | cons a w ih =>
    rw [cons_append, slide_cons, slide_cons]
    split
    · exact ih
    · rfl

theorem slide_map {α : Type*} (f : α → β) (now : ℕ) (h : List α) :
    slide stamp span now (h.map f) = (slide (stamp ∘ f) span now h).map f := by
  rw [slide, slide, dropWhile_map]
  rfl

theorem filter_slide {p : β → Bool} {now : ℕ} (hp : ∀ e, p e = true → now ≤ stamp e + span)
    (w : List β) : (slide stamp span now w).filter p = w.filter p := by
  induction w with
  | nil => rfl
  | cons e w ih =>
    rw [slide_cons]
    split
    · next hold =>
      have hpe : ¬ p e = true := fun h => by have := hp e h; omega
      rw [ih, filter_cons_of_neg hpe]
    · rfl

end Slide

/-! ## What a window loses -/

section OnlyExpired

variable {β : Type*} (stamp : β → ℕ) (span : ℕ)

/-- `w'` is `w` less some entries that are more than `span` older than `now`. -/
def OnlyExpiredLost (now : ℕ) (w w' : List β) : Prop :=
  w'.Sublist w ∧
    w'.filter (fun e => decide (now ≤ stamp e + span)) = w.filter fun e => decide (now ≤ stamp e + span)

variable {stamp span}

theorem onlyExpiredLost_refl (now : ℕ) (w : List β) : OnlyExpiredLost stamp span now w w := ⟨List.Sublist.refl w, rfl⟩

theorem onlyExpiredLost_slide (now : ℕ) (w : List β) : OnlyExpiredLost stamp span now w (slide stamp span now w) :=
  ⟨slide_sublist now w, filter_slide (fun _ h => of_decide_eq_true h) w⟩

theorem not_onlyExpiredLost_push {now : ℕ} {e : β} (he : now ≤ stamp e + span) (w : List β) :
    ¬ OnlyExpiredLost stamp span now w (slide stamp span now w ++ [e]) := by
  rintro ⟨-, hkept⟩
  rw [filter_append, filter_slide (fun _ h => of_decide_eq_true h)] at hkept
  have hone : [e].filter (fun e => decide (now ≤ stamp e + span)) = [e] := by simp [he]
  rw [hone] at hkept
  exact absurd (append_right_eq_self.mp hkept) (cons_ne_nil e [])

end OnlyExpired

/-! ## A window and its history -/

section History

variable {α β : Type*} (stamp : β → ℕ) (span : ℕ) (f : α → β)

/-- `w` is what the history `h` has left after it was slid at `n`. -/
def Holds (n : ℕ) (w : List β) (h : List α) : Prop := w = (slide (stamp ∘ f) span n h).map f

variable {stamp span f}

theorem holds_nil (n : ℕ) : Holds stamp span f n [] [] := rfl

theorem Holds.length_eq {n : ℕ} {w : List β} {h : List α} (hw : Holds stamp span f n w h) :
    w.length = (Window.slide (stamp ∘ f) span n h).length := by
  rw [hw, length_map]

theorem Holds.slide {n m : ℕ} {w : List β} {h : List α} (hw : Holds stamp span f n w h)
    (hnm : n ≤ m) : Holds stamp span f m (slide stamp span m w) h := by
  rw [Holds] at hw ⊢
  rw [hw, slide_map, slide_slide hnm]

theorem Holds.push {n : ℕ} {w : List β} {h : List α} {a : α} (hw : Holds stamp span f n w h)
    (ha : stamp (f a) = n) : Holds stamp span f n (w ++ [f a]) (h ++ [a]) := by
  have hin : n ≤ (stamp ∘ f) a + span := by
    rw [Function.comp_apply]
    omega
  rw [Holds] at hw ⊢
  rw [hw, slide_concat hin, map_append]
  rfl

end History

/-! ## Trailing intervals -/

section Trailing

variable {α : Type*} (stamp time : α → ℕ) (span : ℕ)

/-- The entries of the history in the interval `[t - span, t]`. -/
def trailing (t : ℕ) (h : List α) : List α := h.filter fun e => decide (time e ≤ t ∧ t ≤ time e + span)

/-- `P` held of the slid history each time an entry was made. -/
def Capped (P : List α → Prop) (h : List α) : Prop := ∀ p e, p ++ [e] <+: h → P (slide stamp span (stamp e) (p ++ [e]))

variable {stamp time span} {P : List α → Prop}

/-- **Trailing-interval rule.**  Let `P` pass to sublists and hold of nothing.  If it held of the
slid window after every push, it holds of the entries of every interval of length `span`, also when
the intervals are measured on a finer clock than the one the window runs on. -/
theorem trailing_of_capped (hfine : ∀ a b, stamp b - stamp a ≤ time b - time a)
    (hsub : ∀ l l' : List α, l.Sublist l' → P l' → P l) (hnil : P []) {h : List α}
    (hc : Capped stamp span P h) (t : ℕ) : P (trailing time span t h) := by
  induction h using List.reverseRecOn with
  | nil => exact hnil
  | append_singleton h e ih =>
    by_cases hin : time e ≤ t ∧ t ≤ time e + span
    · -- the last entry is in the interval: all of the interval was in the window when it was made
      refine hsub _ _ ?_ (hc h e prefix_rfl)
      have hkeep : ∀ a, decide (time a ≤ t ∧ t ≤ time a + span) = true → stamp e ≤ stamp a + span := by
        intro a ha
        have hat := of_decide_eq_true ha
        have hlag := hfine a e
        omega
      rw [trailing, ← filter_slide hkeep]
      exact filter_sublist
    · have hdrop : trailing time span t (h ++ [e]) = trailing time span t h := by
        rw [trailing, filter_append, filter_cons_of_neg (by simpa using hin)]
        simp [trailing]
      rw [hdrop]
      exact ih fun p a hpre => hc p a (hpre.trans (prefix_append h [e]))

end Trailing

end OneCipher.Window
