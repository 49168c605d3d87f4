import Mathlib.Data.List.Induction

/-!
# OneCipher.Base.HashChain — lists whose elements name their predecessor

An element `a` names its predecessor by `prev a`, and is itself named by `link a`, usually a hash of it.  `Chained
h as`: the first element names `h` and every other one the element before it; `tip h as` is the name the next
element has to give.
-/

namespace OneCipher

open List

namespace HashChain

variable {α η : Type} (link prev : α → η)

def Chained : η → List α → Prop
  | _, [] => True
  | h, a :: as => prev a = h ∧ Chained (link a) as

def tip (h : η) (as : List α) : η := as.foldl (fun _ a => link a) h

variable {link prev}

@[simp] theorem tip_concat (h : η) (as : List α) (a : α) : tip link h (as ++ [a]) = link a := by
  rw [tip, foldl_append]
  rfl

theorem chained_append {h : η} {as bs : List α} :
    Chained link prev h (as ++ bs) ↔ Chained link prev h as ∧ Chained link prev (tip link h as) bs := by
  induction as generalizing h with
  | nil => exact ⟨fun hb => ⟨trivial, hb⟩, fun hb => hb.2⟩
  | cons a as ih =>
    show prev a = h ∧ Chained link prev (link a) (as ++ bs) ↔ _
    rw [ih]
    exact ⟨fun ⟨ha, h1, h2⟩ => ⟨⟨ha, h1⟩, h2⟩, fun ⟨⟨ha, h1⟩, h2⟩ => ⟨ha, h1, h2⟩⟩

theorem chained_concat {h : η} {as : List α} {a : α} :
    Chained link prev h (as ++ [a]) ↔ Chained link prev h as ∧ prev a = tip link h as := by
  rw [chained_append]
  exact ⟨fun ⟨h1, h2, _⟩ => ⟨h1, h2⟩, fun ⟨h1, h2⟩ => ⟨h1, h2, trivial⟩⟩

theorem chained_map {β : Type} {f : α → β} {link' prev' : β → η} (hlink : ∀ a, link' (f a) = link a)
    (hprev : ∀ a, prev' (f a) = prev a) {h : η} {as : List α} :
    Chained link' prev' h (as.map f) ↔ Chained link prev h as := by
  induction as generalizing h with
  | nil => exact Iff.rfl
  | cons a as ih =>
    show prev' (f a) = h ∧ Chained link' prev' (link' (f a)) (as.map f) ↔ _
    rw [hprev, hlink, ih]
    exact Iff.rfl

/-! ## A tip commits to the chain -/

section Commitment

variable {g : η} {S : List α}

/-- No two elements have the same name, and none the name the chain starts from. -/
structure Separated (link : α → η) (g : η) (S : List α) : Prop where
  inj : ∀ a ∈ S, ∀ b ∈ S, link a = link b → a = b
  start : ∀ a ∈ S, link a ≠ g

variable (hS : Separated link g S)

include hS

theorem Chained.eq_of_tip_eq {as bs : List α} (ha : Chained link prev g as) (hb : Chained link prev g bs)
    (has : as ⊆ S) (hbs : bs ⊆ S) (htip : tip link g as = tip link g bs) : as = bs := by
  induction as using List.reverseRecOn generalizing bs with
  | nil =>
    rcases eq_nil_or_concat bs with rfl | ⟨bs, b, rfl⟩
    · rfl
    · rw [concat_eq_append] at hbs htip
      rw [tip_concat] at htip
      exact absurd htip.symm (hS.start b (hbs (by simp)))
  | append_singleton _ a ih =>
    rw [tip_concat] at htip
    rcases eq_nil_or_concat bs with rfl | ⟨bs, b, rfl⟩
    · exact absurd htip (hS.start a (has (by simp)))
    · rw [concat_eq_append] at hb hbs htip ⊢
      rw [tip_concat] at htip
      obtain rfl := hS.inj a (has (by simp)) b (hbs (by simp)) htip
      -- the same last element names the same predecessor
      obtain ⟨ha, hprev⟩ := chained_concat.mp ha
      obtain ⟨hb, hprev'⟩ := chained_concat.mp hb
      have hrest := ih ha hb (fun x hx => has (mem_append_left _ hx))
        (fun x hx => hbs (mem_append_left _ hx)) (hprev.symm.trans hprev')
      rw [hrest]

/-- **A chain of elements of a chain is a prefix of it.** -/
theorem Chained.prefix_of_subset {bs : List α} (ha : Chained link prev g S) (hb : Chained link prev g bs)
    (hbs : bs ⊆ S) : bs <+: S := by
  induction bs using List.reverseRecOn with
  | nil => exact nil_prefix
  | append_singleton bs b =>
    obtain ⟨hb, hprev⟩ := chained_concat.mp hb
    have hbs' : bs ⊆ S := fun x hx => hbs (mem_append_left _ hx)
    -- where the element stands in the longer chain, the same history precedes it
    obtain ⟨before, after, hsplit⟩ := append_of_mem (hbs (show b ∈ bs ++ [b] by simp))
    have hbefore : Chained link prev g (before ++ b :: after) := hsplit ▸ ha
    obtain ⟨hbefore, hprev', -⟩ := chained_append.mp hbefore
    have hsub : before ⊆ S := by
      rw [hsplit]
      exact subset_append_left _ _
    have hsame : before = bs := Chained.eq_of_tip_eq hS hbefore hb hsub hbs' (hprev'.symm.trans hprev)
    refine ⟨after, ?_⟩
    rw [hsplit, hsame, append_assoc]
    rfl

end Commitment

end HashChain

end OneCipher
