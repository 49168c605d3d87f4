import Mathlib.Data.List.Induction

/-!
# OneCipher.Base.Runs — runs of a step function

A run is the list of actions taken, and `after` the state it leads to.  Four rules carry the arguments
about whole runs: a property that every step keeps (`after_invariant`), one that the steps keep which meet a condition
(`along_invariant`), a relation between two runs of the
same actions (`after_related`), and the last time a property came about (`exists_last_change`), which finds
the action that a state is owed to.
-/

namespace OneCipher.Runs

open List

variable {σ A : Type*} {step : σ → A → σ} {s t : σ} {acts : List A}

def after (step : σ → A → σ) (s : σ) (acts : List A) : σ := acts.foldl step s

@[simp] theorem after_nil : after step s [] = s := rfl

theorem after_cons (a : A) (acts : List A) : after step s (a :: acts) = after step (step s a) acts := rfl

theorem after_append (a b : List A) : after step s (a ++ b) = after step (after step s a) b := foldl_append

theorem after_snoc (acts : List A) (a : A) : after step s (acts ++ [a]) = step (after step s acts) a := by
  rw [after_append]
  rfl

theorem after_invariant {I : σ → Prop} (hstep : ∀ s a, I s → I (step s a)) (h : I s) : I (after step s acts) := by
  induction acts generalizing s with
  | nil => exact h
  | cons a _ ih => exact ih (hstep s a h)

/-- Every step of the run meets the condition in the state it is made from. -/
def Along (step : σ → A → σ) (C : σ → A → Prop) : σ → List A → Prop
  | _, [] => True
  | s, a :: acts => C s a ∧ Along step C (step s a) acts

theorem along_invariant {C : σ → A → Prop} {I : σ → Prop} (hstep : ∀ s a, C s a → I s → I (step s a)) (h : I s)
    (hC : Along step C s acts) : I (after step s acts) := by
  induction acts generalizing s with
  | nil => exact h
  | cons a _ ih => exact ih (hstep s a hC.1 h) hC.2

theorem after_related {R : σ → σ → Prop} (hstep : ∀ s t a, R s t → R (step s a) (step t a)) (h : R s t) :
    R (after step s acts) (after step t acts) := by
  induction acts generalizing s t with
  | nil => exact h
  | cons a _ ih => exact ih (hstep s t a h)

/-- **The last time a property came about**: one action made it true, and it stayed true from then on. -/
theorem exists_last_change {P : σ → Prop} (h0 : ¬ P s) (h : P (after step s acts)) :
    ∃ before a later, acts = before ++ a :: later ∧ ¬ P (after step s before) ∧
      ∀ mid, mid <+: later → P (after step s (before ++ a :: mid)) := by
  induction acts using List.reverseRecOn with
  | nil => exact absurd h h0
  | append_singleton acts a ih =>
    by_cases hP : P (after step s acts)
    · -- it was true already: the action that made it true came earlier
      obtain ⟨before, b, later, rfl, hbefore, hlater⟩ := ih hP
      refine ⟨before, b, later ++ [a], by rw [append_assoc, cons_append], hbefore, fun mid hmid => ?_⟩
      rcases prefix_concat_iff.mp hmid with rfl | hmid
      · rw [append_assoc, cons_append] at h
        exact h
      · exact hlater mid hmid
    · refine ⟨acts, a, [], rfl, hP, fun mid hmid => ?_⟩
      rw [prefix_nil.mp hmid]
      exact h

end OneCipher.Runs
