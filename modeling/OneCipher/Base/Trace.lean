import OneCipher.Base.Prog

/-!
# OneCipher.Base.Trace — what a call adds to an event log

A state that carries a log of events, read by `log : σ → List E`, and calls that only ever append to it.  `Quiet`
calls append nothing; `Since L P` is the invariant "the log is `L` and then events with `P`".
-/

namespace OneCipher.Trace

open Prog
open List (append_assoc mem_cons_self)

variable {σ ε α E : Type}

/-! ## Order in a list of events -/

/-- Every event is in the relation with the events before it. -/
def Everywhere (R : List E → E → Prop) (es : List E) : Prop := ∀ pre e post, es = pre ++ e :: post → R pre e

theorem everywhere_nil {R : List E → E → Prop} : Everywhere R [] := by
  intro pre e post h
  simp at h

theorem split_snoc {es pre post : List E} {e f : E} (h : es ++ [e] = pre ++ f :: post) :
    (es = pre ∧ e = f ∧ post = []) ∨ ∃ post', post = post' ++ [e] ∧ es = pre ++ f :: post' := by
  rcases List.eq_nil_or_concat post with rfl | ⟨post', last, rfl⟩
  · obtain ⟨rfl, hlast⟩ := List.append_inj' h rfl
    exact .inl ⟨rfl, (List.cons.inj hlast).1, rfl⟩
  · have hsplit : es ++ [e] = (pre ++ f :: post') ++ [last] := by
      rw [h, List.concat_eq_append, append_assoc, List.cons_append]
    obtain ⟨hes, hlast⟩ := List.append_inj' hsplit rfl
    exact .inr ⟨post', by rw [List.concat_eq_append, ← hlast], hes⟩

theorem Everywhere.snoc {R : List E → E → Prop} {es : List E} {e : E} (h : Everywhere R es) (he : R es e) :
    Everywhere R (es ++ [e]) := by
  intro pre f post hsplit
  rcases split_snoc hsplit with ⟨rfl, rfl, -⟩ | ⟨post', -, hes⟩
  · exact he
  · exact h pre f post' hes

/-- Every event with `need` comes after one with `give`. -/
def Precedes (give need : E → Prop) (es : List E) : Prop :=
  ∀ pre e post, es = pre ++ e :: post → need e → ∃ f ∈ pre, give f

section Precedes

variable {give need : E → Prop} {es : List E} {e : E}

theorem precedes_nil : Precedes give need [] := everywhere_nil

theorem precedes_of_forall_not (h : ∀ e ∈ es, ¬ need e) : Precedes give need es := by
  rintro pre e post rfl hn
  exact absurd hn (h e (List.mem_append_right pre mem_cons_self))

theorem precedes_cons (hg : give e) (hn : ¬ need e) : Precedes give need (e :: es) := by
  intro pre f post h hf
  rcases pre with _ | ⟨g, pre⟩
  · cases h
    exact absurd hf hn
  · cases h
    exact ⟨_, mem_cons_self, hg⟩

theorem not_precedes_cons (hn : need e) : ¬ Precedes give need (e :: es) := by
  intro h
  obtain ⟨f, hf, -⟩ := h [] e es rfl hn
  cases hf

theorem Precedes.snoc (h : Precedes give need es) (he : need e → ∃ f ∈ es, give f) :
    Precedes give need (es ++ [e]) := Everywhere.snoc h he

end Precedes

/-- Every event with `ask` is followed by one with `answer`. -/
def Answered (ask answer : E → Prop) (es : List E) : Prop :=
  ∀ pre e post, es = pre ++ e :: post → ask e → ∃ f ∈ post, answer f

section Answered

variable {ask answer : E → Prop} {es : List E} {e : E}

theorem answered_of_forall_not (h : ∀ e ∈ es, ¬ ask e) : Answered ask answer es := by
  rintro pre e post rfl ha
  exact absurd ha (h e (List.mem_append_right pre mem_cons_self))

theorem answered_snoc (ha : answer e) (hn : ¬ ask e) : Answered ask answer (es ++ [e]) := by
  intro pre f post h hf
  rcases split_snoc h with ⟨-, rfl, -⟩ | ⟨post', rfl, -⟩
  · exact absurd hf hn
  · exact ⟨e, List.mem_append_right post' mem_cons_self, ha⟩

theorem not_answered (he : e ∈ es) (ha : ask e) (h : ∀ f ∈ es, ¬ answer f) : ¬ Answered ask answer es := by
  intro hall
  obtain ⟨pre, post, rfl⟩ := List.append_of_mem he
  obtain ⟨f, hf, hanswer⟩ := hall pre e post rfl ha
  exact h f (List.mem_append_right pre (List.mem_cons_of_mem e hf)) hanswer

end Answered

/-! ## Calls and the log -/

variable (log : σ → List E)

/-- The call appends nothing. -/
def Quiet (m : Prog σ ε α) : Prop := ∀ L, Preserves (fun s => log s = L) m

/-- The log is `L` and then events with `P`. -/
def Since (L : List E) (P : E → Prop) (s : σ) : Prop := ∃ es, log s = L ++ es ∧ ∀ e ∈ es, P e

/-- What was added to `L` is in order. -/
def Ordered (give need : E → Prop) (L : List E) (s : σ) : Prop := ∃ es, log s = L ++ es ∧ Precedes give need es

/-- What was added to `L` is in order, and an event with `give` is among it. -/
def Granted (give need : E → Prop) (L : List E) (s : σ) : Prop :=
  ∃ es, log s = L ++ es ∧ Precedes give need es ∧ ∃ f ∈ es, give f

/-- What was added to `L` is answered. -/
def Settled (ask answer : E → Prop) (L : List E) (s : σ) : Prop := ∃ es, log s = L ++ es ∧ Answered ask answer es

section Rules

variable {log} {L : List E} {P give need ask answer : E → Prop} {m : Prog σ ε α} {f : σ → σ} {e : E}

variable {s : σ}

theorem Quiet.log_eq (hm : Quiet log m) {t : σ} {r : Outcome ε α} (h : exec m s = (r, t)) : log t = log s := by
  have := hm (log s) s rfl
  rwa [h] at this

theorem Since.start (h : log s = L) : Since log L P s := ⟨[], by rw [h, List.append_nil], by simp⟩

theorem Ordered.start (h : log s = L) : Ordered log give need L s := ⟨[], by rw [h, List.append_nil], precedes_nil⟩

theorem Granted.ordered (h : Granted log give need L s) : Ordered log give need L s := by
  obtain ⟨es, hes, hp, -⟩ := h
  exact ⟨es, hes, hp⟩

theorem Since.settled (h : Since log L (fun e => ¬ ask e) s) : Settled log ask answer L s := by
  obtain ⟨es, hes, hn⟩ := h
  exact ⟨es, hes, answered_of_forall_not hn⟩

theorem Since.mono {P' : E → Prop} (h : Since log L P s) (hP : ∀ e, P e → P' e) : Since log L P' s := by
  obtain ⟨es, hes, hall⟩ := h
  exact ⟨es, hes, fun e he => hP e (hall e he)⟩

theorem Quiet.preserves (hm : Quiet log m) (I : List E → Prop) : Preserves (fun s => I (log s)) m := by
  intro s hs
  rwa [hm (log s) s rfl]

theorem Quiet.since (hm : Quiet log m) : Preserves (Since log L P) m :=
  hm.preserves fun l => ∃ es, l = L ++ es ∧ ∀ e ∈ es, P e

theorem Quiet.ordered (hm : Quiet log m) : Preserves (Ordered log give need L) m :=
  hm.preserves fun l => ∃ es, l = L ++ es ∧ Precedes give need es

theorem Quiet.granted (hm : Quiet log m) : Preserves (Granted log give need L) m :=
  hm.preserves fun l => ∃ es, l = L ++ es ∧ Precedes give need es ∧ ∃ f ∈ es, give f

/-! ### Appending one event -/

theorem since_append (hf : ∀ s, log (f s) = log s ++ [e]) (h : P e) :
    Preserves (Since log L P) (modify f : Prog σ ε PUnit) := by
  refine .modify ?_
  rintro s ⟨es, hes, hP⟩
  refine ⟨es ++ [e], by rw [hf, hes, append_assoc], ?_⟩
  intro g hg
  rcases List.mem_append.mp hg with hg | hg
  · exact hP g hg
  · rw [List.mem_singleton.mp hg]; exact h

theorem ordered_append (hf : ∀ s, log (f s) = log s ++ [e]) (h : ¬ need e) :
    Preserves (Ordered log give need L) (modify f : Prog σ ε PUnit) := by
  refine .modify ?_
  rintro s ⟨es, hes, hp⟩
  exact ⟨es ++ [e], by rw [hf, hes, append_assoc], hp.snoc fun hn => absurd hn h⟩

theorem granted_append (hf : ∀ s, log (f s) = log s ++ [e]) :
    Preserves (Granted log give need L) (modify f : Prog σ ε PUnit) := by
  refine .modify ?_
  rintro s ⟨es, hes, hp, g, hg, hgive⟩
  exact ⟨es ++ [e], by rw [hf, hes, append_assoc], hp.snoc fun _ => ⟨g, hg, hgive⟩, g, List.mem_append_left _ hg, hgive⟩

theorem ordered_grant (hf : ∀ s, log (f s) = log s ++ [e]) (hg : give e) (hn : ¬ need e)
    (h : Ordered log give need L s) : Granted log give need L (f s) := by
  obtain ⟨es, hes, hp⟩ := h
  exact ⟨es ++ [e], by rw [hf, hes, append_assoc], hp.snoc fun hne => absurd hne hn, e,
    List.mem_append_right _ mem_cons_self, hg⟩

theorem settled_answer (hf : ∀ s, log (f s) = log s ++ [e]) (ha : answer e) (hn : ¬ ask e) (h : Since log L P s) :
    Settled log ask answer L (f s) := by
  obtain ⟨es, hes, -⟩ := h
  exact ⟨es ++ [e], by rw [hf, hes, append_assoc], answered_snoc ha hn⟩

end Rules

end OneCipher.Trace
