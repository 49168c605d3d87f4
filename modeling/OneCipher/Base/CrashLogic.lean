import OneCipher.Base.Session

/-!
# OneCipher.Base.CrashLogic — pre-, post- and crash conditions

A program over a `Session` makes writes one after the other; a crash comes between two of them or inside one,
and then leaves what `torn` allows.  `CrashTriple P m Q E I` says what a program guarantees from a disk with
`P`: `I` after a crash anywhere, `Q` when it returns and `E` when it fails.  One rule for each way to put a
program together.
-/

namespace OneCipher.CrashLogic

open Prog Session List

variable {δ ω ε ε' α β : Type} (apply : δ → ω → δ) (torn : ω → δ → δ → Prop)

/-- A crash inside a list of writes: some were made, and the next one perhaps in part. -/
def Crashed (writes : List ω) (d : δ) (done : List ω) (d' : δ) : Prop :=
  ∃ rest, writes = done ++ rest ∧
    (d' = done.foldl apply d ∨ ∃ w later, rest = w :: later ∧ torn w (done.foldl apply d) d')

variable {apply torn}

theorem Crashed.of_nil {d d' : δ} {done : List ω} (h : Crashed apply torn [] d done d') : d' = d := by
  obtain ⟨rest, hrest, h⟩ := h
  obtain ⟨rfl, rfl⟩ := append_eq_nil_iff.mp hrest.symm
  rcases h with h | ⟨w, later, h, -⟩
  · exact h
  · cases h

theorem Crashed.append {a b done : List ω} {d d' : δ} (h : Crashed apply torn (a ++ b) d done d') :
    Crashed apply torn a d done d' ∨ ∃ done', done = a ++ done' ∧ Crashed apply torn b (a.foldl apply d) done' d' := by
  obtain ⟨rest, hrest, h⟩ := h
  rcases append_eq_append_iff.mp hrest with ⟨done', rfl, rfl⟩ | ⟨mid, rfl, rfl⟩
  · refine .inr ⟨done', rfl, rest, rfl, ?_⟩
    rwa [foldl_append] at h
  · rcases h with h | ⟨w, later, hw, htorn⟩
    · exact .inl ⟨mid, rfl, .inl h⟩
    · rcases mid with _ | ⟨v, mid⟩
      · -- the torn write is the first of the second list
        refine .inr ⟨[], by simp, later.cons w, hw, .inr ⟨w, later, rfl, ?_⟩⟩
        simpa using htorn
      · obtain ⟨rfl, -⟩ := List.cons.inj hw
        exact .inl ⟨v :: mid, rfl, .inr ⟨v, mid, rfl, htorn⟩⟩

theorem Crashed.cons {w : ω} {ws done : List ω} {d d' : δ} (h : Crashed apply torn (w :: ws) d done d') :
    done = [] ∧ (d' = d ∨ torn w d d') ∨ ∃ done', done = w :: done' ∧ Crashed apply torn ws (apply d w) done' d' := by
  obtain ⟨rest, hrest, h⟩ := h
  rcases done with _ | ⟨v, done⟩
  · refine .inl ⟨rfl, ?_⟩
    rcases h with h | ⟨v, later, hv, htorn⟩
    · exact .inl h
    · obtain ⟨rfl, -⟩ := List.cons.inj (hrest.trans hv)
      exact .inr htorn
  · obtain ⟨rfl, hws⟩ := List.cons.inj hrest
    exact .inr ⟨done, rfl, rest, hws, h⟩

theorem crashed_of_prefix {writes done : List ω} (d : δ) (h : done <+: writes) :
    Crashed apply torn writes d done (done.foldl apply d) := by
  obtain ⟨rest, rfl⟩ := h
  exact ⟨rest, rfl, .inl rfl⟩

variable (apply torn)

/-- From a disk with `P`: `I` after every crash, `Q` on return and `E` on failure. -/
def CrashTriple (P : δ → Prop) (m : Prog (Session δ ω) ε α) (Q : α → δ → Prop) (E : Fault ε → δ → Prop)
    (I : δ → Prop) : Prop :=
  ∀ s : Session δ ω, P (s.disk apply) →
    ∃ added, (exec m s).2 = ⟨s.start, s.writes ++ added⟩ ∧
      (∀ done d', Crashed apply torn added (s.disk apply) done d' → I d') ∧
      match (exec m s).1 with
      | .ok a => Q a ((exec m s).2.disk apply)
      | .error e => E e ((exec m s).2.disk apply)

namespace CrashTriple

variable {apply torn} {P P' : δ → Prop} {Q : α → δ → Prop} {E : Fault ε → δ → Prop} {I : δ → Prop}
  {m : Prog (Session δ ω) ε α}

theorem weaken (h : CrashTriple apply torn P m Q E I) (hP : ∀ d, P' d → P d) : CrashTriple apply torn P' m Q E I :=
  fun s hs => h s (hP _ hs)

theorem or (h : CrashTriple apply torn P m Q E I) (h' : CrashTriple apply torn P' m Q E I) :
    CrashTriple apply torn (fun d => P d ∨ P' d) m Q E I := by
  rintro s (hs | hs)
  · exact h s hs
  · exact h' s hs

theorem assume {c : Prop} (h : c → CrashTriple apply torn P m Q E I) :
    CrashTriple apply torn (fun d => P d ∧ c) m Q E I := fun s hs => h hs.2 s hs.1

theorem pure {a : α} (h : ∀ d, P d → Q a d ∧ I d) :
    CrashTriple apply torn P (Pure.pure a : Prog (Session δ ω) ε α) Q E I := by
  intro s hs
  refine ⟨[], by simp, fun done d' hd => ?_, (h _ hs).1⟩
  rw [hd.of_nil]
  exact (h _ hs).2

theorem perform {w : ω} {Q : Unit → δ → Prop} (hQ : ∀ d, P d → Q () (apply d w))
    (hI : ∀ d, P d → I d ∧ I (apply d w) ∧ ∀ d', torn w d d' → I d') :
    CrashTriple apply torn P (Session.perform w : Prog (Session δ ω) ε Unit) Q E I := by
  intro s hs
  refine ⟨[w], rfl, fun done d' hd => ?_, ?_⟩
  · obtain ⟨hbefore, hafter, htorn⟩ := hI _ hs
    obtain ⟨rest, hrest, hd⟩ := hd
    rcases done with _ | ⟨v, done⟩
    · obtain rfl : [w] = rest := hrest
      rcases hd with rfl | ⟨v, later, hv, hd⟩
      · exact hbefore
      · cases hv
        exact htorn d' hd
    · obtain ⟨rfl, hnil⟩ := List.cons.inj hrest
      obtain ⟨rfl, rfl⟩ := append_eq_nil_iff.mp hnil.symm
      rcases hd with rfl | ⟨v, later, hv, -⟩
      · exact hafter
      · cases hv
  · show Q () ((s.push w).disk apply)
    rw [disk_push]
    exact hQ _ hs

theorem look {f : δ → Outcome ε α} (hok : ∀ d a, P d → f d = .ok a → Q a d) (herror : ∀ d e, P d → f d = .error e → E e d)
    (hI : ∀ d, P d → I d) : CrashTriple apply torn P (Session.look apply f : Prog (Session δ ω) ε α) Q E I := by
  intro s hs
  refine ⟨[], by simp, fun done d' hd => ?_, ?_⟩
  · rw [hd.of_nil]
    exact hI _ hs
  · rw [exec_look]
    cases hf : f (s.disk apply) with
    | ok a => exact hok _ a hs hf
    | error e => exact herror _ e hs hf

theorem bind {R : β → δ → Prop} {f : α → Prog (Session δ ω) ε β} (hm : CrashTriple apply torn P m Q E I)
    (hf : ∀ a, CrashTriple apply torn (Q a) (f a) R E I) : CrashTriple apply torn P (m >>= f) R E I := by
  intro s hs
  obtain ⟨added, hadded, hcrash, hend⟩ := hm s hs
  rw [exec_bind]
  rcases hexec : exec m s with ⟨r, t⟩
  rw [hexec] at hadded hend
  cases r with
  | error => exact ⟨added, hadded, hcrash, hend⟩
  | ok a =>
    obtain ⟨added', hadded', hcrash', hend'⟩ := hf a t hend
    subst hadded
    refine ⟨added ++ added', by rw [hadded', append_assoc], fun done d' hd => ?_, hend'⟩
    rcases hd.append with hd | ⟨done', -, hd⟩
    · exact hcrash done d' hd
    · refine hcrash' done' d' ?_
      rwa [Session.disk, foldl_append]

theorem attempt {E' : Fault ε' → δ → Prop} (hm : CrashTriple apply torn P m Q E I) (hpanic : ∀ d, ¬ E .panic d)
    (hhang : ∀ d, ¬ E .hang d) :
    CrashTriple apply torn P (Prog.attempt m : Prog (Session δ ω) ε' (Except ε α))
      (fun r d => match r with | .ok a => Q a d | .error e => E (.err e) d) E' I := by
  intro s hs
  obtain ⟨added, hadded, hcrash, hend⟩ := hm s hs
  refine ⟨added, by rw [exec_attempt_snd, hadded], hcrash, ?_⟩
  rw [exec_attempt]
  rcases hexec : exec m s with ⟨(e | _ | _) | a, t⟩ <;> rw [hexec] at hend
  · exact hend
  · exact absurd hend (hpanic _)
  · exact absurd hend (hhang _)
  · exact hend

theorem ite {c : Prop} [Decidable c] {n : Prog (Session δ ω) ε α} (hm : c → CrashTriple apply torn P m Q E I)
    (hn : ¬ c → CrashTriple apply torn P n Q E I) : CrashTriple apply torn P (if c then m else n) Q E I := by
  split
  · exact hm ‹c›
  · exact hn ‹¬ c›

theorem run (h : CrashTriple apply torn P m Q E I) {d : δ} (hd : P d) :
    (∀ done d', Crashed apply torn (exec m (Session.of d)).2.writes d done d' → I d') ∧
      match (exec m (Session.of d)).1 with
      | .ok a => Q a ((exec m (Session.of d)).2.disk apply)
      | .error e => E e ((exec m (Session.of d)).2.disk apply) := by
  obtain ⟨added, hadded, hcrash, hend⟩ := h (Session.of d) hd
  refine ⟨fun done d' hd' => hcrash done d' ?_, hend⟩
  rw [hadded] at hd'
  exact hd'

end CrashTriple

end OneCipher.CrashLogic
