import Mathlib.Control.Basic

/-!
# OneCipher.Base.Prog — effectful calls that return, fail or panic

A small program logic for sequential code with one mutable state.  `Prog σ ε α` is the standard
`ExceptT`-over-`StateM` stack: a call reads and writes `σ` and either returns an `α` or fails with a `Fault`; what
it wrote before failing stays written.  `exec` runs a call.  Two ways of reasoning are provided:
-/

namespace OneCipher

/-- How a call can end other than by returning: with its error value, by a panic, or not at all. -/
inductive Fault (ε : Type) where
  | err (e : ε)
  | panic
  | hang
  deriving DecidableEq, Repr

def Fault.map {ε ε' : Type} (f : ε → ε') : Fault ε → Fault ε'
  | .err e => .err (f e)
  | .panic => .panic
  | .hang => .hang

abbrev Outcome (ε α : Type) := Except (Fault ε) α

/-- A call over a mutable state `σ`. -/
abbrev Prog (σ ε α : Type) := ExceptT (Fault ε) (StateM σ) α

/-! ## Results -/

namespace Result

variable {ε ε' α β : Type} {c : Prop} {a : α} {f : ε → ε'}

variable {x : Except ε α}

theorem bind_eq_ok {f : α → Except ε β} {b : β} : (x >>= f) = .ok b ↔ ∃ a, x = .ok a ∧ f a = .ok b := by
  cases x with
  | ok a => exact ⟨fun h => ⟨a, rfl, h⟩, fun ⟨_, ha, h⟩ => by cases ha; exact h⟩
  | error =>
    constructor
    · nofun
    · nofun

theorem bind_ok {f : α → Except ε β} {b : β} (hx : x = .ok a) (hf : f a = .ok b) : (x >>= f) = .ok b :=
  bind_eq_ok.mpr ⟨a, hx, hf⟩

theorem mapError_eq_ok : x.mapError f = .ok a ↔ x = .ok a := by
  cases x <;> simp [Except.mapError]

theorem map_eq_ok {f : α → β} {b : β} : x.map f = .ok b ↔ ∃ a, x = .ok a ∧ f a = b := by
  cases x <;> simp [Except.map]

theorem guard_eq_ok [Decidable c] {e : ε} : (if c then .error e else x) = .ok a ↔ ¬ c ∧ x = .ok a := by
  by_cases h : c <;> simp [h]

end Result

namespace Outcome

variable {ε ε' α β : Type} {x : Outcome ε α} {a : α} {f : ε → ε'}

/-- `Result::map_err`. -/
def mapErr (f : ε → ε') : Outcome ε α → Outcome ε' α
  | .ok a => .ok a
  | .error e => .error (e.map f)

/-- `Option::ok_or`. -/
def okOr (e : ε) : Option α → Outcome ε α
  | some a => .ok a
  | none => .error (.err e)

@[simp] theorem mapErr_eq_ok : x.mapErr f = .ok a ↔ x = .ok a := by
  cases x <;> simp [mapErr]

@[simp] theorem okOr_eq_ok {e : ε} {o : Option α} : okOr e o = .ok a ↔ o = some a := by
  cases o <;> simp [okOr]

theorem okOr_of_none {e : ε} {o : Option α} (h : o = none) : okOr e o = .error (.err e) := by
  rw [h, okOr]

theorem eq_ok_iff_toOption : x = .ok a ↔ x.toOption = some a := by
  cases x <;> simp [Except.toOption]

theorem exists_ok_iff : (∃ a, x = .ok a) ↔ x.isOk = true := by
  cases x <;> simp [Except.isOk, Except.toBool]

theorem eq_ok_unit {x : Outcome ε Unit} : x = .ok () ↔ x.isOk = true := by
  rcases x with _ | ⟨⟩ <;> simp [Except.isOk, Except.toBool]

/-! ### Calls that come to an end -/

theorem bind_ne_hang {f : α → Outcome ε β} (hx : x ≠ .error .hang) (hf : ∀ a, x = .ok a → f a ≠ .error .hang) :
    (x >>= f) ≠ .error .hang := by
  rcases x with e | a
  · intro h
    cases h
    exact hx rfl
  · exact hf a rfl

/-! ### Calls that fail with an error value only -/

/-- The call returns or fails with an error value: it neither panics nor hangs. -/
def Plain (x : Outcome ε α) : Prop := ∀ er, x = .error er → ∃ e, er = .err e

theorem plain_ok (a : α) : Plain (.ok a : Outcome ε α) := fun _ h => nomatch h

theorem plain_err (e : ε) : Plain (.error (.err e) : Outcome ε α) := by
  intro er h
  cases h
  exact ⟨e, rfl⟩

theorem plain_mapError (x : Except ε α) (f : ε → ε') : Plain (x.mapError fun e => Fault.err (f e)) := by
  rcases x with e | a
  · exact plain_err (f e)
  · exact plain_ok a

theorem plain_okOr (e : ε) (o : Option α) : Plain (okOr e o) := by
  rcases o with _ | a
  · exact plain_err e
  · exact plain_ok a

theorem Plain.bind {f : α → Outcome ε β} (hx : Plain x) (hf : ∀ a, Plain (f a)) : Plain (x >>= f) := by
  rcases x with er | a
  · intro er' h
    cases h
    exact hx er rfl
  · exact hf a

theorem Plain.mapErr (h : Plain x) (f : ε → ε') : Plain (x.mapErr f) := by
  rcases x with er | a
  · obtain ⟨e, rfl⟩ := h er rfl
    exact plain_err (f e)
  · exact plain_ok a

theorem Plain.mapM {f : α → Outcome ε β} (h : ∀ x, Plain (f x)) (xs : List α) : Plain (xs.mapM f) := by
  induction xs with
  | nil => exact plain_ok []
  | cons x _ ih =>
    rw [List.mapM_cons]
    exact (h x).bind fun y => ih.bind fun ys => plain_ok (y :: ys)

end Outcome

namespace Prog

variable {σ ε ε' α β : Type}

def exec (m : Prog σ ε α) (s : σ) : Outcome ε α × σ := (ExceptT.run m).run s

def fail (e : ε) : Prog σ ε α := throw (.err e)

def lift (x : Outcome ε α) : Prog σ ε α := ExceptT.mk (pure x)

/-- Change the error a call fails with (`Result::map_err`). -/
def mapErr (f : ε → ε') (m : Prog σ ε α) : Prog σ ε' α := ExceptT.mk fun s => ((exec m s).1.mapErr f, (exec m s).2)

/-- Run a call and keep its error as a value (a `Result` that is matched on); panics pass through. -/
def attempt (m : Prog σ ε α) : Prog σ ε' (Except ε α) :=
  ExceptT.mk fun s => match exec m s with
    | (.ok a, t) => (.ok (.ok a), t)
    | (.error (.err e), t) => (.ok (.error e), t)
    | (.error .panic, t) => (.error .panic, t)
    | (.error .hang, t) => (.error .hang, t)

def reads (f : σ → α) : Prog σ ε α := f <$> get

def state (f : σ → α × σ) : Prog σ ε α := ExceptT.mk fun s => (.ok (f s).1, (f s).2)

def zoom {τ : Type} (view : σ → τ) (put : τ → σ → σ) (m : Prog τ ε α) : Prog σ ε α :=
  ExceptT.mk fun s => ((exec m (view s)).1, put (exec m (view s)).2 s)

@[simp] theorem exec_pure (a : α) (s : σ) : exec (pure a : Prog σ ε α) s = (.ok a, s) := rfl

@[simp] theorem exec_fail (e : ε) (s : σ) : exec (fail e : Prog σ ε α) s = (.error (.err e), s) := rfl

@[simp] theorem exec_lift (x : Outcome ε α) (s : σ) : exec (lift x) s = (x, s) := rfl

@[simp] theorem exec_reads (f : σ → α) (s : σ) : exec (reads f : Prog σ ε α) s = (.ok (f s), s) := rfl

@[simp] theorem exec_get (s : σ) : exec (get : Prog σ ε σ) s = (.ok s, s) := rfl

@[simp] theorem exec_modify (f : σ → σ) (s : σ) : exec (modify f : Prog σ ε PUnit) s = (.ok ⟨⟩, f s) := rfl

@[simp] theorem exec_state (f : σ → α × σ) (s : σ) : exec (state f : Prog σ ε α) s = (.ok (f s).1, (f s).2) := rfl

@[simp] theorem exec_mapErr (f : ε → ε') (m : Prog σ ε α) (s : σ) :
    exec (mapErr f m) s = ((exec m s).1.mapErr f, (exec m s).2) := rfl

theorem exec_attempt (m : Prog σ ε α) (s : σ) :
    exec (attempt m : Prog σ ε' (Except ε α)) s = match exec m s with
      | (.ok a, t) => (.ok (.ok a), t)
      | (.error (.err e), t) => (.ok (.error e), t)
      | (.error .panic, t) => (.error .panic, t)
      | (.error .hang, t) => (.error .hang, t) := rfl

@[simp] theorem exec_attempt_snd (m : Prog σ ε α) (s : σ) :
    (exec (attempt m : Prog σ ε' (Except ε α)) s).2 = (exec m s).2 := by
  rw [exec_attempt]
  rcases exec m s with ⟨(_ | _ | _) | _, t⟩ <;> rfl

@[simp] theorem exec_zoom {τ : Type} (view : σ → τ) (put : τ → σ → σ) (m : Prog τ ε α) (s : σ) :
    exec (zoom view put m) s = ((exec m (view s)).1, put (exec m (view s)).2 s) := rfl

theorem exec_bind (m : Prog σ ε α) (f : α → Prog σ ε β) (s : σ) :
    exec (m >>= f) s = match exec m s with
      | (.ok a, t) => exec (f a) t
      | (.error e, t) => (.error e, t) := by
  change (ExceptT.bind m f) s = _
  simp only [ExceptT.bind, ExceptT.mk, bind, StateT.bind, exec, ExceptT.run, StateT.run]
  rcases m s with ⟨_ | _, t⟩ <;> rfl

variable {m : Prog σ ε α} {x : Outcome ε α} {c : Prop} {a : α} {f : ε → ε'} {s s' : σ}

theorem exec_bind_of_ok {f : α → Prog σ ε β} {t : σ} (h : exec m s = (.ok a, t)) : exec (m >>= f) s = exec (f a) t := by
  rw [exec_bind, h]

theorem exec_lift_bind_of_ok {f : α → Prog σ ε β} (h : x = .ok a) : exec (lift x >>= f) s = exec (f a) s :=
  exec_bind_of_ok (congrArg (·, s) h)

theorem exec_lift_bind_of_error {f : α → Prog σ ε β} {e : Fault ε} (h : x = .error e) :
    exec (lift x >>= f) s = (.error e, s) := by
  rw [exec_bind, exec_lift, h]

theorem exec_bind_pure_snd (m : Prog σ ε α) (g : α → β) (s : σ) :
    (exec (m >>= fun a => pure (g a)) s).2 = (exec m s).2 := by
  rw [exec_bind]
  rcases exec m s with ⟨_ | _, t⟩ <;> rfl

/-! ## Inversion of returned calls -/

theorem exec_bind_ok {f : α → Prog σ ε β} {b : β} :
    exec (m >>= f) s = (.ok b, s') ↔ ∃ a t, exec m s = (.ok a, t) ∧ exec (f a) t = (.ok b, s') := by
  rw [exec_bind]
  rcases h : exec m s with ⟨_ | a, t⟩
  · simp
  · exact ⟨fun hb => ⟨a, t, rfl, hb⟩, fun ⟨_, _, ha, hb⟩ => by cases ha; exact hb⟩

theorem exec_lift_bind_ok {f : α → Prog σ ε β} {b : β} :
    exec (lift x >>= f) s = (.ok b, s') ↔ ∃ a, x = .ok a ∧ exec (f a) s = (.ok b, s') := by
  rw [exec_bind, exec_lift]
  cases x <;> simp

theorem exec_mapErr_ok : exec (mapErr f m) s = (.ok a, s') ↔ exec m s = (.ok a, s') := by
  rcases h : exec m s with ⟨r, t⟩
  simp [h, Prod.ext_iff]

theorem exec_ite_ok [Decidable c] {n : Prog σ ε α} :
    exec (if c then m else n) s = (.ok a, s') ↔ (c ∧ exec m s = (.ok a, s')) ∨ (¬ c ∧ exec n s = (.ok a, s')) := by
  by_cases h : c <;> simp [h]

theorem exec_guard_ok [Decidable c] {e : ε} :
    exec (if c then fail e else m) s = (.ok a, s') ↔ ¬ c ∧ exec m s = (.ok a, s') := by
  by_cases h : c <;> simp [h]

/-! ## Calls that return -/

/-- The call returns when it is run from the state. -/
def Returns (m : Prog σ ε α) (s : σ) : Prop := ∃ a t, exec m s = (.ok a, t)

namespace Returns

theorem pure (a : α) (s : σ) : Returns (Pure.pure a : Prog σ ε α) s := ⟨a, s, rfl⟩

theorem bind {f : α → Prog σ ε β} {t : σ} (hm : exec m s = (.ok a, t)) (hf : Returns (f a) t) :
    Returns (m >>= f) s := by
  obtain ⟨b, t', hb⟩ := hf
  exact ⟨b, t', exec_bind_ok.mpr ⟨a, t, hm, hb⟩⟩

theorem lift_bind {f : α → Prog σ ε β} (hx : x = .ok a) (hf : Returns (f a) s) : Returns (lift x >>= f) s :=
  bind (congrArg (·, s) hx) hf

end Returns

/-! ## Triples -/

/-- From a state with `P`, the call ends in a state with `Q` if it returns, with `E` if it fails. -/
def Triple (P : σ → Prop) (m : Prog σ ε α) (Q : α → σ → Prop) (E : Fault ε → σ → Prop) : Prop :=
  ∀ s, P s → match exec m s with
    | (.ok a, t) => Q a t
    | (.error e, t) => E e t

namespace Triple

variable {P P' : σ → Prop} {Q Q' : α → σ → Prop} {R : β → σ → Prop} {E E' : Fault ε → σ → Prop}
  {m : Prog σ ε α}

theorem ok {t : σ} (h : Triple P m Q E) (hs : P s) (he : exec m s = (.ok a, t)) : Q a t := by
  have := h s hs
  rwa [he] at this

theorem final {R : σ → Prop} (h : Triple P m (fun _ => R) (fun _ => R)) (hs : P s) : R (exec m s).2 := by
  have := h s hs
  rcases hm : exec m s with ⟨_ | _, t⟩ <;> rw [hm] at this <;> exact this

theorem conseq (h : Triple P m Q E) (hP : ∀ s, P' s → P s) (hQ : ∀ a s, Q a s → Q' a s)
    (hE : ∀ e s, E e s → E' e s) : Triple P' m Q' E' := by
  intro s hs
  have := h s (hP s hs)
  rcases hm : exec m s with ⟨e | a, t⟩ <;> rw [hm] at this
  · exact hE e t this
  · exact hQ a t this

theorem pure (h : ∀ s, P s → Q a s) : Triple P (Pure.pure a) Q E := h

theorem fail {e : ε} (h : ∀ s, P s → E (.err e) s) : Triple P (Prog.fail e) Q E := h

theorem lift (hQ : ∀ a s, x = .ok a → P s → Q a s) (hE : ∀ e s, x = .error e → P s → E e s) :
    Triple P (Prog.lift x) Q E := by
  intro s hs
  rcases x with e | a
  · exact hE e s rfl hs
  · exact hQ a s rfl hs

theorem reads {f : σ → α} (h : ∀ s, P s → Q (f s) s) : Triple P (Prog.reads f) Q E := h

theorem modify {f : σ → σ} {Q : PUnit → σ → Prop} (h : ∀ s, P s → Q ⟨⟩ (f s)) :
    Triple P (modify f : Prog σ ε PUnit) Q E := h

theorem state {f : σ → α × σ} (h : ∀ s, P s → Q (f s).1 (f s).2) : Triple P (Prog.state f) Q E := h

theorem bind {f : α → Prog σ ε β} (hm : Triple P m Q E) (hf : ∀ a, Triple (Q a) (f a) R E) :
    Triple P (m >>= f) R E := by
  intro s hs
  have h := hm s hs
  rw [exec_bind]
  rcases he : exec m s with ⟨e | a, t⟩ <;> rw [he] at h
  · exact h
  · exact hf a t h

theorem lift_bind {f : α → Prog σ ε β} (hf : ∀ a, x = .ok a → Triple P (f a) R E) (hE : ∀ e s, P s → E e s) :
    Triple P (Prog.lift x >>= f) R E := by
  intro s hs
  rcases hx : x with e | a
  · exact hE e s hs
  · exact hf a hx s hs

theorem lift_bind_of_ok {f : α → Prog σ ε β} (hx : x = .ok a) (hf : Triple P (f a) R E) :
    Triple P (Prog.lift x >>= f) R E := by
  intro s hs
  rw [exec_lift_bind_of_ok hx]
  exact hf s hs

theorem mapErr {E : Fault ε' → σ → Prop} (hm : Triple P m Q fun e t => E (e.map f) t) :
    Triple P (Prog.mapErr f m) Q E := by
  intro s hs
  have h := hm s hs
  rw [exec_mapErr]
  rcases he : exec m s with ⟨e | a, t⟩ <;> rw [he] at h
  · exact h
  · exact h

theorem ite [Decidable c] {n : Prog σ ε α} (hm : c → Triple P m Q E) (hn : ¬ c → Triple P n Q E) :
    Triple P (if c then m else n) Q E := by
  by_cases h : c
  · rw [if_pos h]; exact hm h
  · rw [if_neg h]; exact hn h

end Triple

/-! ## Preserved properties -/

/-- The call keeps a property of the state, whether it returns or fails. -/
def Preserves (I : σ → Prop) (m : Prog σ ε α) : Prop := ∀ s, I s → I (exec m s).2

namespace Preserves

variable {I : σ → Prop} {m : Prog σ ε α}

theorem of_triple {Q : α → σ → Prop} {E : Fault ε → σ → Prop} (h : Triple I m Q E)
    (hQ : ∀ a s, Q a s → I s) (hE : ∀ e s, E e s → I s) : Preserves I m := by
  intro s hs
  have := h s hs
  rcases hm : exec m s with ⟨e | a, t⟩ <;> rw [hm] at this
  · exact hE e t this
  · exact hQ a t this

theorem triple (h : Preserves I m) : Triple I m (fun _ => I) (fun _ => I) := by
  intro s hs
  have := h s hs
  rcases hm : exec m s with ⟨e | a, t⟩ <;> rw [hm] at this <;> exact this

theorem pure (a : α) : Preserves I (Pure.pure a : Prog σ ε α) := fun _ h => h

theorem fail (e : ε) : Preserves I (Prog.fail e : Prog σ ε α) := fun _ h => h

theorem lift (x : Outcome ε α) : Preserves I (Prog.lift x : Prog σ ε α) := fun _ h => h

theorem reads (f : σ → α) : Preserves I (Prog.reads f : Prog σ ε α) := fun _ h => h

theorem get : Preserves I (MonadState.get : Prog σ ε σ) := fun _ h => h

theorem modify {f : σ → σ} (h : ∀ s, I s → I (f s)) : Preserves I (modify f : Prog σ ε PUnit) := h

theorem state {f : σ → α × σ} (h : ∀ s, I s → I (f s).2) : Preserves I (Prog.state f : Prog σ ε α) := h

theorem bind {f : α → Prog σ ε β} (hm : Preserves I m) (hf : ∀ a, Preserves I (f a)) : Preserves I (m >>= f) := by
  intro s hs
  have h := hm s hs
  rw [exec_bind]
  rcases he : exec m s with ⟨e | a, t⟩ <;> rw [he] at h
  · exact h
  · exact hf a t h

theorem lift_bind {f : α → Prog σ ε β} (hf : ∀ a, x = .ok a → Preserves I (f a)) : Preserves I (Prog.lift x >>= f) := by
  intro s hs
  rcases hx : x with e | a
  · exact hs
  · exact hf a hx s hs

theorem mapErr (hm : Preserves I m) : Preserves I (Prog.mapErr f m) := hm

theorem attempt (hm : Preserves I m) : Preserves I (Prog.attempt m : Prog σ ε' (Except ε α)) := by
  intro s hs
  have h := hm s hs
  rw [exec_attempt]
  rcases he : exec m s with ⟨(_ | _ | _) | a, t⟩ <;> rw [he] at h <;> exact h

theorem zoom {τ : Type} {view : σ → τ} {put : τ → σ → σ} {m : Prog τ ε α}
    (h : ∀ s t, I s → I (put t s)) : Preserves I (Prog.zoom view put m) := fun s hs => h s _ hs

theorem ite [Decidable c] {n : Prog σ ε α} (hm : Preserves I m) (hn : Preserves I n) :
    Preserves I (if c then m else n) := by
  by_cases h : c
  · rw [if_pos h]; exact hm
  · rw [if_neg h]; exact hn

theorem frame {P : σ → Prop} {Q : α → σ → Prop} {E : Fault ε → σ → Prop} (hI : Preserves I m)
    (h : Triple P m Q E) :
    Triple (fun s => P s ∧ I s) m (fun a s => Q a s ∧ I s) (fun e s => E e s ∧ I s) := by
  intro s hs
  have h1 := h s hs.1
  have h2 := hI s hs.2
  rcases he : exec m s with ⟨e | a, t⟩ <;> rw [he] at h1 h2 <;> exact ⟨h1, h2⟩

end Preserves

end Prog

end OneCipher
