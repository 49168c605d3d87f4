import Mathlib.Logic.Function.Basic

/-!
# OneCipher.Base.SharedFile — calls that load a file, change their copy and save it back

Several calls work on one file and take no lock.  A call loads the whole file; it then answers from what it read,
or keeps a copy, changes it and saves it.  A load is one step and a save is one step, and the steps of different
calls interleave in any order (`step`, `run`).  A step carries the clock reading it makes.
-/

namespace OneCipher.SharedFile

/-- What the calls do: with the content loaded at a clock reading, answer or keep a copy; with the
copy at a later clock reading, the content saved and the answer. -/
structure Protocol (Op F L R : Type) where
  load : Op → Nat → F → R ⊕ L
  save : Op → Nat → L → F × R

/-- A call between its load and its save. -/
structure Pending (Op L : Type) where
  op : Op
  loadedAt : Nat
  copy : L
  version : Nat

inductive Event (Op R : Type) where
  | loaded (i : Nat) (op : Op) (now : Nat)
  | returned (i : Nat) (op : Op) (now : Nat) (answer : R)
  deriving DecidableEq

structure State (Op F L R : Type) where
  file : F
  version : Nat
  pending : Nat → Option (Pending Op L)
  log : List (Event Op R)

/-- Caller `i` loads for a call, saves, or has its save fail. -/
inductive Step (Op : Type) where
  | load (i : Nat) (op : Op) (now : Nat)
  | save (i : Nat) (now : Nat)
  | fail (i : Nat)

variable {Op F L R : Type} (P : Protocol Op F L R)

def start (file : F) : State Op F L R := ⟨file, 0, fun _ => none, []⟩

/-- One step.  A caller has one call under way at a time: it cannot load again before it has saved,
and cannot save what it has not loaded. -/
def step (s : State Op F L R) : Step Op → Option (State Op F L R)
  | .load i op now => match s.pending i with
    | some _ => none
    | none => match P.load op now s.file with
      | .inl r => some { s with log := s.log ++ [.loaded i op now] ++ [.returned i op now r] }
      | .inr copy => some { s with
          pending := Function.update s.pending i (some ⟨op, now, copy, s.version⟩)
          log := s.log ++ [.loaded i op now] }
  | .save i now => match s.pending i with
    | none => none
    | some p => some {
        file := (P.save p.op now p.copy).1
        version := s.version + 1
        pending := Function.update s.pending i none
        log := s.log ++ [.returned i p.op now (P.save p.op now p.copy).2] }
  | .fail i => match s.pending i with
    | none => none
    | some _ => some { s with pending := Function.update s.pending i none }

def run : State Op F L R → List (Step Op) → Option (State Op F L R)
  | s, [] => some s
  | s, st :: rest => (step P s st).bind fun s' => run s' rest

/-- Every step of the run meets the condition in the state it is made from. -/
def Along (C : State Op F L R → Step Op → Prop) : State Op F L R → List (Step Op) → Prop
  | _, [] => True
  | s, st :: rest => C s st ∧ ∀ s', step P s st = some s' → Along C s' rest

/-- Nobody saved since the caller's load, and every load meets `guard`. -/
def Undisturbed (guard : Op → Nat → F → Prop) (s : State Op F L R) : Step Op → Prop
  | .load _ op now => guard op now s.file
  | .save i _ => ∀ p, s.pending i = some p → p.version = s.version
  | .fail _ => True

/-! ## What a step does -/

variable {P}

variable {s s' : State Op F L R}

theorem step_cases {st : Step Op} (h : step P s st = some s') :
    (∃ i op now r, st = .load i op now ∧ P.load op now s.file = .inl r ∧
      s' = { s with log := s.log ++ [.loaded i op now] ++ [.returned i op now r] }) ∨
    (∃ i op now copy, st = .load i op now ∧ P.load op now s.file = .inr copy ∧
      s' = { s with
        pending := Function.update s.pending i (some ⟨op, now, copy, s.version⟩)
        log := s.log ++ [.loaded i op now] }) ∨
    (∃ i now p, st = .save i now ∧ s.pending i = some p ∧
      s' = {
        file := (P.save p.op now p.copy).1
        version := s.version + 1
        pending := Function.update s.pending i none
        log := s.log ++ [.returned i p.op now (P.save p.op now p.copy).2] }) ∨
    (∃ i, st = .fail i ∧ s' = { s with pending := Function.update s.pending i none }) := by
  cases st with
  | load i op now =>
    rw [step] at h
    rcases hp : s.pending i with _ | p <;> rw [hp] at h
    · rcases hl : P.load op now s.file with r | copy <;> simp only [hl] at h
      · exact .inl ⟨i, op, now, r, rfl, hl, (Option.some.inj h).symm⟩
      · exact .inr (.inl ⟨i, op, now, copy, rfl, hl, (Option.some.inj h).symm⟩)
    · cases h
  | save i now =>
    rw [step] at h
    rcases hp : s.pending i with _ | p <;> rw [hp] at h
    · cases h
    · exact .inr (.inr (.inl ⟨i, now, p, rfl, hp, (Option.some.inj h).symm⟩))
  | fail i =>
    rw [step] at h
    rcases hp : s.pending i with _ | p <;> rw [hp] at h
    · cases h
    · exact .inr (.inr (.inr ⟨i, rfl, (Option.some.inj h).symm⟩))

/-! ## Undisturbed runs -/

section Invariant

variable {guard : Op → Nat → F → Prop} {J : F → List (Event Op R) → Prop}

/-- A call that nobody disturbed so far holds a copy of the file as it is now. -/
def Current (P : Protocol Op F L R) (guard : Op → Nat → F → Prop) (s : State Op F L R) : Prop :=
  ∀ i p, s.pending i = some p → p.version ≤ s.version ∧
    (p.version = s.version → P.load p.op p.loadedAt s.file = .inr p.copy ∧
      guard p.op p.loadedAt s.file ∧ .loaded i p.op p.loadedAt ∈ s.log)

theorem current_start (file : F) : Current P guard (start file) := by
  nofun

theorem of_update_none {pending : Nat → Option (Pending Op L)} {i j : Nat} {q : Pending Op L}
    (h : Function.update pending i none j = some q) : pending j = some q := by
  by_cases hji : j = i
  · subst hji
    rw [Function.update_self] at h
    cases h
  · rwa [Function.update_of_ne hji] at h

theorem current_step {st : Step Op} (h : step P s st = some s') (hc : Undisturbed guard s st) (hs : Current P guard s) :
    Current P guard s' := by
  intro j q hq
  rcases step_cases h with ⟨i, op, now, r, rfl, hl, rfl⟩ | ⟨i, op, now, copy, rfl, hl, rfl⟩ |
    ⟨i, now, p, rfl, hp, rfl⟩ | ⟨i, rfl, rfl⟩ <;> dsimp only at hq ⊢
  · obtain ⟨hle, hcur⟩ := hs j q hq
    refine ⟨hle, fun hv => ?_⟩
    obtain ⟨hload, hguard, hmem⟩ := hcur hv
    exact ⟨hload, hguard, List.mem_append_left _ (List.mem_append_left _ hmem)⟩
  · by_cases hji : j = i
    · subst hji
      rw [Function.update_self] at hq
      cases hq
      exact ⟨Nat.le_refl _, fun _ => ⟨hl, hc, List.mem_append_right _ List.mem_cons_self⟩⟩
    · rw [Function.update_of_ne hji] at hq
      obtain ⟨hle, hcur⟩ := hs j q hq
      refine ⟨hle, fun hv => ?_⟩
      obtain ⟨hload, hguard, hmem⟩ := hcur hv
      exact ⟨hload, hguard, List.mem_append_left _ hmem⟩
  · -- the save makes every other copy out of date
    have hle := (hs j q (of_update_none hq)).1
    exact ⟨Nat.le_succ_of_le hle, fun hv => absurd hv (Nat.ne_of_lt (Nat.lt_succ_of_le hle))⟩
  · exact hs j q (of_update_none hq)

/-- What an invariant of undisturbed runs has to survive: a load being logged, an answer given from
the file, and a call that loads the file, changes it and saves it with nobody in between. -/
structure Kept (P : Protocol Op F L R) (guard : Op → Nat → F → Prop) (J : F → List (Event Op R) → Prop) : Prop where
  loaded : ∀ {file log} i op now, J file log → J file (log ++ [.loaded i op now])
  answered : ∀ {file log} i op now r, J file log → P.load op now file = .inl r → J file (log ++ [.returned i op now r])
  saved : ∀ {file log} i op now₀ now copy, J file log → .loaded i op now₀ ∈ log → guard op now₀ file →
    P.load op now₀ file = .inr copy →
    J (P.save op now copy).1 (log ++ [.returned i op now (P.save op now copy).2])

theorem Kept.step {st : Step Op} (hk : Kept P guard J) (h : step P s st = some s') (hc : Undisturbed guard s st)
    (hs : Current P guard s) (hj : J s.file s.log) : J s'.file s'.log := by
  rcases step_cases h with ⟨i, op, now, r, rfl, hl, rfl⟩ | ⟨i, op, now, copy, rfl, hl, rfl⟩ |
    ⟨i, now, p, rfl, hp, rfl⟩ | ⟨i, rfl, rfl⟩
  · exact hk.answered i op now r (hk.loaded i op now hj) hl
  · exact hk.loaded i op now hj
  · obtain ⟨hload, hguard, hmem⟩ := (hs i p hp).2 (hc p hp)
    exact hk.saved i p.op p.loadedAt now p.copy hj hmem hguard hload
  · exact hj

/-- **What every undisturbed call keeps holds along every undisturbed run**, whatever its order. -/
theorem run_invariant {steps : List (Step Op)} (hk : Kept P guard J) (hc : Along P (Undisturbed guard) s steps)
    (h : run P s steps = some s') (hs : Current P guard s) (hj : J s.file s.log) : J s'.file s'.log := by
  induction steps generalizing s with
  | nil =>
    cases h
    exact hj
  | cons _ _ ih =>
    obtain ⟨s₁, h₁, hrest⟩ := Option.bind_eq_some_iff.mp h
    exact ih (hc.2 s₁ h₁) hrest (current_step h₁ hc.1 hs) (hk.step h₁ hc.1 hs hj)

end Invariant

end OneCipher.SharedFile
