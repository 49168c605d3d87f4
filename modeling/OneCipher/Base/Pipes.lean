import Mathlib.Data.List.Basic
import Mathlib.Data.Nat.Basic
import Mathlib.Order.Basic

/-!
# OneCipher.Base.Pipes — a parent and a child with bounded pipes

The parent writes its input into one pipe, polls until the child has exited or the time is over, and only then reads the
other pipe.  The child reads a whole line, works on it and writes its answer.  A write moves what there is room for
and waits while the pipe is full.  Whatever the schedule, the parent gets the answer exactly when it fits into the pipe
(`exists_result`).
-/

namespace OneCipher.Pipes

open List

variable {α β : Type}

/-! ## The two processes -/

/-- The size of the pipes, the end of a line, and what the child does with a line; none is a failure. -/
structure Setup (α : Type) where
  capacity : ℕ
  isEnd : α → Bool
  serve : List α → Option (List α)

inductive Child (α : Type) where
  | reading (got : List α)
  | writing (rest : List α)
  | exited (success : Bool)

/-- What is in the pipes and in the hands of the processes; the result of the parent is none where it has given up. -/
structure Sys (α : Type) where
  unsent : List α
  stdin : List α
  child : Child α
  stdout : List α
  result : Option (Option (Bool × List α))

/-- Which process moves; a late poll finds the time over. -/
inductive Act where
  | parent (late : Bool)
  | child

def start (input : List α) : Sys α := ⟨input, [], .reading [], [], none⟩

variable (P : Setup α)

/-- The child reads what is in the pipe, or writes what fits. -/
def Sys.childStep (s : Sys α) : Sys α :=
  match s.child with
  | .reading got =>
    let got := got ++ s.stdin
    if got.any P.isEnd then
      { s with stdin := [], child := (P.serve got).elim (.exited false) .writing }
    else { s with stdin := [], child := .reading got }
  | .writing rest =>
    let room := P.capacity - s.stdout.length
    { s with
      stdout := s.stdout ++ rest.take room
      child := if (rest.drop room).isEmpty then .exited true else .writing (rest.drop room) }
  | .exited _ => s

/-- The parent writes what fits; once all is written it polls. -/
def Sys.parentStep (s : Sys α) (late : Bool) : Sys α :=
  if s.result.isSome then s
  else if s.unsent.isEmpty then
    match s.child with
    | .exited success => { s with result := some (some (success, s.stdout)) }
    | _ => if late then { s with result := some none } else s
  else
    let room := P.capacity - s.stdin.length
    { s with unsent := s.unsent.drop room, stdin := s.stdin ++ s.unsent.take room }

def step (s : Sys α) : Act → Sys α
  | .parent late => s.parentStep P late
  | .child => s.childStep P

def trace (s : Sys α) (acts : ℕ → Act) : ℕ → Sys α
  | 0 => s
  | n + 1 => step P (trace s acts n) (acts n)

/-- Both processes go on moving, and the time runs out. -/
structure Fair (acts : ℕ → Act) : Prop where
  child : ∀ n, ∃ m, n ≤ m ∧ acts m = .child
  late : ∀ n, ∃ m, n ≤ m ∧ acts m = .parent true

/-- When the parent, done with its writing, first finds the time over, the child is not held up by its own work. -/
def Timely (s : Sys α) (acts : ℕ → Act) : Prop :=
  ∀ n, acts n = .parent true → (trace P s acts n).unsent = [] → (trace P s acts n).result = none →
    (trace P s acts n).childStep P = trace P s acts n

/-- What the parent gets. -/
def outcome (input : List α) : Option (Bool × List α) :=
  match P.serve input with
  | none => some (false, [])
  | some out => if out.length ≤ P.capacity then some (true, out) else none

/-! ## Safety -/

/-- The input is one line. -/
def Line (input : List α) : Prop := ∃ body e, input = body ++ [e] ∧ P.isEnd e = true ∧ body.any P.isEnd = false

/-- Nothing is lost on the way. -/
def Sound (input : List α) (s : Sys α) : Prop :=
  match s.child with
  | .reading got => got ++ s.stdin ++ s.unsent = input ∧ got.any P.isEnd = false ∧ s.stdout = []
  | .writing rest => s.unsent = [] ∧ P.serve input = some (s.stdout ++ rest) ∧ s.stdout.length ≤ P.capacity
  | .exited true => s.unsent = [] ∧ P.serve input = some s.stdout ∧ s.stdout.length ≤ P.capacity
  | .exited false => s.unsent = [] ∧ P.serve input = none ∧ s.stdout = []

variable {P} {input : List α} {s : Sys α} {acts : ℕ → Act}

/-- A part of the line that has its end is the whole line. -/
theorem Line.eq_nil {a b : List α} (h : Line P (a ++ b)) (ha : a.any P.isEnd = true) : b = [] := by
  obtain ⟨body, e, heq, -, hbody⟩ := h
  rcases eq_nil_or_concat b with hb | ⟨b', x, rfl⟩
  · exact hb
  · rw [concat_eq_append, ← append_assoc] at heq
    rw [← (append_inj' heq rfl).1, any_append, ha] at hbody
    cases hbody

theorem Sound.childStep (hline : Line P input) (h : Sound P input s) : Sound P input (s.childStep P) := by
  obtain ⟨unsent, stdin, child, stdout, result⟩ := s
  rcases child with got | rest | success
  · obtain ⟨hinput, hgot, hstdout⟩ := h
    simp only [Sys.childStep]
    by_cases hend : (got ++ stdin).any P.isEnd = true
    · rw [if_pos hend]
      obtain rfl : unsent = [] := Line.eq_nil (hinput ▸ hline) hend
      rw [append_nil] at hinput
      rw [hinput]
      rcases hserve : P.serve input with _ | out
      · exact ⟨rfl, hserve, hstdout⟩
      · exact ⟨rfl, by rw [hstdout]; exact hserve, by rw [hstdout]; exact Nat.zero_le _⟩
    · rw [if_neg hend]
      exact ⟨by rw [append_nil]; exact hinput, by simpa using hend, hstdout⟩
  · obtain ⟨hunsent, hserve, hlen⟩ := h
    dsimp only at hunsent hserve hlen
    have hroom : (stdout ++ rest.take (P.capacity - stdout.length)).length ≤ P.capacity := by
      rw [length_append, length_take]
      omega
    simp only [Sys.childStep]
    split_ifs with hrest
    · refine ⟨hunsent, ?_, hroom⟩
      rw [take_of_length_le (drop_eq_nil_iff.mp (List.isEmpty_iff.mp hrest))]
      exact hserve
    · refine ⟨hunsent, ?_, hroom⟩
      rw [append_assoc, take_append_drop]
      exact hserve
  · exact h

theorem Sound.parentStep (h : Sound P input s) (late : Bool) : Sound P input (s.parentStep P late) := by
  obtain ⟨unsent, stdin, child, stdout, result⟩ := s
  simp only [Sys.parentStep]
  split
  · exact h
  · split
    · split
      · exact h
      · split_ifs <;> exact h
    · rename_i hunsent
      rcases child with got | rest | success
      · refine ⟨?_, h.2⟩
        rw [append_assoc, append_assoc, take_append_drop, ← append_assoc]
        exact h.1
      · exact absurd (List.isEmpty_iff.mpr h.1) hunsent
      · cases success <;> exact absurd (List.isEmpty_iff.mpr h.1) hunsent

/-- A child that cannot move when all is written has exited or waits for room. -/
theorem Sound.stuck (hline : Line P input) (h : Sound P input s) (hunsent : s.unsent = [])
    (hstuck : s.childStep P = s) : (∃ success, s.child = .exited success) ∨ outcome P input = none := by
  obtain ⟨unsent, stdin, child, stdout, result⟩ := s
  rcases child with got | rest | success
  · -- the whole line has arrived, so it goes on
    obtain ⟨hinput, hgot, -⟩ := h
    obtain ⟨body, e, rfl, he, -⟩ := hline
    rw [hunsent, append_nil] at hinput
    have hend : (got ++ stdin).any P.isEnd = true := by simp [hinput, he]
    have hchild := congrArg Sys.child hstuck
    simp only [Sys.childStep, if_pos hend] at hchild
    rcases hserve : P.serve (got ++ stdin) with _ | out <;> rw [hserve] at hchild <;> cases hchild
  · have hchild := congrArg Sys.child hstuck
    simp only [Sys.childStep] at hchild
    split_ifs at hchild with hrest
    have hdrop := congrArg List.length (Child.writing.inj hchild)
    rw [List.isEmpty_iff, drop_eq_nil_iff] at hrest
    refine .inr ?_
    simp only [outcome, h.2.1, length_append]
    exact if_neg (by omega)
  · exact .inl ⟨success, rfl⟩

theorem Sound.outcome_eq {success : Bool} (h : Sound P input s) (hchild : s.child = .exited success) :
    some (success, s.stdout) = outcome P input := by
  obtain ⟨unsent, stdin, child, stdout, result⟩ := s
  cases hchild
  cases success
  · obtain ⟨-, hserve, hstdout⟩ := h
    rw [outcome, hserve, hstdout]
  · obtain ⟨-, hserve, hlen⟩ := h
    simp only [outcome, hserve, if_pos hlen]

theorem sound_trace (hline : Line P input) (n : ℕ) : Sound P input (trace P (start input) acts n) := by
  induction n with
  | zero => exact ⟨rfl, rfl, rfl⟩
  | succ n ih =>
    rw [trace]
    cases acts n with
    | parent late => exact ih.parentStep late
    | child => exact ih.childStep hline

theorem result_childStep : (s.childStep P).result = s.result := by
  unfold Sys.childStep
  split
  · dsimp only
    split_ifs <;> rfl
  · rfl
  · rfl

/-- A result of the parent is the outcome. -/
theorem result_eq (hline : Line P input) (htimely : Timely P (start input) acts) {n : ℕ} {r : Option (Bool × List α)}
    (h : (trace P (start input) acts n).result = some r) : r = outcome P input := by
  induction n with
  | zero => cases h
  | succ n ih =>
    have hsound : Sound P input (trace P (start input) acts n) := sound_trace hline n
    have hstuck := htimely n
    rw [trace] at h
    generalize trace P (start input) acts n = s at h hsound hstuck ih
    cases ha : acts n with
    | child =>
      rw [ha] at h
      exact ih (result_childStep.symm.trans h)
    | parent late =>
      rw [ha] at h hstuck
      simp only [step, Sys.parentStep] at h
      split at h
      · exact ih h
      · rename_i hnone
        split at h
        · rename_i hunsent
          split at h
          · rename_i success hchild
            rw [← Option.some.inj h]
            exact hsound.outcome_eq hchild
          · rename_i hrunning
            split_ifs at h with hlate
            · rw [← Option.some.inj h]
              subst hlate
              have hsent := List.isEmpty_iff.mp hunsent
              rcases hsound.stuck hline hsent (hstuck rfl hsent (Option.not_isSome_iff_eq_none.mp hnone)) with
                ⟨success, hchild⟩ | hlong
              · exact absurd hchild (hrunning success)
              · exact hlong.symm
            · exact ih h
        · exact ih h

/-- A result stays. -/
theorem result_trace {k m : ℕ} (hkm : k ≤ m) {r : Option (Bool × List α)} (h : (trace P s acts k).result = some r) :
    (trace P s acts m).result = some r := by
  induction m, hkm using Nat.le_induction with
  | base => exact h
  | succ m _ ih =>
    rw [trace]
    cases acts m with
    | child => exact result_childStep.trans ih
    | parent => rwa [step, Sys.parentStep, if_pos (by rw [ih]; rfl)]

/-! ## Progress -/

/-- Along a sequence that stays or falls, and falls again and again where it is bad, something is good. -/
theorem exists_good {f : ℕ → β} {μ : β → ℕ} {B : β → Prop}
    (hstep : ∀ n, f (n + 1) = f n ∨ μ (f (n + 1)) < μ (f n))
    (hfall : ∀ n, B (f n) → ∃ m, n ≤ m ∧ (f m = f n → μ (f (m + 1)) < μ (f m))) : ∃ n, ¬ B (f n) := by
  by_contra! hbad
  have hle : ∀ n m, n ≤ m → f m = f n ∨ μ (f m) < μ (f n) := by
    intro n m hnm
    induction m, hnm using Nat.le_induction with
    | base => exact .inl rfl
    | succ m _ ih =>
      rcases hstep m with h | h
      · rwa [h]
      · exact .inr (ih.elim (fun heq => heq ▸ h) h.trans)
  have hnone : ∀ k n, μ (f n) = k → False := by
    intro k
    induction k using Nat.strong_induction_on with
    | _ _ ih =>
      intro n hn
      obtain ⟨m, hnm, hm⟩ := hfall n (hbad n)
      rcases hle n m hnm with heq | hlt
      · exact ih _ (by have := hm heq; rw [heq] at this; omega) (m + 1) rfl
      · exact ih _ (by omega) m rfl
  exact hnone _ 0 rfl

/-- What is still on its way to the child, counted twice while it is unsent. -/
def load (p : List α × List α) : ℕ := 2 * p.1.length + p.2.length

def Sys.inbound (s : Sys α) : List α × List α := (s.unsent, s.stdin)

theorem inbound_childStep : (s.childStep P).inbound = s.inbound ∨ (s.childStep P).inbound = (s.unsent, []) := by
  unfold Sys.childStep
  split
  · dsimp only
    split_ifs <;> exact .inr rfl
  · exact .inl rfl
  · exact .inl rfl

theorem inbound_parentStep (late : Bool) : (s.parentStep P late).inbound = s.inbound ∨
    (s.parentStep P late).inbound = (s.unsent.drop (P.capacity - s.stdin.length),
      s.stdin ++ s.unsent.take (P.capacity - s.stdin.length)) := by
  unfold Sys.parentStep
  split
  · exact .inl rfl
  · split
    · split
      · exact .inl rfl
      · split_ifs <;> exact .inl rfl
    · exact .inr rfl

theorem inbound_step (a : Act) : (step P s a).inbound = s.inbound ∨ load (step P s a).inbound < load s.inbound := by
  cases a with
  | child =>
    rcases inbound_childStep (P := P) (s := s) with h | h
    · exact .inl h
    · rcases hstdin : s.stdin with _ | ⟨x, stdin⟩
      · exact .inl (h.trans (by rw [Sys.inbound, hstdin]))
      · refine .inr ?_
        rw [step, h]
        simp only [load, Sys.inbound, hstdin, length_nil, length_cons]
        omega
  | parent late =>
    rcases inbound_parentStep (P := P) (s := s) late with h | h
    · exact .inl h
    · by_cases hmoved : s.unsent.take (P.capacity - s.stdin.length) = []
      · refine .inl (h.trans ?_)
        have hdrop := take_append_drop (P.capacity - s.stdin.length) s.unsent
        rw [hmoved, nil_append] at hdrop
        rw [hmoved, hdrop, append_nil]
        rfl
      · refine .inr ?_
        have hpos := length_pos_of_ne_nil hmoved
        rw [length_take] at hpos
        rw [step, h]
        simp only [load, Sys.inbound, length_drop, length_append, length_take]
        omega

/-- The child empties its pipe while there is something to come. -/
theorem load_childStep (h : Sound P input s) (hunsent : s.unsent ≠ []) (hstdin : s.stdin ≠ []) :
    load (s.childStep P).inbound < load s.inbound := by
  obtain ⟨unsent, stdin, child, stdout, result⟩ := s
  rcases child with got | rest | success
  · have hinbound : ((⟨unsent, stdin, .reading got, stdout, result⟩ : Sys α).childStep P).inbound = (unsent, []) := by
      simp only [Sys.childStep]
      split_ifs <;> rfl
    rw [hinbound]
    simpa [load, Sys.inbound] using length_pos_of_ne_nil hstdin
  · exact absurd h.1 hunsent
  · cases success <;> exact absurd h.1 hunsent

/-- The parent fills an empty pipe. -/
theorem load_parentStep (hcapacity : 0 < P.capacity) (hresult : s.result = none) (hunsent : s.unsent ≠ [])
    (hstdin : s.stdin = []) (late : Bool) : load (s.parentStep P late).inbound < load s.inbound := by
  have hpos := length_pos_of_ne_nil hunsent
  simp only [Sys.parentStep, hresult, hstdin, List.isEmpty_iff, hunsent, load, Sys.inbound, Option.isSome_none,
    Bool.false_eq_true, if_false, nil_append, length_nil, length_drop, length_take]
  omega

/-- **The parent gets an answer exactly when it fits.**  In every fair and timely schedule the parent returns, and what it
returns is the child's answer if that fits into the pipe; a longer answer keeps the child from exiting until the parent
gives up. -/
theorem exists_result (hcapacity : 0 < P.capacity) (hline : Line P input) (hfair : Fair acts)
    (htimely : Timely P (start input) acts) : ∃ n, (trace P (start input) acts n).result = some (outcome P input) := by
  by_contra! hnever
  have hnone : ∀ n, (trace P (start input) acts n).result = none := fun n => by
    rcases hr : (trace P (start input) acts n).result with _ | r
    · rfl
    · exact absurd (hr.trans (congrArg some (result_eq hline htimely hr))) (hnever n)
  -- the writing comes to an end
  obtain ⟨n, hn⟩ := exists_good (f := fun n => (trace P (start input) acts n).inbound) (μ := load)
    (B := fun p => p.1 ≠ []) (fun n => inbound_step (acts n)) fun n hbad => by
      by_cases hstdin : (trace P (start input) acts n).stdin = []
      · obtain ⟨m, hnm, hm⟩ := hfair.late n
        refine ⟨m, hnm, fun heq => ?_⟩
        obtain ⟨hu, hi⟩ := Prod.mk.inj heq
        rw [trace, hm]
        exact load_parentStep hcapacity (hnone m) (fun h => hbad (hu.symm.trans h)) (hi.trans hstdin) true
      · obtain ⟨m, hnm, hm⟩ := hfair.child n
        refine ⟨m, hnm, fun heq => ?_⟩
        obtain ⟨hu, hi⟩ := Prod.mk.inj heq
        rw [trace, hm]
        exact load_childStep (sound_trace hline m) (fun h => hbad (hu.symm.trans h)) fun h => hstdin (hi.symm.trans h)
  have hsent : ∀ m, n ≤ m → (trace P (start input) acts m).unsent = [] := by
    intro m hnm
    induction m, hnm using Nat.le_induction with
    | base => exact not_not.mp hn
    | succ m _ ih =>
      rw [trace]
      cases acts m with
      | child =>
        rcases inbound_childStep (P := P) (s := trace P (start input) acts m) with h | h <;>
          exact (congrArg Prod.fst h).trans ih
      | parent late =>
        rcases inbound_parentStep (P := P) (s := trace P (start input) acts m) late with h | h
        · exact (congrArg Prod.fst h).trans ih
        · exact (congrArg Prod.fst h).trans (by rw [ih]; exact drop_nil)
  -- the next late poll returns
  obtain ⟨m, hnm, hm⟩ := hfair.late n
  have hlast := hnone (m + 1)
  rw [trace, hm] at hlast
  simp only [step, Sys.parentStep, hnone m, hsent m hnm, isEmpty_nil, Option.isSome_none, Bool.false_eq_true,
    if_false, if_true] at hlast
  split at hlast <;> cases hlast

end OneCipher.Pipes
