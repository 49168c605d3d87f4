import OneCipher.Base.Prog

/-!
# OneCipher.Base.Session — programs over a disk that keep the list of their writes

A `Session` is the disk a program started on and the writes it has made since; the disk it sees is the
replay of these.  Each write happens whole or not at all, so the disks a crash can leave are the replays of
the prefixes of the list (`crashedAfter`).
-/

namespace OneCipher

open Prog (exec)

/-- A disk `δ` and the writes `ω` made to it. -/
structure Session (δ ω : Type) where
  start : δ
  writes : List ω

namespace Session

variable {δ ω ε α : Type}

def of (d : δ) : Session δ ω := ⟨d, []⟩

def push (s : Session δ ω) (w : ω) : Session δ ω := { s with writes := s.writes ++ [w] }

@[simp] theorem writes_push (s : Session δ ω) (w : ω) : (s.push w).writes = s.writes ++ [w] := rfl

/-- The later session has the same start and more writes. -/
structure Extends (s t : Session δ ω) : Prop where
  start : t.start = s.start
  writes : s.writes <+: t.writes

theorem Extends.refl (s : Session δ ω) : s.Extends s := ⟨rfl, List.prefix_rfl⟩

variable {s : Session δ ω}

theorem Extends.trans {t u : Session δ ω} (h : s.Extends t) (h' : t.Extends u) : s.Extends u :=
  ⟨h'.start.trans h.start, h.writes.trans h'.writes⟩

section Replay

variable (apply : δ → ω → δ)

def disk (s : Session δ ω) : δ := s.writes.foldl apply s.start

/-- The disk a crash after `k` writes leaves. -/
def crashedAfter (k : Nat) (s : Session δ ω) : δ := (s.writes.take k).foldl apply s.start

@[simp] theorem disk_push (s : Session δ ω) (w : ω) : (s.push w).disk apply = apply (s.disk apply) w := by
  rw [disk, push, List.foldl_append]
  rfl

theorem crashedAfter_of_le {k : Nat} (h : s.writes.length ≤ k) : s.crashedAfter apply k = s.disk apply := by
  rw [crashedAfter, List.take_of_length_le h]
  rfl

def look (f : δ → Outcome ε α) : Prog (Session δ ω) ε α := do
  let s ← get
  Prog.lift (f (s.disk apply))

@[simp] theorem exec_look (f : δ → Outcome ε α) (s : Session δ ω) : exec (look apply f) s = (f (s.disk apply), s) := rfl

theorem exec_look_bind_of_ok {β : Type} {f : δ → Outcome ε α} {g : α → Prog (Session δ ω) ε β} {a : α}
    (h : f (s.disk apply) = .ok a) : exec (look apply f >>= g) s = exec (g a) s :=
  Prog.exec_bind_of_ok (by rw [exec_look, h])

theorem exec_look_bind_of_error {β : Type} {f : δ → Outcome ε α} {g : α → Prog (Session δ ω) ε β} {e : Fault ε}
    (h : f (s.disk apply) = .error e) :
    exec (look apply f >>= g) s = (.error e, s) := by
  rw [Prog.exec_bind, exec_look, h]

end Replay

def perform (w : ω) : Prog (Session δ ω) ε Unit := modify (push · w)

@[simp] theorem exec_perform (w : ω) (s : Session δ ω) :
    exec (perform w : Prog (Session δ ω) ε Unit) s = (.ok (), s.push w) := rfl

theorem exec_perform_bind {β : Type} (w : ω) (g : Unit → Prog (Session δ ω) ε β) (s : Session δ ω) :
    exec (perform w >>= g) s = exec (g ()) (s.push w) :=
  Prog.exec_bind_of_ok (exec_perform w s)

end Session

end OneCipher
