import OneCipher.Base.Runs
import Mathlib.Algebra.Order.Group.Nat

/-!
# OneCipher.Extension.ConsentQueue — requests that wait for the user

`lib/consent/queue.ts`.  The methods are asynchronous and interleave at every `await`.  A step is a call up to its
first `await`, or one continuation of a call under way with what it awaited; steps come in any order.

Of an assessment only the policy is kept: the queue reads nothing else of it.
-/

namespace OneCipher.Extension.ConsentQueue

open List (filter_append)

/-! ## The queue -/

def codeUserRejected : Int := 4001

def codePolicyDenied : Int := 4300

def approvalTtlMs : Nat := 300000

inductive Decision where
  | allow | deny
  deriving DecidableEq, Repr

structure PolicyPreview where
  decision : Decision
  reasons : List String
  deriving DecidableEq, Repr

structure RpcError where
  code : Int
  message : String
  data : Option PolicyPreview := none
  deriving DecidableEq, Repr

/-- The parts of `oc-{now}-{serial}-{random}`; only the first can hold a dash. -/
structure ActionId where
  now : Nat
  serial : Nat
  random : String
  deriving DecidableEq, Repr

/-- `PendingAction`; the input is the kind, the origin, the request and its view. -/
structure Action (ι : Type) where
  id : ActionId
  input : ι
  expiresAt : Nat
  assessment : Option (Option PolicyPreview)

/-- What a call under way awaits: the window of `enqueue`, the preview of `assess`, or one of the three of `approve`. -/
inductive Stage where
  | opening | advising | validating | assessing | executing
  deriving DecidableEq, Repr

def Stage.approves (stage : Stage) : Bool := stage = .validating || stage = .assessing || stage = .executing

structure Call (ι : Type) where
  action : Action ι
  stage : Stage

inductive Settlement (ρ : Type) where
  | resolved (result : ρ)
  | rejected (error : RpcError)
  deriving DecidableEq

inductive Event (ρ : Type) where
  | approved (id : ActionId) (expiresAt now : Nat)
  | validated (id : ActionId)
  | assessed (id : ActionId) (policy : Option PolicyPreview)
  | executed (id : ActionId)
  | settled (id : ActionId) (settlement : Settlement ρ)
  | drained
  deriving DecidableEq

/-- The queue; `pending` is the map, in the order of insertion. -/
structure State (ι ρ : Type) where
  pending : List (Action ι)
  nextId : Nat
  calls : List (Call ι)
  log : List (Event ρ)

/-- A call of the queue, or the `n`-th call under way going on with what it awaited. -/
inductive Act (ι ρ : Type) where
  | enqueue (input : ι) (now now' : Nat) (random : String)
  | assess (id : ActionId)
  | approve (id : ActionId) (now : Nat)
  | decline (id : ActionId) (reason : Option String)
  | expire (id : ActionId)
  | opened (n : Nat) (r : Except String Unit)
  | advised (n : Nat) (r : Except RpcError (Option PolicyPreview))
  | validated (n : Nat) (r : Except RpcError Unit)
  | assessed (n : Nat) (r : Except RpcError (Option PolicyPreview))
  | executed (n : Nat) (r : Except RpcError ρ)

open List (Sublist)

variable {ι ρ : Type}

def State.empty : State ι ρ := ⟨[], 0, [], []⟩

def Event.about : Event ρ → Option ActionId
  | approved id _ _ => some id
  | validated id => some id
  | assessed id _ => some id
  | executed id => some id
  | settled id _ => some id
  | drained => none

def Event.isMark : Event ρ → Bool
  | settled _ _ => false
  | _ => true

def denies (policy : Option PolicyPreview) : Bool := policy.any (·.decision = .deny)

def denial (policy : Option PolicyPreview) : RpcError :=
  ⟨codePolicyDenied, (policy.bind (·.reasons.head?)).getD "denied by policy", policy⟩

namespace State

variable (s : State ι ρ)

def get (id : ActionId) : Option (Action ι) := s.pending.find? (·.id = id)

def without (id : ActionId) : List (Action ι) := s.pending.filter (·.id ≠ id)

def remove (id : ActionId) : State ι ρ :=
  { s with
    pending := s.without id
    log := s.log ++ if (s.without id).isEmpty then [.drained] else [] }

def settle (id : ActionId) (r : Settlement ρ) : State ι ρ := { s with log := s.log ++ [.settled id r] }

def begin (action : Action ι) (stage : Stage) (events : List (Event ρ)) : State ι ρ :=
  { s with calls := s.calls ++ [⟨action, stage⟩], log := s.log ++ events }

def decline (id : ActionId) (reason : Option String) : State ι ρ :=
  match s.get id with
  | none => s
  | some _ => (s.remove id).settle id (.rejected ⟨codeUserRejected, reason.getD "User rejected the request", none⟩)

/-- The `n`-th call goes on, if it awaits the given. -/
def resume (n : Nat) (stage : Stage) (k : State ι ρ → Action ι → State ι ρ) : State ι ρ :=
  match s.calls[n]? with
  | none => s
  | some c => if c.stage = stage then k { s with calls := s.calls.eraseIdx n } c.action else s

def step (ttlMs : Option Nat) : Act ι ρ → State ι ρ
  | .enqueue input now now' random =>
    let action : Action ι := ⟨⟨now, s.nextId + 1, random⟩, input, now' + ttlMs.getD approvalTtlMs, none⟩
    { s with
      nextId := s.nextId + 1
      pending := s.without action.id ++ [action]
      calls := s.calls ++ [⟨action, .opening⟩, ⟨action, .advising⟩] }
  | .assess id => match s.get id with
    | none => s
    | some action => s.begin action .advising []
  | .approve id now => match s.get id with
    | none => s
    | some action => (s.remove id).begin action .validating [.approved id action.expiresAt now]
  | .decline id reason => s.decline id reason
  | .expire id => s.decline id (some "Approval window expired")
  | .opened n r => s.resume n .opening fun s action => match r with
    | .ok () => s
    | .error e => (s.remove action.id).settle action.id
        (.rejected ⟨codeUserRejected, "Could not open the approval window: " ++ e, none⟩)
  | .advised n r => s.resume n .advising fun s action =>
    { s with pending := s.pending.map fun a =>
        if a.id = action.id then { a with assessment := some (r.toOption.join) } else a }
  | .validated n r => s.resume n .validating fun s action => match r with
    | .ok () => s.begin action .assessing [.validated action.id]
    | .error e => s.settle action.id (.rejected e)
  | .assessed n r => s.resume n .assessing fun s action => match r with
    | .ok policy =>
      if denies policy then s.settle action.id (.rejected (denial policy))
      else s.begin action .executing [.assessed action.id policy, .executed action.id]
    | .error e => s.settle action.id (.rejected e)
  | .executed n r => s.resume n .executing fun s action => match r with
    | .ok result => s.settle action.id (.resolved result)
    | .error e => s.settle action.id (.rejected e)

end State

/-! ## One request -/

/-- A request by itself: whether it is in the queue, what its calls await, and its events. -/
structure Request (ρ : Type) where
  waiting : Bool
  stages : List Stage
  log : List (Event ρ)

namespace Request

/-- What can become of request `i` in a step, when the counter of the queue goes from `n` to `m`.  Three things happen in an
untimely step only: an approval after the deadline, a window that fails while the request is being approved, and an
execution that fails as if the user had rejected it. -/
inductive Step (i : ActionId) (n m : Nat) (untimely : Prop) : Request ρ → Request ρ → Prop
  | issue {r} : n < i.serial → i.serial ≤ m → Step i n m untimely r ⟨true, r.stages ++ [.opening, .advising], r.log⟩
  | advise {r} : r.waiting = true → Step i n m untimely r ⟨r.waiting, r.stages ++ [.advising], r.log⟩
  | approve {r} {expiresAt now : Nat} : r.waiting = true → now < expiresAt ∨ untimely →
      Step i n m untimely r ⟨false, r.stages ++ [.validating], r.log ++ [.approved i expiresAt now]⟩
  | decline {r} {e : RpcError} : r.waiting = true → e.code = codeUserRejected →
      Step i n m untimely r ⟨false, r.stages, r.log ++ [.settled i (.rejected e)]⟩
  | opened {w front back l} : Step i n m untimely ⟨w, front ++ .opening :: back, l⟩ ⟨w, front ++ back, l⟩
  | unopened {w front back l} {e : RpcError} : e.code = codeUserRejected →
      (front ++ back).filter Stage.approves = [] ∨ untimely →
      Step i n m untimely ⟨w, front ++ .opening :: back, l⟩ ⟨false, front ++ back, l ++ [.settled i (.rejected e)]⟩
  | advised {w front back l} : Step i n m untimely ⟨w, front ++ .advising :: back, l⟩ ⟨w, front ++ back, l⟩
  | validated {w front back l} :
      Step i n m untimely ⟨w, front ++ .validating :: back, l⟩ ⟨w, front ++ back ++ [.assessing], l ++ [.validated i]⟩
  | refused {w front back l} {stage : Stage} {e : RpcError} : stage = .validating ∨ stage = .assessing →
      Step i n m untimely ⟨w, front ++ stage :: back, l⟩ ⟨w, front ++ back, l ++ [.settled i (.rejected e)]⟩
  | assessed {w front back l} {policy : Option PolicyPreview} : denies policy = false →
      Step i n m untimely ⟨w, front ++ .assessing :: back, l⟩
        ⟨w, front ++ back ++ [.executing], l ++ [.assessed i policy, .executed i]⟩
  | executed {w front back l} {r : Settlement ρ} : (∀ e, r = .rejected e → e.code ≠ codeUserRejected) ∨ untimely →
      Step i n m untimely ⟨w, front ++ .executing :: back, l⟩ ⟨w, front ++ back, l ++ [.settled i r]⟩

end Request

namespace State

variable {s : State ι ρ} {i j : ActionId}

/-- What there is of request `i`. -/
def request (i : ActionId) (s : State ι ρ) : Request ρ :=
  ⟨(s.get i).isSome, (s.calls.filter (·.action.id = i)).map (·.stage), s.log.filter (·.about = some i)⟩

/-- The request that a step is about. -/
def target (s : State ι ρ) : Act ι ρ → Option ActionId
  | .enqueue _ now _ random => some ⟨now, s.nextId + 1, random⟩
  | .assess id => some id
  | .approve id _ => some id
  | .decline id _ => some id
  | .expire id => some id
  | .opened n _ => s.calls[n]?.map (·.action.id)
  | .advised n _ => s.calls[n]?.map (·.action.id)
  | .validated n _ => s.calls[n]?.map (·.action.id)
  | .assessed n _ => s.calls[n]?.map (·.action.id)
  | .executed n _ => s.calls[n]?.map (·.action.id)

theorem resume_of {P : State ι ρ → Prop} {n : Nat} {stage : Stage} {k : State ι ρ → Action ι → State ι ρ} (h : P s)
    (hk : ∀ action front back, s.calls[n]? = some ⟨action, stage⟩ → s.calls = front ++ ⟨action, stage⟩ :: back →
      P (k { s with calls := front ++ back } action)) : P (s.resume n stage k) := by
  rw [resume]
  split
  · exact h
  · rename_i c hc
    split_ifs with hstage
    · obtain ⟨hn, hget⟩ := List.getElem?_eq_some_iff.mp hc
      have hsplit : s.calls = s.calls.take n ++ c :: s.calls.drop (n + 1) := by
        rw [← hget, List.getElem_cons_drop, List.take_append_drop]
      rw [List.eraseIdx_eq_take_drop_succ]
      exact hk c.action _ _ (hstage ▸ hc) (hstage ▸ hsplit)
    · exact h

/-- An approval comes before the deadline, the window does not fail while the request is being approved, and the
execution does not fail as if the user had rejected it. -/
def Timely (s : State ι ρ) : Act ι ρ → Prop
  | .approve id now => ∀ action, s.get id = some action → now < action.expiresAt
  | .opened n (.error _) => ∀ c, s.calls[n]? = some c → (s.request c.action.id).stages.filter Stage.approves = []
  | .executed _ (.error e) => e.code ≠ codeUserRejected
  | _ => True

theorem id_of_get {a : Action ι} (h : s.get j = some a) : a.id = j :=
  of_decide_eq_true (List.find?_some (p := fun b : Action ι => decide (b.id = j)) h)

theorem find?_without (i j : ActionId) : (s.without j).find? (·.id = i) = if j = i then none else s.get i := by
  rw [without, List.find?_filter]
  split_ifs with h
  · refine List.find?_eq_none.mpr fun a _ => ?_
    simp [h]
  · refine congrArg (s.pending.find? ·) (funext fun a => ?_)
    by_cases ha : a.id = i
    · simp [ha, Ne.symm h]
    · simp [ha]

theorem request_remove : request i (s.remove j) =
    ⟨if j = i then false else (request i s).waiting, (request i s).stages, (request i s).log⟩ := by
  have hlog : (s.remove j).log.filter (·.about = some i) = s.log.filter (·.about = some i) := by
    rw [remove, filter_append]
    split_ifs <;> exact List.append_nil _
  have hget : (s.remove j).get i = if j = i then none else s.get i := find?_without i j
  rw [request, hlog, hget]
  split_ifs <;> rfl

theorem request_settle (r : Settlement ρ) : request i (s.settle j r) =
    ⟨(request i s).waiting, (request i s).stages, (request i s).log ++ if j = i then [.settled i r] else []⟩ := by
  simp only [request, settle, filter_append]
  split_ifs with h
  · subst h
    simp [get, Event.about]
  · simp [get, Event.about, h]

theorem request_begin {a : Action ι} {stage : Stage} {events : List (Event ρ)} (he : ∀ e ∈ events, e.about = some a.id) :
    request i (s.begin a stage events) = if a.id = i then
      ⟨(request i s).waiting, (request i s).stages ++ [stage], (request i s).log ++ events⟩ else request i s := by
  have hevents : events.filter (·.about = some i) = if a.id = i then events else [] := by
    split_ifs with h
    · exact List.filter_eq_self.mpr fun e hmem => by simp [he e hmem, h]
    · exact List.filter_eq_nil_iff.mpr fun e hmem => by simp [he e hmem, h]
  simp only [request, begin, filter_append, List.map_append, hevents]
  split_ifs with h <;> simp [get, h]

theorem request_take {c : Call ι} {front back : List (Call ι)} (hc : s.calls = front ++ c :: back) :
    (c.action.id ≠ i → request i { s with calls := front ++ back } = request i s) ∧
      (c.action.id = i → ∃ fs bs, request i s = ⟨(request i s).waiting, fs ++ c.stage :: bs, (request i s).log⟩ ∧
        request i { s with calls := front ++ back } = ⟨(request i s).waiting, fs ++ bs, (request i s).log⟩) := by
  constructor
  · intro h
    simp [request, get, hc, h]
  · intro h
    refine ⟨(front.filter (·.action.id = i)).map (·.stage), (back.filter (·.action.id = i)).map (·.stage), ?_, ?_⟩
    · simp [request, hc, h]
    · simp [request, get]

/-- Request `i` is as it was, or the step was about it and moved it. -/
def Moves (i : ActionId) (u : Prop) (target : Option ActionId) (s t : State ι ρ) : Prop :=
  s.nextId ≤ t.nextId ∧ (request i t = request i s ∨
    target = some i ∧ Request.Step i s.nextId t.nextId u (request i s) (request i t))

theorem moves_self {u : Prop} {target : Option ActionId} : Moves i u target s s := ⟨le_rfl, .inl rfl⟩

theorem moves_decline (u : Prop) (j : ActionId) (reason : Option String) : Moves i u (some j) s (s.decline j reason) := by
  rw [State.decline]
  rcases hget : s.get j with _ | b
  · exact moves_self
  · refine ⟨le_rfl, ?_⟩
    simp only [request_settle, request_remove]
    by_cases h : j = i
    · subst h
      simp only [if_true]
      exact .inr ⟨trivial, .decline (by simp [request, hget]) rfl⟩
    · simp [h]

/-- A call that goes on is of another request, or of this one. -/
theorem moves_resume {u : Prop} {n : Nat} {stage : Stage} {k : State ι ρ → Action ι → State ι ρ}
    (hnext : ∀ t action, (k t action).nextId = t.nextId)
    (hother : ∀ t action, action.id ≠ i → request i (k t action) = request i t)
    (hown : ∀ (t : State ι ρ) action w fs bs l, s.calls[n]? = some ⟨action, stage⟩ → action.id = i →
      request i s = ⟨w, fs ++ stage :: bs, l⟩ → request i t = ⟨w, fs ++ bs, l⟩ →
      Request.Step i s.nextId s.nextId u ⟨w, fs ++ stage :: bs, l⟩ (request i (k t action))) :
    Moves i u (s.calls[n]?.map (·.action.id)) s (s.resume n stage k) := by
  refine resume_of moves_self fun action front back hget hc => ?_
  rw [Moves, hnext]
  refine ⟨le_rfl, ?_⟩
  obtain ⟨hforeign, htake⟩ := request_take (i := i) hc
  by_cases h : action.id = i
  · obtain ⟨fs, bs, hs, ht⟩ := htake h
    refine .inr ⟨by rw [hget]; exact congrArg some h, ?_⟩
    have hstep := hown _ action _ fs bs _ hget h hs ht
    rwa [← hs] at hstep
  · exact .inl ((hother _ action h).trans (hforeign h))

theorem request_advised (t : State ι ρ) (action : Action ι) (policy : Option PolicyPreview) :
    request i { t with pending := t.pending.map fun a =>
      if a.id = action.id then { a with assessment := some policy } else a } = request i t := by
  have hid : ((fun a : Action ι => decide (a.id = i)) ∘ fun a : Action ι =>
      if a.id = action.id then { a with assessment := some policy } else a) = fun a => decide (a.id = i) := by
    funext a
    simp only [Function.comp_apply]
    split_ifs <;> rfl
  simp only [request, get, List.find?_map, Option.isSome_map, hid]

/-- **The queue is its requests.**  A step is a step of the request it is about, and leaves the others alone. -/
theorem request_step (ttlMs : Option Nat) (a : Act ι ρ) : Moves i (¬ s.Timely a) (s.target a) s (s.step ttlMs a) := by
  cases a with
  | enqueue input now now' random =>
    refine ⟨Nat.le_succ _, ?_⟩
    by_cases h : (⟨now, s.nextId + 1, random⟩ : ActionId) = i
    · subst h
      refine .inr ⟨rfl, ?_⟩
      have hrequest : request ⟨now, s.nextId + 1, random⟩ (s.step ttlMs (.enqueue input now now' random)) =
          ⟨true, (request ⟨now, s.nextId + 1, random⟩ s).stages ++ [.opening, .advising],
            (request ⟨now, s.nextId + 1, random⟩ s).log⟩ := by
        simp [request, State.step, get]
      rw [hrequest]
      exact .issue (Nat.lt_succ_self _) le_rfl
    · refine .inl ?_
      simp only [request, State.step, get, List.find?_append, find?_without, if_neg h]
      simp [h]
  | assess id =>
    simp only [State.step]
    rcases hget : s.get id with _ | b
    · exact moves_self
    · obtain rfl := id_of_get hget
      refine ⟨le_rfl, ?_⟩
      rw [request_begin (List.forall_mem_nil _), List.append_nil]
      split_ifs with h
      · exact .inr ⟨congrArg some h, .advise (by simp [request, ← h, hget])⟩
      · exact .inl rfl
  | approve id =>
    simp only [State.step]
    rcases hget : s.get id with _ | b
    · exact moves_self
    · obtain rfl := id_of_get hget
      refine ⟨le_rfl, ?_⟩
      rw [request_begin (by simp [Event.about]), request_remove]
      split_ifs with h
      · subst h
        exact .inr ⟨rfl, .approve (by simp [request, hget]) (or_not_of_imp fun ht => ht b hget)⟩
      · exact .inl rfl
  | decline id reason => exact moves_decline _ id reason
  | expire id => exact moves_decline _ id _
  | opened _ r =>
    refine moves_resume (fun t action => by cases r <;> rfl) (fun t action h => ?_) fun t action w fs bs l hget h hs ht => ?_
    · cases r <;> simp [request_settle, request_remove, h]
    · rcases r with e | ⟨⟩
      · simp only [request_settle, request_remove, h, if_true, ht]
        refine .unopened rfl (or_not_of_imp fun hti => ?_)
        have hnone := hti _ hget
        rw [h, hs, filter_append] at hnone
        rwa [filter_append]
      · rw [ht]
        exact .opened
  | advised =>
    refine moves_resume (fun t action => rfl) (fun t action _ => request_advised t action _) fun t action w fs bs l _ _ _ ht => ?_
    rw [request_advised, ht]
    exact .advised
  | validated _ r =>
    refine moves_resume (fun t action => by cases r <;> rfl) (fun t action h => ?_) fun t action w fs bs l hget h hs ht => ?_
    · rcases r with e | ⟨⟩
      · simp [request_settle, h]
      · exact (request_begin (by simp [Event.about])).trans (if_neg h)
    · subst h
      rcases r with e | ⟨⟩
      · simp only [request_settle, if_true, ht]
        exact .refused (.inl rfl)
      · rw [request_begin (by simp [Event.about]), if_pos rfl, ht]
        exact .validated
  | assessed _ r =>
    refine moves_resume (fun t action => ?_) (fun t action h => ?_) fun t action w fs bs l hget h hs ht => ?_
    · rcases r with e | policy
      · rfl
      · dsimp only
        split_ifs <;> rfl
    · rcases r with e | policy
      · simp [request_settle, h]
      · dsimp only
        split_ifs
        · simp [request_settle, h]
        · exact (request_begin (by simp [Event.about])).trans (if_neg h)
    · subst h
      rcases r with e | policy
      · simp only [request_settle, if_true, ht]
        exact .refused (.inr rfl)
      · dsimp only
        split_ifs with hdeny
        · simp only [request_settle, if_true, ht]
          exact .refused (.inr rfl)
        · rw [request_begin (by simp [Event.about]), if_pos rfl, ht]
          exact .assessed (Bool.of_not_eq_true hdeny)
  | executed _ r =>
    refine moves_resume (fun t action => by cases r <;> rfl) (fun t action h => ?_) fun t action w fs bs l hget h hs ht => ?_
    · cases r <;> simp [request_settle, h]
    · rcases r with e | result <;> simp only [request_settle, h, if_true, ht]
      · refine .executed (or_not_of_imp fun hti e' he => ?_)
        cases he
        exact hti
      · exact .executed (.inl fun e he => by cases he)

end State

/-! ## Whole runs -/

namespace Request

variable {i : ActionId} {n m : Nat} {u : Prop} {r r' : Request ρ}

def isExecuted (i : ActionId) : Event ρ → Bool
  | .executed j => j = i
  | _ => false

/-- How far a request has come: whether it is in the queue, what its approval awaits, and what happened. -/
inductive Stands (i : ActionId) : Bool → List Stage → List (Event ρ) → Prop
  | queued (w : Bool) : Stands i w [] []
  | validating {stages t now} : Sublist stages [.validating] → Stands i false stages [.approved i t now]
  | assessing {stages t now} : Sublist stages [.assessing] → Stands i false stages [.approved i t now, .validated i]
  | executing {stages t now policy} : Sublist stages [.executing] → denies policy = false →
      Stands i false stages [.approved i t now, .validated i, .assessed i policy, .executed i]

def Progress (i : ActionId) (r : Request ρ) : Prop :=
  Stands i r.waiting (r.stages.filter Stage.approves) (r.log.filter Event.isMark)

theorem filter_settled (j : ActionId) (x : Settlement ρ) : [Event.settled j x].filter Event.isMark = [] := rfl

theorem of_sublist_singleton {front back : List Stage} {x y : Stage} (h : Sublist (front ++ x :: back) [y]) :
    x = y ∧ front ++ back = [] := by
  have hlen := h.length_le
  have hmem := h.subset (List.mem_append_right front List.mem_cons_self)
  rw [List.length_append, List.length_cons, List.length_singleton] at hlen
  exact ⟨List.mem_singleton.mp hmem, List.append_eq_nil_iff.mpr
    ⟨List.eq_nil_of_length_eq_zero (by omega), List.eq_nil_of_length_eq_zero (by omega)⟩⟩

section Stands

variable {w : Bool} {stages front back : List Stage} {marks : List (Event ρ)} {x : Stage}

theorem Stands.leave (h : Stands i w stages marks) : Stands i false stages marks := by
  cases h with
  | queued => exact .queued false
  | validating h => exact .validating h
  | assessing h => exact .assessing h
  | executing h hdeny => exact .executing h hdeny

theorem Stands.approve (h : Stands i true stages marks) (t now : Nat) :
    Stands i false (stages ++ [.validating]) (marks ++ [.approved i t now]) := by
  cases h with
  | queued => exact .validating (List.Sublist.refl _)

theorem Stands.drop (h : Stands i w stages marks) (hst : stages = front ++ x :: back) :
    Stands i w (front ++ back) marks := by
  cases h with
  | queued => simp at hst
  | validating h => exact .validating ((of_sublist_singleton (hst ▸ h)).2 ▸ List.nil_sublist _)
  | assessing h => exact .assessing ((of_sublist_singleton (hst ▸ h)).2 ▸ List.nil_sublist _)
  | executing h hdeny => exact .executing ((of_sublist_singleton (hst ▸ h)).2 ▸ List.nil_sublist _) hdeny

theorem Stands.validate (h : Stands i w stages marks) (hst : stages = front ++ .validating :: back) :
    Stands i w (front ++ back ++ [.assessing]) (marks ++ [.validated i]) := by
  cases h with
  | queued => simp at hst
  | validating h =>
    rw [hst] at h
    rw [(of_sublist_singleton h).2]
    exact .assessing (List.Sublist.refl _)
  | assessing h | executing h => cases (of_sublist_singleton (hst ▸ h)).1

theorem Stands.assess (h : Stands i w stages marks) (hst : stages = front ++ .assessing :: back)
    {policy : Option PolicyPreview} (hdeny : denies policy = false) :
    Stands i w (front ++ back ++ [.executing]) (marks ++ [.assessed i policy, .executed i]) := by
  cases h with
  | queued => simp at hst
  | validating h | executing h => cases (of_sublist_singleton (hst ▸ h)).1
  | assessing h =>
    rw [hst] at h
    rw [(of_sublist_singleton h).2]
    exact .executing (List.Sublist.refl _) hdeny

theorem Stands.executed (h : Stands i w stages marks) : marks.countP (isExecuted i) ≤ 1 ∧
    (.executed i ∈ marks → ∃ t now policy, denies policy = false ∧
      marks = [.approved i t now, .validated i, .assessed i policy, .executed i]) := by
  cases h with
  | queued => simp
  | validating | assessing => simp [isExecuted]
  | executing _ hdeny => exact ⟨by simp [isExecuted], fun _ => ⟨_, _, _, hdeny, rfl⟩⟩

end Stands

/-- **A step takes a request further.** -/
theorem Progress.step (h : Progress i r) (hs : Step i n m u r r') (hnew : n < i.serial → r = ⟨false, [], []⟩) :
    Progress i r' := by
  cases hs with
  | issue hn =>
    obtain rfl := hnew hn
    exact .queued true
  | approve hw =>
    rw [Progress, filter_append, filter_append]
    exact (hw ▸ h : Stands i true _ _).approve _ _
  | @validated w front back l =>
    rw [Progress, filter_append, filter_append, filter_append]
    exact Stands.validate h (filter_append _ _)
  | @assessed w front back l policy hdeny =>
    rw [Progress, filter_append, filter_append, filter_append]
    exact Stands.assess h (filter_append _ _) hdeny
  | @refused w front back l stage e hstage =>
    have happroves : Stage.approves stage = true := by rcases hstage with rfl | rfl <;> rfl
    rw [Progress, filter_append, filter_append, filter_settled, List.append_nil]
    exact Stands.drop h ((filter_append _ _).trans (by rw [List.filter_cons_of_pos happroves]))
  | @executed w front back l res _ =>
    rw [Progress, filter_append, filter_append, filter_settled, List.append_nil]
    exact Stands.drop h (filter_append _ _)
  | decline => exact (by simpa [Progress, Event.isMark] using Stands.leave h)
  | unopened => exact (by simpa [Progress, Event.isMark, Stage.approves] using Stands.leave h)
  | advise | opened | advised => simpa [Progress, Stage.approves] using h

theorem Step.waiting_or (hs : Step i n m u r r') : n < i.serial ∧ i.serial ≤ m ∨ r.waiting = true ∨ r.stages ≠ [] := by
  cases hs with
  | issue hn hm => exact .inl ⟨hn, hm⟩
  | advise hw | approve hw | decline hw => exact .inr (.inl hw)
  | _ => exact .inr (.inr (by simp))

end Request

open State Runs Request

/-- The queue after a run. -/
def queueAfter (ttlMs : Option Nat) (acts : List (Act ι ρ)) : State ι ρ := after (State.step · ttlMs) State.empty acts

/-- A request stands where the run has brought it, and one that is not yet issued is nowhere. -/
def State.Sound (s : State ι ρ) : Prop :=
  ∀ i, Progress i (s.request i) ∧ (s.nextId < i.serial → s.request i = ⟨false, [], []⟩)

theorem State.Sound.step {s : State ι ρ} (h : s.Sound) (ttlMs : Option Nat) (a : Act ι ρ) : (s.step ttlMs a).Sound := by
  intro i
  obtain ⟨hprogress, hnew⟩ := h i
  obtain ⟨hle, heq | ⟨-, hs⟩⟩ := request_step (s := s) (i := i) ttlMs a
  · rw [heq]
    exact ⟨hprogress, fun hlt => hnew (hle.trans_lt hlt)⟩
  · refine ⟨hprogress.step hs hnew, fun hlt => ?_⟩
    rcases hs.waiting_or with ⟨-, hm⟩ | hw | hst
    · exact absurd hm (not_le.mpr hlt)
    · rw [hnew (hle.trans_lt hlt)] at hw
      cases hw
    · rw [hnew (hle.trans_lt hlt)] at hst
      exact absurd rfl hst

theorem sound_empty : (State.empty : State ι ρ).Sound := fun _ => ⟨.queued false, fun _ => rfl⟩

theorem sound_after (ttlMs : Option Nat) (acts : List (Act ι ρ)) : (queueAfter ttlMs acts).Sound :=
  after_invariant (fun _ a hs => hs.step ttlMs a) sound_empty

theorem mem_request_log {s : State ι ρ} {i : ActionId} {e : Event ρ} (he : e.about = some i) :
    e ∈ (s.request i).log ↔ e ∈ s.log := by
  rw [request, List.mem_filter, he, decide_eq_true rfl]
  exact and_iff_left rfl

theorem marks_of_executed {ttlMs : Option Nat} {acts : List (Act ι ρ)} {i : ActionId}
    (h : .executed i ∈ (queueAfter ttlMs acts).log) : ∃ expiresAt now policy, denies policy = false ∧
      ((queueAfter ttlMs acts).request i).log.filter Event.isMark =
        [.approved i expiresAt now, .validated i, .assessed i policy, .executed i] :=
  (Stands.executed (sound_after ttlMs acts i).1).2 (List.mem_filter.mpr ⟨(mem_request_log rfl).mpr h, rfl⟩)

/-- **A request is executed once at most, and only after its own approval.**  In every run and for every request: there is
one execution at most; an execution comes after the one approval of the request, a validation and a policy check that does
not deny; and a step that is about another request neither removes it nor goes on with its calls nor adds an event. -/
theorem executed_once (ttlMs : Option Nat) (acts : List (Act ι ρ)) (i : ActionId) :
    (queueAfter ttlMs acts).log.countP (isExecuted i) ≤ 1 ∧
      (.executed i ∈ (queueAfter ttlMs acts).log → ∃ expiresAt now policy, denies policy = false ∧
        ((queueAfter ttlMs acts).request i).log.filter Event.isMark =
          [.approved i expiresAt now, .validated i, .assessed i policy, .executed i]) ∧
      ∀ a, (queueAfter ttlMs acts).target a ≠ some i →
        ((queueAfter ttlMs acts).step ttlMs a).request i = (queueAfter ttlMs acts).request i := by
  have hfilter : ∀ s : State ι ρ, s.log.countP (isExecuted i) =
      ((s.request i).log.filter Event.isMark).countP (isExecuted i) := by
    intro s
    rw [request, List.filter_filter, List.countP_filter]
    refine List.countP_congr fun e _ => ?_
    cases e <;> simp [isExecuted, Event.about, Event.isMark]
  refine ⟨(hfilter _).trans_le (Stands.executed (sound_after ttlMs acts i).1).1, marks_of_executed, fun a ha => ?_⟩
  exact (request_step ttlMs a).2.resolve_right fun h => ha h.1

/-! ## Deadlines and rejections -/

/-- How the promise of a request was settled: the first settlement counts. -/
def outcome (log : List (Event ρ)) : Option (Settlement ρ) :=
  log.findSome? fun
    | .settled _ r => some r
    | _ => none

def rejectedByUser : Option (Settlement ρ) → Bool
  | some (.rejected e) => e.code = codeUserRejected
  | _ => false

theorem outcome_append (l l' : List (Event ρ)) : outcome (l ++ l') = (outcome l).or (outcome l') := List.findSome?_append

namespace Request

variable {i : ActionId} {n m : Nat} {r r' : Request ρ}

/-- Once a request is rejected for the user nothing is left to do for it; what was executed is settled or about to be;
and approvals were in time. -/
structure Guarded (i : ActionId) (r : Request ρ) : Prop where
  rejected : rejectedByUser (outcome r.log) = true →
    r.waiting = false ∧ r.stages.filter Stage.approves = [] ∧ .executed i ∉ r.log
  settles : .executed i ∈ r.log → outcome r.log ≠ none ∨ .executing ∈ r.stages
  inTime : ∀ t now, .approved i t now ∈ r.log → now < t

variable {w : Bool} {stages : List Stage}

theorem guarded_of_nil : Guarded (ρ := ρ) i ⟨w, stages, []⟩ :=
  ⟨fun hrej => absurd hrej Bool.false_ne_true, fun hmem => absurd hmem List.not_mem_nil,
    fun _ _ hmem => absurd hmem List.not_mem_nil⟩

theorem Guarded.of_log (h : Guarded i r) (hw : w = true → r.waiting = true)
    (hst : stages.filter Stage.approves = r.stages.filter Stage.approves) : Guarded i ⟨w, stages, r.log⟩ where
  rejected hrej := by
    obtain ⟨hwait, hnone, hexec⟩ := h.rejected hrej
    refine ⟨Bool.of_not_eq_true fun heq => ?_, hst.trans hnone, hexec⟩
    rw [hw heq] at hwait
    cases hwait
  settles hexec := (h.settles hexec).imp_right fun hmem =>
    (List.mem_filter.mp (hst ▸ List.mem_filter.mpr ⟨hmem, rfl⟩ : .executing ∈ stages.filter Stage.approves)).1
  inTime := h.inTime

/-- A settlement, after which nothing is under way. -/
theorem Guarded.settle {x : Settlement ρ} (h : Guarded i r)
    (hx : rejectedByUser (some x) = true → outcome r.log = none → .executed i ∉ r.log)
    (hst : stages.filter Stage.approves = []) : Guarded i ⟨false, stages, r.log ++ [.settled i x]⟩ where
  rejected hrej := by
    have hout : outcome (r.log ++ [.settled i x]) = (outcome r.log).or (some x) := outcome_append _ _
    refine ⟨rfl, hst, fun hmem => ?_⟩
    have hexec : .executed i ∈ r.log := (List.mem_append.mp hmem).resolve_right (by simp)
    rw [hout] at hrej
    rcases ho : outcome r.log with _ | y
    · rw [ho] at hrej
      exact hx hrej ho hexec
    · rw [ho] at hrej
      exact (h.rejected (ho ▸ hrej)).2.2 hexec
  settles _ := .inl fun hnone => by
    rw [outcome_append] at hnone
    cases (Option.or_eq_none_iff.mp hnone).2
  inTime t now hmem := h.inTime t now ((List.mem_append.mp hmem).resolve_right (by simp))

/-- Something else than a settlement happens to a request that nobody has rejected. -/
theorem Guarded.mark {events : List (Event ρ)} (h : Guarded i r)
    (hopen : r.waiting = true ∨ r.stages.filter Stage.approves ≠ []) (hev : outcome events = none)
    (hexec : .executed i ∈ r.log ++ events → .executing ∈ stages)
    (htime : ∀ t now, .approved i t now ∈ events → now < t) : Guarded i ⟨w, stages, r.log ++ events⟩ where
  rejected hrej := by
    rw [outcome_append, hev, Option.or_none] at hrej
    obtain ⟨hwait, hnone, -⟩ := h.rejected hrej
    rcases hopen with hopen | hopen
    · rw [hopen] at hwait
      cases hwait
    · exact absurd hnone hopen
  settles hmem := .inr (hexec hmem)
  inTime t now hmem := (List.mem_append.mp hmem).elim (h.inTime t now) (htime t now)

theorem Stands.underWay {front back : List Stage} {marks : List (Event ρ)} {x : Stage} (h : Stands i w stages marks)
    (hst : stages = front ++ x :: back) :
    w = false ∧ front ++ back = [] ∧ (x ≠ .executing → .executed i ∉ marks) := by
  cases h with
  | queued => simp at hst
  | validating h | assessing h => exact ⟨rfl, (of_sublist_singleton (hst ▸ h)).2, fun _ => by simp⟩
  | executing h =>
    obtain ⟨hx, hnil⟩ := of_sublist_singleton (hst ▸ h)
    exact ⟨rfl, hnil, fun hne => absurd hx hne⟩

theorem Progress.underWay {front back : List Stage} {l : List (Event ρ)} {x : Stage}
    (h : Progress i ⟨w, front ++ x :: back, l⟩) (hx : x.approves = true) :
    w = false ∧ (front ++ back).filter Stage.approves = [] ∧ (x ≠ .executing → .executed i ∉ l) := by
  have hst : (front ++ x :: back).filter Stage.approves =
      front.filter Stage.approves ++ x :: back.filter Stage.approves := by
    rw [filter_append, List.filter_cons_of_pos hx]
  obtain ⟨hw, hnil, hexec⟩ := Stands.underWay h hst
  exact ⟨hw, (filter_append _ _).trans hnil, fun hne hmem => hexec hne (List.mem_filter.mpr ⟨hmem, rfl⟩)⟩

theorem Progress.of_waiting (h : Progress i r) (hw : r.waiting = true) :
    r.stages.filter Stage.approves = [] ∧ .executed i ∉ r.log := by
  have hstands : Stands i true (r.stages.filter Stage.approves) (r.log.filter Event.isMark) := hw ▸ h
  generalize hst : r.stages.filter Stage.approves = stages at hstands ⊢
  generalize hl : r.log.filter Event.isMark = marks at hstands
  cases hstands with
  | queued =>
    refine ⟨rfl, fun hmem => ?_⟩
    have hmark : .executed i ∈ r.log.filter Event.isMark := List.mem_filter.mpr ⟨hmem, rfl⟩
    rw [hl] at hmark
    cases hmark

/-- **A timely step keeps deadlines and rejections.** -/
theorem Guarded.step (h : Guarded i r) (hp : Progress i r) (hs : Step i n m False r r')
    (hnew : n < i.serial → r = ⟨false, [], []⟩) : Guarded i r' := by
  have hsub : ∀ {front back : List Stage} {x : Stage}, x.approves = false →
      (front ++ back).filter Stage.approves = (front ++ x :: back).filter Stage.approves := by
    intro front back x hx
    rw [filter_append, filter_append, List.filter_cons_of_neg (by rw [hx]; exact Bool.false_ne_true)]
  have hopen : ∀ {front back : List Stage} {x : Stage}, x.approves = true →
      (front ++ x :: back).filter Stage.approves ≠ [] := by
    intro front back x hx
    rw [filter_append, List.filter_cons_of_pos hx]
    simp
  cases hs with
  | issue hn =>
    obtain rfl := hnew hn
    exact guarded_of_nil
  | advise hw => exact h.of_log (fun _ => hw) (by simp [Stage.approves])
  | @approve _ expiresAt now hw htime =>
    refine h.mark (.inl hw) rfl (fun hmem => ?_) fun t now' hmem => ?_
    · exact absurd ((List.mem_append.mp hmem).resolve_right (by simp)) (hp.of_waiting hw).2
    · obtain ⟨rfl, rfl⟩ : t = expiresAt ∧ now' = now := by simpa using hmem
      exact htime.resolve_right not_false
  | decline hw => exact h.settle (fun _ _ => (hp.of_waiting hw).2) (hp.of_waiting hw).1
  | opened | advised => exact h.of_log id (hsub rfl)
  | @unopened w front back l e _ hcalm =>
    have hnone := hcalm.resolve_right not_false
    refine h.settle (fun _ hout hmem => ?_) hnone
    rcases h.settles hmem with hsome | hexec
    · exact hsome hout
    · have hmem : .executing ∈ (front ++ .opening :: back).filter Stage.approves := List.mem_filter.mpr ⟨hexec, rfl⟩
      rw [← hsub rfl, hnone] at hmem
      cases hmem
  | @validated w front back l =>
    obtain ⟨-, -, hexec⟩ := hp.underWay rfl
    refine h.mark (.inr (hopen rfl)) rfl (fun hmem => ?_) (by simp)
    exact absurd ((List.mem_append.mp hmem).resolve_right (by simp)) (hexec (by decide))
  | @assessed w front back l policy _ =>
    exact h.mark (.inr (hopen rfl)) rfl (fun _ => by simp) (by simp)
  | @refused w front back l x e hx =>
    have happroves : x.approves = true := by rcases hx with rfl | rfl <;> rfl
    obtain ⟨rfl, hnil, hexec⟩ := hp.underWay happroves
    exact h.settle (fun _ _ => hexec (by rcases hx with rfl | rfl <;> decide)) hnil
  | @executed w front back l x hcode =>
    obtain ⟨rfl, hnil, -⟩ := hp.underWay rfl
    refine h.settle (fun hrej => ?_) hnil
    cases x with
    | resolved => cases hrej
    | rejected e => exact absurd (of_decide_eq_true hrej) (hcode.resolve_right not_false e rfl)

end Request

/-- Every step of the run is timely. -/
def TimelyRun (ttlMs : Option Nat) (acts : List (Act ι ρ)) : Prop :=
  Along (State.step · ttlMs) State.Timely State.empty acts

theorem guarded_after {ttlMs : Option Nat} {acts : List (Act ι ρ)} (h : TimelyRun ttlMs acts) (i : ActionId) :
    Guarded i ((queueAfter ttlMs acts).request i) := by
  refine (along_invariant (I := fun s => s.Sound ∧ ∀ i, Guarded i (s.request i)) (fun s a ha hs => ?_)
    ⟨sound_empty, fun _ => guarded_of_nil⟩ h).2 i
  refine ⟨hs.1.step ttlMs a, fun j => ?_⟩
  obtain ⟨-, heq | ⟨-, hstep⟩⟩ := request_step (s := s) (i := j) ttlMs a
  · rw [heq]
    exact hs.2 j
  · rw [eq_false (not_not_intro ha)] at hstep
    exact (hs.2 j).step (hs.1 j).1 hstep (hs.1 j).2

/-- **Deadlines and rejections, in timely runs.**  A request is executed only if it was approved before its deadline, and a
request whose promise is rejected for the user is not executed, neither before nor after. -/
theorem timely_runs {ttlMs : Option Nat} {acts : List (Act ι ρ)} (h : TimelyRun ttlMs acts) (i : ActionId) :
    (.executed i ∈ (queueAfter ttlMs acts).log →
        ∃ expiresAt now, .approved i expiresAt now ∈ (queueAfter ttlMs acts).log ∧ now < expiresAt) ∧
      (rejectedByUser (outcome ((queueAfter ttlMs acts).request i).log) = true →
        .executed i ∉ (queueAfter ttlMs acts).log) := by
  have hg := guarded_after h i
  refine ⟨fun hexec => ?_, fun hrej hexec => (hg.rejected hrej).2.2 ((mem_request_log rfl).mpr hexec)⟩
  obtain ⟨t, now, policy, -, hmarks⟩ := marks_of_executed hexec
  have happroved : .approved i t now ∈ ((queueAfter ttlMs acts).request i).log :=
    (List.mem_filter.mp (hmarks ▸ List.mem_cons_self)).1
  exact ⟨t, now, (mem_request_log rfl).mp happroved, hg.inTime t now happroved⟩

/-- The one request of the runs below. -/
def firstId : ActionId := ⟨0, 1, "k3x9q2"⟩

def approvedAt (now : Nat) (rest : List (Act Unit Unit)) : List (Act Unit Unit) :=
  .enqueue () 0 0 "k3x9q2" :: .approve firstId now :: rest

theorem timely_runs_first : .executed firstId ∈
      (queueAfter none (approvedAt 5 [.validated 2 (.ok ()), .assessed 2 (.ok none)])).log ∧
    ∃ expiresAt now, .approved firstId expiresAt now ∈
      (queueAfter none (approvedAt 5 [.validated 2 (.ok ()), .assessed 2 (.ok none)])).log ∧ now < expiresAt := by
  have h : .executed firstId ∈
      (queueAfter none (approvedAt 5 [.validated 2 (.ok ()), .assessed 2 (.ok none)])).log := by decide
  have htimely : TimelyRun none (approvedAt 5 [.validated 2 (.ok ()), .assessed 2 (.ok none)]) := by
    refine ⟨trivial, fun action ha => ?_, trivial, trivial, trivial⟩
    cases ha
    decide
  exact ⟨h, (timely_runs htimely firstId).1 h⟩

/-- **Executed after the deadline, and after a rejection.**  With the timer late, a request is approved one millisecond
after its deadline and executed; and a request whose window fails while it is being validated is rejected and then
executed. -/
theorem executed_late_or_rejected :
    (.approved firstId 300000 300001 ∈
        (queueAfter none (approvedAt 300001 [.validated 2 (.ok ()), .assessed 2 (.ok none)])).log ∧
      .executed firstId ∈ (queueAfter none (approvedAt 300001 [.validated 2 (.ok ()), .assessed 2 (.ok none)])).log) ∧
    (rejectedByUser (outcome ((queueAfter none (approvedAt 5 [.opened 0 (.error "no window"), .validated 1 (.ok ()),
        .assessed 1 (.ok none)])).request firstId).log) = true ∧
      .executed firstId ∈ (queueAfter none (approvedAt 5 [.opened 0 (.error "no window"), .validated 1 (.ok ()),
        .assessed 1 (.ok none)])).log) := by
  decide

end OneCipher.Extension.ConsentQueue
