import Mathlib.Data.List.Chain
import OneCipher.Base.Runs
import OneCipher.Ocwp.State

/-!
# OneCipher.Ocwp.SessionRuns — how long an unlocked session lasts

The remaining operations of `SessionStore` (`wallet_rpc/ocwp/session.rs`), the handlers `handle_lock` and
`handle_session_status`, and runs of them.  A `Life` records, beside the store, when a session was created and when
its own origin used it.
-/

namespace OneCipher.Ocwp

open Runs AList List

def u64Max : Nat := 2 ^ 64 - 1

/-- The session was unlocked by another origin, or by none. -/
def SessionEntry.Foreign (entry : SessionEntry) (origin : String) : Prop :=
  entry.origin = "" ∨ Text.eqIgnoreAsciiCase entry.origin origin = false

instance (entry : SessionEntry) (origin : String) : Decidable (entry.Foreign origin) :=
  inferInstanceAs (Decidable (_ ∨ _))

/-- Neither lifetime has run out. -/
def SessionEntry.Live (idleSecs t : Nat) (entry : SessionEntry) : Prop :=
  t < entry.expiresAt ∧ t - entry.lastActivity < idleSecs

/-! ## The operations -/

namespace SessionStore

/-- `create`, with the session id that was drawn. -/
def create (now : Nat) (sessionId wallet walletId : String) (index : Nat) (passphrase : String)
    (policyIds : List String) (origin : String) (s : SessionStore) : SessionStore :=
  let entry := ⟨sessionId, wallet, walletId, index, passphrase, policyIds, origin, now,
    min (now + s.settings.ttlSecs) u64Max, now⟩
  { s with sessions := s.sessions.insert sessionId entry }

/-- `lock`: whether there was such a session. -/
def lock (sessionId : String) (s : SessionStore) : Bool × SessionStore :=
  ((s.sessions.lookup sessionId).isSome, { s with sessions := s.sessions.erase sessionId })

/-- `handle_lock`. -/
def handleLock (now : Nat) (sessionId origin : String) (s : SessionStore) : Except OcwpError Unit × SessionStore :=
  match s.touch now sessionId with
  | (.ok entry, s) =>
    if entry.Foreign origin then (.error (.unauthorized "session was not unlocked by this extension origin"), s)
    else (.ok (), (s.lock sessionId).2)
  | (.error _, s) => (.ok (), (s.lock sessionId).2)

/-- `handle_session_status`. -/
def handleSessionStatus (now : Nat) (sessionId origin : String) (s : SessionStore) : Json × SessionStore :=
  match s.touchForOrigin now sessionId origin with
  | (.ok entry, s) => (.obj [("unlocked", .bool true), ("wallet_id", .str entry.walletId),
      ("expires_at_unix", .num (.posInt (UInt64.ofNat entry.expiresAt)))], s)
  | (.error _, s) => (.obj [("unlocked", .bool false)], s)

end SessionStore

/-- One operation of a run. -/
inductive SessionOp where
  | create (sessionId wallet walletId : String) (index : Nat) (passphrase : String) (policyIds : List String)
      (origin : String) (now : Nat)
  | touchForOrigin (sessionId origin : String) (now : Nat)
  | status (sessionId origin : String) (now : Nat)
  | lockRequest (sessionId origin : String) (now : Nat)
  | lock (sessionId : String)

namespace SessionOp

def time : SessionOp → Option Nat
  | .create _ _ _ _ _ _ _ now | .touchForOrigin _ _ now | .status _ _ now | .lockRequest _ _ now => some now
  | .lock _ => none

def request : SessionOp → Option (String × String × Nat)
  | .touchForOrigin id origin now | .status id origin now | .lockRequest id origin now => some (id, origin, now)
  | .create _ _ _ _ _ _ _ _ | .lock _ => none

def target : SessionOp → String
  | .create id _ _ _ _ _ _ _ | .touchForOrigin id _ _ | .status id _ _ | .lockRequest id _ _ | .lock id => id

end SessionOp

def SessionStore.step (s : SessionStore) : SessionOp → SessionStore
  | .create id wallet walletId index passphrase policyIds origin now =>
    s.create now id wallet walletId index passphrase policyIds origin
  | .touchForOrigin id origin now => (s.touchForOrigin now id origin).2
  | .status id origin now => (s.handleSessionStatus now id origin).2
  | .lockRequest id origin now => (s.handleLock now id origin).2
  | .lock id => (s.lock id).2

/-- When a session was created, and when its own origin used it. -/
structure Life where
  createdAt : Nat
  uses : List Nat

namespace Life

def use (now : Nat) (life : Life) : Life := { life with uses := life.uses ++ [now] }

def times (life : Life) : List Nat := life.createdAt :: life.uses

def lastUse (life : Life) : Nat := life.uses.getLast?.getD life.createdAt

end Life

/-- The life of the session `id` after an operation; a locked session has none. -/
def lifeStep (id : String) (s : SessionStore) (life : Option Life) : SessionOp → Option Life
  | .create id' _ _ _ _ _ _ now => if id' = id then some ⟨now, []⟩ else life
  | .touchForOrigin id' origin now | .status id' origin now =>
    if id' = id ∧ (s.touchForOrigin now id' origin).1.isOk then life.map (Life.use now) else life
  | .lockRequest id' origin now => if id' = id ∧ (s.handleLock now id' origin).1.isOk then none else life
  | .lock id' => if id' = id then none else life

/-! ## The store and the life along a run -/

def SessionStore.new (settings : SessionSettings) : SessionStore := ⟨∅, settings⟩

variable (settings : SessionSettings)

def SessionStore.afterOps (ops : List SessionOp) : SessionStore := after step (new settings) ops

def lifeAfter (id : String) (ops : List SessionOp) : Option Life :=
  (after (fun p op => (SessionStore.step p.1 op, lifeStep id p.1 p.2 op)) (SessionStore.new settings, none) ops).2

/-- Some origin's request for the session succeeds at a time. -/
def SessionStore.UsableAt (s : SessionStore) (id : String) (t : Nat) : Prop :=
  ∃ origin entry, (s.touchForOrigin t id origin).1 = .ok entry

/-- A usable session is not locked, it is within its absolute lifetime, and its own origin never stayed away for
the idle timeout. -/
def WithinLimits (id : String) (t : Nat) (ops : List SessionOp) : Prop :=
  ∃ life, lifeAfter settings id ops = some life ∧ t < life.createdAt + settings.ttlSecs ∧
    (life.times ++ [t]).IsChain fun a b => b - a < settings.idleSecs

/-- A request of an origin that the session is not for changes nothing about when it expires. -/
def Unmoved (ops : List SessionOp) (op : SessionOp) : Prop :=
  ∀ id id' origin now, op.request = some (id', origin, now) →
    (∀ entry, (SessionStore.afterOps settings ops).sessions.lookup id = some entry → entry.Foreign origin) →
    ∀ t, now ≤ t → ((SessionStore.afterOps settings (ops ++ [op])).UsableAt id t ↔
      (SessionStore.afterOps settings ops).UsableAt id t)

/-- All along the run, sessions keep their limits and foreign requests move nothing. -/
def SessionsHold (ops : List SessionOp) : Prop :=
  (∀ pre post, ops = pre ++ post → ∀ id t, (∀ u ∈ pre.filterMap SessionOp.time, u ≤ t) →
    (SessionStore.afterOps settings pre).UsableAt id t → WithinLimits settings id t pre) ∧
  ∀ pre op post, ops = pre ++ op :: post → Unmoved settings pre op

/-- A foreign request that reaches a live session comes in the second of its last activity, or at a time when the
absolute lifetime ends first anyway. -/
def ForeignHarmless (ops : List SessionOp) : Prop :=
  ∀ pre op post, ops = pre ++ op :: post → ∀ id origin now entry, op.request = some (id, origin, now) →
    (SessionStore.afterOps settings pre).sessions.lookup id = some entry → entry.origin ≠ "" →
    entry.Foreign origin → entry.Live settings.idleSecs now →
    entry.lastActivity = now ∨ entry.expiresAt ≤ entry.lastActivity + settings.idleSecs

/-! ## What one operation does -/

variable {post pre : List SessionOp} {now : Nat} {entry : SessionEntry} {op : SessionOp} {id origin : String}

namespace SessionStore

variable {s : SessionStore} {id : String}

theorem touch_of_lookup_none (h : s.sessions.lookup id = none) :
    s.touch now id = (.error (.unauthorized "unknown or expired session"), s) := by
  unfold touch
  rw [h]

theorem touch_of_not_live (h : s.sessions.lookup id = some entry) (hlive : ¬ entry.Live s.settings.idleSecs now) :
    s.touch now id = (.error (.unauthorized "session expired"), { s with sessions := s.sessions.erase id }) := by
  have hover : now ≥ entry.expiresAt ∨ now - entry.lastActivity ≥ s.settings.idleSecs := by
    unfold SessionEntry.Live at hlive
    omega
  unfold touch
  simp only [h]
  rw [if_pos hover]

theorem touch_of_live (h : s.sessions.lookup id = some entry) (hlive : entry.Live s.settings.idleSecs now) :
    s.touch now id = (.ok { entry with lastActivity := now },
      { s with sessions := s.sessions.insert id { entry with lastActivity := now } }) := by
  have hover : ¬ (now ≥ entry.expiresAt ∨ now - entry.lastActivity ≥ s.settings.idleSecs) := by
    obtain ⟨h₁, h₂⟩ := hlive
    omega
  unfold touch
  simp only [h]
  rw [if_neg hover]

theorem touchForOrigin_snd (now : Nat) (origin : String) : (s.touchForOrigin now id origin).2 = (s.touch now id).2 := by
  unfold touchForOrigin
  rcases s.touch now id with ⟨_ | entry, s'⟩
  · rfl
  · dsimp only
    split <;> rfl

theorem handleSessionStatus_snd (now : Nat) (origin : String) :
    (s.handleSessionStatus now id origin).2 = (s.touch now id).2 := by
  rw [← touchForOrigin_snd now origin]
  unfold handleSessionStatus
  rcases s.touchForOrigin now id origin with ⟨_ | entry, s'⟩ <;> rfl

theorem touchForOrigin_eq_ok {e : SessionEntry} :
    (s.touchForOrigin now id origin).1 = .ok e ↔
      ∃ entry, s.sessions.lookup id = some entry ∧ entry.Live s.settings.idleSecs now ∧ ¬ entry.Foreign origin ∧
        e = { entry with lastActivity := now } := by
  unfold touchForOrigin
  cases h : s.sessions.lookup id with
  | none =>
    rw [touch_of_lookup_none h]
    simp
  | some entry =>
    by_cases hlive : entry.Live s.settings.idleSecs now
    · rw [touch_of_live h hlive]
      by_cases hf : entry.Foreign origin
      · have hf' := hf
        unfold SessionEntry.Foreign at hf'
        simp [hf, hf']
      · have hf' := hf
        unfold SessionEntry.Foreign at hf'
        simp only [if_neg hf', Except.ok.injEq, Option.some.injEq, exists_eq_left']
        exact ⟨fun h => ⟨hlive, hf, h.symm⟩, fun h => h.2.2.symm⟩
    · rw [touch_of_not_live h hlive]
      simp [hlive]

theorem isOk_touchForOrigin (h : s.sessions.lookup id = some entry) :
    (s.touchForOrigin now id origin).1.isOk = true ↔ entry.Live s.settings.idleSecs now ∧ ¬ entry.Foreign origin := by
  cases hr : (s.touchForOrigin now id origin).1 with
  | ok =>
    obtain ⟨entry', he, hlive, hf, -⟩ := touchForOrigin_eq_ok.mp hr
    obtain rfl := Option.some.inj (h.symm.trans he)
    exact ⟨fun _ => ⟨hlive, hf⟩, fun _ => rfl⟩
  | error =>
    refine ⟨fun h => absurd h (by simp [Except.isOk, Except.toBool]), fun ⟨hlive, hf⟩ => ?_⟩
    rw [touchForOrigin_eq_ok.mpr ⟨entry, h, hlive, hf, rfl⟩] at hr
    cases hr

theorem usableAt_iff {t : Nat} :
    s.UsableAt id t ↔
      ∃ entry, s.sessions.lookup id = some entry ∧ entry.origin ≠ "" ∧ entry.Live s.settings.idleSecs t := by
  constructor
  · rintro ⟨origin, e, h⟩
    obtain ⟨entry, hl, hlive, hf, -⟩ := touchForOrigin_eq_ok.mp h
    exact ⟨entry, hl, fun ho => hf (.inl ho), hlive⟩
  · rintro ⟨entry, hl, ho, hlive⟩
    refine ⟨entry.origin, _, touchForOrigin_eq_ok.mpr ⟨entry, hl, hlive, ?_, rfl⟩⟩
    rintro (h | h)
    · exact ho h
    · simp [Text.eqIgnoreAsciiCase] at h

theorem handleLock_of_foreign (h : s.sessions.lookup id = some entry) (hlive : entry.Live s.settings.idleSecs now)
    (hf : entry.Foreign origin) :
    s.handleLock now id origin =
      (.error (.unauthorized "session was not unlocked by this extension origin"), (s.touch now id).2) := by
  unfold handleLock
  rw [touch_of_live h hlive]
  exact if_pos hf

theorem handleLock_of_not_foreign
    (h : ∀ entry, s.sessions.lookup id = some entry → entry.Live s.settings.idleSecs now → ¬ entry.Foreign origin) :
    s.handleLock now id origin = (.ok (), ((s.touch now id).2.lock id).2) := by
  unfold handleLock
  cases hl : s.sessions.lookup id with
  | none => rw [touch_of_lookup_none hl]
  | some entry =>
    by_cases hlive : entry.Live s.settings.idleSecs now
    · rw [touch_of_live hl hlive]
      exact if_neg (h entry hl hlive)
    · rw [touch_of_not_live hl hlive]

theorem handleLock_snd (now : Nat) (origin : String) :
    (s.handleLock now id origin).2 = (s.touch now id).2 ∨
      (s.handleLock now id origin).2 = ((s.touch now id).2.lock id).2 := by
  by_cases h : ∃ entry, s.sessions.lookup id = some entry ∧ entry.Live s.settings.idleSecs now ∧ entry.Foreign origin
  · obtain ⟨entry, hl, hlive, hf⟩ := h
    exact .inl (congrArg Prod.snd (handleLock_of_foreign hl hlive hf))
  · push Not at h
    exact .inr (congrArg Prod.snd (handleLock_of_not_foreign h))

/-- A request is a use of the session or a request to lock it. -/
theorem use_or_lockRequest (hreq : op.request = some (id, origin, now)) :
    (s.step op = (s.touch now id).2 ∧ ∀ life, lifeStep id s life op =
      if (s.touchForOrigin now id origin).1.isOk then life.map (Life.use now) else life) ∨
      op = .lockRequest id origin now := by
  cases op with
  | create | lock => cases hreq
  | touchForOrigin =>
    cases hreq
    exact .inl ⟨touchForOrigin_snd now origin, fun _ => by simp [lifeStep]⟩
  | status =>
    cases hreq
    exact .inl ⟨handleSessionStatus_snd now origin, fun _ => by simp [lifeStep]⟩
  | lockRequest =>
    cases hreq
    exact .inr rfl

theorem step_of_request (hreq : op.request = some (id, origin, now)) :
    s.step op = (s.touch now id).2 ∨ s.step op = ((s.touch now id).2.lock id).2 := by
  rcases use_or_lockRequest (s := s) hreq with ⟨h, -⟩ | rfl
  · exact .inl h
  · exact handleLock_snd now origin

theorem settings_touch (now : Nat) : (s.touch now id).2.settings = s.settings := by
  unfold touch
  split
  · rfl
  · split <;> rfl

theorem settings_step_of_request (hreq : op.request = some (id, origin, now)) : (s.step op).settings = s.settings := by
  rcases step_of_request (s := s) hreq with h | h
  · rw [h, settings_touch]
  · rw [h]
    exact settings_touch now

theorem settings_step (op : SessionOp) : (s.step op).settings = s.settings := by
  cases op with
  | create | lock => rfl
  | touchForOrigin | status | lockRequest => exact settings_step_of_request rfl

theorem lookup_touch_of_ne {id' : String} (now : Nat) (hne : id ≠ id') :
    (s.touch now id').2.sessions.lookup id = s.sessions.lookup id := by
  cases h : s.sessions.lookup id' with
  | none => rw [touch_of_lookup_none h]
  | some entry =>
    by_cases hlive : entry.Live s.settings.idleSecs now
    · rw [touch_of_live h hlive]
      exact lookup_insert_ne hne
    · rw [touch_of_not_live h hlive]
      exact lookup_erase_ne hne

theorem lookup_step_of_request_ne {id' : String} (hreq : op.request = some (id', origin, now)) (hne : id ≠ id') :
    (s.step op).sessions.lookup id = s.sessions.lookup id := by
  rcases step_of_request (s := s) hreq with h | h
  · rw [h, lookup_touch_of_ne now hne]
  · rw [h]
    exact (lookup_erase_ne hne).trans (lookup_touch_of_ne now hne)

theorem lookup_step_of_ne (hne : id ≠ op.target) : (s.step op).sessions.lookup id = s.sessions.lookup id := by
  cases op with
  | create => exact lookup_insert_ne hne
  | touchForOrigin | status | lockRequest => exact lookup_step_of_request_ne rfl hne
  | lock => exact lookup_erase_ne hne

theorem lookup_touch (now : Nat) (h : s.sessions.lookup id = some entry) (hlive : entry.Live s.settings.idleSecs now) :
    (s.touch now id).2.sessions.lookup id = some { entry with lastActivity := now } := by
  rw [touch_of_live h hlive]
  exact lookup_insert _

theorem lookup_step_of_not_live (hreq : op.request = some (id, origin, now))
    (h : ∀ entry, s.sessions.lookup id = some entry → ¬ entry.Live s.settings.idleSecs now) :
    (s.step op).sessions.lookup id = none := by
  have htouch : (s.touch now id).2.sessions.lookup id = none := by
    cases hl : s.sessions.lookup id with
    | none => rw [touch_of_lookup_none hl, hl]
    | some entry =>
      rw [touch_of_not_live hl (h entry hl)]
      exact lookup_erase _ _
  rcases step_of_request (s := s) hreq with hstep | hstep
  · rw [hstep, htouch]
  · rw [hstep]
    exact lookup_erase _ _

/-- **A foreign request moves the last activity**, whatever it is answered. -/
theorem lookup_step_of_foreign (hreq : op.request = some (id, origin, now)) (h : s.sessions.lookup id = some entry)
    (hlive : entry.Live s.settings.idleSecs now) (hf : entry.Foreign origin) :
    (s.step op).sessions.lookup id = some { entry with lastActivity := now } := by
  have htouch := lookup_touch now h hlive
  rcases use_or_lockRequest (s := s) hreq with ⟨hstep, -⟩ | rfl
  · rw [hstep, htouch]
  · exact (congrArg (·.2.sessions.lookup id) (handleLock_of_foreign h hlive hf)).trans htouch

/-- **What a request leaves of its session**: the entry was live and is active now, and the request was a use if it came
from the session's own origin. -/
theorem request_cases {e : SessionEntry} (hreq : op.request = some (id, origin, now))
    (he : (s.step op).sessions.lookup id = some e) :
    ∃ entry, s.sessions.lookup id = some entry ∧ entry.Live s.settings.idleSecs now ∧
      e = { entry with lastActivity := now } ∧ ∀ life, lifeStep id s life op =
        if entry.Foreign origin then life else life.map (Life.use now) := by
  obtain ⟨entry, hl, hlive⟩ : ∃ entry, s.sessions.lookup id = some entry ∧ entry.Live s.settings.idleSecs now := by
    by_contra hno
    push Not at hno
    rw [lookup_step_of_not_live hreq hno] at he
    cases he
  refine ⟨entry, hl, hlive, ?_⟩
  rcases use_or_lockRequest (s := s) hreq with ⟨hstep, hlife⟩ | rfl
  · rw [hstep, lookup_touch now hl hlive] at he
    cases he
    refine ⟨rfl, fun life => ?_⟩
    simp only [hlife, isOk_touchForOrigin hl, and_iff_right hlive, ite_not]
  · by_cases hf : entry.Foreign origin
    · have hlock := handleLock_of_foreign hl hlive hf
      have hstep : s.step (.lockRequest id origin now) = (s.touch now id).2 := congrArg Prod.snd hlock
      rw [hstep, lookup_touch now hl hlive] at he
      cases he
      refine ⟨rfl, fun life => ?_⟩
      rw [lifeStep, hlock, if_pos hf]
      exact if_neg fun hok => Bool.false_ne_true hok.2
    · -- an own request locks the session
      have hlock : s.handleLock now id origin = (.ok (), ((s.touch now id).2.lock id).2) :=
        handleLock_of_not_foreign fun entry' h' _ => by rwa [← Option.some.inj (hl.symm.trans h')]
      cases (lookup_erase _ _).symm.trans ((congrArg (·.2.sessions.lookup id) hlock).symm.trans he)

end SessionStore

/-! ## What one operation does to a life -/

theorem lifeStep_of_ne {s : SessionStore} {life : Option Life} (hne : id ≠ op.target) :
    lifeStep id s life op = life := by
  cases op with
  | create | lock => exact if_neg (Ne.symm hne)
  | touchForOrigin | status | lockRequest => exact if_neg fun h => hne h.1.symm

/-! ## The life that an entry has behind it -/

/-- An entry and the life of its session agree: nothing but uses of its own moved its expiry. -/
structure Tracks (entry : SessionEntry) (life : Life) : Prop where
  expires : entry.expiresAt ≤ life.createdAt + settings.ttlSecs
  chain : life.times.IsChain fun a b => b - a < settings.idleSecs
  recent : life.lastUse ≤ entry.lastActivity
  slack : entry.lastActivity = life.lastUse ∨ entry.expiresAt ≤ life.lastUse + settings.idleSecs

namespace Tracks

variable {settings : SessionSettings} {entry : SessionEntry} {life : Life} {now : Nat}

theorem gap (h : Tracks settings entry life) (hlive : entry.Live settings.idleSecs now) :
    (life.times ++ [now]).IsChain fun a b => b - a < settings.idleSecs := by
  refine isChain_append.mpr ⟨h.chain, isChain_singleton now, ?_⟩
  intro a ha b hb
  obtain rfl : now = b := Option.some.inj hb
  have hlast : life.lastUse = a := by
    rw [Life.times, List.getLast?_cons] at ha
    exact Option.some.inj ha
  obtain ⟨h₁, h₂⟩ := hlive
  rcases h.slack with hs | hs <;> omega

theorem use (h : Tracks settings entry life) (hlive : entry.Live settings.idleSecs now) :
    Tracks settings { entry with lastActivity := now } (life.use now) where
  expires := h.expires
  chain := h.gap hlive
  recent := by simp [Life.use, Life.lastUse]
  slack := .inl (by simp [Life.use, Life.lastUse])

end Tracks

/-! ## Runs -/

variable {settings : SessionSettings} {ops : List SessionOp}

namespace SessionStore

variable {s : SessionStore} {id : String}

theorem afterOps_snoc (ops : List SessionOp) (op : SessionOp) :
    afterOps settings (ops ++ [op]) = (afterOps settings ops).step op := after_snoc ops op

theorem settings_afterOps : (afterOps settings ops).settings = settings :=
  after_invariant (I := fun s : SessionStore => s.settings = settings) (fun _ op h => (settings_step op).trans h) rfl

theorem lastActivity_step {e : SessionEntry} (h : (s.step op).sessions.lookup id = some e) :
    s.sessions.lookup id = some e ∨ op.time = some e.lastActivity := by
  by_cases hne : id = op.target
  · subst hne
    have hrequest : ∀ origin now, op.request = some (op.target, origin, now) → e.lastActivity = now := by
      intro origin now hreq
      obtain ⟨entry, -, -, rfl, -⟩ := request_cases hreq h
      rfl
    cases op with
    | create =>
      obtain rfl := Option.some.inj ((lookup_insert _).symm.trans h)
      exact .inr rfl
    | touchForOrigin _ origin now | status _ origin now => exact .inr (congrArg some (hrequest origin now rfl).symm)
    | lockRequest _ origin now => exact .inr (congrArg some (hrequest origin now rfl).symm)
    | lock => cases (lookup_erase _ _).symm.trans h
  · rw [lookup_step_of_ne hne] at h
    exact .inl h

theorem lastActivity_mem {e : SessionEntry} (h : (afterOps settings ops).sessions.lookup id = some e) :
    e.lastActivity ∈ ops.filterMap SessionOp.time := by
  induction ops using List.reverseRecOn with
  | nil => cases h
  | append_singleton _ op ih =>
    rw [afterOps_snoc] at h
    rw [filterMap_append]
    rcases lastActivity_step h with h | h
    · exact mem_append_left _ (ih h)
    · exact mem_append_right _ (mem_filterMap.mpr ⟨op, mem_singleton_self op, h⟩)

end SessionStore

open SessionStore

theorem lifeAfter_snoc (id : String) (ops : List SessionOp) (op : SessionOp) :
    lifeAfter settings id (ops ++ [op]) = lifeStep id (afterOps settings ops) (lifeAfter settings id ops) op := by
  have hfst : ∀ ops, (after (fun p op => (step p.1 op, lifeStep id p.1 p.2 op)) (new settings, none) ops).1 =
      afterOps settings ops := by
    intro ops
    induction ops using List.reverseRecOn with
    | nil => rfl
    | append_singleton _ _ ih => rw [after_snoc, afterOps_snoc, ← ih]
  unfold lifeAfter
  rw [after_snoc, ← hfst]

/-- The clock never goes back. -/
def Clocked (ops : List SessionOp) : Prop := (ops.filterMap SessionOp.time).Pairwise (· ≤ ·)

theorem Clocked.le {u : Nat} (h : Clocked (pre ++ op :: post)) (hop : op.time = some now)
    (hu : u ∈ pre.filterMap SessionOp.time) : u ≤ now := by
  unfold Clocked at h
  rw [filterMap_append] at h
  exact (pairwise_append.mp h).2.2 u hu now (mem_filterMap.mpr ⟨op, mem_cons_self, hop⟩)

theorem Clocked.left (h : Clocked (pre ++ post)) : Clocked pre := by
  unfold Clocked at h
  rw [filterMap_append] at h
  exact (pairwise_append.mp h).1

theorem ForeignHarmless.left (h : ForeignHarmless settings (pre ++ post)) : ForeignHarmless settings pre := by
  rintro pre' op post' rfl
  exact h pre' op (post' ++ post) (by rw [append_assoc, cons_append])

theorem SessionOp.time_of_request (h : op.request = some (id, origin, now)) : op.time = some now := by
  cases op with
  | create | lock => cases h
  | touchForOrigin | status | lockRequest => cases h; rfl

/-- Every entry with an origin has its life behind it. -/
def AllTracked (settings : SessionSettings) (id : String) (s : SessionStore) (life : Option Life) : Prop :=
  ∀ entry, s.sessions.lookup id = some entry → entry.origin ≠ "" → ∃ l, life = some l ∧ Tracks settings entry l

theorem allTracked_request {s : SessionStore} {life : Option Life} (hs : s.settings = settings)
    (hreq : op.request = some (id, origin, now)) (h : AllTracked settings id s life)
    (hle : ∀ entry, s.sessions.lookup id = some entry → entry.lastActivity ≤ now)
    (hok : ∀ entry, s.sessions.lookup id = some entry → entry.origin ≠ "" → entry.Foreign origin → entry.Live settings.idleSecs now → entry.lastActivity = now ∨ entry.expiresAt ≤ entry.lastActivity + settings.idleSecs) :
    AllTracked settings id (s.step op) (lifeStep id s life op) := by
  intro e he ho
  obtain ⟨entry, hl, hlive, rfl, hlife⟩ := request_cases hreq he
  rw [hs] at hlive
  obtain ⟨l, rfl, ht⟩ := h entry hl ho
  rw [hlife]
  split_ifs with hf
  · refine ⟨l, rfl, ht.expires, ht.chain, ht.recent.trans (hle entry hl), ?_⟩
    have hs := ht.slack
    have hharmless := hok entry hl ho hf hlive
    dsimp only
    omega
  · exact ⟨l.use now, rfl, ht.use hlive⟩

theorem allTracked_afterOps (hclock : Clocked ops) (hops : ForeignHarmless settings ops) (id : String) :
    AllTracked settings id (afterOps settings ops) (lifeAfter settings id ops) := by
  induction ops using List.reverseRecOn with
  | nil =>
    nofun
  | append_singleton ops op ih =>
    specialize ih hclock.left hops.left
    have hrequest : ∀ origin now, op.request = some (id, origin, now) →
        AllTracked settings id ((afterOps settings ops).step op)
          (lifeStep id (afterOps settings ops) (lifeAfter settings id ops) op) := by
      intro origin now hreq
      refine allTracked_request settings_afterOps hreq ih ?_ ?_
      · exact fun entry h => hclock.le (SessionOp.time_of_request hreq) (lastActivity_mem h)
      · exact fun entry h => hops ops op [] rfl id origin now entry hreq h
    rw [afterOps_snoc, lifeAfter_snoc]
    by_cases hne : id = op.target
    · subst hne
      cases op with
      | create _ _ _ _ _ _ _ now =>
        intro e he _
        obtain rfl := Option.some.inj ((lookup_insert _).symm.trans he)
        refine ⟨⟨now, []⟩, if_pos rfl, ?_, isChain_singleton now, le_rfl, .inl rfl⟩
        rw [settings_afterOps]
        exact min_le_left _ _
      | touchForOrigin _ origin now | status _ origin now | lockRequest _ origin now => exact hrequest origin now rfl
      | lock =>
        intro e he
        cases (lookup_erase _ _).symm.trans he
    · intro e he ho
      rw [lookup_step_of_ne hne] at he
      rw [lifeStep_of_ne hne]
      exact ih e he ho

/-! ## When the limits hold -/

theorem withinLimits_of_harmless {t : Nat} (hclock : Clocked ops) (hops : ForeignHarmless settings ops)
    (h : (afterOps settings ops).UsableAt id t) : WithinLimits settings id t ops := by
  obtain ⟨entry, hl, ho, hlive⟩ := usableAt_iff.mp h
  rw [settings_afterOps] at hlive
  obtain ⟨life, hlife, ht⟩ := allTracked_afterOps hclock hops id entry hl ho
  exact ⟨life, hlife, lt_of_lt_of_le hlive.1 ht.expires, ht.gap hlive⟩

theorem unmoved_of_harmless (hclock : Clocked (pre ++ op :: post))
    (hops : ForeignHarmless settings (pre ++ op :: post)) : Unmoved settings pre op := by
  intro id id' origin now hreq hforeign t ht
  rw [usableAt_iff, usableAt_iff, settings_afterOps, settings_afterOps, afterOps_snoc]
  by_cases hne : id = id'
  · subst hne
    cases hl : (afterOps settings pre).sessions.lookup id with
    | none => rw [lookup_step_of_not_live hreq (fun entry h => by rw [hl] at h; cases h)]
    | some entry =>
      by_cases hlive : entry.Live settings.idleSecs now
      · have hle := hclock.le (SessionOp.time_of_request hreq) (lastActivity_mem hl)
        have hf := hforeign entry hl
        have hlive' : entry.Live (afterOps settings pre).settings.idleSecs now := by rwa [settings_afterOps]
        rw [lookup_step_of_foreign hreq hl hlive' hf]
        simp only [Option.some.injEq, exists_eq_left']
        refine and_congr_right fun ho => ?_
        have hok := hops pre op post rfl id origin now entry hreq hl ho hf hlive
        unfold SessionEntry.Live at hlive ⊢
        dsimp only
        omega
      · rw [lookup_step_of_not_live hreq (fun e he => by
          rw [hl] at he
          cases he
          rwa [settings_afterOps])]
        simp only [reduceCtorEq, false_and, exists_false, Option.some.injEq, exists_eq_left', false_iff]
        rintro ⟨-, hlt⟩
        unfold SessionEntry.Live at hlive hlt
        omega
  · rw [lookup_step_of_request_ne hreq hne]

theorem harmless_of_unmoved (hclock : Clocked (pre ++ op :: post)) (h : Unmoved settings pre op)
    (hreq : op.request = some (id, origin, now)) (hl : (afterOps settings pre).sessions.lookup id = some entry)
    (ho : entry.origin ≠ "") (hf : entry.Foreign origin) (hlive : entry.Live settings.idleSecs now) :
    entry.lastActivity = now ∨ entry.expiresAt ≤ entry.lastActivity + settings.idleSecs := by
  by_contra hno
  push Not at hno
  have hle := hclock.le (SessionOp.time_of_request hreq) (lastActivity_mem hl)
  have hlive' : entry.Live (afterOps settings pre).settings.idleSecs now := by rwa [settings_afterOps]
  have hafter := lookup_step_of_foreign hreq hl hlive' hf
  have hall : ∀ e, (afterOps settings pre).sessions.lookup id = some e → e.Foreign origin := by
    intro e he
    rw [← Option.some.inj (hl.symm.trans he)]
    exact hf
  unfold SessionEntry.Live at hlive
  have hmoved := h id id origin now hreq hall (entry.lastActivity + settings.idleSecs) (by omega)
  rw [usableAt_iff, usableAt_iff, settings_afterOps, settings_afterOps, afterOps_snoc, hafter, hl] at hmoved
  simp only [Option.some.injEq, exists_eq_left'] at hmoved
  obtain ⟨-, hlt⟩ := hmoved.mp ⟨ho, ⟨hno.2, by dsimp only; omega⟩⟩
  unfold SessionEntry.Live at hlt
  omega

/-- **Sessions keep their limits in a run exactly when every foreign request in it is harmless.** -/
theorem session_expiry_iff (settings : SessionSettings) (ops : List SessionOp) (hclock : Clocked ops) :
    SessionsHold settings ops ↔ ForeignHarmless settings ops := by
  constructor
  · rintro ⟨-, h⟩ pre op post rfl id origin now entry hreq hl ho hf hlive
    exact harmless_of_unmoved hclock (h pre op post rfl) hreq hl ho hf hlive
  · intro hops
    constructor
    · rintro pre post rfl id t - h
      exact withinLimits_of_harmless hclock.left hops.left h
    · rintro pre op post rfl
      exact unmoved_of_harmless hclock hops

def askedBy (origin : String) : List SessionOp :=
  [.create "5e55" "main" "w-1" 0 "passphrase" [] "chrome-extension://aaaa" 0, .status "5e55" origin 299]

theorem clocked_askedBy (origin : String) : Clocked (askedBy origin) := by
  show [0, 299].Pairwise (· ≤ ·)
  decide

def unasked : SessionEntry := ⟨"5e55", "main", "w-1", 0, "passphrase", [], "chrome-extension://aaaa", 0, 900, 0⟩

theorem lookup_unasked (origin : String) :
    (afterOps ⟨900, 300⟩ ((askedBy origin).take 1)).sessions.lookup "5e55" = some unasked :=
  lookup_insert _

theorem lookup_asked (origin : String) :
    (afterOps ⟨900, 300⟩ (askedBy origin)).sessions.lookup "5e55" = some { unasked with lastActivity := 299 } := by
  refine (congrArg (·.sessions.lookup "5e55") (handleSessionStatus_snd 299 origin)).trans ?_
  exact lookup_touch 299 (lookup_unasked origin) ⟨by decide, by decide⟩

/-- **Another extension's question keeps the session open**: its own extension has been away for 500 seconds and may
still use it, with an idle timeout of 300. -/
theorem foreign_status_extends :
    Clocked (askedBy "chrome-extension://bbbb") ∧
      ¬ (afterOps ⟨900, 300⟩ ((askedBy "chrome-extension://bbbb").take 1)).UsableAt "5e55" 500 ∧
      (afterOps ⟨900, 300⟩ (askedBy "chrome-extension://bbbb")).UsableAt "5e55" 500 ∧
      ¬ SessionsHold ⟨900, 300⟩ (askedBy "chrome-extension://bbbb") := by
  have hclock : Clocked ((askedBy "chrome-extension://bbbb").take 1 ++ [.status "5e55" "chrome-extension://bbbb" 299]) :=
    clocked_askedBy "chrome-extension://bbbb"
  have hbefore := lookup_unasked "chrome-extension://bbbb"
  refine ⟨hclock, ?_, ?_, ?_⟩
  · rw [usableAt_iff, hbefore]
    rintro ⟨entry, h, -, -, hidle⟩
    cases h
    exact absurd hidle (by decide)
  · exact usableAt_iff.mpr ⟨_, lookup_asked "chrome-extension://bbbb", by decide, by decide, by decide⟩
  · rintro ⟨-, h⟩
    have hunmoved := h ((askedBy "chrome-extension://bbbb").take 1) _ [] rfl
    have hharmless := harmless_of_unmoved hclock hunmoved rfl hbefore (by decide) (by decide)
      ⟨by decide, by decide⟩
    exact absurd hharmless (by decide)

/-- Its own extension's question is a use. -/
theorem session_expiry_askedBy : SessionsHold ⟨900, 300⟩ (askedBy "chrome-extension://AAAA") := by
  refine (session_expiry_iff _ _ (clocked_askedBy _)).mpr ?_
  intro pre op post hops id origin now entry hreq hl _ hf
  rcases pre with _ | ⟨first, _ | ⟨second, pre⟩⟩
  · cases hops
    cases hreq
  · obtain ⟨rfl, hlast⟩ := List.cons.inj hops
    cases hlast
    cases hreq
    obtain rfl := Option.some.inj ((lookup_unasked "chrome-extension://AAAA").symm.trans hl)
    exact absurd hf (by decide)
  · have hlen := congrArg List.length hops
    simp [askedBy] at hlen

end OneCipher.Ocwp
