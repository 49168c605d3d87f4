import OneCipher.Base.Runs
import OneCipher.WalletConnect.Session

/-!
# OneCipher.NetAgent.SessionStore — concurrent upserts of WalletConnect sessions

`SessionStore::upsert` of `oc-netagent/src/wc_session_store.rs`.  A call changes the cached list under the mutex and takes
a copy of it, writes the copy to the file, and puts the copy back into the cache under the mutex.  Calls interleave
between these three steps; a call is named by the topic of its session.
-/

namespace OneCipher.NetAgent.SessionStore

open WalletConnect Runs

/-! ## The store -/

/-- Find or push. -/
def upserted : List WcSession → WcSession → List WcSession
  | [], session => [session]
  | s :: all, session => if s.topic = session.topic then session :: all else s :: upserted all session

/-- Where the call for a topic stands. -/
inductive Point where
  | idle
  | writing (session : WcSession) (snapshot : List WcSession)
  | caching (session : WcSession) (snapshot : List WcSession)
  | returned (session : WcSession)

/-- The store; a file that is missing, cannot be read or does not parse is `none`. -/
structure State where
  file : Option (List WcSession)
  cache : Option (List WcSession)
  calls : String → Point

inductive Act where
  | modify (session : WcSession)
  | write (topic : String)
  | publish (topic : String)

def start (file : Option (List WcSession)) : State := ⟨file, none, fun _ => .idle⟩

/-- `cached`: the list is loaded on first use. -/
def State.cached (s : State) : List WcSession := s.cache.getD (s.file.getD [])

def step (s : State) : Act → State
  | .modify session => match s.calls session.topic with
    | .idle =>
      let all := upserted s.cached session
      ⟨s.file, some all, Function.update s.calls session.topic (.writing session all)⟩
    | _ => s
  | .write topic => match s.calls topic with
    | .writing session snapshot =>
      ⟨some snapshot, s.cache, Function.update s.calls topic (.caching session snapshot)⟩
    | _ => s
  | .publish topic => match s.calls topic with
    | .caching session snapshot => ⟨s.file, some snapshot, Function.update s.calls topic (.returned session)⟩
    | _ => s

/-! ## Calls one after the other -/

def Point.session : Point → Option WcSession
  | idle => none
  | writing session _ => some session
  | caching session _ => some session
  | returned session => some session

def Point.snapshot : Point → Option (List WcSession)
  | writing _ snapshot => some snapshot
  | caching _ snapshot => some snapshot
  | _ => none

def Point.written : Point → Bool
  | caching _ _ => true
  | returned _ => true
  | _ => false

/-- A call begins only when no other is under way. -/
def Alone (s : State) : Act → Prop
  | .modify _ => ∀ topic, (s.calls topic).snapshot = none
  | _ => True

/-- The record of a topic. -/
def record (sessions : Option (List WcSession)) (topic : String) : Option WcSession :=
  (sessions.getD []).find? (·.topic = topic)

theorem record_upserted (all : List WcSession) (session : WcSession) :
    record (some (upserted all session)) session.topic = some session := by
  induction all with
  | nil => simp [record, upserted]
  | cons _ _ ih =>
    rw [upserted]
    split_ifs with h
    · simp [record]
    · simpa [record, h] using ih

theorem record_upserted_of_ne {all : List WcSession} {session : WcSession} {topic : String} (h : topic ≠ session.topic) :
    record (some (upserted all session)) topic = record (some all) topic := by
  induction all with
  | nil => simp [record, upserted, Ne.symm h]
  | cons s _ ih =>
    rw [upserted]
    split_ifs with hs
    · simp [record, hs, Ne.symm h]
    · by_cases ht : s.topic = topic
      · simp [record, ht]
      · simpa [record, ht] using ih

/-- What a call has changed is in the cache, what it has written is in the file, and its copy is what is cached. -/
def Holds (file cache : Option (List WcSession)) (topic : String) (p : Point) : Prop :=
  (∀ session, p.session = some session →
    record cache topic = some session ∧ (p.written = true → record file topic = some session)) ∧
    ∀ snapshot, p.snapshot = some snapshot → cache = some snapshot

def Kept (s : State) : Prop := ∀ topic, Holds s.file s.cache topic (s.calls topic)

theorem kept_update {file cache : Option (List WcSession)} {calls : String → Point} {name : String} {p : Point}
    (hothers : ∀ topic, topic ≠ name → Holds file cache topic (calls topic)) (hp : Holds file cache name p) :
    Kept ⟨file, cache, Function.update calls name p⟩ := by
  intro topic
  by_cases ht : topic = name
  · subst ht
    simpa using hp
  · simpa [ht] using hothers topic ht

theorem Kept.step {s : State} {a : Act} (ha : Alone s a) (h : Kept s) : Kept (step s a) := by
  cases a with
  | modify =>
    simp only [SessionStore.step]
    split
    · refine kept_update (fun topic hne => ⟨fun x hx => ?_, fun copy hcopy => ?_⟩) ⟨fun x hx => ?_, fun copy hcopy => ?_⟩
      · obtain ⟨hcached, hfiled⟩ := (h topic).1 x hx
        refine ⟨(record_upserted_of_ne hne).trans ?_, hfiled⟩
        -- the cache is loaded: nothing is on record in an empty list
        rcases hcache : s.cache with _ | all <;> rw [hcache] at hcached
        · cases hcached
        · rwa [State.cached, hcache]
      · rw [ha topic] at hcopy
        cases hcopy
      · cases hx
        exact ⟨record_upserted _ _, nofun⟩
      · exact hcopy
    · exact h
  | write name =>
    simp only [SessionStore.step]
    split
    · rename_i session snapshot hw
      have hcache : s.cache = some snapshot := (h name).2 snapshot (by rw [hw]; rfl)
      refine kept_update (fun topic _ => ⟨fun x hx => ?_, (h topic).2⟩) ⟨fun x hx => ?_, fun copy hcopy => ?_⟩
      · exact ⟨((h topic).1 x hx).1, fun _ => hcache ▸ ((h topic).1 x hx).1⟩
      · have hcached := ((h name).1 x (by rw [hw]; exact hx)).1
        exact ⟨hcached, fun _ => hcache ▸ hcached⟩
      · exact hcache.trans hcopy
    · exact h
  | publish name =>
    simp only [SessionStore.step]
    split
    · rename_i session snapshot hw
      have hcache : s.cache = some snapshot := (h name).2 snapshot (by rw [hw]; rfl)
      rw [← hcache]
      refine kept_update (fun topic _ => h topic) ⟨fun x hx => ?_, fun copy hcopy => by cases hcopy⟩
      obtain ⟨hcached, hfiled⟩ := (h name).1 x (by rw [hw]; exact hx)
      exact ⟨hcached, fun _ => hfiled (by rw [hw]; rfl)⟩
    · exact h

/-- **Upserts that do not overlap are not lost.**  Whatever the file held, when calls for different topics run one after
the other, the record of every call that has returned is in the cache and in the file. -/
theorem upserts_kept {file : Option (List WcSession)} {acts : List Act} (h : Along step Alone (start file) acts)
    {topic : String} {session : WcSession} (hreturned : (after step (start file) acts).calls topic = .returned session) :
    record (after step (start file) acts).cache topic = some session ∧
      record (after step (start file) acts).file topic = some session := by
  have hkept : Kept (after step (start file) acts) :=
    along_invariant (fun _ _ ha hs => hs.step ha) (fun _ => ⟨fun _ hx => (by cases hx), fun _ hx => (by cases hx)⟩) h
  obtain ⟨hcached, hfiled⟩ := (hkept topic).1 session (by rw [hreturned]; rfl)
  exact ⟨hcached, hfiled (by rw [hreturned]; rfl)⟩

def pairing (topic : String) : WcSession := .newPairing topic "00" 1800000000 1700000000

/-- The three steps of a call. -/
def upsertActs (topic : String) : List Act := [.modify (pairing topic), .write topic, .publish topic]

theorem upserts_kept_sequential :
    record (after step (start none) (upsertActs "a" ++ upsertActs "b")).cache "a" = some (pairing "a") ∧
      record (after step (start none) (upsertActs "a" ++ upsertActs "b")).file "a" = some (pairing "a") := by
  have halone : Along step Alone (start none) (upsertActs "a" ++ upsertActs "b") := by
    refine ⟨fun _ => rfl, trivial, trivial, fun topic => ?_, trivial, trivial, trivial⟩
    by_cases ht : topic = "a"
    · subst ht
      rfl
    · simp [step, start, pairing, WcSession.newPairing, Function.update_of_ne ht, Point.snapshot]
  exact upserts_kept halone rfl

/-- **An upsert is lost.**  The second call changes the list before the first has written its copy, and writes before it:
both have returned, and neither the file nor the cache has the second record. -/
theorem overlapping_upsert_lost :
    (after step (start none) [.modify (pairing "a"), .modify (pairing "b"), .write "b", .write "a", .publish "b",
        .publish "a"]).calls "b" = .returned (pairing "b") ∧
      record (after step (start none) [.modify (pairing "a"), .modify (pairing "b"), .write "b", .write "a", .publish "b",
        .publish "a"]).cache "b" = none ∧
      record (after step (start none) [.modify (pairing "a"), .modify (pairing "b"), .write "b", .write "a", .publish "b",
        .publish "a"]).file "b" = none :=
  ⟨rfl, rfl, rfl⟩

end OneCipher.NetAgent.SessionStore
