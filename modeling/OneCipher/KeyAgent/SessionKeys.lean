import OneCipher.Base.Json
import OneCipher.Base.SharedFile
import OneCipher.Base.Trace

/-!
# OneCipher.KeyAgent.SessionKeys — the session-key registry

`oc-keyagent/src/session_keys.rs`.  The registry is a JSON file of records by session-key id.  `create` and
`revoke` load the whole file, change their copy and save it; `is_active` and `get` only load.  The calls of
concurrent connections interleave at their loads and saves (`Base.SharedFile`).
-/

namespace OneCipher.KeyAgent

open SharedFile Trace AList

inductive SessionKeyStoreError where
  | io (detail : String)
  | json (detail : String)
  | homeNotSet
  | corrupt (path detail : String)
  | alreadyExists (id : String)
  | notFound (id : String)
  deriving DecidableEq, Repr

def SessionKeyStoreError.message : SessionKeyStoreError → String
  | .io d => "I/O error: " ++ d
  | .json d => "JSON error: " ++ d
  | .homeNotSet => "HOME not set"
  | .corrupt path d => "session-key store at " ++ path ++ " is corrupt: " ++ d ++
      " — restore it from a backup or remove the file"
  | .alreadyExists id => "session key already exists: " ++ id
  | .notFound id => "session key not found: " ++ id

inductive SessionKeyStatus where
  | active
  | revoked
  deriving DecidableEq, Repr

structure SessionKeyRecord where
  sessionKeyId : String
  label : String
  status : SessionKeyStatus
  createdAtUnix : Nat
  revokedAtUnix : Option Nat
  deriving DecidableEq, Repr

abbrev SessionKeys := Store String SessionKeyRecord

abbrev SessionKeyFile := Except SessionKeyStoreError SessionKeys

namespace SessionKeyRecord

/-- The record `create` stores: active, whatever the caller put into the two fields. -/
def activated (record : SessionKeyRecord) : SessionKeyRecord := { record with status := .active, revokedAtUnix := none }

/-- The record `revoke` stores: an already revoked one keeps its time. -/
def revoke (now : Nat) (record : SessionKeyRecord) : SessionKeyRecord :=
  if record.status ≠ .revoked then { record with status := .revoked, revokedAtUnix := some now } else record

theorem status_revoke (now : Nat) (record : SessionKeyRecord) : (record.revoke now).status = .revoked := by
  rw [revoke]
  by_cases h : record.status ≠ .revoked
  · rw [if_pos h]
  · rw [if_neg h]
    exact not_not.mp h

end SessionKeyRecord

/-- The calls on the registry. -/
inductive SessionKeyCall where
  | create (record : SessionKeyRecord)
  | get (sessionKeyId : String)
  | isActive (sessionKeyId : String)
  | revoke (sessionKeyId : String)
  deriving DecidableEq

/-- What a call returns. -/
inductive SessionKeyAnswer where
  | record (result : Except SessionKeyStoreError SessionKeyRecord)
  | found (result : Except SessionKeyStoreError (Option SessionKeyRecord))
  | active (result : Except SessionKeyStoreError Bool)
  deriving DecidableEq

namespace SessionKeyStore

def get (sessionKeyId : String) (file : SessionKeyFile) : Except SessionKeyStoreError (Option SessionKeyRecord) :=
  file.map (·.lookup sessionKeyId)

def isActive (sessionKeyId : String) (file : SessionKeyFile) : Except SessionKeyStoreError Bool :=
  file.map fun map => (map.lookup sessionKeyId).any (·.status = .active)

/-- `create` up to its save: the map that was loaded, if it does not have the id. -/
def createLoad (record : SessionKeyRecord) (file : SessionKeyFile) : SessionKeyAnswer ⊕ SessionKeys :=
  match file with
  | .error e => .inl (.record (.error e))
  | .ok map =>
    if record.sessionKeyId ∈ map then .inl (.record (.error (.alreadyExists record.sessionKeyId)))
    else .inr map

def createSave (record : SessionKeyRecord) (map : SessionKeys) : SessionKeys :=
  map.insert record.sessionKeyId record.activated

/-- `revoke` up to its save: the map that was loaded, if it has the id. -/
def revokeLoad (sessionKeyId : String) (file : SessionKeyFile) : SessionKeyAnswer ⊕ SessionKeys :=
  match file with
  | .error e => .inl (.record (.error e))
  | .ok map =>
    if sessionKeyId ∈ map then .inr map else .inl (.record (.error (.notFound sessionKeyId)))

def revokeSave (sessionKeyId : String) (now : Nat) (map : SessionKeys) :
    SessionKeys × Except SessionKeyStoreError SessionKeyRecord :=
  match map.lookup sessionKeyId with
  | some record => (map.insert sessionKeyId (record.revoke now), .ok (record.revoke now))
  | none => (map, .error (.notFound sessionKeyId))

end SessionKeyStore

/-- The registry's calls on the shared file.  Only `revoke` reads the clock, before it saves. -/
def sessionKeyProtocol : Protocol SessionKeyCall SessionKeyFile SessionKeys SessionKeyAnswer where
  load call _ file := match call with
    | .create record => SessionKeyStore.createLoad record file
    | .get id => .inl (.found (SessionKeyStore.get id file))
    | .isActive id => .inl (.active (SessionKeyStore.isActive id file))
    | .revoke id => SessionKeyStore.revokeLoad id file
  save call now map := match call with
    | .create record => (.ok (SessionKeyStore.createSave record map), .record (.ok record.activated))
    | .revoke id => (.ok (SessionKeyStore.revokeSave id now map).1, .record (SessionKeyStore.revokeSave id now map).2)
    -- the other two have answered at their load
    | .get _ => (.ok map, .found (.ok none))
    | .isActive _ => (.ok map, .active (.ok false))

/-! ## Revocation -/

abbrev SessionKeyEvent := Event SessionKeyCall SessionKeyAnswer

/-- A revocation of the key that returned `Ok`. -/
def SessionKeyEvent.Revokes (id : String) (e : SessionKeyEvent) : Prop :=
  ∃ i now record, e = .returned i (.revoke id) now (.record (.ok record))

/-- The event does not report a key active that was revoked before. -/
def HonoursRevocation (before : List SessionKeyEvent) (e : SessionKeyEvent) : Prop :=
  ∀ i id now answer, e = .returned i (.isActive id) now answer →
    (∃ r ∈ before, SessionKeyEvent.Revokes id r) → answer = .active (.ok false)

/-- Once `revoke(id)` has returned `Ok`, every later `is_active(id)` returns false. -/
def RevokedForGood (log : List SessionKeyEvent) : Prop := Everywhere HonoursRevocation log

/-- The file has a revoked record for every key whose revocation returned. -/
def RevocationsKept (file : SessionKeyFile) (log : List SessionKeyEvent) : Prop :=
  ∀ id, (∃ r ∈ log, SessionKeyEvent.Revokes id r) →
    ∃ (map : SessionKeys) (record : SessionKeyRecord), file = .ok map ∧ map.lookup id = some record ∧
      record.status = .revoked

variable {log : List SessionKeyEvent} {file : SessionKeyFile} {record : SessionKeyRecord} {map : SessionKeys}

theorem revocationsKept_snoc {e : SessionKeyEvent} (h : RevocationsKept file log)
    (he : ∀ id, ¬ SessionKeyEvent.Revokes id e) :
    RevocationsKept file (log ++ [e]) := by
  rintro id ⟨r, hr, hrev⟩
  rcases List.mem_append.mp hr with hr | hr
  · exact h id ⟨r, hr, hrev⟩
  · rw [List.mem_singleton.mp hr] at hrev
    exact absurd hrev (he id)

theorem revocationsKept_insert {id : String} (h : RevocationsKept (.ok map) log)
    (hid : id ∉ map ∨ record.status = .revoked) :
    RevocationsKept (.ok (map.insert id record)) log := by
  intro id' hrev
  obtain ⟨stored, r, hs, hl, hst⟩ := h id' hrev
  cases hs
  by_cases hk : id' = id
  · subst hk
    rcases hid with hid | hrevoked
    · exact absurd (lookup_isSome.mp (by rw [hl]; rfl)) hid
    · exact ⟨_, record, rfl, lookup_insert _, hrevoked⟩
  · exact ⟨_, r, rfl, (lookup_insert_ne hk).trans hl, hst⟩

theorem revocationsKept_revoke {e : SessionKeyEvent} {k : String} (h : RevocationsKept (.ok map) log)
    (hrevoked : record.status = .revoked) (he : ∀ id, SessionKeyEvent.Revokes id e → id = k) :
    RevocationsKept (.ok (map.insert k record)) (log ++ [e]) := by
  rintro id ⟨r, hr, hrev⟩
  rcases List.mem_append.mp hr with hr | hr
  · exact revocationsKept_insert h (.inr hrevoked) id ⟨r, hr, hrev⟩
  · rw [List.mem_singleton.mp hr] at hrev
    obtain rfl := he id hrev
    exact ⟨_, record, rfl, lookup_insert _, hrevoked⟩

theorem createLoad_eq_inr (h : SessionKeyStore.createLoad record file = .inr map) :
    file = .ok map ∧ record.sessionKeyId ∉ map := by
  rcases file with e | stored
  · cases h
  · rw [SessionKeyStore.createLoad] at h
    by_cases hid : record.sessionKeyId ∈ stored
    · simp only [if_pos hid, reduceCtorEq] at h
    · simp only [if_neg hid] at h
      cases h
      exact ⟨rfl, hid⟩

theorem revokeLoad_eq_inr {id : String} (h : SessionKeyStore.revokeLoad id file = .inr map) :
    file = .ok map ∧ ∃ record, map.lookup id = some record := by
  rcases file with e | stored
  · cases h
  · rw [SessionKeyStore.revokeLoad] at h
    by_cases hid : id ∈ stored
    · simp only [if_pos hid] at h
      cases h
      exact ⟨rfl, Option.isSome_iff_exists.mp (lookup_isSome.mpr hid)⟩
    · simp only [if_neg hid, reduceCtorEq] at h

theorem not_revokes_of_load {i now : Nat} {call : SessionKeyCall} {answer : SessionKeyAnswer}
    (h : sessionKeyProtocol.load call now file = .inl answer) (id : String) :
    ¬ SessionKeyEvent.Revokes id (.returned i call now answer) := by
  rintro ⟨i', now', record, he⟩
  cases he
  change SessionKeyStore.revokeLoad id file = _ at h
  rcases file with e | stored
  · cases h
  · rw [SessionKeyStore.revokeLoad] at h
    by_cases hid : id ∈ stored <;> simp only [hid, if_true, if_false, reduceCtorEq] at h
    cases h

theorem revocation_kept :
    Kept sessionKeyProtocol (fun _ _ _ => True) fun file log => RevocationsKept file log ∧ RevokedForGood log where
  loaded i call now h := by
    refine ⟨revocationsKept_snoc h.1 ?_, h.2.snoc ?_⟩
    · nofun
    · nofun
  answered {file log} i call now answer h hr := by
    refine ⟨revocationsKept_snoc h.1 (not_revokes_of_load hr), h.2.snoc ?_⟩
    intro j id t a he hrev
    cases he
    obtain ⟨map, record, rfl, hl, hs⟩ := h.1 id hrev
    cases hr
    simp [SessionKeyStore.isActive, Except.map, hl, hs]
  saved {file log} i call now₀ now map h _ _ hload := by
    cases call with
    | create record =>
      obtain ⟨rfl, hid⟩ := createLoad_eq_inr hload
      -- the new record has an id of its own
      refine ⟨revocationsKept_snoc (revocationsKept_insert h.1 (.inl hid)) ?_, h.2.snoc ?_⟩
      · nofun
      · nofun
    | revoke k =>
      obtain ⟨rfl, r, hl⟩ := revokeLoad_eq_inr hload
      have hfile : (sessionKeyProtocol.save (.revoke k) now map).1 = .ok (map.insert k (r.revoke now)) := by
        change Except.ok (SessionKeyStore.revokeSave k now map).1 = _
        rw [SessionKeyStore.revokeSave, hl]
      rw [hfile]
      refine ⟨revocationsKept_revoke h.1 (r.status_revoke now) ?_, h.2.snoc ?_⟩
      · rintro id ⟨_, _, _, he⟩
        injection he with _ hcall
        exact (SessionKeyCall.revoke.inj hcall).symm
      · nofun
    | get | isActive => cases hload

/-- **A revoked key stays revoked**, in every run in which nobody saves between a call's load and its
save. -/
theorem revoked_for_good (file : SessionKeyFile) (steps : List (Step SessionKeyCall))
    (hcalm : Along sessionKeyProtocol (Undisturbed fun _ _ _ => True) (start file) steps)
    {s : State SessionKeyCall SessionKeyFile SessionKeys SessionKeyAnswer}
    (hrun : run sessionKeyProtocol (start file) steps = some s) : RevokedForGood s.log := by
  have hstart : RevocationsKept file [] ∧ RevokedForGood [] := by
    refine ⟨?_, everywhere_nil⟩
    nofun
  exact (run_invariant revocation_kept hcalm hrun (current_start file) hstart).2

/-! ### A lost revocation, and one that holds -/

def sampleKey (id : String) : SessionKeyRecord := ⟨id, "agent", .active, 100, none⟩

/-- One active key, `a`. -/
def oneKey : SessionKeyFile := .ok ((∅ : SessionKeys).insert "a" (sampleKey "a"))

/-- `create(b)` loads, `revoke(a)` loads and saves, `create(b)` saves, `is_active(a)`. -/
def lostRevocation : List (Step SessionKeyCall) :=
  [.load 0 (.create (sampleKey "b")) 100, .load 1 (.revoke "a") 100, .save 1 100, .save 0 100,
    .load 2 (.isActive "a") 100]

def lostRevocationLog : List SessionKeyEvent :=
  [.loaded 0 (.create (sampleKey "b")) 100, .loaded 1 (.revoke "a") 100,
    .returned 1 (.revoke "a") 100 (.record (.ok ((sampleKey "a").revoke 100))),
    .returned 0 (.create (sampleKey "b")) 100 (.record (.ok (sampleKey "b"))),
    .loaded 2 (.isActive "a") 100, .returned 2 (.isActive "a") 100 (.active (.ok true))]

/-- **A revoked key is active again**: another connection creates a key at the same time and saves the
copy it loaded before the revocation. -/
theorem revocation_lost :
    (run sessionKeyProtocol (start oneKey) lostRevocation).map (·.log) = some lostRevocationLog ∧
      ¬ RevokedForGood lostRevocationLog := by
  refine ⟨by decide +kernel, fun h => ?_⟩
  have hfalse := h (lostRevocationLog.take 5) _ [] rfl 2 "a" 100 (.active (.ok true)) rfl
    ⟨_, by decide, 1, 100, (sampleKey "a").revoke 100, rfl⟩
  cases hfalse

def orderlyRevocation : List (Step SessionKeyCall) :=
  [.load 0 (.create (sampleKey "b")) 100, .save 0 100, .load 1 (.revoke "a") 100, .save 1 100,
    .load 2 (.isActive "a") 100]

theorem orderlyRevocation_undisturbed :
    Along sessionKeyProtocol (Undisturbed fun _ _ _ => True) (start oneKey) orderlyRevocation := by
  refine ⟨trivial, fun s₁ h₁ => ?_⟩
  cases h₁
  refine ⟨fun p hp => ?_, fun s₂ h₂ => ?_⟩
  · cases hp
    rfl
  cases h₂
  refine ⟨trivial, fun s₃ h₃ => ?_⟩
  cases h₃
  refine ⟨fun p hp => ?_, fun s₄ h₄ => ⟨trivial, fun _ _ => trivial⟩⟩
  cases hp
  rfl

theorem orderlyRevocation_holds : ∃ s, run sessionKeyProtocol (start oneKey) orderlyRevocation = some s ∧
    s.log.getLast? = some (.returned 2 (.isActive "a") 100 (.active (.ok false))) ∧ RevokedForGood s.log :=
  ⟨_, rfl, rfl, revoked_for_good _ orderlyRevocation orderlyRevocation_undisturbed rfl⟩

end OneCipher.KeyAgent
