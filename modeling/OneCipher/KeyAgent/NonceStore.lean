import Mathlib.Data.List.MinMax
import OneCipher.Base.Json
import OneCipher.Base.SharedFile
import OneCipher.Base.Text
import OneCipher.Base.Trace

/-!
# OneCipher.KeyAgent.NonceStore — the single-use registry of sign-in messages

`oc-keyagent/src/nonce_store.rs`.  The registry is a JSON file that maps the hash of a signed message to the second
its entry expires at.  `consume` loads the file and drops the expired entries, refuses a hash that is still there,
and saves the map with the hash added.
-/

namespace OneCipher.KeyAgent

open SharedFile Trace List

def defaultSiwzTtlSecs : Nat := 86400

def maxNonceEntries : Nat := 10000

inductive NonceStoreError where
  | io (detail : String)
  | json (detail : String)
  | homeNotSet
  | corrupt (path detail : String)
  | replay
  deriving DecidableEq, Repr

def NonceStoreError.message : NonceStoreError → String
  | .io d => "I/O error: " ++ d
  | .json d => "JSON error: " ++ d
  | .homeNotSet => "HOME not set"
  | .corrupt path d => "siwx nonce store at " ++ path ++ " is corrupt: " ++ d ++
      " — restore it from a backup or remove the file"
  | .replay => "siwx message already consumed (replay detected)"

/-- `hash_hex -> expires_at_unix`. -/
abbrev Nonces := Store String Nat

abbrev NonceFile := Except NonceStoreError Nonces

namespace NonceStore

/-- `load` at the clock reading `now`. -/
def load (now : Nat) (file : NonceFile) : NonceFile := file.map (·.retain fun _ exp => exp > now)

def evictOldest (map : Nonces) : Nonces :=
  if map.size ≥ maxNonceEntries then
    match map.entries.argmin (·.2) with
    | some oldest => map.erase oldest.1
    | none => map
  else map

end NonceStore

/-- A call `consume(message_hash, expires_at_unix)`. -/
structure Consume where
  messageHash : { b : Bytes // b.length = 32 }
  expiresAtUnix : Nat
  deriving DecidableEq

variable {c : Consume} {now : Nat} {file : NonceFile}

namespace Consume

def key (c : Consume) : String := Text.hexEncode c.messageHash.1

def expiry (c : Consume) (now : Nat) : Nat := max c.expiresAtUnix (min (now + 1) (2 ^ 64 - 1))

def begin (c : Consume) (now : Nat) (file : NonceFile) : Except NonceStoreError Unit ⊕ Nonces :=
  match NonceStore.load now file with
  | .error e => .inl (.error e)
  | .ok map => if c.key ∈ map then .inl (.error .replay) else .inr map

def finish (c : Consume) (now : Nat) (map : Nonces) : Nonces := (NonceStore.evictOldest map).insert c.key (c.expiry now)

theorem key_inj {d : Consume} (h : c.key = d.key) : c.messageHash = d.messageHash := by
  have hdec : Text.hexDecode c.key = Text.hexDecode d.key := by rw [h]
  rw [key, key, Text.hexDecode_hexEncode, Text.hexDecode_hexEncode] at hdec
  exact Subtype.ext (Except.ok.inj hdec)

theorem begin_eq_inr {map : Nonces} (h : c.begin now file = .inr map) :
    ∃ stored : Nonces, file = .ok stored ∧ map = stored.retain (fun _ exp => exp > now) ∧ c.key ∉ map := by
  rcases file with e | stored
  · cases h
  · change (if c.key ∈ stored.retain (fun _ exp => decide (exp > now)) then _ else _) = _ at h
    by_cases hk : c.key ∈ stored.retain (fun _ exp => decide (exp > now))
    · rw [if_pos hk] at h
      cases h
    · rw [if_neg hk] at h
      cases h
      exact ⟨stored, rfl, rfl, hk⟩

theorem begin_eq_inl {r : Except NonceStoreError Unit} (h : c.begin now file = .inl r) : r ≠ .ok () := by
  rintro rfl
  rw [begin] at h
  rcases hl : NonceStore.load now file with e | map <;> simp only [hl] at h
  · cases h
  · by_cases hk : c.key ∈ map
    · rw [if_pos hk] at h
      cases h
    · rw [if_neg hk] at h
      cases h

end Consume

/-- `consume` as a call on the shared file. -/
def nonceProtocol : Protocol Consume NonceFile Nonces (Except NonceStoreError Unit) where
  load c now file := c.begin now file
  save c now map := (.ok (c.finish now map), .ok ())

/-- `consume` run alone: the clock is read at the load and again before the save.  `fault` is the
error of the save, if it fails; the file is then as it was. -/
def NonceStore.consume (c : Consume) (loadedAt savedAt : Nat) (fault : Option NonceStoreError)
    (file : NonceFile) : Except NonceStoreError Unit × NonceFile :=
  match c.begin loadedAt file, fault with
  | .inl r, _ => (r, file)
  | .inr _, some e => (.error e, file)
  | .inr map, none => (.ok (), .ok (c.finish savedAt map))

theorem NonceStore.consume_eq_ok {loadedAt savedAt : Nat} {fault : Option NonceStoreError} {file' : NonceFile}
    (h : NonceStore.consume c loadedAt savedAt fault file = (.ok (), file')) :
    ∃ map, c.begin loadedAt file = .inr map ∧ file' = .ok (c.finish savedAt map) := by
  unfold consume at h
  rcases hb : c.begin loadedAt file with r | map <;> rw [hb] at h
  · exact absurd (congrArg Prod.fst h) (Consume.begin_eq_inl hb)
  · rcases fault with _ | e
    · exact ⟨map, rfl, (congrArg Prod.snd h).symm⟩
    · cases h

theorem Consume.finish_of_lt {map : Nonces} (h : map.size < maxNonceEntries) :
    c.finish now map = map.insert c.key (c.expiry now) := by
  rw [finish, NonceStore.evictOldest, if_neg (Nat.not_le_of_lt h)]

/-! ## Single use -/

abbrev NonceEvent := Event Consume (Except NonceStoreError Unit)

abbrev NonceLog := List NonceEvent

/-- The event accepts a hash only if every earlier entry of the hash has run out: some call has read
the clock at or past its expiry. -/
def AcceptsOnce (before : NonceLog) (e : NonceEvent) : Prop :=
  ∀ j c now, e = .returned j c now (.ok ()) →
    ∀ i d then_, .returned i d then_ (.ok ()) ∈ before → d.messageHash = c.messageHash →
      ∃ k b t, .loaded k b t ∈ before ∧ d.expiry then_ ≤ t

/-- At most one `consume` of a hash returns `Ok` while the entry of the hash is unexpired. -/
def SingleUse (log : NonceLog) : Prop := Everywhere AcceptsOnce log

/-- A load at `now` leaves room for one more entry. -/
def NonceStore.HasRoom (now : Nat) (file : NonceFile) : Prop :=
  ∀ map, NonceStore.load now file = .ok map → map.size < maxNonceEntries

/-- Every load of a run finds room. -/
def Roomy (_ : Consume) (now : Nat) (file : NonceFile) : Prop := NonceStore.HasRoom now file

/-- The file has the entry of every accepted hash that no call has seen expire. -/
def Recorded (file : NonceFile) (log : NonceLog) : Prop :=
  ∀ i c now, .returned i c now (.ok ()) ∈ log → (∀ k b t, .loaded k b t ∈ log → t < c.expiry now) →
    ∃ map : Nonces, file = .ok map ∧ map.lookup c.key = some (c.expiry now)

theorem recorded_snoc {log : NonceLog} {e : NonceEvent} (h : Recorded file log)
    (he : ∀ i c now, e ≠ .returned i c now (.ok ())) : Recorded file (log ++ [e]) := by
  intro i c now hmem hall
  rcases mem_append.mp hmem with hmem | hmem
  · exact h i c now hmem fun k b t hl => hall k b t (mem_append_left _ hl)
  · exact absurd (mem_singleton.mp hmem).symm (he i c now)

theorem acceptsOnce_of_ne {log : NonceLog} {e : NonceEvent}
    (he : ∀ i c now, e ≠ .returned i c now (.ok ())) : AcceptsOnce log e := by
  intro j c now h
  exact absurd h (he j c now)

theorem lookup_of_recorded {log : NonceLog} {i : Nat} {now₀ : Nat} {map : Nonces} (h : Recorded file log)
    (hl : .loaded i c now₀ ∈ log) (hb : c.begin now₀ file = .inr map) {j : Nat} {d : Consume}
    (hd : .returned j d now (.ok ()) ∈ log) (hall : ∀ k b t, .loaded k b t ∈ log → t < d.expiry now) :
    map.lookup d.key = some (d.expiry now) ∧ d.key ≠ c.key := by
  obtain ⟨stored, rfl, rfl, hkey⟩ := Consume.begin_eq_inr hb
  obtain ⟨stored', hs, hlook⟩ := h j d now hd hall
  cases hs
  have hkept : (stored.retain fun _ exp => decide (exp > now₀)).lookup d.key = some (d.expiry now) :=
    Store.lookup_retain.mpr ⟨hlook, decide_eq_true (hall i c now₀ hl)⟩
  refine ⟨hkept, fun heq => hkey ?_⟩
  rw [← heq, ← AList.lookup_isSome, hkept]
  rfl

theorem singleUse_kept : Kept nonceProtocol Roomy fun file log => Recorded file log ∧ SingleUse log where
  loaded i c now h := by
    have hne : ∀ j d t, (.loaded i c now : NonceEvent) ≠ .returned j d t (.ok ()) := by
      nofun
    exact ⟨recorded_snoc h.1 hne, h.2.snoc (acceptsOnce_of_ne hne)⟩
  answered i c now r h hr := by
    have hne : ∀ j d t, (.returned i c now r : NonceEvent) ≠ .returned j d t (.ok ()) := by
      intro j d t he
      cases he
      exact Consume.begin_eq_inl hr rfl
    exact ⟨recorded_snoc h.1 hne, h.2.snoc (acceptsOnce_of_ne hne)⟩
  saved {file log} i c now₀ now map h hl hroom hb := by
    obtain ⟨hrec, huse⟩ := h
    have hsize : map.size < maxNonceEntries := by
      obtain ⟨stored, rfl, rfl, -⟩ := Consume.begin_eq_inr hb
      exact hroom _ rfl
    have hfinish : c.finish now map = map.insert c.key (c.expiry now) := Consume.finish_of_lt hsize
    constructor
    · intro j d t hmem hall
      refine ⟨c.finish now map, rfl, ?_⟩
      rw [hfinish]
      rcases mem_append.mp hmem with hmem | hmem
      · obtain ⟨hlook, hne⟩ := lookup_of_recorded hrec hl hb hmem
          fun k b u hu => hall k b u (mem_append_left _ hu)
        rw [AList.lookup_insert_ne hne]
        exact hlook
      · cases mem_singleton.mp hmem
        rw [AList.lookup_insert]
    · refine huse.snoc ?_
      intro j d t he i' d' t' hmem hhash
      cases he
      by_contra hlive
      -- nobody saw the earlier entry expire, so it is in the copy, under the call's own key
      have hall : ∀ k b u, .loaded k b u ∈ log → u < d'.expiry t' := by
        intro k b u hu
        by_contra hge
        exact hlive ⟨k, b, u, hu, Nat.le_of_not_lt hge⟩
      refine (lookup_of_recorded hrec hl hb hmem hall).2 ?_
      rw [Consume.key, Consume.key, hhash]

/-- **A hash is accepted once while its entry lives**, in every run in which nobody saves between a
call's load and its save and no load finds the registry full. -/
theorem accepted_once (file : NonceFile) (steps : List (Step Consume))
    (hcalm : Along nonceProtocol (Undisturbed Roomy) (start file) steps)
    {s : State Consume NonceFile Nonces (Except NonceStoreError Unit)}
    (hrun : run nonceProtocol (start file) steps = some s) : SingleUse s.log := by
  have hstart : Recorded file [] ∧ SingleUse [] := by
    refine ⟨?_, everywhere_nil⟩
    nofun
  exact (run_invariant singleUse_kept hcalm hrun (current_start file) hstart).2

/-! ### Two calls that race, and two that do not -/

theorem length_sampleHash : (List.replicate 32 (0xaa : UInt8)).length = 32 := rfl

def sampleConsume : Consume := ⟨⟨List.replicate 32 0xaa, length_sampleHash⟩, 1000⟩

def racingSteps : List (Step Consume) :=
  [.load 0 sampleConsume 100, .load 1 sampleConsume 100, .save 0 100, .save 1 100]

def racingLog : NonceLog :=
  [.loaded 0 sampleConsume 100, .loaded 1 sampleConsume 100,
    .returned 0 sampleConsume 100 (.ok ()), .returned 1 sampleConsume 100 (.ok ())]

/-- **Two connections that present one message at the same time are both accepted**, at second 100 of
an entry that lives until second 1000. -/
theorem race_accepts_twice :
    (run nonceProtocol (start (.ok ∅)) racingSteps).map (·.log) = some racingLog ∧ ¬ SingleUse racingLog := by
  refine ⟨rfl, fun h => ?_⟩
  obtain ⟨k, b, t, hl, hexp⟩ := h (racingLog.take 3) (.returned 1 sampleConsume 100 (.ok ())) [] rfl
    1 sampleConsume 100 rfl 0 sampleConsume 100 (by decide) rfl
  have ht : t = 100 := by
    simp only [racingLog, take_succ_cons, take_zero, mem_cons, Event.loaded.injEq, reduceCtorEq,
      not_mem_nil, or_false] at hl
    rcases hl with ⟨-, -, ht⟩ | ⟨-, -, ht⟩ <;> exact ht
  subst ht
  exact absurd hexp (by decide)

def orderlySteps : List (Step Consume) := [.load 0 sampleConsume 100, .save 0 100, .load 1 sampleConsume 200]

theorem orderly_undisturbed : Along nonceProtocol (Undisturbed Roomy) (start (.ok ∅)) orderlySteps := by
  refine ⟨fun map h => ?_, fun s₁ h₁ => ?_⟩
  · cases h
    decide
  cases h₁
  refine ⟨fun p hp => ?_, fun s₂ h₂ => ?_⟩
  · cases hp
    rfl
  cases h₂
  refine ⟨fun map h => ?_, fun _ _ => trivial⟩
  cases h
  decide

/-- The second call is refused, and the message was accepted once. -/
theorem orderly_accepts_once : ∃ s, run nonceProtocol (start (.ok ∅)) orderlySteps = some s ∧
    s.log.getLast? = some (.returned 1 sampleConsume 200 (.error .replay)) ∧ SingleUse s.log :=
  ⟨_, rfl, rfl, accepted_once _ orderlySteps orderly_undisturbed rfl⟩

end OneCipher.KeyAgent
