import OneCipher.Base.HashChain
import OneCipher.Base.JsonText
import OneCipher.Base.Serde
import OneCipher.KeyAgent.Passkey
import OneCipher.Wallet.PolicyStore

/-!
# OneCipher.KeyAgent.AuditLog — the signed audit log

`oc-keyagent/src/audit.rs`.  The log is a file of one JSON object a line.  Every entry carries the hash of the
entry before it and a signature of the device; both are taken over the entry's canonical bytes, its compact JSON
with an empty signature.
-/

namespace OneCipher.KeyAgent

open JsonText Serde HashChain List Result

/-! ## Entries -/

/-- The `snake_case` name. -/
def EventType.text : EventType → String
  | .createSessionKey => "create_session_key"
  | .revokeSessionKey => "revoke_session_key"
  | .signUserOp => "sign_user_op"
  | .passkeyForged => "passkey_forged"
  | .passkeyMissing => "passkey_missing"
  | .passkeyReplay => "passkey_replay"
  | .policyLookupFailed => "policy_lookup_failed"
  | .policyParseFailed => "policy_parse_failed"
  | .humanAlert => "human_alert"
  | .budgetReclaim => "budget_reclaim"
  | .backupAttemptFailed => "backup_attempt_failed"
  | .backupLocked => "backup_locked"
  | .authFailed => "auth_failed"
  | .secretRead => "secret_read"
  | .secretWritten => "secret_written"
  | .secretDeleted => "secret_deleted"
  | .secretMigrated => "secret_migrated"
  | .ageRecipientAdded => "age_recipient_added"
  | .ageReencrypted => "age_reencrypted"
  | .challengeIssued => "challenge_issued"
  | .vaultLocked => "vault_locked"
  | .vaultUnlocked => "vault_unlocked"
  | .transactionSigned => "transaction_signed"
  | .authSigned => "auth_signed"
  | .siwxSigned => "siwx_signed"
  | .passkeyRegistered => "passkey_registered"
  | .enclavePending => "enclave_pending"
  | .enclaveResolved => "enclave_resolved"

def EventType.all : List EventType :=
  [.createSessionKey, .revokeSessionKey, .signUserOp, .passkeyForged, .passkeyMissing, .passkeyReplay,
    .policyLookupFailed, .policyParseFailed, .humanAlert, .budgetReclaim, .backupAttemptFailed, .backupLocked,
    .authFailed, .secretRead, .secretWritten, .secretDeleted, .secretMigrated, .ageRecipientAdded,
    .ageReencrypted, .challengeIssued, .vaultLocked, .vaultUnlocked, .transactionSigned, .authSigned,
    .siwxSigned, .passkeyRegistered, .enclavePending, .enclaveResolved]

def EventType.ofText (s : String) : Option EventType := EventType.all.find? (·.text = s)

theorem EventType.ofText_text (t : EventType) : ofText t.text = some t := by
  cases t <;> decide +kernel

structure AuditEntry where
  deviceId : String
  seq : UInt64
  timestamp : String
  eventType : EventType
  sessionKeyId : Option String
  payload : JsonValue
  prevHash : String
  deviceSig : String

namespace AuditEntry

/-- The entry with `device_sig = ""`. -/
def unsigned (e : AuditEntry) : AuditEntry := { e with deviceSig := "" }

def fieldNames : List String :=
  ["device_id", "seq", "timestamp", "event_type", "session_key_id", "payload", "prev_hash", "device_sig"]

def sessionKeyJson : Option String → Json
  | none => .null
  | some id => .str id

def toJson (e : AuditEntry) : Json :=
  .obj [("device_id", .str e.deviceId), ("seq", .num (.posInt e.seq)), ("timestamp", .str e.timestamp),
    ("event_type", .str e.eventType.text), ("session_key_id", sessionKeyJson e.sessionKeyId),
    ("payload", e.payload.json), ("prev_hash", .str e.prevHash), ("device_sig", .str e.deviceSig)]

/-- A variant without data is its name, or an object of the name and `null`. -/
def readEventType : Json → Option EventType
  | .str s => EventType.ofText s
  | .obj [(s, .null)] => EventType.ofText s
  | _ => none

def readPayload (j : Json) : Option JsonValue := some (.ofJson j)

def fromMembers (ms : List (String × Json)) : Option AuditEntry := do
  let deviceId ← readField Json.asStr none (fieldValues "device_id" ms)
  let seq ← readField readU64 none (fieldValues "seq" ms)
  let timestamp ← readField Json.asStr none (fieldValues "timestamp" ms)
  let eventType ← readField readEventType none (fieldValues "event_type" ms)
  let sessionKeyId ← readField readNullable (some none) (fieldValues "session_key_id" ms)
  let payload ← readField readPayload none (fieldValues "payload" ms)
  let prevHash ← readField Json.asStr none (fieldValues "prev_hash" ms)
  let deviceSig ← readField Json.asStr none (fieldValues "device_sig" ms)
  return ⟨deviceId, seq, timestamp, eventType, sessionKeyId, payload, prevHash, deviceSig⟩

def fromJson : Json → Option AuditEntry
  | .obj ms => fromMembers ms
  | .arr items => if items.length = fieldNames.length then fromMembers (fieldNames.zip items) else none
  | _ => none

theorem readNullable_sessionKeyJson (id : Option String) : readNullable (sessionKeyJson id) = some id := by
  cases id <;> rfl

theorem readPayload_json (v : JsonValue) : readPayload v.json = some v := by
  rw [readPayload, JsonValue.ofJson_json]

theorem fromJson_toJson (e : AuditEntry) : fromJson e.toJson = some e := by
  simp [fromJson, toJson, fromMembers, fieldValues, readField, Json.asStr, readEventType, readU64,
    EventType.ofText_text, readNullable_sessionKeyJson, readPayload_json]

/-- The entry's line can be read back: the numbers of the payload are printed faithfully and it leaves the
reader one level of nesting for the entry itself. -/
def Legible (F : FloatText) (payload : JsonValue) : Prop := Writable F payload.json ∧ payload.json.depth + 1 ≤ maxLevels

theorem writable_toJson {F : FloatText} {e : AuditEntry} (h : Legible F e.payload) : Writable F e.toJson := by
  have hkey : Writable F (sessionKeyJson e.sessionKeyId) := by
    cases e.sessionKeyId <;> exact trivial
  exact ⟨trivial, printable_posInt F e.seq, trivial, trivial, hkey, h.1, trivial, trivial, trivial⟩

theorem depth_toJson (e : AuditEntry) : e.toJson.depth = e.payload.json.depth + 1 := by
  have hkey : (sessionKeyJson e.sessionKeyId).depth = 0 := by
    cases e.sessionKeyId <;> rfl
  have hdepth : e.toJson.depth = max 0 (max 0 (max 0 (max 0 (max (sessionKeyJson e.sessionKeyId).depth
      (max e.payload.json.depth (max 0 (max 0 0))))))) + 1 := rfl
  omega

end AuditEntry

/-! ## The log -/

inductive AuditError where
  | json
  | tampered (seq : UInt64)
  | chainHashMismatch (seq : UInt64)
  | signature (message : String)
  deriving DecidableEq, Repr

/-- What is not in the repository: Ed25519 under the device key, SHA-256 and the text of floats. -/
structure AuditHost where
  floats : FloatText
  sign : Bytes → Bytes
  verify : Bytes → Bytes → Bool
  sha256 : Bytes → Bytes
  length_sign : ∀ m, (sign m).length = 64
  verify_sign : ∀ m, verify m (sign m) = true
  length_sha256 : ∀ m, (sha256 m).length = 32

structure AuditLog where
  deviceId : String
  lastHash : String
  lastSeq : UInt64
  deriving DecidableEq, Repr

section Log

variable (host : AuditHost)

variable (e : AuditEntry) (file : List Char)

def canonicalBytes : Bytes := (text host.floats e.unsigned.toJson).flatMap String.utf8EncodeChar

def hashEntry : String := Text.hexEncode (host.sha256 (canonicalBytes host e))

/-- `serde_json::to_string`. -/
def entryLine : List Char := text host.floats e.toJson

/-- `serde_json::from_str`. -/
def readEntry (line : List Char) : Option AuditEntry := (read host.floats line).bind AuditEntry.fromJson

def isBlankLine (line : List Char) : Bool := (Lines.trim line).isEmpty

/-- One line of `load_tail`: lines that are not entries are skipped. -/
def loadLine (tail : String × UInt64) (line : List Char) : String × UInt64 :=
  if isBlankLine line then tail
  else match readEntry host line with
    | some e => (hashEntry host e, e.seq)
    | none => tail

def loadTail : String × UInt64 := (Lines.lines file).foldl (loadLine host) ("", 0)

/-- `AuditLog::open` of a file with that text; a new file is empty. -/
def AuditLog.openLog (deviceId : String) (file : List Char) : AuditLog :=
  ⟨deviceId, (loadTail host file).1, (loadTail host file).2⟩

/-- The entry `append` signs. -/
def AuditLog.nextEntry (log : AuditLog) (now : String) (eventType : EventType) (sessionKeyId : Option String)
    (payload : JsonValue) : AuditEntry :=
  ⟨log.deviceId, log.lastSeq + 1, now, eventType, sessionKeyId, payload, log.lastHash, ""⟩

def signEntry : AuditEntry := { e with deviceSig := Text.hexEncode (host.sign (canonicalBytes host e)) }

/-- `append`, its writes successful: the sequence number, the log and the text of the file. -/
def AuditLog.append (log : AuditLog) (file : List Char) (now : String) (eventType : EventType)
    (sessionKeyId : Option String) (payload : JsonValue) : Outcome AuditError (UInt64 × AuditLog × List Char) :=
  if log.lastSeq.toNat + 1 < 2 ^ 64 then
    let e := signEntry host (log.nextEntry now eventType sessionKeyId payload)
    .ok (e.seq, { log with lastHash := hashEntry host e, lastSeq := e.seq }, file ++ (entryLine host e ++ ['\n']))
  else .error .panic

/-! ### Verification -/

def checkSignature (sig : Bytes) : Except AuditError Unit :=
  if sig.length ≠ 64 then
    .error (.signature ("invalid signature length: " ++ toString sig.length ++ " (expected 64)"))
  else if host.verify (canonicalBytes host e) sig then .ok ()
  else .error (.tampered e.seq)

def verifyEntry (prevHash : String) (e : AuditEntry) : Except AuditError String :=
  if e.prevHash ≠ prevHash then .error (.chainHashMismatch e.seq)
  else do
    let sig ← (Text.hexDecode e.deviceSig).mapError fun err => AuditError.signature err.message
    checkSignature host e sig
    return hashEntry host e

def verifyLines : String → List (List Char) → Except AuditError Unit
  | _, [] => .ok ()
  | prevHash, line :: rest =>
    if isBlankLine line then verifyLines prevHash rest
    else match readEntry host line with
      | none => .error .json
      | some e => do
        let next ← verifyEntry host prevHash e
        verifyLines next rest

/-- `verify_chain` on a file with that text. -/
def verifyChain : Except AuditError Unit := verifyLines host "" (Lines.lines file)

def records : List (List Char) := (Lines.lines file).filter fun line => !isBlankLine line

def entriesOf : List AuditEntry := (records file).filterMap (readEntry host)

/-- The stored signature is one of the device over the canonical bytes. -/
def Verifies : Prop :=
  ∃ sig, Text.hexDecode e.deviceSig = .ok sig ∧ sig.length = 64 ∧ host.verify (canonicalBytes host e) sig = true

end Log

/-! ## Lines read back -/

section Lines

variable {host : AuditHost} {e : AuditEntry}

theorem readEntry_entryLine (h : AuditEntry.Legible host.floats e.payload) :
    readEntry host (entryLine host e) = some e := by
  have hdepth : e.toJson.depth ≤ maxLevels := by
    rw [e.depth_toJson]
    exact h.2
  rw [readEntry, entryLine, read_text (AuditEntry.writable_toJson h) hdepth]
  exact e.fromJson_toJson

theorem isBlankLine_entryLine (e : AuditEntry) : isBlankLine (entryLine host e) = false := by
  rw [isBlankLine, entryLine, AuditEntry.toJson, trim_text_obj, isEmpty_eq_false_iff]
  exact text_obj_ne_nil _

theorem flatMap_utf8EncodeChar_injective {a b : List Char}
    (h : a.flatMap String.utf8EncodeChar = b.flatMap String.utf8EncodeChar) : a = b := by
  have hutf8 : ∀ cs : List Char, cs.flatMap String.utf8EncodeChar = Text.utf8 (String.ofList cs) := by
    intro cs
    rw [Text.utf8, String.toList_ofList]
  rw [hutf8, hutf8] at h
  have htext := Wallet.utf8Text_utf8 (String.ofList a)
  rw [h, Wallet.utf8Text_utf8] at htext
  exact (String.ofList_injective (Option.some.inj htext)).symm

theorem unsigned_eq_of_canonicalBytes {a b : AuditEntry} (ha : AuditEntry.Legible host.floats a.payload)
    (hb : AuditEntry.Legible host.floats b.payload) (h : canonicalBytes host a = canonicalBytes host b) :
    a.unsigned = b.unsigned := by
  have hline : entryLine host a.unsigned = entryLine host b.unsigned := flatMap_utf8EncodeChar_injective h
  have hread : readEntry host (entryLine host a.unsigned) = some a.unsigned := readEntry_entryLine ha
  rw [hline, readEntry_entryLine (e := b.unsigned) hb] at hread
  exact (Option.some.inj hread).symm

theorem hexEncode_injective {a b : Bytes} (h : Text.hexEncode a = Text.hexEncode b) : a = b := by
  have hdecode := Text.hexDecode_hexEncode a
  rw [h, Text.hexDecode_hexEncode] at hdecode
  exact (Except.ok.inj hdecode).symm

theorem hashEntry_ne_empty (host : AuditHost) (e : AuditEntry) : hashEntry host e ≠ "" := by
  intro h
  have hempty : Text.hexEncode (host.sha256 (canonicalBytes host e)) = Text.hexEncode [] := h
  have hlen := host.length_sha256 (canonicalBytes host e)
  rw [hexEncode_injective hempty] at hlen
  cases hlen

end Lines

/-! ## What verification accepts -/

section Verify

variable {host : AuditHost} {e : AuditEntry} {prevHash : String}

theorem checkSignature_eq_ok {sig : Bytes} :
    checkSignature host e sig = .ok () ↔ sig.length = 64 ∧ host.verify (canonicalBytes host e) sig = true := by
  rw [checkSignature, guard_eq_ok, not_not]
  cases host.verify (canonicalBytes host e) sig <;> simp

theorem verifyEntry_eq_ok {next : String} :
    verifyEntry host prevHash e = .ok next ↔ e.prevHash = prevHash ∧ Verifies host e ∧ next = hashEntry host e := by
  rw [verifyEntry, guard_eq_ok, not_not, bind_eq_ok]
  constructor
  · rintro ⟨hprev, sig, hdecode, h⟩
    obtain ⟨_, hcheck, h⟩ := bind_eq_ok.mp h
    obtain ⟨hlen, hverify⟩ := checkSignature_eq_ok.mp hcheck
    exact ⟨hprev, ⟨sig, mapError_eq_ok.mp hdecode, hlen, hverify⟩, (Except.ok.inj h).symm⟩
  · rintro ⟨hprev, ⟨sig, hdecode, hlen, hverify⟩, rfl⟩
    refine ⟨hprev, sig, mapError_eq_ok.mpr hdecode, ?_⟩
    rw [checkSignature_eq_ok.mpr ⟨hlen, hverify⟩]
    rfl

theorem entriesOf_of_map {file : List Char} {es : List AuditEntry}
    (h : (records file).map (readEntry host) = es.map some) : entriesOf host file = es := by
  have hmap : entriesOf host file = ((records file).map (readEntry host)).filterMap id := by
    rw [filterMap_map]
    rfl
  rw [hmap, h, filterMap_map]
  exact filterMap_some

theorem verifyLines_eq_ok {ls : List (List Char)} :
    verifyLines host prevHash ls = .ok () ↔
      ∃ es, (ls.filter fun line => !isBlankLine line).map (readEntry host) = es.map some ∧
        Chained (hashEntry host) AuditEntry.prevHash prevHash es ∧ ∀ e ∈ es, Verifies host e := by
  induction ls generalizing prevHash with
  | nil =>
    refine ⟨fun _ => ⟨[], rfl, trivial, fun e he => nomatch he⟩, fun _ => rfl⟩
  | cons line _ ih =>
    rw [verifyLines]
    cases hblank : isBlankLine line with
    | true => simp [ih, hblank]
    | false =>
      simp only [Bool.false_eq_true, if_false, filter_cons, hblank, Bool.not_false, if_true, map_cons]
      cases hread : readEntry host line with
      | none =>
        constructor
        · nofun
        · rintro ⟨es, hes, -⟩
          rcases es with _ | ⟨e, es⟩ <;> simp at hes
      | some e =>
        rw [bind_eq_ok]
        constructor
        · rintro ⟨next, hentry, hrest⟩
          obtain ⟨hprev, hverifies, rfl⟩ := verifyEntry_eq_ok.mp hentry
          obtain ⟨es, hes, hchain, hall⟩ := ih.mp hrest
          refine ⟨e :: es, by rw [hes, map_cons], ⟨hprev, hchain⟩, ?_⟩
          intro f hf
          rcases mem_cons.mp hf with rfl | hf
          · exact hverifies
          · exact hall f hf
        · rintro ⟨es, hes, hchain, hall⟩
          rcases es with _ | ⟨f, es⟩
          · simp at hes
          · obtain ⟨hf, htail⟩ := List.cons.inj hes
            cases hf
            refine ⟨_, verifyEntry_eq_ok.mpr ⟨hchain.1, hall e mem_cons_self, rfl⟩, ih.mpr ⟨es, htail, hchain.2, ?_⟩⟩
            intro f hf
            exact hall f (mem_cons_of_mem e hf)

/-- **What `verify_chain` accepts**: every line that is not blank is an entry, the entries are chained by
their hashes from the empty one, and each is signed. -/
theorem verifyChain_eq_ok {file : List Char} :
    verifyChain host file = .ok () ↔ (records file).map (readEntry host) = (entriesOf host file).map some ∧
      Chained (hashEntry host) AuditEntry.prevHash "" (entriesOf host file) ∧
      ∀ e ∈ entriesOf host file, Verifies host e := by
  rw [verifyChain, verifyLines_eq_ok]
  constructor
  · rintro ⟨es, hes, hchain, hall⟩
    rw [entriesOf_of_map hes]
    exact ⟨hes, hchain, hall⟩
  · rintro ⟨hes, hchain, hall⟩
    exact ⟨_, hes, hchain, hall⟩

end Verify

end OneCipher.KeyAgent
