import OneCipher.KeyAgent.AuditLog

/-!
# OneCipher.KeyAgent.AuditRuns — runs of the audit log

A run appends entries to one log and opens it again in between.  `audit_run_verifies`: if every payload can be read
back from the line it is written in, the file verifies, its sequence numbers count from one, and any file that
verifies and was written without the device key holds a prefix of what was appended.
-/

namespace OneCipher.KeyAgent

open JsonText Serde HashChain List
open AuditLog (openLog)
open Lines (unlines)
open AuditEntry (prevHash unsigned)

/-! ## Runs -/

/-- The file, the log opened on it, and the entries appended so far. -/
structure AuditRun where
  file : List Char
  log : AuditLog
  appended : List AuditEntry

/-- A call of `append` with the time it read, or a new `open`. -/
inductive AuditStep where
  | append (now : String) (eventType : EventType) (sessionKeyId : Option String) (payload : JsonValue)
  | reopen (deviceId : String)

/-- The payload of an append can be read back. -/
def AuditStep.Legible (F : FloatText) : AuditStep → Prop
  | .append _ _ _ payload => AuditEntry.Legible F payload
  | .reopen _ => True

def AuditStep.isAppend : AuditStep → Bool
  | .append .. => true
  | .reopen _ => false

section Run

variable (host : AuditHost)

def AuditRun.start (deviceId : String) : AuditRun := ⟨[], openLog host deviceId [], []⟩

def AuditRun.step (w : AuditRun) : AuditStep → Outcome AuditError AuditRun
  | .append now eventType sessionKeyId payload => do
    let (_, log, file) ← w.log.append host w.file now eventType sessionKeyId payload
    return ⟨file, log, w.appended ++ [signEntry host (w.log.nextEntry now eventType sessionKeyId payload)]⟩
  | .reopen deviceId => .ok { w with log := openLog host deviceId w.file }

def AuditRun.run (steps : List AuditStep) (w : AuditRun) : Outcome AuditError AuditRun :=
  steps.foldlM (AuditRun.step host) w

def tailOf (es : List AuditEntry) : String × UInt64 := es.foldl (fun _ e => (hashEntry host e, e.seq)) ("", 0)

/-- The file holds what was appended, chained and signed, and the log its tail. -/
structure AuditRun.Sound (w : AuditRun) : Prop where
  file : w.file = unlines (w.appended.map (entryLine host))
  tail : (w.log.lastHash, w.log.lastSeq) = tailOf host w.appended
  count : w.log.lastSeq.toNat = w.appended.length
  seqs : w.appended.map (·.seq.toNat) = List.range' 1 w.appended.length
  chained : Chained (hashEntry host) prevHash "" w.appended
  signed : ∀ e ∈ w.appended, e.deviceSig = Text.hexEncode (host.sign (canonicalBytes host e))
  legible : ∀ e ∈ w.appended, AuditEntry.Legible host.floats e.payload

end Run

variable {host : AuditHost}

/-! ## What the file of a sound run holds -/

theorem records_unlines {es : List AuditEntry} (h : ∀ e ∈ es, AuditEntry.Legible host.floats e.payload) :
    Lines.lines (unlines (es.map (entryLine host))) = es.map (entryLine host) ∧
      records (unlines (es.map (entryLine host))) = es.map (entryLine host) := by
  have hlines : Lines.lines (unlines (es.map (entryLine host))) = es.map (entryLine host) := by
    apply Lines.lines_unlines
    intro line hline
    obtain ⟨e, he, rfl⟩ := mem_map.mp hline
    exact unbroken_text (AuditEntry.writable_toJson (h e he))
  refine ⟨hlines, ?_⟩
  rw [records, hlines, filter_eq_self]
  intro line hline
  obtain ⟨e, -, rfl⟩ := mem_map.mp hline
  rw [isBlankLine_entryLine]
  rfl

theorem map_readEntry {es : List AuditEntry} (h : ∀ e ∈ es, AuditEntry.Legible host.floats e.payload) :
    (es.map (entryLine host)).map (readEntry host) = es.map some := by
  rw [map_map]
  exact map_congr_left fun e he => readEntry_entryLine (h e he)

theorem loadTail_unlines {es : List AuditEntry} (h : ∀ e ∈ es, AuditEntry.Legible host.floats e.payload) :
    loadTail host (unlines (es.map (entryLine host))) = tailOf host es := by
  rw [loadTail, (records_unlines h).1, tailOf]
  generalize (("", 0) : String × UInt64) = tail
  induction es generalizing tail with
  | nil => rfl
  | cons e _ ih =>
    have hline : loadLine host tail (entryLine host e) = (hashEntry host e, e.seq) := by
      rw [loadLine, isBlankLine_entryLine, readEntry_entryLine (h e mem_cons_self)]
      rfl
    rw [map_cons, foldl_cons, foldl_cons, hline]
    exact ih (fun f hf => h f (mem_cons_of_mem e hf)) _

theorem fst_tailOf (es : List AuditEntry) : (tailOf host es).1 = tip (hashEntry host) "" es := by
  rcases eq_nil_or_concat es with rfl | ⟨es, e, rfl⟩
  · rfl
  · rw [concat_eq_append, tip_concat, tailOf, foldl_append]
    rfl

theorem verifies_of_signed {e : AuditEntry}
    (h : e.deviceSig = Text.hexEncode (host.sign (canonicalBytes host e))) : Verifies host e := by
  refine ⟨host.sign (canonicalBytes host e), ?_, host.length_sign _, host.verify_sign _⟩
  rw [h, Text.hexDecode_hexEncode]

namespace AuditRun.Sound

variable {w : AuditRun} (h : w.Sound host)

include h

theorem records_eq : records w.file = w.appended.map (entryLine host) := by
  rw [h.file]
  exact (records_unlines h.legible).2

theorem entriesOf_eq : entriesOf host w.file = w.appended := by
  apply entriesOf_of_map
  rw [h.records_eq]
  exact map_readEntry h.legible

theorem verifyChain_file : verifyChain host w.file = .ok () := by
  rw [verifyChain_eq_ok, h.entriesOf_eq, h.records_eq]
  refine ⟨map_readEntry h.legible, h.chained, ?_⟩
  intro e he
  exact verifies_of_signed (h.signed e he)

/-! ## Steps and runs -/

theorem step_append {now : String} {eventType : EventType} {sessionKeyId : Option String} {payload : JsonValue}
    {w' : AuditRun} (hpayload : AuditEntry.Legible host.floats payload)
    (hstep : w.step host (.append now eventType sessionKeyId payload) = .ok w') : w'.Sound host := by
  rw [AuditRun.step, AuditLog.append] at hstep
  split_ifs at hstep with hbound
  case neg => cases hstep
  case pos =>
    cases hstep
    set e := signEntry host (w.log.nextEntry now eventType sessionKeyId payload) with he
    have hlast : w.log.lastHash = tip (hashEntry host) "" w.appended := by
      rw [← fst_tailOf, ← h.tail]
    have hseq : e.seq.toNat = w.appended.length + 1 := by
      show (w.log.lastSeq + 1).toNat = _
      rw [← h.count, UInt64.toNat_add]
      exact Nat.mod_eq_of_lt hbound
    constructor
    case file =>
      show w.file ++ (entryLine host e ++ ['\n']) = _
      rw [h.file, unlines, unlines, map_append, flatMap_append]
      simp
    case tail =>
      show (hashEntry host e, e.seq) = _
      rw [tailOf, foldl_append]
      rfl
    case count =>
      show e.seq.toNat = _
      rw [hseq, length_append]
      rfl
    case seqs =>
      rw [map_append, h.seqs, length_append, length_singleton, range'_concat, map_singleton, hseq]
      congr 2
      omega
    case chained => exact chained_concat.mpr ⟨h.chained, hlast⟩
    case signed =>
      intro f hf
      rcases mem_append.mp hf with hf | hf
      · exact h.signed f hf
      · obtain rfl := mem_singleton.mp hf
        rfl
    case legible =>
      intro f hf
      rcases mem_append.mp hf with hf | hf
      · exact h.legible f hf
      · obtain rfl := mem_singleton.mp hf
        exact hpayload

theorem step_reopen (deviceId : String) : Sound host { w with log := openLog host deviceId w.file } := by
  have htail : loadTail host w.file = (w.log.lastHash, w.log.lastSeq) := by
    rw [h.file, loadTail_unlines h.legible, h.tail]
  have hlog : openLog host deviceId w.file = ⟨deviceId, w.log.lastHash, w.log.lastSeq⟩ := by
    rw [openLog, htail]
  rw [hlog]
  exact ⟨h.file, h.tail, h.count, h.seqs, h.chained, h.signed, h.legible⟩

theorem step {s : AuditStep} {w' : AuditRun} (hs : s.Legible host.floats) (hstep : w.step host s = .ok w') :
    w'.Sound host ∧ w'.appended.length = w.appended.length + if s.isAppend then 1 else 0 := by
  cases s with
  | append =>
    refine ⟨h.step_append hs hstep, ?_⟩
    obtain ⟨_, -, hret⟩ := Result.bind_eq_ok.mp hstep
    cases hret
    exact length_append
  | reopen deviceId =>
    cases hstep
    exact ⟨h.step_reopen deviceId, rfl⟩

theorem run {steps : List AuditStep} {w' : AuditRun} (hs : ∀ s ∈ steps, s.Legible host.floats)
    (hrun : w.run host steps = .ok w') :
    w'.Sound host ∧ w'.appended.length = w.appended.length + steps.countP AuditStep.isAppend := by
  induction steps generalizing w with
  | nil =>
    cases hrun
    exact ⟨h, rfl⟩
  | cons s _ ih =>
    obtain ⟨v, hstep, hrest⟩ := Result.bind_eq_ok.mp hrun
    obtain ⟨hv, hlen⟩ := h.step (hs s mem_cons_self) hstep
    obtain ⟨hw, hlen'⟩ := ih hv (fun t ht => hs t (mem_cons_of_mem s ht)) hrest
    refine ⟨hw, ?_⟩
    rw [hlen', hlen, countP_cons]
    omega

end AuditRun.Sound

theorem sound_start (host : AuditHost) (deviceId : String) : (AuditRun.start host deviceId).Sound host where
  file := rfl
  tail := rfl
  count := rfl
  seqs := rfl
  chained := trivial
  signed := fun _ he => nomatch he
  legible := fun _ he => nomatch he

/-! ## Files written without the device key -/

/-- What is assumed of a file somebody without the device key wrote: a signature in it that verifies was
made by the device, for an entry it appended; SHA-256 tells the appended entries apart; and the canonical
form tells the file's entries from the appended ones, but for the signature. -/
structure Unforged (host : AuditHost) (appended : List AuditEntry) (file : List Char) : Prop where
  signature : ∀ e ∈ entriesOf host file, Verifies host e → ∃ a ∈ appended, canonicalBytes host e = canonicalBytes host a
  sha256 : ∀ a ∈ appended, ∀ b ∈ appended, host.sha256 (canonicalBytes host a) = host.sha256 (canonicalBytes host b) →
    canonicalBytes host a = canonicalBytes host b
  canonical : ∀ e ∈ entriesOf host file, ∀ a ∈ appended, canonicalBytes host e = canonicalBytes host a →
    e.unsigned = a.unsigned

theorem AuditRun.Sound.separated {w : AuditRun} (h : w.Sound host)
    (hsha : ∀ a ∈ w.appended, ∀ b ∈ w.appended,
      host.sha256 (canonicalBytes host a) = host.sha256 (canonicalBytes host b) →
        canonicalBytes host a = canonicalBytes host b) :
    Separated (hashEntry host) "" (w.appended.map unsigned) := by
  constructor
  · intro a' ha' b' hb' hhash
    obtain ⟨a, ha, rfl⟩ := mem_map.mp ha'
    obtain ⟨b, hb, rfl⟩ := mem_map.mp hb'
    have hbytes := hsha a ha b hb (hexEncode_injective hhash)
    exact unsigned_eq_of_canonicalBytes (h.legible a ha) (h.legible b hb) hbytes
  · intro a _
    exact hashEntry_ne_empty host a

theorem AuditRun.Sound.prefix_of_verifyChain {w : AuditRun} (h : w.Sound host) {file : List Char}
    (hfile : Unforged host w.appended file) (hok : verifyChain host file = .ok ()) :
    (entriesOf host file).map unsigned <+: w.appended.map unsigned := by
  obtain ⟨-, hchain, hverifies⟩ := verifyChain_eq_ok.mp hok
  -- links and predecessors do not depend on the signature
  have hunsigned : ∀ {es : List AuditEntry}, Chained (hashEntry host) prevHash "" es →
      Chained (hashEntry host) prevHash "" (es.map unsigned) := by
    intro es hes
    exact (chained_map (fun _ => rfl) fun _ => rfl).mpr hes
  apply Chained.prefix_of_subset (h.separated hfile.sha256) (hunsigned h.chained) (hunsigned hchain)
  intro e' he'
  obtain ⟨e, he, rfl⟩ := mem_map.mp he'
  obtain ⟨a, ha, hbytes⟩ := hfile.signature e he (hverifies e he)
  rw [hfile.canonical e he a ha hbytes]
  exact mem_map_of_mem ha

/-- **A run whose payloads can be read back leaves a file that verifies**, with the sequence numbers `1..n`
in order, and no file written without the device key verifies unless it holds a prefix of what was
appended. -/
theorem audit_run_verifies (host : AuditHost) (deviceId : String) (steps : List AuditStep) (w : AuditRun)
    (hrun : (AuditRun.start host deviceId).run host steps = .ok w) (hlegible : ∀ s ∈ steps, s.Legible host.floats) :
    (verifyChain host w.file = .ok () ∧
      (entriesOf host w.file).map (·.seq.toNat) = List.range' 1 (steps.countP AuditStep.isAppend)) ∧
    ∀ file, Unforged host w.appended file → verifyChain host file = .ok () →
      (entriesOf host file).map unsigned <+: w.appended.map unsigned := by
  obtain ⟨hsound, hlen⟩ := (sound_start host deviceId).run hlegible hrun
  have hcount : w.appended.length = steps.countP AuditStep.isAppend := by
    rw [hlen]
    exact Nat.zero_add _
  refine ⟨⟨hsound.verifyChain_file, ?_⟩, ?_⟩
  · rw [hsound.entriesOf_eq, hsound.seqs, hcount]
  · intro file hfile hok
    exact hsound.prefix_of_verifyChain hfile hok

theorem AuditRun.Sound.unforged_file {w : AuditRun} (h : w.Sound host)
    (hsha : ∀ a ∈ w.appended, ∀ b ∈ w.appended,
      host.sha256 (canonicalBytes host a) = host.sha256 (canonicalBytes host b) →
        canonicalBytes host a = canonicalBytes host b) :
    Unforged host w.appended w.file := by
  constructor
  case signature =>
    intro e he _
    rw [h.entriesOf_eq] at he
    exact ⟨e, he, rfl⟩
  case sha256 => exact hsha
  case canonical =>
    intro e he a ha hbytes
    rw [h.entriesOf_eq] at he
    exact unsigned_eq_of_canonicalBytes (h.legible e he) (h.legible a ha) hbytes

def lengthHost : AuditHost where
  floats := ⟨fun _ => ['0'], fun _ => none⟩
  sign m := List.replicate 64 (UInt8.ofNat m.length)
  verify m sig := sig == List.replicate 64 (UInt8.ofNat m.length)
  sha256 m := List.replicate 32 (UInt8.ofNat m.length)
  length_sign _ := List.length_replicate
  verify_sign _ := beq_self_eq_true _
  length_sha256 _ := List.length_replicate

theorem normal_null : normal .null = .null := rfl

def oneEntrySteps : List AuditStep :=
  [.append "2026-01-01T00:00:00Z" .authFailed none ⟨.null, normal_null⟩, .reopen "laptop"]

theorem audit_run_verifies_one :
    ∃ w, (AuditRun.start lengthHost "laptop").run lengthHost oneEntrySteps = .ok w ∧
      (verifyChain lengthHost w.file = .ok () ∧ (entriesOf lengthHost w.file).map (·.seq.toNat) = [1]) ∧
      Unforged lengthHost w.appended w.file ∧
      (entriesOf lengthHost w.file).map unsigned <+: w.appended.map unsigned := by
  have hlegible : ∀ s ∈ oneEntrySteps, s.Legible lengthHost.floats := by
    intro s hs
    rcases mem_cons.mp hs with rfl | hs
    · exact ⟨trivial, by decide⟩
    · obtain rfl := mem_singleton.mp hs
      exact trivial
  obtain ⟨w, hrun⟩ : ∃ w, (AuditRun.start lengthHost "laptop").run lengthHost oneEntrySteps = .ok w := ⟨_, rfl⟩
  obtain ⟨hsound, hlen⟩ := (sound_start lengthHost "laptop").run hlegible hrun
  obtain ⟨⟨hok, hseqs⟩, hprefix⟩ := audit_run_verifies lengthHost "laptop" oneEntrySteps w hrun hlegible
  obtain ⟨e, he⟩ := length_eq_one_iff.mp hlen
  have hunforged : Unforged lengthHost w.appended w.file := by
    apply hsound.unforged_file
    intro a ha b hb _
    rw [he] at ha hb
    rw [mem_singleton.mp ha, mem_singleton.mp hb]
  exact ⟨w, hrun, ⟨hok, hseqs⟩, hunforged, hprefix w.file hunforged hok⟩

/-! ### Payloads that are nested too deeply -/

def nested : Nat → Json
  | 0 => .arr []
  | n + 1 => .arr [nested n]

theorem normal_nested (n : Nat) : normal (nested n) = nested n := by
  induction n with
  | zero => rfl
  | succ _ ih => rw [nested, normal, normalItems, normalItems, ih]

def deepPayload : JsonValue := ⟨nested 126, normal_nested 126⟩

def deepRun : Outcome AuditError AuditRun :=
  (AuditRun.start lengthHost "laptop").run lengthHost [.append "2026-01-01T00:00:00Z" .authFailed none deepPayload]

/-- The append returns, the file does not verify, and the log opened again would give the next entry the
same sequence number. -/
theorem deep_payload_breaks_chain :
    deepRun.toOption.map (fun w =>
      (verifyChain lengthHost w.file, w.appended.map (·.seq), loadTail lengthHost w.file)) =
        some (.error .json, [1], ("", 0)) := by
  decide +kernel

end OneCipher.KeyAgent
