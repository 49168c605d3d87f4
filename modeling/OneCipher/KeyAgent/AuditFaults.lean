import OneCipher.Base.JsonTorn
import OneCipher.Base.Utf8
import OneCipher.KeyAgent.AuditRuns

/-!
# OneCipher.KeyAgent.AuditFaults — appends that do not finish

`append` writes the line of its entry and then a newline, and neither it nor `open` looks at how the file ends.
Two ways to fall short are modelled: the process dies after some bytes of the line reached the file and the log is
opened again (`AuditRun.crash`), and a file operation fails with the process alive, so that the handle keeps its
old tail (`AuditLog.appendFaulty`).
-/

namespace OneCipher.KeyAgent

open JsonText Serde HashChain List Utf8
open AuditEntry (Legible)
open AuditLog (openLog)
open Wallet (utf8Text utf8Text_encode)
open Lines (byteLen unlines)

/-! ## Files as bytes -/

/-- The arguments of `append` and the time it reads. -/
structure AppendCall where
  now : String
  eventType : EventType
  sessionKeyId : Option String
  payload : JsonValue

def AppendCall.step (c : AppendCall) : AuditStep := .append c.now c.eventType c.sessionKeyId c.payload

section Bytes

variable (host : AuditHost)

def AppendCall.entry (log : AuditLog) (c : AppendCall) : AuditEntry :=
  signEntry host (log.nextEntry c.now c.eventType c.sessionKeyId c.payload)

def readByteLine (line : Bytes) : Option AuditEntry := (utf8Text line).bind fun s => readEntry host s.toList

/-- The entry can be parsed from one of the file's lines. -/
def ParsedFrom (bytes : Bytes) (e : AuditEntry) : Prop := ∃ line ∈ bytes.splitOn 10, readByteLine host line = some e

/-- Every one of the entries can be parsed from a line of the file, and no two share a sequence number. -/
def EntriesKept (bytes : Bytes) (entries : List AuditEntry) : Prop :=
  (∀ e ∈ entries, ParsedFrom host bytes e) ∧ (entries.map (·.seq)).Nodup

/-! ## A crash -/

/-- `append` dies when `cut` bytes of its line and newline have reached the file, the log is opened again and
further calls return: the bytes of the file and the entries of the calls that returned.  A file that is not
UTF-8 is not opened: `lines` fails on it. -/
def AuditRun.crash (w : AuditRun) (torn : AppendCall) (cut : Nat) (deviceId : String) (after : List AppendCall) :
    Outcome AuditError (Bytes × List AuditEntry) := do
  let (_, _, file) ← w.log.append host w.file torn.now torn.eventType torn.sessionKeyId torn.payload
  let bytes := (encode file).take ((encode w.file).length + cut)
  match utf8Text bytes with
  | none => return (bytes, w.appended)
  | some text => do
    let w' ← AuditRun.run host (after.map AppendCall.step)
      ⟨text.toList, openLog host deviceId text.toList, w.appended⟩
    return (encode w'.file, w'.appended)

/-- The cut leaves nothing of the line, all of it with its newline, or half a character. -/
def CutHarmless (line : List Char) (cut : Nat) : Prop :=
  cut = 0 ∨ byteLen line < cut ∨ utf8Text ((encode line).take cut) = none

end Bytes

variable {host : AuditHost}

theorem encode_of_utf8Text {b : Bytes} {s : String} (h : utf8Text b = some s) : encode s.toList = b :=
  Wallet.utf8_of_utf8Text h

theorem readByteLine_encode (cs : List Char) : readByteLine host (encode cs) = readEntry host cs := by
  rw [readByteLine, utf8Text_encode, Option.bind_some, String.toList_ofList]

theorem verifies_entry (c : AppendCall) (log : AuditLog) : Verifies host (c.entry host log) := verifies_of_signed rfl

theorem newline_notMem_entryLine {e : AuditEntry} (h : Legible host.floats e.payload) : '\n' ∉ entryLine host e :=
  (unbroken_text (AuditEntry.writable_toJson h)).1

theorem splitOn_entries {es : List AuditEntry} (h : ∀ e ∈ es, Legible host.floats e.payload)
    (rest : Bytes) : (encode (unlines (es.map (entryLine host))) ++ rest).splitOn 10 =
      es.map (fun e => encode (entryLine host e)) ++ rest.splitOn 10 := by
  rw [splitOn_encode_unlines, map_map]
  · rfl
  · intro line hline
    obtain ⟨e, he, rfl⟩ := mem_map.mp hline
    exact newline_notMem_entryLine (h e he)

variable {w : AuditRun}

theorem AuditRun.Sound.nodup_seqs (h : w.Sound host) : (w.appended.map (·.seq)).Nodup := by
  apply List.Nodup.of_map UInt64.toNat
  rw [map_map]
  have hseqs : w.appended.map (UInt64.toNat ∘ fun e => e.seq) = List.range' 1 w.appended.length := h.seqs
  rw [hseqs]
  exact nodup_range'

theorem AuditRun.Sound.entriesKept (h : w.Sound host) (rest : Bytes) :
    EntriesKept host (encode w.file ++ rest) w.appended := by
  refine ⟨?_, h.nodup_seqs⟩
  intro e he
  refine ⟨encode (entryLine host e), ?_, ?_⟩
  · rw [h.file, splitOn_entries h.legible]
    exact mem_append_left _ (mem_map_of_mem he)
  · rw [readByteLine_encode, readEntry_entryLine (h.legible e he)]

theorem EntriesKept.sublist {bytes : Bytes} {es fs : List AuditEntry} (h : EntriesKept host bytes fs)
    (hsub : es.Sublist fs) : EntriesKept host bytes es :=
  ⟨fun e he => h.1 e (hsub.subset he), h.2.sublist (hsub.map _)⟩

/-! ### Calls that return -/

theorem step_call {w' : AuditRun} {c : AppendCall} (h : w.step host c.step = .ok w') :
    w'.file = w.file ++ unlines [entryLine host (c.entry host w.log)] ∧
      w'.appended = w.appended ++ [c.entry host w.log] ∧
      ∀ b, AuditRun.step host { w with appended := b } c.step =
        .ok { w' with appended := b ++ [c.entry host w.log] } := by
  rw [AppendCall.step, AuditRun.step, AuditLog.append] at h
  split_ifs at h with hbound
  case neg => cases h
  case pos =>
    cases h
    refine ⟨by simp [unlines, AppendCall.entry], rfl, ?_⟩
    intro b
    rw [AppendCall.step, AuditRun.step, AuditLog.append, if_pos hbound]
    rfl

theorem run_calls {calls : List AppendCall} {w' : AuditRun} (h : w.run host (calls.map AppendCall.step) = .ok w') :
    ∃ new : List AuditEntry, w'.file = w.file ++ unlines (new.map (entryLine host)) ∧
      w'.appended = w.appended ++ new ∧ new.map (·.payload) = calls.map (·.payload) ∧
      ∀ b, AuditRun.run host (calls.map AppendCall.step) { w with appended := b } =
        .ok { w' with appended := b ++ new } := by
  induction calls generalizing w with
  | nil =>
    cases h
    refine ⟨[], (append_nil _).symm, (append_nil _).symm, rfl, ?_⟩
    intro b
    rw [append_nil]
    rfl
  | cons c calls ih =>
    obtain ⟨v, hstep, hrest⟩ := Result.bind_eq_ok.mp h
    obtain ⟨hfile, happended, hany⟩ := step_call hstep
    obtain ⟨new, hfile', happended', hpayload, hany'⟩ := ih hrest
    refine ⟨c.entry host w.log :: new, ?_, ?_, ?_, ?_⟩
    · rw [hfile', hfile, append_assoc, ← Lines.unlines_append]
      rfl
    · rw [happended', happended, append_assoc]
      rfl
    · rw [map_cons, map_cons, hpayload]
      rfl
    · intro b
      rw [map_cons, AuditRun.run, foldlM_cons, hany b]
      change AuditRun.run host (calls.map AppendCall.step) { v with appended := b ++ [c.entry host w.log] } = _
      rw [hany', append_assoc]
      rfl

/-! ### The file after the crash -/

def tornBytes (host : AuditHost) (w : AuditRun) (torn : AppendCall) (cut : Nat) : Bytes :=
  encode w.file ++ (encode (entryLine host (torn.entry host w.log) ++ ['\n'])).take cut

section Crash

variable {torn : AppendCall} {cut : Nat} {deviceId : String} {after : List AppendCall} {bytes : Bytes}
  {entries : List AuditEntry}

theorem crash_eq (h : w.log.lastSeq.toNat + 1 < 2 ^ 64) : w.crash host torn cut deviceId after =
    match utf8Text (tornBytes host w torn cut) with
    | none => .ok (tornBytes host w torn cut, w.appended)
    | some text => do
      let w' ← AuditRun.run host (after.map AppendCall.step)
        ⟨text.toList, openLog host deviceId text.toList, w.appended⟩
      return (encode w'.file, w'.appended) := by
  have hbytes : (encode (w.file ++ (entryLine host (torn.entry host w.log) ++ ['\n']))).take
      ((encode w.file).length + cut) = tornBytes host w torn cut := by
    rw [encode_append, take_length_add_append]
    rfl
  rw [AuditRun.crash, AuditLog.append, if_pos h, ← hbytes]
  rfl

theorem crash_cases (h : w.crash host torn cut deviceId after = .ok (bytes, entries)) :
    (∃ w₁, w.step host torn.step = .ok w₁) ∧
      ((utf8Text (tornBytes host w torn cut) = none ∧ bytes = tornBytes host w torn cut ∧ entries = w.appended) ∨
        ∃ text w', encode text = tornBytes host w torn cut ∧
          AuditRun.run host (after.map AppendCall.step) ⟨text, openLog host deviceId text, w.appended⟩ = .ok w' ∧
          bytes = encode w'.file ∧ entries = w'.appended) := by
  by_cases hbound : w.log.lastSeq.toNat + 1 < 2 ^ 64
  · refine ⟨⟨_, by rw [AppendCall.step, AuditRun.step, AuditLog.append, if_pos hbound]; rfl⟩, ?_⟩
    rw [crash_eq hbound] at h
    cases htext : utf8Text (tornBytes host w torn cut) with
    | none =>
      rw [htext] at h
      cases h
      exact Or.inl ⟨rfl, rfl, rfl⟩
    | some text =>
      rw [htext] at h
      obtain ⟨w', hrun, hret⟩ := Result.bind_eq_ok.mp h
      cases hret
      exact Or.inr ⟨text.toList, w', encode_of_utf8Text htext, hrun, rfl, rfl⟩
  · rw [AuditRun.crash, AuditLog.append, if_neg hbound] at h
    cases h

theorem take_line {line : List Char} (h : cut ≤ byteLen line) :
    (encode (line ++ ['\n'])).take cut = (encode line).take cut := by
  rw [encode_append]
  exact take_append_of_le_length h

theorem take_line_of_lt {line : List Char} (h : byteLen line < cut) :
    (encode (line ++ ['\n'])).take cut = encode (line ++ ['\n']) := by
  apply take_of_length_le
  rw [length_encode, Lines.byteLen_append, Lines.byteLen_newline]
  exact h

theorem tornBytes_line (w : AuditRun) (torn : AppendCall) :
    tornBytes host w torn (byteLen (entryLine host (torn.entry host w.log))) =
      encode (w.file ++ entryLine host (torn.entry host w.log)) := by
  rw [tornBytes, take_line le_rfl, take_of_length_le (le_of_eq (length_encode _)), encode_append]

theorem entriesKept_of_crash (hw : w.Sound host) (htorn : Legible host.floats torn.payload)
    (hafter : ∀ c ∈ after, Legible host.floats c.payload)
    (hcrash : w.crash host torn cut deviceId after = .ok (bytes, entries))
    (hcut : after = [] ∨ CutHarmless (entryLine host (torn.entry host w.log)) cut) :
    EntriesKept host bytes entries := by
  have hsteps : ∀ s ∈ after.map AppendCall.step, s.Legible host.floats := by
    intro s hs
    obtain ⟨c, hc, rfl⟩ := mem_map.mp hs
    exact hafter c hc
  obtain ⟨⟨w₁, hstep⟩, ⟨-, rfl, rfl⟩ | ⟨text, w', htext, hrun, rfl, rfl⟩⟩ := crash_cases hcrash
  · exact hw.entriesKept _
  obtain ⟨p, rfl, hp⟩ := eq_append_of_encode htext
  rcases hcut with rfl | rfl | hlong | hnone
  · cases hrun
    rw [encode_append]
    exact hw.entriesKept _
  · -- nothing was written: the log is opened on the file as it was
    obtain rfl : p = [] := encode_injective hp
    rw [append_nil] at hrun
    obtain ⟨hw', -⟩ := (hw.step_reopen deviceId).run hsteps hrun
    simpa using hw'.entriesKept []
  · -- all was written: the torn entry is in the file, though its call did not return
    rw [take_line_of_lt hlong] at hp
    obtain rfl := encode_injective hp
    have hw₁ : w₁.Sound host := hw.step_append htorn hstep
    obtain ⟨hfile, happended, -⟩ := step_call hstep
    have hfile' : w.file ++ (entryLine host (torn.entry host w.log) ++ ['\n']) = w₁.file := by
      rw [hfile, unlines, flatMap_singleton]
    rw [hfile'] at hrun
    obtain ⟨new, -, hnew, -, hany⟩ := run_calls hrun
    obtain ⟨hw', -⟩ := (hw₁.step_reopen deviceId).run hsteps (hany w₁.appended)
    have hkept := hw'.entriesKept []
    rw [append_nil] at hkept
    apply hkept.sublist
    change w'.appended.Sublist (w₁.appended ++ new)
    rw [hnew, happended]
    exact (sublist_append_left _ _).append (List.Sublist.refl new)
  · -- half a character does not decode
    exfalso
    by_cases hle : cut ≤ byteLen (entryLine host (torn.entry host w.log))
    · rw [take_line hle] at hp
      rw [← hp, utf8Text_encode] at hnone
      cases hnone
    · rw [take_of_length_le (by rw [length_encode]; omega), utf8Text_encode] at hnone
      cases hnone

theorem readEntry_torn {e f : AuditEntry} {p : List Char} (hp : p <+: entryLine host e) (hne : p ≠ [])
    (hf : Legible host.floats f.payload) : readEntry host (p ++ entryLine host f) = none := by
  obtain ⟨before, rfl⟩ : ∃ before, p = '{' :: before := by
    obtain ⟨t, ht⟩ := hp
    rcases p with _ | ⟨c, before⟩
    · exact absurd rfl hne
    · exact ⟨before, by rw [(List.cons.inj ht).1]⟩
  have hread : read host.floats ('{' :: before ++ text host.floats f.toJson) = none :=
    read_torn (AuditEntry.writable_toJson hf) rfl fun _ => rfl
  rw [readEntry, entryLine, hread]
  rfl

theorem readEntry_nil : readEntry host [] = none := by
  have hvalue : value host.floats 1 maxLevels [] =
      ((host.floats.read []).map JsonNumber.float).map fun n => (Json.num n, []) := rfl
  rw [readEntry, JsonText.read, length_nil, hvalue]
  cases host.floats.read [] <;> rfl

theorem mem_of_readByteLine {es : List AuditEntry} {e : AuditEntry} {line : Bytes}
    (h : ∀ f ∈ es, Legible host.floats f.payload)
    (hline : line ∈ es.map fun f => encode (entryLine host f)) (hread : readByteLine host line = some e) :
    e ∈ es := by
  obtain ⟨f, hf, rfl⟩ := mem_map.mp hline
  rw [readByteLine_encode, readEntry_entryLine (h f hf)] at hread
  exact Option.some.inj hread ▸ hf

theorem not_entriesKept_of_torn (hw : w.Sound host) {p : List Char} {c : AppendCall} {calls : List AppendCall}
    {w' : AuditRun} (hp : p <+: entryLine host (torn.entry host w.log)) (hne : p ≠ [])
    (htorn : Legible host.floats torn.payload)
    (hlegible : ∀ d ∈ c :: calls, Legible host.floats d.payload)
    (hrun : AuditRun.run host ((c :: calls).map AppendCall.step)
      ⟨w.file ++ p, openLog host deviceId (w.file ++ p), w.appended⟩ = .ok w') :
    ¬ EntriesKept host (encode w'.file) w'.appended := by
  rintro ⟨hparsed, hnodup⟩
  obtain ⟨new, hfile, happended, hpayload, -⟩ := run_calls hrun
  rcases new with _ | ⟨e, new⟩
  · simp at hpayload
  have hnew : ∀ f ∈ e :: new, Legible host.floats f.payload := by
    intro f hf
    have hmem : f.payload ∈ (c :: calls).map (·.payload) := hpayload ▸ mem_map_of_mem hf
    obtain ⟨d, hd, hdf⟩ := mem_map.mp hmem
    exact hdf ▸ hlegible d hd
  have hnew' : ∀ f ∈ new, Legible host.floats f.payload := fun f hf => hnew f (mem_cons_of_mem e hf)
  have htornLine : '\n' ∉ p ++ entryLine host e := by
    rw [mem_append, not_or]
    refine ⟨?_, newline_notMem_entryLine (hnew e mem_cons_self)⟩
    intro hmem
    exact newline_notMem_entryLine (e := torn.entry host w.log) htorn (hp.subset hmem)
  -- the lines of the file: those of the run, the torn one with the first entry behind it, and the rest
  have hbytes : encode w'.file = encode (unlines (w.appended.map (entryLine host))) ++
      (encode (unlines [p ++ entryLine host e]) ++ (encode (unlines (new.map (entryLine host))) ++ [])) := by
    rw [hfile, hw.file, append_nil, ← encode_append, ← encode_append]
    congr 1
    simp [unlines]
  have hsplit : (encode w'.file).splitOn 10 = w.appended.map (fun f => encode (entryLine host f)) ++
      (encode (p ++ entryLine host e) :: (new.map (fun f => encode (entryLine host f)) ++ [[]])) := by
    rw [hbytes, splitOn_entries hw.legible, splitOn_encode_unlines, splitOn_entries hnew']
    · rfl
    · intro line hline
      obtain rfl := mem_singleton.mp hline
      exact htornLine
  obtain ⟨line, hline, hread⟩ := hparsed e (by rw [happended]; simp)
  rw [hsplit] at hline
  rw [happended, map_append, map_cons] at hnodup
  rcases mem_append.mp hline with hline | hline
  · have he : e ∈ w.appended := mem_of_readByteLine hw.legible hline hread
    exact (nodup_append.mp hnodup).2.2 _ (mem_map_of_mem he) _ mem_cons_self rfl
  rcases mem_cons.mp hline with rfl | hline
  · rw [readByteLine_encode, readEntry_torn hp hne (hnew e mem_cons_self)] at hread
    cases hread
  rcases mem_append.mp hline with hline | hline
  · have he : e ∈ new := mem_of_readByteLine hnew' hline hread
    exact (nodup_cons.mp (nodup_append.mp hnodup).2.1).1 (mem_map_of_mem he)
  · obtain rfl := mem_singleton.mp hline
    rw [← encode_nil, readByteLine_encode, readEntry_nil] at hread
    cases hread

/-- **Entries survive a crash exactly if no call follows it or it left no part of a line**: `append` dies after
`cut` bytes of its line, the log is opened again and further calls return; every entry whose call returned can
be parsed from a line of its own and no two share a sequence number. -/
theorem crash_keeps_entries_iff (host : AuditHost) (deviceId : String) (steps : List AuditStep) (w : AuditRun)
    (torn : AppendCall) (cut : Nat) (deviceId' : String) (after : List AppendCall) (bytes : Bytes)
    (entries : List AuditEntry) (hrun : (AuditRun.start host deviceId).run host steps = .ok w)
    (hcrash : w.crash host torn cut deviceId' after = .ok (bytes, entries))
    (hsteps : ∀ s ∈ steps, s.Legible host.floats)
    (hcalls : ∀ c ∈ torn :: after, Legible host.floats c.payload) :
    EntriesKept host bytes entries ↔ after = [] ∨ CutHarmless (entryLine host (torn.entry host w.log)) cut := by
  obtain ⟨hw, -⟩ := (sound_start host deviceId).run hsteps hrun
  have htorn := hcalls torn mem_cons_self
  have hafter : ∀ c ∈ after, Legible host.floats c.payload := fun c hc => hcalls c (mem_cons_of_mem torn hc)
  refine ⟨?_, entriesKept_of_crash hw htorn hafter hcrash⟩
  intro hkept
  by_contra hcond
  obtain ⟨hne, hcut⟩ := not_or.mp hcond
  obtain ⟨hcut0, hcut⟩ := not_or.mp hcut
  obtain ⟨hlen, hdecodes⟩ := not_or.mp hcut
  have hlen' : cut ≤ byteLen (entryLine host (torn.entry host w.log)) := by omega
  obtain ⟨s, hs⟩ := Option.ne_none_iff_exists'.mp hdecodes
  have hp := encode_of_utf8Text hs
  have hbytes : tornBytes host w torn cut = encode (w.file ++ s.toList) := by
    rw [tornBytes, take_line hlen', encode_append, hp]
  obtain ⟨c, calls, rfl⟩ := exists_cons_of_ne_nil hne
  obtain ⟨-, ⟨hnone, -⟩ | ⟨text, w', htext, hrun', rfl, rfl⟩⟩ := crash_cases hcrash
  · rw [hbytes, utf8Text_encode] at hnone
    cases hnone
  · rw [hbytes] at htext
    obtain rfl := encode_injective htext
    have hprefix : s.toList <+: entryLine host (torn.entry host w.log) := prefix_of_encode (hp ▸ take_prefix _ _)
    have hsne : s.toList ≠ [] := by
      intro hnil
      rw [hnil, encode_nil] at hp
      have hlength := congrArg List.length hp
      rw [length_take, length_encode, length_nil] at hlength
      omega
    exact not_entriesKept_of_torn hw hprefix hsne htorn hafter hrun' hkept

theorem crash_of_text {text : List Char} (hstep : ∃ w₁, w.step host torn.step = .ok w₁)
    (htext : encode text = tornBytes host w torn cut) :
    w.crash host torn cut deviceId after = (do
      let w' ← AuditRun.run host (after.map AppendCall.step) ⟨text, openLog host deviceId text, w.appended⟩
      return (encode w'.file, w'.appended)) := by
  obtain ⟨w₁, hstep⟩ := hstep
  rw [AppendCall.step, AuditRun.step, AuditLog.append] at hstep
  split_ifs at hstep with hbound
  case neg => cases hstep
  case pos =>
    rw [crash_eq hbound, ← htext, utf8Text_encode]
    dsimp only
    rw [String.toList_ofList]

end Crash

def refusedCall : AppendCall := ⟨"2026-01-01T00:00:00Z", .authFailed, none, ⟨.null, normal_null⟩⟩

theorem legible_refusedCall : Legible lengthHost.floats refusedCall.payload := ⟨trivial, by decide⟩

theorem step_refusedCall : ∃ w, (AuditRun.start lengthHost "laptop").step lengthHost refusedCall.step = .ok w := ⟨_, rfl⟩

/-- A crash before the first byte, with one call after it. -/
theorem crash_keeps_entries_unwritten :
    ∃ bytes entries, (AuditRun.start lengthHost "laptop").crash lengthHost refusedCall 0 "laptop" [refusedCall] =
        .ok (bytes, entries) ∧ entries.map (·.seq) = [1] ∧ EntriesKept lengthHost bytes entries := by
  obtain ⟨w', hafter⟩ := step_refusedCall
  have hrun : AuditRun.run lengthHost ([refusedCall].map AppendCall.step) (AuditRun.start lengthHost "laptop") = .ok w' := by
    rw [map_singleton, AuditRun.run, foldlM_cons, hafter]
    rfl
  have hcrash : (AuditRun.start lengthHost "laptop").crash lengthHost refusedCall 0 "laptop" [refusedCall] =
      .ok (encode w'.file, w'.appended) := by
    have htext : encode [] = tornBytes lengthHost (AuditRun.start lengthHost "laptop") refusedCall 0 := by
      rfl
    rw [crash_of_text step_refusedCall htext]
    change (AuditRun.run lengthHost ([refusedCall].map AppendCall.step) (AuditRun.start lengthHost "laptop") >>= _) = _
    rw [hrun]
    rfl
  have hcalls : ∀ c ∈ [refusedCall, refusedCall], Legible lengthHost.floats c.payload := by
    intro c hc
    rcases mem_cons.mp hc with rfl | hc
    · exact legible_refusedCall
    · obtain rfl := mem_singleton.mp hc
      exact legible_refusedCall
  refine ⟨_, _, hcrash, ?_, ?_⟩
  · obtain ⟨-, happended, -⟩ := step_call hafter
    rw [happended]
    rfl
  · exact (crash_keeps_entries_iff lengthHost "laptop" [] _ refusedCall 0 "laptop" [refusedCall] _ _ rfl hcrash
      (fun s hs => absurd hs not_mem_nil) hcalls).mpr (Or.inr (Or.inl rfl))

def refusedEntry : AuditEntry := refusedCall.entry lengthHost (AuditRun.start lengthHost "laptop").log

def tornLine : List Char := entryLine lengthHost refusedEntry

theorem lastSeq_tornLine : (openLog lengthHost "laptop" tornLine).lastSeq = 1 := by
  have hline : loadLine lengthHost ("", 0) tornLine = (hashEntry lengthHost refusedEntry, refusedEntry.seq) := by
    rw [loadLine, tornLine, isBlankLine_entryLine, readEntry_entryLine legible_refusedCall]
    rfl
  have hlines : Lines.lines tornLine = [tornLine] :=
    Lines.lines_singleton (by decide) (newline_notMem_entryLine legible_refusedCall)
  rw [openLog, loadTail, hlines, foldl_cons, hline]
  rfl

/-- The crash comes between the line and its newline: the entry of the next call is written on the same
line and no line of the file is an entry. -/
theorem next_entry_on_torn_line :
    ∃ bytes entries, (AuditRun.start lengthHost "laptop").crash lengthHost refusedCall (byteLen tornLine)
        "laptop" [refusedCall] = .ok (bytes, entries) ∧
      entries.map (·.seq) = [2] ∧ ∀ line ∈ bytes.splitOn 10, readByteLine lengthHost line = none := by
  have htext : encode tornLine =
      tornBytes lengthHost (AuditRun.start lengthHost "laptop") refusedCall (byteLen tornLine) :=
    (tornBytes_line (AuditRun.start lengthHost "laptop") refusedCall).symm
  obtain ⟨w', hstep⟩ : ∃ w', AuditRun.step lengthHost
      ⟨tornLine, openLog lengthHost "laptop" tornLine, []⟩ refusedCall.step = .ok w' := by
    rw [AppendCall.step, AuditRun.step, AuditLog.append, lastSeq_tornLine, if_pos (by decide)]
    exact ⟨_, rfl⟩
  obtain ⟨hfile, happended, -⟩ := step_call hstep
  refine ⟨encode w'.file, w'.appended, ?_, ?_, ?_⟩
  · rw [crash_of_text step_refusedCall htext, map_singleton, AuditRun.run, foldlM_cons]
    change ((AuditRun.step lengthHost ⟨tornLine, _, []⟩ refusedCall.step >>= _) >>= _) = _
    rw [hstep]
    rfl
  · rw [happended, nil_append, map_singleton]
    change [(openLog lengthHost "laptop" tornLine).lastSeq + 1] = _
    rw [lastSeq_tornLine]
    rfl
  · set e := refusedCall.entry lengthHost (openLog lengthHost "laptop" tornLine) with he
    have hfile' : encode w'.file = encode (unlines [tornLine ++ entryLine lengthHost e]) ++ [] := by
      rw [hfile, append_nil]
      simp [unlines]
    rw [hfile', splitOn_encode_unlines]
    · intro line hline
      rcases mem_append.mp hline with hline | hline
      · obtain rfl := mem_singleton.mp hline
        rw [readByteLine_encode]
        exact readEntry_torn prefix_rfl (by decide) legible_refusedCall
      · obtain rfl := mem_singleton.mp hline
        exact (readByteLine_encode []).trans readEntry_nil
    · intro line hline
      obtain rfl := mem_singleton.mp hline
      rw [mem_append, not_or]
      exact ⟨newline_notMem_entryLine legible_refusedCall, newline_notMem_entryLine legible_refusedCall⟩

/-! ## File operations that fail -/

/-- The file operation of `append` that fails, and how much of what it writes has reached the file by then. -/
inductive FileFault where
  | openFails
  | lineFails (written : Nat)
  | newlineFails (written : Bool)
  | syncFails
  deriving DecidableEq, Repr

def FileFault.written (line : Bytes) : FileFault → Bytes
  | .openFails => []
  | .lineFails n => line.take n
  | .newlineFails written => line ++ if written then [10] else []
  | .syncFails => line ++ [10]

def FileFault.silent : FileFault → Bool
  | .openFails => true
  | .lineFails n => n == 0
  | .newlineFails _ => false
  | .syncFails => false

structure FaultyCall extends AppendCall where
  fault : Option FileFault

/-- The bytes of the file and the handle. -/
structure DiskLog where
  bytes : Bytes
  log : AuditLog

section Faults

variable (host : AuditHost)

/-- `append` with file operations that may fail: the sequence number, or `none` for the I/O error.  The tail in
memory moves at the very end. -/
def DiskLog.append (d : DiskLog) (c : FaultyCall) : Outcome AuditError (Option UInt64 × DiskLog) :=
  if d.log.lastSeq.toNat + 1 < 2 ^ 64 then
    let e := c.entry host d.log
    match c.fault with
    | none => .ok (some e.seq, ⟨d.bytes ++ encode (entryLine host e ++ ['\n']),
        { d.log with lastHash := hashEntry host e, lastSeq := e.seq }⟩)
    | some fault => .ok (none, ⟨d.bytes ++ fault.written (encode (entryLine host e)), d.log⟩)
  else .error .panic

def DiskLog.appends (calls : List FaultyCall) (d : DiskLog) : Outcome AuditError DiskLog :=
  calls.foldlM (fun d c => Prod.snd <$> d.append host c) d

/-- `verify_chain` returns `Ok` on a file with these bytes: it is a text, and the text verifies. -/
def VerifiesBytes (bytes : Bytes) : Prop := ∃ text, encode text = bytes ∧ verifyChain host text = .ok ()

/-- The disk and the handle are those of a sound run. -/
def DiskLog.InStep (d : DiskLog) : Prop := ∃ w : AuditRun, w.Sound host ∧ d = ⟨encode w.file, w.log⟩

end Faults

section Verified

variable {d d' : DiskLog} {c : FaultyCall} {r : Option UInt64}

theorem append_cases (h : d.append host c = .ok (r, d')) :
    (c.fault = none ∧ r = some (c.entry host d.log).seq ∧
        ∀ w : AuditRun, d = ⟨encode w.file, w.log⟩ →
          ∃ w', w.step host c.step = .ok w' ∧ d' = ⟨encode w'.file, w'.log⟩) ∨
      ∃ fault, c.fault = some fault ∧ r = none ∧
        d' = ⟨d.bytes ++ fault.written (encode (entryLine host (c.entry host d.log))), d.log⟩ := by
  rw [DiskLog.append] at h
  split_ifs at h with hbound
  cases hfault : c.fault with
  | none =>
    rw [hfault] at h
    cases h
    refine Or.inl ⟨rfl, rfl, ?_⟩
    rintro w rfl
    refine ⟨_, by rw [AppendCall.step, AuditRun.step, AuditLog.append, if_pos hbound]; rfl, ?_⟩
    simp [AppendCall.entry]
  | some fault =>
    rw [hfault] at h
    cases h
    exact Or.inr ⟨fault, rfl, rfl, rfl⟩

theorem written_of_silent {fault : FileFault} (h : fault.silent = true) (line : Bytes) : fault.written line = [] := by
  cases fault with
  | openFails => rfl
  | lineFails n =>
    obtain rfl : n = 0 := by simpa [FileFault.silent] using h
    rfl
  | newlineFails | syncFails => cases h

theorem DiskLog.InStep.append (hd : d.InStep host) (h : d.append host c = .ok (r, d'))
    (hlegible : c.fault = none → Legible host.floats c.payload)
    (hsilent : ∀ fault, c.fault = some fault → fault.silent = true) : d'.InStep host := by
  obtain ⟨w, hw, rfl⟩ := hd
  obtain ⟨hfault, -, hsteps⟩ | ⟨fault, hfault, -, rfl⟩ := append_cases h
  · obtain ⟨w', hstep, rfl⟩ := hsteps w rfl
    exact ⟨w', hw.step_append (hlegible hfault) hstep, rfl⟩
  · refine ⟨w, hw, ?_⟩
    rw [written_of_silent (hsilent fault hfault), append_nil]

theorem DiskLog.InStep.appends {calls : List FaultyCall} (hd : d.InStep host) (h : d.appends host calls = .ok d')
    (hlegible : ∀ c ∈ calls, c.fault = none → Legible host.floats c.payload)
    (hsilent : ∀ c ∈ calls, ∀ fault, c.fault = some fault → fault.silent = true) : d'.InStep host := by
  induction calls generalizing d with
  | nil =>
    cases h
    exact hd
  | cons c _ ih =>
    obtain ⟨d₁, hfirst, hrest⟩ := Result.bind_eq_ok.mp h
    obtain ⟨⟨r, d₁'⟩, happend, rfl⟩ := Result.map_eq_ok.mp hfirst
    have hd₁ : d₁'.InStep host := hd.append happend (hlegible c mem_cons_self) (hsilent c mem_cons_self)
    exact ih hd₁ hrest (fun c' hc' => hlegible c' (mem_cons_of_mem c hc'))
      fun c' hc' => hsilent c' (mem_cons_of_mem c hc')

/-- **A file verifies after a call that returns, if every failed call before it had left the file as it was.** -/
theorem faulty_appends_verify (host : AuditHost) (deviceId : String) (steps : List AuditStep) (w : AuditRun)
    (calls : List FaultyCall) (d : DiskLog) (last : FaultyCall) (seq : UInt64) (d' : DiskLog)
    (hrun : (AuditRun.start host deviceId).run host steps = .ok w)
    (hcalls : DiskLog.appends host calls ⟨encode w.file, w.log⟩ = .ok d)
    (hlast : d.append host last = .ok (some seq, d')) (hsteps : ∀ s ∈ steps, s.Legible host.floats)
    (hlegible : ∀ c ∈ calls ++ [last], c.fault = none → Legible host.floats c.payload)
    (hsilent : ∀ c ∈ calls, ∀ fault, c.fault = some fault → fault.silent = true) : VerifiesBytes host d'.bytes := by
  obtain ⟨hw, -⟩ := (sound_start host deviceId).run hsteps hrun
  have hd : d.InStep host := DiskLog.InStep.appends ⟨w, hw, rfl⟩ hcalls
    (fun c hc => hlegible c (mem_append_left _ hc)) hsilent
  have hfault : ∀ fault, last.fault = some fault → fault.silent = true := by
    intro fault hsome
    obtain ⟨hnone, -⟩ | ⟨_, -, hr, -⟩ := append_cases hlast
    · rw [hnone] at hsome
      cases hsome
    · cases hr
  obtain ⟨w', hw', rfl⟩ := hd.append hlast (hlegible last (mem_append_right _ (mem_singleton_self last))) hfault
  exact ⟨w'.file, rfl, hw'.verifyChain_file⟩

end Verified

/-- A call that cannot open the file, and one that can. -/
theorem faulty_appends_verify_unopened :
    ∃ d d' seq, DiskLog.appends lengthHost [⟨refusedCall, some .openFails⟩]
        ⟨encode [], (AuditRun.start lengthHost "laptop").log⟩ = .ok d ∧
      d.append lengthHost ⟨refusedCall, none⟩ = .ok (some seq, d') ∧ VerifiesBytes lengthHost d'.bytes := by
  refine ⟨_, _, _, rfl, rfl, ?_⟩
  apply faulty_appends_verify lengthHost "laptop" [] (AuditRun.start lengthHost "laptop")
    [⟨refusedCall, some .openFails⟩] _ ⟨refusedCall, none⟩ _ _ rfl rfl rfl
  · exact fun s hs => nomatch hs
  · intro c hc _
    rcases mem_cons.mp hc with rfl | hc
    · exact legible_refusedCall
    · obtain rfl := mem_singleton.mp hc
      exact legible_refusedCall
  · intro c hc fault hfault
    obtain rfl := mem_singleton.mp hc
    cases hfault
    rfl

/-- A call whose `sync_all` fails leaves its entry in the file but not in memory: the next call writes an
entry with the same predecessor behind it. -/
theorem unsynced_entry_breaks_chain :
    ∃ d d' seq, DiskLog.appends lengthHost [⟨refusedCall, some .syncFails⟩]
        ⟨encode [], (AuditRun.start lengthHost "laptop").log⟩ = .ok d ∧
      d.append lengthHost ⟨refusedCall, none⟩ = .ok (some seq, d') ∧
      d'.bytes = encode (unlines [tornLine, tornLine]) ∧
      verifyChain lengthHost (unlines [tornLine, tornLine]) = .error (.chainHashMismatch 1) := by
  have hbytes : ∀ line : List Char, (encode [] ++ (encode line ++ [10])) ++ encode (line ++ ['\n']) =
      encode (unlines [line, line]) := by
    intro line
    rw [← encode_newline, ← encode_append, ← encode_append, ← encode_append]
    congr 1
    simp [unlines]
  have hlines : Lines.lines (unlines [tornLine, tornLine]) = [tornLine, tornLine] := by
    have hlegible : ∀ e ∈ [refusedEntry, refusedEntry], Legible lengthHost.floats e.payload := by
      intro e he
      obtain rfl : e = refusedEntry := by simpa using he
      exact legible_refusedCall
    exact (records_unlines hlegible).1
  have hread : readEntry lengthHost tornLine = some refusedEntry := readEntry_entryLine legible_refusedCall
  have hfirst : verifyEntry lengthHost "" refusedEntry = .ok (hashEntry lengthHost refusedEntry) :=
    verifyEntry_eq_ok.mpr ⟨rfl, verifies_entry refusedCall _, rfl⟩
  have hsecond : verifyEntry lengthHost (hashEntry lengthHost refusedEntry) refusedEntry = .error (.chainHashMismatch 1) := by
    rw [verifyEntry, if_pos]
    · rfl
    · exact fun h => hashEntry_ne_empty lengthHost refusedEntry h.symm
  refine ⟨⟨encode [] ++ (encode tornLine ++ [10]), (AuditRun.start lengthHost "laptop").log⟩,
    ⟨(encode [] ++ (encode tornLine ++ [10])) ++ encode (tornLine ++ ['\n']), _⟩, _, rfl, rfl,
    hbytes tornLine, ?_⟩
  have hblank : isBlankLine tornLine = false := isBlankLine_entryLine refusedEntry
  simp only [verifyChain, hlines, verifyLines, hblank, hread, Bool.false_eq_true, if_false, hfirst, bind, Except.bind,
    hsecond]

end OneCipher.KeyAgent
