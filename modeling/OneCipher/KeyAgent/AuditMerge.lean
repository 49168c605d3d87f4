import Mathlib.Data.Prod.Lex
import OneCipher.Base.Rfc3339
import OneCipher.KeyAgent.AuditFaults

/-!
# OneCipher.KeyAgent.AuditMerge — putting fragments of a log together

`AuditLog::merge` reads the entries of several files, keeps the first one of each device and sequence number, sorts
them by the text of their timestamps, then by sequence number and device, and writes them to a new file.  The
handle it returns has the last entry of that file as its tail.
-/

namespace OneCipher.KeyAgent

open JsonText Serde HashChain List
open Lines (unlines)
open AuditEntry (Legible)

/-! ## The merge -/

/-- In which order the values of a `HashMap` come out. -/
structure MapOrder where
  values : List AuditEntry → List AuditEntry
  values_perm : ∀ es, (values es).Perm es

def AuditEntry.sameKey (a b : AuditEntry) : Bool := a.deviceId == b.deviceId && a.seq == b.seq

/-- `seen.entry(key).or_insert(entry)`. -/
def orInsert (seen : List AuditEntry) (e : AuditEntry) : List AuditEntry :=
  if seen.any e.sameKey then seen else seen ++ [e]

/-- What `sort_by` compares: the timestamps as text, then the sequence numbers, then the devices.  The order of
the UTF-8 bytes is that of the characters. -/
def AuditEntry.sortKey (e : AuditEntry) : String ×ₗ Nat ×ₗ String :=
  toLex (e.timestamp, toLex (e.seq.toNat, e.deviceId))

def sortEntries (es : List AuditEntry) : List AuditEntry := es.mergeSort fun a b => decide (a.sortKey ≤ b.sortKey)

section Merge

variable (host : AuditHost)

def mergeLines : List AuditEntry → List (List Char) → Except AuditError (List AuditEntry)
  | seen, [] => .ok seen
  | seen, line :: rest =>
    if isBlankLine line then mergeLines seen rest
    else match readEntry host line with
      | none => .error .json
      | some e => mergeLines (orInsert seen e) rest

def mergeFragments (fragments : List (List Char)) : Except AuditError (List AuditEntry) :=
  fragments.foldlM (fun seen file => mergeLines host seen (Lines.lines file)) []

def mergedLog (es : List AuditEntry) : AuditLog :=
  match es.getLast? with
  | some e => ⟨e.deviceId, hashEntry host e, e.seq⟩
  | none => ⟨"", "", 0⟩

/-- `AuditLog::merge` of files with these texts: the handle and the text of the output. -/
def AuditLog.merge (order : MapOrder) (fragments : List (List Char)) : Except AuditError (AuditLog × List Char) := do
  let seen ← mergeFragments host fragments
  let all := sortEntries (order.values seen)
  return (mergedLog host all, unlines (all.map (entryLine host)))

/-- Each line of the file is blank, or an entry that can be written as it was read. -/
def Intact (file : List Char) : Prop :=
  ∀ line ∈ records file, ∃ e, readEntry host line = some e ∧ Legible host.floats e.payload

/-- The merge of the fragments is the log again: the entries are in the order they were appended in, the file
verifies, and the next entry gets a sequence number that no entry of the device has. -/
def MergeRestores (order : MapOrder) (entries : List AuditEntry) (fragments : List (List AuditEntry)) : Prop :=
  ∃ log file, AuditLog.merge host order (fragments.map fun es => unlines (es.map (entryLine host))) = .ok (log, file) ∧
    entriesOf host file = entries ∧ verifyChain host file = .ok () ∧
    ∀ now eventType sessionKeyId payload seq log' file',
      log.append host file now eventType sessionKeyId payload = .ok (seq, log', file') →
        ∀ e ∈ entriesOf host file, e.deviceId = log.deviceId → e.seq ≠ seq

end Merge

variable {host : AuditHost}

/-! ## Reading the fragments -/

theorem sameKey_iff {a b : AuditEntry} : a.sameKey b = true ↔ a.deviceId = b.deviceId ∧ a.seq = b.seq := by
  rw [AuditEntry.sameKey, Bool.and_eq_true, beq_iff_eq, beq_iff_eq]

theorem mergeLines_eq {lines : List (List Char)}
    (h : ∀ line ∈ lines.filter fun line => !isBlankLine line, ∃ e, readEntry host line = some e ∧ Legible host.floats e.payload)
    (seen : List AuditEntry) : mergeLines host seen lines =
      .ok (((lines.filter fun line => !isBlankLine line).filterMap (readEntry host)).foldl orInsert seen) := by
  induction lines generalizing seen with
  | nil => rfl
  | cons line lines ih =>
    rw [mergeLines]
    by_cases hblank : isBlankLine line = true
    · rw [filter_cons_of_neg (by simp [hblank])] at h ⊢
      rw [if_pos hblank, ih h]
    · rw [filter_cons_of_pos (by simp [hblank])] at h ⊢
      obtain ⟨e, he, -⟩ := h line mem_cons_self
      rw [if_neg hblank, filterMap_cons_some he, he]
      exact ih (fun l hl => h l (mem_cons_of_mem _ hl)) _

theorem mergeFragments_eq {files : List (List Char)} (h : ∀ file ∈ files, Intact host file) :
    mergeFragments host files = .ok ((files.flatMap (entriesOf host)).foldl orInsert []) := by
  rw [mergeFragments]
  generalize ([] : List AuditEntry) = seen
  induction files generalizing seen with
  | nil => rfl
  | cons file _ ih =>
    rw [foldlM_cons, mergeLines_eq (h file mem_cons_self), flatMap_cons, foldl_append]
    exact ih (fun f hf => h f (mem_cons_of_mem file hf)) _

/-- A device and a sequence number name one entry. -/
def KeysName (es : List AuditEntry) : Prop := ∀ a ∈ es, ∀ b ∈ es, a.sameKey b = true → a = b

theorem foldl_orInsert {es : List AuditEntry} (h : KeysName es) :
    (es.foldl orInsert []).Nodup ∧ ∀ e, e ∈ es.foldl orInsert [] ↔ e ∈ es := by
  induction es using List.reverseRecOn with
  | nil => exact ⟨nodup_nil, fun e => Iff.rfl⟩
  | append_singleton es e ih =>
    obtain ⟨hnodup, hmem⟩ := ih fun a ha b hb => h a (mem_append_left _ ha) b (mem_append_left _ hb)
    rw [foldl_append]
    change (orInsert (es.foldl orInsert []) e).Nodup ∧ ∀ f, f ∈ orInsert (es.foldl orInsert []) e ↔ f ∈ es ++ [e]
    rw [orInsert]
    split_ifs with hany
    · obtain ⟨a, ha, hkey⟩ := any_eq_true.mp hany
      have ha' : a ∈ es := (hmem a).mp ha
      obtain rfl : e = a := h e (by simp) a (mem_append_left _ ha') hkey
      refine ⟨hnodup, fun f => ?_⟩
      rw [hmem, mem_append, mem_singleton]
      constructor
      · exact Or.inl
      · rintro (hf | rfl)
        · exact hf
        · exact ha'
    · have hnew : e ∉ es.foldl orInsert [] := by
        intro he
        exact hany (any_eq_true.mpr ⟨e, he, sameKey_iff.mpr ⟨rfl, rfl⟩⟩)
      refine ⟨?_, fun f => ?_⟩
      · rw [nodup_append_comm]
        exact nodup_cons.mpr ⟨hnew, hnodup⟩
      · rw [mem_append, mem_append, hmem]

/-! ## Sorting -/

theorem sortEntries_perm (es : List AuditEntry) : (sortEntries es).Perm es := mergeSort_perm es _

theorem sorted_sortEntries (es : List AuditEntry) : (sortEntries es).Pairwise fun a b => a.sortKey ≤ b.sortKey := by
  have h : (sortEntries es).Pairwise fun a b => decide (a.sortKey ≤ b.sortKey) = true := pairwise_mergeSort ?_ ?_ es
  · exact h.imp fun hab => of_decide_eq_true hab
  · intro a b c hab hbc
    exact decide_eq_true ((of_decide_eq_true hab).trans (of_decide_eq_true hbc))
  · intro a b
    rw [Bool.or_eq_true, decide_eq_true_eq, decide_eq_true_eq]
    exact le_total _ _

/-! ## The merged log -/

theorem intact_unlines {es : List AuditEntry} (h : ∀ e ∈ es, Legible host.floats e.payload) :
    Intact host (unlines (es.map (entryLine host))) := by
  intro line hline
  rw [(records_unlines h).2] at hline
  obtain ⟨e, he, rfl⟩ := mem_map.mp hline
  exact ⟨e, readEntry_entryLine (h e he), h e he⟩

theorem entriesOf_unlines {es : List AuditEntry} (h : ∀ e ∈ es, Legible host.floats e.payload) :
    entriesOf host (unlines (es.map (entryLine host))) = es := by
  apply entriesOf_of_map
  rw [(records_unlines h).2]
  exact map_readEntry h

theorem lastSeq_mergedLog (es : List AuditEntry) : (mergedLog host es).lastSeq = (tailOf host es).2 := by
  rcases eq_nil_or_concat es with rfl | ⟨es, e, rfl⟩
  · rfl
  · rw [concat_eq_append, mergedLog, List.getLast?_concat, tailOf, foldl_append]
    rfl

/-- The entries `es`, each once, in the order of the keys. -/
structure SortedFrom (es all : List AuditEntry) : Prop where
  nodup : all.Nodup
  mem : ∀ e, e ∈ all ↔ e ∈ es
  sorted : all.Pairwise fun a b => a.sortKey ≤ b.sortKey

theorem merge_eq_ok (order : MapOrder) {files : List (List Char)} {all : List AuditEntry}
    (hread : ∀ file ∈ files, Intact host file) (hkeys : KeysName (files.flatMap (entriesOf host)))
    (h : SortedFrom (files.flatMap (entriesOf host)) all) :
    AuditLog.merge host order files = .ok (mergedLog host all, unlines (all.map (entryLine host))) := by
  obtain ⟨hnodup, hmem⟩ := foldl_orInsert hkeys
  have hperm := ((sortEntries_perm _).trans (order.values_perm _)).trans
    ((perm_ext_iff_of_nodup hnodup h.nodup).mpr fun e => (hmem e).trans (h.mem e).symm)
  have hall := hperm.eq_of_pairwise (fun a b ha hb hab hba => ?_) (sorted_sortEntries _) h.sorted
  · rw [AuditLog.merge, mergeFragments_eq hread, ← hall]
    rfl
  · have hkey : a.sortKey = b.sortKey := le_antisymm hab hba
    have hseq : a.seq.toNat = b.seq.toNat := congrArg (fun k => (ofLex (ofLex k).2).1) hkey
    have hdevice : a.deviceId = b.deviceId := congrArg (fun k => (ofLex (ofLex k).2).2) hkey
    exact hkeys a ((h.mem a).mp (hperm.mem_iff.mp ha)) b ((h.mem b).mp hb)
      (sameKey_iff.mpr ⟨hdevice, UInt64.toNat_inj.mp hseq⟩)

section Restores

variable {w : AuditRun} {order : MapOrder} {fragments : List (List AuditEntry)}

theorem merge_appended {all : List AuditEntry} (order : MapOrder) (hw : w.Sound host)
    (hsub : ∀ es ∈ fragments, ∀ e ∈ es, e ∈ w.appended) (hcover : ∀ e ∈ w.appended, ∃ es ∈ fragments, e ∈ es)
    (hperm : all.Perm w.appended) (hsorted : all.Pairwise fun a b => a.sortKey ≤ b.sortKey) :
    AuditLog.merge host order (fragments.map fun es => unlines (es.map (entryLine host))) =
      .ok (mergedLog host all, unlines (all.map (entryLine host))) := by
  have hlegible : ∀ es ∈ fragments, ∀ e ∈ es, Legible host.floats e.payload :=
    fun es hes e he => hw.legible e (hsub es hes e he)
  have hmem : ∀ e, e ∈ (fragments.map fun es => unlines (es.map (entryLine host))).flatMap (entriesOf host) ↔
      e ∈ w.appended := by
    intro e
    rw [flatMap_map, mem_flatMap]
    constructor
    · rintro ⟨es, hes, he⟩
      rw [entriesOf_unlines (hlegible es hes)] at he
      exact hsub es hes e he
    · intro he
      obtain ⟨es, hes, he⟩ := hcover e he
      exact ⟨es, hes, by rwa [entriesOf_unlines (hlegible es hes)]⟩
  refine merge_eq_ok order (forall_mem_map.mpr fun es hes => intact_unlines (hlegible es hes)) (fun a ha b hb hkey => ?_)
    ⟨hperm.nodup_iff.mpr (hw.nodup_seqs.of_map _), fun e => hperm.mem_iff.trans (hmem e).symm, hsorted⟩
  exact inj_on_of_nodup_map hw.nodup_seqs ((hmem a).mp ha) ((hmem b).mp hb) (sameKey_iff.mp hkey).2

theorem mergeRestores_iff (hw : w.Sound host) (hsub : ∀ es ∈ fragments, ∀ e ∈ es, e ∈ w.appended)
    (hcover : ∀ e ∈ w.appended, ∃ es ∈ fragments, e ∈ es) :
    MergeRestores host order w.appended fragments ↔ w.appended.Pairwise fun a b => a.sortKey ≤ b.sortKey := by
  have hentries : ∀ {all : List AuditEntry}, all.Perm w.appended →
      entriesOf host (unlines (all.map (entryLine host))) = all :=
    fun hperm => entriesOf_unlines fun e he => hw.legible e (hperm.mem_iff.mp he)
  constructor
  · rintro ⟨log, file, hmerge, heq, -⟩
    have hperm := sortEntries_perm w.appended
    rw [merge_appended order hw hsub hcover hperm (sorted_sortEntries _)] at hmerge
    cases hmerge
    rw [← heq, hentries hperm]
    exact sorted_sortEntries _
  · intro hsorted
    have hall := hentries (Perm.refl w.appended)
    refine ⟨_, _, merge_appended order hw hsub hcover (Perm.refl _) hsorted, hall, ?_, ?_⟩
    · rw [← hw.file]
      exact hw.verifyChain_file
    · intro now eventType sessionKeyId payload seq log' file' happend e he _
      rw [hall] at he
      have hlast : (mergedLog host w.appended).lastSeq.toNat = w.appended.length := by
        rw [lastSeq_mergedLog, ← hw.tail, hw.count]
      rw [AuditLog.append] at happend
      split_ifs at happend with hbound
      cases happend
      have hmem : e.seq.toNat ∈ List.range' 1 w.appended.length := hw.seqs ▸ mem_map_of_mem he
      have hnext : (signEntry host ((mergedLog host w.appended).nextEntry now eventType sessionKeyId payload)).seq.toNat =
          w.appended.length + 1 := by
        rw [← hlast]
        show ((mergedLog host w.appended).lastSeq + 1).toNat = _
        exact Nat.mod_eq_of_lt hbound
      intro heq
      rw [heq, hnext, mem_range'_1] at hmem
      omega

theorem pairwise_sortKey_iff (hw : w.Sound host) :
    (w.appended.Pairwise fun a b => a.sortKey ≤ b.sortKey) ↔
      w.appended.Pairwise fun a b => a.timestamp ≤ b.timestamp := by
  have hseq : w.appended.Pairwise fun a b => a.seq.toNat < b.seq.toNat := by
    have hrange : (w.appended.map (·.seq.toNat)).Pairwise (· < ·) := by
      rw [hw.seqs]
      exact pairwise_lt_range'
    exact pairwise_map.mp hrange
  have hkey : ∀ {a b : AuditEntry}, a.seq.toNat < b.seq.toNat → (a.sortKey ≤ b.sortKey ↔ a.timestamp ≤ b.timestamp) := by
    intro a b hlt
    rw [AuditEntry.sortKey, AuditEntry.sortKey, Prod.Lex.toLex_le_toLex]
    constructor
    · rintro (h | ⟨h, -⟩)
      · exact le_of_lt h
      · exact le_of_eq h
    · intro h
      rcases lt_or_eq_of_le h with h | h
      · exact Or.inl h
      · exact Or.inr ⟨h, Prod.Lex.toLex_le_toLex.mpr (Or.inl hlt)⟩
  constructor
  · intro h
    exact (hseq.and h).imp fun ⟨hlt, hle⟩ => (hkey hlt).mp hle
  · intro h
    exact (hseq.and h).imp fun ⟨hlt, hle⟩ => (hkey hlt).mpr hle

end Restores

/-- **Fragments are put together in the order of appending exactly if no fraction of a second is a proper prefix
of a later one's in the same second**, trailing zeros trimmed: then the merged log verifies and goes on with a
new sequence number. -/
theorem merge_restores_log_iff (host : AuditHost) (order : MapOrder) (deviceId : String) (steps : List AuditStep)
    (w : AuditRun) (calendar : Rfc3339.Calendar) (instants : List (Rfc3339.Instant calendar))
    (fragments : List (List AuditEntry)) (hrun : (AuditRun.start host deviceId).run host steps = .ok w)
    (hclock : instants.Pairwise (· ≤ ·))
    (htimes : w.appended.map (·.timestamp) = instants.map fun t => String.ofList t.text)
    (hsub : ∀ es ∈ fragments, ∀ e ∈ es, e ∈ w.appended) (hcover : ∀ e ∈ w.appended, ∃ es ∈ fragments, e ∈ es)
    (hsteps : ∀ s ∈ steps, s.Legible host.floats) :
    MergeRestores host order w.appended fragments ↔
      instants.Pairwise fun a b => a.second = b.second →
        Rfc3339.digits a.nanos <+: Rfc3339.digits b.nanos → a.nanos = b.nanos := by
  obtain ⟨hw, -⟩ := (sound_start host deviceId).run hsteps hrun
  have htext : (w.appended.Pairwise fun a b => a.timestamp ≤ b.timestamp) ↔
      instants.Pairwise fun a b => a.text ≤ b.text := by
    have hmap : (w.appended.map (·.timestamp)).Pairwise (· ≤ ·) ↔
        (instants.map fun t => String.ofList t.text).Pairwise (· ≤ ·) := by rw [htimes]
    rw [pairwise_map, pairwise_map] at hmap
    rw [hmap]
    simp only [String.le_iff_toList_le, String.toList_ofList]
  rw [mergeRestores_iff hw hsub hcover, pairwise_sortKey_iff hw, htext]
  constructor
  · intro h
    exact (hclock.and h).imp fun ⟨hle, htext⟩ => (Rfc3339.Instant.text_le_iff hle).mp htext
  · intro h
    exact (hclock.and h).imp fun ⟨hle, hcond⟩ => (Rfc3339.Instant.text_le_iff hle).mpr hcond

/-! ### Two entries within a minute -/

def minuteStart : List Char := "2026-01-01T00:00:".toList

def minuteText (s : Int) : List Char := minuteStart ++ Rfc3339.fixed 2 s.toNat

theorem length_minuteText (s : Int) : (minuteText s).length = 19 := by
  have hstart : minuteStart.length = 17 := by decide +kernel
  rw [minuteText, length_append, hstart, Rfc3339.length_fixed]

theorem minuteText_lt {s t : Int} (hs : 0 ≤ s) (hst : s < t) (ht : t ≤ 59) : minuteText s < minuteText t := by
  have hlt : s.toNat < t.toNat := by omega
  have hwidth : t.toNat < 10 ^ 2 := by omega
  exact ((Rfc3339.differs_fixed hwidth hlt).append_left _).lt

def firstMinute : Rfc3339.Calendar where
  seconds := minuteText
  first := 0
  last := 59
  length_seconds s _ _ := length_minuteText s
  seconds_lt _ _ hs hst ht := minuteText_lt hs hst ht

theorem secondInMinute {s : Nat} (h : s < 60) : firstMinute.first ≤ s ∧ (s : Int) ≤ firstMinute.last := by
  have h0 : (0 : Int) ≤ s ∧ (s : Int) ≤ 59 := by omega
  exact h0

theorem zero_lt_sixty : 0 < 60 := by decide

theorem one_lt_sixty : 1 < 60 := by decide

theorem zero_lt_billion : 0 < 10 ^ 9 := by decide

def midnight : Rfc3339.Instant firstMinute :=
  ⟨(0 : Nat), 0, (secondInMinute zero_lt_sixty).1, (secondInMinute zero_lt_sixty).2, zero_lt_billion⟩

def oneSecondPast : Rfc3339.Instant firstMinute :=
  ⟨(1 : Nat), 0, (secondInMinute one_lt_sixty).1, (secondInMinute one_lt_sixty).2, zero_lt_billion⟩

def midnightCalls (later : String) : List AppendCall := [refusedCall, { refusedCall with now := later }]

theorem legible_midnightCalls (later : String) :
    ∀ s ∈ (midnightCalls later).map AppendCall.step, s.Legible lengthHost.floats := by
  intro s hs
  rcases mem_cons.mp hs with rfl | hs
  · exact legible_refusedCall
  · obtain rfl := mem_singleton.mp hs
    exact legible_refusedCall

theorem run_midnightCalls (later : String) :
    ∃ w e₁ e₂, (AuditRun.start lengthHost "laptop").run lengthHost ((midnightCalls later).map AppendCall.step) = .ok w ∧
      w.appended = [e₁, e₂] ∧ e₁.timestamp = "2026-01-01T00:00:00Z" ∧ e₁.seq = 1 ∧ e₂.timestamp = later ∧ e₂.seq = 2 ∧
      e₂.prevHash = hashEntry lengthHost e₁ :=
  ⟨_, _, _, rfl, rfl, rfl, rfl, rfl, rfl, rfl⟩

theorem merge_restores_log_seconds :
    ∃ w, (AuditRun.start lengthHost "laptop").run lengthHost
        ((midnightCalls "2026-01-01T00:00:01Z").map AppendCall.step) = .ok w ∧
      w.appended.length = 2 ∧ ∀ order, MergeRestores lengthHost order w.appended [w.appended, w.appended] := by
  obtain ⟨w, e₁, e₂, hrun, happended, htime₁, -, htime₂, -⟩ := run_midnightCalls "2026-01-01T00:00:01Z"
  refine ⟨w, hrun, by rw [happended]; rfl, ?_⟩
  intro order
  have hclock : midnight ≤ oneSecondPast := Or.inl (by decide)
  have htimes : w.appended.map (·.timestamp) = [midnight, oneSecondPast].map fun t => String.ofList t.text := by
    rw [happended, map_cons, map_singleton, htime₁, htime₂]
    decide
  refine (merge_restores_log_iff lengthHost order "laptop" _ w firstMinute [midnight, oneSecondPast] _ hrun
    (pairwise_pair.mpr hclock) htimes ?_ ?_ (legible_midnightCalls _)).mpr ?_
  · intro es hes e he
    obtain rfl : es = w.appended := by simpa using hes
    exact he
  · intro e he
    exact ⟨w.appended, mem_cons_self, he⟩
  · rw [pairwise_pair]
    intro hsecond
    exact absurd hsecond (by decide)

/-- An entry half a second after midnight is put in front of the one at midnight: the merged log does not verify,
and its next entry would take the sequence number 2 again. -/
theorem half_second_merged_first :
    ∃ w, (AuditRun.start lengthHost "laptop").run lengthHost
        ((midnightCalls "2026-01-01T00:00:00.5Z").map AppendCall.step) = .ok w ∧
      ∀ order, ∃ log file, AuditLog.merge lengthHost order [w.file] = .ok (log, file) ∧
        (entriesOf lengthHost file).map (·.seq) = [2, 1] ∧
        verifyChain lengthHost file = .error (.chainHashMismatch 2) ∧ log.lastSeq = 1 := by
  obtain ⟨w, e₁, e₂, hrun, happended, htime₁, hseq₁, htime₂, hseq₂, hprev⟩ := run_midnightCalls "2026-01-01T00:00:00.5Z"
  refine ⟨w, hrun, ?_⟩
  intro order
  obtain ⟨hw, -⟩ := (sound_start lengthHost "laptop").run (legible_midnightCalls _) hrun
  have hsub : ∀ es ∈ [w.appended], ∀ e ∈ es, e ∈ w.appended := fun es hes e he => mem_singleton.mp hes ▸ he
  have hlegible : ∀ e ∈ [e₂, e₁], Legible lengthHost.floats e.payload := by
    intro e he
    apply hw.legible
    rw [happended]
    simpa [or_comm] using he
  have hlt : "2026-01-01T00:00:00.5Z" < "2026-01-01T00:00:00Z" := by decide +kernel
  have hkey : e₂.sortKey ≤ e₁.sortKey := by
    rw [AuditEntry.sortKey, AuditEntry.sortKey, Prod.Lex.toLex_le_toLex, htime₁, htime₂]
    exact Or.inl hlt
  have hmerge := merge_appended order hw hsub (fun e he => ⟨w.appended, mem_singleton_self _, he⟩)
    (happended ▸ Perm.swap e₁ e₂ []) (pairwise_pair.mpr hkey)
  rw [map_singleton, ← hw.file] at hmerge
  refine ⟨_, _, hmerge, ?_, ?_, hseq₁⟩
  · rw [entriesOf_unlines hlegible, map_cons, map_singleton, hseq₁, hseq₂]
  · have hfirst : verifyEntry lengthHost "" e₂ = .error (.chainHashMismatch 2) := by
      rw [verifyEntry, if_pos, hseq₂]
      rw [hprev]
      exact hashEntry_ne_empty lengthHost e₁
    rw [verifyChain, (records_unlines hlegible).1, map_cons, verifyLines, isBlankLine_entryLine,
      readEntry_entryLine (hlegible e₂ mem_cons_self)]
    change (verifyEntry lengthHost "" e₂ >>= _) = _
    rw [hfirst]
    rfl

end OneCipher.KeyAgent
