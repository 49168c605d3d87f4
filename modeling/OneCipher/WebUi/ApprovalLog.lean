import OneCipher.WebUi.ApprovalQueue

/-!
# OneCipher.WebUi.ApprovalLog — collecting the approval log

`gc_older_than` of `oc-core/src/approval_log.rs`.  The collection reads the log twice: it finds the ids that were
resolved before a cutoff, and rewrites the log without the lines of these ids.  Blank lines go, malformed ones
stay, and the lines kept end in newlines, so that a carriage return at the end of one is read differently.
-/

namespace OneCipher.WebUi

open NetAgent List Lines

/-! ## The collection -/

/-- `serde_json::from_str::<ApprovalLogEvent>`. -/
structure EventReader where
  fromStr : String → Option ApprovalLogEvent
  fromStr_cr : ∀ s, fromStr (s ++ "\r") = fromStr s
  fromStr_blank : ∀ line, (Lines.trim line).isEmpty = true → fromStr (String.ofList line) = none

def ApprovalLogEvent.id : ApprovalLogEvent → String
  | .pending id _ _ => id
  | .resolved id _ _ _ => id

def ApprovalLogEvent.resolvedAt : ApprovalLogEvent → Option Nat
  | .pending _ _ _ => none
  | .resolved _ time _ _ => some time

namespace EventReader

variable (R : EventReader)

def event (line : List Char) : Option ApprovalLogEvent := R.fromStr (String.ofList line)

def events (content : String) : List ApprovalLogEvent := (Lines.lines content.toList).filterMap R.event

def staleIds (cutoff : Nat) (lines : List (List Char)) : List String :=
  lines.filterMap fun line => match R.event line with
    | some (.resolved id time _ _) => if time < cutoff then some id else none
    | _ => none

def keeps (stale : List String) (line : List Char) : Bool :=
  match R.event line with
  | some e => decide (e.id ∉ stale)
  | none => true

def rebuilt (kept : List (List Char)) : List Char :=
  let newContent := List.intercalate ['\n'] kept
  if newContent = [] then newContent else newContent ++ ['\n']

/-- `gc_older_than` on the content of the log: the number of lines removed, and the content it leaves. -/
def gcOlderThan (now days : Nat) (content : String) : Nat × String :=
  let cutoff := now - (days * 86400) % 2 ^ 64
  let stale := R.staleIds cutoff (Lines.lines content.toList)
  let lines := (Lines.lines content.toList).filter fun line => !(Lines.trim line).isEmpty
  let kept := lines.filter (R.keeps stale)
  let removed := lines.length - kept.length
  (removed, if removed > 0 then String.ofList (rebuilt kept) else content)

end EventReader

/-! ## The replay, id by id -/

def applyEvent (pendingMap : Store String PendingApproval) : ApprovalLogEvent → Store String PendingApproval
  | .pending id _ approval => pendingMap.insert id approval
  | .resolved id _ _ _ => pendingMap.erase id

def ApprovalLogEvent.outcome : ApprovalLogEvent → Option PendingApproval
  | .pending _ _ approval => some approval
  | .resolved _ _ _ _ => none

theorem lookup_applyEvent (m : Store String PendingApproval) (e : ApprovalLogEvent) (id : String) :
    (applyEvent m e).lookup id = if e.id = id then e.outcome else m.lookup id := by
  by_cases h : e.id = id
  · subst h
    rw [if_pos rfl]
    cases e with
    | pending => exact AList.lookup_insert m
    | resolved id' => exact AList.lookup_erase id' m
  · rw [if_neg h]
    cases e with
    | pending => exact AList.lookup_insert_ne (Ne.symm h)
    | resolved => exact AList.lookup_erase_ne (Ne.symm h)

/-- **An id is waiting by its own last event.** -/
theorem lookup_foldl_applyEvent (events : List ApprovalLogEvent) (m : Store String PendingApproval) (id : String) :
    (events.foldl applyEvent m).lookup id =
      match (events.filter (·.id = id)).getLast? with
      | some e => e.outcome
      | none => m.lookup id := by
  induction events using List.reverseRecOn with
  | nil => rfl
  | append_singleton _ e ih =>
    rw [foldl_append, foldl_cons, foldl_nil, lookup_applyEvent, filter_append]
    by_cases h : e.id = id
    · rw [if_pos h, filter_cons_of_pos (by simpa using h), filter_nil, List.getLast?_concat]
    · rw [if_neg h, filter_cons_of_neg (by simpa using h), filter_nil, append_nil, ih]

variable (R : EventReader)

theorem replayLine_eq (m : Store String PendingApproval) (line : List Char) :
    replayLine R.fromStr m line = match R.event line with
      | some e => applyEvent m e
      | none => m := by
  unfold replayLine
  by_cases hb : (Lines.trim line).isEmpty = true
  · rw [if_pos hb, EventReader.event, R.fromStr_blank line hb]
  · rw [if_neg hb, EventReader.event]
    rcases R.fromStr (String.ofList line) with _ | _ | _ <;> rfl

theorem foldl_replayLine (lines : List (List Char)) (m : Store String PendingApproval) :
    lines.foldl (replayLine R.fromStr) m = (lines.filterMap R.event).foldl applyEvent m := by
  induction lines generalizing m with
  | nil => rfl
  | cons line _ ih =>
    rw [foldl_cons, ih, replayLine_eq, filterMap_cons]
    cases R.event line <;> rfl

theorem event_stripCr (line : List Char) : R.event (Lines.stripCr line) = R.event line := by
  unfold Lines.stripCr
  split
  · next hlast =>
    obtain ⟨init, rfl⟩ := List.getLast?_eq_some_iff.mp hlast
    rw [dropLast_concat, EventReader.event, EventReader.event, String.ofList_append]
    exact (R.fromStr_cr _).symm
  · rfl

/-! ## What the collection leaves -/

/-- Each id has one pending event, and it comes before every resolution of the id. -/
def WellFormed (events : List ApprovalLogEvent) : Prop :=
  ∀ id, (events.filter (·.id = id)) = [] ∨
    ∃ time approval later, events.filter (·.id = id) = .pending id time approval :: later ∧
      ∀ e ∈ later, e.outcome = none

theorem mem_staleIds {cutoff : Nat} {lines : List (List Char)} {id : String} :
    id ∈ R.staleIds cutoff lines ↔
      ∃ time decision reason, .resolved id time decision reason ∈ lines.filterMap R.event ∧ time < cutoff := by
  unfold EventReader.staleIds
  rw [mem_filterMap]
  constructor
  · rintro ⟨line, hline, h⟩
    cases he : R.event line with
    | none => simp [he] at h
    | some e =>
      cases e with
      | pending => simp [he] at h
      | resolved _ time decision reason =>
        simp only [he] at h
        by_cases ht : time < cutoff
        · rw [if_pos ht, Option.some.injEq] at h
          subst h
          exact ⟨time, decision, reason, mem_filterMap.mpr ⟨line, hline, he⟩, ht⟩
        · rw [if_neg ht] at h
          cases h
  · rintro ⟨time, decision, reason, hmem, ht⟩
    obtain ⟨line, hline, he⟩ := mem_filterMap.mp hmem
    exact ⟨line, hline, by simp only [he, if_pos ht]⟩

theorem filterMap_kept (stale : List String) (lines : List (List Char)) :
    ((lines.filter fun line => !(Lines.trim line).isEmpty).filter (R.keeps stale)).filterMap R.event =
      (lines.filterMap R.event).filter (·.id ∉ stale) := by
  induction lines with
  | nil => rfl
  | cons line _ ih =>
    rw [filter_cons]
    by_cases hb : (Lines.trim line).isEmpty = true
    · have he : R.event line = none := R.fromStr_blank line hb
      rw [if_neg (by simp [hb]), ih, filterMap_cons, he]
    · rw [if_pos (by simp [hb]), filter_cons, filterMap_cons]
      cases he : R.event line with
      | none => rw [if_pos (by simp [EventReader.keeps, he]), filterMap_cons, he, ih]
      | some e =>
        by_cases hs : e.id ∈ stale
        · rw [if_neg (by simp [EventReader.keeps, he, hs]), filter_cons_of_neg (by simp [hs]), ih]
        · rw [if_pos (by simp [EventReader.keeps, he, hs]), filterMap_cons, he, filter_cons_of_pos (by simp [hs]), ih]

theorem rebuilt_eq_unlines {kept : List (List Char)} (h : ∀ l ∈ kept, l ≠ []) :
    EventReader.rebuilt kept = Lines.unlines kept := by
  rcases kept with _ | ⟨l, kept⟩
  · rfl
  · have hjoin := intercalate_newline (cons_ne_nil l kept)
    have hne : List.intercalate ['\n'] (l :: kept) ≠ [] := by
      intro he
      rw [he, unlines_cons] at hjoin
      obtain ⟨c, cs, hc⟩ := exists_cons_of_ne_nil (h l mem_cons_self)
      rw [hc] at hjoin
      simp at hjoin
    rw [EventReader.rebuilt, if_neg hne, hjoin]

/-- **The events of the log after a collection**: only ids with a resolution lose theirs. -/
theorem events_gcOlderThan (now days : Nat) (content : String) :
    ∃ stale : List String,
      (∀ id ∈ stale, ∃ time decision reason, .resolved id time decision reason ∈ R.events content) ∧
      R.events (R.gcOlderThan now days content).2 = (R.events content).filter (·.id ∉ stale) := by
  unfold EventReader.gcOlderThan
  simp only
  generalize hs : R.staleIds (now - days * 86400 % 2 ^ 64) (Lines.lines content.toList) = stale
  generalize hl : ((Lines.lines content.toList).filter fun line => !(Lines.trim line).isEmpty) = lines
  split
  · refine ⟨stale, fun id hid => ?_, ?_⟩
    · rw [← hs, mem_staleIds] at hid
      obtain ⟨time, decision, reason, hmem, -⟩ := hid
      exact ⟨time, decision, reason, hmem⟩
    · have hkept : ∀ l ∈ lines.filter (R.keeps stale), l ≠ [] ∧ '\n' ∉ l := by
        intro l hl'
        have hmem := mem_of_mem_filter hl'
        rw [← hl, mem_filter] at hmem
        refine ⟨?_, not_mem_of_mem_lines hmem.1⟩
        rintro rfl
        exact absurd hmem.2 (by decide)
      have hevent : R.event ∘ Lines.stripCr = R.event := funext (event_stripCr R)
      rw [EventReader.events, String.toList_ofList, rebuilt_eq_unlines fun l h => (hkept l h).1,
        lines_unlines_eq_map fun l h => (hkept l h).2, filterMap_map, hevent, ← hl, filterMap_kept]
      rfl
  · exact ⟨[], nofun, by simp⟩

theorem lookup_filter_stale {events : List ApprovalLogEvent} (hwf : WellFormed events) {stale : List String}
    (hstale : ∀ id ∈ stale, ∃ time decision reason, .resolved id time decision reason ∈ events) (id : String) :
    ((events.filter (·.id ∉ stale)).foldl applyEvent ∅).lookup id = (events.foldl applyEvent ∅).lookup id := by
  rw [lookup_foldl_applyEvent, lookup_foldl_applyEvent, filter_filter]
  by_cases hid : id ∈ stale
  · -- the events of the id are gone; there was a resolution behind the pending event
    have hnone : (events.filter fun e => decide (e.id = id) && decide (e.id ∉ stale)) = [] := by
      refine filter_eq_nil_iff.mpr fun e _ h => ?_
      simp only [Bool.and_eq_true, decide_eq_true_eq] at h
      exact h.2 (h.1 ▸ hid)
    obtain ⟨time, decision, reason, hmem⟩ := hstale id hid
    have hmem' : .resolved id time decision reason ∈ events.filter (·.id = id) :=
      mem_filter.mpr ⟨hmem, by simp [ApprovalLogEvent.id]⟩
    rw [hnone]
    rcases hwf id with h | ⟨t, approval, later, h, hlater⟩
    · rw [h] at hmem'
      exact absurd hmem' not_mem_nil
    · rw [h] at hmem' ⊢
      rcases mem_cons.mp hmem' with hp | hl
      · cases hp
      · have hne : later ≠ [] := ne_nil_of_mem hl
        rw [List.getLast?_cons_of_ne_nil hne, List.getLast?_eq_some_getLast hne]
        exact (hlater _ (getLast_mem hne)).symm
  · have hsame : (events.filter fun e => decide (e.id = id) && decide (e.id ∉ stale)) = events.filter (·.id = id) := by
      refine filter_congr fun e _ => ?_
      by_cases he : e.id = id
      · simp [he, hid]
      · simp [he]
    rw [hsame]

/-- **Collecting the log changes no replay**: no request that waits is forgotten, and none that was resolved
comes back.  The replay gives out the values of a hash map, in any order. -/
theorem replay_gc {order order' : List PendingApproval → List PendingApproval} (ho : ∀ l, (order l).Perm l)
    (ho' : ∀ l, (order' l).Perm l) {content : String} (hwf : WellFormed (R.events content)) (now days : Nat) :
    (replayUnresolved R.fromStr order (R.gcOlderThan now days content).2).Perm
      (replayUnresolved R.fromStr order' content) := by
  obtain ⟨stale, hstale, hevents⟩ := events_gcOlderThan R now days content
  have hlookup := lookup_filter_stale hwf hstale
  unfold replayUnresolved
  refine (ho _).trans (List.Perm.trans (List.Perm.map _ ?_) (ho' _).symm)
  rw [foldl_replayLine, foldl_replayLine]
  change (List.foldl applyEvent ∅ (R.events _)).entries.Perm (List.foldl applyEvent ∅ (R.events content)).entries
  rw [hevents]
  refine lookup_ext (AList.nodupKeys _) (AList.nodupKeys _) fun id approval => ?_
  exact iff_of_eq (congrArg (approval ∈ ·) (hlookup id))

/-! ## A log and its collection -/

def sampleFromStr (s : String) : Option ApprovalLogEvent :=
  match s.toList.rdropWhile (· == '\r') with
  | ['P'] => some (.pending "a1" 0 Desk.samplePending)
  | ['R'] => some (.resolved "a1" 50 "approved" "")
  | ['Q'] => some (.pending "a2" 60 Desk.samplePending)
  | _ => none

theorem sampleFromStr_cr (s : String) : sampleFromStr (s ++ "\r") = sampleFromStr s := by
  have hdrop : (s ++ "\r").toList.rdropWhile (· == '\r') = s.toList.rdropWhile (· == '\r') := by
    rw [String.toList_append]
    exact rdropWhile_concat_pos _ _ _ rfl
  rw [sampleFromStr, hdrop, sampleFromStr]

theorem sampleFromStr_blank (line : List Char) (h : (Lines.trim line).isEmpty = true) :
    sampleFromStr (String.ofList line) = none := by
  have hblank := isWhitespace_of_trim_eq_nil (List.isEmpty_iff.mp h)
  have hmem : ∀ c ∈ line.rdropWhile (· == '\r'), Text.isWhitespace c = true :=
    fun c hc => hblank c (( rdropWhile_prefix _ line).subset hc)
  unfold sampleFromStr
  rw [String.toList_ofList]
  split
  · next he => exact absurd (hmem 'P' (he ▸ mem_cons_self)) (by decide)
  · next he => exact absurd (hmem 'R' (he ▸ mem_cons_self)) (by decide)
  · next he => exact absurd (hmem 'Q' (he ▸ mem_cons_self)) (by decide)
  · rfl

def sampleReader : EventReader := ⟨sampleFromStr, sampleFromStr_cr, sampleFromStr_blank⟩

theorem wellFormed_sample : WellFormed (sampleReader.events "P\nR\nQ\n") := by
  show WellFormed
    [.pending "a1" 0 Desk.samplePending, .resolved "a1" 50 "approved" "", .pending "a2" 60 Desk.samplePending]
  intro id
  by_cases h1 : "a1" = id
  · subst h1
    exact .inr ⟨0, Desk.samplePending, [.resolved "a1" 50 "approved" ""], rfl, by simp [ApprovalLogEvent.outcome]⟩
  · by_cases h2 : "a2" = id
    · subst h2
      exact .inr ⟨60, Desk.samplePending, [], rfl, by simp⟩
    · exact .inl (by simp [ApprovalLogEvent.id, h1, h2])

/-- The two lines of the resolved request go. -/
theorem replay_gc_sample :
    (sampleReader.gcOlderThan 200000 1 "P\nR\nQ\n").1 = 2 ∧
      (replayUnresolved sampleFromStr (·) (sampleReader.gcOlderThan 200000 1 "P\nR\nQ\n").2).Perm
        (replayUnresolved sampleFromStr List.reverse "P\nR\nQ\n") :=
  ⟨by decide +kernel, replay_gc sampleReader (fun _ => .refl _) (fun l => reverse_perm l) wellFormed_sample _ _⟩

end OneCipher.WebUi
