import OneCipher.Secret.Vault

/-!
# OneCipher.Secret.Runs — crash-free runs of the store

Along a run in which every index that is written fits the limits of the reader, the disk represents the
vault (`run_tracks`), every call returns what the vault's returns, and so the index has one row per name,
an entry file exists exactly for the live rows, reads return the last entry written and generations only
grow (`run_correct`).
-/

namespace OneCipher.Secret

open JsonText List Option
open StoreOp (prog)
open Session (writes_push)

/-! ## Limits along a run -/

/-- The text is within the limits of the reader. -/
def TextFits (text : List Char) : Prop :=
  Lines.byteLen text ≤ maxIndexSize ∧ ∀ line ∈ Lines.lines text, Lines.byteLen line ≤ maxLineLen

/-- `u64::MAX`. -/
def maxGeneration : UInt64 := UInt64.ofNat (2 ^ 64 - 1)

/-- Every generation in the index is below the largest one. -/
def BelowMax (F : FloatText) (text : List Char) : Prop :=
  ∀ rows, readIndex F text = .ok rows → ∀ r ∈ rows, r.generation < maxGeneration

/-- Every index the session wrote is within the limits. -/
def WithinLimits (F : FloatText) (s : StoreSession) : Prop :=
  ∀ text, Write.index text ∈ s.writes → TextFits text ∧ BelowMax F text

variable {rows : List SecretIndexEntry} {e : SecretEntry} {old : String}

theorem textFits_indexText {F : FloatText} : TextFits (indexText F rows) ↔ Fits F rows := by
  rw [TextFits, byteLen_indexText, lines_indexText, List.forall_mem_map, Fits]

theorem WithinLimits.fits {F : FloatText} {s : StoreSession} (h : WithinLimits F s)
    (rows : List SecretIndexEntry) (hmem : Write.index (indexText F rows) ∈ s.writes) : Fits F rows :=
  textFits_indexText.mp (h _ hmem).1

theorem WithinLimits.of_extends {F : FloatText} {s t : StoreSession} (h : WithinLimits F t)
    (hext : s.Extends t) : WithinLimits F s := fun text hmem => h text (hext.writes.subset hmem)

/-! ## The checks agree with the vault -/

namespace Refines

variable {ι : Type} {host : SecretHost ι} {rows : List SecretIndexEntry} {d : Disk} {v : Vault}

theorem floor_eq (h : Refines host rows d v) (name : String) : floor host name d = .ok (v.floorAt name) := by
  rw [floor, h.read, ← h.floorOf_eq]
  rfl

theorem nextGeneration_eq (h : Refines host rows d v) (name : String) :
    nextGeneration host name d = (validateName name).map fun _ => v.nextAt name := by
  rw [nextGeneration, h.floor_eq]
  rcases validateName name with er | ⟨⟩
  · rfl
  · rfl

theorem checkPut_eq (h : Refines host rows d v) (e : SecretEntry) : checkPut host e d = v.checkPut e := by
  rw [checkPut, Vault.checkPut, h.nextGeneration_eq]
  rcases validateName e.name with er | ⟨⟩
  · rfl
  · rfl

theorem checkEntryFile_eq (h : Refines host rows d v) (name : String) :
    checkEntryFile name d = if (v.liveAt name).isSome then .ok () else .error (.err (.notFound name)) := by
  rw [checkEntryFile, h.file]
  rcases v.liveAt name with _ | e
  · rfl
  · rfl

theorem checkDelete_eq (h : Refines host rows d v) (name : String) :
    (checkDelete host name d).map (fun _ => ()) = v.checkDelete name := by
  rw [checkDelete, Vault.checkDelete, h.checkEntryFile_eq, h.floor_eq, h.read]
  rcases validateName name with er | ⟨⟩
  · rfl
  · rcases v.liveAt name with _ | e
    · rfl
    · rfl

theorem prepareRename_eq (h : Refines host rows d v) {new : String} (hnew : ValidName new) (identity : ι)
    (recipients : List String) (draw : RenameDraw) :
    prepareRename host old new identity recipients draw d = v.prepareRename host old new identity recipients draw := by
  rw [prepareRename, Vault.prepareRename, checkRenameFiles, h.exists_eq, h.exists_eq, h.nextGeneration_eq,
    validateName_eq_ok.mpr hnew]
  rcases hold : v.liveAt old with _ | e
  · rfl
  rcases v.liveAt new with _ | e'
  · rw [h.get_of_live hold]
    rfl
  · rfl

theorem checkRename_eq (h : Refines host rows d v) (old new : String) (identity : ι) (recipients : List String)
    (draw : RenameDraw) :
    checkRename host old new identity recipients draw d = v.checkRename host old new identity recipients draw := by
  rw [checkRename, Vault.checkRename]
  rcases hnew : validateName new with er | ⟨⟩
  · rfl
  · rw [h.prepareRename_eq (validateName_eq_ok.mp hnew)]

end Refines

/-! ## The last entry written -/

def Write.entryAt (file : String) : Write → Option SecretEntry
  | .entry f e => if f = file then some e else none
  | _ => none

def lastWritten (writes : List Write) (name : String) : Option SecretEntry :=
  (writes.filterMap (Write.entryAt (entryFile name))).getLast?

theorem lastWritten_file (ws : List Write) (file : String) (e : SecretEntry) (name : String) :
    lastWritten (ws ++ [.entry file e]) name = if file = entryFile name then some e else lastWritten ws name := by
  rw [lastWritten, filterMap_append]
  by_cases h : file = entryFile name
  · rw [if_pos h, filterMap_cons_some (b := e) (by rw [Write.entryAt, if_pos h]), filterMap_nil, List.getLast?_concat]
  · rw [if_neg h, filterMap_cons_none (by rw [Write.entryAt, if_neg h]), filterMap_nil, append_nil, lastWritten]

theorem lastWritten_entry (ws : List Write) (n : String) (e : SecretEntry) (name : String) :
    lastWritten (ws ++ [.entry (entryFile n) e]) name = if n = name then some e else lastWritten ws name := by
  rw [lastWritten_file]
  by_cases h : n = name
  · rw [if_pos h, if_pos (congrArg entryFile h)]
  · rw [if_neg h, if_neg fun hf => h (entryFile_inj hf)]

theorem lastWritten_other {w : Write} (h : ∀ file, w.entryAt file = none) (ws : List Write) (name : String) :
    lastWritten (ws ++ [w]) name = lastWritten ws name := by
  rw [lastWritten, filterMap_append, filterMap_cons_none (h _), filterMap_nil, append_nil, lastWritten]

/-! ## One step -/

/-- The session represents the vault, and the live entries are the last ones it wrote. -/
structure Tracks {ι : Type} (host : SecretHost ι) (s : StoreSession) (v : Vault) : Prop where
  refines : ∃ rows, Refines host rows (diskOf s) v
  last : ∀ name e, v.liveAt name = some e → lastWritten s.writes name = some e

/-- What a call returns, and that the vault is tracked after it. -/
def StepTracks {ι : Type} (host : SecretHost ι) (s : StoreSession) (v : Vault) (op : StoreOp ι) : Prop :=
  (Prog.exec (op.prog host) s).1 = (v.step host op).map (fun _ => ()) ∧
    Tracks host (StoreOp.after host s op) (v.after host op)

section Step

variable {ι : Type} {host : SecretHost ι} {s : StoreSession} {v : Vault}

theorem Vault.liveAt_write (v : Vault) (e : SecretEntry) (name : String) :
    (v.write e).liveAt name = if name = e.name then some e else v.liveAt name := by
  rw [Vault.liveAt, Vault.write, Function.update_apply]
  split_ifs with h
  · rfl
  · rfl

theorem Vault.liveAt_bury (v : Vault) (n name : String) :
    (v.bury n).liveAt name = if name = n then none else v.liveAt name := by
  rw [Vault.liveAt, Vault.bury, Function.update_apply]
  split_ifs with h
  · rfl
  · rfl

theorem nextGeneration_tracks (h : Tracks host s v) (name : String) : StepTracks host s v (.nextGeneration name) := by
  obtain ⟨rows, hr⟩ := h.refines
  have hexec : Prog.exec (prog host (.nextGeneration name)) s = ((validateName name).map (fun _ => ()), s) := by
    change ((nextGeneration host name (diskOf s)).map _, s) = _
    rw [hr.nextGeneration_eq]
    rcases validateName name with er | ⟨⟩
    · rfl
    · rfl
  rw [StepTracks, StoreOp.after, hexec, Vault.after, Vault.step]
  rcases validateName name with er | ⟨⟩
  · exact ⟨rfl, h⟩
  · exact ⟨rfl, h⟩

theorem Refines.after_put (h : Refines host rows (diskOf s) v) (hv : ValidName e.name)
    (hfit : Fits host.floats (upsertRows rows e.toIndexEntry)) :
    Refines host (upsertRows rows e.toIndexEntry) (diskOf (afterPut host rows e s)) (v.write e) := by
  refine h.write hv (readIndexRaw_afterPut.mpr ⟨rfl, hfit⟩) ?_
  rw [afterPut, diskOf_push, diskOf_push, Disk.entries_index, Disk.entries_entry]

theorem Refines.after_delete (h : Refines host rows (diskOf s) v) {name : String} (hlive : v.liveAt name = some e)
    (now : String) (hfit : Fits host.floats (upsertRows rows (deletedRow rows name now))) :
    Refines host (upsertRows rows (deletedRow rows name now)) (diskOf (afterDelete host rows name now s))
      (v.bury name) := by
  have hrow : (deletedRow rows name now).name = name ∧ (deletedRow rows name now).generation = v.floorAt name ∧
      (deletedRow rows name now).tombstone = true := ⟨rfl, h.floorOf_eq name, rfl⟩
  refine h.bury hlive hrow (readIndexRaw_afterDelete.mpr ⟨rfl, hfit⟩) ?_
  rw [afterDelete, diskOf_push, diskOf_push, Disk.entries_index, Disk.entries_remove]

theorem put_tracks (h : Tracks host s v) (e : SecretEntry)
    (hlim : WithinLimits host.floats (StoreOp.after host s (.put e))) : StepTracks host s v (.put e) := by
  obtain ⟨rows, hr⟩ := h.refines
  have hcheck := hr.checkPut_eq e
  rw [StoreOp.after, prog] at hlim
  rw [StepTracks, StoreOp.after, prog, Vault.after, Vault.step, ← hcheck]
  rcases put_cases host e s with ⟨er, hexec, her⟩ | ⟨rows', hv, hrows, hgen, hexec⟩
  · rw [hexec, her]
    exact ⟨rfl, h⟩
  obtain rfl : rows = rows' := Except.ok.inj (hr.read.symm.trans hrows)
  rw [hexec] at hlim ⊢
  rw [checkPut_eq_ok.mpr ⟨hv, rows, hrows, hgen⟩]
  have hfit := hlim.fits (upsertRows rows e.toIndexEntry) (by simp [afterPut])
  refine ⟨rfl, ⟨_, hr.after_put hv hfit⟩, fun name e' hlive => ?_⟩
  · change (v.write e).liveAt name = _ at hlive
    rw [Vault.liveAt_write] at hlive
    rw [afterPut, writes_push, lastWritten_other fun _ => rfl, writes_push, lastWritten_entry]
    split_ifs at hlive with hn
    · rw [if_pos hn.symm, hlive]
    · rw [if_neg (Ne.symm hn), h.last name e' hlive]

theorem delete_tracks (h : Tracks host s v) (name now : String)
    (hlim : WithinLimits host.floats (StoreOp.after host s (.delete name now))) :
    StepTracks host s v (.delete name now) := by
  obtain ⟨rows, hr⟩ := h.refines
  have hcheck := hr.checkDelete_eq name
  rw [StoreOp.after, prog] at hlim
  rw [StepTracks, StoreOp.after, prog, Vault.after, Vault.step, ← hcheck]
  rcases delete_cases host name now s with ⟨er, hexec, her⟩ | ⟨rows', hv, ⟨content, hfile⟩, hrows, hexec⟩
  · rw [hexec, her]
    exact ⟨rfl, h⟩
  obtain rfl : rows = rows' := Except.ok.inj (hr.read.symm.trans hrows)
  obtain ⟨e, hlive, -⟩ := map_eq_some_iff.mp ((hr.file name).symm.trans hfile)
  rw [hexec] at hlim ⊢
  rw [checkDelete_eq_ok.mpr ⟨hv, ⟨content, hfile⟩, rows, hrows, rfl⟩]
  have hfit := hlim.fits (upsertRows rows (deletedRow rows name now)) (by simp [afterDelete])
  refine ⟨rfl, ⟨_, hr.after_delete hlive now hfit⟩, fun n e' hl => ?_⟩
  · change (v.bury name).liveAt n = _ at hl
    rw [Vault.liveAt_bury] at hl
    rw [afterDelete, writes_push, lastWritten_other fun _ => rfl, writes_push, lastWritten_other fun _ => rfl]
    split_ifs at hl
    exact h.last n e' hl

variable {oldEntry : SecretEntry}

theorem Refines.rename_facts {d : Disk} (hr : Refines host rows d v) {new : String} {identity : ι}
    {recipients : List String} {draw : RenameDraw} {newEntry : SecretEntry}
    (h : checkRename host old new identity recipients draw d = .ok (some (oldEntry, newEntry))) :
    ValidName new ∧ old ≠ new ∧ v.liveAt old = some oldEntry ∧ v.liveAt new = none ∧ newEntry.name = new ∧
      newEntry.generation = nextOf rows new := by
  obtain ⟨-, hnew, hne, hprep⟩ := checkRename_eq_some.mp h
  obtain ⟨hold, hfree, hget, -, payload, -, rows', hrows, e', he', hp⟩ := prepareRename_eq_ok.mp hprep
  obtain rfl : rows = rows' := Except.ok.inj (hr.read.symm.trans hrows)
  obtain ⟨-, -, c, -, rfl⟩ := SecretEntry.new_eq_ok.mp he'
  rw [hr.exists_eq] at hold hfree
  obtain ⟨o, ho⟩ := isSome_iff_exists.mp hold
  obtain rfl : o = oldEntry := Except.ok.inj ((hr.get_of_live ho).symm.trans hget)
  dsimp only at hp
  rw [hp]
  exact ⟨hnew, hne, ho, not_isSome_iff_eq_none.mp (by rw [hfree]; decide), rfl, rfl⟩

theorem Refines.buriedRow_facts {d : Disk} (hr : Refines host rows d v) (hold : v.liveAt old = some oldEntry)
    (now : String) :
    (buriedRow rows oldEntry old now).name = old ∧ (buriedRow rows oldEntry old now).generation = v.floorAt old ∧
      (buriedRow rows oldEntry old now).tombstone = true := by
  refine ⟨rfl, ?_, rfl⟩
  change max (floorOf rows old) oldEntry.generation = _
  rw [hr.floorOf_of_live hold, hr.floorAt_of_live hold]
  apply UInt64.toNat_inj.mp
  rw [UInt64.toNat_max, Nat.max_self]

theorem Refines.moved {d d' : Disk} (hr : Refines host rows d v) {new : String} (hne : old ≠ new)
    {newEntry : SecretEntry} (hold : v.liveAt old = some oldEntry) (hnew : ValidName new)
    (hname : newEntry.name = new) (now : String) (hfit : Fits host.floats (buriedRows rows oldEntry old now))
    (hread : readIndexRaw host d' = .ok (upsertRows (buriedRows rows oldEntry old now) newEntry.toIndexEntry))
    (hfile : d'.entries = Function.update (Function.update d.entries (entryFile new) (some (.regular (some newEntry)))) (entryFile old) none) :
    Refines host (upsertRows (buriedRows rows oldEntry old now) newEntry.toIndexEntry) d'
      ((v.bury old).write newEntry) := by
  -- the disk as it would be had the rename only buried the old name
  have hbury : Refines host (buriedRows rows oldEntry old now) ((d.apply (.remove (entryFile old))).apply
      (.index (indexText host.floats (buriedRows rows oldEntry old now)))) (v.bury old) := by
    refine hr.bury hold (hr.buriedRow_facts hold now) ?_ ?_
    · rw [readIndexRaw_index, ← buriedRows, readIndex_indexText.mpr ⟨rfl, hfit⟩]
    · rw [Disk.entries_index, Disk.entries_remove]
  have hfiles : entryFile new ≠ entryFile old := fun hf => hne (entryFile_inj hf).symm
  refine hbury.write (hname ▸ hnew) hread ?_
  rw [hfile, hname, Disk.entries_index, Disk.entries_remove, Function.update_comm hfiles]

theorem lastWritten_afterRename (rows : List SecretIndexEntry) (old new now : String) (oldEntry newEntry : SecretEntry)
    (s : StoreSession) (name : String) :
    lastWritten (afterRename host rows old new now oldEntry newEntry s).writes name =
      if new = name then some newEntry else lastWritten s.writes name := by
  rw [afterRename, writes_push, lastWritten_other fun _ => rfl, writes_push,
    lastWritten_other fun _ => rfl, afterBury, writes_push, lastWritten_other fun _ => rfl, afterUnlink,
    writes_push, lastWritten_other fun _ => rfl, writes_push, lastWritten_other fun _ => rfl,
    writes_push, lastWritten_entry]

theorem rename_tracks (h : Tracks host s v) (old new : String) (identity : ι) (recipients : List String)
    (draw : RenameDraw)
    (hlim : WithinLimits host.floats (StoreOp.after host s (.rename old new identity recipients draw))) :
    StepTracks host s v (.rename old new identity recipients draw) := by
  obtain ⟨rows, hr⟩ := h.refines
  have hcheck := hr.checkRename_eq old new identity recipients draw
  rw [StoreOp.after, prog] at hlim
  rw [StepTracks, StoreOp.after, prog, Vault.after, Vault.step, ← hcheck]
  rcases rename_cases host old new identity recipients draw s with
    ⟨er, hexec, her⟩ | ⟨hexec, hnone⟩ | ⟨oldEntry, newEntry, hsome, hexec⟩
  · rw [hexec, her]
    exact ⟨rfl, h⟩
  · rw [hexec, hnone]
    exact ⟨rfl, h⟩
  obtain ⟨hnew, hne, hold, -, hname, -⟩ := hr.rename_facts hsome
  rw [hexec] at hlim ⊢
  rw [hsome]
  rcases exec_moveEntry old new draw.tombstonedAt oldEntry newEntry hr.read with ⟨hfit, hmove⟩ | ⟨hfit, er, hmove⟩
  · rw [hmove] at hlim ⊢
    have hfit' := hlim.fits (upsertRows (buriedRows rows oldEntry old draw.tombstonedAt) newEntry.toIndexEntry)
      (by simp [afterRename])
    refine ⟨rfl, ⟨_, hr.moved hne hold hnew hname draw.tombstonedAt hfit ?_ ?_⟩, fun n e' hl => ?_⟩
    · rw [afterRename, diskOf_push, diskOf_push, readIndexRaw_removeWal, readIndexRaw_index,
        readIndex_indexText.mpr ⟨rfl, hfit'⟩]
    · rw [afterRename, diskOf_push, diskOf_push, afterBury, diskOf_push, afterUnlink, diskOf_push, diskOf_push,
        diskOf_push, Disk.entries_removeWal, Disk.entries_index, Disk.entries_index, Disk.entries_remove,
        Disk.entries_wal, Disk.entries_entry]
    · change ((v.bury old).write newEntry).liveAt n = _ at hl
      rw [Vault.liveAt_write, Vault.liveAt_bury, hname] at hl
      rw [lastWritten_afterRename]
      split_ifs at hl with hn
      · rw [if_pos hn.symm, hl]
      · rw [if_neg (Ne.symm hn), h.last n e' hl]
  · -- the tombstone is an index of the run, so it fits
    rw [hmove] at hlim
    exact absurd (hlim.fits _ (by simp [afterBury])) hfit

/-- **Every call returns what the vault's returns and moves the disk as the vault moves.** -/
theorem step_tracks (h : Tracks host s v) (op : StoreOp ι)
    (hlim : WithinLimits host.floats (StoreOp.after host s op)) : StepTracks host s v op := by
  cases op with
  | nextGeneration name => exact nextGeneration_tracks h name
  | put e => exact put_tracks h e hlim
  | delete name now => exact delete_tracks h name now hlim
  | rename old new identity recipients draw => exact rename_tracks h old new identity recipients draw hlim

end Step

/-! ## Runs -/

section Runs

variable {ι : Type} (host : SecretHost ι)

theorem extends_after (s : StoreSession) (op : StoreOp ι) : s.Extends (StoreOp.after host s op) := by
  have hlook : ∀ {α : Type} (f : Disk → Outcome SecretStoreError α), Prog.Preserves s.Extends (look f) := fun _ _ h => h
  have hperform : ∀ w, Prog.Preserves s.Extends (perform w : StoreProg Unit) := fun w t h =>
    h.trans ⟨rfl, prefix_append _ _⟩
  have hupsert : ∀ row, Prog.Preserves s.Extends (upsertIndex host row) := fun row => (hlook _).bind fun _ => hperform _
  refine (?_ : Prog.Preserves s.Extends (op.prog host)) s (.refl s)
  cases op with
  | nextGeneration => exact hlook _
  | put => exact (hlook _).bind fun _ => (hperform _).bind fun _ => hupsert _
  | delete => exact (hlook _).bind fun _ => (hperform _).bind fun _ => hupsert _
  | rename =>
    refine (hlook _).bind fun entries => ?_
    rcases entries with _ | ⟨oldEntry, newEntry⟩
    · exact .pure _
    · exact (hperform _).bind fun _ => (hperform _).bind fun _ => (hperform _).bind fun _ => (hlook _).bind fun _ =>
        (hupsert _).bind fun _ => (hupsert _).bind fun _ => hperform _

theorem runOps_append (ops ops' : List (StoreOp ι)) (s : StoreSession) :
    runOps host (ops ++ ops') s = runOps host ops' (runOps host ops s) := foldl_append

theorem extends_runOps (ops : List (StoreOp ι)) (s : StoreSession) : s.Extends (runOps host ops s) := by
  induction ops generalizing s with
  | nil => exact Session.Extends.refl s
  | cons op _ ih => exact (extends_after host s op).trans (ih _)

variable {host}

/-- **A run within the limits represents the vault's run.** -/
theorem run_tracks (ops : List (StoreOp ι)) {s : StoreSession} {v : Vault} (h : Tracks host s v)
    (hlim : WithinLimits host.floats (runOps host ops s)) :
    Tracks host (runOps host ops s) (ops.foldl (Vault.after host) v) := by
  induction ops generalizing s v with
  | nil => exact h
  | cons op ops ih =>
    have hop : WithinLimits host.floats (StoreOp.after host s op) := hlim.of_extends (extends_runOps host ops _)
    exact ih (step_tracks h op hop).2 hlim

end Runs

/-! ## Generations only grow -/

section Growth

variable {ι : Type} {host : SecretHost ι} {s : StoreSession} {v : Vault}

theorem Vault.floorAt_write (v : Vault) (e : SecretEntry) (name : String) :
    (v.write e).floorAt name = if name = e.name then e.generation else v.floorAt name := by
  rw [Vault.floorAt, Vault.write, Function.update_apply]
  split_ifs with h
  · rfl
  · rfl

theorem Vault.floorAt_bury (v : Vault) (n name : String) : (v.bury n).floorAt name = v.floorAt name := by
  rw [Vault.floorAt, Vault.bury, Function.update_apply]
  split_ifs with h
  · rw [h]
    rfl
  · rfl

theorem floorAt_le_nextAt (v : Vault) (name : String) : v.floorAt name ≤ v.nextAt name := by
  have hlt := (v.floorAt name).toNat_lt
  rw [UInt64.le_iff_toNat_le, Vault.nextAt, UInt64.toNat_max, toNat_saturatingSucc]
  omega

theorem floorAt_le_write (hgen : e.generation = v.nextAt e.name) (name : String) :
    v.floorAt name ≤ (v.write e).floorAt name := by
  rw [Vault.floorAt_write]
  split_ifs with h
  · rw [hgen, h]
    exact floorAt_le_nextAt v e.name
  · exact UInt64.le_refl _

theorem floorAt_le_after (h : Tracks host s v) (op : StoreOp ι) (name : String) :
    v.floorAt name ≤ (v.after host op).floorAt name := by
  obtain ⟨rows, hr⟩ := h.refines
  cases op with
  | nextGeneration n =>
    rw [Vault.after, Vault.step]
    rcases validateName n with er | ⟨⟩
    · exact UInt64.le_refl _
    · exact UInt64.le_refl _
  | put e =>
    rw [Vault.after, Vault.step]
    rcases hcheck : v.checkPut e with er | ⟨⟩
    · exact UInt64.le_refl _
    · obtain ⟨-, rows', hrows, hgen⟩ := checkPut_eq_ok.mp ((hr.checkPut_eq e).trans hcheck)
      obtain rfl : rows = rows' := Except.ok.inj (hr.read.symm.trans hrows)
      exact floorAt_le_write (hgen.trans (hr.nextOf_eq _)) name
  | delete n =>
    rw [Vault.after, Vault.step]
    rcases v.checkDelete n with er | ⟨⟩
    · exact UInt64.le_refl _
    · change v.floorAt name ≤ (v.bury n).floorAt name
      rw [Vault.floorAt_bury]
      exact UInt64.le_refl _
  | rename old new identity recipients draw =>
    rw [Vault.after, Vault.step]
    rcases hcheck : v.checkRename host old new identity recipients draw with er | _ | ⟨oldEntry, newEntry⟩
    · exact UInt64.le_refl _
    · exact UInt64.le_refl _
    · obtain ⟨-, -, -, -, hname, hgen⟩ := hr.rename_facts ((hr.checkRename_eq ..).trans hcheck)
      change v.floorAt name ≤ ((v.bury old).write newEntry).floorAt name
      have hnext : newEntry.generation = (v.bury old).nextAt newEntry.name := by
        rw [hgen, hr.nextOf_eq, hname, Vault.nextAt, Vault.nextAt, Vault.floorAt_bury]
      refine UInt64.le_trans ?_ (floorAt_le_write hnext name)
      rw [Vault.floorAt_bury]
      exact UInt64.le_refl _

theorem floorAt_lt_of_put (h : Tracks host s v) (hok : (Prog.exec (put host e) s).1 = .ok ())
    (hlim : WithinLimits host.floats (StoreOp.after host s (.put e))) :
    v.floorAt e.name < (v.after host (.put e)).floorAt e.name := by
  obtain ⟨rows, hr⟩ := h.refines
  rcases put_cases host e s with ⟨er, hexec, -⟩ | ⟨rows', hv, hrows, hgen, hexec⟩
  · rw [hexec] at hok
    cases hok
  obtain rfl : rows = rows' := Except.ok.inj (hr.read.symm.trans hrows)
  have hmem : Write.index (indexText host.floats (upsertRows rows e.toIndexEntry)) ∈
      (Prog.exec (put host e) s).2.writes := by
    rw [hexec]
    simp [afterPut]
  have hbelow : e.generation < maxGeneration :=
    (hlim _ hmem).2 _ (readIndex_indexText.mpr ⟨rfl, hlim.fits _ hmem⟩) e.toIndexEntry
      (mem_upsertRows.mpr (.inr rfl))
  have hafter : (v.after host (.put e)).floorAt e.name = e.generation := by
    rw [Vault.after, Vault.step, ← hr.checkPut_eq, checkPut_eq_ok.mpr ⟨hv, rows, hrows, hgen⟩]
    change (v.write e).floorAt e.name = _
    rw [Vault.floorAt_write, if_pos rfl]
  have hnat : e.generation.toNat = min ((v.floorAt e.name).toNat + 1) (2 ^ 64 - 1) := by
    rw [hgen, toNat_nextOf, hr.floorOf_eq]
  rw [hafter, UInt64.lt_iff_toNat_lt]
  rw [UInt64.lt_iff_toNat_lt] at hbelow
  change _ < 2 ^ 64 - 1 at hbelow
  omega

end Growth

/-! ## Correctness of a run -/

def freshRun {ι : Type} (host : SecretHost ι) (ops : List (StoreOp ι)) : StoreSession :=
  runOps host ops (Session.of Disk.empty)

theorem freshRun_tracks {ι : Type} {host : SecretHost ι} {ops : List (StoreOp ι)}
    (hlim : WithinLimits host.floats (freshRun host ops)) :
    Tracks host (freshRun host ops) (ops.foldl (Vault.after host) Vault.fresh) :=
  run_tracks ops ⟨⟨[], Refines.empty⟩, fun _ _ h => nomatch h⟩ hlim

/-- The name has a live row. -/
def LiveIn (rows : List SecretIndexEntry) (name : String) : Prop := ∃ r ∈ rows, r.name = name ∧ r.tombstone = false

section Correct

variable {ι : Type} {host : SecretHost ι} {rows : List SecretIndexEntry} {d : Disk} {v : Vault}

theorem Refines.liveIn_iff (h : Refines host rows d v) (name : String) :
    LiveIn rows name ↔ ∃ e, v.liveAt name = some e := by
  constructor
  · rintro ⟨r, hr, rfl, hlive⟩
    rcases hv : v.liveAt r.name with _ | e
    · have htomb := h.row_of_dead hv (rowOf_of_mem h.once hr)
      rw [hlive] at htomb
      cases htomb
    · exact ⟨e, rfl⟩
  · rintro ⟨e, he⟩
    have hrow := (h.row_of_live he).1
    exact ⟨e.toIndexEntry, mem_of_rowOf hrow, name_of_rowOf hrow, rfl⟩

theorem get_of_invalid {name : String} (h : ¬ ValidName name) :
    ∃ reason, get host name d = .error (.err (.invalidName reason)) := by
  rcases hv : validatePath name with reason | ⟨⟩
  · refine ⟨reason, ?_⟩
    rw [get, validateName, hv]
    rfl
  · exact absurd hv h

theorem Refines.list_eq (h : Refines host rows d v) :
    ∃ listed, list host d = .ok listed ∧ (listed.map (·.name)).Pairwise (· < ·) ∧
      ∀ name, name ∈ listed.map (·.name) ↔ LiveIn rows name := by
  have hperm := mergeSort_perm (rows.filter fun r => !r.tombstone) fun a b => a.name ≤ b.name
  refine ⟨_, Result.bind_ok h.read rfl, ?_, fun name => ?_⟩
  · have hsorted : (((rows.filter fun r => !r.tombstone).mergeSort fun a b => a.name ≤ b.name).map (·.name)).Pairwise
        (· ≤ ·) := by
      refine pairwise_map.mpr (List.Pairwise.imp of_decide_eq_true (pairwise_mergeSort ?_ ?_ _))
      · intro a b c hab hbc
        exact decide_eq_true (le_trans (of_decide_eq_true hab) (of_decide_eq_true hbc))
      · intro a b
        simpa using le_total a.name b.name
    have hnodup : ((rows.filter fun r => !r.tombstone).map (·.name)).Nodup := h.once.sublist (filter_sublist.map _)
    have hnodup' := (hperm.map (·.name)).nodup_iff.mpr hnodup
    exact (hsorted.and hnodup').imp fun hle => lt_of_le_of_ne hle.1 hle.2
  · rw [(hperm.map (·.name)).mem_iff]
    simp only [List.mem_map, mem_filter, Bool.not_eq_true', LiveIn]
    constructor
    · rintro ⟨r, ⟨hr, hlive⟩, hn⟩
      exact ⟨r, hr, hn, hlive⟩
    · rintro ⟨r, hr, hn, hlive⟩
      exact ⟨r, ⟨hr, hlive⟩, hn⟩

variable (host)

/-- **A crash-free run on an empty store.**  As long as every index it writes is within the limits: the
index has one row per name; an entry file exists exactly for the live rows and has the row's generation; a
read returns the last entry written for a live name, fails with `NotFound` for every other name that is
valid and with `InvalidName` for the rest; `list` is the live names in order; and no call lowers the
generation of a name, while every successful `put` raises it. -/
theorem run_correct (ops : List (StoreOp ι))
    (hlim : WithinLimits host.floats (freshRun host ops)) :
    (∃ rows, readIndexRaw host (diskOf (freshRun host ops)) = .ok rows ∧ (rows.map (·.name)).Nodup ∧
      (∀ name, ((diskOf (freshRun host ops)).entries (entryFile name)).isSome = true ↔ LiveIn rows name) ∧
      (∀ r ∈ rows, r.tombstone = false → ∃ e, e.generation = r.generation ∧
        (diskOf (freshRun host ops)).entries (entryFile r.name) = some (.regular (some e))) ∧
      (∀ name, LiveIn rows name → ∃ e, lastWritten (freshRun host ops).writes name = some e ∧
        get host name (diskOf (freshRun host ops)) = .ok e) ∧
      (∀ name, ValidName name → ¬ LiveIn rows name →
        get host name (diskOf (freshRun host ops)) = .error (.err (.notFound name))) ∧
      (∀ name, ¬ ValidName name → ∃ reason,
        get host name (diskOf (freshRun host ops)) = .error (.err (.invalidName reason))) ∧
      ∃ listed, list host (diskOf (freshRun host ops)) = .ok listed ∧
        (listed.map (·.name)).Pairwise (· < ·) ∧ ∀ name, name ∈ listed.map (·.name) ↔ LiveIn rows name) ∧
    ∀ pre op post, ops = pre ++ op :: post → ∀ name, ∃ g g',
      floor host name (diskOf (freshRun host pre)) = .ok g ∧
      floor host name (diskOf (freshRun host (pre ++ [op]))) = .ok g' ∧ g ≤ g' ∧
      ∀ e, op = .put e → e.name = name → (Prog.exec (put host e) (freshRun host pre)).1 = .ok () → g < g' := by
  constructor
  · obtain ⟨⟨rows, hr⟩, hlast⟩ := freshRun_tracks hlim
    refine ⟨rows, hr.read, hr.once, fun name => ?_, fun r hmem hlive => ?_, fun name hlive => ?_,
      fun name hv hdead => ?_, fun name hv => ?_, hr.list_eq⟩
    · rw [hr.file, isSome_map, hr.liveIn_iff, isSome_iff_exists]
    · obtain ⟨e, he⟩ := (hr.liveIn_iff r.name).mp ⟨r, hmem, rfl, hlive⟩
      have hrow := (hr.row_of_live he).1
      rw [rowOf_of_mem hr.once hmem, some_inj] at hrow
      refine ⟨e, ?_, ?_⟩
      · rw [hrow]
        rfl
      · rw [hr.file, he]
        rfl
    · obtain ⟨e, he⟩ := (hr.liveIn_iff name).mp hlive
      exact ⟨e, hlast name e he, hr.get_of_live he⟩
    · rw [hr.liveIn_iff, ← isSome_iff_exists, not_isSome_iff_eq_none] at hdead
      exact get_of_no_file hv (by rw [hr.file, hdead]; rfl)
    · exact get_of_invalid hv
  · rintro pre op post rfl name
    have hstep : WithinLimits host.floats (StoreOp.after host (freshRun host pre) op) := by
      rw [freshRun, runOps_append] at hlim
      exact hlim.of_extends (extends_runOps host post _)
    have hpre := freshRun_tracks (hstep.of_extends (extends_after host _ op))
    obtain ⟨rows, hr⟩ := hpre.refines
    obtain ⟨rows', hr'⟩ := (step_tracks hpre op hstep).2.refines
    refine ⟨_, _, hr.floor_eq name, ?_, floorAt_le_after hpre op name, ?_⟩
    · rw [freshRun, runOps_append]
      exact hr'.floor_eq name
    · rintro e rfl rfl hok
      exact floorAt_lt_of_put hpre hok hstep

end Correct

/-! ## A concrete store -/

/-- A store with the entry `a`. -/
def oneSession : StoreSession := afterPut plainHost [] (plainEntry "a" 1 "x") (Session.of Disk.empty)

def oneRows : List SecretIndexEntry := [(plainEntry "a" 1 "x").toIndexEntry]

def oneVault : Vault := Vault.fresh.write (plainEntry "a" 1 "x")

theorem validName_a : ValidName "a" := by decide +kernel

theorem validName_b : ValidName "b" := by decide +kernel

theorem refines_one : Refines plainHost oneRows (diskOf oneSession) oneVault := by
  have hfit : Fits plainHost.floats (upsertRows [] (plainEntry "a" 1 "x").toIndexEntry) := by decide +kernel
  have hempty : Refines plainHost [] (diskOf (Session.of Disk.empty)) Vault.fresh := Refines.empty
  exact hempty.after_put validName_a hfit

theorem liveAt_one : oneVault.liveAt "a" = some (plainEntry "a" 1 "x") := rfl

theorem freshRun_put (hv : ValidName e.name) (hgen : e.generation = 1) :
    freshRun plainHost [.put e] = afterPut plainHost [] e (Session.of Disk.empty) := by
  have hread : readIndexRaw plainHost (diskOf (Session.of Disk.empty)) = .ok [] := rfl
  rw [freshRun, runOps, foldl_cons, foldl_nil, StoreOp.after, prog, exec_put hv hread hgen]

theorem run_correct_put :
    WithinLimits plainHost.floats (freshRun plainHost [.put (plainEntry "a" 1 "x")]) ∧
    ∃ rows, readIndexRaw plainHost (diskOf (freshRun plainHost [.put (plainEntry "a" 1 "x")])) = .ok rows := by
  have hlim : WithinLimits plainHost.floats (freshRun plainHost [.put (plainEntry "a" 1 "x")]) := by
    rw [freshRun_put (by decide +kernel) rfl]
    intro text hmem
    obtain rfl : text = indexText plainHost.floats [(plainEntry "a" 1 "x").toIndexEntry] := by
      simpa [afterPut, Session.of, upsertRows] using hmem
    refine ⟨textFits_indexText.mpr (by decide +kernel), fun rows hrows r hr => ?_⟩
    rw [(readIndex_indexText.mp hrows).1, mem_singleton] at hr
    rw [hr]
    decide
  obtain ⟨⟨rows, hread, -⟩, -⟩ := run_correct plainHost [.put (plainEntry "a" 1 "x")] hlim
  exact ⟨hlim, rows, hread⟩

/-- A read of a name that is not valid does not fail with `NotFound`. -/
theorem get_blank_name :
    WithinLimits plainHost.floats (freshRun plainHost []) ∧ readIndexRaw plainHost (diskOf (freshRun plainHost [])) = .ok [] ∧
    get plainHost "" (diskOf (freshRun plainHost [])) ≠ .error (.err (.notFound "")) := by
  refine ⟨nofun, rfl, ?_⟩
  decide +kernel

end OneCipher.Secret
