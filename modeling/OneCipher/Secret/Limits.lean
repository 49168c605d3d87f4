import OneCipher.Secret.Store

/-!
# OneCipher.Secret.Limits — what the store writes and what it reads

`read_index_raw` refuses an index of more than 1 MiB and a line of more than 1024 bytes.  `put` and
`rename` write whatever rows they have: nothing bounds the metadata of an entry, so a call that returns can
leave an index that no later call reads.  The calls that leave a readable index are those whose rows fit
(`readable_after_write_iff`).
-/

namespace OneCipher.Secret

open JsonText
open Prog (exec)

section Readable

variable {ι : Type} (host : SecretHost ι)

/-- The reader accepts the index. -/
def Readable (d : Disk) : Prop := ∃ rows, readIndexRaw host d = .ok rows

def renamedRow (rows : List SecretIndexEntry) (oldEntry : SecretEntry) (new now : String) : SecretIndexEntry where
  id := oldEntry.id
  name := new
  itemType := oldEntry.itemType
  createdAt := oldEntry.createdAt
  updatedAt := now
  metadata := oldEntry.metadata
  generation := nextOf rows new
  tombstone := false

/-- The rows a `put` leaves fit. -/
def PutFits (d : Disk) (e : SecretEntry) : Prop :=
  ∃ rows, readIndexRaw host d = .ok rows ∧ Fits host.floats (upsertRows rows e.toIndexEntry)

/-- The rows a `rename` leaves fit. -/
def RenameFits (d : Disk) (old new : String) (draw : RenameDraw) : Prop :=
  ∃ rows, readIndexRaw host d = .ok rows ∧ (old = new ∨
    ∃ e, d.entries (entryFile old) = some (.regular (some e)) ∧
      Fits host.floats (upsertRows (buriedRows rows e old draw.tombstonedAt) (renamedRow rows e new draw.entry.now)))

variable {host}

theorem readable_index_iff (d : Disk) (rows : List SecretIndexEntry) :
    Readable host (d.apply (.index (indexText host.floats rows))) ↔ Fits host.floats rows := by
  constructor
  · rintro ⟨rs, hrs⟩
    exact (readIndex_indexText.mp hrs).2
  · intro hfit
    exact ⟨rows, readIndex_indexText.mpr ⟨rfl, hfit⟩⟩

theorem readable_after_put {e : SecretEntry} {s t : StoreSession} (h : exec (put host e) s = (.ok (), t)) :
    Readable host (diskOf t) ↔ PutFits host (diskOf s) e := by
  rcases put_cases host e s with ⟨er, hexec, -⟩ | ⟨rows, -, hrows, -, hexec⟩
  · rw [hexec] at h
    cases h
  rw [hexec] at h
  cases h
  rw [afterPut, diskOf_push, readable_index_iff, PutFits]
  constructor
  · intro hfit
    exact ⟨rows, hrows, hfit⟩
  · rintro ⟨rows', hrows', hfit⟩
    obtain rfl : rows = rows' := Except.ok.inj (hrows.symm.trans hrows')
    exact hfit

theorem readable_after_rename {old new : String} {identity : ι} {recipients : List String} {draw : RenameDraw}
    {s t : StoreSession} (h : exec (rename host old new identity recipients draw) s = (.ok (), t)) :
    Readable host (diskOf t) ↔ RenameFits host (diskOf s) old new draw := by
  rcases rename_cases host old new identity recipients draw s with
    ⟨er, hexec, -⟩ | ⟨hexec, hnone⟩ | ⟨oldEntry, newEntry, hsome, hexec⟩
  · rw [hexec] at h
    cases h
  · -- nothing was written: the names are the same
    rw [hexec] at h
    cases h
    have heq : old = new := checkRename_eq_none hnone
    constructor
    · rintro ⟨rows, hrows⟩
      exact ⟨rows, hrows, .inl heq⟩
    · rintro ⟨rows, hrows, -⟩
      exact ⟨rows, hrows⟩
  · obtain ⟨-, -, hne, hprep⟩ := checkRename_eq_some.mp hsome
    obtain ⟨-, -, hget, -, payload, -, rows, hrows, e', he', hp⟩ := prepareRename_eq_ok.mp hprep
    obtain ⟨-, hfile, -, -⟩ := get_eq_ok.mp hget
    obtain ⟨-, -, c, -, rfl⟩ := SecretEntry.new_eq_ok.mp he'
    have hrow : newEntry.toIndexEntry = renamedRow rows oldEntry new draw.entry.now := congrArg _ hp
    rw [hexec] at h
    rcases exec_moveEntry old new draw.tombstonedAt oldEntry newEntry hrows with ⟨-, hmove⟩ | ⟨-, er, hmove⟩
    · rw [hmove] at h
      cases h
      have hread : Readable host (diskOf (afterRename host rows old new draw.tombstonedAt oldEntry newEntry s)) ↔
          Fits host.floats (upsertRows (buriedRows rows oldEntry old draw.tombstonedAt)
            (renamedRow rows oldEntry new draw.entry.now)) := by
        rw [afterRename, diskOf_push, Readable, readIndexRaw_removeWal, diskOf_push, hrow]
        exact readable_index_iff _ _
      rw [hread]
      constructor
      · intro hfit
        exact ⟨rows, hrows, .inr ⟨oldEntry, hfile, hfit⟩⟩
      · rintro ⟨rows', hrows', heq | ⟨e, he, hfit⟩⟩
        · exact absurd heq hne
        · obtain rfl : rows = rows' := Except.ok.inj (hrows.symm.trans hrows')
          cases hfile.symm.trans he
          exact hfit
    · rw [hmove] at h
      cases h

variable (host)

/-- **A `put` or `rename` that returns leaves an index its reader accepts exactly when the rows it leaves
fit the reader's limits.** -/
theorem readable_after_write_iff (s t : StoreSession) :
    (∀ e, exec (put host e) s = (.ok (), t) → (Readable host (diskOf t) ↔ PutFits host (diskOf s) e)) ∧
    ∀ old new identity recipients draw, exec (rename host old new identity recipients draw) s = (.ok (), t) →
      (Readable host (diskOf t) ↔ RenameFits host (diskOf s) old new draw) :=
  ⟨fun _ h => readable_after_put h, fun _ _ _ _ _ h => readable_after_rename h⟩

end Readable

def longEntry : SecretEntry :=
  { plainEntry "a" 1 "x" with metadata := { SecretMetadata.empty with tags := List.replicate 150 "label" } }

theorem exec_put_fresh {e : SecretEntry} (hv : ValidName e.name) (hgen : e.generation = 1) :
    exec (put plainHost e) (Session.of Disk.empty) = (.ok (), afterPut plainHost [] e (Session.of Disk.empty)) := by
  have hread : readIndexRaw plainHost (diskOf (Session.of Disk.empty)) = .ok [] := rfl
  exact exec_put hv hread hgen

theorem readable_after_write_iff_put :
    exec (put plainHost (plainEntry "a" 1 "x")) (Session.of Disk.empty) =
      (.ok (), afterPut plainHost [] (plainEntry "a" 1 "x") (Session.of Disk.empty)) ∧
    (Readable plainHost (diskOf (afterPut plainHost [] (plainEntry "a" 1 "x") (Session.of Disk.empty))) ↔
      PutFits plainHost Disk.empty (plainEntry "a" 1 "x")) := by
  have hput := exec_put_fresh (e := plainEntry "a" 1 "x") (by decide +kernel) rfl
  exact ⟨hput, (readable_after_write_iff plainHost _ _).1 _ hput⟩

theorem readIndex_long {F : FloatText} {r : SecretIndexEntry} (hline : maxLineLen < Lines.byteLen (rowLine F r))
    (hsize : Lines.byteLen (rowLine F r) + 1 ≤ maxIndexSize) :
    readIndex F (indexText F [r]) = .error (.err (.invalidName "index line too long (max 1024 bytes)")) := by
  have htotal : ¬ Lines.byteLen (indexText F [r]) > maxIndexSize := by
    rw [byteLen_indexText, List.map_singleton, List.sum_singleton]
    exact Nat.not_lt.mpr hsize
  rw [readIndex, if_neg htotal, trimmed_indexText, List.map_singleton, List.mapM_cons, readIndexLine, if_pos hline]
  rfl

/-- A first `put` returns, and from then on no call reads the index. -/
theorem put_leaves_unreadable_index :
    exec (put plainHost longEntry) (Session.of Disk.empty) =
      (.ok (), afterPut plainHost [] longEntry (Session.of Disk.empty)) ∧
    list plainHost (diskOf (afterPut plainHost [] longEntry (Session.of Disk.empty))) =
      .error (.err (.invalidName "index line too long (max 1024 bytes)")) ∧
    get plainHost "a" (diskOf (afterPut plainHost [] longEntry (Session.of Disk.empty))) =
      .error (.err (.invalidName "index line too long (max 1024 bytes)")) ∧
    nextGeneration plainHost "b" (diskOf (afterPut plainHost [] longEntry (Session.of Disk.empty))) =
      .error (.err (.invalidName "index line too long (max 1024 bytes)")) := by
  have hread : readIndexRaw plainHost (diskOf (afterPut plainHost [] longEntry (Session.of Disk.empty))) =
      .error (.err (.invalidName "index line too long (max 1024 bytes)")) := by
    exact readIndex_long (by decide +kernel) (by decide +kernel)
  have ha : validateName "a" = .ok () := by decide +kernel
  have hb : validateName "b" = .ok () := by decide +kernel
  have hfile : readEntryFile "a" (diskOf (afterPut plainHost [] longEntry (Session.of Disk.empty))) = .ok longEntry := by
    rw [readEntryFile, afterPut, diskOf_push, diskOf_push, Disk.entries_index, Disk.entries_entry]
    exact if_neg (not_not.mpr rfl)
  refine ⟨exec_put_fresh (validateName_eq_ok.mp ha) rfl, ?_, ?_, ?_⟩
  · rw [list, hread]
    rfl
  · rw [get, ha, hfile, hread]
    rfl
  · rw [nextGeneration, hb, floor, hread]
    rfl

end OneCipher.Secret
