import Mathlib.Data.String.Basic
import OneCipher.Base.Session
import OneCipher.Secret.Entry

/-!
# OneCipher.Secret.Store — the file-backed secret store

`oc-secret/src/store.rs`.  A store is a directory of entry files and an index of one JSON row a line; a deleted
name keeps its row as a tombstone, with the generation the next entry of the name has to exceed.  Every operation
is a program over the disk that keeps the list of its writes, so that a crash between two of them can be looked at.
-/

namespace OneCipher.Secret

open JsonText Result List Option
open Prog (exec)
open Lines (byteLen lines)

/-! ## The disk -/

/-- What is at the path of an entry: a regular file, parsed if it parses, or a symlink. -/
inductive EntryFile where
  | regular (content : Option SecretEntry)
  | symlink (resolves : Bool)
  deriving DecidableEq, Repr

structure Disk where
  entries : String → Option EntryFile
  index : List Char
  wal : Option (List Char)

/-- A store as `SecretStore::open` creates it. -/
def Disk.empty : Disk := ⟨fun _ => none, [], none⟩

/-- `Path::exists` follows symlinks. -/
def Disk.exists (d : Disk) (file : String) : Bool :=
  match d.entries file with
  | none => false
  | some (.regular _) => true
  | some (.symlink resolves) => resolves

inductive Write where
  | entry (file : String) (e : SecretEntry)
  | remove (file : String)
  | index (text : List Char)
  | wal (text : List Char)
  | removeWal
  deriving DecidableEq, Repr

def Disk.apply (d : Disk) : Write → Disk
  | .entry file e => { d with entries := Function.update d.entries file (some (.regular (some e))) }
  | .remove file => { d with entries := Function.update d.entries file none }
  | .index text => { d with index := text }
  | .wal text => { d with wal := some text }
  | .removeWal => { d with wal := none }

namespace Disk

@[simp] theorem entries_entry (d : Disk) (file : String) (e : SecretEntry) :
    (d.apply (.entry file e)).entries = Function.update d.entries file (some (.regular (some e))) := rfl

@[simp] theorem entries_remove (d : Disk) (file : String) :
    (d.apply (.remove file)).entries = Function.update d.entries file none := rfl

@[simp] theorem entries_index (d : Disk) (text : List Char) : (d.apply (.index text)).entries = d.entries := rfl

@[simp] theorem entries_wal (d : Disk) (text : List Char) : (d.apply (.wal text)).entries = d.entries := rfl

@[simp] theorem entries_removeWal (d : Disk) : (d.apply .removeWal).entries = d.entries := rfl

end Disk

abbrev StoreSession := Session Disk Write

inductive SecretStoreError where
  | notFound (name : String)
  | alreadyExists (name : String)
  | invalidName (message : String)
  | generationMismatch (name : String) (expected got : UInt64)
  | tampered (path reason : String)
  | serde
  | entry (e : SecretEntryError)
  deriving DecidableEq, Repr

def SecretStoreError.ofEntry : SecretEntryError → SecretStoreError
  | .tampered path reason => .tampered path reason
  | other => .entry other

abbrev StoreProg := Prog StoreSession SecretStoreError

def look {α : Type} (f : Disk → Outcome SecretStoreError α) : StoreProg α := Session.look Disk.apply f

def perform (w : Write) : StoreProg Unit := Session.perform w

def diskOf (s : StoreSession) : Disk := s.disk Disk.apply

@[simp] theorem diskOf_of (d : Disk) : diskOf (Session.of d) = d := rfl

@[simp] theorem diskOf_push (s : StoreSession) (w : Write) : diskOf (s.push w) = (diskOf s).apply w :=
  Session.disk_push Disk.apply s w

variable {rows : List SecretIndexEntry} {row : SecretIndexEntry} {s : StoreSession} {name : String}

theorem exec_look_of_ok {α β : Type} {f : Disk → Outcome SecretStoreError α} {g : α → StoreProg β} {a : α}
    (h : f (diskOf s) = .ok a) : exec (look f >>= g) s = exec (g a) s :=
  Session.exec_look_bind_of_ok Disk.apply h

theorem exec_look_of_error {α β : Type} {f : Disk → Outcome SecretStoreError α} {g : α → StoreProg β}
    {er : Fault SecretStoreError} (h : f (diskOf s) = .error er) :
    exec (look f >>= g) s = (.error er, s) :=
  Session.exec_look_bind_of_error Disk.apply h

theorem exec_perform {β : Type} (w : Write) (g : Unit → StoreProg β) (s : StoreSession) :
    exec (perform w >>= g) s = exec (g ()) (s.push w) :=
  Session.exec_perform_bind w g s

/-- `validate_name`. -/
def validateName (name : String) : Outcome SecretStoreError Unit :=
  (validatePath name).mapError fun reason => .err (.invalidName reason)

/-! ## The index -/

def maxIndexSize : Nat := 1024 * 1024

def maxLineLen : Nat := 1024

/-- `u64::saturating_add(1)`. -/
def saturatingSucc (g : UInt64) : UInt64 := if g = UInt64.ofNat (2 ^ 64 - 1) then g else g + 1

theorem toNat_saturatingSucc (g : UInt64) : (saturatingSucc g).toNat = min (g.toNat + 1) (2 ^ 64 - 1) := by
  have hlt := g.toNat_lt
  rw [saturatingSucc]
  split_ifs with h
  · rw [h]
    rfl
  · have hne : g.toNat ≠ 2 ^ 64 - 1 := fun he => h (UInt64.toNat_inj.mp he)
    change (g.toNat + 1) % 2 ^ 64 = _
    omega

section Index

variable (F : FloatText)

def readIndexLine (line : List Char) : Outcome SecretStoreError SecretIndexEntry :=
  if byteLen line > maxLineLen then .error (.err (.invalidName "index line too long (max 1024 bytes)"))
  else Outcome.okOr .serde (readRow F line)

def readIndex (text : List Char) : Outcome SecretStoreError (List SecretIndexEntry) :=
  if byteLen text > maxIndexSize then
    .error (.err (.invalidName
      ("index file too large: " ++ toString (byteLen text) ++ " bytes (max " ++ toString maxIndexSize ++ ")")))
  else (((lines text).map Lines.trim).filter (· ≠ [])).mapM (readIndexLine F)

/-- What `write_index` writes. -/
def indexText (rows : List SecretIndexEntry) : List Char := Lines.unlines (rows.map (rowLine F))

/-- The rows fit the limits of the reader. -/
def Fits (rows : List SecretIndexEntry) : Prop :=
  (rows.map fun r => byteLen (rowLine F r) + 1).sum ≤ maxIndexSize ∧ ∀ r ∈ rows, byteLen (rowLine F r) ≤ maxLineLen

instance (rows : List SecretIndexEntry) : Decidable (Fits F rows) := inferInstanceAs (Decidable (_ ∧ _))

end Index

def rowOf (rows : List SecretIndexEntry) (name : String) : Option SecretIndexEntry := rows.find? (·.name = name)

def floorOf (rows : List SecretIndexEntry) (name : String) : UInt64 := ((rowOf rows name).map (·.generation)).getD 0

def nextOf (rows : List SecretIndexEntry) (name : String) : UInt64 := max (saturatingSucc (floorOf rows name)) 1

theorem toNat_nextOf (rows : List SecretIndexEntry) (name : String) :
    (nextOf rows name).toNat = min ((floorOf rows name).toNat + 1) (2 ^ 64 - 1) := by
  rw [nextOf, UInt64.toNat_max, toNat_saturatingSucc]
  change max _ 1 = _
  omega

theorem nextOf_ne_zero (rows : List SecretIndexEntry) (name : String) : nextOf rows name ≠ 0 := by
  intro h
  have hnat := toNat_nextOf rows name
  rw [h] at hnat
  change 0 = _ at hnat
  omega

/-- `retain` the other names and `push` the row. -/
def upsertRows (rows : List SecretIndexEntry) (row : SecretIndexEntry) : List SecretIndexEntry :=
  rows.filter (·.name ≠ row.name) ++ [row]

def tombstoneRow (name : String) (itemType : ItemType) (generation : UInt64) (now : String) : SecretIndexEntry where
  id := ""
  name := name
  itemType := itemType
  createdAt := ""
  updatedAt := now
  metadata := .empty
  generation := generation
  tombstone := true

/-! ## Operations -/

section Operations

variable {ι : Type} (host : SecretHost ι)

/-- `read_index_raw`. -/
def readIndexRaw (d : Disk) : Outcome SecretStoreError (List SecretIndexEntry) := readIndex host.floats d.index

/-- `floor`. -/
def floor (name : String) (d : Disk) : Outcome SecretStoreError UInt64 := do
  let rows ← readIndexRaw host d
  return floorOf rows name

/-- `next_generation`. -/
def nextGeneration (name : String) (d : Disk) : Outcome SecretStoreError UInt64 := do
  validateName name
  let g ← floor host name d
  return max (saturatingSucc g) 1

/-- `list`: the live rows, sorted by name. -/
def list (d : Disk) : Outcome SecretStoreError (List SecretIndexEntry) := do
  let rows ← readIndexRaw host d
  return (rows.filter fun r => !r.tombstone).mergeSort fun a b => a.name ≤ b.name

/-- The entry file of a name, with the checks `get` makes on it. -/
def readEntryFile (name : String) (d : Disk) : Outcome SecretStoreError SecretEntry :=
  match d.entries (entryFile name) with
  | some (.symlink _) => .error (.err (.tampered name "entry path is a symlink"))
  | none => .error (.err (.notFound name))
  | some (.regular none) => .error (.err .serde)
  | some (.regular (some e)) =>
    if e.name ≠ name then .error (.err (.tampered name "entry name mismatch")) else .ok e

def checkAgreement (rows : List SecretIndexEntry) (name : String) (e : SecretEntry) : Outcome SecretStoreError Unit :=
  match rowOf rows name with
  | none => .ok ()
  | some row =>
    if row.tombstone then .error (.err (.tampered name "deleted entry resurrected"))
    else if row.generation ≠ 0 ∧ e.generation ≠ 0 ∧ row.generation ≠ e.generation then
      .error (.err (.tampered name "generation mismatch"))
    else .ok ()

/-- `get`. -/
def get (name : String) (d : Disk) : Outcome SecretStoreError SecretEntry := do
  validateName name
  let e ← readEntryFile name d
  let rows ← readIndexRaw host d
  checkAgreement rows name e
  return e

/-- `upsert_index`. -/
def upsertIndex (row : SecretIndexEntry) : StoreProg Unit := do
  let rows ← look (readIndexRaw host)
  perform (.index (indexText host.floats (upsertRows rows row)))

/-- `write_tombstone`. -/
def writeTombstone (name : String) (itemType : ItemType) (generation : UInt64) (now : String) : StoreProg Unit :=
  upsertIndex host (tombstoneRow name itemType generation now)

/-- `put` before its first write. -/
def checkPut (e : SecretEntry) (d : Disk) : Outcome SecretStoreError Unit := do
  validateName e.name
  let expected ← nextGeneration host e.name d
  if e.generation ≠ expected then .error (.err (.generationMismatch e.name expected e.generation)) else .ok ()

/-- `put`. -/
def put (e : SecretEntry) : StoreProg Unit := do
  look (checkPut host e)
  perform (.entry (entryFile e.name) e)
  upsertIndex host e.toIndexEntry

/-- The entry file is one that `delete` unlinks. -/
def checkEntryFile (name : String) (d : Disk) : Outcome SecretStoreError Unit :=
  match d.entries (entryFile name) with
  | some (.symlink _) => .error (.err (.tampered name "entry path is a symlink"))
  | none => .error (.err (.notFound name))
  | some (.regular _) => .ok ()

/-- `delete` before its first write: the generation and kind of the tombstone. -/
def checkDelete (name : String) (d : Disk) : Outcome SecretStoreError (UInt64 × ItemType) := do
  validateName name
  checkEntryFile name d
  let g ← floor host name d
  let rows ← readIndexRaw host d
  return (g, ((rowOf rows name).map (·.itemType)).getD .note)

/-- `delete`; `now` is the time of the tombstone. -/
def delete (name now : String) : StoreProg Unit := do
  let (g, kind) ← look (checkDelete host name)
  perform (.remove (entryFile name))
  writeTombstone host name kind g now

/-- What `rename` draws: the new entry's values and the time of the tombstone. -/
structure RenameDraw where
  entry : Draw
  tombstonedAt : String

variable (old new : String)

def checkRenameFiles (d : Disk) : Outcome SecretStoreError Unit :=
  if !d.exists (entryFile old) then .error (.err (.notFound old))
  else if d.exists (entryFile new) then .error (.err (.alreadyExists new))
  else .ok ()

def ofEntryResult {α : Type} (x : Except SecretEntryError α) : Outcome SecretStoreError α :=
  x.mapError fun e => .err (.ofEntry e)

/-- `rename` before its first write: the old entry and the one that replaces it. -/
def prepareRename (identity : ι) (recipients : List String) (draw : RenameDraw) (d : Disk) :
    Outcome SecretStoreError (SecretEntry × SecretEntry) := do
  checkRenameFiles old new d
  let oldEntry ← get host old d
  let payload ← ofEntryResult (oldEntry.decrypt host identity)
  let newGen ← nextGeneration host new d
  let newEntry ← ofEntryResult
    (SecretEntry.new host new oldEntry.itemType payload oldEntry.metadata recipients newGen draw.entry)
  return (oldEntry, { newEntry with id := oldEntry.id, createdAt := oldEntry.createdAt })

def walText : List Char := old.toList ++ '\t' :: (new.toList ++ ['\n'])

/-- `rename` from its first write on. -/
def moveEntry (oldEntry newEntry : SecretEntry) (now : String) : StoreProg Unit := do
  perform (.entry (entryFile new) newEntry)
  perform (.wal (walText old new))
  perform (.remove (entryFile old))
  let g ← look (floor host old)
  writeTombstone host old oldEntry.itemType (max g oldEntry.generation) now
  upsertIndex host newEntry.toIndexEntry
  perform .removeWal

/-- `rename` up to its first write; nothing is to be done if the names are the same. -/
def checkRename (identity : ι) (recipients : List String) (draw : RenameDraw) (d : Disk) :
    Outcome SecretStoreError (Option (SecretEntry × SecretEntry)) := do
  validateName old
  validateName new
  if old = new then .ok none
  else (prepareRename host old new identity recipients draw d).map some

/-- `rename`. -/
def rename (identity : ι) (recipients : List String) (draw : RenameDraw) : StoreProg Unit := do
  match ← look (checkRename host old new identity recipients draw) with
  | none => pure ()
  | some (oldEntry, newEntry) => moveEntry host old new oldEntry newEntry draw.tombstonedAt

end Operations

/-! ## The index reads back -/

section ReadBack

variable {F : FloatText}

theorem byteLen_indexText (rows : List SecretIndexEntry) :
    byteLen (indexText F rows) = (rows.map fun r => byteLen (rowLine F r) + 1).sum := by
  rw [indexText, Lines.byteLen_unlines, List.map_map]
  rfl

theorem lines_indexText (rows : List SecretIndexEntry) : lines (indexText F rows) = rows.map (rowLine F) := by
  refine Lines.lines_unlines fun line hline => ?_
  obtain ⟨r, -, rfl⟩ := List.mem_map.mp hline
  exact unbroken_text r.writable

theorem trimmed_indexText (rows : List SecretIndexEntry) :
    ((lines (indexText F rows)).map Lines.trim).filter (· ≠ []) = rows.map (rowLine F) := by
  have htrim : (rows.map (rowLine F)).map Lines.trim = rows.map (rowLine F) := by
    rw [List.map_map]
    exact map_congr_left fun _ _ => trim_text_obj _
  rw [lines_indexText, htrim, filter_eq_self]
  intro line hline
  obtain ⟨r, -, rfl⟩ := List.mem_map.mp hline
  exact decide_eq_true (rowLine_ne_nil r)

theorem readIndexLine_rowLine {r s : SecretIndexEntry} :
    readIndexLine F (rowLine F r) = .ok s ↔ s = r ∧ byteLen (rowLine F r) ≤ maxLineLen := by
  rw [readIndexLine, guard_eq_ok, readRow_rowLine, Outcome.okOr_eq_ok, some_inj, not_lt]
  exact ⟨fun ⟨h, he⟩ => ⟨he.symm, h⟩, fun ⟨he, h⟩ => ⟨h, he.symm⟩⟩

theorem mapM_readIndexLine {rs : List SecretIndexEntry} :
    (rows.map (rowLine F)).mapM (readIndexLine F) = .ok rs ↔
      rs = rows ∧ ∀ r ∈ rows, byteLen (rowLine F r) ≤ maxLineLen := by
  induction rows generalizing rs with
  | nil =>
    constructor
    · intro h
      cases h
      exact ⟨rfl, fun r hr => nomatch hr⟩
    · rintro ⟨rfl, -⟩
      rfl
  | cons r rows ih =>
    rw [map_cons, mapM_cons, bind_eq_ok, forall_mem_cons]
    constructor
    · rintro ⟨r', hr', h⟩
      obtain ⟨rs', hrs', h⟩ := bind_eq_ok.mp h
      cases h
      obtain ⟨rfl, hlen⟩ := readIndexLine_rowLine.mp hr'
      obtain ⟨rfl, hrest⟩ := ih.mp hrs'
      exact ⟨rfl, hlen, hrest⟩
    · rintro ⟨rfl, hlen, hrest⟩
      refine ⟨r, readIndexLine_rowLine.mpr ⟨rfl, hlen⟩, ?_⟩
      exact bind_ok (ih.mpr ⟨rfl, hrest⟩) rfl

/-- **The reader accepts what the writer wrote exactly when the rows fit its limits**, and then reads the
rows that were written. -/
theorem readIndex_indexText {rs : List SecretIndexEntry} :
    readIndex F (indexText F rows) = .ok rs ↔ rs = rows ∧ Fits F rows := by
  rw [readIndex, guard_eq_ok, trimmed_indexText, mapM_readIndexLine, byteLen_indexText, not_lt, Fits]
  exact and_left_comm

end ReadBack

/-! ## The rows of an index -/

theorem name_of_rowOf (h : rowOf rows name = some row) : row.name = name := by
  have hp := List.find?_some h
  exact of_decide_eq_true hp

theorem mem_of_rowOf (h : rowOf rows name = some row) : row ∈ rows := List.mem_of_find?_eq_some h

theorem rowOf_upsertRows (rows : List SecretIndexEntry) (row : SecretIndexEntry) (name : String) :
    rowOf (upsertRows rows row) name = if row.name = name then some row else rowOf rows name := by
  rw [rowOf, upsertRows, List.find?_append]
  by_cases h : row.name = name
  · have hnone : (rows.filter (·.name ≠ row.name)).find? (·.name = name) = none := by
      rw [List.find?_eq_none]
      intro r hr hname
      exact of_decide_eq_true (mem_filter.mp hr).2 ((of_decide_eq_true hname).trans h.symm)
    rw [hnone, if_pos h, none_or, List.find?_singleton, if_pos (decide_eq_true h)]
  · have hkeep : (rows.filter (·.name ≠ row.name)).find? (·.name = name) = rowOf rows name := by
      rw [List.find?_filter, rowOf]
      congr 1
      funext r
      by_cases hr : r.name = name
      · have hne : name ≠ row.name := fun he => h he.symm
        simp [hr, hne]
      · simp [hr]
    rw [hkeep, if_neg h, List.find?_singleton, if_neg (by simpa using h), or_none]

theorem mem_upsertRows {r : SecretIndexEntry} : r ∈ upsertRows rows row ↔ (r ∈ rows ∧ r.name ≠ row.name) ∨ r = row := by
  rw [upsertRows, mem_append, mem_filter, mem_singleton, decide_eq_true_eq]

theorem nodup_upsertRows (h : (rows.map (·.name)).Nodup) (row : SecretIndexEntry) :
    ((upsertRows rows row).map (·.name)).Nodup := by
  rw [upsertRows, map_append, nodup_append]
  refine ⟨h.sublist (filter_sublist.map _), nodup_singleton _, ?_⟩
  intro a ha b hb hab
  obtain ⟨r, hr, rfl⟩ := List.mem_map.mp ha
  rw [mem_singleton.mp hb] at hab
  exact of_decide_eq_true (mem_filter.mp hr).2 hab

theorem rowOf_of_mem (h : (rows.map (·.name)).Nodup) (hmem : row ∈ rows) : rowOf rows row.name = some row := by
  obtain ⟨r, hr⟩ : ∃ r, rowOf rows row.name = some r := by
    rw [← isSome_iff_exists, rowOf, List.find?_isSome]
    exact ⟨row, hmem, decide_eq_true rfl⟩
  have heq : r = row := inj_on_of_nodup_map h (mem_of_rowOf hr) hmem (name_of_rowOf hr)
  rw [hr, heq]

/-! ## What the operations do -/

section Cases

variable {ι : Type} {host : SecretHost ι}

theorem validateName_eq_ok : validateName name = .ok () ↔ ValidName name := mapError_eq_ok

@[simp] theorem readIndexRaw_entry (d : Disk) (file : String) (e : SecretEntry) :
    readIndexRaw host (d.apply (.entry file e)) = readIndexRaw host d := by
  rw [readIndexRaw, readIndexRaw, Disk.apply]

@[simp] theorem readIndexRaw_remove (d : Disk) (file : String) :
    readIndexRaw host (d.apply (.remove file)) = readIndexRaw host d := by
  rw [readIndexRaw, readIndexRaw, Disk.apply]

@[simp] theorem readIndexRaw_wal (d : Disk) (text : List Char) :
    readIndexRaw host (d.apply (.wal text)) = readIndexRaw host d := by
  rw [readIndexRaw, readIndexRaw, Disk.apply]

@[simp] theorem readIndexRaw_removeWal (d : Disk) : readIndexRaw host (d.apply .removeWal) = readIndexRaw host d := by
  rw [readIndexRaw, readIndexRaw, Disk.apply]

@[simp] theorem readIndexRaw_index (d : Disk) (text : List Char) :
    readIndexRaw host (d.apply (.index text)) = readIndex host.floats text := by
  rw [readIndexRaw, Disk.apply]

variable {d : Disk} {recipients : List String} {e : SecretEntry} {new old : String} {identity : ι}

theorem checkAgreement_eq_ok :
    checkAgreement rows name e = .ok () ↔ ∀ row, rowOf rows name = some row →
      row.tombstone = false ∧ (row.generation = 0 ∨ e.generation = 0 ∨ row.generation = e.generation) := by
  rw [checkAgreement]
  rcases rowOf rows name with _ | row
  · simp
  · simp only [some_inj, forall_eq']
    rw [guard_eq_ok, guard_eq_ok, Bool.not_eq_true]
    refine and_congr_right fun _ => ⟨fun h => ?_, fun h => ⟨?_, rfl⟩⟩
    · by_contra hc
      rw [not_or, not_or] at hc
      exact h.1 hc
    · rintro ⟨h1, h2, h3⟩
      exact h.elim h1 fun h => h.elim h2 h3

/-- **When `get` returns**: the name is valid, its file is a regular one of that name, the index reads and
agrees. -/
theorem get_eq_ok :
    get host name d = .ok e ↔ ValidName name ∧ d.entries (entryFile name) = some (.regular (some e)) ∧
      e.name = name ∧ ∃ rows, readIndexRaw host d = .ok rows ∧ checkAgreement rows name e = .ok () := by
  have hfile : readEntryFile name d = .ok e ↔
      d.entries (entryFile name) = some (.regular (some e)) ∧ e.name = name := by
    rw [readEntryFile]
    rcases d.entries (entryFile name) with _ | ⟨_ | e'⟩ | _
    · simp
    · simp
    · simp only [guard_eq_ok, some_inj, EntryFile.regular.injEq, Except.ok.injEq, not_not]
      constructor
      · rintro ⟨hn, rfl⟩
        exact ⟨rfl, hn⟩
      · rintro ⟨rfl, hn⟩
        exact ⟨hn, rfl⟩
    · simp
  rw [get, bind_eq_ok]
  constructor
  · rintro ⟨⟨⟩, hv, h⟩
    obtain ⟨e', he', h⟩ := bind_eq_ok.mp h
    obtain ⟨rows, hrows, h⟩ := bind_eq_ok.mp h
    obtain ⟨⟨⟩, hagree, h⟩ := bind_eq_ok.mp h
    cases h
    obtain ⟨hf, hn⟩ := hfile.mp he'
    exact ⟨validateName_eq_ok.mp hv, hf, hn, rows, hrows, hagree⟩
  · rintro ⟨hv, hf, hn, rows, hrows, hagree⟩
    refine ⟨(), validateName_eq_ok.mpr hv, ?_⟩
    refine bind_ok (hfile.mpr ⟨hf, hn⟩) ?_
    refine bind_ok hrows ?_
    exact bind_ok hagree rfl

theorem get_of_file (hv : ValidName e.name) (hfile : d.entries (entryFile e.name) = some (.regular (some e)))
    (hread : readIndexRaw host d = .ok rows) :
    get host e.name d = (checkAgreement rows e.name e).map fun _ => e := by
  have hentry : readEntryFile e.name d = .ok e := by
    rw [readEntryFile, hfile]
    exact if_neg (not_not.mpr rfl)
  rw [get, validateName_eq_ok.mpr hv, hentry, hread]
  rcases hagree : checkAgreement rows e.name e with er | ⟨⟩
  · change checkAgreement rows e.name e >>= _ = _
    rw [hagree]
    rfl
  · change checkAgreement rows e.name e >>= _ = _
    rw [hagree]
    rfl

theorem get_of_no_file (hv : ValidName name) (hfile : d.entries (entryFile name) = none) :
    get host name d = .error (.err (.notFound name)) := by
  rw [get, validateName_eq_ok.mpr hv]
  change readEntryFile name d >>= _ = _
  rw [readEntryFile, hfile]
  rfl

theorem get_congr {d' : Disk} (hfile : d'.entries (entryFile name) = d.entries (entryFile name))
    (hread : readIndexRaw host d' = readIndexRaw host d) : get host name d' = get host name d := by
  rw [get, get, readEntryFile, readEntryFile, hfile, hread]

theorem nextGeneration_eq_ok {g : UInt64} :
    nextGeneration host name d = .ok g ↔
      ValidName name ∧ ∃ rows, readIndexRaw host d = .ok rows ∧ g = nextOf rows name := by
  rw [nextGeneration, bind_eq_ok]
  constructor
  · rintro ⟨⟨⟩, hv, h⟩
    obtain ⟨f, hf, h⟩ := bind_eq_ok.mp h
    obtain ⟨rows, hrows, hfl⟩ := bind_eq_ok.mp hf
    cases h
    cases hfl
    exact ⟨validateName_eq_ok.mp hv, rows, hrows, rfl⟩
  · rintro ⟨hv, rows, hrows, rfl⟩
    refine ⟨(), validateName_eq_ok.mpr hv, ?_⟩
    exact bind_ok (bind_ok hrows rfl) rfl

theorem checkPut_eq_ok :
    checkPut host e d = .ok () ↔
      ValidName e.name ∧ ∃ rows, readIndexRaw host d = .ok rows ∧ e.generation = nextOf rows e.name := by
  rw [checkPut, bind_eq_ok]
  constructor
  · rintro ⟨⟨⟩, hv, h⟩
    obtain ⟨g, hg, h⟩ := bind_eq_ok.mp h
    obtain ⟨-, rows, hrows, rfl⟩ := nextGeneration_eq_ok.mp hg
    rw [guard_eq_ok, not_not] at h
    exact ⟨validateName_eq_ok.mp hv, rows, hrows, h.1⟩
  · rintro ⟨hv, rows, hrows, hg⟩
    refine ⟨(), validateName_eq_ok.mpr hv, ?_⟩
    refine bind_ok (nextGeneration_eq_ok.mpr ⟨hv, rows, hrows, rfl⟩) ?_
    rw [if_neg (not_not.mpr hg)]

theorem exec_upsertIndex_of_ok (h : readIndexRaw host (diskOf s) = .ok rows) (row : SecretIndexEntry) :
    exec (upsertIndex host row) s = (.ok (), s.push (.index (indexText host.floats (upsertRows rows row)))) := by
  rw [upsertIndex, exec_look_of_ok h]
  rfl

/-! ### `put` -/

/-- The session after a `put` that was admitted. -/
def afterPut (host : SecretHost ι) (rows : List SecretIndexEntry) (e : SecretEntry) (s : StoreSession) : StoreSession :=
  (s.push (.entry (entryFile e.name) e)).push (.index (indexText host.floats (upsertRows rows e.toIndexEntry)))

theorem readIndexRaw_afterPut {rs : List SecretIndexEntry} :
    readIndexRaw host (diskOf (afterPut host rows e s)) = .ok rs ↔
      rs = upsertRows rows e.toIndexEntry ∧ Fits host.floats (upsertRows rows e.toIndexEntry) := by
  rw [afterPut, diskOf_push, readIndexRaw_index, readIndex_indexText]

theorem put_cases (host : SecretHost ι) (e : SecretEntry) (s : StoreSession) :
    (∃ er, exec (put host e) s = (.error er, s) ∧ checkPut host e (diskOf s) = .error er) ∨
    ∃ rows, ValidName e.name ∧ readIndexRaw host (diskOf s) = .ok rows ∧ e.generation = nextOf rows e.name ∧
      exec (put host e) s = (.ok (), afterPut host rows e s) := by
  rcases hcheck : checkPut host e (diskOf s) with er | ⟨⟩
  · refine .inl ⟨er, ?_, rfl⟩
    rw [put, exec_look_of_error hcheck]
  · obtain ⟨hv, rows, hrows, hgen⟩ := checkPut_eq_ok.mp hcheck
    refine .inr ⟨rows, hv, hrows, hgen, ?_⟩
    rw [put, exec_look_of_ok hcheck, exec_perform]
    refine exec_upsertIndex_of_ok ?_ _
    rw [diskOf_push, readIndexRaw_entry, hrows]

theorem exec_put (hv : ValidName e.name) (hrows : readIndexRaw host (diskOf s) = .ok rows)
    (hgen : e.generation = nextOf rows e.name) :
    exec (put host e) s = (.ok (), afterPut host rows e s) := by
  rcases put_cases host e s with ⟨er, -, her⟩ | ⟨rows', -, hrows', -, hexec⟩
  · rw [checkPut_eq_ok.mpr ⟨hv, rows, hrows, hgen⟩] at her
    cases her
  · obtain rfl : rows = rows' := Except.ok.inj (hrows.symm.trans hrows')
    exact hexec

/-! ### `delete` -/

/-- The tombstone `delete` leaves. -/
def deletedRow (rows : List SecretIndexEntry) (name now : String) : SecretIndexEntry :=
  tombstoneRow name (((rowOf rows name).map (·.itemType)).getD .note) (floorOf rows name) now

/-- The session after a `delete` that was admitted. -/
def afterDelete (host : SecretHost ι) (rows : List SecretIndexEntry) (name now : String) (s : StoreSession) :
    StoreSession :=
  (s.push (.remove (entryFile name))).push
    (.index (indexText host.floats (upsertRows rows (deletedRow rows name now))))

theorem readIndexRaw_afterDelete {name now : String} {rs : List SecretIndexEntry} :
    readIndexRaw host (diskOf (afterDelete host rows name now s)) = .ok rs ↔
      rs = upsertRows rows (deletedRow rows name now) ∧ Fits host.floats (upsertRows rows (deletedRow rows name now)) := by
  rw [afterDelete, diskOf_push, readIndexRaw_index, readIndex_indexText]

theorem checkEntryFile_eq_ok :
    checkEntryFile name d = .ok () ↔ ∃ content, d.entries (entryFile name) = some (.regular content) := by
  rw [checkEntryFile]
  rcases d.entries (entryFile name) with _ | _ | _ <;> simp

theorem checkDelete_eq_ok {p : UInt64 × ItemType} :
    checkDelete host name d = .ok p ↔ ValidName name ∧
      (∃ content, d.entries (entryFile name) = some (.regular content)) ∧ ∃ rows, readIndexRaw host d = .ok rows ∧
        p = (floorOf rows name, ((rowOf rows name).map (·.itemType)).getD .note) := by
  rw [checkDelete, bind_eq_ok]
  constructor
  · rintro ⟨⟨⟩, hv, h⟩
    obtain ⟨⟨⟩, hf, h⟩ := bind_eq_ok.mp h
    obtain ⟨g, hg, h⟩ := bind_eq_ok.mp h
    obtain ⟨rows, hrows, h⟩ := bind_eq_ok.mp h
    rw [floor, hrows] at hg
    cases hg
    cases h
    exact ⟨validateName_eq_ok.mp hv, checkEntryFile_eq_ok.mp hf, rows, hrows, rfl⟩
  · rintro ⟨hv, hf, rows, hrows, rfl⟩
    refine ⟨(), validateName_eq_ok.mpr hv, ?_⟩
    refine bind_ok (checkEntryFile_eq_ok.mpr hf) ?_
    refine bind_ok (bind_ok hrows rfl) ?_
    exact bind_ok hrows rfl

theorem delete_cases (host : SecretHost ι) (name now : String) (s : StoreSession) :
    (∃ er, exec (delete host name now) s = (.error er, s) ∧ checkDelete host name (diskOf s) = .error er) ∨
    ∃ rows, ValidName name ∧ (∃ content, (diskOf s).entries (entryFile name) = some (.regular content)) ∧
      readIndexRaw host (diskOf s) = .ok rows ∧
      exec (delete host name now) s = (.ok (), afterDelete host rows name now s) := by
  rcases hcheck : checkDelete host name (diskOf s) with er | p
  · refine .inl ⟨er, ?_, rfl⟩
    rw [delete, exec_look_of_error hcheck]
  · obtain ⟨hv, hf, rows, hrows, rfl⟩ := checkDelete_eq_ok.mp hcheck
    refine .inr ⟨rows, hv, hf, hrows, ?_⟩
    rw [delete, exec_look_of_ok hcheck]
    refine exec_upsertIndex_of_ok ?_ _
    rw [diskOf_push, readIndexRaw_remove, hrows]

/-! ### `rename` -/

theorem checkRenameFiles_eq_ok :
    checkRenameFiles old new d = .ok () ↔ d.exists (entryFile old) = true ∧ d.exists (entryFile new) = false := by
  rw [checkRenameFiles, guard_eq_ok, guard_eq_ok]
  simp

/-- The entry a rename writes, from the entry it replaces and the one `SecretEntry::new` made. -/
def renamed (oldEntry newEntry : SecretEntry) : SecretEntry :=
  { newEntry with id := oldEntry.id, createdAt := oldEntry.createdAt }

theorem prepareRename_eq_ok {draw : RenameDraw} {p : SecretEntry × SecretEntry} :
    prepareRename host old new identity recipients draw d = .ok p ↔
      d.exists (entryFile old) = true ∧ d.exists (entryFile new) = false ∧ get host old d = .ok p.1 ∧
      ValidName new ∧ ∃ payload, p.1.decrypt host identity = .ok payload ∧
        ∃ rows, readIndexRaw host d = .ok rows ∧ ∃ newEntry,
          SecretEntry.new host new p.1.itemType payload p.1.metadata recipients (nextOf rows new) draw.entry =
            .ok newEntry ∧ p.2 = renamed p.1 newEntry := by
  rw [prepareRename, bind_eq_ok]
  constructor
  · rintro ⟨⟨⟩, hf, h⟩
    obtain ⟨e, he, h⟩ := bind_eq_ok.mp h
    obtain ⟨payload, hp, h⟩ := bind_eq_ok.mp h
    obtain ⟨g, hg, h⟩ := bind_eq_ok.mp h
    obtain ⟨e', he', h⟩ := bind_eq_ok.mp h
    cases h
    obtain ⟨hold, hnew⟩ := checkRenameFiles_eq_ok.mp hf
    obtain ⟨hv, rows, hrows, rfl⟩ := nextGeneration_eq_ok.mp hg
    exact ⟨hold, hnew, he, hv, payload, mapError_eq_ok.mp hp, rows, hrows, e', mapError_eq_ok.mp he', rfl⟩
  · rintro ⟨hold, hnew, he, hv, payload, hp, rows, hrows, e', he', h2⟩
    refine ⟨(), checkRenameFiles_eq_ok.mpr ⟨hold, hnew⟩, ?_⟩
    refine bind_ok he ?_
    refine bind_ok (mapError_eq_ok.mpr hp) ?_
    refine bind_ok (nextGeneration_eq_ok.mpr ⟨hv, rows, hrows, rfl⟩) ?_
    refine bind_ok (mapError_eq_ok.mpr he') ?_
    change Except.ok (p.1, renamed p.1 e') = _
    rw [← h2]

/-- The tombstone `rename` leaves. -/
def buriedRow (rows : List SecretIndexEntry) (oldEntry : SecretEntry) (old now : String) : SecretIndexEntry :=
  tombstoneRow old oldEntry.itemType (max (floorOf rows old) oldEntry.generation) now

/-- The rows after `rename` has written the tombstone. -/
def buriedRows (rows : List SecretIndexEntry) (oldEntry : SecretEntry) (old now : String) : List SecretIndexEntry :=
  upsertRows rows (buriedRow rows oldEntry old now)

def afterUnlink (old new : String) (newEntry : SecretEntry) (s : StoreSession) : StoreSession :=
  ((s.push (.entry (entryFile new) newEntry)).push (.wal (walText old new))).push (.remove (entryFile old))

def afterBury (host : SecretHost ι) (rows : List SecretIndexEntry) (old new now : String)
    (oldEntry newEntry : SecretEntry) (s : StoreSession) : StoreSession :=
  (afterUnlink old new newEntry s).push (.index (indexText host.floats (buriedRows rows oldEntry old now)))

def afterRename (host : SecretHost ι) (rows : List SecretIndexEntry) (old new now : String)
    (oldEntry newEntry : SecretEntry) (s : StoreSession) : StoreSession :=
  ((afterBury host rows old new now oldEntry newEntry s).push
    (.index (indexText host.floats (upsertRows (buriedRows rows oldEntry old now) newEntry.toIndexEntry)))).push
    .removeWal

theorem exec_moveEntry (old new now : String) (oldEntry newEntry : SecretEntry)
    (hrows : readIndexRaw host (diskOf s) = .ok rows) :
    (Fits host.floats (buriedRows rows oldEntry old now) ∧
      exec (moveEntry host old new oldEntry newEntry now) s =
        (.ok (), afterRename host rows old new now oldEntry newEntry s)) ∨
    ¬ Fits host.floats (buriedRows rows oldEntry old now) ∧
      ∃ er, exec (moveEntry host old new oldEntry newEntry now) s =
        (.error er, afterBury host rows old new now oldEntry newEntry s) := by
  have hunlink : readIndexRaw host (diskOf (afterUnlink old new newEntry s)) = .ok rows := by
    rw [afterUnlink, diskOf_push, diskOf_push, diskOf_push, readIndexRaw_remove, readIndexRaw_wal,
      readIndexRaw_entry, hrows]
  have hfloor : floor host old (diskOf (afterUnlink old new newEntry s)) = .ok (floorOf rows old) :=
    bind_ok hunlink rfl
  have hstart : exec (moveEntry host old new oldEntry newEntry now) s =
      exec (upsertIndex host newEntry.toIndexEntry >>= fun _ => perform .removeWal)
        (afterBury host rows old new now oldEntry newEntry s) := by
    rw [moveEntry, exec_perform, exec_perform, exec_perform]
    change exec _ (afterUnlink old new newEntry s) = _
    rw [exec_look_of_ok hfloor, writeTombstone, Prog.exec_bind_of_ok (exec_upsertIndex_of_ok hunlink _)]
    rfl
  have hread : readIndexRaw host (diskOf (afterBury host rows old new now oldEntry newEntry s)) =
      readIndex host.floats (indexText host.floats (buriedRows rows oldEntry old now)) := by
    rw [afterBury, diskOf_push, readIndexRaw_index]
  rw [hstart]
  by_cases hfit : Fits host.floats (buriedRows rows oldEntry old now)
  · refine .inl ⟨hfit, ?_⟩
    rw [Prog.exec_bind_of_ok (exec_upsertIndex_of_ok (hread.trans (readIndex_indexText.mpr ⟨rfl, hfit⟩)) _)]
    rfl
  · refine .inr ⟨hfit, ?_⟩
    rcases hr : readIndex host.floats (indexText host.floats (buriedRows rows oldEntry old now)) with er | rs
    · refine ⟨er, ?_⟩
      rw [Prog.exec_bind, upsertIndex, exec_look_of_error (hread.trans hr)]
    · exact absurd (readIndex_indexText.mp hr).2 hfit

theorem checkRename_eq_some {draw : RenameDraw} {p : SecretEntry × SecretEntry} :
    checkRename host old new identity recipients draw d = .ok (some p) ↔
      ValidName old ∧ ValidName new ∧ old ≠ new ∧ prepareRename host old new identity recipients draw d = .ok p := by
  rw [checkRename, bind_eq_ok]
  constructor
  · rintro ⟨⟨⟩, hold, h⟩
    obtain ⟨⟨⟩, hnew, h⟩ := bind_eq_ok.mp h
    split_ifs at h with heq
    · cases h
    · obtain ⟨q, hq, hsome⟩ := map_eq_ok.mp h
      cases hsome
      exact ⟨validateName_eq_ok.mp hold, validateName_eq_ok.mp hnew, heq, hq⟩
  · rintro ⟨hold, hnew, hne, hp⟩
    refine ⟨(), validateName_eq_ok.mpr hold, bind_ok (validateName_eq_ok.mpr hnew) ?_⟩
    rw [if_neg hne, hp]
    rfl

theorem checkRename_eq_none {draw : RenameDraw} (h : checkRename host old new identity recipients draw d = .ok none) :
    old = new := by
  obtain ⟨⟨⟩, -, h⟩ := bind_eq_ok.mp h
  obtain ⟨⟨⟩, -, h⟩ := bind_eq_ok.mp h
  by_contra hne
  rw [if_neg hne] at h
  obtain ⟨p, -, hp⟩ := map_eq_ok.mp h
  cases hp

theorem rename_cases (host : SecretHost ι) (old new : String) (identity : ι) (recipients : List String) (draw : RenameDraw)
    (s : StoreSession) :
    (∃ er, exec (rename host old new identity recipients draw) s = (.error er, s) ∧
      checkRename host old new identity recipients draw (diskOf s) = .error er) ∨
    (exec (rename host old new identity recipients draw) s = (.ok (), s) ∧
      checkRename host old new identity recipients draw (diskOf s) = .ok none) ∨
    ∃ oldEntry newEntry,
      checkRename host old new identity recipients draw (diskOf s) = .ok (some (oldEntry, newEntry)) ∧
      exec (rename host old new identity recipients draw) s =
        exec (moveEntry host old new oldEntry newEntry draw.tombstonedAt) s := by
  rcases hcheck : checkRename host old new identity recipients draw (diskOf s) with er | _ | ⟨oldEntry, newEntry⟩
  · refine .inl ⟨er, ?_, rfl⟩
    rw [rename, exec_look_of_error hcheck]
  · refine .inr (.inl ⟨?_, rfl⟩)
    rw [rename, exec_look_of_ok hcheck]
    rfl
  · refine .inr (.inr ⟨oldEntry, newEntry, rfl, ?_⟩)
    rw [rename, exec_look_of_ok hcheck]

end Cases

/-! ## A host for concrete runs -/

def plainHost : SecretHost Unit where
  floats := ⟨fun _ => [], fun _ => none⟩
  encrypt := fun _ _ m => .ok m
  decrypt := fun _ c => .ok c
  payloadJson := fun p => Text.utf8 p.secret
  readPayload := fun b => (Wallet.utf8Text b).map fun s => ⟨s, none, none⟩

/-- An entry as `SecretEntry::new` makes it on that host. -/
def plainEntry (name : String) (generation : UInt64) (secret : String) : SecretEntry where
  id := "1"
  name := name
  itemType := .password
  createdAt := "0"
  updatedAt := "0"
  metadata := .empty
  generation := generation
  ciphertext := enveloped plainHost name generation ⟨secret, none, none⟩

theorem readPayload_plainHost (secret : String) :
    plainHost.readPayload (plainHost.payloadJson ⟨secret, none, none⟩) = some ⟨secret, none, none⟩ := by
  change (Wallet.utf8Text (Text.utf8 secret)).map _ = _
  rw [Wallet.utf8Text_utf8]
  rfl

theorem decrypt_plainEntry (h : ValidName name) (generation : UInt64) (secret : String) :
    (plainEntry name generation secret).decrypt plainHost () = .ok ⟨secret, none, none⟩ :=
  decrypt_of_sealed h.embeddable rfl (readPayload_plainHost secret)

end OneCipher.Secret
