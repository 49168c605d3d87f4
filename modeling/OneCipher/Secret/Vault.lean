import OneCipher.Secret.Store

/-!
# OneCipher.Secret.Vault — the store as a map from names to entries

What the store is for: a `Vault` gives each name that was ever used its generation and, unless it was
deleted, its entry.  `Refines` relates a disk to the vault it represents.  Every operation of the store
moves the disk as the operation of the vault moves the map, as long as the index it writes fits the limits
of the reader; so does every run (`step_tracks` and `run_tracks` in `Secret.Runs`).
-/

namespace OneCipher.Secret

open JsonText Option
open Function (update_apply)

/-! ## The abstract vault -/

/-- A name that was used: its generation, and its entry unless it was deleted. -/
structure Slot where
  generation : UInt64
  live : Option SecretEntry

abbrev Vault := String → Option Slot

namespace Vault

def fresh : Vault := fun _ => none

variable (v : Vault) (name : String)

def liveAt : Option SecretEntry := (v name).bind (·.live)

def floorAt : UInt64 := ((v name).map (·.generation)).getD 0

def nextAt : UInt64 := max (saturatingSucc (v.floorAt name)) 1

def write (e : SecretEntry) : Vault := Function.update v e.name (some ⟨e.generation, some e⟩)

def bury : Vault := Function.update v name (some ⟨v.floorAt name, none⟩)

end Vault

/-! ## Operations in a run -/

inductive StoreOp (ι : Type) where
  | nextGeneration (name : String)
  | put (e : SecretEntry)
  | delete (name now : String)
  | rename (old new : String) (identity : ι) (recipients : List String) (draw : RenameDraw)

section Steps

variable {ι : Type} (host : SecretHost ι)

/-- The call; `next_generation` only reads. -/
def StoreOp.prog : StoreOp ι → StoreProg Unit
  | .nextGeneration name => look fun d => (Secret.nextGeneration host name d).map fun _ => ()
  | .put e => Secret.put host e
  | .delete name now => Secret.delete host name now
  | .rename old new identity recipients draw => Secret.rename host old new identity recipients draw

def StoreOp.after (s : StoreSession) (op : StoreOp ι) : StoreSession := (Prog.exec (op.prog host) s).2

def runOps (ops : List (StoreOp ι)) (s : StoreSession) : StoreSession := ops.foldl (StoreOp.after host) s

namespace Vault

def prepareRename (v : Vault) (old new : String) (identity : ι) (recipients : List String) (draw : RenameDraw) :
    Outcome SecretStoreError (SecretEntry × SecretEntry) :=
  match v.liveAt old, v.liveAt new with
  | none, _ => .error (.err (.notFound old))
  | some _, some _ => .error (.err (.alreadyExists new))
  | some e, none => do
    let payload ← ofEntryResult (e.decrypt host identity)
    let newEntry ← ofEntryResult
      (SecretEntry.new host new e.itemType payload e.metadata recipients (v.nextAt new) draw.entry)
    return (e, renamed e newEntry)

def checkRename (v : Vault) (old new : String) (identity : ι) (recipients : List String) (draw : RenameDraw) :
    Outcome SecretStoreError (Option (SecretEntry × SecretEntry)) := do
  validateName old
  validateName new
  if old = new then .ok none
  else (v.prepareRename host old new identity recipients draw).map some

/-- The check of a `put`. -/
def checkPut (v : Vault) (e : SecretEntry) : Outcome SecretStoreError Unit := do
  validateName e.name
  if e.generation ≠ v.nextAt e.name then .error (.err (.generationMismatch e.name (v.nextAt e.name) e.generation))
  else .ok ()

/-- The check of a `delete`. -/
def checkDelete (v : Vault) (name : String) : Outcome SecretStoreError Unit := do
  validateName name
  if (v.liveAt name).isSome then .ok () else .error (.err (.notFound name))

def step (v : Vault) : StoreOp ι → Outcome SecretStoreError Vault
  | .nextGeneration name => (validateName name).map fun _ => v
  | .put e => (v.checkPut e).map fun _ => v.write e
  | .delete name _ => (v.checkDelete name).map fun _ => v.bury name
  | .rename old new identity recipients draw =>
    (v.checkRename host old new identity recipients draw).map fun
      | none => v
      | some (_, newEntry) => (v.bury old).write newEntry

def after (v : Vault) (op : StoreOp ι) : Vault := ((v.step host op).toOption).getD v

end Vault

end Steps

/-! ## Refinement -/

/-- What the vault and the index both say of a name: its generation, and its row if it is live. -/
def Slot.key (s : Slot) : UInt64 × Option SecretIndexEntry := (s.generation, s.live.map SecretEntry.toIndexEntry)

def SecretIndexEntry.key (r : SecretIndexEntry) : UInt64 × Option SecretIndexEntry :=
  (r.generation, if r.tombstone then none else some r)

/-- The disk represents the vault; `rows` is its index. -/
structure Refines {ι : Type} (host : SecretHost ι) (rows : List SecretIndexEntry) (d : Disk) (v : Vault) : Prop where
  read : readIndexRaw host d = .ok rows
  once : (rows.map (·.name)).Nodup
  row : ∀ name, (rowOf rows name).map SecretIndexEntry.key = (v name).map Slot.key
  file : ∀ name, d.entries (entryFile name) = (v.liveAt name).map fun e => .regular (some e)
  valid : ∀ name slot, v name = some slot → ValidName name
  named : ∀ name e, v.liveAt name = some e → e.name = name

namespace Refines

variable {ι : Type} {host : SecretHost ι} {rows : List SecretIndexEntry} {d : Disk} {v : Vault}

theorem empty : Refines host [] Disk.empty Vault.fresh where
  read := rfl
  once := List.nodup_nil
  row := fun _ => rfl
  file := fun _ => rfl
  valid := fun _ _ h => nomatch h
  named := fun _ _ h => nomatch h

theorem floorOf_eq (h : Refines host rows d v) (name : String) : floorOf rows name = v.floorAt name := by
  have hrow := congrArg (Option.map Prod.fst) (h.row name)
  rw [map_map, map_map] at hrow
  exact congrArg (·.getD 0) hrow

theorem nextOf_eq (h : Refines host rows d v) (name : String) : nextOf rows name = v.nextAt name := by
  rw [nextOf, h.floorOf_eq, Vault.nextAt]

variable {e : SecretEntry} {name : String}

theorem row_of_live (h : Refines host rows d v) (hlive : v.liveAt name = some e) :
    rowOf rows name = some e.toIndexEntry ∧ v name = some ⟨e.generation, some e⟩ := by
  obtain ⟨⟨g, live⟩, hslot, hl⟩ := bind_eq_some_iff.mp hlive
  cases hl
  have hrow := h.row name
  rw [hslot] at hrow
  obtain ⟨r, hr, hkey⟩ := map_eq_some_iff.mp hrow
  rw [SecretIndexEntry.key, Slot.key, Prod.mk.injEq] at hkey
  obtain ⟨hg, hrest⟩ := hkey
  split_ifs at hrest with htomb
  · cases hrest
  · cases hrest
    obtain rfl : e.generation = g := hg
    exact ⟨hr, hslot⟩

theorem row_of_dead (h : Refines host rows d v) {r : SecretIndexEntry} (hlive : v.liveAt name = none)
    (hr : rowOf rows name = some r) : r.tombstone = true := by
  have hrow := h.row name
  rw [hr] at hrow
  obtain ⟨s, hs, hkey⟩ := map_eq_some_iff.mp hrow.symm
  have hdead : s.live = none := by
    rw [Vault.liveAt, hs] at hlive
    exact hlive
  rw [SecretIndexEntry.key, Slot.key, hdead, Prod.mk.injEq] at hkey
  by_contra htomb
  rw [if_neg htomb] at hkey
  exact nomatch hkey.2

theorem floorAt_of_live (h : Refines host rows d v) (hlive : v.liveAt name = some e) :
    v.floorAt name = e.generation := by
  rw [Vault.floorAt, (h.row_of_live hlive).2]
  rfl

theorem floorOf_of_live (h : Refines host rows d v) (hlive : v.liveAt name = some e) :
    floorOf rows name = e.generation := by
  rw [h.floorOf_eq, h.floorAt_of_live hlive]

theorem exists_eq (h : Refines host rows d v) (name : String) : d.exists (entryFile name) = (v.liveAt name).isSome := by
  rw [Disk.exists, h.file]
  cases v.liveAt name <;> rfl

/-- **A read returns the entry of a live name.** -/
theorem get_of_live (h : Refines host rows d v) (hlive : v.liveAt name = some e) : get host name d = .ok e := by
  obtain ⟨hrow, hslot⟩ := h.row_of_live hlive
  refine get_eq_ok.mpr ⟨h.valid name _ hslot, ?_, h.named name e hlive, rows, h.read, ?_⟩
  · rw [h.file, hlive]
    rfl
  · refine checkAgreement_eq_ok.mpr fun row hr => ?_
    rw [hrow] at hr
    cases hr
    exact ⟨rfl, .inr (.inr rfl)⟩

/-! ### Writes -/

/-- One name gets a slot; its row and its file say the same. -/
theorem update {slot : Slot} {row : SecretIndexEntry} {d' : Disk} (h : Refines host rows d v) (hv : ValidName name)
    (hnamed : ∀ e, slot.live = some e → e.name = name) (hrow : row.name = name) (hkey : row.key = slot.key)
    (hread : readIndexRaw host d' = .ok (upsertRows rows row)) (hfile : d'.entries =
      Function.update d.entries (entryFile name) (slot.live.map fun e => .regular (some e))) :
    Refines host (upsertRows rows row) d' (Function.update v name (some slot)) where
  read := hread
  once := nodup_upsertRows h.once _
  row := by
    intro n
    rw [rowOf_upsertRows, update_apply, hrow]
    by_cases hn : n = name
    · rw [if_pos hn, if_pos hn.symm, map_some, map_some, hkey]
    · rw [if_neg hn, if_neg (Ne.symm hn), h.row]
  file := by
    intro n
    rw [hfile, Vault.liveAt, update_apply, update_apply]
    by_cases hn : n = name
    · rw [if_pos hn, if_pos (congrArg entryFile hn)]
      rfl
    · rw [if_neg hn, if_neg fun hf => hn (entryFile_inj hf), h.file, Vault.liveAt]
  valid := by
    intro n slot' hslot
    rw [update_apply] at hslot
    split_ifs at hslot with hn
    · rw [hn]
      exact hv
    · exact h.valid n slot' hslot
  named := by
    intro n e' hlive
    rw [Vault.liveAt, update_apply] at hlive
    split_ifs at hlive with hn
    · rw [hn]
      exact hnamed e' hlive
    · exact h.named n e' hlive

theorem write (h : Refines host rows d v) (hv : ValidName e.name) {d' : Disk}
    (hread : readIndexRaw host d' = .ok (upsertRows rows e.toIndexEntry))
    (hfile : d'.entries = Function.update d.entries (entryFile e.name) (some (.regular (some e)))) :
    Refines host (upsertRows rows e.toIndexEntry) d' (v.write e) :=
  h.update hv (fun _ he => Option.some.inj he ▸ rfl) rfl rfl hread hfile

theorem bury (h : Refines host rows d v) (hlive : v.liveAt name = some e) {row : SecretIndexEntry}
    (hrow : row.name = name ∧ row.generation = v.floorAt name ∧ row.tombstone = true) {d' : Disk}
    (hread : readIndexRaw host d' = .ok (upsertRows rows row))
    (hfile : d'.entries = Function.update d.entries (entryFile name) none) :
    Refines host (upsertRows rows row) d' (v.bury name) := by
  refine h.update (h.valid name _ (h.row_of_live hlive).2) nofun hrow.1 ?_ hread hfile
  rw [SecretIndexEntry.key, hrow.2.1, if_pos hrow.2.2]
  rfl

end Refines

end OneCipher.Secret
