import Mathlib.Logic.Relation
import OneCipher.Base.CrashLogic
import OneCipher.Base.JsonTorn
import OneCipher.Base.Serde
import OneCipher.Secret.Path
import OneCipher.Wallet.PolicyStore

/-!
# OneCipher.Secret.Journal — the two-phase journal of staged operations

`oc-secret/src/journal.rs`.  An operation stages the new bytes of its destination and a description of itself in a
tree of its own, commits by writing `READY`, and is then installed: the destination is written, the source is
unlinked and the tree is removed.  Recovery rolls every committed tree forward and drops the others.
-/

namespace OneCipher.Secret.Journal

open JsonText Serde Prog Session CrashLogic List AList Outcome
open Session (push)

/-! ## Metadata -/

structure JournalMeta where
  src : String
  dst : String
  deriving DecidableEq, Repr

section Codec

variable (F : FloatText)

def JournalMeta.toJson (m : JournalMeta) : Json := .obj [("src", .str m.src), ("dst", .str m.dst)]

/-- `serde_json::to_vec`. -/
def JournalMeta.bytes (m : JournalMeta) : Bytes := Utf8.encode (text F m.toJson)

/-- `serde_json::from_slice`: an object with the two fields, or an array of their values. -/
def parseMeta (b : Bytes) : Option JournalMeta :=
  match (Wallet.utf8Text b).bind fun s => read F s.toList with
  | some (.obj members) =>
    match readField Json.asStr none (fieldValues "src" members), readField Json.asStr none (fieldValues "dst" members) with
    | some src, some dst => some ⟨src, dst⟩
    | _, _ => none
  | some (.arr [.str src, .str dst]) => some ⟨src, dst⟩
  | _ => none

end Codec

/-! ## The disk -/

/-- What is at the path of an entry: a file, or a link out of the store. -/
inductive StoredFile where
  | regular (b : Bytes)
  | symlink (resolves : Bool)
  deriving DecidableEq, Repr

/-- A staging tree. -/
structure Tree where
  dst : Option Bytes
  metaJson : Option Bytes
  ready : Bool
  deriving DecidableEq, Repr

structure Disk where
  files : String → Option StoredFile
  trees : Store String Tree

/-- `Path::exists` follows symlinks. -/
def Disk.exists (d : Disk) (file : String) : Bool :=
  match d.files file with
  | none => false
  | some (.regular _) => true
  | some (.symlink resolves) => resolves

def Disk.tree (d : Disk) (id : String) : Tree := (d.trees.lookup id).getD ⟨none, none, false⟩

inductive Write where
  | createDir (id : String)
  | dst (id : String) (b : Bytes)
  | metaJson (id : String) (b : Bytes)
  | ready (id : String)
  | install (file : String) (b : Bytes)
  | unlink (file : String)
  | removeTree (id : String)
  deriving DecidableEq, Repr

def Disk.putTree (d : Disk) (id : String) (t : Tree) : Disk := { d with trees := d.trees.insert id t }

def Disk.apply (d : Disk) : Write → Disk
  | .createDir id => d.putTree id (d.tree id)
  | .dst id b => d.putTree id { d.tree id with dst := some b }
  | .metaJson id b => d.putTree id { d.tree id with metaJson := some b }
  | .ready id => d.putTree id { d.tree id with ready := true }
  | .install file b => { d with files := Function.update d.files file (some (.regular b)) }
  | .unlink file => { d with files := Function.update d.files file none }
  | .removeTree id => { d with trees := d.trees.erase id }

/-- Some of the files of a tree. -/
structure Tree.Part (t' t : Tree) : Prop where
  dst : t'.dst = t.dst ∨ t'.dst = none
  metaJson : t'.metaJson = t.metaJson ∨ t'.metaJson = none
  ready : t'.ready = true → t.ready = true

/-- What a write leaves that was begun and not finished: a plain write is cut off anywhere, and a tree loses its files
in any order.  The others are atomic. -/
def Torn : Write → Disk → Disk → Prop
  | .dst id b, d, d' => ∃ n, d' = d.apply (.dst id (b.take n))
  | .metaJson id b, d, d' => ∃ n, d' = d.apply (.metaJson id (b.take n))
  | .removeTree id, d, d' => ∃ t t', d.trees.lookup id = some t ∧ t'.Part t ∧ d' = d.putTree id t'
  | .createDir _, _, _ | .ready _, _, _ | .install _ _, _, _ | .unlink _, _, _ => False

/-! ## The operations -/

inductive IoError where
  | notFound | invalidData
  deriving DecidableEq, Repr

abbrev JournalProg (α : Type) := Prog (Session Disk Write) IoError α

/-- What is handed to `stage_operation`. -/
structure Staged where
  opId : String
  srcName : String
  dstName : String
  dstBytes : Bytes

def Staged.journalMeta (op : Staged) : JournalMeta := ⟨op.srcName, op.dstName⟩

section Operations

variable (F : FloatText)

def stageOperation (op : Staged) : JournalProg Unit := do
  perform (.createDir op.opId)
  perform (.dst op.opId op.dstBytes)
  perform (.metaJson op.opId (op.journalMeta.bytes F))

def markReady (id : String) : JournalProg Unit := perform (.ready id)

def readMeta (id : String) (d : Disk) : Outcome IoError JournalMeta :=
  match (d.tree id).metaJson with
  | none => .error (.err .notFound)
  | some b => Outcome.okOr .invalidData (parseMeta F b)

def readDst (id : String) (d : Disk) : Outcome IoError Bytes := Outcome.okOr .notFound (d.tree id).dst

def unlinkSource (m : JournalMeta) : JournalProg Unit :=
  if m.src ≠ m.dst then do
    let both ← look Disk.apply fun d => .ok (d.exists (entryFile m.dst) && d.exists (entryFile m.src))
    if both = true then perform (.unlink (entryFile m.src)) else pure ()
  else pure ()

def installCommitted (id : String) : JournalProg Unit := do
  let m ← look Disk.apply (readMeta F id)
  let bytes ← look Disk.apply (readDst id)
  perform (.install (entryFile m.dst) bytes)
  unlinkSource m
  perform (.removeTree id)

def runOperation (op : Staged) : JournalProg Unit := do
  stageOperation F op
  markReady op.opId
  installCommitted F op.opId

/-- One tree of `recover_journal`: whether it was rolled forward. -/
def recoverTree (id : String) : JournalProg Bool := do
  let ready ← look Disk.apply fun d => .ok (d.tree id).ready
  if ready = true then do
    let r ← attempt (installCommitted F id)
    match r with
    | .ok () => return true
    | .error _ => do
      perform (.removeTree id)
      return false
  else do
    perform (.removeTree id)
    return false

/-- `recover_journal`, with the trees in the order in which `read_dir` gives them. -/
def recoverJournal : List String → JournalProg (Nat × Nat)
  | [] => pure (0, 0)
  | id :: ids => do
    let forwarded ← recoverTree F id
    let (forward, back) ← recoverJournal ids
    return if forwarded then (forward + 1, back) else (forward, back + 1)

end Operations

/-! ## Metadata reads back -/

variable {d : Disk} {m : JournalMeta} {ids order : List String} {id : String}

section Codec

variable {F : FloatText}

theorem writable_toJson (m : JournalMeta) : Writable F m.toJson := by
  simp [JournalMeta.toJson, Writable, WritableMembers]

theorem depth_toJson (m : JournalMeta) : m.toJson.depth ≤ maxLevels := by
  simp [JournalMeta.toJson, Json.depth, Json.depthMembers, maxLevels]

@[simp] theorem parseMeta_bytes (m : JournalMeta) : parseMeta F (m.bytes F) = some m := by
  have hread : read F (text F m.toJson) = some m.toJson := read_text (writable_toJson m) (depth_toJson m)
  unfold parseMeta JournalMeta.bytes
  simp only [Wallet.utf8Text_encode, Option.bind_some, String.toList_ofList, hread]
  rfl

theorem parseMeta_take {m' : JournalMeta} {n : Nat} (h : parseMeta F ((m.bytes F).take n) = some m') : m' = m := by
  cases hs : Wallet.utf8Text ((m.bytes F).take n) with
  | none =>
    rw [parseMeta, hs] at h
    cases h
  | some s =>
    have hbytes : Utf8.encode s.toList = (m.bytes F).take n := Wallet.utf8_of_utf8Text hs
    obtain ⟨q, hq⟩ : s.toList <+: text F m.toJson := Utf8.prefix_of_encode (hbytes ▸ take_prefix n (m.bytes F))
    by_cases hq0 : q = []
    · -- nothing is missing
      subst hq0
      rw [append_nil] at hq
      rw [← hbytes, hq] at h
      exact (Option.some.inj ((parseMeta_bytes m).symm.trans h)).symm
    · by_cases hs0 : s.toList = []
      · rw [parseMeta, hs] at h
        simp only [Option.bind_some, hs0] at h
        cases hread : read F [] with
        | none =>
          rw [hread] at h
          cases h
        | some =>
          obtain ⟨x, rfl⟩ := read_nil hread
          rw [hread] at h
          cases h
      · have hnone := read_of_torn (writable_toJson m) (depth_toJson m) hq.symm hs0 hq0
        rw [parseMeta, hs] at h
        simp only [Option.bind_some, hnone] at h
        cases h

end Codec

/-! ## Trees -/

namespace Disk

@[simp] theorem lookup_putTree (d : Disk) (id : String) (t : Tree) : (d.putTree id t).trees.lookup id = some t :=
  lookup_insert _

theorem lookup_putTree_of_ne {id' : String} (d : Disk) (t : Tree) (h : id' ≠ id) :
    (d.putTree id t).trees.lookup id' = d.trees.lookup id' := lookup_insert_ne h

@[simp] theorem tree_putTree (d : Disk) (id : String) (t : Tree) : (d.putTree id t).tree id = t := by
  rw [tree, lookup_putTree]
  rfl

theorem tree_of_lookup {t : Tree} (h : d.trees.lookup id = some t) : d.tree id = t := by
  rw [tree, h]
  rfl

theorem lookup_of_ready (h : (d.tree id).ready = true) : d.trees.lookup id = some (d.tree id) := by
  cases hl : d.trees.lookup id with
  | some => rw [tree_of_lookup hl]
  | none =>
    rw [tree, hl] at h
    cases h

@[simp] theorem lookup_removeTree (d : Disk) (id : String) : (d.apply (.removeTree id)).trees.lookup id = none :=
  lookup_erase _ _

theorem lookup_removeTree_of_ne {id' : String} (d : Disk) (h : id' ≠ id) :
    (d.apply (.removeTree id)).trees.lookup id' = d.trees.lookup id' := lookup_erase_ne h

theorem files_unlink (d : Disk) (file : String) : (d.apply (.unlink file)).files file = none :=
  Function.update_self _ _ _

theorem files_unlink_of_ne (d : Disk) {file file' : String} (h : file' ≠ file) :
    (d.apply (.unlink file)).files file' = d.files file' := Function.update_of_ne h _ _

theorem trees_install (d : Disk) (file : String) (b : Bytes) : (d.apply (.install file b)).trees = d.trees := rfl

theorem files_removeTree (d : Disk) (id : String) : (d.apply (.removeTree id)).files = d.files := rfl

theorem files_install (d : Disk) (file : String) (b : Bytes) :
    (d.apply (.install file b)).files file = some (.regular b) := Function.update_self _ _ _

end Disk

/-- All trees are among these. -/
def TreesIn (ids : List String) (d : Disk) : Prop := ∀ id, (d.trees.lookup id).isSome = true → id ∈ ids

theorem TreesIn.removeTree (h : TreesIn (id :: ids) d) : TreesIn ids (d.apply (.removeTree id)) := by
  intro id' hid'
  by_cases hne : id' = id
  · rw [hne, Disk.lookup_removeTree] at hid'
    cases hid'
  · rw [Disk.lookup_removeTree_of_ne d hne] at hid'
    exact (mem_cons.mp (h id' hid')).resolve_left hne

theorem TreesIn.files {files : String → Option StoredFile} (h : TreesIn ids d) :
    TreesIn ids { d with files := files } := h

/-! ## The phases of an operation -/

section Phases

variable (F : FloatText) (op : Staged)

/-- Another operation has nothing to do with the two files. -/
def Staged.Clear (m : JournalMeta) : Prop :=
  m.src ≠ op.srcName ∧ m.src ≠ op.dstName ∧ m.dst ≠ op.srcName ∧ m.dst ≠ op.dstName

/-- So have all other committed trees. -/
def Apart (d : Disk) : Prop :=
  ∀ id t b m, id ≠ op.opId → d.trees.lookup id = some t → t.ready = true → t.metaJson = some b →
    parseMeta F b = some m → op.Clear m

abbrev Phase := Option StoredFile → Option StoredFile → Option Tree → Prop

def Holds (K : Phase) (d : Disk) : Prop :=
  K (d.files (entryFile op.srcName)) (d.files (entryFile op.dstName)) (d.trees.lookup op.opId)

def untouched (base : Disk) : Phase := fun src dst tree =>
  src = base.files (entryFile op.srcName) ∧ dst = base.files (entryFile op.dstName) ∧
    ∀ t, tree = some t → t.ready = false

/-- `Path::exists` of what is found. -/
def present : Option StoredFile → Bool
  | none => false
  | some (.regular _) => true
  | some (.symlink resolves) => resolves

theorem exists_eq_present (d : Disk) (file : String) : d.exists file = present (d.files file) := rfl

/-- The destination has the staged bytes, and the source is gone. -/
def Done (src dst : Option StoredFile) : Prop :=
  dst = some (.regular op.dstBytes) ∧ (op.srcName ≠ op.dstName → present src = false)

def wholeTree : Tree := ⟨some op.dstBytes, some (op.journalMeta.bytes F), true⟩

def done : Phase := fun src dst tree => Done op src dst ∧ ∀ t, tree = some t → t.Part (wholeTree F op)

def committed : Phase := fun src dst tree => tree = some (wholeTree F op) ∨ done F op src dst tree

end Phases

/-! ## Rules for the steps of an installation -/

section Rules

variable {F : FloatText} {P I : Disk → Prop} {E : Fault IoError → Disk → Prop}

theorem crashTriple_unlinkSource (h : m.src ≠ m.dst → ∀ d, P d → P (d.apply (.unlink (entryFile m.src))))
    (hI : ∀ d, P d → I d) : CrashTriple Disk.apply Torn P (unlinkSource m) (fun _ => P) E I := by
  refine .ite (fun hne => ?_) fun _ => .pure fun d hd => ⟨hd, hI d hd⟩
  refine .bind (Q := fun _ => P) (.look (fun d _ hd _ => hd) (fun d e _ he => by cases he) hI) fun both => ?_
  refine .ite (fun _ => .perform (h hne) fun d hd => ?_) fun _ => .pure fun d hd => ⟨hd, hI d hd⟩
  exact ⟨hI d hd, hI _ (h hne d hd), fun d' htorn => htorn.elim⟩

theorem crashTriple_installCommitted {R : JournalMeta → Disk → Prop} {Q : Unit → Disk → Prop}
    (herror : ∀ d e, P d → readMeta F id d = .error e ∨ readDst id d = .error e → E e d)
    (hinstall : ∀ d m b, P d → readMeta F id d = .ok m → readDst id d = .ok b → R m (d.apply (.install (entryFile m.dst) b)))
    (hP : ∀ d, P d → I d) (hR : ∀ m d, R m d → I d)
    (hrest : ∀ m, CrashTriple Disk.apply Torn (R m) (do unlinkSource m; perform (.removeTree id) : JournalProg Unit) Q E I) :
    CrashTriple Disk.apply Torn P (installCommitted F id) Q E I := by
  refine .bind (Q := fun m d => P d ∧ readMeta F id d = .ok m)
    (.look (fun d m h hm => ⟨h, hm⟩) (fun d e h he => herror d e h (.inl he)) hP) fun m => ?_
  refine .bind (Q := fun b d => (P d ∧ readMeta F id d = .ok m) ∧ readDst id d = .ok b)
    (.look (fun d b h hb => ⟨h, hb⟩) (fun d e h he => herror d e h.1 (.inr he)) fun d h => hP d h.1) fun b => ?_
  have hput : ∀ d, (P d ∧ readMeta F id d = .ok m) ∧ readDst id d = .ok b → R m (d.apply (.install (entryFile m.dst) b)) :=
    fun d h => hinstall d m b h.1.1 h.1.2 h.2
  refine .bind (Q := fun _ => R m) (.perform hput fun d h => ?_) fun _ => hrest m
  exact ⟨hP d h.1.1, hR m _ (hput d h), fun d' htorn => htorn.elim⟩

theorem crashTriple_true : CrashTriple Disk.apply Torn (fun _ => True) (installCommitted F id) (fun _ _ => True)
    (fun _ _ => True) fun _ => True := by
  refine crashTriple_installCommitted (R := fun _ _ => True) (fun _ _ _ _ => trivial) (fun _ _ _ _ _ _ => trivial)
    (fun _ _ => trivial) (fun _ _ _ => trivial) fun m => ?_
  refine .bind (crashTriple_unlinkSource (fun _ _ h => h) fun _ h => h) fun _ => ?_
  exact .perform (fun _ h => h) fun _ _ => ⟨trivial, trivial, fun _ _ => trivial⟩

theorem readMeta_eq_ok : readMeta F id d = .ok m ↔ ∃ b, (d.tree id).metaJson = some b ∧ parseMeta F b = some m := by
  unfold readMeta
  cases (d.tree id).metaJson with
  | none | some => simp

theorem plain_read {e : Fault IoError} (h : readMeta F id d = .error e ∨ readDst id d = .error e) : ∃ io, e = .err io := by
  rcases h with h | h
  · unfold readMeta at h
    split at h
    · exact plain_err _ e h
    · exact plain_okOr _ _ e h
  · exact plain_okOr _ _ e h

end Rules

/-! ## Recovering one tree -/

theorem crashTriple_recoverTree {F : FloatText} {P D Q I : Disk → Prop}
    (hinstall : CrashTriple Disk.apply Torn (fun d => P d ∧ (d.tree id).ready = true) (installCommitted F id) (fun _ => Q) (fun e d => (∃ io, e = .err io) ∧ D d) I)
    (hremove : CrashTriple Disk.apply Torn D (perform (.removeTree id) : JournalProg Unit) (fun _ => Q) (fun _ _ => False) I)
    (hdrop : ∀ d, P d → (d.tree id).ready = false → D d) (hP : ∀ d, P d → I d) (hQ : ∀ d, Q d → I d) :
    CrashTriple Disk.apply Torn P (recoverTree F id) (fun _ => Q) (fun _ _ => False) I := by
  have hback : CrashTriple Disk.apply Torn D (do perform (.removeTree id); return false : JournalProg Bool)
      (fun _ => Q) (fun _ _ => False) I := .bind hremove fun _ => .pure fun d h => ⟨h, hQ d h⟩
  refine .bind (Q := fun ready d => P d ∧ (d.tree id).ready = ready)
    (.look (fun d ready h hr => ⟨h, Except.ok.inj hr⟩) (fun d e _ h => by cases h) hP) fun ready => ?_
  refine .ite (fun hready => ?_) fun hready => ?_
  · subst hready
    refine .bind (hinstall.attempt (fun d h => ?_) fun d h => ?_) fun r => ?_
    · obtain ⟨⟨io, hio⟩, -⟩ := h
      cases hio
    · obtain ⟨⟨io, hio⟩, -⟩ := h
      cases hio
    · cases r with
      | ok => exact .pure fun d h => ⟨h, hQ d h⟩
      | error => exact hback.weaken fun d h => h.2
  · obtain rfl : ready = false := Bool.eq_false_of_not_eq_true hready
    exact hback.weaken fun d h => hdrop d h.1 h.2

/-! ## Recovering another tree -/

section Other

variable {F : FloatText} {op : Staged} {K : Phase} {d : Disk}
  {E : Fault IoError → Disk → Prop}

theorem Apart.files {files : String → Option StoredFile} (h : Apart F op d) : Apart F op { d with files := files } := h

theorem Apart.removeTree (h : Apart F op d) (id : String) : Apart F op (d.apply (.removeTree id)) := by
  intro id' t b m hne hl
  by_cases hid : id' = id
  · rw [hid, Disk.lookup_removeTree] at hl
    cases hl
  · rw [Disk.lookup_removeTree_of_ne d hid] at hl
    exact h id' t b m hne hl

theorem Apart.torn {d' : Disk} (h : Apart F op d) (htorn : Torn (.removeTree id) d d') : Apart F op d' := by
  obtain ⟨t, t', hl, hpart, rfl⟩ := htorn
  intro id' u b m hne hl' hready hmeta
  by_cases hid : id' = id
  · subst hid
    rw [Disk.lookup_putTree] at hl'
    cases hl'
    refine h id' t b m hne hl (hpart.ready hready) ?_
    rcases hpart.metaJson with h | h
    · rw [← h, hmeta]
    · rw [h] at hmeta
      cases hmeta
  · rw [Disk.lookup_putTree_of_ne d t' hid] at hl'
    exact h id' u b m hne hl' hready hmeta

theorem Apart.putTree (h : Apart F op d) (t : Tree) : Apart F op (d.putTree op.opId t) := by
  intro id u b m hne hl
  rw [Disk.lookup_putTree_of_ne d t hne] at hl
  exact h id u b m hne hl

theorem Holds.removeTree (hid : id ≠ op.opId) (h : Holds op K d) : Holds op K (d.apply (.removeTree id)) := by
  unfold Holds at h ⊢
  rwa [Disk.lookup_removeTree_of_ne d hid.symm]

theorem Holds.torn {d' : Disk} (hid : id ≠ op.opId) (h : Holds op K d) (htorn : Torn (.removeTree id) d d') :
    Holds op K d' := by
  obtain ⟨t, t', -, -, rfl⟩ := htorn
  unfold Holds at h ⊢
  rwa [Disk.lookup_putTree_of_ne d t' hid.symm]

theorem Holds.update {file : String} {x : Option StoredFile} (hsrc : entryFile op.srcName ≠ file)
    (hdst : entryFile op.dstName ≠ file) (h : Holds op K d) :
    Holds op K { d with files := Function.update d.files file x } := by
  unfold Holds at h ⊢
  dsimp only
  rwa [Function.update_of_ne hsrc, Function.update_of_ne hdst]

theorem Holds.install (hm : op.Clear m) (b : Bytes) (h : Holds op K d) :
    Holds op K (d.apply (.install (entryFile m.dst) b)) :=
  h.update (fun he => hm.2.2.1 (entryFile_inj he).symm) (fun he => hm.2.2.2 (entryFile_inj he).symm)

theorem Holds.unlink (hm : op.Clear m) (h : Holds op K d) : Holds op K (d.apply (.unlink (entryFile m.src))) :=
  h.update (fun he => hm.1 (entryFile_inj he).symm) (fun he => hm.2.1 (entryFile_inj he).symm)

/-- The operation is in a phase, and the other trees have nothing to do with it. -/
def Kept (F : FloatText) (op : Staged) (K : Phase) (d : Disk) : Prop := Holds op K d ∧ Apart F op d

/-- And there are no trees but these. -/
abbrev KeptIn (F : FloatText) (op : Staged) (K : Phase) (ids : List String) (d : Disk) : Prop :=
  Kept F op K d ∧ TreesIn ids d

theorem kept_removeTree (hid : id ≠ op.opId) :
    CrashTriple Disk.apply Torn (KeptIn F op K (id :: ids))
      (perform (.removeTree id) : JournalProg Unit) (fun _ => KeptIn F op K ids) E (Kept F op K) := by
  have hkept : ∀ d, Kept F op K d → Kept F op K (d.apply (.removeTree id)) := fun d h =>
    ⟨h.1.removeTree hid, h.2.removeTree id⟩
  refine .perform (fun d h => ⟨hkept d h.1, h.2.removeTree⟩) fun d h => ⟨h.1, hkept d h.1, fun d' htorn => ?_⟩
  exact ⟨h.1.1.torn hid htorn, h.1.2.torn htorn⟩

theorem kept_installCommitted (hid : id ≠ op.opId) :
    CrashTriple Disk.apply Torn (fun d => KeptIn F op K (id :: ids) d ∧ (d.tree id).ready = true)
      (installCommitted F id) (fun _ => KeptIn F op K ids)
      (fun e d => (∃ io, e = .err io) ∧ KeptIn F op K (id :: ids) d) (Kept F op K) := by
  refine crashTriple_installCommitted (R := fun m d => KeptIn F op K (id :: ids) d ∧ op.Clear m)
    (fun d e h he => ⟨plain_read he, h.1⟩) (fun d m b h hm _ => ?_) (fun d h => h.1.1) (fun m d h => h.1.1)
    fun m => .assume fun hm => ?_
  · obtain ⟨mb, hmb, hparse⟩ := readMeta_eq_ok.mp hm
    have hclear : op.Clear m := h.1.1.2 id (d.tree id) mb m hid (Disk.lookup_of_ready h.2) h.2 hmb hparse
    exact ⟨⟨⟨h.1.1.1.install hclear b, h.1.1.2.files⟩, h.1.2.files⟩, hclear⟩
  · refine .bind (crashTriple_unlinkSource (fun _ d h => ?_) fun d h => h.1) fun _ => kept_removeTree hid
    exact ⟨⟨h.1.1.unlink hm, h.1.2.files⟩, h.2.files⟩

theorem kept_recoverTree (hid : id ≠ op.opId) :
    CrashTriple Disk.apply Torn (KeptIn F op K (id :: ids)) (recoverTree F id)
      (fun _ => KeptIn F op K ids) (fun _ _ => False) (Kept F op K) := by
  exact crashTriple_recoverTree (kept_installCommitted hid) (kept_removeTree hid) (fun d h _ => h) (fun d h => h.1)
    fun d h => h.1

end Other

/-! ## Recovering the tree of the operation -/

section Own

variable {F : FloatText} {op : Staged} {base d : Disk} {E : Fault IoError → Disk → Prop} {ids : List String}

theorem Tree.Part.refl (t : Tree) : t.Part t := ⟨.inl rfl, .inl rfl, id⟩

theorem Tree.Part.trans {t t' t'' : Tree} (h : t''.Part t') (h' : t'.Part t) : t''.Part t where
  dst := by
    rcases h.dst with h | h
    · rw [h]
      exact h'.dst
    · exact .inr h
  metaJson := by
    rcases h.metaJson with h | h
    · rw [h]
      exact h'.metaJson
    · exact .inr h
  ready := h'.ready ∘ h.ready

variable {K : Phase}

theorem Kept.gone {K' : Phase} (hnone : ∀ src dst t, K src dst t → K' src dst none) (h : Kept F op K d) :
    Kept F op K' (d.apply (.removeTree op.opId)) := by
  refine ⟨?_, h.2.removeTree op.opId⟩
  unfold Holds
  rw [Disk.lookup_removeTree]
  exact hnone _ _ _ h.1

theorem Kept.torn {K' : Phase} {d' : Disk}
    (hpart : ∀ src dst t t', K src dst (some t) → t'.Part t → K' src dst (some t')) (h : Kept F op K d)
    (htorn : Torn (.removeTree op.opId) d d') : Kept F op K' d' := by
  refine ⟨?_, h.2.torn htorn⟩
  obtain ⟨t, t', hl, hp, rfl⟩ := htorn
  have hK := h.1
  unfold Holds at hK ⊢
  rw [Disk.lookup_putTree]
  rw [hl] at hK
  exact hpart _ _ t t' hK hp

theorem own_removeTree {K' : Phase} (hpart : ∀ src dst t t', K src dst (some t) → t'.Part t → K' src dst (some t'))
    (hnone : ∀ src dst t, K src dst t → K' src dst none) (hself : ∀ src dst t, K src dst t → K' src dst t) :
    CrashTriple Disk.apply Torn (KeptIn F op K (op.opId :: ids))
      (perform (.removeTree op.opId) : JournalProg Unit) (fun _ => KeptIn F op K' ids) E
      (Kept F op K') := by
  refine .perform (fun d h => ⟨h.1.gone hnone, h.2.removeTree⟩) fun d h => ⟨⟨hself _ _ _ h.1.1, h.1.2⟩, h.1.gone hnone, ?_⟩
  exact fun d' htorn => h.1.torn hpart htorn

theorem ready_of_untouched (h : Kept F op (untouched op base) d) : (d.tree op.opId).ready = false := by
  cases hl : d.trees.lookup op.opId with
  | none =>
    rw [Disk.tree, hl]
    rfl
  | some t =>
    rw [Disk.tree_of_lookup hl]
    exact h.1.2.2 t hl

theorem untouched_recoverTree :
    CrashTriple Disk.apply Torn (KeptIn F op (untouched op base) (op.opId :: ids))
      (recoverTree F op.opId) (fun _ => KeptIn F op (untouched op base) ids) (fun _ _ => False)
      (Kept F op (untouched op base)) := by
  refine crashTriple_recoverTree (fun s h => ?_) (own_removeTree ?_ ?_ fun _ _ _ h => h) (fun d h _ => h) (fun d h => h.1)
    fun d h => h.1
  · obtain ⟨⟨hk, -⟩, hready⟩ := h
    rw [ready_of_untouched hk] at hready
    cases hready
  · rintro src dst t t' ⟨hsrc, hdst, hready⟩ hpart
    refine ⟨hsrc, hdst, fun u hu => ?_⟩
    cases hu
    cases hr : t'.ready with
    | false => rfl
    | true => exact (hpart.ready hr).symm.trans (hready t rfl)
  · rintro src dst t ⟨hsrc, hdst, -⟩
    exact ⟨hsrc, hdst, fun u hu => by cases hu⟩

theorem lookup_of_read (hpart : ∀ t, d.trees.lookup op.opId = some t → t.Part (wholeTree F op))
    (hready : (d.tree op.opId).ready = true) {b : Bytes} (hm : readMeta F op.opId d = .ok m)
    (hb : readDst op.opId d = .ok b) : d.trees.lookup op.opId = some (wholeTree F op) := by
  have hl := Disk.lookup_of_ready hready
  obtain ⟨mb, hmb, -⟩ := readMeta_eq_ok.mp hm
  have hdst := okOr_eq_ok.mp hb
  have hp := hpart _ hl
  rw [hl]
  generalize d.tree op.opId = t at hmb hdst hp hready
  obtain ⟨dst, metaJson, ready⟩ := t
  subst hmb hdst hready
  refine congrArg some ?_
  have h₁ := hp.dst.resolve_right (by simp)
  have h₂ := hp.metaJson.resolve_right (by simp)
  dsimp only at h₁ h₂
  rw [h₁, h₂]
  rfl

theorem readMeta_whole (h : d.trees.lookup op.opId = some (wholeTree F op)) :
    readMeta F op.opId d = .ok op.journalMeta := by
  refine readMeta_eq_ok.mpr ⟨op.journalMeta.bytes F, ?_, parseMeta_bytes _⟩
  rw [Disk.tree_of_lookup h]
  rfl

theorem readDst_whole (h : d.trees.lookup op.opId = some (wholeTree F op)) : readDst op.opId d = .ok op.dstBytes := by
  rw [readDst, Disk.tree_of_lookup h]
  rfl

def whole (F : FloatText) (op : Staged) : Phase := fun _ _ tree => tree = some (wholeTree F op)

def installed (F : FloatText) (op : Staged) : Phase := fun _ dst tree =>
  tree = some (wholeTree F op) ∧ dst = some (.regular op.dstBytes)

def worked (F : FloatText) (op : Staged) : Phase := fun src dst tree => tree = some (wholeTree F op) ∧ Done op src dst

theorem Kept.mono {K' : Phase} (h : Kept F op K d) (hK : ∀ src dst t, K src dst t → K' src dst t) : Kept F op K' d :=
  ⟨hK _ _ _ h.1, h.2⟩

theorem Kept.install (h : Kept F op (whole F op) d) :
    Kept F op (installed F op) (d.apply (.install (entryFile op.dstName) op.dstBytes)) := by
  refine ⟨⟨?_, d.files_install _ _⟩, h.2.files⟩
  exact h.1

theorem Kept.unlink (hne : op.srcName ≠ op.dstName) (h : Kept F op (installed F op) d) :
    Kept F op (worked F op) (d.apply (.unlink (entryFile op.srcName))) := by
  obtain ⟨⟨htree, hdst⟩, hapart⟩ := h
  have hfile : entryFile op.dstName ≠ entryFile op.srcName := fun he => hne (entryFile_inj he).symm
  refine ⟨⟨?_, ?_, fun _ => ?_⟩, hapart.files⟩
  · exact htree
  · rw [d.files_unlink_of_ne hfile]
    exact hdst
  · rw [d.files_unlink]
    rfl

theorem installed_unlinkSource :
    CrashTriple Disk.apply Torn (KeptIn F op (installed F op) ids) (unlinkSource op.journalMeta)
      (fun _ => KeptIn F op (worked F op) ids) E (Kept F op (committed F op)) := by
  have hinstalled : ∀ d, Kept F op (installed F op) d → Kept F op (committed F op) d := fun d h =>
    h.mono fun _ _ _ h => .inl h.1
  have hworked : ∀ d, Kept F op (worked F op) d → Kept F op (committed F op) d := fun d h =>
    h.mono fun _ _ _ h => .inl h.1
  refine .ite (fun hne => ?_) fun heq => .pure fun d h => ?_
  · refine .bind (Q := fun both d => KeptIn F op (installed F op) ids d ∧
        (both = false → present (d.files (entryFile op.srcName)) = false))
      (.look (fun d both h hb => ⟨h, fun hfalse => ?_⟩) (fun d e _ h => by cases h) fun d h => hinstalled d h.1)
      fun both => .ite (fun _ => ?_) fun hboth => .pure fun d h => ?_
    · -- the destination is there, so it is the source that is missing
      have hdst : d.exists (entryFile op.dstName) = true := by
        rw [exists_eq_present, h.1.1.2]
        rfl
      have hand := (Except.ok.inj hb).trans hfalse
      rw [show op.journalMeta.dst = op.dstName from rfl, hdst, Bool.true_and] at hand
      exact hand
    · refine .perform (fun d h => ⟨h.1.1.unlink hne, h.1.2.files⟩) fun d h => ?_
      exact ⟨hinstalled d h.1.1, hworked _ (h.1.1.unlink hne), fun d' htorn => htorn.elim⟩
    · have hk : Kept F op (worked F op) d := by
        obtain ⟨⟨⟨⟨htree, hdst⟩, hapart⟩, -⟩, hsrc⟩ := h
        exact ⟨⟨htree, hdst, fun _ => hsrc (Bool.eq_false_of_not_eq_true hboth)⟩, hapart⟩
      exact ⟨⟨hk, h.1.2⟩, hworked d hk⟩
  · have hk : Kept F op (worked F op) d := by
      obtain ⟨⟨⟨htree, hdst⟩, hapart⟩, -⟩ := h
      exact ⟨⟨htree, hdst, fun hne => absurd hne heq⟩, hapart⟩
    exact ⟨⟨hk, h.2⟩, hworked d hk⟩

theorem done_removeTree :
    CrashTriple Disk.apply Torn (KeptIn F op (done F op) (op.opId :: ids))
      (perform (.removeTree op.opId) : JournalProg Unit) (fun _ => KeptIn F op (committed F op) ids) E
      (Kept F op (committed F op)) := by
  refine own_removeTree (fun src dst t t' h hpart => ?_) (fun src dst t h => ?_) fun src dst t h => .inr h
  · refine .inr ⟨h.1, fun u hu => ?_⟩
    cases hu
    exact hpart.trans (h.2 t rfl)
  · exact .inr ⟨h.1, fun u hu => by cases hu⟩

theorem worked_done {src dst : Option StoredFile} {t : Option Tree} (h : worked F op src dst t) : done F op src dst t := by
  refine ⟨h.2, fun u hu => ?_⟩
  rw [← Option.some.inj (h.1.symm.trans hu)]
  exact .refl _

theorem whole_installCommitted :
    CrashTriple Disk.apply Torn (KeptIn F op (whole F op) (op.opId :: ids))
      (installCommitted F op.opId) (fun _ => KeptIn F op (committed F op) ids) E
      (Kept F op (committed F op)) := by
  refine crashTriple_installCommitted
    (R := fun m d => KeptIn F op (installed F op) (op.opId :: ids) d ∧ m = op.journalMeta) (fun d e h he => ?_)
    (fun d m b h hm hb => ?_) (fun d h => h.1.mono fun _ _ _ h => .inl h) (fun m d h => h.1.1.mono fun _ _ _ h => .inl h.1)
    fun m => .assume fun hm => ?_
  · rw [readMeta_whole h.1.1, readDst_whole h.1.1] at he
    rcases he with he | he <;> cases he
  · obtain rfl := Except.ok.inj ((readMeta_whole h.1.1).symm.trans hm)
    obtain rfl := Except.ok.inj ((readDst_whole h.1.1).symm.trans hb)
    exact ⟨⟨h.1.install, h.2.files⟩, rfl⟩
  · subst hm
    refine .bind installed_unlinkSource fun _ => ?_
    exact done_removeTree.weaken fun d h => ⟨h.1.mono fun _ _ _ => worked_done, h.2⟩

theorem part_installCommitted {Q : Unit → Disk → Prop} {I : Disk → Prop}
    (hpart : ∀ src dst t, K src dst (some t) → t.Part (wholeTree F op)) (hI : ∀ d, Kept F op K d → I d) :
    CrashTriple Disk.apply Torn (fun d => KeptIn F op K (op.opId :: ids) d ∧
        (d.tree op.opId).ready = true ∧ d.trees.lookup op.opId ≠ some (wholeTree F op))
      (installCommitted F op.opId) Q
      (fun e d => (∃ io, e = .err io) ∧ KeptIn F op K (op.opId :: ids) d) I := by
  refine crashTriple_installCommitted (R := fun _ _ => False) (fun d e h he => ⟨plain_read he, h.1⟩)
    (fun d m b h hm hb => ?_) (fun d h => hI d h.1.1) (fun m d h => h.elim) fun m s h => h.elim
  obtain ⟨⟨hk, -⟩, hready, hnot⟩ := h
  refine hnot (lookup_of_read (fun t ht => ?_) hready hm hb)
  have hK := hk.1
  unfold Holds at hK
  rw [ht] at hK
  exact hpart _ _ t hK

theorem committed_installCommitted :
    CrashTriple Disk.apply Torn (fun d => KeptIn F op (committed F op) (op.opId :: ids) d ∧
        (d.tree op.opId).ready = true)
      (installCommitted F op.opId) (fun _ => KeptIn F op (committed F op) ids)
      (fun e d => (∃ io, e = .err io) ∧ KeptIn F op (done F op) (op.opId :: ids) d)
      (Kept F op (committed F op)) := by
  have hdone : ∀ d, Kept F op (done F op) d → Kept F op (committed F op) d := fun d h => h.mono fun _ _ _ h => .inr h
  refine (whole_installCommitted.or (part_installCommitted (fun _ _ t h => h.2 t rfl) hdone)).weaken fun d h => ?_
  obtain ⟨⟨⟨hk, hapart⟩, hin⟩, hr⟩ := h
  by_cases hw : d.trees.lookup op.opId = some (wholeTree F op)
  · exact .inl ⟨⟨hw, hapart⟩, hin⟩
  · exact .inr ⟨⟨⟨hk.resolve_left hw, hapart⟩, hin⟩, hr, hw⟩

theorem committed_recoverTree :
    CrashTriple Disk.apply Torn (KeptIn F op (committed F op) (op.opId :: ids))
      (recoverTree F op.opId) (fun _ => KeptIn F op (committed F op) ids) (fun _ _ => False)
      (Kept F op (committed F op)) := by
  refine crashTriple_recoverTree committed_installCommitted done_removeTree (fun d h hready => ?_) (fun d h => h.1)
    fun d h => h.1
  -- the commit point is gone, so the tree is not whole
  obtain ⟨⟨hk, hapart⟩, hin⟩ := h
  refine ⟨⟨hk.resolve_left fun hw => ?_, hapart⟩, hin⟩
  rw [Disk.tree_of_lookup hw] at hready
  cases hready

end Own

/-! ## Recovery -/

section Recovery

variable {F : FloatText} {op : Staged} {K : Phase} {base d d' : Disk}

/-- Recovering the tree of the operation keeps the phase. -/
def OwnKept (F : FloatText) (op : Staged) (K : Phase) : Prop :=
  ∀ ids, CrashTriple Disk.apply Torn (KeptIn F op K (op.opId :: ids)) (recoverTree F op.opId)
    (fun _ => KeptIn F op K ids) (fun _ _ => False) (Kept F op K)

theorem kept_recoverJournal (hown : OwnKept F op K) (order : List String) :
    CrashTriple Disk.apply Torn (KeptIn F op K order) (recoverJournal F order)
      (fun _ => KeptIn F op K []) (fun _ _ => False) (Kept F op K) := by
  induction order with
  | nil => exact .pure fun d h => ⟨h, h.1⟩
  | cons id ids ih =>
    refine .bind (Q := fun _ => KeptIn F op K ids) ?_ fun _ => .bind ih fun _ => .pure fun d h => ⟨h, h.1⟩
    by_cases hid : id = op.opId
    · subst hid
      exact hown ids
    · exact kept_recoverTree hid

/-- The trees in some order. -/
def Listing (order : List String) (d : Disk) : Prop := order.Perm d.trees.keys

theorem Listing.treesIn (h : Listing order d) : TreesIn order d := by
  intro id hid
  exact h.mem_iff.mpr (AList.mem_keys.mp (lookup_isSome.mp hid))

def recovered (F : FloatText) (order : List String) (d : Disk) : Disk :=
  (exec (recoverJournal F order) (Session.of d)).2.disk Disk.apply

/-- A recovery that crashed somewhere. -/
def CrashedRecovery (F : FloatText) (d d' : Disk) : Prop :=
  ∃ order done, Listing order d ∧ Crashed Disk.apply Torn (exec (recoverJournal F order) (Session.of d)).2.writes d done d'

theorem Kept.crashedRecoveries (hown : OwnKept F op K) (h : Kept F op K d)
    (hruns : Relation.ReflTransGen (CrashedRecovery F) d d') : Kept F op K d' := by
  induction hruns with
  | refl => exact h
  | tail _ hrun ih =>
    obtain ⟨order, done, horder, hcrash⟩ := hrun
    exact ((kept_recoverJournal hown order).run ⟨ih, horder.treesIn⟩).1 done _ hcrash

theorem Kept.recovered (hown : OwnKept F op K) (h : Kept F op K d) (horder : Listing order d) :
    Kept F op K (recovered F order d) ∧ TreesIn [] (recovered F order d) := by
  have hrun := ((kept_recoverJournal hown order).run ⟨h, horder.treesIn⟩).2
  split at hrun
  · exact hrun
  · exact hrun.elim

theorem recovered_of_treesIn_nil (h : TreesIn [] d) (horder : Listing order d) : recovered F order d = d := by
  have hnil : order = [] := by
    refine eq_nil_iff_forall_not_mem.mpr fun id hid => ?_
    exact absurd (h id (lookup_isSome.mpr (AList.mem_keys.mpr (horder.mem_iff.mp hid)))) not_mem_nil
  subst hnil
  rfl

end Recovery

/-! ## A whole operation -/

section Operation

variable {F : FloatText} {op : Staged} {base d d' : Disk}

/-- No committed tree has the operation's id, and none has to do with its files. -/
structure Unclaimed (F : FloatText) (op : Staged) (d : Disk) : Prop where
  fresh : ∀ t, d.trees.lookup op.opId = some t → t.ready = false
  apart : Apart F op d

theorem Unclaimed.kept (h : Unclaimed F op d) : Kept F op (untouched op d) d := ⟨⟨rfl, rfl, h.fresh⟩, h.apart⟩

theorem untouched_putTree (h : Kept F op (untouched op base) d) {t : Tree} (ht : t.ready = false) :
    Kept F op (untouched op base) (d.putTree op.opId t) := by
  refine ⟨⟨h.1.1, h.1.2.1, fun u hu => ?_⟩, h.2.putTree t⟩
  rw [Disk.lookup_putTree] at hu
  rw [← Option.some.inj hu]
  exact ht

theorem untouched_stageOperation :
    CrashTriple Disk.apply Torn (Kept F op (untouched op base)) (stageOperation F op)
      (fun _ d => Kept F op (untouched op base) d ∧
        d.tree op.opId = ⟨some op.dstBytes, some (op.journalMeta.bytes F), false⟩)
      (fun _ _ => False) (Kept F op (untouched op base)) := by
  have hput : ∀ {d} (f : Tree → Tree), (∀ t, (f t).ready = t.ready) → Kept F op (untouched op base) d →
      Kept F op (untouched op base) (d.putTree op.opId (f (d.tree op.opId))) := by
    intro d f hf h
    exact untouched_putTree h ((hf _).trans (ready_of_untouched h))
  refine .bind (Q := fun _ => Kept F op (untouched op base)) (.perform (fun d h => hput id (fun _ => rfl) h)
    fun d h => ⟨h, hput id (fun _ => rfl) h, fun d' htorn => htorn.elim⟩) fun _ => ?_
  have hdst : ∀ d b, Kept F op (untouched op base) d → Kept F op (untouched op base) (d.apply (.dst op.opId b)) :=
    fun d b h => hput (fun t => { t with dst := some b }) (fun _ => rfl) h
  refine .bind (Q := fun _ d => Kept F op (untouched op base) d ∧ (d.tree op.opId).dst = some op.dstBytes)
    (.perform (fun d h => ⟨hdst d _ h, ?_⟩) fun d h => ⟨h, hdst d _ h, ?_⟩) fun _ => ?_
  · show ((d.putTree op.opId _).tree op.opId).dst = _
    rw [Disk.tree_putTree]
  · rintro d' ⟨n, rfl⟩
    exact hdst d _ h
  have hmeta : ∀ d b, Kept F op (untouched op base) d → Kept F op (untouched op base) (d.apply (.metaJson op.opId b)) :=
    fun d b h => hput (fun t => { t with metaJson := some b }) (fun _ => rfl) h
  refine .perform (fun d h => ⟨hmeta d _ h.1, ?_⟩) fun d h => ⟨h.1, hmeta d _ h.1, ?_⟩
  · show (d.putTree op.opId _).tree op.opId = _
    simp only [Disk.tree_putTree, h.2, ready_of_untouched h.1]
  · rintro d' ⟨n, rfl⟩
    exact hmeta d _ h.1

theorem kept_ready (h : Kept F op (untouched op base) d)
    (ht : d.tree op.opId = ⟨some op.dstBytes, some (op.journalMeta.bytes F), false⟩) :
    Kept F op (whole F op) (d.apply (.ready op.opId)) := by
  refine ⟨?_, h.2.putTree _⟩
  show (d.putTree op.opId { d.tree op.opId with ready := true }).trees.lookup op.opId = some (wholeTree F op)
  rw [Disk.lookup_putTree, ht]
  rfl

def stageWrites (F : FloatText) (op : Staged) : List Write :=
  [.createDir op.opId, .dst op.opId op.dstBytes, .metaJson op.opId (op.journalMeta.bytes F)]

theorem exec_stageOperation (s : Session Disk Write) :
    exec (stageOperation F op) s = (.ok (), ⟨s.start, s.writes ++ stageWrites F op⟩) := by
  unfold stageOperation
  rw [exec_perform_bind, exec_perform_bind, exec_perform]
  simp [push, stageWrites]

def stagedDisk (F : FloatText) (op : Staged) (base : Disk) : Disk := (stageWrites F op).foldl Disk.apply base

def committedDisk (F : FloatText) (op : Staged) (base : Disk) : Disk := (stagedDisk F op base).apply (.ready op.opId)

theorem lookup_committedDisk : (committedDisk F op base).trees.lookup op.opId = some (wholeTree F op) := by
  simp [committedDisk, stagedDisk, stageWrites, Disk.apply, wholeTree]

theorem lookup_committedDisk_of_ne (h : id ≠ op.opId) :
    (committedDisk F op base).trees.lookup id = base.trees.lookup id := by
  simp [committedDisk, stagedDisk, stageWrites, Disk.apply, Disk.lookup_putTree_of_ne _ _ h]

theorem keys_committedDisk (h : op.opId ∉ base.trees) :
    (committedDisk F op base).trees.keys = op.opId :: base.trees.keys := by
  simp [committedDisk, stagedDisk, stageWrites, Disk.apply, Disk.putTree, keys_insert,
    erase_of_not_mem (AList.mem_keys.not.mp h)]

theorem untouched_of_staging (hfree : Unclaimed F op base) :
    (∀ done d, Crashed Disk.apply Torn (stageWrites F op) base done d → Kept F op (untouched op base) d) ∧
      Kept F op (untouched op base) (stagedDisk F op base) ∧
      (stagedDisk F op base).tree op.opId = ⟨some op.dstBytes, some (op.journalMeta.bytes F), false⟩ := by
  have h := untouched_stageOperation.run hfree.kept
  exact h

section Commit

variable {P I : Disk → Prop} {Q : Unit → Disk → Prop} {E : Fault IoError → Disk → Prop}

theorem writes_runOperation (hinstall : CrashTriple Disk.apply Torn P (installCommitted F op.opId) Q E I)
    (hP : P (committedDisk F op base)) :
    ∃ added, (exec (runOperation F op) (Session.of base)).2.writes = stageWrites F op ++ .ready op.opId :: added ∧
      ∀ done d, Crashed Disk.apply Torn added (committedDisk F op base) done d → I d := by
  have hdisk : (push ⟨base, stageWrites F op⟩ (.ready op.opId)).disk Disk.apply = committedDisk F op base :=
    disk_push _ _ _
  rw [← hdisk] at hP ⊢
  obtain ⟨added, hadded, hcrash, -⟩ := hinstall _ hP
  refine ⟨added, ?_, hcrash⟩
  unfold runOperation markReady
  refine (congrArg Session.writes hadded).trans ?_
  rfl

theorem crashed_at_commit (F : FloatText) (op : Staged) (base : Disk) :
    Crashed Disk.apply Torn (exec (runOperation F op) (Session.of base)).2.writes base
      (stageWrites F op ++ [.ready op.opId]) (committedDisk F op base) := by
  obtain ⟨added, h, -⟩ : ∃ added, (exec (runOperation F op) (Session.of base)).2.writes = _ ∧ _ :=
    writes_runOperation crashTriple_true trivial
  have hprefix : stageWrites F op ++ [.ready op.opId] <+: (exec (runOperation F op) (Session.of base)).2.writes := by
    rw [h, append_cons]
    exact prefix_append _ _
  have hcrash : Crashed Disk.apply Torn _ base _ _ := crashed_of_prefix base hprefix
  rwa [foldl_append] at hcrash

/-- **What a crash of an operation leaves**: an untouched store before the commit, and then what a crash of its
installation can leave. -/
theorem untouched_or_of_crashed (hfree : Unclaimed F op base)
    (hinstall : CrashTriple Disk.apply Torn P (installCommitted F op.opId) Q E I) (hP : P (committedDisk F op base))
    {done : List Write}
    (h : Crashed Disk.apply Torn (exec (runOperation F op) (Session.of base)).2.writes base done d) :
    Kept F op (untouched op base) d ∧ .ready op.opId ∉ done ∨ I d := by
  obtain ⟨hstaging, huntouched, -⟩ := untouched_of_staging hfree
  have hnotin : .ready op.opId ∉ stageWrites F op := by simp [stageWrites]
  obtain ⟨added, hwrites, hinstalling⟩ := writes_runOperation hinstall hP
  rw [hwrites] at h
  -- in the staging, at the commit, or after it
  rcases h.append with hs | ⟨done', rfl, hlate⟩
  · refine .inl ⟨hstaging done d hs, fun hmem => hnotin ?_⟩
    obtain ⟨rest, hrest, -⟩ := hs
    rw [hrest]
    exact mem_append_left _ hmem
  rcases hlate.cons with ⟨rfl, hd | htorn⟩ | ⟨done'', -, hc⟩
  · rw [append_nil, hd]
    exact .inl ⟨huntouched, hnotin⟩
  · exact htorn.elim
  · exact .inr (hinstalling done'' d hc)

end Commit

theorem kept_committedDisk (hfree : Unclaimed F op base) :
    Kept F op (whole F op) (committedDisk F op base) ∧
      TreesIn (op.opId :: (committedDisk F op base).trees.keys) (committedDisk F op base) := by
  obtain ⟨-, huntouched, htree⟩ := untouched_of_staging hfree
  refine ⟨kept_ready huntouched htree, fun id hid => ?_⟩
  exact mem_cons_of_mem _ (AList.mem_keys.mp (lookup_isSome.mp hid))

/-- Both files are as on the other disk. -/
def Unchanged (op : Staged) (base d : Disk) : Prop :=
  d.files (entryFile op.srcName) = base.files (entryFile op.srcName) ∧
    d.files (entryFile op.dstName) = base.files (entryFile op.dstName)

/-- The destination holds the staged bytes and the source is gone, unless it is the destination. -/
def Installed (op : Staged) (d : Disk) : Prop :=
  d.files (entryFile op.dstName) = some (.regular op.dstBytes) ∧
    (op.srcName ≠ op.dstName → d.exists (entryFile op.srcName) = false)

theorem installed_recovered (h : Kept F op (committed F op) d) (horder : Listing order d) :
    Installed op (recovered F order d) ∧ TreesIn [] (recovered F order d) := by
  obtain ⟨hkept, hnil⟩ := h.recovered (fun _ => committed_recoverTree) horder
  refine ⟨?_, hnil⟩
  rcases hkept.1 with hw | ⟨hdone, -⟩
  · exact absurd (hnil op.opId (by rw [hw]; rfl)) not_mem_nil
  · exact hdone

/-- **A staged operation happens whole or not at all**: after a crash of it, any number of crashed recoveries and one
that is completed, nothing has changed or everything is done; the latter once `READY` was written.  Another recovery
changes nothing. -/
theorem journal_recovers (F : FloatText) (op : Staged) (base d₁ d₂ : Disk) (done : List Write) (order : List String)
    (hfree : Unclaimed F op base)
    (hcrash : Crashed Disk.apply Torn (exec (runOperation F op) (Session.of base)).2.writes base done d₁)
    (hruns : Relation.ReflTransGen (CrashedRecovery F) d₁ d₂) (horder : Listing order d₂) :
    (Unchanged op base (recovered F order d₂) ∨ Installed op (recovered F order d₂)) ∧
      (.ready op.opId ∈ done → Installed op (recovered F order d₂)) ∧
      ∀ order', Listing order' (recovered F order d₂) →
        recovered F order' (recovered F order d₂) = recovered F order d₂ := by
  rcases untouched_or_of_crashed hfree (whole_installCommitted (E := fun _ _ => True)) (kept_committedDisk hfree) hcrash with
    ⟨h, hnot⟩ | h
  · have hown : OwnKept F op (untouched op base) := fun ids => untouched_recoverTree
    obtain ⟨hkept, hnil⟩ := (h.crashedRecoveries hown hruns).recovered hown horder
    exact ⟨.inl ⟨hkept.1.1, hkept.1.2.1⟩, fun hmem => absurd hmem hnot, fun _ => recovered_of_treesIn_nil hnil⟩
  · obtain ⟨hinstalled, hnil⟩ := installed_recovered (h.crashedRecoveries (fun _ => committed_recoverTree) hruns) horder
    exact ⟨.inr hinstalled, fun _ => hinstalled, fun _ => recovered_of_treesIn_nil hnil⟩

end Operation

/-! ## An entry written again -/

section Rewrite

variable {F : FloatText} {op : Staged} {s : Session Disk Write}

theorem exec_installCommitted_of_same (hsame : op.srcName = op.dstName)
    (h : (s.disk Disk.apply).trees.lookup op.opId = some (wholeTree F op)) :
    exec (installCommitted F op.opId) s =
      (.ok (), (s.push (.install (entryFile op.dstName) op.dstBytes)).push (.removeTree op.opId)) := by
  have hunlink : unlinkSource op.journalMeta = pure () := if_neg (not_not.mpr hsame)
  unfold installCommitted
  rw [exec_look_bind_of_ok Disk.apply (readMeta_whole h), exec_look_bind_of_ok Disk.apply (readDst_whole h),
    exec_perform_bind, hunlink]
  rfl

theorem exec_recoverTree_of_same (hsame : op.srcName = op.dstName)
    (h : (s.disk Disk.apply).trees.lookup op.opId = some (wholeTree F op)) :
    exec (recoverTree F op.opId) s =
      (.ok true, (s.push (.install (entryFile op.dstName) op.dstBytes)).push (.removeTree op.opId)) := by
  have hready : ((s.disk Disk.apply).tree op.opId).ready = true := by
    rw [Disk.tree_of_lookup h]
    rfl
  unfold recoverTree
  rw [exec_look_bind_of_ok Disk.apply (f := fun d => .ok (d.tree op.opId).ready) (congrArg Except.ok hready), if_pos rfl,
    exec_bind_of_ok (a := .ok ()) (by rw [exec_attempt, exec_installCommitted_of_same hsame h])]
  rfl

theorem exec_recoverJournal_cons {forwarded : Bool} {s' : Session Disk Write}
    (h : exec (recoverTree F id) s = (.ok forwarded, s')) :
    (exec (recoverJournal F (id :: ids)) s).2 = (exec (recoverJournal F ids) s').2 := by
  rw [recoverJournal, exec_bind_of_ok h, exec_bind]
  split
  · next hrest => rw [hrest]; rfl
  · next hrest => rw [hrest]

theorem files_recovered_of_same {a b : Staged} (ha : a.srcName = a.dstName) (hb : b.srcName = b.dstName)
    (hne : b.opId ≠ a.opId) (hla : d.trees.lookup a.opId = some (wholeTree F a))
    (hlb : d.trees.lookup b.opId = some (wholeTree F b)) :
    (recovered F [a.opId, b.opId] d).files (entryFile b.dstName) = some (.regular b.dstBytes) := by
  have hsecond : (((push (Session.of d) (.install (entryFile a.dstName) a.dstBytes)).push
      (.removeTree a.opId)).disk Disk.apply).trees.lookup b.opId = some (wholeTree F b) := by
    rw [disk_push, Disk.lookup_removeTree_of_ne _ hne, disk_push, Disk.trees_install]
    exact hlb
  have hfirst : ((Session.of d : Session Disk Write).disk Disk.apply).trees.lookup a.opId = some (wholeTree F a) := hla
  rw [recovered, exec_recoverJournal_cons (exec_recoverTree_of_same ha hfirst),
    exec_recoverJournal_cons (exec_recoverTree_of_same hb hsecond)]
  show (Session.disk Disk.apply (push _ (.removeTree b.opId))).files _ = _
  rw [disk_push, Disk.files_removeTree, disk_push, Disk.files_install]

theorem not_installed_of_same {a b : Staged} (ha : a.srcName = a.dstName) (hb : b.srcName = b.dstName)
    (hne : b.opId ≠ a.opId) (hla : d.trees.lookup a.opId = some (wholeTree F a))
    (hlb : d.trees.lookup b.opId = some (wholeTree F b)) (hdst : b.dstName = a.dstName)
    (hbytes : a.dstBytes ≠ b.dstBytes) : ¬Installed a (recovered F [a.opId, b.opId] d) := by
  intro h
  have hfile := files_recovered_of_same ha hb hne hla hlb
  rw [hdst, h.1] at hfile
  exact hbytes (StoredFile.regular.inj (Option.some.inj hfile))

end Rewrite

/-! ## Sample operations -/

section Samples

def noFloats : FloatText := ⟨fun _ => [], fun _ => none⟩

def oneEntry (name : String) (b : Bytes) : Disk :=
  ⟨fun file => if file = entryFile name then some (.regular b) else none, ∅⟩

/-- `a` is renamed to `b`. -/
def renameEntry (b : Bytes) : Staged := ⟨"op1", "a", "b", b⟩

theorem unclaimed_oneEntry (op : Staged) (name : String) (b : Bytes) : Unclaimed noFloats op (oneEntry name b) where
  fresh := fun t h => by cases h
  apart := fun id t b m _ h => by cases h

/-- A rename that crashes right after its commit is done by the recovery. -/
theorem journal_recovers_rename :
    Crashed Disk.apply Torn (exec (runOperation noFloats (renameEntry [1])) (Session.of (oneEntry "a" [0]))).2.writes
        (oneEntry "a" [0]) (stageWrites noFloats (renameEntry [1]) ++ [.ready "op1"])
        (committedDisk noFloats (renameEntry [1]) (oneEntry "a" [0])) ∧
      Listing ["op1"] (committedDisk noFloats (renameEntry [1]) (oneEntry "a" [0])) ∧
      Installed (renameEntry [1])
        (recovered noFloats ["op1"] (committedDisk noFloats (renameEntry [1]) (oneEntry "a" [0]))) := by
  have hfree := unclaimed_oneEntry (renameEntry [1]) "a" [0]
  have hcrash := crashed_at_commit noFloats (renameEntry [1]) (oneEntry "a" [0])
  have horder : Listing ["op1"] (committedDisk noFloats (renameEntry [1]) (oneEntry "a" [0])) := by
    rw [Listing, keys_committedDisk (by decide)]
    rfl
  refine ⟨hcrash, horder, (journal_recovers noFloats (renameEntry [1]) _ _ _ _ _ hfree hcrash .refl horder).2.1 ?_⟩
  exact mem_append_right _ mem_cons_self

/-- `x` is written again, under an id of its own. -/
def rewriteEntry (id : String) (b : Bytes) : Staged := ⟨id, "x", "x", b⟩

/-- An earlier operation on `x` was committed and is not installed yet. -/
def pendingRewrite : Disk := 
  ⟨fun _ => none, (∅ : Store String Tree).insert "op0" (wholeTree noFloats (rewriteEntry "op0" [0]))⟩

/-- Two committed operations on one entry: the one that is recovered last wins. -/
theorem earlier_commit_overwrites :
    Crashed Disk.apply Torn
        (exec (runOperation noFloats (rewriteEntry "op1" [1])) (Session.of pendingRewrite)).2.writes pendingRewrite
        (stageWrites noFloats (rewriteEntry "op1" [1]) ++ [.ready "op1"])
        (committedDisk noFloats (rewriteEntry "op1" [1]) pendingRewrite) ∧
      Listing ["op1", "op0"] (committedDisk noFloats (rewriteEntry "op1" [1]) pendingRewrite) ∧
      ¬Installed (rewriteEntry "op1" [1])
        (recovered noFloats ["op1", "op0"] (committedDisk noFloats (rewriteEntry "op1" [1]) pendingRewrite)) := by
  refine ⟨crashed_at_commit _ _ _, ?_, ?_⟩
  · rw [Listing, keys_committedDisk (by decide)]
    rfl
  · refine not_installed_of_same (a := rewriteEntry "op1" [1]) (b := rewriteEntry "op0" [0]) rfl rfl (by decide)
      lookup_committedDisk ?_ rfl (by decide)
    rw [lookup_committedDisk_of_ne (by decide)]
    exact lookup_insert _

end Samples

end OneCipher.Secret.Journal
