import OneCipher.Secret.Journal

/-!
# OneCipher.Secret.JournalPower — the journal and a loss of power

`stage_operation` writes `dst` and `meta.json` with plain writes and nobody syncs them, while `READY` and what is
installed are durable.  When power is lost the two files of the tree may be cut off or gone beside a `READY` that is
there.  A description that was cut off is not read; a payload that was cut off is installed as it is, and the source
is removed after it.
-/

namespace OneCipher.Secret.Journal

open JsonText Serde Prog Session CrashLogic

/-! ## Loss of power -/

/-- What is left of a file that was not synced. -/
def Decayed (x' x : Option Bytes) : Prop := x' = none ∨ ∃ n, x' = x.map (·.take n)

structure Tree.Decayed (t' t : Tree) : Prop where
  dst : Journal.Decayed t'.dst t.dst
  metaJson : Journal.Decayed t'.metaJson t.metaJson
  ready : t'.ready = t.ready

/-- What is left of the tree of an operation; all else is durable. -/
def PowerLoss (id : String) (d d' : Disk) : Prop :=
  d' = d ∨ ∃ t t', d.trees.lookup id = some t ∧ t'.Decayed t ∧ d' = d.putTree id t'

/-- The source is removed only if the destination holds the staged bytes. -/
def SourceKept (F : FloatText) (op : Staged) (base : Disk) : Prop :=
  ∀ done d d' order, Crashed Disk.apply Torn (exec (runOperation F op) (Session.of base)).2.writes base done d →
    PowerLoss op.opId d d' → Listing order d' → base.exists (entryFile op.srcName) = true →
      (recovered F order d').exists (entryFile op.srcName) = false →
        (recovered F order d').files (entryFile op.dstName) = some (.regular op.dstBytes)

section Guarded

variable (F : FloatText) (op : Staged)

/-- What a tree may hold: no other payload, unless the source is the destination, and no other description. -/
structure Harmless (t : Tree) : Prop where
  dst : op.srcName = op.dstName ∨ ∀ b, t.dst = some b → b = op.dstBytes
  metaJson : ∀ b, t.metaJson = some b → ∃ n, b = (op.journalMeta.bytes F).take n

def guarded : Phase := fun src dst tree =>
  (present src = true ∨ dst = some (.regular op.dstBytes)) ∧ ∀ t, tree = some t → t.ready = true → Harmless F op t

def covered : Phase := fun src dst tree =>
  (op.srcName = op.dstName ∧ present src = true ∨ op.srcName ≠ op.dstName ∧ dst = some (.regular op.dstBytes)) ∧
    ∀ t, tree = some t → t.ready = true → Harmless F op t

end Guarded

section Phases

variable {F : FloatText} {op : Staged} {base d d' : Disk} {ids : List String} {E : Fault IoError → Disk → Prop}

theorem Harmless.part {t t' : Tree} (h : Harmless F op t) (hpart : t'.Part t) : Harmless F op t' where
  dst := by
    refine h.dst.imp_right fun hb b hsome => hb b ?_
    rcases hpart.dst with hd | hd
    · rw [← hd, hsome]
    · rw [hd] at hsome
      cases hsome
  metaJson := by
    intro b hsome
    rcases hpart.metaJson with hm | hm
    · exact h.metaJson b (by rw [← hm, hsome])
    · rw [hm] at hsome
      cases hsome

theorem harmless_wholeTree : Harmless F op (wholeTree F op) where
  dst := .inr fun _ hb => (Option.some.inj hb).symm
  metaJson := fun b hb => ⟨(op.journalMeta.bytes F).length, by
    rw [List.take_length]
    exact (Option.some.inj hb).symm⟩

theorem Harmless.decayed {t t' : Tree} (hcond : op.dstBytes = [] ∨ op.srcName = op.dstName) (h : Harmless F op t)
    (hdec : t'.Decayed t) : Harmless F op t' where
  dst := by
    rcases hcond with hnil | hsame
    · refine h.dst.imp_right fun hb b hsome => ?_
      rcases hdec.dst with hd | ⟨n, hd⟩
      · rw [hd] at hsome
        cases hsome
      · rw [hd, Option.map_eq_some_iff] at hsome
        obtain ⟨c, hc, rfl⟩ := hsome
        rw [hb c hc, hnil, List.take_nil]
    · exact .inl hsame
  metaJson := by
    intro b hsome
    rcases hdec.metaJson with hm | ⟨n, hm⟩
    · rw [hm] at hsome
      cases hsome
    · rw [hm, Option.map_eq_some_iff] at hsome
      obtain ⟨c, hc, rfl⟩ := hsome
      obtain ⟨k, rfl⟩ := h.metaJson c hc
      exact ⟨min n k, List.take_take⟩

theorem guarded_removeTree :
    CrashTriple Disk.apply Torn (KeptIn F op (guarded F op) (op.opId :: ids))
      (perform (.removeTree op.opId) : JournalProg Unit) (fun _ => KeptIn F op (guarded F op) ids) E
      (Kept F op (guarded F op)) := by
  refine own_removeTree (fun src dst t t' h hpart => ?_) (fun src dst t h => ?_) fun src dst t h => h
  · refine ⟨h.1, fun u hu hready => ?_⟩
    cases hu
    exact (h.2 t rfl (hpart.ready hready)).part hpart
  · exact ⟨h.1, fun u hu => by cases hu⟩

theorem Kept.cover {b : Bytes} (h : Kept F op (guarded F op) d) (hb : op.srcName = op.dstName ∨ b = op.dstBytes) :
    Kept F op (covered F op) (d.apply (.install (entryFile op.dstName) b)) := by
  refine ⟨⟨?_, ?_⟩, h.2.files⟩
  · by_cases hsame : op.srcName = op.dstName
    · refine .inl ⟨hsame, ?_⟩
      rw [hsame, d.files_install]
      rfl
    · refine .inr ⟨hsame, ?_⟩
      rw [d.files_install, hb.resolve_left hsame]
  · exact h.1.2

theorem Kept.uncover (hne : op.srcName ≠ op.dstName) (h : Kept F op (covered F op) d) :
    Kept F op (covered F op) (d.apply (.unlink (entryFile op.srcName))) := by
  have hfile : entryFile op.dstName ≠ entryFile op.srcName := fun he => hne (entryFile_inj he).symm
  refine ⟨⟨.inr ⟨hne, ?_⟩, ?_⟩, h.2.files⟩
  · rw [d.files_unlink_of_ne hfile]
    exact (h.1.1.resolve_left fun hs => hne hs.1).2
  · exact h.1.2

theorem read_of_guarded {m : JournalMeta} (h : Kept F op (guarded F op) d) (hready : (d.tree op.opId).ready = true)
    (hm : readMeta F op.opId d = .ok m) : m = op.journalMeta := by
  obtain ⟨b, hb, hparse⟩ := readMeta_eq_ok.mp hm
  obtain ⟨n, rfl⟩ := (h.1.2 _ (Disk.lookup_of_ready hready) hready).metaJson b hb
  exact parseMeta_take hparse

theorem guarded_installCommitted :
    CrashTriple Disk.apply Torn
      (fun d => KeptIn F op (guarded F op) (op.opId :: ids) d ∧ (d.tree op.opId).ready = true)
      (installCommitted F op.opId) (fun _ => KeptIn F op (guarded F op) ids)
      (fun e d => (∃ io, e = .err io) ∧ KeptIn F op (guarded F op) (op.opId :: ids) d)
      (Kept F op (guarded F op)) := by
  have hguarded : ∀ d, Kept F op (covered F op) d → Kept F op (guarded F op) d := fun d h =>
    h.mono fun _ _ _ h => ⟨h.1.imp And.right And.right, h.2⟩
  refine crashTriple_installCommitted
    (R := fun m d => KeptIn F op (covered F op) (op.opId :: ids) d ∧ m = op.journalMeta)
    (fun d e h he => ⟨plain_read he, h.1⟩) (fun d m b h hm hb => ?_) (fun d h => h.1.1) (fun m d h => hguarded d h.1.1)
    fun m => .assume fun hm => ?_
  · obtain rfl := read_of_guarded h.1.1 h.2 hm
    have hdst := (h.1.1.1.2 _ (Disk.lookup_of_ready h.2) h.2).dst.imp_right fun hall => hall b (Outcome.okOr_eq_ok.mp hb)
    exact ⟨⟨h.1.1.cover hdst, h.1.2.files⟩, rfl⟩
  · subst hm
    refine .bind (crashTriple_unlinkSource (fun hne d h => ⟨h.1.uncover hne, h.2.files⟩) fun d h => hguarded d h.1) fun _ => ?_
    exact guarded_removeTree.weaken fun d h => ⟨hguarded d h.1, h.2⟩

theorem guarded_recoverTree : OwnKept F op (guarded F op) := by
  intro ids
  exact crashTriple_recoverTree guarded_installCommitted guarded_removeTree (fun d h _ => h) (fun d h => h.1) fun d h => h.1

/-! ## A whole operation -/

theorem guarded_of_untouched (hsrc : base.exists (entryFile op.srcName) = true)
    (h : Kept F op (untouched op base) d) : Kept F op (guarded F op) d := by
  refine h.mono fun src dst t hu => ⟨.inl ?_, fun u hsome hready => ?_⟩
  · rw [hu.1]
    exact hsrc
  · rw [hu.2.2 u hsome] at hready
    cases hready

theorem guarded_committedDisk (hfree : Unclaimed F op base) (hsrc : base.exists (entryFile op.srcName) = true) :
    Kept F op (guarded F op) (committedDisk F op base) := by
  obtain ⟨-, huntouched, -⟩ := untouched_of_staging hfree
  refine ⟨⟨(guarded_of_untouched hsrc huntouched).1.1, fun t ht _ => ?_⟩, (kept_committedDisk hfree).1.2⟩
  rw [lookup_committedDisk] at ht
  rw [← Option.some.inj ht]
  exact harmless_wholeTree

theorem Kept.powerLoss (hcond : op.dstBytes = [] ∨ op.srcName = op.dstName) (h : Kept F op (guarded F op) d)
    (hloss : PowerLoss op.opId d d') : Kept F op (guarded F op) d' := by
  rcases hloss with rfl | ⟨t, t', ht, hdec, rfl⟩
  · exact h
  refine ⟨⟨h.1.1, fun u hu hready => ?_⟩, h.2.putTree t'⟩
  rw [Disk.lookup_putTree] at hu
  cases hu
  rw [hdec.ready] at hready
  exact (h.1.2 t ht hready).decayed hcond hdec

def Staged.emptied (op : Staged) : Staged := { op with dstBytes := [] }

def emptiedDisk (F : FloatText) (op : Staged) (base : Disk) : Disk :=
  (committedDisk F op base).putTree op.opId (wholeTree F op.emptied)

theorem powerLoss_emptiedDisk : PowerLoss op.opId (committedDisk F op base) (emptiedDisk F op base) := by
  have hmeta : Decayed (some (op.journalMeta.bytes F)) (some (op.journalMeta.bytes F)) := by
    refine .inr ⟨(op.journalMeta.bytes F).length, ?_⟩
    rw [Option.map_some, List.take_length]
  exact .inr ⟨wholeTree F op, wholeTree F op.emptied, lookup_committedDisk, ⟨.inr ⟨0, rfl⟩, hmeta, rfl⟩, rfl⟩

theorem keys_emptiedDisk (h : op.opId ∉ base.trees) :
    (emptiedDisk F op base).trees.keys = op.opId :: base.trees.keys := by
  simp [emptiedDisk, Disk.putTree, AList.keys_insert, keys_committedDisk h]

theorem installed_emptiedDisk (hfree : Unclaimed F op base) {order : List String}
    (horder : Listing order (emptiedDisk F op base)) : Installed op.emptied (recovered F order (emptiedDisk F op base)) := by
  have hapart : Apart F op.emptied (emptiedDisk F op base) := (kept_committedDisk hfree).1.2.putTree _
  have hkept : Kept F op.emptied (committed F op.emptied) (emptiedDisk F op base) :=
    ⟨.inl (Disk.lookup_putTree _ _ _), hapart⟩
  exact (installed_recovered hkept horder).1

/-- **When a loss of power costs nothing**: the payload is empty, the source is the destination, or there is no
source.  Otherwise a payload that is lost right after the commit is installed empty, and the source removed. -/
theorem sourceKept_iff (F : FloatText) (op : Staged) (base : Disk) (hfree : Unclaimed F op base) :
    SourceKept F op base ↔ op.dstBytes = [] ∨ op.srcName = op.dstName ∨ base.exists (entryFile op.srcName) = false := by
  constructor
  · intro hkept
    by_contra hcond
    rw [not_or, not_or, Bool.not_eq_false] at hcond
    obtain ⟨hbytes, hne, hsrc⟩ := hcond
    have horder : Listing (emptiedDisk F op base).trees.keys (emptiedDisk F op base) := .refl _
    have hinstalled := installed_emptiedDisk hfree horder
    have hdst := hkept _ _ _ _ (crashed_at_commit F op base) powerLoss_emptiedDisk horder hsrc (hinstalled.2 hne)
    have hnil := hinstalled.1.symm.trans hdst
    exact hbytes (StoredFile.regular.inj (Option.some.inj hnil)).symm
  · intro hcond done d d' order hcrash hloss horder hsrc hgone
    have hcond' : op.dstBytes = [] ∨ op.srcName = op.dstName := by
      rcases hcond with h | h | h
      · exact .inl h
      · exact .inr h
      · rw [h] at hsrc
        cases hsrc
    have hready : ((committedDisk F op base).tree op.opId).ready = true := by
      rw [Disk.tree_of_lookup lookup_committedDisk]
      rfl
    have hguarded : Kept F op (guarded F op) d := by
      rcases untouched_or_of_crashed hfree guarded_installCommitted
        ⟨⟨guarded_committedDisk hfree hsrc, (kept_committedDisk hfree).2⟩, hready⟩ hcrash with ⟨h, -⟩ | h
      · exact guarded_of_untouched hsrc h
      · exact h
    obtain ⟨hend, -⟩ := (hguarded.powerLoss hcond' hloss).recovered guarded_recoverTree horder
    refine hend.1.1.resolve_left fun hpresent => ?_
    rw [exists_eq_present, hpresent] at hgone
    cases hgone

end Phases

/-! ## Sample operations -/

/-- An operation without a payload. -/
theorem sourceKept_emptyPayload : SourceKept noFloats (renameEntry []) (oneEntry "a" [0]) :=
  (sourceKept_iff _ _ _ (unclaimed_oneEntry (renameEntry []) "a" [0])).mpr (.inl rfl)

/-- Power is lost right after the commit of a rename, and what was staged was not on the disk yet: the destination
becomes an empty file, and the source is removed. -/
theorem payload_lost_after_commit :
    Crashed Disk.apply Torn (exec (runOperation noFloats (renameEntry [1])) (Session.of (oneEntry "a" [0]))).2.writes
        (oneEntry "a" [0]) (stageWrites noFloats (renameEntry [1]) ++ [.ready "op1"])
        (committedDisk noFloats (renameEntry [1]) (oneEntry "a" [0])) ∧
      PowerLoss "op1" (committedDisk noFloats (renameEntry [1]) (oneEntry "a" [0]))
        (emptiedDisk noFloats (renameEntry [1]) (oneEntry "a" [0])) ∧
      Listing ["op1"] (emptiedDisk noFloats (renameEntry [1]) (oneEntry "a" [0])) ∧
      (oneEntry "a" [0]).exists (entryFile "a") = true ∧
      Installed (renameEntry []) (recovered noFloats ["op1"] (emptiedDisk noFloats (renameEntry [1]) (oneEntry "a" [0]))) := by
  have hfree := unclaimed_oneEntry (renameEntry [1]) "a" [0]
  have horder : Listing ["op1"] (emptiedDisk noFloats (renameEntry [1]) (oneEntry "a" [0])) := by
    rw [Listing, keys_emptiedDisk (by decide)]
    rfl
  refine ⟨crashed_at_commit _ _ _, powerLoss_emptiedDisk, horder, ?_, installed_emptiedDisk hfree horder⟩
  simp [Disk.exists, oneEntry]

end OneCipher.Secret.Journal
