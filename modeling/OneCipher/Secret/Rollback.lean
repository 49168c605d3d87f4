import OneCipher.Secret.Migrate

/-!
# OneCipher.Secret.Rollback — undoing a migration

`rollback_migration` of `oc-secret/src/migrate.rs`.  It does not know what a migration created: for every
wallet that is still in the legacy vault it deletes whatever is stored under the wallet's sanitized name, and
stops at the first error other than "not found".  A `Ledger` keeps beside the disk who wrote each entry last;
`rollback_keeps_others_iff` says for every history when the entries of others survive.
-/

namespace OneCipher.Secret

open JsonText Prog List
open Prog (exec)

section Programs

variable {ι : Type} (host : SecretHost ι) (vault : LegacyVault)

/-- The loop over the wallets: the number of entries removed.  `now` is the time of each tombstone. -/
def rollbackEach : List LegacyWallet → (Nat → String) → MigrateProg Nat
  | [], _ => pure 0
  | w :: ws, now => do
    match ← Prog.attempt (delete host (vault.sanitizeName w.name) (now 0)) with
    | .ok _ => do
      let removed ← rollbackEach ws fun n => now (n + 1)
      return removed + 1
    | .error (.notFound _) => rollbackEach ws fun n => now (n + 1)
    | .error e => Prog.fail (.store e)

/-- `rollback_migration`. -/
def rollbackMigration (now : Nat → String) : MigrateProg Nat := do
  let wallets ← Prog.lift (vault.listEncryptedWallets.mapError fun e => .err (.vault e))
  rollbackEach host vault wallets now

end Programs

/-! ## Who wrote an entry -/

inductive Origin where
  | migration
  | other
  deriving DecidableEq, Repr

/-- The store, and who wrote the entry of each name last. -/
structure Ledger where
  disk : Disk
  origin : String → Origin

/-- A call in the life of a store. -/
inductive LedgerStep (ι : Type) where
  | call (op : StoreOp ι)
  | migrate (vault : LegacyVault) (passphrase : String) (recipients : List String) (dryRun : Bool) (draw : Nat → Draw)
  | rollback (vault : LegacyVault) (now : Nat → String)

namespace Ledger

def record (l : Ledger) (who : Origin) (s : StoreSession) : Ledger where
  disk := diskOf s
  origin := fun name => if (lastWritten s.writes name).isSome then who else l.origin name

theorem origin_record_other (l : Ledger) (s : StoreSession) {name : String} (h : l.origin name = .other) :
    (l.record .other s).origin name = .other := by
  rw [record]
  dsimp only
  rw [h, ite_self]

variable {ι : Type} (host : SecretHost ι)

def step (l : Ledger) : LedgerStep ι → Ledger
  | .call op => l.record .other (StoreOp.after host (Session.of l.disk) op)
  | .migrate vault passphrase recipients dryRun draw => l.record .migration
    (exec (migrateLegacyWallets host vault passphrase recipients dryRun draw) (Session.of l.disk)).2
  | .rollback vault now => l.record .migration (exec (rollbackMigration host vault now) (Session.of l.disk)).2

def run (d : Disk) (history : List (LedgerStep ι)) : Ledger := history.foldl (step host) ⟨d, fun _ => .other⟩

/-- A name whose entry can be read and was not written by a migration. -/
def Foreign (l : Ledger) (name : String) : Prop := l.origin name = .other ∧ ∃ e, get host name l.disk = .ok e

end Ledger

/-! ## What a rollback reaches -/

/-- The loop gets past a wallet: its name is valid and no symlink stands at its file. -/
def Passable (vault : LegacyVault) (d : Disk) (w : LegacyWallet) : Prop :=
  ValidName (vault.sanitizeName w.name) ∧ ∀ resolves,
    d.entries (entryFile (vault.sanitizeName w.name)) ≠ some (.symlink resolves)

def notSymlink : Option EntryFile → Bool
  | some (.symlink _) => false
  | _ => true

theorem notSymlink_iff {f : Option EntryFile} : notSymlink f = true ↔ ∀ resolves, f ≠ some (.symlink resolves) := by
  rcases f with _ | _ | resolves
  · simp [notSymlink]
  · simp [notSymlink]
  · simp [notSymlink]

instance (vault : LegacyVault) (d : Disk) (w : LegacyWallet) : Decidable (Passable vault d w) :=
  haveI := decidable_of_iff _ (notSymlink_iff (f := d.entries (entryFile (vault.sanitizeName w.name))))
  inferInstanceAs (Decidable (_ ∧ _))

def LegacyVault.reached (vault : LegacyVault) (d : Disk) (ws : List LegacyWallet) : List String :=
  (ws.takeWhile fun w => Passable vault d w).map fun w => vault.sanitizeName w.name

/-- Every index a rollback writes fits the limits of its reader. -/
def TombstonesFit (F : FloatText) (d : Disk) (rows : List SecretIndexEntry) : List String → (Nat → String) → Prop
  | [], _ => True
  | name :: names, now => match d.entries (entryFile name) with
    | some (.regular _) => Fits F (upsertRows rows (deletedRow rows name (now 0))) ∧
      TombstonesFit F (d.apply (.remove (entryFile name))) (upsertRows rows (deletedRow rows name (now 0))) names
        fun n => now (n + 1)
    | _ => TombstonesFit F d rows names fun n => now (n + 1)

section Run

variable {ι : Type} {host : SecretHost ι} {vault : LegacyVault}

/-! ## One wallet -/

variable {w : LegacyWallet} {rows : List SecretIndexEntry} {s : StoreSession}

theorem exec_rollbackEach_of_passed {ws : List LegacyWallet} (now : Nat → String) {r : Outcome SecretStoreError Unit}
    {t : StoreSession} (h : exec (delete host (vault.sanitizeName w.name) (now 0)) s = (r, t))
    (hr : r = .ok () ∨ ∃ name, r = .error (.err (.notFound name))) :
    (exec (rollbackEach host vault (w :: ws) now) s).2 =
      (exec (rollbackEach host vault ws fun n => now (n + 1)) t).2 := by
  rw [rollbackEach, exec_bind, exec_attempt, h]
  rcases hr with rfl | ⟨name, rfl⟩
  · exact exec_bind_pure_snd _ _ _
  · rfl

theorem exec_rollbackEach_of_error {ws : List LegacyWallet} {now : Nat → String} {er : Fault SecretStoreError}
    (h : exec (delete host (vault.sanitizeName w.name) (now 0)) s = (.error er, s))
    (hother : ∀ name, er ≠ .err (.notFound name)) : (exec (rollbackEach host vault (w :: ws) now) s).2 = s := by
  rw [rollbackEach, exec_bind, exec_attempt, h]
  rcases er with e | _ | _
  · cases e with
    | notFound name => exact absurd rfl (hother name)
    | _ => rfl
  · rfl
  · rfl

theorem exec_rollbackEach_of_unreadable (hbad : ∀ rows, readIndexRaw host (diskOf s) ≠ .ok rows)
    (ws : List LegacyWallet) (now : Nat → String) : (exec (rollbackEach host vault ws now) s).2 = s := by
  induction ws generalizing now with
  | nil => rfl
  | cons w _ ih =>
    rcases delete_cases host (vault.sanitizeName w.name) (now 0) s with ⟨er, hexec, -⟩ | ⟨rows, -, -, hrows, -⟩
    · by_cases hmissing : ∃ name, er = .err (.notFound name)
      · obtain ⟨name, rfl⟩ := hmissing
        rw [exec_rollbackEach_of_passed now hexec (.inr ⟨_, rfl⟩)]
        exact ih _
      · exact exec_rollbackEach_of_error hexec fun name h => hmissing ⟨name, h⟩
    · exact absurd hrows (hbad rows)

/-- **What `delete` does for a wallet whose index reads**: the loop stops at it, its name has no file, or the
entry is removed. -/
theorem delete_wallet_cases (vault : LegacyVault) (hrows : readIndexRaw host (diskOf s) = .ok rows) (w : LegacyWallet)
    (now : String) :
    (¬ Passable vault (diskOf s) w ∧ ∃ er, (∀ name, er ≠ .err (.notFound name)) ∧
      exec (delete host (vault.sanitizeName w.name) now) s = (.error er, s)) ∨
    Passable vault (diskOf s) w ∧ (((diskOf s).entries (entryFile (vault.sanitizeName w.name)) = none ∧
      ∃ name, exec (delete host (vault.sanitizeName w.name) now) s = (.error (.err (.notFound name)), s)) ∨
    ∃ content, (diskOf s).entries (entryFile (vault.sanitizeName w.name)) = some (.regular content) ∧
      exec (delete host (vault.sanitizeName w.name) now) s =
        (.ok (), afterDelete host rows (vault.sanitizeName w.name) now s)) := by
  rcases delete_cases host (vault.sanitizeName w.name) now s with
    ⟨er, hexec, hcheck⟩ | ⟨rows', hv, ⟨content, hfile⟩, hrows', hexec⟩
  · by_cases hv : ValidName (vault.sanitizeName w.name)
    · rw [checkDelete, validateName_eq_ok.mpr hv] at hcheck
      change checkEntryFile _ _ >>= _ = _ at hcheck
      rw [checkEntryFile] at hcheck
      rcases hfile : (diskOf s).entries (entryFile (vault.sanitizeName w.name)) with _ | content | resolves
      · rw [hfile] at hcheck
        cases hcheck
        refine .inr ⟨⟨hv, fun resolves h => ?_⟩, .inl ⟨rfl, _, hexec⟩⟩
        cases hfile.symm.trans h
      · rw [hfile, floor, hrows] at hcheck
        cases hcheck
      · rw [hfile] at hcheck
        cases hcheck
        refine .inl ⟨fun h => h.2 resolves hfile, _, ?_, hexec⟩
        intro name h
        cases h
    · refine .inl ⟨fun h => hv h.1, er, fun name h => ?_, hexec⟩
      subst h
      rw [checkDelete, validateName] at hcheck
      rcases hpath : validatePath (vault.sanitizeName w.name) with reason | ⟨⟩
      · rw [hpath] at hcheck
        cases hcheck
      · exact hv hpath
  · obtain rfl : rows = rows' := Except.ok.inj (hrows.symm.trans hrows')
    refine .inr ⟨⟨hv, fun resolves h => ?_⟩, .inr ⟨content, hfile, hexec⟩⟩
    cases hfile.symm.trans h

/-! ## The loop -/

theorem get_after_delete {removed now : String} (hrows : readIndexRaw host (diskOf s) = .ok rows)
    (hfit : Fits host.floats (upsertRows rows (deletedRow rows removed now))) (name : String) (e : SecretEntry) :
    get host name (diskOf (afterDelete host rows removed now s)) = .ok e ↔
      get host name (diskOf s) = .ok e ∧ removed ≠ name := by
  rw [afterDelete, diskOf_push, diskOf_push]
  by_cases hname : removed = name
  · refine iff_of_false (fun h => ?_) fun h => h.2 hname
    have hfile := (get_eq_ok.mp h).2.1
    rw [Disk.entries_index, Disk.entries_remove, hname, Function.update_self] at hfile
    cases hfile
  · rw [and_iff_left hname, get_congr_row ?_ hrows ((readIndexRaw_index _ _).trans (readIndex_indexText.mpr ⟨rfl, hfit⟩))]
    · rw [rowOf_upsertRows]
      exact if_neg hname
    · rw [Disk.entries_index, Disk.entries_remove, Function.update_of_ne]
      exact fun hf => hname (entryFile_inj hf).symm

theorem entries_afterDelete (host : SecretHost ι) (rows : List SecretIndexEntry) (name now : String) (s : StoreSession) :
    (diskOf (afterDelete host rows name now s)).entries = ((diskOf s).apply (.remove (entryFile name))).entries := by
  rw [afterDelete, diskOf_push, diskOf_push, Disk.entries_index]

theorem reached_remove (vault : LegacyVault) {d d' : Disk} {file : String} {content : Option SecretEntry}
    (hfile : d.entries file = some (.regular content)) (hentries : d'.entries = (d.apply (.remove file)).entries)
    (ws : List LegacyWallet) : vault.reached d' ws = vault.reached d ws := by
  have hpass : ∀ w, Passable vault d' w ↔ Passable vault d w := by
    intro w
    refine and_congr_right fun _ => forall_congr' fun resolves => not_congr ?_
    rw [hentries, Disk.entries_remove, Function.update_apply]
    split_ifs with heq
    · rw [heq, hfile]
      simp
    · rfl
  rw [LegacyVault.reached, LegacyVault.reached]
  simp only [hpass]

theorem reached_cons_of_passable {d : Disk} (h : Passable vault d w) (ws : List LegacyWallet) :
    vault.reached d (w :: ws) = vault.sanitizeName w.name :: vault.reached d ws := by
  simp only [LegacyVault.reached, takeWhile_cons, h, decide_true, if_true, map_cons]

theorem reached_cons_of_not {d : Disk} (h : ¬ Passable vault d w) (ws : List LegacyWallet) :
    vault.reached d (w :: ws) = [] := by
  simp only [LegacyVault.reached, takeWhile_cons, h, decide_false, if_neg Bool.false_ne_true, map_nil]

theorem tombstonesFit_congr {F : FloatText} {d d' : Disk} (h : d'.entries = d.entries) (rows : List SecretIndexEntry)
    (names : List String) (now : Nat → String) : TombstonesFit F d' rows names now ↔ TombstonesFit F d rows names now := by
  induction names generalizing d d' rows now with
  | nil => exact Iff.rfl
  | cons name _ ih =>
    rw [TombstonesFit, TombstonesFit, h]
    rcases d.entries (entryFile name) with _ | _ | _
    · exact ih h rows _
    · refine and_congr_right fun _ => ih ?_ _ _
      rw [Disk.entries_remove, Disk.entries_remove, h]
    · exact ih h rows _

/-- **What can be read after a rollback**: what could be read before, except under the names that were reached; and
nothing if a tombstone does not fit. -/
theorem rollback_reads (ws : List LegacyWallet) (now : Nat → String) (hrows : readIndexRaw host (diskOf s) = .ok rows)
    (name : String) (e : SecretEntry) :
    get host name (diskOf (exec (rollbackEach host vault ws now) s).2) = .ok e ↔
      get host name (diskOf s) = .ok e ∧ name ∉ vault.reached (diskOf s) ws ∧
        TombstonesFit host.floats (diskOf s) rows (vault.reached (diskOf s) ws) now := by
  induction ws generalizing now s rows with
  | nil => exact ⟨fun h => ⟨h, not_mem_nil, trivial⟩, And.left⟩
  | cons w ws ih =>
    rcases delete_wallet_cases vault hrows w (now 0) with
      ⟨hstop, er, hother, hexec⟩ | ⟨hpass, ⟨hfile, name', hexec⟩ | ⟨content, hfile, hexec⟩⟩
    · rw [exec_rollbackEach_of_error hexec hother, reached_cons_of_not hstop]
      exact ⟨fun h => ⟨h, not_mem_nil, trivial⟩, And.left⟩
    · -- the name has no file, so it could not be read before either
      rw [reached_cons_of_passable hpass, TombstonesFit, hfile, exec_rollbackEach_of_passed now hexec (.inr ⟨_, rfl⟩),
        ih _ hrows, mem_cons, not_or]
      refine and_congr_right fun hget => ⟨fun h => ⟨⟨?_, h.1⟩, h.2⟩, fun h => ⟨h.1.2, h.2⟩⟩
      rintro rfl
      cases hfile.symm.trans (get_eq_ok.mp hget).2.1
    · have hentries := entries_afterDelete host rows (vault.sanitizeName w.name) (now 0) s
      rw [reached_cons_of_passable hpass, TombstonesFit, hfile, exec_rollbackEach_of_passed now hexec (.inl rfl)]
      by_cases hthis : Fits host.floats (upsertRows rows (deletedRow rows (vault.sanitizeName w.name) (now 0)))
      · rw [ih _ (readIndexRaw_afterDelete.mpr ⟨rfl, hthis⟩), reached_remove vault hfile hentries,
          tombstonesFit_congr hentries, get_after_delete hrows hthis, mem_cons, not_or]
        exact ⟨fun h => ⟨h.1.1, ⟨h.1.2.symm, h.2.1⟩, hthis, h.2.2⟩,
          fun h => ⟨⟨h.1, Ne.symm h.2.1.1⟩, h.2.1.2, h.2.2.2⟩⟩
      · refine iff_of_false (fun h => ?_) fun h => hthis h.2.2.1
        rw [exec_rollbackEach_of_unreadable fun _ h => hthis (readIndexRaw_afterDelete.mp h).2] at h
        obtain ⟨-, -, -, rows', hrows', -⟩ := get_eq_ok.mp h
        exact hthis (readIndexRaw_afterDelete.mp hrows').2

/-! ## When the entries of others survive -/

/-- **After a rollback every entry that can be read and that something else than a migration wrote last can
still be read.** -/
def RollbackKeeps (host : SecretHost ι) (vault : LegacyVault) (now : Nat → String) (l : Ledger) : Prop :=
  ∀ name e, l.origin name = .other → get host name l.disk = .ok e →
    get host name (diskOf (exec (rollbackMigration host vault now) (Session.of l.disk)).2) = .ok e

/-- **A rollback keeps the entries of others exactly when** there are none, or no name it reaches is one of
theirs and the tombstones fit. -/
theorem rollback_keeps_others_iff (host : SecretHost ι) (vault : LegacyVault) (d : Disk) (history : List (LedgerStep ι))
    (now : Nat → String) :
    RollbackKeeps host vault now (Ledger.run host d history) ↔
      ∀ ws rows name, vault.listEncryptedWallets = .ok ws →
        readIndexRaw host (Ledger.run host d history).disk = .ok rows → (Ledger.run host d history).Foreign host name →
        name ∉ vault.reached (Ledger.run host d history).disk ws ∧
        TombstonesFit host.floats (Ledger.run host d history).disk rows
          (vault.reached (Ledger.run host d history).disk ws) now := by
  obtain ⟨l, hl⟩ : ∃ l, Ledger.run host d history = l := ⟨_, rfl⟩
  rw [hl, RollbackKeeps, rollbackMigration]
  rcases hlist : vault.listEncryptedWallets with e | ws
  · refine iff_of_true (fun name e' _ hget => ?_) fun ws _ _ h => nomatch h
    exact hget
  have hexec : exec (Prog.lift ((Except.ok ws).mapError fun e => .err (.vault e)) >>= fun wallets =>
      rollbackEach host vault wallets now) (Session.of l.disk) =
        exec (rollbackEach host vault ws now) (Session.of l.disk) := exec_lift_bind_of_ok rfl
  rcases hrows : readIndexRaw host l.disk with er | rows
  · refine iff_of_true (fun name e _ hget => ?_) fun ws _ _ _ h => nomatch h
    obtain ⟨-, -, -, rows, hok, -⟩ := get_eq_ok.mp hget
    cases hrows.symm.trans hok
  constructor
  · rintro hkeep ws' rows' name hws hrows' ⟨horigin, e, hget⟩
    cases hws
    cases hrows'
    exact ((rollback_reads ws now (s := Session.of l.disk) hrows name e).mp (hkeep name e horigin hget)).2
  · intro h name e horigin hget
    have hname := h ws rows name rfl rfl ⟨horigin, e, hget⟩
    exact (rollback_reads ws now (s := Session.of l.disk) hrows name e).mpr ⟨hget, hname⟩

end Run

/-! ## A store that was never migrated -/

def userHistory : List (LedgerStep Unit) := [.call (.put (plainEntry "a-b" 1 "x"))]

theorem run_userHistory :
    (Ledger.run plainHost Disk.empty userHistory).disk =
        diskOf (afterPut plainHost [] (plainEntry "a-b" 1 "x") (Session.of Disk.empty)) ∧
      (Ledger.run plainHost Disk.empty userHistory).origin "a-b" = .other := by
  have hput : exec (put plainHost (plainEntry "a-b" 1 "x")) (Session.of Disk.empty) =
      (.ok (), afterPut plainHost [] (plainEntry "a-b" 1 "x") (Session.of Disk.empty)) :=
    exec_put_fresh validName_dashed rfl
  have hafter : StoreOp.after plainHost (Session.of Disk.empty) (.put (plainEntry "a-b" 1 "x")) =
      afterPut plainHost [] (plainEntry "a-b" 1 "x") (Session.of Disk.empty) := by
    rw [StoreOp.after, StoreOp.prog, hput]
  exact ⟨congrArg diskOf hafter, Ledger.origin_record_other _ _ rfl⟩

def userRows : List SecretIndexEntry := [(plainEntry "a-b" 1 "x").toIndexEntry]

theorem readIndexRaw_user :
    readIndexRaw plainHost (diskOf (afterPut plainHost [] (plainEntry "a-b" 1 "x") (Session.of Disk.empty))) =
      .ok userRows :=
  readIndexRaw_afterPut.mpr ⟨rfl, by decide +kernel⟩

/-- A rollback where nothing was ever migrated deletes the user's entry, since a legacy wallet's name sanitizes
to the entry's. -/
theorem rollback_deletes_user_entry :
    (Ledger.run plainHost Disk.empty userHistory).origin "a-b" = .other ∧
    get plainHost "a-b" (Ledger.run plainHost Disk.empty userHistory).disk = .ok (plainEntry "a-b" 1 "x") ∧
    get plainHost "a-b" (diskOf (exec (rollbackMigration plainHost (vaultOf [spacedWallet]) fun _ => "2")
      (Session.of (Ledger.run plainHost Disk.empty userHistory).disk)).2) = .error (.err (.notFound "a-b")) := by
  obtain ⟨hdisk, horigin⟩ := run_userHistory
  rw [hdisk]
  have hread := readIndexRaw_user
  obtain ⟨d, hd⟩ : ∃ d, diskOf (afterPut plainHost [] (plainEntry "a-b" 1 "x") (Session.of Disk.empty)) = d := ⟨_, rfl⟩
  have hfile : d.entries (entryFile "a-b") = some (.regular (some (plainEntry "a-b" 1 "x"))) := by
    rw [← hd, afterPut, diskOf_push, diskOf_push, Disk.entries_index, Disk.entries_entry]
    exact Function.update_self _ _ _
  rw [hd] at hread ⊢
  refine ⟨horigin, ?_, get_of_no_file validName_dashed ?_⟩
  · refine get_eq_ok.mpr ⟨validName_dashed, hfile, rfl, userRows, hread, checkAgreement_upsertRows [] _⟩
  · have hname : (vaultOf [spacedWallet]).sanitizeName spacedWallet.name = "a-b" := by decide +kernel
    have hlist : (vaultOf [spacedWallet]).listEncryptedWallets = .ok [spacedWallet] := rfl
    have hexec : exec (rollbackMigration plainHost (vaultOf [spacedWallet]) fun _ => "2") (Session.of d) =
        exec (rollbackEach plainHost (vaultOf [spacedWallet]) [spacedWallet] fun _ => "2") (Session.of d) := by
      exact exec_lift_bind_of_ok rfl
    have hread' : readIndexRaw plainHost (diskOf (Session.of d)) = .ok userRows := hread
    rcases delete_wallet_cases (vaultOf [spacedWallet]) hread' spacedWallet "2" with
      ⟨hstop, -⟩ | ⟨-, ⟨hnone, -⟩ | ⟨content, -, hdelete⟩⟩
    · refine absurd ⟨?_, fun resolves h => ?_⟩ hstop
      · rw [hname]
        exact validName_dashed
      · cases hfile.symm.trans h
    · cases hfile.symm.trans hnone
    · rw [hexec, exec_rollbackEach_of_passed (fun _ => "2") hdelete (.inl rfl), hname]
      change (diskOf (afterDelete plainHost userRows "a-b" "2" (Session.of d))).entries _ = _
      rw [entries_afterDelete, Disk.entries_remove, Function.update_self]

end OneCipher.Secret
