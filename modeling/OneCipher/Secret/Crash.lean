import OneCipher.Secret.Limits
import OneCipher.Secret.Runs

/-!
# OneCipher.Secret.Crash — crashes inside `put` and `rename`

Each write of the store happens whole or not at all, but an operation makes several: `put` writes the entry file
and then the index, `rename` the new entry file, a note, the unlinking of the old file, and the index twice.  `get`
compares the file with its row, so what a crash leaves behind can be refused as tampering.
-/

namespace OneCipher.Secret

open JsonText
open Disk (entries_entry entries_index)

section Crash

variable {ι : Type} {host : SecretHost ι} {rows : List SecretIndexEntry} {d : Disk} {v : Vault} {identity : ι}

/-- A read of the name succeeds and decrypts to the payload. -/
def Yields (host : SecretHost ι) (identity : ι) (name : String) (payload : SecretPayload) (d : Disk) : Prop :=
  ∃ e, get host name d = .ok e ∧ e.decrypt host identity = .ok payload

def crashDisk (m : StoreProg Unit) (k : Nat) (d : Disk) : Disk :=
  (Prog.exec m (Session.of d)).2.crashedAfter Disk.apply k

variable {recipients : List String} {e oldEntry : SecretEntry} {payload : SecretPayload} {new : String}

theorem not_yields_of_no_file {name : String} (h : d.entries (entryFile name) = none) :
    ¬ Yields host identity name payload d := by
  rintro ⟨e, hget, -⟩
  have hfile := (get_eq_ok.mp hget).2.1
  rw [h] at hfile
  cases hfile

theorem yields_iff_of_file {payload' : SecretPayload} (hv : ValidName e.name)
    (hfile : d.entries (entryFile e.name) = some (.regular (some e))) (hdec : e.decrypt host identity = .ok payload) :
    Yields host identity e.name payload' d ↔
      payload = payload' ∧ ∃ rows, readIndexRaw host d = .ok rows ∧ checkAgreement rows e.name e = .ok () := by
  constructor
  · rintro ⟨e', hget, hdec'⟩
    obtain ⟨-, hfile', -, hrest⟩ := get_eq_ok.mp hget
    cases hfile.symm.trans hfile'
    exact ⟨Except.ok.inj (hdec.symm.trans hdec'), hrest⟩
  · rintro ⟨rfl, hrest⟩
    exact ⟨e, get_eq_ok.mpr ⟨hv, hfile, rfl, hrest⟩, hdec⟩

theorem Refines.yields (hr : Refines host rows d v) {name : String} (hlive : v.liveAt name = some e)
    (hdec : e.decrypt host identity = .ok payload) :
    Yields host identity name payload d := ⟨e, hr.get_of_live hlive, hdec⟩

theorem exists_readIndex_iff {P : List SecretIndexEntry → Prop} :
    (∃ rows', readIndex host.floats (indexText host.floats rows) = .ok rows' ∧ P rows') ↔
      Fits host.floats rows ∧ P rows := by
  constructor
  · rintro ⟨rows', hrows', hp⟩
    obtain ⟨rfl, hfit⟩ := readIndex_indexText.mp hrows'
    exact ⟨hfit, hp⟩
  · rintro ⟨hfit, hp⟩
    exact ⟨rows, readIndex_indexText.mpr ⟨rfl, hfit⟩, hp⟩

theorem checkAgreement_upsertRows (rows : List SecretIndexEntry) (e : SecretEntry) :
    checkAgreement (upsertRows rows e.toIndexEntry) e.name e = .ok () := by
  refine checkAgreement_eq_ok.mpr fun row hrow => ?_
  rw [rowOf_upsertRows, if_pos e.name_toIndexEntry, Option.some_inj] at hrow
  rw [← hrow]
  exact ⟨rfl, .inr (.inr rfl)⟩

/-! ## `put` -/

theorem yields_between_put_writes (hr : Refines host rows d v) {old : SecretEntry}
    (hlive : v.liveAt e.name = some old) (hgen : e.generation = nextOf rows e.name) {new : SecretPayload}
    (hnew : e.decrypt host identity = .ok new) :
    Yields host identity e.name payload (d.apply (.entry (entryFile e.name) e)) ↔
      new = payload ∧ (old.generation = 0 ∨ old.generation = maxGeneration) := by
  obtain ⟨hrow, hslot⟩ := hr.row_of_live hlive
  have hv : ValidName e.name := hr.valid _ _ hslot
  have hfile : (d.apply (.entry (entryFile e.name) e)).entries (entryFile e.name) = some (.regular (some e)) := by
    rw [entries_entry, Function.update_self]
  have hnat : e.generation.toNat = min (old.generation.toNat + 1) (2 ^ 64 - 1) := by
    rw [hgen, toNat_nextOf, hr.floorOf_of_live hlive]
  have hmax : old.generation = maxGeneration ↔ old.generation.toNat = 2 ^ 64 - 1 := by
    rw [← UInt64.toNat_inj]
    rfl
  rw [yields_iff_of_file hv hfile hnew, readIndexRaw_entry, hmax]
  refine and_congr_right fun _ => ?_
  constructor
  · rintro ⟨rows', hrows', hagree⟩
    obtain rfl : rows = rows' := Except.ok.inj (hr.read.symm.trans hrows')
    obtain ⟨-, hzero | hzero | heq⟩ := checkAgreement_eq_ok.mp hagree _ hrow
    · exact .inl hzero
    · exact absurd (hgen.symm.trans hzero) (nextOf_ne_zero rows e.name)
    · have heq' : old.generation.toNat = e.generation.toNat := congrArg UInt64.toNat heq
      exact .inr (by omega)
  · intro hsat
    refine ⟨rows, hr.read, checkAgreement_eq_ok.mpr fun row hrow' => ?_⟩
    rw [hrow] at hrow'
    cases hrow'
    refine ⟨rfl, hsat.imp id fun hsat => .inr (UInt64.toNat_inj.mp ?_)⟩
    change old.generation.toNat = _
    omega

theorem yields_after_put (hv : ValidName e.name) {new : SecretPayload} (hnew : e.decrypt host identity = .ok new) :
    Yields host identity e.name payload ((d.apply (.entry (entryFile e.name) e)).apply
        (.index (indexText host.floats (upsertRows rows e.toIndexEntry)))) ↔
      new = payload ∧ Fits host.floats (upsertRows rows e.toIndexEntry) := by
  have hfile : ((d.apply (.entry (entryFile e.name) e)).apply
      (.index (indexText host.floats (upsertRows rows e.toIndexEntry)))).entries (entryFile e.name) =
        some (.regular (some e)) := by
    rw [entries_index, entries_entry, Function.update_self]
  rw [yields_iff_of_file hv hfile hnew, readIndexRaw_index, exists_readIndex_iff,
    and_iff_left (checkAgreement_upsertRows rows e)]

theorem crashDisk_put_refused (hrows : readIndexRaw host d = .ok rows) (hgen : e.generation ≠ nextOf rows e.name)
    (k : Nat) : crashDisk (put host e) k d = d := by
  rw [crashDisk]
  rcases put_cases host e (Session.of d) with ⟨er, hexec, -⟩ | ⟨rows', -, hrows', hgen', -⟩
  · rw [hexec, Session.crashedAfter]
    exact congrArg (List.foldl Disk.apply d) List.take_nil
  · obtain rfl : rows = rows' := Except.ok.inj (hrows.symm.trans hrows')
    exact absurd hgen' hgen

/-- **A crash inside a `put` over a live name leaves the old or the new payload readable exactly when** the
call is refused, no write was made, one write was made and the old row's generation is 0 (a legacy row) or
exhausted, or both were made and the rows fit. -/
theorem put_crash_iff (hr : Refines host rows d v) {name : String} {old e : SecretEntry}
    (hlive : v.liveAt name = some old) (hname : e.name = name) {oldPayload newPayload : SecretPayload}
    (hold : old.decrypt host identity = .ok oldPayload) (hnew : e.decrypt host identity = .ok newPayload) (k : Nat) :
    (Yields host identity name oldPayload (crashDisk (put host e) k d) ∨
      Yields host identity name newPayload (crashDisk (put host e) k d)) ↔
    e.generation ≠ nextOf rows name ∨ k = 0 ∨ (k = 1 ∧ (old.generation = 0 ∨ old.generation = maxGeneration)) ∨
      (2 ≤ k ∧ Fits host.floats (upsertRows rows e.toIndexEntry)) := by
  subst hname
  have hv : ValidName e.name := hr.valid _ _ (hr.row_of_live hlive).2
  have hkept : Yields host identity e.name oldPayload d := hr.yields hlive hold
  by_cases hgen : e.generation = nextOf rows e.name
  · have hexec : Prog.exec (put host e) (Session.of d) = (.ok (), afterPut host rows e (Session.of d)) :=
      exec_put hv hr.read hgen
    rw [crashDisk, hexec]
    rcases k with _ | _ | k
    · exact ⟨fun _ => .inr (.inl rfl), fun _ => .inl hkept⟩
    · have hdisk : (afterPut host rows e (Session.of d)).crashedAfter Disk.apply 1 =
          d.apply (.entry (entryFile e.name) e) := rfl
      rw [hdisk, yields_between_put_writes hr hlive hgen hnew, yields_between_put_writes hr hlive hgen hnew,
        ← or_and_right, and_iff_right (.inr rfl), or_iff_right (not_not.mpr hgen)]
      simp
    · have hdisk : (afterPut host rows e (Session.of d)).crashedAfter Disk.apply (k + 2) =
          (d.apply (.entry (entryFile e.name) e)).apply
            (.index (indexText host.floats (upsertRows rows e.toIndexEntry))) :=
        Session.crashedAfter_of_le Disk.apply (Nat.le_add_left 2 k)
      rw [hdisk, yields_after_put hv hnew, yields_after_put hv hnew, ← or_and_right, and_iff_right (.inr rfl),
        or_iff_right (not_not.mpr hgen)]
      simp
  · rw [crashDisk_put_refused hr.read hgen]
    exact ⟨fun _ => .inl hgen, fun _ => .inl hkept⟩

/-! ## `rename` -/

/-- The identity opens what is encrypted to the recipients. -/
def Opens (host : SecretHost ι) (identity : ι) (recipients : List String) : Prop :=
  ∀ seed m c, host.encrypt recipients seed m = .ok c → host.decrypt identity c = .ok m

def movedEntry (rows : List SecretIndexEntry) (oldEntry : SecretEntry) (new : String) (draw : Draw) (c : Bytes) :
    SecretEntry :=
  renamed oldEntry
    ⟨draw.id, new, oldEntry.itemType, draw.now, draw.now, oldEntry.metadata, nextOf rows new, c⟩

theorem Refines.checkRename_of_sealed (hr : Refines host rows d v) {old : String}
    (hlive : v.liveAt old = some oldEntry) (hfree : v.liveAt new = none)
    (hdec : oldEntry.decrypt host identity = .ok payload) {draw : RenameDraw} {c : Bytes} (hv : ValidName new)
    (hseal : sealPayload host new (nextOf rows new) payload recipients draw.entry.seed = .ok c) :
    checkRename host old new identity recipients draw d =
      .ok (some (oldEntry, movedEntry rows oldEntry new draw.entry c)) := by
  refine checkRename_eq_some.mpr ⟨hr.valid _ _ (hr.row_of_live hlive).2, hv, ?_, ?_⟩
  · rintro rfl
    rw [hlive] at hfree
    cases hfree
  · refine prepareRename_eq_ok.mpr ⟨?_, ?_, hr.get_of_live hlive, hv, payload, hdec, rows, hr.read, ?_⟩
    · rw [hr.exists_eq, hlive]
      rfl
    · rw [hr.exists_eq, hfree]
      rfl
    · exact ⟨_, SecretEntry.new_eq_ok.mpr ⟨hv, nextOf_ne_zero rows new, c, hseal, rfl⟩, rfl⟩

theorem crashDisk_rename {old : String} {draw : RenameDraw} {newEntry : SecretEntry}
    (h : checkRename host old new identity recipients draw d = .ok (some (oldEntry, newEntry))) (k : Nat) :
    crashDisk (rename host old new identity recipients draw) k d =
      crashDisk (moveEntry host old new oldEntry newEntry draw.tombstonedAt) k d := by
  have hlook : checkRename host old new identity recipients draw (diskOf (Session.of d)) =
      .ok (some (oldEntry, newEntry)) := h
  rw [crashDisk, crashDisk, rename, exec_look_of_ok hlook]

theorem Refines.crashDisk_rename_of_refused (hr : Refines host rows d v) {old : String}
    (hlive : v.liveAt old = some oldEntry) (hdec : oldEntry.decrypt host identity = .ok payload) {draw : RenameDraw}
    (h : ¬ ValidName new ∨ ∀ c, sealPayload host new (nextOf rows new) payload recipients draw.entry.seed ≠ .ok c)
    (k : Nat) : crashDisk (rename host old new identity recipients draw) k d = d := by
  have hnone : ∀ s : StoreSession, s = Session.of d → s.crashedAfter Disk.apply k = d := by
    rintro s rfl
    exact congrArg (List.foldl Disk.apply d) List.take_nil
  rw [crashDisk]
  rcases rename_cases host old new identity recipients draw (Session.of d) with
    ⟨er, hexec, -⟩ | ⟨hexec, -⟩ | ⟨oldEntry', newEntry, hsome, -⟩
  · rw [hexec]
    exact hnone _ rfl
  · rw [hexec]
    exact hnone _ rfl
  · obtain ⟨-, hv, -, hprep⟩ := checkRename_eq_some.mp hsome
    obtain ⟨-, -, hget, -, payload', hdec', rows', hrows', e', he', -⟩ := prepareRename_eq_ok.mp hprep
    obtain rfl : rows = rows' := Except.ok.inj (hr.read.symm.trans hrows')
    obtain rfl : oldEntry = oldEntry' := Except.ok.inj ((hr.get_of_live hlive).symm.trans hget)
    obtain rfl : payload = payload' := Except.ok.inj (hdec.symm.trans hdec')
    obtain ⟨-, -, c, hc, -⟩ := SecretEntry.new_eq_ok.mp he'
    rcases h with hv' | hseal
    · exact absurd hv hv'
    · exact absurd hc (hseal c)

theorem decrypt_movedEntry {draw : Draw} {c : Bytes} (hv : ValidName new) (hopens : Opens host identity recipients)
    (hread : host.readPayload (host.payloadJson payload) = some payload)
    (hseal : sealPayload host new (nextOf rows new) payload recipients draw.seed = .ok c) :
    (movedEntry rows oldEntry new draw c).decrypt host identity = .ok payload := by
  rw [sealPayload_of_embeddable hv.embeddable, Result.mapError_eq_ok] at hseal
  exact decrypt_of_sealed hv.embeddable (hopens _ _ _ hseal) hread

theorem Refines.checkAgreement_of_dead (hr : Refines host rows d v) {n : SecretEntry} (hfree : v.liveAt n.name = none)
    {rows' : List SecretIndexEntry} (hsame : rowOf rows' n.name = rowOf rows n.name) :
    checkAgreement rows' n.name n = .ok () ↔ rowOf rows n.name = none := by
  rw [checkAgreement_eq_ok, hsame]
  constructor
  · intro h
    rcases hrow : rowOf rows n.name with _ | row
    · rfl
    · have hlive := (h row hrow).1
      rw [hr.row_of_dead hfree hrow] at hlive
      cases hlive
  · intro hnone row hrow
    rw [hnone] at hrow
    cases hrow

section Move

variable {old new now : String} {oldEntry n : SecretEntry}

variable {k : Nat}

theorem crashedAfter_moveEntry_of_le (hrows : readIndexRaw host d = .ok rows) (hk : k ≤ 4) :
    crashDisk (moveEntry host old new oldEntry n now) k d =
      (afterBury host rows old new now oldEntry n (Session.of d)).crashedAfter Disk.apply k := by
  have hlen : (afterBury host rows old new now oldEntry n (Session.of d)).writes.length = 4 := rfl
  rw [crashDisk]
  rcases exec_moveEntry old new now oldEntry n (s := Session.of d) hrows with ⟨-, hmove⟩ | ⟨-, er, hmove⟩
  · rw [hmove, afterRename, Session.crashedAfter, Session.writes_push, Session.writes_push, List.append_assoc,
      List.take_append_of_le_length (by omega)]
    rfl
  · rw [hmove]

theorem entries_afterUnlink (hne : old ≠ n.name) {s : StoreSession} :
    (diskOf (afterUnlink old n.name n s)).entries (entryFile old) = none ∧
    (diskOf (afterUnlink old n.name n s)).entries (entryFile n.name) = some (.regular (some n)) := by
  have hfiles : entryFile n.name ≠ entryFile old := fun hf => hne (entryFile_inj hf).symm
  rw [afterUnlink, diskOf_push, diskOf_push, diskOf_push, Disk.entries_remove, Disk.entries_wal, entries_entry]
  exact ⟨Function.update_self .., by rw [Function.update_of_ne hfiles, Function.update_self]⟩

theorem crashDisk_moveEntry (hrows : readIndexRaw host d = .ok rows) (hk : 3 ≤ k) :
    crashDisk (moveEntry host old new oldEntry n now) k d = if k = 3 then diskOf (afterUnlink old new n (Session.of d))
      else if k = 4 ∨ ¬ Fits host.floats (buriedRows rows oldEntry old now) then
        diskOf (afterBury host rows old new now oldEntry n (Session.of d))
      else if k = 5 then (diskOf (afterBury host rows old new now oldEntry n (Session.of d))).apply
        (.index (indexText host.floats (upsertRows (buriedRows rows oldEntry old now) n.toIndexEntry)))
      else diskOf (afterRename host rows old new now oldEntry n (Session.of d)) := by
  by_cases h3 : k = 3
  · rw [if_pos h3, crashedAfter_moveEntry_of_le hrows (by omega), h3]
    rfl
  rw [if_neg h3]
  by_cases h4 : k = 4
  · rw [if_pos (.inl h4), crashedAfter_moveEntry_of_le hrows (by omega), h4]
    rfl
  rw [crashDisk]
  rcases exec_moveEntry old new now oldEntry n (s := Session.of d) hrows with ⟨hfit, hmove⟩ | ⟨hfit, er, hmove⟩
  · rw [hmove, if_neg (not_or.mpr ⟨h4, not_not.mpr hfit⟩)]
    by_cases h5 : k = 5
    · rw [if_pos h5, h5]
      rfl
    · rw [if_neg h5]
      exact Session.crashedAfter_of_le Disk.apply (show 6 ≤ k by omega)
  · rw [hmove, if_pos (.inr hfit)]
    exact Session.crashedAfter_of_le Disk.apply (show 4 ≤ k by omega)

theorem entries_crash_after_unlink (hrows : readIndexRaw host d = .ok rows) (hk : 3 ≤ k) :
    (crashDisk (moveEntry host old n.name oldEntry n now) k d).entries =
      (diskOf (afterUnlink old n.name n (Session.of d))).entries := by
  rw [crashDisk_moveEntry hrows hk]
  split_ifs
  · rfl
  · rw [afterBury, diskOf_push, entries_index]
  · rw [entries_index, afterBury, diskOf_push, entries_index]
  · rw [afterRename, diskOf_push, diskOf_push, Disk.entries_removeWal, entries_index, afterBury, diskOf_push,
      entries_index]

theorem readIndexRaw_crash_after_unlink (hrows : readIndexRaw host d = .ok rows) (hk : 3 ≤ k) :
    readIndexRaw host (crashDisk (moveEntry host old new oldEntry n now) k d) = if k = 3 then .ok rows
      else if k = 4 ∨ ¬ Fits host.floats (buriedRows rows oldEntry old now) then
        readIndex host.floats (indexText host.floats (buriedRows rows oldEntry old now))
      else readIndex host.floats
        (indexText host.floats (upsertRows (buriedRows rows oldEntry old now) n.toIndexEntry)) := by
  rw [crashDisk_moveEntry hrows hk]
  split_ifs
  · rw [afterUnlink, diskOf_push, diskOf_push, diskOf_push, readIndexRaw_remove, readIndexRaw_wal, readIndexRaw_entry,
      diskOf_of, hrows]
  · rw [afterBury, diskOf_push, readIndexRaw_index]
  · rw [readIndexRaw_index]
  · rw [afterRename, diskOf_push, diskOf_push, readIndexRaw_removeWal, readIndexRaw_index]

theorem get_before_unlink (hne : old ≠ new) (hrows : readIndexRaw host d = .ok rows) (hk : k ≤ 2) :
    get host old (crashDisk (moveEntry host old new oldEntry n now) k d) = get host old d := by
  have hfiles : entryFile old ≠ entryFile new := fun hf => hne (entryFile_inj hf)
  rw [crashedAfter_moveEntry_of_le hrows (by omega)]
  rcases k with _ | _ | _ | k
  · rfl
  · have hdisk : (afterBury host rows old new now oldEntry n (Session.of d)).crashedAfter Disk.apply 1 =
        d.apply (.entry (entryFile new) n) := rfl
    rw [hdisk]
    exact get_congr (by rw [entries_entry, Function.update_of_ne hfiles]) (readIndexRaw_entry ..)
  · have hdisk : (afterBury host rows old new now oldEntry n (Session.of d)).crashedAfter Disk.apply 2 =
        (d.apply (.entry (entryFile new) n)).apply (.wal (walText old new)) := rfl
    rw [hdisk]
    refine get_congr ?_ ?_
    · rw [Disk.entries_wal, entries_entry, Function.update_of_ne hfiles]
    · rw [readIndexRaw_wal, readIndexRaw_entry]
  · omega

theorem Refines.yields_new_iff (hr : Refines host rows d v) (hne : old ≠ n.name) (hv : ValidName n.name)
    (hfree : v.liveAt n.name = none) (hdec : n.decrypt host identity = .ok payload) (hk : 3 ≤ k) :
    Yields host identity n.name payload (crashDisk (moveEntry host old n.name oldEntry n now) k d) ↔
      (rowOf rows n.name = none ∧ (k = 3 ∨ k = 4 ∧ Fits host.floats (buriedRows rows oldEntry old now))) ∨
      (5 ≤ k ∧ Fits host.floats (buriedRows rows oldEntry old now) ∧
        Fits host.floats (upsertRows (buriedRows rows oldEntry old now) n.toIndexEntry)) := by
  have hfile : (crashDisk (moveEntry host old n.name oldEntry n now) k d).entries (entryFile n.name) =
      some (.regular (some n)) := by
    rw [entries_crash_after_unlink hr.read hk]
    exact (entries_afterUnlink hne).2
  have hsame : rowOf (buriedRows rows oldEntry old now) n.name = rowOf rows n.name := by
    rw [buriedRows, rowOf_upsertRows]
    exact if_neg hne
  rw [yields_iff_of_file hv hfile hdec, and_iff_right rfl, readIndexRaw_crash_after_unlink hr.read hk]
  by_cases h3 : k = 3
  · rw [if_pos h3, or_iff_left (by omega), and_iff_left (.inl h3), ← hr.checkAgreement_of_dead hfree rfl]
    simp only [Except.ok.injEq, exists_eq_left']
  rw [if_neg h3, or_iff_right h3]
  by_cases h4 : k = 4
  · rw [if_pos (.inl h4), exists_readIndex_iff, hr.checkAgreement_of_dead hfree hsame, or_iff_left (by omega),
      and_iff_right h4, and_comm]
  have h5 : 5 ≤ k := by omega
  by_cases hfit : Fits host.floats (buriedRows rows oldEntry old now)
  · rw [if_neg (not_or.mpr ⟨h4, not_not.mpr hfit⟩), exists_readIndex_iff, or_iff_right (fun h => h4 h.2.1),
      and_iff_right h5, and_iff_right hfit, and_iff_left (checkAgreement_upsertRows _ n)]
  · rw [if_pos (.inr hfit), exists_readIndex_iff, or_iff_right (fun h => h4 h.2.1)]
    exact iff_of_false (fun h => hfit h.1) fun h => hfit h.2.1

end Move

/-- **A crash inside a rename leaves the payload readable under one of the names exactly when** the call is
refused, the old file was not yet unlinked, the new name has no row (so that nothing contradicts its file)
and the index still reads, or all of the index was written and fits. -/
theorem rename_crash_iff (hr : Refines host rows d v) {old new : String} {oldEntry : SecretEntry}
    (hlive : v.liveAt old = some oldEntry) (hfree : v.liveAt new = none) {payload : SecretPayload}
    (hdec : oldEntry.decrypt host identity = .ok payload) {recipients : List String}
    (hopens : Opens host identity recipients)
    (hread : host.readPayload (host.payloadJson payload) = some payload) (draw : RenameDraw) (k : Nat) :
    (Yields host identity old payload (crashDisk (rename host old new identity recipients draw) k d) ∨
      Yields host identity new payload (crashDisk (rename host old new identity recipients draw) k d)) ↔
    ¬ ValidName new ∨ (∀ c, sealPayload host new (nextOf rows new) payload recipients draw.entry.seed ≠ .ok c) ∨ k ≤ 2 ∨
      (rowOf rows new = none ∧ (k = 3 ∨ k = 4 ∧ Fits host.floats (buriedRows rows oldEntry old draw.tombstonedAt))) ∨
      (5 ≤ k ∧ Fits host.floats (buriedRows rows oldEntry old draw.tombstonedAt) ∧
        Fits host.floats (upsertRows (buriedRows rows oldEntry old draw.tombstonedAt)
          (renamedRow rows oldEntry new draw.entry.now))) := by
  have hkept : Yields host identity old payload d := hr.yields hlive hdec
  have hne : old ≠ new := by
    rintro rfl
    rw [hlive] at hfree
    cases hfree
  by_cases hrefused : ¬ ValidName new ∨
      ∀ c, sealPayload host new (nextOf rows new) payload recipients draw.entry.seed ≠ .ok c
  · rw [hr.crashDisk_rename_of_refused hlive hdec hrefused k]
    exact ⟨fun _ => hrefused.imp id .inl, fun _ => .inl hkept⟩
  have hadmitted := not_or.mp hrefused
  obtain ⟨c, hc⟩ := not_forall.mp hadmitted.2
  have hv : ValidName new := not_not.mp hadmitted.1
  have hseal := not_not.mp hc
  obtain ⟨n, hmove, rfl, hrow, hdec'⟩ : ∃ n : SecretEntry,
      crashDisk (rename host old new identity recipients draw) k d =
        crashDisk (moveEntry host old new oldEntry n draw.tombstonedAt) k d ∧ n.name = new ∧
      n.toIndexEntry = renamedRow rows oldEntry new draw.entry.now ∧ n.decrypt host identity = .ok payload := by
    refine ⟨movedEntry rows oldEntry new draw.entry c, ?_, rfl, rfl, decrypt_movedEntry hv hopens hread hseal⟩
    exact crashDisk_rename (hr.checkRename_of_sealed hlive hfree hdec hv hseal) k
  rw [hmove]
  by_cases hk : k ≤ 2
  · refine ⟨fun _ => .inr (.inr (.inl hk)), fun _ => .inl ?_⟩
    obtain ⟨e, hget, hd⟩ := hkept
    exact ⟨e, (get_before_unlink hne hr.read hk).trans hget, hd⟩
  · have hk3 : 3 ≤ k := by omega
    have hgone : ¬ Yields host identity old payload
        (crashDisk (moveEntry host old n.name oldEntry n draw.tombstonedAt) k d) := by
      refine not_yields_of_no_file ?_
      rw [entries_crash_after_unlink hr.read hk3]
      exact (entries_afterUnlink hne).1
    rw [or_iff_right hgone, hr.yields_new_iff hne hv hfree hdec' hk3, hrow, or_iff_right (not_not.mpr hv),
      or_iff_right hadmitted.2, or_iff_right hk]

end Crash

/-! ## Concrete crashes -/

theorem put_crash_iff_unwritten :
    Yields plainHost () "a" ⟨"x", none, none⟩
        (crashDisk (put plainHost (plainEntry "a" 2 "y")) 0 (diskOf oneSession)) ∨
      Yields plainHost () "a" ⟨"y", none, none⟩
        (crashDisk (put plainHost (plainEntry "a" 2 "y")) 0 (diskOf oneSession)) :=
  (put_crash_iff refines_one liveAt_one rfl (decrypt_plainEntry validName_a 1 "x")
    (decrypt_plainEntry validName_a 2 "y") 0).mpr (.inr (.inl rfl))

/-- A crash between the two writes of a `put`: the entry is refused as tampered. -/
theorem put_crash_between_writes :
    Refines plainHost oneRows (diskOf oneSession) oneVault ∧
    oneVault.liveAt "a" = some (plainEntry "a" 1 "x") ∧
    (plainEntry "a" 2 "y").generation = nextOf oneRows "a" ∧
    get plainHost "a" (crashDisk (put plainHost (plainEntry "a" 2 "y")) 1 (diskOf oneSession)) =
      .error (.err (.tampered "a" "generation mismatch")) := by
  have hexec : Prog.exec (put plainHost (plainEntry "a" 2 "y")) (Session.of (diskOf oneSession)) =
      (.ok (), afterPut plainHost oneRows (plainEntry "a" 2 "y") (Session.of (diskOf oneSession))) :=
    exec_put validName_a refines_one.read rfl
  have hdisk : crashDisk (put plainHost (plainEntry "a" 2 "y")) 1 (diskOf oneSession) =
      (diskOf oneSession).apply (.entry (entryFile "a") (plainEntry "a" 2 "y")) := by
    rw [crashDisk, hexec]
    rfl
  have hread : readIndexRaw plainHost ((diskOf oneSession).apply (.entry (entryFile "a") (plainEntry "a" 2 "y"))) =
      .ok oneRows := by
    rw [readIndexRaw_entry, refines_one.read]
  refine ⟨refines_one, liveAt_one, rfl, ?_⟩
  rw [hdisk]
  refine (get_of_file (e := plainEntry "a" 2 "y") validName_a ?_ hread).trans rfl
  rw [entries_entry]
  exact Function.update_self ..

/-- The store with the entry `a` and a deleted `b`. -/
def buriedSession : StoreSession :=
  afterDelete plainHost (upsertRows oneRows (plainEntry "b" 1 "z").toIndexEntry) "b" "1"
    (afterPut plainHost oneRows (plainEntry "b" 1 "z") oneSession)

def buriedIndex : List SecretIndexEntry :=
  upsertRows (upsertRows oneRows (plainEntry "b" 1 "z").toIndexEntry)
    (deletedRow (upsertRows oneRows (plainEntry "b" 1 "z").toIndexEntry) "b" "1")

def buriedVault : Vault := (oneVault.write (plainEntry "b" 1 "z")).bury "b"

theorem refines_buried : Refines plainHost buriedIndex (diskOf buriedSession) buriedVault := by
  have hfit : Fits plainHost.floats (upsertRows oneRows (plainEntry "b" 1 "z").toIndexEntry) := by decide +kernel
  have hfit' : Fits plainHost.floats buriedIndex := by decide +kernel
  have hput := refines_one.after_put (e := plainEntry "b" 1 "z") validName_b hfit
  have hlive : (oneVault.write (plainEntry "b" 1 "z")).liveAt "b" = some (plainEntry "b" 1 "z") := rfl
  exact hput.after_delete hlive "1" hfit'

theorem liveAt_buried : buriedVault.liveAt "a" = some (plainEntry "a" 1 "x") ∧ buriedVault.liveAt "b" = none :=
  ⟨rfl, rfl⟩

def sampleDraw : RenameDraw := ⟨⟨"2", "2", 0⟩, "2"⟩

theorem opens_plainHost : Opens plainHost () [] := by
  intro seed m c hc
  cases hc
  rfl

theorem rename_crash_iff_unwritten :
    Yields plainHost () "a" ⟨"x", none, none⟩
        (crashDisk (rename plainHost "a" "b" () [] sampleDraw) 0 (diskOf buriedSession)) ∨
      Yields plainHost () "b" ⟨"x", none, none⟩
        (crashDisk (rename plainHost "a" "b" () [] sampleDraw) 0 (diskOf buriedSession)) :=
  (rename_crash_iff refines_buried liveAt_buried.1 liveAt_buried.2 (decrypt_plainEntry validName_a 1 "x")
    opens_plainHost (readPayload_plainHost "x") sampleDraw 0).mpr (.inr (.inr (.inl (Nat.zero_le 2))))

/-- A crash of a rename onto a deleted name, after the old file is unlinked: the one name has no file and
the other's is refused as resurrected. -/
theorem rename_crash_loses_both :
    Refines plainHost buriedIndex (diskOf buriedSession) buriedVault ∧
    buriedVault.liveAt "a" = some (plainEntry "a" 1 "x") ∧ buriedVault.liveAt "b" = none ∧
    get plainHost "a" (crashDisk (rename plainHost "a" "b" () [] sampleDraw) 3 (diskOf buriedSession)) =
      .error (.err (.notFound "a")) ∧
    get plainHost "b" (crashDisk (rename plainHost "a" "b" () [] sampleDraw) 3 (diskOf buriedSession)) =
      .error (.err (.tampered "b" "deleted entry resurrected")) := by
  obtain ⟨c, hseal⟩ : ∃ c, sealPayload plainHost "b" (nextOf buriedIndex "b") ⟨"x", none, none⟩ []
      sampleDraw.entry.seed = .ok c := ⟨_, sealPayload_of_embeddable validName_b.embeddable _ _ _ _⟩
  have hcheck := refines_buried.checkRename_of_sealed liveAt_buried.1 liveAt_buried.2
    (decrypt_plainEntry validName_a 1 "x") validName_b hseal
  obtain ⟨n, hname, hn⟩ : ∃ n : SecretEntry, n.name = "b" ∧
      movedEntry buriedIndex (plainEntry "a" 1 "x") "b" sampleDraw.entry c = n := ⟨_, rfl, rfl⟩
  rw [hn] at hcheck
  have hdisk : crashDisk (rename plainHost "a" "b" () [] sampleDraw) 3 (diskOf buriedSession) =
      diskOf (afterUnlink "a" n.name n (Session.of (diskOf buriedSession))) := by
    rw [crashDisk_rename hcheck, crashDisk_moveEntry refines_buried.read (Nat.le_refl 3), if_pos rfl, hname]
  have hne : "a" ≠ n.name := by
    rw [hname]
    decide
  obtain ⟨hgone, hfile⟩ := entries_afterUnlink hne (s := Session.of (diskOf buriedSession))
  have hread : readIndexRaw plainHost (diskOf (afterUnlink "a" n.name n (Session.of (diskOf buriedSession)))) =
      .ok buriedIndex := by
    rw [afterUnlink, diskOf_push, diskOf_push, diskOf_push, readIndexRaw_remove, readIndexRaw_wal, readIndexRaw_entry,
      diskOf_of, refines_buried.read]
  refine ⟨refines_buried, liveAt_buried.1, liveAt_buried.2, ?_, ?_⟩
  · rw [hdisk]
    exact get_of_no_file validName_a hgone
  · rw [hdisk, ← hname, get_of_file (hname ▸ validName_b) hfile hread, hname]
    rfl

end OneCipher.Secret
