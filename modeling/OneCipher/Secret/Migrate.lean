import OneCipher.Secret.Crash
import OneCipher.Wallet.Vault

/-!
# OneCipher.Secret.Migrate — legacy wallets moved into the secret store

`oc-secret/src/migrate.rs`.  Every wallet file of the legacy vault is decrypted and put into the store under its
sanitized name; a wallet that fails is skipped.  The sanitizer is not injective and `put` replaces, so a migrated
wallet takes the place of whatever was stored under its name, another wallet's key included.
-/

namespace OneCipher.Secret

open JsonText Serde Outcome List Result Prog Option
open Wallet (KeyType OcWalletError Directory utf8Text)
open Prog (exec)

/-! ## Legacy wallets -/

/-- The `snake_case` name. -/
def keyTypeText : KeyType → String
  | .mnemonic => "mnemonic"
  | .privateKey => "private_key"

/-- A wallet file, as far as migration reads it. -/
structure LegacyWallet extends Wallet.EncryptedWallet where
  chainIds : List String

structure LegacyVault where
  wallets : Directory
  walletsSecure : Except OcWalletError Unit
  parseWallet : Bytes → Except String LegacyWallet
  parseEnvelope : Json → Except String Bytes
  decryptWithPassphrase : Bytes → Bytes → Except String Bytes
  harden : Bytes → Except String Bytes
  isAlphanumeric : Char → Bool

inductive MigrationError where
  | vault (e : OcWalletError)
  | store (e : SecretStoreError)
  | entry (e : SecretEntryError)
  | invalidUtf8
  | noRecipients
  | memGuard (message : String)
  deriving DecidableEq, Repr

structure MigrationResult where
  walletId : String
  entryName : String
  walletName : String
  keyType : KeyType
  deriving DecidableEq, Repr

abbrev MigrateProg := Prog StoreSession MigrationError

/-- `str::trim_matches('-')`. -/
def trimDashes (cs : List Char) : List Char := (cs.dropWhile (· = '-')).rdropWhile (· = '-')

def secretText (keyType : KeyType) (bytes : Bytes) : Except MigrationError (ItemType × String) :=
  match keyType with
  | .mnemonic => match utf8Text bytes with
    | some phrase => .ok (.mnemonic, phrase)
    | none => .error .invalidUtf8
  | .privateKey => .ok (.privateKey, (utf8Text bytes).getD (Text.hexEncode bytes))

/-- The payload of a migrated wallet; the members of `extra` are in the order of an ordered map. -/
def migratedPayload (w : LegacyWallet) (secret : String) : SecretPayload where
  secret := secret
  notes := some ("Migrated from wallet '" ++ w.name ++ "'")
  extra := some (.obj [("key_type", .str (keyTypeText w.keyType)), ("wallet_id", .str w.id)])

def migratedMetadata (w : LegacyWallet) : SecretMetadata := { SecretMetadata.empty with chain := w.chainIds.head? }

namespace LegacyVault

variable (vault : LegacyVault)

/-- `list_encrypted_wallets`: all wallet files that parse, newest first. -/
def listEncryptedWallets : Except OcWalletError (List LegacyWallet) :=
  match vault.wallets.create with
  | some e => .error (.io e)
  | none => do
    vault.walletsSecure
    (vault.wallets.listJson vault.parseWallet).map (List.insertionSort fun a b => b.createdAt ≤ a.createdAt)

/-- `Vault::load` of the file of an id and `Vault::decrypt`. -/
def keyBytes (passphrase id : String) : Except MigrationError Bytes := do
  let text ← (vault.wallets.file (id ++ ".json")).readToString.mapError fun e => .vault (.io e)
  let stored ← (vault.parseWallet text).mapError fun e => .vault (.json e)
  let key ← (vault.harden (Text.utf8 passphrase)).mapError .memGuard
  let envelope ← (vault.parseEnvelope stored.crypto).mapError fun e => .vault (.invalidInput ("invalid format: " ++ e))
  (vault.decryptWithPassphrase envelope key).mapError fun e => .vault (.invalidInput ("crypto error: " ++ e))

def keyMaterial (passphrase id : String) (keyType : KeyType) : Except MigrationError (ItemType × String) := do
  secretText keyType (← vault.keyBytes passphrase id)

/-- `sanitize_name`. -/
def sanitizeName (name : String) : String :=
  String.ofList (trimDashes (name.toList.map fun c => if vault.isAlphanumeric c || c == '-' || c == '_' then c else '-'))

end LegacyVault

/-! ## Migration -/

section Programs

variable {ι : Type} (host : SecretHost ι) (vault : LegacyVault)

variable (passphrase : String) (recipients : List String) (dryRun : Bool)

def persist (e : SecretEntry) : MigrateProg Unit :=
  if dryRun then pure () else Prog.mapErr .store (put host e)

/-- `migrate_one` up to the entry it stores, which a dry run builds too. -/
def buildEntry (w : LegacyWallet) (draw : Draw) (d : Disk) : Outcome MigrationError SecretEntry := do
  let material ← (vault.keyMaterial passphrase w.id w.keyType).mapError fun e => .err e
  let generation ← (nextGeneration host (vault.sanitizeName w.name) d).mapErr .store
  (SecretEntry.new host (vault.sanitizeName w.name) material.1 (migratedPayload w material.2) (migratedMetadata w)
    recipients generation draw).mapError fun e => .err (.entry e)

/-- `migrate_one`. -/
def migrateOne (w : LegacyWallet) (draw : Draw) : MigrateProg MigrationResult := do
  let entry ← Session.look Disk.apply (buildEntry host vault passphrase recipients w draw)
  persist host dryRun entry
  return ⟨w.id, vault.sanitizeName w.name, w.name, w.keyType⟩

def keepOk (r : Except MigrationError MigrationResult) (rest : List MigrationResult) : List MigrationResult :=
  match r with
  | .ok result => result :: rest
  | .error _ => rest

/-- The loop over the wallets; `draw` is what the encryption of each draws. -/
def migrateEach : List LegacyWallet → (Nat → Draw) → MigrateProg (List MigrationResult)
  | [], _ => pure []
  | w :: ws, draw => do
    let r ← Prog.attempt (migrateOne host vault passphrase recipients dryRun w (draw 0))
    let rest ← migrateEach ws fun n => draw (n + 1)
    return keepOk r rest

/-- `migrate_legacy_wallets`. -/
def migrateLegacyWallets (draw : Nat → Draw) : MigrateProg (List MigrationResult) :=
  if recipients = [] then Prog.fail .noRecipients
  else do
    let wallets ← Prog.lift (vault.listEncryptedWallets.mapError fun e => .err (.vault e))
    migrateEach host vault passphrase recipients dryRun wallets draw

end Programs

/-! ## What is moved -/

/-- What a wallet becomes in the store. -/
structure Moved where
  wallet : LegacyWallet
  name : String
  itemType : ItemType
  secret : String
  draw : Draw

namespace Moved

variable (m : Moved) (rows : List SecretIndexEntry)

def payload : SecretPayload := migratedPayload m.wallet m.secret

def result : MigrationResult := ⟨m.wallet.id, m.name, m.wallet.name, m.wallet.keyType⟩

def entry (ciphertext : Bytes) : SecretEntry :=
  ⟨m.draw.id, m.name, m.itemType, m.draw.now, m.draw.now, migratedMetadata m.wallet, nextOf rows m.name, ciphertext⟩

def rowsAfter : List SecretIndexEntry :=
  upsertRows rows (m.entry rows []).toIndexEntry

@[simp] theorem name_entry (c : Bytes) : (m.entry rows c).name = m.name :=
  rfl

end Moved

def LegacyVault.moved (vault : LegacyVault) (passphrase : String) (w : LegacyWallet) (draw : Draw) : Option Moved :=
  match vault.keyMaterial passphrase w.id w.keyType with
  | .ok (itemType, secret) =>
    if ValidName (vault.sanitizeName w.name) then some ⟨w, vault.sanitizeName w.name, itemType, secret, draw⟩ else none
  | .error _ => none

def LegacyVault.moves (vault : LegacyVault) (passphrase : String) : List LegacyWallet → (Nat → Draw) → List Moved
  | [], _ => []
  | w :: ws, draw => (vault.moved passphrase w (draw 0)).toList ++ vault.moves passphrase ws fun n => draw (n + 1)

def lastMoved (name : String) : List Moved → Option SecretPayload
  | [] => none
  | m :: ms => (lastMoved name ms).or (if m.name = name then some m.payload else none)

/-- Every index that is written fits the limits of its reader. -/
def RowsFit (F : FloatText) (rows : List SecretIndexEntry) : List Moved → Prop
  | [] => True
  | m :: ms => Fits F (m.rowsAfter rows) ∧ RowsFit F (m.rowsAfter rows) ms

instance decidableRowsFit (F : FloatText) :
    (rows : List SecretIndexEntry) → (ms : List Moved) → Decidable (RowsFit F rows ms)
  | _, [] => .isTrue trivial
  | rows, m :: ms =>
    haveI := decidableRowsFit F (m.rowsAfter rows) ms
    inferInstanceAs (Decidable (_ ∧ _))

theorem lastMoved_cases (name : String) (ms : List Moved) :
    (lastMoved name ms = none ∧ ∀ m ∈ ms, m.name ≠ name) ∨
      ∃ m ∈ ms, m.name = name ∧ lastMoved name ms = some m.payload := by
  induction ms with
  | nil => exact .inl ⟨rfl, fun _ h => nomatch h⟩
  | cons m _ ih =>
    rw [lastMoved]
    rcases ih with ⟨hnone, hother⟩ | ⟨m', hmem, hname, hlast⟩
    · rw [hnone, none_or]
      by_cases hm : m.name = name
      · rw [if_pos hm]
        exact .inr ⟨m, mem_cons_self, hm, rfl⟩
      · rw [if_neg hm]
        exact .inl ⟨rfl, forall_mem_cons.mpr ⟨hm, hother⟩⟩
    · rw [hlast, some_or]
      exact .inr ⟨m', mem_cons_of_mem m hmem, hname, rfl⟩

/-! ## One wallet -/

variable {w : LegacyWallet} {ws : List LegacyWallet}

section Run

variable {ι : Type} {host : SecretHost ι} {vault : LegacyVault} {passphrase : String} {recipients : List String}
  {identity : ι}

theorem plain_readIndexRaw (d : Disk) : (readIndexRaw host d).Plain := by
  have hline : ∀ line, (readIndexLine host.floats line).Plain := by
    intro line
    rw [readIndexLine]
    split_ifs
    · exact plain_err _
    · exact plain_okOr _ _
  rw [readIndexRaw, readIndex]
  split_ifs
  · exact plain_err _
  · exact Outcome.Plain.mapM hline _

theorem plain_nextGeneration (name : String) (d : Disk) : (nextGeneration host name d).Plain := by
  refine (plain_mapError _ _).bind fun _ => ?_
  refine Outcome.Plain.bind ?_ fun _ => plain_ok _
  exact (plain_readIndexRaw d).bind fun _ => plain_ok _

def Moved.sealed (m : Moved) (host : SecretHost ι) (recipients : List String) (rows : List SecretIndexEntry) :
    Except SecretEntryError Bytes :=
  sealPayload host m.name (nextOf rows m.name) m.payload recipients m.draw.seed

variable {d : Disk} {rows : List SecretIndexEntry} {m : Moved} {draw : Nat → Draw} {s : StoreSession}

theorem moved_eq_some {draw : Draw} :
    vault.moved passphrase w draw = some m ↔ ∃ itemType secret,
      vault.keyMaterial passphrase w.id w.keyType = .ok (itemType, secret) ∧ ValidName (vault.sanitizeName w.name) ∧
      m = ⟨w, vault.sanitizeName w.name, itemType, secret, draw⟩ := by
  rw [LegacyVault.moved]
  rcases vault.keyMaterial passphrase w.id w.keyType with e | ⟨itemType, secret⟩
  · simp
  · by_cases hv : ValidName (vault.sanitizeName w.name)
    · simp [hv, eq_comm]
    · simp [hv]

theorem plain_buildEntry (w : LegacyWallet) (draw : Draw) (d : Disk) :
    (buildEntry host vault passphrase recipients w draw d).Plain := by
  refine (plain_mapError _ _).bind fun _ => ?_
  refine Outcome.Plain.bind ?_ fun _ => plain_mapError _ _
  exact (plain_nextGeneration _ d).mapErr _

/-- **When the entry is built**: the wallet is one that is moved, the index reads and the payload is sealed. -/
theorem buildEntry_eq_ok {draw : Draw} {e : SecretEntry} :
    buildEntry host vault passphrase recipients w draw d = .ok e ↔ ∃ m rows c,
      vault.moved passphrase w draw = some m ∧ readIndexRaw host d = .ok rows ∧
      m.sealed host recipients rows = .ok c ∧ e = m.entry rows c := by
  rw [buildEntry, bind_eq_ok]
  constructor
  · rintro ⟨⟨itemType, secret⟩, hkey, h⟩
    obtain ⟨generation, hnext, hnew⟩ := bind_eq_ok.mp h
    obtain ⟨hv, rows, hrows, rfl⟩ := nextGeneration_eq_ok.mp (mapErr_eq_ok.mp hnext)
    obtain ⟨-, -, c, hseal, rfl⟩ := SecretEntry.new_eq_ok.mp (mapError_eq_ok.mp hnew)
    exact ⟨_, rows, c, moved_eq_some.mpr ⟨itemType, secret, mapError_eq_ok.mp hkey, hv, rfl⟩, hrows, hseal, rfl⟩
  · rintro ⟨m, rows, c, hm, hrows, hseal, rfl⟩
    obtain ⟨itemType, secret, hkey, hv, rfl⟩ := moved_eq_some.mp hm
    refine ⟨(itemType, secret), mapError_eq_ok.mpr hkey, ?_⟩
    refine bind_eq_ok.mpr ⟨nextOf rows (vault.sanitizeName w.name), ?_, ?_⟩
    · exact mapErr_eq_ok.mpr (nextGeneration_eq_ok.mpr ⟨hv, rows, hrows, rfl⟩)
    · exact mapError_eq_ok.mpr (SecretEntry.new_eq_ok.mpr ⟨hv, nextOf_ne_zero rows _, c, hseal, rfl⟩)

/-- **What `migrate_one` does**: it fails and writes nothing, or it puts the entry of a moved wallet. -/
theorem migrateOne_cases (host : SecretHost ι) (vault : LegacyVault) (passphrase : String) (recipients : List String)
    (w : LegacyWallet) (draw : Draw) (s : StoreSession) :
    (∃ e, exec (migrateOne host vault passphrase recipients false w draw) s = (.error (.err e), s) ∧
      ∀ m rows, vault.moved passphrase w draw = some m → readIndexRaw host (diskOf s) = .ok rows →
        ∀ c, m.sealed host recipients rows ≠ .ok c) ∨
    ∃ m rows c, vault.moved passphrase w draw = some m ∧ readIndexRaw host (diskOf s) = .ok rows ∧
      m.sealed host recipients rows = .ok c ∧
      exec (migrateOne host vault passphrase recipients false w draw) s =
        (.ok m.result, afterPut host rows (m.entry rows c) s) := by
  rw [migrateOne]
  rcases hbuild : buildEntry host vault passphrase recipients w draw (diskOf s) with er | e
  · obtain ⟨e, rfl⟩ := plain_buildEntry _ _ _ _ hbuild
    refine .inl ⟨e, Session.exec_look_bind_of_error Disk.apply hbuild, fun m rows hm hrows c hseal => ?_⟩
    rw [buildEntry_eq_ok.mpr ⟨m, rows, c, hm, hrows, hseal, rfl⟩] at hbuild
    cases hbuild
  · obtain ⟨m, rows, c, hm, hrows, hseal, rfl⟩ := buildEntry_eq_ok.mp hbuild
    refine .inr ⟨m, rows, c, hm, hrows, hseal, ?_⟩
    obtain ⟨_, _, -, hv, hmdef⟩ := moved_eq_some.mp hm
    have hname : ValidName (m.entry rows c).name := by
      rw [Moved.name_entry, hmdef]
      exact hv
    have hput : exec (put host (m.entry rows c)) s = (.ok (), afterPut host rows (m.entry rows c) s) :=
      exec_put hname hrows rfl
    rw [Session.exec_look_bind_of_ok Disk.apply hbuild, persist, if_neg Bool.false_ne_true,
      exec_bind_of_ok (exec_mapErr_ok.mpr hput), hmdef]
    rfl

/-! ## The loop -/

/-- One turn: the wallet is skipped, or it is put and its result kept. -/
theorem migrateEach_cons (host : SecretHost ι) (vault : LegacyVault) (passphrase : String) (recipients : List String)
    (w : LegacyWallet) (ws : List LegacyWallet) (draw : Nat → Draw) (s : StoreSession) :
    ((∀ m rows, vault.moved passphrase w (draw 0) = some m → readIndexRaw host (diskOf s) = .ok rows →
        ∀ c, m.sealed host recipients rows ≠ .ok c) ∧
      exec (migrateEach host vault passphrase recipients false (w :: ws) draw) s =
        exec (migrateEach host vault passphrase recipients false ws fun n => draw (n + 1)) s) ∨
    ∃ m rows c, vault.moved passphrase w (draw 0) = some m ∧ readIndexRaw host (diskOf s) = .ok rows ∧
      m.sealed host recipients rows = .ok c ∧ ∀ rs t,
        exec (migrateEach host vault passphrase recipients false ws fun n => draw (n + 1))
          (afterPut host rows (m.entry rows c) s) = (.ok rs, t) →
        exec (migrateEach host vault passphrase recipients false (w :: ws) draw) s = (.ok (m.result :: rs), t) := by
  rcases migrateOne_cases host vault passphrase recipients w (draw 0) s with
    ⟨e, he, hnot⟩ | ⟨m, rows, c, hm, hrows, hseal, hexec⟩
  · refine .inl ⟨hnot, ?_⟩
    rw [migrateEach, exec_bind, exec_attempt, he]
    exact congrArg (exec · s) (bind_pure _)
  · refine .inr ⟨m, rows, c, hm, hrows, hseal, fun rs t hrest => ?_⟩
    rw [migrateEach, exec_bind, exec_attempt, hexec]
    exact (exec_bind_of_ok hrest).trans rfl

theorem exec_migrateEach_of_unsealed
    (h : ∀ m : Moved, ∀ rows, readIndexRaw host (diskOf s) = .ok rows → ∀ c, m.sealed host recipients rows ≠ .ok c)
    (ws : List LegacyWallet) (draw : Nat → Draw) :
    exec (migrateEach host vault passphrase recipients false ws draw) s = (.ok [], s) := by
  induction ws generalizing draw with
  | nil => rfl
  | cons w ws ih =>
    rcases migrateEach_cons host vault passphrase recipients w ws draw s with ⟨-, hskip⟩ | ⟨m, rows, c, -, hrows, hseal, -⟩
    · rw [hskip, ih]
    · exact absurd hseal (h m rows hrows c)

/-- Nothing can be encrypted to the recipients. -/
def Refuses (host : SecretHost ι) (recipients : List String) : Prop :=
  ∀ seed m, ∃ e, host.encrypt recipients seed m = .error e

/-- Everything can be encrypted to the recipients. -/
def Seals (host : SecretHost ι) (recipients : List String) : Prop :=
  ∀ seed m, ∃ c, host.encrypt recipients seed m = .ok c

theorem Refuses.not_sealed (h : Refuses host recipients) {c : Bytes} : m.sealed host recipients rows ≠ .ok c := by
  intro hseal
  rw [Moved.sealed, sealPayload_of_embeddable (embeddable_of_sealPayload hseal), mapError_eq_ok] at hseal
  obtain ⟨e, he⟩ := h m.draw.seed (enveloped host m.name (nextOf rows m.name) m.payload)
  cases he.symm.trans hseal

/-! ## What can be read after it -/

theorem valid_of_moved {draw : Draw} (h : vault.moved passphrase w draw = some m) : ValidName m.name := by
  obtain ⟨_, _, -, hv, rfl⟩ := moved_eq_some.mp h
  exact hv

theorem Moved.exists_sealed (hseals : Seals host recipients) (hv : ValidName m.name) (rows : List SecretIndexEntry) :
    ∃ c, m.sealed host recipients rows = .ok c := by
  obtain ⟨c, hc⟩ := hseals m.draw.seed (enveloped host m.name (nextOf rows m.name) m.payload)
  refine ⟨c, ?_⟩
  rw [Moved.sealed, sealPayload_of_embeddable hv.embeddable, hc]
  rfl

theorem moved_eq_none {draw : Draw} (hseals : Seals host recipients) (hrows : readIndexRaw host (diskOf s) = .ok rows)
    (hnot : ∀ m rows, vault.moved passphrase w draw = some m → readIndexRaw host (diskOf s) = .ok rows → ∀ c, m.sealed host recipients rows ≠ .ok c) :
    vault.moved passphrase w draw = none := by
  rcases hm : vault.moved passphrase w draw with _ | m
  · rfl
  · obtain ⟨c, hc⟩ := m.exists_sealed hseals (valid_of_moved hm) rows
    exact absurd hc (hnot m rows hm hrows c)

/-- The payloads of migrated wallets read back from their JSON. -/
def PayloadsReadBack (host : SecretHost ι) : Prop :=
  ∀ w secret, host.readPayload (host.payloadJson (migratedPayload w secret)) = some (migratedPayload w secret)

theorem Moved.decrypt_entry {c : Bytes} (hopen : Opens host identity recipients) (hread : PayloadsReadBack host)
    (hv : ValidName m.name) (hseal : m.sealed host recipients rows = .ok c) :
    (m.entry rows c).decrypt host identity = .ok m.payload := by
  rw [Moved.sealed, sealPayload_of_embeddable hv.embeddable, mapError_eq_ok] at hseal
  exact decrypt_of_sealed hv.embeddable (hopen _ _ _ hseal) (hread m.wallet m.secret)

theorem get_congr_row {name : String} {d' : Disk} {rows' : List SecretIndexEntry}
    (hfile : d'.entries (entryFile name) = d.entries (entryFile name)) (hread : readIndexRaw host d = .ok rows)
    (hread' : readIndexRaw host d' = .ok rows') (hrow : rowOf rows' name = rowOf rows name) :
    get host name d' = get host name d := by
  have hagree : checkAgreement rows' name = checkAgreement rows name := by
    funext e
    rw [checkAgreement, checkAgreement, hrow]
  rw [get, get, readEntryFile, readEntryFile, hfile, hread, hread']
  change (validateName name >>= fun _ => _ >>= fun e => checkAgreement rows' name e >>= _) = _
  rw [hagree]
  rfl

/-- **After a wallet was moved its name yields its payload**, and every other name what it yielded before. -/
theorem yields_after_move {c : Bytes} (hopen : Opens host identity recipients) (hread : PayloadsReadBack host)
    (hv : ValidName m.name) (hrows : readIndexRaw host (diskOf s) = .ok rows)
    (hseal : m.sealed host recipients rows = .ok c) (hfit : Fits host.floats (m.rowsAfter rows)) (name : String)
    (payload : SecretPayload) :
    Yields host identity name payload (diskOf (afterPut host rows (m.entry rows c) s)) ↔
      if m.name = name then m.payload = payload else Yields host identity name payload (diskOf s) := by
  rw [afterPut, diskOf_push, diskOf_push]
  by_cases hname : m.name = name
  · subst hname
    rw [if_pos rfl]
    refine (yields_after_put (e := m.entry rows c) hv (m.decrypt_entry hopen hread hv hseal)).trans ?_
    exact and_iff_left hfit
  · rw [if_neg hname]
    have hget : get host name (((diskOf s).apply (.entry (entryFile m.name) (m.entry rows c))).apply
        (.index (indexText host.floats (m.rowsAfter rows)))) = get host name (diskOf s) := by
      refine get_congr_row ?_ hrows ((readIndexRaw_index _ _).trans (readIndex_indexText.mpr ⟨rfl, hfit⟩)) ?_
      · rw [Disk.entries_index, Disk.entries_entry, Function.update_of_ne]
        exact fun hf => hname (entryFile_inj hf).symm
      · rw [Moved.rowsAfter, rowOf_upsertRows]
        exact if_neg hname
    rw [Yields, Yields, ← hget]
    rfl

/-- **What a migration leaves.**  If the rows fit, the name of a moved wallet yields the payload of the last such
wallet, and any other name what was there before; if not, the index does not read any more. -/
theorem run_cases (hseals : Seals host recipients) (hopen : Opens host identity recipients)
    (hread : PayloadsReadBack host) (ws : List LegacyWallet) (draw : Nat → Draw)
    (hrows : readIndexRaw host (diskOf s) = .ok rows) :
    ∃ rs t, exec (migrateEach host vault passphrase recipients false ws draw) s = (.ok rs, t) ∧
      ((RowsFit host.floats rows (vault.moves passphrase ws draw) ∧
          rs = (vault.moves passphrase ws draw).map Moved.result ∧
          ∀ name payload, Yields host identity name payload (diskOf t) ↔
            lastMoved name (vault.moves passphrase ws draw) = some payload ∨
              lastMoved name (vault.moves passphrase ws draw) = none ∧ Yields host identity name payload (diskOf s)) ∨
        ¬ RowsFit host.floats rows (vault.moves passphrase ws draw) ∧ rs ≠ [] ∧
          ∀ rows', readIndexRaw host (diskOf t) ≠ .ok rows') := by
  induction ws generalizing draw s rows with
  | nil =>
    refine ⟨[], s, rfl, .inl ⟨trivial, rfl, fun name payload => ?_⟩⟩
    change _ ↔ (none : Option SecretPayload) = some payload ∨ (none : Option SecretPayload) = none ∧ _
    simp
  | cons w ws ih =>
    rw [LegacyVault.moves]
    rcases migrateEach_cons host vault passphrase recipients w ws draw s with
      ⟨hnot, hskip⟩ | ⟨m, rows', c, hm, hrows', hseal, hexec⟩
    · -- a wallet that cannot be moved is skipped
      rw [moved_eq_none hseals hrows hnot, hskip]
      exact ih _ hrows
    · obtain rfl : rows = rows' := Except.ok.inj (hrows.symm.trans hrows')
      rw [hm]
      by_cases hthis : Fits host.floats (m.rowsAfter rows)
      · obtain ⟨rs, t, hrest, ⟨hfit, rfl, hreads⟩ | ⟨hfit, -, hbad⟩⟩ := ih (s := afterPut host rows (m.entry rows c) s)
          (fun n => draw (n + 1)) (readIndexRaw_afterPut.mpr ⟨rfl, hthis⟩)
        · refine ⟨_, t, hexec _ _ hrest, .inl ⟨⟨hthis, hfit⟩, rfl, fun name payload => ?_⟩⟩
          have hlast : lastMoved name ((some m).toList ++ vault.moves passphrase ws fun n => draw (n + 1)) =
              (lastMoved name (vault.moves passphrase ws fun n => draw (n + 1))).or
                (if m.name = name then some m.payload else none) := rfl
          rw [hreads, yields_after_move hopen hread (valid_of_moved hm) hrows hseal hthis, hlast]
          rcases lastMoved name (vault.moves passphrase ws fun n => draw (n + 1)) with _ | p
          · by_cases hname : m.name = name
            · simp [hname]
            · simp [hname]
          · simp
        · exact ⟨_, t, hexec _ _ hrest, .inr ⟨fun h => hfit h.2, cons_ne_nil _ _, hbad⟩⟩
      · refine ⟨_, _, hexec _ _ (exec_migrateEach_of_unsealed (fun _ _ h => ?_) ws _),
          .inr ⟨fun h => hthis h.1, cons_ne_nil _ _, fun _ h => ?_⟩⟩
        · exact absurd (readIndexRaw_afterPut.mp h).2 hthis
        · exact hthis (readIndexRaw_afterPut.mp h).2

/-! ## When nothing is lost -/

/-- **After a migration every secret that could be read still yields its payload, and the entry of every
result the key material of its wallet.** -/
def MigrationKeeps (host : SecretHost ι) (vault : LegacyVault) (identity : ι) (passphrase : String)
    (recipients : List String) (draw : Nat → Draw) (d : Disk) : Prop :=
  (∀ name payload, Yields host identity name payload d → Yields host identity name payload
    (diskOf (exec (migrateLegacyWallets host vault passphrase recipients false draw) (Session.of d)).2)) ∧
  ∀ results, (exec (migrateLegacyWallets host vault passphrase recipients false draw) (Session.of d)).1 =
      .ok results →
    ∀ r ∈ results, ∃ itemType payload, vault.keyMaterial passphrase r.walletId r.keyType = .ok (itemType, payload.secret) ∧
      Yields host identity r.entryName payload
        (diskOf (exec (migrateLegacyWallets host vault passphrase recipients false draw) (Session.of d)).2)

/-- The wallets that are moved fit into the index, those of one name hold the same key, and a secret that
could be read under such a name is what the last of them is moved as. -/
structure Harmless (host : SecretHost ι) (identity : ι) (d : Disk) (rows : List SecretIndexEntry) (ms : List Moved) :
    Prop where
  fits : RowsFit host.floats rows ms
  keys : ∀ m ∈ ms, ∀ m' ∈ ms, m.name = m'.name → m.secret = m'.secret
  kept : ∀ m ∈ ms, ∀ payload, Yields host identity m.name payload d → lastMoved m.name ms = some payload

theorem mem_moves (h : m ∈ vault.moves passphrase ws draw) : ∃ w n, vault.moved passphrase w (draw n) = some m := by
  induction ws generalizing draw with
  | nil => cases h
  | cons w _ ih =>
    rw [LegacyVault.moves, mem_append, mem_toList] at h
    rcases h with h | h
    · exact ⟨w, 0, h⟩
    · obtain ⟨w', n, hn⟩ := ih h
      exact ⟨w', n + 1, hn⟩

theorem keyMaterial_of_moved {draw : Draw} (h : vault.moved passphrase w draw = some m) :
    vault.keyMaterial passphrase m.result.walletId m.result.keyType = .ok (m.itemType, m.secret) := by
  obtain ⟨itemType, secret, hkey, -, rfl⟩ := moved_eq_some.mp h
  exact hkey

theorem not_yields_of_unreadable (h : ∀ rows, readIndexRaw host d ≠ .ok rows) (name : String)
    (payload : SecretPayload) : ¬ Yields host identity name payload d := by
  rintro ⟨e, hget, -⟩
  obtain ⟨-, -, -, rows, hrows, -⟩ := get_eq_ok.mp hget
  exact h rows hrows

theorem exec_migrateLegacyWallets (hrec : recipients ≠ []) (hlist : vault.listEncryptedWallets = .ok ws)
    (draw : Nat → Draw) (s : StoreSession) :
    exec (migrateLegacyWallets host vault passphrase recipients false draw) s =
      exec (migrateEach host vault passphrase recipients false ws draw) s := by
  rw [migrateLegacyWallets, if_neg hrec]
  exact exec_lift_bind_of_ok (by rw [hlist]; rfl)

theorem migrationKeeps_of_unchanged (out : Outcome MigrationError (List MigrationResult))
    (h : exec (migrateLegacyWallets host vault passphrase recipients false draw) (Session.of d) = (out, Session.of d))
    (hnone : ∀ results, out = .ok results → results = []) :
    MigrationKeeps host vault identity passphrase recipients draw d := by
  rw [MigrationKeeps, h]
  refine ⟨fun _ _ hy => hy, fun results hout r hr => ?_⟩
  rw [hnone results hout] at hr
  cases hr

theorem migrationKeeps_iff_harmless (hseals : Seals host recipients) (hopen : Opens host identity recipients)
    (hread : PayloadsReadBack host) (hrec : recipients ≠ []) (hlist : vault.listEncryptedWallets = .ok ws)
    (draw : Nat → Draw) (hrows : readIndexRaw host d = .ok rows) :
    MigrationKeeps host vault identity passphrase recipients draw d ↔
      Harmless host identity d rows (vault.moves passphrase ws draw) := by
  rw [MigrationKeeps, exec_migrateLegacyWallets hrec hlist]
  obtain ⟨results, t, hexec, ⟨hfit, rfl, hreads⟩ | ⟨hfit, hne, hbad⟩⟩ :=
    run_cases hseals hopen hread ws draw (s := Session.of d) hrows
  all_goals rw [hexec]
  · constructor
    · rintro ⟨hkept, hresults⟩
      have hresult : ∀ m ∈ vault.moves passphrase ws draw, ∃ payload, payload.secret = m.secret ∧
          lastMoved m.name (vault.moves passphrase ws draw) = some payload := by
        intro m hm
        obtain ⟨w, n, hw⟩ := mem_moves hm
        obtain ⟨_, payload, hkey, hy⟩ := hresults _ rfl m.result (List.mem_map_of_mem hm)
        rw [keyMaterial_of_moved hw] at hkey
        have hsecret : m.secret = payload.secret := congrArg Prod.snd (Except.ok.inj hkey)
        rcases (hreads _ _).mp hy with hlast | ⟨hnone, -⟩
        · exact ⟨payload, hsecret.symm, hlast⟩
        · rcases lastMoved_cases m.name (vault.moves passphrase ws draw) with ⟨-, hother⟩ | ⟨m', -, -, hsome⟩
          · exact absurd rfl (hother m hm)
          · cases hnone.symm.trans hsome
      refine ⟨hfit, fun m hm m' hm' hname => ?_, fun m hm payload hy => ?_⟩
      · obtain ⟨p, hp, hlast⟩ := hresult m hm
        obtain ⟨p', hp', hlast'⟩ := hresult m' hm'
        rw [← hname, hlast] at hlast'
        rw [← hp, ← hp', Option.some.inj hlast']
      · obtain ⟨p, -, hlast⟩ := hresult m hm
        rcases (hreads _ _).mp (hkept m.name payload hy) with h | ⟨hnone, -⟩
        · exact h
        · cases hnone.symm.trans hlast
    · intro h
      refine ⟨fun name payload hy => (hreads name payload).mpr ?_, fun results hres r hr => ?_⟩
      · rcases lastMoved_cases name (vault.moves passphrase ws draw) with ⟨hnone, -⟩ | ⟨m, hm, rfl, -⟩
        · exact .inr ⟨hnone, hy⟩
        · exact .inl (h.kept m hm payload hy)
      · cases hres
        obtain ⟨m, hm, rfl⟩ := List.mem_map.mp hr
        obtain ⟨w, n, hw⟩ := mem_moves hm
        rcases lastMoved_cases m.name (vault.moves passphrase ws draw) with ⟨-, hother⟩ | ⟨m', hm', hname, hlast⟩
        · exact absurd rfl (hother m hm)
        · refine ⟨m.itemType, m'.payload, ?_, (hreads _ _).mpr (.inl hlast)⟩
          rw [keyMaterial_of_moved hw, h.keys m hm m' hm' hname.symm]
          rfl
  · constructor
    · rintro ⟨-, hresults⟩
      obtain ⟨r, hr⟩ := exists_mem_of_ne_nil _ hne
      obtain ⟨_, payload, -, hy⟩ := hresults _ rfl r hr
      exact absurd hy (not_yields_of_unreadable hbad _ _)
    · intro h
      exact absurd h.fits hfit

/-- **A migration loses nothing exactly when** it migrates nothing (there are no usable recipients, the
wallets cannot be listed or the index does not read) or the wallets it moves are harmless. -/
theorem migration_keeps_secrets_iff (hage : Seals host recipients ∨ Refuses host recipients)
    (hopen : Opens host identity recipients) (hread : PayloadsReadBack host) (vault : LegacyVault)
    (passphrase : String) (draw : Nat → Draw) (d : Disk) :
    MigrationKeeps host vault identity passphrase recipients draw d ↔
      recipients = [] ∨ Refuses host recipients ∨ ∀ ws rows, vault.listEncryptedWallets = .ok ws →
        readIndexRaw host d = .ok rows → Harmless host identity d rows (vault.moves passphrase ws draw) := by
  by_cases hrec : recipients = []
  · refine iff_of_true (migrationKeeps_of_unchanged (.error (.err .noRecipients)) ?_ fun _ h => nomatch h)
      (.inl hrec)
    rw [migrateLegacyWallets, if_pos hrec]
    rfl
  rcases hlist : vault.listEncryptedWallets with e | ws
  · refine iff_of_true (migrationKeeps_of_unchanged (.error (.err (.vault e))) ?_ fun _ h => nomatch h)
      (.inr (.inr fun ws rows h => nomatch h))
    rw [migrateLegacyWallets, if_neg hrec]
    exact exec_lift_bind_of_error (by rw [hlist]; rfl)
  rcases hage with hseals | href
  swap
  · refine iff_of_true (migrationKeeps_of_unchanged (.ok []) ?_ fun _ h => (Except.ok.inj h).symm)
      (.inr (.inl href))
    rw [exec_migrateLegacyWallets hrec hlist, exec_migrateEach_of_unsealed fun _ _ _ _ => href.not_sealed]
  have hnot : ¬ Refuses host recipients := by
    intro href
    obtain ⟨c, hc⟩ := hseals 0 []
    obtain ⟨e, he⟩ := href 0 []
    cases hc.symm.trans he
  rw [or_iff_right hrec, or_iff_right hnot]
  rcases hrows : readIndexRaw host d with er | rows
  · refine iff_of_true (migrationKeeps_of_unchanged (.ok []) ?_ fun _ h => (Except.ok.inj h).symm)
      fun ws rows _ h => nomatch h
    rw [exec_migrateLegacyWallets hrec hlist]
    exact exec_migrateEach_of_unsealed (s := Session.of d) (fun _ _ h => nomatch hrows.symm.trans h) ws draw
  · rw [migrationKeeps_iff_harmless hseals hopen hread hrec hlist draw hrows]
    constructor
    · intro h ws' rows' hws hrows'
      cases hws
      cases hrows'
      exact h
    · intro h
      exact h ws rows rfl rfl

end Run

/-! ## A migration of two wallets -/

def SecretPayload.toJson (p : SecretPayload) : Json :=
  .obj (("secret", .str p.secret) :: (optionMember "notes" p.notes ++ (p.extra.map fun j => ("extra", j)).toList))

/-- An `Option` of a document: `null` is nothing. -/
def readDocument : Json → Option (Option Json)
  | .null => some none
  | j => some (some (normal j))

def SecretPayload.fromJson : Json → Option SecretPayload
  | .obj ms => do
    let secret ← readField Json.asStr none (fieldValues "secret" ms)
    let notes ← readField readNullable (some none) (fieldValues "notes" ms)
    let extra ← readField readDocument (some none) (fieldValues "extra" ms)
    return ⟨secret, notes, extra⟩
  | _ => none

/-- `serde_json::to_string`; the payloads of concrete runs hold no floats. -/
def SecretPayload.jsonText (p : SecretPayload) : String := String.ofList (text ⟨fun _ => [], fun _ => none⟩ p.toJson)

def SecretPayload.jsonBytes (p : SecretPayload) : Bytes := Text.utf8 p.jsonText

/-- `serde_json::from_slice`. -/
def readPayloadBytes (b : Bytes) : Option SecretPayload :=
  (utf8Text b).bind fun s => (read ⟨fun _ => [], fun _ => none⟩ s.toList).bind SecretPayload.fromJson

def jsonHost : SecretHost Unit where
  floats := ⟨fun _ => [], fun _ => none⟩
  encrypt := fun _ _ m => .ok m
  decrypt := fun _ c => .ok c
  payloadJson := SecretPayload.jsonBytes
  readPayload := readPayloadBytes

theorem payloadsReadBack_jsonHost : PayloadsReadBack jsonHost := by
  intro w secret
  have hdepth : (migratedPayload w secret).toJson.depth ≤ maxLevels := (by decide : (2 : Nat) ≤ maxLevels)
  have hwrite : Writable ⟨fun _ => [], fun _ => none⟩ (migratedPayload w secret).toJson :=
    ⟨trivial, trivial, ⟨trivial, trivial, trivial⟩, trivial⟩
  have hjson : jsonHost.payloadJson = SecretPayload.jsonBytes := by rw [jsonHost]
  have hread : jsonHost.readPayload = readPayloadBytes := by rw [jsonHost]
  rw [hjson, hread, readPayloadBytes, SecretPayload.jsonBytes, Wallet.utf8Text_utf8, bind_some, SecretPayload.jsonText,
    String.toList_ofList, read_text hwrite hdepth]
  rfl

def vaultOf (ws : List LegacyWallet) : LegacyVault where
  wallets := ⟨none, .entries (ws.map fun w => .ok (w.id ++ ".json")),
    fun path => if path ∈ ws.map (·.id ++ ".json") then .contents (Text.utf8 path) else .missing⟩
  walletsSecure := .ok ()
  parseWallet := fun b => match ws.find? fun w => Text.utf8 (w.id ++ ".json") = b with
    | some w => .ok w
    | none => .error "no wallet"
  parseEnvelope := fun
    | .str s => .ok (Text.utf8 s)
    | _ => .error "no envelope"
  decryptWithPassphrase := fun envelope _ => .ok envelope
  harden := .ok
  isAlphanumeric := Char.isAlphanum

def spacedWallet : LegacyWallet := ⟨⟨"1", "a b", "1", .str "x", .mnemonic⟩, []⟩

def dashedWallet : LegacyWallet := ⟨⟨"2", "a-b", "0", .str "y", .mnemonic⟩, []⟩

def sampleDraws (n : Nat) : Draw := ⟨toString n, "0", n⟩

def spacedMove : Moved := ⟨spacedWallet, "a-b", .mnemonic, "x", sampleDraws 0⟩

def dashedMove : Moved := ⟨dashedWallet, "a-b", .mnemonic, "y", sampleDraws 1⟩

theorem validName_dashed : ValidName "a-b" := by decide +kernel

theorem moved_vaultOf {name secret : String} {draw : Draw}
    (hkey : (vaultOf ws).keyMaterial "" w.id w.keyType = .ok (.mnemonic, secret))
    (hname : (vaultOf ws).sanitizeName w.name = name) (hv : ValidName name) :
    (vaultOf ws).moved "" w draw = some ⟨w, name, .mnemonic, secret, draw⟩ := by
  subst hname
  exact moved_eq_some.mpr ⟨_, _, hkey, hv, rfl⟩

theorem moves_twoWallets :
    (vaultOf [spacedWallet, dashedWallet]).moves "" [spacedWallet, dashedWallet] sampleDraws = [spacedMove, dashedMove] := by
  have hspaced : (vaultOf [spacedWallet, dashedWallet]).moved "" spacedWallet (sampleDraws 0) = some spacedMove :=
    moved_vaultOf rfl (by decide +kernel) validName_dashed
  have hdashed : (vaultOf [spacedWallet, dashedWallet]).moved "" dashedWallet (sampleDraws 1) = some dashedMove :=
    moved_vaultOf rfl (by decide +kernel) validName_dashed
  rfl

theorem list_twoWallets :
    (vaultOf [spacedWallet, dashedWallet]).listEncryptedWallets = .ok [spacedWallet, dashedWallet] := rfl

theorem opens_jsonHost (recipients : List String) : Opens jsonHost () recipients := by
  intro seed m c h
  cases h
  rfl

theorem seals_jsonHost (recipients : List String) : Seals jsonHost recipients := fun _ m => ⟨m, rfl⟩

theorem migration_keeps_secrets_spaced :
    MigrationKeeps jsonHost (vaultOf [spacedWallet]) () "" ["age1"] sampleDraws Disk.empty := by
  have hmoves : (vaultOf [spacedWallet]).moves "" [spacedWallet] sampleDraws = [spacedMove] := by
    have hspaced : (vaultOf [spacedWallet]).moved "" spacedWallet (sampleDraws 0) = some spacedMove :=
      moved_vaultOf rfl (by decide +kernel) validName_dashed
    rfl
  refine (migration_keeps_secrets_iff (.inl (seals_jsonHost _)) (opens_jsonHost _) payloadsReadBack_jsonHost _ _ _
    _).mpr (.inr (.inr fun ws rows hlist hrows => ?_))
  obtain rfl : [spacedWallet] = ws := Except.ok.inj hlist
  obtain rfl : [] = rows := Except.ok.inj hrows
  refine ⟨by decide +kernel, fun m hm m' hm' _ => ?_, fun m _ payload hy => ?_⟩
  · rw [mem_singleton.mp hm, mem_singleton.mp hm']
  · exact absurd hy (not_yields_of_no_file rfl)

/-- Two wallets whose names differ in a space are both reported as migrated, and the first one's entry holds the
second one's key. -/
theorem twin_wallets_share_entry :
    ∃ t, exec (migrateLegacyWallets jsonHost (vaultOf [spacedWallet, dashedWallet]) "" ["age1"] false sampleDraws)
        (Session.of Disk.empty) =
      (.ok [⟨"1", "a-b", "a b", .mnemonic⟩, ⟨"2", "a-b", "a-b", .mnemonic⟩], t) ∧
    Yields jsonHost () "a-b" dashedMove.payload (diskOf t) ∧
    ¬ MigrationKeeps jsonHost (vaultOf [spacedWallet, dashedWallet]) () "" ["age1"] sampleDraws Disk.empty := by
  have hrows : readIndexRaw jsonHost Disk.empty = .ok [] := rfl
  have hfit : RowsFit jsonHost.floats [] ((vaultOf [spacedWallet, dashedWallet]).moves "" [spacedWallet, dashedWallet]
      sampleDraws) := by
    decide +kernel
  obtain ⟨_, t, hexec, ⟨-, rfl, hreads⟩ | ⟨hnot, -⟩⟩ := run_cases (seals_jsonHost ["age1"]) (opens_jsonHost ["age1"])
    payloadsReadBack_jsonHost [spacedWallet, dashedWallet] sampleDraws (s := Session.of Disk.empty) hrows
  swap
  · exact absurd hfit hnot
  have hlast : lastMoved "a-b" [spacedMove, dashedMove] = some dashedMove.payload := by
    have hname : dashedMove.name = "a-b" := rfl
    rw [lastMoved, lastMoved, lastMoved, if_pos hname, none_or, some_or]
  refine ⟨t, ?_, (hreads "a-b" dashedMove.payload).mpr (.inl hlast), ?_⟩
  · rw [exec_migrateLegacyWallets (cons_ne_nil _ _) list_twoWallets, hexec]
    rfl
  · rw [migrationKeeps_iff_harmless (seals_jsonHost _) (opens_jsonHost _) payloadsReadBack_jsonHost
      (cons_ne_nil _ _) list_twoWallets sampleDraws hrows, moves_twoWallets]
    intro h
    have hkeys := h.keys spacedMove mem_cons_self dashedMove (mem_cons_of_mem _ mem_cons_self) rfl
    exact absurd hkeys (by decide)

end OneCipher.Secret
