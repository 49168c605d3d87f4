import OneCipher.Secret.Runs

/-!
# OneCipher.Secret.Replay — old ciphertexts under a new header

The owner seals payloads and runs the store; an adversary who can write to the secrets directory replaces entry
files by headers of their own around ciphertexts the owner made.  The generation is compared twice, the header's
with the index and the envelope's with the header, and both comparisons are skipped for a header of generation 0.
-/

namespace OneCipher.Secret

open JsonText List Result

/-- A ciphertext the owner made, and what is in it. -/
structure Sealed where
  name : String
  generation : UInt64
  payload : SecretPayload
  ciphertext : Bytes

/-- The store, the ciphertexts made so far and the last entry that was written for each name. -/
structure World where
  disk : Disk
  made : List Sealed
  latest : String → Option SecretEntry

inductive WorldStep (ι : Type) where
  /-- `SecretEntry::new`. -/
  | create (name : String) (itemType : ItemType) (payload : SecretPayload) (metadata : SecretMetadata)
      (recipients : List String) (generation : UInt64) (draw : Draw)
  /-- `SecretEntry::set_payload`. -/
  | setPayload (e : SecretEntry) (payload : SecretPayload) (recipients : List String) (generation : UInt64)
      (draw : Draw)
  /-- A call of the store. -/
  | call (op : StoreOp ι)
  /-- The adversary replaces the file of a name. -/
  | plant (name : String) (e : SecretEntry)

section Replay

variable {ι : Type} (host : SecretHost ι)

def madeBy (d : Disk) : StoreOp ι → List Sealed
  | .rename old new identity recipients draw =>
    match checkRename host old new identity recipients draw d with
    | .ok (some (oldEntry, newEntry)) => match oldEntry.decrypt host identity with
      | .ok payload => [⟨new, newEntry.generation, payload, newEntry.ciphertext⟩]
      | .error _ => []
    | _ => []
  | _ => []

/-- The file of a name is there, and the ciphertext is one the owner made. -/
def Plantable (w : World) (name : String) (e : SecretEntry) : Prop :=
  (w.disk.entries (entryFile name)).isSome = true ∧ ∃ s ∈ w.made, s.ciphertext = e.ciphertext

instance (w : World) (name : String) (e : SecretEntry) : Decidable (Plantable w name e) :=
  inferInstanceAs (Decidable (_ ∧ _))

def World.plant (w : World) (name : String) (e : SecretEntry) : World :=
  { w with disk := w.disk.apply (.entry (entryFile name) e) }

def World.call (w : World) (op : StoreOp ι) : World where
  disk := diskOf (StoreOp.after host (Session.of w.disk) op)
  made := madeBy host w.disk op ++ w.made
  latest := fun name => (lastWritten (StoreOp.after host (Session.of w.disk) op).writes name).or (w.latest name)

def World.make (w : World) (s : Sealed) : World := { w with made := s :: w.made }

def World.step (w : World) : WorldStep ι → World
  | .create name itemType payload metadata recipients generation draw =>
    match SecretEntry.new host name itemType payload metadata recipients generation draw with
    | .ok e => w.make ⟨name, generation, payload, e.ciphertext⟩
    | .error _ => w
  | .setPayload e payload recipients generation draw =>
    match e.setPayload host payload recipients generation draw with
    | .ok e' => w.make ⟨e.name, generation, payload, e'.ciphertext⟩
    | .error _ => w
  | .call op => w.call host op
  | .plant name e => if Plantable w name e then w.plant name e else w

def World.fresh : World := ⟨Disk.empty, [], fun _ => none⟩

def World.run (steps : List (WorldStep ι)) : World := steps.foldl (World.step host) World.fresh

/-! ## What holds along every history -/

/-- A file is the last one written or around a ciphertext of the owner; the ciphertexts hold what they were
made from. -/
structure World.Sound (w : World) : Prop where
  files : ∀ name f, w.disk.entries (entryFile name) = some f → ∃ e, f = .regular (some e) ∧
    (w.latest name = some e ∨ ∃ s ∈ w.made, s.ciphertext = e.ciphertext)
  made : ∀ s ∈ w.made, Embeddable s.name ∧ ∃ recipients seed,
    host.encrypt recipients seed (enveloped host s.name s.generation s.payload) = .ok s.ciphertext

variable {host}

theorem entries_after_writes (d : Disk) (ws : List Write) (name : String) {f : EntryFile}
    (h : (ws.foldl Disk.apply d).entries (entryFile name) = some f) :
    (∃ e, f = .regular (some e) ∧ lastWritten ws name = some e) ∨
      (lastWritten ws name = none ∧ d.entries (entryFile name) = some f) := by
  induction ws using List.reverseRecOn with
  | nil => exact .inr ⟨rfl, h⟩
  | append_singleton _ w ih =>
    rw [foldl_append, foldl_cons, foldl_nil] at h
    cases w with
    | entry _ e =>
      rw [Disk.entries_entry, Function.update_apply] at h
      rw [lastWritten_file]
      split_ifs at h with hf
      · cases h
        exact .inl ⟨e, rfl, if_pos hf.symm⟩
      · rw [if_neg (Ne.symm hf)]
        exact ih h
    | remove =>
      rw [Disk.entries_remove, Function.update_apply] at h
      rw [lastWritten_other fun _ => rfl]
      split_ifs at h with hf
      exact ih h
    | index | wal | removeWal =>
      rw [lastWritten_other fun _ => rfl]
      exact ih h

variable {payload : SecretPayload}

theorem sealed_of_sealPayload {name : String} {generation : UInt64} {recipients : List String} {seed : Nat}
    {c : Bytes} (h : sealPayload host name generation payload recipients seed = .ok c) :
    Embeddable name ∧ ∃ recipients seed,
      host.encrypt recipients seed (enveloped host name generation payload) = .ok c := by
  have hname := embeddable_of_sealPayload h
  rw [sealPayload_of_embeddable hname, mapError_eq_ok] at h
  exact ⟨hname, recipients, seed, h⟩

theorem sealed_of_madeBy {d : Disk} {op : StoreOp ι} : ∀ s ∈ madeBy host d op, Embeddable s.name ∧
    ∃ recipients seed, host.encrypt recipients seed (enveloped host s.name s.generation s.payload) =
      .ok s.ciphertext := by
  intro s hs
  cases op with
  | rename old new identity recipients draw =>
    rw [madeBy] at hs
    rcases hcheck : checkRename host old new identity recipients draw d with er | _ | ⟨oldEntry, newEntry⟩
    · rw [hcheck] at hs
      cases hs
    · rw [hcheck] at hs
      cases hs
    rw [hcheck] at hs
    dsimp only at hs
    obtain ⟨-, -, -, hprep⟩ := checkRename_eq_some.mp hcheck
    obtain ⟨-, -, -, -, payload, hdec, rows, -, e', he', hp⟩ := prepareRename_eq_ok.mp hprep
    obtain ⟨-, -, c, hc, rfl⟩ := SecretEntry.new_eq_ok.mp he'
    rw [hdec] at hs
    obtain rfl := mem_singleton.mp hs
    dsimp only at hp
    rw [hp]
    exact sealed_of_sealPayload hc
  | nextGeneration | put | delete => cases hs

namespace World.Sound

variable {w : World}

theorem make (h : w.Sound host) {s : Sealed} (hs : Embeddable s.name ∧ ∃ recipients seed,
    host.encrypt recipients seed (enveloped host s.name s.generation s.payload) = .ok s.ciphertext) :
    (w.make s).Sound host where
  files := by
    intro n f hf
    obtain ⟨e, he, hlatest | ⟨s', hs', hcipher⟩⟩ := h.files n f hf
    · exact ⟨e, he, .inl hlatest⟩
    · exact ⟨e, he, .inr ⟨s', mem_cons_of_mem _ hs', hcipher⟩⟩
  made := by
    intro s' hs'
    rcases mem_cons.mp hs' with rfl | hs'
    · exact hs
    · exact h.made s' hs'

theorem call (h : w.Sound host) (op : StoreOp ι) : (w.call host op).Sound host where
  files := by
    intro n f hf
    rw [World.call] at hf ⊢
    dsimp only at hf ⊢
    rw [diskOf, Session.disk, (extends_after host (Session.of w.disk) op).start] at hf
    rcases entries_after_writes w.disk _ n hf with ⟨e, he, hlast⟩ | ⟨hlast, hfile⟩
    · refine ⟨e, he, .inl ?_⟩
      rw [hlast, Option.some_or]
    · rw [hlast, Option.none_or]
      obtain ⟨e, he, hlatest | ⟨s, hs, hcipher⟩⟩ := h.files n f hfile
      · exact ⟨e, he, .inl hlatest⟩
      · exact ⟨e, he, .inr ⟨s, mem_append_right _ hs, hcipher⟩⟩
  made := by
    intro s hs
    rcases mem_append.mp hs with hs | hs
    · exact sealed_of_madeBy s hs
    · exact h.made s hs

theorem plant (h : w.Sound host) {name : String} {e : SecretEntry} (hplant : Plantable w name e) :
    (w.plant name e).Sound host where
  files := by
    intro n f hf
    rw [World.plant] at hf ⊢
    dsimp only at hf ⊢
    rw [Disk.entries_entry, Function.update_apply] at hf
    split_ifs at hf with hn
    · cases hf
      exact ⟨e, rfl, .inr hplant.2⟩
    · exact h.files n f hf
  made := by
    rw [World.plant]
    exact h.made

theorem step (h : w.Sound host) (step : WorldStep ι) : (w.step host step).Sound host := by
  cases step with
  | create name itemType payload metadata recipients generation draw =>
    rw [World.step]
    rcases hnew : SecretEntry.new host name itemType payload metadata recipients generation draw with er | e
    · exact h
    · obtain ⟨-, -, c, hc, rfl⟩ := SecretEntry.new_eq_ok.mp hnew
      exact h.make (s := ⟨name, generation, payload, c⟩) (sealed_of_sealPayload hc)
  | setPayload e payload recipients generation draw =>
    rw [World.step]
    rcases hset : e.setPayload host payload recipients generation draw with er | e'
    · exact h
    · rw [SecretEntry.setPayload, guard_eq_ok, map_eq_ok] at hset
      obtain ⟨-, c, hc, rfl⟩ := hset
      exact h.make (s := ⟨e.name, generation, payload, c⟩) (sealed_of_sealPayload hc)
  | call op => exact h.call op
  | plant =>
    rw [World.step]
    split_ifs with hplant
    · exact h.plant hplant
    · exact h

theorem run (host : SecretHost ι) (steps : List (WorldStep ι)) : (World.run host steps).Sound host := by
  have hfresh : World.fresh.Sound host := by
    constructor
    · nofun
    · nofun
  rw [World.run]
  generalize World.fresh = w at hfresh
  induction steps generalizing w with
  | nil => exact hfresh
  | cons st _ ih => exact ih _ (hfresh.step st)

end World.Sound

/-! ## Replays -/

/-- `age` decryption is authentic: what an identity opens is what was encrypted. -/
def Authentic (host : SecretHost ι) (identity : ι) : Prop :=
  ∀ recipients seed m c m', host.encrypt recipients seed m = .ok c → host.decrypt identity c = .ok m' → m' = m

/-- The payload is the one of the last entry written for the name. -/
def LatestReads (host : SecretHost ι) (identity : ι) (w : World) (name : String) (payload : SecretPayload) : Prop :=
  ∃ e, w.latest name = some e ∧ e.decrypt host identity = .ok payload

/-- Whatever is planted at the name, reading and decrypting it fails or gives the last payload. -/
def NoReplay (host : SecretHost ι) (identity : ι) (w : World) (name : String) : Prop :=
  ∀ w', (w' = w ∨ ∃ e, Plantable w name e ∧ w' = w.plant name e) → ∀ e payload, get host name w'.disk = .ok e →
    e.decrypt host identity = .ok payload → LatestReads host identity w name payload

/-- No read of the name succeeds, whatever its file is: there is none, the name is not valid, the index does
not read, or the name is deleted. -/
def Guarded (host : SecretHost ι) (w : World) (name : String) : Prop :=
  (w.disk.entries (entryFile name)).isSome = false ∨ ¬ ValidName name ∨ (∀ rows, readIndexRaw host w.disk ≠ .ok rows) ∨
    ∃ rows row, readIndexRaw host w.disk = .ok rows ∧ rowOf rows name = some row ∧ row.tombstone = true

variable {w : World} {name : String} {identity : ι}

theorem readIndexRaw_plant (w : World) (name : String) (e : SecretEntry) :
    readIndexRaw host (w.plant name e).disk = readIndexRaw host w.disk := by
  rw [World.plant, readIndexRaw_entry]

theorem Guarded.get_ne_ok (h : Guarded host w name) {w' : World}
    (hw : w' = w ∨ ∃ e, Plantable w name e ∧ w' = w.plant name e) (e : SecretEntry) :
    get host name w'.disk ≠ .ok e := by
  intro hget
  obtain ⟨hv, hfile, -, rows, hrows, hagree⟩ := get_eq_ok.mp hget
  have hindex : readIndexRaw host w.disk = .ok rows := by
    rcases hw with rfl | ⟨e', -, rfl⟩
    · exact hrows
    · rw [← readIndexRaw_plant w name e', hrows]
  have hthere : (w.disk.entries (entryFile name)).isSome = true := by
    rcases hw with rfl | ⟨e', hplant, -⟩
    · rw [hfile]
      rfl
    · exact hplant.1
  rcases h with hnone | hv' | hunread | ⟨rows', row, hrows', hrow, htomb⟩
  · rw [hthere] at hnone
    cases hnone
  · exact hv' hv
  · exact hunread rows hindex
  · obtain rfl : rows = rows' := Except.ok.inj (hindex.symm.trans hrows')
    have hlive := (checkAgreement_eq_ok.mp hagree row hrow).1
    rw [htomb] at hlive
    cases hlive

theorem World.Sound.decrypt_made (h : w.Sound host) (hauth : Authentic host identity) {s : Sealed} (hs : s ∈ w.made)
    {e : SecretEntry} (hcipher : s.ciphertext = e.ciphertext) (hdec : e.decrypt host identity = .ok payload) :
    s.name = e.name ∧ (e.generation = 0 ∨ s.generation = e.generation) ∧
      (∃ m, host.decrypt identity s.ciphertext = .ok m) ∧
      host.readPayload (host.payloadJson s.payload) = some payload := by
  obtain ⟨hname, recipients, seed, henc⟩ := h.made s hs
  obtain ⟨m, opened, hm, hopen, hread⟩ := SecretEntry.decrypt_eq_ok.mp hdec
  rw [← hcipher] at hm
  have heq : m = enveloped host s.name s.generation s.payload := hauth recipients seed _ _ m henc hm
  rw [heq, openEnvelope_enveloped hname, guard_eq_ok, guard_eq_ok, not_not] at hopen
  obtain ⟨hsame, hgen, hopened⟩ := hopen
  cases hopened
  refine ⟨hsame, ?_, ⟨_, hm⟩, hread⟩
  by_contra hc
  exact hgen (not_or.mp hc)

def zeroHeader (s : Sealed) : SecretEntry where
  id := ""
  name := s.name
  itemType := .note
  createdAt := ""
  updatedAt := ""
  metadata := .empty
  generation := 0
  ciphertext := s.ciphertext

theorem get_zeroHeader {s : Sealed} (hg : ¬ Guarded host w s.name) :
    get host s.name (w.plant s.name (zeroHeader s)).disk = .ok (zeroHeader s) := by
  rw [Guarded, not_or, not_or, not_or, not_not] at hg
  obtain ⟨-, hv, hread, hlive⟩ := hg
  obtain ⟨rows, hrows⟩ : ∃ rows, readIndexRaw host w.disk = .ok rows := by
    by_contra hc
    exact hread fun rows hrows => hc ⟨rows, hrows⟩
  refine get_eq_ok.mpr ⟨hv, ?_, rfl, rows, ?_, checkAgreement_eq_ok.mpr fun row hrow => ?_⟩
  · exact Function.update_self ..
  · rw [readIndexRaw_plant, hrows]
  · refine ⟨?_, .inr (.inl rfl)⟩
    by_contra htomb
    exact hlive ⟨rows, row, hrows, hrow, Bool.not_eq_false _ ▸ htomb⟩

theorem World.Sound.decrypt_zeroHeader (h : w.Sound host) (hauth : Authentic host identity) {s : Sealed}
    (hs : s ∈ w.made) {m : Bytes} (hm : host.decrypt identity s.ciphertext = .ok m)
    (hread : host.readPayload (host.payloadJson s.payload) = some payload) :
    (zeroHeader s).decrypt host identity = .ok payload := by
  obtain ⟨hname, recipients, seed, henc⟩ := h.made s hs
  have heq : m = enveloped host s.name s.generation s.payload := hauth recipients seed _ _ m henc hm
  rw [heq] at hm
  refine SecretEntry.decrypt_eq_ok.mpr ⟨_, (s.generation.toNat, host.payloadJson s.payload), hm, ?_, hread⟩
  have hsame : s.name = (zeroHeader s).name := rfl
  have hzero : (zeroHeader s).generation = 0 := rfl
  rw [openEnvelope_enveloped hname, if_neg (not_not.mpr hsame), if_neg fun hg => hg.1 hzero]

/-- **Reads of a name are safe from replays exactly when** no read of it succeeds at all, or every ciphertext
the owner ever made for the name and the identity opens holds the payload of the last entry written. -/
theorem no_replay_iff (hauth : Authentic host identity) (steps : List (WorldStep ι)) (name : String) :
    NoReplay host identity (World.run host steps) name ↔ Guarded host (World.run host steps) name ∨
      ∀ s ∈ (World.run host steps).made, s.name = name → (∃ m, host.decrypt identity s.ciphertext = .ok m) →
        ∀ payload, host.readPayload (host.payloadJson s.payload) = some payload →
          LatestReads host identity (World.run host steps) name payload := by
  have hsound := World.Sound.run host steps
  constructor
  · intro hsafe
    by_cases hg : Guarded host (World.run host steps) name
    · exact .inl hg
    refine .inr fun s hs hname hopen payload hread => ?_
    obtain rfl := hname
    obtain ⟨m, hm⟩ := hopen
    have hthere : Plantable (World.run host steps) s.name (zeroHeader s) := by
      rw [Guarded, not_or, Bool.not_eq_false] at hg
      exact ⟨hg.1, s, hs, rfl⟩
    exact hsafe _ (.inr ⟨zeroHeader s, hthere, rfl⟩) _ payload (get_zeroHeader hg)
      (hsound.decrypt_zeroHeader hauth hs hm hread)
  · rintro (hg | hmade) w' hw e payload hget hdec
    · exact absurd hget (hg.get_ne_ok hw e)
    · obtain ⟨-, hfile, hname, -⟩ := get_eq_ok.mp hget
      -- the file that was read is the last one written or around a ciphertext of the owner
      have hcases : (World.run host steps).latest name = some e ∨
          ∃ s ∈ (World.run host steps).made, s.ciphertext = e.ciphertext := by
        rcases hw with rfl | ⟨e', hplant, rfl⟩
        · obtain ⟨e', he', hfrom⟩ := hsound.files name _ hfile
          cases he'
          exact hfrom
        · rw [World.plant, Disk.entries_entry, Function.update_self] at hfile
          cases hfile
          exact .inr hplant.2
      rcases hcases with hlatest | ⟨s, hs, hcipher⟩
      · exact ⟨e, hlatest, hdec⟩
      · obtain ⟨hsame, -, hopen, hread⟩ := hsound.decrypt_made hauth hs hcipher hdec
        exact hmade s hs (hsame.trans hname) hopen payload hread

end Replay

/-! ## A concrete replay -/

theorem authentic_plainHost : Authentic plainHost () := by
  intro recipients seed m c m' henc hdec
  cases henc
  cases hdec
  rfl

theorem no_replay_iff_fresh : NoReplay plainHost () (World.run plainHost []) "a" :=
  (no_replay_iff authentic_plainHost [] "a").mpr (.inl (.inl rfl))

/-- The ciphertext of `plainEntry`. -/
def plainSealed (name : String) (generation : UInt64) (secret : String) : Sealed :=
  ⟨name, generation, ⟨secret, none, none⟩, (plainEntry name generation secret).ciphertext⟩

/-- Two entries for `a`, one after the other, each sealed and put. -/
def twoPuts : List (WorldStep Unit) :=
  [.create "a" .password ⟨"x", none, none⟩ .empty [] 1 ⟨"1", "0", 0⟩, .call (.put (plainEntry "a" 1 "x")),
    .create "a" .password ⟨"y", none, none⟩ .empty [] 2 ⟨"1", "0", 0⟩, .call (.put (plainEntry "a" 2 "y"))]

theorem step_create (w : World) {name : String} (hv : ValidName name) {generation : UInt64} (hg : generation ≠ 0)
    (secret : String) :
    w.step plainHost (.create name .password ⟨secret, none, none⟩ .empty [] generation ⟨"1", "0", 0⟩) =
      w.make (plainSealed name generation secret) := by
  have hnew : SecretEntry.new plainHost name .password ⟨secret, none, none⟩ .empty [] generation ⟨"1", "0", 0⟩ =
      .ok (plainEntry name generation secret) :=
    SecretEntry.new_eq_ok.mpr ⟨hv, hg, _, sealPayload_of_embeddable hv.embeddable _ _ _ _, rfl⟩
  rw [World.step, hnew]
  rfl

theorem step_call (w : World) (op : StoreOp Unit) : w.step plainHost (.call op) = w.call plainHost op := rfl

theorem call_put {w : World} {e : SecretEntry} {rows : List SecretIndexEntry} (hv : ValidName e.name)
    (hrows : readIndexRaw plainHost w.disk = .ok rows) (hgen : e.generation = nextOf rows e.name) :
    w.call plainHost (.put e) = ⟨diskOf (afterPut plainHost rows e (Session.of w.disk)), w.made,
      fun name => (if e.name = name then some e else none).or (w.latest name)⟩ := by
  have hexec : StoreOp.after plainHost (Session.of w.disk) (.put e) = afterPut plainHost rows e (Session.of w.disk) := by
    have hread : readIndexRaw plainHost (diskOf (Session.of w.disk)) = .ok rows := hrows
    rw [StoreOp.after, StoreOp.prog, exec_put hv hread hgen]
  have hmade : madeBy plainHost w.disk (.put e) = [] := rfl
  have hlast : ∀ name, lastWritten (afterPut plainHost rows e (Session.of w.disk)).writes name =
      if e.name = name then some e else none := by
    intro name
    rw [afterPut, Session.writes_push, lastWritten_other fun _ => rfl, Session.writes_push, lastWritten_entry]
    rfl
  rw [World.call, hexec, hmade, nil_append]
  simp only [hlast]

def twoDisk : Disk := diskOf (afterPut plainHost oneRows (plainEntry "a" 2 "y") (Session.of (diskOf oneSession)))

theorem refines_two : Refines plainHost (upsertRows oneRows (plainEntry "a" 2 "y").toIndexEntry) twoDisk
    (oneVault.write (plainEntry "a" 2 "y")) := by
  have hfit : Fits plainHost.floats (upsertRows oneRows (plainEntry "a" 2 "y").toIndexEntry) := by decide +kernel
  have hone : Refines plainHost oneRows (diskOf (Session.of (diskOf oneSession))) oneVault := refines_one
  exact hone.after_put (e := plainEntry "a" 2 "y") validName_a hfit

theorem run_twoPuts : (World.run plainHost twoPuts).disk = twoDisk ∧
    (World.run plainHost twoPuts).made = [plainSealed "a" 2 "y", plainSealed "a" 1 "x"] ∧
    (World.run plainHost twoPuts).latest "a" = some (plainEntry "a" 2 "y") := by
  have hempty : readIndexRaw plainHost (World.fresh.make (plainSealed "a" 1 "x")).disk = .ok [] := rfl
  have hput := call_put (e := plainEntry "a" 1 "x") validName_a hempty rfl
  have hone : readIndexRaw plainHost (World.make ⟨diskOf oneSession, [plainSealed "a" 1 "x"],
      fun name => (if "a" = name then some (plainEntry "a" 1 "x") else none).or none⟩
        (plainSealed "a" 2 "y")).disk = .ok oneRows := refines_one.read
  have hput' := call_put (e := plainEntry "a" 2 "y") validName_a hone rfl
  have hrun : World.run plainHost twoPuts = (World.make ⟨diskOf oneSession, [plainSealed "a" 1 "x"],
      fun name => (if "a" = name then some (plainEntry "a" 1 "x") else none).or none⟩
        (plainSealed "a" 2 "y")).call plainHost (.put (plainEntry "a" 2 "y")) := by
    rw [World.run, twoPuts, foldl_cons, foldl_cons, foldl_cons, foldl_cons, foldl_nil,
      step_create World.fresh validName_a (by decide) "x", step_call, step_call, hput,
      step_create _ validName_a (by decide) "y"]
    rfl
  rw [hrun, hput']
  exact ⟨rfl, rfl, rfl⟩

/-- The first payload is back: its ciphertext, under a header of generation 0, in place of the second entry. -/
theorem replay_under_zero_header :
    Plantable (World.run plainHost twoPuts) "a" (zeroHeader (plainSealed "a" 1 "x")) ∧
    get plainHost "a" ((World.run plainHost twoPuts).plant "a" (zeroHeader (plainSealed "a" 1 "x"))).disk =
      .ok (zeroHeader (plainSealed "a" 1 "x")) ∧
    (zeroHeader (plainSealed "a" 1 "x")).decrypt plainHost () = .ok ⟨"x", none, none⟩ ∧
    (World.run plainHost twoPuts).latest "a" = some (plainEntry "a" 2 "y") ∧
    (plainEntry "a" 2 "y").decrypt plainHost () = .ok ⟨"y", none, none⟩ := by
  obtain ⟨hdisk, hmade, hlatest⟩ := run_twoPuts
  have hlive : (oneVault.write (plainEntry "a" 2 "y")).liveAt "a" = some (plainEntry "a" 2 "y") := rfl
  have hfile : (World.run plainHost twoPuts).disk.entries (entryFile "a") =
      some (.regular (some (plainEntry "a" 2 "y"))) := by
    rw [hdisk, refines_two.file, hlive]
    rfl
  have hmem : plainSealed "a" 1 "x" ∈ (World.run plainHost twoPuts).made := by
    exact mem_cons_of_mem _ mem_cons_self
  have hguard : ¬ Guarded plainHost (World.run plainHost twoPuts) "a" := by
    rintro (hnone | hv | hread | ⟨rows, row, hrows, hrow, htomb⟩)
    · rw [hfile] at hnone
      cases hnone
    · exact hv validName_a
    · rw [hdisk] at hread
      exact hread _ refines_two.read
    · rw [hdisk] at hrows
      obtain rfl := Except.ok.inj (refines_two.read.symm.trans hrows)
      cases hrow
      cases htomb
  have hthere : Plantable (World.run plainHost twoPuts) "a" (zeroHeader (plainSealed "a" 1 "x")) := by
    refine ⟨?_, plainSealed "a" 1 "x", hmem, rfl⟩
    rw [hfile]
    rfl
  have hopen : plainHost.decrypt () (plainSealed "a" 1 "x").ciphertext = .ok (plainSealed "a" 1 "x").ciphertext := rfl
  have hdec : (zeroHeader (plainSealed "a" 1 "x")).decrypt plainHost () = .ok ⟨"x", none, none⟩ :=
    (World.Sound.run plainHost twoPuts).decrypt_zeroHeader authentic_plainHost hmem hopen (readPayload_plainHost "x")
  have hname : (plainSealed "a" 1 "x").name = "a" := rfl
  have hget := get_zeroHeader (s := plainSealed "a" 1 "x") (hname.symm ▸ hguard)
  exact ⟨hthere, hget, hdec, hlatest, decrypt_plainEntry validName_a 2 "y"⟩

end OneCipher.Secret
