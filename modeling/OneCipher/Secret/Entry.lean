import OneCipher.Base.JsonText
import OneCipher.Base.Serde
import OneCipher.Secret.Envelope
import OneCipher.Secret.Path

/-!
# OneCipher.Secret.Entry — secret entries and the rows of the index

The records of `oc-core/src/secret.rs` and `oc-secret/src/entry.rs`.  An entry is an encrypted payload with
plaintext metadata; its ciphertext wraps the envelope of `Secret.Envelope`.  The index holds one row per
name, a line of JSON each; `readRow_rowLine` is the round trip of a row.

Encryption is the `age` crate's and the payload's JSON is `serde_json`'s; both are a parameter
(`SecretHost`).
-/

namespace OneCipher.Secret

open JsonText Serde Result List
open Json (asStr)

inductive ItemType where
  | mnemonic | privateKey | password | totp | note | file
  deriving DecidableEq, Repr

/-- The `snake_case` name. -/
def ItemType.text : ItemType → String
  | .mnemonic => "mnemonic"
  | .privateKey => "private_key"
  | .password => "password"
  | .totp => "totp"
  | .note => "note"
  | .file => "file"

def ItemType.all : List ItemType := [.mnemonic, .privateKey, .password, .totp, .note, .file]

def ItemType.ofText (s : String) : Option ItemType := ItemType.all.find? (·.text = s)

theorem ItemType.ofText_text (t : ItemType) : ofText t.text = some t := by
  cases t <;> decide

structure SecretMetadata where
  url : Option String
  username : Option String
  chain : Option String
  issuer : Option String
  account : Option String
  tags : List String
  deriving DecidableEq, Repr

/-- `SecretMetadata::default`. -/
def SecretMetadata.empty : SecretMetadata := ⟨none, none, none, none, none, []⟩

structure SecretPayload where
  secret : String
  notes : Option String
  extra : Option Json

/-- A row of the index. -/
structure SecretIndexEntry where
  id : String
  name : String
  itemType : ItemType
  createdAt : String
  updatedAt : String
  metadata : SecretMetadata
  generation : UInt64
  tombstone : Bool
  deriving DecidableEq, Repr

structure SecretEntry where
  id : String
  name : String
  itemType : ItemType
  createdAt : String
  updatedAt : String
  metadata : SecretMetadata
  generation : UInt64
  ciphertext : Bytes
  deriving DecidableEq, Repr

def SecretEntry.toIndexEntry (e : SecretEntry) : SecretIndexEntry where
  id := e.id
  name := e.name
  itemType := e.itemType
  createdAt := e.createdAt
  updatedAt := e.updatedAt
  metadata := e.metadata
  generation := e.generation
  tombstone := false

@[simp] theorem SecretEntry.name_toIndexEntry (e : SecretEntry) : e.toIndexEntry.name = e.name := rfl

/-! ## Rows as JSON -/

def optionMember (key : String) (value : Option String) : List (String × Json) :=
  (value.map fun s => (key, Json.str s)).toList

def tagsMember (tags : List String) : List (String × Json) :=
  if tags = [] then [] else [("tags", .arr (tags.map .str))]

def SecretMetadata.toJson (m : SecretMetadata) : Json :=
  .obj (optionMember "url" m.url ++ (optionMember "username" m.username ++ (optionMember "chain" m.chain ++
    (optionMember "issuer" m.issuer ++ (optionMember "account" m.account ++ tagsMember m.tags)))))

def SecretIndexEntry.toJson (e : SecretIndexEntry) : Json :=
  .obj [("id", .str e.id), ("name", .str e.name), ("item_type", .str e.itemType.text),
    ("created_at", .str e.createdAt), ("updated_at", .str e.updatedAt), ("metadata", e.metadata.toJson),
    ("generation", .num (.posInt e.generation)), ("tombstone", .bool e.tombstone)]

def readTags : Json → Option (List String)
  | .arr items => items.mapM asStr
  | _ => none

def readItemType (j : Json) : Option ItemType := j.asStr.bind ItemType.ofText

def SecretMetadata.fromJson : Json → Option SecretMetadata
  | .obj ms => do
    let url ← readField readNullable (some none) (fieldValues "url" ms)
    let username ← readField readNullable (some none) (fieldValues "username" ms)
    let chain ← readField readNullable (some none) (fieldValues "chain" ms)
    let issuer ← readField readNullable (some none) (fieldValues "issuer" ms)
    let account ← readField readNullable (some none) (fieldValues "account" ms)
    let tags ← readField readTags (some []) (fieldValues "tags" ms)
    return ⟨url, username, chain, issuer, account, tags⟩
  | _ => none

def SecretIndexEntry.fromJson : Json → Option SecretIndexEntry
  | .obj ms => do
    let id ← readField asStr none (fieldValues "id" ms)
    let name ← readField asStr none (fieldValues "name" ms)
    let itemType ← readField readItemType none (fieldValues "item_type" ms)
    let createdAt ← readField asStr none (fieldValues "created_at" ms)
    let updatedAt ← readField asStr none (fieldValues "updated_at" ms)
    let metadata ← readField SecretMetadata.fromJson none (fieldValues "metadata" ms)
    let generation ← readField readU64 (some 0) (fieldValues "generation" ms)
    let tombstone ← readField Json.asBool (some false) (fieldValues "tombstone" ms)
    return ⟨id, name, itemType, createdAt, updatedAt, metadata, generation, tombstone⟩
  | _ => none

/-! ### Rows read back -/

@[simp] theorem fieldValues_optionMember (key k : String) (value : Option String) :
    fieldValues key (optionMember k value) = if k = key then (value.map Json.str).toList else [] := by
  by_cases h : k = key
  · cases value <;> simp [fieldValues, optionMember, h]
  · cases value <;> simp [fieldValues, optionMember, h]

@[simp] theorem fieldValues_tagsMember (key : String) (tags : List String) :
    fieldValues key (tagsMember tags) =
      if "tags" = key then (if tags = [] then [] else [.arr (tags.map .str)]) else [] := by
  by_cases ht : tags = []
  · simp [fieldValues, tagsMember, ht]
  · by_cases h : "tags" = key
    · simp [fieldValues, tagsMember, ht, h]
    · simp [fieldValues, tagsMember, ht, h]

theorem readField_option (value : Option String) :
    readField readNullable (some none) (value.map Json.str).toList = some value := by
  cases value <;> rfl

theorem mapM_asStr (tags : List String) : (tags.map Json.str).mapM asStr = some tags := by
  induction tags with
  | nil => rfl
  | cons _ _ ih => simp [ih, asStr]

theorem SecretMetadata.fromJson_toJson (m : SecretMetadata) : fromJson m.toJson = some m := by
  have htags : readField readTags (some []) (if m.tags = [] then [] else [.arr (m.tags.map .str)]) = some m.tags := by
    by_cases ht : m.tags = []
    · rw [if_pos ht, ht]
      rfl
    · rw [if_neg ht]
      exact mapM_asStr m.tags
  simp [fromJson, toJson, readField_option, htags]

theorem SecretIndexEntry.fromJson_toJson (e : SecretIndexEntry) : fromJson e.toJson = some e := by
  simp [fromJson, toJson, fieldValues, readField, asStr, Json.asBool, readItemType, readU64,
    ItemType.ofText_text, SecretMetadata.fromJson_toJson]

/-! ### The line of a row -/

section Line

variable (F : FloatText)

variable (e : SecretIndexEntry)

/-- `serde_json::to_string` of a row. -/
def rowLine : List Char := text F e.toJson

/-- `serde_json::from_str` of a row. -/
def readRow (line : List Char) : Option SecretIndexEntry := (read F line).bind SecretIndexEntry.fromJson

variable {F}

theorem SecretMetadata.member_cases {m : SecretMetadata} {members : List (String × Json)}
    (h : m.toJson = .obj members) :
    ∀ p ∈ members, (∃ s, p.2 = .str s) ∨ ∃ tags : List String, p.2 = .arr (tags.map .str) := by
  have hoption : ∀ key value, ∀ p ∈ optionMember key value, ∃ s, p.2 = .str s := by
    rintro key (_ | s) p hp
    · cases hp
    · rw [mem_singleton.mp hp]
      exact ⟨s, rfl⟩
  have htags : ∀ p ∈ tagsMember m.tags, p.2 = .arr (m.tags.map .str) := by
    intro p hp
    rw [tagsMember] at hp
    split_ifs at hp with ht
    · cases hp
    · rw [mem_singleton.mp hp]
  cases h
  intro p hp
  simp only [mem_append] at hp
  rcases hp with hp | hp | hp | hp | hp | hp
  all_goals first
    | exact .inl (hoption _ _ p hp)
    | exact .inr ⟨m.tags, htags p hp⟩

theorem SecretMetadata.writable (m : SecretMetadata) : Writable F m.toJson := by
  refine writableMembers_of_forall fun p hp => ?_
  rcases SecretMetadata.member_cases rfl p hp with ⟨s, hs⟩ | ⟨tags, ht⟩
  · rw [hs]
    exact trivial
  · rw [ht]
    refine writableItems_of_forall fun j hj => ?_
    obtain ⟨s, -, rfl⟩ := mem_map.mp hj
    exact trivial

theorem SecretMetadata.depth_le (m : SecretMetadata) : m.toJson.depth ≤ 2 := by
  refine Nat.succ_le_succ (Json.depthMembers_le fun p hp => ?_)
  rcases SecretMetadata.member_cases rfl p hp with ⟨s, hs⟩ | ⟨tags, ht⟩
  · rw [hs]
    exact Nat.zero_le 1
  · rw [ht]
    refine Nat.succ_le_succ (Json.depthItems_le fun j hj => ?_)
    obtain ⟨s, -, rfl⟩ := mem_map.mp hj
    exact Nat.le_refl 0

theorem SecretIndexEntry.writable : Writable F e.toJson :=
  ⟨trivial, trivial, trivial, trivial, trivial, e.metadata.writable, printable_posInt F e.generation, trivial, trivial⟩

theorem SecretIndexEntry.depth_le : e.toJson.depth ≤ maxLevels := by
  have hmeta := e.metadata.depth_le
  have hdepth : e.toJson.depth = max 0 (max 0 (max 0 (max 0 (max 0 (max e.metadata.toJson.depth 0))))) + 1 := rfl
  rw [hdepth, maxLevels]
  omega

/-- **A row written to the index reads back.** -/
theorem readRow_rowLine : readRow F (rowLine F e) = some e := by
  rw [readRow, rowLine, read_text e.writable e.depth_le]
  exact e.fromJson_toJson

theorem rowLine_ne_nil : rowLine F e ≠ [] := text_obj_ne_nil _

end Line

/-! ## Sealing and opening -/

/-- What is not in the repository: the `age` crate, the text of a payload and the printing of floats. -/
structure SecretHost (ι : Type) where
  floats : FloatText
  encrypt : List String → Nat → Bytes → Except String Bytes
  decrypt : ι → Bytes → Except String Bytes
  payloadJson : SecretPayload → Bytes
  readPayload : Bytes → Option SecretPayload

inductive SecretEntryError where
  | age (message : String)
  | serde
  | invalidName (message : String)
  | tampered (path reason : String)
  deriving DecidableEq, Repr

def SecretEntryError.ofEnvelope : EnvelopeError → SecretEntryError
  | .tampered path reason => .tampered path reason
  | .invalidPath message => .invalidName message

/-- What `SecretEntry::new` draws: an id, the time and the randomness of the encryption. -/
structure Draw where
  id : String
  now : String
  seed : Nat

section Seal

variable {ι : Type} (host : SecretHost ι)

def sealPayload (name : String) (generation : UInt64) (payload : SecretPayload) (recipients : List String)
    (seed : Nat) : Except SecretEntryError Bytes := do
  let enveloped ← (wrapEnvelope name generation.toNat (host.payloadJson payload)).mapError .ofEnvelope
  (host.encrypt recipients seed enveloped).mapError .age

/-- `SecretEntry::new`. -/
def SecretEntry.new (name : String) (itemType : ItemType) (payload : SecretPayload) (metadata : SecretMetadata)
    (recipients : List String) (generation : UInt64) (draw : Draw) : Except SecretEntryError SecretEntry := do
  (validatePath name).mapError fun reason => .invalidName ("invalid secret path '" ++ name ++ "': " ++ reason)
  if generation = 0 then .error (.invalidName "generation must be >= 1")
  else
    let ciphertext ← sealPayload host name generation payload recipients draw.seed
    .ok ⟨draw.id, name, itemType, draw.now, draw.now, metadata, generation, ciphertext⟩

/-- `SecretEntry::set_payload`. -/
def SecretEntry.setPayload (e : SecretEntry) (payload : SecretPayload) (recipients : List String)
    (generation : UInt64) (draw : Draw) : Except SecretEntryError SecretEntry :=
  if generation = 0 then .error (.invalidName "generation must be >= 1")
  else (sealPayload host e.name generation payload recipients draw.seed).map fun ciphertext =>
    { e with ciphertext := ciphertext, generation := generation, updatedAt := draw.now }

def startsWithMagic (bytes : Bytes) : Bool := (Text.utf8 envelopeMagic).isPrefixOf bytes

/-- `decrypt_envelope_json` after the `age` layer: a text without the magic is a legacy payload. -/
def SecretEntry.openEnvelope (e : SecretEntry) (bytes : Bytes) : Except SecretEntryError (Nat × Bytes) :=
  if startsWithMagic bytes then do
    let opened ← (unwrapEnvelope e.name bytes).mapError .ofEnvelope
    if e.generation ≠ 0 ∧ opened.1 ≠ e.generation.toNat then .error (.tampered e.name "generation mismatch")
    else .ok opened
  else .ok (0, bytes)

/-- `decrypt_envelope_json`: the generation and the payload's JSON. -/
def SecretEntry.decryptEnvelopeJson (e : SecretEntry) (identity : ι) : Except SecretEntryError (Nat × Bytes) := do
  let plaintext ← (host.decrypt identity e.ciphertext).mapError .age
  e.openEnvelope plaintext

/-- `SecretEntry::decrypt`. -/
def SecretEntry.decrypt (e : SecretEntry) (identity : ι) : Except SecretEntryError SecretPayload := do
  let opened ← e.decryptEnvelopeJson host identity
  match host.readPayload opened.2 with
  | some payload => .ok payload
  | none => .error .serde

variable {host}

variable {payload : SecretPayload} {name : String}

theorem ValidName.embeddable (h : ValidName name) : Embeddable name := by
  refine ⟨h.plain.1, fun c hc => ?_⟩
  have hplain := h.plain.2 c hc
  refine ⟨?_, ?_, ?_⟩
  all_goals
    rintro rfl
    exact hplain (by decide)

theorem SecretEntry.new_eq_ok {itemType : ItemType} {metadata : SecretMetadata} {recipients : List String}
    {generation : UInt64} {draw : Draw} {e : SecretEntry} :
    SecretEntry.new host name itemType payload metadata recipients generation draw = .ok e ↔
      ValidName name ∧ generation ≠ 0 ∧ ∃ c, sealPayload host name generation payload recipients draw.seed = .ok c ∧
        e = ⟨draw.id, name, itemType, draw.now, draw.now, metadata, generation, c⟩ := by
  rw [SecretEntry.new, bind_eq_ok]
  constructor
  · rintro ⟨⟨⟩, hv, h⟩
    rw [mapError_eq_ok] at hv
    rw [guard_eq_ok, bind_eq_ok] at h
    obtain ⟨hg, c, hc, h⟩ := h
    cases h
    exact ⟨hv, hg, c, hc, rfl⟩
  · rintro ⟨hv, hg, c, hc, rfl⟩
    refine ⟨(), mapError_eq_ok.mpr hv, ?_⟩
    rw [guard_eq_ok, bind_eq_ok]
    exact ⟨hg, c, hc, rfl⟩

def enveloped (host : SecretHost ι) (name : String) (generation : UInt64) (payload : SecretPayload) : Bytes :=
  Text.utf8 (headerText name generation.toNat) ++ 10 :: 10 :: host.payloadJson payload

theorem sealPayload_of_embeddable (h : Embeddable name) (generation : UInt64) (payload : SecretPayload)
    (recipients : List String) (seed : Nat) :
    sealPayload host name generation payload recipients seed =
      (host.encrypt recipients seed (enveloped host name generation payload)).mapError .age := by
  rw [sealPayload, wrapEnvelope_of_embeddable h]
  rfl

theorem embeddable_of_sealPayload {generation : UInt64} {recipients : List String} {seed : Nat} {c : Bytes}
    (h : sealPayload host name generation payload recipients seed = .ok c) : Embeddable name := by
  obtain ⟨m, hm, -⟩ := bind_eq_ok.mp h
  rw [mapError_eq_ok, wrapEnvelope, guard_eq_ok] at hm
  obtain ⟨hplain, -⟩ := hm
  rw [not_or] at hplain
  refine ⟨hplain.1, fun c hc => ?_⟩
  have hc' : ¬ (c = '\n' ∨ c = '\r' ∨ c = Char.ofNat 0) := fun hbad =>
    hplain.2 (any_eq_true.mpr ⟨c, hc, decide_eq_true hbad⟩)
  rw [not_or, not_or] at hc'
  exact hc'

theorem startsWithMagic_enveloped (name : String) (generation : UInt64) (payload : SecretPayload) :
    startsWithMagic (enveloped host name generation payload) = true := by
  rw [startsWithMagic, enveloped, Text.utf8, Text.utf8, headerText, String.toList_ofList, headerLines,
    intercalate_cons_cons, append_assoc, flatMap_append, append_assoc]
  exact isPrefixOf_iff_prefix.mpr (prefix_append _ _)

/-- **What a sealed plaintext opens to under an entry's header**: the name has to be its own and the
generation too, unless the header's generation is 0. -/
theorem openEnvelope_enveloped (h : Embeddable name) (generation : UInt64) (payload : SecretPayload) (e : SecretEntry) :
    e.openEnvelope (enveloped host name generation payload) =
      if name ≠ e.name then .error (.tampered e.name "path mismatch")
      else if e.generation ≠ 0 ∧ generation ≠ e.generation then .error (.tampered e.name "generation mismatch")
      else .ok (generation.toNat, host.payloadJson payload) := by
  have hlt : generation.toNat < 2 ^ 64 := generation.toNat_lt
  rw [SecretEntry.openEnvelope, if_pos (startsWithMagic_enveloped name generation payload), enveloped,
    unwrapEnvelope_wrapped h e.name hlt]
  by_cases hn : name = e.name
  · rw [if_pos hn, if_neg (not_not.mpr hn)]
    have hg : generation.toNat ≠ e.generation.toNat ↔ generation ≠ e.generation := by
      rw [not_iff_not]
      exact UInt64.toNat_inj
    change (if e.generation ≠ 0 ∧ generation.toNat ≠ e.generation.toNat then _ else _) = _
    simp only [hg]
  · rw [if_neg hn, if_pos hn]
    rfl

/-- **When `decrypt` returns**: the `age` layer opens, the envelope is the entry's and the payload parses. -/
theorem SecretEntry.decrypt_eq_ok {e : SecretEntry} {identity : ι} :
    e.decrypt host identity = .ok payload ↔ ∃ m opened, host.decrypt identity e.ciphertext = .ok m ∧
      e.openEnvelope m = .ok opened ∧ host.readPayload opened.2 = some payload := by
  have hparse : ∀ b : Bytes, (match host.readPayload b with
      | some payload => Except.ok payload
      | none => .error SecretEntryError.serde) = .ok payload ↔ host.readPayload b = some payload := by
    intro b
    rcases host.readPayload b with _ | p
    · simp
    · simp
  rw [SecretEntry.decrypt, bind_eq_ok]
  constructor
  · rintro ⟨opened, hopen, h⟩
    rw [SecretEntry.decryptEnvelopeJson, bind_eq_ok] at hopen
    obtain ⟨m, hm, hopen⟩ := hopen
    exact ⟨m, opened, mapError_eq_ok.mp hm, hopen, (hparse _).mp h⟩
  · rintro ⟨m, opened, hm, hopen, h⟩
    refine ⟨opened, ?_, (hparse _).mpr h⟩
    rw [SecretEntry.decryptEnvelopeJson, bind_eq_ok]
    exact ⟨m, mapError_eq_ok.mpr hm, hopen⟩

theorem decrypt_of_sealed {e : SecretEntry} {identity : ι} (h : Embeddable e.name)
    (hplain : host.decrypt identity e.ciphertext = .ok (enveloped host e.name e.generation payload))
    (hread : host.readPayload (host.payloadJson payload) = some payload) : e.decrypt host identity = .ok payload := by
  refine SecretEntry.decrypt_eq_ok.mpr ⟨_, (e.generation.toNat, host.payloadJson payload), hplain, ?_, hread⟩
  rw [openEnvelope_enveloped h, if_neg (not_not.mpr rfl), if_neg fun hg => hg.2 rfl]

end Seal

end OneCipher.Secret
