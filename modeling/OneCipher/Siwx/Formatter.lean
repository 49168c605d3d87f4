import OneCipher.Base.Lines
import OneCipher.Base.Prog
import OneCipher.Siwx.Validate

/-!
# OneCipher.Siwx.Formatter — building messages and the text that is signed

The constructors of `SiwxMessage` (`oc-siwx/src/message.rs`: `new`, the `with_*` builders and
deserialization) and `to_sign_string` of `oc-siwx/src/formatter.rs`.  Every way to build a message runs the
checks of its fields (`Built.wellFormed`).  The text is the list `signLines` joined by newlines
(`toList_toSignString`), which is how the round trips of `Siwx.RoundTrip` look at it.
-/

namespace OneCipher.Siwx

open Result List Option String Lines

/-! ## Building a message -/

/-- The libraries of the builders. -/
structure BuildLib extends SiwxLib where
  instantText : Int → String

/-- `Timestamp::from_instant`. -/
def Timestamp.fromInstant (lib : BuildLib) (t : Int) : Except SiwxError Timestamp :=
  match lib.timestamp (lib.instantText t) with
  | .error e => .error (.invalidTimestamp e)
  | .ok reparsed =>
    if reparsed ≠ t then .error (.invalidTimestamp "timestamp round-trip mismatch")
    else .ok ⟨t, lib.instantText t⟩

namespace SiwxMessage

/-- `SiwxMessage::new`; `now` is the clock. -/
def new (lib : BuildLib) (domain address uri chainId nonce : String) (now : Int) : Except SiwxError SiwxMessage := do
  checkDomain lib.toSiwxLib domain
  checkAddress address
  checkUri lib.toSiwxLib uri
  checkChainId chainId
  checkNonceShape nonce
  let issuedAt ← Timestamp.fromInstant lib now
  return ⟨none, domain, address, none, uri, Siwx.version, chainId, none, nonce, issuedAt, none, none, none, []⟩

variable (lib : BuildLib) (m : SiwxMessage)

def withScheme (scheme : String) : Except SiwxError SiwxMessage :=
  (checkScheme scheme).map fun _ => { m with scheme := some scheme }

def withStatement (statement : String) : Except SiwxError SiwxMessage :=
  (checkStatement statement).map fun _ => { m with statement := some statement }

def withNonce (nonce : String) : Except SiwxError SiwxMessage :=
  (checkNonceShape nonce).map fun _ => { m with nonce := nonce }

def withIssuedAt (t : Int) : Except SiwxError SiwxMessage :=
  (Timestamp.fromInstant lib t).map fun ts => { m with issuedAt := ts }

def withExpirationTime (t : Int) : Except SiwxError SiwxMessage :=
  (Timestamp.fromInstant lib t).map fun ts => { m with expirationTime := some ts }

def withNotBefore (t : Int) : Except SiwxError SiwxMessage :=
  (Timestamp.fromInstant lib t).map fun ts => { m with notBefore := some ts }

def withIssuedAtRaw (s : String) : Except SiwxError SiwxMessage :=
  (Timestamp.parse lib.toSiwxLib s).map fun ts => { m with issuedAt := ts }

def withExpirationTimeRaw (s : String) : Except SiwxError SiwxMessage :=
  (Timestamp.parse lib.toSiwxLib s).map fun ts => { m with expirationTime := some ts }

def withNotBeforeRaw (s : String) : Except SiwxError SiwxMessage :=
  (Timestamp.parse lib.toSiwxLib s).map fun ts => { m with notBefore := some ts }

def withRequestId (rid : String) : Except SiwxError SiwxMessage :=
  (checkRequestId rid).map fun _ => { m with requestId := some rid }

def withResources (resources : List String) : Except SiwxError SiwxMessage :=
  (checkResources lib.toSiwxLib resources).map fun _ => { m with resources := resources }

end SiwxMessage

/-- A call of one of the builders. -/
inductive BuilderCall where
  | scheme (s : String)
  | statement (s : String)
  | nonce (s : String)
  | issuedAt (t : Int)
  | expirationTime (t : Int)
  | notBefore (t : Int)
  | issuedAtRaw (s : String)
  | expirationTimeRaw (s : String)
  | notBeforeRaw (s : String)
  | requestId (s : String)
  | resources (uris : List String)

def SiwxMessage.build (lib : BuildLib) (m : SiwxMessage) : BuilderCall → Except SiwxError SiwxMessage
  | .scheme s => m.withScheme s
  | .statement s => m.withStatement s
  | .nonce s => m.withNonce s
  | .issuedAt t => m.withIssuedAt lib t
  | .expirationTime t => m.withExpirationTime lib t
  | .notBefore t => m.withNotBefore lib t
  | .issuedAtRaw s => m.withIssuedAtRaw lib s
  | .expirationTimeRaw s => m.withExpirationTimeRaw lib s
  | .notBeforeRaw s => m.withNotBeforeRaw lib s
  | .requestId s => m.withRequestId s
  | .resources uris => m.withResources lib uris

/-- The fields of a message as JSON gives them; those that are left out are `none` or empty. -/
structure RawMessage where
  scheme : Option String
  domain : String
  address : String
  statement : Option String
  uri : String
  version : String
  chainId : String
  chainName : Option String
  nonce : String
  issuedAt : String
  expirationTime : Option String
  notBefore : Option String
  requestId : Option String
  resources : List String

/-- Deserialization: the timestamps are parsed, then `TryFrom<SiwxMessageDto>` checks the rest. -/
def RawMessage.deserialize (lib : SiwxLib) (dto : RawMessage) : Except SiwxError SiwxMessage := do
  let issuedAt ← Timestamp.parse lib dto.issuedAt
  let expirationTime ← parseOptional lib dto.expirationTime
  let notBefore ← parseOptional lib dto.notBefore
  checkOptional checkScheme dto.scheme
  checkDomain lib dto.domain
  checkAddress dto.address
  checkOptional checkStatement dto.statement
  checkUri lib dto.uri
  checkVersion dto.version
  SiwxMessage.checkChainId dto.chainId
  checkNonceShape dto.nonce
  checkOptional checkRequestId dto.requestId
  checkResources lib dto.resources
  return ⟨dto.scheme, dto.domain, dto.address, dto.statement, dto.uri, dto.version, dto.chainId, dto.chainName,
    dto.nonce, issuedAt, expirationTime, notBefore, dto.requestId, dto.resources⟩

/-- The messages that can be built. -/
inductive Built (lib : BuildLib) : SiwxMessage → Prop where
  | new {m : SiwxMessage} {domain address uri chainId nonce : String} {now : Int}
      (h : SiwxMessage.new lib domain address uri chainId nonce now = .ok m) : Built lib m
  | build {m m' : SiwxMessage} {call : BuilderCall} (hm : Built lib m) (h : m.build lib call = .ok m') : Built lib m'
  | deserialize {m : SiwxMessage} {dto : RawMessage} (h : dto.deserialize lib.toSiwxLib = .ok m) : Built lib m

/-! ## Every message that can be built passes its checks -/

/-- The text of a timestamp is one that the parser takes to it. -/
def Timestamp.Stable (lib : SiwxLib) (t : Timestamp) : Prop := Timestamp.parse lib t.original = .ok t

/-- The checks of the fields. -/
structure WellFormed (lib : SiwxLib) (m : SiwxMessage) : Prop where
  scheme : checkOptional checkScheme m.scheme = .ok ()
  domain : checkDomain lib m.domain = .ok ()
  address : checkAddress m.address = .ok ()
  statement : checkOptional checkStatement m.statement = .ok ()
  uri : checkUri lib m.uri = .ok ()
  version : checkVersion m.version = .ok ()
  chainId : SiwxMessage.checkChainId m.chainId = .ok ()
  nonce : checkNonceShape m.nonce = .ok ()
  issuedAt : m.issuedAt.Stable lib
  expirationTime : ∀ t ∈ m.expirationTime, t.Stable lib
  notBefore : ∀ t ∈ m.notBefore, t.Stable lib
  requestId : checkOptional checkRequestId m.requestId = .ok ()
  resources : checkResources lib m.resources = .ok ()

/-- The text of an instant is an RFC 3339 date-time with a timezone. -/
def InstantsAreDateTimes (lib : BuildLib) : Prop :=
  ∀ t, Text.contains "T" (lib.instantText t) = true ∧ hasRfc3339Timezone (lib.instantText t) = true

theorem Timestamp.original_of_parse {lib : SiwxLib} {s : String} {t : Timestamp} (h : Timestamp.parse lib s = .ok t) :
    t.original = s := by
  rw [Timestamp.parse, guard_eq_ok, guard_eq_ok] at h
  obtain ⟨-, -, h⟩ := h
  rcases hts : lib.timestamp s with e | parsed
  · rw [hts] at h
    cases h
  · rw [hts] at h
    cases h
    rfl

theorem Timestamp.stable_of_parse {lib : SiwxLib} {s : String} {t : Timestamp} (h : Timestamp.parse lib s = .ok t) :
    t.Stable lib := by
  rw [Stable, original_of_parse h]
  exact h

theorem Timestamp.stable_of_fromInstant {lib : BuildLib} (hlib : InstantsAreDateTimes lib) {i : Int} {t : Timestamp}
    (h : Timestamp.fromInstant lib i = .ok t) : t.Stable lib.toSiwxLib := by
  obtain ⟨hT, hzone⟩ := hlib i
  rw [Timestamp.fromInstant] at h
  rcases hts : lib.timestamp (lib.instantText i) with e | reparsed
  · rw [hts] at h
    cases h
  · rw [hts, guard_eq_ok, not_not] at h
    obtain ⟨rfl, h⟩ := h
    cases h
    rw [Stable, Timestamp.parse, if_neg (not_not.mpr (.inl hT)), if_neg (not_not.mpr hzone), hts]

theorem stable_of_parseOptional {lib : SiwxLib} {s : Option String} {t : Option Timestamp}
    (h : parseOptional lib s = .ok t) : ∀ ts ∈ t, ts.Stable lib := by
  intro ts hts
  rcases s with _ | s
  · cases h
    cases hts
  · obtain ⟨ts', hparse, rfl⟩ := map_eq_ok.mp h
    cases hts
    exact Timestamp.stable_of_parse hparse

theorem wellFormed_new {lib : BuildLib} (hlib : InstantsAreDateTimes lib) {m : SiwxMessage}
    {domain address uri chainId nonce : String} {now : Int}
    (h : SiwxMessage.new lib domain address uri chainId nonce now = .ok m) : WellFormed lib.toSiwxLib m := by
  obtain ⟨⟨⟩, hdomain, h⟩ := bind_eq_ok.mp h
  obtain ⟨⟨⟩, haddress, h⟩ := bind_eq_ok.mp h
  obtain ⟨⟨⟩, huri, h⟩ := bind_eq_ok.mp h
  obtain ⟨⟨⟩, hchain, h⟩ := bind_eq_ok.mp h
  obtain ⟨⟨⟩, hnonce, h⟩ := bind_eq_ok.mp h
  obtain ⟨issuedAt, hissued, h⟩ := bind_eq_ok.mp h
  cases h
  exact ⟨rfl, hdomain, haddress, rfl, huri, rfl, hchain, hnonce, Timestamp.stable_of_fromInstant hlib hissued,
    nofun, nofun, rfl, rfl⟩

theorem wellFormed_build {lib : BuildLib} (hlib : InstantsAreDateTimes lib) {m m' : SiwxMessage} {call : BuilderCall}
    (hm : WellFormed lib.toSiwxLib m) (h : m.build lib call = .ok m') : WellFormed lib.toSiwxLib m' := by
  cases call with
  | scheme =>
    obtain ⟨⟨⟩, hs, rfl⟩ := map_eq_ok.mp h
    exact { hm with scheme := hs }
  | statement =>
    obtain ⟨⟨⟩, hs, rfl⟩ := map_eq_ok.mp h
    exact { hm with statement := hs }
  | nonce =>
    obtain ⟨⟨⟩, hs, rfl⟩ := map_eq_ok.mp h
    exact { hm with nonce := hs }
  | issuedAt =>
    obtain ⟨ts, hts, rfl⟩ := map_eq_ok.mp h
    exact { hm with issuedAt := Timestamp.stable_of_fromInstant hlib hts }
  | expirationTime =>
    obtain ⟨ts, hts, rfl⟩ := map_eq_ok.mp h
    exact { hm with expirationTime := fun _ he => mem_some.mp he ▸ Timestamp.stable_of_fromInstant hlib hts }
  | notBefore =>
    obtain ⟨ts, hts, rfl⟩ := map_eq_ok.mp h
    exact { hm with notBefore := fun _ he => mem_some.mp he ▸ Timestamp.stable_of_fromInstant hlib hts }
  | issuedAtRaw =>
    obtain ⟨ts, hts, rfl⟩ := map_eq_ok.mp h
    exact { hm with issuedAt := Timestamp.stable_of_parse hts }
  | expirationTimeRaw =>
    obtain ⟨ts, hts, rfl⟩ := map_eq_ok.mp h
    exact { hm with expirationTime := fun _ he => mem_some.mp he ▸ Timestamp.stable_of_parse hts }
  | notBeforeRaw =>
    obtain ⟨ts, hts, rfl⟩ := map_eq_ok.mp h
    exact { hm with notBefore := fun _ he => mem_some.mp he ▸ Timestamp.stable_of_parse hts }
  | requestId =>
    obtain ⟨⟨⟩, hs, rfl⟩ := map_eq_ok.mp h
    exact { hm with requestId := hs }
  | resources =>
    obtain ⟨⟨⟩, hs, rfl⟩ := map_eq_ok.mp h
    exact { hm with resources := hs }

theorem wellFormed_deserialize {lib : SiwxLib} {dto : RawMessage} {m : SiwxMessage}
    (h : dto.deserialize lib = .ok m) : WellFormed lib m := by
  obtain ⟨issuedAt, hissued, h⟩ := bind_eq_ok.mp h
  obtain ⟨expirationTime, hexpires, h⟩ := bind_eq_ok.mp h
  obtain ⟨notBefore, hbefore, h⟩ := bind_eq_ok.mp h
  obtain ⟨⟨⟩, hscheme, h⟩ := bind_eq_ok.mp h
  obtain ⟨⟨⟩, hdomain, h⟩ := bind_eq_ok.mp h
  obtain ⟨⟨⟩, haddress, h⟩ := bind_eq_ok.mp h
  obtain ⟨⟨⟩, hstatement, h⟩ := bind_eq_ok.mp h
  obtain ⟨⟨⟩, huri, h⟩ := bind_eq_ok.mp h
  obtain ⟨⟨⟩, hversion, h⟩ := bind_eq_ok.mp h
  obtain ⟨⟨⟩, hchain, h⟩ := bind_eq_ok.mp h
  obtain ⟨⟨⟩, hnonce, h⟩ := bind_eq_ok.mp h
  obtain ⟨⟨⟩, hrequest, h⟩ := bind_eq_ok.mp h
  obtain ⟨⟨⟩, hresources, h⟩ := bind_eq_ok.mp h
  cases h
  exact ⟨hscheme, hdomain, haddress, hstatement, huri, hversion, hchain, hnonce, Timestamp.stable_of_parse hissued,
    stable_of_parseOptional hexpires, stable_of_parseOptional hbefore, hrequest, hresources⟩

/-- **A message that can be built passes the checks of its fields.** -/
theorem Built.wellFormed {lib : BuildLib} (hlib : InstantsAreDateTimes lib) {m : SiwxMessage} (h : Built lib m) :
    WellFormed lib.toSiwxLib m := by
  induction h with
  | new h => exact wellFormed_new hlib h
  | build _ h ih => exact wellFormed_build hlib ih h
  | deserialize h => exact wellFormed_deserialize h

/-! ## The text -/

/-- `push_tag`. -/
def pushTag (tag value : String) : String := tag ++ value ++ "\n"

/-- `str::trim_end_matches('\n')`. -/
def trimEndNewlines (s : String) : String := String.ofList (s.toList.rdropWhile (· = '\n'))

namespace SiwxMessage

variable (m : SiwxMessage)

variable (chainName : String)

/-- What `to_sign_string` pushes. -/
def pushed : String :=
  (m.scheme.map fun scheme => scheme ++ "://").getD "" ++ m.domain ++ preambleMid ++ chainName ++ preambleTail ++
    "\n" ++ m.address ++ "\n" ++ "\n" ++ (m.statement.map fun stmt => stmt ++ "\n").getD "" ++ "\n" ++
    pushTag uriTag m.uri ++ pushTag versionTag m.version ++ pushTag chainTag m.chainId ++ pushTag nonceTag m.nonce ++
    pushTag iatTag m.issuedAt.original ++ (m.expirationTime.map fun t => pushTag expTag t.original).getD "" ++
    (m.notBefore.map fun t => pushTag nbfTag t.original).getD "" ++ (m.requestId.map (pushTag ridTag)).getD "" ++
    (if m.resources = [] then ""
      else resTag ++ "\n" ++ String.join (m.resources.map fun r => "- " ++ r ++ "\n"))

/-- `to_sign_string`. -/
def toSignString : String := trimEndNewlines (m.pushed chainName)

/-! ### Line by line -/

def headerLine : String :=
  (m.scheme.map fun scheme => scheme ++ "://").getD "" ++ m.domain ++ preambleMid ++ chainName ++ preambleTail

def resourceLines : List String := if m.resources = [] then [] else resTag :: m.resources.map ("- " ++ ·)

def optionalLines : List String :=
  (m.expirationTime.map fun t => expTag ++ t.original).toList ++
    ((m.notBefore.map fun t => nbfTag ++ t.original).toList ++
      ((m.requestId.map fun rid => ridTag ++ rid).toList ++ m.resourceLines))

def requiredLines : List String :=
  [uriTag ++ m.uri, versionTag ++ m.version, chainTag ++ m.chainId, nonceTag ++ m.nonce, iatTag ++ m.issuedAt.original]

def signLines : List String :=
  m.headerLine chainName :: m.address :: "" :: (m.statement.toList ++ "" :: (m.requiredLines ++ m.optionalLines))

def label : String := m.chainName.getD ""

theorem toList_newline : "\n".toList = ['\n'] := by decide

theorem toList_join_lines (rs : List String) (line : String → String) :
    (String.join (rs.map fun r => line r ++ "\n")).toList = Lines.unlines ((rs.map line).map String.toList) := by
  rw [String.toList_join, Lines.unlines, flatMap_map, flatMap_map, flatMap_map]
  simp only [toList_append, toList_newline]

theorem toList_optional {α : Type} (o : Option α) (line : α → String) :
    ((o.map fun a => line a ++ "\n").getD "").toList = Lines.unlines ((o.map line).toList.map String.toList) := by
  rcases o with _ | a
  · rfl
  · rw [map_some, map_some, getD_some, toList_some, map_singleton, unlines_cons,
      toList_append, toList_newline]
    rfl

theorem toList_resources :
    (if m.resources = [] then "" else resTag ++ "\n" ++
      String.join (m.resources.map fun r => "- " ++ r ++ "\n")).toList =
        Lines.unlines (m.resourceLines.map String.toList) := by
  rw [resourceLines]
  split_ifs
  · rfl
  · rw [toList_append, toList_append, toList_join_lines, toList_newline, map_cons,
      unlines_cons, List.append_assoc, singleton_append]

theorem toList_pushed : (m.pushed chainName).toList = Lines.unlines ((m.signLines chainName).map String.toList) := by
  have hresources := m.toList_resources
  have hstatement := toList_optional m.statement fun s => s
  have hexpires := toList_optional m.expirationTime fun t => expTag ++ t.original
  have hbefore := toList_optional m.notBefore fun t => nbfTag ++ t.original
  have hrequest := toList_optional m.requestId fun rid => ridTag ++ rid
  rw [Option.map_id'] at hstatement
  unfold pushed signLines optionalLines requiredLines headerLine pushTag
  simp only [toList_append, hresources, hstatement, hexpires, hbefore, hrequest, toList_newline,
    map_append, unlines_append, map_cons, unlines_cons, List.append_assoc, cons_append,
    nil_append, toList_empty]

theorem forall_optionalLines {m : SiwxMessage} {P : String → Prop}
    (hexpires : ∀ t ∈ m.expirationTime, P (expTag ++ t.original))
    (hbefore : ∀ t ∈ m.notBefore, P (nbfTag ++ t.original)) (hrequest : ∀ rid ∈ m.requestId, P (ridTag ++ rid))
    (htag : m.resources ≠ [] → P resTag) (hitems : ∀ r ∈ m.resources, P ("- " ++ r)) : ∀ line ∈ m.optionalLines, P line := by
  intro line hline
  rcases mem_append.mp hline with hline | hline
  · obtain ⟨t, ht, rfl⟩ := map_eq_some_iff.mp (mem_toList.mp hline)
    exact hexpires t ht
  rcases mem_append.mp hline with hline | hline
  · obtain ⟨t, ht, rfl⟩ := map_eq_some_iff.mp (mem_toList.mp hline)
    exact hbefore t ht
  rcases mem_append.mp hline with hline | hline
  · obtain ⟨rid, hrid, rfl⟩ := map_eq_some_iff.mp (mem_toList.mp hline)
    exact hrequest rid hrid
  · rw [resourceLines] at hline
    split_ifs at hline with hnone
    · exact absurd hline not_mem_nil
    · rcases mem_cons.mp hline with rfl | hline
      · exact htag hnone
      · obtain ⟨r, hr, rfl⟩ := List.mem_map.mp hline
        exact hitems r hr

def closingLines : List String := (iatTag ++ m.issuedAt.original) :: m.optionalLines

theorem signLines_eq_append : ∃ front, m.signLines chainName = front ++ m.closingLines := by
  refine ⟨m.headerLine chainName :: m.address :: "" :: (m.statement.toList ++ "" :: (uriTag ++ m.uri) ::
    (versionTag ++ m.version) :: (chainTag ++ m.chainId) :: [nonceTag ++ m.nonce]), ?_⟩
  simp only [signLines, requiredLines, closingLines, cons_append, nil_append, List.append_assoc]

theorem toList_append_ne_nil {tag : String} (htag : tag.toList ≠ []) (value : String) : (tag ++ value).toList ≠ [] := by
  rw [toList_append]
  exact append_ne_nil_of_left_ne_nil htag _

theorem closingLines_ne_nil : ∀ line ∈ m.closingLines, line.toList ≠ [] := by
  refine forall_mem_cons.mpr ⟨toList_append_ne_nil (by decide) _, forall_optionalLines ?_ ?_ ?_ ?_ ?_⟩
  · exact fun t _ => toList_append_ne_nil (by decide) _
  · exact fun t _ => toList_append_ne_nil (by decide) _
  · exact fun rid _ => toList_append_ne_nil (by decide) _
  · exact fun _ => by decide
  · exact fun r _ => toList_append_ne_nil (by decide) _

theorem signLines_eq_concat (m : SiwxMessage) (chainName : String) :
    ∃ front last, last ∈ m.closingLines ∧ m.signLines chainName = front ++ [last] := by
  obtain ⟨front, hfront⟩ := m.signLines_eq_append chainName
  obtain ⟨closing, last, hlast⟩ := (eq_nil_or_concat' m.closingLines).resolve_left (cons_ne_nil _ _)
  refine ⟨front ++ closing, last, ?_, by rw [hfront, hlast, List.append_assoc]⟩
  rw [hlast]
  exact mem_append_right _ mem_cons_self

/-- **The text is its lines joined by newlines**: one more newline makes it the file of them. -/
theorem toList_toSignString {m : SiwxMessage} (h : ∀ line ∈ m.closingLines, '\n' ∉ line.toList) (chainName : String) :
    (m.toSignString chainName).toList ++ ['\n'] = Lines.unlines ((m.signLines chainName).map String.toList) := by
  obtain ⟨front, last, hmem, hlines⟩ := m.signLines_eq_concat chainName
  rw [toSignString, trimEndNewlines, toList_pushed, toList_ofList, hlines, map_append, map_singleton]
  exact rdropWhile_unlines _ (m.closingLines_ne_nil last hmem) (h last hmem)

end SiwxMessage

end OneCipher.Siwx
