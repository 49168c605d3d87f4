import Mathlib
import OneCipher.Base.Prog
import OneCipher.Base.Url
import OneCipher.Core.Chain

/-!
# OneCipher.Ocwp.Registries — connected sites and custom chains

`wallet_rpc/ocwp/registries.rs`.  A store is its map in memory and whether its lock is poisoned; a call is given the
clock and how the write of the file goes.
-/

namespace OneCipher.Ocwp

/-! ## URLs of RPC endpoints -/

/-- The hosts for which `http://` is let pass. -/
def loopbackNames : List String := ["127.0.0.1", "localhost", "[::1]", "::1"]

def validateRpcUrl (url : String) : Except String Unit :=
  match Text.stripPrefix "https://" url with
  | some rest => if Text.before '/' rest = "" then .error "rpc_url must include a host" else .ok ()
  | none =>
    match Text.stripPrefix "http://" url with
    | some rest =>
      if Text.before ':' (Text.before '/' rest) ∈ loopbackNames then .ok ()
      else .error "rpc_url must be https:// (http:// allowed for loopback dev nodes only)"
    | none => .error "rpc_url must be https:// (http:// allowed for loopback dev nodes only)"

/-- The URL is an https one, or its host is one of `loopback`. -/
def SafeEndpoint (loopback : String → Prop) (url : String) : Prop :=
  Url.scheme url.toList = "https" ∨ ∃ host, Url.host url.toList = some host ∧ loopback (String.ofList host)

/-- An `http://` URL whose authority has userinfo, with a host behind it that is none of `loopback`. -/
def HidesHost (loopback : String → Prop) (url : String) : Prop :=
  Text.startsWith "http://" url = true ∧ ∃ a, Url.authority url.toList = some a ∧ '@' ∈ a ∧
    ¬ loopback (String.ofList (Url.untilPort false (a.rtakeWhile (· != '@'))))

theorem toList_before_before (rest : String) :
    (Text.before ':' (Text.before '/' rest)).toList = Url.cut rest.toList := by
  rw [Text.before, Text.before, String.toList_ofList, String.toList_ofList, Url.cut]

/-- Two of the names have a colon, so that nothing cut out in front of one is equal to them. -/
theorem cut_of_loopback {rest : String} (h : Text.before ':' (Text.before '/' rest) ∈ loopbackNames) :
    Url.cut rest.toList ≠ [] ∧ ∀ c ∈ Url.cut rest.toList, Url.isNameChar c = true := by
  have hcolon : ':' ∉ (Text.before ':' (Text.before '/' rest)).toList := by
    rw [toList_before_before]
    exact fun hc => absurd (List.mem_takeWhile_imp hc) (by decide)
  have hnames : ∀ name ∈ loopbackNames, ':' ∉ name.toList →
      name.toList ≠ [] ∧ ∀ c ∈ name.toList, Url.isNameChar c = true := by
    simp [loopbackNames, Url.isNameChar, Url.isBlank, Url.endsAuthority]
  rw [← toList_before_before]
  exact hnames _ h hcolon

theorem validateRpcUrl_eq_ok {url : String} (h : validateRpcUrl url = .ok ()) :
    (∃ rest, url = "https://" ++ rest) ∨
      ∃ rest, url = "http://" ++ rest ∧ Text.before ':' (Text.before '/' rest) ∈ loopbackNames := by
  unfold validateRpcUrl at h
  split at h
  · next rest hrest => exact .inl ⟨rest, Text.stripPrefix_eq_some.mp hrest⟩
  · split at h
    · next rest hrest =>
      split_ifs at h with hname
      exact .inr ⟨rest, Text.stripPrefix_eq_some.mp hrest, hname⟩
    · cases h

/-- **An accepted endpoint is an https one or on this machine, exactly unless userinfo hides another host.** -/
theorem rpc_url_safe_iff (loopback : String → Prop) (hnames : ∀ name ∈ loopbackNames, loopback name) (url : String) :
    (validateRpcUrl url = .ok () → SafeEndpoint loopback url) ↔
      (validateRpcUrl url = .ok () → ¬ HidesHost loopback url) := by
  refine imp_congr_right fun hok => ?_
  rcases validateRpcUrl_eq_ok hok with ⟨rest, rfl⟩ | ⟨rest, rfl, hname⟩
  · have hnot : Text.startsWith "http://" ("https://" ++ rest) = false := by
      rw [Text.startsWith, String.toList_append]
      rfl
    refine iff_of_true (.inl ?_) fun h => absurd h.1 (by rw [hnot]; decide)
    rw [String.toList_append]
    exact Url.scheme_web (.inr rfl) rest.toList
  · obtain ⟨hne, hcut⟩ := cut_of_loopback hname
    obtain ⟨a, hauthority, hhost⟩ := Url.host_of_cut (.inl rfl) hne hcut
    have hscheme := Url.scheme_web (.inl rfl) rest.toList
    have hlist : ("http://" ++ rest).toList = "http".toList ++ ':' :: '/' :: '/' :: rest.toList := by
      rw [String.toList_append]
      rfl
    rw [SafeEndpoint, HidesHost, hlist, hscheme, hauthority, Url.host, hauthority, Text.startsWith_append]
    constructor
    · rintro (h | ⟨host, hh, hloop⟩) ⟨-, a', ha', -, hnot⟩
      · exact absurd h (by decide)
      · cases ha'
        cases hh
        exact hnot hloop
    · intro h
      refine .inr ⟨_, rfl, ?_⟩
      by_contra hnot
      have hat : '@' ∉ a := fun hat => h ⟨rfl, a, rfl, hat, hnot⟩
      have hname' := hhost hat
      rw [Url.host, hauthority] at hname'
      rw [Option.some.inj hname', ← toList_before_before, String.ofList_toList] at hnot
      exact hnot (hnames _ hname)

theorem rpc_url_safe_localhost :
    validateRpcUrl "http://localhost:8545/" = .ok () ∧ SafeEndpoint (· ∈ loopbackNames) "http://localhost:8545/" := by
  refine ⟨by decide, (rpc_url_safe_iff _ (fun _ h => h) _).mpr ?_ (by decide)⟩
  rintro - ⟨-, a, ha, hat, -⟩
  have hauthority : Url.authority "http://localhost:8545/".toList = some "localhost:8545".toList := by decide +kernel
  rw [hauthority] at ha
  cases ha
  exact absurd hat (by decide)

/-- **The port of one host may be the userinfo of another.** -/
theorem userinfo_endpoint_accepted :
    validateRpcUrl "http://localhost:x@evil.com/" = .ok () ∧
      Url.host "http://localhost:x@evil.com/".toList = some "evil.com".toList ∧
      ¬ SafeEndpoint (· ∈ loopbackNames) "http://localhost:x@evil.com/" := by
  have hhost : Url.host "http://localhost:x@evil.com/".toList = some "evil.com".toList := by decide +kernel
  refine ⟨by decide, hhost, ?_⟩
  rintro (h | ⟨host, hh, hloop⟩)
  · exact absurd h (by decide +kernel)
  · rw [hhost] at hh
    cases hh
    exact absurd hloop (by decide)

/-! ## Sites -/

def validateOrigin (origin : String) : Except String String :=
  match (Text.stripPrefix "https://" origin).orElse fun _ => Text.stripPrefix "http://" origin with
  | none => .error "origin must be an http(s) origin"
  | some rest =>
    let authority := Text.before '/' rest
    if authority = "" then .error "origin must include a host"
    else if rest ≠ authority then .error "origin must not contain a path, query, or fragment"
    else if '@' ∈ authority.toList then .error "origin must not contain credentials"
    else .ok (Text.toAsciiLowercase origin)

structure SiteRecord where
  accountId : String
  chainId : String
  connectedAt : Nat
  lastSeenAt : Nat
  deriving DecidableEq

structure SiteStore where
  sites : Finmap fun _ : String => SiteRecord
  poisoned : Bool

namespace SiteStore

/-- The frame of the calls: the origin is checked and the lock taken. -/
def withOrigin {α : Type} (origin : String) (s : SiteStore) (body : String → Except String α × SiteStore) :
    Except String α × SiteStore :=
  match validateOrigin origin with
  | .error e => (.error e, s)
  | .ok origin => if s.poisoned then (.error "sites store poisoned", s) else body origin

variable (now : Nat) (write : Except String Unit)

def save : Except String Unit := write.mapError ("cannot write sites store: " ++ ·)

def connect (origin accountId chainId : String) (s : SiteStore) : Except String SiteRecord × SiteStore :=
  s.withOrigin origin fun origin =>
    let record := ⟨accountId, chainId, ((s.sites.lookup origin).map (·.connectedAt)).getD now, now⟩
    ((save write).map fun _ => record, { s with sites := s.sites.insert origin record })

def revoke (origin : String) (s : SiteStore) : Except String Bool × SiteStore :=
  s.withOrigin origin fun origin =>
    ((save write).map fun _ => (s.sites.lookup origin).isSome, { s with sites := s.sites.erase origin })

def touch (origin : String) (s : SiteStore) : Except String Unit × SiteStore :=
  s.withOrigin origin fun origin =>
    match s.sites.lookup origin with
    | none => (.ok (), s)
    | some record => (save write, { s with sites := s.sites.insert origin { record with lastSeenAt := now } })

/-- All records, ordered by origin. -/
def list (s : SiteStore) : List (String × SiteRecord) :=
  (s.sites.keys.sort (· ≤ ·)).filterMap fun origin => (s.sites.lookup origin).map (origin, ·)

end SiteStore

/-! ### What is accepted for an origin -/

/-- The text behind `https://` or `http://`. -/
def afterScheme (text : String) : Option String :=
  (Text.stripPrefix "https://" text).orElse fun _ => Text.stripPrefix "http://" text

/-- `host` or `host:port`, without path, userinfo, query and fragment. -/
def HostPort (cs : List Char) : Prop :=
  Url.untilPort false cs ≠ [] ∧ (∀ c ∈ (cs.drop (Url.untilPort false cs).length).tail, c.isDigit = true) ∧
    ∀ c ∈ ['/', '@', '?', '#'], c ∉ cs

def IsOrigin (text : String) : Prop := ∃ rest, afterScheme text = some rest ∧ HostPort rest.toList

variable {origin : String}

theorem mem_of_lowercase {s : String} {c : Char} (hc : c.isLower = false) (h : c ∈ (Text.toAsciiLowercase s).toList) :
    c ∈ s.toList := by
  rw [Text.toAsciiLowercase, String.toList_ofList] at h
  obtain ⟨d, hd, rfl⟩ := List.mem_map.mp h
  rw [Char.isLower_toLower_eq_isAlpha] at hc
  rwa [Char.toLower_eq_of_not_isUpper fun hu => by simp [Char.isAlpha, hu] at hc]

theorem afterScheme_lowercase {rest : String} (h : afterScheme origin = some rest) :
    afterScheme (Text.toAsciiLowercase origin) = some (Text.toAsciiLowercase rest) := by
  have hlower : ∀ pre : String,
      Text.toAsciiLowercase (pre ++ rest) = Text.toAsciiLowercase pre ++ Text.toAsciiLowercase rest := by
    simp [Text.toAsciiLowercase]
  rcases hs : Text.stripPrefix "https://" origin with _ | r <;> rw [afterScheme, hs] at h
  · rw [Text.stripPrefix_eq_some.mp h, hlower, (by decide : Text.toAsciiLowercase "http://" = "http://"), afterScheme,
      Text.stripPrefix_append, Text.stripPrefix, String.toList_append]
    rfl
  · cases h
    rw [Text.stripPrefix_eq_some.mp hs, hlower, (by decide : Text.toAsciiLowercase "https://" = "https://"), afterScheme,
      Text.stripPrefix_append]
    rfl

theorem validateOrigin_eq_ok {result : String} : validateOrigin origin = .ok result ↔
    ∃ rest, afterScheme origin = some rest ∧ rest ≠ "" ∧ '/' ∉ rest.toList ∧ '@' ∉ rest.toList ∧
      Text.toAsciiLowercase origin = result := by
  change (match afterScheme origin with | none => _ | some rest => _) = _ ↔ _
  rcases afterScheme origin with _ | rest
  · simp
  have hbefore : '/' ∉ rest.toList ↔ rest = Text.before '/' rest := by
    rw [← String.toList_inj, Text.before, String.toList_ofList, eq_comm, List.takeWhile_eq_self_iff]
    simp [List.forall_mem_ne']
  simp only [Result.guard_eq_ok, ne_eq, not_not, Except.ok.injEq, Option.some.injEq, exists_eq_left', hbefore]
  constructor
  · rintro ⟨hne, heq, h⟩
    rw [← heq] at hne h
    exact ⟨hne, heq, h⟩
  · rintro ⟨hne, heq, h⟩
    rw [← heq]
    exact ⟨hne, rfl, h⟩

/-- **An accepted origin is normalized to an origin, exactly if what passes the checks is a host and a port**: a query, a
fragment, an empty host and a port that is no number pass them. -/
theorem origin_normalized_iff (origin : String) :
    (∀ result, validateOrigin origin = .ok result → IsOrigin result ∧ validateOrigin result = .ok result) ↔
      ∀ rest, afterScheme origin = some rest → rest ≠ "" → '/' ∉ rest.toList → '@' ∉ rest.toList →
        HostPort (Text.toAsciiLowercase rest).toList := by
  constructor
  · intro h rest hrest hne hslash hat
    obtain ⟨⟨rest', hrest', hp⟩, -⟩ := h _ (validateOrigin_eq_ok.mpr ⟨rest, hrest, hne, hslash, hat, rfl⟩)
    rw [afterScheme_lowercase hrest] at hrest'
    cases hrest'
    exact hp
  · intro h result hok
    obtain ⟨rest, hrest, hne, hslash, hat, rfl⟩ := validateOrigin_eq_ok.mp hok
    have hrest' := afterScheme_lowercase hrest
    refine ⟨⟨_, hrest', h rest hrest hne hslash hat⟩, validateOrigin_eq_ok.mpr ⟨_, hrest', ?_, ?_, ?_, ?_⟩⟩
    · simpa [Text.toAsciiLowercase] using hne
    · exact fun hmem => hslash (mem_of_lowercase rfl hmem)
    · exact fun hmem => hat (mem_of_lowercase rfl hmem)
    · simp [Text.toAsciiLowercase, Function.comp_def]

/-- **A query is accepted as part of an origin.** -/
theorem query_origin_accepted : validateOrigin "https://a?x" = .ok "https://a?x" ∧ ¬ IsOrigin "https://a?x" := by
  refine ⟨by decide +kernel, ?_⟩
  rintro ⟨rest, hrest, -, -, hnone⟩
  cases hrest
  exact hnone '?' (by decide) (by decide)

/-! ## Chains -/

structure ChainRecord where
  chainId : String
  name : String
  rpcUrl : Option String
  explorerUrl : Option String
  nativeCurrency : String
  isEvm : Bool
  builtin : Bool
  deriving DecidableEq

structure ChainRegistry where
  custom : List ChainRecord
  poisoned : Bool

namespace ChainRegistry

variable (configured : String → Option String)

/-- Built-ins first; `configured` is the endpoint that the config or its defaults have for a chain. -/
def list (s : ChainRegistry) : List ChainRecord :=
  (Core.knownChains.map fun c => ⟨c.chainId, c.name, configured c.chainId, none,
    if c.chainType = .evm then "ETH" else "", c.chainType = .evm, true⟩) ++ s.custom

def rpcUrl (chainId : String) (s : ChainRegistry) : Option String :=
  ((s.custom.find? (·.chainId == chainId)).bind (·.rpcUrl)).orElse fun _ => configured chainId

/-- A trimmed field, if there is anything in it. -/
def trimmed (field : Option String) : Option String := (field.map Text.trim).filter (· ≠ "")

/-- The checks of `add_custom`, and the record it stores. -/
def checkCustom (record : ChainRecord) : Except String ChainRecord := do
  let chainId := Text.trim record.chainId
  let some reference := (Text.stripPrefix "eip155:" chainId).filter fun r => r ≠ "" ∧ r.toList.all Char.isDigit
    | .error "custom chain_id must be eip155:<numeric id>"
  if Text.parseUnsigned 10 (2 ^ 64) reference = none then .error "custom chain_id number is out of range"
  let name := Text.trim record.name
  if name = "" ∨ (Text.utf8 name).length > 64 then .error "custom chain name must be 1..=64 characters"
  if let some url := trimmed record.rpcUrl then validateRpcUrl url
  if let some url := trimmed record.explorerUrl then
    if Text.startsWith "https://" url = false then .error "explorer_url must be https://"
  return ⟨chainId, name, trimmed record.rpcUrl, trimmed record.explorerUrl,
    (trimmed (some record.nativeCurrency)).getD "ETH", true, false⟩

def addCustom (write : Except String Unit) (record : ChainRecord) (s : ChainRegistry) :
    Except String ChainRecord × ChainRegistry :=
  match checkCustom record with
  | .error e => (.error e, s)
  | .ok record =>
    if s.poisoned then (.error "chains registry poisoned", s)
    else ((write.mapError ("cannot write chains registry: " ++ ·)).map fun _ => record,
      { s with custom := s.custom.filter (·.chainId ≠ record.chainId) ++ [record] })

end ChainRegistry

/-! ## A call that fails -/

structure Registries where
  sites : SiteStore
  chains : ChainRegistry

inductive RegistryCall where
  | connect (origin accountId chainId : String)
  | revoke (origin : String)
  | touch (origin : String)
  | addCustom (record : ChainRecord)

namespace Registries

/-- Whether a call succeeds, and what it leaves in memory. -/
def call (now : Nat) (write : Except String Unit) (r : Registries) : RegistryCall → Bool × Registries
  | .connect origin accountId chainId =>
    let (result, sites) := r.sites.connect now write origin accountId chainId
    (result.isOk, { r with sites })
  | .revoke origin =>
    let (result, sites) := r.sites.revoke write origin
    (result.isOk, { r with sites })
  | .touch origin =>
    let (result, sites) := r.sites.touch now write origin
    (result.isOk, { r with sites })
  | .addCustom record =>
    let (result, chains) := r.chains.addCustom write record
    (result.isOk, { r with chains })

/-- The lists and the endpoints are the same. -/
def SameShown (r r' : Registries) : Prop :=
  r'.sites.list = r.sites.list ∧ (∀ configured, r'.chains.list configured = r.chains.list configured) ∧
    ∀ configured chainId, r'.chains.rpcUrl configured chainId = r.chains.rpcUrl configured chainId

/-- The call is turned away, or what it would store is there already. -/
def Redundant (now : Nat) (r : Registries) : RegistryCall → Prop
  | .connect origin accountId chainId => r.sites.poisoned = true ∨ ∀ o, validateOrigin origin = .ok o →
      ∃ record, r.sites.sites.lookup o = some record ∧
        record.accountId = accountId ∧ record.chainId = chainId ∧ record.lastSeenAt = now
  | .revoke origin => r.sites.poisoned = true ∨ ∀ o, validateOrigin origin = .ok o → r.sites.sites.lookup o = none
  | .touch origin => r.sites.poisoned = true ∨ ∀ o, validateOrigin origin = .ok o →
      ∀ record, r.sites.sites.lookup o = some record → record.lastSeenAt = now
  | .addCustom record => r.chains.poisoned = true ∨ ∀ stored, ChainRegistry.checkCustom record = .ok stored →
      r.chains.custom.filter (·.chainId ≠ stored.chainId) ++ [stored] = r.chains.custom

end Registries

theorem SiteStore.mem_list {s : SiteStore} {origin : String} {record : SiteRecord} :
    (origin, record) ∈ s.list ↔ s.sites.lookup origin = some record := by
  simp only [list, List.mem_filterMap, Finset.mem_sort, Option.map_eq_some_iff, Prod.mk.injEq]
  constructor
  · rintro ⟨_, -, _, h, rfl, rfl⟩
    exact h
  · intro h
    exact ⟨origin, Finmap.mem_keys.mpr (Finmap.mem_of_lookup_eq_some h), record, h, rfl, rfl⟩

theorem SiteStore.list_inj {s s' : SiteStore} : s'.list = s.list ↔ s'.sites = s.sites := by
  refine ⟨fun h => Finmap.ext_lookup fun origin => Option.ext fun record => ?_, fun h => by rw [list, list, h]⟩
  rw [← mem_list, ← mem_list, h]

theorem insert_eq_self {m : Finmap fun _ : String => SiteRecord} {k : String} {record : SiteRecord} :
    m.insert k record = m ↔ m.lookup k = some record := by
  refine ⟨fun h => by rw [← h, Finmap.lookup_insert], fun h => Finmap.ext_lookup fun k' => ?_⟩
  by_cases hk : k' = k
  · rw [hk, Finmap.lookup_insert, h]
  · rw [Finmap.lookup_insert_of_ne _ hk]

theorem erase_eq_self {m : Finmap fun _ : String => SiteRecord} {k : String} : m.erase k = m ↔ m.lookup k = none := by
  refine ⟨fun h => by rw [← h, Finmap.lookup_erase], fun h => Finmap.ext_lookup fun k' => ?_⟩
  by_cases hk : k' = k
  · rw [hk, Finmap.lookup_erase, h]
  · rw [Finmap.lookup_erase_ne hk]

theorem withOrigin_keeps_iff {α : Type} {s : SiteStore} {origin : String} {body : String → Except String α × SiteStore} :
    ((s.withOrigin origin body).1.isOk = false → (s.withOrigin origin body).2.sites = s.sites) ↔
      s.poisoned = true ∨ ∀ o, validateOrigin origin = .ok o → (body o).1.isOk = false → (body o).2.sites = s.sites := by
  unfold SiteStore.withOrigin
  cases validateOrigin origin with
  | error => simp
  | ok o => by_cases hp : s.poisoned = true <;> simp [hp]

@[simp] theorem isOk_mapError {α : Type} (x : Except String α) (f : String → String) : (x.mapError f).isOk = x.isOk := by
  cases x <;> rfl

@[simp] theorem isOk_map {α β : Type} (x : Except String α) (f : α → β) : (x.map f).isOk = x.isOk := by
  cases x <;> rfl

/-- **A failed call leaves what is shown as it was, exactly unless the write fails behind a change.** -/
theorem failed_call_keeps_iff (now : Nat) (write : Except String Unit) (r : Registries) (call : RegistryCall) :
    ((r.call now write call).1 = false → r.SameShown (r.call now write call).2) ↔
      (write.isOk = false → r.Redundant now call) := by
  have hsites : ∀ s', r.SameShown { r with sites := s' } ↔ s'.sites = r.sites.sites := by
    intro s'
    simp [Registries.SameShown, SiteStore.list_inj]
  have hchains : ∀ s', r.SameShown { r with chains := s' } ↔ s'.custom = r.chains.custom := by
    refine fun s' => ⟨fun h => List.append_cancel_left (h.2.1 fun _ => none), fun h => ⟨rfl, fun _ => ?_, fun _ _ => ?_⟩⟩
    · rw [ChainRegistry.list, h, ChainRegistry.list]
    · rw [ChainRegistry.rpcUrl, h, ChainRegistry.rpcUrl]
  cases call with
  | connect origin accountId chainId =>
    have hrecord : ∀ x : Option SiteRecord, x = some ⟨accountId, chainId, (x.map (·.connectedAt)).getD now, now⟩ ↔
        ∃ record, x = some record ∧
          record.accountId = accountId ∧ record.chainId = chainId ∧ record.lastSeenAt = now := by
      rintro (_ | ⟨a, c, connected, seen⟩) <;> simp
    simp only [Registries.call, hsites, SiteStore.connect, withOrigin_keeps_iff, SiteStore.save, isOk_map, isOk_mapError,
      insert_eq_self, hrecord, Registries.Redundant]
    cases write.isOk <;> simp
  | revoke =>
    simp only [Registries.call, hsites, SiteStore.revoke, withOrigin_keeps_iff, SiteStore.save, isOk_map, isOk_mapError,
      erase_eq_self, Registries.Redundant]
    cases write.isOk <;> simp
  | touch =>
    simp only [Registries.call, hsites, SiteStore.touch, withOrigin_keeps_iff, Registries.Redundant]
    cases hw : write.isOk
    · simp only [true_imp_iff]
      refine or_congr_right (forall₂_congr fun o _ => ?_)
      rcases h : r.sites.sites.lookup o with _ | ⟨accountId, chainId, connected, seen⟩
      · simp
      · simp [SiteStore.save, hw, insert_eq_self, h]
    · refine iff_of_true (.inr fun o _ => ?_) nofun
      cases r.sites.sites.lookup o <;> simp [SiteStore.save, hw]
  | addCustom record =>
    simp only [Registries.call, hchains, ChainRegistry.addCustom, Registries.Redundant]
    cases ChainRegistry.checkCustom record with
    | error => simp
    | ok => by_cases hp : r.chains.poisoned = true <;> simp [hp]

/-- **A site that could not be stored is listed.** -/
theorem unwritten_site_listed : let r : Registries := ⟨⟨∅, false⟩, ⟨[], false⟩⟩
    let after := r.call 7 (.error "disk full") (.connect "https://app.example" "acct" "eip155:1")
    after.1 = false ∧ r.sites.list = [] ∧ after.2.sites.list = [("https://app.example", ⟨"acct", "eip155:1", 7, 7⟩)] := by
  decide +kernel

end OneCipher.Ocwp
