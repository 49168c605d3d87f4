import OneCipher.Base.Runs
import OneCipher.Extension.EvmTx

/-!
# OneCipher.Extension.Origins — the chain each site is on

`handleProviderRequest` of `lib/background/router.ts` for the requests that choose a chain or connect a site, the site
cache of `lib/storage/sites.ts`, and the broadcaster of `entrypoints/background.ts`.  A run is what one origin asks for,
with the user's answers to its connect prompts and the tabs that are open; another origin looks on.
-/

namespace OneCipher.Extension.Origins

open Runs List

/-! ## Stores -/

structure SiteEntry where
  origin : String
  accountId : String
  chainId : String
  connectedAt : ℕ
  lastSeenAt : ℕ

structure ChainEntry where
  chainId : String
  name : String
  rpcUrl : String
  explorerUrl : Option String
  nativeCurrency : String
  isEvm : Bool
  builtin : Bool

structure ExtensionConfig where
  activeChainId : String
  customChains : List ChainEntry

inductive ProviderEvent where
  | accountsChanged (addresses : List String)
  | chainChanged (chainId : String)

/-- A tab: the origin of its address, none where it has no id or no readable address, and whether it has a content
script. -/
structure Tab where
  origin : Option String
  receives : Bool

/-- The stores, the open tabs, the chains of the connect prompts that wait, and the events delivered so far with the
origins of their tabs. -/
structure State where
  sites : List SiteEntry
  config : ExtensionConfig
  tabs : List Tab
  prompts : List String
  delivered : List (String × ProviderEvent)

variable (sites : List SiteEntry) (s : State) (origin : String)

def isSiteAuthorized : Bool := sites.any (·.origin = origin)

def chainFor : Option String := (sites.find? (·.origin = origin)).map (·.chainId)

def setSiteChain (chainId : String) (now : ℕ) : List SiteEntry :=
  sites.map fun site => if site.origin = origin then { site with chainId := chainId, lastSeenAt := now } else site

def upsertSite (accountId chainId : String) (now : ℕ) : List SiteEntry :=
  match sites.find? (·.origin = origin) with
  | some existing =>
    let entry := { existing with accountId := accountId, chainId := chainId, lastSeenAt := now }
    sites.map fun site => if site.origin = origin then entry else site
  | none => sites ++ [⟨origin, accountId, chainId, now, now⟩]

def Tab.hears (tab : Tab) : Option String :=
  tab.origin.filter fun origin => tab.receives && isSiteAuthorized sites origin

def State.broadcastToSites (event : ProviderEvent) : State :=
  { s with delivered := s.delivered ++ (s.tabs.filterMap (Tab.hears s.sites)).map (·, event) }

/-! ## Requests -/

/-- `siteChainId`: the site's own chain, or the wallet's. -/
def State.siteChainId : String := (chainFor s.sites origin).getD s.config.activeChainId

def numericChainId (chainId : String) : Except RpcErrorShape String :=
  match (Text.stripPrefix "eip155:" chainId).filter (Js.isDecimal ·.toList) with
  | some digits => .ok digits
  | none => .error (invalidParams ("invalid eip155 chain id '" ++ chainId ++ "'"))

def hexChainId (chainId : String) : Except RpcErrorShape String :=
  (numericChainId chainId).map fun digits => "0x" ++ String.ofList (Nat.toDigits 16 (Js.bigInt 10 digits.toList))

/-- The answer to `eth_chainId`. -/
def State.ethChainId : Except RpcErrorShape String := hexChainId (s.siteChainId origin)

/-- The answer to `net_version`. -/
def State.netVersion : String := String.ofList ((s.siteChainId origin).toList.drop 7)

/-- The first parameter; an array is an object without the members that are asked for. -/
def chainParam : List Json → Except RpcErrorShape Members
  | .obj members :: _ => .ok members
  | .arr _ :: _ => .ok []
  | _ => .error (invalidParams "chain must be an object")

/-- The chain that `wallet_switchEthereumChain` asks for, as it is written and as a chain id. -/
def switchTarget (params : List Json) : Except RpcErrorShape (String × String) := do
  match (← chainParam params).lookup "chainId" with
  | some (.str target) =>
    if (Js.hexQuantity target).isSome then return (target, ← normalizeChainReference target)
    else throw (invalidParams "chainId must be a hex quantity")
  | _ => throw (invalidParams "chainId must be a hex quantity")

def State.switchEthereumChain (params : List Json) (now : ℕ) : Except RpcErrorShape State := do
  let (target, chain) ← switchTarget params
  let s' := if isSiteAuthorized s.sites origin then { s with sites := setSiteChain s.sites origin chain now }
    else { s with config := { s.config with activeChainId := chain } }
  return s'.broadcastToSites (.chainChanged target)

def requireStringArray (value : Json) (what : String) : Except RpcErrorShape (List String) :=
  match value with
  | .arr items => match items.mapM Json.asStr with
    | some texts => .ok texts
    | none => .error (invalidParams (what ++ " must be an array of strings"))
  | _ => .error (invalidParams (what ++ " must be an array of strings"))

def allowedRpcUrl (url : String) : Bool :=
  ["https://", "http://127.0.0.1", "http://localhost"].any (Text.startsWith · url)

/-- `wallet_addEthereumChain`: the configuration that is saved.  `bigInt` is `BigInt(text).toString(10)`, which throws on
text that is no integer. -/
def ExtensionConfig.addEthereumChain (bigInt : String → Except RpcErrorShape String) (config : ExtensionConfig)
    (params : List Json) : Except RpcErrorShape ExtensionConfig := do
  let chain ← chainParam params
  let rpcUrls ← requireStringArray ((read chain ["rpcUrls"]).getD (.arr [])) "rpcUrls"
  let some chainIdHex := (chain.lookup "chainId").bind Json.asStr | throw (invalidParams "chainId is required")
  let chainId := "eip155:" ++ (← bigInt chainIdHex)
  let some rpcUrl := rpcUrls.head?.filter allowedRpcUrl | throw (invalidParams "a valid https:// rpcUrls[0] is required")
  let name := ((chain.lookup "chainName").bind Json.asStr).getD chainId
  let explorerUrl := match chain.lookup "blockExplorerUrls" with
    | some (.arr (.str url :: _)) => some url
    | _ => none
  let others := config.customChains.filter (·.chainId ≠ chainId)
  return { config with customChains := others ++ [⟨chainId, name, rpcUrl, explorerUrl, "ETH", true, false⟩] }

/-- `eth_requestAccounts`: a site that is connected is answered at once, any other waits for the user. -/
def State.requestAccounts (unlocked : Bool) : State :=
  if unlocked && isSiteAuthorized s.sites origin then s else { s with prompts := s.prompts ++ [s.siteChainId origin] }

/-- The user approves a connect prompt; `accounts` are the wallet's addresses, none where the session, the accounts or
the daemon fail. -/
def State.approveConnect (prompt : ℕ) (accounts : Option (List String)) (now : ℕ) : State :=
  match s.prompts[prompt]?, accounts with
  | some chain, some addresses =>
    State.broadcastToSites { s with
      sites := upsertSite s.sites origin chain chain now, prompts := s.prompts.eraseIdx prompt } (.accountsChanged addresses)
  | _, _ => { s with prompts := s.prompts.eraseIdx prompt }

inductive Act where
  | switchChain (params : List Json) (now : ℕ)
  | addChain (params : List Json)
  | requestAccounts (unlocked : Bool)
  | approve (prompt : ℕ) (accounts : Option (List String)) (now : ℕ)
  | decline (prompt : ℕ)
  | browse (tabs : List Tab)

/-- One step of the origin; a request that fails changes nothing. -/
def step (bigInt : String → Except RpcErrorShape String) (origin : String) (s : State) : Act → State
  | .switchChain params now => (s.switchEthereumChain origin params now).toOption.getD s
  | .addChain params => { s with config := (s.config.addEthereumChain bigInt params).toOption.getD s.config }
  | .requestAccounts unlocked => s.requestAccounts origin unlocked
  | .approve prompt accounts now => s.approveConnect origin prompt accounts now
  | .decline prompt => { s with prompts := s.prompts.eraseIdx prompt }
  | .browse tabs => { s with tabs := tabs }

/-! ## What another origin sees -/

section Bystander

variable (bigInt : String → Except RpcErrorShape String) {origin other : String} {s : State} {sites : List SiteEntry}

/-- The chains that the tabs of the origin have been told to be on. -/
def State.chainEvents (s : State) (origin : String) : List String :=
  s.delivered.filterMap fun
    | (o, .chainChanged chainId) => if o = origin then some chainId else none
    | _ => none

/-- The origin has an open tab with a content script. -/
def State.Listens (s : State) (origin : String) : Prop := ∃ tab ∈ s.tabs, tab.origin = some origin ∧ tab.receives = true

/-- The step is no switch that succeeds while the other origin listens. -/
def Unheard (other : String) (s : State) : Act → Prop
  | .switchChain params _ => (switchTarget params).toOption.isSome → ¬ s.Listens other
  | _ => True

theorem chainFor_map {f : SiteEntry → SiteEntry} (horigin : ∀ site, (f site).origin = site.origin)
    (hf : ∀ site, site.origin = other → f site = site) : chainFor (sites.map f) other = chainFor sites other := by
  induction sites with
  | nil => rfl
  | cons site _ ih =>
    by_cases h : site.origin = other
    · simp [chainFor, h, hf site h]
    · simpa [chainFor, horigin, h] using ih

theorem chainFor_setSiteChain (hne : origin ≠ other) (chainId : String) (now : ℕ) :
    chainFor (setSiteChain sites origin chainId now) other = chainFor sites other := by
  refine chainFor_map (fun site => ?_) fun site h => if_neg fun h' => hne (h'.symm.trans h)
  split_ifs <;> rfl

theorem chainFor_upsertSite (hne : origin ≠ other) (accountId chainId : String) (now : ℕ) :
    chainFor (upsertSite sites origin accountId chainId now) other = chainFor sites other := by
  rw [upsertSite]
  split
  · rename_i existing hfind
    have horigin : existing.origin = origin := by simpa using List.find?_some hfind
    refine chainFor_map (fun site => ?_) fun site h => if_neg fun h' => hne (h'.symm.trans h)
    split_ifs with h
    · exact horigin.trans h.symm
    · rfl
  · simp [chainFor, List.find?_append, hne]

theorem isSiteAuthorized_iff : isSiteAuthorized sites origin = true ↔ (chainFor sites origin).isSome := by
  simp [isSiteAuthorized, chainFor]

/-- What an operation of the origin does to the other: its chain stays, and it is told of the chains in `news`. -/
structure Affects (other : String) (s s' : State) (news : List String) : Prop where
  chain : chainFor s'.sites other = chainFor s.sites other
  events : s'.chainEvents other = s.chainEvents other ++ news

theorem Affects.of_eq {s' : State} (hchain : chainFor s'.sites other = chainFor s.sites other)
    (hdelivered : s'.delivered = s.delivered) : Affects other s s' [] :=
  ⟨hchain, by rw [State.chainEvents, hdelivered, append_nil]; rfl⟩

theorem Affects.broadcast_accounts {s' : State} (h : Affects other s s' []) (addresses : List String) :
    Affects other s (s'.broadcastToSites (.accountsChanged addresses)) [] := by
  refine ⟨h.chain, Eq.trans ?_ h.events⟩
  simp [State.chainEvents, State.broadcastToSites]

/-- A chain that is broadcast reaches the other origin as often as it has tabs. -/
theorem Affects.broadcast_chain {s' : State} (h : Affects other s s' []) (chainId : String) :
    Affects other s (s'.broadcastToSites (.chainChanged chainId))
      ((s'.tabs.filterMap (Tab.hears s'.sites)).filterMap fun o => if o = other then some chainId else none) := by
  refine ⟨h.chain, ?_⟩
  rw [← append_nil (s.chainEvents other), ← h.events]
  simp only [State.chainEvents, State.broadcastToSites, filterMap_append, filterMap_map]
  rfl

theorem told_eq_nil (hconnected : isSiteAuthorized s.sites other = true) (chainId : String) :
    (s.tabs.filterMap (Tab.hears s.sites)).filterMap (fun o => if o = other then some chainId else none) = [] ↔
      ¬ s.Listens other := by
  simp only [filterMap_eq_nil_iff, mem_filterMap, Tab.hears, Option.filter_eq_some_iff, ite_eq_right_iff,
    reduceCtorEq, imp_false, State.Listens, not_exists, not_and, forall_exists_index, and_imp, Bool.and_eq_true]
  constructor
  · rintro h tab htab horigin hreceives
    exact h other tab htab horigin hreceives hconnected rfl
  · rintro h o tab htab horigin hreceives - rfl
    exact h tab htab horigin hreceives

theorem switched (hne : origin ≠ other) (hconnected : isSiteAuthorized s.sites other = true) (params : List Json)
    (now : ℕ) : ∃ news, Affects other s (step bigInt origin s (.switchChain params now)) news ∧
      (news = [] ↔ Unheard other s (.switchChain params now)) := by
  rcases ht : switchTarget params with e | ⟨target, chain⟩
  · refine ⟨[], ?_, by simp [Unheard, ht, Except.toOption]⟩
    have hstep : step bigInt origin s (.switchChain params now) = s := by
      simp [step, State.switchEthereumChain, ht, Except.toOption, bind, Except.bind]
    rw [hstep]
    exact .of_eq rfl rfl
  · obtain ⟨s', hs', hstep, htabs⟩ : ∃ s', Affects other s s' [] ∧
        step bigInt origin s (.switchChain params now) = s'.broadcastToSites (.chainChanged target) ∧
          s'.tabs = s.tabs := by
      simp only [step, State.switchEthereumChain, ht, bind, Except.bind, pure, Except.pure, Except.toOption,
        Option.getD_some]
      split_ifs
      · exact ⟨{ s with sites := setSiteChain s.sites origin chain now },
          .of_eq (chainFor_setSiteChain hne chain now) rfl, rfl, rfl⟩
      · exact ⟨{ s with config := { s.config with activeChainId := chain } }, .of_eq rfl rfl, rfl, rfl⟩
    have hconnected' : isSiteAuthorized s'.sites other = true := by
      rwa [isSiteAuthorized_iff, hs'.chain, ← isSiteAuthorized_iff]
    refine ⟨_, hstep ▸ hs'.broadcast_chain target, (told_eq_nil hconnected' target).trans ?_⟩
    simp [Unheard, ht, Except.toOption, State.Listens, htabs]

theorem step_affects (hne : origin ≠ other) (hconnected : isSiteAuthorized s.sites other = true) (act : Act) :
    ∃ news, Affects other s (step bigInt origin s act) news ∧ (news = [] ↔ Unheard other s act) := by
  cases act with
  | switchChain params now => exact switched bigInt hne hconnected params now
  | addChain | decline | browse => exact ⟨[], .of_eq rfl rfl, by simp [Unheard]⟩
  | requestAccounts =>
    refine ⟨[], ?_, by simp [Unheard]⟩
    simp only [step, State.requestAccounts]
    split_ifs
    · exact .of_eq rfl rfl
    · exact .of_eq rfl rfl
  | approve _ _ now =>
    refine ⟨[], ?_, by simp [Unheard]⟩
    simp only [step, State.approveConnect]
    split
    · refine Affects.broadcast_accounts ?_ _
      exact .of_eq (chainFor_upsertSite hne _ _ now) rfl
    · exact .of_eq rfl rfl

theorem run_affects (hne : origin ≠ other) (hconnected : isSiteAuthorized s.sites other = true) (acts : List Act) :
    ∃ news, Affects other s (after (step bigInt origin) s acts) news ∧
      (news = [] ↔ Along (step bigInt origin) (Unheard other) s acts) := by
  induction acts generalizing s with
  | nil => exact ⟨[], .of_eq rfl rfl, by simp [Along]⟩
  | cons act _ ih =>
    obtain ⟨first, hfirst, hunheard⟩ := step_affects bigInt hne hconnected act
    have hconnected' : isSiteAuthorized (step bigInt origin s act).sites other = true := by
      rwa [isSiteAuthorized_iff, hfirst.chain, ← isSiteAuthorized_iff]
    obtain ⟨rest, hrest, halong⟩ := ih hconnected'
    refine ⟨first ++ rest, ⟨hrest.chain.trans hfirst.chain, ?_⟩, ?_⟩
    · rw [after_cons, hrest.events, hfirst.events, append_assoc]
    · rw [append_eq_nil_iff, hunheard, halong]
      rfl

/-- **Origins are apart as far as no switch is heard.**  Whatever an origin asks for and the user answers, a connected
site goes on getting the same answers for its chain, and it is told of no change of chain exactly when none of the
switches that succeed happens while it has an open tab. -/
theorem origins_apart_iff (hne : origin ≠ other)
    (hconnected : isSiteAuthorized s.sites other = true) (acts : List Act) :
    ((after (step bigInt origin) s acts).ethChainId other = s.ethChainId other ∧
      (after (step bigInt origin) s acts).netVersion other = s.netVersion other ∧
        (after (step bigInt origin) s acts).chainEvents other = s.chainEvents other) ↔
      Along (step bigInt origin) (Unheard other) s acts := by
  obtain ⟨news, haffects, hnews⟩ := run_affects bigInt hne hconnected acts
  obtain ⟨chain, hchain⟩ := Option.isSome_iff_exists.mp (isSiteAuthorized_iff.mp hconnected)
  have hsite : (after (step bigInt origin) s acts).siteChainId other = s.siteChainId other := by
    rw [State.siteChainId, State.siteChainId, haffects.chain, hchain]
    rfl
  rw [State.ethChainId, State.netVersion, hsite, haffects.events, ← hnews]
  simp [State.ethChainId, State.netVersion]

end Bystander

/-- A connected site with one open tab. -/
def shopOpen : State where
  sites := [⟨"https://shop", "eip155:1", "eip155:1", 0, 0⟩]
  config := ⟨"eip155:1", []⟩
  tabs := [⟨some "https://shop", true⟩]
  prompts := []
  delivered := []

/-- A second site connects. -/
def gameConnects : List Act := [.requestAccounts true, .approve 0 (some ["0xaa"]) 7]

theorem origins_apart_iff_prompt :
    (after (step .ok "https://game") shopOpen gameConnects).ethChainId "https://shop" =
        shopOpen.ethChainId "https://shop" ∧
      (after (step .ok "https://game") shopOpen gameConnects).netVersion "https://shop" =
        shopOpen.netVersion "https://shop" ∧
      (after (step .ok "https://game") shopOpen gameConnects).chainEvents "https://shop" =
        shopOpen.chainEvents "https://shop" :=
  (origins_apart_iff .ok (by decide) rfl gameConnects).mpr ⟨trivial, trivial, trivial⟩

/-- **A switch by an unknown site is announced to every connected one**: the shop is told to be on a chain that it is
not on. -/
theorem switch_heard :
    (step .ok "https://game" shopOpen (.switchChain [.obj [("chainId", .str "0x89")]] 7)).chainEvents "https://shop" =
        ["0x89"] ∧
      (step .ok "https://game" shopOpen (.switchChain [.obj [("chainId", .str "0x89")]] 7)).ethChainId "https://shop" =
        .ok "0x1" := by
  constructor <;> decide

end OneCipher.Extension.Origins
