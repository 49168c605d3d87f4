import OneCipher.NetAgent.HttpRpc
import OneCipher.WalletConnect.Gates

/-!
# OneCipher.NetAgent.ChainScope — the scope of a session and the chain that is signed for

The router serves the WalletConnect server as its method handler.  The server checks the chain of a request against
the session's namespaces before the router sees it, and the router then asks the Key-Agent to sign for a chain.

`AsksFor` says for which chain the router may ask, read off the method and the parameters.
`chain_scope_iff` says for which requests the session's scope is kept.
-/

namespace OneCipher.NetAgent

open Prog Trace KeyAgent WalletConnect List Result
open Preserves (lift_bind)

/-! ## The router as a handler -/

def JsonRpcErrorCode.onWire : JsonRpcErrorCode → WalletConnect.JsonRpcErrorCode
  | userRejected => .userRejected
  | unauthorized => .unauthorized
  | unsupportedMethod => .unsupportedMethod
  | policyRateLimit => .policyRateLimit
  | policyBudgetExceeded => .policyBudgetExceeded
  | policyWhitelist => .policyWhitelist
  | policyCooldown => .policyCooldown
  | policyMissing => .policyMissing
  | policyExpired => .policyExpired
  | policyChainNotWhitelisted => .policyChainNotWhitelisted
  | internal => .internal
  | signer => .signer

def routerHandler (rh : RouterHost) (r : WcMethodRouter) : WalletMethodHandler RouterState := fun c =>
  mapErr (fun e => (e.1.onWire, e.2)) (handle rh r c.method c.params c.topic c.dappName c.dappOrigin)

/-! ## The chain of a signing request -/

/-- Between the two states, a signing request for the chain was forwarded. -/
def ForwardsFor (s s' : RouterState) (chain : String) : Prop :=
  ∃ kind, RouterEvent.forwarded kind ∈ newEvents s s' ∧ signingChain kind = some chain

/-- The two hosts read parameters alike; they may differ in everything else. -/
structure SameReaders (rh rh' : RouterHost) : Prop where
  parseAuthParams : rh.parseAuthParams = rh'.parseAuthParams
  parseChainId : rh.parseChainId = rh'.parseChainId
  parseSiwx : rh.parseSiwx = rh'.parseSiwx
  siwxText : rh.siwxText = rh'.siwxText
  keccak256 : rh.keccak256 = rh'.keccak256
  kindError : rh.intents.kindError = rh'.intents.kindError

variable {α : Type} {params : Json} {kind : KeyAgentRequestKind} {chainId : String}

theorem SameReaders.asksFor {rh rh' : RouterHost} (hsame : SameReaders rh rh') {chain : String}
    {method : RouterMethod} (h : AsksFor rh params chain method) : AsksFor rh' params chain method := by
  cases method with
  | intentExecute => simpa only [AsksFor, intentKind, hsame.kindError] using h
  | solanaSignIn => simpa only [AsksFor, hsame.parseSiwx] using h
  | wcAuthRequest =>
    simpa only [AsksFor, SignInText, chainNamespace, buildSiwxMessage, authMessage, hsame.parseAuthParams,
      hsame.parseChainId, hsame.siwxText, hsame.keccak256] using h
  | _ => exact h

/-! ## The router asks for no other chain -/

section Asks

variable {h : RouterHost} {r : WcMethodRouter} {c : RpcCall} {L : List RouterEvent} {Q : String → Prop}

/-- Every signing request among the events since `L` is for a chain with `Q`. -/
abbrev AsksOnly (Q : String → Prop) (L : List RouterEvent) : RouterState → Prop :=
  Since RouterState.log L fun e => ∀ kind chain, e = .forwarded kind → signingChain kind = some chain → Q chain

theorem emit_asks {e : RouterEvent} (he : ∀ kind, e ≠ .forwarded kind) : Preserves (AsksOnly Q L) (emit e) :=
  since_append (RouterState.log_emit _) fun kind _ h => absurd h (he kind)

theorem requestApproval_asks (channel : ApprovalChannel) (g : GateRequest) :
    Preserves (AsksOnly Q L) (requestApproval h r channel g) := by
  refine nowUnixSecs_quiet.since.bind fun _ => nextTick_quiet.since.bind fun _ => ?_
  refine (Preserves.ite (emit_asks fun _ he => by cases he) (.pure _)).bind fun _ => ?_
  refine nextTick_quiet.since.bind fun _ => (emit_asks fun _ he => by cases he).bind fun _ => ?_
  exact (Preserves.ite (emit_asks fun _ he => by cases he) (.pure _)).bind fun _ => .lift _

theorem maybeGateApproval_asks (g : GateRequest) : Preserves (AsksOnly Q L) (maybeGateApproval h r g) := by
  refine loadApprovalMode_quiet.since.bind fun _ => .ite (.pure _) ?_
  split
  · exact .fail _
  · exact requestApproval_asks _ g

theorem follows_asks :
    Follows h r (AsksOnly Q L) (AsksOnly Q L) fun kind => ∀ chain, signingChain kind = some chain → Q chain where
  before hm := hm.since
  after hm := hm.since
  unsigned {kind} hk := by
    refine since_append (RouterState.log_emit _) fun kind' chain he hc => ?_
    obtain rfl := RouterEvent.forwarded.inj he
    cases kind with
    | listWallets | generateChallenge => cases hc
    | _ => cases hk
  signing hk := by
    refine since_append (RouterState.log_emit _) fun kind' chain he hc => ?_
    obtain rfl := RouterEvent.forwarded.inj he
    exact hk chain hc
  gate g := (maybeGateApproval_asks g).triple
  weaken _ hs := hs

/-- **The chain of a signing request is the one the parameters ask for**, whatever the Key-Agent, the approver
and the RPC endpoint do. -/
theorem asksFor_of_forwards {method sessionTopic chain : String} {dappName dappOrigin : Option String}
    {s : RouterState}
    (hf : ForwardsFor s (exec (handle h r method params sessionTopic dappName dappOrigin) s).2 chain) :
    AsksFor h params chain (.ofString method) := by
  have hpres : Preserves (AsksOnly (AsksFor h params · (.ofString method)) s.log)
      (handle h r method params sessionTopic dappName dappOrigin) :=
    follows_asks.handle_follows method sessionTopic dappName dappOrigin fun _ hk => hk
  obtain ⟨es, hes, hasks⟩ := hpres s (.start rfl)
  obtain ⟨kind, hmem, hchain⟩ := hf
  rw [newEvents, hes, drop_left] at hmem
  exact hasks _ hmem kind chain rfl hchain

end Asks

/-! ## The router asks for what it may -/

section Obliging

/-- A Key-Agent that knows one wallet and is down for everything else, with the readers of the given host. -/
def obligingHost (rh : RouterHost) (now address chain : String) : RouterHost :=
  { rh with
    send := fun _ kind => if kind = .listWallets then .ok (.ok []) else .error "down"
    decoder := { rh.decoder with listWallets := fun _ => .ok [⟨"w", "", "", 0, [⟨"", address, chain, ""⟩]⟩] }
    clock := fun _ => .ok 0
    rfc3339 := fun _ => now
    intents :=
      { rh.intents with
        envRpcUrl := fun _ => some "rpc"
        connect := fun _ _ => .ok ()
        build := fun _ _ _ => .ok []
        canBlock := true } }

def obligingRouter : WcMethodRouter :=
  { WcMethodRouter.new with blockOnDangerSimulation := false, signAuthMode := .internalToken [] }

variable (rh : RouterHost) {now address chain : String} {c : RpcCall} {s : RouterState}

theorem forwardsFor_forward {k : Bytes → RouterCall α} {t : RouterState} {es : List RouterEvent}
    (ht : t.log = s.log ++ es) (hkind : signingChain kind = some chain) :
    ForwardsFor s (exec (forward (obligingHost rh now address chain) kind >>= k) t).2 chain := by
  have hne : kind ≠ .listWallets := by rintro rfl; cases hkind
  have hsend : (obligingHost rh now address chain).send t.tick kind = .error "down" := if_neg hne
  have hexec : exec (forward (obligingHost rh now address chain) kind) t =
      (.error (.err (.internal, "key-agent wire: down")), ⟨t.tick + 1, t.log ++ [.forwarded kind]⟩) := by
    rw [forward, emit, exec_bind_of_ok (exec_modify _ _), exec_bind_of_ok (by rfl : exec nextTick _ = (.ok t.tick, _)),
      hsend]
    rfl
  refine ⟨kind, ?_, hkind⟩
  rw [exec_bind, hexec]
  rw [newEvents, ht, append_assoc, drop_left]
  exact mem_append_right _ mem_cons_self

theorem exec_policyEvaluateSigning :
    exec (policyEvaluateSigning (obligingHost rh now address chain) obligingRouter params chainId) s =
      (.ok (.safe, []), s) := rfl

theorem exec_maybeBlockOnDanger {risk : RiskLevel} {reasons : List RiskReason} :
    exec (maybeBlockOnDanger obligingRouter risk reasons) s = (.ok (), s) := rfl

theorem exec_maybeGateApproval {g : GateRequest} :
    exec (maybeGateApproval (obligingHost rh now address chain) obligingRouter g) s =
      (.ok true, ⟨s.tick + 1, s.log⟩) := rfl

theorem exec_approve :
    exec (approve (obligingHost rh now address chain) obligingRouter c chainId) s =
      (.ok true, ⟨s.tick + 1, s.log⟩) := rfl

theorem authClassRequest_token {missing walletId : String} {message : Bytes} :
    authClassRequest obligingRouter params missing walletId chainId message =
      .ok ⟨walletId, chainId, message, none, []⟩ := rfl

theorem exec_defaultWallet (hc : chain ≠ "") :
    exec (defaultWalletForChain (obligingHost rh now address chain) chain) s =
      (.ok ("w", address), ⟨s.tick + 1, s.log ++ [.forwarded .listWallets]⟩) := by
  have hfirst : firstWallet chain [⟨"w", "", "", 0, [⟨"", address, chain, ""⟩]⟩] = .ok ("w", address) := by
    simp [firstWallet, Outcome.okOr, bind, Except.bind, pure, Except.pure]
  rw [defaultWalletForChain, if_neg hc]
  exact congrArg (·, _) hfirst

theorem exec_walletFor (now address : String) (s : RouterState) (hw : WalletNamed params chain) :
    ∃ w t es, exec (walletFor (obligingHost rh now address chain) params chain) s = (.ok w, t) ∧
      t.log = s.log ++ es := by
  unfold walletFor
  rcases hid : params.getStr "wallet_id" with _ | w
  · have hc : chain ≠ "" := by
      rcases hw with hw | hc
      · rw [hid] at hw; cases hw
      · exact hc
    exact ⟨"w", _, [.forwarded .listWallets], by dsimp only; rw [exec_bind_of_ok (exec_defaultWallet rh hc)]; rfl, rfl⟩
  · exact ⟨w, s, [], rfl, (append_nil _).symm⟩

/-! ### The methods -/

theorem handleWcAuthRequest_forwards (ha : AsksFor rh params chain .wcAuthRequest) :
    ∃ now address, ∀ (c : RpcCall) (s : RouterState), c.params = params →
      ForwardsFor s (exec (handleWcAuthRequest (obligingHost rh now address chain) obligingRouter c) s).2 chain := by
  obtain ⟨auth, hauth, rfl, hvalid, htext⟩ := ha
  have hchain : auth.chainId ≠ "" := by
    intro he
    rw [AuthRequestParams.validate, if_pos he] at hvalid
    cases hvalid
  have hread : ∀ now address, labelled .internal "bad wc_authRequest params: "
      ((obligingHost rh now address auth.chainId).parseAuthParams params) = .ok auth :=
    fun _ _ => labelled_eq_ok.mpr hauth
  have hcheck : labelled .internal "invalid wc_authRequest: " (auth.validate.mapError AuthError.message) = .ok () :=
    labelled_eq_ok.mpr (mapError_eq_ok.mpr hvalid)
  rcases htext with ⟨hns, address, text, htext⟩ | ⟨hns, hsol, now, address, message, hmessage⟩
  · have hns' : chainNamespace (obligingHost rh "" address auth.chainId) auth.chainId = some "solana" := hns
    have htext' : buildSiwxMessage (obligingHost rh "" address auth.chainId) address auth = .ok text := htext
    refine ⟨"", address, ?_⟩
    rintro c s rfl
    rw [handleWcAuthRequest, exec_lift_bind_of_ok (hread _ _), exec_lift_bind_of_ok hcheck, if_pos hns',
      handleWcAuthSolana, exec_bind_of_ok (exec_defaultWallet rh hchain)]
    rw [exec_lift_bind_of_ok htext', exec_bind_of_ok (exec_approve rh),
      exec_lift_bind_of_ok (by rfl : daemonToken obligingRouter = .ok [])]
    exact forwardsFor_forward rh (by rfl) (by rfl)
  · have hns' : chainNamespace (obligingHost rh now address auth.chainId) auth.chainId = some "eip155" := hns
    have hsol' : ¬ chainNamespace (obligingHost rh now address auth.chainId) auth.chainId = some "solana" := hsol
    have hmessage' : authMessage (obligingHost rh now address auth.chainId) now address params auth = .ok message :=
      hmessage
    refine ⟨now, address, ?_⟩
    rintro c s rfl
    rw [handleWcAuthRequest, exec_lift_bind_of_ok (hread _ _), exec_lift_bind_of_ok hcheck, if_neg hsol', if_pos hns',
      handleWcAuthEvm, exec_bind_of_ok (exec_defaultWallet rh hchain)]
    rw [exec_bind_of_ok (by rfl : exec nextTick _ = (.ok (s.tick + 1), _)),
      exec_lift_bind_of_ok (show authMessage _ ((obligingHost rh now address auth.chainId).rfc3339 _) address c.params
        auth = .ok message from hmessage')]
    rw [exec_bind_of_ok (exec_approve rh), exec_lift_bind_of_ok (by rfl : daemonToken obligingRouter = .ok [])]
    exact forwardsFor_forward rh (by rfl) (by rfl)

theorem handleIntentExecute_forwards (ha : AsksFor rh c.params chain .intentExecute) :
    ForwardsFor s (exec (handleIntentExecute (obligingHost rh now address chain) obligingRouter c) s).2 chain := by
  obtain ⟨⟨⟨auth, hauth⟩, ⟨common, hcommon, rfl⟩, fromAddress, hfrom⟩, ⟨sessionKeyId, hsession⟩, kind, hkind⟩ := ha
  have hchain : requireField c.params "chain_id" = .ok common.chainId := by
    obtain ⟨walletId, -, hrest⟩ := bind_eq_ok.mp hcommon
    obtain ⟨chainId, hchainId, hrest⟩ := bind_eq_ok.mp hrest
    rw [← Except.ok.inj hrest]
    exact hchainId
  have hkind' : intentKind (obligingHost rh now address common.chainId) c.params = .ok kind := hkind
  have hparse : exec (parseIntentParams (obligingHost rh now address common.chainId) c.params) s =
      (.ok (⟨rh.uuid (s.tick + 1), kind, common.chainId, sessionKeyId, 0, 300⟩, c.params.getStr "rpc_url"),
        ⟨s.tick + 2, s.log⟩) := by
    rw [parseIntentParams, exec_lift_bind_of_ok hchain, exec_lift_bind_of_ok hsession, exec_lift_bind_of_ok hkind']
    rfl
  have hopen : ∀ (url : Option String) (t : RouterState),
      exec (openRpcClient (obligingHost rh now address common.chainId) common.chainId url) t =
        (.ok (), ⟨t.tick + 1, t.log⟩) := by
    intro url t
    cases url <;> rfl
  rw [handleIntentExecute, exec_lift_bind_of_ok hauth, exec_bind_of_ok hparse]
  rw [exec_lift_bind_of_ok hcommon, exec_lift_bind_of_ok hfrom, exec_bind_of_ok (exec_approve rh),
    exec_bind_of_ok (hopen _ _)]
  refine ⟨.signTransaction ⟨common.sessionKeyId.getD "", common.walletId, common.chainId, Text.hexText [], some auth⟩,
    ?_, rfl⟩
  -- the engine builds the empty transaction and hands it to the signer
  rw [newEvents, show (exec (executeIntent _ _ _ _) _).2.log = s.log ++ [_] from rfl, drop_left]
  exact mem_cons_self

theorem dispatch_forwards {method : RouterMethod} (ha : AsksFor rh params chain method) :
    ∃ now address, ∀ (c : RpcCall) (s : RouterState), c.params = params →
      ForwardsFor s (exec (dispatch (obligingHost rh now address chain) obligingRouter c method) s).2 chain := by
  cases method with
  | signTransaction =>
    refine ⟨"", "", ?_⟩
    rintro c s rfl
    obtain ⟨⟨auth, hauth⟩, ⟨common, hcommon, rfl⟩, raw, hraw⟩ := ha
    rw [dispatch, handleSignTransaction, exec_lift_bind_of_ok hauth, exec_lift_bind_of_ok hcommon, exec_lift_bind_of_ok hraw,
      exec_bind_of_ok (exec_policyEvaluateSigning rh)]
    rw [exec_bind_of_ok exec_maybeBlockOnDanger, exec_bind_of_ok (exec_maybeGateApproval rh)]
    exact forwardsFor_forward rh (by exact (append_nil _).symm) (by rfl)
  | solanaSignMessage =>
    refine ⟨"", "", ?_⟩
    rintro c s rfl
    obtain ⟨rfl, hw, message, hmessage⟩ := ha
    obtain ⟨w, t, es, hwallet, hlog⟩ := exec_walletFor rh "" "" s hw
    rw [dispatch, handleSolanaSignMessage, exec_bind_of_ok hwallet, exec_lift_bind_of_ok hmessage,
      exec_bind_of_ok (exec_approve rh), exec_lift_bind_of_ok authClassRequest_token]
    exact forwardsFor_forward rh (by exact hlog) (by rfl)
  | signAuth =>
    refine ⟨"", "", ?_⟩
    rintro c s rfl
    obtain ⟨hchain, hw, message, hmessage⟩ := ha
    obtain ⟨w, t, es, hwallet, hlog⟩ := exec_walletFor rh "" "" s hw
    rw [dispatch, handleSignAuth, exec_lift_bind_of_ok hchain, exec_bind_of_ok hwallet, exec_lift_bind_of_ok hmessage,
      exec_lift_bind_of_ok authClassRequest_token, exec_bind_of_ok (exec_approve rh)]
    exact forwardsFor_forward rh (by exact hlog) (by rfl)
  | solanaSignIn =>
    refine ⟨"", "", ?_⟩
    rintro c s rfl
    obtain ⟨hchain, hw, message, hmessage, siwx, hsiwx⟩ := ha
    obtain ⟨w, t, es, hwallet, hlog⟩ := exec_walletFor rh "" "" s hw
    have hread : labelled .unsupportedMethod "invalid CAIP-122 message: "
        ((obligingHost rh "" "" chain).parseSiwx message) = .ok siwx := labelled_eq_ok.mpr hsiwx
    rw [dispatch, handleSolanaSignIn, exec_lift_bind_of_ok hchain, exec_lift_bind_of_ok hmessage, exec_lift_bind_of_ok hread,
      exec_bind_of_ok hwallet, exec_bind_of_ok (exec_approve rh), exec_lift_bind_of_ok authClassRequest_token]
    exact forwardsFor_forward rh (by exact hlog) (by rfl)
  | wcAuthRequest => exact handleWcAuthRequest_forwards rh ha
  | signUserOp =>
    refine ⟨"", "", ?_⟩
    rintro c s rfl
    obtain ⟨⟨auth, hauth⟩, ⟨common, hcommon, rfl⟩, payload, hpayload⟩ := ha
    rw [dispatch, handleSignUserOp, passkeySigning, exec_lift_bind_of_ok hauth, exec_lift_bind_of_ok hcommon,
      exec_lift_bind_of_ok hpayload, exec_bind_of_ok (exec_approve rh)]
    exact forwardsFor_forward rh (by exact (append_nil _).symm) (by rfl)
  | intentExecute => exact ⟨"", "", by rintro c s rfl; exact handleIntentExecute_forwards rh ha⟩
  | _ => exact ha.elim

theorem exists_forwards {method : String} (ha : AsksFor rh params chain (.ofString method)) :
    ∃ now address, ∀ (sessionTopic : String) (dappName dappOrigin : Option String) (s : RouterState),
      ForwardsFor s (exec (handle (obligingHost rh now address chain) obligingRouter method params sessionTopic dappName
        dappOrigin) s).2 chain := by
  obtain ⟨now, address, hf⟩ := dispatch_forwards rh ha
  refine ⟨now, address, fun sessionTopic dappName dappOrigin s => ?_⟩
  unfold handle resolveDappMetadata
  split_ifs
  · exact hf ⟨method, params, _, _⟩ s rfl
  · exact hf ⟨method, params, _, _⟩ s rfl

end Obliging

/-! ## The scope of a session -/

section Scope

/-- The server passes the request on to the router. -/
def Admits (session : WcSession) (req : WalletConnect.JsonRpcRequest) : Prop :=
  match SessionMethod.ofString req.method with
  | .delete | .update | .ping => False
  | .authRequest => True
  | .propose | .other => crossChainRejection session req = none ∧ session.isMethodAllowed req.method = true

variable {τ : Type} {handler : WalletMethodHandler τ} {topic : String} {session : WcSession} {s : ServerState τ}

theorem invoke_handler (c : HandlerCall) (s : ServerState τ) :
    (exec (invoke handler c) s).2.handler = (exec (handler c) s.handler).2 := by
  rw [invoke, exec_bind, exec_modify]
  simp only [exec_attempt_snd, exec_zoom]

theorem dispatch_handler (h : WcHost) (handler : WalletMethodHandler τ) (req : WalletConnect.JsonRpcRequest)
    (clone : WcSession) (key : WcSymKey) (hs : s.sessions.lookup topic = some session) :
    (¬ Admits session req ∧ (exec (dispatchSessionRequest h handler topic req clone key) s).2.handler = s.handler) ∨
    (Admits session req ∧ ∃ name origin, (exec (dispatchSessionRequest h handler topic req clone key) s).2.handler =
      (exec (handler ⟨req.method, req.params, topic, name, origin⟩) s.handler).2) := by
  have hsend : ∀ resp, Silent (sendEncrypted h (bumpId : ServerCall τ Int) topic key resp) :=
    fun resp => sendEncrypted_silent bumpId_silent topic key resp
  rw [dispatchSessionRequest, (Silent.after hsend s).2.2, WalletConnect.answer, Admits]
  cases SessionMethod.ofString req.method with
  | delete | ping => exact .inl ⟨id, rfl⟩
  | update =>
    refine .inl ⟨id, ?_⟩
    dsimp only
    rw [answerUpdate]
    split <;> rfl
  | authRequest =>
    refine .inr ⟨trivial, (some session).bind (·.dappName), (some session).bind (·.dappOrigin), ?_⟩
    rw [answerAuth, exec_bind, exec_reads]
    rw [exec_bind_pure_snd, invoke_handler, hs]
  | propose | other =>
    rw [answerRequest, exec_bind, exec_reads]
    rw [hs]
    dsimp only
    rcases hr : crossChainRejection session req with _ | rejection
    · by_cases hm : session.isMethodAllowed req.method = true
      · refine .inr ⟨⟨rfl, hm⟩, clone.dappName, clone.dappOrigin, ?_⟩
        rw [if_pos hm, exec_bind_pure_snd, invoke_handler]
      · refine .inl ⟨fun ha => hm ha.2, ?_⟩
        rw [if_neg hm]
        rfl
    · exact .inl ⟨fun ha => (Option.some_ne_none _ ha.1).elim, rfl⟩

/-- The scope of the session is kept: whatever the relay, the Key-Agent, the approver and the clock do, dispatching
the request makes the router ask only for chains that the session allows. -/
def ScopeKept (readers : RouterHost) (topic : String) (session : WcSession) (req : WalletConnect.JsonRpcRequest) :
    Prop :=
  ∀ (h : WcHost) (rh : RouterHost) (r : WcMethodRouter) (clone : WcSession) (key : WcSymKey)
    (s : ServerState RouterState) (chain : String), SameReaders rh readers → s.sessions.lookup topic = some session →
    ForwardsFor s.handler
      (exec (dispatchSessionRequest h (routerHandler rh r) topic req clone key) s).2.handler chain →
    session.isChainAllowed chain = true

def scopeStart (topic : String) (session : WcSession) : ServerState RouterState :=
  ⟨AList.insert topic session ∅, [], .new 1, 0, 0, [], [], idleRouter⟩

theorem not_forwardsFor_self (s : RouterState) (chain : String) : ¬ ForwardsFor s s chain := by
  rintro ⟨kind, hmem, -⟩
  rw [newEvents, drop_length] at hmem
  cases hmem

/-- **When the scope of a session is kept.**  The router asks only for chains of the session, if and only if every
chain that the request's parameters ask for is one of them, or the server does not pass the request on. -/
theorem chain_scope_iff (readers : RouterHost) (topic : String) (session : WcSession)
    (req : WalletConnect.JsonRpcRequest) :
    ScopeKept readers topic session req ↔
      (Admits session req → ∀ chain, AsksFor readers req.params chain (.ofString req.method) →
        session.isChainAllowed chain = true) := by
  constructor
  · intro hkept hadmits chain hasks
    obtain ⟨now, address, hf⟩ := exists_forwards readers hasks
    have hs : (scopeStart topic session).sessions.lookup topic = some session := AList.lookup_insert _
    refine hkept plainHost (obligingHost readers now address chain) obligingRouter session
      ⟨List.replicate 32 0, rfl⟩ (scopeStart topic session) chain ⟨rfl, rfl, rfl, rfl, rfl, rfl⟩ hs ?_
    -- the server hands the request to the router, and this Key-Agent is asked
    rcases dispatch_handler plainHost (routerHandler (obligingHost readers now address chain) obligingRouter) req session
      ⟨List.replicate 32 0, rfl⟩ hs with
      ⟨hnot, -⟩ | ⟨-, name, origin, hhandler⟩
    · exact absurd hadmits hnot
    · rw [hhandler]
      exact hf topic name origin _
  · intro hscope h rh r clone key s chain hsame hs hf
    rcases dispatch_handler h (routerHandler rh r) req clone key hs with
      ⟨-, hhandler⟩ | ⟨hadmits, name, origin, hhandler⟩
    · rw [hhandler] at hf
      exact absurd hf (not_forwardsFor_self _ _)
    · rw [hhandler] at hf
      exact hscope hadmits chain (hsame.asksFor (asksFor_of_forwards hf))

end Scope

/-! ### A chain outside the session -/

section Outside

def outsideParams : Json :=
  .obj [("auth", .obj [("challenge_hex", .str "00"), ("signature_hex", .str "00"), ("credential_id", .str "cred")]),
    ("wallet_id", .str "w"), ("chain_id", .str "eip155:137"), ("raw_tx_hex", .str "0x02")]

def outsideRequest : WalletConnect.JsonRpcRequest := ⟨"2.0", "eth_signTransaction", outsideParams, 1⟩

def mainnetSession : WcSession := { plainSession with namespaces := ["eip155:1"], methods := ["eth_signTransaction"] }

/-- **A chain outside the session's scope is signed for.**  The server finds no `chainId` to refuse, and the router
forwards the request for the chain in `chain_id` to a Key-Agent that signs it. -/
theorem forwards_outside_scope :
    mainnetSession.isChainAllowed "eip155:137" = false ∧
    (exec (dispatchSessionRequest plainHost (routerHandler signingHost.router .new) "topic" outsideRequest mainnetSession
      ⟨List.replicate 32 0, rfl⟩) (scopeStart "topic" mainnetSession)).2.handler.log =
      [.forwarded (.signTransaction ⟨"", "w", "eip155:137", "0x02", some ⟨[0], [0], "cred"⟩⟩)] ∧
    ¬ ScopeKept signingHost.router "topic" mainnetSession outsideRequest := by
  have hlog : (exec (dispatchSessionRequest plainHost (routerHandler signingHost.router .new) "topic" outsideRequest
      mainnetSession ⟨List.replicate 32 0, rfl⟩) (scopeStart "topic" mainnetSession)).2.handler.log =
      [.forwarded (.signTransaction ⟨"", "w", "eip155:137", "0x02", some ⟨[0], [0], "cred"⟩⟩)] := rfl
  have hnot : mainnetSession.isChainAllowed "eip155:137" = false := by decide
  refine ⟨hnot, hlog, fun hkept => ?_⟩
  have hallowed := hkept plainHost signingHost.router .new mainnetSession ⟨List.replicate 32 0, rfl⟩
    (scopeStart "topic" mainnetSession) "eip155:137" ⟨rfl, rfl, rfl, rfl, rfl, rfl⟩ rfl
    ⟨_, by rw [newEvents, hlog]; exact mem_cons_self, rfl⟩
  cases hallowed

end Outside

end OneCipher.NetAgent
