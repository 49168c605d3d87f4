import OneCipher.Base.Trace
import OneCipher.NetAgent.Router

/-!
# OneCipher.NetAgent.ApprovalOrder — approval comes before signing

The router's runs, followed through every method.  `AsksFor` says for which chain a method may ask for a signature,
read off the parameters; `Follows` says what an invariant needs of the gate and of the requests, and
`handle_follows` that every run then keeps it.

Until an approval comes back a run is `Waiting`: only requests that sign nothing may be forwarded.  The gate turns
`Waiting` into `Approved`, and after that anything may be forwarded.
-/

namespace OneCipher.NetAgent

open Prog Trace KeyAgent Result
open RouterState (log_emit)
open Preserves (lift_bind)
open WalletConnect (AuthRequestParams)

/-! ## The order of events -/

namespace RouterEvent

def isApproval : RouterEvent → Bool
  | decided _ .approve => true
  | _ => false

def isSigning : RouterEvent → Bool
  | forwarded kind => kind.isSigning
  | _ => false

end RouterEvent

/-- Of the events since `L`, no signing request comes before an approval. -/
abbrev Waiting (L : List RouterEvent) (s : RouterState) : Prop :=
  Ordered RouterState.log (RouterEvent.isApproval ·) (RouterEvent.isSigning ·) L s

/-- And there was an approval. -/
abbrev Approved (L : List RouterEvent) (s : RouterState) : Prop :=
  Granted RouterState.log (RouterEvent.isApproval ·) (RouterEvent.isSigning ·) L s

abbrev QuietCall {α : Type} (m : RouterCall α) : Prop := Quiet RouterState.log m

/-! ## What the parameters ask for -/

def signingChain : KeyAgentRequestKind → Option String
  | .signTransaction req => some req.chainId
  | .signUserOp req => some req.chainId
  | .signAuth req => some req.chainId
  | .signSiwx req => some req.chainId
  | .signMessage _ | .signTypedData _ | .listWallets | .generateChallenge _ => none

/-- The parameters carry a passkey proof, the common fields for the chain, and a payload. -/
def PasskeyCall (params : Json) (fieldName chain : String) : Prop :=
  (∃ auth, requirePasskey params "missing passkey authorization" = .ok auth) ∧
    (∃ common, extractCommonParams params = .ok common ∧ common.chainId = chain) ∧
    ∃ payload, requireField params fieldName = .ok payload

/-- The parameters name a wallet, or a chain to find the default one by. -/
def WalletNamed (params : Json) (chain : String) : Prop := (params.getStr "wallet_id").isSome = true ∨ chain ≠ ""

/-- The text of a sign-in can be built, for some account at some time. -/
def SignInText (rh : RouterHost) (params : Json) (auth : AuthRequestParams) : Prop :=
  (chainNamespace rh auth.chainId = some "solana" ∧ ∃ address text, buildSiwxMessage rh address auth = .ok text) ∨
  (chainNamespace rh auth.chainId = some "eip155" ∧ chainNamespace rh auth.chainId ≠ some "solana" ∧
    ∃ now address message, authMessage rh now address params auth = .ok message)

/-- The router, given these parameters, may ask for a signature for the chain. -/
def AsksFor (rh : RouterHost) (params : Json) (chain : String) : RouterMethod → Prop
  | .signTransaction => PasskeyCall params "raw_tx_hex" chain
  | .signUserOp => PasskeyCall params "user_op_hex" chain
  | .intentExecute =>
    PasskeyCall params "from_address" chain ∧ (∃ id, requireField params "session_key_id" = .ok id) ∧
      ∃ kind, intentKind rh params = .ok kind
  | .solanaSignMessage =>
    (params.getStr "chain_id").getD "solana:mainnet" = chain ∧ WalletNamed params chain ∧
      ∃ message, requireField params "message" = .ok message
  | .signAuth =>
    requireField params "chain_id" = .ok chain ∧ WalletNamed params chain ∧
      ∃ message, requireField params "message" = .ok message
  | .solanaSignIn =>
    requireField params "chain_id" = .ok chain ∧ WalletNamed params chain ∧
      ∃ message, requireField params "message" = .ok message ∧ ∃ siwx, rh.parseSiwx message = .ok siwx
  | .wcAuthRequest =>
    ∃ auth, rh.parseAuthParams params = .ok auth ∧ auth.chainId = chain ∧ auth.validate = .ok () ∧
      SignInText rh params auth
  | _ => False

section Order

variable {h : RouterHost} {r : WcMethodRouter} {L : List RouterEvent} {c : RpcCall} {params : Json} {chainId : String}
  {α : Type}

/-! ### Calls that record nothing -/

theorem nextTick_quiet : QuietCall nextTick := fun _ => .state fun _ hs => hs

theorem nowUnixSecs_quiet : QuietCall (nowUnixSecs h) := fun L =>
  (nextTick_quiet L).bind fun _ => .lift _

theorem nowOrZero_quiet : QuietCall (nowOrZero h) := fun L => (nextTick_quiet L).bind fun _ => .pure _

theorem policyEvaluateSigning_quiet (params : Json) (chainId : String) :
    QuietCall (policyEvaluateSigning h r params chainId) := by
  intro L
  unfold policyEvaluateSigning
  split
  · exact .pure _
  · exact lift_bind fun _ _ => (nowUnixSecs_quiet L).bind fun _ =>
      .ite (.fail _) (.pure _)

theorem loadApprovalMode_quiet : QuietCall (loadApprovalMode r) := fun L =>
  (nextTick_quiet L).bind fun _ => .pure _

theorem maybeBlockOnDanger_quiet (risk : RiskLevel) (reasons : List RiskReason) :
    QuietCall (maybeBlockOnDanger r risk reasons) := fun L =>
  .ite (.pure _) (((loadApprovalMode_quiet L).bind fun _ => .pure _).bind fun _ =>
    .lift _)

theorem parseIntentParams_quiet (params : Json) : QuietCall (parseIntentParams h params) := fun L =>
  lift_bind fun _ _ => lift_bind fun _ _ => lift_bind fun _ _ =>
    (nowOrZero_quiet L).bind fun _ => (nextTick_quiet L).bind fun _ => .pure _

theorem openRpcClient_quiet (chainId : String) (rpcUrl : Option String) :
    QuietCall (openRpcClient h chainId rpcUrl) := fun L => (nextTick_quiet L).bind fun _ => .lift _

theorem resolveDappMetadata_quiet (sessionTopic dappName dappOrigin : String) :
    QuietCall (resolveDappMetadata r sessionTopic dappName dappOrigin) := by
  intro L
  refine .ite (.pure _) ?_
  split
  · exact .pure _
  · exact (nextTick_quiet L).bind fun _ => .pure _

theorem labelled_eq_ok {code : JsonRpcErrorCode} {label : String} {x : Except String α} {a : α} :
    labelled code label x = .ok a ↔ x = .ok a := by
  cases x <;> simp [labelled]

theorem authClassRequest_chain {missing walletId : String} {message : Bytes} {req : AuthClassRequest}
    (hreq : authClassRequest r params missing walletId chainId message = .ok req) :
    req.chainId = chainId := by
  unfold authClassRequest at hreq
  split at hreq
  · obtain ⟨auth, -, hreq⟩ := bind_eq_ok.mp hreq
    rw [← Except.ok.inj hreq]
  · rw [← Except.ok.inj hreq]

/-! ### Following a run -/

/-- What a run needs to keep `W` until an approval comes back and `A` from then on, when the signing requests it
forwards have `K`. -/
structure Follows (h : RouterHost) (r : WcMethodRouter) (W A : RouterState → Prop) (K : KeyAgentRequestKind → Prop) :
    Prop where
  before : ∀ {α : Type} {m : RouterCall α}, QuietCall m → Preserves W m
  after : ∀ {α : Type} {m : RouterCall α}, QuietCall m → Preserves A m
  unsigned : ∀ {kind}, kind.isSigning = false → Preserves W (emit (.forwarded kind))
  signing : ∀ {kind}, K kind → Preserves A (emit (.forwarded kind))
  gate : ∀ g, Triple W (maybeGateApproval h r g) (fun _ => A) (fun _ => W)
  weaken : ∀ s, A s → W s

namespace Follows

variable {W A : RouterState → Prop} {K : KeyAgentRequestKind → Prop} {kind : KeyAgentRequestKind}
  (M : Follows h r W A K)

include M

theorem forward_unsigned (hk : kind.isSigning = false) : Preserves W (forward h kind) :=
  (M.unsigned hk).bind fun _ => (M.before nextTick_quiet).bind fun _ => .lift _

theorem forward_signing (hk : K kind) : Preserves A (forward h kind) :=
  (M.signing hk).bind fun _ => (M.after nextTick_quiet).bind fun _ => .lift _

theorem forward_decoded {β : Type} {decode : Bytes → Outcome RpcError α} {answer : α → β} (hk : K kind) :
    Preserves A (do
      let bytes ← forward h kind
      let resp ← lift (decode bytes)
      return answer resp) :=
  (M.forward_signing hk).bind fun _ => lift_bind fun _ _ => .pure _

theorem defaultWalletForChain_bind {k : String × String → RouterCall α} (hk : chainId ≠ "" → ∀ w, Preserves W (k w)) :
    Preserves W (defaultWalletForChain h chainId >>= k) := by
  unfold defaultWalletForChain
  by_cases hc : chainId = ""
  · rw [if_pos hc]
    exact fun s hs => hs
  · rw [if_neg hc]
    refine .bind ?_ (hk hc)
    exact (M.forward_unsigned rfl).bind fun _ => lift_bind fun _ _ => .lift _

theorem walletFor_bind {k : String → RouterCall α} (hk : WalletNamed params chainId → ∀ w, Preserves W (k w)) :
    Preserves W (walletFor h params chainId >>= k) := by
  unfold walletFor
  rcases hw : params.getStr "wallet_id" with _ | walletId
  · rw [bind_assoc]
    exact M.defaultWalletForChain_bind fun hc w => hk (.inr hc) w.1
  · exact (Preserves.pure _).bind fun w => hk (.inl (by rw [hw]; rfl)) w

theorem gate_bind {m : RouterCall Bool} {k : Bool → RouterCall α} (hm : Triple W m (fun _ => A) (fun _ => W))
    (hk : ∀ b, Preserves A (k b)) : Preserves W (m >>= k) := by
  refine .of_triple (.bind hm fun b => ?_) (fun _ _ hs => hs) fun _ _ hs => hs
  exact (hk b).triple.conseq (fun _ hs => hs) (fun _ s hs => M.weaken s hs) fun _ s hs => M.weaken s hs

theorem approve_bind {k : Bool → RouterCall α} (hk : ∀ b, Preserves A (k b)) :
    Preserves W (approve h r c chainId >>= k) :=
  M.gate_bind (.bind (M.before (policyEvaluateSigning_quiet _ _)).triple fun _ => M.gate _) hk

/-! ### The methods -/

/-- The requests that the method may make with these parameters have `K`. -/
def Covers (K : KeyAgentRequestKind → Prop) (h : RouterHost) (params : Json) (method : RouterMethod) : Prop :=
  ∀ kind, (∀ chain, signingChain kind = some chain → AsksFor h params chain method) → K kind

theorem handleSignTransaction_follows (hK : Covers K h c.params .signTransaction) :
    Preserves W (handleSignTransaction h r c) := by
  refine lift_bind fun auth hauth => lift_bind fun common hcommon => lift_bind fun raw hraw => ?_
  refine (M.before (policyEvaluateSigning_quiet _ _)).bind fun _ => ?_
  refine (M.before (maybeBlockOnDanger_quiet _ _)).bind fun _ => M.gate_bind (M.gate _) fun _ => ?_
  refine M.forward_decoded (hK _ fun chain hchain => ?_)
  exact ⟨⟨auth, hauth⟩, ⟨common, hcommon, Option.some.inj hchain⟩, raw, hraw⟩

theorem handleSolanaSignMessage_follows (hK : Covers K h c.params .solanaSignMessage) :
    Preserves W (handleSolanaSignMessage h r c) := by
  refine M.walletFor_bind fun hw walletId => lift_bind fun message hmessage => ?_
  refine M.approve_bind fun _ => lift_bind fun req hreq => M.forward_decoded (hK _ fun chain hchain => ?_)
  obtain rfl : req.chainId = chain := Option.some.inj hchain
  rw [authClassRequest_chain hreq]
  exact ⟨rfl, hw, message, hmessage⟩

theorem passkeySigning_follows {fieldName : String} {chainOf : CommonParams → String}
    {kind : PasskeyAuthorization → CommonParams → String → KeyAgentRequestKind}
    {answer : Bytes → Outcome RpcError Json}
    (hK : ∀ auth common payload, requirePasskey c.params "missing passkey authorization" = .ok auth →
      extractCommonParams c.params = .ok common → requireField c.params fieldName = .ok payload →
      K (kind auth common payload)) :
    Preserves W (passkeySigning h r c fieldName chainOf kind answer) := by
  refine lift_bind fun auth hauth => lift_bind fun common hcommon => lift_bind fun payload hpayload => ?_
  refine M.approve_bind fun _ => (M.forward_signing ?_).bind fun _ => .lift _
  exact hK auth common payload hauth hcommon hpayload

theorem handleSignAuth_follows (hK : Covers K h c.params .signAuth) : Preserves W (handleSignAuth h r c) := by
  refine lift_bind fun chainId hchainId => M.walletFor_bind fun hw walletId => ?_
  refine lift_bind fun message hmessage => lift_bind fun req hreq => ?_
  refine M.approve_bind fun _ => M.forward_decoded (hK _ fun chain hchain => ?_)
  obtain rfl : req.chainId = chain := Option.some.inj hchain
  rw [authClassRequest_chain hreq]
  exact ⟨hchainId, hw, message, hmessage⟩

theorem handleSolanaSignIn_follows (hK : Covers K h c.params .solanaSignIn) :
    Preserves W (handleSolanaSignIn h r c) := by
  refine lift_bind fun chainId hchainId => lift_bind fun message hmessage => ?_
  refine lift_bind fun siwx hsiwx => M.walletFor_bind fun hw walletId => ?_
  refine M.approve_bind fun _ => lift_bind fun req hreq => M.forward_decoded (hK _ fun chain hchain => ?_)
  obtain rfl : req.chainId = chain := Option.some.inj hchain
  rw [authClassRequest_chain hreq]
  exact ⟨hchainId, hw, message, hmessage, siwx, labelled_eq_ok.mp hsiwx⟩

theorem handleWcAuthRequest_follows (hK : Covers K h c.params .wcAuthRequest) :
    Preserves W (handleWcAuthRequest h r c) := by
  refine lift_bind fun auth hauth => lift_bind fun _ hvalid => ?_
  have hauth := labelled_eq_ok.mp hauth
  have hvalid := mapError_eq_ok.mp (labelled_eq_ok.mp hvalid)
  by_cases hsol : chainNamespace h auth.chainId = some "solana"
  · rw [if_pos hsol]
    refine M.defaultWalletForChain_bind fun _ w => lift_bind fun text htext => ?_
    refine M.approve_bind fun _ => lift_bind fun _ _ => M.forward_decoded (hK _ fun chain hchain => ?_)
    exact ⟨auth, hauth, Option.some.inj hchain, hvalid, .inl ⟨hsol, w.2, text, htext⟩⟩
  · rw [if_neg hsol]
    by_cases hevm : chainNamespace h auth.chainId = some "eip155"
    · rw [if_pos hevm]
      refine M.defaultWalletForChain_bind fun _ w => (M.before nextTick_quiet).bind fun t => ?_
      refine lift_bind fun message hmessage => M.approve_bind fun _ => ?_
      refine lift_bind fun _ _ => M.forward_decoded (hK _ fun chain hchain => ?_)
      exact ⟨auth, hauth, Option.some.inj hchain, hvalid, .inr ⟨hevm, hsol, _, w.2, message, hmessage⟩⟩
    · rw [if_neg hevm]
      exact .fail _

theorem executeIntent_follows (intent : Intent) (fromAddress : String) {signer : Bytes → RouterCall Bytes}
    (hsigner : ∀ b, Preserves A (signer b)) : Preserves A (executeIntent h intent fromAddress signer) := by
  refine (M.after nowOrZero_quiet).bind fun _ => .ite (.pure _) ?_
  refine (M.after nextTick_quiet).bind fun _ => lift_bind fun _ _ => (hsigner _).bind fun _ => ?_
  exact (M.after nextTick_quiet).bind fun _ => lift_bind fun _ _ => .pure _

theorem handleIntentExecute_follows (hK : Covers K h c.params .intentExecute) :
    Preserves W (handleIntentExecute h r c) := by
  refine lift_bind fun auth hauth => ?_
  unfold parseIntentParams
  simp only [bind_assoc]
  refine lift_bind fun chainId _ => lift_bind fun sessionKeyId hsession => lift_bind fun kind hkind => ?_
  refine (M.before nowOrZero_quiet).bind fun now => (M.before nextTick_quiet).bind fun t => ?_
  refine (Preserves.pure _).bind fun parsed => lift_bind fun common hcommon => lift_bind fun fromAddress hfrom => ?_
  refine M.approve_bind fun _ => (M.after (openRpcClient_quiet _ _)).bind fun _ => ?_
  refine M.executeIntent_follows _ _ fun b => .ite (.lift _) ((M.signing (hK _ fun chain hchain => ?_)).bind fun _ =>
    (M.after nextTick_quiet).bind fun _ => .lift _)
  exact ⟨⟨⟨auth, hauth⟩, ⟨common, hcommon, Option.some.inj hchain⟩, fromAddress, hfrom⟩, ⟨sessionKeyId, hsession⟩, kind,
    hkind⟩

theorem dispatch_follows (method : RouterMethod) (hK : Covers K h c.params method) :
    Preserves W (dispatch h r c method) := by
  cases method with
  | listWallets => exact (M.forward_unsigned rfl).bind fun _ => lift_bind fun _ _ => .pure _
  | signTransaction => exact M.handleSignTransaction_follows hK
  | solanaSignMessage => exact M.handleSolanaSignMessage_follows hK
  | signMessage | signTypedData => exact M.passkeySigning_follows fun _ _ _ _ _ _ => hK _ nofun
  | signAuth => exact M.handleSignAuth_follows hK
  | solanaSignIn => exact M.handleSolanaSignIn_follows hK
  | wcAuthRequest => exact M.handleWcAuthRequest_follows hK
  | signUserOp =>
    refine M.passkeySigning_follows fun auth common payload hauth hcommon hpayload => hK _ fun chain hchain => ?_
    exact ⟨⟨auth, hauth⟩, ⟨common, hcommon, Option.some.inj hchain⟩, payload, hpayload⟩
  | generateChallenge =>
    exact lift_bind fun _ _ => (M.forward_unsigned rfl).bind fun _ => lift_bind fun _ _ => .pure _
  | getBalance => exact lift_bind fun _ _ => .fail _
  | intentSimulate =>
    exact (M.before (parseIntentParams_quiet _)).bind fun _ => (M.before (openRpcClient_quiet _ _)).bind fun _ =>
      (M.before nextTick_quiet).bind fun _ => .lift _
  | intentExecute => exact M.handleIntentExecute_follows hK
  | unknown => exact .fail _

theorem handle_follows (method : String) (sessionTopic : String) (dappName dappOrigin : Option String)
    (hK : Covers K h params (.ofString method)) :
    Preserves W (handle h r method params sessionTopic dappName dappOrigin) :=
  (M.before (resolveDappMetadata_quiet _ _ _)).bind fun x => M.dispatch_follows (c := ⟨method, params, x.1, x.2⟩) _ hK

end Follows

/-! ### The gate -/

theorem logPending_waiting (pending : PendingApproval) : Preserves (Waiting L) (logPending r pending) :=
  .ite (ordered_append (log_emit _) Bool.false_ne_true) (.pure _)

theorem requestApproval_approved (channel : ApprovalChannel) (g : GateRequest) :
    Triple (Waiting L) (requestApproval h r channel g) (fun _ => Approved L) (fun _ => Waiting L) := by
  refine .bind nowUnixSecs_quiet.ordered.triple fun now => ?_
  refine .bind nextTick_quiet.ordered.triple fun t => ?_
  refine .bind (logPending_waiting _).triple fun _ => ?_
  refine .bind nextTick_quiet.ordered.triple fun t' => ?_
  generalize channel.request t' _ = decision
  cases decision with
  | approve =>
    refine .bind (Q := fun _ => Approved L)
      (.modify fun s hs => ordered_grant (log_emit _) (by rfl) Bool.false_ne_true hs) fun _ => ?_
    refine .bind (Q := fun _ => Approved L) (Preserves.triple ?_ |>.conseq (fun _ hs => hs) (fun _ _ hs => hs)
      fun _ _ hs => hs.ordered) fun _ => .lift (fun _ _ _ hs => hs) fun _ _ he _ => by cases he
    exact Preserves.ite (granted_append (log_emit _)) (Preserves.pure _)
  | _ =>
    refine .bind (ordered_append (log_emit _) Bool.false_ne_true).triple fun _ => ?_
    refine .bind (Preserves.triple (Preserves.ite (ordered_append (log_emit _) Bool.false_ne_true)
      (.pure _))) fun _ => .lift (fun _ _ he _ => by cases he) fun _ _ _ hs => hs

/-- **The gate.**  While approval mode is on, it lets a request through only with an approval. -/
theorem maybeGateApproval_approved (hmode : ∀ t, r.approvalMode t = true) (g : GateRequest) :
    Triple (Waiting L) (maybeGateApproval h r g) (fun _ => Approved L) (fun _ => Waiting L) := by
  intro s hs
  rw [maybeGateApproval, exec_bind_of_ok (by rfl : exec (loadApprovalMode r) s =
    (.ok (r.approvalMode s.tick), { s with tick := s.tick + 1 })), hmode, if_neg (by decide)]
  have hs' : Waiting L { s with tick := s.tick + 1 } := hs
  rcases r.approval with _ | channel
  · exact hs'
  · exact requestApproval_approved channel g _ hs'

theorem follows_waiting (hmode : ∀ t, r.approvalMode t = true) : Follows h r (Waiting L) (Approved L) fun _ => True where
  before hm := hm.ordered
  after hm := hm.granted
  unsigned hk := ordered_append (log_emit _) (by simp [RouterEvent.isSigning, hk])
  signing _ := granted_append (log_emit _)
  gate := maybeGateApproval_approved hmode
  weaken _ hs := hs.ordered

/-- **Approval before signing.**  While approval mode is on, no method of the router forwards a signing
request before an approval was given. -/
theorem handle_waiting (hmode : ∀ t, r.approvalMode t = true) (method : String) (params : Json)
    (sessionTopic : String) (dappName dappOrigin : Option String) :
    Preserves (Waiting L) (handle h r method params sessionTopic dappName dappOrigin) :=
  (follows_waiting hmode).handle_follows method sessionTopic dappName dappOrigin fun _ _ => trivial

end Order

end OneCipher.NetAgent
