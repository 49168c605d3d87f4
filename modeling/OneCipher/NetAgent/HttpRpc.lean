import OneCipher.NetAgent.ApprovalOrder

/-!
# OneCipher.NetAgent.HttpRpc — the loopback JSON-RPC server

`oc-netagent/src/http_rpc.rs`: the server is built around a router, and `POST /rpc` hands every method but
`oc_health` to it.
-/

namespace OneCipher.NetAgent

open Prog Trace KeyAgent

/-! ## The server -/

/-- The part of the configuration that the router is made from. -/
structure LocalRpcServerConfig where
  approval : Option ApprovalChannel
  approvalMode : Nat → Bool
  approvalTimeoutSecs : Nat
  approvalLog : Bool

/-- The router of a new server.  Without a channel it is a router of its own making, which does not get
the configuration's flag. -/
def LocalRpcServer.new (config : LocalRpcServerConfig) : WcMethodRouter :=
  match config.approval with
  | some channel => .withApproval channel config.approvalMode config.approvalTimeoutSecs config.approvalLog
  | none => .new

/-! ## Requests -/

/-- A decoded request; every member may be missing. -/
structure JsonRpcRequest where
  id : Option Json
  method : Option String
  params : Option Json

structure ServerHost where
  router : RouterHost
  parseRequest : String → Except String JsonRpcRequest
  version : String

def parseErrorCode : Int := -32700
def invalidRequestCode : Int := -32600

def intJson (n : Int) : Json :=
  if 0 ≤ n then .num (.posInt (UInt64.ofNat n.toNat)) else .num (.negInt (Int64.ofInt n))

def successResponse (id result : Json) : Json := .obj [("jsonrpc", .str "2.0"), ("id", id), ("result", result)]

def errorResponse (id : Json) (code : Int) (message : String) : Json :=
  .obj [("jsonrpc", .str "2.0"), ("id", id), ("error", .obj [("code", intJson code), ("message", .str message)])]

def answer (id : Json) : Except RpcError Json → Json
  | .ok result => successResponse id result
  | .error (code, message) => errorResponse id code.code message

section Requests

variable (h : ServerHost) (r : WcMethodRouter)

/-- Dispatch a request that names a method.  A panic of the router ends the request without an answer. -/
def handleMethod (id : Json) (method : String) (params : Option Json) : RouterCall Json :=
  if method = "oc_health" then
    pure (successResponse id (.obj [("ok", .bool true), ("version", .str h.version)]))
  else do
    let result ← attempt (handle h.router r method (params.getD (.obj [])) "" none none)
    return answer id result

/-- `POST /rpc`. -/
def handleRpc (body : String) : RouterCall Json :=
  match h.parseRequest body with
  | .error e => pure (errorResponse .null parseErrorCode ("parse error: " ++ e))
  | .ok request =>
    match request.method with
    | none => pure (errorResponse (request.id.getD .null) invalidRequestCode "missing method")
    | some method => handleMethod h r (request.id.getD .null) method request.params

end Requests

/-! ## Failing closed -/

def newEvents (s s' : RouterState) : List RouterEvent := s'.log.drop s.log.length

/-- What the server owes its user while approval mode is on: signing requests reach the Key-Agent only
after an approval, and without a channel they are all answered with an error. -/
structure FailsClosed (config : LocalRpcServerConfig) (h : ServerHost) : Prop where
  approved : ∀ body s, Precedes (RouterEvent.isApproval ·) (RouterEvent.isSigning ·)
    (newEvents s (exec (handleRpc h (LocalRpcServer.new config) body) s).2)
  refused : config.approval = none → ∀ body s request method, h.parseRequest body = .ok request →
    request.method = some method → (RouterMethod.ofString method).isSigning = true →
    ∃ code message, (exec (handleRpc h (LocalRpcServer.new config) body) s).1 =
      .ok (errorResponse (request.id.getD .null) code message)

theorem handleRpc_waiting {h : ServerHost} {r : WcMethodRouter} (hmode : ∀ t, r.approvalMode t = true)
    (L : List RouterEvent) (body : String) : Preserves (Waiting L) (handleRpc h r body) := by
  unfold handleRpc
  split
  · exact .pure _
  · split
    · exact .pure _
    · exact .ite (.pure _) ((handle_waiting hmode _ _ _ _ _).attempt.bind fun _ => .pure _)

theorem failsClosed_of_channel {config : LocalRpcServerConfig} (hmode : ∀ t, config.approvalMode t = true)
    {channel : ApprovalChannel} (hc : config.approval = some channel) (h : ServerHost) : FailsClosed config h where
  approved body s := by
    have hr : ∀ t, (LocalRpcServer.new config).approvalMode t = true := by
      rw [LocalRpcServer.new, hc]
      exact hmode
    obtain ⟨es, hes, hp⟩ := handleRpc_waiting (h := h) hr s.log body s (.start rfl)
    rwa [newEvents, hes, List.drop_left]
  refused hnone := by rw [hc] at hnone; cases hnone

/-! ### A server without a channel -/

/-- The parameters of a `personal_sign` with a passkey proof. -/
def personalSignParams : Json :=
  .obj [("auth", .obj [("challenge_hex", .str "00"), ("signature_hex", .str "00"), ("credential_id", .str "cred")]),
    ("wallet_id", .str "w"), ("chain_id", .str "eip155:1"), ("message", .str "hi")]

/-- A Key-Agent that signs whatever it is asked to, and a client that asks for one `personal_sign`. -/
def signingHost : ServerHost where
  router :=
    { send := fun _ _ => .ok (.ok [])
      decoder := ⟨fun _ => .ok [], fun _ => .ok ⟨[], ""⟩, fun _ => .ok ⟨[], ""⟩, fun _ => .ok [1], fun _ => .ok [1],
        fun _ => .ok ⟨[], "", "", []⟩, fun _ => .ok ⟨[], "", "", []⟩, fun _ => .ok []⟩
      clock := fun _ => .ok 1000
      uuid := fun _ => "id"
      rfc3339 := fun _ => "2026-01-01T00:00:00Z"
      keccak256 := id
      parseChainId := fun _ => .error "unread"
      simulateEvmTx := fun _ _ => .error "unavailable"
      parseSiwx := fun _ => .error "not a sign-in message"
      siwxText := fun _ _ _ => .error "not built"
      parseAuthParams := fun _ => .error "unread"
      intents := ⟨fun _ => none, fun _ => none, fun _ _ => .ok (), fun _ _ => .ok .null, fun _ _ _ => .ok [],
        fun _ _ => .ok ("", .null), false⟩ }
  parseRequest _ := .ok ⟨none, some "personal_sign", some personalSignParams⟩
  version := "0.0.0"

def idleRouter : RouterState := ⟨0, []⟩

theorem signingHost_forwards :
    (exec (handleRpc signingHost .new "") idleRouter).2.log =
      [.forwarded (.signMessage ⟨"", "w", Text.utf8 "hi", some ⟨[0], [0], "cred"⟩⟩)] := by
  rfl

theorem not_failsClosed_of_none {config : LocalRpcServerConfig} (hc : config.approval = none) :
    ¬ FailsClosed config signingHost := by
  intro hf
  have hp := hf.approved "" idleRouter
  have hnew : LocalRpcServer.new config = .new := by rw [LocalRpcServer.new, hc]
  rw [hnew, show newEvents idleRouter (exec (handleRpc signingHost .new "") idleRouter).2 = _ from
    signingHost_forwards] at hp
  exact absurd hp (not_precedes_cons (by rfl))

/-- **When the server fails closed.**  With approval mode on, every signing request waits for an approval,
whatever the Key-Agent, the approver and the client do, if and only if the configuration has an approval
channel. -/
theorem fails_closed_iff (config : LocalRpcServerConfig) (hmode : ∀ t, config.approvalMode t = true) :
    (∀ h, FailsClosed config h) ↔ config.approval.isSome = true := by
  rcases hc : config.approval with _ | channel
  · constructor
    · intro hall
      exact absurd (hall signingHost) (not_failsClosed_of_none hc)
    · nofun
  · exact ⟨fun _ => rfl, fun _ h => failsClosed_of_channel hmode hc h⟩

def wiredConfig : LocalRpcServerConfig := ⟨some ⟨fun _ _ => .answered (.reject "no")⟩, fun _ => true, 300, false⟩

theorem fails_closed_wired :
    (∀ t, wiredConfig.approvalMode t = true) ∧
    ((∀ h, FailsClosed wiredConfig h) ↔ wiredConfig.approval.isSome = true) :=
  ⟨fun _ => rfl, fails_closed_iff wiredConfig fun _ => rfl⟩

def unwiredConfig : LocalRpcServerConfig := ⟨none, fun _ => true, 300, false⟩

/-- **A server without a channel signs.**  Approval mode is on when the request arrives; the request is
forwarded to the Key-Agent, nobody was asked, and the client gets the signature. -/
theorem unwired_server_signs :
    (∀ t, unwiredConfig.approvalMode t = true) ∧
    (exec (handleRpc signingHost (LocalRpcServer.new unwiredConfig) "") idleRouter).2.log =
      [.forwarded (.signMessage ⟨"", "w", Text.utf8 "hi", some ⟨[0], [0], "cred"⟩⟩)] ∧
    (exec (handleRpc signingHost (LocalRpcServer.new unwiredConfig) "") idleRouter).1 =
      .ok (successResponse .null (signatureJson [1])) ∧
    ¬ FailsClosed unwiredConfig signingHost :=
  ⟨fun _ => rfl, signingHost_forwards, rfl, not_failsClosed_of_none rfl⟩

end OneCipher.NetAgent
