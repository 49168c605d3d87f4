import Mathlib.Data.List.MinMax
import OneCipher.WalletConnect.Crypto

/-!
# OneCipher.WalletConnect.Server — the wallet's side of the relay

`oc-walletconnect/src/wallet_server.rs`.  The server keeps a table of sessions, takes messages from a relay that
anybody may publish to, and passes requests to a handler.  `WcHost` is what it reaches: the relay's socket, the
clock, the random source and the crates that read and write bytes.
-/

namespace OneCipher.WalletConnect

open Prog

/-! ## Surroundings -/

structure WcWalletConfig where
  relayUrl : String
  relayProtocol : String
  trustedOrigins : List String

/-- What the relay is sent; the mock relay takes bytes as they are. -/
inductive RelayFrame where
  | subscribe (id topic : String)
  | publish (id topic message : String) (ttl tag : Nat) (attestation : Option String)
  | mock (topic : String) (payload : Bytes)
  | close
  deriving DecidableEq, Repr

structure RelaySubData where
  topic : String
  message : String
  deriving DecidableEq, Repr

structure RelaySubParams where
  data : Option RelaySubData
  deriving DecidableEq, Repr

structure RelayEnvelope where
  method : Option String
  params : Option RelaySubParams
  deriving DecidableEq, Repr

structure ProposerMetadata where
  name : String
  url : String
  deriving DecidableEq, Repr

structure Proposer where
  publicKey : String
  metadata : ProposerMetadata
  deriving DecidableEq, Repr

structure SessionProposeParams where
  requiredNamespaces : Json
  proposer : Proposer

/-- The parameters of `wc_sessionSettle`; the wallet's own metadata and the empty namespaces are fixed. -/
structure SessionSettleParams where
  protocol : String
  controllerPublicKey : String
  expiry : Nat
  deriving DecidableEq, Repr

/-- The relay, the clock and the other crates.  Readings are numbered through a run. -/
structure WcHost where
  aead : Aead
  iv : Nat → Bytes
  keyPair : Nat → WcKeyPair
  deriveSymKey : Bytes → WcSymKey
  sha256 : Bytes → Bytes
  clockMillis : Nat → Nat
  connect : String → Except WcError Unit
  reconnect : Nat → Except WcError Unit
  send : Nat → RelayFrame → Except WcError Unit
  base64Encode : Bytes → String
  base64Decode : String → Except String Bytes
  parseRelayEnvelope : String → Except String RelayEnvelope
  parseRequest : Bytes → Except String JsonRpcRequest
  parsePropose : Json → Except String SessionProposeParams
  encodeResponse : JsonRpcResponse → Bytes
  encodeSettle : Json → SessionSettleParams → Bytes
  toLowercase : String → String
  projectId : Option String
  attestation : Option String
  skipSettle : Bool

/-- A request as the handler gets it. -/
structure HandlerCall where
  method : String
  params : Json
  topic : String
  dappName : Option String
  dappOrigin : Option String

abbrev WalletMethodHandler (τ : Type) := HandlerCall → Prog τ (JsonRpcErrorCode × String) Json

/-! ## Replay -/

/-- The bytes that tell one message from another: the nonce of an envelope, or the whole message. -/
def envelopeNonce (envelope : Bytes) : Bytes :=
  let range : Option (Nat × Nat) :=
    if envelope.head? = some envelopeType0 then some (1, 1 + ivLength)
    else if envelope.head? = some envelopeType1 then some (1 + keyLength, 1 + keyLength + ivLength)
    else none
  match range with
  | some (start, stop) => if stop ≤ envelope.length then (envelope.take stop).drop start else envelope
  | none => envelope

/-- The messages of the last minutes, with the time each was first seen. -/
structure ReplayGuard where
  seen : Store (String × Bytes) Nat
  capacity : Nat

namespace ReplayGuard

def defaultCapacity : Nat := 4096

def retentionSecs : Nat := 300

def new (capacity : Nat) : ReplayGuard := ⟨∅, max capacity 1⟩

def oldest (seen : Store (String × Bytes) Nat) : Option (String × Bytes) := (seen.entries.argmin (·.2)).map (·.1)

def evictOldest (capacity : Nat) : Nat → Store (String × Bytes) Nat → Store (String × Bytes) Nat
  | 0, seen => seen
  | rounds + 1, seen =>
    if seen.size < capacity then seen
    else match oldest seen with
      | some key => evictOldest capacity rounds (seen.erase key)
      | none => seen

def isReplay (g : ReplayGuard) (topic : String) (nonce : Bytes) (now : Nat) : Bool × ReplayGuard :=
  let seen := g.seen.retain fun _ firstSeen => now - firstSeen < retentionSecs
  match seen.lookup (topic, nonce) with
  | some firstSeen =>
    if now - firstSeen < retentionSecs then (true, { g with seen := seen })
    else (false, { g with seen := (evictOldest g.capacity seen.size seen).insert (topic, nonce) now })
  | none => (false, { g with seen := (evictOldest g.capacity seen.size seen).insert (topic, nonce) now })

end ReplayGuard

/-! ## Scope -/

def stringItems (items : List Json) : List String := items.filterMap Json.asStr

def entryArray (key : String) (entry : Json) : Option (List Json) := (entry.get key).bind Json.asArray

def collectChainsAndMethods (namespaces : Json) : List String × List String :=
  match namespaces.asObject with
  | none => ([], [])
  | some members =>
    (members.flatMap fun m => stringItems ((entryArray "chains" m.2).getD []),
      members.flatMap fun m => stringItems ((entryArray "methods" m.2).getD []))

def parseUpdateNamespaces (params : Json) : List String × List String :=
  match params.get "namespaces" with
  | some ns => collectChainsAndMethods ns
  | none => ([], [])

/-- The chains that a proposal asks for; a namespace without a list stands for all of its chains. -/
def acceptedChainsFromProposal (requiredNamespaces : Json) : List String :=
  match requiredNamespaces.asObject with
  | none => []
  | some members => members.flatMap fun m =>
    match entryArray "chains" m.2 with
    | some items => stringItems items
    | none => [m.1 ++ ":*"]

def validateUpdateSubset (session : WcSession) (proposedNs proposedMethods : List String) : Except String Unit :=
  match proposedNs.find? fun ns => !session.namespaces.any (· == ns) with
  | some ns => .error ("chain " ++ ns ++ " was not negotiated for this session")
  | none =>
    match proposedMethods.find? fun m => !session.methods.any (· == m) with
    | some m => .error ("method " ++ m ++ " was not negotiated for this session")
    | none => .ok ()

def requestChainId (params : Json) : Option String := params.getStr "chainId"

def crossChainRejection (session : WcSession) (req : JsonRpcRequest) : Option JsonRpcResponse :=
  match requestChainId req.params with
  | none => none
  | some chain =>
    if session.isChainAllowed chain then none
    else some (.failure req.id (.new .unauthorized ("chain " ++ chain ++ " not authorized for this session")))

def originMatchesTrusted (toLowercase : String → String) (origin : String) (trustedOrigins : List String) : Bool :=
  let rest := ((Text.stripPrefix "https://" origin).orElse fun _ => Text.stripPrefix "http://" origin).getD origin
  let originHost := toLowercase (Text.before ':' (Text.before '/' rest))
  trustedOrigins.any fun trusted =>
    originHost == toLowercase trusted || Text.endsWith ("." ++ toLowercase trusted) originHost

/-! ## State -/

/-- The server, with the local variables of its run loop and a record of what it did. -/
structure ServerState (τ : Type) where
  sessions : WcSessionTable
  subscribedTopics : List String
  replayGuard : ReplayGuard
  reqId : Int
  tick : Nat
  calls : List HandlerCall
  frames : List RelayFrame
  handler : τ

abbrev ServerCall (τ α : Type) := Prog (ServerState τ) WcError α

/-- A message that the run loop passes on: its topic, the session it found for it, and its bytes. -/
structure Inbound where
  topic : String
  session : WcSession
  bytes : Bytes

/-- What ends the wait of the run loop. -/
inductive Wake where
  | notified
  | cancelled
  | received (message : Except WcError String)

/-- One round of the run loop. -/
structure Turn where
  dropped : Except WcError String
  wake : Wake
  others : WcSessionTable → WcSessionTable
  arrived : WcSessionTable → WcSessionTable
  meanwhile : WcSessionTable → WcSessionTable

section Server

variable {τ : Type} (h : WcHost) (cfg : WcWalletConfig) (handler : WalletMethodHandler τ)

def raised {α : Type} (r : Except WcError α) : Outcome WcError α := r.mapError .err

theorem raised_eq_ok {α : Type} {r : Except WcError α} {a : α} : raised r = .ok a ↔ r = .ok a := Result.mapError_eq_ok

theorem raised_of_error {α : Type} {r : Except WcError α} {e : WcError} (h : r = .error e) :
    raised r = .error (.err e) := by
  rw [h]
  rfl

def nextTick : ServerCall τ Nat := Prog.state fun s => (s.tick, { s with tick := s.tick + 1 })

def nowUnix : ServerCall τ Nat := do
  let t ← nextTick
  return sanitizeUnixSecs (h.clockMillis t / 1000)

/-! ## Sending -/

def sendFrame (frame : RelayFrame) : ServerCall τ Unit := do
  modify fun s => { s with frames := s.frames ++ [frame] }
  let t ← nextTick
  lift (raised (h.send t frame))

def relayIdText (millis : Nat) (counter : Int) : String :=
  let digits := toString (millis * 2 ^ 20 % 2 ^ 64 ||| (counter % 2 ^ 20).toNat)
  String.ofList (List.replicate (19 - digits.length) '0') ++ digits

def relayId (counter : Int) : ServerCall τ String := do
  let t ← nextTick
  return relayIdText (h.clockMillis t) counter

def bumpId : ServerCall τ Int := Prog.state fun s => (s.reqId + 1, { s with reqId := s.reqId + 1 })

def nextId : ServerCall τ Int := Prog.state fun s => (s.reqId, { s with reqId := s.reqId + 1 })

def publishIrn (takeId : ServerCall τ Int) (topic : String) (envelope : Bytes) : ServerCall τ Unit := do
  let n ← takeId
  let id ← relayId h n
  sendFrame h (.publish id topic (h.base64Encode envelope) 300 1108 (h.attestation.filter (· ≠ "")))

def sealText (key : WcSymKey) (text : Bytes) : ServerCall τ Bytes := do
  let t ← nextTick
  lift (raised (sealType0 h.aead key (h.iv t) text))

def sendEncrypted (takeId : ServerCall τ Int) (topic : String) (key : WcSymKey) (resp : JsonRpcResponse) :
    ServerCall τ Unit := do
  let envelope ← sealText h key (h.encodeResponse resp)
  publishIrn h takeId topic envelope

def subscribeTopic (takeId : ServerCall τ Int) (topic : String) : ServerCall τ Unit := do
  let n ← takeId
  let id ← relayId h n
  sendFrame h (.subscribe id topic)

/-! ## Requests on a session -/

def invoke (c : HandlerCall) : ServerCall τ (Except (JsonRpcErrorCode × String) Json) := do
  modify fun s => { s with calls := s.calls ++ [c] }
  attempt (zoom (·.handler) (fun t s => { s with handler := t }) (handler c))

def handlerResponse (id : Int) : Except (JsonRpcErrorCode × String) Json → JsonRpcResponse
  | .ok v => .success id v
  | .error (code, message) => .failure id (.new code message)

def acknowledged (id : Int) : JsonRpcResponse := .success id (.obj [("acknowledged", .bool true)])

variable (topic : String) (req : JsonRpcRequest) (session : WcSession)

def answerDelete : ServerCall τ JsonRpcResponse := do
  modify fun s => { s with sessions := s.sessions.erase topic }
  return acknowledged req.id

def narrowed (scope : List String × List String) (session : WcSession) : WcSession :=
  { session with namespaces := scope.1, methods := scope.2 }

def answerUpdate : ServerCall τ JsonRpcResponse :=
  let scope := parseUpdateNamespaces req.params
  match validateUpdateSubset session scope.1 scope.2 with
  | .error reason => pure (.failure req.id (.new .unauthorized reason))
  | .ok () => do
    modify fun s => { s with sessions := WcSessionTable.updateSession s.sessions topic (narrowed scope) }
    return acknowledged req.id

def answerAuth : ServerCall τ JsonRpcResponse := do
  let session ← reads (·.sessions.lookup topic)
  let result ← invoke handler
    ⟨req.method, req.params, topic, session.bind (·.dappName), session.bind (·.dappOrigin)⟩
  return handlerResponse req.id result

def answerRequest : ServerCall τ JsonRpcResponse := do
  let stored ← reads (·.sessions.lookup topic)
  match stored with
  | none => pure (.failure req.id (.new .internal "session gone"))
  | some s =>
    match crossChainRejection s req with
    | some rejection => pure rejection
    | none =>
      if s.isMethodAllowed req.method then do
        let result ← invoke handler ⟨req.method, req.params, topic, session.dappName, session.dappOrigin⟩
        return handlerResponse req.id result
      else pure (.failure req.id (.new .unsupportedMethod ("method " ++ req.method ++ " not authorized")))

def answer : ServerCall τ JsonRpcResponse :=
  match SessionMethod.ofString req.method with
  | .delete => answerDelete topic req
  | .update => answerUpdate topic req session
  | .ping => pure (acknowledged req.id)
  | .authRequest => answerAuth handler topic req
  | .propose | .other => answerRequest handler topic req session

def dispatchSessionRequest (symKey : WcSymKey) : ServerCall τ Unit := do
  let resp ← answer handler topic req session
  sendEncrypted h bumpId topic symKey resp

/-! ## Proposals -/

def originReason (trustedOrigins : List String) : String :=
  if trustedOrigins = [] then "no trusted origins configured; session proposal rejected"
  else "dApp origin not in trusted origins"

def decodeProposerKey (text : String) : Except WcError Bytes :=
  match Text.hexDecode text with
  | .error e => .error (.invalidMessage ("bad proposer publicKey hex: " ++ e.message))
  | .ok key =>
    if key.length ≠ 32 then .error (.invalidMessage "proposer publicKey must be 32 bytes") else .ok key

def hashBytes (bytes : Bytes) : String := Text.hexEncode (h.sha256 bytes)

def approveResult (responderPublicKey : String) (expiry : Nat) : Json :=
  .obj [("relay", .obj [("protocol", .str cfg.relayProtocol)]), ("responderPublicKey", .str responderPublicKey),
    ("expiry", .num (.posInt (UInt64.ofNat expiry)))]

def settleSession (sessionTopic : String) (sessionKey : WcSymKey) (params : SessionSettleParams) :
    ServerCall τ Unit := do
  let n ← nextId
  let id ← relayId h n
  let envelope ← sealText h sessionKey (h.encodeSettle (.str id) params)
  if h.skipSettle then pure () else publishIrn h nextId sessionTopic envelope

/-- Approve a proposal of a trusted dApp: agree on a key, and open a session in the scope it asks for. -/
def approveProposal (pairingTopic : String) (session : WcSession) (pairingKey : WcSymKey)
    (propose : SessionProposeParams) : ServerCall τ Unit := do
  let proposerPub ← lift (raised (decodeProposerKey propose.proposer.publicKey))
  let t ← nextTick
  let responder := h.keyPair t
  let sessionKey := h.deriveSymKey (responder.sharedSecret proposerPub)
  let responderHex := Text.hexEncode responder.publicKey
  let sessionTopic := hashBytes h proposerPub
  sendEncrypted h nextId pairingTopic pairingKey (.success req.id (approveResult cfg responderHex session.expiryUnix))
  subscribeTopic h nextId sessionTopic
  let now ← nowUnix h
  let opened : WcSession :=
    { topic := sessionTopic
      symKey := ⟨sessionKey.toHex⟩
      state := .active
      expiryUnix := session.expiryUnix
      namespaces := acceptedChainsFromProposal propose.requiredNamespaces
      methods := (collectChainsAndMethods propose.requiredNamespaces).2
      dappOrigin := some propose.proposer.metadata.url
      dappName := some propose.proposer.metadata.name
      createdAtUnix := now }
  modify fun s => { s with sessions := WcSessionTable.insertSession s.sessions opened }
  settleSession h sessionTopic sessionKey ⟨cfg.relayProtocol, responderHex, session.expiryUnix⟩

def handleSessionPropose (pairingTopic : String) (session : WcSession) (pairingKey : WcSymKey) : ServerCall τ Unit := do
  let propose ← lift (raised ((h.parsePropose req.params).mapError fun e =>
    .invalidMessage ("bad sessionPropose params: " ++ e)))
  if cfg.trustedOrigins = [] ∨
      originMatchesTrusted h.toLowercase propose.proposer.metadata.url cfg.trustedOrigins = false then
    sendEncrypted h nextId pairingTopic pairingKey
      (.failure req.id (.new .unauthorized (originReason cfg.trustedOrigins)))
  else approveProposal h cfg req pairingTopic session pairingKey propose

/-! ## One message -/

/-- Open a message by its first byte; `none` is a message that is no envelope. -/
def openInbound (key : WcSymKey) (bytes : Bytes) : Option (Except WcError Bytes) :=
  if bytes.head? = some envelopeType1 then some ((openType1 h.aead key bytes).map (·.2))
  else if bytes.head? = some envelopeType0 then some (openType0 h.aead key bytes)
  else none

def parseRequest (bytes : Bytes) : Except WcError JsonRpcRequest := (h.parseRequest bytes).mapError .json

def processInboundMessage (bytes : Bytes) : ServerCall τ Unit := do
  let symKey ← lift (Outcome.okOr (.crypto "failed to decode session sym_key") session.symKey.toSymKey)
  match openInbound h symKey bytes with
  | some opened => do
    let plaintext ← lift (raised opened)
    let req ← lift (raised (parseRequest h plaintext))
    if SessionMethod.ofString req.method = .propose then handleSessionPropose h cfg req topic session symKey
    else dispatchSessionRequest h handler topic req session symKey
  | none => do
    let req ← lift (raised (parseRequest h bytes))
    dispatchSessionRequest h handler topic req session symKey

/-! ## The run loop -/

def delivered (raw : String) : Option RelaySubData :=
  match h.parseRelayEnvelope raw with
  | .error _ => none
  | .ok envelope => if envelope.method = some "irn_subscription" then envelope.params.bind (·.data) else none

def takeUp (raw : String) : ServerCall τ (Option Inbound) :=
  match delivered h raw with
  | none => pure none
  | some data => do
    let stored ← reads (·.sessions.lookup data.topic)
    match stored, h.base64Decode data.message with
    | some session, .ok bytes => do
      let now ← nowUnix h
      let replay ← Prog.state fun s =>
        let r := s.replayGuard.isReplay data.topic (envelopeNonce bytes) now
        (r.1, { s with replayGuard := r.2 })
      return if replay then none else some ⟨data.topic, session, bytes⟩
    | _, _ => pure none

def contain (m : ServerCall τ Unit) : ServerCall τ Unit := do
  let r ← attempt m
  match r with
  | .ok () => pure ()
  | .error e => if e.isInfrastructureFailure then fail e else pure ()

def subscribeNew : List WcSession → ServerCall τ Unit
  | [] => pure ()
  | session :: rest => do
    let now ← nowUnix h
    let subs ← reads (·.subscribedTopics)
    if session.needsRelay now = true ∧ session.topic ∉ subs then do
      let _ : Except WcError Unit ← attempt (subscribeTopic h bumpId session.topic)
      modify fun s => { s with subscribedTopics := s.subscribedTopics ++ [session.topic] }
      subscribeNew rest
    else subscribeNew rest

def sessionsWhere (test : WcSession → Nat → Bool) : List WcSession → ServerCall τ (List WcSession)
  | [] => pure []
  | session :: rest => do
    let now ← nowUnix h
    let others ← sessionsWhere test rest
    return if test session now then session :: others else others

def resubscribe : List String → ServerCall τ Unit
  | [] => pure ()
  | topic :: rest => do
    subscribeTopic h bumpId topic
    modify fun s => { s with subscribedTopics := s.subscribedTopics ++ [topic] }
    resubscribe rest

def reconnectRelay : ServerCall τ Unit := do
  let t ← nextTick
  lift (raised (h.reconnect t))
  let all ← reads (WcSessionTable.values ·.sessions)
  let needed ← sessionsWhere h WcSession.needsRelay all
  modify fun s => { s with subscribedTopics := [] }
  resubscribe h (needed.map (·.topic))

def otherTasks (f : WcSessionTable → WcSessionTable) : ServerCall τ Unit :=
  modify fun s => { s with sessions := f s.sessions }

def processTaken : Option Inbound → ServerCall τ Unit
  | none => pure ()
  | some m => contain (processInboundMessage h cfg handler m.topic m.session m.bytes)

def receive (t : Turn) (raw : String) : ServerCall τ Unit := do
  otherTasks t.arrived
  let inbound ← takeUp h raw
  otherTasks t.meanwhile
  processTaken h cfg handler inbound

def checkSubscriptions (t : Turn) : ServerCall τ Unit := do
  otherTasks t.others
  let all ← reads (WcSessionTable.values ·.sessions)
  subscribeNew h all

def turn (t : Turn) : ServerCall τ Bool := do
  checkSubscriptions h t
  match t.wake with
  | .notified => pure true
  | .cancelled => do
    modify fun s => { s with frames := s.frames ++ [.close] }
    return false
  | .received (.ok raw) => do
    receive h cfg handler t raw
    return true
  | .received (.error (.relayTimeout _)) => pure true
  | .received (.error _) => do
    reconnectRelay h
    return true

def loop : List Turn → ServerCall τ Bool
  | [] => pure true
  | t :: rest => do
    let goOn ← turn h cfg handler t
    if goOn then loop rest else pure false

def subscribeAll : List String → ServerCall τ Unit
  | [] => pure ()
  | topic :: rest => do
    subscribeTopic h bumpId topic
    subscribeAll rest

def applyProjectId (url : String) (projectId : Option String) : String :=
  match projectId.filter (· ≠ "") with
  | some pid => if Text.contains "?" url then url ++ "&projectId=" ++ pid else url ++ "?projectId=" ++ pid
  | none => url

def start : ServerCall τ Unit := do
  lift (raised (h.connect (applyProjectId cfg.relayUrl h.projectId)))
  modify fun s => { s with reqId := 1, replayGuard := .new ReplayGuard.defaultCapacity }
  let all ← reads (WcSessionTable.values ·.sessions)
  let active ← sessionsWhere h WcSession.isActive all
  modify fun s => { s with subscribedTopics := active.map (·.topic) }
  subscribeAll h (active.map (·.topic))

def run (turns : List Turn) : ServerCall τ Bool := do
  start h cfg
  loop h cfg handler turns

end Server

end OneCipher.WalletConnect
