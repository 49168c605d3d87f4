import OneCipher.Base.Trace
import OneCipher.KeyAgent.Passkey

/-!
# OneCipher.Ocwp.State — errors, sessions, step-up bindings and the daemon's state

The shared state behind the OCWP handlers (`wallet_rpc/ocwp/{errors,session,mod}.rs`).  The stores are pure: an
operation takes the clock reading it makes.  `Daemon` puts them together with the in-process Key-Agent context and
the registered passkeys, and `Handler` is the type of a handler: a call over the daemon that returns or fails with
an `OcwpError`.
-/

namespace OneCipher.Ocwp

open Prog KeyAgent
open Text (contains)

/-! ## Errors -/

/-- JSON-RPC code, message and optional structured data. -/
structure OcwpError where
  code : Int
  message : String
  data : Option Json

namespace OcwpError

def codeUnauthorized : Int := 4100
def codePolicyDenied : Int := 4300
def codeBudgetExceeded : Int := 4301
def codeRateLimited : Int := 4302
def codeNotWhitelisted : Int := 4303
def codeExpired : Int := 4304
def codePolicyMissing : Int := 4305
def codeCooldown : Int := 4306

def new (code : Int) (message : String) : OcwpError := ⟨code, message, none⟩

def withData (code : Int) (message : String) (data : Json) : OcwpError := ⟨code, message, some data⟩

def invalidParams (message : String) : OcwpError := new (-32602) message

def internal (message : String) : OcwpError := new (-32603) message

def unauthorized (message : String) : OcwpError := new codeUnauthorized message

def requirePasskey : OcwpError :=
  withData codeUnauthorized "passkey confirmation required" (.obj [("require_passkey", .bool true)])

def policyReasonCode (reason : String) : Int :=
  let lowered := Text.toAsciiLowercase reason
  if contains "budget" lowered then codeBudgetExceeded
  else if contains "rate limit" lowered then codeRateLimited
  else if contains "whitelist" lowered || contains "allowlist" lowered then codeNotWhitelisted
  else if contains "expired" lowered then codeExpired
  else if contains "cooldown" lowered then codeCooldown
  else if contains "no polic" lowered || contains "missing" lowered then codePolicyMissing
  else codePolicyDenied

def fromPolicyReason (reason : String) (policyId : Option String) : OcwpError :=
  withData (policyReasonCode reason) "policy denied"
    (.obj (("reason", .str reason) :: (policyId.map fun id => ("policy_id", Json.str id)).toList))

end OcwpError

/-! ## Sessions -/

structure SessionSettings where
  ttlSecs : Nat
  idleSecs : Nat
  deriving DecidableEq, Repr

structure SessionEntry where
  sessionId : String
  wallet : String
  walletId : String
  index : Nat
  passphrase : String
  policyIds : List String
  origin : String
  createdAt : Nat
  expiresAt : Nat
  lastActivity : Nat
  deriving DecidableEq, Repr

structure SessionStore where
  sessions : Store String SessionEntry
  settings : SessionSettings

namespace SessionStore

def touch (now : Nat) (sessionId : String) (s : SessionStore) : Except OcwpError SessionEntry × SessionStore :=
  match s.sessions.lookup sessionId with
  | none => (.error (.unauthorized "unknown or expired session"), s)
  | some entry =>
    if now ≥ entry.expiresAt ∨ now - entry.lastActivity ≥ s.settings.idleSecs then
      (.error (.unauthorized "session expired"), { s with sessions := s.sessions.erase sessionId })
    else
      let entry := { entry with lastActivity := now }
      (.ok entry, { s with sessions := s.sessions.insert sessionId entry })

/-- `touch`, and the origin must be the one that unlocked the session. -/
def touchForOrigin (now : Nat) (sessionId origin : String) (s : SessionStore) :
    Except OcwpError SessionEntry × SessionStore :=
  match s.touch now sessionId with
  | (.error e, s) => (.error e, s)
  | (.ok entry, s) =>
    if entry.origin = "" ∨ Text.eqIgnoreAsciiCase entry.origin origin = false then
      (.error (.unauthorized "session was not unlocked by this extension origin"), s)
    else (.ok entry, s)

end SessionStore

/-! ## Step-up bindings -/

/-- One outstanding passkey step-up challenge. -/
structure StepUpBinding where
  sessionId : String
  credentialId : String
  expiresAt : Nat
  deriving DecidableEq, Repr

abbrev StepUpStore := Store String StepUpBinding

def stepUpTtlSecs : Nat := 120

namespace StepUpStore

def issue (now : Nat) (challengeHex sessionId credentialId : String) (s : StepUpStore) : StepUpStore :=
  (s.retain fun _ b => b.expiresAt > now).insert challengeHex ⟨sessionId, credentialId, now + stepUpTtlSecs⟩

def consume (now : Nat) (challengeHex sessionId : String) (s : StepUpStore) : Option StepUpBinding × StepUpStore :=
  match s.lookup challengeHex with
  | some b =>
    if b.expiresAt ≤ now ∨ b.sessionId ≠ sessionId then (none, s)
    else (some b, s.erase challengeHex)
  | none => (none, s)

theorem consume_eq_some {now : Nat} {challengeHex sessionId : String} {s : StepUpStore} {b : StepUpBinding}
    (h : (consume now challengeHex sessionId s).1 = some b) :
    s.lookup challengeHex = some b ∧ now < b.expiresAt ∧ b.sessionId = sessionId := by
  unfold consume at h
  rcases hl : s.lookup challengeHex with _ | b'
  · simp [hl] at h
  · by_cases hc : b'.expiresAt ≤ now ∨ b'.sessionId ≠ sessionId
    · simp [hl, hc] at h
    · simp only [hl, if_neg hc, Option.some.injEq] at h
      subst h
      simp only [not_or, not_le, not_not] at hc
      exact ⟨rfl, hc.1, hc.2⟩

end StepUpStore

/-! ## The daemon -/

structure AuditEntry where
  timestamp : String
  walletId : String
  operation : String
  chainId : Option String
  address : Option String
  details : Option String
  secretName : Option String
  deriving DecidableEq, Repr

/-- What the log records. -/
inductive Event where
  /-- The Key-Agent accepted a passkey proof, checked against this registered key. -/
  | passkeyVerified (auth : PasskeyAuthorization) (stored : StoredPasskeyPubkey)
  /-- `verify_step_up` returned `Ok` for a session. -/
  | stepUp (sessionId : String)
  /-- `policy_gate::enforce` returned `Ok` for a request. -/
  | enforced (method rawHex : String)
  /-- The wallet key signed transaction bytes. -/
  | signedTransaction (txBytes : Bytes)
  /-- The wallet key signed an EIP-7702 authorization of a chain for a delegate. -/
  | signedAuthorization (chainId address nonce : String)
  /-- A node took a signed transaction. -/
  | broadcast (chainId signedTxHex : String)
  /-- An entry was handed to the strong audit channel. -/
  | audit (entry : AuditEntry)
  /-- The wallet key signed a message. -/
  | signedMessage (message : Bytes)
  /-- The wallet key signed an EIP-712 document. -/
  | signedTypedData (json : String)
  deriving DecidableEq, Repr

structure Daemon where
  sessions : SessionStore
  stepUp : StepUpStore
  agent : Option AgentContext
  passkeys : Passkeys
  requirePasskeyEip7702 : Bool
  tick : Nat
  log : List Event

abbrev Handler (α : Type) := Prog Daemon OcwpError α

/-- The daemon's surroundings: the answer to each external reading, by its number in the run. -/
structure World where
  crypto : PasskeyCrypto
  clock : Nat → Nat → Nat
  nonces : Nat → List Nonce
  passkeyOpen : Nat → Option PasskeyStoreError
  passkeyLoad : Nat → Option PasskeyStoreError
  agentOpen : Nat → Option String

namespace Daemon

def emit (e : Event) (d : Daemon) : Daemon := { d with log := d.log ++ [e] }

@[simp] theorem log_emit (e : Event) (d : Daemon) : (d.emit e).log = d.log ++ [e] := rfl

end Daemon

variable (w : World)

def nextTick {ε : Type} : Prog Daemon ε Nat := Prog.state fun d => (d.tick, { d with tick := d.tick + 1 })

def nowUnix {ε : Type} : Prog Daemon ε Nat := do return w.clock (← nextTick) 0

def emit {ε : Type} (e : Event) : Prog Daemon ε Unit := modify (Daemon.emit e)

def requireStr (params : Json) (key : String) : Outcome OcwpError String :=
  Outcome.okOr (.invalidParams ("missing '" ++ key ++ "'")) (params.getStr key)

/-- Strip an optional `0x` and decode hex. -/
def decodeHexField (value field : String) : Outcome OcwpError Bytes :=
  match Text.hexDecode (Text.stripHex value) with
  | .ok b => .ok b
  | .error e => .error (.err (.invalidParams ("invalid " ++ field ++ " hex: " ++ e.message)))

theorem decodeHexField_eq_ok {value fieldName : String} {b : Bytes} :
    decodeHexField value fieldName = .ok b ↔ Text.hexDecode (Text.stripHex value) = .ok b := by
  unfold decodeHexField
  cases Text.hexDecode (Text.stripHex value) <;> simp

/-- The session named by `params.session_id`, validated for the requesting origin. -/
def requireSession (params : Json) (origin : String) : Handler SessionEntry := do
  let id ← lift (requireStr params "session_id")
  let now ← nowUnix w
  let entry ← Prog.state fun d =>
    let (r, s) := d.sessions.touchForOrigin now id origin
    (r, { d with sessions := s })
  lift (entry.mapError Fault.err)

end OneCipher.Ocwp
