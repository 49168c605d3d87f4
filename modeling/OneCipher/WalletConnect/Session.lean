import OneCipher.Base.Json
import OneCipher.Base.Prog
import OneCipher.Base.Text

/-!
# OneCipher.WalletConnect.Session — JSON-RPC values and the session table

`oc-walletconnect/src/{error,jsonrpc,method,session}.rs`.  A session is keyed by its topic and carries the
symmetric key of that topic, the scope the user agreed to (chains and methods) and an expiry.  The clock
is an argument of every test that reads it.
-/

namespace OneCipher.WalletConnect

open AList

/-! ## Errors -/

inductive WcError where
  | invalidUri (message : String)
  | invalidMessage (message : String)
  | crypto (message : String)
  | jsonRpc (code : Int) (message : String)
  | sessionNotFound (topic : String)
  | sessionExpired (topic : String)
  | methodNotAuthorized (method : String)
  | pairingRejected
  | relay (message : String)
  | relayTimeout (message : String)
  | io (message : String)
  | json (message : String)
  | webSocket (message : String)
  deriving DecidableEq, Repr

def WcError.isInfrastructureFailure : WcError → Bool
  | relay _ | webSocket _ | io _ => true
  | _ => false

/-! ## JSON-RPC -/

inductive JsonRpcErrorCode where
  | userRejected | unauthorized | unsupportedMethod | vaultLocked | policyRateLimit | policyBudgetExceeded
  | policyWhitelist | policyCooldown | policyAmountExceeded | policyMissing | policyExpired
  | policyContractNotWhitelisted | policyChainNotWhitelisted | internal | signer
  deriving DecidableEq, Repr

def JsonRpcErrorCode.code : JsonRpcErrorCode → Int
  | userRejected => 4001
  | unauthorized => 4100
  | unsupportedMethod => 4200
  | vaultLocked => 4900
  | policyRateLimit => 4031
  | policyBudgetExceeded => 4032
  | policyWhitelist => 4033
  | policyCooldown => 4034
  | policyAmountExceeded => 4035
  | policyMissing => 4036
  | policyExpired => 4037
  | policyContractNotWhitelisted => 4038
  | policyChainNotWhitelisted => 4039
  | internal => 5000
  | signer => 5001

structure JsonRpcRequest where
  jsonrpc : String
  method : String
  params : Json
  id : Int

structure JsonRpcError where
  code : Int
  message : String
  data : Option Json

def JsonRpcError.new (code : JsonRpcErrorCode) (message : String) : JsonRpcError := ⟨code.code, message, none⟩

structure JsonRpcResponse where
  jsonrpc : String
  id : Int
  result : Option Json
  error : Option JsonRpcError

namespace JsonRpcResponse

def success (id : Int) (result : Json) : JsonRpcResponse := ⟨"2.0", id, some result, none⟩

def failure (id : Int) (e : JsonRpcError) : JsonRpcResponse := ⟨"2.0", id, none, some e⟩

end JsonRpcResponse

/-! ## Methods -/

/-- The methods the server answers itself or lets pass without asking the session's scope. -/
inductive SessionMethod where
  | propose | delete | update | ping | authRequest | other
  deriving DecidableEq, Repr

def SessionMethod.ofString : String → SessionMethod
  | "wc_sessionPropose" => propose
  | "wc_sessionDelete" => delete
  | "wc_sessionUpdate" => update
  | "wc_sessionPing" => ping
  | "wc_authRequest" => authRequest
  | _ => other

/-! ## Sessions -/

/-- 256-bit symmetric key. -/
structure WcSymKey where
  bytes : Bytes
  size : bytes.length = 32
  deriving DecidableEq

def WcSymKey.toHex (key : WcSymKey) : String := Text.hexEncode key.bytes

/-- A symmetric key as it is stored: hex text that nobody has checked. -/
structure WcSymKeyHex where
  text : String
  deriving DecidableEq, Repr

def WcSymKeyHex.toSymKey (key : WcSymKeyHex) : Option WcSymKey :=
  match Text.hexDecode key.text with
  | .error _ => none
  | .ok bytes => if h : bytes.length = 32 then some ⟨bytes, h⟩ else none

inductive WcSessionState where
  | propose | active | expired | closed
  deriving DecidableEq, Repr

structure WcSession where
  topic : String
  symKey : WcSymKeyHex
  state : WcSessionState
  expiryUnix : Nat
  namespaces : List String
  methods : List String
  dappOrigin : Option String
  dappName : Option String
  createdAtUnix : Nat
  deriving DecidableEq

namespace WcSession

def newPairing (topic symKey : String) (expiryUnix now : Nat) : WcSession where
  topic := topic
  symKey := ⟨symKey⟩
  state := .propose
  expiryUnix := expiryUnix
  namespaces := []
  methods := []
  dappOrigin := none
  dappName := none
  createdAtUnix := now

def isActive (s : WcSession) (now : Nat) : Bool := s.state == .active && now < s.expiryUnix

def needsRelay (s : WcSession) (now : Nat) : Bool := now < s.expiryUnix && (s.state == .propose || s.state == .active)

def isMethodAllowed (s : WcSession) (method : String) : Bool := s.methods.any (· == method)

/-- An entry of the approved namespaces covers a chain: by name, or by a leading part before a `*`. -/
def covers (entry caip2 : String) : Bool :=
  match Text.stripSuffix "*" entry with
  | some family => Text.startsWith family caip2
  | none => entry == caip2

def isChainAllowed (s : WcSession) (caip2 : String) : Bool := s.namespaces.any (covers · caip2)

def ensureActive (s : WcSession) (now : Nat) : Except WcError Unit :=
  if s.isActive now then .ok () else .error (.sessionExpired s.topic)

end WcSession

/-! ## The clock -/

def minPlausibleUnixSecs : Nat := 1000000000

def sanitizeUnixSecs (raw : Nat) : Nat := if raw ≥ minPlausibleUnixSecs then raw else 2 ^ 64 - 1

/-! ## The table -/

abbrev WcSessionTable := Store String WcSession

namespace WcSessionTable

variable (t : WcSessionTable)

def insertSession (s : WcSession) : WcSessionTable := AList.insert s.topic s t

def updateSession (topic : String) (f : WcSession → WcSession) : WcSessionTable :=
  match t.lookup topic with
  | some s => AList.insert topic (f s) t
  | none => t

def values : List WcSession := t.entries.map (·.2)

/-- The two tables differ at some topic. -/
def Differs (t' : WcSessionTable) : Prop := ∃ topic, t.lookup topic ≠ t'.lookup topic

theorem not_differs : ¬ Differs t t := fun ⟨_, h⟩ => h rfl

theorem differs_erase {t : WcSessionTable} {topic : String} :
    Differs t (t.erase topic) ↔ (t.lookup topic).isSome = true := by
  constructor
  · rintro ⟨u, hu⟩
    by_cases h : u = topic
    · subst h
      rw [lookup_erase] at hu
      exact Option.isSome_iff_ne_none.mpr hu
    · exact absurd (lookup_erase_ne h).symm hu
  · intro h
    refine ⟨topic, ?_⟩
    rw [lookup_erase]
    exact Option.isSome_iff_ne_none.mp h

theorem differs_updateSession {t : WcSessionTable} {topic : String} {f : WcSession → WcSession} :
    Differs t (updateSession t topic f) ↔ ∃ s, t.lookup topic = some s ∧ f s ≠ s := by
  unfold updateSession
  rcases hs : t.lookup topic with _ | s
  · simp [not_differs]
  · constructor
    · rintro ⟨u, hu⟩
      by_cases h : u = topic
      · subst h
        refine ⟨s, rfl, fun hf => hu ?_⟩
        rw [lookup_insert, hs, hf]
      · exact absurd (lookup_insert_ne h).symm hu
    · rintro ⟨s', hs', hf⟩
      cases hs'
      refine ⟨topic, ?_⟩
      rw [lookup_insert, hs]
      exact fun h => hf (Option.some.inj h).symm

end WcSessionTable

end OneCipher.WalletConnect
