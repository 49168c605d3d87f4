import OneCipher.Core.Chain

/-!
# OneCipher.WalletConnect.Auth — parameters and text of a `wc_authRequest`

`oc-walletconnect/src/auth.rs`: the parameters of a one-time sign-in, their validation, and the EIP-4361
text that is built from them.
-/

namespace OneCipher.WalletConnect

open Core

inductive AuthError where
  | missingField (field : String)
  | invalidValue (field message : String)
  deriving DecidableEq, Repr

def AuthError.message : AuthError → String
  | .missingField field => "missing required field: " ++ field
  | .invalidValue field message => "invalid value for " ++ field ++ ": " ++ message

inductive AuthType where
  | eip4361 | eip191
  deriving DecidableEq, Repr

structure AuthRequestParams where
  type : AuthType
  chainId : String
  aud : String
  domain : String
  nonce : String
  statement : String
  resources : List String
  version : String
  issuedAt : String
  expirationTime : String
  notBefore : String
  requestId : String
  deriving DecidableEq, Repr

namespace AuthRequestParams

def validate (p : AuthRequestParams) : Except AuthError Unit :=
  if p.chainId = "" then .error (.missingField "chainId")
  else if p.aud = "" then .error (.missingField "aud")
  else if p.domain = "" then .error (.missingField "domain")
  else if p.nonce = "" then .error (.missingField "nonce")
  else if (Text.utf8 p.nonce).length < 8 then
    .error (.invalidValue "nonce" "must be at least 8 characters (single-use, unpredictable)")
  else if p.version = "" then .error (.missingField "version")
  else .ok ()

end AuthRequestParams

def notCaip2 (caip2 : String) : AuthError := .invalidValue "chainId" ("'" ++ caip2 ++ "' is not a CAIP-2 chain id")

def evmReference (caip2 reference : String) : Except AuthError String :=
  match Text.parseUnsigned 10 (2 ^ 64) reference with
  | some n => .ok (toString n)
  | none => .error (.invalidValue "chainId" ("'" ++ caip2 ++ "' has a non-numeric eip155 reference"))

def chainReference (caip2 : String) : Except AuthError String :=
  match splitColon caip2 with
  | none => .error (notCaip2 caip2)
  | some (namespaceId, reference) =>
    if namespaceId = "eip155" then evmReference caip2 reference
    else if reference = "" then .error (.invalidValue "chainId" ("'" ++ caip2 ++ "' has an empty reference"))
    else .ok reference

/-- The `Chain ID:` field: a decimal number for EVM chains, the whole id for others. -/
def chainIdField (caip2 : String) : Except AuthError String :=
  match splitColon caip2 with
  | none => .error (notCaip2 caip2)
  | some (namespaceId, reference) =>
    if namespaceId = "eip155" then evmReference caip2 reference else .ok caip2

def optionalLine (label value : String) : String := if value = "" then "" else "\n" ++ label ++ ": " ++ value

/-- The EIP-4361 text; `now` stands in for a missing `issuedAt`. -/
def buildSiweMessage (now address : String) (p : AuthRequestParams) : Except AuthError String := do
  p.validate
  if address = "" then .error (.missingField "address") else do
    let chainId ← chainIdField p.chainId
    return p.domain ++ " wants you to sign in with your account:\n" ++ address ++ "\n" ++
      (if p.statement = "" then "" else "\n" ++ p.statement ++ "\n") ++
      "\nURI: " ++ p.aud ++ "\nVersion: " ++ p.version ++ "\nChain ID: " ++ chainId ++
      "\nNonce: " ++ p.nonce ++ "\nIssued At: " ++ (if p.issuedAt = "" then now else p.issuedAt) ++
      optionalLine "Expiration Time" p.expirationTime ++ optionalLine "Request ID" p.requestId ++
      (if p.resources = [] then "" else "\nResources:" ++ String.join (p.resources.map ("\n- " ++ ·)))

end OneCipher.WalletConnect
