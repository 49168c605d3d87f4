import OneCipher.Base.Text

/-!
# OneCipher.Siwx.Message — CAIP-122 sign-in messages

The data model of `oc-siwx/src/{message,error}.rs`: the fields of a `SiwxMessage`, the check each field
passes and the errors.  URI syntax is the `iri-string` crate's, instants are the `jiff` crate's and
`{:?}` is the standard library's; the three are a parameter (`SiwxLib`).  An instant is its number of
nanoseconds since the Unix epoch.
-/

namespace OneCipher.Siwx

def version : String := "1"

def minNonceLen : Nat := 8

def maxMessageBytes : Nat := 16384

def maxResources : Nat := 32

def maxStatementBytes : Nat := 4096

def maxRequestIdBytes : Nat := 128

def maxUriBytes : Nat := 2048

def preambleMid : String := " wants you to sign in with your "

/-- `str::len`. -/
def byteLen (s : String) : Nat := (Text.utf8 s).length

/-! ## Errors -/

inductive FormatReason where
  | crLf
  | missingPreamble
  | missingAccountSuffix
  | unexpectedEof
  | expectedBlankLine
  | unexpectedTrailing
  | missingField (field : String)
  | versionNotOne
  | emptyChainId
  | resourceSyntax
  | other
  deriving DecidableEq, Repr

def FormatReason.display : FormatReason → String
  | .crLf => "CR not allowed"
  | .missingPreamble => "missing preamble marker"
  | .missingAccountSuffix => "missing account suffix"
  | .unexpectedEof => "unexpected end of input"
  | .expectedBlankLine => "expected blank line"
  | .unexpectedTrailing => "unexpected trailing content"
  | .missingField field => "missing " ++ field
  | .versionNotOne => "version must be 1"
  | .emptyChainId => "empty chain id"
  | .resourceSyntax => "resource line must start with '- '"
  | .other => "invalid format"

/-- The errors of parsing and validation. -/
inductive SiwxError where
  | invalidDomain (reason : String)
  | domainMismatch (expected actual : String)
  | invalidScheme (reason : String)
  | schemeMismatch (expected actual : Option String)
  | invalidAddress (reason : String)
  | invalidUri (reason : String)
  | uriMismatch (expected actual : String)
  | invalidTimestamp (reason : String)
  | invalidNonce (reason : String)
  | nonceMismatch (expected actual : String)
  | invalidStatement (reason : String)
  | invalidRequestId (reason : String)
  | requestIdMismatch (expected actual : Option String)
  /-- The reason is always `ChainIdReason::Empty` here. -/
  | invalidChainId
  | chainIdMismatch (expected actual : String)
  | expired
  | notYetValid
  | staleIssuedAt
  | invalidFormat (reason : FormatReason)
  | messageTooLarge (len max : Nat)
  | tooManyResources (count max : Nat)
  deriving DecidableEq, Repr

/-- What the message code uses of other crates. -/
structure SiwxLib where
  authority : String → Bool
  uriString : String → Except String Unit
  timestamp : String → Except String Int
  debug : Option String → String

def SiwxError.display (lib : SiwxLib) : SiwxError → String
  | .invalidDomain r => "invalid domain: " ++ r
  | .domainMismatch e a => "domain mismatch: expected " ++ e ++ ", got " ++ a
  | .invalidScheme r => "invalid scheme: " ++ r
  | .schemeMismatch e a => "scheme mismatch: expected " ++ lib.debug e ++ ", got " ++ lib.debug a
  | .invalidAddress r => "invalid address: " ++ r
  | .invalidUri r => "invalid uri: " ++ r
  | .uriMismatch e a => "uri mismatch: expected " ++ e ++ ", got " ++ a
  | .invalidTimestamp r => "invalid timestamp: " ++ r
  | .invalidNonce r => "invalid nonce: " ++ r
  | .nonceMismatch e a => "nonce mismatch: expected " ++ e ++ ", got " ++ a
  | .invalidStatement r => "invalid statement: " ++ r
  | .invalidRequestId r => "invalid request id: " ++ r
  | .requestIdMismatch e a => "request id mismatch: expected " ++ lib.debug e ++ ", got " ++ lib.debug a
  | .invalidChainId => "invalid chain id: empty"
  | .chainIdMismatch e a => "chain id mismatch: expected " ++ e ++ ", got " ++ a
  | .expired => "message expired"
  | .notYetValid => "message not yet valid"
  | .staleIssuedAt => "issued-at exceeds max age"
  | .invalidFormat r => "invalid message format: " ++ r.display
  | .messageTooLarge len max =>
    "message exceeds maximum size of " ++ toString max ++ " bytes, got " ++ toString len
  | .tooManyResources count max => "too many resources: " ++ toString count ++ " > " ++ toString max

/-! ## Timestamps -/

/-- An RFC 3339 date-time with its own lexical form. -/
structure Timestamp where
  parsed : Int
  original : String
  deriving DecidableEq, Repr

/-- Ends in `Z`, `z` or `±HH:MM`. -/
def hasRfc3339Timezone (s : String) : Bool :=
  match s.toList.reverse with
  | 'Z' :: _ | 'z' :: _ => true
  | m2 :: m1 :: ':' :: h2 :: h1 :: sign :: _ =>
    (sign == '+' || sign == '-') && h1.isDigit && h2.isDigit && m1.isDigit && m2.isDigit
  | _ => false

def Timestamp.parse (lib : SiwxLib) (s : String) : Except SiwxError Timestamp :=
  if ¬ (Text.contains "T" s ∨ Text.contains "t" s) then
    .error (.invalidTimestamp "must contain T date-time separator")
  else if ¬ hasRfc3339Timezone s then .error (.invalidTimestamp "must have timezone Z or ±HH:MM")
  else match lib.timestamp s with
    | .error e => .error (.invalidTimestamp e)
    | .ok parsed => .ok ⟨parsed, s⟩

/-! ## Messages -/

structure SiwxMessage where
  scheme : Option String
  domain : String
  address : String
  statement : Option String
  uri : String
  version : String
  chainId : String
  chainName : Option String
  nonce : String
  issuedAt : Timestamp
  expirationTime : Option Timestamp
  notBefore : Option Timestamp
  requestId : Option String
  resources : List String
  deriving DecidableEq, Repr

/-! ## The checks of the fields -/

def isAsciiAlphabetic (c : Char) : Bool := ('a' ≤ c && c ≤ 'z') || ('A' ≤ c && c ≤ 'Z')

def isAsciiAlphanumeric (c : Char) : Bool := isAsciiAlphabetic c || c.isDigit

def checkScheme (scheme : String) : Except SiwxError Unit :=
  if scheme = "" then .error (.invalidScheme "empty")
  else if ¬ (scheme.toList.head?.any isAsciiAlphabetic) then
    .error (.invalidScheme "must start with ASCII letter")
  else if ¬ scheme.toList.all (fun c => isAsciiAlphanumeric c || c == '+' || c == '-' || c == '.') then
    .error (.invalidScheme "must be ASCII alphanumeric, '+', '-', or '.'")
  else .ok ()

def checkDomain (lib : SiwxLib) (domain : String) : Except SiwxError Unit :=
  if domain = "" then .error (.invalidDomain "empty")
  else if Text.contains preambleMid domain then .error (.invalidDomain "preamble marker")
  else if ¬ lib.authority domain then .error (.invalidDomain "not RFC 3986 authority")
  else .ok ()

def isStatementChar (c : Char) : Bool := isAsciiAlphanumeric c || c ∈ "-._~:/?#[]@!$&'()*+,;= ".toList

def checkStatement (statement : String) : Except SiwxError Unit :=
  if statement = "" then .error (.invalidStatement "empty")
  else if byteLen statement > maxStatementBytes then .error (.invalidStatement "exceeds maximum size")
  else if ¬ statement.toList.all isStatementChar then
    .error (.invalidStatement "must be reserved / unreserved / SP")
  else .ok ()

def checkUri (lib : SiwxLib) (uri : String) : Except SiwxError Unit :=
  if byteLen uri > maxUriBytes then
    .error (.invalidUri ("exceeds maximum size of " ++ toString maxUriBytes ++ " bytes, got " ++
      toString (byteLen uri)))
  else (lib.uriString uri).mapError .invalidUri

def isAsciiHexdigit (c : Char) : Bool := c.isDigit || ('a' ≤ c && c ≤ 'f') || ('A' ≤ c && c ≤ 'F')

/-- `is_pchar_string`; a character outside ASCII is none of the characters the byte loop lets pass. -/
def isPcharString : List Char → Bool
  | [] => true
  | '%' :: h1 :: h2 :: rest => isAsciiHexdigit h1 && isAsciiHexdigit h2 && isPcharString rest
  | c :: rest => (isAsciiAlphanumeric c || c ∈ "-._~!$&'()*+,;=:@".toList) && isPcharString rest

def checkRequestId (rid : String) : Except SiwxError Unit :=
  if byteLen rid > maxRequestIdBytes then .error (.invalidRequestId "exceeds maximum size")
  else if ¬ isPcharString rid.toList then .error (.invalidRequestId "must be pchar")
  else .ok ()

def checkUris (lib : SiwxLib) : List String → Except SiwxError Unit
  | [] => .ok ()
  | uri :: rest => do
    checkUri lib uri
    checkUris lib rest

def checkResources (lib : SiwxLib) (resources : List String) : Except SiwxError Unit :=
  if resources.length > maxResources then .error (.tooManyResources resources.length maxResources)
  else checkUris lib resources

def checkNonceShape (nonce : String) : Except SiwxError Unit :=
  if byteLen nonce < minNonceLen then
    .error (.invalidNonce ("must be at least " ++ toString minNonceLen ++ " characters, got " ++
      toString (byteLen nonce)))
  else if ¬ nonce.toList.all isAsciiAlphanumeric then .error (.invalidNonce "must be ASCII alphanumeric")
  else .ok ()

def checkOptional (check : String → Except SiwxError Unit) : Option String → Except SiwxError Unit
  | none => .ok ()
  | some s => check s

end OneCipher.Siwx
