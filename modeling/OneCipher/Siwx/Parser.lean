import OneCipher.Siwx.Message

/-!
# OneCipher.Siwx.Parser — reading the signing string

`oc-siwx/src/parser.rs`.  The text is split into lines; each `take*` function reads the lines it is
about and returns the rest.
-/

namespace OneCipher.Siwx

def preambleTail : String := " account:"

def uriTag : String := "URI: "

def versionTag : String := "Version: "

def chainTag : String := "Chain ID: "

def nonceTag : String := "Nonce: "

def iatTag : String := "Issued At: "

def expTag : String := "Expiration Time: "

def nbfTag : String := "Not Before: "

def ridTag : String := "Request ID: "

def resTag : String := "Resources:"

def taggedFields : List String := [uriTag, versionTag, chainTag, nonceTag, iatTag, expTag, nbfTag, ridTag]

abbrev Lines := List String

def invalidFormat {α : Type} (reason : FormatReason) : Except SiwxError α := .error (.invalidFormat reason)

/-- The text around the first occurrence of `sep`: `find` and the two slices, `split_once`. -/
def splitAtFirst (sep : List Char) : List Char → Option (List Char × List Char)
  | [] => if sep = [] then some ([], []) else none
  | c :: cs => match sep.isPrefixOf? (c :: cs) with
    | some rest => some ([], rest)
    | none => (splitAtFirst sep cs).map fun (before, after) => (c :: before, after)

def splitScheme (authority : String) : Option (String × String) :=
  (splitAtFirst "://".toList authority.toList).map fun (scheme, rest) =>
    (String.ofList scheme, String.ofList rest)

def splitSchemeDomain (authority : String) : Except SiwxError (Option String × String) :=
  match splitScheme authority with
  | some (scheme, rest) => if scheme = "" ∨ rest = "" then invalidFormat .other else .ok (some scheme, rest)
  | none => .ok (none, authority)

def parsePreamble (header : String) : Except SiwxError (Option String × String × String) :=
  match splitAtFirst preambleMid.toList header.toList with
  | none => invalidFormat .missingPreamble
  | some (authority, afterMid) => do
    let (scheme, domain) ← splitSchemeDomain (String.ofList authority)
    match Text.stripSuffix preambleTail (String.ofList afterMid) with
    | none => invalidFormat .missingAccountSuffix
    | some chainName => .ok (scheme, domain, chainName)

def next : Lines → Except SiwxError (String × Lines)
  | [] => invalidFormat .unexpectedEof
  | line :: rest => .ok (line, rest)

variable (lib : SiwxLib) (tag : String) (lines : Lines)

def expectBlank : Except SiwxError Lines := do
  let (line, rest) ← next lines
  if line = "" then .ok rest else invalidFormat .expectedBlankLine

def isTagged (line : String) : Bool := taggedFields.any (Text.startsWith · line) || line == resTag

def atUri : Bool := lines.head?.any (Text.startsWith uriTag)

def takeOptionalStatement : Lines → Except SiwxError (Option String × Lines)
  | [] => invalidFormat .unexpectedEof
  | line :: rest =>
    if line = "" then
      if atUri rest then .ok (none, rest) else invalidFormat (.missingField uriTag)
    else if isTagged line then invalidFormat .expectedBlankLine
    else do
      checkStatement line
      let rest ← expectBlank rest
      if atUri rest then .ok (some line, rest) else invalidFormat (.missingField uriTag)

def takeRequiredTag : Lines → Except SiwxError (String × Lines)
  | [] => invalidFormat (.missingField tag)
  | line :: rest => match Text.stripPrefix tag line with
    | some value => .ok (value, rest)
    | none => invalidFormat (.missingField tag)

def takeOptionalTag : Lines → Option String × Lines
  | [] => (none, [])
  | line :: rest => match Text.stripPrefix tag line with
    | some value => (some value, rest)
    | none => (none, line :: rest)

def takeRequiredTs : Except SiwxError (Timestamp × Lines) := do
  let (s, rest) ← takeRequiredTag tag lines
  let ts ← Timestamp.parse lib s
  return (ts, rest)

def parseOptional : Option String → Except SiwxError (Option Timestamp)
  | none => .ok none
  | some s => (Timestamp.parse lib s).map some

def takeOptionalTs : Except SiwxError (Option Timestamp × Lines) := do
  let ts ← parseOptional lib (takeOptionalTag tag lines).1
  return (ts, (takeOptionalTag tag lines).2)

def takeItems : Lines → Except SiwxError (List String × Lines)
  | [] => .ok ([], [])
  | line :: rest =>
    if line = "" ∨ line = resTag then .ok ([], line :: rest)
    else match Text.stripPrefix "- " line with
      | none => invalidFormat .resourceSyntax
      | some item => do
        let (items, rest) ← takeItems rest
        return (item :: items, rest)

def takeResources : Lines → Except SiwxError (List String × Lines)
  | [] => .ok ([], [])
  | line :: rest =>
    if line = resTag then do
      let (resources, rest) ← takeItems rest
      checkResources lib resources
      return (resources, rest)
    else .ok ([], line :: rest)

def rejectTrailing : Except SiwxError Unit :=
  if lines = [] then .ok () else invalidFormat .unexpectedTrailing

def checkVersion (v : String) : Except SiwxError Unit :=
  if v = version then .ok () else invalidFormat .versionNotOne

def checkChainIdTag (chainId : String) : Except SiwxError Unit :=
  if chainId = "" then invalidFormat .emptyChainId else .ok ()

def checkAddress (address : String) : Except SiwxError Unit :=
  if address = "" then .error (.invalidAddress "empty") else .ok ()

def parseLines : Except SiwxError SiwxMessage := do
  let (header, lines) ← next lines
  let (scheme, domain, chainName) ← parsePreamble header
  checkOptional checkScheme scheme
  checkDomain lib domain
  let (address, lines) ← next lines
  checkAddress address
  let lines ← expectBlank lines
  let (statement, lines) ← takeOptionalStatement lines
  let (uri, lines) ← takeRequiredTag uriTag lines
  checkUri lib uri
  let (version, lines) ← takeRequiredTag versionTag lines
  checkVersion version
  let (chainId, lines) ← takeRequiredTag chainTag lines
  checkChainIdTag chainId
  let (nonce, lines) ← takeRequiredTag nonceTag lines
  checkNonceShape nonce
  let (issuedAt, lines) ← takeRequiredTs lib iatTag lines
  let (expirationTime, lines) ← takeOptionalTs lib expTag lines
  let (notBefore, lines) ← takeOptionalTs lib nbfTag lines
  let (requestId, lines) := takeOptionalTag ridTag lines
  checkOptional checkRequestId requestId
  let (resources, lines) ← takeResources lib lines
  rejectTrailing lines
  return ⟨scheme, domain, address, statement, uri, version, chainId,
    if chainName = "" then none else some chainName, nonce, issuedAt, expirationTime, notBefore, requestId,
    resources⟩

/-- `SiwxMessage::from_str`. -/
def SiwxMessage.fromStr (input : String) : Except SiwxError SiwxMessage :=
  if byteLen input > maxMessageBytes then .error (.messageTooLarge (byteLen input) maxMessageBytes)
  else if '\r' ∈ input.toList then invalidFormat .crLf
  else parseLines lib ((input.toList.splitOn '\n').map String.ofList)

def sampleLib : SiwxLib where
  authority _ := true
  uriString _ := .ok ()
  timestamp s :=
    if s = "2026-01-01T00:00:00Z" then .ok 1767225600000000000
    else if s = "2026-01-01T01:00:00Z" then .ok 1767229200000000000
    else .error "unknown date"
  debug o := o.elim "None" fun s => "Some(\"" ++ s ++ "\")"

def sampleText : String :=
  "a.io wants you to sign in with your Ethereum account:\n0xaa\n\n\nURI: a:b\n" ++
  "Version: 1\nChain ID: 1\nNonce: 32891756\nIssued At: 2026-01-01T00:00:00Z\n" ++
  "Expiration Time: 2026-01-01T01:00:00Z"

def sampleMessage : SiwxMessage :=
  ⟨none, "a.io", "0xaa", none, "a:b", "1", "1", some "Ethereum", "32891756",
    ⟨1767225600000000000, "2026-01-01T00:00:00Z"⟩, some ⟨1767229200000000000, "2026-01-01T01:00:00Z"⟩, none,
    none, []⟩

theorem fromStr_sampleText : (SiwxMessage.fromStr sampleLib sampleText).toOption = some sampleMessage := by
  decide +kernel

end OneCipher.Siwx
