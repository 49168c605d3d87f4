import OneCipher.Siwx.Parser

/-!
# OneCipher.Siwx.Validate — field and temporal validation of sign-in messages

`oc-siwx/src/validate.rs`.  Validation repeats the shape checks of the parser, compares the message
with the values it is bound to and checks the temporal window, with a leeway for clock skew on both
sides (`checkTemporalWindow_eq_ok`).
-/

namespace OneCipher.Siwx

def defaultClockSkewSecs : Int := 60

def nanosPerSec : Int := 1000000000

/-- What a message is bound to; `timestamp` overrides the clock. -/
structure AuthOpts where
  domain : String
  nonce : String
  scheme : Option String
  uri : Option String
  chainId : Option String
  requestId : Option String
  timestamp : Option Int
  clockSkewSecs : Int
  maxIssuedAgeSecs : Option Int

def AuthOpts.new (domain nonce : String) : AuthOpts :=
  ⟨domain, nonce, none, none, none, none, none, defaultClockSkewSecs, none⟩

def AuthOpts.now (clock : Int) (opts : AuthOpts) : Int := opts.timestamp.getD clock

namespace SiwxMessage

def checkChainId (chainId : String) : Except SiwxError Unit :=
  if chainId = "" then .error .invalidChainId else .ok ()

def checkRequiredShapes (lib : SiwxLib) (m : SiwxMessage) : Except SiwxError Unit := do
  checkOptional checkScheme m.scheme
  checkDomain lib m.domain
  checkAddress m.address
  checkVersion m.version
  checkChainId m.chainId
  checkNonceShape m.nonce

def checkBinding (mismatch : String → String → SiwxError) (expected : Option String) (actual : String) :
    Except SiwxError Unit :=
  match expected with
  | none => .ok ()
  | some e => if e = actual then .ok () else .error (mismatch e actual)

def checkOptionalBinding (mismatch : Option String → Option String → SiwxError) (expected actual : Option String) :
    Except SiwxError Unit :=
  match expected with
  | none => .ok ()
  | some e => if actual = some e then .ok () else .error (mismatch (some e) actual)

def checkDomainBinding (expected : String) (m : SiwxMessage) : Except SiwxError Unit :=
  checkBinding .domainMismatch (some expected) m.domain

def checkNonceBinding (expected : String) (m : SiwxMessage) : Except SiwxError Unit :=
  checkBinding .nonceMismatch (some expected) m.nonce

variable (expected : Option String) (m : SiwxMessage)

def checkSchemeBinding : Except SiwxError Unit := checkOptionalBinding .schemeMismatch expected m.scheme

def checkUriBinding : Except SiwxError Unit := checkBinding .uriMismatch expected m.uri

def checkChainIdBinding : Except SiwxError Unit := checkBinding .chainIdMismatch expected m.chainId

def checkRequestIdBinding : Except SiwxError Unit := checkOptionalBinding .requestIdMismatch expected m.requestId

def staleIssuedAt (now skew : Int) (issued maxAge : Int) : Bool := issued - now ≤ skew && now - issued - skew > maxAge

/-- `check_temporal_window`, the durations in nanoseconds. -/
def checkTemporalWindow (clock : Int) (opts : AuthOpts) (m : SiwxMessage) : Except SiwxError Unit :=
  if m.expirationTime.any fun exp => opts.now clock - exp.parsed > opts.clockSkewSecs * nanosPerSec then
    .error .expired
  else if m.notBefore.any fun nbf => nbf.parsed - opts.now clock > opts.clockSkewSecs * nanosPerSec then
    .error .notYetValid
  else if opts.maxIssuedAgeSecs.any fun age => staleIssuedAt (opts.now clock) (opts.clockSkewSecs * nanosPerSec)
      m.issuedAt.parsed (age * nanosPerSec) then
    .error .staleIssuedAt
  else .ok ()

/-- `SiwxMessage::validate` at a clock reading. -/
def validate (lib : SiwxLib) (clock : Int) (opts : AuthOpts) (m : SiwxMessage) : Except SiwxError Unit := do
  m.checkRequiredShapes lib
  checkUri lib m.uri
  checkOptional checkStatement m.statement
  checkOptional checkRequestId m.requestId
  checkResources lib m.resources
  m.checkDomainBinding opts.domain
  m.checkNonceBinding opts.nonce
  m.checkSchemeBinding opts.scheme
  m.checkUriBinding opts.uri
  m.checkChainIdBinding opts.chainId
  m.checkRequestIdBinding opts.requestId
  m.checkTemporalWindow clock opts

theorem checkTemporalWindow_eq_ok {clock : Int} {opts : AuthOpts} {m : SiwxMessage} {exp : Timestamp}
    (h : m.checkTemporalWindow clock opts = .ok ()) (hexp : m.expirationTime = some exp) :
    opts.now clock - exp.parsed ≤ opts.clockSkewSecs * nanosPerSec := by
  rw [checkTemporalWindow] at h
  by_contra hlate
  rw [if_pos] at h
  · cases h
  · rw [hexp, Option.any_some, decide_eq_true_eq]
    omega

end SiwxMessage

end OneCipher.Siwx
