import OneCipher.KeyAgent.Enclave

/-!
# OneCipher.KeyAgent.EnclaveParent — the parent's side of an enclave call

`sign_via_enclave` of `oc-keyagent/src/handler.rs` and `spawn_enclave_child` of `enclave.rs`, for every operation.
The parent records that a request is pending, runs the child and records how it was resolved; the audit log says
that a pending entry without a resolution means that the parent died.
-/

namespace OneCipher.KeyAgent.Pipe

open Prog
open Text (utf8 hexDecode)

/-! ## The protocol -/

def enclaveProtocolVersion : Nat := 1

def enclaveMaxExtraJsonBytes : Nat := 256 * 1024

/-- The request as it crosses the pipe, for any operation. -/
structure EnclaveRequest where
  ocVersion : Nat
  requestId : String
  op : String
  walletId : String
  chainId : String
  payloadHex : String
  extraJson : String
  index : Nat
  credentialHex : Option String
  vaultDir : Option String

def signingOps : List String :=
  ["sign_message", "sign_transaction", "sign_typed_data", "sign_user_op", "sign_auth", "public_key"]

def EnclaveRequest.validate (req : EnclaveRequest) : Except String Unit :=
  if req.ocVersion ≠ enclaveProtocolVersion then
    .error ("enclave version mismatch: got " ++ toString req.ocVersion ++ ", want " ++ toString enclaveProtocolVersion)
  else if req.requestId = "" ∨ (utf8 req.requestId).length > enclaveMaxFieldChars then
    .error "enclave request_id missing or oversized"
  else if (utf8 req.walletId).length > enclaveMaxFieldChars then .error "enclave wallet_id oversized"
  else if (utf8 req.chainId).length > enclaveMaxFieldChars then .error "enclave chain_id oversized"
  else if req.op ≠ "ping" ∧ req.walletId = "" then .error ("enclave op '" ++ req.op ++ "' requires wallet_id")
  else if req.op ∈ signingOps ∧ req.chainId = "" then .error ("enclave op '" ++ req.op ++ "' requires chain_id")
  else if (utf8 req.payloadHex).length > enclaveMaxPayloadBytes * 2 + 8 then
    .error "enclave payload_hex oversized"
  else if (utf8 req.extraJson).length > enclaveMaxExtraJsonBytes then .error "enclave extra_json oversized"
  else if req.op = "ping" ∨ req.op ∈ signingOps then .ok ()
  else .error ("unknown enclave op: " ++ req.op)

/-- The child's answer. -/
structure EnclaveResponse where
  ocVersion : Nat
  requestId : String
  ok : Bool
  signatureHex : Option String
  signedTxHex : Option String
  address : Option String
  publicKeyHex : Option String
  recoveryId : Option UInt8
  pid : Nat
  error : Option String

/-! ## The parent -/

/-- What a finished child leaves. -/
structure ChildOutput where
  success : Bool
  status : String
  stdout : Bytes

/-- Everything the parent finds out there. -/
structure ParentHost where
  newRequestId : String
  enclaveExe : Except String Unit
  spawn : Except String Nat
  toJson : EnclaveRequest → Except String String
  waitWithTimeout : String → Except String ChildOutput
  fromUtf8 : Bytes → Except String String
  fromStr : String → Except String EnclaveResponse
  latencyMs : Nat
  sha256 : Bytes → Bytes
  logAudit : AuditEvent → List AuditEvent → Except String Unit

section Parent

variable (h : ParentHost)

def spawnEnclaveChild (req : EnclaveRequest) : Except EnclaveError EnclaveResponse := do
  req.validate.mapError fun e => ⟨none, "enclave request invalid: " ++ e⟩
  let pid ← h.spawn.mapError fun e => ⟨none, "enclave spawn: " ++ e⟩
  let input ← (h.toJson req).mapError fun e => ⟨some pid, "enclave request JSON: " ++ e⟩
  let output ← (h.waitWithTimeout (input ++ "\n")).mapError fun e => ⟨some pid, e⟩
  if output.success = false then .error ⟨some pid, "enclave child exited with " ++ output.status⟩
  else do
    let stdout ← (h.fromUtf8 output.stdout).mapError fun e => ⟨some pid, "enclave stdout UTF8: " ++ e⟩
    let resp ← (h.fromStr (Text.trim stdout)).mapError fun e => ⟨some pid, "enclave response JSON: " ++ e⟩
    if resp.ocVersion ≠ enclaveProtocolVersion then
      .error ⟨some pid, "enclave version mismatch: got " ++ toString resp.ocVersion ++ ", want " ++
        toString enclaveProtocolVersion⟩
    else if resp.requestId ≠ req.requestId then .error ⟨some pid, "enclave request_id mismatch"⟩
    else if resp.ok then .ok resp
    else .error ⟨some pid, resp.error.getD "enclave failed"⟩

structure EnclaveSignArgs where
  action : String
  sessionKeyId : Option String
  op : String
  walletId : String
  chainId : String
  payloadHex : String
  extraJson : String

structure EnclaveSignOutput where
  signature : Bytes
  signedTxHex : Option String
  address : Option String
  publicKey : Option Bytes

abbrev Audited (α : Type) := Prog (List AuditEvent) String α

/-- `record_audit_strict`. -/
def recordAuditStrict (event : AuditEvent) : Audited (Except String Unit) :=
  Prog.state fun log =>
    match h.logAudit event log with
    | .ok () => (.ok (), log ++ [event])
    | .error e => (.error (coded .audit ("audit unavailable: " ++ e)), log)

/-- `record_audit`: a failed append is a warning. -/
def recordAudit (event : AuditEvent) : Audited Unit := do
  let _ ← recordAuditStrict h event

def enclaveCallError (e : EnclaveError) : String :=
  if Text.startsWith "E_" e.message then e.display else coded .internal e.display

def jsonNat (n : Nat) : Json := .num (.posInt (UInt64.ofNat n))

def requestOf (args : EnclaveSignArgs) : EnclaveRequest :=
  ⟨enclaveProtocolVersion, h.newRequestId, args.op, args.walletId, args.chainId, args.payloadHex, args.extraJson, 0,
    none, none⟩

def pendingEvent (args : EnclaveSignArgs) : AuditEvent :=
  ⟨.enclavePending, args.sessionKeyId, .obj [("action", .str args.action), ("op", .str args.op),
    ("request_id", .str h.newRequestId), ("wallet_id", .str args.walletId), ("chain_id", .str args.chainId)]⟩

def resolvedEvent (args : EnclaveSignArgs) (pid : Nat) (signature : Bytes) : AuditEvent :=
  ⟨.enclaveResolved, args.sessionKeyId, .obj [("action", .str args.action), ("op", .str args.op),
    ("request_id", .str h.newRequestId), ("pid", jsonNat pid), ("ok", .bool true),
    ("sig_hash", .str (Text.hexEncode (h.sha256 signature))), ("latency_ms", jsonNat h.latencyMs)]⟩

def failedEvent (args : EnclaveSignArgs) (e : EnclaveError) : AuditEvent :=
  ⟨.enclaveResolved, args.sessionKeyId, .obj [("action", .str args.action), ("op", .str args.op),
    ("request_id", .str h.newRequestId), ("pid", e.pid.elim .null jsonNat), ("ok", .bool false),
    ("latency_ms", jsonNat h.latencyMs), ("error", .str e.message),
    ("alert", .str "enclave child failed mid-request")]⟩

def decodeAnswer (resp : EnclaveResponse) : Except String (Bytes × Option Bytes) := do
  let signature ← match resp.signatureHex with
    | some text => (hexDecode text).mapError fun e => coded .internal ("enclave bad signature hex: " ++ e.message)
    | none => .error (coded .internal "enclave omitted signature")
  let publicKey ← match resp.publicKeyHex with
    | some text =>
      ((hexDecode text).map some).mapError fun e => coded .internal ("enclave bad public key hex: " ++ e.message)
    | none => .ok none
  return (signature, publicKey)

/-- Under `audit_fail_closed` a record that could not be made ends the call. -/
def failClosed (auditFailClosed : Bool) (auditResult : Except String Unit) : Audited Unit :=
  match auditFailClosed, auditResult with
  | true, .error e => Prog.fail e
  | _, _ => pure ()

def signViaEnclave (auditFailClosed : Bool) (args : EnclaveSignArgs) : Audited EnclaveSignOutput := do
  recordAudit h (pendingEvent h args)
  Prog.lift (h.enclaveExe.mapError fun e => .err (coded .internal ("enclave unavailable: " ++ e)))
  match spawnEnclaveChild h (requestOf h args) with
  | .ok resp => do
    let (signature, publicKey) ← Prog.lift ((decodeAnswer resp).mapError .err)
    let auditResult ← recordAuditStrict h (resolvedEvent h args resp.pid signature)
    failClosed auditFailClosed auditResult
    return ⟨signature, resp.signedTxHex, resp.address, publicKey⟩
  | .error e => do
    let failed ← recordAuditStrict h (failedEvent h args e)
    failClosed auditFailClosed failed
    Prog.fail (enclaveCallError e)

end Parent

/-! ## What the child has to do -/

/-- The child was started and answered this request with success. -/
structure ParentHost.Answers (h : ParentHost) (req : EnclaveRequest) (resp : EnclaveResponse) : Prop where
  valid : req.validate = .ok ()
  started : ∃ pid input output, h.spawn = .ok pid ∧ h.toJson req = .ok input ∧
    h.waitWithTimeout (input ++ "\n") = .ok output ∧ output.success = true ∧
    ∃ stdout, h.fromUtf8 output.stdout = .ok stdout ∧ h.fromStr (Text.trim stdout) = .ok resp
  version : resp.ocVersion = enclaveProtocolVersion
  same : resp.requestId = req.requestId
  ok : resp.ok = true

/-- The answer has a signature in hexadecimal, and its public key is in hexadecimal if it has one. -/
def EnclaveResponse.Decodable (resp : EnclaveResponse) : Prop :=
  (∃ text b, resp.signatureHex = some text ∧ hexDecode text = .ok b) ∧
    ∀ text, resp.publicKeyHex = some text → ∃ b, hexDecode text = .ok b

theorem spawnEnclaveChild_eq_ok {h : ParentHost} {req : EnclaveRequest} {resp : EnclaveResponse} :
    spawnEnclaveChild h req = .ok resp ↔ h.Answers req resp := by
  unfold spawnEnclaveChild
  simp only [Result.bind_eq_ok, Result.mapError_eq_ok, Result.guard_eq_ok, not_not, Bool.not_eq_false]
  constructor
  · rintro ⟨_, hvalid, pid, hspawn, input, hjson, output, hwait, hsuccess, stdout, hutf8, resp', hparse, hver, hsame, hok⟩
    split at hok
    · next htrue =>
      cases hok
      exact ⟨hvalid, ⟨pid, input, output, hspawn, hjson, hwait, hsuccess, stdout, hutf8, hparse⟩, hver, hsame, htrue⟩
    · cases hok
  · rintro ⟨hvalid, ⟨pid, input, output, hspawn, hjson, hwait, hsuccess, stdout, hutf8, hparse⟩, hver, hsame, htrue⟩
    exact ⟨(), hvalid, pid, hspawn, input, hjson, output, hwait, hsuccess, stdout, hutf8, resp, hparse, hver, hsame,
      if_pos htrue⟩

theorem decodeAnswer_eq_ok {resp : EnclaveResponse} : (∃ x, decodeAnswer resp = .ok x) ↔ resp.Decodable := by
  unfold decodeAnswer EnclaveResponse.Decodable
  cases hs : resp.signatureHex with
  | none => simp [bind, Except.bind]
  | some sigText =>
    cases hd : hexDecode sigText with
    | error => simp [hd, bind, Except.bind, Except.mapError]
    | ok =>
      cases hp : resp.publicKeyHex with
      | none => simp [hd, bind, Except.bind, Except.mapError, pure, Except.pure]
      | some keyText =>
        cases hk : hexDecode keyText with
        | error => simp [hd, hk, bind, Except.bind, Except.mapError, Except.map]
        | ok => simp [hd, hk, bind, Except.bind, Except.mapError, Except.map, pure, Except.pure]

/-! ## The records of a call -/

section Records

variable {h : ParentHost} (hok : ∀ event log, h.logAudit event log = .ok ())

include hok

theorem exec_recordAuditStrict (event : AuditEvent) (log : List AuditEvent) :
    exec (recordAuditStrict h event) log = (.ok (.ok ()), log ++ [event]) := by
  unfold recordAuditStrict
  rw [exec_state, hok]

theorem exec_recordAudit_bind {α : Type} (event : AuditEvent) (log : List AuditEvent) (m : Unit → Audited α) :
    exec (recordAudit h event >>= m) log = exec (m ()) (log ++ [event]) := by
  refine exec_bind_of_ok ?_
  unfold recordAudit
  rw [exec_bind_of_ok (exec_recordAuditStrict hok event log), exec_pure]

theorem exec_resolve_snd {α : Type} (event : AuditEvent) (log : List AuditEvent) (b : Bool) (m : Audited α)
    (hm : ∀ log, (exec m log).2 = log) :
    (exec (do let r ← recordAuditStrict h event; failClosed b r; m) log).2 = log ++ [event] := by
  rw [exec_bind_of_ok (exec_recordAuditStrict hok event log)]
  have hpass : failClosed b (.ok ()) = pure () := by cases b <;> rfl
  rw [hpass, pure_bind, hm]

theorem log_signViaEnclave (b : Bool) (args : EnclaveSignArgs) (log : List AuditEvent) :
    (exec (signViaEnclave h b args) log).2 = log ++ pendingEvent h args ::
      match h.enclaveExe, spawnEnclaveChild h (requestOf h args) with
      | .error _, _ => []
      | .ok (), .error e => [failedEvent h args e]
      | .ok (), .ok resp => (decodeAnswer resp).toOption.toList.map fun x => resolvedEvent h args resp.pid x.1 := by
  unfold signViaEnclave
  rw [exec_recordAudit_bind hok]
  cases hexe : h.enclaveExe with
  | error => rfl
  | ok =>
    simp only [Except.mapError]
    rw [exec_lift_bind_of_ok rfl]
    cases hspawn : spawnEnclaveChild h (requestOf h args) with
    | error =>
      rw [exec_resolve_snd hok _ _ _ _ fun _ => rfl, List.append_assoc]
      rfl
    | ok resp =>
      dsimp only
      cases hd : decodeAnswer resp with
      | error => rfl
      | ok =>
        rw [exec_lift_bind_of_ok rfl, exec_resolve_snd hok _ _ _ _ fun _ => rfl, List.append_assoc]
        rfl

end Records

/-! ## Every pending entry is resolved -/

def requestIdOf (event : AuditEvent) : Option String := event.payload.getStr "request_id"

/-- Every pending entry is followed by exactly one resolution of the same request. -/
def EveryPendingResolved (events : List AuditEvent) : Prop :=
  ∀ before e after, events = before ++ e :: after → e.eventType = .enclavePending →
    (after.filter fun r => r.eventType = .enclaveResolved ∧ requestIdOf r = requestIdOf e).length = 1

/-- What a call appends resolves its pending entries. -/
def Resolves (h : ParentHost) (auditFailClosed : Bool) (args : EnclaveSignArgs) (log : List AuditEvent) : Prop :=
  ∃ appended, (exec (signViaEnclave h auditFailClosed args) log).2 = log ++ appended ∧ EveryPendingResolved appended

theorem not_everyPendingResolved {p : AuditEvent} (hp : p.eventType = .enclavePending) : ¬ EveryPendingResolved [p] := by
  intro h
  have := h [] p [] rfl hp
  simp at this

theorem everyPendingResolved_pair {p r : AuditEvent} (hr : r.eventType = .enclaveResolved)
    (hid : requestIdOf r = requestIdOf p) : EveryPendingResolved [p, r] := by
  intro before e after hsplit he
  rcases before with _ | ⟨x, _ | ⟨y, before⟩⟩
  · cases hsplit
    simp [hr, hid]
  · obtain ⟨-, hrest⟩ := List.cons.inj hsplit
    cases hrest
    rw [hr] at he
    cases he
  · have hlen := congrArg List.length hsplit
    simp at hlen

/-- **An enclave call resolves its pending entry exactly when** the own executable is found and a successful answer
of the child has the fields in the form the parent decodes. -/
theorem signViaEnclave_resolves_iff (h : ParentHost) (hok : ∀ event log, h.logAudit event log = .ok ())
    (auditFailClosed : Bool) (args : EnclaveSignArgs) (log : List AuditEvent) :
    Resolves h auditFailClosed args log ↔
      h.enclaveExe = .ok () ∧ ∀ resp, h.Answers (requestOf h args) resp → resp.Decodable := by
  unfold Resolves
  rw [log_signViaEnclave hok]
  simp only [List.append_cancel_left_eq, exists_eq_left', ← spawnEnclaveChild_eq_ok, ← decodeAnswer_eq_ok]
  cases hexe : h.enclaveExe with
  | error => simpa using not_everyPendingResolved rfl
  | ok =>
    cases hspawn : spawnEnclaveChild h (requestOf h args) with
    | error e => simpa using everyPendingResolved_pair (p := pendingEvent h args) (r := failedEvent h args e) rfl rfl
    | ok resp =>
      cases hd : decodeAnswer resp with
      | error => simpa [hd, Except.toOption] using not_everyPendingResolved rfl
      | ok x =>
        have hpair := everyPendingResolved_pair (p := pendingEvent h args) (r := resolvedEvent h args resp.pid x.1) rfl rfl
        refine iff_of_true ?_ ⟨rfl, fun resp' hresp => ⟨x, ?_⟩⟩
        · show EveryPendingResolved (_ :: List.map _ (decodeAnswer resp).toOption.toList)
          rw [hd]
          exact hpair
        · cases hresp
          exact hd

section Samples

def sampleArgs : EnclaveSignArgs := ⟨"sign_tx", none, "sign_transaction", "w-1", "eip155:1", "02c0", ""⟩

def sampleResponse (signatureHex publicKeyHex : Option String) : EnclaveResponse :=
  ⟨1, "1-2-3", true, signatureHex, none, none, publicKeyHex, none, 7, none⟩

def answeringHost (signatureHex publicKeyHex : Option String) : ParentHost where
  newRequestId := "1-2-3"
  enclaveExe := .ok ()
  spawn := .ok 7
  toJson _ := .ok ""
  waitWithTimeout _ := .ok ⟨true, "exit status: 0", []⟩
  fromUtf8 _ := .ok ""
  fromStr _ := .ok (sampleResponse signatureHex publicKeyHex)
  latencyMs := 12
  sha256 b := b
  logAudit _ _ := .ok ()

def sampleRequest : EnclaveRequest := ⟨1, "1-2-3", "sign_transaction", "w-1", "eip155:1", "02c0", "", 0, none, none⟩

theorem spawn_answeringHost (signatureHex publicKeyHex : Option String) :
    spawnEnclaveChild (answeringHost signatureHex publicKeyHex) sampleRequest =
      .ok (sampleResponse signatureHex publicKeyHex) :=
  spawnEnclaveChild_eq_ok.mpr ⟨by decide +kernel,
    ⟨7, "", ⟨true, "exit status: 0", []⟩, rfl, rfl, rfl, rfl, "", rfl, rfl⟩, rfl, rfl, rfl⟩

/-- **An answer without a signature leaves the pending entry open**, and so does a parent that does not find its own
executable. -/
theorem answer_without_signature_unresolved :
    ¬ Resolves (answeringHost none none) true sampleArgs [] ∧
      ¬ Resolves { answeringHost none none with enclaveExe := .error "not found" } true sampleArgs [] := by
  have hspawn : spawnEnclaveChild (answeringHost none none) (requestOf (answeringHost none none) sampleArgs) =
      .ok (sampleResponse none none) := spawn_answeringHost none none
  constructor
  · rintro ⟨appended, happended, hall⟩
    rw [← List.append_cancel_left happended] at hall
    exact not_everyPendingResolved rfl hall
  · rintro ⟨appended, happended, hall⟩
    rw [← List.append_cancel_left happended] at hall
    exact not_everyPendingResolved rfl hall

/-- A child that does its work. -/
theorem resolves_answeringHost : Resolves (answeringHost (some "c0de") (some "02")) true sampleArgs [] := by
  refine (signViaEnclave_resolves_iff _ (fun _ _ => rfl) _ _ _).mpr ⟨rfl, fun resp h => ?_⟩
  obtain rfl := Except.ok.inj ((spawnEnclaveChild_eq_ok.mpr h).symm.trans (spawn_answeringHost _ _))
  refine ⟨⟨"c0de", [0xc0, 0xde], rfl, by decide +kernel⟩, fun text htext => ⟨[2], ?_⟩⟩
  rw [← Option.some.inj htext]
  decide +kernel

end Samples

end OneCipher.KeyAgent.Pipe
