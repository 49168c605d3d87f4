import OneCipher.Ocwp.Envelope
import OneCipher.Ocwp.Handlers

/-!
# OneCipher.Ocwp.Preview — `oc_policy_preview`

`project_tx` and `handle_policy_preview` of `wallet_rpc/ocwp/handlers.rs`.  The preview evaluates the session's
policies on a projection of the transaction; signing evaluates them on what `resolve_transaction` returns.  The two
extract the fields separately.
-/

namespace OneCipher.Ocwp

open Prog Core Signer Wallet Result

/-! ## The projection -/

/-- What policy is shown of a transaction request before it is resolved. -/
structure TxProjection where
  toAddress : Option String
  value : Option String
  data : Option String
  kind : Option TxKind
  deriving DecidableEq, Repr

def projectRecipient : Option String → Outcome OcwpError (Option String)
  | none => .ok none
  | some addr => do
    let bytes ← decodeHexField addr "transaction.to"
    if bytes.length ≠ 20 then .error (.err (.invalidParams "transaction.to must be a 20-byte address"))
    else return some addr

def projectData (obj : List (String × Json)) : Outcome OcwpError (Option String) :=
  match fieldStr obj ["data", "input"] with
  | some hex => do
    let bytes ← decodeHexField hex "transaction.data"
    return some (Text.hexText bytes)
  | none => .ok none

def projectRaw (raw : String) : Outcome OcwpError TxProjection := do
  let bytes ← decodeHexField (Text.stripHex raw) "transaction.raw"
  let summary ← decodeTxSummary bytes
  return ⟨summary.toAddress, summary.value, summary.data, none⟩

def projectStructured (obj : List (String × Json)) : Outcome OcwpError TxProjection := do
  let kind ← TxKind.fromWire (field obj ["type"])
  let toAddress ← projectRecipient (fieldStr obj ["to"])
  let value ← fieldQuantity obj ["value"] "transaction.value"
  let data ← projectData obj
  return ⟨toAddress, some ((value.map toString).getD "0"), data, some kind⟩

def projectTx (tx : Json) : Outcome OcwpError TxProjection := do
  let obj ← Outcome.okOr (.invalidParams "'transaction' must be an object") tx.asObject
  match (obj.lookup "raw").bind Json.asStr with
  | some raw => projectRaw raw
  | none => projectStructured obj

/-! ## The handler -/

/-- What the preview evaluates and echoes. -/
structure PreviewFields where
  toAddress : Option String
  value : Option String
  data : Option String
  rawHex : String
  kindLabel : String
  deriving DecidableEq, Repr

def previewLabel (tx : Json) (projected : TxProjection) : Outcome OcwpError (String × String) :=
  match tx.getStr "raw" with
  | some raw => do
    let bytes ← decodeHexField (Text.stripHex raw) "transaction.raw"
    let summary ← decodeTxSummary bytes
    return (Text.stripHex raw, summary.kindLabel)
  | none => .ok ("", (projected.kind.map TxKind.label).getD "unknown")

def previewFields (params : Json) : Outcome OcwpError PreviewFields :=
  match (params.get "transaction").filter fun tx => !tx.isNull with
  | some tx => do
    let projected ← projectTx tx
    let (rawHex, kindLabel) ← previewLabel tx projected
    return ⟨projected.toAddress, projected.value, projected.data, rawHex, kindLabel⟩
  | none => .ok ⟨params.getStr "to", params.getStr "value", params.getStr "data", (params.getStr "raw_hex").getD "",
      "unknown"⟩

def preview (g : GateHost) (session : SessionEntry) (policies : List Policy) (view : PolicyView) :
    Outcome OcwpError (List (String × Json)) := do
  let ctx ← buildContext g session view
  let result := evaluatePolicies g.policy policies ctx
  return [("method", .str view.method), ("decision", .str (if result.allow then "allow" else "deny")),
    ("reasons", .arr ((result.reason.map fun reason =>
      .obj [("code", .str "policy"), ("message", .str reason)]).toList)),
    ("matched_policy_ids", .arr ((result.policyId.map Json.str).toList))]

def previewView (chainId : String) (typedData : Option Json) (f : PreviewFields) : PolicyView :=
  ⟨"oc_policy_preview", chainId, f.toAddress, f.value, f.data, f.rawHex, typedData⟩

/-- `oc_policy_preview`: the decision, and the fields it was made on. -/
def handlePolicyPreview (w : World) (x : SignHost) (params : Json) (origin : String) : Handler Json := do
  let session ← requireSession w params origin
  let chainId ← lift (requireStr params "chain_id")
  let f ← lift (previewFields params)
  let policies ← lift (selectedPolicies x.wallet.policyVault session)
  let fields ← lift (preview x.gate session policies (previewView chainId (params.get "typed_data") f))
  return .obj (fields ++ [("tx_type", .str f.kindLabel), ("to", optionalStr f.toAddress),
    ("value", optionalStr f.value), ("data", optionalStr f.data)])

/-! ## What is expected -/

/-- The policy looks only at the chain and the three fields. -/
def FieldsOnly (h : PolicyHost) (p : Policy) : Prop :=
  ∀ ctx ctx' : PolicyContext, ctx.chainId = ctx'.chainId → ctx.transaction.toAddress = ctx'.transaction.toAddress →
    ctx.transaction.value = ctx'.transaction.value → ctx.transaction.data = ctx'.transaction.data →
    (evaluateOne h p ctx).allow = (evaluateOne h p ctx').allow

/-- The preview of a request reports `allow`. -/
def PreviewAllows (w : World) (x : SignHost) (params : Json) (origin : String) (d : Daemon) : Prop :=
  ∃ answer d', exec (handlePolicyPreview w x params origin) d = (.ok answer, d') ∧
    answer.getStr "decision" = some "allow"

/-- The preview evaluates the fields that are signed, and where policies look at nothing else it decides as the gate
does. -/
def PreviewAgrees (w : World) (x : SignHost) (params : Json) (origin : String) (d : Daemon) (session : SessionEntry)
    (chain : Chain) (resolved : ResolvedTx) : Prop :=
  (∃ f, previewFields params = .ok f ∧ f.toAddress = resolved.toAddress ∧ f.value = resolved.value ∧
    f.data = resolved.data) ∧
  ∀ ps, selectedPolicies x.wallet.policyVault session = .ok ps → (∀ p ∈ ps, FieldsOnly x.gate.policy p) →
    (PreviewAllows w x params origin d ↔
      gate x.gate x.wallet.policyVault session (transactionView "oc_sign_transaction" chain resolved) = .ok ())

/-- The transaction is structured and gives call data as a text of no bytes. -/
def GivesEmptyData (tx : Json) : Prop :=
  ∃ obj text, tx = .obj obj ∧ (obj.lookup "raw").bind Json.asStr = none ∧
    fieldStr obj ["data", "input"] = some text ∧ Text.hexDecode (Text.stripHex text) = .ok []

/-! ## The two extractors -/

section Agreement

variable {w : World} {x : SignHost} {session : SessionEntry} {chain : Chain} {d d' : Daemon} {resolved : ResolvedTx}

theorem projectRecipient_of_read {toAddress : Option String} {toBytes : Option Bytes}
    (h : readRecipient toAddress = .ok toBytes) : projectRecipient toAddress = .ok toAddress := by
  rcases readRecipient_ok h with ⟨rfl, -⟩ | ⟨text, b, rfl, -, h20, hb⟩
  · rfl
  · exact bind_ok hb (guard_eq_ok.mpr ⟨not_not.mpr h20, rfl⟩)

theorem projectData_of_read {obj : List (String × Json)} {data : Bytes} (h : readData obj = .ok data) :
    ∃ shown, projectData obj = .ok shown ∧
      (shown = (if data = [] then none else some (Text.hexText data)) ↔
        ¬ ∃ text, fieldStr obj ["data", "input"] = some text ∧ Text.hexDecode (Text.stripHex text) = .ok []) := by
  unfold readData at h
  unfold projectData
  rcases ht : fieldStr obj ["data", "input"] with _ | text
  · rw [ht] at h
    cases h
    exact ⟨none, rfl, by simp⟩
  · rw [ht] at h
    have hdec := decodeHexField_eq_ok.mp h
    refine ⟨some (Text.hexText data), bind_ok h rfl, ?_⟩
    rcases data with _ | ⟨byte, rest⟩
    · simp [hdec]
    · simp [hdec]

/-- **The two extractors.**  A transaction that resolves can be projected, to the same recipient and value, and to the
same call data unless it is an empty text. -/
theorem projectTx_of_resolve {tx : Json} (h : exec (resolveTransaction x session chain tx) d = (.ok resolved, d')) :
    ∃ p, projectTx tx = .ok p ∧ p.toAddress = resolved.toAddress ∧ p.value = resolved.value ∧
      (p.data = resolved.data ↔ ¬ GivesEmptyData tx) := by
  obtain ⟨obj, hobj, hrest⟩ := exec_lift_bind_ok.mp h
  have htx : tx = .obj obj := by
    cases tx <;> cases hobj
    rfl
  subst htx
  rcases hraw : (obj.lookup "raw").bind Json.asStr with _ | raw
  · obtain ⟨f, d1, raw, hf, -, rfl⟩ := resolveTransaction_eq hraw h
    obtain ⟨-, -, hkind, haddress, hto, ⟨q, hvalue, hq⟩, hdata⟩ := readRequest_ok (prepare_ok hf).request
    obtain ⟨shown, hshown, hiff⟩ := projectData_of_read hdata
    rw [lookup_bind_asStr] at haddress
    have hrecipient : projectRecipient (fieldStr obj ["to"]) = .ok f.request.toAddress := by
      rw [fieldStr, ← haddress]
      exact projectRecipient_of_read hto
    refine ⟨⟨f.request.toAddress, some ((q.map toString).getD "0"), shown, some f.request.kind⟩, ?_, rfl, ?_, ?_⟩
    · refine bind_eq_ok.mpr ⟨obj, rfl, ?_⟩
      rw [hraw]
      refine bind_ok ((readKind_ok hkind).1) (bind_ok hrecipient ?_)
      exact bind_ok hvalue (bind_ok hshown rfl)
    · rw [hq]
      rcases q with _ | n <;> rfl
    · refine hiff.trans (not_congr ?_)
      constructor
      · rintro ⟨text, ht, he⟩
        exact ⟨obj, text, rfl, hraw, ht, he⟩
      · rintro ⟨_, text, ho, -, ht, he⟩
        cases ho
        exact ⟨text, ht, he⟩
  · rw [hraw] at hrest
    obtain ⟨bytes, hb, hr⟩ := bind_eq_ok.mp (Prod.mk.inj hrest).1
    obtain ⟨s, hs, hr⟩ := bind_eq_ok.mp hr
    cases hr
    refine ⟨⟨s.toAddress, s.value, s.data, none⟩, ?_, rfl, rfl, ?_⟩
    · refine bind_eq_ok.mpr ⟨obj, rfl, ?_⟩
      rw [hraw]
      exact bind_ok hb (bind_ok hs rfl)
    · refine iff_of_true rfl ?_
      rintro ⟨_, text, ho, hnone, -⟩
      cases ho
      rw [hraw] at hnone
      cases hnone

/-! ## The two decisions -/

theorem getStr_obj (obj : List (String × Json)) (key : String) :
    (Json.obj obj).getStr key = (obj.lookup key).bind Json.asStr := rfl

theorem previewFields_of_project {params tx : Json} {p : TxProjection} (htx : params.get "transaction" = some tx)
    (h : projectTx tx = .ok p) :
    ∃ f, previewFields params = .ok f ∧ f.toAddress = p.toAddress ∧ f.value = p.value ∧ f.data = p.data := by
  obtain ⟨obj, hobj, hp⟩ := bind_eq_ok.mp h
  have hshape : tx = .obj obj := by
    cases tx <;> cases hobj
    rfl
  subst hshape
  have hlabel : ∃ l, previewLabel (.obj obj) p = .ok l := by
    unfold previewLabel
    rw [getStr_obj]
    rcases hraw : (obj.lookup "raw").bind Json.asStr with _ | raw
    · exact ⟨_, rfl⟩
    · rw [hraw] at hp
      obtain ⟨bytes, hb, hp⟩ := bind_eq_ok.mp hp
      obtain ⟨s, hs, -⟩ := bind_eq_ok.mp hp
      exact ⟨_, bind_ok hb (bind_ok hs rfl)⟩
  obtain ⟨l, hl⟩ := hlabel
  refine ⟨⟨p.toAddress, p.value, p.data, l.1, l.2⟩, ?_, rfl, rfl, rfl⟩
  rw [previewFields, htx]
  exact bind_ok h (bind_ok hl rfl)

variable {ps : List Policy} {view : PolicyView}

theorem buildContext_ok {g : GateHost} {ctx : PolicyContext} (h : buildContext g session view = .ok ctx) :
    ctx.chainId = view.chainId ∧ ctx.transaction = ⟨view.toAddress, view.value, view.rawHex, view.data⟩ ∧
      ∀ view', ∃ ctx', buildContext g session view' = .ok ctx' := by
  unfold buildContext at h ⊢
  split at h
  · cases h
  · next shortId hid =>
    cases h
    exact ⟨rfl, rfl, fun view' => ⟨_, rfl⟩⟩

theorem enforce_eq_ok {g : GateHost} :
    enforce g session ps view = .ok () ↔
      ∃ ctx, buildContext g session view = .ok ctx ∧ ∀ p ∈ ps, (evaluateOne g.policy p ctx).allow = true := by
  refine ⟨enforce_ok, ?_⟩
  rintro ⟨ctx, hctx, hall⟩
  exact bind_ok hctx (if_pos (evaluatePolicies_allow.mpr hall))

theorem preview_decision {g : GateHost} {fields : List (String × Json)} :
    preview g session ps view = .ok fields → ∃ ctx, buildContext g session view = .ok ctx ∧
      ∀ rest, (Json.obj (fields ++ rest)).getStr "decision" =
        some (if (evaluatePolicies g.policy ps ctx).allow then "allow" else "deny") := by
  intro h
  obtain ⟨ctx, hctx, h⟩ := bind_eq_ok.mp h
  cases h
  exact ⟨ctx, hctx, fun rest => rfl⟩

theorem previewAllows_iff {params : Json} {origin chainId : String} {d1 : Daemon} {f : PreviewFields}
    (hsession : exec (requireSession w params origin) d = (.ok session, d1))
    (hchain : requireStr params "chain_id" = .ok chainId) (hf : previewFields params = .ok f)
    (hps : selectedPolicies x.wallet.policyVault session = .ok ps) :
    PreviewAllows w x params origin d ↔
      enforce x.gate session ps (previewView chainId (params.get "typed_data") f) = .ok () := by
  have hrun : ∀ answer d', exec (handlePolicyPreview w x params origin) d = (.ok answer, d') ↔
      ∃ fields, preview x.gate session ps (previewView chainId (params.get "typed_data") f) = .ok fields ∧
        .obj (fields ++ [("tx_type", .str f.kindLabel), ("to", optionalStr f.toAddress),
          ("value", optionalStr f.value), ("data", optionalStr f.data)]) = answer ∧ d1 = d' := by
    intro answer d'
    rw [handlePolicyPreview, exec_bind_of_ok hsession, exec_lift_bind_of_ok hchain, exec_lift_bind_of_ok hf,
      exec_lift_bind_of_ok hps, exec_lift_bind_ok]
    simp only [exec_pure, Prod.mk.injEq, Except.ok.injEq]
  rw [enforce_eq_ok, PreviewAllows]
  constructor
  · rintro ⟨answer, d', h, hallow⟩
    obtain ⟨fields, hfields, rfl, -⟩ := (hrun answer d').mp h
    obtain ⟨ctx, hctx, hdecision⟩ := preview_decision hfields
    refine ⟨ctx, hctx, evaluatePolicies_allow.mp ?_⟩
    by_contra hdeny
    rw [hdecision, if_neg hdeny] at hallow
    revert hallow
    decide
  · rintro ⟨ctx, hctx, hall⟩
    have hallow := evaluatePolicies_allow.mpr hall
    have hfields : ∃ fields, preview x.gate session ps (previewView chainId (params.get "typed_data") f) = .ok fields :=
      ⟨_, bind_ok hctx rfl⟩
    obtain ⟨fields, hfields⟩ := hfields
    obtain ⟨ctx', hctx', hdecision⟩ := preview_decision hfields
    obtain rfl : ctx = ctx' := Except.ok.inj (hctx.symm.trans hctx')
    exact ⟨_, d1, (hrun _ d1).mpr ⟨fields, hfields, rfl, rfl⟩, by rw [hdecision, if_pos hallow]⟩

theorem enforce_congr {g : GateHost} {view' : PolicyView} (hps : ∀ p ∈ ps, FieldsOnly g.policy p)
    (hchain : view.chainId = view'.chainId) (hto : view.toAddress = view'.toAddress)
    (hvalue : view.value = view'.value) (hdata : view.data = view'.data) :
    enforce g session ps view = .ok () → enforce g session ps view' = .ok () := by
  rw [enforce_eq_ok, enforce_eq_ok]
  rintro ⟨ctx, hctx, hall⟩
  obtain ⟨hcid, htx, hother⟩ := buildContext_ok hctx
  obtain ⟨ctx', hctx'⟩ := hother view'
  obtain ⟨hcid', htx', -⟩ := buildContext_ok hctx'
  refine ⟨ctx', hctx', fun p hp => ?_⟩
  rw [← hps p hp ctx ctx' (by rw [hcid, hcid', hchain]) (by rw [htx, htx', hto]) (by rw [htx, htx', hvalue])
    (by rw [htx, htx', hdata])]
  exact hall p hp

/-- **When a preview can be relied on.**  For every session, policy store, account chain and transaction that resolves,
a preview of the transaction on that chain evaluates the recipient, the value and the call data that signing puts
before the gate, and decides alike wherever policies look only at them, if and only if the transaction is not a
structured one that gives empty call data as a text. -/
theorem preview_agrees_iff (w : World) (x : SignHost) (session : SessionEntry) (chain : Chain) (tx params : Json)
    (origin : String) (d d1 d2 d3 : Daemon) (resolved : ResolvedTx)
    (hsession : exec (requireSession w params origin) d = (.ok session, d1))
    (hchain : requireStr params "chain_id" = .ok chain.chainId) (htx : params.get "transaction" = some tx)
    (hres : exec (resolveTransaction x session chain tx) d2 = (.ok resolved, d3)) :
    PreviewAgrees w x params origin d session chain resolved ↔ ¬ GivesEmptyData tx := by
  obtain ⟨p, hp, hto, hvalue, hdata⟩ := projectTx_of_resolve hres
  obtain ⟨f, hf, hfto, hfvalue, hfdata⟩ := previewFields_of_project htx hp
  rw [← hdata]
  constructor
  · rintro ⟨⟨f', hf', -, -, hsame⟩, -⟩
    rw [hf] at hf'
    cases hf'
    rw [← hfdata, hsame]
  · intro hsame
    refine ⟨⟨f, hf, hfto.trans hto, hfvalue.trans hvalue, hfdata.trans hsame⟩, fun ps hps honly => ?_⟩
    have hgate : gate x.gate x.wallet.policyVault session (transactionView "oc_sign_transaction" chain resolved) = .ok () ↔
        enforce x.gate session ps (transactionView "oc_sign_transaction" chain resolved) = .ok () := by
      rw [gate, hps]
      rfl
    rw [previewAllows_iff hsession hchain hf hps, hgate]
    constructor
    · exact enforce_congr honly rfl (hfto.trans hto) (hfvalue.trans hvalue) (hfdata.trans hsame)
    · exact enforce_congr honly rfl (hfto.trans hto).symm (hfvalue.trans hvalue).symm (hfdata.trans hsame).symm

end Agreement

/-! ### A plain transfer -/

def emptyDataRequest : List (String × Json) := transferRequest "0x2" ++ [("data", .str "0x")]

def previewParams (tx : List (String × Json)) : Json :=
  .obj [("session_id", .str sessionA.sessionId), ("chain_id", .str "eip155:1"), ("transaction", .obj tx)]

theorem preview_agrees_transfer :
    (∃ d2, exec (resolveTransaction offlineHost touchedA mainnet (.obj (transferRequest "0x2"))) idleDaemon =
      (.ok (resolvedTransfer cappedTransfer .eip1559), d2)) ∧
    (PreviewAgrees calmWorld offlineHost (previewParams (transferRequest "0x2")) "chrome-extension://a" startDaemon touchedA
        mainnet (resolvedTransfer cappedTransfer .eip1559) ↔
      ¬ GivesEmptyData (.obj (transferRequest "0x2"))) := by
  have hsession := exec_ok_of_toOption (m := requireSession calmWorld (previewParams (transferRequest "0x2"))
    "chrome-extension://a") (d := startDaemon) (a := touchedA) (by decide +kernel)
  have hres := exec_ok_of_toOption (m := resolveTransaction offlineHost touchedA mainnet (.obj (transferRequest "0x2")))
    (d := idleDaemon) (a := resolvedTransfer cappedTransfer .eip1559) (by decide +kernel)
  exact ⟨⟨_, hres⟩, preview_agrees_iff calmWorld offlineHost touchedA mainnet _ _ _ _ _ _ _ _ hsession rfl rfl hres⟩

def noDataHost : PolicyHost where
  parseRfc3339 _ := none
  toLowercase := id
  run _ ctx _ := ⟨none, none, .ok ⟨ctx.transaction.data.isNone, "exit status: 1", "", []⟩⟩
  parseResult _ := .ok (true, none)

def noDataPolicy : Policy := ⟨"plain", "Plain transfers", 1, "2026-01-01T00:00:00Z", [], some "/bin/plain", none, .deny⟩

theorem fieldsOnly_noDataPolicy : FieldsOnly noDataHost noDataPolicy := by
  intro ctx ctx' _ _ _ hdata
  have hrun : ∀ exe config, noDataHost.run exe ctx config = noDataHost.run exe ctx' config := by
    intro exe config
    simp only [noDataHost, hdata]
  simp only [evaluateOne, noDataPolicy, firstDenial, hrun]

/-- **A preview that disagrees.**  A transfer gives its call data as `0x`.  The preview shows policy `0x`, signing shows
it none, and a policy that allows only transfers without call data is reported to deny what the gate lets through. -/
theorem preview_shows_empty_data :
    (∃ d2, exec (resolveTransaction offlineHost touchedA mainnet (.obj emptyDataRequest)) idleDaemon =
      (.ok (resolvedTransfer cappedTransfer .eip1559), d2)) ∧
    (∃ f, previewFields (previewParams emptyDataRequest) = .ok f ∧ f.data = some "0x" ∧
      enforce { plainHost with policy := noDataHost } touchedA [noDataPolicy] (previewView "eip155:1" none f) ≠ .ok ()) ∧
    FieldsOnly noDataHost noDataPolicy ∧
    enforce { plainHost with policy := noDataHost } touchedA [noDataPolicy]
      (transactionView "oc_sign_transaction" mainnet (resolvedTransfer cappedTransfer .eip1559)) = .ok () ∧
    ¬ PreviewAgrees calmWorld offlineHost (previewParams emptyDataRequest) "chrome-extension://a" startDaemon touchedA
      mainnet (resolvedTransfer cappedTransfer .eip1559) := by
  have hfields : previewFields (previewParams emptyDataRequest) = .ok
      ⟨some "0xaaaaaaaaaaaaaaaaaaaaaaaaaaaaaaaaaaaaaaaa", some "100", some "0x", "", "0x02 (EIP-1559)"⟩ :=
    Outcome.eq_ok_iff_toOption.mpr (by decide +kernel)
  refine ⟨⟨_, exec_ok_of_toOption (by decide +kernel)⟩, ⟨_, hfields, rfl, ?_⟩, fieldsOnly_noDataPolicy, ?_, ?_⟩
  · intro h
    have hno := Outcome.eq_ok_unit.mp h
    revert hno
    decide +kernel
  · exact Outcome.eq_ok_unit.mpr (by decide +kernel)
  · rintro ⟨⟨f, hf, -, -, hdata⟩, -⟩
    cases hf
    cases hdata

end OneCipher.Ocwp
