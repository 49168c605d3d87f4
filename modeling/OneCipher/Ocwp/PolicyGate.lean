import OneCipher.Wallet.PolicyStore
import OneCipher.Ocwp.State

/-!
# OneCipher.Ocwp.PolicyGate — policy enforcement for session signing

`wallet_rpc/ocwp/policy_gate.rs`: a signing request is projected into a `PolicyView`, the session's policies are
selected from the store, and the evaluator decides.
-/

namespace OneCipher.Ocwp

open Wallet

/-- A signing request projected into the fields policy rules can inspect. -/
structure PolicyView where
  method : String
  chainId : String
  toAddress : Option String
  value : Option String
  data : Option String
  rawHex : String
  typedData : Option Json

/-- What evaluation reads of its surroundings: the policy host, the JSON writer and the date. -/
structure GateHost where
  policy : PolicyHost
  jsonText : Json → String
  today : String
  nowRfc3339 : String

variable (g : GateHost)

def buildTypedDataContext (td : Json) : Option TypedDataContext :=
  (td.get "domain").map fun domain =>
    { verifyingContract := domain.getStr "verifyingContract"
      domainChainId := (domain.get "chainId").bind Json.asU64
      primaryType := (td.getStr "primaryType").getD ""
      domainName := domain.getStr "name"
      domainVersion := domain.getStr "version"
      rawJson := g.jsonText td }

/-- The policy context of a request.  The first eight bytes of the session id are sliced off, which
panics inside a character. -/
def buildContext (session : SessionEntry) (view : PolicyView) : Outcome OcwpError PolicyContext :=
  match Text.takeBytes (min 8 (Text.utf8 session.sessionId).length) session.sessionId.toList with
  | none => .error .panic
  | some shortId => .ok
    { chainId := view.chainId
      walletId := session.walletId
      apiKeyId := "ocwp-session:" ++ String.ofList shortId
      transaction := ⟨view.toAddress, view.value, view.rawHex, view.data⟩
      spending := ⟨"0", g.today⟩
      timestamp := g.nowRfc3339
      typedData := view.typedData.bind (buildTypedDataContext g) }

def selectedPolicies (v : PolicyVault) (session : SessionEntry) : Outcome OcwpError (List Policy) :=
  match v.listPolicies with
  | .error _ => .error (.err (.internal "policy store unavailable"))
  | .ok all =>
    if session.policyIds = [] then .ok all
    else .ok (all.filter fun p => p.id ∈ session.policyIds)

def enforce (session : SessionEntry) (policies : List Policy) (view : PolicyView) : Outcome OcwpError Unit := do
  let ctx ← buildContext g session view
  let result := evaluatePolicies g.policy policies ctx
  if result.allow then .ok ()
  else .error (.err (.fromPolicyReason (result.reason.getD "denied by policy") result.policyId))

def gate (v : PolicyVault) (session : SessionEntry) (view : PolicyView) : Outcome OcwpError Unit := do
  let policies ← selectedPolicies v session
  enforce g session policies view

variable {g} {v : PolicyVault} {session : SessionEntry} {view : PolicyView}

/-! ## What passing the gate means -/

theorem enforce_ok {policies : List Policy} (h : enforce g session policies view = .ok ()) :
    ∃ ctx, buildContext g session view = .ok ctx ∧ ∀ p ∈ policies, (evaluateOne g.policy p ctx).allow = true := by
  obtain ⟨ctx, hctx, h⟩ := Result.bind_eq_ok.mp h
  refine ⟨ctx, hctx, evaluatePolicies_allow.mp ?_⟩
  by_contra hd
  simp only [if_neg hd] at h
  cases h

theorem mem_selectedPolicies {ps : List Policy} (h : selectedPolicies v session = .ok ps) {p : Policy} :
    p ∈ ps ↔ (session.policyIds = [] ∨ p.id ∈ session.policyIds) ∧
      ∃ name ∈ v.policies.names, v.policies.entryValue v.parsePolicy name = some p := by
  unfold selectedPolicies at h
  rcases hl : v.listPolicies with e | all
  · simp [hl] at h
  · simp only [hl] at h
    by_cases he : session.policyIds = []
    · rw [if_pos he] at h
      cases h
      rw [PolicyVault.mem_listPolicies hl]
      simp [he]
    · rw [if_neg he] at h
      cases h
      rw [List.mem_filter, PolicyVault.mem_listPolicies hl]
      simp [he, and_comm]

def selectedIds (v : PolicyVault) (session : SessionEntry) : List String :=
  if session.policyIds = [] then v.policies.names.filterMap jsonStem else session.policyIds

/-- Every selected policy can be loaded and allows the request. -/
def SelectionEnforced (v : PolicyVault) (h : PolicyHost) (session : SessionEntry) (ctx : PolicyContext) : Prop :=
  ∀ id ∈ selectedIds v session, ∃ sp, v.loadPolicy id = .ok sp ∧ (evaluateOne h sp.policy ctx).allow = true

/-- The loaded policy reaches the evaluator: the listing takes up its file, and the id it carries
passes the session's selection. -/
def ReachesGate (v : PolicyVault) (session : SessionEntry) (id : String) (sp : SignedPolicy) : Prop :=
  v.Listable id ∧ (session.policyIds = [] ∨ sp.policy.id ∈ session.policyIds)

/-- Every selected policy can be loaded, and reaches the evaluator unless it allows anyway. -/
def SelectionCovered (v : PolicyVault) (h : PolicyHost) (session : SessionEntry) (ctx : PolicyContext) : Prop :=
  ∀ id ∈ selectedIds v session, ∃ sp, v.loadPolicy id = .ok sp ∧
    (ReachesGate v session id sp ∨ (evaluateOne h sp.policy ctx).allow = true)

/-- **What an `Ok` of the gate is worth.**  Every policy the session selects can be loaded and allows
the request if and only if each can be loaded and either reached the evaluator or allows anyway. -/
theorem gate_selection_iff (g : GateHost) (v : PolicyVault) (session : SessionEntry) (view : PolicyView)
    (hok : gate g v session view = .ok ()) :
    ∃ ctx, buildContext g session view = .ok ctx ∧
      (SelectionEnforced v g.policy session ctx ↔ SelectionCovered v g.policy session ctx) := by
  obtain ⟨ps, hps, henf⟩ := Result.bind_eq_ok.mp hok
  obtain ⟨ctx, hctx, hall⟩ := enforce_ok henf
  refine ⟨ctx, hctx, fun h id hid => ?_, fun h id hid => ?_⟩
  · obtain ⟨sp, hload, hallow⟩ := h id hid
    exact ⟨sp, hload, .inr hallow⟩
  · obtain ⟨sp, hload, hr | hallow⟩ := h id hid
    · refine ⟨sp, hload, hall _ ((mem_selectedPolicies hps).mpr ?_)⟩
      exact ⟨hr.2, _, hr.1.1, PolicyVault.entryValue_of_loadPolicy hload hr.1⟩
    · exact ⟨sp, hload, hallow⟩

/-! ### A selected policy that is missing -/

def plainHost : GateHost where
  policy := { parseRfc3339 := fun _ => none, toLowercase := id,
              run := fun _ _ _ => ⟨some "not found", none, .error "not started"⟩,
              parseResult := fun _ => .error "no output" }
  jsonText _ := ""
  today := "2026-01-01"
  nowRfc3339 := "2026-01-01T00:00:00Z"

def mainnetOnly : Policy :=
  ⟨"cap", "Mainnet only", 1, "2026-01-01T00:00:00Z", [.allowedChains ["eip155:1"]], none, none, .deny⟩

/-- A store with the given policy files, unsigned; every file holds `mainnetOnly`. -/
def vaultWith (names : List String) : PolicyVault where
  policies := .holding names
  policiesPath := "policies"
  signingKey := .missing
  parsePolicy b := if b = [0x7b] then .ok mainnetOnly else .error "expected value"
  verifySeed _ _ _ := .error "signature error"

def selecting (policyIds : List String) : SessionEntry :=
  ⟨"0011223344", "main", "wallet-a", 0, "pass", policyIds, "chrome-extension://a", 900, 1800, 900⟩

def mainnetView : PolicyView := ⟨"oc_sign_transaction", "eip155:1", none, none, none, "", none⟩

theorem gate_listed_policy :
    gate plainHost (vaultWith ["cap.json"]) (selecting ["cap"]) mainnetView = .ok () ∧
    ∃ ctx, buildContext plainHost (selecting ["cap"]) mainnetView = .ok ctx ∧
      (SelectionEnforced (vaultWith ["cap.json"]) plainHost.policy (selecting ["cap"]) ctx ↔
        SelectionCovered (vaultWith ["cap.json"]) plainHost.policy (selecting ["cap"]) ctx) := by
  have hok : gate plainHost (vaultWith ["cap.json"]) (selecting ["cap"]) mainnetView = .ok () :=
    Outcome.eq_ok_unit.mpr (by decide +kernel)
  exact ⟨hok, gate_selection_iff _ _ _ _ hok⟩

/-- **A missing policy is an allow.**  The session selects a policy whose file is not in the store;
the gate evaluates nothing and passes, although the policy cannot be loaded. -/
theorem gate_passes_missing_policy :
    gate plainHost (vaultWith []) (selecting ["cap"]) mainnetView = .ok () ∧
    (vaultWith []).loadPolicy "cap" = .error (.invalidInput "policy not found: cap") ∧
    ∀ ctx, ¬ SelectionEnforced (vaultWith []) plainHost.policy (selecting ["cap"]) ctx := by
  have hload : (vaultWith []).loadPolicy "cap" = .error (.invalidInput "policy not found: cap") := rfl
  refine ⟨Outcome.eq_ok_unit.mpr (by decide +kernel), hload, fun ctx h => ?_⟩
  obtain ⟨sp, hsp, -⟩ := h "cap" (by decide)
  cases hsp

end OneCipher.Ocwp
