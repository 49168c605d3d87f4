import OneCipher.NetAgent.IntentTx

/-!
# OneCipher.NetAgent.Simulate — the payments a simulation lets through

`oc-netagent/src/intent/simulate.rs`: the call of an intent is tried out before it is executed.  The texts and the USD
figures of the summary are a parameter; `stages_agree_iff` compares what the two stages accept.
-/

namespace OneCipher.Intents

open Result Text

variable {φ σ : Type}

/-- An RPC client with the calls only a simulation makes. -/
structure SimClient (φ : Type) extends RpcClient where
  ethCall : CallData → Except RpcError Json
  nativePriceUsd : Except RpcError φ

/-- `summarize` is given the gas cost in wei, the result of the call and the price, if it is known. -/
def simulateIntent (summarize : Intent → ℕ → Json → Option φ → σ) (env : IntentEnv) (intent : Intent)
    (rpc : SimClient φ) : Except IntentError σ := do
  let callData ← buildCallData env intent.kind intent.chainId
  let gasEstimate ← (rpc.estimateGas callData).mapError .rpc
  let simResult ← (rpc.ethCall callData).mapError .rpc
  let gasPrice ← rpc.gasPrice.mapError .rpc
  return summarize intent (gasEstimate.toNat * gasPrice.toNat) simResult rpc.nativePriceUsd.toOption

/-- The client is on the intent's chain and answers every question. -/
structure Answers (intent : Intent) (rpc : SimClient φ) : Prop where
  chain : rpc.chainId = intent.chainId
  count : ∀ address, ∃ nonce, rpc.transactionCount address = .ok nonce
  gas : ∀ call, ∃ gas, rpc.estimateGas call = .ok gas
  call : ∀ call, ∃ result, rpc.ethCall call = .ok result
  price : ∃ price, rpc.gasPrice = .ok price

/-- A payment without a token to a text that is not hexadecimal. -/
def Undecodable : IntentKind → Prop
  | .pay _ recipient none => ∀ b, hexDecode (unmarked recipient) ≠ .ok b
  | _ => False

variable {summarize : Intent → ℕ → Json → Option φ → σ} {env : IntentEnv} {intent : Intent} {rpc : SimClient φ}
  {fromAddress amount recipient : String} {token : Option String} {chainNum now : ℕ}

theorem simulateIntent_ok_iff (h : Answers intent rpc) : (∃ summary, simulateIntent summarize env intent rpc = .ok summary) ↔
    ∃ call, buildCallData env intent.kind intent.chainId = .ok call := by
  simp only [simulateIntent, bind_eq_ok, mapError_eq_ok]
  constructor
  · rintro ⟨_, call, hcall, -⟩
    exact ⟨call, hcall⟩
  · rintro ⟨call, hcall⟩
    obtain ⟨gas, hgas⟩ := h.gas call
    obtain ⟨result, hresult⟩ := h.call call
    obtain ⟨price, hprice⟩ := h.price
    exact ⟨_, call, hcall, gas, hgas, result, hresult, price, hprice, rfl⟩

theorem paymentTx_ok_iff (h : Answers intent rpc) (hchain : parseChainId env intent.chainId = .ok chainNum) :
    (∃ b, paymentTx env intent rpc.toRpcClient fromAddress = .ok b) ↔
      ∃ call, buildCallData env intent.kind intent.chainId = .ok call ∧ trim fromAddress ≠ "" ∧
        (∃ b, decodeRecipient call.toAddress = .ok b) ∧ ∃ b, decodeValue call.value = .ok b := by
  simp only [paymentTx, buildUnsignedEip1559Tx, checkSender, guard_eq_ok, bind_eq_ok, mapError_eq_ok, h.chain]
  constructor
  · rintro ⟨_, _, -, call, hcall, _, ⟨hsender, -⟩, _, -, _, -, _, -, b, hb, value, hvalue, -⟩
    exact ⟨call, hcall, hsender, ⟨b, hb⟩, value, hvalue⟩
  · rintro ⟨call, hcall, hsender, ⟨b, hb⟩, value, hvalue⟩
    obtain ⟨nonce, hnonce⟩ := h.count fromAddress
    obtain ⟨gas, hgas⟩ := h.gas call
    obtain ⟨price, hprice⟩ := h.price
    exact ⟨_, chainNum, hchain, call, hcall, (), ⟨hsender, trivial⟩, nonce, hnonce, gas, hgas, price, hprice, b, hb,
      value, hvalue, rfl⟩

theorem unmarked_hexText (b : Bytes) : unmarked (hexText b) = hexEncode b := by
  have hdigits : trimHexMarks (hexEncode b).toList = (hexEncode b).toList := by
    rcases b with _ | ⟨x, b⟩
    · rfl
    · have hx : ∀ n < 16, hexDigit n ≠ 'x' := by decide
      rw [toList_hexEncode_cons]
      unfold trimHexMarks
      split
      · next heq => exact absurd (List.cons.inj (List.cons.inj heq).2).1 (hx _ (Nat.mod_lt _ (by decide)))
      · rfl
  rw [unmarked, hexText, String.toList_append]
  exact (congrArg String.ofList hdigits).trans String.ofList_toList

theorem decodes_of_built {chain : String} {call : CallData}
    (h : buildCallData env (.pay amount recipient token) chain = .ok call) :
    ((∃ b, decodeRecipient call.toAddress = .ok b) ∧ ∃ b, decodeValue call.value = .ok b) ↔
      ¬ Undecodable (.pay amount recipient token) := by
  cases token with
  | none =>
    obtain ⟨n, hn, rfl⟩ := nativeCallData_ok h
    have hvalue : ∃ b, decodeValue (some (String.ofList ('0' :: 'x' :: lowerHex n))) = .ok b := by
      rw [decodeValue, decodeQuantity_lowerHex (parseAmount_lt hn)]
      exact ⟨_, rfl⟩
    simp only [Undecodable, not_forall_not, decodeRecipient_eq_ok, and_iff_left hvalue]
  | some token =>
    obtain ⟨addr, _, rfl⟩ := tokenCallData_ok h
    refine iff_of_true ⟨⟨addr, decodeRecipient_eq_ok.mpr ?_⟩, _, decodeValue_zero⟩ id
    rw [unmarked_hexText, hexDecode_hexEncode]

/-- **A simulation and the execution take the same payments exactly when** the call builder turns the payment away, or
the sender is not blank and a payment without a token goes to a hexadecimal text. -/
theorem stages_agree_iff (signer : Signer) (hkind : intent.kind = .pay amount recipient token) (hlive : now ≤ intent.expiresAt)
    (hchain : parseChainId env intent.chainId = .ok chainNum) (h : Answers intent rpc) :
    ((∃ summary, simulateIntent summarize env intent rpc = .ok summary) ↔
        ∃ b, b ∈ handed env intent rpc.toRpcClient fromAddress signer now) ↔
      ((∃ call, buildCallData env intent.kind intent.chainId = .ok call) →
        trim fromAddress ≠ "" ∧ ¬ Undecodable intent.kind) := by
  have hhanded : (∃ b, b ∈ handed env intent rpc.toRpcClient fromAddress signer now) ↔
      ∃ b, paymentTx env intent rpc.toRpcClient fromAddress = .ok b := by
    simp only [mem_handed, unsignedTx, hkind, and_iff_right hlive]
  rw [simulateIntent_ok_iff h, hhanded, paymentTx_ok_iff h hchain, hkind]
  constructor
  · rintro ⟨hboth, -⟩ hbuilt
    obtain ⟨call, hcall, hsender, hdecodes⟩ := hboth hbuilt
    exact ⟨hsender, (decodes_of_built hcall).mp hdecodes⟩
  · intro hgood
    constructor
    · rintro ⟨call, hcall⟩
      obtain ⟨hsender, hdecodes⟩ := hgood ⟨call, hcall⟩
      exact ⟨call, hcall, hsender, (decodes_of_built hcall).mpr hdecodes⟩
    · rintro ⟨call, hcall, -⟩
      exact ⟨call, hcall⟩

def trialRpc : SimClient Unit := { mainnetRpc with ethCall := fun _ => .ok .null, nativePriceUsd := .error .notFound }

theorem stages_agree_native :
    (∃ s, simulateIntent (fun _ wei _ _ => wei) mainnetEnv nativePayment trialRpc = .ok s) ↔
      ∃ b, b ∈ handed mainnetEnv nativePayment trialRpc.toRpcClient payer refusingSigner 50 :=
  have hchain : parseChainId mainnetEnv nativePayment.chainId = .ok 1 := by decide +kernel
  (stages_agree_iff refusingSigner rfl (by decide) hchain 
    ⟨rfl, fun _ => ⟨_, rfl⟩, fun _ => ⟨_, rfl⟩, fun _ => ⟨_, rfl⟩, _, rfl⟩).mpr fun _ =>
    ⟨by decide +kernel, fun h => h (List.replicate 20 0x11) (by decide +kernel)⟩

def aliceIntent : Intent := { nativePayment with kind := .pay "1000" "alice" none }

/-- A payment to "alice" is simulated, and no transaction is made of it. -/
theorem alice_simulated_not_executed :
    simulateIntent (fun _ wei _ _ => wei) mainnetEnv aliceIntent trialRpc = .ok 1200000000000000 ∧
      handed mainnetEnv aliceIntent trialRpc.toRpcClient payer refusingSigner 50 = [] := by
  decide +kernel

end OneCipher.Intents
