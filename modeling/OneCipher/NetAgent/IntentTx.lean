import OneCipher.NetAgent.Intent

/-!
# OneCipher.NetAgent.IntentTx — what the signer is handed for a payment

The transaction of a payment intent against the canonical encoding of `EvmTx`.  The value is encoded
from its hex text, so zero becomes one zero byte, which no canonical transaction has; the recipient
of a native payment is not measured; and the priority fee is fixed while the fee cap follows the
price.  `pays_canonically_iff` puts the three together.
-/

namespace OneCipher.Intents

open Bytes Signer Text List Result String
open EvmTx (scalar toNat_ofNat_u128)

/-! ## Hex quantities -/

theorem padDigits_hexEncode (b : Bytes) : padDigits (hexEncode b).toList = (hexEncode b).toList := by
  rw [padDigits, ofList_toList, length_utf8_hexEncode, if_neg (by omega)]

variable {env : IntentEnv} {amount : String} {n : ℕ}

theorem padDigits_odd (h : n < 16) (b : Bytes) :
    padDigits (hexDigit n :: (hexEncode b).toList) = '0' :: hexDigit n :: (hexEncode b).toList := by
  have hlen : (utf8 (String.ofList (hexDigit n :: (hexEncode b).toList))).length = 2 * b.length + 1 := by
    rw [utf8, toList_ofList, flatMap_cons, utf8_hexDigit n h, singleton_append,
      length_cons, ← utf8, length_utf8_hexEncode]
  rw [padDigits, hlen, if_pos (by omega)]

theorem padDigits_dropWhile (b : Bytes) :
    padDigits ((hexEncode b).toList.dropWhile (· == '0')) = (hexEncode (stripZeros b)).toList := by
  induction b with
  | nil => rfl
  | cons x _ ih =>
    have hx := x.toNat_lt
    have hhi := hexDigit_eq_zero (x.toNat / 16) (by omega)
    have hlo := hexDigit_eq_zero (x.toNat % 16) (by omega)
    rw [toList_hexEncode_cons, dropWhile_cons, hhi, dropWhile_cons, hlo]
    by_cases hzero : x = 0
    · subst hzero
      exact ih
    · have hne : x.toNat ≠ 0 := fun h => hzero (UInt8.toNat_inj.mp h)
      rw [stripZeros_cons_of_ne hzero]
      by_cases hsmall : x.toNat / 16 = 0
      · -- one significant digit in the first byte: the padding puts its zero back
        rw [if_pos (decide_eq_true hsmall), if_neg (by simp; omega), padDigits_odd (by omega),
          toList_hexEncode_cons, hsmall]
        rfl
      · rw [if_neg (by simpa using hsmall), ← toList_hexEncode_cons, padDigits_hexEncode]

theorem trimHexMarks_of_ne {c : Char} (h : c ≠ '0') (cs : List Char) : trimHexMarks (c :: cs) = c :: cs := by
  unfold trimHexMarks
  split
  · next heq => exact absurd (List.cons.inj heq).1 h
  · rfl

theorem trimHexMarks_lowerHex (n : ℕ) :
    trimHexMarks (String.ofList ('0' :: 'x' :: lowerHex n)).toList = lowerHex n := by
  rw [toList_ofList, trimHexMarks]
  unfold lowerHex
  dsimp only
  split
  · rfl
  · next hne =>
    obtain ⟨c, cs, hcs⟩ := exists_cons_of_ne_nil hne
    have hhead := head_dropWhile_not (· == '0') hne
    simp only [hcs, head_cons] at hhead
    rw [hcs]
    exact trimHexMarks_of_ne (by simpa using hhead) cs

theorem decodeQuantity_lowerHex (h : n < 2 ^ 128) :
    decodeQuantity (String.ofList ('0' :: 'x' :: lowerHex n)) =
      .ok (if n = 0 then [0] else stripZeros (toBe 16 n)) := by
  have hval : beNat (stripZeros (toBe 16 n)) = n := by
    rw [beNat_stripZeros, beNat_toBe (by norm_num; omega)]
  unfold decodeQuantity
  rw [trimHexMarks_lowerHex]
  by_cases hzero : n = 0
  · subst hzero
    have hpad : padDigits (lowerHex 0) = (hexEncode [0]).toList := by decide +kernel
    rw [hpad, ofList_toList, hexDecode_hexEncode, if_pos rfl]
  · have hne : ¬ (hexEncode (toBe 16 n)).toList.dropWhile (· == '0') = [] := by
      intro hnil
      have hempty : (hexEncode (stripZeros (toBe 16 n))).toList = [] := by
        rw [← padDigits_dropWhile, hnil]
        rfl
      rcases hbytes : stripZeros (toBe 16 n) with _ | ⟨x, rest⟩
      · rw [hbytes] at hval
        exact hzero hval.symm
      · rw [hbytes, toList_hexEncode_cons] at hempty
        cases hempty
    have hdigits : lowerHex n = (hexEncode (toBe 16 n)).toList.dropWhile (· == '0') := by
      unfold lowerHex
      rw [if_neg hne]
    rw [hdigits, padDigits_dropWhile, ofList_toList, hexDecode_hexEncode, if_neg hzero]

/-! ## What a payment should be -/

/-- The intent's chain is `eip155:N`. -/
def OnChain (intent : Intent) (N : ℕ) : Prop :=
  ∃ reference, intent.chainId = "eip155:" ++ reference ∧ parseUnsigned 10 (2 ^ 64) reference = some N

/-- The transaction pays the amount to the recipient: as its value, or by a call of the token. -/
def Pays (env : IntentEnv) : IntentKind → EvmTx → Prop
  | .pay amount recipient none, tx =>
    ∃ r : Address, hexDecode (unmarked recipient) = .ok r.1 ∧ tx.recipient = some r ∧
      parseAmount amount = .ok tx.value.toNat ∧ tx.data = []
  | .pay amount recipient (some token), tx =>
    ∃ (r t : Address) (chain : Option String) (n : ℕ), hexDecode (unmarked recipient) = .ok r.1 ∧
      parseTokenAddress token = .ok (chain, t.1) ∧ tx.recipient = some t ∧
      parseAmount amount = .ok n ∧ tx.value = 0 ∧ tx.data = transferCall env r.1 n
  | _, _ => False

/-- The bytes are the canonical encoding of an unsigned EIP-1559 transaction on the intent's chain,
with a priority fee within the fee cap, that makes the payment. -/
def PaysCanonically (env : IntentEnv) (intent : Intent) (b : Bytes) : Prop :=
  ∃ (tx : EvmTx) (chainId priority maxFee : U256) (access : List AccessEntry),
    tx.envelope = .feeMarket chainId priority maxFee access ∧ b = tx.unsigned ∧
      OnChain intent chainId.toNat ∧ priority.toNat ≤ maxFee.toNat ∧ Pays env intent.kind tx

/-! ## What is handed over -/

theorem signAndSend_snd {σ : Type} (intent : Intent) (rpc : RpcClient) (signer : Signer) (tx : Bytes)
    (log : σ) : ((signAndSend intent rpc signer tx).exec log).2 = log := by
  have hkeeps : Prog.Preserves (fun s : σ => s = log) (signAndSend intent rpc signer tx) :=
    Prog.Preserves.lift_bind fun _ _ => Prog.Preserves.lift_bind fun _ _ =>
      Prog.Preserves.lift_bind fun _ _ => Prog.Preserves.pure _
  exact hkeeps log rfl

theorem handed_eq (env : IntentEnv) (intent : Intent) (rpc : RpcClient) (fromAddress : String)
    (signer : Signer) (now : ℕ) :
    handed env intent rpc fromAddress signer now =
      if now > intent.expiresAt then [] else (unsignedTx env intent rpc fromAddress).toOption.toList := by
  rw [handed, executeIntent]
  by_cases hold : now > intent.expiresAt
  · rw [if_pos hold, if_pos hold]
    rfl
  · rw [if_neg hold, if_neg hold]
    rcases htx : unsignedTx env intent rpc fromAddress with e | tx
    · rfl
    · rw [ask, Except.mapError, Prog.exec_lift_bind_of_ok rfl, Prog.exec_bind_of_ok (Prog.exec_modify _ _),
        signAndSend_snd]
      rfl

theorem mem_handed {intent : Intent} {rpc : RpcClient} {fromAddress : String} {signer : Signer} {now : ℕ} {b : Bytes} :
    b ∈ handed env intent rpc fromAddress signer now ↔
      now ≤ intent.expiresAt ∧ unsignedTx env intent rpc fromAddress = .ok b := by
  rw [handed_eq, ← not_lt]
  by_cases hold : now > intent.expiresAt
  · simp [hold]
  · rcases unsignedTx env intent rpc fromAddress with e | tx
    · simp [hold, Except.toOption]
    · simp [hold, Except.toOption, eq_comm]

/-- What went into the transaction of a payment. -/
structure Built (env : IntentEnv) (intent : Intent) (rpc : RpcClient) (call : CallData)
    (chainNum : ℕ) (toBytes valueBytes : Bytes) (price : UInt64) : Prop where
  chain : parseChainId env intent.chainId = .ok chainNum
  recipient : decodeRecipient call.toAddress = .ok toBytes
  value : decodeValue call.value = .ok valueBytes
  callData : buildCallData env intent.kind rpc.chainId = .ok call
  gasPrice : rpc.gasPrice = .ok price

theorem paymentTx_ok {intent : Intent} {rpc : RpcClient} {fromAddress : String} {b : Bytes}
    (h : paymentTx env intent rpc fromAddress = .ok b) :
    ∃ call chainNum toBytes valueBytes gasLimit gasPrice nonce,
      Built env intent rpc call chainNum toBytes valueBytes gasPrice ∧
        b = 0x02 :: encodeList
          (txItems chainNum toBytes valueBytes (call.data.getD []) gasLimit gasPrice nonce).flatten := by
  obtain ⟨chainNum, hchain, h⟩ := bind_eq_ok.mp h
  obtain ⟨call, hcall, h⟩ := bind_eq_ok.mp h
  obtain ⟨_, -, h⟩ := bind_eq_ok.mp h
  obtain ⟨nonce, -, h⟩ := bind_eq_ok.mp h
  obtain ⟨gasLimit, -, h⟩ := bind_eq_ok.mp h
  obtain ⟨gasPrice, hprice, h⟩ := bind_eq_ok.mp h
  obtain ⟨toBytes, hto, h⟩ := bind_eq_ok.mp h
  obtain ⟨valueBytes, hvalue, h⟩ := bind_eq_ok.mp h
  rw [mapError_eq_ok] at hprice
  refine ⟨call, chainNum, toBytes, valueBytes, gasLimit, gasPrice, nonce, ⟨hchain, hto, hvalue, hcall, hprice⟩, ?_⟩
  exact (Except.ok.inj h).symm

/-! ## The nine items -/

def uint64Rlp (n : ℕ) : Rlp := .bytes (stripZeros (toBe 8 n))

def txRlps (chainId : ℕ) (toBytes valueBytes dataBytes : Bytes) (gasLimit gasPrice nonce : UInt64) : List Rlp :=
  [uint64Rlp chainId, uint64Rlp nonce.toNat, uint64Rlp maxPriority,
    uint64Rlp (saturatingDouble gasPrice), uint64Rlp gasLimit.toNat, .bytes toBytes,
    .bytes valueBytes, .bytes dataBytes, .list []]

theorem encodeU64_eq (n : ℕ) : encodeU64 n = Rlp.encode (uint64Rlp n) := by
  rw [encodeU64, encodeMinimalInt, encodeBytes_eq, uint64Rlp, Rlp.encode]

theorem encode_txItems (chainId : ℕ) (toBytes valueBytes dataBytes : Bytes)
    (gasLimit gasPrice nonce : UInt64) :
    encodeList (txItems chainId toBytes valueBytes dataBytes gasLimit gasPrice nonce).flatten =
      Rlp.encode (.list (txRlps chainId toBytes valueBytes dataBytes gasLimit gasPrice nonce)) := by
  have hbytes : ∀ b, Signer.encodeBytes b = Rlp.encode (.bytes b) := by
    intro b
    rw [encodeBytes_eq, Rlp.encode]
  have hempty : Signer.encodeList [] = Rlp.encode (.list []) := by
    rw [encodeList_eq, Rlp.encode, Rlp.encodeAll]
  rw [encodeList_eq, Rlp.encode, Rlp.encodeAll_eq_flatten, txItems, txRlps]
  simp only [encodeU64_eq, hbytes, hempty, map_cons, map_nil]

theorem uint64Rlp_eq_scalar (h : n < 2 ^ 64) : uint64Rlp n = scalar n := by
  rw [uint64Rlp, scalar, ← stripZeros_toBe (w := 8) (k := 32) (by norm_num; omega) (by decide)]

theorem bytes_eq_scalar (h : n < 2 ^ 128) : Rlp.bytes (stripZeros (toBe 16 n)) = scalar n := by
  rw [scalar, ← stripZeros_toBe (w := 16) (k := 32) (by norm_num; omega) (by decide)]

theorem saturatingDouble_lt (gasPrice : UInt64) : saturatingDouble gasPrice < 2 ^ 64 := by
  unfold saturatingDouble
  omega

/-- The native payment of `n` as a transaction. -/
def nativeTx (chainNum : ℕ) (r : Address) (n : ℕ) (gasLimit gasPrice nonce : UInt64) : EvmTx :=
  ⟨.feeMarket (BitVec.ofNat 256 chainNum) (BitVec.ofNat 256 maxPriority)
    (BitVec.ofNat 256 (saturatingDouble gasPrice)) [], nonce, gasLimit, some r, BitVec.ofNat 256 n, []⟩

theorem fields_nativeTx {chainNum : ℕ} (hc : chainNum < 2 ^ 64) (hn : n < 2 ^ 128) (r : Address)
    (gasLimit gasPrice nonce : UInt64) :
    (nativeTx chainNum r n gasLimit gasPrice nonce).fields =
      txRlps chainNum r.1 (stripZeros (toBe 16 n)) [] gasLimit gasPrice nonce := by
  have hfee := saturatingDouble_lt gasPrice
  have hfields : (nativeTx chainNum r n gasLimit gasPrice nonce).fields =
      [scalar (BitVec.ofNat 256 chainNum).toNat, scalar nonce.toNat, scalar (BitVec.ofNat 256 maxPriority).toNat,
        scalar (BitVec.ofNat 256 (saturatingDouble gasPrice)).toNat, scalar gasLimit.toNat,
        .bytes r.1, scalar (BitVec.ofNat 256 n).toNat, .bytes [], .list []] := rfl
  rw [hfields, txRlps, toNat_ofNat_u128 (by omega), toNat_ofNat_u128 (n := maxPriority) (by decide),
    toNat_ofNat_u128 (by omega), toNat_ofNat_u128 hn, uint64Rlp_eq_scalar hc, uint64Rlp_eq_scalar nonce.toNat_lt,
    uint64Rlp_eq_scalar (n := maxPriority) (by decide), uint64Rlp_eq_scalar hfee,
    uint64Rlp_eq_scalar gasLimit.toNat_lt, bytes_eq_scalar hn]

theorem unsigned_of_feeMarket {tx : EvmTx} {chainId priority maxFee : U256} {access : List AccessEntry}
    (henv : tx.envelope = .feeMarket chainId priority maxFee access) :
    tx.unsigned = 0x02 :: Rlp.encode (.list tx.fields) := by
  rw [EvmTx.unsigned, EvmTx.typeByte, henv, EvmTx.body]
  rfl

theorem stripZeros_ne_zero_byte (b : Bytes) : stripZeros b ≠ [0] := by
  intro h
  have hstrip := stripZeros_stripZeros b
  rw [h] at hstrip
  cases hstrip

theorem beNat_of_stripZeros_eq {m : ℕ} (hn : n < 2 ^ 64) (hm : m < 2 ^ 256)
    (h : stripZeros (toBe 8 n) = stripZeros (toBe 32 m)) : n = m := by
  have hval := congrArg beNat h
  rwa [EvmTx.beNat_scalar hm, beNat_stripZeros, beNat_toBe (by norm_num; omega)] at hval

theorem fields_of_unsigned {tx : EvmTx} {chainId priority maxFee : U256} {access : List AccessEntry}
    {chainNum : ℕ} {toBytes valueBytes dataBytes : Bytes} {gasLimit gasPrice nonce : UInt64}
    (henv : tx.envelope = .feeMarket chainId priority maxFee access)
    (ha : (Rlp.encode (.list (txRlps chainNum toBytes valueBytes dataBytes gasLimit gasPrice nonce))).length < 2 ^ 64)
    (h : 0x02 :: Rlp.encode (.list (txRlps chainNum toBytes valueBytes dataBytes gasLimit gasPrice nonce)) =
      tx.unsigned) :
    priority.toNat = maxPriority ∧ maxFee.toNat = saturatingDouble gasPrice ∧
      toBytes = (tx.recipient.map (·.1)).getD [] ∧ valueBytes = stripZeros (toBe 32 tx.value.toNat) := by
  have hbody : Rlp.encode (.list (txRlps chainNum toBytes valueBytes dataBytes gasLimit gasPrice nonce)) =
      Rlp.encode (.list tx.fields) := by
    rw [unsigned_of_feeMarket henv] at h
    exact (List.cons.inj h).2
  have hitems := Rlp.encode_list_inj ha hbody
  have hshort : ∀ r ∈ txRlps chainNum toBytes valueBytes dataBytes gasLimit gasPrice nonce,
      (Rlp.encode r).length < 2 ^ 64 := by
    intro r hr
    have hle := Rlp.length_encode_le_of_mem hr
    rw [Rlp.encode, Rlp.length_encodeList] at ha
    omega
  rw [EvmTx.fields, EvmTx.leading, EvmTx.trailing, henv] at hitems
  simp only [txRlps, uint64Rlp, scalar, EvmTx.recipientRlp, map_cons, map_nil, cons_append,
    nil_append, List.cons.injEq, Rlp.encode] at hitems
  simp only [txRlps, uint64Rlp, mem_cons, not_mem_nil, or_false, forall_eq_or_imp, forall_eq, Rlp.encode] at hshort
  obtain ⟨-, -, hpri, hfee, -, hto, hvalue, -, -⟩ := hitems
  obtain ⟨-, -, hspri, hsfee, -, hsto, hsvalue, -, -⟩ := hshort
  refine ⟨?_, ?_, Rlp.encodeBytes_inj hsto hto, Rlp.encodeBytes_inj hsvalue hvalue⟩
  · exact (beNat_of_stripZeros_eq (by decide) priority.isLt (Rlp.encodeBytes_inj hspri hpri)).symm
  · exact (beNat_of_stripZeros_eq (saturatingDouble_lt _) maxFee.isLt (Rlp.encodeBytes_inj hsfee hfee)).symm

/-! ## Amounts and chains -/

theorem parseAmountDigits_lt {radix : ℕ} {label digits : String}
    (h : parseAmountDigits radix label amount digits = .ok n) : n < 2 ^ 128 := by
  unfold parseAmountDigits at h
  rcases hp : parseUnsigned radix (2 ^ 128) digits with _ | m
  · rw [hp] at h
    cases h
  · rw [hp] at h
    cases h
    exact (parseUnsigned_eq_some.mp hp).2.2

theorem parseAmount_lt (h : parseAmount amount = .ok n) : n < 2 ^ 128 := by
  unfold parseAmount at h
  dsimp only at h
  split at h
  · cases h
  · split at h
    · exact parseAmountDigits_lt h
    · split at h
      · exact parseAmountDigits_lt h
      · cases h

theorem parseChainId_ok {intent : Intent} (h : parseChainId env intent.chainId = .ok n) :
    OnChain intent n ∧ n < 2 ^ 64 := by
  unfold parseChainId at h
  rcases hread : env.parseCaip2 intent.chainId with e | ⟨nspace, reference⟩
  · rw [hread] at h
    cases h
  · rw [hread] at h
    dsimp only at h
    by_cases hns : nspace = "eip155"
    · rw [if_pos hns] at h
      rcases hp : parseUnsigned 10 (2 ^ 64) reference with _ | m
      · rw [hp] at h
        cases h
      · rw [hp] at h
        cases h
        have hsplit := env.parseCaip2_split hread
        rw [hns] at hsplit
        exact ⟨⟨reference, hsplit, hp⟩, (parseUnsigned_eq_some.mp hp).2.2⟩
    · rw [if_neg hns] at h
      cases h

theorem decodeRecipient_eq_ok {s : String} {b : Bytes} :
    decodeRecipient s = .ok b ↔ hexDecode (unmarked s) = .ok b := by
  rw [decodeRecipient]
  cases hexDecode (unmarked s) <;> simp

theorem nativeCallData_ok {recipient : String} {call : CallData} (h : nativeCallData amount recipient = .ok call) :
    ∃ n, parseAmount amount = .ok n ∧
      call = ⟨none, recipient, some (String.ofList ('0' :: 'x' :: lowerHex n)), none⟩ := by
  obtain ⟨n, hn, h⟩ := bind_eq_ok.mp h
  exact ⟨n, hn, (Except.ok.inj h).symm⟩

theorem tokenCallData_ok {recipient token chain : String} {call : CallData}
    (h : tokenCallData env amount recipient token chain = .ok call) :
    ∃ addr data, call = ⟨none, hexText addr, some "0x0", some data⟩ := by
  obtain ⟨n, -, h⟩ := bind_eq_ok.mp h
  obtain ⟨⟨tc, ta⟩, -, h⟩ := bind_eq_ok.mp h
  obtain ⟨_, -, h⟩ := bind_eq_ok.mp h
  obtain ⟨r, -, h⟩ := bind_eq_ok.mp h
  exact ⟨_, _, (Except.ok.inj h).symm⟩

theorem decodeValue_zero : decodeValue (some "0x0") = .ok [0] := by
  have hzero : decodeQuantity "0x0" = .ok [0] := by
    have hn := decodeQuantity_lowerHex (n := 0) (by decide)
    have htext : String.ofList ('0' :: 'x' :: lowerHex 0) = "0x0" := by decide +kernel
    rwa [htext, if_pos rfl] at hn
  rfl

/-! ## The payment -/

/-- What makes a payment come out right: native, of more than nothing, to a 20-byte address, at a price
of at least half a gwei. -/
structure Payable (rpc : RpcClient) (amount recipient : String) (token : Option String) : Prop where
  native : token = none
  nonzero : parseAmount amount ≠ .ok 0
  address : ∃ r : Address, hexDecode (unmarked recipient) = .ok r.1
  price : ∃ g : UInt64, rpc.gasPrice = .ok g ∧ 500000000 ≤ g.toNat

section Payment

variable {env : IntentEnv} {intent : Intent} {amount recipient : String} {token : Option String}
  {rpc : RpcClient} {fromAddress : String} {b : Bytes}

theorem paysCanonically_of_payable (hkind : intent.kind = .pay amount recipient token)
    (hb : paymentTx env intent rpc fromAddress = .ok b) (hp : Payable rpc amount recipient token) :
    PaysCanonically env intent b := by
  obtain ⟨rfl, hnonzero, ⟨r, hr⟩, g, hg, hge⟩ := hp
  obtain ⟨call, chainNum, toBytes, valueBytes, gasLimit, gasPrice, nonce, hbuilt, rfl⟩ := paymentTx_ok hb
  have hcall := hbuilt.callData
  rw [hkind] at hcall
  obtain ⟨n, hn, rfl⟩ := nativeCallData_ok hcall
  obtain rfl : gasPrice = g := Except.ok.inj (hbuilt.gasPrice.symm.trans hg)
  obtain ⟨hchain, hchainlt⟩ := parseChainId_ok hbuilt.chain
  have hlt := parseAmount_lt hn
  have hn0 : n ≠ 0 := fun h => hnonzero (h ▸ hn)
  have hto : toBytes = r.1 := Except.ok.inj ((decodeRecipient_eq_ok.mp hbuilt.recipient).symm.trans hr)
  have hvalue : valueBytes = stripZeros (toBe 16 n) := by
    have hdecode := hbuilt.value
    rw [decodeValue, decodeQuantity_lowerHex hlt, if_neg hn0] at hdecode
    exact (Except.ok.inj hdecode).symm
  have hfee := saturatingDouble_lt gasPrice
  refine ⟨nativeTx chainNum r n gasLimit gasPrice nonce, _, _, _, _, rfl, ?_, ?_, ?_, ?_⟩
  · rw [unsigned_of_feeMarket rfl, fields_nativeTx hchainlt hlt, encode_txItems, hto, hvalue]
    rfl
  · rwa [toNat_ofNat_u128 (by omega)]
  · rw [toNat_ofNat_u128 (by decide), toNat_ofNat_u128 (by omega)]
    unfold saturatingDouble maxPriority
    omega
  · rw [hkind]
    refine ⟨r, hr, rfl, ?_, rfl⟩
    rw [nativeTx, toNat_ofNat_u128 hlt]
    exact hn

theorem payable_of_paysCanonically (hkind : intent.kind = .pay amount recipient token)
    (hb : paymentTx env intent rpc fromAddress = .ok b) (ha : Addressable b)
    (hpays : PaysCanonically env intent b) : Payable rpc amount recipient token := by
  obtain ⟨call, chainNum, toBytes, valueBytes, gasLimit, gasPrice, nonce, hbuilt, rfl⟩ := paymentTx_ok hb
  obtain ⟨tx, chainId, priority, maxFee, access, henv, hbytes, -, hfees, hpay⟩ := hpays
  rw [encode_txItems] at ha hbytes
  rw [Addressable, length_cons] at ha
  obtain ⟨hpriority, hmaxFee, hto, hvalue⟩ := fields_of_unsigned henv (by omega) hbytes
  have hcall := hbuilt.callData
  rw [hkind] at hcall hpay
  have hnotzero : valueBytes ≠ [0] := by
    rw [hvalue]
    exact stripZeros_ne_zero_byte _
  have hprice : 500000000 ≤ gasPrice.toNat := by
    rw [hpriority, hmaxFee] at hfees
    unfold saturatingDouble maxPriority at hfees
    omega
  cases token with
  | some =>
    -- the value of a token payment is a zero byte
    obtain ⟨_, _, rfl⟩ := tokenCallData_ok hcall
    exact absurd (Except.ok.inj (decodeValue_zero.symm.trans hbuilt.value)).symm hnotzero
  | none =>
    obtain ⟨n, hn, rfl⟩ := nativeCallData_ok hcall
    obtain ⟨r, hr, -, -, -⟩ := hpay
    refine ⟨rfl, ?_, ⟨r, hr⟩, gasPrice, hbuilt.gasPrice, hprice⟩
    intro hzero
    obtain rfl : n = 0 := Except.ok.inj (hn.symm.trans hzero)
    have hdecode := hbuilt.value
    exact hnotzero (Except.ok.inj hdecode).symm

end Payment

/-- **What the signer is handed for a payment is a canonical payment exactly when the intent is
payable.** -/
theorem pays_canonically_iff {env : IntentEnv} {intent : Intent} {amount recipient : String}
    {token : Option String} {rpc : RpcClient} {fromAddress : String} {signer : Signer} {now : ℕ} {b : Bytes}
    (hkind : intent.kind = .pay amount recipient token)
    (hb : b ∈ handed env intent rpc fromAddress signer now) (ha : Addressable b) :
    PaysCanonically env intent b ↔ Payable rpc amount recipient token := by
  have hbuilt : paymentTx env intent rpc fromAddress = .ok b := by
    have htx := (mem_handed.mp hb).2
    rw [unsignedTx, hkind] at htx
    exact htx
  constructor
  · exact payable_of_paysCanonically hkind hbuilt ha
  · exact paysCanonically_of_payable hkind hbuilt

/-! ## Two payments -/

def mainnetEnv : IntentEnv where
  parseCaip2 s := if s = "eip155:1" then .ok ("eip155", "1") else .error "unknown chain"
  parseCaip2_split := by
    intro s nspace reference h
    split at h
    · next hs =>
      cases h
      exact hs
    · cases h
  keccak256 _ := [0xa9, 0x05, 0x9c, 0xbb]

def mainnetRpc : RpcClient where
  chainId := "eip155:1"
  transactionCount _ := .ok 0
  estimateGas _ := .ok 60000
  gasPrice := .ok 20000000000
  sendRawTransaction _ := .error .timeout
  waitForReceipt _ := .error .notFound

def payee : String := "0x1111111111111111111111111111111111111111"

def payer : String := "0x2222222222222222222222222222222222222222"

def refusingSigner : Signer := fun _ _ => .error (.execution "locked")

def nativePayment : Intent := ⟨"1", .pay "1000" payee none, "eip155:1", "session", 100⟩

def tokenPayment : Intent :=
  ⟨"2", .pay "1000" payee (some "0x3333333333333333333333333333333333333333"), "eip155:1", "session", 100⟩

def nativeBytes : Bytes :=
  [0x02, 0xea, 0x01, 0x80, 0x84, 0x3b, 0x9a, 0xca, 0x00, 0x85, 0x09, 0x50, 0x2f, 0x90, 0x00, 0x82, 0xea, 0x60,
    0x94] ++ List.replicate 20 0x11 ++ [0x82, 0x03, 0xe8, 0x80, 0xc0]

theorem nativePayment_pays_canonically :
    nativePayment.kind = .pay "1000" payee none ∧
      nativeBytes ∈ handed mainnetEnv nativePayment mainnetRpc payer refusingSigner 50 ∧
      Addressable nativeBytes ∧ PaysCanonically mainnetEnv nativePayment nativeBytes := by
  have hmem : nativeBytes ∈ handed mainnetEnv nativePayment mainnetRpc payer refusingSigner 50 := by
    decide +kernel
  have ha : Addressable nativeBytes := by
    unfold Addressable
    decide +kernel
  have hpayable : Payable mainnetRpc "1000" payee none :=
    ⟨rfl, by decide +kernel, ⟨⟨List.replicate 20 0x11, rfl⟩, by decide +kernel⟩, 20000000000, rfl, by decide⟩
  exact ⟨rfl, hmem, ha, (pays_canonically_iff rfl hmem ha).mpr hpayable⟩

/-- The same fees; the value of the token call is the byte `0x00` and not the empty string. -/
def tokenBytes : Bytes :=
  [0x02, 0xf8, 0x6d, 0x01, 0x80, 0x84, 0x3b, 0x9a, 0xca, 0x00, 0x85, 0x09, 0x50, 0x2f, 0x90, 0x00, 0x82, 0xea,
    0x60, 0x94] ++ List.replicate 20 0x33 ++ [0x00, 0xb8, 0x44, 0xa9, 0x05, 0x9c, 0xbb] ++ List.replicate 12 0 ++
    List.replicate 20 0x11 ++ List.replicate 30 0 ++ [0x03, 0xe8, 0xc0]

theorem tokenPayment_not_canonical :
    tokenBytes ∈ handed mainnetEnv tokenPayment mainnetRpc payer refusingSigner 50 ∧
      ¬ PaysCanonically mainnetEnv tokenPayment tokenBytes := by
  have hmem : tokenBytes ∈ handed mainnetEnv tokenPayment mainnetRpc payer refusingSigner 50 := by
    decide +kernel
  refine ⟨hmem, ?_⟩
  intro hpays
  have ha : Addressable tokenBytes := by
    unfold Addressable
    decide +kernel
  have hpayable := payable_of_paysCanonically rfl (mem_handed.mp hmem).2 ha hpays
  cases hpayable.native

end OneCipher.Intents
