import OneCipher.Base.Js
import OneCipher.Base.Prog

/-!
# OneCipher.Extension.EvmTx — a dApp's transaction in the daemon's words

`extension/src/lib/evm-tx.ts`: the members of an EIP-1193 transaction object are renamed and their
quantities rewritten in decimal, the chain is read, and every other member is carried over as it is.
An object is its list of members, a member that is not there is `undefined`, and a throw is an error.

`Normalized` says where a member of the result comes from; `chain_and_type_kept_iff` when the chain and the type
of the result are the ones the dApp set.
-/

namespace OneCipher.Extension

/-! ## Errors and members -/

structure RpcErrorShape where
  code : ℤ
  message : String
  deriving DecidableEq, Repr

def invalidParams (message : String) : RpcErrorShape := ⟨-32602, message⟩

abbrev Members := List (String × Json)

/-- The first of the keys whose value is neither `undefined` nor `null`. -/
def read (obj : Members) (keys : List String) : Option Json :=
  keys.findSome? fun key => (obj.lookup key).filter fun value => !value.isNull

def requireObject (value : Json) (what : String) : Except RpcErrorShape Members :=
  match value with
  | .obj members => .ok members
  | _ => .error (invalidParams (what ++ " must be an object"))

def member (key : String) (value : Option Json) : Members := (value.map (key, ·)).toList

/-! ## Chains and quantities -/

def chainNumeric (trimmed : String) : Option (List Char × ℕ) :=
  match Text.stripPrefix "eip155:" trimmed with
  | some rest => some (rest.toList, 10)
  | none =>
    ((Text.stripPrefix "0x" trimmed).orElse fun _ => Text.stripPrefix "0X" trimmed).map
      fun rest => (rest.toList, 16)

def isNumeric (radix : ℕ) (numeric : List Char) : Bool :=
  if radix = 16 then Js.isHexDigits numeric else Js.isDecimal numeric

def normalizeChainReference (value : String) : Except RpcErrorShape String :=
  let invalid := invalidParams ("invalid chainId '" ++ value ++ "' (expected 0x-hex or eip155:<decimal>)")
  match chainNumeric (Js.trim value) with
  | none => .error invalid
  | some (numeric, radix) =>
    if isNumeric radix numeric then
      .ok ("eip155:" ++ toString (Js.bigInt radix numeric))
    else .error invalid

/-- A quantity as decimal digits; none is `undefined`. -/
def hexQuantityToDecimal : Json → Option String
  | .num number => (Js.safeNat number).map toString
  | .str value =>
    let trimmed := Js.trim value
    if Js.isDecimal trimmed.toList then some trimmed
    else (Js.hexQuantity trimmed).map fun digits => toString (Js.bigInt 16 digits)
  | _ => none

variable (item tx : Members)

def quantity (keys : List String) : Option Json := ((read tx keys).bind hexQuantityToDecimal).map .str

def txChain (fallbackChainId : String) : Except RpcErrorShape String :=
  match read tx ["chainId", "chain_id"] with
  | some (.str rawChain) =>
    if rawChain = "" then normalizeChainReference fallbackChainId else normalizeChainReference rawChain
  | _ => normalizeChainReference fallbackChainId

/-! ## The envelope type -/

def supportedTxTypes : List ℕ := [0x00, 0x02, 0x04]

/-- The number of a hex type; none is `NaN`. -/
def typeByte (rawType : String) : Option ℕ := (Js.hexQuantity rawType).map (Js.bigInt 16)

def readType : Except RpcErrorShape (Option String) :=
  match read tx ["type"] with
  | some (.str rawType) =>
    if rawType = "" then .ok none
    else match (typeByte rawType).filter (· ∈ supportedTxTypes) with
      | some byte => .ok (some ("0x" ++ String.ofList ((Nat.toDigits 16 byte).leftpad 2 '0')))
      | none => .error (invalidParams ("unsupported transaction type '" ++ rawType ++ "'"))
  | _ => .ok none

/-! ## EIP-7702 authorizations -/

/-- `/^0x[0-9a-fA-F]{40}$/`. -/
def isAddress (s : String) : Bool := (Js.hexQuantity s).any (·.length == 40)

def entryAddress : Except RpcErrorShape String :=
  match item.lookup "address" with
  | some (.str address) =>
    if isAddress address then .ok address
    else .error (invalidParams "authorizationList entry needs a 20-byte 'address'")
  | _ => .error (invalidParams "authorizationList entry needs a 20-byte 'address'")

def entryChain : Except RpcErrorShape (Option Json) :=
  match read item ["chainId", "chain_id"] with
  | none => .ok none
  | some value =>
    match hexQuantityToDecimal value with
    | some decimal => .ok (some (.str decimal))
    | none => .error (invalidParams "authorizationList[].chainId is invalid")

def entryNonce : Except RpcErrorShape String :=
  match (item.lookup "nonce").bind hexQuantityToDecimal with
  | some nonce => .ok nonce
  | none => .error (invalidParams "authorizationList entry needs 'nonce'")

def refuseSigned : Except RpcErrorShape Unit :=
  if (item.lookup "yParity").isSome || (item.lookup "r").isSome || (item.lookup "s").isSome then
    .error (invalidParams "authorizationList entries must not carry a pre-signed tuple")
  else .ok ()

def mapEntry (entry : Json) : Except RpcErrorShape (String × Json) := do
  let item ← requireObject entry "authorizationList entry"
  let address ← entryAddress item
  let chain ← entryChain item
  let nonce ← entryNonce item
  refuseSigned item
  return (Text.toAsciiLowercase address,
    .obj ([("address", .str address)] ++ member "chain_id" chain ++ [("nonce", .str nonce)]))

/-- What an authorization list adds. -/
structure Authorizations where
  members : Members
  type : Option String
  delegations : List String

def readAuthorizations (type : Option String) : Except RpcErrorShape Authorizations :=
  match read tx ["authorizationList", "authorization_list"] with
  | some (.arr entries) =>
    if type.any fun t => !Text.startsWith "0x4" t then
      .error (invalidParams "authorizationList requires transaction type '0x4'")
    else do
      let mapped ← entries.mapM mapEntry
      if mapped.isEmpty then .error (invalidParams "authorizationList must not be empty")
      else return {
        members := [("authorization_list", .arr (mapped.map (·.2)))] ++
          -- a type that is there already keeps its place
          (if type.isSome then [] else [("type", .str "0x04")])
        type := some (type.getD "0x04")
        delegations := mapped.map (·.1) }
  | _ =>
    if type = some "0x04" then
      .error (invalidParams "EIP-7702 transactions require an 'authorizationList'")
    else .ok ⟨[], type, []⟩

/-! ## The transaction -/

structure NormalizedTx where
  transaction : Members
  chainId : String
  type : Option String
  delegations : List String

def recipientMember : Option Json :=
  match read tx ["to"] with
  | some (.str recipient) => if recipient = "" then none else some (.str recipient)
  | _ => none

def dataMember : Option Json :=
  match read tx ["data", "input"] with
  | some (.str data) => some (.str data)
  | _ => none

def namedMembers : Members :=
  member "from" (tx.lookup "from") ++ member "to" (recipientMember tx) ++
    member "value" (quantity tx ["value"]) ++ member "data" (dataMember tx) ++
    member "nonce" (quantity tx ["nonce"]) ++
    member "gas_limit" (quantity tx ["gas", "gasLimit", "gas_limit"]) ++
    member "gas_price" (quantity tx ["gasPrice", "gas_price"]) ++
    member "max_fee_per_gas" (quantity tx ["maxFeePerGas", "max_fee_per_gas"]) ++
    member "max_priority_fee_per_gas" (quantity tx ["maxPriorityFeePerGas", "max_priority_fee_per_gas"])

/-- The names every object has from its prototype: `key in transaction` is true of them. -/
def inheritedNames : List String :=
  ["__proto__", "constructor", "__defineGetter__", "__defineSetter__", "hasOwnProperty", "__lookupGetter__",
    "__lookupSetter__", "isPrototypeOf", "propertyIsEnumerable", "toString", "valueOf", "toLocaleString"]

def carriedMembers (named tx : Members) : Members :=
  tx.filter fun m => !(named.lookup m.1).isSome && !inheritedNames.contains m.1

def normalizeEvmTx (fallbackChainId : String) : Except RpcErrorShape NormalizedTx := do
  let chainId ← txChain tx fallbackChainId
  let type ← readType tx
  let authorizations ← readAuthorizations tx type
  let named := namedMembers tx ++ member "type" (type.map .str) ++ authorizations.members
  return ⟨named ++ carriedMembers named tx, chainId, authorizations.type, authorizations.delegations⟩

/-! ## What comes out -/

/-- The chain a `chainId` denotes. -/
def chainOf : Json → Option ℕ
  | .str value => (chainNumeric (Js.trim value)).bind fun (numeric, radix) =>
    if isNumeric radix numeric then some (Js.bigInt radix numeric) else none
  | value => value.asU64

def Denotes (raw : Json) (s : String) : Prop := ∃ n, chainOf raw = some n ∧ s = "eip155:" ++ toString n

theorem normalizeChainReference_ok {value s : String} (h : normalizeChainReference value = .ok s) :
    Denotes (.str value) s := by
  unfold normalizeChainReference at h
  split at h
  · cases h
  next numeric radix hread =>
    split at h
    next hnumeric =>
      cases h
      exact ⟨_, by rw [chainOf, hread]; exact if_pos hnumeric, rfl⟩
    · cases h

theorem txChain_ok {tx : Members} {fallback s : String} (h : txChain tx fallback = .ok s) :
    ∃ n : ℕ, s = "eip155:" ++ toString n := by
  unfold txChain at h
  split at h
  · split at h
    · exact (normalizeChainReference_ok h).imp fun _ h => h.2
    · exact (normalizeChainReference_ok h).imp fun _ h => h.2
  · exact (normalizeChainReference_ok h).imp fun _ h => h.2

theorem lookup_member (k key : String) (value : Option Json) :
    (member key value).lookup k = if k = key then value else none := by
  cases value with
  | none => rw [ite_self]; rfl
  | some =>
    rw [member, Option.map_some, Option.toList_some, List.lookup_cons, List.lookup_nil]
    by_cases hk : k = key
    · rw [beq_iff_eq.mpr hk, if_pos hk]
    · rw [beq_eq_false_iff_ne.mpr hk, if_neg hk]

theorem lookup_carried {k : String} (hk : inheritedNames.contains k = false) (named tx : Members) :
    (named ++ carriedMembers named tx).lookup k = (named.lookup k).or (tx.lookup k) := by
  rw [List.lookup_append]
  rcases hnamed : named.lookup k with _ | v
  · exact Json.lookup_filter_key (p := fun key => !(named.lookup key).isSome && !inheritedNames.contains key)
      (by rw [hnamed, hk]; rfl) tx
  · rfl

/-- The parts a transaction is put together from. -/
structure Normalized (tx : Members) (fallbackChainId : String) (n : NormalizedTx) (type : Option String)
    (auth : Authorizations) : Prop where
  chain : txChain tx fallbackChainId = .ok n.chainId
  typed : readType tx = .ok type
  authorizations : readAuthorizations tx type = .ok auth
  lookup : ∀ {k : String}, inheritedNames.contains k = false → n.transaction.lookup k =
    ((namedMembers tx ++ member "type" (type.map .str) ++ auth.members).lookup k).or (tx.lookup k)

theorem normalizeEvmTx_ok {tx : Members} {fallback : String} {n : NormalizedTx}
    (h : normalizeEvmTx tx fallback = .ok n) : ∃ type auth, Normalized tx fallback n type auth := by
  obtain ⟨chainId, hchain, h⟩ := Result.bind_eq_ok.mp h
  obtain ⟨type, htype, h⟩ := Result.bind_eq_ok.mp h
  obtain ⟨auth, hauth, h⟩ := Result.bind_eq_ok.mp h
  cases h
  exact ⟨type, auth, hchain, htype, hauth, fun hk => lookup_carried hk _ _⟩

/-! ## Chain and type as the dApp set them -/

section Kept

variable (tx : Members) (fallback : String)

def givenChain : Option Json := (tx.lookup "chainId").filter (!·.isNull)

/-- The type or the authorizations are turned away. -/
def Refused : Prop := ∀ type auth, readType tx = .ok type → readAuthorizations tx type ≠ .ok auth

/-- A `chainId` that is there is the chain of the result. -/
def ChainKept : Prop := ∀ raw n, givenChain tx = some raw → normalizeEvmTx tx fallback = .ok n → Denotes raw n.chainId

/-- The `chainId` is a text that is not empty, or nothing is accepted, or the fallback is the chain it denotes. -/
def ChainNamed : Prop :=
  ∀ raw, givenChain tx = some raw → (∃ s ≠ "", raw = .str s) ∨ Refused tx ∨
    ∀ s, normalizeChainReference fallback = .ok s → Denotes raw s

def untyped : Members := tx.filter (·.1 != "type")

def withType (spelled : String) : Members := ("type", .str spelled) :: untyped tx

def Authorizes : Prop := ∃ entries, read tx ["authorizationList", "authorization_list"] = some (.arr entries)

/-- With authorizations, what is accepted without a type is accepted, and is the same, with type 4. -/
def TypeKept : Prop :=
  ∀ n spelled, Authorizes tx → normalizeEvmTx (untyped tx) fallback = .ok n → typeByte spelled = some 4 →
    ∃ n', normalizeEvmTx (withType tx spelled) fallback = .ok n' ∧ n'.chainId = n.chainId ∧
      n'.delegations = n.delegations ∧ ∀ k, n'.transaction.lookup k = n.transaction.lookup k

variable {tx fallback} {raw : Json}

theorem normalizeEvmTx_chain {s : String} : (∃ n, normalizeEvmTx tx fallback = .ok n ∧ n.chainId = s) ↔
    txChain tx fallback = .ok s ∧ ¬ Refused tx := by
  constructor
  · rintro ⟨n, hn, rfl⟩
    obtain ⟨type, auth, h⟩ := normalizeEvmTx_ok hn
    exact ⟨h.chain, fun hno => hno type auth h.typed h.authorizations⟩
  · rintro ⟨hchain, hacc⟩
    simp only [Refused, not_forall, not_not] at hacc
    obtain ⟨type, auth, htype, hauth⟩ := hacc
    exact ⟨_, Result.bind_ok hchain (Result.bind_ok htype (Result.bind_ok hauth rfl)), rfl⟩

theorem txChain_of_given (hraw : givenChain tx = some raw) :
    (∃ s ≠ "", raw = .str s ∧ txChain tx fallback = normalizeChainReference s) ∨
      (¬ ∃ s ≠ "", raw = .str s) ∧ txChain tx fallback = normalizeChainReference fallback := by
  rw [givenChain] at hraw
  rw [txChain, read, List.findSome?_cons, hraw]
  cases raw with
  | str s =>
    by_cases hs : s = ""
    · exact .inr ⟨fun ⟨_, hne, h⟩ => hne (Json.str.inj h ▸ hs), if_pos hs⟩
    · exact .inl ⟨s, hs, rfl, if_neg hs⟩
  | _ => exact .inr ⟨fun ⟨_, _, h⟩ => (nomatch h), rfl⟩

theorem chainKept_iff : ChainKept tx fallback ↔ ChainNamed tx fallback := by
  constructor
  · intro h raw hraw
    rcases txChain_of_given hraw with ⟨s, hs, hstr, -⟩ | ⟨-, hchain⟩
    · exact .inl ⟨s, hs, hstr⟩
    · refine .inr (or_iff_not_imp_left.mpr fun hacc s hs => ?_)
      obtain ⟨n, hn, rfl⟩ := normalizeEvmTx_chain.mpr ⟨hchain.trans hs, hacc⟩
      exact h raw n hraw hn
  · intro h raw n hraw hn
    obtain ⟨hchain, hacc⟩ := normalizeEvmTx_chain.mp ⟨n, hn, rfl⟩
    rcases txChain_of_given hraw with ⟨s, -, rfl, heq⟩ | ⟨hstr, heq⟩
    · exact normalizeChainReference_ok (heq.symm.trans hchain)
    · rcases h raw hraw with hs | hno | hsame
      · exact absurd hs hstr
      · exact absurd hno hacc
      · exact hsame _ (heq.symm.trans hchain)

theorem lookup_withType {k : String} (hk : k ≠ "type") (spelled : String) :
    (withType tx spelled).lookup k = tx.lookup k := by
  rw [withType, List.lookup_cons, beq_eq_false_iff_ne.mpr hk]
  exact Json.lookup_filter_key (p := (· != "type")) (bne_iff_ne.mpr hk) tx

/-- The type is then `0x04`, and the list asks for one that starts with `0x4`. -/
theorem refused_withType {spelled : String} (hlist : Authorizes tx) (hfour : typeByte spelled = some 4) :
    Refused (withType tx spelled) := by
  obtain ⟨entries, hentries⟩ := hlist
  intro type auth htype hauth
  obtain rfl : type = some "0x04" := by
    have hread : read (withType tx spelled) ["type"] = some (.str spelled) := rfl
    have hne : spelled ≠ "" := by
      rintro rfl
      cases hfour
    rw [readType, hread] at htype
    dsimp only at htype
    rw [if_neg hne, hfour] at htype
    exact (Except.ok.inj htype).symm
  have hread : read (withType tx spelled) ["authorizationList", "authorization_list"] = some (.arr entries) := by
    simp only [← hentries, read, List.findSome?_cons, lookup_withType (k := "authorizationList") (by decide),
      lookup_withType (k := "authorization_list") (by decide), List.findSome?_nil]
  rw [readAuthorizations, hread] at hauth
  cases hauth

end Kept

/-- **A `chainId` and the type 4 are taken as given exactly when** the `chainId`, if there is one, is named, and
there are no authorizations in an object that is accepted without a type. -/
theorem chain_and_type_kept_iff (tx : Members) (fallback : String) :
    ChainKept tx fallback ∧ TypeKept tx fallback ↔
      ChainNamed tx fallback ∧ ¬ (Authorizes tx ∧ ∃ n, normalizeEvmTx (untyped tx) fallback = .ok n) := by
  rw [chainKept_iff]
  refine and_congr_right fun _ => ⟨?_, ?_⟩
  · rintro h ⟨hlist, n, hn⟩
    have hfour : typeByte "0x4" = some 4 := by decide +kernel
    obtain ⟨n', hn', -⟩ := h n "0x4" hlist hn hfour
    exact (normalizeEvmTx_chain.mp ⟨n', hn', rfl⟩).2 (refused_withType hlist hfour)
  · intro h n spelled hlist hn
    exact absurd ⟨hlist, n, hn⟩ h

/-- One authorization for any chain. -/
def delegating : Members :=
  [("authorizationList", .arr [.obj [("address", .str "0x00000000000000000000000000000000000000aa"),
    ("nonce", .str "0x0")]])]

theorem number_and_type_not_kept :
    (normalizeEvmTx [("chainId", .num (.posInt 8453))] "eip155:1").map (·.chainId) = .ok "eip155:1" ∧
    (normalizeEvmTx delegating "eip155:1").map (·.type) = .ok (some "0x04") ∧
    (normalizeEvmTx (withType delegating "0x4") "eip155:1").map (·.type) =
      .error (invalidParams "authorizationList requires transaction type '0x4'") := by
  decide +kernel

end OneCipher.Extension
