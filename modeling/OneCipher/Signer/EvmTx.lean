import OneCipher.Base.Rlp

/-!
# OneCipher.Signer.EvmTx — Ethereum transactions

What the signing code is about, independent of how it reads and writes it: unsigned transactions of
the four kinds the wallet knows, and their canonical encoding (the bytes whose Keccak-256 digest is
signed).  Amounts are 256-bit; a legacy transaction is replay protected when it carries a chain id
(EIP-155).
-/

namespace OneCipher

abbrev U256 := BitVec 256

abbrev Address := { b : Bytes // b.length = 20 }

abbrev Word := { b : Bytes // b.length = 32 }

structure AccessEntry where
  address : Address
  storageKeys : List Word

structure Authorization where
  chainId : U256
  address : Address
  nonce : UInt64
  yParity : Bool
  r : U256
  s : U256

/-- The fields that differ between the kinds. -/
inductive Envelope where
  | legacy (gasPrice : U256) (chainId : Option U256)
  | accessList (chainId gasPrice : U256) (access : List AccessEntry)
  | feeMarket (chainId maxPriorityFee maxFee : U256) (access : List AccessEntry)
  | setCode (chainId maxPriorityFee maxFee : U256) (access : List AccessEntry)
      (authorizations : List Authorization)

/-- An unsigned transaction; a missing recipient creates a contract. -/
structure EvmTx where
  envelope : Envelope
  nonce : UInt64
  gas : UInt64
  recipient : Option Address
  value : U256
  data : Bytes

namespace EvmTx

open Bytes Rlp

/-! ## Encoding -/

def scalar (n : Nat) : Rlp := .bytes (stripZeros (toBe 32 n))

theorem toNat_ofNat_u128 {n : Nat} (h : n < 2 ^ 128) : (BitVec.ofNat 256 n).toNat = n := by
  rw [BitVec.toNat_ofNat, Nat.mod_eq_of_lt (by omega)]

def accessRlp (access : List AccessEntry) : Rlp :=
  .list (access.map fun e => .list [.bytes e.address.1, .list (e.storageKeys.map fun k => .bytes k.1)])

def authorizationRlp (a : Authorization) : Rlp :=
  .list [scalar a.chainId.toNat, .bytes a.address.1, scalar a.nonce.toNat, scalar a.yParity.toNat,
    scalar a.r.toNat, scalar a.s.toNat]

def recipientRlp (recipient : Option Address) : Rlp := .bytes ((recipient.map (·.1)).getD [])

def leading (t : EvmTx) : List Rlp :=
  match t.envelope with
  | .legacy gasPrice _ => [scalar t.nonce.toNat, scalar gasPrice.toNat, scalar t.gas.toNat]
  | .accessList chainId gasPrice _ =>
    [scalar chainId.toNat, scalar t.nonce.toNat, scalar gasPrice.toNat, scalar t.gas.toNat]
  | .feeMarket chainId priority maxFee _ | .setCode chainId priority maxFee _ _ =>
    [scalar chainId.toNat, scalar t.nonce.toNat, scalar priority.toNat, scalar maxFee.toNat, scalar t.gas.toNat]

def trailing (t : EvmTx) : List Rlp :=
  match t.envelope with
  | .legacy _ none => []
  | .legacy _ (some chainId) => [scalar chainId.toNat, scalar 0, scalar 0]
  | .accessList _ _ access | .feeMarket _ _ _ access => [accessRlp access]
  | .setCode _ _ _ access authorizations => [accessRlp access, .list (authorizations.map authorizationRlp)]

def fields (t : EvmTx) : List Rlp :=
  t.leading ++ [recipientRlp t.recipient, scalar t.value.toNat, .bytes t.data] ++ t.trailing

def typeByte (t : EvmTx) : Option UInt8 :=
  match t.envelope with
  | .legacy _ _ => none
  | .accessList _ _ _ => some 0x01
  | .feeMarket _ _ _ _ => some 0x02
  | .setCode _ _ _ _ _ => some 0x04

def body (t : EvmTx) : Bytes := encode (.list t.fields)

def unsigned (t : EvmTx) : Bytes := t.typeByte.toList ++ t.body

def chainId (t : EvmTx) : Option Nat :=
  match t.envelope with
  | .legacy _ chainId => chainId.map (·.toNat)
  | .accessList chainId _ _ | .feeMarket chainId _ _ _ | .setCode chainId _ _ _ _ => some chainId.toNat

/-! ## Facts -/

theorem beNat_scalar {n : Nat} (h : n < 2 ^ 256) : beNat (stripZeros (toBe 32 n)) = n := by
  rw [beNat_stripZeros, beNat_toBe]
  norm_num
  exact h

theorem fields_getElem? (t : EvmTx) :
    t.fields[t.leading.length]? = some (recipientRlp t.recipient) ∧
    t.fields[t.leading.length + 1]? = some (scalar t.value.toNat) ∧
    t.fields[t.leading.length + 2]? = some (.bytes t.data) := by
  unfold fields
  refine ⟨?_, ?_, ?_⟩ <;>
  · simp

end EvmTx

end OneCipher
