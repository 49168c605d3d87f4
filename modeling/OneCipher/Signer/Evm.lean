import OneCipher.Core.Chain
import OneCipher.Signer.Rlp

/-!
# OneCipher.Signer.Evm — the EVM signer

`oc-signer/src/chains/evm.rs` and the signer trait.  ECDSA over secp256k1 and Keccak-256 are fields of `EvmCrypto`;
signing is deterministic in the key and the digest.  `signerForChain` selects the signer of a chain family; the
signers of the other families are a parameter.
-/

namespace OneCipher.Signer

open Core

/-! ## Keys and signatures -/

structure SignOutput where
  signature : Bytes
  recoveryId : Option UInt8
  publicKey : Option Bytes
  deriving DecidableEq, Repr

/-- A recoverable ECDSA signature. -/
structure EcdsaSignature where
  r : Bytes
  s : Bytes
  recoveryId : UInt8
  length_r : r.length = 32
  length_s : s.length = 32

structure EvmCrypto where
  keccak256 : Bytes → Bytes
  length_keccak256 : ∀ b, (keccak256 b).length = 32
  validKey : Bytes → Bool
  publicKey : Bytes → Bytes
  signPrehash : Bytes → Bytes → EcdsaSignature

variable (c : EvmCrypto)

namespace EvmSigner

def signingKey (privateKey : Bytes) : Signed Unit :=
  if c.validKey privateKey then .ok () else .error (.err (.input "key parsing failed"))

def sign (privateKey message : Bytes) : Signed SignOutput :=
  if message.length ≠ 32 then
    .error (.err (.input ("expected 32-byte prehash, got " ++ toString message.length ++ " bytes")))
  else do
    signingKey c privateKey
    let sig := c.signPrehash privateKey message
    return ⟨sig.r ++ sig.s ++ [sig.recoveryId], some sig.recoveryId, none⟩

def signTransaction (privateKey txBytes : Bytes) : Signed SignOutput := sign c privateKey (c.keccak256 txBytes)

def extractSignableBytes (txBytes : Bytes) : Signed Bytes := .ok txBytes

def encodeSignedTransaction (txBytes signature : Bytes) : Signed Bytes :=
  if signature.length ≠ 65 then invalidTx "expected 65-byte signature (r || s || v)"
  else
    let v := signature.getD 64 0
    let r := signature.take 32
    let s := (signature.drop 32).take 32
    if txBytes.head? = some 0x01 ∨ txBytes.head? = some 0x02 then encodeSignedTypedTx txBytes v r s
    else encodeSignedLegacyTx txBytes v r s

/-! ### Addresses -/

def eip55Checksum (addressHex : String) : String :=
  let lower := Text.toAsciiLowercase addressHex
  let hashHex := Text.hexEncode (c.keccak256 (Text.utf8 lower))
  "0x" ++ String.ofList ((lower.toList.zip hashHex.toList).map fun (ch, h) =>
    if ch.isDigit then ch
    else if 8 ≤ (Text.toDigit 16 h).getD 0 then ch.toUpper else ch)

def deriveAddress (privateKey : Bytes) : Signed String := do
  signingKey c privateKey
  let hash := c.keccak256 ((c.publicKey privateKey).drop 1)
  return eip55Checksum c (Text.hexEncode (hash.drop 12))

/-! ### EIP-7702 authorizations -/

/-- One digit of the big-endian conversion: multiply by ten and add.  The carry out is below ten, so
at most one byte is put in front. -/
def mulTenAdd (bytes : Bytes) (digit : Nat) : Bytes :=
  let (out, carry) := bytes.foldr
    (fun byte (out, carry) =>
      let acc := byte.toNat * 10 + carry
      (UInt8.ofNat (acc % 256) :: out, acc / 256))
    ([], digit)
  if carry > 0 then UInt8.ofNat (carry % 256) :: out else out

def parseDecimalBytes (value field : String) : Signed Bytes :=
  if !value.toList.all Char.isDigit then
    .error (.err (.input (field ++ " must be decimal digits or 0x-prefixed hex")))
  else
    let digits := value.toList.dropWhile (· == '0')
    .ok (digits.foldl (fun bytes ch => mulTenAdd bytes (ch.toNat - '0'.toNat)) [])

/-- The bytes behind a `0x` prefix, with an odd number of digits padded. -/
def parseHexQuantity (hexValue field : String) : Signed Bytes :=
  if hexValue = "" then .ok []
  else
    let normalized := if (Text.utf8 hexValue).length % 2 = 0 then hexValue else "0" ++ hexValue
    match Text.hexDecode normalized with
    | .ok decoded => .ok (Bytes.stripZeros decoded)
    | .error e => .error (.err (.input ("invalid " ++ field ++ " hex value: " ++ e.message)))

/-- A quantity as minimal big-endian bytes, at most `maxLen` of them. -/
def parseQuantityBytes (value field : String) (maxLen : Nat) : Signed Bytes :=
  let trimmed := Text.trim value
  let tooLong : Signed Bytes := .error (.err (.input (field ++ " exceeds " ++ toString maxLen ++ " bytes")))
  if trimmed = "" then .error (.err (.input (field ++ " cannot be empty")))
  else do
    let bytes ← match (Text.stripPrefix "0x" trimmed).orElse fun _ => Text.stripPrefix "0X" trimmed with
      | some hexValue => parseHexQuantity hexValue field
      | none =>
        if (Text.utf8 trimmed).length > maxLen * 3 + 1 then tooLong else parseDecimalBytes trimmed field
    if bytes.length > maxLen then tooLong else .ok bytes

def parseAddressBytes (address : String) : Signed Bytes :=
  let digits := ((Text.stripPrefix "0x" address).orElse fun _ => Text.stripPrefix "0X" address).getD address
  match Text.hexDecode digits with
  | .ok decoded =>
    if decoded.length = 20 then .ok decoded
    else .error (.err (.input "authorization address must be exactly 20 bytes"))
  | .error e => .error (.err (.input ("invalid authorization address: " ++ e.message)))

/-- `0x05 || rlp([chain_id, address, nonce])`. -/
def authorizationPayload (chainId address nonce : String) : Signed Bytes := do
  let chainId ← parseQuantityBytes chainId "chain_id" 32
  let address ← parseAddressBytes address
  let nonce ← parseQuantityBytes nonce "nonce" 8
  return 0x05 :: encodeList (encodeBytes chainId ++ encodeBytes address ++ encodeBytes nonce)

def authorizationHash (chainId address nonce : String) : Signed Bytes := do
  return c.keccak256 (← authorizationPayload chainId address nonce)

end EvmSigner

/-! ## Signers of chain families -/

/-- The part of the signer trait that signing transactions and hashes uses. -/
structure ChainSigner where
  isSecp256k1 : Bool
  extractSignableBytes : Bytes → Signed Bytes
  sign : Bytes → Bytes → Signed SignOutput
  signTransaction : Bytes → Bytes → Signed SignOutput
  encodeSignedTransaction : Bytes → Bytes → Signed Bytes

def evmSigner : ChainSigner where
  isSecp256k1 := true
  extractSignableBytes := EvmSigner.extractSignableBytes
  sign := EvmSigner.sign c
  signTransaction := EvmSigner.signTransaction c
  encodeSignedTransaction := EvmSigner.encodeSignedTransaction

def signerForChain (others : ChainType → ChainSigner) (chainType : ChainType) : ChainSigner :=
  if chainType = .evm then evmSigner c else others chainType

/-! ## Facts -/

namespace EvmSigner

variable {c}

def sigV (signature : Bytes) : UInt8 := signature.getD 64 0

def sigR (signature : Bytes) : Bytes := signature.take 32

def sigS (signature : Bytes) : Bytes := (signature.drop 32).take 32

/-- What a typed transaction becomes. -/
def TypedForm (raw signature out : Bytes) : Prop :=
  ∃ typeByte body h, raw = typeByte :: body ∧ (typeByte = 0x01 ∨ typeByte = 0x02) ∧
    Rlp.parseHeader body = some h ∧ h.total ≤ body.length ∧
    out = typeByte :: Rlp.encodeList
      (h.slice body ++ signatureItems (sigV signature) (sigR signature) (sigS signature))

/-- What a legacy transaction becomes. -/
def LegacyForm (raw signature out : Bytes) : Prop :=
  sigV signature ≤ 1 ∧ ∃ h items v, Rlp.parseHeader raw = some h ∧ h.isList = true ∧ h.total ≤ raw.length ∧
    (∀ item ∈ items, Rlp.Whole item) ∧ h.slice raw = items.flatten ∧ LegacyV items (sigV signature) v ∧
    out = Rlp.encodeList ((items.take 6).flatten ++ encodeU64 v ++
      encodeMinimalInt (sigR signature) ++ encodeMinimalInt (sigS signature))

/-- **The signed bytes.**  Typed and legacy transactions are told apart by their first byte. -/
theorem encodeSignedTransaction_eq_ok {raw signature out : Bytes} (ha : Addressable raw) :
    encodeSignedTransaction raw signature = .ok out ↔
      signature.length = 65 ∧ (TypedForm raw signature out ∨ LegacyForm raw signature out) := by
  unfold encodeSignedTransaction
  by_cases hlen : signature.length = 65
  · rw [if_neg (not_not.mpr hlen)]
    simp only [hlen, true_and]
    by_cases ht : raw.head? = some 0x01 ∨ raw.head? = some 0x02
    · rw [if_pos ht, encodeSignedTypedTx_eq_ok ha]
      refine ⟨.inl, ?_⟩
      rintro (h | ⟨-, h, items, v, hp, hl, -⟩)
      · exact h
      · -- a list header does not start with a type byte
        exfalso
        rcases raw with _ | ⟨x, rest⟩
        · cases hp
        have hx : x = 0x01 ∨ x = 0x02 := by simpa using ht
        rcases Rlp.parseHeader_cons hp with ⟨_, rfl⟩ | ⟨hge, _⟩ | ⟨hge, _⟩ | ⟨hge, _⟩ | ⟨hge, _⟩
        · cases hl
        all_goals rcases hx with rfl | rfl <;> revert hge <;> decide
    · rw [if_neg ht, encodeSignedLegacyTx_eq_ok ha]
      refine ⟨.inr, ?_⟩
      rintro (⟨ty, body, h, rfl, hty, -⟩ | h)
      · exact absurd (by simpa using hty) ht
      · exact h
  · rw [if_pos hlen]
    constructor
    · nofun
    · rintro ⟨h, -⟩; exact absurd h hlen

end EvmSigner

end OneCipher.Signer
