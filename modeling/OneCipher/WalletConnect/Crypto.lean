import OneCipher.WalletConnect.Session

/-!
# OneCipher.WalletConnect.Crypto — message envelopes

`oc-walletconnect/src/crypto.rs`.  A message travels in an envelope whose first byte is its type: type 0
is a nonce and a sealed text, type 1 also names the sender's public key, type 2 is not sealed at all.
The cipher (ChaCha20-Poly1305 without associated data) and the key agreement are other crates' and stay
abstract.
-/

namespace OneCipher.WalletConnect

/-- The AEAD: `encrypt key nonce plaintext` and `decrypt key nonce ciphertext`, with the text of an error. -/
structure Aead where
  encrypt : WcSymKey → Bytes → Bytes → Except String Bytes
  decrypt : WcSymKey → Bytes → Bytes → Except String Bytes

/-- An X25519 key pair: the public key, and the shared secret with a peer. -/
structure WcKeyPair where
  publicKey : Bytes
  sharedSecret : Bytes → Bytes

/-! ## Envelopes -/

def envelopeType0 : UInt8 := 0
def envelopeType1 : UInt8 := 1
def envelopeType2 : UInt8 := 2

def ivLength : Nat := 12
def keyLength : Nat := 32

structure Envelope where
  type : UInt8
  senderPublicKey : Option Bytes
  iv : Bytes
  sealed : Bytes
  deriving DecidableEq, Repr

def serializeEnvelope (type : UInt8) (iv : Bytes) (sender : Option Bytes) (sealed : Bytes) : Except WcError Bytes :=
  if type = envelopeType1 then
    match sender with
    | some key => .ok (type :: (key ++ iv ++ sealed))
    | none => .error (.crypto "type-1 envelope requires sender public key")
  else if type = envelopeType2 then .ok (type :: sealed)
  else .ok (type :: (iv ++ sealed))

def deserializeEnvelope : Bytes → Except WcError Envelope
  | [] => .error (.crypto "envelope is empty")
  | type :: rest =>
    if type = envelopeType0 then
      if rest.length < ivLength then .error (.crypto "type-0 envelope too short")
      else .ok ⟨type, none, rest.take ivLength, rest.drop ivLength⟩
    else if type = envelopeType1 then
      if rest.length < keyLength + ivLength then .error (.crypto "type-1 envelope too short")
      else .ok ⟨type, some (rest.take keyLength), (rest.drop keyLength).take ivLength, rest.drop (keyLength + ivLength)⟩
    else if type = envelopeType2 then .ok ⟨type, none, List.replicate ivLength 0, rest⟩
    else .error (.crypto ("unknown envelope type byte: " ++ toString type.toNat))

variable {bytes : Bytes}

theorem head_of_deserializeEnvelope {env : Envelope} (h : deserializeEnvelope bytes = .ok env) :
    bytes.head? = some env.type := by
  rcases bytes with _ | ⟨type, rest⟩
  · cases h
  · simp only [deserializeEnvelope] at h
    split_ifs at h <;> cases h <;> rfl

/-! ## Opening and sealing -/

section Cipher

variable (aead : Aead)

/-- `WcCipher::open`. -/
def decryptText (key : WcSymKey) (env : Envelope) : Except WcError Bytes :=
  (aead.decrypt key env.iv env.sealed).mapError .crypto

def wrongType (expected : Nat) (type : UInt8) : WcError :=
  .crypto ("expected type-" ++ toString expected ++ " envelope, got type-" ++ toString type.toNat)

def openType0 (key : WcSymKey) (envelope : Bytes) : Except WcError Bytes := do
  let env ← deserializeEnvelope envelope
  if env.type ≠ envelopeType0 then .error (wrongType 0 env.type) else decryptText aead key env

def openType1 (key : WcSymKey) (envelope : Bytes) : Except WcError (Bytes × Bytes) := do
  let env ← deserializeEnvelope envelope
  if env.type ≠ envelopeType1 then .error (wrongType 1 env.type)
  else
    match env.senderPublicKey with
    | none => .error (.crypto "type-1 envelope missing sender key")
    | some sender => (decryptText aead key env).map (sender, ·)

def sealType0 (key : WcSymKey) (iv plaintext : Bytes) : Except WcError Bytes := do
  let sealed ← (aead.encrypt key iv plaintext).mapError WcError.crypto
  serializeEnvelope envelopeType0 iv none sealed

/-- The bytes are an envelope that opens under the key. -/
def Opens (key : WcSymKey) (bytes : Bytes) : Prop :=
  (∃ text, openType0 aead key bytes = .ok text) ∨ ∃ sender text, openType1 aead key bytes = .ok (sender, text)

variable {aead}

theorem head_of_opened {α : Type} {type : UInt8} {error : Envelope → WcError} {opened : Envelope → Except WcError α} {r : α}
    (h : (do let env ← deserializeEnvelope bytes; if env.type ≠ type then .error (error env) else opened env) = .ok r) :
    bytes.head? = some type := by
  obtain ⟨env, henv, hopen⟩ := Result.bind_eq_ok.mp h
  obtain ⟨htype, -⟩ := Result.guard_eq_ok.mp hopen
  rw [head_of_deserializeEnvelope henv, not_not.mp htype]

theorem Opens.head {key : WcSymKey} (h : Opens aead key bytes) :
    bytes.head? = some envelopeType0 ∨ bytes.head? = some envelopeType1 := by
  rcases h with ⟨text, h⟩ | ⟨sender, text, h⟩
  · exact .inl (head_of_opened h)
  · exact .inr (head_of_opened h)

end Cipher

end OneCipher.WalletConnect
