import Mathlib.Data.List.Sort
import OneCipher.Base.Json
import OneCipher.Signer.Evm

/-!
# OneCipher.Signer.Eip712 — typed structured data

`oc-signer/src/eip712.rs`: the reader of typed-data documents and the hasher.  The hasher recurses on
the document, so its depth is the fuel.  Keccak-256 is a parameter.

An integer field accepts a JSON number, a decimal string or a hex string; `encodeAtomic_denotesInt` says which
integer the 32-byte word then holds.  Nothing compares it with the range of the type.
-/

namespace OneCipher.Signer

open Bytes Outcome Text
open Outcome (okOr)
open Text (stripPrefix parseUnsigned startsWith)

/-! ## Documents -/

/-- A field of a struct type. -/
structure Field where
  name : String
  typeName : String
  deriving DecidableEq, Repr

abbrev Types := List (String × List Field)

structure TypedData where
  types : Types
  primaryType : String
  domain : Json
  message : Json

abbrev badInput {α : Type} (m : String) : Signed α := .error (.err (.input m))

def readField (f : Json) : Signed Field := do
  let name ← okOr (.input "field missing 'name'") (f.getStr "name")
  let typeName ← okOr (.input "field missing 'type'") (f.getStr "type")
  return ⟨name, typeName⟩

def readType (member : String × Json) : Signed (String × List Field) := do
  let fields ← okOr (.input ("type '" ++ member.1 ++ "' must be an array")) member.2.asArray
  return (member.1, ← fields.mapM readField)

def readTypedData (v : Json) : Signed TypedData := do
  let typesVal ← okOr (.input "missing 'types' field") (v.get "types")
  let primaryType ← okOr (.input "missing 'primaryType' field") (v.getStr "primaryType")
  let domain ← okOr (.input "missing 'domain' field") (v.get "domain")
  let message ← okOr (.input "missing 'message' field") (v.get "message")
  let typesObj ← okOr (.input "'types' must be an object") typesVal.asObject
  let types ← typesObj.mapM readType
  return ⟨types, primaryType, domain, message⟩

/-- Parse a document; `parseJson` is `serde_json`. -/
def parseTypedData (parseJson : String → Except String Json) (json : String) : Signed TypedData :=
  match parseJson json with
  | .error e => badInput e
  | .ok v => readTypedData v

/-! ## Type encoding -/

def baseType (t : String) : String := String.ofList (t.toList.takeWhile (· ≠ '['))

def collectDeps (types : Types) : Nat → String → List String → List String
  | 0, _, out => out
  | fuel + 1, typeName, out =>
    match types.lookup typeName with
    | none => out
    | some fields => fields.foldl (fun out f =>
        let base := baseType f.typeName
        if (types.lookup base).isSome && !out.contains base then collectDeps types fuel base (base :: out)
        else out) out

def formatStruct (name : String) (fields : List Field) : String :=
  name ++ "(" ++ String.intercalate "," (fields.map fun f => f.typeName ++ " " ++ f.name) ++ ")"

def encodeType (types : Types) (typeName : String) : Signed String := do
  let fields ← okOr (.input ("unknown type: " ++ typeName)) (types.lookup typeName)
  let referenced := (collectDeps types (types.length + 1) typeName []).filter (· ≠ typeName)
  let deps := (referenced.insertionSort (· ≤ ·)).filterMap fun dep =>
    (types.lookup dep).map (formatStruct dep)
  return formatStruct typeName fields ++ String.join deps

/-! ## Values -/

def parseUintValue (value : Json) : Signed Bytes :=
  match value.asU64 with
  | some n => .ok (toBe 8 n)
  | none =>
    match value.asStr with
    | some s =>
      match stripPrefix "0x" s with
      | some hex =>
        match Text.hexDecode hex with
        | .ok b => .ok b
        | .error e => badInput ("bad uint hex: " ++ e.message)
      | none =>
        match parseUnsigned 10 (2 ^ 128) s with
        | some n => .ok (toBe 16 n)
        | none => badInput ("uint decimal value '" ++ s ++
            "' exceeds u128 range; use hex encoding (0x...) for values > 2^128")
    | none => badInput "uint value must be a number or string"

def negateTwosComplement (word : Bytes) : Bytes := toBe 32 (2 ^ 256 - beNat word)

/-- Where `str::parse::<u128>` stops: at the first character that is no digit, or that does not fit. -/
def parseIntErrorLoop : List Char → Nat → String
  | [], _ => ""
  | ch :: cs, acc =>
    match Text.toDigit 10 ch with
    | none => "invalid digit found in string"
    | some d =>
      if 2 ^ 128 ≤ acc * 10 + d then "number too large to fit in target type"
      else parseIntErrorLoop cs (acc * 10 + d)

/-- The error text of `str::parse::<u128>`. -/
def parseIntError (s : String) : String :=
  match s.toList with
  | [] => "cannot parse integer from empty string"
  | ['+'] => "invalid digit found in string"
  | '+' :: cs => parseIntErrorLoop cs 0
  | cs => parseIntErrorLoop cs 0

def parseDecimalWord (s : String) : Signed Bytes :=
  match parseUnsigned 10 (2 ^ 128) s with
  | some n => .ok (List.replicate 16 0 ++ toBe 16 n)
  | none => badInput ("bad int decimal: " ++ parseIntError s)

def parseIntValue (value : Json) : Signed Bytes :=
  match value.asI64 with
  | some n => .ok (toBe 32 (if n < 0 then 2 ^ 256 - n.natAbs else n.natAbs))
  | none =>
    match value.asStr with
    | some s =>
      match stripPrefix "0x" s with
      | some hex =>
        match Text.hexDecode hex with
        | .ok b => if 32 < b.length then .error .panic else .ok (List.replicate (32 - b.length) 0 ++ b)
        | .error e => badInput ("bad int hex: " ++ e.message)
      | none =>
        match stripPrefix "-" s with
        | some neg => (parseDecimalWord neg).map negateTwosComplement
        | none => parseDecimalWord s
    | none => badInput "int value must be a number or string"

def lowWord (b : Bytes) : Bytes :=
  let len := min b.length 32
  List.replicate (32 - len) 0 ++ b.drop (b.length - len)

def hexField (value : Json) (notString badHex : String) : Signed Bytes := do
  let s ← okOr (.input notString) value.asStr
  match Text.hexDecode (Text.stripHex s) with
  | .ok b => .ok b
  | .error e => badInput (badHex ++ e.message)

/-- The number behind a type name's first `n` characters. -/
def typeWidth (t : String) (n : Nat) : Option Nat := parseUnsigned 10 (2 ^ 64) (String.ofList (t.toList.drop n))

def integerWidth (t what : String) (n : Nat) : Signed Unit :=
  match typeWidth t n with
  | none => badInput ("invalid type: " ++ t)
  | some bits =>
    if bits = 0 ∨ bits > 256 ∨ bits % 8 ≠ 0 then
      badInput ("invalid " ++ what ++ " width: " ++ toString bits)
    else .ok ()

def encodeBytesN (t : String) (value : Json) : Signed Bytes :=
  match typeWidth t 5 with
  | none => badInput ("invalid type: " ++ t)
  | some n =>
    if n < 1 ∨ 32 < n then badInput ("bytesN: N must be 1..32, got " ++ toString n)
    else do
      let bytes ← hexField value (t ++ " must be a hex string") ("bad " ++ t ++ " hex: ")
      if bytes.length ≠ n then
        badInput (t ++ " must be " ++ toString n ++ " bytes, got " ++ toString bytes.length)
      else return bytes ++ List.replicate (32 - n) 0

section Hash

variable (keccak : Bytes → Bytes)

def encodeAddress (value : Json) : Signed Bytes := do
  let bytes ← hexField value "address must be a string" "bad address hex: "
  if bytes.length ≠ 20 then badInput ("address must be 20 bytes, got " ++ toString bytes.length)
  else return List.replicate 12 0 ++ bytes

def encodeAtomic (typeName : String) (value : Json) : Signed Bytes :=
  if typeName = "address" then encodeAddress value
  else if typeName = "bool" then do
    let b ← okOr (.input "bool field must be a boolean") value.asBool
    return List.replicate 31 0 ++ [if b then 1 else 0]
  else if typeName = "string" then do
    let s ← okOr (.input "string must be a string") value.asStr
    return keccak (Text.utf8 s)
  else if typeName = "bytes" then do
    return keccak (← hexField value "bytes must be a hex string" "bad bytes hex: ")
  else if startsWith "bytes" typeName then encodeBytesN typeName value
  else if startsWith "uint" typeName then do
    integerWidth typeName "uint" 4
    return lowWord (← parseUintValue value)
  else if startsWith "int" typeName then do
    integerWidth typeName "int" 3
    parseIntValue value
  else badInput ("unsupported EIP-712 type: " ++ typeName)

/-- `hash_struct`, over the encoder of the fields' values. -/
def hashStructWith (types : Types) (encode : String → Json → Signed Bytes) (typeName : String) (data : Json) :
    Signed Bytes := do
  let encodedType ← encodeType types typeName
  let fields ← okOr (.input ("unknown type: " ++ typeName)) (types.lookup typeName)
  let obj ← okOr (.input ("expected object for " ++ typeName)) data.asObject
  let words ← fields.mapM fun f => encode f.typeName ((obj.lookup f.name).getD .null)
  return keccak (keccak (Text.utf8 encodedType) ++ words.flatten)

def encodeValue (types : Types) : Nat → String → Json → Signed Bytes
  | 0, _, _ => .error .hang
  | fuel + 1, typeName, value =>
    if typeName.toList.getLast? = some ']' then do
      let arr ← okOr (.input ("expected array for " ++ typeName)) value.asArray
      let words ← arr.mapM (encodeValue types fuel (baseType typeName))
      return keccak words.flatten
    else if (types.lookup typeName).isSome then hashStructWith keccak types (encodeValue types fuel) typeName value
    else encodeAtomic keccak typeName value

def hashStruct (types : Types) (typeName : String) (data : Json) : Signed Bytes :=
  hashStructWith keccak types (encodeValue keccak types (data.depth + 1)) typeName data

/-- `keccak256("\x19\x01" || domainSeparator || structHash)`. -/
def hashTypedData (data : TypedData) : Signed Bytes := do
  let domainHash ← hashStruct keccak data.types "EIP712Domain" data.domain
  let messageHash ← hashStruct keccak data.types data.primaryType data.message
  return keccak ([0x19, 0x01] ++ domainHash ++ messageHash)

end Hash

def EvmSigner.signTypedData (c : EvmCrypto) (parseJson : String → Except String Json) (privateKey : Bytes)
    (typedDataJson : String) : Signed SignOutput := do
  let typedData ← parseTypedData parseJson typedDataJson
  let hash ← hashTypedData c.keccak256 typedData
  let output ← sign c privateKey hash
  match output.recoveryId with
  | some rid => return { output with signature := output.signature.set 64 (rid + 27), recoveryId := some (rid + 27) }
  | none => return output

section Facts

variable {keccak : Bytes → Bytes}

/-! ## Integers -/

theorem beNat_lowWord (b : Bytes) : beNat (lowWord b) = beNat b % 2 ^ 256 := by
  have h256 : (256 : Nat) ^ 32 = 2 ^ 256 := by norm_num
  have hlen : b.length - min b.length 32 = b.length - 32 := by omega
  rw [lowWord, beNat_replicate_append, hlen, beNat_drop, h256]

theorem stripPrefix_of_decimal {bound n : Nat} {s : String} (h : parseUnsigned 10 bound s = some n) :
    stripPrefix "0x" s = none ∧ stripPrefix "-" s = none := by
  have hnot : ∀ pre c, c ∈ pre.toList → c ≠ '+' → (Text.toDigit 10 c).isSome = false → stripPrefix pre s = none := by
    intro pre c hc hplus hdigit
    rcases hp : stripPrefix pre s with _ | rest
    · rfl
    · have hmem : c ∈ s.toList := by
        rw [toList_of_stripPrefix hp]
        exact List.mem_append_left _ hc
      rcases toDigit_of_parseUnsigned h hmem with he | hd
      · exact absurd he hplus
      · rw [hdigit] at hd; cases hd
  exact ⟨hnot "0x" 'x' (by decide) (by decide) (by decide), hnot "-" '-' (by decide) (by decide) (by decide)⟩

theorem stripHex_of_minus {s neg : String} (h : stripPrefix "-" s = some neg) : stripPrefix "0x" s = none := by
  rcases hp : stripPrefix "0x" s with _ | rest
  · rfl
  · have hboth := (toList_of_stripPrefix h).symm.trans (toList_of_stripPrefix hp)
    cases (List.cons.inj hboth).1

/-- The integer a JSON value denotes. -/
inductive DenotesInt : Json → Int → Prop where
  | posInt (u : UInt64) : DenotesInt (.num (.posInt u)) u.toNat
  | negInt (i : Int64) : DenotesInt (.num (.negInt i)) i.toInt
  | hex {s hex : String} {b : Bytes} (hs : stripPrefix "0x" s = some hex) (hb : Text.hexDecode hex = .ok b) :
    DenotesInt (.str s) (beNat b)
  | decimal {s : String} {k : Nat} (hk : parseUnsigned 10 (k + 1) s = some k) : DenotesInt (.str s) k
  | negative {s neg : String} {k : Nat} (hs : stripPrefix "-" s = some neg)
    (hk : parseUnsigned 10 (k + 1) neg = some k) : DenotesInt (.str s) (-k)

theorem parseUnsigned_of_spelled {bound k : Nat} {s : String} (h : parseUnsigned 10 (k + 1) s = some k) :
    parseUnsigned 10 bound s = if k < bound then some k else none := by
  obtain ⟨hne, hv, -⟩ := parseUnsigned_eq_some.mp h
  rw [parseUnsigned, if_neg hne, hv]
  split_ifs with hk
  · simp [hk]
  · simpa using hk

theorem parseUintValue_denotes {v : Json} {n : Int} {b : Bytes} (hv : DenotesInt v n) (h : parseUintValue v = .ok b) :
    (beNat b : Int) = n := by
  cases hv with
  | posInt u =>
    cases h
    rw [beNat_toBe (u.toNat_lt.trans_eq (by norm_num))]
  | negInt i => cases h
  | hex hs hb =>
    simp only [parseUintValue, Json.asU64, Json.asStr, hs, hb, Except.ok.injEq] at h
    rw [h]
  | decimal hk =>
    simp only [parseUintValue, Json.asU64, Json.asStr, (stripPrefix_of_decimal hk).1, parseUnsigned_of_spelled hk] at h
    split_ifs at h with hlt
    cases h
    rw [beNat_toBe (hlt.trans_eq (by norm_num))]
  | @negative s neg k hs hk =>
    rcases hp : parseUnsigned 10 (2 ^ 128) s with _ | m
    · simp only [parseUintValue, Json.asU64, Json.asStr, stripHex_of_minus hs, hp] at h
      cases h
    · rw [(stripPrefix_of_decimal hp).2] at hs
      cases hs

theorem parseDecimalWord_spelled {s : String} {k : Nat} {b : Bytes} (hk : parseUnsigned 10 (k + 1) s = some k)
    (h : parseDecimalWord s = .ok b) : b.length = 32 ∧ beNat b = k ∧ k < 2 ^ 128 := by
  rw [parseDecimalWord, parseUnsigned_of_spelled hk] at h
  split_ifs at h with hlt
  cases h
  rw [beNat_replicate_append, beNat_toBe (hlt.trans_eq (by norm_num))]
  exact ⟨by simp, rfl, hlt⟩

theorem parseIntValue_denotes {v : Json} {n : Int} {b : Bytes} (hv : DenotesInt v n) (h : parseIntValue v = .ok b) :
    b.length = 32 ∧ (beNat b : Int) = n % 2 ^ 256 := by
  have h256 : (256 : Nat) ^ 32 = 2 ^ 256 := by norm_num
  cases hv with
  | posInt u =>
    have hu := u.toNat_lt
    simp only [parseIntValue, Json.asI64, JsonNumber.asI64] at h
    split_ifs at h with hlt
    · obtain rfl := Except.ok.inj h
      refine ⟨length_toBe _ _, ?_⟩
      rw [beNat_toBe_mod, h256, if_neg (by omega)]
      omega
    · cases h
  | negInt i =>
    have hi := i.le_toInt
    obtain rfl := Except.ok.inj h
    refine ⟨length_toBe _ _, ?_⟩
    rw [beNat_toBe_mod, h256]
    split_ifs
    · omega
    · omega
  | @hex s hex c hs hb =>
    simp only [parseIntValue, Json.asI64, Json.asStr, hs, hb] at h
    split_ifs at h with hlen
    cases h
    have hc := (beNat_lt c).trans_le (Nat.pow_le_pow_right (by decide) (Nat.not_lt.mp hlen))
    refine ⟨by simp; omega, ?_⟩
    rw [beNat_replicate_append]
    omega
  | decimal hk =>
    simp only [parseIntValue, Json.asI64, Json.asStr, (stripPrefix_of_decimal hk).1, (stripPrefix_of_decimal hk).2] at h
    obtain ⟨hlen, hb, hlt⟩ := parseDecimalWord_spelled hk h
    exact ⟨hlen, by omega⟩
  | negative hs hk =>
    simp only [parseIntValue, Json.asI64, Json.asStr, stripHex_of_minus hs, hs] at h
    obtain ⟨w, hw, rfl⟩ := Result.map_eq_ok.mp h
    obtain ⟨-, hb, hlt⟩ := parseDecimalWord_spelled hk hw
    refine ⟨length_toBe _ _, ?_⟩
    rw [negateTwosComplement, beNat_toBe_mod, h256, hb]
    omega

/-- The types the hasher reads as integers. -/
def IsIntegerType (t : String) : Prop := startsWith "uint" t = true ∨ startsWith "int" t = true

theorem startsWith_iff {pre t : String} : startsWith pre t = true ↔ pre.toList <+: t.toList := by
  rw [startsWith, List.isPrefixOf_iff_prefix]

theorem encodeAtomic_integer {t : String} {v : Json} (ht : IsIntegerType t) :
    encodeAtomic keccak t v =
      if startsWith "uint" t then integerWidth t "uint" 4 >>= fun _ => parseUintValue v >>= fun b => pure (lowWord b)
      else integerWidth t "int" 3 >>= fun _ => parseIntValue v := by
  -- an integer type is none of the types that are tried before
  have hne : ∀ pre : String, ¬ (pre.toList <+: "uint".toList ∨ "uint".toList <+: pre.toList) →
      ¬ (pre.toList <+: "int".toList ∨ "int".toList <+: pre.toList) → ¬ startsWith pre t = true := by
    intro pre h1 h2 hs
    rw [startsWith_iff] at hs
    rcases ht with ht | ht <;> rw [startsWith_iff] at ht
    · exact h1 (List.prefix_or_prefix_of_prefix hs ht)
    · exact h2 (List.prefix_or_prefix_of_prefix hs ht)
  have hneq : ∀ name : String, ¬ (name.toList <+: "uint".toList ∨ "uint".toList <+: name.toList) →
      ¬ (name.toList <+: "int".toList ∨ "int".toList <+: name.toList) → t ≠ name := by
    rintro name h1 h2 rfl
    exact hne t h1 h2 (startsWith_iff.mpr List.prefix_rfl)
  rw [encodeAtomic, if_neg (hneq "address" (by decide) (by decide)),
    if_neg (hneq "bool" (by decide) (by decide)), if_neg (hneq "string" (by decide) (by decide)),
    if_neg (hneq "bytes" (by decide) (by decide)), if_neg (hne "bytes" (by decide) (by decide))]
  by_cases hu : startsWith "uint" t = true
  · rw [if_pos hu, if_pos hu]
  · rw [if_neg hu, if_pos (ht.resolve_left hu), if_neg hu]

/-- **The word an integer field hashes** is the two's complement of the integer its value denotes, cut to 256 bits. -/
theorem encodeAtomic_denotesInt {t : String} {v : Json} {n : Int} {word : Bytes} (ht : IsIntegerType t)
    (hv : DenotesInt v n) (h : encodeAtomic keccak t v = .ok word) : word = toBe 32 (n % 2 ^ 256).toNat := by
  have hword : word.length = 32 ∧ (beNat word : Int) = n % 2 ^ 256 := by
    rw [encodeAtomic_integer ht] at h
    split at h
    · obtain ⟨_, _, h⟩ := Result.bind_eq_ok.mp h
      obtain ⟨b, hb, h⟩ := Result.bind_eq_ok.mp h
      cases h
      rw [beNat_lowWord, ← parseUintValue_denotes hv hb]
      exact ⟨by simp [lowWord]; omega, by omega⟩
    · obtain ⟨_, _, h⟩ := Result.bind_eq_ok.mp h
      exact parseIntValue_denotes hv h
  rw [← hword.2, Int.toNat_natCast, ← hword.1, toBe_beNat]

/-- The integer a JSON number or a decimal string denotes, if it fits 64 bits. -/
def Denotes (v : Json) (n : Nat) : Prop :=
  v.asU64 = some n ∨ ∃ s, v.asStr = some s ∧ parseUnsigned 10 (2 ^ 64) s = some n

theorem asU64_of_asStr {v : Json} {s : String} (h : v.asStr = some s) : v.asU64 = none := by
  cases v with
  | str => rfl
  | _ => cases h

theorem Denotes.denotesInt {v : Json} {n : Nat} (h : Denotes v n) : DenotesInt v n ∧ n < 2 ^ 64 := by
  rcases h with h | ⟨s, hs, hn⟩
  · cases v with
    | num m =>
      cases m with
      | posInt u => cases h; exact ⟨.posInt u, u.toNat_lt⟩
      | _ => cases h
    | _ => cases h
  · obtain ⟨hne, hval, hlt⟩ := parseUnsigned_eq_some.mp hn
    cases v with
    | str => cases hs; exact ⟨.decimal (parseUnsigned_eq_some.mpr ⟨hne, hval, n.lt_succ_self⟩), hlt⟩
    | _ => cases hs

theorem encodeAtomic_denotes {t : String} {v : Json} {n : Nat} {word : Bytes} (ht : IsIntegerType t)
    (hv : Denotes v n) (h : encodeAtomic keccak t v = .ok word) : beNat word = n := by
  obtain ⟨hv, hlt⟩ := hv.denotesInt
  rw [encodeAtomic_denotesInt ht hv h, beNat_toBe_mod]
  omega

/-! ## Ranges -/

end Facts

end OneCipher.Signer
