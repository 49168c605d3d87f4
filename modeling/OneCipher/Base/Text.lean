import Mathlib.Tactic.IntervalCases
import OneCipher.Base.Bytes

/-!
# OneCipher.Base.Text — the text functions of the Rust standard library, and hexadecimal text

Strings are Lean strings, read through their list of characters.  `trim`, `stripPrefix`, the ASCII case functions
and `contains` are the `str` methods of those names; `parseUnsigned` is `from_str_radix` of an unsigned type with
`bound` values (`parse` is its radix-10 case); `hexDecode` and `hexEncode` are the usual two-digit format, the
reader working on UTF-8 bytes.
-/

namespace OneCipher

open List String Option
open String (ofList)

namespace Text

/-! ## Characters and substrings -/

/-- Unicode `White_Space`. -/
def isWhitespace (c : Char) : Bool :=
  let n := c.toNat
  (9 ≤ n && n ≤ 13) || n == 0x20 || n == 0x85 || n == 0xA0 || n == 0x1680 ||
    (0x2000 ≤ n && n ≤ 0x200A) || n == 0x2028 || n == 0x2029 || n == 0x202F || n == 0x205F || n == 0x3000

def trim (s : String) : String := ofList ((s.toList.dropWhile isWhitespace).rdropWhile isWhitespace)

variable (pre : String) (b : Bytes)

def stripPrefix (s : String) : Option String := (pre.toList.isPrefixOf? s.toList).map ofList

def startsWith (s : String) : Bool := pre.toList.isPrefixOf s.toList

def stripSuffix (suf s : String) : Option String :=
  (suf.toList.reverse.isPrefixOf? s.toList.reverse).map fun cs => ofList cs.reverse

def endsWith (suf s : String) : Bool := suf.toList.isSuffixOf s.toList

/-- The text in front of the first `c`: `split(c).next()`. -/
def before (c : Char) (s : String) : String := ofList (s.toList.takeWhile (· != c))

def contains (sub s : String) : Bool := s.toList.tails.any (sub.toList.isPrefixOf ·)

def toAsciiLowercase (s : String) : String := ofList (s.toList.map Char.toLower)

def eqIgnoreAsciiCase (a b : String) : Bool := toAsciiLowercase a == toAsciiLowercase b

def utf8 (s : String) : Bytes := s.toList.flatMap String.utf8EncodeChar

/-- The first `n` bytes of a text as a text, if they end at a character boundary. -/
def takeBytes : Nat → List Char → Option (List Char)
  | 0, _ => some []
  | _ + 1, [] => none
  | n + 1, c :: cs => if c.utf8Size ≤ n + 1 then (takeBytes (n + 1 - c.utf8Size) cs).map (c :: ·) else none
termination_by structural _ cs => cs

/-- The text with an optional leading `0x` removed. -/
def stripHex (s : String) : String := (stripPrefix "0x" s).getD s

variable {c : Char} {bound n radix : Nat} {s : String}

theorem rdropWhile_dropWhile_of_forall {p : Char → Bool} {cs : List Char} (h : ∀ c ∈ cs, p c = false) :
    (cs.dropWhile p).rdropWhile p = cs := by
  have hfront : cs.dropWhile p = cs := by
    rw [dropWhile_eq_self_iff]
    intro hl
    simp [h _ (getElem_mem hl)]
  rw [hfront, rdropWhile_eq_self_iff]
  intro hl
  simp [h _ (getLast_mem hl)]

theorem trim_of_forall (h : ∀ c ∈ s.toList, isWhitespace c = false) : trim s = s := by
  rw [trim, rdropWhile_dropWhile_of_forall h, ofList_toList]

theorem mem_trim (hc : c ∈ s.toList) (hw : isWhitespace c = false) : c ∈ (trim s).toList := by
  have hdrop : ∀ l : List Char, c ∈ l → c ∈ l.dropWhile isWhitespace := by
    intro l hl
    rw [← List.takeWhile_append_dropWhile (p := isWhitespace) (l := l), mem_append] at hl
    rcases hl with hl | hl
    · have hspace := mem_takeWhile_imp hl
      rw [hw] at hspace
      cases hspace
    · exact hl
  rw [trim, toList_ofList, List.rdropWhile, mem_reverse]
  exact hdrop _ (mem_reverse.mpr (hdrop _ hc))

theorem stripSuffix_eq_some {suf rest : String} : stripSuffix suf s = some rest ↔ s = rest ++ suf := by
  rw [stripSuffix, map_eq_some_iff, ← toList_inj, toList_append]
  constructor
  · rintro ⟨cs, hcs, rfl⟩
    rw [← reverse_inj, ← List.isPrefixOf?_eq_some_iff_append_eq.mp hcs, toList_ofList, reverse_append, reverse_reverse]
  · intro h
    refine ⟨rest.toList.reverse, List.isPrefixOf?_eq_some_iff_append_eq.mpr ?_, ?_⟩
    · rw [h, reverse_append]
    · rw [reverse_reverse, ofList_toList]

theorem stripSuffix_append (suf s : String) : stripSuffix suf (s ++ suf) = some s := stripSuffix_eq_some.mpr rfl

/-! ## Numbers -/

/-- `char::to_digit`. -/
def toDigit (radix : Nat) (c : Char) : Option Nat :=
  (if c.isDigit then some (c.toNat - '0'.toNat)
    else if 'a' ≤ c ∧ c ≤ 'z' then some (c.toNat - 'a'.toNat + 10)
    else if 'A' ≤ c ∧ c ≤ 'Z' then some (c.toNat - 'A'.toNat + 10)
    else none).filter (· < radix)

def digitsValue (radix : Nat) : List Char → Nat → Option Nat
  | [], acc => some acc
  | c :: cs, acc => (toDigit radix c).bind fun d => digitsValue radix cs (acc * radix + d)

/-- The characters of a number behind an optional `+`. -/
def numberDigits (s : String) : List Char :=
  match s.toList with
  | '+' :: cs => cs
  | cs => cs

/-- `from_str_radix` of an unsigned type with `bound` values: one leading `+` is skipped, at least
one digit is required, and a value that does not fit is refused. -/
def parseUnsigned (radix bound : Nat) (s : String) : Option Nat :=
  if numberDigits s = [] then none else (digitsValue radix (numberDigits s) 0).filter (· < bound)

theorem parseUnsigned_eq_some :
    parseUnsigned radix bound s = some n ↔
      numberDigits s ≠ [] ∧ digitsValue radix (numberDigits s) 0 = some n ∧ n < bound := by
  unfold parseUnsigned
  by_cases h : numberDigits s = []
  · simp [h]
  · simp [h]

theorem toNat_of_isDigit (h : c.isDigit = true) : 48 ≤ c.toNat ∧ c.toNat ≤ 57 := by
  simp only [Char.isDigit, Bool.and_eq_true, decide_eq_true_eq] at h
  exact h

theorem toDigit_ten (h : c.isDigit = true) : toDigit 10 c = some (c.toNat - '0'.toNat) := by
  have hle : c.toNat - '0'.toNat < 10 := by
    have h9 := (toNat_of_isDigit h).2
    change c.toNat - 48 < 10
    omega
  simp only [toDigit, h, if_true, filter_some, hle, decide_true]

theorem digitsValue_ten {cs : List Char} (h : ∀ c ∈ cs, c.isDigit = true) (acc : Nat) :
    digitsValue 10 cs acc = some (Nat.ofDigitChars 10 cs acc) := by
  induction cs generalizing acc with
  | nil => rfl
  | cons c _ ih =>
    rw [digitsValue, toDigit_ten (h c (mem_cons_self ..)), bind_some,
      ih fun d hd => h d (mem_cons_of_mem _ hd), Nat.ofDigitChars, Nat.ofDigitChars,
      foldl_cons, Nat.mul_comm acc]

theorem isDigit_of_mem_toString (h : c ∈ (toString n).toList) : c.isDigit = true := by
  rw [Nat.toString_eq_repr, Nat.toList_repr] at h
  exact Nat.isDigit_of_mem_toDigits (by decide) (by decide) h

theorem not_isWhitespace_of_isDigit (h : c.isDigit = true) : isWhitespace c = false := by
  have hrange := toNat_of_isDigit h
  simp only [isWhitespace, Bool.or_eq_false_iff, Bool.and_eq_false_iff, decide_eq_false_iff_not, beq_eq_false_iff_ne]
  omega

@[simp] theorem trim_toString (n : Nat) : trim (toString n) = toString n :=
  trim_of_forall fun _ hc => not_isWhitespace_of_isDigit (isDigit_of_mem_toString hc)

theorem parseUnsigned_toString (h : n < bound) : parseUnsigned 10 bound (toString n) = some n := by
  have hd : ∀ c ∈ (toString n).toList, c.isDigit = true := fun _ => isDigit_of_mem_toString
  have hne : (toString n).toList ≠ [] := by
    rw [Nat.toString_eq_repr, Nat.toList_repr]; exact Nat.toDigits_ne_nil
  have hv : Nat.ofDigitChars 10 (toString n).toList 0 = n := by
    rw [Nat.toString_eq_repr, Nat.toList_repr]; exact Nat.ofDigitChars_ten_toDigits
  have hdigits : numberDigits (toString n) = (toString n).toList := by
    unfold numberDigits
    split
    · next cs heq => exact absurd (hd '+' (by rw [heq]; exact mem_cons_self ..)) (by decide)
    · rfl
  rw [parseUnsigned_eq_some, hdigits, digitsValue_ten hd, hv]
  exact ⟨hne, rfl, h⟩

theorem parseUnsigned_mono {bound' : Nat} (hb : bound ≤ bound') (h : parseUnsigned radix bound s = some n) :
    parseUnsigned radix bound' s = some n := by
  obtain ⟨hne, hv, hlt⟩ := parseUnsigned_eq_some.mp h
  exact parseUnsigned_eq_some.mpr ⟨hne, hv, hlt.trans_le hb⟩

theorem toDigit_of_digitsValue {cs : List Char} {acc v : Nat} (h : digitsValue radix cs acc = some v) (hc : c ∈ cs) :
    (toDigit radix c).isSome = true := by
  induction cs generalizing acc with
  | nil => cases hc
  | cons _ _ ih =>
    obtain ⟨x, hx, hrest⟩ := bind_eq_some_iff.mp h
    rcases mem_cons.mp hc with rfl | hc
    · rw [hx]; rfl
    · exact ih hrest hc

theorem toDigit_of_parseUnsigned (h : parseUnsigned radix bound s = some n) (hc : c ∈ s.toList) :
    c = '+' ∨ (toDigit radix c).isSome = true := by
  obtain ⟨-, hv, -⟩ := parseUnsigned_eq_some.mp h
  unfold numberDigits at hv
  split at hv
  · next cs hcs =>
    rw [hcs] at hc
    rcases mem_cons.mp hc with rfl | hc
    · exact .inl rfl
    · exact .inr (toDigit_of_digitsValue hv hc)
  · exact .inr (toDigit_of_digitsValue hv hc)

theorem stripPrefix_eq_some {pre rest : String} : stripPrefix pre s = some rest ↔ s = pre ++ rest := by
  rw [stripPrefix, map_eq_some_iff, ← toList_inj, toList_append]
  constructor
  · rintro ⟨cs, hcs, rfl⟩
    rw [toList_ofList]
    exact (List.append_eq_of_isPrefixOf?_eq_some hcs).symm
  · intro h
    exact ⟨rest.toList, List.isPrefixOf?_eq_some_iff_append_eq.mpr h.symm, ofList_toList⟩

theorem toList_of_stripPrefix {pre rest : String} (h : stripPrefix pre s = some rest) :
    s.toList = pre.toList ++ rest.toList := by
  rw [stripPrefix_eq_some.mp h, toList_append]

theorem stripPrefix_append (s : String) : stripPrefix pre (pre ++ s) = some s := stripPrefix_eq_some.mpr rfl

theorem startsWith_append (s : String) : startsWith pre (pre ++ s) = true := by
  rw [startsWith, toList_append, isPrefixOf_iff_prefix]
  exact prefix_append pre.toList s.toList

theorem stripPrefix_of_head_ne {pre : String} {d : Char} (hpre : pre.toList.head? = some c)
    (hs : s.toList.head? = some d) (hne : c ≠ d) : stripPrefix pre s = none := by
  rw [eq_none_iff_forall_ne_some]
  intro rest h
  rw [toList_of_stripPrefix h, List.head?_append_of_ne_nil _ (fun h => by rw [h] at hpre; cases hpre), hpre] at hs
  exact hne (Option.some.inj hs)

/-! ## Hexadecimal byte strings -/

/-- The reader's errors. -/
inductive FromHexError where
  | oddLength
  | invalidHexCharacter (c : Char) (index : Nat)
  deriving DecidableEq, Repr

def hexDigit (n : Nat) : Char := if n < 10 then Char.ofNat (48 + n) else Char.ofNat (87 + n)

def hexEncode : String := ofList (b.flatMap fun x => [hexDigit (x.toNat / 16), hexDigit (x.toNat % 16)])

/-- Hex with a leading `0x`. -/
def hexText : String := "0x" ++ hexEncode b

/-- The value of one digit, given as a byte of the text at `index`. -/
def hexVal (x : UInt8) (index : Nat) : Except FromHexError Nat :=
  let n := x.toNat
  if 65 ≤ n ∧ n ≤ 70 then .ok (n - 55)
  else if 97 ≤ n ∧ n ≤ 102 then .ok (n - 87)
  else if 48 ≤ n ∧ n ≤ 57 then .ok (n - 48)
  else .error (.invalidHexCharacter (Char.ofNat n) index)

def hexPairs : Bytes → Nat → Except FromHexError Bytes
  | a :: b :: rest, i => do
    let hi ← hexVal a i
    let lo ← hexVal b (i + 1)
    let tail ← hexPairs rest (i + 2)
    return UInt8.ofNat (hi * 16 + lo) :: tail
  | _, _ => .ok []

def hexDecode (s : String) : Except FromHexError Bytes :=
  if (utf8 s).length % 2 ≠ 0 then .error .oddLength else hexPairs (utf8 s) 0

/-- `char` printed with `{:?}`, for the characters a single byte can denote. -/
def charDebug (c : Char) : String :=
  let n := c.toNat
  let body :=
    if c = '\t' then "\\t" else if c = '\r' then "\\r" else if c = '\n' then "\\n"
    else if c = '\'' then "\\'" else if c = '\\' then "\\\\" else if n = 0 then "\\0"
    else if n < 0x20 || (0x7f ≤ n && n ≤ 0xa0) || n == 0xad then
      "\\u\x7b" ++ ofList (Nat.toDigits 16 n) ++ "\x7d"
    else String.singleton c
  "'" ++ body ++ "'"

def FromHexError.message : FromHexError → String
  | .oddLength => "Odd number of digits"
  | .invalidHexCharacter c index =>
    "Invalid character " ++ charDebug c ++ " at position " ++ toString index

theorem utf8_hexDigit : ∀ n < 16, String.utf8EncodeChar (hexDigit n) = [UInt8.ofNat (hexDigit n).toNat] := by
  decide

theorem hexVal_hexDigit (i : Nat) : ∀ n < 16, hexVal (UInt8.ofNat (hexDigit n).toNat) i = .ok n := by
  intro n hn
  interval_cases n <;> rfl

theorem utf8_hexEncode_cons (x : UInt8) (b : Bytes) :
    utf8 (hexEncode (x :: b)) =
      UInt8.ofNat (hexDigit (x.toNat / 16)).toNat :: UInt8.ofNat (hexDigit (x.toNat % 16)).toNat ::
        utf8 (hexEncode b) := by
  have hx : x.toNat < 256 := x.toNat_lt
  simp only [utf8, hexEncode, toList_ofList, flatMap_cons, cons_append,
    nil_append, utf8_hexDigit _ (show x.toNat / 16 < 16 by omega),
    utf8_hexDigit _ (show x.toNat % 16 < 16 by omega)]

theorem length_utf8_hexEncode : (utf8 (hexEncode b)).length = 2 * b.length := by
  induction b with
  | nil => rfl
  | cons _ _ ih => rw [utf8_hexEncode_cons, length_cons, length_cons, ih, length_cons]; ring

theorem hexPairs_hexEncode (i : Nat) : hexPairs (utf8 (hexEncode b)) i = .ok b := by
  induction b generalizing i with
  | nil => rfl
  | cons x _ ih =>
    have hx : x.toNat < 256 := x.toNat_lt
    have hb : UInt8.ofNat (x.toNat / 16 * 16 + x.toNat % 16) = x := by
      rw [Nat.div_add_mod' x.toNat 16, UInt8.ofNat_toNat]
    rw [utf8_hexEncode_cons, hexPairs, hexVal_hexDigit _ _ (by omega), hexVal_hexDigit _ _ (by omega), ih]
    simp only [bind, Except.bind, pure, Except.pure, hb]

@[simp] theorem hexDecode_hexEncode : hexDecode (hexEncode b) = .ok b := by
  rw [hexDecode, length_utf8_hexEncode, if_neg (by omega), hexPairs_hexEncode]

theorem toList_hexEncode :
    (hexEncode b).toList = b.flatMap fun x => [hexDigit (x.toNat / 16), hexDigit (x.toNat % 16)] := by
  rw [hexEncode, toList_ofList]

theorem toList_hexEncode_cons (x : UInt8) (b : Bytes) :
    (hexEncode (x :: b)).toList = hexDigit (x.toNat / 16) :: hexDigit (x.toNat % 16) :: (hexEncode b).toList := by
  rw [toList_hexEncode, toList_hexEncode, flatMap_cons]
  rfl

theorem hexDigit_eq_zero : ∀ n < 16, (hexDigit n == '0') = decide (n = 0) := by decide

@[simp] theorem trim_hexEncode : trim (hexEncode b) = hexEncode b := by
  have hdigit : ∀ n < 16, isWhitespace (hexDigit n) = false := by decide
  refine trim_of_forall fun c hc => ?_
  rw [hexEncode, toList_ofList, mem_flatMap] at hc
  obtain ⟨x, -, hc⟩ := hc
  have hx := x.toNat_lt
  rcases mem_pair.mp hc with rfl | rfl
  · exact hdigit _ (by omega)
  · exact hdigit _ (by omega)

@[simp] theorem stripHex_hexText : stripHex (hexText b) = hexEncode b := by
  simp [stripHex, stripPrefix, hexText, toList_append, List.isPrefixOf?]

@[simp] theorem stripHex_hexEncode : stripHex (hexEncode b) = hexEncode b := by
  have hx : ∀ n < 16, hexDigit n ≠ 'x' := by decide
  rcases b with _ | ⟨y, b⟩
  · rfl
  · have hlo := hx (y.toNat % 16) (by omega)
    have hnot : "0x".toList.isPrefixOf? (hexEncode (y :: b)).toList = none := by
      simp only [hexEncode, toList_ofList, flatMap_cons, cons_append, nil_append]
      simp [List.isPrefixOf?, Ne.symm hlo]
    rw [stripHex, stripPrefix, hnot]
    rfl

end Text

end OneCipher
