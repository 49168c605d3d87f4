import OneCipher.Base.Json
import OneCipher.Base.Lines

/-!
# OneCipher.Base.JsonText — JSON documents as text

The compact writer and the reader of the `serde_json` crate over `Json`.  The writer escapes `"`, `\` and the
control characters and puts no blank between tokens; the reader skips blanks between tokens, refuses raw control
characters and trailing commas, and stops at 127 levels of nesting.  How a float is printed and read is a parameter
(`FloatText`).
-/

namespace OneCipher

open List

namespace JsonText

/-- Printing and reading of numbers that are not 64-bit integers. -/
structure FloatText where
  text : UInt64 → List Char
  read : List Char → Option UInt64

/-! ## Writing -/

def escapeChar (c : Char) : List Char :=
  if c = '"' then ['\\', '"']
  else if c = '\\' then ['\\', '\\']
  else if c.toNat = 8 then ['\\', 'b']
  else if c.toNat = 9 then ['\\', 't']
  else if c.toNat = 10 then ['\\', 'n']
  else if c.toNat = 12 then ['\\', 'f']
  else if c.toNat = 13 then ['\\', 'r']
  else if c.toNat < 32 then ['\\', 'u', '0', '0', Text.hexDigit (c.toNat / 16), Text.hexDigit (c.toNat % 16)]
  else [c]

def quoted (s : String) : List Char := '"' :: (s.toList.flatMap escapeChar ++ ['"'])

section Writer

variable (F : FloatText)

def numberText : JsonNumber → List Char
  | .posInt n => (toString n.toNat).toList
  | .negInt n => '-' :: (toString n.toInt.natAbs).toList
  | .float b => F.text b

mutual
def text : Json → List Char
  | .null => "null".toList
  | .bool true => "true".toList
  | .bool false => "false".toList
  | .num n => numberText F n
  | .str s => quoted s
  | .arr [] => ['[', ']']
  | .arr (j :: js) => '[' :: (text j ++ itemsTail js)
  | .obj [] => ['{', '}']
  | .obj ((k, j) :: ms) => '{' :: (quoted k ++ ':' :: (text j ++ membersTail ms))

def itemsTail : List Json → List Char
  | [] => [']']
  | j :: js => ',' :: (text j ++ itemsTail js)

def membersTail : List (String × Json) → List Char
  | [] => ['}']
  | (k, j) :: ms => ',' :: (quoted k ++ ':' :: (text j ++ membersTail ms))
end

end Writer

/-! ## Reading -/

def isBlank (c : Char) : Bool := c == ' ' || c == '\n' || c == '\t' || c == '\r'

def skipBlanks (cs : List Char) : List Char := cs.dropWhile isBlank

def hex4 (a b c d : Char) : Option Nat :=
  match Text.toDigit 16 a, Text.toDigit 16 b, Text.toDigit 16 c, Text.toDigit 16 d with
  | some a, some b, some c, some d => some (((a * 16 + b) * 16 + c) * 16 + d)
  | _, _, _, _ => none

def simpleEscape (c : Char) : Option Char :=
  if c = '"' ∨ c = '\\' ∨ c = '/' then some c
  else if c = 'b' then some (Char.ofNat 8)
  else if c = 't' then some (Char.ofNat 9)
  else if c = 'n' then some (Char.ofNat 10)
  else if c = 'f' then some (Char.ofNat 12)
  else if c = 'r' then some (Char.ofNat 13)
  else none

def consFst {β : Type} (c : Char) (p : List Char × β) : List Char × β := (c :: p.1, p.2)

def stringBody : List Char → Option (List Char × List Char)
  | [] => none
  | '"' :: r => some ([], r)
  | '\\' :: 'u' :: a :: b :: c :: d :: r => match hex4 a b c d with
    | none => none
    | some n =>
      if 0xD800 ≤ n ∧ n < 0xDC00 then match r with
        | '\\' :: 'u' :: e :: f :: g :: h :: r' => match hex4 e f g h with
          | none => none
          | some m =>
            if 0xDC00 ≤ m ∧ m < 0xE000 then
              (stringBody r').map (consFst (Char.ofNat (0x10000 + (n - 0xD800) * 0x400 + (m - 0xDC00))))
            else none
        | _ => none
      else if 0xDC00 ≤ n ∧ n < 0xE000 then none
      else (stringBody r).map (consFst (Char.ofNat n))
  | '\\' :: c :: r => match simpleEscape c with
    | none => none
    | some e => (stringBody r).map (consFst e)
  | c :: r => if c = '\\' ∨ c.toNat < 32 then none else (stringBody r).map (consFst c)

def isNumberChar (c : Char) : Bool := c.isDigit || c == '-' || c == '+' || c == '.' || c == 'e' || c == 'E'

def isIntegerLiteral (cs : List Char) : Bool :=
  !cs.isEmpty && cs.all Char.isDigit && (cs.head? != some '0' || cs.length == 1)

def digits (cs : List Char) : Nat := (Text.digitsValue 10 cs 0).getD 0

section Reader

variable (F : FloatText)

def number (token : List Char) : Option JsonNumber :=
  match token with
  | '-' :: ds =>
    if isIntegerLiteral ds ∧ 0 < digits ds ∧ digits ds ≤ 2 ^ 63 then some (.negInt (Int64.ofInt (-(digits ds))))
    else (F.read token).map .float
  | ds =>
    if isIntegerLiteral ds ∧ digits ds < 2 ^ 64 then some (.posInt (UInt64.ofNat (digits ds)))
    else (F.read token).map .float

def scalar (cs : List Char) : Option (Json × List Char) :=
  match cs with
  | 'n' :: 'u' :: 'l' :: 'l' :: r => some (.null, r)
  | 't' :: 'r' :: 'u' :: 'e' :: r => some (.bool true, r)
  | 'f' :: 'a' :: 'l' :: 's' :: 'e' :: r => some (.bool false, r)
  | cs => (number F (cs.takeWhile isNumberChar)).map fun n => (.num n, cs.dropWhile isNumberChar)

def memberKey (cs : List Char) : Option (String × List Char) :=
  match skipBlanks cs with
  | '"' :: r => match stringBody r with
    | none => none
    | some (k, r) => match skipBlanks r with
      | ':' :: r => some (String.ofList k, r)
      | _ => none
  | _ => none

mutual
def value : Nat → Nat → List Char → Option (Json × List Char)
  | 0, _, _ => none
  | fuel + 1, levels, cs => match skipBlanks cs with
    | '"' :: r => (stringBody r).map fun p => (.str (String.ofList p.1), p.2)
    | '[' :: r => match levels with
      | 0 => none
      | levels + 1 => match skipBlanks r with
        | ']' :: r => some (.arr [], r)
        | _ => (items fuel levels r).map fun p => (.arr p.1, p.2)
    | '{' :: r => match levels with
      | 0 => none
      | levels + 1 => match skipBlanks r with
        | '}' :: r => some (.obj [], r)
        | _ => (members fuel levels r).map fun p => (.obj p.1, p.2)
    | cs => scalar F cs

def items : Nat → Nat → List Char → Option (List Json × List Char)
  | 0, _, _ => none
  | fuel + 1, levels, cs => match value fuel levels cs with
    | none => none
    | some (j, r) => match skipBlanks r with
      | ',' :: r => (items fuel levels r).map fun p => (j :: p.1, p.2)
      | ']' :: r => some ([j], r)
      | _ => none

def members : Nat → Nat → List Char → Option (List (String × Json) × List Char)
  | 0, _, _ => none
  | fuel + 1, levels, cs => match memberKey cs with
    | none => none
    | some (k, r) => match value fuel levels r with
      | none => none
      | some (j, r) => match skipBlanks r with
        | ',' :: r => (members fuel levels r).map fun p => ((k, j) :: p.1, p.2)
        | '}' :: r => some ([(k, j)], r)
        | _ => none
end

/-- The nesting `serde_json` reads. -/
def maxLevels : Nat := 127

/-- `from_str`: a value with nothing but blanks after it. -/
def read (cs : List Char) : Option Json :=
  match value F (2 * cs.length + 1) maxLevels cs with
  | none => none
  | some (j, r) => if skipBlanks r = [] then some j else none

end Reader

/-! ## Strings read back -/

theorem hex4_hexDigit : ∀ n < 32, hex4 '0' '0' (Text.hexDigit (n / 16)) (Text.hexDigit (n % 16)) = some n := by
  decide

variable {c : Char} {r : List Char}

theorem stringBody_unicode {a b d : Char} {n : Nat} (h : hex4 a b c d = some n) (hn : n < 0xD800) (r : List Char) :
    stringBody ('\\' :: 'u' :: a :: b :: c :: d :: r) = (stringBody r).map (consFst (Char.ofNat n)) := by
  rw [stringBody, h]
  dsimp only
  rw [if_neg (by omega), if_neg (by omega)]

section Plain

variable {c : Char} (hq : c ≠ '"') (hb : c ≠ '\\') (hc : ¬ c.toNat < 32)

include hq hb hc

theorem stringBody_plain (r : List Char) : stringBody (c :: r) = (stringBody r).map (consFst c) := by
  rw [stringBody, if_neg]
  · rintro (h | h)
    · exact hb h
    · exact hc h
  · exact hq
  · intro _ _ _ _ _ h
    exact absurd h hb
  · intro _ _ h
    exact absurd h hb

theorem escapeChar_plain : escapeChar c = [c] := by
  rw [escapeChar, if_neg hq, if_neg hb, if_neg (by omega), if_neg (by omega), if_neg (by omega), if_neg (by omega),
    if_neg (by omega), if_neg hc]

end Plain

theorem escapeChar_control (hc : c.toNat < 32) (r : List Char) :
    stringBody (escapeChar c ++ r) = (stringBody r).map (consFst c) := by
  have hchar : Char.ofNat c.toNat = c := Char.ofNat_toNat c
  have hq : c ≠ '"' := by
    rintro rfl
    exact absurd hc (by decide)
  have hb : c ≠ '\\' := by
    rintro rfl
    exact absurd hc (by decide)
  by_cases hletter : c.toNat ∈ [8, 9, 10, 12, 13]
  · simp only [mem_cons, not_mem_nil, or_false] at hletter
    rcases hletter with h | h | h | h | h <;> rw [h] at hchar <;> subst hchar <;> rfl
  · simp only [mem_cons, not_mem_nil, or_false, not_or] at hletter
    obtain ⟨h8, h9, h10, h12, h13⟩ := hletter
    rw [escapeChar, if_neg hq, if_neg hb, if_neg h8, if_neg h9, if_neg h10, if_neg h12, if_neg h13, if_pos hc]
    have hread := stringBody_unicode (hex4_hexDigit c.toNat hc) (by omega) r
    rwa [hchar] at hread

theorem stringBody_escapeChar (c : Char) (r : List Char) :
    stringBody (escapeChar c ++ r) = (stringBody r).map (consFst c) := by
  by_cases hc : c.toNat < 32
  · exact escapeChar_control hc r
  by_cases hq : c = '"'
  · subst hq
    rfl
  by_cases hb : c = '\\'
  · subst hb
    rfl
  rw [escapeChar_plain hq hb hc, singleton_append, stringBody_plain hq hb hc]

theorem stringBody_flatMap (cs r : List Char) : stringBody (cs.flatMap escapeChar ++ '"' :: r) = some (cs, r) := by
  induction cs with
  | nil => rfl
  | cons _ _ ih =>
    rw [flatMap_cons, append_assoc, stringBody_escapeChar, ih]
    rfl

/-! ## Numbers read back -/

/-- A number token may end in front of the text. -/
def Stops (r : List Char) : Prop := ∀ c ∈ r.head?, isNumberChar c = false

theorem takeWhile_token {token : List Char} (h : ∀ c ∈ token, isNumberChar c = true) (hr : Stops r) :
    (token ++ r).takeWhile isNumberChar = token ∧ (token ++ r).dropWhile isNumberChar = r := by
  induction token with
  | nil =>
    rcases r with _ | ⟨c, r⟩
    · exact ⟨rfl, rfl⟩
    · have hc : isNumberChar c = false := hr c rfl
      simp [hc]
  | cons c _ ih =>
    have hc : isNumberChar c = true := h c mem_cons_self
    obtain ⟨h1, h2⟩ := ih fun d hd => h d (mem_cons_of_mem _ hd)
    simp [hc, h1, h2]

theorem ne_of_isNumberChar {d : Char} (hc : isNumberChar c = true) (hd : isNumberChar d = false) : c ≠ d := by
  rintro rfl
  rw [hc] at hd
  cases hd

theorem isNumberChar_of_isDigit (h : c.isDigit = true) : isNumberChar c = true := by
  rw [isNumberChar, h]
  rfl

theorem toList_toString (n : Nat) : (toString n).toList = Nat.toDigits 10 n := by
  rw [Nat.toString_eq_repr, Nat.toList_repr]

theorem head?_toDigits {n : Nat} (h : 0 < n) : (Nat.toDigits 10 n).head? ≠ some '0' := by
  induction n using Nat.strong_induction_on with
  | _ n ih =>
    by_cases hn : n < 10
    · interval_cases n <;> decide
    · rw [Nat.toDigits_of_base_le (by decide) (by omega), List.head?_append_of_ne_nil _ Nat.toDigits_ne_nil]
      exact ih (n / 10) (by omega) (by omega)

theorem isIntegerLiteral_toString (n : Nat) : isIntegerLiteral (toString n).toList = true := by
  have hdigit : (toString n).toList.all Char.isDigit = true :=
    all_eq_true.mpr fun _ hc => Text.isDigit_of_mem_toString hc
  have hne : (toString n).toList.isEmpty = false := by
    rw [toList_toString, isEmpty_eq_false_iff]
    exact Nat.toDigits_ne_nil
  rw [isIntegerLiteral, hdigit, hne, toList_toString]
  rcases Nat.eq_zero_or_pos n with rfl | hn
  · rfl
  · simp [head?_toDigits hn]

theorem digits_toString (n : Nat) : digits (toString n).toList = n := by
  have hd : ∀ c ∈ (toString n).toList, c.isDigit = true := fun _ => Text.isDigit_of_mem_toString
  rw [digits, Text.digitsValue_ten hd, toList_toString, Nat.ofDigitChars_ten_toDigits]
  rfl

section RoundTrip

variable (F : FloatText)

/-- The number reads back from its text. -/
def Printable (n : JsonNumber) : Prop :=
  numberText F n ≠ [] ∧ (∀ c ∈ numberText F n, isNumberChar c = true) ∧ number F (numberText F n) = some n

theorem printable_posInt (n : UInt64) : Printable F (.posInt n) := by
  have hlit := isIntegerLiteral_toString n.toNat
  have hval := digits_toString n.toNat
  refine ⟨?_, ?_, ?_⟩
  · rw [numberText, toList_toString]
    exact Nat.toDigits_ne_nil
  · intro c hc
    exact isNumberChar_of_isDigit (Text.isDigit_of_mem_toString hc)
  · rw [numberText, number, hval, if_pos ⟨hlit, n.toNat_lt⟩, UInt64.ofNat_toNat]
    intro ds hds
    have hminus : Char.isDigit '-' = true := Text.isDigit_of_mem_toString (n := n.toNat) (by rw [hds]; simp)
    exact absurd hminus (by decide)

mutual
/-- Every number of the document reads back from its text. -/
def Writable : Json → Prop
  | .num n => Printable F n
  | .arr items => WritableItems items
  | .obj members => WritableMembers members
  | _ => True

def WritableItems : List Json → Prop
  | [] => True
  | j :: js => Writable j ∧ WritableItems js

def WritableMembers : List (String × Json) → Prop
  | [] => True
  | (_, j) :: ms => Writable j ∧ WritableMembers ms
end

variable {F}

theorem writableItems_of_forall {items : List Json} (h : ∀ j ∈ items, Writable F j) : WritableItems F items := by
  induction items with
  | nil => exact trivial
  | cons j _ ih => exact ⟨h j mem_cons_self, ih fun i hi => h i (mem_cons_of_mem j hi)⟩

theorem writableMembers_of_forall {members : List (String × Json)} (h : ∀ m ∈ members, Writable F m.2) :
    WritableMembers F members := by
  induction members with
  | nil => exact trivial
  | cons m _ ih => exact ⟨h m mem_cons_self, ih fun n hn => h n (mem_cons_of_mem m hn)⟩

/-! ## Documents read back -/

theorem skipBlanks_cons (h : isBlank c = false) (r : List Char) : skipBlanks (c :: r) = c :: r := by
  rw [skipBlanks, dropWhile_cons, h]
  rfl

theorem not_isBlank_of_isNumberChar (h : isNumberChar c = true) : isBlank c = false := by
  by_contra hblank
  rw [Bool.not_eq_false, isBlank] at hblank
  simp only [Bool.or_eq_true, beq_iff_eq] at hblank
  rcases hblank with ((rfl | rfl) | rfl) | rfl <;> exact ne_of_isNumberChar h rfl rfl

variable {j : Json}

theorem text_eq_cons (h : Writable F j) : ∃ c t, text F j = c :: t ∧ isBlank c = false ∧ c ≠ ']' ∧ c ≠ '}' := by
  rcases j with _ | (_ | _) | n | s | (_ | ⟨j, js⟩) | (_ | ⟨⟨k, j⟩, ms⟩)
  case num =>
    obtain ⟨hne, hall, -⟩ := h
    obtain ⟨c, t, ht⟩ := exists_cons_of_ne_nil hne
    have hc : isNumberChar c = true := hall c (by rw [ht]; exact mem_cons_self)
    exact ⟨c, t, by rw [text, ht], not_isBlank_of_isNumberChar hc, ne_of_isNumberChar hc rfl, ne_of_isNumberChar hc rfl⟩
  all_goals exact ⟨_, _, rfl, by decide, by decide, by decide⟩

theorem scalar_number {n : JsonNumber} (h : Printable F n) (hr : Stops r) :
    scalar F (numberText F n ++ r) = some (.num n, r) := by
  obtain ⟨hne, hall, hread⟩ := h
  obtain ⟨htake, hdrop⟩ := takeWhile_token hall hr
  obtain ⟨c, t, ht⟩ := exists_cons_of_ne_nil hne
  have hc : isNumberChar c = true := hall c (by rw [ht]; exact mem_cons_self)
  have hscalar : scalar F (numberText F n ++ r) =
      (number F ((numberText F n ++ r).takeWhile isNumberChar)).map
        fun m => (.num m, (numberText F n ++ r).dropWhile isNumberChar) := by
    rw [ht, cons_append, scalar]
    · exact fun _ h => ne_of_isNumberChar hc rfl (List.cons.inj h).1
    · exact fun _ h => ne_of_isNumberChar hc rfl (List.cons.inj h).1
    · exact fun _ h => ne_of_isNumberChar hc rfl (List.cons.inj h).1
  rw [hscalar, htake, hdrop, hread]
  rfl

/-! ### One step of each reader -/

section Steps

variable {fuel levels : Nat} {j : Json} {k : String} {cs r : List Char}

theorem quoted_append (s : String) (r : List Char) :
    quoted s ++ r = '"' :: (s.toList.flatMap escapeChar ++ '"' :: r) := by
  rw [quoted, cons_append, append_assoc, singleton_append]

theorem memberKey_quoted (k : String) (r : List Char) : memberKey (quoted k ++ ':' :: r) = some (k, r) := by
  rw [memberKey, quoted_append, skipBlanks_cons (by decide)]
  change (match stringBody (k.toList.flatMap escapeChar ++ '"' :: (':' :: r)) with | none => none | some (k, r) => _) = _
  rw [stringBody_flatMap]
  change some (String.ofList k.toList, r) = _
  rw [String.ofList_toList]

theorem value_string (s : String) (r : List Char) : value F (fuel + 1) levels (quoted s ++ r) = some (.str s, r) := by
  rw [value, quoted_append, skipBlanks_cons (by decide)]
  change (stringBody (s.toList.flatMap escapeChar ++ '"' :: r)).map _ = _
  rw [stringBody_flatMap, Option.map_some, String.ofList_toList]

theorem value_array {c : Char} (hblank : isBlank c = false) (hend : c ≠ ']') :
    value F (fuel + 1) (levels + 1) ('[' :: c :: r) = (items F fuel levels (c :: r)).map fun p => (.arr p.1, p.2) := by
  change (match skipBlanks (c :: r) with | ']' :: r => _ | _ => _) = _
  rw [skipBlanks_cons hblank]
  split
  · next h => exact absurd (List.cons.inj h).1 hend
  · rfl

theorem value_object {c : Char} (hblank : isBlank c = false) (hend : c ≠ '}') :
    value F (fuel + 1) (levels + 1) ('{' :: c :: r) =
      (members F fuel levels (c :: r)).map fun p => (.obj p.1, p.2) := by
  change (match skipBlanks (c :: r) with | '}' :: r => _ | _ => _) = _
  rw [skipBlanks_cons hblank]
  split
  · next h => exact absurd (List.cons.inj h).1 hend
  · rfl

theorem value_number {n : JsonNumber} (h : Printable F n) (hr : Stops r) :
    value F (fuel + 1) levels (numberText F n ++ r) = some (.num n, r) := by
  obtain ⟨c, t, ht⟩ := exists_cons_of_ne_nil h.1
  have hc : isNumberChar c = true := h.2.1 c (by rw [ht]; exact mem_cons_self)
  have hscalar := scalar_number h hr
  rw [ht, cons_append] at hscalar ⊢
  rw [value, skipBlanks_cons (not_isBlank_of_isNumberChar hc)]
  split
  · next heq => exact absurd (List.cons.inj heq).1 (ne_of_isNumberChar hc rfl)
  · next heq => exact absurd (List.cons.inj heq).1 (ne_of_isNumberChar hc rfl)
  · next heq => exact absurd (List.cons.inj heq).1 (ne_of_isNumberChar hc rfl)
  · exact hscalar

end Steps

/-! ### The induction -/

theorem stops_itemsTail (js : List Json) (r : List Char) : Stops (itemsTail F js ++ r) := by
  intro c hc
  rcases js with _ | ⟨j, js⟩ <;> rw [itemsTail] at hc <;> cases hc <;> rfl

variable (ms : List (String × Json))

theorem stops_membersTail (r : List Char) : Stops (membersTail F ms ++ r) := by
  intro c hc
  rcases ms with _ | ⟨⟨k, j⟩, ms⟩ <;> rw [membersTail] at hc <;> cases hc <;> rfl

/-- What the three readers do on written text with that many calls at their disposal. -/
structure ReadsBack (F : FloatText) (fuel : Nat) : Prop where
  value {j : Json} {levels : Nat} {r : List Char} (hw : Writable F j) (hlen : (text F j).length ≤ fuel)
    (hdepth : j.depth ≤ levels) (hr : Stops r) : value F fuel levels (text F j ++ r) = some (j, r)
  items {j : Json} {js : List Json} {levels : Nat} {r : List Char} (hw : WritableItems F (j :: js))
    (hlen : (text F j ++ itemsTail F js).length ≤ fuel) (hdepth : Json.depthItems (j :: js) ≤ levels) :
    items F fuel levels (text F j ++ (itemsTail F js ++ r)) = some (j :: js, r)
  members {k : String} {j : Json} {ms : List (String × Json)} {levels : Nat} {r : List Char}
    (hw : WritableMembers F ((k, j) :: ms)) (hlen : (text F j ++ membersTail F ms).length ≤ fuel)
    (hdepth : Json.depthMembers ((k, j) :: ms) ≤ levels) :
    members F fuel levels (quoted k ++ ':' :: (text F j ++ (membersTail F ms ++ r))) = some ((k, j) :: ms, r)

theorem length_text_pos (h : Writable F j) : 0 < (text F j).length := by
  obtain ⟨c, t, ht, -⟩ := text_eq_cons h
  rw [ht]
  exact Nat.succ_pos _

theorem readsBack_items {fuel : Nat} (ih : ReadsBack F fuel) {js : List Json} {levels : Nat}
    (hw : WritableItems F (j :: js)) (hlen : (text F j ++ itemsTail F js).length ≤ fuel + 1)
    (hdepth : Json.depthItems (j :: js) ≤ levels) :
    items F (fuel + 1) levels (text F j ++ (itemsTail F js ++ r)) = some (j :: js, r) := by
  rw [length_append] at hlen
  have hpos : 0 < (itemsTail F js).length := by
    rcases js with _ | ⟨k, ks⟩ <;> rw [itemsTail] <;> exact Nat.succ_pos _
  have hfirst : value F fuel levels (text F j ++ (itemsTail F js ++ r)) = some (j, itemsTail F js ++ r) :=
    ih.value hw.1 (by omega) ((Nat.le_max_left _ _).trans hdepth) (stops_itemsTail js r)
  rcases js with _ | ⟨k, ks⟩
  · rw [items, hfirst]
    rfl
  · have htail : itemsTail F (k :: ks) ++ r = ',' :: (text F k ++ (itemsTail F ks ++ r)) := by
      rw [itemsTail, cons_append, append_assoc]
    rw [htail] at hfirst ⊢
    rw [items, hfirst]
    change (items F fuel levels _).map _ = _
    rw [ih.items hw.2 (by rw [itemsTail, length_cons] at hlen; omega) ((Nat.le_max_right _ _).trans hdepth)]
    rfl

theorem readsBack_members {fuel : Nat} (ih : ReadsBack F fuel) {k : String} {ms : List (String × Json)} {levels : Nat}
    (hw : WritableMembers F ((k, j) :: ms)) (hlen : (text F j ++ membersTail F ms).length ≤ fuel + 1)
    (hdepth : Json.depthMembers ((k, j) :: ms) ≤ levels) :
    members F (fuel + 1) levels (quoted k ++ ':' :: (text F j ++ (membersTail F ms ++ r))) = some ((k, j) :: ms, r) := by
  rw [length_append] at hlen
  have hpos : 0 < (membersTail F ms).length := by
    rcases ms with _ | ⟨⟨k, j⟩, ms⟩ <;> rw [membersTail] <;> exact Nat.succ_pos _
  have hfirst : value F fuel levels (text F j ++ (membersTail F ms ++ r)) = some (j, membersTail F ms ++ r) :=
    ih.value hw.1 (by omega) ((Nat.le_max_left _ _).trans hdepth) (stops_membersTail ms r)
  rw [members, memberKey_quoted]
  dsimp only
  rcases ms with _ | ⟨⟨k', j'⟩, ms⟩
  · rw [hfirst]
    rfl
  · have htail : membersTail F ((k', j') :: ms) ++ r =
        ',' :: (quoted k' ++ ':' :: (text F j' ++ (membersTail F ms ++ r))) := by
      rw [membersTail]
      simp only [cons_append, append_assoc]
    rw [hfirst, htail]
    change (members F fuel levels _).map _ = _
    rw [ih.members hw.2 ?_ ((Nat.le_max_right _ _).trans hdepth)]
    · rfl
    · rw [membersTail, length_cons, length_append, length_cons] at hlen
      omega

theorem readsBack_value {fuel : Nat} (ih : ReadsBack F fuel) {levels : Nat} (hw : Writable F j)
    (hlen : (text F j).length ≤ fuel + 1) (hdepth : j.depth ≤ levels) (hr : Stops r) :
    value F (fuel + 1) levels (text F j ++ r) = some (j, r) := by
  cases j with
  | null => rfl
  | bool b => cases b <;> rfl
  | num => exact value_number hw hr
  | str s => exact value_string s r
  | arr js =>
    rw [Json.depth] at hdepth
    obtain ⟨levels, rfl⟩ : ∃ l, levels = l + 1 := ⟨levels - 1, by omega⟩
    rcases js with _ | ⟨j, js⟩
    · rfl
    rw [Writable] at hw
    obtain ⟨c, t, ht, hblank, hend, -⟩ := text_eq_cons (WritableItems.eq_2 F j js ▸ hw).1
    have htext : text F (.arr (j :: js)) ++ r = '[' :: (text F j ++ (itemsTail F js ++ r)) := by
      rw [text, cons_append, append_assoc]
    rw [text, length_cons] at hlen
    have hitems := ih.items (r := r) hw (by omega) (Nat.le_of_succ_le_succ hdepth)
    rw [htext]
    rw [ht, cons_append] at hitems ⊢
    rw [value_array hblank hend, hitems]
    rfl
  | obj ms =>
    rw [Json.depth] at hdepth
    obtain ⟨levels, rfl⟩ : ∃ l, levels = l + 1 := ⟨levels - 1, by omega⟩
    rcases ms with _ | ⟨⟨k, j⟩, ms⟩
    · rfl
    have htext : text F (.obj ((k, j) :: ms)) ++ r =
        '{' :: (quoted k ++ ':' :: (text F j ++ (membersTail F ms ++ r))) := by
      rw [text]
      simp only [cons_append, append_assoc]
    rw [text, length_cons, length_append, length_cons] at hlen
    have hmembers := ih.members (r := r) hw (by omega) (Nat.le_of_succ_le_succ hdepth)
    rw [htext]
    rw [quoted, cons_append] at hmembers ⊢
    rw [value_object (by decide) (by decide), hmembers]
    rfl

theorem readsBack (fuel : Nat) : ReadsBack F fuel := by
  induction fuel with
  | zero =>
    constructor
    · intro j _ _ hw hlen
      exact absurd (length_text_pos hw) (by omega)
    · intro j js _ _ hw hlen
      rw [length_append] at hlen
      exact absurd (length_text_pos hw.1) (by omega)
    · intro k j ms _ _ hw hlen
      rw [length_append] at hlen
      exact absurd (length_text_pos hw.1) (by omega)
  | succ _ ih => exact ⟨readsBack_value ih, readsBack_items ih, readsBack_members ih⟩

/-- **A document reads back from its text**, if its numbers do and it is not nested deeper than the
reader goes. -/
theorem read_text (hw : Writable F j) (hdepth : j.depth ≤ maxLevels) : read F (text F j) = some j := by
  have hvalue : value F (2 * (text F j).length + 1) maxLevels (text F j ++ []) = some (j, []) :=
    (readsBack _).value hw (by omega) hdepth fun c hc => nomatch hc
  rw [append_nil] at hvalue
  rw [read, hvalue]
  rfl

/-! ## Written text has no control characters -/

theorem printed_of_all {cs : List Char} (h : cs.all (fun c => decide (32 ≤ c.toNat)) = true) :
    ∀ c ∈ cs, 32 ≤ c.toNat := by
  intro c hc
  exact of_decide_eq_true (all_eq_true.mp h c hc)

theorem printed_escapeChar (c : Char) : ∀ d ∈ escapeChar c, 32 ≤ d.toNat := by
  by_cases hc : c.toNat < 32
  · have hall : ∀ n < 32, (escapeChar (Char.ofNat n)).all (fun d => decide (32 ≤ d.toNat)) = true := by decide
    have hprinted := hall c.toNat hc
    rw [Char.ofNat_toNat] at hprinted
    exact printed_of_all hprinted
  by_cases hq : c = '"'
  · subst hq
    exact printed_of_all rfl
  by_cases hb : c = '\\'
  · subst hb
    exact printed_of_all rfl
  rw [escapeChar_plain hq hb hc]
  intro d hd
  rw [mem_singleton.mp hd]
  omega

theorem printed_quoted (s : String) : ∀ c ∈ quoted s, 32 ≤ c.toNat := by
  intro c hc
  rw [quoted, mem_cons, mem_append, mem_singleton, mem_flatMap] at hc
  rcases hc with rfl | ⟨d, -, hd⟩ | rfl
  · decide
  · exact printed_escapeChar d c hd
  · decide

theorem printed_numberChar (h : isNumberChar c = true) : 32 ≤ c.toNat := by
  simp only [isNumberChar, Bool.or_eq_true, beq_iff_eq] at h
  rcases h with ((((h | rfl) | rfl) | rfl) | rfl) | rfl
  · have h0 := (Text.toNat_of_isDigit h).1
    omega
  all_goals decide

theorem printed_part {sep : Char} (hsep : 32 ≤ sep.toNat) {cs rest : List Char} (hcs : ∀ c ∈ cs, 32 ≤ c.toNat)
    (hrest : ∀ c ∈ rest, 32 ≤ c.toNat) : ∀ c ∈ sep :: (cs ++ rest), 32 ≤ c.toNat :=
  forall_mem_cons.mpr ⟨hsep, forall_mem_append.mpr ⟨hcs, hrest⟩⟩

mutual
theorem printed_text : (j : Json) → Writable F j → ∀ c ∈ text F j, 32 ≤ c.toNat
  | .null, _ => by rw [text]; exact printed_of_all rfl
  | .bool true, _ => by rw [text]; exact printed_of_all rfl
  | .bool false, _ => by rw [text]; exact printed_of_all rfl
  | .num n, hw => fun c hc => printed_numberChar (hw.2.1 c hc)
  | .str s, _ => printed_quoted s
  | .arr [], _ => by rw [text]; exact printed_of_all rfl
  | .arr (j :: js), hw => by
    rw [Writable, WritableItems] at hw
    rw [text]
    exact printed_part (by decide) (printed_text j hw.1) (printed_itemsTail js hw.2)
  | .obj [], _ => by rw [text]; exact printed_of_all rfl
  | .obj ((k, j) :: ms), hw => by
    rw [Writable, WritableMembers] at hw
    rw [text]
    exact printed_part (by decide) (printed_quoted k)
      (printed_part (by decide) (printed_text j hw.1) (printed_membersTail ms hw.2))

theorem printed_itemsTail : (js : List Json) → WritableItems F js → ∀ c ∈ itemsTail F js, 32 ≤ c.toNat
  | [], _ => by rw [itemsTail]; exact printed_of_all rfl
  | j :: js, hw => by
    rw [WritableItems] at hw
    rw [itemsTail]
    exact printed_part (by decide) (printed_text j hw.1) (printed_itemsTail js hw.2)

theorem printed_membersTail : (ms : List (String × Json)) → WritableMembers F ms → ∀ c ∈ membersTail F ms, 32 ≤ c.toNat
  | [], _ => by rw [membersTail]; exact printed_of_all rfl
  | (k, j) :: ms, hw => by
    rw [WritableMembers] at hw
    rw [membersTail]
    exact printed_part (by decide) (printed_quoted k)
      (printed_part (by decide) (printed_text j hw.1) (printed_membersTail ms hw.2))
end

theorem membersTail_ends : ∃ mid, membersTail F ms = mid ++ ['}'] := by
  induction ms with
  | nil => exact ⟨[], rfl⟩
  | cons m _ ih =>
    obtain ⟨mid, h⟩ := ih
    refine ⟨',' :: (quoted m.1 ++ ':' :: (text F m.2 ++ mid)), ?_⟩
    rw [membersTail, h]
    simp

theorem text_obj_ends : ∃ mid, text F (.obj ms) = '{' :: (mid ++ ['}']) := by
  cases ms with
  | nil => exact ⟨[], by rw [text]; rfl⟩
  | cons m ms =>
    obtain ⟨mid, h⟩ := membersTail_ends (F := F) ms
    refine ⟨quoted m.1 ++ ':' :: (text F m.2 ++ mid), ?_⟩
    rw [text, h]
    simp

/-! ## A document as a line of a file -/

theorem unbroken_text (h : Writable F j) : '\n' ∉ text F j ∧ '\r' ∉ text F j := by
  constructor
  · intro hmem
    exact absurd (printed_text j h _ hmem) (by decide)
  · intro hmem
    exact absurd (printed_text j h _ hmem) (by decide)

theorem trim_text_obj : Lines.trim (text F (.obj ms)) = text F (.obj ms) := by
  obtain ⟨mid, h⟩ := text_obj_ends (F := F) ms
  rw [h]
  exact Lines.trim_of_ends rfl rfl

theorem text_obj_ne_nil : text F (.obj ms) ≠ [] := by
  obtain ⟨mid, h⟩ := text_obj_ends (F := F) ms
  rw [h]
  exact cons_ne_nil _ _

end RoundTrip

end JsonText

end OneCipher
