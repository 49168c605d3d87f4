import OneCipher.Wallet.PolicyStore

/-!
# OneCipher.Secret.Envelope — the path- and generation-bound envelope of a payload

`oc-secret/src/envelope.rs`.  Before encryption a payload gets a header of four lines: magic, tag, the
name it is stored under and its generation; a blank line ends the header.  An envelope opens under the
name it was made for, with its generation and payload, and under no other (`unwrapEnvelope_wrapped`).
-/

namespace OneCipher.Secret

open List String
open String (utf8EncodeChar)

def envelopeMagic : String := "ocenv/1"

def envelopeTag : String := "secret"

inductive EnvelopeError where
  | tampered (path reason : String)
  | invalidPath (detail : String)
  deriving DecidableEq, Repr

/-! ## Wrapping and unwrapping -/

def headerLines (path : String) (generation : Nat) : List (List Char) :=
  [envelopeMagic.toList, ("tag:" ++ envelopeTag).toList, "path:".toList ++ path.toList,
    "generation:".toList ++ (toString generation).toList]

def headerText (path : String) (generation : Nat) : String :=
  String.ofList (['\n'].intercalate (headerLines path generation))

/-- `wrap_envelope`. -/
def wrapEnvelope (path : String) (generation : Nat) (payloadJson : Bytes) : Except EnvelopeError Bytes :=
  if path = "" ∨ path.toList.any (fun c => c = '\n' ∨ c = '\r' ∨ c = Char.ofNat 0) then
    .error (.invalidPath "path must not contain newline or NUL")
  else .ok (Text.utf8 (headerText path generation) ++ 10 :: 10 :: payloadJson)

def splitHeader : Bytes → Option (Bytes × Bytes)
  | [] => none
  | x :: rest =>
    if x = 10 ∧ rest.head? = some 10 then some ([], rest.tail)
    else (splitHeader rest).map fun p => (x :: p.1, p.2)

variable (tampered : String → EnvelopeError) (expectedPath : String)

def readGeneration (lines : List (List Char)) : Except EnvelopeError Nat :=
  match lines with
  | [] => .error (tampered "missing generation")
  | line :: rest => match "generation:".toList.isPrefixOf? line with
    | none => .error (tampered "bad generation line")
    | some text =>
      if text = [] ∨ ¬ text.all Char.isDigit then .error (tampered "bad generation")
      else if rest ≠ [] then .error (tampered "extra header line")
      else match Text.parseUnsigned 10 (2 ^ 64) (String.ofList text) with
        | none => .error (tampered "bad generation")
        | some n => .ok n

def readPath (lines : List (List Char)) : Except EnvelopeError Nat :=
  match lines with
  | [] => .error (tampered "missing path")
  | line :: rest => match "path:".toList.isPrefixOf? line with
    | none => .error (tampered "bad path line")
    | some path =>
      if path ≠ expectedPath.toList then .error (tampered "path mismatch")
      else readGeneration tampered rest

def readHeader (lines : List (List Char)) : Except EnvelopeError Nat :=
  match lines with
  | [] => .error (tampered "missing magic")
  | magic :: rest =>
    if magic ≠ envelopeMagic.toList then .error (tampered "bad magic")
    else match rest with
      | [] => .error (tampered "missing tag")
      | tag :: rest =>
        if tag ≠ ("tag:" ++ envelopeTag).toList then .error (tampered "bad tag")
        else readPath tampered expectedPath rest

/-- `unwrap_envelope`: the generation and the payload. -/
def unwrapEnvelope (data : Bytes) : Except EnvelopeError (Nat × Bytes) :=
  match splitHeader data with
  | none => .error (.tampered expectedPath "missing header/payload separator")
  | some (header, payload) => match Wallet.utf8Text header with
    | none => .error (.tampered expectedPath "header is not UTF-8")
    | some text => (readHeader (.tampered expectedPath) expectedPath (text.toList.splitOn '\n')).map fun n =>
        (n, payload)

/-! ## The header of an envelope -/

/-- The path can be embedded: no line break, no NUL. -/
def Embeddable (path : String) : Prop := path ≠ "" ∧ ∀ c ∈ path.toList, c ≠ '\n' ∧ c ≠ '\r' ∧ c ≠ Char.ofNat 0

variable {path : String}

theorem wrapEnvelope_of_embeddable (h : Embeddable path) (generation : Nat) (payloadJson : Bytes) :
    wrapEnvelope path generation payloadJson =
      .ok (Text.utf8 (headerText path generation) ++ 10 :: 10 :: payloadJson) := by
  rw [wrapEnvelope, if_neg]
  rintro (he | hc)
  · exact h.1 he
  · obtain ⟨c, hmem, hbad⟩ := any_eq_true.mp hc
    obtain ⟨h1, h2, h3⟩ := h.2 c hmem
    rcases of_decide_eq_true hbad with he | he | he
    · exact h1 he
    · exact h2 he
    · exact h3 he

theorem newline_of_mem_utf8EncodeChar {c : Char} (h : 10 ∈ utf8EncodeChar c) : c = '\n' := by
  have hbyte : ∀ n : Nat, n < 256 → (10 : UInt8) = UInt8.ofNat n → n = 10 := by
    intro n hn he
    have := congrArg UInt8.toNat he
    rw [UInt8.toNat_ofNat_of_lt' hn] at this
    exact this.symm
  have hnat : c.toNat = 10 := by
    unfold utf8EncodeChar at h
    dsimp only at h
    change c.val.toNat = 10
    split_ifs at h with h1 h2 h3
    all_goals simp only [mem_cons, not_mem_nil, or_false] at h
    · exact hbyte _ (by omega) h
    · rcases h with h | h <;> have := hbyte _ (by omega) h <;> omega
    · rcases h with h | h | h <;> have := hbyte _ (by omega) h <;> omega
    · rcases h with h | h | h | h <;> have := hbyte _ (by omega) h <;> omega
  have := Char.ofNat_toNat c
  rw [hnat] at this
  exact this.symm

theorem newline_not_mem_encode {cs : List Char} (h : '\n' ∉ cs) : 10 ∉ cs.flatMap utf8EncodeChar := by
  intro hmem
  obtain ⟨c, hc, hbyte⟩ := mem_flatMap.mp hmem
  exact h (newline_of_mem_utf8EncodeChar hbyte ▸ hc)

theorem head?_encode_ne {c : Char} (hc : c ≠ '\n') {cs : List Char} {r : Bytes} :
    ((c :: cs).flatMap utf8EncodeChar ++ r).head? ≠ some 10 := by
  intro hhead
  have hne : utf8EncodeChar c ≠ [] := by
    rw [← length_pos_iff, length_utf8EncodeChar]
    exact c.utf8Size_pos
  rw [flatMap_cons, List.append_assoc, List.head?_append_of_ne_nil _ hne] at hhead
  exact hc (newline_of_mem_utf8EncodeChar (List.mem_of_head? hhead))

theorem splitHeader_line {b r : Bytes} (hb : 10 ∉ b) (hr : r.head? ≠ some 10) :
    splitHeader (b ++ 10 :: r) = (splitHeader r).map fun p => (b ++ 10 :: p.1, p.2) := by
  induction b with
  | nil => rw [nil_append, splitHeader, if_neg fun h => hr h.2]; rfl
  | cons x b ih =>
    rw [mem_cons, not_or] at hb
    rw [cons_append, splitHeader, if_neg fun h => hb.1 h.1.symm, ih hb.2, Option.map_map]
    rfl

theorem splitHeader_end {b : Bytes} (hb : 10 ∉ b) (payload : Bytes) :
    splitHeader (b ++ 10 :: 10 :: payload) = some (b, payload) := by
  induction b with
  | nil => rfl
  | cons x b ih =>
    rw [mem_cons, not_or] at hb
    rw [cons_append, splitHeader, if_neg fun h => hb.1 h.1.symm, ih hb.2]
    rfl

theorem newline_not_mem_headerLines (h : Embeddable path) (generation : Nat) :
    ∀ line ∈ headerLines path generation, '\n' ∉ line := by
  intro line hline
  simp only [headerLines, mem_cons, not_mem_nil, or_false] at hline
  rcases hline with rfl | rfl | rfl | rfl
  · decide
  · decide
  · rw [mem_append, not_or]
    exact ⟨by decide, fun hmem => (h.2 _ hmem).1 rfl⟩
  · rw [mem_append, not_or]
    refine ⟨by decide, fun hmem => ?_⟩
    exact absurd (Text.isDigit_of_mem_toString hmem) (by decide)

theorem splitHeader_lines {lines : List (List Char)} (hne : lines ≠ []) (h : ∀ l ∈ lines, l ≠ [] ∧ '\n' ∉ l)
    (payload : Bytes) :
    splitHeader ((['\n'].intercalate lines).flatMap utf8EncodeChar ++ 10 :: 10 :: payload) =
      some ((['\n'].intercalate lines).flatMap utf8EncodeChar, payload) := by
  induction lines with
  | nil => exact absurd rfl hne
  | cons l ls ih =>
    have hl := h l mem_cons_self
    rcases ls with _ | ⟨l', ls⟩
    · rw [List.intercalate_singleton]
      exact splitHeader_end (newline_not_mem_encode hl.2) payload
    · have hrest := ih (cons_ne_nil _ _) fun m hm => h m (mem_cons_of_mem _ hm)
      have hl' := h l' (mem_cons_of_mem _ mem_cons_self)
      have hcons : (['\n'].intercalate (l :: l' :: ls)).flatMap utf8EncodeChar =
          l.flatMap utf8EncodeChar ++ 10 :: (['\n'].intercalate (l' :: ls)).flatMap utf8EncodeChar := by
        rw [List.intercalate_cons_cons, flatMap_append, flatMap_append, List.append_assoc]
        rfl
      have hhead : ((['\n'].intercalate (l' :: ls)).flatMap utf8EncodeChar ++ 10 :: 10 :: payload).head? ≠
          some 10 := by
        obtain ⟨c, cs, rfl⟩ := exists_cons_of_ne_nil hl'.1
        have hstart : ∃ t, ['\n'].intercalate ((c :: cs) :: ls) = c :: t := by
          rcases ls with _ | ⟨m, ms⟩
          · exact ⟨cs, by rw [List.intercalate_singleton]⟩
          · exact ⟨_, by rw [List.intercalate_cons_cons, cons_append, cons_append]⟩
        obtain ⟨t, ht⟩ := hstart
        rw [ht]
        exact head?_encode_ne fun he => hl'.2 (he ▸ mem_cons_self)
      rw [hcons, List.append_assoc, cons_append, splitHeader_line (newline_not_mem_encode hl.2) hhead, hrest]
      rfl

theorem splitHeader_wrapped (h : Embeddable path) (generation : Nat) (payload : Bytes) :
    splitHeader (Text.utf8 (headerText path generation) ++ 10 :: 10 :: payload) =
      some (Text.utf8 (headerText path generation), payload) := by
  rw [Text.utf8, headerText, toList_ofList]
  refine splitHeader_lines (cons_ne_nil _ _) (fun l hl => ⟨?_, newline_not_mem_headerLines h generation l hl⟩) payload
  simp only [mem_cons, not_mem_nil, or_false] at hl
  rcases hl with rfl | rfl | rfl | rfl
  · decide
  · decide
  · exact cons_ne_nil _ _
  · exact cons_ne_nil _ _

theorem splitOn_headerText (h : Embeddable path) (generation : Nat) :
    (headerText path generation).toList.splitOn '\n' = headerLines path generation := by
  rw [headerText, toList_ofList]
  exact splitOn_intercalate _ (newline_not_mem_headerLines h generation) (cons_ne_nil _ _)

theorem isPrefixOf?_append (a b : List Char) : a.isPrefixOf? (a ++ b) = some b := by
  induction a with
  | nil => rfl
  | cons c a ih => rw [cons_append, List.isPrefixOf?, beq_self_eq_true, if_pos rfl, ih]

theorem readHeader_headerLines (path : String) {generation : Nat} (hgen : generation < 2 ^ 64) :
    readHeader tampered expectedPath (headerLines path generation) =
      if path = expectedPath then .ok generation else .error (tampered "path mismatch") := by
  have hdigits : ∀ c ∈ (toString generation).toList, c.isDigit = true := fun _ => Text.isDigit_of_mem_toString
  have hne : (toString generation).toList ≠ [] := by
    rw [Nat.toString_eq_repr, Nat.toList_repr]
    exact Nat.toDigits_ne_nil
  rw [headerLines, readHeader, if_neg (not_not.mpr rfl), if_neg (not_not.mpr rfl), readPath, isPrefixOf?_append]
  dsimp only
  by_cases hp : path = expectedPath
  · subst hp
    rw [if_neg (not_not.mpr rfl), if_pos rfl, readGeneration, isPrefixOf?_append]
    dsimp only
    rw [if_neg, if_neg (not_not.mpr rfl), ofList_toList, Text.parseUnsigned_toString hgen]
    rintro (he | ha)
    · exact hne he
    · exact ha (all_eq_true.mpr hdigits)
  · rw [if_pos fun he => hp (toList_injective he), if_neg hp]

/-- **An envelope opens under the name it was made for**, with its generation and payload, and under
no other. -/
theorem unwrapEnvelope_wrapped (h : Embeddable path) (expectedPath : String) {generation : Nat}
    (hgen : generation < 2 ^ 64) (payload : Bytes) :
    unwrapEnvelope expectedPath (Text.utf8 (headerText path generation) ++ 10 :: 10 :: payload) =
      if path = expectedPath then .ok (generation, payload) else .error (.tampered expectedPath "path mismatch") := by
  rw [unwrapEnvelope, splitHeader_wrapped h]
  dsimp only
  rw [Wallet.utf8Text_utf8]
  dsimp only
  rw [splitOn_headerText h, readHeader_headerLines _ _ _ hgen]
  by_cases hp : path = expectedPath
  · rw [if_pos hp, if_pos hp]
    rfl
  · rw [if_neg hp, if_neg hp]
    rfl

theorem embeddable_of_wrapEnvelope {generation : Nat} {payloadJson data : Bytes}
    (h : wrapEnvelope path generation payloadJson = .ok data) : Embeddable path := by
  rw [wrapEnvelope] at h
  split_ifs at h with hbad
  rw [not_or] at hbad
  refine ⟨hbad.1, fun c hc => ?_⟩
  by_contra hnot
  exact hbad.2 (any_eq_true.mpr ⟨c, hc, decide_eq_true (by tauto)⟩)

theorem suffix_of_splitHeader {data header payload : Bytes} (h : splitHeader data = some (header, payload)) :
    payload <:+ data := by
  induction data generalizing header with
  | nil => cases h
  | cons x rest ih =>
    rw [splitHeader] at h
    split_ifs at h
    · cases h
      exact (tail_suffix rest).trans (suffix_cons x rest)
    · obtain ⟨p, hp, hpayload⟩ := Option.map_eq_some_iff.mp h
      cases hpayload
      exact (ih hp).trans (suffix_cons x rest)

/-- **An envelope opens under its path**, with its generation and payload, and under no other path; and whatever
opens, its payload is the end of it. -/
theorem envelope_bound_to_path (path : String) (generation : UInt64) (payload data : Bytes)
    (h : wrapEnvelope path generation.toNat payload = .ok data) :
    unwrapEnvelope path data = .ok (generation.toNat, payload) ∧
      (∀ path', path' ≠ path → ∃ e, unwrapEnvelope path' data = .error e) ∧
      ∀ path' input n rest, unwrapEnvelope path' input = .ok (n, rest) → rest <:+ input := by
  have hpath := embeddable_of_wrapEnvelope h
  rw [wrapEnvelope_of_embeddable hpath] at h
  cases h
  refine ⟨?_, fun path' hne => ⟨.tampered path' "path mismatch", ?_⟩, fun path' input n rest hok => ?_⟩
  · rw [unwrapEnvelope_wrapped hpath _ generation.toNat_lt, if_pos rfl]
  · rw [unwrapEnvelope_wrapped hpath _ generation.toNat_lt, if_neg hne.symm]
  · rw [unwrapEnvelope] at hok
    split at hok
    · cases hok
    · next hsplit =>
      split at hok
      · cases hok
      · obtain ⟨_, -, hrest⟩ := Result.map_eq_ok.mp hok
        cases hrest
        exact suffix_of_splitHeader hsplit

theorem envelope_bound_to_a : ∃ data, wrapEnvelope "a" 7 [1] = .ok data ∧ unwrapEnvelope "a" data = .ok (7, [1]) :=
  ⟨_, rfl, (envelope_bound_to_path "a" 7 [1] _ rfl).1⟩

end OneCipher.Secret
