import OneCipher.Base.JsonText

/-!
# OneCipher.Base.JsonTorn — an object after a torn one

Whether a text that starts with `{` can be one JSON object is decided, as far as brackets and strings go, by a scan
that keeps the depth and the place within a string.  `scan_of_read`: what the reader accepts scans to `done`.
-/

namespace OneCipher

open List Option

namespace JsonText

/-! ## The scan -/

/-- Between tokens, after the closing quote of a string, in a string, or in an escape of one. -/
inductive Mode where
  | plain
  | closed
  | str
  | escape
  | hex (left : Nat)
  deriving DecidableEq, Repr

/-- `inside d` is below `d + 1` open brackets. -/
inductive Scan where
  | refused
  | done
  | inside (depth : Nat) (mode : Mode)
  deriving DecidableEq, Repr

def Scan.close : Nat → Scan
  | 0 => .done
  | depth + 1 => .inside depth .plain

variable (depth : Nat) (s : Scan) (c : Char)

def Scan.stepPlain : Scan :=
  if c = '"' then .inside depth .str
  else if c = '{' ∨ c = '[' then .inside (depth + 1) .plain
  else if c = '}' ∨ c = ']' then .close depth
  else .inside depth .plain

def Scan.stepClosed : Scan :=
  if isBlank c then .inside depth .closed
  else if c = ':' ∨ c = ',' then .inside depth .plain
  else if c = '}' ∨ c = ']' then .close depth
  else .refused

def Scan.stepStr : Scan :=
  if c = '"' then .inside depth .closed
  else if c = '\\' then .inside depth .escape
  else .inside depth .str

def Scan.stepEscape : Scan :=
  if c = 'u' then .inside depth (.hex 3)
  else if (simpleEscape c).isSome then .inside depth .str
  else .refused

/-- `left` more digits follow this one. -/
def Scan.stepHex (left : Nat) (c : Char) : Scan :=
  if (Text.toDigit 16 c).isSome then
    match left with
    | 0 => .inside depth .str
    | left + 1 => .inside depth (.hex left)
  else .refused

def Scan.step : Scan → Char → Scan
  | .refused, _ => .refused
  | .done, c => if isBlank c then .done else .refused
  | .inside depth .plain, c => stepPlain depth c
  | .inside depth .closed, c => stepClosed depth c
  | .inside depth .str, c => stepStr depth c
  | .inside depth .escape, c => stepEscape depth c
  | .inside depth (.hex left), c => stepHex depth left c

def scan (cs : List Char) : Scan := cs.foldl Scan.step s

@[simp] theorem scan_nil : scan s [] = s := rfl

@[simp] theorem scan_cons (cs : List Char) : scan s (c :: cs) = scan (s.step c) cs := rfl

theorem scan_append (a b : List Char) : scan s (a ++ b) = scan (scan s a) b := foldl_append

theorem scan_refused (cs : List Char) : scan .refused cs = .refused := by
  induction cs with
  | nil => rfl
  | cons _ _ ih => exact ih

/-! ## What the reader passes over -/

section Reader

variable {depth : Nat} {F : FloatText}

theorem scan_skipBlanks {s : Scan} (hstay : ∀ c, isBlank c = true → s.step c = s) (cs : List Char) :
    scan s (skipBlanks cs) = scan s cs := by
  induction cs with
  | nil => rfl
  | cons c _ ih =>
    rw [skipBlanks, dropWhile_cons]
    cases h : isBlank c with
    | true =>
      rw [scan_cons, hstay c h]
      exact ih
    | false => rfl

theorem scan_plain_skipBlanks : ∀ cs, scan (.inside depth .plain) (skipBlanks cs) = scan (.inside depth .plain) cs := by
  refine scan_skipBlanks fun c h => ?_
  simp only [isBlank, Bool.or_eq_true, beq_iff_eq] at h
  rcases h with ((rfl | rfl) | rfl) | rfl <;> rfl

theorem scan_closed_skipBlanks :
    ∀ cs, scan (.inside depth .closed) (skipBlanks cs) = scan (.inside depth .closed) cs := by
  refine scan_skipBlanks fun c h => ?_
  rw [Scan.step, Scan.stepClosed, if_pos h]

variable {cs r : List Char}

theorem scan_done (h : skipBlanks r = []) : scan .done r = .done := by
  induction r with
  | nil => rfl
  | cons c _ ih =>
    rw [skipBlanks, dropWhile_cons] at h
    cases hc : isBlank c with
    | true =>
      rw [hc] at h
      have hstep : Scan.step .done c = .done := by
        rw [Scan.step, if_pos hc]
      rw [scan_cons, hstep]
      exact ih h
    | false =>
      rw [hc] at h
      cases h

theorem scan_hex4 {a b c d : Char} {n : Nat} (h : hex4 a b c d = some n) (r : List Char) :
    scan (.inside depth .str) ('\\' :: 'u' :: a :: b :: c :: d :: r) = scan (.inside depth .str) r := by
  have hdigit : ∀ x ∈ [a, b, c, d], (Text.toDigit 16 x).isSome = true := by
    unfold hex4 at h
    split at h
    · next ha hb hc hd => simp [ha, hb, hc, hd]
    · cases h
  have ha := hdigit a (by simp)
  have hb := hdigit b (by simp)
  have hc := hdigit c (by simp)
  have hd := hdigit d (by simp)
  change scan (((((Scan.inside depth (.hex 3)).step a).step b).step c).step d) r = _
  simp only [Scan.step, Scan.stepHex, ha, hb, hc, hd, if_true]

theorem rest_of_map_consFst {c : Char} {s r' : List Char} {x : Option (List Char × List Char)}
    (h : x.map (consFst c) = some (s, r')) : ∃ s', x = some (s', r') := by
  obtain ⟨⟨s', r⟩, rfl, hp⟩ := map_eq_some_iff.mp h
  cases hp
  exact ⟨s', rfl⟩

theorem scan_stringBody {s r' : List Char} (h : stringBody r = some (s, r')) :
    scan (.inside depth .str) r = scan (.inside depth .closed) r' := by
  fun_induction stringBody r generalizing s with
  | case2 r =>
    cases h
    rfl
  | case5 a b c d n hn _ e f g h' r m hm _ ih =>
    obtain ⟨s', hs'⟩ := rest_of_map_consFst h
    rw [scan_hex4 hn, scan_hex4 hm]
    exact ih hs'
  | case9 a b c d r n hn _ _ ih =>
    obtain ⟨s', hs'⟩ := rest_of_map_consFst h
    rw [scan_hex4 hn]
    exact ih hs'
  | case11 c r _ e he ih =>
    obtain ⟨s', hs'⟩ := rest_of_map_consFst h
    have hu : c ≠ 'u' := by
      rintro rfl
      cases he
    have hstep : Scan.step (.inside depth .escape) c = .inside depth .str := by
      rw [Scan.step, Scan.stepEscape, if_neg hu, he]
      rfl
    change scan (Scan.step (.inside depth .escape) c) r = _
    rw [hstep]
    exact ih hs'
  | case13 c r hq _ _ hc ih =>
    obtain ⟨s', hs'⟩ := rest_of_map_consFst h
    have hstep : Scan.step (.inside depth .str) c = .inside depth .str := by
      rw [Scan.step, Scan.stepStr, if_neg hq, if_neg fun hb => hc (Or.inl hb)]
    rw [scan_cons, hstep]
    exact ih hs'
  | _ => cases h

theorem scan_memberKey {k : String} (h : memberKey cs = some (k, r)) :
    scan (.inside depth .plain) cs = scan (.inside depth .plain) r := by
  rw [← scan_plain_skipBlanks cs]
  unfold memberKey at h
  split at h
  · next r₁ heq =>
    rw [heq]
    split at h
    · cases h
    · next k' r₂ hbody =>
      have hstr : scan (.inside depth .plain) ('"' :: r₁) = scan (.inside depth .closed) r₂ := scan_stringBody hbody
      rw [hstr, ← scan_closed_skipBlanks r₂]
      split at h
      · next r₃ heq' =>
        cases h
        rw [heq']
        rfl
      · cases h
  · cases h

/-! ## Values -/

theorem scan_plain_of_forall {token : List Char}
    (h : ∀ c ∈ token, c ≠ '"' ∧ c ≠ '{' ∧ c ≠ '[' ∧ c ≠ '}' ∧ c ≠ ']') (r : List Char) :
    scan (.inside depth .plain) (token ++ r) = scan (.inside depth .plain) r := by
  induction token with
  | nil => rfl
  | cons c _ ih =>
    obtain ⟨h1, h2, h3, h4, h5⟩ := h c mem_cons_self
    have hstep : Scan.step (.inside depth .plain) c = .inside depth .plain := by
      rw [Scan.step, Scan.stepPlain, if_neg h1, if_neg (not_or.mpr ⟨h2, h3⟩), if_neg (not_or.mpr ⟨h4, h5⟩)]
    rw [cons_append, scan_cons, hstep]
    exact ih fun d hd => h d (mem_cons_of_mem c hd)

theorem scan_scalar {j : Json} (h : scalar F cs = some (j, r)) :
    scan (.inside depth .plain) cs = scan (.inside depth .plain) r := by
  unfold scalar at h
  split at h
  · cases h
    rfl
  · cases h
    rfl
  · cases h
    rfl
  · obtain ⟨n, -, hn⟩ := map_eq_some_iff.mp h
    cases hn
    conv_lhs => rw [← takeWhile_append_dropWhile (p := isNumberChar) (l := cs)]
    apply scan_plain_of_forall
    intro c hc
    have hnum := mem_takeWhile_imp hc
    exact ⟨ne_of_isNumberChar hnum rfl, ne_of_isNumberChar hnum rfl, ne_of_isNumberChar hnum rfl,
      ne_of_isNumberChar hnum rfl, ne_of_isNumberChar hnum rfl⟩

/-- The scan is after a value: between tokens, or behind the quote of a string. -/
def AfterValue (depth : Nat) (cs r : List Char) : Prop :=
  scan (.inside depth .plain) cs = scan (.inside depth .plain) r ∨
    scan (.inside depth .plain) cs = scan (.inside depth .closed) r

theorem AfterValue.skipBlanks (h : AfterValue depth cs r) : AfterValue depth cs (skipBlanks r) := by
  rcases h with h | h
  · left
    rw [h, scan_plain_skipBlanks]
  · right
    rw [h, scan_closed_skipBlanks]

theorem AfterValue.comma (h : AfterValue depth cs (',' :: r)) :
    scan (.inside depth .plain) cs = scan (.inside depth .plain) r := by
  rcases h with h | h
  · exact h
  · exact h

theorem AfterValue.close {cs r : List Char} {c : Char} (h : AfterValue depth cs (c :: r)) (hc : c = '}' ∨ c = ']') :
    scan (.inside depth .plain) cs = scan (.close depth) r := by
  rcases hc with rfl | rfl <;> rcases h with h | h <;> exact h

/-- What the three readers consume with that many calls at their disposal. -/
structure Consumes (F : FloatText) (fuel : Nat) : Prop where
  value {levels depth : Nat} {cs r : List Char} {j : Json} (h : value F fuel levels cs = some (j, r)) :
    AfterValue depth cs r
  items {levels depth : Nat} {cs r : List Char} {js : List Json} (h : items F fuel levels cs = some (js, r)) :
    scan (.inside depth .plain) cs = scan (.close depth) r
  members {levels depth : Nat} {cs r : List Char} {ms : List (String × Json)}
    (h : members F fuel levels cs = some (ms, r)) : scan (.inside depth .plain) cs = scan (.close depth) r

theorem consumes_object {fuel levels : Nat} (ih : Consumes F fuel) {cs r : List Char} {j : Json}
    (h : value F (fuel + 1) levels ('{' :: cs) = some (j, r)) :
    scan (.inside depth .plain) cs = scan (.close depth) r := by
  change (match levels with | 0 => none | levels + 1 => _) = _ at h
  split at h
  · cases h
  · split at h
    · next r' heq =>
      cases h
      rw [← scan_plain_skipBlanks cs, heq]
      rfl
    · obtain ⟨⟨ms, r'⟩, hmembers, hp⟩ := map_eq_some_iff.mp h
      cases hp
      exact ih.members hmembers

theorem consumes_value {fuel levels : Nat} (ih : Consumes F fuel) {j : Json}
    (h : value F (fuel + 1) levels cs = some (j, r)) : AfterValue depth cs r := by
  rw [AfterValue, ← scan_plain_skipBlanks cs]
  rw [value] at h
  split at h
  · next r₁ heq =>
    rw [heq]
    obtain ⟨⟨s, r₂⟩, hbody, hp⟩ := map_eq_some_iff.mp h
    cases hp
    exact Or.inr (scan_stringBody hbody)
  · next r₁ heq =>
    rw [heq]
    left
    change scan (.inside (depth + 1) .plain) r₁ = _
    split at h
    · cases h
    · split at h
      · next r₂ heq' =>
        cases h
        rw [← scan_plain_skipBlanks r₁, heq']
        rfl
      · obtain ⟨⟨js, r₂⟩, hitems, hp⟩ := map_eq_some_iff.mp h
        cases hp
        exact ih.items hitems
  · next r₁ heq =>
    have hobject : value F (fuel + 1) levels ('{' :: r₁) = some (j, r) := by
      exact h
    rw [heq]
    left
    exact consumes_object ih hobject
  · exact Or.inl (scan_scalar h)

theorem consumes_items {fuel levels : Nat} (ih : Consumes F fuel) {js : List Json}
    (h : items F (fuel + 1) levels cs = some (js, r)) : scan (.inside depth .plain) cs = scan (.close depth) r := by
  rw [items] at h
  split at h
  · cases h
  · next j r₁ hvalue =>
    have hafter : AfterValue depth _ (skipBlanks r₁) := (ih.value hvalue).skipBlanks
    split at h
    · next r₂ heq =>
      obtain ⟨⟨js', r₃⟩, hitems, hp⟩ := map_eq_some_iff.mp h
      cases hp
      rw [heq] at hafter
      rw [hafter.comma]
      exact ih.items hitems
    · next r₂ heq =>
      cases h
      rw [heq] at hafter
      exact hafter.close (Or.inr rfl)
    · cases h

theorem consumes_members {fuel levels : Nat} (ih : Consumes F fuel) {ms : List (String × Json)}
    (h : members F (fuel + 1) levels cs = some (ms, r)) :
    scan (.inside depth .plain) cs = scan (.close depth) r := by
  rw [members] at h
  split at h
  · cases h
  · next k r₀ hkey =>
    rw [scan_memberKey hkey]
    split at h
    · cases h
    · next j r₁ hvalue =>
      have hafter : AfterValue depth _ (skipBlanks r₁) := (ih.value hvalue).skipBlanks
      split at h
      · next r₂ heq =>
        obtain ⟨⟨ms', r₃⟩, hmembers, hp⟩ := map_eq_some_iff.mp h
        cases hp
        rw [heq] at hafter
        rw [hafter.comma]
        exact ih.members hmembers
      · next r₂ heq =>
        cases h
        rw [heq] at hafter
        exact hafter.close (Or.inl rfl)
      · cases h

theorem consumes (fuel : Nat) : Consumes F fuel := by
  induction fuel with
  | zero =>
    constructor <;> intro _ _ _ _ _ h <;> cases h
  | succ _ ih => exact ⟨consumes_value ih, consumes_items ih, consumes_members ih⟩

/-- **What is read scans to the end**: a text that starts with `{` and is read as a document. -/
theorem scan_of_read {cs : List Char} {j : Json} (h : read F ('{' :: cs) = some j) :
    scan (.inside 0 .plain) cs = .done := by
  unfold read at h
  split at h
  · cases h
  · next r hvalue =>
    split_ifs at h with hr
    have hscan : scan (.inside 0 .plain) cs = scan (.close 0) r := consumes_object (consumes _) hvalue
    rw [hscan]
    exact scan_done hr

/-! ## An object after a torn one -/

theorem scan_text_ne_done {j : Json} (h : Writable F j) : scan (.inside depth .plain) (text F j) ≠ .done := by
  have hread : value F (text F j).length j.depth (text F j ++ []) = some (j, []) :=
    (readsBack _).value h le_rfl le_rfl fun c hc => nomatch hc
  rw [append_nil] at hread
  intro hdone
  have hafter : AfterValue depth (text F j) [] := (consumes _).value hread
  rcases hafter with hscan | hscan
  all_goals
    rw [hscan] at hdone
    cases hdone

/-- **An object after a torn one is not read**: the text before it starts with `{`, the object's first key
with a character that cannot follow a string. -/
theorem read_torn {before after : List Char} {k : String} {j : Json} {ms : List (String × Json)} {c : Char}
    (hw : Writable F (.obj ((k, j) :: ms))) (hkey : text F (.obj ((k, j) :: ms)) = '{' :: '"' :: c :: after)
    (hc : ∀ depth, Scan.stepClosed depth c = .refused) :
    read F ('{' :: before ++ text F (.obj ((k, j) :: ms))) = none := by
  rw [cons_append]
  cases hread : read F ('{' :: (before ++ text F (.obj ((k, j) :: ms)))) with
  | none => rfl
  | some =>
    exfalso
    have hdone := scan_of_read hread
    rw [scan_append] at hdone
    have hrefused : ∀ s : Scan, ((s.step '{').step '"').step c = .refused →
        scan s (text F (.obj ((k, j) :: ms))) ≠ .done := by
      intro s hs
      rw [hkey, scan_cons, scan_cons, scan_cons, hs, scan_refused]
      exact Scan.noConfusion
    -- wherever the torn text left the scan, the object does not bring it to the end
    rcases hscan : scan (.inside 0 .plain) before with _ | _ | ⟨depth, _ | _ | _ | _ | _⟩ <;> rw [hscan] at hdone
    · exact hrefused _ rfl hdone
    · exact hrefused _ rfl hdone
    · exact scan_text_ne_done hw hdone
    · exact hrefused _ rfl hdone
    · exact hrefused (.inside depth .str) (hc depth) hdone
    · exact hrefused _ rfl hdone
    · exact hrefused _ rfl hdone

/-! ## A torn object -/

theorem scan_done_ne (cs : List Char) : scan .done (cs ++ ['}']) ≠ .done := by
  have hcases : scan .done cs = .done ∨ scan .done cs = .refused := by
    induction cs with
    | nil => exact .inl rfl
    | cons _ cs ih =>
      rw [scan_cons, Scan.step]
      split
      · exact ih
      · exact .inr (scan_refused cs)
  rw [scan_append]
  rcases hcases with h | h
  all_goals
    rw [h]
    exact Scan.noConfusion

/-- **A torn object is not read**: nothing but the whole text of an object is. -/
theorem read_of_torn {ms : List (String × Json)} {p q : List Char} (hw : Writable F (.obj ms))
    (hdepth : (Json.obj ms).depth ≤ maxLevels) (h : text F (.obj ms) = p ++ q) (hp : p ≠ []) (hq : q ≠ []) :
    read F p = none := by
  obtain ⟨mid, hends⟩ := text_obj_ends (F := F) ms
  have hwhole := read_text hw hdepth
  rw [hends] at h hwhole
  rcases p with _ | ⟨c, p⟩
  · exact absurd rfl hp
  · obtain ⟨rfl, hrest⟩ := List.cons.inj h
    cases hread : read F ('{' :: p) with
    | none => rfl
    | some =>
      -- the scan would be at its end before the last brace
      exfalso
      have hdone := scan_of_read hwhole
      rw [hrest, append_eq, scan_append, scan_of_read hread] at hdone
      obtain ⟨q', hq'⟩ : ∃ q', q = q' ++ ['}'] := by
        refine ⟨q.dropLast, ?_⟩
        have hlast := congrArg List.getLast? hrest
        rw [List.getLast?_concat, append_eq, List.getLast?_append_of_ne_nil _ hq] at hlast
        exact (dropLast_append_getLast? _ hlast.symm).symm
      rw [hq'] at hdone
      exact scan_done_ne q' hdone

theorem read_nil {j : Json} (h : read F [] = some j) : ∃ n, j = .num n := by
  simp only [read, value, skipBlanks, dropWhile_nil, scalar] at h
  split at h
  · cases h
  · next j' r hscalar =>
    obtain ⟨n, -, hn⟩ := map_eq_some_iff.mp hscalar
    cases hn
    exact ⟨n, (Option.some.inj ((if_pos rfl).symm.trans h)).symm⟩

end Reader

end JsonText

end OneCipher
