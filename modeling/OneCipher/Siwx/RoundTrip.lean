import OneCipher.Siwx.Formatter

/-!
# OneCipher.Siwx.RoundTrip — the text that is signed and the message it is parsed to

`from_str` of `oc-siwx/src/parser.rs` against `to_sign_string` of `oc-siwx/src/formatter.rs`.  Each `take*`
function is inverted once, on the lines it took (`…_eq_ok`); from these the lines of an accepted text are those of
the message (`parseLines_eq_ok`), so that the text is the one the message is printed to.
-/

namespace OneCipher.Siwx

open Result List String Option Lines Text
open SiwxMessage (fromStr signLines toList_toSignString forall_optionalLines)

def named (label : String) : Option String := if label = "" then none else some label

@[simp] theorem getD_named (label : String) : (named label).getD "" = label := by
  rw [named]
  split_ifs with h
  · exact h.symm
  · rfl

/-! ## What each part of the parser took -/

variable {lines rest : Lines} {before : List Char} {lib : SiwxLib} {m : SiwxMessage} {domain name s tag : String}

theorem splitAtFirst_eq_some {sep cs after : List Char} (h : splitAtFirst sep cs = some (before, after)) :
    cs = before ++ (sep ++ after) := by
  induction cs generalizing before with
  | nil =>
    rw [splitAtFirst] at h
    split_ifs at h with hsep
    cases h
    rw [hsep]
    rfl
  | cons c cs ih =>
    rw [splitAtFirst] at h
    split at h
    · next rest hrest =>
      cases h
      exact (List.isPrefixOf?_eq_some_iff_append_eq.mp hrest).symm
    · obtain ⟨⟨before', after'⟩, hsplit, heq⟩ := map_eq_some_iff.mp h
      cases heq
      rw [ih hsplit]
      rfl

theorem next_eq_ok {line : String} : next lines = .ok (line, rest) ↔ lines = line :: rest := by
  rcases lines with _ | ⟨first, lines⟩
  · exact ⟨nofun, nofun⟩
  · exact ⟨fun h => (by cases h; rfl), fun h => (by cases h; rfl)⟩

theorem expectBlank_eq_ok : expectBlank lines = .ok rest ↔ lines = "" :: rest := by
  rw [expectBlank, bind_eq_ok]
  constructor
  · rintro ⟨⟨line, lines⟩, hnext, h⟩
    rw [next_eq_ok] at hnext
    dsimp only at h
    split_ifs at h with hline
    · cases h
      rw [hnext, hline]
    · cases h
  · intro h
    exact ⟨("", rest), next_eq_ok.mpr h, rfl⟩

theorem splitSchemeDomain_eq_ok {authority : String} {scheme : Option String}
    (h : splitSchemeDomain authority = .ok (scheme, domain)) :
    authority = (scheme.map fun s => s ++ "://").getD "" ++ domain := by
  rw [splitSchemeDomain] at h
  split at h
  · next s rest hsplit =>
    split_ifs at h
    · cases h
    · cases h
      obtain ⟨⟨before, after⟩, hfirst, heq⟩ := map_eq_some_iff.mp hsplit
      cases heq
      rw [← toList_inj, splitAtFirst_eq_some hfirst, map_some, getD_some]
      simp only [toList_append, toList_ofList, List.append_assoc]
  · cases h
    rw [map_none, getD_none, empty_append]

theorem parsePreamble_eq_ok {header : String} {scheme : Option String}
    (h : parsePreamble header = .ok (scheme, domain, name)) :
    header = (scheme.map fun s => s ++ "://").getD "" ++ domain ++ preambleMid ++ name ++ preambleTail := by
  rw [parsePreamble] at h
  split at h
  · cases h
  · next authority afterMid hmid =>
    obtain ⟨⟨s, d⟩, hauthority, h⟩ := bind_eq_ok.mp h
    dsimp only at h
    split at h
    · cases h
    · next n hname =>
      cases h
      rw [← splitSchemeDomain_eq_ok hauthority, String.append_assoc, ← stripSuffix_eq_some.mp hname,
        ← toList_inj, splitAtFirst_eq_some hmid, toList_append, toList_append,
        toList_ofList, toList_ofList, List.append_assoc]

theorem takeOptionalStatement_eq_ok {statement : Option String}
    (h : takeOptionalStatement lines = .ok (statement, rest)) :
    lines = statement.toList ++ "" :: rest ∧ ∀ s ∈ statement, isTagged s = false := by
  rcases lines with _ | ⟨line, lines⟩
  · cases h
  rw [takeOptionalStatement] at h
  split_ifs at h with hline huri htag
  · cases h
    rw [hline]
    exact ⟨rfl, nofun⟩
  · cases h
  · cases h
  · obtain ⟨⟨⟩, -, h⟩ := bind_eq_ok.mp h
    obtain ⟨rest', hblank, h⟩ := bind_eq_ok.mp h
    split_ifs at h
    · cases h
      rw [expectBlank_eq_ok.mp hblank]
      refine ⟨rfl, fun s hs => ?_⟩
      rw [← mem_some.mp hs]
      exact Bool.eq_false_iff.mpr htag
    · cases h

theorem takeRequiredTag_eq_ok {value : String} :
    takeRequiredTag tag lines = .ok (value, rest) ↔ lines = (tag ++ value) :: rest := by
  rcases lines with _ | ⟨line, lines⟩
  · exact ⟨nofun, nofun⟩
  rw [takeRequiredTag, List.cons.injEq, ← stripPrefix_eq_some]
  rcases Text.stripPrefix tag line with _ | v
  · exact ⟨nofun, fun h => (by cases h.1)⟩
  · exact ⟨fun h => (by cases h; exact ⟨rfl, rfl⟩), fun h => (by cases h.1; cases h.2; rfl)⟩

theorem takeOptionalTag_append (tag : String) (lines : Lines) :
    lines = ((takeOptionalTag tag lines).1.map fun v => tag ++ v).toList ++ (takeOptionalTag tag lines).2 := by
  rcases lines with _ | ⟨line, lines⟩
  · rfl
  rw [takeOptionalTag]
  split
  · next value hvalue =>
    rw [stripPrefix_eq_some.mp hvalue]
    rfl
  · rfl

theorem takeRequiredTs_eq_ok {t : Timestamp} :
    takeRequiredTs lib tag lines = .ok (t, rest) ↔ lines = (tag ++ t.original) :: rest ∧ t.Stable lib := by
  rw [takeRequiredTs, bind_eq_ok]
  constructor
  · rintro ⟨⟨value, rest'⟩, hvalue, h⟩
    obtain ⟨t', hparse, h⟩ := bind_eq_ok.mp h
    cases h
    have hstable := Timestamp.stable_of_parse hparse
    rw [takeRequiredTag_eq_ok.mp hvalue, Timestamp.original_of_parse hparse]
    exact ⟨rfl, hstable⟩
  · rintro ⟨hlines, hstable⟩
    refine ⟨(t.original, rest), takeRequiredTag_eq_ok.mpr hlines, ?_⟩
    exact bind_ok hstable rfl

theorem takeOptionalTs_eq_ok {t : Option Timestamp} (h : takeOptionalTs lib tag lines = .ok (t, rest)) :
    lines = (t.map fun t => tag ++ t.original).toList ++ rest := by
  obtain ⟨t', hparse, h⟩ := bind_eq_ok.mp h
  cases h
  conv_lhs => rw [takeOptionalTag_append tag lines]
  rcases hvalue : (takeOptionalTag tag lines).1 with _ | value
  · rw [hvalue] at hparse
    cases hparse
    rfl
  · rw [hvalue] at hparse
    obtain ⟨ts, hts, rfl⟩ := map_eq_ok.mp hparse
    rw [← Timestamp.original_of_parse hts]
    rfl

theorem takeItems_eq_ok {items : Lines} (h : takeItems lines = .ok (items, rest)) :
    lines = items.map ("- " ++ ·) ++ rest := by
  induction lines generalizing items with
  | nil =>
    cases h
    rfl
  | cons line lines ih =>
    rw [takeItems] at h
    split_ifs at h
    · cases h
      rfl
    · split at h
      · cases h
      · next item hitem =>
        obtain ⟨⟨items', rest'⟩, htake, h⟩ := bind_eq_ok.mp h
        cases h
        rw [stripPrefix_eq_some.mp hitem, ih htake]
        rfl

theorem takeResources_eq_ok {resources : Lines} (h : takeResources lib lines = .ok (resources, rest)) :
    lines = (if resources = [] then [] else resTag :: resources.map ("- " ++ ·)) ++ rest ∨
      resources = [] ∧ lines = resTag :: rest := by
  rcases lines with _ | ⟨line, lines⟩
  · cases h
    exact .inl rfl
  rw [takeResources] at h
  split_ifs at h with hline
  · obtain ⟨⟨items, rest'⟩, htake, h⟩ := bind_eq_ok.mp h
    obtain ⟨⟨⟩, -, h⟩ := bind_eq_ok.mp h
    cases h
    rw [hline, takeItems_eq_ok htake]
    split_ifs with hitems
    · exact .inr ⟨hitems, by rw [hitems]; rfl⟩
    · exact .inl rfl
  · cases h
    exact .inl rfl

theorem rejectTrailing_eq_ok : rejectTrailing lines = .ok () ↔ lines = [] := by
  rw [rejectTrailing]
  split_ifs with h
  · exact ⟨fun _ => h, fun _ => rfl⟩
  · exact ⟨nofun, fun h' => absurd h' h⟩

theorem checkVersion_eq_ok {v : String} : checkVersion v = .ok () ↔ v = version := by
  rw [checkVersion]
  split_ifs with h
  · exact ⟨fun _ => h, fun _ => rfl⟩
  · exact ⟨nofun, fun h' => absurd h' h⟩

/-- **The lines of an accepted text are those of the message**, up to a resource tag without resources. -/
theorem parseLines_eq_ok (h : parseLines lib lines = .ok m) :
    m.chainName = named m.label ∧ (∀ s ∈ m.statement, isTagged s = false) ∧
      (lines = m.signLines m.label ∨ m.resources = [] ∧ lines = m.signLines m.label ++ [resTag]) := by
  obtain ⟨⟨header, lines₁⟩, hheader, h⟩ := bind_eq_ok.mp h
  obtain ⟨⟨scheme, domain, name⟩, hpreamble, h⟩ := bind_eq_ok.mp h
  obtain ⟨⟨⟩, -, h⟩ := bind_eq_ok.mp h
  obtain ⟨⟨⟩, -, h⟩ := bind_eq_ok.mp h
  obtain ⟨⟨address, lines₂⟩, haddress, h⟩ := bind_eq_ok.mp h
  obtain ⟨⟨⟩, -, h⟩ := bind_eq_ok.mp h
  obtain ⟨lines₃, hblank, h⟩ := bind_eq_ok.mp h
  obtain ⟨⟨statement, lines₄⟩, hstatement, h⟩ := bind_eq_ok.mp h
  obtain ⟨⟨uri, lines₅⟩, huri, h⟩ := bind_eq_ok.mp h
  obtain ⟨⟨⟩, -, h⟩ := bind_eq_ok.mp h
  obtain ⟨⟨version, lines₆⟩, hversion, h⟩ := bind_eq_ok.mp h
  obtain ⟨⟨⟩, -, h⟩ := bind_eq_ok.mp h
  obtain ⟨⟨chainId, lines₇⟩, hchain, h⟩ := bind_eq_ok.mp h
  obtain ⟨⟨⟩, -, h⟩ := bind_eq_ok.mp h
  obtain ⟨⟨nonce, lines₈⟩, hnonce, h⟩ := bind_eq_ok.mp h
  obtain ⟨⟨⟩, -, h⟩ := bind_eq_ok.mp h
  obtain ⟨⟨issuedAt, lines₉⟩, hissued, h⟩ := bind_eq_ok.mp h
  obtain ⟨⟨expirationTime, lines₁₀⟩, hexpires, h⟩ := bind_eq_ok.mp h
  obtain ⟨⟨notBefore, lines₁₁⟩, hbefore, h⟩ := bind_eq_ok.mp h
  rcases hrequest : takeOptionalTag ridTag lines₁₁ with ⟨requestId, lines₁₂⟩
  dsimp only at h
  rw [hrequest] at h
  obtain ⟨⟨⟩, -, h⟩ := bind_eq_ok.mp h
  obtain ⟨⟨resources, lines₁₃⟩, hresources, h⟩ := bind_eq_ok.mp h
  obtain ⟨⟨⟩, htrailing, h⟩ := bind_eq_ok.mp h
  cases h
  obtain ⟨hstatementLines, huntagged⟩ := takeOptionalStatement_eq_ok hstatement
  refine ⟨(congrArg named (getD_named name)).symm, huntagged, ?_⟩
  have hoptional := takeOptionalTag_append ridTag lines₁₁
  rw [hrequest] at hoptional
  rw [next_eq_ok.mp hheader, parsePreamble_eq_ok hpreamble, next_eq_ok.mp haddress, expectBlank_eq_ok.mp hblank,
    hstatementLines, takeRequiredTag_eq_ok.mp huri, takeRequiredTag_eq_ok.mp hversion,
    takeRequiredTag_eq_ok.mp hchain, takeRequiredTag_eq_ok.mp hnonce, (takeRequiredTs_eq_ok.mp hissued).1,
    takeOptionalTs_eq_ok hexpires, takeOptionalTs_eq_ok hbefore, hoptional]
  have hlabel : (named name).getD "" = name := getD_named name
  have hend : lines₁₃ = [] := rejectTrailing_eq_ok.mp htrailing
  rcases takeResources_eq_ok hresources with hlines | ⟨rfl, hlines⟩
  · left
    rw [hlines, hend, append_nil, SiwxMessage.label]
    change _ = signLines _ ((named name).getD "")
    rw [hlabel]
    rfl
  · right
    rw [hlines, hend, SiwxMessage.label]
    change _ ∧ _ = signLines _ ((named name).getD "") ++ _
    rw [hlabel, signLines, SiwxMessage.optionalLines, SiwxMessage.resourceLines, if_pos rfl]
    simp only [SiwxMessage.requiredLines, append_nil, cons_append, nil_append, List.append_assoc]
    exact ⟨trivial, rfl⟩

/-! ## An accepted text is the text of its message -/

theorem fromStr_eq_ok (h : fromStr lib s = .ok m) :
    byteLen s ≤ maxMessageBytes ∧ '\r' ∉ s.toList ∧
      parseLines lib ((s.toList.splitOn '\n').map String.ofList) = .ok m := by
  rw [fromStr, guard_eq_ok, Nat.not_lt] at h
  obtain ⟨hsize, h⟩ := h
  rw [invalidFormat, guard_eq_ok] at h
  exact ⟨hsize, h⟩

theorem map_toList_ofList (ls : List (List Char)) : (ls.map String.ofList).map String.toList = ls := by
  rw [List.map_map]
  exact map_id'' (fun l => toList_ofList) ls

theorem toList_eq_unlines (h : (s.toList.splitOn '\n').map String.ofList = lines) :
    s.toList ++ ['\n'] = Lines.unlines (lines.map String.toList) ∧ ∀ line ∈ lines, '\n' ∉ line.toList := by
  subst h
  constructor
  · rw [map_toList_ofList, unlines_splitOn]
  · intro line hline
    obtain ⟨cs, hcs, rfl⟩ := List.mem_map.mp hline
    rw [toList_ofList]
    exact not_mem_of_mem_splitOn hcs

theorem toList_of_lines {chainName : String} {extra : Lines}
    (h : (s.toList.splitOn '\n').map String.ofList = m.signLines chainName ++ extra) :
    s.toList ++ ['\n'] = (m.toSignString chainName).toList ++ '\n' :: Lines.unlines (extra.map String.toList) := by
  obtain ⟨htext, hlines⟩ := toList_eq_unlines h
  obtain ⟨front, hfront⟩ := m.signLines_eq_append chainName
  have hclosing : ∀ line ∈ m.closingLines, '\n' ∉ line.toList := by
    intro line hline
    refine hlines line (mem_append_left _ ?_)
    rw [hfront]
    exact mem_append_right front hline
  rw [htext, map_append, unlines_append, ← toList_toSignString hclosing, List.append_assoc,
    singleton_append]

/-- **An accepted text is the text of the message it is parsed to**, or that text with an empty resource section. -/
theorem fromStr_accepts_only_sign_string {lib : SiwxLib} {s : String} {m : SiwxMessage}
    (h : fromStr lib s = .ok m) :
    (s = m.toSignString m.label ∨ m.resources = [] ∧ s = m.toSignString m.label ++ "\n" ++ resTag) ∧
      ∀ m', fromStr lib s = .ok m' → m' = m := by
  constructor
  · obtain ⟨-, -, hparse⟩ := fromStr_eq_ok h
    obtain ⟨-, -, hlines | ⟨hnone, hlines⟩⟩ := parseLines_eq_ok hparse
    · left
      rw [← append_nil (m.signLines m.label)] at hlines
      have htext := toList_of_lines hlines
      exact toList_inj.mp (append_cancel_right htext)
    · refine .inr ⟨hnone, toList_inj.mp ?_⟩
      have htext := toList_of_lines hlines
      rw [map_singleton, unlines_cons, unlines_nil, ← cons_append, ← List.append_assoc] at htext
      rw [append_cancel_right htext, toList_append, toList_append, SiwxMessage.toList_newline,
        List.append_assoc, singleton_append]
  · intro m' h'
    exact Except.ok.inj (h'.symm.trans h)

theorem sampleText_is_sign_string :
    (sampleText = sampleMessage.toSignString sampleMessage.label ∨ sampleMessage.resources = [] ∧
      sampleText = sampleMessage.toSignString sampleMessage.label ++ "\n" ++ resTag) ∧
      ∀ m', fromStr sampleLib sampleText = .ok m' → m' = sampleMessage := by
  have hparse : fromStr sampleLib sampleText = .ok sampleMessage := by
    have hoption := fromStr_sampleText
    rcases hresult : fromStr sampleLib sampleText with e | m
    · rw [hresult] at hoption
      cases hoption
    · rw [hresult] at hoption
      exact congrArg Except.ok (Option.some.inj hoption)
  exact fromStr_accepts_only_sign_string hparse

/-! ## The lines of a message are read back -/

theorem splitAtFirst_append {c : Char} {sep : List Char} (hsep : sep.head? = some c) (h : c ∉ before)
    (after : List Char) : splitAtFirst sep (before ++ (sep ++ after)) = some (before, after) := by
  obtain ⟨tail, rfl⟩ := List.head?_eq_some_iff.mp hsep
  induction before with
  | nil =>
    have hpre : (c :: tail).isPrefixOf? (c :: (tail ++ after)) = some after :=
      List.isPrefixOf?_eq_some_iff_append_eq.mpr rfl
    rw [nil_append, cons_append, splitAtFirst, hpre]
  | cons b before ih =>
    rw [mem_cons, not_or] at h
    have hpre : (c :: tail).isPrefixOf? (b :: (before ++ (c :: tail ++ after))) = none := by
      rw [eq_none_iff_forall_ne_some]
      intro rest hrest
      exact h.1 (List.cons.inj (List.isPrefixOf?_eq_some_iff_append_eq.mp hrest)).1
    rw [cons_append, splitAtFirst, hpre]
    rw [ih h.2]
    rfl

theorem splitSchemeDomain_none (h : '/' ∉ domain.toList) : splitSchemeDomain domain = .ok (none, domain) := by
  have hnone : splitScheme domain = none := by
    rw [splitScheme, map_eq_none_iff, eq_none_iff_forall_ne_some]
    rintro ⟨before, after⟩ hsplit
    rw [splitAtFirst_eq_some hsplit] at h
    exact h (mem_append_right _ (mem_append_left _ (by decide)))
  rw [splitSchemeDomain, hnone]

theorem splitSchemeDomain_some {scheme : String} (hscheme : ':' ∉ scheme.toList) (hne : scheme ≠ "")
    (hdomain : domain ≠ "") : splitSchemeDomain (scheme ++ "://" ++ domain) = .ok (some scheme, domain) := by
  have hsome : splitScheme (scheme ++ "://" ++ domain) = some (scheme, domain) := by
    rw [splitScheme, String.append_assoc, toList_append, toList_append]
    rw [splitAtFirst_append (by decide) hscheme, map_some]
    dsimp only
    rw [ofList_toList, ofList_toList]
  rw [splitSchemeDomain, hsome]
  exact if_neg (not_or.mpr ⟨hne, hdomain⟩)

theorem checkScheme_eq_ok {scheme : String} (h : checkScheme scheme = .ok ()) :
    scheme ≠ "" ∧ ∀ c ∈ scheme.toList, (isAsciiAlphanumeric c || c == '+' || c == '-' || c == '.') = true := by
  rw [checkScheme, guard_eq_ok, guard_eq_ok, guard_eq_ok] at h
  obtain ⟨hne, -, hall, -⟩ := h
  exact ⟨hne, List.all_eq_true.mp (not_not.mp hall)⟩

theorem parsePreamble_headerLine (hscheme : checkOptional checkScheme m.scheme = .ok ()) (hne : m.domain ≠ "")
    (hspace : ' ' ∉ m.domain.toList) (hslash : '/' ∉ m.domain.toList) (name : String) :
    parsePreamble (m.headerLine name) = .ok (m.scheme, m.domain, name) := by
  obtain ⟨authority, hauthority⟩ : ∃ a, a = (m.scheme.map fun s => s ++ "://").getD "" ++ m.domain := ⟨_, rfl⟩
  have hsplit : splitSchemeDomain authority = .ok (m.scheme, m.domain) ∧ ' ' ∉ authority.toList := by
    rcases hs : m.scheme with _ | scheme
    · rw [hs, map_none, getD_none, empty_append] at hauthority
      rw [hauthority]
      exact ⟨splitSchemeDomain_none hslash, hspace⟩
    · rw [hs] at hscheme
      rw [hs, map_some, getD_some] at hauthority
      obtain ⟨hschemeNe, hall⟩ := checkScheme_eq_ok hscheme
      rw [hauthority]
      refine ⟨splitSchemeDomain_some (fun h => absurd (hall _ h) (by decide)) hschemeNe hne, ?_⟩
      rw [toList_append, toList_append, mem_append, mem_append, not_or, not_or]
      exact ⟨⟨fun h => absurd (hall _ h) (by decide), by decide⟩, hspace⟩
  have hmid : splitAtFirst preambleMid.toList (m.headerLine name).toList =
      some (authority.toList, (name ++ preambleTail).toList) := by
    rw [SiwxMessage.headerLine, ← hauthority, String.append_assoc, String.append_assoc, toList_append,
      toList_append (s := preambleMid)]
    exact splitAtFirst_append (by decide) hsplit.2 _
  rw [parsePreamble, hmid]
  dsimp only
  rw [ofList_toList, ofList_toList, hsplit.1, stripSuffix_append]
  rfl

theorem takeOptionalStatement_append {statement : Option String} (hcheck : checkOptional checkStatement statement = .ok ())
    (htag : ∀ s ∈ statement, isTagged s = false) (uri : String) (rest : Lines) :
    takeOptionalStatement (statement.toList ++ "" :: (uriTag ++ uri) :: rest) =
      .ok (statement, (uriTag ++ uri) :: rest) := by
  have huri : atUri ((uriTag ++ uri) :: rest) = true := startsWith_append uriTag uri
  rcases statement with _ | s
  · rw [toList_none, nil_append, takeOptionalStatement, if_pos rfl, if_pos huri]
  · have hne : s ≠ "" := by
      rintro rfl
      cases hcheck
    rw [toList_some, singleton_append, takeOptionalStatement, if_neg hne, htag s rfl]
    refine (if_neg Bool.false_ne_true).trans (bind_ok hcheck ?_)
    exact bind_ok (expectBlank_eq_ok.mpr rfl) (if_pos huri)

theorem takeOptionalTag_toList (habsent : ∀ line ∈ rest, Text.stripPrefix tag line = none) (value : Option String) :
    takeOptionalTag tag ((value.map fun v => tag ++ v).toList ++ rest) = (value, rest) := by
  rcases value with _ | v
  · rcases rest with _ | ⟨line, rest⟩
    · rfl
    · rw [map_none, toList_none, nil_append, takeOptionalTag, habsent line mem_cons_self]
  · rw [map_some, toList_some, singleton_append, takeOptionalTag, stripPrefix_append]

theorem takeOptionalTs_toList (habsent : ∀ line ∈ rest, Text.stripPrefix tag line = none) {t : Option Timestamp}
    (hstable : ∀ ts ∈ t, ts.Stable lib) :
    takeOptionalTs lib tag ((t.map fun ts => tag ++ ts.original).toList ++ rest) = .ok (t, rest) := by
  have htake := takeOptionalTag_toList habsent (t.map Timestamp.original)
  rw [Option.map_map] at htake
  change (parseOptional lib (takeOptionalTag tag ((t.map ((fun v => tag ++ v) ∘ Timestamp.original)).toList ++ rest)).1 >>=
    fun ts => pure (ts, (takeOptionalTag tag ((t.map ((fun v => tag ++ v) ∘ Timestamp.original)).toList ++ rest)).2)) = _
  rw [htake]
  refine bind_eq_ok.mpr ⟨t, ?_, rfl⟩
  rcases t with _ | ts
  · rfl
  · exact map_eq_ok.mpr ⟨ts, hstable ts rfl, rfl⟩

theorem takeItems_map (items : List String) : takeItems (items.map ("- " ++ ·)) = .ok (items, []) := by
  induction items with
  | nil => rfl
  | cons item _ ih =>
    have hline : ¬ ("- " ++ item = "" ∨ "- " ++ item = resTag) := by
      rw [← toList_inj, ← toList_inj, toList_append]
      rintro (h | h) <;> cases h
    rw [map_cons, takeItems, if_neg hline, stripPrefix_append]
    exact bind_ok ih rfl

theorem takeResources_resourceLines (h : checkResources lib m.resources = .ok ()) :
    takeResources lib m.resourceLines = .ok (m.resources, []) := by
  rw [SiwxMessage.resourceLines]
  split_ifs with hnone
  · rw [hnone]
    rfl
  · refine bind_ok (takeItems_map m.resources) ?_
    exact bind_ok h rfl

/-! ## The libraries, and what the checks of the fields say -/

/-- A text that keeps to one line. -/
def OneLine (s : String) : Prop := '\n' ∉ s.toList ∧ '\r' ∉ s.toList

instance (s : String) : Decidable (OneLine s) := inferInstanceAs (Decidable (_ ∧ _))

/-- What the round trip needs of the libraries: RFC 3986 authorities have no blank, slash or line break, URIs and
timestamps no line break, and instants are printed as date-times. -/
structure BuildLib.Lawful (lib : BuildLib) : Prop where
  authority : ∀ s, lib.authority s = true → OneLine s ∧ ' ' ∉ s.toList ∧ '/' ∉ s.toList
  uri : ∀ s, lib.uriString s = .ok () → OneLine s
  timestamp : ∀ s t, lib.timestamp s = .ok t → OneLine s
  instants : InstantsAreDateTimes lib

theorem oneLine_append {a b : String} : OneLine (a ++ b) ↔ OneLine a ∧ OneLine b := by
  rw [OneLine, toList_append, mem_append, mem_append, not_or, not_or]
  exact ⟨fun h => ⟨⟨h.1.1, h.2.1⟩, h.1.2, h.2.2⟩, fun h => ⟨⟨h.1.1, h.2.1⟩, h.1.2, h.2.2⟩⟩

theorem OneLine.append {a b : String} (ha : OneLine a) (hb : OneLine b) : OneLine (a ++ b) :=
  oneLine_append.mpr ⟨ha, hb⟩

theorem OneLine.of_all {p : Char → Bool} (h : ∀ c ∈ s.toList, p c = true) (hn : p '\n' = false) (hr : p '\r' = false) :
    OneLine s :=
  ⟨fun hc => absurd (h _ hc) (Bool.eq_false_iff.mp hn), fun hc => absurd (h _ hc) (Bool.eq_false_iff.mp hr)⟩

/-- The characters that `isPcharString` lets pass. -/
def isPcharByte (c : Char) : Bool :=
  c == '%' || isAsciiHexdigit c || isAsciiAlphanumeric c || c ∈ "-._~!$&'()*+,;=:@".toList

theorem isPcharByte_of_isPcharString {cs : List Char} (h : isPcharString cs = true) : ∀ c ∈ cs, isPcharByte c = true := by
  fun_induction isPcharString cs with
  | case1 => nofun
  | case2 h1 h2 rest ih =>
    rw [Bool.and_eq_true, Bool.and_eq_true] at h
    obtain ⟨⟨hh1, hh2⟩, hrest⟩ := h
    intro c hc
    simp only [mem_cons] at hc
    rcases hc with rfl | rfl | rfl | hc
    · rfl
    · simp [isPcharByte, hh1]
    · simp [isPcharByte, hh2]
    · exact ih hrest c hc
  | case3 c rest _ ih =>
    rw [Bool.and_eq_true] at h
    intro d hd
    rcases mem_cons.mp hd with rfl | hd
    · rcases Bool.or_eq_true_iff.mp h.1 with hc | hc <;> simp only [isPcharByte, hc, Bool.or_true, Bool.true_or]
    · exact ih h.2 d hd

theorem oneLine_statement (h : checkStatement s = .ok ()) : OneLine s := by
  rw [checkStatement, guard_eq_ok, guard_eq_ok, guard_eq_ok] at h
  obtain ⟨-, -, hall, -⟩ := h
  exact .of_all (List.all_eq_true.mp (not_not.mp hall)) (by decide) (by decide)

theorem oneLine_requestId (h : checkRequestId s = .ok ()) : OneLine s := by
  rw [checkRequestId, guard_eq_ok, guard_eq_ok] at h
  obtain ⟨-, hall, -⟩ := h
  exact .of_all (isPcharByte_of_isPcharString (not_not.mp hall)) (by decide) (by decide)

theorem oneLine_nonce (h : checkNonceShape s = .ok ()) : OneLine s := by
  rw [checkNonceShape, guard_eq_ok, guard_eq_ok] at h
  obtain ⟨-, hall, -⟩ := h
  exact .of_all (List.all_eq_true.mp (not_not.mp hall)) (by decide) (by decide)

section

variable {lib : BuildLib}

theorem oneLine_uri (hlib : lib.Lawful) (h : checkUri lib.toSiwxLib s = .ok ()) : OneLine s := by
  rw [checkUri, guard_eq_ok, mapError_eq_ok] at h
  exact hlib.uri s h.2

theorem oneLine_uris (hlib : lib.Lawful) {uris : List String} (h : checkUris lib.toSiwxLib uris = .ok ()) :
    ∀ uri ∈ uris, OneLine uri := by
  induction uris with
  | nil => nofun
  | cons _ _ ih =>
    obtain ⟨⟨⟩, hfirst, hrest⟩ := bind_eq_ok.mp h
    exact forall_mem_cons.mpr ⟨oneLine_uri hlib hfirst, ih hrest⟩

theorem oneLine_stable (hlib : lib.Lawful) {t : Timestamp} (h : t.Stable lib.toSiwxLib) : OneLine t.original := by
  rw [Timestamp.Stable, Timestamp.parse, guard_eq_ok, guard_eq_ok] at h
  obtain ⟨-, -, h⟩ := h
  rcases hts : lib.timestamp t.original with e | parsed
  · rw [hts] at h
    cases h
  · exact hlib.timestamp _ _ hts

theorem domain_of_check (hlib : lib.Lawful) (h : checkDomain lib.toSiwxLib s = .ok ()) :
    s ≠ "" ∧ OneLine s ∧ ' ' ∉ s.toList ∧ '/' ∉ s.toList := by
  rw [checkDomain, guard_eq_ok, guard_eq_ok, guard_eq_ok] at h
  obtain ⟨hne, -, hauthority, -⟩ := h
  exact ⟨hne, hlib.authority s (not_not.mp hauthority)⟩

theorem oneLine_closingLines (hlib : lib.Lawful) (hm : WellFormed lib.toSiwxLib m) :
    ∀ line ∈ m.closingLines, OneLine line := by
  refine forall_mem_cons.mpr ⟨.append (by decide) (oneLine_stable hlib hm.issuedAt),
    forall_optionalLines ?_ ?_ ?_ ?_ ?_⟩
  · exact fun t ht => .append (by decide) (oneLine_stable hlib (hm.expirationTime t ht))
  · exact fun t ht => .append (by decide) (oneLine_stable hlib (hm.notBefore t ht))
  · intro rid hrid
    have hcheck := hm.requestId
    rw [hrid] at hcheck
    exact .append (by decide) (oneLine_requestId hcheck)
  · exact fun _ => by decide
  · have hcheck := hm.resources
    rw [checkResources, guard_eq_ok] at hcheck
    exact fun r hr => .append (by decide) (oneLine_uris hlib hcheck.2 r hr)

theorem stripPrefix_tag {tag' : String} {c d : Char} (htag : tag.toList.head? = some c)
    (htag' : tag'.toList.head? = some d) (hne : c ≠ d) (value : String) :
    Text.stripPrefix tag (tag' ++ value) = none := by
  refine stripPrefix_of_head_ne htag ?_ hne
  rw [toList_append, List.head?_append, htag']
  rfl

theorem parseLines_signLines (hlib : lib.Lawful) (hm : WellFormed lib.toSiwxLib m)
    (htag : ∀ s ∈ m.statement, isTagged s = false) (name : String) :
    parseLines lib.toSiwxLib (m.signLines name) = .ok { m with chainName := named name } := by
  obtain ⟨hne, -, hspace, hslash⟩ := domain_of_check hlib hm.domain
  have hchain : checkChainIdTag m.chainId = .ok () := by
    have hcheck := hm.chainId
    rw [SiwxMessage.checkChainId, guard_eq_ok] at hcheck
    exact if_neg hcheck.1
  have hexpires : ∀ line ∈ (m.notBefore.map fun t => nbfTag ++ t.original).toList ++
      ((m.requestId.map fun rid => ridTag ++ rid).toList ++ m.resourceLines), Text.stripPrefix expTag line = none :=
    forall_optionalLines (m := { m with expirationTime := none })
      nofun (fun t _ => stripPrefix_tag rfl rfl (by decide) _)
      (fun rid _ => stripPrefix_tag rfl rfl (by decide) _) (fun _ => by decide)
      (fun r _ => stripPrefix_tag rfl rfl (by decide) _)
  have hbefore : ∀ line ∈ (m.requestId.map fun rid => ridTag ++ rid).toList ++ m.resourceLines,
      Text.stripPrefix nbfTag line = none :=
    forall_optionalLines (m := { m with expirationTime := none, notBefore := none })
      nofun nofun
      (fun rid _ => stripPrefix_tag rfl rfl (by decide) _) (fun _ => by decide)
      (fun r _ => stripPrefix_tag rfl rfl (by decide) _)
  have hrequest : ∀ line ∈ m.resourceLines, Text.stripPrefix ridTag line = none :=
    forall_optionalLines (m := { m with expirationTime := none, notBefore := none, requestId := none })
      nofun nofun
      nofun (fun _ => by decide)
      (fun r _ => stripPrefix_tag rfl rfl (by decide) _)
  refine bind_ok (next_eq_ok.mpr rfl) ?_
  refine bind_ok (parsePreamble_headerLine hm.scheme hne hspace hslash name) ?_
  refine bind_ok hm.scheme (bind_ok hm.domain ?_)
  refine bind_ok (next_eq_ok.mpr rfl) (bind_ok hm.address ?_)
  refine bind_ok (expectBlank_eq_ok.mpr rfl) ?_
  refine bind_ok (takeOptionalStatement_append hm.statement htag _ _) ?_
  refine bind_ok (takeRequiredTag_eq_ok.mpr rfl) (bind_ok hm.uri ?_)
  refine bind_ok (takeRequiredTag_eq_ok.mpr rfl) (bind_ok hm.version ?_)
  refine bind_ok (takeRequiredTag_eq_ok.mpr rfl) (bind_ok hchain ?_)
  refine bind_ok (takeRequiredTag_eq_ok.mpr rfl) (bind_ok hm.nonce ?_)
  refine bind_ok (takeRequiredTs_eq_ok.mpr ⟨rfl, hm.issuedAt⟩) ?_
  refine bind_ok (takeOptionalTs_toList hexpires hm.expirationTime) ?_
  refine bind_ok (takeOptionalTs_toList hbefore hm.notBefore) ?_
  dsimp only
  rw [takeOptionalTag_toList hrequest]
  refine bind_ok hm.requestId ?_
  exact bind_ok (takeResources_resourceLines hm.resources) rfl

/-! ## A message is parsed back from its text -/

/-- What the constructors do not check and the parser does. -/
structure Reparsable (m : SiwxMessage) (name : String) : Prop where
  address : OneLine m.address
  chainId : OneLine m.chainId
  label : OneLine name
  statement : ∀ s ∈ m.statement, isTagged s = false
  size : ((m.signLines name).map fun line => byteLen line + 1).sum ≤ maxMessageBytes + 1

theorem oneLine_signLines (hlib : lib.Lawful) (hm : WellFormed lib.toSiwxLib m) (haddress : OneLine m.address)
    (hchain : OneLine m.chainId) (hname : OneLine name) :
    ∀ line ∈ m.signLines name, OneLine line := by
  have hclosing := oneLine_closingLines hlib hm
  have hheader : OneLine (m.headerLine name) := by
    have hdomain := (domain_of_check hlib hm.domain).2.1
    have hscheme : OneLine ((m.scheme.map fun scheme => scheme ++ "://").getD "") := by
      have hcheck := hm.scheme
      rcases hs : m.scheme with _ | scheme
      · decide
      · rw [hs] at hcheck
        exact .append (.of_all (checkScheme_eq_ok hcheck).2 (by decide) (by decide)) (by decide)
    exact .append (.append (.append (.append hscheme hdomain) (by decide)) hname) (by decide)
  have hstatement : ∀ line ∈ m.statement.toList, OneLine line := by
    intro line hline
    have hcheck := hm.statement
    rw [mem_toList.mp hline] at hcheck
    exact oneLine_statement hcheck
  have hversion : OneLine m.version := by
    rw [checkVersion_eq_ok.mp hm.version]
    decide
  refine forall_mem_cons.mpr ⟨hheader, forall_mem_cons.mpr ⟨haddress, forall_mem_cons.mpr ⟨by decide,
    forall_mem_append.mpr ⟨hstatement, forall_mem_cons.mpr ⟨by decide, ?_⟩⟩⟩⟩⟩
  refine forall_mem_cons.mpr ⟨.append (by decide) (oneLine_uri hlib hm.uri), ?_⟩
  refine forall_mem_cons.mpr ⟨.append (by decide) hversion, ?_⟩
  refine forall_mem_cons.mpr ⟨.append (by decide) hchain, ?_⟩
  exact forall_mem_cons.mpr ⟨.append (by decide) (oneLine_nonce hm.nonce), hclosing⟩

theorem byteLen_toSignString (hlib : lib.Lawful) (hm : WellFormed lib.toSiwxLib m) (name : String) :
    byteLen (m.toSignString name) + 1 = ((m.signLines name).map fun line => byteLen line + 1).sum := by
  have htext := toList_toSignString (fun line hline => (oneLine_closingLines hlib hm line hline).1) name
  have hlen := congrArg Lines.byteLen htext
  rw [byteLen_append, byteLen_newline, byteLen_unlines, List.map_map] at hlen
  exact hlen

theorem fromStr_toSignString (hlib : lib.Lawful) (hm : WellFormed lib.toSiwxLib m) (haddress : OneLine m.address)
    (hchain : OneLine m.chainId) (hname : OneLine name)
    (hsize : ((m.signLines name).map fun line => byteLen line + 1).sum ≤ maxMessageBytes + 1) :
    fromStr lib.toSiwxLib (m.toSignString name) = parseLines lib.toSiwxLib (m.signLines name) := by
  have hlines := oneLine_signLines hlib hm haddress hchain hname
  have htext := toList_toSignString (fun line hline => (oneLine_closingLines hlib hm line hline).1) name
  have hbytes : ¬ byteLen (m.toSignString name) > maxMessageBytes := by
    have := byteLen_toSignString hlib hm name
    omega
  have hcr : '\r' ∉ (m.toSignString name).toList := by
    intro hmem
    have hmem' : '\r' ∈ Lines.unlines ((m.signLines name).map String.toList) := htext ▸ mem_append_left _ hmem
    obtain ⟨cs, hcs, hc⟩ := mem_flatMap.mp hmem'
    obtain ⟨line, hline, rfl⟩ := List.mem_map.mp hcs
    rcases mem_append.mp hc with hc | hc
    · exact (hlines line hline).2 hc
    · exact absurd (mem_singleton.mp hc) (by decide)
  have hsplit : ((m.toSignString name).toList.splitOn '\n').map String.ofList = m.signLines name := by
    rw [splitOn_of_unlines htext, List.map_map]
    · exact map_id'' (fun line => ofList_toList) _
    · intro cs hcs
      obtain ⟨line, hline, rfl⟩ := List.mem_map.mp hcs
      exact (hlines line hline).1
  rw [fromStr, if_neg hbytes, if_neg hcr, hsplit]

theorem fromStr_of_reparsable (hlib : lib.Lawful) (hm : WellFormed lib.toSiwxLib m) (h : Reparsable m name) :
    fromStr lib.toSiwxLib (m.toSignString name) = .ok { m with chainName := named name } := by
  rw [fromStr_toSignString hlib hm h.address h.chainId h.label h.size]
  exact parseLines_signLines hlib hm h.statement name

theorem headerLine_inj {name' : String} (h : m.headerLine name = m.headerLine name') : name = name' := by
  simp only [SiwxMessage.headerLine, ← toList_inj, toList_append] at h
  exact toList_inj.mp (append_cancel_left (append_cancel_right h))

theorem closingLines_ne_resTag (h : m.resources = []) : ∀ line ∈ m.closingLines, line ≠ resTag := by
  have hne : ∀ tag value : String, Text.stripPrefix tag resTag = none → tag ++ value ≠ resTag := by
    intro tag value hnone heq
    rw [← heq, stripPrefix_append] at hnone
    cases hnone
  refine forall_mem_cons.mpr ⟨hne _ _ (by decide), forall_optionalLines ?_ ?_ ?_ ?_ ?_⟩
  · exact fun t _ => hne _ _ (by decide)
  · exact fun t _ => hne _ _ (by decide)
  · exact fun rid _ => hne _ _ (by decide)
  · exact fun hsome => absurd h hsome
  · exact fun r _ => hne _ _ (by decide)

theorem lines_of_reparse (hlib : lib.Lawful) (hm : WellFormed lib.toSiwxLib m)
    (h : parseLines lib.toSiwxLib (((m.toSignString name).toList.splitOn '\n').map String.ofList) = .ok m) :
    name = m.label ∧ ∀ line ∈ m.signLines name, '\n' ∉ line.toList := by
  have hclosing : ∀ line ∈ m.closingLines, '\n' ∉ line.toList :=
    fun line hline => (oneLine_closingLines hlib hm line hline).1
  have hprinted := toList_toSignString hclosing name
  obtain ⟨-, -, hlines | ⟨hnone, hlines⟩⟩ := parseLines_eq_ok h
  · obtain ⟨htext, hfree⟩ := toList_eq_unlines hlines
    have hhead : ∀ n, Lines.unlines ((m.signLines n).map String.toList) = (m.headerLine n).toList ++ '\n' ::
        Lines.unlines ((m.address :: "" :: (m.statement.toList ++ "" :: (m.requiredLines ++ m.optionalLines))).map
          String.toList) := fun n => unlines_cons _ _
    rw [hprinted, hhead, hhead] at htext
    have hname := headerLine_inj (toList_inj.mp (append_cancel_right htext))
    rw [hname]
    exact ⟨rfl, hfree⟩
  · -- the last line of the text is a field, not the tag of a resource section
    obtain ⟨htext, hfree⟩ := toList_eq_unlines hlines
    obtain ⟨front, last, hmem, hconcat⟩ := m.signLines_eq_concat name
    rw [hprinted, hconcat, map_append, map_append, map_singleton, map_singleton] at htext
    have heq := last_eq_of_unlines htext (hclosing last hmem) (by decide)
    exact absurd (toList_inj.mp heq) (closingLines_ne_resTag hnone last hmem)

/-- **A message that can be built is parsed back from its text** exactly if the text was printed under the message's
own chain name, no field breaks a line, the statement does not look like a field and the text is not too long. -/
theorem reparsed_iff (hlib : lib.Lawful) {m : SiwxMessage} (hm : Built lib m) (name : String) :
    fromStr lib.toSiwxLib (m.toSignString name) = .ok m ↔ m.chainName = named name ∧ Reparsable m name := by
  have hwf := hm.wellFormed hlib.instants
  constructor
  · intro h
    obtain ⟨hsize, hcr, hparse⟩ := fromStr_eq_ok h
    obtain ⟨hname, htag, -⟩ := parseLines_eq_ok hparse
    obtain ⟨hlabel, hlf⟩ := lines_of_reparse hlib hwf hparse
    have hprinted :=
      toList_toSignString (fun line hline => (oneLine_closingLines hlib hwf line hline).1) name
    have hlines : ∀ line ∈ m.signLines name, OneLine line := by
      refine fun line hline => ⟨hlf line hline, fun hc => ?_⟩
      have hmem : '\r' ∈ Lines.unlines ((m.signLines name).map String.toList) :=
        mem_flatMap.mpr ⟨_, List.mem_map_of_mem hline, mem_append_left _ hc⟩
      rw [← hprinted, mem_append] at hmem
      exact hmem.elim hcr (by decide)
    refine ⟨hlabel ▸ hname, ?_, ?_, ?_, htag, ?_⟩
    · exact hlines _ (mem_cons_of_mem _ mem_cons_self)
    · have hmem : chainTag ++ m.chainId ∈ m.requiredLines :=
        mem_cons_of_mem _ (mem_cons_of_mem _ mem_cons_self)
      refine (oneLine_append.mp (hlines (chainTag ++ m.chainId) ?_)).2
      exact mem_cons_of_mem _ (mem_cons_of_mem _ (mem_cons_of_mem _ (mem_append_right _
        (mem_cons_of_mem _ (mem_append_left _ hmem)))))
    · have hheader := hlines _ mem_cons_self
      exact (oneLine_append.mp (oneLine_append.mp hheader).1).2
    · have := byteLen_toSignString hlib hwf name
      omega
  · rintro ⟨hname, h⟩
    rw [fromStr_of_reparsable hlib hwf h, ← hname]

end

/-! ## Messages that are and are not parsed back -/

/-- A library of authorities and URIs of `pchar`, and the two dates of `sampleLib`. -/
def strictLib : BuildLib where
  authority s := s.toList.all isPcharByte
  uriString s := if s.toList.all isPcharByte then .ok () else .error "invalid"
  timestamp := sampleLib.timestamp
  debug := sampleLib.debug
  instantText t := if t = 1767229200000000000 then "2026-01-01T01:00:00Z" else "2026-01-01T00:00:00Z"

theorem strictLib_lawful : strictLib.Lawful where
  authority s h := by
    have hall := List.all_eq_true.mp h
    exact ⟨.of_all hall (by decide) (by decide), fun hc => absurd (hall _ hc) (by decide),
      fun hc => absurd (hall _ hc) (by decide)⟩
  uri s h := by
    have hall : s.toList.all isPcharByte = true := by
      by_contra hall
      exact absurd ((if_neg hall).symm.trans h) (by decide)
    exact .of_all (List.all_eq_true.mp hall) (by decide) (by decide)
  timestamp s t h := by
    change sampleLib.timestamp s = .ok t at h
    rw [sampleLib] at h
    dsimp only at h
    split_ifs at h with h1 h2
    · rw [h1]
      decide
    · rw [h2]
      decide
  instants t := by
    change Text.contains "T" (if t = 1767229200000000000 then _ else _) = true ∧
      hasRfc3339Timezone (if t = 1767229200000000000 then _ else _) = true
    split_ifs
    · decide +kernel
    · decide +kernel

/-- The JSON form of `sampleMessage`. -/
def sampleRaw : RawMessage :=
  ⟨none, "a.io", "0xaa", none, "a:b", "1", "1", some "Ethereum", "32891756", "2026-01-01T00:00:00Z",
    some "2026-01-01T01:00:00Z", none, none, []⟩

theorem built_sampleMessage : Built strictLib sampleMessage := by
  have hraw : sampleRaw.deserialize strictLib.toSiwxLib = .ok sampleMessage := by decide +kernel
  exact .deserialize hraw

theorem reparsed_sampleMessage :
    fromStr strictLib.toSiwxLib (sampleMessage.toSignString "Ethereum") = .ok sampleMessage :=
  (reparsed_iff strictLib_lawful built_sampleMessage "Ethereum").mpr
    ⟨by decide, by decide, by decide, by decide, nofun, by decide +kernel⟩

def taggedMessage : SiwxMessage :=
  ⟨none, "a.io", "0xaa", some "URI: x", "a:b", "1", "1", none, "32891756",
    ⟨1767225600000000000, "2026-01-01T00:00:00Z"⟩, none, none, none, []⟩

/-- `with_statement` takes a statement that reads like a field; the parser refuses the text. -/
theorem tagged_statement_not_reparsed : Built strictLib taggedMessage ∧ taggedMessage.chainName = named "" ∧
    fromStr strictLib.toSiwxLib (taggedMessage.toSignString "") =
      .error (.invalidFormat .expectedBlankLine) := by
  have hnew : SiwxMessage.new strictLib "a.io" "0xaa" "a:b" "1" "32891756" 1767225600000000000 =
      .ok { taggedMessage with statement := none } := by decide +kernel
  have hbuild : SiwxMessage.build strictLib { taggedMessage with statement := none } (.statement "URI: x") =
      .ok taggedMessage := by decide +kernel
  have hbuilt : Built strictLib taggedMessage := .build (.new hnew) hbuild
  refine ⟨hbuilt, by decide, ?_⟩
  decide +kernel

end OneCipher.Siwx
