import Mathlib.Data.List.DropRight
import OneCipher.Base.Text

/-!
# OneCipher.Base.Url — the host that a URL names

The part of the URL grammar that finds the host, over the characters of the URL.  The authority stands behind the
scheme and its slashes and ends where the path, the query or the fragment begins; the host stands behind the last `@`
of the authority and in front of its port.
-/

namespace OneCipher.Url

open List

/-- C0 controls and the space, which are stripped at both ends. -/
def isBlank (c : Char) : Bool := c.toNat ≤ 0x20

/-- Tabs and line ends, which are dropped everywhere. -/
def isDropped (c : Char) : Bool := c == '\t' || c == '\n' || c == '\r'

def prepared (url : List Char) : List Char := ((url.dropWhile isBlank).rdropWhile isBlank).filter (!isDropped ·)

def scheme (url : List Char) : String := Text.toAsciiLowercase (String.ofList ((prepared url).takeWhile (· != ':')))

/-- The schemes whose URLs take a backslash for a slash, and any number of either in front of the authority. -/
def isSpecial (scheme : String) : Bool := ["http", "https", "ws", "wss", "ftp"].contains scheme

def endsAuthority (special : Bool) (c : Char) : Bool := c == '/' || c == '?' || c == '#' || special && c == '\\'

def authority (url : List Char) : Option (List Char) :=
  let special := isSpecial (scheme url)
  match special, (prepared url).dropWhile (· != ':') with
  | true, _ :: rest =>
    some ((rest.dropWhile fun c => c == '/' || c == '\\').takeWhile (!endsAuthority special ·))
  | false, _ :: '/' :: '/' :: rest => some (rest.takeWhile (!endsAuthority special ·))
  | _, _ => none

/-- Up to the port; the colons of a bracketed address do not count. -/
def untilPort : Bool → List Char → List Char
  | _, [] => []
  | bracketed, c :: cs =>
    if c = ':' ∧ bracketed = false then []
    else c :: untilPort (if c = '[' then true else if c = ']' then false else bracketed) cs

def host (url : List Char) : Option (List Char) :=
  (authority url).map fun cs => untilPort false (cs.rtakeWhile (· != '@'))

/-! ## Web URLs -/

/-- What is left of the authority behind a first part of it. -/
def authorityRest (tail : List Char) : List Char :=
  ((tail.rdropWhile isBlank).filter (!isDropped ·)).takeWhile (!endsAuthority true ·)

variable {a tail : List Char}

theorem rdropWhile_append (h : ∀ c ∈ a, isBlank c = false) :
    (a ++ tail).rdropWhile isBlank = a ++ tail.rdropWhile isBlank := by
  have hrev : a.reverse.dropWhile isBlank = a.reverse := by
    rw [dropWhile_eq_self_iff]
    intro hl hblank
    rw [h _ (mem_reverse.mp (getElem_mem hl))] at hblank
    cases hblank
  rw [rdropWhile, rdropWhile, reverse_append, dropWhile_append, hrev]
  split_ifs with hempty
  · rw [isEmpty_iff.mp hempty, reverse_reverse, reverse_nil, append_nil]
  · rw [reverse_append, reverse_reverse]

theorem filter_of_not_blank (h : ∀ c ∈ a, isBlank c = false) : a.filter (!isDropped ·) = a := by
  refine filter_eq_self.mpr fun c hc => ?_
  by_contra hdropped
  have hblank : isBlank c = true := by
    simp only [isDropped, Bool.not_eq_true, Bool.not_eq_false', Bool.or_eq_true, beq_iff_eq] at hdropped
    rcases hdropped with (rfl | rfl) | rfl <;> rfl
  exact absurd hblank (by rw [h c hc]; decide)

theorem authorityRest_cons {c : Char} (h : isBlank c = false) :
    authorityRest (c :: tail) = if endsAuthority true c then [] else c :: authorityRest tail := by
  have hone : ∀ x ∈ [c], isBlank x = false := by simpa using h
  rw [authorityRest, ← singleton_append, rdropWhile_append hone, filter_append, filter_of_not_blank hone,
    singleton_append, takeWhile_cons]
  cases endsAuthority true c <;> rfl

theorem prepared_append (tail : List Char) (h : ∀ c ∈ a, isBlank c = false) (hne : a ≠ []) :
    prepared (a ++ tail) = a ++ (tail.rdropWhile isBlank).filter (!isDropped ·) := by
  obtain ⟨c, rest, rfl⟩ := exists_cons_of_ne_nil hne
  rw [prepared, cons_append, dropWhile_cons_of_neg (by simp [h c mem_cons_self]), ← cons_append, rdropWhile_append h,
    filter_append, filter_of_not_blank h]

section Web

variable {name : String} (hname : name = "http" ∨ name = "https")

include hname

theorem web_name : (∀ c ∈ name.toList, isBlank c = false ∧ (c != ':') = true) ∧
    Text.toAsciiLowercase name = name ∧ isSpecial name = true := by
  rcases hname with rfl | rfl <;> exact ⟨by simp [isBlank], by decide⟩

theorem prepared_web (cs : List Char) : prepared (name.toList ++ ':' :: '/' :: '/' :: cs) =
    name.toList ++ ':' :: '/' :: '/' :: (cs.rdropWhile isBlank).filter (!isDropped ·) := by
  have hall : ∀ c ∈ name.toList ++ [':', '/', '/'], isBlank c = false :=
    forall_mem_append.mpr ⟨fun c hc => ((web_name hname).1 c hc).1, by simp [isBlank]⟩
  simpa using prepared_append cs hall (by simp)

theorem scheme_web (cs : List Char) : scheme (name.toList ++ ':' :: '/' :: '/' :: cs) = name := by
  obtain ⟨hplain, hlower, -⟩ := web_name hname
  rw [scheme, prepared_web hname, takeWhile_append_of_pos fun c hc => (hplain c hc).2]
  simpa using hlower

/-- **The authority of a web URL** starts behind its two slashes. -/
theorem authority_web (tail : List Char) (hne : a ≠ []) (ha : ∀ c ∈ a, isBlank c = false ∧ endsAuthority true c = false) :
    authority (name.toList ++ ':' :: '/' :: '/' :: (a ++ tail)) = some (a ++ authorityRest tail) := by
  obtain ⟨hplain, -, hspecial⟩ := web_name hname
  have hblank : ∀ c ∈ a, isBlank c = false := fun c hc => (ha c hc).1
  rw [authority, scheme_web hname, hspecial, prepared_web hname, dropWhile_append_of_pos fun c hc => (hplain c hc).2,
    rdropWhile_append hblank, filter_append, filter_of_not_blank hblank]
  obtain ⟨c, rest, rfl⟩ := exists_cons_of_ne_nil hne
  have hslash : (c == '/' || c == '\\') = false := by
    have hends := (ha c mem_cons_self).2
    simp only [endsAuthority, Bool.or_eq_false_iff, Bool.true_and] at hends
    rw [hends.1.1.1, hends.2]
    rfl
  simp only [dropWhile_cons, bne_self_eq_false, beq_self_eq_true, Bool.true_or, Bool.false_eq_true, if_false, if_true,
    cons_append, hslash]
  rw [← cons_append, takeWhile_append_of_pos fun c hc => by simp [(ha c hc).2], cons_append, authorityRest]

end Web

theorem untilPort_append (h : ∀ c ∈ a, c ≠ ':' ∧ c ≠ '[' ∧ c ≠ ']') :
    untilPort false (a ++ tail) = a ++ untilPort false tail := by
  induction a with
  | nil => rfl
  | cons c a ih =>
    obtain ⟨hc, ha⟩ := forall_mem_cons.mp h
    rw [cons_append, untilPort, if_neg (fun hcolon => hc.1 hcolon.1), if_neg hc.2.1, if_neg hc.2.2, ih ha]
    rfl

/-! ## Cutting at the first slash and the first colon -/

/-- A character that can stand in the name of a host. -/
def isNameChar (c : Char) : Bool := !(isBlank c || endsAuthority true c || [':', '[', ']', '@'].contains c)

/-- The text in front of the first slash, and in front of the first colon of that. -/
def cut (cs : List Char) : List Char := (cs.takeWhile (· != '/')).takeWhile (· != ':')

theorem dropWhile_ne (x : Char) (l : List Char) : l.dropWhile (· != x) = [] ∨ ∃ r, l.dropWhile (· != x) = x :: r := by
  induction l with
  | nil => exact .inl rfl
  | cons c l ih =>
    by_cases h : c = x
    · exact .inr ⟨l, by simp [h]⟩
    · simpa [h] using ih

theorem exists_cut (cs : List Char) :
    ∃ tail, cs = cut cs ++ tail ∧ (tail = [] ∨ ∃ c r, tail = c :: r ∧ (c = '/' ∨ c = ':')) := by
  refine ⟨(cs.takeWhile (· != '/')).dropWhile (· != ':') ++ cs.dropWhile (· != '/'), ?_, ?_⟩
  · rw [← append_assoc, cut, takeWhile_append_dropWhile, takeWhile_append_dropWhile]
  · rcases dropWhile_ne ':' (cs.takeWhile (· != '/')) with h | ⟨r, h⟩
    · rw [h, nil_append]
      exact (dropWhile_ne '/' cs).imp id fun ⟨r, hr⟩ => ⟨'/', r, hr, .inl rfl⟩
    · exact .inr ⟨':', _, by rw [h, cons_append], .inr rfl⟩

/-- **What is cut out is the host**, if it is a name and the authority has no userinfo. -/
theorem host_of_cut {name : String} (hname : name = "http" ∨ name = "https") {cs : List Char} (hne : cut cs ≠ [])
    (hcut : ∀ c ∈ cut cs, isNameChar c = true) :
    ∃ a, authority (name.toList ++ ':' :: '/' :: '/' :: cs) = some a ∧
      ('@' ∉ a → host (name.toList ++ ':' :: '/' :: '/' :: cs) = some (cut cs)) := by
  simp only [isNameChar, Bool.not_eq_true', Bool.or_eq_false_iff] at hcut
  obtain ⟨tail, hcs, htail⟩ := exists_cut cs
  have hauthority := authority_web hname tail hne fun c hc => (hcut c hc).1
  rw [← hcs] at hauthority
  refine ⟨_, hauthority, fun hat => ?_⟩
  have hrest : untilPort false (authorityRest tail) = [] := by
    rcases htail with rfl | ⟨_, _, rfl, rfl | rfl⟩
    · rfl
    · rw [authorityRest_cons (by decide)]
      rfl
    · rw [authorityRest_cons (by decide)]
      rfl
  have hwhole : (cut cs ++ authorityRest tail).rtakeWhile (· != '@') = cut cs ++ authorityRest tail :=
    rtakeWhile_eq_self_iff.mpr fun c hc => bne_iff_ne.mpr fun h => hat (h ▸ hc)
  rw [host, hauthority, Option.map_some, hwhole, untilPort_append, hrest, append_nil]
  intro c hc
  have hnot := (hcut c hc).2
  simp only [contains_eq_mem, decide_eq_false_iff_not, mem_cons, not_or] at hnot
  exact ⟨hnot.1, hnot.2.1, hnot.2.2.1⟩

end OneCipher.Url
