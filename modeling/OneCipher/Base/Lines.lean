import Mathlib.Data.List.DropRight
import OneCipher.Base.Text

/-!
# OneCipher.Base.Lines — text files of one record a line

`lines` is `str::lines` of the Rust standard library and `unlines` the file a writer leaves that ends
every record with a newline.  Records without line breaks come back (`lines_unlines`).  `byteLen` is the
length of a text in bytes.
-/

namespace OneCipher

open List
open Text (isWhitespace)

namespace Lines

/-- `str::len`. -/
def byteLen (cs : List Char) : Nat := (cs.flatMap String.utf8EncodeChar).length

@[simp] theorem byteLen_append (a b : List Char) : byteLen (a ++ b) = byteLen a + byteLen b := by
  rw [byteLen, flatMap_append, length_append]
  rfl

theorem byteLen_newline : byteLen ['\n'] = 1 := rfl

def stripCr (line : List Char) : List Char := if line.getLast? = some '\r' then line.dropLast else line

/-- `str::lines`: the text between newlines; what follows the last newline is a line unless it is empty. -/
def lines (cs : List Char) : List (List Char) :=
  (cs.splitOn '\n').dropLast.map stripCr ++ ((cs.splitOn '\n').getLast?.filter (· ≠ [])).toList

def unlines (records : List (List Char)) : List Char := records.flatMap (· ++ ['\n'])

theorem unlines_nil : unlines [] = [] := rfl

theorem unlines_append (a b : List (List Char)) : unlines (a ++ b) = unlines a ++ unlines b := flatMap_append

theorem unlines_cons (r : List Char) (rs : List (List Char)) : unlines (r :: rs) = r ++ '\n' :: unlines rs := by
  rw [unlines, flatMap_cons, append_assoc]
  rfl

variable {records : List (List Char)} {cs : List Char}

theorem intercalate_newline (h : records ≠ []) : List.intercalate ['\n'] records ++ ['\n'] = unlines records := by
  induction records with
  | nil => exact absurd rfl h
  | cons r rs ih =>
    rcases rs with _ | ⟨r', rs⟩
    · rw [intercalate_singleton, unlines_cons, unlines_nil]
    · rw [intercalate_cons_cons, append_assoc, ih (cons_ne_nil _ _), unlines_cons r, append_assoc, singleton_append]

/-- `str::trim`. -/
def trim (cs : List Char) : List Char := (cs.dropWhile isWhitespace).rdropWhile isWhitespace

theorem isWhitespace_of_trim_eq_nil (h : trim cs = []) : ∀ c ∈ cs, isWhitespace c = true := by
  rw [trim, rdropWhile_eq_nil_iff] at h
  have hnil : cs.dropWhile isWhitespace = [] := by
    rcases hd : cs.dropWhile isWhitespace with _ | ⟨c, rest⟩
    · rfl
    · have hc := h c (hd ▸ mem_cons_self)
      have hnot := List.head?_dropWhile_not isWhitespace cs
      rw [hd] at hnot
      simp [hc] at hnot
  exact dropWhile_eq_nil_iff.mp hnil

theorem byteLen_unlines (records : List (List Char)) :
    byteLen (unlines records) = (records.map fun r => byteLen r + 1).sum := by
  induction records with
  | nil => rfl
  | cons _ _ ih =>
    rw [unlines_cons, ← singleton_append, byteLen_append, byteLen_append, byteLen_newline, ih, map_cons,
      sum_cons, Nat.add_assoc]

theorem splitOn_unlines (h : ∀ r ∈ records, '\n' ∉ r) : (unlines records).splitOn '\n' = records ++ [[]] := by
  induction records with
  | nil => rfl
  | cons r _ ih =>
    rw [unlines_cons, splitOn_append_cons_self_of_not_mem (h r mem_cons_self),
      ih fun s hs => h s (mem_cons_of_mem _ hs)]
    rfl

theorem not_mem_of_mem_splitOn {l : List Char} (h : l ∈ cs.splitOn '\n') : '\n' ∉ l := by
  induction cs generalizing l with
  | nil =>
    rw [splitOn_nil, mem_singleton] at h
    rw [h]
    exact not_mem_nil
  | cons _ cs ih =>
    rw [splitOn_cons_eq_if_modifyHead] at h
    split_ifs at h with hc
    · rcases mem_cons.mp h with rfl | h
      · exact not_mem_nil
      · exact ih h
    · rcases hcs : cs.splitOn '\n' with _ | ⟨first, rest⟩
      · rw [hcs] at h
        cases h
      · rw [hcs, modifyHead_cons, mem_cons] at h
        rcases h with rfl | h
        · rw [mem_cons, not_or]
          exact ⟨fun heq => hc (beq_iff_eq.mpr heq.symm), ih (hcs ▸ mem_cons_self)⟩
        · exact ih (hcs ▸ mem_cons_of_mem _ h)

theorem unlines_splitOn (cs : List Char) : unlines (cs.splitOn '\n') = cs ++ ['\n'] := by
  induction cs with
  | nil => rfl
  | cons _ cs ih =>
    rw [splitOn_cons_eq_if_modifyHead]
    split_ifs with hc
    · rw [unlines_cons, ih, beq_iff_eq.mp hc]
      rfl
    · rcases hcs : cs.splitOn '\n' with _ | ⟨first, rest⟩
      · exact absurd hcs (splitOn_ne_nil _ _)
      · rw [hcs, unlines_cons] at ih
        rw [modifyHead_cons, unlines_cons, cons_append, ih, cons_append]

theorem splitOn_of_unlines (hcs : cs ++ ['\n'] = unlines records) (h : ∀ r ∈ records, '\n' ∉ r) :
    cs.splitOn '\n' = records := by
  have hsplit := splitOn_unlines h
  rw [← hcs, ← unlines_splitOn, splitOn_unlines fun r hr => not_mem_of_mem_splitOn hr] at hsplit
  exact append_cancel_right hsplit

theorem unlines_flatMap_splitOn (records : List (List Char)) :
    unlines (records.flatMap (·.splitOn '\n')) = unlines records := by
  induction records with
  | nil => rfl
  | cons _ _ ih =>
    rw [flatMap_cons, unlines_append, unlines_splitOn, ih, unlines_cons, append_assoc]
    rfl

def pieces (records : List (List Char)) : List (List Char) := records.flatMap (·.splitOn '\n')

theorem pieces_append (a b : List (List Char)) : pieces (a ++ b) = pieces a ++ pieces b := flatMap_append

theorem pieces_cons (r : List Char) (rs : List (List Char)) : pieces (r :: rs) = r.splitOn '\n' ++ pieces rs :=
  flatMap_cons

theorem pieces_of_not_mem (h : ∀ r ∈ records, '\n' ∉ r) : pieces records = records := by
  induction records with
  | nil => rfl
  | cons r _ ih =>
    rw [pieces_cons, ih fun s hs => h s (mem_cons_of_mem r hs), splitOn_eq_singleton (h r mem_cons_self)]
    rfl

theorem pieces_eq_of_unlines {rs rs' : List (List Char)} (h : unlines rs = unlines rs') : pieces rs = pieces rs' := by
  have hfree : ∀ ls : List (List Char), ∀ r ∈ pieces ls, '\n' ∉ r := by
    intro ls r hr
    obtain ⟨_, -, hpiece⟩ := mem_flatMap.mp hr
    exact not_mem_of_mem_splitOn hpiece
  have hu : unlines (pieces rs) = unlines (pieces rs') :=
    (unlines_flatMap_splitOn rs).trans (h.trans (unlines_flatMap_splitOn rs').symm)
  have hsplit := splitOn_unlines (hfree rs)
  rw [hu, splitOn_unlines (hfree rs')] at hsplit
  exact (append_cancel_right hsplit).symm

theorem last_eq_of_unlines {rs rs' : List (List Char)} {last last' : List Char}
    (heq : unlines (rs ++ [last]) = unlines (rs' ++ [last'])) (h : '\n' ∉ last) (h' : '\n' ∉ last') :
    last = last' := by
  have hsingle : ∀ {l : List Char}, '\n' ∉ l → pieces [l] = [l] := fun hl =>
    pieces_of_not_mem fun r hr => by rwa [mem_singleton.mp hr]
  have hpieces := pieces_eq_of_unlines heq
  rw [pieces_append, pieces_append, hsingle h, hsingle h'] at hpieces
  exact (List.cons.inj (append_inj_right' hpieces rfl)).1

theorem rdropWhile_unlines (records : List (List Char)) {last : List Char} (hne : last ≠ []) (hlast : '\n' ∉ last) :
    (unlines (records ++ [last])).rdropWhile (· = '\n') ++ ['\n'] = unlines (records ++ [last]) := by
  obtain ⟨front, c, rfl⟩ := (eq_nil_or_concat' last).resolve_left hne
  have hc : c ≠ '\n' := fun heq => hlast (heq ▸ mem_append_right _ mem_cons_self)
  rw [unlines_append, unlines_cons, ← append_assoc, ← append_assoc, unlines_nil,
    rdropWhile_concat_pos (fun x => decide (x = '\n')) _ _ (decide_eq_true rfl),
    rdropWhile_concat_neg _ _ _ (by simpa using hc)]

theorem stripCr_of_not_mem {r : List Char} (h : '\r' ∉ r) : stripCr r = r := by
  rw [stripCr, if_neg]
  intro hlast
  exact h (List.mem_of_getLast? hlast)

theorem stripCr_sublist (line : List Char) : (stripCr line).Sublist line := by
  unfold stripCr
  split
  · exact dropLast_sublist line
  · exact List.Sublist.refl line

theorem not_mem_of_mem_lines {l : List Char} (h : l ∈ lines cs) : '\n' ∉ l := by
  rcases mem_append.mp h with h | h
  · obtain ⟨m, hm, rfl⟩ := mem_map.mp h
    intro hn
    exact not_mem_of_mem_splitOn ((dropLast_sublist _).subset hm) ((stripCr_sublist m).subset hn)
  · obtain ⟨hlast, -⟩ := Option.filter_eq_some_iff.mp (Option.mem_toList.mp h)
    exact not_mem_of_mem_splitOn (List.mem_of_getLast? hlast)

theorem lines_unlines_eq_map (h : ∀ r ∈ records, '\n' ∉ r) : lines (unlines records) = records.map stripCr := by
  rw [lines, splitOn_unlines h, dropLast_concat, List.getLast?_concat]
  exact append_nil _

theorem lines_unlines (h : ∀ r ∈ records, '\n' ∉ r ∧ '\r' ∉ r) : lines (unlines records) = records := by
  rw [lines_unlines_eq_map fun r hr => (h r hr).1, map_congr_left fun r hr => stripCr_of_not_mem (h r hr).2]
  exact map_id' records

theorem lines_singleton (hne : cs ≠ []) (h : '\n' ∉ cs) : lines cs = [cs] := by
  rw [lines, splitOn_eq_singleton h]
  simp [hne]

theorem trim_of_ends {c d : Char} (hc : isWhitespace c = false) (hd : isWhitespace d = false) :
    trim (c :: (cs ++ [d])) = c :: (cs ++ [d]) := by
  rw [trim, dropWhile_cons, hc]
  simp only [Bool.false_eq_true, if_false]
  rw [← cons_append, rdropWhile_concat_neg _ _ _ (by simp [hd])]

end Lines

end OneCipher
