import OneCipher.Base.Text

/-!
# OneCipher.Secret.Path — secret names and the files they are stored in

`validate_secret_name` and `secret_name_to_filename` of `oc-core/src/paths.rs`, `validate_path` and
`to_file` of `oc-secret/src/path.rs`.  A name is hierarchical; `%` and `/` are percent-encoded, so that
every entry is a file of its own in one flat directory (`entryFile_inj`).
-/

namespace OneCipher.Secret

def maxPathLen : Nat := 1024

/-! ## Validation -/

/-- The characters no name contains: NUL, line breaks, the backslash and what shells or other file
systems treat specially. -/
def forbiddenChars : List Char := [Char.ofNat 0, '\n', '\r', '\\', ':', '*', '?', '"', '<', '>', '|']

def isAsciiDigit (c : Char) : Bool := '0' ≤ c && c ≤ '9'

def isReserved (segment : List Char) : Bool :=
  let stem := (segment.takeWhile (· ≠ '.')).map Char.toUpper
  stem ∈ ["CON".toList, "PRN".toList, "AUX".toList, "NUL".toList] ||
    (stem.length == 4 && (stem.take 3 == "COM".toList || stem.take 3 == "LPT".toList) &&
      (stem.drop 3).all fun c => isAsciiDigit c && c ≠ '0')

def segmentFault (segment : List Char) : Option String :=
  if segment = [] then some "name contains an empty path segment"
  else if segment = ['.'] ∨ segment = ['.', '.'] then some "path segment must not be '.' or '..'"
  else if segment.head? = some '.' ∨ segment.getLast? = some '.' then
    some "path segment must not start or end with '.'"
  else if segment.getLast? = some ' ' then some "path segment must not end with space"
  else if isReserved segment then some "path segment is a Windows reserved device name"
  else none

def nameFault (name : String) : Option String :=
  let cs := name.toList
  if Text.trim name = "" then some "name must not be empty or blank"
  else if (Text.utf8 name).length > 1024 then some "name exceeds 1024 bytes"
  else if cs.any (· ∈ forbiddenChars) then some "name contains a forbidden character"
  else if cs.head? = some '/' ∨ cs.getLast? = some '/' then some "name must not start or end with '/'"
  else if cs.head? = some '.' ∨ cs.getLast? = some '.' then some "name must not start or end with '.'"
  else if Text.contains "//" name ∨ Text.contains "/./" name ∨ Text.contains "/../" name then
    some "name must not contain '//', '/./' or '/../'"
  else (cs.splitOn '/').findSome? segmentFault

/-- `validate_secret_name`: the error is the message of `OcError::InvalidInput`. -/
def validateSecretName (name : String) : Except String Unit :=
  match nameFault name with
  | some reason => .error ("invalid secret name '" ++ name ++ "': " ++ reason)
  | none => .ok ()

/-- `validate_path`: the error is the reason of `PathError::Invalid`. -/
def validatePath (path : String) : Except String Unit :=
  if (Text.utf8 path).length > maxPathLen then .error ("path exceeds " ++ toString maxPathLen ++ " bytes")
  else validateSecretName path

/-- The name passes the validator. -/
def ValidName (name : String) : Prop := validatePath name = .ok ()

instance (name : String) : Decidable (ValidName name) :=
  decidable_of_iff ((validatePath name).isOk = true) (by
    rw [ValidName]
    rcases validatePath name with e | u
    · simp [Except.isOk, Except.toBool]
    · simp [Except.isOk, Except.toBool])

theorem validateSecretName_eq_ok {name : String} (h : validateSecretName name = .ok ()) :
    name ≠ "" ∧ (Text.utf8 name).length ≤ maxPathLen ∧ (∀ c ∈ name.toList, c ∉ forbiddenChars) ∧
      name.toList.head? ≠ some '.' := by
  have hfault : nameFault name = none := by
    rw [validateSecretName] at h
    rcases hf : nameFault name with _ | reason
    · rfl
    · rw [hf] at h
      cases h
  unfold nameFault at hfault
  dsimp only at hfault
  split_ifs at hfault with hblank hlen hchars hslash hdot hsub
  refine ⟨?_, Nat.not_lt.mp hlen, fun c hc hmem => ?_, fun h => hdot (.inl h)⟩
  · rintro rfl
    exact hblank rfl
  · exact hchars (List.any_eq_true.mpr ⟨c, hc, decide_eq_true hmem⟩)

theorem ValidName.plain {name : String} (h : ValidName name) : name ≠ "" ∧ ∀ c ∈ name.toList, c ∉ forbiddenChars := by
  rw [ValidName, validatePath] at h
  split_ifs at h
  obtain ⟨hne, -, hchars, -⟩ := validateSecretName_eq_ok h
  exact ⟨hne, hchars⟩

/-! ## Files -/

/-- `str::replace` of a character by a text. -/
def replaceChar (c : Char) (by_ : List Char) (cs : List Char) : List Char :=
  cs.flatMap fun d => if d = c then by_ else [d]

/-- `secret_name_to_filename`. -/
def secretNameToFilename (name : String) : List Char :=
  replaceChar '/' ['%', '2', 'F'] (replaceChar '%' ['%', '2', '5'] name.toList)

/-- `to_file` under the secrets directory: the file name with `.age` appended. -/
def entryFile (name : String) : String := String.ofList (secretNameToFilename name ++ ".age".toList)

def decodeFilename : List Char → List Char
  | '%' :: '2' :: '5' :: cs => '%' :: decodeFilename cs
  | '%' :: '2' :: 'F' :: cs => '/' :: decodeFilename cs
  | c :: cs => c :: decodeFilename cs
  | [] => []

def encodeChar (c : Char) : List Char :=
  if c = '%' then ['%', '2', '5'] else if c = '/' then ['%', '2', 'F'] else [c]

theorem secretNameToFilename_eq (name : String) : secretNameToFilename name = name.toList.flatMap encodeChar := by
  rw [secretNameToFilename, replaceChar, replaceChar, List.flatMap_assoc]
  refine List.flatMap_congr fun c _ => ?_
  by_cases hp : c = '%'
  · subst hp
    rfl
  by_cases hs : c = '/'
  · subst hs
    rfl
  · simp [encodeChar, hp, hs]

theorem decodeFilename_flatMap (cs : List Char) : decodeFilename (cs.flatMap encodeChar) = cs := by
  induction cs with
  | nil => rfl
  | cons c _ ih =>
    rw [List.flatMap_cons]
    by_cases hp : c = '%'
    · subst hp
      exact congrArg _ ih
    by_cases hs : c = '/'
    · subst hs
      exact congrArg _ ih
    have henc : encodeChar c = [c] := by rw [encodeChar, if_neg hp, if_neg hs]
    rw [henc, List.singleton_append, decodeFilename, ih]
    · intro _ h
      exact absurd h hp
    · intro _ h
      exact absurd h hp

theorem entryFile_inj {a b : String} (h : entryFile a = entryFile b) : a = b := by
  have hlist : secretNameToFilename a ++ ".age".toList = secretNameToFilename b ++ ".age".toList :=
    String.ofList_injective h
  have hname : secretNameToFilename a = secretNameToFilename b := List.append_cancel_right hlist
  rw [secretNameToFilename_eq, secretNameToFilename_eq] at hname
  have hdec := congrArg decodeFilename hname
  rw [decodeFilename_flatMap, decodeFilename_flatMap] at hdec
  exact String.toList_injective hdec

/-! ## The directory -/

/-- `Path::join`: an absolute file name takes the place of the directory. -/
def joinPath (dir file : List Char) : List Char :=
  if file.head? = some '/' then file
  else if dir = [] ∨ dir.getLast? = some '/' then dir ++ file
  else dir ++ '/' :: file

/-- `to_file`. -/
def toFile (secretsDir : List Char) (path : String) : Except String (List Char) :=
  (validatePath path).map fun _ => joinPath secretsDir (entryFile path).toList

/-- The name of a file in the directory itself: one component, neither hidden nor one of `.` and `..`. -/
def PlainComponent (file : List Char) : Prop := file ≠ [] ∧ '/' ∉ file ∧ file.head? ≠ some '.'

theorem plainComponent_entryFile {name : String} (h : validateSecretName name = .ok ()) :
    PlainComponent (entryFile name).toList := by
  obtain ⟨hne, -, -, hdot⟩ := validateSecretName_eq_ok h
  obtain ⟨c, cs, hcs⟩ := List.exists_cons_of_ne_nil (String.toList_eq_nil_iff.not.mpr hne)
  have henc : ∀ c, '/' ∉ encodeChar c ∧ (c ≠ '.' → ∃ d rest, encodeChar c = d :: rest ∧ d ≠ '.') := by
    intro c
    rw [encodeChar]
    split_ifs with hp hs
    · exact ⟨by decide, fun _ => ⟨_, _, rfl, by decide⟩⟩
    · exact ⟨by decide, fun _ => ⟨_, _, rfl, by decide⟩⟩
    · exact ⟨by simpa using Ne.symm hs, fun hc => ⟨c, [], rfl, hc⟩⟩
  obtain ⟨d, rest, hd, hne⟩ := (henc c).2 fun hc => hdot (by rw [hcs, hc]; rfl)
  rw [PlainComponent, entryFile, String.toList_ofList, secretNameToFilename_eq]
  refine ⟨by simp, ?_, ?_⟩
  · rw [List.mem_append, List.mem_flatMap, not_or]
    exact ⟨fun ⟨c, _, hc⟩ => (henc c).1 hc, by decide⟩
  · rw [hcs, List.flatMap_cons, hd]
    simpa using hne

theorem joinPath_inj {dir a b : List Char} (ha : '/' ∉ a) (hb : '/' ∉ b) (h : joinPath dir a = joinPath dir b) :
    a = b := by
  have hhead : ∀ {cs : List Char}, '/' ∉ cs → cs.head? ≠ some '/' := fun hcs hh => hcs (List.mem_of_head? hh)
  rw [joinPath, joinPath, if_neg (hhead ha), if_neg (hhead hb)] at h
  split_ifs at h
  · exact List.append_cancel_left h
  · exact (List.cons.inj (List.append_cancel_left h)).2

/-- **Different names have different files**, each of them in the directory itself and none of them hidden. -/
theorem toFile_apart (secretsDir : List Char) {a b : String} (ha : validateSecretName a = .ok ())
    (hb : validateSecretName b = .ok ()) (hne : a ≠ b) :
    ∃ fa fb, toFile secretsDir a = .ok (joinPath secretsDir fa) ∧ toFile secretsDir b = .ok (joinPath secretsDir fb) ∧
      joinPath secretsDir fa ≠ joinPath secretsDir fb ∧ PlainComponent fa ∧ PlainComponent fb := by
  have hfile : ∀ {name}, validateSecretName name = .ok () →
      toFile secretsDir name = .ok (joinPath secretsDir (entryFile name).toList) := by
    intro name h
    rw [toFile, validatePath, if_neg (Nat.not_lt.mpr (validateSecretName_eq_ok h).2.1), h]
    rfl
  have hca := plainComponent_entryFile ha
  have hcb := plainComponent_entryFile hb
  refine ⟨_, _, hfile ha, hfile hb, fun h => hne (entryFile_inj (String.toList_injective ?_)), hca, hcb⟩
  exact joinPath_inj hca.2.1 hcb.2.1 h

theorem toFile_apart_escaped : ∃ fa fb, toFile ['s'] "a/b" = .ok (joinPath ['s'] fa) ∧
    toFile ['s'] "a%2Fb" = .ok (joinPath ['s'] fb) ∧ joinPath ['s'] fa ≠ joinPath ['s'] fb ∧
    PlainComponent fa ∧ PlainComponent fb :=
  toFile_apart ['s'] (by decide +kernel) (by decide +kernel) (by decide)

end OneCipher.Secret
