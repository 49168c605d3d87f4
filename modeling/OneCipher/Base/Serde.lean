import Mathlib.Data.String.Basic
import OneCipher.Base.Json

/-!
# OneCipher.Base.Serde — records and values read from JSON

How the `serde` derive macros read a record from the members of an object (`readField`), and the documents
of type `serde_json::Value`.  The members of such an object are an ordered map: reading one sorts them by
key and keeps the last of those with the same key (`normal`).  `JsonValue` is a document in that form.
-/

namespace OneCipher

open List

namespace Serde

/-! ## Fields of a record -/

def fieldValues (key : String) (members : List (String × Json)) : List Json := (members.filter (·.1 = key)).map (·.2)

/-- A field read by `read`; `missing` is what its absence gives.  A field given twice is an error. -/
def readField {α : Type} (read : Json → Option α) (missing : Option α) (values : List Json) : Option α :=
  match values with
  | [] => missing
  | [j] => read j
  | _ => none

/-- A value that may be `null`. -/
def readNullable : Json → Option (Option String)
  | .null => some none
  | .str s => some (some s)
  | _ => none

def readU64 : Json → Option UInt64
  | .num (.posInt n) => some n
  | _ => none

@[simp] theorem fieldValues_append (key : String) (a b : List (String × Json)) :
    fieldValues key (a ++ b) = fieldValues key a ++ fieldValues key b := by
  rw [fieldValues, filter_append, map_append]
  rfl

/-! ## Ordered maps -/

def insertMember (key : String) (j : Json) : List (String × Json) → List (String × Json)
  | [] => [(key, j)]
  | (k, i) :: ms =>
    if key = k then (k, i) :: ms
    else if key < k then (key, j) :: (k, i) :: ms
    else (k, i) :: insertMember key j ms

mutual
/-- A document as `serde_json::Value` holds it. -/
def normal : Json → Json
  | .arr items => .arr (normalItems items)
  | .obj members => .obj (normalMembers members)
  | j => j

def normalItems : List Json → List Json
  | [] => []
  | j :: js => normal j :: normalItems js

def normalMembers : List (String × Json) → List (String × Json)
  | [] => []
  | (k, j) :: ms => insertMember k (normal j) (normalMembers ms)
end

/-- The keys are in order, each once. -/
abbrev Ordered (members : List (String × Json)) : Prop := members.Pairwise (·.1 < ·.1)

variable {members : List (String × Json)}

theorem mem_insertMember {key : String} {j : Json} {m : String × Json} (h : m ∈ insertMember key j members) :
    m = (key, j) ∨ m ∈ members := by
  induction members with
  | nil => exact .inl (mem_singleton.mp h)
  | cons n _ ih =>
    rw [insertMember] at h
    split_ifs at h with heq hlt
    · exact .inr h
    · exact mem_cons.mp h
    · rcases mem_cons.mp h with h | h
      · exact .inr (h ▸ mem_cons_self)
      · exact (ih h).imp_right (mem_cons_of_mem n)

theorem ordered_insertMember {key : String} {j : Json} (h : Ordered members) :
    Ordered (insertMember key j members) := by
  induction members with
  | nil => exact pairwise_singleton _ _
  | cons _ _ ih =>
    obtain ⟨hn, hms⟩ := pairwise_cons.mp h
    rw [insertMember]
    split_ifs with heq hlt
    · exact h
    · refine pairwise_cons.mpr ⟨fun m hm => ?_, h⟩
      rcases mem_cons.mp hm with rfl | hm
      · exact hlt
      · exact hlt.trans (hn m hm)
    · refine pairwise_cons.mpr ⟨fun m hm => ?_, ih hms⟩
      rcases mem_insertMember hm with rfl | hm
      · exact lt_of_le_of_ne (not_lt.mp hlt) fun h => heq h.symm
      · exact hn m hm

theorem insertMember_of_lt {key : String} {j : Json} (h : ∀ m ∈ members, key < m.1) :
    insertMember key j members = (key, j) :: members := by
  rcases members with _ | ⟨⟨k, i⟩, ms⟩
  · rfl
  · have hlt : key < k := h (k, i) mem_cons_self
    rw [insertMember, if_neg hlt.ne, if_pos hlt]

theorem ordered_normalMembers (members : List (String × Json)) : Ordered (normalMembers members) := by
  induction members with
  | nil => exact List.Pairwise.nil
  | cons _ _ ih =>
    exact ordered_insertMember ih

theorem normalMembers_of_ordered (h : Ordered members) (hnormal : ∀ m ∈ members, normal m.2 = m.2) :
    normalMembers members = members := by
  induction members with
  | nil => rfl
  | cons m _ ih =>
    obtain ⟨hm, hms⟩ := pairwise_cons.mp h
    rw [normalMembers, ih hms fun n hn => hnormal n (mem_cons_of_mem m hn), hnormal m mem_cons_self]
    exact insertMember_of_lt hm

mutual
theorem normal_normal : (j : Json) → normal (normal j) = normal j
  | .null => rfl
  | .bool _ => rfl
  | .num _ => rfl
  | .str _ => rfl
  | .arr items => by
    rw [normal, normal, normalItems_normalItems items]
  | .obj members => by
    rw [normal, normal, normalMembers_of_ordered (ordered_normalMembers members) (normal_of_mem members)]

theorem normalItems_normalItems : (items : List Json) → normalItems (normalItems items) = normalItems items
  | [] => rfl
  | j :: js => by
    rw [normalItems, normalItems, normal_normal j, normalItems_normalItems js]

theorem normal_of_mem : (members : List (String × Json)) → ∀ m ∈ normalMembers members, normal m.2 = m.2
  | [] => fun m hm => by
    rw [normalMembers] at hm
    cases hm
  | (k, j) :: ms => fun m hm => by
    rw [normalMembers] at hm
    rcases mem_insertMember hm with rfl | hm
    · exact normal_normal j
    · exact normal_of_mem ms m hm

end

end Serde

/-- A `serde_json::Value`. -/
@[ext] structure JsonValue where
  json : Json
  normal_json : Serde.normal json = json

namespace JsonValue

def ofJson (j : Json) : JsonValue := ⟨Serde.normal j, Serde.normal_normal j⟩

@[simp] theorem ofJson_json (v : JsonValue) : ofJson v.json = v := JsonValue.ext v.normal_json

end JsonValue

end OneCipher
