import Mathlib.Algebra.Group.Nat.Defs
import Mathlib.Data.List.AList

/-!
# OneCipher.Base.Json — JSON values and keyed stores

`Json` is a parsed JSON document with the number representation of `serde_json` (an integer that
fits 64 bits, or a float).  An object is its list of members; readers take the first member with
the name.  `retain` is the one operation on keyed stores that `AList` lacks.
-/

namespace OneCipher

open List AList

/-- A JSON number: a non-negative integer, a negative integer, or a float (its bit pattern). -/
inductive JsonNumber where
  | posInt (n : UInt64)
  | negInt (n : Int64)
  | float (bits : UInt64)
  deriving DecidableEq, Repr

inductive Json where
  | null
  | bool (b : Bool)
  | num (n : JsonNumber)
  | str (s : String)
  | arr (items : List Json)
  | obj (members : List (String × Json))

namespace JsonNumber

def asU64 : JsonNumber → Option Nat
  | posInt n => some n.toNat
  | _ => none

def asI64 : JsonNumber → Option Int
  | posInt n => if n.toNat < 2 ^ 63 then some n.toNat else none
  | negInt n => some n.toInt
  | float _ => none

theorem asU64_lt {j : JsonNumber} {n : Nat} (h : j.asU64 = some n) : n < 2 ^ 64 := by
  cases j with
  | posInt m => cases h; exact m.toNat_lt
  | _ => cases h

end JsonNumber

namespace Json

def asStr : Json → Option String
  | str s => some s
  | _ => none

def asU64 : Json → Option Nat
  | num n => n.asU64
  | _ => none

def asI64 : Json → Option Int
  | num n => n.asI64
  | _ => none

def asBool : Json → Option Bool
  | bool b => some b
  | _ => none

def asArray : Json → Option (List Json)
  | arr items => some items
  | _ => none

def asObject : Json → Option (List (String × Json))
  | obj members => some members
  | _ => none

def isNull : Json → Bool
  | null => true
  | _ => false

/-- `Value::get` with a string index: the member of an object, nothing for other values. -/
def get (key : String) : Json → Option Json
  | obj members => members.lookup key
  | _ => none

def getStr (key : String) (j : Json) : Option String := (j.get key).bind asStr

theorem lookup_filter_key {p : String → Bool} {k : String} (h : p k = true) (obj : List (String × Json)) :
    (obj.filter fun m => p m.1).lookup k = obj.lookup k := by
  induction obj with
  | nil => rfl
  | cons m _ ih =>
    obtain ⟨key, value⟩ := m
    rw [filter_cons]
    by_cases hk : k = key
    · subst hk
      rw [if_pos h, lookup_cons, lookup_cons, beq_self_eq_true]
    · have hne : (k == key) = false := beq_eq_false_iff_ne.mpr hk
      split
      · rw [lookup_cons, lookup_cons, ih]
      · rw [lookup_cons, ih, hne]

/-! ### Nesting -/

mutual
def depth : Json → Nat
  | arr items => depthItems items + 1
  | obj members => depthMembers members + 1
  | _ => 0

def depthItems : List Json → Nat
  | [] => 0
  | x :: xs => max (depth x) (depthItems xs)

def depthMembers : List (String × Json) → Nat
  | [] => 0
  | (_, x) :: xs => max (depth x) (depthMembers xs)
end

theorem depthItems_le {items : List Json} {n : Nat} (h : ∀ x ∈ items, x.depth ≤ n) : depthItems items ≤ n := by
  induction items with
  | nil => exact Nat.zero_le n
  | cons y _ ih =>
    exact Nat.max_le.mpr ⟨h y mem_cons_self, ih fun x hx => h x (mem_cons_of_mem y hx)⟩

theorem depthMembers_le {members : List (String × Json)} {n : Nat} (h : ∀ m ∈ members, m.2.depth ≤ n) :
    depthMembers members ≤ n := by
  induction members with
  | nil => exact Nat.zero_le n
  | cons m _ ih =>
    exact Nat.max_le.mpr ⟨h m mem_cons_self, ih fun x hx => h x (mem_cons_of_mem m hx)⟩

end Json

/-! ## Keyed stores -/

/-- A keyed store: `HashMap` and `DashMap`, where each key occurs once. -/
abbrev Store (κ ν : Type) := AList fun _ : κ => ν

namespace Store

variable {κ ν : Type}

/-- `retain`: drop the entries that fail the test. -/
def retain (p : κ → ν → Bool) (m : Store κ ν) : Store κ ν where
  entries := m.entries.filter fun e => p e.1 e.2
  nodupKeys := m.nodupKeys.sublist List.filter_sublist

def size (m : Store κ ν) : Nat := m.entries.length

theorem size_retain_le (p : κ → ν → Bool) (m : Store κ ν) : (m.retain p).size ≤ m.size := length_filter_le _ _

variable [DecidableEq κ]

theorem size_insert_of_mem {m : Store κ ν} {k : κ} (h : k ∈ m) (v : ν) : size (AList.insert k v m) = m.size := by
  have hkeys : (AList.insert k v m).keys.length = m.keys.length := by
    rw [keys_insert, length_cons, length_erase_of_mem (AList.mem_keys.mp h)]
    exact Nat.succ_pred_eq_of_pos (length_pos_of_mem (AList.mem_keys.mp h))
  simpa only [size, AList.keys, List.keys, length_map] using hkeys

theorem size_insert_of_notMem {m : Store κ ν} {k : κ} (h : k ∉ m) (v : ν) : size (AList.insert k v m) = m.size + 1 := by
  rw [size, entries_insert_of_notMem h, length_cons]
  rfl

theorem size_erase_le (k : κ) (m : Store κ ν) : size (AList.erase k m) ≤ m.size :=
  (kerase_sublist k m.entries).length_le

theorem lookup_retain {p : κ → ν → Bool} {m : Store κ ν} {k : κ} {v : ν} :
    (m.retain p).lookup k = some v ↔ m.lookup k = some v ∧ p k v = true := by
  have h := mem_lookup_iff (a := k) (b := v) (s := m)
  have h' := mem_lookup_iff (a := k) (b := v) (s := m.retain p)
  rw [Option.mem_def] at h h'
  rw [h, h', retain, mem_filter]

end Store

end OneCipher
