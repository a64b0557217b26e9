import Mathlib.Data.List.Basic
import Mathlib.Tactic.Common

/-!
# JSON objects

The part of json-c that the infos are written with: an object is the list of its fields, setting a
field replaces the one that is there, and a getter refuses a field that is absent or of another
type.  A double is its IEEE 754 bits.
-/

namespace LoadBalance

inductive Json where
  | null
  | bool (b : Bool)
  | int (i : Int64)
  | double (bits : UInt64)
  | string (s : String)
  | array (a : List Json)
  | object (fields : List (String × Json))

/-- The fields of an object. -/
abbrev JsonObject := List (String × Json)

namespace JsonObject

/-- `json_object_object_get_ex`. -/
def get? (o : JsonObject) (k : String) : Option Json := List.lookup k o

/-- `json_object_object_add`. -/
def set : JsonObject → String → Json → JsonObject
  | [], k, v => [(k, v)]
  | (k', v') :: o, k, v => if k' = k then (k, v) :: o else (k', v') :: set o k v

/-- `GetStringField`. -/
def getString (o : JsonObject) (k : String) : Option String := match o.get? k with
  | some (.string s) => some s
  | _ => none

/-- `GetInt64Field`. -/
def getInt (o : JsonObject) (k : String) : Option Int64 := match o.get? k with
  | some (.int i) => some i
  | _ => none

/-- `GetUint64Field`; an unsigned number is held as the signed one with the same bits. -/
def getUInt (o : JsonObject) (k : String) : Option UInt64 := (o.getInt k).map Int64.toUInt64

/-- `GetObjectField`. -/
def getObject (o : JsonObject) (k : String) : Option JsonObject := match o.get? k with
  | some (.object fields) => some fields
  | _ => none

/-- `GetArrayField`. -/
def getArray (o : JsonObject) (k : String) : Option (List Json) := match o.get? k with
  | some (.array a) => some a
  | _ => none

variable {o : JsonObject} {k k' : String}

theorem get?_cons (f : String × Json) (o : JsonObject) (k : String) :
    get? (f :: o) k = if f.1 = k then some f.2 else get? o k := by
  unfold get?
  rw [List.lookup_cons]
  by_cases h : f.1 = k
  · subst h
    simp
  · have hne : (k == f.1) = false := beq_false_of_ne (Ne.symm h)
    rw [hne, if_neg h]

@[simp] theorem get?_set_self (o : JsonObject) (k : String) (v : Json) :
    (o.set k v).get? k = some v := by
  induction o with
  | nil => simp [set, get?_cons]
  | cons f o ih =>
    obtain ⟨k', v'⟩ := f
    unfold set
    split_ifs with h
    · simp [get?_cons]
    · simp [get?_cons, h, ih]

theorem get?_set_ne (o : JsonObject) (v : Json) (h : k' ≠ k) :
    (o.set k v).get? k' = o.get? k' := by
  induction o with
  | nil =>
    unfold set
    rw [get?_cons, if_neg (Ne.symm h)]
  | cons f o ih =>
    obtain ⟨k₁, v₁⟩ := f
    unfold set
    split_ifs with hk
    · subst hk
      simp [get?_cons, Ne.symm h]
    · rw [get?_cons, get?_cons, ih]

/-- A field that was set, or one that was there. -/
theorem get?_set (o : JsonObject) (k k' : String) (v : Json) :
    (o.set k v).get? k' = if k' = k then some v else o.get? k' := by
  split_ifs with h
  · rw [h, get?_set_self]
  · exact get?_set_ne o v h

@[simp] theorem getString_set_self (o : JsonObject) (k s : String) :
    (o.set k (.string s)).getString k = some s := by
  simp [getString]

theorem getString_set_ne (o : JsonObject) (v : Json) (h : k' ≠ k) :
    (o.set k v).getString k' = o.getString k' := by
  unfold getString
  rw [get?_set_ne o v h]

end JsonObject

end LoadBalance
