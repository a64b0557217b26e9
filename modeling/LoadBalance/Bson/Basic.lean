import Mathlib.Data.List.Basic
import Mathlib.Data.List.GetD
import Mathlib.Data.List.OfFn
import Mathlib.Data.List.TakeWhile
import Mathlib.Tactic.Common

/-!
# BSON values and documents

A document is the list of its fields in the order in which they stand, repeated keys included.
Values are read the way libbson's iterator reads them: `asBool`, `asDateTime`, `asInt32` give a
default on a value of another type, `asOid?` and `asUtf8?` give nothing (a null pointer).
Strings come out as C strings, that is, cut at the first NUL (`cstr`).

An iterator only moves forward, so it is represented by the fields that are still in front of
it: `iterFind` consumes the fields up to the one it was asked for, and all of them when there is
none.  `Doc.get?` is the lookup by name that a fresh iterator performs.
-/

namespace LoadBalance

/-! ### C strings -/

/-- What a `const char*` to the text shows of it: the characters before the first NUL. -/
def cstr (s : String) : String := String.ofList (s.toList.takeWhile (· ≠ '\x00'))

/-- The text survives as a C string. -/
def NulFree (s : String) : Prop := '\x00' ∉ s.toList

instance (s : String) : Decidable (NulFree s) := inferInstanceAs (Decidable (_ ∉ _))

theorem cstr_eq_self_iff {s : String} : cstr s = s ↔ NulFree s := by
  unfold cstr NulFree
  constructor
  · intro h hmem
    have hl : s.toList.takeWhile (· ≠ '\x00') = s.toList := by
      have := congrArg String.toList h
      simpa using this
    have := List.takeWhile_eq_self_iff.mp hl '\x00' hmem
    simp at this
  · intro h
    have hl : s.toList.takeWhile (· ≠ '\x00') = s.toList :=
      List.takeWhile_eq_self_iff.mpr fun c hc => decide_eq_true fun hc' => h (hc' ▸ hc)
    rw [hl, String.ofList_toList]

theorem nulFree_cstr (s : String) : NulFree (cstr s) := by
  unfold NulFree cstr
  rw [String.toList_ofList]
  intro h
  simpa using List.mem_takeWhile_imp h

@[simp] theorem cstr_cstr (s : String) : cstr (cstr s) = cstr s :=
  cstr_eq_self_iff.mpr (nulFree_cstr s)

/-! ### Bytes -/

/-- The bytes of a text. -/
def utf8Bytes (s : String) : List UInt8 := s.toList.flatMap String.utf8EncodeChar

/-- `str[i]` of the text's pointer: a byte of the text, or the NUL behind its end, or what stands in
memory behind that (`beyond`). -/
def byteAt (beyond : ℕ → UInt8) (s : String) (i : ℕ) : UInt8 :=
  (utf8Bytes s ++ [0]).getD i (beyond i)

theorem ofUInt8_toUInt8 {c : Char} (h : c.utf8Size = 1) : Char.ofUInt8 c.val.toUInt8 = c := by
  have hle := Char.utf8Size_eq_one_iff.mp h
  apply Char.ext
  apply UInt32.toNat_inj.mp
  have hnat : c.val.toNat ≤ 127 := UInt32.le_iff_toNat_le.mp hle
  show c.val.toUInt8.toUInt32.toNat = c.val.toNat
  rw [UInt8.toNat_toUInt32, UInt32.toNat_toUInt8]
  omega

section

variable {s : String} (hs : ∀ c ∈ s.toList, c.utf8Size = 1)

include hs

/-- Of a text of ASCII characters, each is a byte. -/
theorem utf8Bytes_of_ascii : utf8Bytes s = s.toList.map fun c => c.val.toUInt8 := by
  unfold utf8Bytes
  rw [List.flatMap_congr fun c hc => String.utf8EncodeChar_eq_singleton (hs c hc)]
  exact List.map_eq_flatMap.symm

theorem length_utf8Bytes_of_ascii : (utf8Bytes s).length = s.toList.length := by
  rw [utf8Bytes_of_ascii hs, List.length_map]

theorem byteAt_of_ascii (beyond : ℕ → UInt8) {i : ℕ} (hi : i < s.toList.length) :
    Char.ofUInt8 (byteAt beyond s i) = s.toList[i] := by
  have hbyte : byteAt beyond s i = s.toList[i].val.toUInt8 := by
    unfold byteAt
    rw [utf8Bytes_of_ascii hs, List.getD_append _ _ _ _ (by rwa [List.length_map]),
      List.getD_eq_getElem _ _ (by rwa [List.length_map]), List.getElem_map]
  rw [hbyte, ofUInt8_toUInt8 (hs _ (List.getElem_mem hi))]

end

/-! ### Object ids -/

/-- There are digits. -/
instance neZero_sixteen : @NeZero ℕ Zero.ofOfNat0 16 := ⟨by decide⟩

/-- An object id: twelve bytes, kept as the 24 hexadecimal digits they are written with. -/
structure Oid where
  digits : List (Fin 16)
  length_eq : digits.length = 24
deriving DecidableEq, Repr

/-- The lower-case hexadecimal digit of a value. -/
def hexDigit (d : Fin 16) : Char :=
  ['0', '1', '2', '3', '4', '5', '6', '7', '8', '9', 'a', 'b', 'c', 'd', 'e', 'f'].get d

/-- The value of a hexadecimal digit of either case; any other character counts as `0`. -/
def hexValue : Char → Fin 16
  | '0' => 0 | '1' => 1 | '2' => 2 | '3' => 3 | '4' => 4 | '5' => 5 | '6' => 6 | '7' => 7
  | '8' => 8 | '9' => 9
  | 'a' => 10 | 'b' => 11 | 'c' => 12 | 'd' => 13 | 'e' => 14 | 'f' => 15
  | 'A' => 10 | 'B' => 11 | 'C' => 12 | 'D' => 13 | 'E' => 14 | 'F' => 15
  | _ => 0

@[simp] theorem hexValue_hexDigit (d : Fin 16) : hexValue (hexDigit d) = d := by
  revert d; decide

theorem utf8Size_hexDigit (d : Fin 16) : (hexDigit d).utf8Size = 1 := by revert d; decide

namespace Oid

/-- `bson_oid_to_string`: the 24 digits in lower case. -/
def text (o : Oid) : String := String.ofList (o.digits.map hexDigit)

/-- `bson_oid_init_from_string`: reads 24 bytes from the text's pointer whatever they are, also
behind the end of a text that is shorter. -/
def parse (beyond : ℕ → UInt8) (s : String) : Oid where
  digits := List.ofFn fun i : Fin 24 => hexValue (Char.ofUInt8 (byteAt beyond s i))
  length_eq := List.length_ofFn

theorem length_text (o : Oid) : o.text.toList.length = 24 := by simp [text, o.length_eq]

theorem text_ne_empty (o : Oid) : o.text ≠ "" := by
  intro h
  have := o.length_text
  simp [h] at this

theorem utf8Size_of_mem_text {o : Oid} {c : Char} (hc : c ∈ o.text.toList) : c.utf8Size = 1 := by
  rw [text, String.toList_ofList] at hc
  obtain ⟨d, -, rfl⟩ := List.mem_map.mp hc
  exact utf8Size_hexDigit d

@[simp] theorem parse_text (beyond : ℕ → UInt8) (o : Oid) : parse beyond o.text = o := by
  have hlength := o.length_text
  obtain ⟨ds, hds⟩ := o
  simp only [parse, mk.injEq]
  apply List.ext_getElem
  · simp [hds]
  · intro i h1 h2
    have hi : i < (text ⟨ds, hds⟩).toList.length := by omega
    rw [List.getElem_ofFn, byteAt_of_ascii (fun c => utf8Size_of_mem_text) beyond hi]
    simp only [text, String.toList_ofList, List.getElem_map, hexValue_hexDigit]

theorem text_injective : Function.Injective text := fun a b h => by
  rw [← parse_text (fun _ => 0) a, h, parse_text]

@[simp] theorem text_inj {a b : Oid} : a.text = b.text ↔ a = b := text_injective.eq_iff

end Oid

/-! ### Decimal numbers -/

/-- A decimal floating-point number of at most 34 digits: `coefficient · 10 ^ exponent` with a
sign. -/
inductive Decimal128 where
  | finite (negative : Bool) (coefficient : ℕ) (exponent : ℤ)
  | infinity (negative : Bool)
  | nan
deriving DecidableEq, Repr

namespace Decimal128

/-- The nearest number with 34 digits, of two the one with the even coefficient. -/
def round (negative : Bool) (m : ℕ) (exponent : ℤ) : Decimal128 :=
  let dropped := (Nat.toDigits 10 m).length - 34
  let unit := Nat.pow 10 dropped
  let rest := 2 * (m % unit)
  let c := if rest < unit ∨ rest = unit ∧ m / unit % 2 = 0 then m / unit else m / unit + 1
  if c = Nat.pow 10 34 then finite negative (Nat.pow 10 33) (exponent + dropped + 1)
  else finite negative c (exponent + dropped)

/-- The sum with one; its exponent is the lesser of the two, as long as the digits suffice. -/
def addOne : Decimal128 → Decimal128
  | finite negative c e =>
    let shifted : ℤ := if 0 ≤ e then c * Nat.pow 10 e.toNat else c
    let one : ℤ := if 0 ≤ e then 1 else Nat.pow 10 (-e).toNat
    let sum := (if negative then -shifted else shifted) + one
    round (decide (sum < 0)) sum.natAbs (if 0 ≤ e then 0 else e)
  | d => d

-- A carry, a difference, and a one that is too small for the digits.
example : addOne (finite false 99 0) = finite false 100 0 := by decide
example : addOne (finite true 25 (-1)) = finite true 15 (-1) := by decide
example : addOne (finite false 1 40) = finite false (Nat.pow 10 33) 7 := by decide

end Decimal128

/-! ### Values and documents -/

/-- A BSON value.  A double is its IEEE 754 bits; the types that no reader of the program looks
into (null, binary, regular expressions and so on) are told apart by their type byte only. -/
inductive Bson where
  | double (bits : UInt64)
  | decimal128 (d : Decimal128)
  | utf8 (s : String)
  | document (d : List (String × Bson))
  | array (a : List Bson)
  | oid (o : Oid)
  | bool (b : Bool)
  | dateTime (ms : Int64)
  | int32 (i : Int32)
  | int64 (i : Int64)
  | other (type : UInt8)

/-- A document: its fields in the order in which they stand. -/
abbrev Doc := List (String × Bson)

namespace Bson

/-- `bson_iter_bool`. -/
def asBool : Bson → Bool
  | bool b => b
  | _ => false

/-- `bson_iter_date_time`. -/
def asDateTime : Bson → Int64
  | dateTime ms => ms
  | _ => 0

/-- `bson_iter_int32`. -/
def asInt32 : Bson → Int32
  | int32 i => i
  | _ => 0

/-- `bson_iter_oid`: a null pointer on a value of another type. -/
def asOid? : Bson → Option Oid
  | oid o => some o
  | _ => none

/-- `bson_iter_utf8` read as a C string: a null pointer on a value of another type. -/
def asUtf8? : Bson → Option String
  | utf8 s => some (cstr s)
  | _ => none

@[simp] theorem asOid?_eq_some {v : Bson} {o : Oid} : v.asOid? = some o ↔ v = oid o := by
  cases v <;> simp [asOid?]

end Bson

namespace Doc

/-- The value of the first field with this name: `bson_iter_init_find`. -/
def get? (d : Doc) (k : String) : Option Bson := List.lookup k d

/-- The names of the fields. -/
def keys (d : Doc) : List String := d.map Prod.fst

@[simp] theorem get?_nil (k : String) : get? [] k = none := rfl

theorem get?_cons (f : String × Bson) (d : Doc) (k : String) :
    get? (f :: d) k = if k = f.1 then some f.2 else get? d k := by
  obtain ⟨k', v⟩ := f
  simp only [get?, List.lookup_cons]
  by_cases h : k = k'
  · simp [h]
  · simp [h, beq_eq_false_iff_ne.mpr h]

@[simp] theorem get?_cons_self (k : String) (v : Bson) (d : Doc) :
    get? ((k, v) :: d) k = some v := by simp [get?_cons]

theorem mem_of_get? {d : Doc} {k : String} {v : Bson} (h : get? d k = some v) : (k, v) ∈ d := by
  induction d with
  | nil => simp at h
  | cons f d ih =>
    rw [get?_cons] at h
    by_cases hk : k = f.1
    · simp only [hk, ite_true, Option.some.injEq] at h
      simp [← h, hk]
    · exact List.mem_cons_of_mem _ (ih (by simpa [hk] using h))

/-- In a document without repeated keys a field is found by its name. -/
theorem get?_of_mem {d : Doc} (hd : (keys d).Nodup) {k : String} {v : Bson} (h : (k, v) ∈ d) :
    get? d k = some v := by
  induction d with
  | nil => simp at h
  | cons f d ih =>
    simp only [keys, List.map_cons, List.nodup_cons] at hd
    rw [get?_cons]
    rcases List.mem_cons.mp h with rfl | h
    · simp
    · have hk : k ≠ f.1 := fun hk => hd.1 (hk ▸ List.mem_map_of_mem (f := Prod.fst) h)
      simpa [hk] using ih hd.2 h

/-- Without repeated keys the order of the fields makes no difference to a lookup. -/
theorem get?_of_perm {d d' : Doc} (hd : (keys d).Nodup) (hperm : d'.Perm d) (k : String) :
    get? d' k = get? d k := by
  have hd' : (keys d').Nodup := ((hperm.map Prod.fst).nodup_iff).mpr hd
  refine Option.ext fun v => ⟨fun hv => ?_, fun hv => ?_⟩
  · exact get?_of_mem hd (hperm.mem_iff.mp (mem_of_get? hv))
  · exact get?_of_mem hd' (hperm.mem_iff.mpr (mem_of_get? hv))

end Doc

/-! ### Iterators -/

/-- `bson_iter_find`: moves forward to the next field with this name.  Gives the value found and
the fields behind it; without such a field the iterator is exhausted. -/
def iterFind (k : String) : Doc → Option Bson × Doc
  | [] => (none, [])
  | (k', v) :: rest => if k' = k then (some v, rest) else iterFind k rest

@[simp] theorem iterFind_nil (k : String) : iterFind k [] = (none, []) := rfl

theorem iterFind_cons (k : String) (f : String × Bson) (d : Doc) :
    iterFind k (f :: d) = if f.1 = k then (some f.2, d) else iterFind k d := rfl

/-- What it finds is what a lookup by name in the remaining fields finds. -/
theorem iterFind_fst (k : String) (d : Doc) : (iterFind k d).1 = d.get? k := by
  induction d with
  | nil => rfl
  | cons f d ih =>
    rw [iterFind_cons, Doc.get?_cons]
    by_cases h : f.1 = k
    · simp [h]
    · simp [h, Ne.symm h, ih]

/-- What is left in front of the iterator are the last fields of the document. -/
theorem iterFind_snd_suffix (k : String) (d : Doc) : (iterFind k d).2 <:+ d := by
  induction d with
  | nil => exact List.nil_suffix
  | cons f d ih =>
    rw [iterFind_cons]
    split_ifs
    · exact List.suffix_cons f d
    · exact ih.trans (List.suffix_cons f d)

/-- The fields behind the ones named `ks`, which are passed one after another in this order;
empty when some of them does not stand there. -/
def behind (ks : List String) (d : Doc) : Doc := ks.foldl (fun d k => (iterFind k d).2) d

@[simp] theorem behind_nil (d : Doc) : behind [] d = d := rfl

@[simp] theorem behind_cons (k : String) (ks : List String) (d : Doc) :
    behind (k :: ks) d = behind ks (iterFind k d).2 := rfl

end LoadBalance
