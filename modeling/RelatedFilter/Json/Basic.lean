/-
  RelatedFilter.Json.Basic

  JSON values.  An object is the list of its fields in the order in which
  their keys were first given; writing a key again keeps its place and takes
  the new value (`Fields.set`).  A number is an integer or a double, the double
  held by its bits so that equality of values is decidable.
-/
import RelatedFilter.Decimal.Binary64

namespace RelatedFilter

/-- A JSON number: integers stay integers, all else is a double. -/
inductive Number where
  | integer (value : Int)
  | real (value : Binary64)
deriving DecidableEq, Repr

/-- A JSON value. -/
inductive Json where
  | null
  | bool (value : Bool)
  | number (value : Number)
  | string (value : String)
  | array (items : List Json)
  | object (fields : List (String × Json))
deriving Repr

instance : Inhabited Json := ⟨.null⟩

/-- The fields of an object, in order. -/
abbrev Fields := List (String × Json)

namespace Fields

/-- The value under `key`. -/
def get? (fields : Fields) (key : String) : Option Json :=
  fields.lookup key

/-- Puts `value` under `key`: in the place of the old value, or at the end. -/
def set (key : String) (value : Json) : Fields → Fields
  | [] => [(key, value)]
  | (k, v) :: rest => if k = key then (k, value) :: rest else (k, v) :: set key value rest

/-- The keys, in order. -/
def keys (fields : Fields) : List String :=
  fields.map Prod.fst

@[simp] theorem get?_nil (key : String) : get? [] key = none := rfl

theorem get?_cons (k : String) (v : Json) (rest : Fields) (key : String) :
    get? ((k, v) :: rest) key = if key = k then some v else get? rest key := by
  by_cases h : key = k
  · simp [get?, h]
  · have hb : (key == k) = false := by simpa using h
    simp [get?, List.lookup_cons, hb, h]

@[simp] theorem get?_set (fields : Fields) (key : String) (value : Json) (other : String) :
    get? (set key value fields) other = if other = key then some value else get? fields other := by
  induction fields with
  | nil => simp [set, get?_cons]
  | cons field rest ih =>
    obtain ⟨k, v⟩ := field
    simp only [set]
    split
    · rename_i h
      subst h
      simp only [get?_cons]
      split <;> rfl
    · rename_i h
      simp only [get?_cons, ih]
      split
      · rename_i ho
        subst ho
        simp [h]
      · rfl

/-- Writing a key keeps the order of the keys and adds a new one at the end. -/
theorem keys_set (fields : Fields) (key : String) (value : Json) :
    keys (set key value fields) =
      if key ∈ keys fields then keys fields else keys fields ++ [key] := by
  induction fields with
  | nil => simp [set, keys]
  | cons field rest ih =>
    obtain ⟨k, v⟩ := field
    simp only [set]
    by_cases h : k = key
    · subst h
      simp [keys]
    · rw [if_neg h]
      simp only [keys, List.map_cons, List.mem_cons] at ih ⊢
      rw [ih]
      have h' : ¬ key = k := fun e => h e.symm
      by_cases hm : key ∈ List.map Prod.fst rest <;> simp [hm, h']

end Fields

namespace Json

/-! ## Equality -/

mutual

/-- Are two values the same? -/
def same : Json → Json → Bool
  | .null, .null => true
  | .bool a, .bool b => a == b
  | .number a, .number b => a == b
  | .string a, .string b => a == b
  | .array as, .array bs => sameItems as bs
  | .object as, .object bs => sameFields as bs
  | _, _ => false

/-- Are two lists of items the same? -/
def sameItems : List Json → List Json → Bool
  | [], [] => true
  | a :: as, b :: bs => same a b && sameItems as bs
  | _, _ => false

/-- Are two lists of fields the same, also in their order? -/
def sameFields : List (String × Json) → List (String × Json) → Bool
  | [], [] => true
  | (k, a) :: as, (l, b) :: bs => k == l && same a b && sameFields as bs
  | _, _ => false

end

mutual

theorem same_iff : ∀ a b : Json, same a b = true ↔ a = b
  | .array as, b => by cases b <;> simp [same, sameItems_iff as]
  | .object as, b => by cases b <;> simp [same, sameFields_iff as]
  | .null, b => by cases b <;> simp [same]
  | .bool _, b => by cases b <;> simp [same]
  | .number _, b => by cases b <;> simp [same]
  | .string _, b => by cases b <;> simp [same]

theorem sameItems_iff : ∀ as bs : List Json, sameItems as bs = true ↔ as = bs
  | [], bs => by cases bs <;> simp [sameItems]
  | a :: as, bs => by cases bs <;> simp [sameItems, same_iff a, sameItems_iff as]

theorem sameFields_iff : ∀ as bs : List (String × Json), sameFields as bs = true ↔ as = bs
  | [], bs => by cases bs <;> simp [sameFields]
  | (k, a) :: as, bs => by
    cases bs <;> simp [sameFields, same_iff a, sameFields_iff as, Prod.ext_iff, and_assoc]

end

instance : DecidableEq Json := fun a b => decidable_of_iff _ (same_iff a b)

/-! ## Types -/

/-- An object or an array. -/
def isContainer : Json → Bool
  | .object _ | .array _ => true
  | _ => false

/-- The noun phrase for a value's type. -/
def describeType : Json → String
  | .null => "null"
  | .bool _ => "a boolean"
  | .number _ => "a number"
  | .string _ => "a string"
  | .array _ => "an array"
  | .object _ => "an object"

end Json
end RelatedFilter
