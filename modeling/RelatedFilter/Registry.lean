/-
  RelatedFilter.Registry

  The relationships that are known, under one table prefix.  They are kept in
  ascending order of their keys, so a registry is the same in whatever order
  its relationships were defined, and no two of them share a key.  A definition
  fails if a name is empty or if the key is taken; nothing changes then.
-/
import RelatedFilter.Identifier
import RelatedFilter.Relationship
import RelatedFilter.Registry.Error

namespace RelatedFilter

/-- Puts a relationship in front of the first one with a greater key. -/
def insertByKey (r : Relationship) : List Relationship → List Relationship
  | [] => [r]
  | s :: rest => if r.key < s.key then r :: s :: rest else s :: insertByKey r rest

@[simp] theorem mem_insertByKey {r s : Relationship} {rs : List Relationship} :
    s ∈ insertByKey r rs ↔ s = r ∨ s ∈ rs := by
  induction rs with
  | nil => simp [insertByKey]
  | cons t rest ih =>
    simp only [insertByKey]
    split
    · simp
    · simp only [List.mem_cons, ih]
      exact or_left_comm

/-- Putting a relationship with a key of its own into its place keeps the order. -/
theorem pairwise_insertByKey {r : Relationship} {rs : List Relationship}
    (h : rs.Pairwise (·.key < ·.key)) (free : ∀ s ∈ rs, s.key ≠ r.key) :
    (insertByKey r rs).Pairwise (·.key < ·.key) := by
  induction rs with
  | nil => simp [insertByKey]
  | cons s rest ih =>
    obtain ⟨first, ordered⟩ := List.pairwise_cons.mp h
    simp only [insertByKey]
    split
    · rename_i before
      refine List.pairwise_cons.mpr ⟨?_, h⟩
      intro t ht
      rcases List.mem_cons.mp ht with rfl | ht
      · exact before
      · exact Relationship.Key.lt_trans before (first t ht)
    · rename_i notBefore
      have after : s.key < r.key :=
        (Relationship.Key.lt_or_gt_of_ne (free s List.mem_cons_self)).resolve_right notBefore
      refine List.pairwise_cons.mpr ⟨?_, ih ordered fun t ht => free t (List.mem_cons_of_mem _ ht)⟩
      intro t ht
      rcases mem_insertByKey.mp ht with rfl | ht
      · exact after
      · exact first t ht

/-- A registry of relationships. -/
structure Registry where
  tablePrefix : String
  relationships : List Relationship
  prefix_plain : isTablePrefix tablePrefix = true
  ascending : relationships.Pairwise (·.key < ·.key)
deriving DecidableEq, Repr

namespace Registry

/-- The prefix where none is given. -/
def defaultPrefix : String := "wp_"

theorem isTablePrefix_defaultPrefix : isTablePrefix defaultPrefix = true := by
  simp [isTablePrefix, defaultPrefix, isNameChar]

/-- No relationships, under the default prefix. -/
def default : Registry := ⟨defaultPrefix, [], isTablePrefix_defaultPrefix, .nil⟩

/-- No relationships, under a prefix, which must be plain. -/
def empty (tablePrefix : String) : Except RegistryError Registry :=
  if h : isTablePrefix tablePrefix then .ok ⟨tablePrefix, [], h, .nil⟩
  else .error (.invalidTablePrefix tablePrefix)

/-- The relationship kept under a key. -/
def find? (registry : Registry) (key : Relationship.Key) : Option Relationship :=
  registry.relationships.find? (·.key == key)

theorem find?_eq_none_iff {registry : Registry} {key : Relationship.Key} :
    registry.find? key = none ↔ ∀ r ∈ registry.relationships, r.key ≠ key := by
  simp [find?]

/-- The number of relationships. -/
def size (registry : Registry) : Nat := registry.relationships.length

def isEmpty (registry : Registry) : Bool := registry.relationships.isEmpty

/-- A relationship of the registry with its storage. -/
def schema (registry : Registry) (r : Relationship) : Schema := ⟨r, registry.tablePrefix⟩

/-- All relationships with their storage, in the order of their keys. -/
def schemas (registry : Registry) : List Schema :=
  registry.relationships.map registry.schema

/-- Adds a relationship whose key is not taken. -/
def insert (registry : Registry) (r : Relationship) (free : registry.find? r.key = none) :
    Registry :=
  { registry with
    relationships := insertByKey r registry.relationships
    ascending := pairwise_insertByKey registry.ascending (find?_eq_none_iff.mp free) }

/-- Adds a relationship, and gives it back with its storage. -/
def define (registry : Registry) (r : Relationship) : Except RegistryError (Schema × Registry) :=
  if r.fromKind.isEmpty || r.toKind.isEmpty || r.typeName.isEmpty then
    .error (.emptyName r.fromKind r.toKind r.typeName)
  else if free : registry.find? r.key = none then
    .ok (registry.schema r, registry.insert r free)
  else .error (.duplicate r.fromKind r.toKind r.typeName)

/-- The relationship between two kinds of objects with a type. -/
def get? (registry : Registry) (base target typeName : String) : Option Schema :=
  (registry.find? (.between base target typeName)).map registry.schema

/-- The relationship between two kinds of objects with a type, which must be known. -/
def get (registry : Registry) (base target typeName : String) : Except RegistryError Schema :=
  match registry.get? base target typeName with
  | some schema => .ok schema
  | none => .error (.unregistered base target typeName none)

/-- Where the links between two kinds of objects with a type are kept. -/
def lookup (registry : Registry) (base target typeName : String) : Option Columns :=
  (registry.get? base target typeName).map Schema.columns

/-- The registry as a catalogue. -/
def catalog (registry : Registry) : Catalog := fun request =>
  registry.lookup request.baseKind request.targetKind request.typeName

end Registry
end RelatedFilter
