/-
  RelatedFilter.Specification

  A specification is the list of entries of a filter as it was given.  Entries
  without a name hold whole segments; the named ones, apart from the relation,
  are the fields of one more segment, the implicit one, which comes first.
  An unnamed scalar is a field of the implicit segment, too: its key is the
  decimal of the first free index from its own position on.
-/
import RelatedFilter.Json.Reader
import RelatedFilter.Relation
import RelatedFilter.Segment

namespace RelatedFilter

/-- One entry of a specification. -/
inductive Entry where
  | named (key : String) (value : Json)
  | unnamed (value : Json)
deriving DecidableEq, Repr

namespace Entry

/-- One or more ASCII digits. -/
def isIndex (key : String) : Bool :=
  !key.toList.isEmpty && key.toList.all Char.isDigit

/-- The entry for a field: unnamed if its key is an index and its value a
    container. -/
def ofField (key : String) (value : Json) : Entry :=
  if isIndex key && value.isContainer then .unnamed value else .named key value

/-- The entry for an item: unnamed for a container, else named by its index. -/
def ofItem (value : Json) (index : Nat) : Entry :=
  if value.isContainer then .unnamed value else .named (toString index) value

/-- The key of an entry that is a field of the implicit segment by its name. -/
def fieldKey? : Entry → Option String
  | .named key _ => if Relation.isKey key then none else some key
  | .unnamed _ => none

/-- The segment that an entry holds by itself. -/
def segment? : Entry → Option Segment
  | .unnamed value => if value.isContainer then some (.ofJson value) else none
  | .named _ _ => none

/-- The relation after one more entry: the last entry with that name counts. -/
def relation (r : Relation) : Entry → Relation
  | .named key value => if Relation.isKey key then Relation.ofJson value else r
  | .unnamed _ => r

end Entry

/-- A filter as it was given. -/
structure Specification where
  entries : List Entry
deriving DecidableEq, Repr

/-- Why a text is no specification. -/
inductive SpecificationError where
  | invalidJson (cause : Json.ReadError)
  /-- The text stands for a value without entries. -/
  | unsupportedTopLevel (found : String)
deriving DecidableEq, Repr

def SpecificationError.message : SpecificationError → String
  | .invalidJson cause => "Specification is not valid JSON: " ++ cause.message
  | .unsupportedTopLevel found =>
    "Specification must be a JSON object or array, found " ++ found

namespace Specification

/-! ## Making a specification -/

def empty : Specification := ⟨[]⟩

/-- Adds a named entry. -/
def field (s : Specification) (key : String) (value : Json) : Specification :=
  ⟨s.entries ++ [.named key value]⟩

/-- Adds an unnamed entry. -/
def segment (s : Specification) (value : Json) : Specification :=
  ⟨s.entries ++ [.unnamed value]⟩

/-- Adds the entry that holds the relation. -/
def relation (s : Specification) (value : Json) : Specification :=
  s.field "relation" value

/-- The specification that a value stands for. -/
def ofJson : Json → Except SpecificationError Specification
  | .object fields => .ok ⟨fields.map fun (key, value) => Entry.ofField key value⟩
  | .array items => .ok ⟨items.zipIdx.map fun (value, index) => Entry.ofItem value index⟩
  | scalar => .error (.unsupportedTopLevel scalar.describeType)

/-- The specification that a JSON text stands for. -/
def read (text : String) : Except SpecificationError Specification :=
  match Json.read text with
  | .ok json => ofJson json
  | .error cause => .error (.invalidJson cause)

/-! ## Taking a specification apart -/

/-- The relation of a specification, `AND` if no entry holds one. -/
def relationOf (entries : List Entry) : Relation :=
  entries.foldl Entry.relation .all

/-- The keys of all entries that are fields. -/
def fieldKeys (entries : List Entry) : List String :=
  entries.filterMap Entry.fieldKey?

/-- The decimal of the first index from `position` on that is not taken.  Of
    one more candidate than there are taken keys, one is free. -/
def freeKey (position : Nat) (taken : List String) : String :=
  (((List.range' position (taken.length + 1)).map toString).find?
    (!taken.contains ·)).getD ""

/-- The fields of the implicit segment, after the entries before `position`
    have given `done`; `named` are the keys of all named fields. -/
def implicitFields (named : List String) (done : Fields) (position : Nat) :
    List Entry → Fields
  | [] => done
  | .named key value :: rest =>
    let done := if Relation.isKey key then done else done.set key value
    implicitFields named done (position + 1) rest
  | .unnamed value :: rest =>
    let done :=
      if value.isContainer then done
      else done.set (freeKey position (named ++ done.keys)) value
    implicitFields named done (position + 1) rest

/-- A specification taken apart: its relation and its segments. -/
structure Normal where
  relation : Relation
  segments : List Segment
deriving DecidableEq, Repr

/-- Takes a specification apart.  The implicit segment exists only if it has a
    field. -/
def normalize (s : Specification) : Normal :=
  let fields := implicitFields (fieldKeys s.entries) [] 0 s.entries
  let explicit := s.entries.filterMap Entry.segment?
  ⟨relationOf s.entries, if fields.isEmpty then explicit else .keyed fields :: explicit⟩

end Specification
end RelatedFilter
