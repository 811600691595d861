/-
  RelatedFilter.Segment

  A segment is one constraint of a filter as it was given.  It is valid if it
  has named fields, a `type` among them, and exactly one of `related_to_post`
  and `related_to_user`.  Only the presence of the fields counts, whatever
  their values are.
-/
import RelatedFilter.Json.Printer
import RelatedFilter.Relationship

namespace RelatedFilter

/-- One constraint as it was given: named fields, or bare values, which are
    never valid. -/
inductive Segment where
  | keyed (fields : Fields)
  | positional (values : List Json)
deriving DecidableEq, Repr

/-- The kind of object a constraint points to. -/
inductive Target where
  | post
  | user
deriving DecidableEq, Repr

/-- The name of the kind in a registry. -/
def Target.kind : Target → String
  | .post => postKind
  | .user => userKind

/-- The content of a valid segment. -/
structure Constraint where
  typeValue : Json
  target : Target
  targetId : Json
deriving DecidableEq, Repr

/-- The type as text.  Only strings and numbers name a type. -/
def Constraint.typeName? (c : Constraint) : Option String :=
  match c.typeValue with
  | .string s => some s
  | .number n => some n.text
  | _ => none

namespace Segment

def typeField : String := "type"
def postField : String := "related_to_post"
def userField : String := "related_to_user"

/-- The segment that a value stands for; a scalar counts as a list of itself. -/
def ofJson : Json → Segment
  | .object fields => .keyed fields
  | .array values => .positional values
  | scalar => .positional [scalar]

/-- The value of a segment. -/
def toJson : Segment → Json
  | .keyed fields => .object fields
  | .positional values => .array values

/-- The value of a field. -/
def get? : Segment → String → Option Json
  | .keyed fields, key => fields.get? key
  | .positional _, _ => none

def isEmpty : Segment → Bool
  | .keyed fields => fields.isEmpty
  | .positional values => values.isEmpty

/-- The object a segment points to: the value of the one target field it has. -/
def target? (s : Segment) : Option (Target × Json) :=
  match s.get? postField, s.get? userField with
  | some id, none => some (.post, id)
  | none, some id => some (.user, id)
  | _, _ => none

/-- The constraint of a valid segment. -/
def constraint? (s : Segment) : Option Constraint :=
  match s.get? typeField, s.target? with
  | some typeValue, some (target, id) => some ⟨typeValue, target, id⟩
  | _, _ => none

def isValid (s : Segment) : Bool := s.constraint?.isSome

@[simp] theorem constraint?_positional (values : List Json) :
    (positional values).constraint? = none := rfl

@[simp] theorem toJson_ofJson_object (fields : Fields) :
    (ofJson (.object fields)).toJson = .object fields := rfl

@[simp] theorem toJson_ofJson_array (values : List Json) :
    (ofJson (.array values)).toJson = .array values := rfl

/-- A segment read back from its value is the same segment. -/
@[simp] theorem ofJson_toJson (s : Segment) : ofJson s.toJson = s := by
  cases s <;> rfl

end Segment
end RelatedFilter
