/-
  RelatedFilter.Query

  Compiling a filter: its specification is taken apart, its segments are looked
  up, and the ones that are found are written as SQL.  Compiling never fails;
  segments that are invalid or unknown are left out.  `Query.check` is for
  callers that want to hear of a valid segment that is unknown.
-/
import RelatedFilter.Query.Fragment
import RelatedFilter.Registry.Error
import RelatedFilter.Specification

namespace RelatedFilter

/-- A compiled filter. -/
structure Query where
  relation : Relation
  segments : List Segment
  resolved : List Resolved
  join : String
  predicate : String
deriving DecidableEq, Repr

namespace Query

/-- Compiles a specification, with lookups that may have an effect.  None is
    made if no segment is valid. -/
def compileWith {m : Type → Type} [Monad m] (lookup : Request → m (Option Columns))
    (base : Base) (s : Specification) : m Query := do
  let normal := s.normalize
  let resolved ←
    if normal.segments.any (·.isValid) then resolve lookup base.kind normal.segments
    else pure []
  pure {
    relation := normal.relation
    segments := normal.segments
    resolved := resolved
    join := joinFragment base resolved
    predicate := whereFragment normal.relation resolved }

/-- Compiles a specification against a catalogue. -/
def compile (catalog : Catalog) (base : Base) (s : Specification) : Query :=
  Id.run (compileWith (fun request => pure (catalog request)) base s)

/-- Asks a catalogue and notes the question with its answer. -/
def ask (catalog : Catalog) (request : Request) :
    StateM (List (Request × Option Columns)) (Option Columns) := do
  let answer := catalog request
  modify (· ++ [(request, answer)])
  pure answer

/-- Compiles a specification and gives the questions that were asked, with
    their answers. -/
def compileTraced (catalog : Catalog) (base : Base) (s : Specification) :
    Query × List (Request × Option Columns) :=
  Id.run ((compileWith (ask catalog) base s).run [])

/-- Is any segment valid? -/
def hasValid (q : Query) : Bool :=
  q.segments.any (·.isValid)

/-! ## The strict check -/

/-- The fault of a valid segment at a place of the filter if it is unknown. -/
def checkConstraint (catalog : Catalog) (base : Base) (position : Nat) (c : Constraint) :
    Except RegistryError Unit :=
  if ((c.request? base.kind).bind catalog).isSome then .ok ()
  else .error (.unregistered base.kind c.target.kind (c.typeName?.getD c.typeValue.compact)
    (some ("segment #" ++ toString position ++ " of the specification")))

/-- Checks segments in order, the next one at `position`. -/
def checkFrom (catalog : Catalog) (base : Base) :
    Nat → List Segment → Except RegistryError Unit
  | _, [] => .ok ()
  | position, s :: rest =>
    match s.constraint? with
    | none => checkFrom catalog base (position + 1) rest
    | some c => do
      checkConstraint catalog base position c
      checkFrom catalog base (position + 1) rest

/-- Fails on the first valid segment that the catalogue does not know. -/
def check (q : Query) (catalog : Catalog) (base : Base) : Except RegistryError Unit :=
  checkFrom catalog base 1 q.segments

/-- The relation and both fragments as one value. -/
def toJson (q : Query) : Json :=
  .object [
    ("relation", .string q.relation.text),
    ("join", .string q.join),
    ("where", .string q.predicate)]

end Query

end RelatedFilter
