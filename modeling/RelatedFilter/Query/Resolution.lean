/-
  RelatedFilter.Query.Resolution

  Finding the tables behind the segments of a filter.  Each valid segment whose
  type has a name is looked up once, in order; the ones that are found are
  numbered from one, and all others are left out.  The lookup may have any
  effect, so that the questions it is asked can be observed.
-/
import RelatedFilter.Segment
import RelatedFilter.Sql.Literal

namespace RelatedFilter

/-- A segment with the table that keeps its links. -/
structure Resolved where
  /-- Its place among the resolved segments, from one. -/
  aliasIndex : Nat
  typeName : String
  columns : Columns
  target : Sql.Literal
deriving DecidableEq, Repr

namespace Resolved

/-- What the names of the joined tables begin with. -/
def aliasStem : String := "p2p"

/-- The name of the joined table. -/
def tableAlias (r : Resolved) : String :=
  aliasStem ++ toString r.aliasIndex

def toJson (r : Resolved) : Json :=
  .object [
    ("alias_index", .number (.integer r.aliasIndex)),
    ("type_name", .string r.typeName),
    ("table_name", .string r.columns.table),
    ("base_column", .string r.columns.baseColumn),
    ("target_column", .string r.columns.targetColumn),
    ("target_value", r.target.toJson)]

end Resolved

/-- The question that a constraint leads to. -/
def Constraint.request? (baseKind : String) (c : Constraint) : Option Request :=
  c.typeName?.map fun typeName => ⟨baseKind, c.target.kind, typeName⟩

/-- The question that a segment leads to, if it is valid and its type has a name. -/
def Segment.request? (baseKind : String) (s : Segment) : Option Request :=
  s.constraint?.bind (Constraint.request? baseKind)

/-- Resolves segments in order, where `count` are resolved already. -/
def resolveFrom {m : Type → Type} [Monad m] (lookup : Request → m (Option Columns))
    (baseKind : String) (count : Nat) : List Segment → m (List Resolved)
  | [] => pure []
  | s :: rest =>
    match s.constraint? with
    | none => resolveFrom lookup baseKind count rest
    | some c =>
      match c.request? baseKind with
      | none => resolveFrom lookup baseKind count rest
      | some request => do
        match ← lookup request with
        | none => resolveFrom lookup baseKind count rest
        | some columns =>
          let more ← resolveFrom lookup baseKind (count + 1) rest
          pure (⟨count + 1, request.typeName, columns, .ofJson c.targetId⟩ :: more)

/-- Resolves all segments in order. -/
def resolve {m : Type → Type} [Monad m] (lookup : Request → m (Option Columns))
    (baseKind : String) (segments : List Segment) : m (List Resolved) :=
  resolveFrom lookup baseKind 0 segments

end RelatedFilter
