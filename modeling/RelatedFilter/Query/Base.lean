/-
  RelatedFilter.Query.Base

  The rows that a filter is applied to: the kind of object they stand for, the
  table they come from, and the column of that table that holds their ids.
-/
import RelatedFilter.Json.Basic
import RelatedFilter.Relationship

namespace RelatedFilter

/-- The rows that a filter is applied to. -/
structure Base where
  kind : String
  table : String
  key : String
deriving DecidableEq, Repr

namespace Base

/-- Posts. -/
def default : Base := ⟨postKind, "wp_posts", "ID"⟩

def toJson (b : Base) : Json :=
  .object [
    ("base_kind", .string b.kind),
    ("base_table", .string b.table),
    ("base_key", .string b.key)]

end Base
end RelatedFilter
