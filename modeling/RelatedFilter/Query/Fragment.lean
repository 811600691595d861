/-
  RelatedFilter.Query.Fragment

  The SQL text of a filter, in two fragments that are put behind the clauses of
  another statement: one joins a table for each resolved segment, the other
  requires of the joined rows what the segments ask for.  Both number the
  joined tables alike, and both are empty if no segment was resolved.
-/
import RelatedFilter.Query.Base
import RelatedFilter.Query.Resolution
import RelatedFilter.Relation

namespace RelatedFilter

namespace Resolved

/-- `inner join T as p2pN on B.K = p2pN.C` -/
def joinSql (base : Base) (r : Resolved) : String :=
  "inner join " ++ r.columns.table ++ " as " ++ r.tableAlias ++ " on " ++ base.table ++ "."
    ++ base.key ++ " = " ++ r.tableAlias ++ "." ++ r.columns.baseColumn

/-- `(p2pN.C = V and p2pN.type = 'T')` -/
def predicateSql (r : Resolved) : String :=
  "(" ++ r.tableAlias ++ "." ++ r.columns.targetColumn ++ " = " ++ r.target.sql ++ " and "
    ++ r.tableAlias ++ ".type = " ++ Sql.quote r.typeName ++ ")"

end Resolved

/-- The joins of all resolved segments, a space in front of each. -/
def joinFragment (base : Base) (resolved : List Resolved) : String :=
  String.join (resolved.map fun r => " " ++ r.joinSql base)

/-- The predicates of all resolved segments, combined and ready to follow a
    `where` clause. -/
def whereFragment (relation : Relation) (resolved : List Resolved) : String :=
  if resolved.isEmpty then ""
  else
    " and (" ++ String.intercalate (" " ++ relation.text ++ " ") (resolved.map (·.predicateSql))
      ++ ")"

end RelatedFilter
