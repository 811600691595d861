/-
  RelatedFilter.Proofs.Sql.Syntax

  The part of SQL that filters are written in: a selection from one table with
  inner joins and a condition.  Conditions are read by a machine that keeps, for
  each open bracket, what stands in front of the operand that comes next; `and`
  binds closer than `or`, and both group to the left.  Keywords are read without
  regard to case.
-/
import RelatedFilter.Proofs.Sql.Lexer
import RelatedFilter.Relation

namespace RelatedFilter.Sql

/-! ## Syntax trees -/

/-- A column of a table that is in scope under a name. -/
structure Column where
  table : String
  name : String
deriving DecidableEq, Repr

/-- A condition on the rows of a selection. -/
inductive Condition where
  | truth
  | equals (column : Column) (value : Literal)
  | both (left right : Condition)
  | either (left right : Condition)
deriving DecidableEq, Repr

/-- `inner join T as A on B.K = A.C` -/
structure Join where
  table : String
  tableAlias : String
  /-- The column of the table that is joined to. -/
  key : Column
  /-- The column of the joined table. -/
  column : String
deriving DecidableEq, Repr

/-- `from T … where …` -/
structure Selection where
  table : String
  joins : List Join
  condition : Condition
deriving DecidableEq, Repr

/-! ## Reading conditions -/

/-- Is the word this keyword, which is given in lower case? -/
def isKeyword (keyword word : String) : Bool :=
  word.toList.map Char.toLower = keyword.toList

/-- The literal that a token stands for. -/
def Token.literal? : Token → Option Literal
  | .numeral digits => some (.number digits)
  | .text content => some (.text content)
  | .word name => if isKeyword "null" name then some .null else none
  | .mark _ => none

/-- What stands in front of an operand, back to the nearest open bracket. -/
structure Frame where
  /-- The alternatives in front of the last `or`. -/
  alternatives : Option Condition
  /-- What stands between them and the last `and`. -/
  conjuncts : Option Condition

namespace Frame

/-- Behind an open bracket. -/
def empty : Frame := ⟨none, none⟩

/-- The conjunction that an operand ends. -/
def conjoin (f : Frame) (operand : Condition) : Condition :=
  match f.conjuncts with
  | none => operand
  | some c => .both c operand

/-- The condition that an operand ends. -/
def close (f : Frame) (operand : Condition) : Condition :=
  match f.alternatives with
  | none => f.conjoin operand
  | some c => .either c (f.conjoin operand)

/-- Behind `and`, in front of which stands an operand. -/
def behindAnd (f : Frame) (operand : Condition) : Frame :=
  { f with conjuncts := some (f.conjoin operand) }

/-- Behind `or`, in front of which stands an operand. -/
def behindOr (f : Frame) (operand : Condition) : Frame :=
  ⟨some (f.close operand), none⟩

end Frame

/-- Reads a condition that takes up all tokens: behind an operand if there is
    one, else in front of one, in the bracket of `frame` and those of `outer`. -/
def readCondition : Option Condition → Frame → List Frame → List Token → Option Condition
  -- in front of an operand: a bracket opens, or the operand is an equation or `true`
  | none, frame, outer, .mark c :: rest =>
    if c = '(' then readCondition none .empty (frame :: outer) rest else none
  | none, frame, outer, .word table :: .mark dot :: .word column :: .mark eq :: value :: rest =>
    if dot = '.' ∧ eq = '=' then
      match value.literal? with
      | some value => readCondition (some (.equals ⟨table, column⟩ value)) frame outer rest
      | none => none
    else none
  | none, frame, outer, .word name :: rest =>
    if isKeyword "true" name then readCondition (some .truth) frame outer rest else none
  -- behind an operand: a connective, the end of the bracket, or the end of everything
  | some operand, frame, outer, .word name :: rest =>
    if isKeyword "and" name then readCondition none (frame.behindAnd operand) outer rest
    else if isKeyword "or" name then readCondition none (frame.behindOr operand) outer rest
    else none
  | some operand, frame, next :: outer, .mark c :: rest =>
    if c = ')' then readCondition (some (frame.close operand)) next outer rest else none
  | some operand, frame, [], [] => some (frame.close operand)
  | _, _, _, _ => none

/-! ## Reading joins and selections -/

/-- Reads joins as far as there are any.  The equation behind `on` has the
    joined table on its right. -/
def readJoins : List Token → List Join × List Token
  | .word inner :: .word join :: .word table :: .word as :: .word tableAlias :: .word on
      :: .word base :: .mark dot :: .word key :: .mark eq
      :: .word joined :: .mark dot' :: .word column :: rest =>
    if isKeyword "inner" inner ∧ isKeyword "join" join ∧ isKeyword "as" as ∧ isKeyword "on" on
        ∧ dot = '.' ∧ eq = '=' ∧ dot' = '.' ∧ joined = tableAlias then
      let (more, rest) := readJoins rest
      (⟨table, tableAlias, ⟨base, key⟩, column⟩ :: more, rest)
    else
      ([], .word inner :: .word join :: .word table :: .word as :: .word tableAlias :: .word on
        :: .word base :: .mark dot :: .word key :: .mark eq
        :: .word joined :: .mark dot' :: .word column :: rest)
  | tokens => ([], tokens)

/-- Reads what stands behind `from`.  All joins are to the table selected from. -/
def readFrom : List Token → Option Selection
  | .word table :: rest =>
    match readJoins rest with
    | (joins, .word name :: rest) =>
      if isKeyword "where" name && joins.all (·.key.table = table) then
        (readCondition none .empty [] rest).map (⟨table, joins, ·⟩)
      else none
    | _ => none
  | _ => none

/-- The selection that a text stands for. -/
def readSelection (text : String) : Option Selection :=
  match lex text with
  | some (.word name :: rest) => if isKeyword "from" name then readFrom rest else none
  | _ => none

/-! ## Reading fragments -/

/-- The joins of a fragment that holds nothing else. -/
def readJoinFragment (text : String) : Option (List Join) :=
  match (lex text).map readJoins with
  | some (joins, []) => some joins
  | _ => none

/-- `(A.C = V and A.type = 'T')` -/
structure Predicate where
  tableAlias : String
  column : String
  value : Literal
  typeName : String
deriving DecidableEq, Repr

/-- Predicates with the connective between them, none if there are less than two. -/
structure Filter where
  connective : Option Relation
  predicates : List Predicate
deriving DecidableEq, Repr

/-- One more predicate behind a connective. -/
def Filter.add (f : Filter) (relation : Relation) (p : Predicate) : Option Filter :=
  if f.connective = none ∨ f.connective = some relation then
    some ⟨some relation, f.predicates ++ [p]⟩
  else none

namespace Condition

/-- The predicate that a condition is. -/
def predicate? : Condition → Option Predicate
  | .both (.equals column value) (.equals type (.text typeName)) =>
    if type = ⟨column.table, "type"⟩ then some ⟨column.table, column.name, value, typeName⟩
    else none
  | _ => none

/-- The predicates that a condition puts together with one connective. -/
def filter? : Condition → Option Filter
  | .both left right =>
    match (Condition.both left right).predicate? with
    | some p => some ⟨none, [p]⟩
    | none => do (← left.filter?).add .all (← right.predicate?)
  | .either left right => do (← left.filter?).add .any (← right.predicate?)
  | _ => none

/-- Two conditions with a connective between them. -/
def connect : Relation → Condition → Condition → Condition
  | .all => .both
  | .any => .either

end Condition

/-- The filter that a fragment behind a condition adds to it. -/
def readFilterFragment (text : String) : Option Filter :=
  match lex text with
  | some [] => some ⟨none, []⟩
  | some (.word name :: rest) =>
    if isKeyword "and" name then (readCondition none .empty [] rest).bind Condition.filter?
    else none
  | _ => none

end RelatedFilter.Sql
