/-
  RelatedFilter.Proofs.Sql.Meaning

  What selections mean.  The values of a database and their equality are
  parameters: all that is known of them is that NULL equals nothing.  Conditions
  are true, false or unknown.  An inner join keeps the combinations of rows that
  satisfy the equation behind `on`, and a selection keeps those of them for
  which its condition is true.

  Main statement: the joins of a selection are independent of one another, so
  its combinations are the ways to choose one fitting row for each join
  (`mem_combinations`).
-/
import RelatedFilter.Proofs.Sql.Syntax
import Mathlib.Data.List.Forall2

namespace RelatedFilter.Sql

/-! ## Databases -/

/-- The values of a database, with what literals stand for. -/
structure Values where
  Value : Type
  null : Value
  number : String → Value
  text : String → Value
  /-- Whether two values are equal, if that is known. -/
  equal : Value → Value → Option Bool
  equal_null_left : ∀ v, equal null v = none
  equal_null_right : ∀ v, equal v null = none

/-- The value of a literal. -/
def Values.ofLiteral (V : Values) : Literal → V.Value
  | .number digits => V.number digits
  | .text content => V.text content
  | .null => V.null

/-- The literals themselves as values. -/
def Values.literals : Values where
  Value := Literal
  null := .null
  number := .number
  text := .text
  equal a b := if a = .null ∨ b = .null then none else some (decide (a = b))
  equal_null_left _ := if_pos (Or.inl rfl)
  equal_null_right _ := if_pos (Or.inr rfl)

/-- The values of a row by column. -/
abbrev Row (V : Values) := String → V.Value

/-- The rows of each table. -/
abbrev Database (V : Values) := String → List (Row V)

/-! ## Conditions -/

/-- `and` of two truth values, either of which may be unknown. -/
def conj : Option Bool → Option Bool → Option Bool
  | some false, _ => some false
  | _, some false => some false
  | some true, some true => some true
  | _, _ => none

/-- `or` of two truth values, either of which may be unknown. -/
def disj : Option Bool → Option Bool → Option Bool
  | some true, _ => some true
  | _, some true => some true
  | some false, some false => some false
  | _, _ => none

@[simp] theorem conj_eq_true {a b : Option Bool} :
    conj a b = some true ↔ a = some true ∧ b = some true := by
  rcases a with _ | _ | _ <;> rcases b with _ | _ | _ <;> simp [conj]

@[simp] theorem disj_eq_true {a b : Option Bool} :
    disj a b = some true ↔ a = some true ∨ b = some true := by
  rcases a with _ | _ | _ <;> rcases b with _ | _ | _ <;> simp [disj]

/-- A row of the table selected from, with the rows joined to it by their names. -/
structure Combination (V : Values) where
  row : Row V
  joined : List (String × Row V)

variable {V : Values}

/-- The row that a name stands for.  The table selected from has its own name,
    unless a joined table took it. -/
def Combination.row? (selected : String) (c : Combination V) (name : String) : Option (Row V) :=
  (c.joined.lookup name).or (if name = selected then some c.row else none)

/-- The truth value of a condition; a name that stands for no row makes it
    unknown. -/
def Condition.eval (selected : String) (c : Combination V) : Condition → Option Bool
  | .truth => some true
  | .equals column value =>
    (c.row? selected column.table).bind fun row => V.equal (row column.name) (V.ofLiteral value)
  | .both left right => conj (left.eval selected c) (right.eval selected c)
  | .either left right => disj (left.eval selected c) (right.eval selected c)

/-- Do all columns of a condition belong to one of these names? -/
def Condition.InScope (names : List String) : Condition → Prop
  | .truth => True
  | .equals column _ => column.table ∈ names
  | .both left right => left.InScope names ∧ right.InScope names
  | .either left right => left.InScope names ∧ right.InScope names

/-! ## Selections -/

/-- Does a row of the joined table belong to a row of the table joined to? -/
def Join.Fits (db : Database V) (row : Row V) (join : Join) (link : Row V) : Prop :=
  link ∈ db join.table ∧ V.equal (row join.key.name) (link join.column) = some true

/-- The combinations that a join makes of one. -/
def Combination.extend (db : Database V) (c : Combination V) (join : Join) :
    List (Combination V) :=
  ((db join.table).filter fun link =>
      V.equal (c.row join.key.name) (link join.column) = some true).map fun link =>
    { c with joined := c.joined ++ [(join.tableAlias, link)] }

/-- The combinations that joins make of some, one join after the other. -/
def extendAll (db : Database V) (joins : List Join) (start : List (Combination V)) :
    List (Combination V) :=
  joins.foldl (fun found join => found.flatMap (·.extend db join)) start

namespace Selection

/-- The combinations in front of `where`. -/
def combinations (db : Database V) (s : Selection) : List (Combination V) :=
  extendAll db s.joins ((db s.table).map (⟨·, []⟩))

/-- The combinations selected. -/
def run (db : Database V) (s : Selection) : List (Combination V) :=
  (s.combinations db).filter fun c => s.condition.eval s.table c = some true

/-- The rows of the table selected from, once for each combination selected. -/
def rows (db : Database V) (s : Selection) : List (Row V) :=
  (s.run db).map (·.row)

/-- A selection in which every name is known and stands for one row: the joined
    tables have different names, all are joined to the table selected from, and
    the condition is about the joined tables. -/
structure WellScoped (s : Selection) : Prop where
  aliases : (s.joins.map (·.tableAlias)).Nodup
  keys : ∀ join ∈ s.joins, join.key.table = s.table
  condition : s.condition.InScope (s.joins.map (·.tableAlias))

end Selection

/-! ## Joins -/

/-- The row that a name stands for fits the join that gave the name. -/
def Join.Gives (db : Database V) (row : Row V) (join : Join) (entry : String × Row V) : Prop :=
  entry.1 = join.tableAlias ∧ join.Fits db row entry.2

theorem mem_extend {db : Database V} {c d : Combination V} {join : Join} :
    d ∈ c.extend db join ↔
      ∃ entry, join.Gives db c.row entry ∧ d = { c with joined := c.joined ++ [entry] } := by
  simp only [Combination.extend, List.mem_map, List.mem_filter, decide_eq_true_eq, Join.Gives,
    Join.Fits, Prod.exists]
  constructor
  · rintro ⟨link, hlink, rfl⟩
    exact ⟨_, link, ⟨rfl, hlink⟩, rfl⟩
  · rintro ⟨_, link, ⟨rfl, hlink⟩, rfl⟩
    exact ⟨link, hlink, rfl⟩

/-- Joins add one fitting row each to a combination, and do not see the rows of
    one another. -/
theorem mem_extendAll {db : Database V} {joins : List Join} {start : List (Combination V)}
    {d : Combination V} :
    d ∈ extendAll db joins start ↔
      ∃ c ∈ start, ∃ added, List.Forall₂ (Join.Gives db c.row) joins added ∧
        d = { c with joined := c.joined ++ added } := by
  -- the first join changes where the rest start from, so the start is any list
  induction joins generalizing start with
  | nil => simp [extendAll]
  | cons join rest ih =>
    have hstep : extendAll db (join :: rest) start
        = extendAll db rest (start.flatMap (·.extend db join)) := rfl
    rw [hstep, ih]
    constructor
    · rintro ⟨c', hc', added, hadded, rfl⟩
      obtain ⟨c, hc, hextend⟩ := List.mem_flatMap.mp hc'
      obtain ⟨entry, hentry, rfl⟩ := mem_extend.mp hextend
      exact ⟨c, hc, entry :: added, .cons hentry hadded, by simp⟩
    · rintro ⟨c, hc, added, hadded, rfl⟩
      cases hadded with
      | cons hentry hrest =>
        refine ⟨_, List.mem_flatMap.mpr ⟨c, hc, mem_extend.mpr ⟨_, hentry, rfl⟩⟩, _, hrest, ?_⟩
        simp

/-- A combination is a row with a fitting row for each join. -/
theorem mem_combinations {db : Database V} {s : Selection} {c : Combination V} :
    c ∈ s.combinations db ↔
      c.row ∈ db s.table ∧ List.Forall₂ (Join.Gives db c.row) s.joins c.joined := by
  simp only [Selection.combinations, mem_extendAll, List.mem_map]
  constructor
  · rintro ⟨-, ⟨row, hrow, rfl⟩, added, hadded, rfl⟩
    exact ⟨hrow, hadded⟩
  · rintro ⟨hrow, hjoined⟩
    exact ⟨_, ⟨c.row, hrow, rfl⟩, c.joined, hjoined, rfl⟩

/-- A row is selected if it has fitting rows that make the condition true. -/
theorem mem_rows {db : Database V} {s : Selection} {row : Row V} :
    row ∈ s.rows db ↔
      row ∈ db s.table ∧ ∃ joined, List.Forall₂ (Join.Gives db row) s.joins joined ∧
        s.condition.eval s.table ⟨row, joined⟩ = some true := by
  simp only [Selection.rows, Selection.run, List.mem_map, List.mem_filter, mem_combinations,
    decide_eq_true_eq]
  constructor
  · rintro ⟨c, ⟨⟨hrow, hjoined⟩, heval⟩, rfl⟩
    exact ⟨hrow, c.joined, hjoined, heval⟩
  · rintro ⟨hrow, joined, hjoined, heval⟩
    exact ⟨⟨row, joined⟩, ⟨⟨hrow, hjoined⟩, heval⟩, rfl⟩

end RelatedFilter.Sql
