/-
  RelatedFilter.Proofs.Query.Scope

  What the names in a compiled filter stand for.  The joined tables are numbered, so
  their names differ; each of them stands for the table joined under it, and the name
  of the base for the table selected from, unless the base is called like one of the
  joined tables (`names_stand_for_one_table`).  Nothing in the settings rules that out
  (`base_is_captured`).
-/
import RelatedFilter.Proofs.Query.Selection
import RelatedFilter.Proofs.Settings.Layers

namespace RelatedFilter

namespace Sql

/-! ## Names and tables -/

/-- A table of a selection: the one that is selected from, or a joined one, by its place
    among the joins, from one. -/
inductive Source where
  | selected
  | joined (place : Nat)
deriving DecidableEq, Repr

/-- The columns of a condition. -/
def Condition.columns : Condition → List Column
  | .truth => []
  | .equals column _ => [column]
  | .both left right => left.columns ++ right.columns
  | .either left right => left.columns ++ right.columns

theorem Condition.inScope_iff {names : List String} {c : Condition} :
    c.InScope names ↔ ∀ column ∈ c.columns, column.table ∈ names := by
  induction c with
  | truth => simp [InScope, columns]
  | equals column value => simp [InScope, columns]
  | both left right hleft hright => simp [InScope, columns, hleft, hright, or_imp, forall_and]
  | either left right hleft hright => simp [InScope, columns, hleft, hright, or_imp, forall_and]

/-- The columns of a join: a key of the table joined to, and its own column. -/
def Join.columns (join : Join) : List Column :=
  [join.key, ⟨join.tableAlias, join.column⟩]

/-- Among things with different names, one has the name of a given one. -/
theorem filter_eq_singleton {α β : Type} [DecidableEq β] {key : α → β} {xs : List α} {x : α}
    (h : (xs.map key).Nodup) (hx : x ∈ xs) : (xs.filter fun y => key y = key x) = [x] := by
  induction xs with
  | nil => cases hx
  | cons y rest ih =>
    rw [List.map_cons, List.nodup_cons] at h
    obtain ⟨hy, hrest⟩ := h
    rcases List.mem_cons.mp hx with rfl | hmem
    · have hothers : (rest.filter fun z => key z = key x) = [] := by
        rw [List.filter_eq_nil_iff]
        intro z hz hsame
        exact hy (List.mem_map.mpr ⟨z, hz, by simpa using hsame⟩)
      simp [hothers]
    · have hne : key y ≠ key x := fun hsame => hy (hsame ▸ List.mem_map_of_mem hmem)
      rw [List.filter_cons_of_neg (by simpa using hne)]
      exact ih hrest hmem

namespace Selection

/-- All columns of a selection. -/
def columns (s : Selection) : List Column :=
  s.joins.flatMap Join.columns ++ s.condition.columns

/-- The joined tables with a name. -/
def joinedUnder (s : Selection) (name : String) : List Source :=
  ((s.joins.zipIdx 1).filter fun (join, _) => join.tableAlias = name).map fun (_, place) =>
    .joined place

/-- The tables with a name. -/
def sources (s : Selection) (name : String) : List Source :=
  (if s.table = name then [.selected] else []) ++ s.joinedUnder name

/-- Every column of a well-scoped selection belongs to a joined table, or is a key of the
    table selected from. -/
theorem WellScoped.table_of_mem_columns {s : Selection} (h : s.WellScoped) {column : Column}
    (hcolumn : column ∈ s.columns) :
    (∃ join ∈ s.joins, column = join.key ∧ column.table = s.table) ∨
      column.table ∈ s.joins.map (·.tableAlias) := by
  rw [columns, List.mem_append, List.mem_flatMap] at hcolumn
  rcases hcolumn with ⟨join, hjoin, hmem⟩ | hcondition
  · rcases List.mem_pair.mp hmem with rfl | rfl
    · exact .inl ⟨join, hjoin, rfl, h.keys join hjoin⟩
    · exact .inr (List.mem_map_of_mem hjoin)
  · exact .inr (Condition.inScope_iff.mp h.condition column hcondition)

variable {s : Selection} {name : String}

/-- No table is joined under a name that no join gives. -/
theorem joinedUnder_eq_nil (h : name ∉ s.joins.map (·.tableAlias)) : s.joinedUnder name = [] := by
  rw [joinedUnder, List.map_eq_nil_iff, List.filter_eq_nil_iff]
  rintro ⟨join, place⟩ hmem hname
  have hjoin := List.fst_mem_of_mem_zipIdx hmem
  exact h (List.mem_map.mpr ⟨join, hjoin, by simpa using hname⟩)

/-- Where names differ, each stands for the one table joined under it. -/
theorem joinedUnder_eq_singleton (h : (s.joins.map (·.tableAlias)).Nodup) {place : Nat}
    {join : Join} (hjoin : (join, place) ∈ s.joins.zipIdx 1) :
    s.joinedUnder join.tableAlias = [.joined place] := by
  have hnames : ((s.joins.zipIdx 1).map fun (join, _) => join.tableAlias).Nodup := by
    have hmap : ((s.joins.zipIdx 1).map fun (join, _) => join.tableAlias)
        = s.joins.map (·.tableAlias) := by
      conv_rhs => rw [← List.zipIdx_map_fst 1 s.joins, List.map_map]
      rfl
    rw [hmap]
    exact h
  have hone := filter_eq_singleton hnames hjoin
  exact congrArg (List.map fun (_, place) => Source.joined place) hone

end Selection
end Sql

/-! ## Compiled filters -/

namespace Query

open Sql

/-- The name of the table joined at a place. -/
def aliasAt (place : Nat) : String := "p2p" ++ toString place

/-- The names that joined tables have are the names of the first places. -/
theorem map_tableAlias_compile (catalog : Catalog) (base : Base) (s : Specification) :
    (compile catalog base s).resolved.map (·.tableAlias)
      = (List.range' 1 (compile catalog base s).resolved.length).map aliasAt := by
  rw [compile_eq]
  simp only [ofResolved]
  rw [← map_place_resolvedOf, List.map_map]
  rfl

/-- Each name stands for one table: those of the first `count` places for the tables joined
    there, and the name of the base for the table selected from. -/
structure Unambiguous (base : Base) (count : Nat) (selection : Selection) : Prop where
  joined : ∀ place, 1 ≤ place → place ≤ count → selection.sources (aliasAt place) = [.joined place]
  selected : selection.sources base.table = [.selected]

section
variable {base : Base} {selection : Selection} {count : Nat}

/-- The tables with the name of a place are the one joined there, and the base if that is
    called so. -/
theorem sources_aliasAt (hscope : selection.WellScoped)
    (hnames : selection.joins.map (·.tableAlias) = (List.range' 1 count).map aliasAt) {place : Nat}
    (hfirst : 1 ≤ place) (hlast : place ≤ count) :
    selection.sources (aliasAt place)
      = (if selection.table = aliasAt place then [.selected] else []) ++ [.joined place] := by
  have hcount : selection.joins.length = count := by simpa using congrArg List.length hnames
  have hplace : place - 1 < selection.joins.length := by omega
  have hname : (selection.joins[place - 1]).tableAlias = aliasAt place := by
    have hget : (selection.joins.map (·.tableAlias))[place - 1]? = some (aliasAt place) := by
      rw [hnames, List.getElem?_map, List.getElem?_range' (by omega)]
      simp only [Option.map_some, Option.some.injEq]
      congr 1
      omega
    simpa [hplace] using hget
  have hjoin : (selection.joins[place - 1], place) ∈ selection.joins.zipIdx 1 := by
    rw [List.mk_mem_zipIdx_iff_le_and_getElem?_sub]
    exact ⟨hfirst, List.getElem?_eq_getElem hplace⟩
  rw [Selection.sources, ← hname, Selection.joinedUnder_eq_singleton hscope.aliases hjoin]

/-- Names are ambiguous exactly if the base is called like a joined table. -/
theorem unambiguous_iff (hscope : selection.WellScoped) (htable : selection.table = base.table)
    (hnames : selection.joins.map (·.tableAlias) = (List.range' 1 count).map aliasAt) :
    Unambiguous base count selection ↔ ∀ place, 1 ≤ place → place ≤ count →
      base.table ≠ aliasAt place := by
  have hsources := @sources_aliasAt selection count hscope hnames
  constructor
  · intro hone place hfirst hlast hcaptured
    have hjoined := hsources hfirst hlast
    rw [hone.joined place hfirst hlast, htable, if_pos hcaptured] at hjoined
    cases hjoined
  · intro hapart
    constructor
    case joined =>
      intro place hfirst hlast
      rw [hsources hfirst hlast, htable, if_neg (hapart place hfirst hlast), List.nil_append]
    case selected =>
      have hnone : base.table ∉ selection.joins.map (·.tableAlias) := by
        rw [hnames, List.mem_map]
        rintro ⟨place, hplace, hcaptured⟩
        rw [List.mem_range'_1] at hplace
        exact hapart place (by omega) (by omega) hcaptured.symm
      rw [Selection.sources, if_pos htable, Selection.joinedUnder_eq_nil hnone]
      rfl

end

/-- The joined tables are numbered from one, and every column of a filter belongs to one of
    them or is the key of the base.  What they are called stands for one table each exactly
    if the base is called otherwise. -/
theorem names_stand_for_one_table {settings : Settings} (hvalid : settings.validate = .ok ())
    (registry : Registry) (s : Specification) :
    let base := settings.base
    let q := compile registry.catalog base s
    let count := q.resolved.length
    q.resolved.map (·.tableAlias) = (List.range' 1 count).map aliasAt ∧
      (q.resolved.map (·.tableAlias)).Nodup ∧
      ∃ selection, readSelection (q.statement base) = some selection ∧
        selection.table = base.table ∧ selection.joins = q.resolved.map (Resolved.toJoin base) ∧
        (∀ column ∈ selection.columns, column = ⟨base.table, base.key⟩ ∨
          ∃ place, 1 ≤ place ∧ place ≤ count ∧ column.table = aliasAt place) ∧
        (Unambiguous base count selection ↔
          ∀ place, 1 ≤ place → place ≤ count → base.table ≠ aliasAt place) := by
  intro base q count
  have hbase : base.Plain := (Settings.validate_eq_ok_iff.mp hvalid).plain
  obtain ⟨hread, hscope⟩ := readSelection_compile registry hbase s
  have hnames : q.resolved.map (·.tableAlias) = (List.range' 1 count).map aliasAt :=
    map_tableAlias_compile registry.catalog base s
  have hjoins : (selection base q.relation q.resolved).joins.map (·.tableAlias)
      = (List.range' 1 count).map aliasAt := by
    rw [← hnames, selection, List.map_map]
    rfl
  refine ⟨hnames, nodup_tableAlias_compile registry.catalog base s, _, hread, rfl, rfl, ?columns,
    unambiguous_iff hscope rfl hjoins⟩
  case columns =>
    intro column hcolumn
    rcases hscope.table_of_mem_columns hcolumn with ⟨join, hjoin, rfl, -⟩ | halias
    · obtain ⟨r, -, rfl⟩ := List.mem_map.mp hjoin
      exact .inl rfl
    · rw [hjoins, List.mem_map] at halias
      obtain ⟨place, hplace, hname⟩ := halias
      rw [List.mem_range'_1] at hplace
      exact .inr ⟨place, by omega, by omega, hname.symm⟩

/-- With the settings that are the default, two joined tables and the base are told apart. -/
theorem names_stand_for_one_table_basic_or_owner :
    let q := compile Registry.sample.catalog Settings.default.base .basicOrOwner
    Settings.default.validate = .ok () ∧ q.resolved.map (·.tableAlias) = ["p2p1", "p2p2"] ∧
      ∃ selection, readSelection (q.statement Settings.default.base) = some selection ∧
        Unambiguous Settings.default.base 2 selection := by
  intro q
  have hvalid : Settings.default.validate = .ok () := by decide +kernel
  have hcount : q.resolved.length = 2 := by decide +kernel
  obtain ⟨haliases, -, selection, hread, -, -, -, hone⟩ :=
    names_stand_for_one_table hvalid Registry.sample .basicOrOwner
  refine ⟨hvalid, by decide +kernel, selection, hread, ?_⟩
  rw [← hcount]
  refine hone.mpr fun place hfirst hlast => ?_
  have hposts : ∀ place ∈ List.range' 1 2, "wp_posts" ≠ aliasAt place := by decide +kernel
  exact hposts place (List.mem_range'_1.mpr ⟨hfirst, Nat.lt_succ_of_le (hlast.trans hcount.le)⟩)

/-- Settings with a base that is called like the first joined table. -/
def capturedSettings : Settings := { Settings.default with baseTable := "p2p1" }

/-- The settings pass the check, and then the name of the base stands for two tables. -/
theorem base_is_captured :
    let base := capturedSettings.base
    let q := compile Registry.sample.catalog base .basicOrOwner
    capturedSettings.validate = .ok () ∧
      base.table ∈ q.resolved.map (·.tableAlias) ∧
      ∃ selection, readSelection (q.statement base) = some selection ∧
        selection.sources base.table = [.selected, .joined 1] ∧
        selection.sources "p2p1" ≠ [.joined 1] ∧ ¬ Unambiguous base 2 selection := by
  intro base q
  have hvalid : capturedSettings.validate = .ok () := by decide +kernel
  have hbase : base.Plain := (Settings.validate_eq_ok_iff.mp hvalid).plain
  obtain ⟨hread, -⟩ := readSelection_compile Registry.sample hbase .basicOrOwner
  have hsources : (selection base q.relation q.resolved).sources "p2p1"
      = [.selected, .joined 1] := by decide +kernel
  refine ⟨hvalid, by decide +kernel, _, hread, hsources, ?_, fun hone => ?_⟩
  · rw [hsources]
    decide
  · have hselected := hone.selected
    rw [show base.table = "p2p1" from rfl, hsources] at hselected
    cases hselected

end Query
end RelatedFilter
