/-
  RelatedFilter.Proofs.Query.Selection

  What a compiled filter selects.  The statement that its fragments complete is
  read as a selection, and the rows of that selection are given by what the
  resolved segments ask of the database.

  The joins of a filter are the same for both relations: a row needs a link in
  the table of every resolved segment before any predicate is looked at.  For
  `AND` this changes nothing.  For `OR` it does: a row that one segment asks for
  is lost if it has no link at all in the table of another.
-/
import RelatedFilter.Proofs.Query.Fragment
import RelatedFilter.Proofs.Sql.Meaning

namespace RelatedFilter

open Sql

/-! ## The statement -/

namespace Query

/-- A statement that both fragments complete. -/
def statement (base : Base) (q : Query) : String :=
  "from " ++ base.table ++ q.join ++ " where true" ++ q.predicate

/-- The condition that resolved segments put behind `where true`. -/
def condition (relation : Relation) : List Resolved → Condition
  | [] => .truth
  | r :: rest => .both .truth (connectAll relation r.condition rest)

/-- The selection of resolved segments. -/
def selection (base : Base) (relation : Relation) (resolved : List Resolved) : Selection :=
  ⟨base.table, resolved.map (Resolved.toJoin base), condition relation resolved⟩

end Query

/-- The pieces behind the joins. -/
def conditionPieces (relation : Relation) (resolved : List Resolved) : List Piece :=
  [.blank, .word "where", .blank, .word "true"] ++ wherePieces relation resolved

section
variable {base : Base} {relation : Relation} {resolved : List Resolved}

theorem tidy_conditionPieces (relation : Relation) (hplain : ∀ r ∈ resolved, r.Plain) :
    Tidy (conditionPieces relation resolved) := by
  have hapart : Apart (wherePieces relation resolved) := by
    cases resolved with
    | nil => simp [wherePieces, Apart]
    | cons r rest => exact apart_blank _
  simp only [conditionPieces, List.cons_append, List.nil_append, tidy_blank, tidy_token_blank]
  exact ⟨plain_word_of_isIdentifier (by decide),
    tidy_token_of_apart (plain_word_of_isIdentifier (by decide))
      (tidy_wherePieces relation hplain) hapart⟩

theorem readCondition_conditionPieces (relation : Relation) (resolved : List Resolved) :
    readCondition none .empty [] (.word "true" :: tokens (wherePieces relation resolved))
      = some (Query.condition relation resolved) := by
  have htrue : isKeyword "true" "true" = true := by decide
  have hand : isKeyword "and" "and" = true := by decide
  cases resolved with
  | nil => simp [wherePieces, readCondition, htrue, Query.condition, Frame.close, Frame.empty,
      Frame.conjoin]
  | cons r rest =>
    have hread : readCondition none .empty []
          (.word "true" :: .word "and" :: bracketTokens relation r rest)
        = readCondition none (Frame.empty.behindAnd .truth) [] (bracketTokens relation r rest) := by
      simp [readCondition, htrue, hand]
    rw [tokens_wherePieces, hread, readCondition_bracketTokens]
    rfl

theorem readSelection_statement {q : Query} (hbase : base.Plain) (hplain : ∀ r ∈ resolved, r.Plain)
    (hjoin : q.join = joinFragment base resolved)
    (hpredicate : q.predicate = whereFragment relation resolved) :
    readSelection (q.statement base) = some (Query.selection base relation resolved) := by
  have hspell : (q.statement base).toList
      = spell ([.word "from", .blank, .word base.table]
          ++ (joinPieces base resolved ++ conditionPieces relation resolved)) := by
    simp [Query.statement, hjoin, hpredicate, toList_joinFragment, toList_whereFragment,
      conditionPieces]
  obtain ⟨htidy, hapart⟩ := tidy_joinPieces hbase hplain
    (tidy_conditionPieces relation hplain) (apart_blank _)
  have hall : Tidy ([.word "from", .blank, .word base.table]
      ++ (joinPieces base resolved ++ conditionPieces relation resolved)) := by
    simp only [List.cons_append, List.nil_append, tidy_token_blank]
    exact ⟨plain_word_of_isIdentifier (by decide),
      tidy_token_of_apart (plain_word_of_isIdentifier hbase.table) htidy hapart⟩
  have hafter : readJoins (tokens (conditionPieces relation resolved))
      = ([], tokens (conditionPieces relation resolved)) := by
    cases resolved <;> simp [conditionPieces, wherePieces, readJoins]
  have hfrom : isKeyword "from" "from" = true := by decide
  have hwhere : isKeyword "where" "where" = true := by decide
  have hkeys : (resolved.map (Resolved.toJoin base)).all (·.key.table = base.table) = true := by
    simp [Resolved.toJoin]
  have htokens : tokens (conditionPieces relation resolved)
      = .word "where" :: .word "true" :: tokens (wherePieces relation resolved) := by
    simp [conditionPieces]
  rw [readSelection, lex_pieces hspell hall]
  simp only [List.cons_append, List.nil_append, tokens_token, tokens_blank, hfrom, if_true,
    readFrom, tokens_append, readJoins_joinPieces base resolved _ hafter]
  simp only [htokens, hwhere, hkeys, Bool.and_self, if_true, readCondition_conditionPieces]
  rfl

/-- A quote in a type, and `and` inside the bracket of its predicate. -/
example : readSelection ("from t inner join l as p2p1 on t.k = p2p1.b"
      ++ " where true and ((p2p1.c = NULL and p2p1.type = 'o''b'))")
    = some ⟨"t", [⟨"l", "p2p1", ⟨"t", "k"⟩, "b"⟩], .both .truth
        (.both (.equals ⟨"p2p1", "c"⟩ .null) (.equals ⟨"p2p1", "type"⟩ (.text "o'b")))⟩ := by
  decide +kernel

end

/-! ## Conditions on joined rows -/

variable {V : Values}

namespace Resolved

/-- A row of the segment's table that belongs to a row of the base. -/
def Links (db : Database V) (base : Base) (row : Row V) (r : Resolved) (link : Row V) : Prop :=
  link ∈ db r.columns.table ∧ V.equal (row base.key) (link r.columns.baseColumn) = some true

/-- A row of the segment's table has the target and the type that the segment
    asks for. -/
def Matches (r : Resolved) (link : Row V) : Prop :=
  V.equal (link r.columns.targetColumn) (V.ofLiteral r.target) = some true
    ∧ V.equal (link "type") (V.text r.typeName) = some true

/-- A row of the base is linked to what the segment asks for. -/
def Finds (db : Database V) (base : Base) (row : Row V) (r : Resolved) : Prop :=
  ∃ link, r.Links db base row link ∧ r.Matches link

/-- Nothing has NULL for its target. -/
theorem not_matches_of_target_null {r : Resolved} (h : r.target = .null) (link : Row V) :
    ¬ r.Matches link := by
  rintro ⟨htarget, -⟩
  rw [h, Values.ofLiteral, V.equal_null_right] at htarget
  cases htarget

theorem eval_condition {selected : String} {c : Combination V} {r : Resolved} {link : Row V}
    (h : c.joined.lookup r.tableAlias = some link) :
    r.condition.eval selected c = some true ↔ r.Matches link := by
  simp [condition, Condition.eval, Combination.row?, h, Matches, Values.ofLiteral]

end Resolved

theorem eval_connectAll_all {selected : String} {c : Combination V} (first : Condition)
    (resolved : List Resolved) :
    (connectAll .all first resolved).eval selected c = some true ↔
      first.eval selected c = some true ∧
        ∀ r ∈ resolved, r.condition.eval selected c = some true := by
  induction resolved generalizing first with
  | nil => simp [connectAll]
  | cons r rest ih =>
    have hstep : connectAll .all first (r :: rest)
        = connectAll .all (.both first r.condition) rest := rfl
    rw [hstep, ih]
    simp only [Condition.eval, conj_eq_true, List.forall_mem_cons, and_assoc]

theorem eval_connectAll_any {selected : String} {c : Combination V} (first : Condition)
    (resolved : List Resolved) :
    (connectAll .any first resolved).eval selected c = some true ↔
      first.eval selected c = some true ∨
        ∃ r ∈ resolved, r.condition.eval selected c = some true := by
  induction resolved generalizing first with
  | nil => simp [connectAll]
  | cons r rest ih =>
    have hstep : connectAll .any first (r :: rest)
        = connectAll .any (.either first r.condition) rest := rfl
    rw [hstep, ih]
    simp only [Condition.eval, disj_eq_true, List.exists_mem_cons_iff, or_assoc]

/-- All predicates have to be true. -/
theorem eval_condition_all {selected : String} {c : Combination V} (resolved : List Resolved) :
    (Query.condition .all resolved).eval selected c = some true ↔
      ∀ r ∈ resolved, r.condition.eval selected c = some true := by
  cases resolved with
  | nil => simp [Query.condition, Condition.eval]
  | cons r rest =>
    simp only [Query.condition, Condition.eval, conj_eq_true, true_and, eval_connectAll_all,
      List.forall_mem_cons]

/-- One predicate has to be true. -/
theorem eval_condition_any {selected : String} {c : Combination V} {resolved : List Resolved}
    (hne : resolved ≠ []) :
    (Query.condition .any resolved).eval selected c = some true ↔
      ∃ r ∈ resolved, r.condition.eval selected c = some true := by
  obtain ⟨r, rest, rfl⟩ := List.exists_cons_of_ne_nil hne
  simp only [Query.condition, Condition.eval, conj_eq_true, true_and, eval_connectAll_any,
    List.exists_mem_cons_iff]

/-! ## Joined rows by name -/

/-- The rows joined for segments, each under the name of its segment and with a
    property. -/
def JoinedFor (P : Resolved → Row V → Prop) (resolved : List Resolved)
    (joined : List (String × Row V)) : Prop :=
  List.Forall₂ (fun r entry => entry.1 = r.tableAlias ∧ P r entry.2) resolved joined

namespace JoinedFor

variable {P Q : Resolved → Row V → Prop} {resolved : List Resolved}
  {joined : List (String × Row V)}

theorem mono (hPQ : ∀ r link, P r link → Q r link) (h : JoinedFor P resolved joined) :
    JoinedFor Q resolved joined :=
  List.Forall₂.imp (fun _ _ hentry => ⟨hentry.1, hPQ _ _ hentry.2⟩) h

/-- Where there is a row for each segment, the rows can be joined. -/
theorem exists_of_forall (h : ∀ r ∈ resolved, ∃ link, P r link) :
    ∃ joined, JoinedFor P resolved joined := by
  induction resolved with
  | nil => exact ⟨[], .nil⟩
  | cons r rest ih =>
    obtain ⟨link, hlink⟩ := h r List.mem_cons_self
    obtain ⟨joined, hjoined⟩ := ih fun r hr => h r (List.mem_cons_of_mem _ hr)
    exact ⟨(r.tableAlias, link) :: joined, .cons ⟨rfl, hlink⟩ hjoined⟩

/-- Names that differ lead to the row that was joined for the segment, and to no
    other. -/
theorem lookup (hnames : (resolved.map Resolved.tableAlias).Nodup)
    (h : JoinedFor P resolved joined) {r : Resolved} (hr : r ∈ resolved) :
    ∃ link, joined.lookup r.tableAlias = some link ∧ P r link := by
  induction h with
  | nil => cases hr
  | @cons first entry rest joined hentry _ ih =>
    obtain ⟨name, link⟩ := entry
    obtain ⟨rfl, hlink⟩ := hentry
    rw [List.map_cons, List.nodup_cons] at hnames
    rcases List.mem_cons.mp hr with rfl | hr
    · exact ⟨link, by simp, hlink⟩
    · -- the name is another one, so the search goes on behind the first row
      have hother : r.tableAlias ≠ first.tableAlias := fun heq =>
        hnames.1 (heq ▸ List.mem_map_of_mem hr)
      obtain ⟨found, hfound, hP⟩ := ih hnames.2 hr
      refine ⟨found, ?_, hP⟩
      rw [List.lookup_cons, beq_eq_false_iff_ne.mpr hother]
      exact hfound

end JoinedFor

/-! ## The rows of a filter -/

theorem nodup_tableAlias_resolvedOf (catalog : Catalog) (baseKind : String) (s : Specification) :
    ((resolvedOf catalog baseKind s).map Resolved.tableAlias).Nodup := by
  have hnames : (resolvedOf catalog baseKind s).map Resolved.tableAlias
      = ((resolvedOf catalog baseKind s).map (·.aliasIndex)).map
          fun place => Resolved.aliasStem ++ toString place := by
    rw [List.map_map]
    rfl
  rw [hnames, map_place_resolvedOf]
  exact List.Nodup.map Resolved.aliasOf_injective List.nodup_range'

theorem inScope_connectAll {relation : Relation} {first : Condition} {resolved : List Resolved}
    {names : List String} (hfirst : first.InScope names)
    (hresolved : ∀ r ∈ resolved, r.tableAlias ∈ names) :
    (connectAll relation first resolved).InScope names := by
  induction resolved generalizing first with
  | nil => exact hfirst
  | cons r rest ih =>
    have hr : r.condition.InScope names :=
      ⟨hresolved r List.mem_cons_self, hresolved r List.mem_cons_self⟩
    refine ih ?_ fun r hr => hresolved r (List.mem_cons_of_mem _ hr)
    cases relation <;> exact ⟨hfirst, hr⟩

section
variable {base : Base} {resolved : List Resolved} {db : Database V} {row : Row V}

theorem wellScoped_selection (relation : Relation)
    (hnames : (resolved.map Resolved.tableAlias).Nodup) :
    (Query.selection base relation resolved).WellScoped := by
  have haliases : (resolved.map (Resolved.toJoin base)).map (·.tableAlias)
      = resolved.map Resolved.tableAlias := by
    rw [List.map_map]
    rfl
  refine ⟨?_, ?_, ?_⟩
  · simpa only [Query.selection, haliases] using hnames
  · simp [Query.selection, Resolved.toJoin]
  · simp only [Query.selection, haliases]
    cases resolved with
    | nil => trivial
    | cons r rest =>
      have hscope : ∀ q ∈ r :: rest, q.tableAlias ∈ (r :: rest).map Resolved.tableAlias :=
        fun q hq => List.mem_map_of_mem hq
      have hr := hscope r List.mem_cons_self
      exact ⟨trivial, inScope_connectAll ⟨hr, hr⟩ fun q hq =>
        hscope q (List.mem_cons_of_mem _ hq)⟩

/-- A row needs rows to be joined with, and the condition true of them. -/
theorem mem_rows_selection {relation : Relation} :
    row ∈ (Query.selection base relation resolved).rows db ↔
      row ∈ db base.table ∧
        ∃ joined, JoinedFor (Resolved.Links db base row) resolved joined ∧
          (Query.condition relation resolved).eval base.table ⟨row, joined⟩ = some true := by
  simp only [mem_rows, Query.selection, List.forall₂_map_left_iff]
  rfl

/-- For `AND`, each segment has a row of its own to look for. -/
theorem mem_rows_all (hnames : (resolved.map Resolved.tableAlias).Nodup) :
    row ∈ (Query.selection base .all resolved).rows db ↔
      row ∈ db base.table ∧ ∀ r ∈ resolved, r.Finds db base row := by
  rw [mem_rows_selection]
  refine and_congr_right fun _ => ⟨?_, fun h => ?_⟩
  · rintro ⟨joined, hjoined, heval⟩ r hr
    obtain ⟨link, hlink, hlinks⟩ := hjoined.lookup hnames hr
    have hr := (eval_condition_all resolved).mp heval r hr
    exact ⟨link, hlinks, (Resolved.eval_condition hlink).mp hr⟩
  · -- each segment is joined with the row that it asks for
    obtain ⟨joined, hjoined⟩ := JoinedFor.exists_of_forall h
    refine ⟨joined, hjoined.mono fun _ _ h => h.1, (eval_condition_all resolved).mpr ?_⟩
    intro r hr
    obtain ⟨link, hlink, -, hmatches⟩ := hjoined.lookup hnames hr
    exact (Resolved.eval_condition hlink).mpr hmatches

/-- For `OR`, one segment has to find its row, but all need a row to join. -/
theorem mem_rows_any (hnames : (resolved.map Resolved.tableAlias).Nodup) (hne : resolved ≠ []) :
    row ∈ (Query.selection base .any resolved).rows db ↔
      row ∈ db base.table ∧ (∀ r ∈ resolved, ∃ link, r.Links db base row link) ∧
        ∃ r ∈ resolved, r.Finds db base row := by
  rw [mem_rows_selection]
  refine and_congr_right fun _ => ⟨?_, ?_⟩
  · rintro ⟨joined, hjoined, heval⟩
    refine ⟨fun r hr => ?_, ?_⟩
    · obtain ⟨link, -, hlinks⟩ := hjoined.lookup hnames hr
      exact ⟨link, hlinks⟩
    · obtain ⟨r, hr, htrue⟩ := (eval_condition_any hne).mp heval
      obtain ⟨link, hlink, hlinks⟩ := hjoined.lookup hnames hr
      exact ⟨r, hr, link, hlinks, (Resolved.eval_condition hlink).mp htrue⟩
  · rintro ⟨hlinked, r, hr, link, hlinks, hmatches⟩
    -- the segment that finds its row is joined with it, the others with any row
    have hrows : ∀ q ∈ resolved, ∃ found,
        q.Links db base row found ∧ (q = r → q.Matches found) := by
      intro q hq
      by_cases hqr : q = r
      · exact ⟨link, hqr ▸ hlinks, fun _ => hqr ▸ hmatches⟩
      · obtain ⟨found, hfound⟩ := hlinked q hq
        exact ⟨found, hfound, fun h => absurd h hqr⟩
    obtain ⟨joined, hjoined⟩ := JoinedFor.exists_of_forall hrows
    obtain ⟨found, hfound, -, hmatch⟩ := hjoined.lookup hnames hr
    exact ⟨joined, hjoined.mono fun _ _ h => h.1, (eval_condition_any hne).mpr
      ⟨r, hr, (Resolved.eval_condition hfound).mpr (hmatch rfl)⟩⟩

end

/-! ## Rows that are lost -/

/-- The columns of a segment, other than its target, are neither its target nor
    its type; and where its links are kept, the table tells. -/
structure Resolved.Kept (tablePrefix : String) (r : Resolved) : Prop where
  base_ne_target : r.columns.baseColumn ≠ r.columns.targetColumn
  base_ne_type : r.columns.baseColumn ≠ "type"
  type_ne_target : "type" ≠ r.columns.targetColumn
  kind : ∃ kind : Relationship.Kind,
    r.columns = ⟨tablePrefix ++ kind.name, kind.columns.1, kind.columns.2⟩

theorem kept_of_mem_resolvedOf {registry : Registry} {baseKind : String} {s : Specification}
    {r : Resolved} (h : r ∈ resolvedOf registry.catalog baseKind s) :
    r.Kept registry.tablePrefix := by
  obtain ⟨⟨request, hanswer⟩, -⟩ := mem_resolvedOf h
  obtain ⟨relationship, hcolumns⟩ := Registry.columns_of_catalog hanswer
  have hnames : ∀ kind : Relationship.Kind, kind.columns.1 ≠ kind.columns.2
      ∧ kind.columns.1 ≠ "type" ∧ "type" ≠ kind.columns.2 := by
    intro kind
    cases kind <;> decide
  obtain ⟨htarget, htype, htypeTarget⟩ := hnames relationship.kind
  refine ⟨?_, ?_, ?_, relationship.kind, hcolumns⟩
  all_goals rw [hcolumns]; assumption

/-- Segments that keep their links in one table keep them in the same columns. -/
theorem Resolved.Kept.columns_eq {tablePrefix : String} {r r' : Resolved}
    (hr : r.Kept tablePrefix) (hr' : r'.Kept tablePrefix)
    (htable : r.columns.table = r'.columns.table) : r.columns = r'.columns := by
  obtain ⟨kind, hkind⟩ := hr.kind
  obtain ⟨kind', hkind'⟩ := hr'.kind
  rw [hkind, hkind'] at htable
  have hname : kind.name = kind'.name := (String.append_right_inj tablePrefix).mp htable
  have hsame : kind = kind' := by
    cases kind <;> cases kind' <;> simp_all [Relationship.Kind.name]
  rw [hkind, hkind', hsame]

/-- What a segment asks for, in the columns of a link of the row with key 1. -/
def Resolved.wanted (r : Resolved) (column : String) : Literal :=
  if column = r.columns.targetColumn then r.target
  else if column = "type" then .text r.typeName
  else .number "1"

/-- A row with key 1, its link to what a segment asks for, and nothing else. -/
def onlyLink (base : Base) (r : Resolved) : Database .literals := fun table =>
  if table = base.table then [fun _ => Literal.number "1"]
  else if table = r.columns.table then [r.wanted]
  else []

theorem mem_onlyLink (base : Base) (r : Resolved) :
    (fun _ => Literal.number "1") ∈ onlyLink base r base.table := by
  rw [onlyLink, if_pos rfl]
  exact List.mem_singleton_self _

theorem Values.equal_literals {l : Literal} (h : l ≠ .null) :
    Values.literals.equal l (Values.literals.ofLiteral l) = some true := by
  have hvalue : Values.literals.ofLiteral l = l := by cases l <;> rfl
  rw [hvalue]
  simp [Values.literals, h]

theorem finds_onlyLink {base : Base} {tablePrefix : String} {r : Resolved}
    (hr : r.Kept tablePrefix) (htarget : r.target ≠ .null)
    (hbase : r.columns.table ≠ base.table) :
    r.Finds (onlyLink base r) base fun _ => Literal.number "1" := by
  have hkey : r.wanted r.columns.baseColumn = .number "1" := by
    rw [Resolved.wanted, if_neg hr.base_ne_target, if_neg hr.base_ne_type]
  have hvalue : r.wanted r.columns.targetColumn = r.target := if_pos rfl
  have htype : r.wanted "type" = .text r.typeName := by
    rw [Resolved.wanted, if_neg hr.type_ne_target, if_pos rfl]
  refine ⟨r.wanted, ⟨?_, ?_⟩, ?_, ?_⟩
  · rw [onlyLink, if_neg hbase, if_pos rfl]
    exact List.mem_singleton_self _
  · rw [hkey]
    exact Values.equal_literals (l := .number "1") nofun
  · rw [hvalue]
    exact Values.equal_literals htarget
  · rw [htype]
    exact Values.equal_literals (l := .text r.typeName) nofun

theorem not_links_onlyLink {base : Base} {r r' : Resolved} {row link : Row .literals}
    (htables : r'.columns.table ≠ r.columns.table) (hbase : r'.columns.table ≠ base.table) :
    ¬ r'.Links (onlyLink base r) base row link := by
  rintro ⟨hlink, -⟩
  simp [onlyLink, hbase, htables] at hlink

/-! ## Compiled filters -/

namespace Query

theorem readSelection_compile (registry : Registry) {base : Base} (hbase : base.Plain)
    (s : Specification) :
    let q := compile registry.catalog base s
    readSelection (q.statement base) = some (selection base q.relation q.resolved)
      ∧ (selection base q.relation q.resolved).WellScoped := by
  rw [compile_eq]
  exact ⟨readSelection_statement hbase (fun _ => plain_of_mem_resolvedOf) rfl rfl,
    wellScoped_selection _ (nodup_tableAlias_resolvedOf registry.catalog base.kind s)⟩

theorem nodup_tableAlias_compile (catalog : Catalog) (base : Base) (s : Specification) :
    ((compile catalog base s).resolved.map Resolved.tableAlias).Nodup := by
  rw [compile_eq]
  exact nodup_tableAlias_resolvedOf catalog base.kind s

/-- An `AND` filter selects the rows that are linked to everything its resolved
    segments ask for; each of them has a joined row of its own.  With nothing
    resolved it changes nothing. -/
theorem rows_of_all_filter (registry : Registry) {base : Base} (hbase : base.Plain)
    (s : Specification) (hrelation : (compile registry.catalog base s).relation = .all) :
    let q := compile registry.catalog base s
    ∃ selection, readSelection (q.statement base) = some selection ∧ selection.WellScoped ∧
      ∀ (V : Values) (db : Database V),
        (∀ row, row ∈ selection.rows db ↔
          row ∈ db base.table ∧ ∀ r ∈ q.resolved, r.Finds db base row) ∧
        (q.resolved = [] → selection.rows db = db base.table) := by
  intro q
  obtain ⟨hread, hscope⟩ := readSelection_compile registry hbase s
  refine ⟨_, hread, hscope, fun V db => ⟨fun row => ?_, fun hnone => ?_⟩⟩
  · rw [hrelation]
    exact mem_rows_all (nodup_tableAlias_compile registry.catalog base s)
  · change q.resolved = [] at hnone
    change Selection.rows db (selection base q.relation q.resolved) = _
    rw [hnone]
    simp [selection, condition, Selection.rows, Selection.run, Selection.combinations, extendAll,
      Condition.eval, List.filter_map, Function.comp_def]

end Query

/-- Linked to post 25, or owned by user 2. -/
def Specification.basicOrOwner : Specification :=
  Specification.empty.field "type" (.string "basic")
    |>.field "related_to_post" (.number (.integer 25))
    |>.segment (.object [("type", .string "owner"), ("related_to_user", .number (.integer 2))])
    |>.relation (.string "OR")

/-- What is found for post 25. -/
def basicTo25 : Resolved := ⟨1, "basic", ⟨"wp_post_to_post", "id1", "id2"⟩, .number "25"⟩

/-- What is found for user 2. -/
def ownedBy2 : Resolved := ⟨2, "owner", ⟨"wp_post_to_user", "post_id", "user_id"⟩, .number "2"⟩

namespace Query

/-- Linked to post 25 and owned by user 2. -/
theorem rows_of_all_filter_basic_and_owner :
    let q := compile Registry.sample.catalog .default
      (Specification.basicOrOwner.relation (.string "and"))
    Base.default.Plain ∧ q.relation = .all ∧ q.resolved.length = 2 ∧
      ∃ selection, readSelection (q.statement .default) = some selection ∧ selection.WellScoped ∧
        ∀ (V : Values) (db : Database V),
          (∀ row, row ∈ selection.rows db ↔
            row ∈ db "wp_posts" ∧ ∀ r ∈ q.resolved, r.Finds db .default row) ∧
          (q.resolved = [] → selection.rows db = db "wp_posts") := by
  have hbase : Base.default.Plain := ⟨by decide, by decide⟩
  have hrelation : (compile Registry.sample.catalog .default
      (Specification.basicOrOwner.relation (.string "and"))).relation = .all := by decide +kernel
  exact ⟨hbase, hrelation, by decide +kernel,
    rows_of_all_filter Registry.sample hbase _ hrelation⟩

/-- An `OR` filter selects the rows that are linked to something its resolved
    segments ask for, as long as they have links in the tables of all of them.
    So it selects what it asks for, whatever the database is, exactly if no
    segment that can find anything keeps its links in another table than the
    rest. -/
theorem rows_of_any_filter (registry : Registry) {base : Base} (hbase : base.Plain)
    (s : Specification) (hrelation : (compile registry.catalog base s).relation = .any)
    (hne : (compile registry.catalog base s).resolved ≠ []) :
    let q := compile registry.catalog base s
    ∃ selection, readSelection (q.statement base) = some selection ∧ selection.WellScoped ∧
      (∀ (V : Values) (db : Database V) (row : Row V), row ∈ selection.rows db ↔
        row ∈ db base.table ∧ (∀ r ∈ q.resolved, ∃ link, r.Links db base row link) ∧
          ∃ r ∈ q.resolved, r.Finds db base row) ∧
      ((∀ r ∈ q.resolved, r.columns.table ≠ base.table) →
        ((∀ (V : Values) (db : Database V) (row : Row V), row ∈ selection.rows db ↔
            row ∈ db base.table ∧ ∃ r ∈ q.resolved, r.Finds db base row) ↔
          ∀ r ∈ q.resolved, ∀ r' ∈ q.resolved, r.target ≠ .null → r'.columns = r.columns)) := by
  intro q
  obtain ⟨hread, hscope⟩ := readSelection_compile registry hbase s
  have hrows : ∀ (V : Values) (db : Database V) (row : Row V),
      row ∈ (selection base q.relation q.resolved).rows db ↔
        row ∈ db base.table ∧ (∀ r ∈ q.resolved, ∃ link, r.Links db base row link) ∧
          ∃ r ∈ q.resolved, r.Finds db base row := by
    intro V db row
    rw [hrelation]
    exact mem_rows_any (nodup_tableAlias_compile registry.catalog base s) hne
  refine ⟨_, hread, hscope, hrows, fun hapart => ⟨fun hall r hr r' hr' htarget => ?_, ?_⟩⟩
  · have hkept : ∀ r ∈ q.resolved, r.Kept registry.tablePrefix := by
      simp only [q, compile_eq, ofResolved]
      exact fun _ => kept_of_mem_resolvedOf
    -- two tables: the row with a link in the one only is asked for and lost
    by_contra hcolumns
    have htables : r'.columns.table ≠ r.columns.table := fun htable =>
      hcolumns ((hkept r' hr').columns_eq (hkept r hr) htable)
    have hselected := (hall .literals (onlyLink base r) fun _ => Literal.number "1").mpr
      ⟨mem_onlyLink base r, r, hr, finds_onlyLink (hkept r hr) htarget (hapart r hr)⟩
    obtain ⟨link, hlink⟩ := ((hrows _ _ _).mp hselected).2.1 r' hr'
    exact not_links_onlyLink htables (hapart r' hr') hlink
  · -- one table: the link that one segment finds is a link for all of them
    intro hsame V db row
    rw [hrows]
    refine and_congr_right fun _ => and_iff_right_of_imp ?_
    rintro ⟨r, hr, link, hlinks, hmatches⟩ r' hr'
    have htarget : r.target ≠ .null := fun hnull =>
      Resolved.not_matches_of_target_null hnull link hmatches
    refine ⟨link, ?_⟩
    rw [Resolved.Links, hsame r hr r' hr' htarget]
    exact hlinks

/-- Linked to post 25 or owned by user 2: what is selected needs an owner. -/
theorem rows_of_any_filter_basic_or_owner :
    let q := compile Registry.sample.catalog .default .basicOrOwner
    Base.default.Plain ∧ q.relation = .any ∧ q.resolved ≠ [] ∧
      ∃ selection, readSelection (q.statement .default) = some selection ∧ selection.WellScoped ∧
        (∀ (V : Values) (db : Database V) (row : Row V), row ∈ selection.rows db ↔
          row ∈ db "wp_posts" ∧ (∀ r ∈ q.resolved, ∃ link, r.Links db .default row link) ∧
            ∃ r ∈ q.resolved, r.Finds db .default row) := by
  have hbase : Base.default.Plain := ⟨by decide, by decide⟩
  have hrelation : (compile Registry.sample.catalog .default .basicOrOwner).relation = .any := by
    decide +kernel
  have hne : (compile Registry.sample.catalog .default .basicOrOwner).resolved ≠ [] := by
    decide +kernel
  obtain ⟨selection, hread, hscope, hrows, -⟩ :=
    rows_of_any_filter Registry.sample hbase .basicOrOwner hrelation hne
  exact ⟨hbase, hrelation, hne, selection, hread, hscope, hrows⟩

/-- Under two definitions, a post that is linked to post 25, but has no owner, is
    not selected. -/
theorem any_filter_loses_row :
    let q := compile Registry.sample.catalog .default .basicOrOwner
    let db := onlyLink .default basicTo25
    let post : Row .literals := fun _ => Literal.number "1"
    ((Registry.default.define (.postToPost "post" "post" "basic")).bind fun (_, registry) =>
        registry.define (.postToUser "post" "owner"))
      = .ok (⟨.postToUser "post" "owner", "wp_"⟩, .sample) ∧
      q.relation = .any ∧ basicTo25 ∈ q.resolved ∧ post ∈ db "wp_posts" ∧
      basicTo25.Finds db .default post ∧
      ∃ selection, readSelection (q.statement .default) = some selection ∧
        post ∉ selection.rows db := by
  intro q db post
  have hbase : Base.default.Plain := ⟨by decide, by decide⟩
  have hrelation : q.relation = .any := by decide +kernel
  have hresolved : q.resolved = [basicTo25, ownedBy2] := by decide +kernel
  have hbasic : basicTo25 ∈ q.resolved := by simp [hresolved]
  have howner : ownedBy2 ∈ q.resolved := by simp [hresolved]
  have hkept : basicTo25.Kept "wp_" := ⟨by decide, by decide, by decide, .postToPost, by decide⟩
  have hselected : post ∈ (selection .default .any q.resolved).rows db ↔ _ :=
    mem_rows_any (nodup_tableAlias_compile _ _ _) (List.ne_nil_of_mem hbasic)
  obtain ⟨hread, -⟩ := readSelection_compile Registry.sample hbase .basicOrOwner
  refine ⟨rfl, hrelation, hbasic, mem_onlyLink .default basicTo25,
    finds_onlyLink hkept (by decide) (by decide), _, hread, fun hmem => ?_⟩
  change post ∈ (selection .default q.relation q.resolved).rows db at hmem
  rw [hrelation] at hmem
  obtain ⟨link, hlink⟩ := (hselected.mp hmem).2.1 ownedBy2 howner
  exact not_links_onlyLink (by decide) (by decide) hlink

end Query

end RelatedFilter
