/-
  RelatedFilter.Proofs.Query.Fragment

  The fragments of a compiled filter, read as SQL.  Each fragment is put
  together from pieces that are tidy, so the lexer gives back its tokens, and
  the tokens are read as the joins and the condition of the resolved segments.
  Nothing of this depends on the content of a type or of a text: each of them is
  one token.
-/
import RelatedFilter.Proofs.Query.Resolution
import RelatedFilter.Proofs.Sql.Literal
import RelatedFilter.Registry

namespace RelatedFilter

open Sql

/-! ## Fragments in pieces -/

namespace Resolved

def joinPieces (base : Base) (r : Resolved) : List Piece :=
  [.blank, .word "inner", .blank, .word "join", .blank, .word r.columns.table, .blank,
    .word "as", .blank, .word r.tableAlias, .blank, .word "on", .blank, .word base.table,
    .mark '.', .word base.key, .blank, .mark '=', .blank, .word r.tableAlias, .mark '.',
    .word r.columns.baseColumn]

def predicatePieces (r : Resolved) : List Piece :=
  [.mark '(', .word r.tableAlias, .mark '.', .word r.columns.targetColumn, .blank, .mark '=',
    .blank, .token r.target.token, .blank, .word "and", .blank, .word r.tableAlias, .mark '.',
    .word "type", .blank, .mark '=', .blank, .token (.text r.typeName), .mark ')']

theorem toList_joinSql (base : Base) (r : Resolved) :
    (" " ++ r.joinSql base).toList = spell (r.joinPieces base) := by
  unfold joinSql joinPieces
  simp

theorem toList_predicateSql (r : Resolved) :
    r.predicateSql.toList = spell r.predicatePieces := by
  unfold predicateSql predicatePieces
  simp [Literal.chars_token]

end Resolved

/-- The pieces of the join fragment. -/
def joinPieces (base : Base) (resolved : List Resolved) : List Piece :=
  resolved.flatMap (Resolved.joinPieces base)

/-- A predicate with the connective in front of it. -/
def connectedPieces (relation : Relation) (r : Resolved) : List Piece :=
  [.blank, .word relation.text, .blank] ++ r.predicatePieces

/-- The pieces of the where fragment. -/
def wherePieces (relation : Relation) : List Resolved → List Piece
  | [] => []
  | r :: rest =>
    [.blank, .word "and", .blank, .mark '('] ++ r.predicatePieces
      ++ rest.flatMap (connectedPieces relation) ++ [.mark ')']

theorem toList_joinFragment (base : Base) (resolved : List Resolved) :
    (joinFragment base resolved).toList = spell (joinPieces base resolved) := by
  induction resolved with
  | nil => rfl
  | cons r rest ih =>
    have hcons : joinFragment base (r :: rest)
        = (" " ++ r.joinSql base) ++ joinFragment base rest := by
      rw [← String.toList_inj]
      simp [joinFragment]
    rw [hcons, String.toList_append, ih, Resolved.toList_joinSql]
    simp only [joinPieces, List.flatMap_cons, spell_append]

/-- A separator stands in front of each text but the first. -/
private theorem intercalate_cons {α : Type} (separator first : List α) (rest : List (List α)) :
    separator.intercalate (first :: rest) = first ++ rest.flatMap (separator ++ ·) := by
  induction rest generalizing first with
  | nil => simp
  | cons second rest ih =>
    rw [List.intercalate_cons_cons, ih, List.flatMap_cons]
    simp only [List.append_assoc]

theorem toList_whereFragment (relation : Relation) (resolved : List Resolved) :
    (whereFragment relation resolved).toList = spell (wherePieces relation resolved) := by
  cases resolved with
  | nil => rfl
  | cons r rest =>
    have hrest : (rest.map (·.predicateSql.toList)).flatMap
          ((" " ++ relation.text ++ " ").toList ++ ·)
        = spell (rest.flatMap (connectedPieces relation)) := by
      induction rest with
      | nil => rfl
      | cons r rest ih =>
        rw [List.map_cons, List.flatMap_cons, ih, List.flatMap_cons, spell_append,
          Resolved.toList_predicateSql]
        simp [connectedPieces]
    have hwhere : (whereFragment relation (r :: rest)).toList
        = " and (".toList ++ (r.predicateSql.toList ++ (rest.map (·.predicateSql.toList)).flatMap
            ((" " ++ relation.text ++ " ").toList ++ ·)) ++ [')'] := by
      unfold whereFragment
      simp [String.toList_intercalate, intercalate_cons, Function.comp_def]
    rw [hwhere, hrest, Resolved.toList_predicateSql]
    simp [wherePieces]

/-! ## Plain names -/

/-- A resolved segment whose names can stand bare. -/
structure Resolved.Plain (r : Resolved) : Prop where
  table : IsBareName r.columns.table.toList
  baseColumn : isIdentifier r.columns.baseColumn = true
  targetColumn : isIdentifier r.columns.targetColumn = true
  target : r.target.token.Plain

/-- A base whose names can stand bare. -/
structure Base.Plain (base : Base) : Prop where
  table : isIdentifier base.table = true
  key : isIdentifier base.key = true

/-- A table name that starts with a plain prefix can stand bare: the letters
    behind the prefix are in no numeral. -/
theorem Schema.isBareName_table (schema : Schema) (h : isTablePrefix schema.tablePrefix = true) :
    IsBareName schema.table.toList := by
  have hkind : schema.kind.name.toList.all isNameChar = true
      ∧ schema.kind.name.toList.all isNumeralChar = false ∧ schema.kind.name.toList ≠ [] := by
    cases schema.kind <;> decide
  obtain ⟨hplain, hnumeral, hne⟩ := hkind
  refine ⟨?_, ?_, Or.inr ?_⟩
  · simpa [Schema.table] using fun _ => hne
  · simp only [Schema.table, String.toList_append, List.all_append, Bool.and_eq_true]
    exact ⟨h, hplain⟩
  · simp only [Schema.table, String.toList_append, List.all_append, hnumeral, Bool.and_false]

theorem Schema.isIdentifier_columns (schema : Schema) :
    isIdentifier schema.columns.baseColumn = true
      ∧ isIdentifier schema.columns.targetColumn = true := by
  simp only [Schema.columns]
  cases schema.kind <;> decide

/-- What a registry answers is where it keeps one of its relationships. -/
theorem Registry.columns_of_catalog {registry : Registry} {request : Request} {columns : Columns}
    (h : registry.catalog request = some columns) :
    ∃ r : Relationship, columns = (registry.schema r).columns := by
  simp only [Registry.catalog, Registry.lookup, Registry.get?, Option.map_map,
    Option.map_eq_some_iff] at h
  obtain ⟨r, -, rfl⟩ := h
  exact ⟨r, rfl⟩

/-- A resolved segment has the answer to a request for its columns, and a literal
    for its target. -/
theorem mem_resolvedOf {catalog : Catalog} {baseKind : String} {s : Specification} {r : Resolved}
    (h : r ∈ resolvedOf catalog baseKind s) :
    (∃ request, catalog request = some r.columns) ∧ ∃ id, r.target = Literal.ofJson id := by
  simp only [resolvedOf, List.mem_map] at h
  obtain ⟨⟨⟨q, columns⟩, place⟩, hmem, rfl⟩ := h
  obtain ⟨-, -, hmem⟩ := List.mem_zipIdx hmem
  have hfound : (q, columns) ∈ answered catalog (questions baseKind s.normalize.segments) :=
    hmem ▸ List.getElem_mem _
  simp only [answered, List.mem_filterMap, Option.map_eq_some_iff] at hfound
  obtain ⟨q', -, columns', hcatalog, heq⟩ := hfound
  cases heq
  exact ⟨⟨q.request, hcatalog⟩, q.targetId, rfl⟩

theorem plain_of_mem_resolvedOf {registry : Registry} {baseKind : String} {s : Specification}
    {r : Resolved} (h : r ∈ resolvedOf registry.catalog baseKind s) : r.Plain := by
  obtain ⟨⟨request, hanswer⟩, id, htarget⟩ := mem_resolvedOf h
  obtain ⟨relationship, hcolumns⟩ := Registry.columns_of_catalog hanswer
  obtain ⟨hbase, hcolumn⟩ := (registry.schema relationship).isIdentifier_columns
  refine ⟨?_, ?_, ?_, ?_⟩
  · rw [hcolumns]
    exact (registry.schema relationship).isBareName_table registry.prefix_plain
  · rw [hcolumns]
    exact hbase
  · rw [hcolumns]
    exact hcolumn
  · rw [htarget]
    exact Literal.plain_token_ofJson id

/-! ## The fragments are tidy -/

theorem Resolved.isIdentifier_tableAlias (r : Resolved) : isIdentifier r.tableAlias = true := by
  have hdigits : (toString r.aliasIndex).toList.all isNameChar = true := by
    rw [List.all_eq_true]
    intro c hc
    simp [isNameChar, Char.isAlphanum, isDigit_of_mem_repr hc]
  have hchars : r.tableAlias.toList = 'p' :: '2' :: 'p' :: (toString r.aliasIndex).toList := by
    simp [tableAlias, aliasStem]
  rw [isIdentifier, hchars]
  simpa using ⟨by decide, by decide, by decide, by simpa using hdigits⟩

section
variable {base : Base} {resolved : List Resolved} {after : List Piece}

theorem tidy_joinPieces (hbase : base.Plain) (hplain : ∀ r ∈ resolved, r.Plain)
    (hafter : Tidy after) (hapart : Apart after) :
    Tidy (joinPieces base resolved ++ after) ∧ Apart (joinPieces base resolved ++ after) := by
  induction resolved with
  | nil => exact ⟨hafter, hapart⟩
  | cons r rest ih =>
    obtain ⟨htidy, hapart⟩ := ih fun r hr => hplain r (List.mem_cons_of_mem _ hr)
    have hr := hplain r List.mem_cons_self
    have hcons : joinPieces base (r :: rest) ++ after
        = r.joinPieces base ++ (joinPieces base rest ++ after) := by
      simp only [joinPieces, List.flatMap_cons, List.append_assoc]
    rw [hcons]
    refine ⟨?_, apart_blank _⟩
    have hlast := tidy_token_of_apart (plain_word_of_isIdentifier hr.baseColumn) htidy hapart
    simp only [Resolved.joinPieces, List.cons_append, List.nil_append, tidy_blank,
      tidy_token_blank, tidy_word_point hbase.table, tidy_word_point r.isIdentifier_tableAlias]
    refine ⟨plain_word_of_isIdentifier (by decide), plain_word_of_isIdentifier (by decide),
      hr.table, plain_word_of_isIdentifier (by decide),
      plain_word_of_isIdentifier r.isIdentifier_tableAlias,
      plain_word_of_isIdentifier (by decide), plain_word_of_isIdentifier hbase.key, rfl, hlast⟩

theorem tidy_predicatePieces {r : Resolved} (hr : r.Plain) (hafter : Tidy after) :
    Tidy (r.predicatePieces ++ after) := by
  simp only [Resolved.predicatePieces, List.cons_append, List.nil_append, tidy_mark,
    tidy_token_blank, tidy_token_bracket, tidy_word_point r.isIdentifier_tableAlias]
  exact ⟨rfl, plain_word_of_isIdentifier hr.targetColumn, rfl, hr.target,
    plain_word_of_isIdentifier (by decide), plain_word_of_isIdentifier (by decide), rfl,
    trivial, hafter⟩

theorem isIdentifier_text (relation : Relation) : isIdentifier relation.text = true := by
  cases relation <;> decide

theorem tidy_wherePieces (relation : Relation) (hplain : ∀ r ∈ resolved, r.Plain) :
    Tidy (wherePieces relation resolved) := by
  cases resolved with
  | nil => trivial
  | cons r rest =>
    have hrest : ∀ rest : List Resolved, (∀ r ∈ rest, r.Plain) →
        Tidy (rest.flatMap (connectedPieces relation) ++ [.mark ')']) := by
      intro rest hplain
      induction rest with
      | nil => exact tidy_mark.mpr ⟨rfl, trivial⟩
      | cons r rest ih =>
        simp only [List.flatMap_cons, connectedPieces, List.append_assoc, List.cons_append,
          List.nil_append, tidy_blank, tidy_token_blank]
        exact ⟨plain_word_of_isIdentifier (isIdentifier_text relation),
          tidy_predicatePieces (hplain r List.mem_cons_self)
            (ih fun r hr => hplain r (List.mem_cons_of_mem _ hr))⟩
    simp only [wherePieces, List.append_assoc, List.cons_append, List.nil_append, tidy_blank,
      tidy_token_blank, tidy_mark]
    exact ⟨plain_word_of_isIdentifier (by decide), by decide,
      tidy_predicatePieces (hplain r List.mem_cons_self)
        (hrest rest fun r hr => hplain r (List.mem_cons_of_mem _ hr))⟩

end

/-! ## What the tokens are read as -/

namespace Resolved

/-- The join of a resolved segment. -/
def toJoin (base : Base) (r : Resolved) : Join :=
  ⟨r.columns.table, r.tableAlias, ⟨base.table, base.key⟩, r.columns.baseColumn⟩

/-- The predicate of a resolved segment. -/
def toPredicate (r : Resolved) : Predicate :=
  ⟨r.tableAlias, r.columns.targetColumn, r.target, r.typeName⟩

/-- The condition of a resolved segment. -/
def condition (r : Resolved) : Condition :=
  .both (.equals ⟨r.tableAlias, r.columns.targetColumn⟩ r.target)
    (.equals ⟨r.tableAlias, "type"⟩ (.text r.typeName))

end Resolved

/-- The condition of the resolved segments behind others. -/
def connectAll (relation : Relation) (first : Condition) (resolved : List Resolved) : Condition :=
  resolved.foldl (fun c r => c.connect relation r.condition) first

theorem readCondition_predicate (r : Resolved) (frame : Frame) (outer : List Frame)
    (after : List Token) :
    readCondition none frame outer (tokens r.predicatePieces ++ after)
      = readCondition (some r.condition) frame outer after := by
  have hand : isKeyword "and" "and" = true := by decide
  have htext : (Token.text r.typeName).literal? = some (.text r.typeName) := rfl
  simp [Resolved.predicatePieces, readCondition, Literal.literal?_token, htext, hand,
    Frame.behindAnd, Frame.empty, Frame.close, Frame.conjoin, Resolved.condition]

/-- In front of an operand, with conditions and connectives of one kind before it. -/
def Sql.Frame.behind (relation : Relation) (before : Option Condition) : Frame :=
  match relation with
  | .all => ⟨none, before⟩
  | .any => ⟨before, none⟩

/-- A connective takes in the operand in front of it. -/
theorem readCondition_connective (relation : Relation) (operand : Condition)
    (before : Option Condition) (outer : List Frame) (after : List Token) :
    readCondition (some operand) (.behind relation before) outer (.word relation.text :: after)
      = readCondition none (.behind relation (some ((Frame.behind relation before).close operand)))
          outer after := by
  cases relation with
  | all =>
    have hand : isKeyword "and" "AND" = true := by decide
    cases before <;> simp [readCondition, hand, Relation.text, Frame.behind, Frame.behindAnd,
      Frame.close]
  | any =>
    have hand : isKeyword "and" "OR" = false := by decide
    have hor : isKeyword "or" "OR" = true := by decide
    cases before <;> simp [readCondition, hand, hor, Relation.text, Frame.behind, Frame.behindOr]

theorem close_behind (relation : Relation) (before operand : Condition) :
    (Frame.behind relation (some before)).close operand = before.connect relation operand := by
  cases relation <;> rfl

/-- Predicates behind others are read up to the bracket that closes them all. -/
theorem readCondition_connectedPieces (relation : Relation) (resolved : List Resolved)
    (operand : Condition) (before : Option Condition) (next : Frame) (outer : List Frame)
    (after : List Token) :
    readCondition (some operand) (.behind relation before) (next :: outer)
        (tokens (resolved.flatMap (connectedPieces relation)) ++ .mark ')' :: after)
      = readCondition
          (some (connectAll relation ((Frame.behind relation before).close operand) resolved))
          next outer after := by
  -- what was read grows with each predicate: the induction is over any operand in front
  induction resolved generalizing operand before with
  | nil => simp [readCondition, connectAll]
  | cons r rest ih =>
    have htokens : tokens ((r :: rest).flatMap (connectedPieces relation)) ++ .mark ')' :: after
        = .word relation.text :: (tokens r.predicatePieces
            ++ (tokens (rest.flatMap (connectedPieces relation)) ++ .mark ')' :: after)) := by
      simp [connectedPieces]
    rw [htokens, readCondition_connective, readCondition_predicate, ih, close_behind]
    rfl

/-- The tokens of a where fragment behind its `and`. -/
def bracketTokens (relation : Relation) (r : Resolved) (rest : List Resolved) : List Token :=
  .mark '(' :: (tokens r.predicatePieces
    ++ (tokens (rest.flatMap (connectedPieces relation)) ++ [.mark ')']))

theorem tokens_wherePieces (relation : Relation) (r : Resolved) (rest : List Resolved) :
    tokens (wherePieces relation (r :: rest)) = .word "and" :: bracketTokens relation r rest := by
  simp [wherePieces, bracketTokens]

theorem readCondition_bracketTokens (relation : Relation) (r : Resolved) (rest : List Resolved)
    (frame : Frame) :
    readCondition none frame [] (bracketTokens relation r rest)
      = some (frame.close (connectAll relation r.condition rest)) := by
  have hopen : readCondition none frame [] (bracketTokens relation r rest)
      = readCondition none (.behind relation none) [frame] (tokens r.predicatePieces
          ++ (tokens (rest.flatMap (connectedPieces relation)) ++ [.mark ')'])) := by
    have hempty : Frame.empty = .behind relation none := by cases relation <;> rfl
    simp [bracketTokens, readCondition, hempty]
  have hfirst : (Frame.behind relation none).close r.condition = r.condition := by
    cases relation <;> rfl
  rw [hopen, readCondition_predicate, readCondition_connectedPieces, hfirst, readCondition]

/-- One more predicate behind a filter. -/
theorem filter?_connect {relation : Relation} {c : Condition} {f : Filter} (r : Resolved)
    (hc : c.filter? = some f) :
    (c.connect relation r.condition).filter? = f.add relation r.toPredicate := by
  have hpredicate : r.condition.predicate? = some r.toPredicate := by
    simp [Resolved.condition, Condition.predicate?, Resolved.toPredicate]
  cases relation with
  | all =>
    -- a conjunction that ends in a predicate is no predicate itself
    have hnone : (Condition.both c r.condition).predicate? = none := by cases c <;> rfl
    simp [Condition.connect, Condition.filter?, hnone, hc, hpredicate]
  | any => simp [Condition.connect, Condition.filter?, hc, hpredicate]

theorem filter?_connectAll {relation : Relation} {c : Condition} {f : Filter}
    (resolved : List Resolved) (hc : c.filter? = some f)
    (hf : f.connective = none ∨ f.connective = some relation) :
    (connectAll relation c resolved).filter?
      = some ⟨if resolved = [] then f.connective else some relation,
          f.predicates ++ resolved.map Resolved.toPredicate⟩ := by
  induction resolved generalizing c f with
  | nil => simp [connectAll, hc]
  | cons r rest ih =>
    have hnext : (c.connect relation r.condition).filter?
        = some ⟨some relation, f.predicates ++ [r.toPredicate]⟩ := by
      rw [filter?_connect r hc, Filter.add, if_pos hf]
    have hrest := ih hnext (Or.inr rfl)
    simp only [connectAll, List.foldl_cons] at hrest ⊢
    rw [hrest]
    simp

/-- The fragment of a filter is read as its predicates, in order. -/
theorem readFilterFragment_whereFragment (relation : Relation) {resolved : List Resolved}
    (hplain : ∀ r ∈ resolved, r.Plain) :
    readFilterFragment (whereFragment relation resolved)
      = some ⟨if 2 ≤ resolved.length then some relation else none,
          resolved.map Resolved.toPredicate⟩ := by
  have hlex := lex_pieces (toList_whereFragment relation resolved)
    (tidy_wherePieces relation hplain)
  cases resolved with
  | nil => rw [readFilterFragment, hlex]; rfl
  | cons r rest =>
    have hand : isKeyword "and" "and" = true := by decide
    have hfirst : r.condition.filter? = some ⟨none, [r.toPredicate]⟩ := by
      simp [Resolved.condition, Condition.filter?, Condition.predicate?, Resolved.toPredicate]
    rw [tokens_wherePieces] at hlex
    have hclose : ∀ c : Condition, Frame.empty.close c = c := fun _ => rfl
    simp only [readFilterFragment, hlex, hand, if_true, readCondition_bracketTokens, hclose,
      Option.bind_some, filter?_connectAll rest hfirst (Or.inl rfl)]
    cases rest <;> simp

/-- The tokens of a join are read as the join. -/
theorem readJoins_joinPieces (base : Base) (resolved : List Resolved) (after : List Token)
    (hafter : readJoins after = ([], after)) :
    readJoins (tokens (joinPieces base resolved) ++ after)
      = (resolved.map (Resolved.toJoin base), after) := by
  have hwords : isKeyword "inner" "inner" = true ∧ isKeyword "join" "join" = true
      ∧ isKeyword "as" "as" = true ∧ isKeyword "on" "on" = true := by decide
  induction resolved with
  | nil => exact hafter
  | cons r rest ih =>
    have htokens : tokens (joinPieces base (r :: rest)) ++ after
        = tokens (r.joinPieces base) ++ (tokens (joinPieces base rest) ++ after) := by
      simp [joinPieces]
    rw [htokens]
    simp [Resolved.joinPieces, readJoins, hwords, ih, Resolved.toJoin]

theorem readJoinFragment_joinFragment {base : Base} {resolved : List Resolved}
    (hbase : base.Plain) (hplain : ∀ r ∈ resolved, r.Plain) :
    readJoinFragment (joinFragment base resolved) = some (resolved.map (Resolved.toJoin base)) := by
  have hend : Tidy [] ∧ Apart [] := ⟨trivial, by simp [Apart]⟩
  have htidy := (tidy_joinPieces hbase hplain hend.1 hend.2).1
  rw [List.append_nil] at htidy
  have hread := readJoins_joinPieces base resolved [] rfl
  rw [List.append_nil] at hread
  rw [readJoinFragment, lex_pieces (toList_joinFragment base resolved) htidy, Option.map_some,
    hread]

/-! ## Contents -/

namespace Resolved

/-- The segment without the content of its type and of its target. -/
def erased (r : Resolved) : Resolved :=
  { r with typeName := "", target := r.target.erased }

theorem shape_predicatePieces (r : Resolved) :
    (tokens r.predicatePieces).map Token.shape = tokens r.erased.predicatePieces := by
  have htarget : r.target.token.shape = r.target.erased.token := by cases r.target <;> rfl
  simp [predicatePieces, htarget, erased, tableAlias]

end Resolved

/-- Contents apart, the tokens of a fragment are the same for all types and texts. -/
theorem shape_wherePieces (relation : Relation) (resolved : List Resolved) :
    (tokens (wherePieces relation resolved)).map Token.shape
      = tokens (wherePieces relation (resolved.map Resolved.erased)) := by
  have hrest : ∀ rest : List Resolved,
      (tokens (rest.flatMap (connectedPieces relation))).map Token.shape
        = tokens ((rest.map Resolved.erased).flatMap (connectedPieces relation)) := by
    intro rest
    induction rest with
    | nil => rfl
    | cons r rest ih =>
      have hr : (tokens (connectedPieces relation r)).map Token.shape
          = tokens (connectedPieces relation r.erased) := by
        simp [connectedPieces, Resolved.shape_predicatePieces]
      rw [List.flatMap_cons, tokens_append, List.map_append, hr, ih, List.map_cons,
        List.flatMap_cons, tokens_append]
  cases resolved with
  | nil => rfl
  | cons r rest =>
    simp [tokens_wherePieces, bracketTokens, Resolved.shape_predicatePieces, hrest]

/-! ## Reading compiled filters -/

namespace Resolved

/-- Different places give different names. -/
theorem aliasOf_injective : Function.Injective fun place : Nat => aliasStem ++ toString place := by
  intro m n h
  have hdigits : (toString m).toList = (toString n).toList :=
    congrArg String.toList ((String.append_right_inj aliasStem).mp h)
  simp only [Nat.toString_eq_repr, Nat.toList_repr] at hdigits
  rw [← Nat.ofDigitChars_ten_toDigits (n := m), hdigits, Nat.ofDigitChars_ten_toDigits]

/-- Join and predicate hold all that is known of a segment. -/
theorem eq_of_toJoin_of_toPredicate {base base' : Base} {r r' : Resolved}
    (hjoin : r.toJoin base = r'.toJoin base') (hpredicate : r.toPredicate = r'.toPredicate) :
    r = r' := by
  obtain ⟨place, typeName, ⟨table, baseColumn, targetColumn⟩, target⟩ := r
  obtain ⟨place', typeName', ⟨table', baseColumn', targetColumn'⟩, target'⟩ := r'
  simp only [toJoin, toPredicate, Join.mk.injEq, Predicate.mk.injEq] at hjoin hpredicate
  obtain ⟨rfl, -, -, rfl⟩ := hjoin
  obtain ⟨halias, rfl, rfl, rfl⟩ := hpredicate
  obtain rfl := aliasOf_injective halias
  rfl

end Resolved

namespace Query

/-- What the where fragment says: the predicates of the resolved segments, whose
    places name the joined tables, and how they are combined if there are two. -/
def filter (q : Query) : Filter :=
  ⟨if 2 ≤ q.resolved.length then some q.relation else none,
    (q.resolved.zipIdx 1).map fun (r, i) =>
      ⟨"p2p" ++ toString i, r.columns.targetColumn, r.target, r.typeName⟩⟩

/-- What the join fragment says: a join for each resolved segment. -/
def joins (base : Base) (q : Query) : List Join :=
  (q.resolved.zipIdx 1).map fun (r, i) =>
    ⟨r.columns.table, "p2p" ++ toString i, ⟨base.table, base.key⟩, r.columns.baseColumn⟩

theorem filter_compile (catalog : Catalog) (base : Base) (s : Specification) :
    (compile catalog base s).filter =
      ⟨if 2 ≤ (resolvedOf catalog base.kind s).length then some s.normalize.relation else none,
        (resolvedOf catalog base.kind s).map Resolved.toPredicate⟩ := by
  have hplaces := map_resolvedOf_eq
    (fun r i => Predicate.mk ("p2p" ++ toString i) r.columns.targetColumn r.target r.typeName)
    catalog base.kind s
  rw [compile_eq]
  simp only [filter, ofResolved, ← hplaces]
  rfl

theorem joins_compile (catalog : Catalog) (base : Base) (s : Specification) :
    (compile catalog base s).joins base
      = (resolvedOf catalog base.kind s).map (Resolved.toJoin base) := by
  have hplaces := map_resolvedOf_eq
    (fun r i => Join.mk r.columns.table ("p2p" ++ toString i) ⟨base.table, base.key⟩
      r.columns.baseColumn)
    catalog base.kind s
  rw [compile_eq]
  simp only [joins, ofResolved, ← hplaces]
  rfl

/-- Both fragments of a filter are read as what was compiled. -/
structure ReadBack (base : Base) (q : Query) : Prop where
  filter : readFilterFragment q.predicate = some q.filter
  joins : readJoinFragment q.join = some (q.joins base)

/-- Nothing that two filters say in their fragments can be mistaken for anything
    else. -/
structure ToldApart (base base' : Base) (q q' : Query) : Prop where
  filter : q.predicate = q'.predicate → q.filter = q'.filter
  joins : q.join = q'.join → q.joins base = q'.joins base'
  /-- The connective can be told where it stands. -/
  relation : q.predicate = q'.predicate → 2 ≤ q.resolved.length → q.relation = q'.relation
  resolved : q.predicate = q'.predicate → q.join = q'.join → q.resolved = q'.resolved
  base : q.join = q'.join → q.resolved ≠ [] → base.table = base'.table ∧ base.key = base'.key
  /-- The tokens follow from what is no content of a type, a text or a number. -/
  shape : q.relation = q'.relation →
    q.resolved.map Resolved.erased = q'.resolved.map Resolved.erased →
    ∃ read read', lex q.predicate = some read ∧ lex q'.predicate = some read' ∧
      read.map Token.shape = read'.map Token.shape

theorem readBack_compile (registry : Registry) {base : Base} (hbase : base.Plain)
    (s : Specification) : (compile registry.catalog base s).ReadBack base := by
  have hplain : ∀ r ∈ resolvedOf registry.catalog base.kind s, r.Plain := fun _ =>
    plain_of_mem_resolvedOf
  refine ⟨?_, ?_⟩
  · rw [filter_compile, compile_eq]
    exact readFilterFragment_whereFragment _ hplain
  · rw [joins_compile, compile_eq]
    exact readJoinFragment_joinFragment hbase hplain

theorem lex_predicate_compile (registry : Registry) (base : Base) (s : Specification) :
    let q := compile registry.catalog base s
    lex q.predicate = some (tokens (wherePieces q.relation q.resolved)) := by
  rw [compile_eq]
  exact lex_pieces (toList_whereFragment _ _)
    (tidy_wherePieces _ fun _ => plain_of_mem_resolvedOf)

/-- Segments with the same joins and predicates are the same. -/
theorem eq_of_map_toJoin_of_map_toPredicate {base base' : Base} {resolved resolved' : List Resolved}
    (hjoins : resolved.map (Resolved.toJoin base) = resolved'.map (Resolved.toJoin base'))
    (hpredicates : resolved.map Resolved.toPredicate = resolved'.map Resolved.toPredicate) :
    resolved = resolved' := by
  induction resolved generalizing resolved' with
  | nil => exact (List.map_eq_nil_iff.mp hjoins.symm).symm
  | cons r rest ih =>
    cases resolved' with
    | nil => simp at hjoins
    | cons r' rest' =>
      simp only [List.map_cons, List.cons.injEq] at hjoins hpredicates
      rw [Resolved.eq_of_toJoin_of_toPredicate hjoins.1 hpredicates.1,
        ih hjoins.2 hpredicates.2]

/-- The fragments of a filter are read back as what they were compiled from, and
    filters whose fragments are the same were compiled alike.  A registry lets
    only plain names through, however it came about, so all that is needed is
    that the names of the base are plain. -/
theorem fragments_read_back (registry registry' : Registry) {base base' : Base}
    (hbase : base.Plain) (hbase' : base'.Plain) (s s' : Specification) :
    let q := compile registry.catalog base s
    let q' := compile registry'.catalog base' s'
    q.ReadBack base ∧ ToldApart base base' q q' := by
  intro q q'
  have hread : q.ReadBack base := readBack_compile registry hbase s
  have hread' : q'.ReadBack base' := readBack_compile registry' hbase' s'
  -- equal texts are read alike, so what was compiled into them is equal
  have hfilter : q.predicate = q'.predicate → q.filter = q'.filter := fun h =>
    Option.some.inj (hread.filter.symm.trans (h ▸ hread'.filter))
  have hjoins : q.join = q'.join → q.joins base = q'.joins base' := fun h =>
    Option.some.inj (hread.joins.symm.trans (h ▸ hread'.joins))
  refine ⟨hread, hfilter, hjoins, ?relation, ?resolved, ?base, ?shape⟩
  case relation =>
    intro hpredicate hmany
    have hcount : q.resolved.length = q'.resolved.length := by
      simpa [filter] using congrArg (·.predicates.length) (hfilter hpredicate)
    have hconnective := congrArg Filter.connective (hfilter hpredicate)
    simpa [filter, ← hcount, hmany] using hconnective
  case resolved =>
    intro hpredicate hjoin
    have hp := congrArg Filter.predicates (hfilter hpredicate)
    have hj := hjoins hjoin
    simp only [q, q', filter_compile] at hp
    simp only [q, q', joins_compile] at hj
    simpa only [q, q', compile_eq, ofResolved] using eq_of_map_toJoin_of_map_toPredicate hj hp
  case base =>
    -- the first join names the base
    intro hjoin hne
    obtain ⟨r, rest, hq⟩ := List.exists_cons_of_ne_nil hne
    have hj := hjoins hjoin
    cases hq' : q'.resolved with
    | nil => simp [joins, hq, hq'] at hj
    | cons r' rest' =>
      simp only [joins, hq, hq', List.zipIdx_cons, List.map_cons, List.cons.injEq, Join.mk.injEq,
        Column.mk.injEq] at hj
      exact hj.1.2.2.1
  case shape =>
    intro hrelation herased
    refine ⟨_, _, lex_predicate_compile registry base s, lex_predicate_compile registry' base' s',
      ?_⟩
    rw [shape_wherePieces, shape_wherePieces, hrelation, herased]

end Query

/-- Posts are linked to posts, and to their owners. -/
def Registry.sample : Registry where
  tablePrefix := "wp_"
  relationships := [.postToPost "post" "post" "basic", .postToUser "post" "owner"]
  prefix_plain := by decide
  ascending := by decide

/-- Linked to post 25, or owned by a user whose id looks like SQL. -/
def Specification.sample : Specification :=
  Specification.empty.relation (.string "or")
    |>.segment (.object [("type", .string "basic"), ("related_to_post", .number (.integer 25))])
    |>.segment (.object [("type", .string "owner"), ("related_to_user", .string "\\') or ('")])

/-- Two predicates are read back, for all the quotes and brackets in the second. -/
theorem fragments_read_back_sample :
    Base.default.Plain ∧
      let q := Query.compile Registry.sample.catalog .default .sample
      q.resolved.length = 2 ∧ q.ReadBack .default ∧ Query.ToldApart .default .default q q := by
  have hbase : Base.default.Plain := ⟨by decide, by decide⟩
  exact ⟨hbase, by decide +kernel,
    Query.fragments_read_back Registry.sample Registry.sample hbase hbase .sample .sample⟩

end RelatedFilter

