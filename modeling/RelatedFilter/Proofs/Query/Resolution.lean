/-
  RelatedFilter.Proofs.Query.Resolution

  What compiling asks a catalogue and what it makes of the answers.  The
  questions of a filter are read off its segments one by one (`Segment.question?`);
  resolving asks them all, in order, whatever the effect of the lookup is, and
  numbers those that were answered (`resolveFrom_eq_mapM`).  Trace, resolved
  segments and fragments of a compiled filter follow from this one equation.
-/
import RelatedFilter.Query
import Mathlib.Data.List.Basic

namespace RelatedFilter

/-! ## Questions -/

/-- What is asked about a segment, and the id that the segment gives. -/
structure Question where
  request : Request
  targetId : Json

/-- The text of a type that can be asked for: a string or a number. -/
def typeText? : Json → Option String
  | .string s => some s
  | .number n => some n.text
  | _ => none

/-- The question of a segment with a type that can be asked for and exactly one
    of the two target fields. -/
def Segment.question? (baseKind : String) : Segment → Option Question
  | .positional _ => none
  | .keyed fields =>
    match fields.get? "type", fields.get? "related_to_post", fields.get? "related_to_user" with
    | some type, some id, none => (typeText? type).map (⟨⟨baseKind, "post", ·⟩, id⟩)
    | some type, none, some id => (typeText? type).map (⟨⟨baseKind, "user", ·⟩, id⟩)
    | _, _, _ => none

/-- The questions of segments, in order. -/
def questions (baseKind : String) (segments : List Segment) : List Question :=
  segments.filterMap (Segment.question? baseKind)

/-- A resolved segment out of its place, its question and the answer. -/
def Question.resolved (place : Nat) (q : Question) (columns : Columns) : Resolved :=
  ⟨place, q.request.typeName, columns, .ofJson q.targetId⟩

/-- The questions that a catalogue answers, with the answers. -/
def answered (catalog : Catalog) (qs : List Question) : List (Question × Columns) :=
  qs.filterMap fun q => (catalog q.request).map (q, ·)

/-- The question of a segment with its answer, if a catalogue has one. -/
def Segment.answer? (catalog : Catalog) (baseKind : String) (s : Segment) :
    Option (Question × Columns) :=
  (s.question? baseKind).bind fun q => (catalog q.request).map (q, ·)

/-- The answered questions are read off the segments one by one. -/
theorem answered_questions (catalog : Catalog) (baseKind : String) (segments : List Segment) :
    answered catalog (questions baseKind segments)
      = segments.filterMap (Segment.answer? catalog baseKind) := by
  rw [answered, questions, List.filterMap_filterMap]
  rfl

/-- The question of a segment is the request of its constraint. -/
theorem Segment.question?_eq (baseKind : String) (s : Segment) :
    s.question? baseKind =
      s.constraint?.bind fun c => (c.request? baseKind).map (⟨·, c.targetId⟩) := by
  cases s with
  | positional values => rfl
  | keyed fields =>
    have htype : ∀ (type : Json) (target : Target) (id : Json),
        (typeText? type).map (⟨⟨baseKind, target.kind, ·⟩, id⟩ : String → Question)
          = ((Constraint.mk type target id).request? baseKind).map (⟨·, id⟩) := by
      intro type target id
      cases type <;> rfl
    simp only [question?, constraint?, target?, get?, typeField, postField, userField]
    cases fields.get? "type" with
    | none => rfl
    | some type =>
      cases fields.get? "related_to_post" with
      | none =>
        cases fields.get? "related_to_user" with
        | none => rfl
        | some id => exact htype type .user id
      | some id =>
        cases fields.get? "related_to_user" with
        | none => exact htype type .post id
        | some other => rfl

/-- Only a valid segment has an answer. -/
theorem Segment.isValid_of_answer? {catalog : Catalog} {baseKind : String} {s : Segment}
    {answer : Question × Columns} (h : s.answer? catalog baseKind = some answer) :
    s.isValid = true := by
  obtain ⟨question, hquestion, -⟩ := Option.bind_eq_some_iff.mp h
  rw [Segment.question?_eq] at hquestion
  obtain ⟨c, hc, -⟩ := Option.bind_eq_some_iff.mp hquestion
  rw [Segment.isValid, hc, Option.isSome_some]

theorem Segment.isValid_of_isSome_answer? {catalog : Catalog} {baseKind : String} {s : Segment}
    (h : (s.answer? catalog baseKind).isSome = true) : s.isValid = true := by
  obtain ⟨answer, hanswer⟩ := Option.isSome_iff_exists.mp h
  exact isValid_of_answer? hanswer

/-- A filter without a valid segment asks nothing. -/
theorem questions_eq_nil {baseKind : String} {segments : List Segment}
    (h : segments.any (·.isValid) = false) : questions baseKind segments = [] := by
  rw [questions, List.filterMap_eq_nil_iff]
  intro s hs
  have hinvalid : s.constraint? = none := by
    simpa [Segment.isValid] using List.any_eq_false.mp h s hs
  rw [Segment.question?_eq, hinvalid]
  rfl

/-! ## Answers -/

/-- The answered questions, numbered on from `count`. -/
def number (count : Nat) : List Question → List (Option Columns) → List Resolved
  | q :: qs, some columns :: answers =>
    q.resolved (count + 1) columns :: number (count + 1) qs answers
  | _ :: qs, none :: answers => number count qs answers
  | _, _ => []

/-- Resolving asks every question once, in order, and numbers the answered ones. -/
theorem resolveFrom_eq_mapM {m : Type → Type} [Monad m] [LawfulMonad m]
    (lookup : Request → m (Option Columns)) (baseKind : String) (count : Nat)
    (segments : List Segment) :
    resolveFrom lookup baseKind count segments =
      (questions baseKind segments).mapM (lookup ·.request) >>= fun answers =>
        pure (number count (questions baseKind segments) answers) := by
  -- of the segments before, only how many were found is carried on: any count will do
  induction segments generalizing count with
  | nil => simp [resolveFrom, questions, number]
  | cons s rest ih =>
    have hquestion := s.question?_eq baseKind
    simp only [resolveFrom]
    cases hc : s.constraint? with
    | none =>
      rw [hc] at hquestion
      simp only [ih, questions, List.filterMap_cons, hquestion, Option.bind_none]
    | some c =>
      rw [hc] at hquestion
      cases hr : c.request? baseKind with
      | none =>
        simp only [Option.bind_some, hr, Option.map_none] at hquestion
        simp only [hr, ih, questions, List.filterMap_cons, hquestion]
      | some request =>
        simp only [Option.bind_some, hr, Option.map_some] at hquestion
        simp only [hr, questions, List.filterMap_cons, hquestion, List.mapM_cons, bind_assoc,
          pure_bind]
        apply bind_congr
        intro answer
        cases answer with
        | none => simp only [ih, questions, number]
        | some columns =>
          simp only [ih, questions, number, bind_assoc, pure_bind, Question.resolved]

/-- Answers of a catalogue leave out exactly the questions that it does not answer. -/
theorem number_eq_answered (catalog : Catalog) (count : Nat) (qs : List Question) :
    number count qs (qs.map (catalog ·.request))
      = ((answered catalog qs).zipIdx (count + 1)).map fun ((q, columns), place) =>
          q.resolved place columns := by
  induction qs generalizing count with
  | nil => rfl
  | cons q rest ih =>
    cases h : catalog q.request with
    | none => simp only [List.map_cons, h, number, ih, answered, List.filterMap_cons,
        Option.map_none]
    | some columns =>
      simp only [List.map_cons, h, number, ih, answered, List.filterMap_cons, Option.map_some,
        List.zipIdx_cons]

theorem run_ask (catalog : Catalog) (request : Request) (noted : List (Request × Option Columns)) :
    (Query.ask catalog request).run noted
      = pure (f := Id) (catalog request, noted ++ [(request, catalog request)]) := rfl

/-- Asking a catalogue notes every question with its answer, behind what is
    noted already. -/
theorem run_mapM_ask (catalog : Catalog) (qs : List Question)
    (noted : List (Request × Option Columns)) :
    (qs.mapM (Query.ask catalog ·.request)).run noted
      = pure (f := Id) (qs.map (catalog ·.request),
          noted ++ qs.map fun q => (q.request, catalog q.request)) := by
  induction qs generalizing noted with
  | nil => simp
  | cons q rest ih =>
    simp only [List.mapM_cons, StateT.run_bind, run_ask, ih, pure_bind, StateT.run_pure,
      List.map_cons, List.append_assoc, List.cons_append, List.nil_append]

/-! ## Compiled filters -/

/-- Where no segment is valid, nothing is asked and nothing found. -/
theorem resolve_eq_nil {m : Type → Type} [Monad m] [LawfulMonad m]
    (lookup : Request → m (Option Columns)) (baseKind : String) {segments : List Segment}
    (h : segments.any (·.isValid) = false) : resolve lookup baseKind segments = pure [] := by
  rw [resolve, resolveFrom_eq_mapM, questions_eq_nil h]
  simp [number]

/-- The filter with these resolved segments. -/
def Query.ofResolved (base : Base) (normal : Specification.Normal) (resolved : List Resolved) :
    Query :=
  ⟨normal.relation, normal.segments, resolved, joinFragment base resolved,
    whereFragment normal.relation resolved⟩

/-- Compiling is resolving: that it ends early when no segment is valid changes
    neither the filter nor what is asked. -/
theorem compileWith_eq_resolve {m : Type → Type} [Monad m] [LawfulMonad m]
    (lookup : Request → m (Option Columns)) (base : Base) (s : Specification) :
    Query.compileWith lookup base s =
      resolve lookup base.kind s.normalize.segments >>= fun resolved =>
        pure (.ofResolved base s.normalize resolved) := by
  simp only [Query.compileWith]
  split
  · rfl
  · rename_i h
    rw [resolve_eq_nil lookup base.kind (by simpa using h)]
    simp only [pure_bind]
    rfl

/-- The resolved segments of a specification. -/
def resolvedOf (catalog : Catalog) (baseKind : String) (s : Specification) : List Resolved :=
  ((answered catalog (questions baseKind s.normalize.segments)).zipIdx 1).map
    fun ((q, columns), place) => q.resolved place columns

/-- Resolving with a note of the questions gives the answered ones, numbered, and
    notes all of them. -/
theorem run_resolve_ask (catalog : Catalog) (baseKind : String) (s : Specification) :
    (resolve (Query.ask catalog) baseKind s.normalize.segments).run []
      = pure (f := Id) (resolvedOf catalog baseKind s,
          (questions baseKind s.normalize.segments).map fun q =>
            (q.request, catalog q.request)) := by
  rw [resolve, resolveFrom_eq_mapM]
  simp only [StateT.run_bind, run_mapM_ask, pure_bind, StateT.run_pure, number_eq_answered,
    List.nil_append, Nat.zero_add, resolvedOf]

theorem run_resolve_pure (catalog : Catalog) (baseKind : String) (s : Specification) :
    resolve (fun request => pure (f := Id) (catalog request)) baseKind s.normalize.segments
      = pure (resolvedOf catalog baseKind s) := by
  rw [resolve, resolveFrom_eq_mapM]
  simp only [List.mapM_pure, pure_bind, number_eq_answered, Nat.zero_add, resolvedOf]

theorem compile_eq (catalog : Catalog) (base : Base) (s : Specification) :
    Query.compile catalog base s
      = .ofResolved base s.normalize (resolvedOf catalog base.kind s) := by
  simp only [Query.compile, compileWith_eq_resolve, run_resolve_pure, pure_bind]
  rfl

theorem compileTraced_eq (catalog : Catalog) (base : Base) (s : Specification) :
    Query.compileTraced catalog base s =
      (Query.compile catalog base s,
        (questions base.kind s.normalize.segments).map fun q =>
          (q.request, catalog q.request)) := by
  simp only [Query.compileTraced, compileWith_eq_resolve, StateT.run_bind, run_resolve_ask,
    pure_bind, StateT.run_pure, compile_eq]
  rfl

/-! ## Places and aliases -/

/-- A resolved segment knows its place. -/
theorem map_aliasIndex_eq {β : Type} (f : Resolved → Nat → β) (found : List (Question × Columns))
    (place : Nat) :
    ((found.zipIdx place).map fun ((q, columns), i) => q.resolved i columns).map
        (fun r => f r r.aliasIndex)
      = (((found.zipIdx place).map fun ((q, columns), i) => q.resolved i columns).zipIdx place).map
          fun (r, i) => f r i := by
  induction found generalizing place with
  | nil => rfl
  | cons entry rest ih =>
    simp only [List.zipIdx_cons, List.map_cons, ih]
    rfl

theorem map_resolvedOf_eq {β : Type} (f : Resolved → Nat → β) (catalog : Catalog)
    (baseKind : String) (s : Specification) :
    (resolvedOf catalog baseKind s).map (fun r => f r r.aliasIndex)
      = ((resolvedOf catalog baseKind s).zipIdx 1).map fun (r, i) => f r i :=
  map_aliasIndex_eq f _ 1

/-- The places run from one. -/
theorem map_place_resolvedOf (catalog : Catalog) (baseKind : String) (s : Specification) :
    (resolvedOf catalog baseKind s).map (·.aliasIndex)
      = List.range' 1 (resolvedOf catalog baseKind s).length := by
  rw [map_resolvedOf_eq fun _ place => place]
  exact List.zipIdx_map_snd 1 _

/-- Numbers apart, the resolved segments are the answered questions. -/
theorem map_content_resolvedOf (catalog : Catalog) (baseKind : String) (s : Specification) :
    (resolvedOf catalog baseKind s).map (fun r => (r.typeName, r.columns, r.target)) =
      (questions baseKind s.normalize.segments).filterMap fun question =>
        (catalog question.request).map fun columns =>
          (question.request.typeName, columns, .ofJson question.targetId) := by
  have hcontent : ∀ found : List (Question × Columns),
      ((found.zipIdx 1).map fun ((q, columns), i) => q.resolved i columns).map
          (fun r => (r.typeName, r.columns, r.target))
        = found.map fun (q, columns) => (q.request.typeName, columns, .ofJson q.targetId) := by
    intro found
    conv_rhs => rw [← List.zipIdx_map_fst 1 found]
    simp only [List.map_map]
    rfl
  rw [resolvedOf, hcontent, answered, List.map_filterMap]
  simp only [Option.map_map]
  rfl

/-- The join of the segment that was resolved as number `place`. -/
def joinClause (base : Base) (r : Resolved) (place : Nat) : String :=
  " inner join " ++ r.columns.table ++ " as p2p" ++ toString place ++ " on " ++ base.table ++ "."
    ++ base.key ++ " = p2p" ++ toString place ++ "." ++ r.columns.baseColumn

/-- The predicate of the segment that was resolved as number `place`. -/
def predicateClause (r : Resolved) (place : Nat) : String :=
  "(p2p" ++ toString place ++ "." ++ r.columns.targetColumn ++ " = " ++ r.target.sql
    ++ " and p2p" ++ toString place ++ ".type = " ++ Sql.quote r.typeName ++ ")"

theorem joinSql_eq (base : Base) (r : Resolved) :
    " " ++ r.joinSql base = joinClause base r r.aliasIndex := by
  unfold Resolved.joinSql joinClause Resolved.tableAlias Resolved.aliasStem
  rw [← String.toList_inj]
  simp

theorem predicateSql_eq (r : Resolved) : r.predicateSql = predicateClause r r.aliasIndex := by
  unfold Resolved.predicateSql predicateClause Resolved.tableAlias Resolved.aliasStem
  rw [← String.toList_inj]
  simp

theorem joinFragment_eq_empty_iff (base : Base) (resolved : List Resolved) :
    joinFragment base resolved = "" ↔ resolved = [] := by
  cases resolved with
  | nil => simp [joinFragment, String.join]
  | cons r rest =>
    simp only [reduceCtorEq, iff_false]
    intro h
    have hchars := congrArg String.toList h
    simp [joinFragment] at hchars

theorem whereFragment_eq_empty_iff (relation : Relation) (resolved : List Resolved) :
    whereFragment relation resolved = "" ↔ resolved = [] := by
  cases resolved with
  | nil => simp [whereFragment]
  | cons r rest =>
    simp only [reduceCtorEq, iff_false]
    intro h
    have hchars := congrArg String.toList h
    simp [whereFragment] at hchars

/-- What a compiled filter and the trace of its lookups owe to the catalogue. -/
structure ResolvedInOrder (catalog : Catalog) (base : Base) (s : Specification) (q : Query)
    (trace : List (Request × Option Columns)) : Prop where
  /-- One lookup for each question, in order, and no other. -/
  asked : trace = (questions base.kind s.normalize.segments).map fun question =>
    (question.request, catalog question.request)
  /-- The answered questions, in order, each with its answer. -/
  found : q.resolved.map (fun r => (r.typeName, r.columns, r.target)) =
    (questions base.kind s.normalize.segments).filterMap fun question =>
      (catalog question.request).map fun columns =>
        (question.request.typeName, columns, .ofJson question.targetId)
  numbered : q.resolved.map (·.aliasIndex) = List.range' 1 q.resolved.length
  join : q.join = String.join ((q.resolved.zipIdx 1).map fun (r, i) => joinClause base r i)
  predicate : q.predicate = if q.resolved.isEmpty then "" else
    " and (" ++ String.intercalate (" " ++ q.relation.text ++ " ")
      ((q.resolved.zipIdx 1).map fun (r, i) => predicateClause r i) ++ ")"
  join_empty : q.join = "" ↔ q.resolved = []
  predicate_empty : q.predicate = "" ↔ q.resolved = []

/-- A filter is compiled with one lookup for each question of its segments, in
    order; what is found is numbered from one, and both fragments follow these
    numbers.  Neither a note of the lookups nor leaving early without a valid
    segment changes anything. -/
theorem compileTraced_resolves_in_order (catalog : Catalog) (base : Base) (s : Specification) :
    let (q, trace) := Query.compileTraced catalog base s
    ResolvedInOrder catalog base s q trace ∧
      q = Query.compile catalog base s ∧
      (q.resolved, trace)
        = Id.run ((resolve (Query.ask catalog) base.kind s.normalize.segments).run []) := by
  rw [compileTraced_eq, compile_eq]
  refine ⟨⟨rfl, ?found, ?numbered, ?join, ?predicate, ?joinEmpty, ?predicateEmpty⟩, rfl, ?early⟩
  all_goals simp only [Query.ofResolved]
  case found => exact map_content_resolvedOf catalog base.kind s
  case numbered => exact map_place_resolvedOf catalog base.kind s
  case join =>
    rw [← map_resolvedOf_eq (joinClause base), joinFragment]
    simp only [joinSql_eq]
  case predicate =>
    rw [← map_resolvedOf_eq predicateClause, whereFragment]
    simp only [predicateSql_eq]
    rfl
  case joinEmpty => exact joinFragment_eq_empty_iff base _
  case predicateEmpty => exact whereFragment_eq_empty_iff _ _
  case early =>
    rw [run_resolve_ask]
    rfl

end RelatedFilter
