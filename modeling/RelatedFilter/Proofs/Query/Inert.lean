/-
  RelatedFilter.Proofs.Query.Inert

  What a compiled filter owes to its specification, and what it does not.  Of the
  named entries only the relation, `type`, `related_to_post` and `related_to_user`
  count, each as it was last given; of the unnamed ones only the segments that
  resolve.  Specifications that agree on these are compiled alike
  (`inert_entries_do_not_interfere`), however their entries are ordered and
  whatever else stands between them.
-/
import RelatedFilter.Proofs.Query.Resolution
import RelatedFilter.Proofs.Specification.Normal

namespace RelatedFilter

/-! ## What counts -/

/-- The keys of a segment that its constraint is read from. -/
def constraintKeys : List String := ["type", "related_to_post", "related_to_user"]

/-- Is the segment valid, and is its type known? -/
def Segment.resolves (catalog : Catalog) (baseKind : String) (s : Segment) : Bool :=
  s.isValid && (s.answer? catalog baseKind).isSome

/-- The value of an entry that holds a segment which resolves. -/
def Entry.resolving? (catalog : Catalog) (baseKind : String) : Entry → Option Json
  | .named _ _ => none
  | .unnamed value =>
    if value.isContainer && (Segment.ofJson value).resolves catalog baseKind then some value
    else none

namespace Specification

/-- The values of the unnamed segments that resolve, in order. -/
def resolvingValues (catalog : Catalog) (baseKind : String) (entries : List Entry) : List Json :=
  entries.filterMap (Entry.resolving? catalog baseKind)

/-- Two specifications agree on all that counts. -/
structure Agree (catalog : Catalog) (baseKind : String) (s t : Specification) : Prop where
  relation : givenRelation s.entries = givenRelation t.entries
  fields : ∀ key ∈ constraintKeys,
    lastUnder (· == key) s.entries = lastUnder (· == key) t.entries
  segments : resolvingValues catalog baseKind s.entries = resolvingValues catalog baseKind t.entries

end Specification

/-- Two filters are the same, apart from the segments that were left out. -/
structure Query.SameOutput (q q' : Query) : Prop where
  relation : q.relation = q'.relation
  resolved : q.resolved = q'.resolved
  join : q.join = q'.join
  predicate : q.predicate = q'.predicate

/-! ## Segments -/

variable {catalog : Catalog} {baseKind : String}

theorem Segment.resolves_eq_isSome (s : Segment) :
    s.resolves catalog baseKind = (s.answer? catalog baseKind).isSome := by
  cases h : s.answer? catalog baseKind with
  | none => simp [resolves, h]
  | some answer => simp [resolves, h, isValid_of_answer? h]

/-- Only the fields under the constraint's keys count. -/
theorem Segment.answer?_keyed_congr {fields fields' : Fields}
    (h : ∀ key ∈ constraintKeys, fields.get? key = fields'.get? key) :
    (keyed fields).answer? catalog baseKind = (keyed fields').answer? catalog baseKind := by
  simp only [constraintKeys, List.forall_mem_cons, List.not_mem_nil, false_implies,
    implies_true, and_true] at h
  obtain ⟨htype, hpost, huser⟩ := h
  simp only [answer?, question?, htype, hpost, huser]

namespace Specification

/-- The implicit segment has the last values under the constraint's keys: no unnamed
    scalar has one of these keys, since its key is an index. -/
theorem get?_implicitFields {key : String} (entries : List Entry) (hkey : key ∈ constraintKeys) :
    (implicitFields (fieldKeys entries) [] 0 entries).get? key = lastUnder (· == key) entries := by
  have hword : ∀ key ∈ constraintKeys, sameWord key "relation" = false ∧
      Entry.isIndex key = false := by decide
  obtain ⟨hrelation, hindex⟩ := hword key hkey
  rw [implicitFields_eq_writeAll, Fields.get?_writeAll]
  refine get?_reverse_givenFields hrelation ?_
  rintro place - rfl
  rw [isIndex_toString] at hindex
  cases hindex

/-- The segments of a specification have the answers of the implicit segment, if it
    has any, and of the unnamed values that resolve. -/
theorem filterMap_answer?_normalize (s : Specification) :
    s.normalize.segments.filterMap (Segment.answer? catalog baseKind)
      = ((Segment.keyed (implicitFields (fieldKeys s.entries) [] 0 s.entries)).answer?
            catalog baseKind).toList
          ++ (resolvingValues catalog baseKind s.entries).filterMap fun value =>
            (Segment.ofJson value).answer? catalog baseKind := by
  have hexplicit : (s.entries.filterMap Entry.segment?).filterMap (Segment.answer? catalog baseKind)
      = (resolvingValues catalog baseKind s.entries).filterMap fun value =>
          (Segment.ofJson value).answer? catalog baseKind := by
    rw [resolvingValues, List.filterMap_filterMap, List.filterMap_filterMap]
    congr 1
    funext e
    cases e with
    | named key value => rfl
    | unnamed value =>
      cases hcontainer : value.isContainer with
      | false => simp [Entry.segment?, Entry.resolving?, hcontainer]
      | true =>
        cases hanswer : (Segment.ofJson value).answer? catalog baseKind <;>
          simp [Entry.segment?, Entry.resolving?, hcontainer, Segment.resolves_eq_isSome, hanswer]
  rw [← hexplicit, normalize]
  cases hfields : implicitFields (fieldKeys s.entries) [] 0 s.entries with
  | nil => rfl
  | cons field rest =>
    simp only [List.isEmpty_cons, Bool.false_eq_true, if_false, List.filterMap_cons]
    cases (Segment.keyed (field :: rest)).answer? catalog baseKind <;> rfl

variable {s t : Specification}

/-- Specifications that agree lead to the same answers. -/
theorem Agree.resolvedOf_eq (h : Agree catalog baseKind s t) :
    resolvedOf catalog baseKind s = resolvedOf catalog baseKind t := by
  have himplicit : ∀ key ∈ constraintKeys,
      (implicitFields (fieldKeys s.entries) [] 0 s.entries).get? key
        = (implicitFields (fieldKeys t.entries) [] 0 t.entries).get? key := by
    intro key hkey
    rw [get?_implicitFields s.entries hkey, get?_implicitFields t.entries hkey, h.fields key hkey]
  have hanswers : answered catalog (questions baseKind s.normalize.segments)
      = answered catalog (questions baseKind t.normalize.segments) := by
    rw [answered_questions, answered_questions, filterMap_answer?_normalize,
      filterMap_answer?_normalize, Segment.answer?_keyed_congr himplicit, h.segments]
  rw [resolvedOf, resolvedOf, hanswers]

theorem Agree.sameOutput {base : Base} (h : Agree catalog base.kind s t) :
    (Query.compile catalog base s).SameOutput (Query.compile catalog base t) := by
  have hrelation : s.normalize.relation = t.normalize.relation := by
    have hs := relationOf_eq_givenRelation s.entries
    have ht := relationOf_eq_givenRelation t.entries
    exact hs.trans (h.relation.trans ht.symm)
  rw [compile_eq, compile_eq, h.resolvedOf_eq]
  refine ⟨hrelation, rfl, rfl, ?_⟩
  simp only [Query.ofResolved, hrelation]

end Specification

/-! ## Entries that do not count -/

/-- An entry that does not count, in front of others. -/
inductive Entry.Inert (catalog : Catalog) (baseKind : String) (later : List Entry) : Entry → Prop
  /-- A field that no constraint is read from. -/
  | extra {key : String} {value : Json} (hkey : key ∉ constraintKeys)
      (hrelation : sameWord key "relation" = false) :
      Inert catalog baseKind later (.named key value)
  /-- A field that is given again. -/
  | repeated {key : String} {value again : Json} (hrelation : sameWord key "relation" = false)
      (hlater : .named key again ∈ later) : Inert catalog baseKind later (.named key value)
  /-- The relation, if it is given again. -/
  | relation {key other : String} {value again : Json} (hkey : sameWord key "relation" = true)
      (hother : sameWord other "relation" = true) (hlater : .named other again ∈ later) :
      Inert catalog baseKind later (.named key value)
  | scalar {value : Json} (hscalar : value.isContainer = false) :
      Inert catalog baseKind later (.unnamed value)
  | invalid {value : Json} (hinvalid : (Segment.ofJson value).isValid = false) :
      Inert catalog baseKind later (.unnamed value)
  | unregistered {value : Json}
      (hunknown : (Segment.ofJson value).answer? catalog baseKind = none) :
      Inert catalog baseKind later (.unnamed value)

theorem sameWord_constraintKey {key : String} (hkey : key ∈ constraintKeys) :
    sameWord key "relation" = false := by
  revert key
  decide

namespace Specification

variable {names : String → Bool} {before middle later : List Entry} {e : Entry}

/-- An entry that says nothing under the names, or not the last thing, can be left
    out. -/
theorem lastUnder_insert
    (h : e.valueUnder? names = none ∨ (lastUnder names later).isSome = true) :
    lastUnder names (before ++ e :: later) = lastUnder names (before ++ later) := by
  rw [lastUnder_append, lastUnder_append, lastUnder_cons]
  rcases h with h | h
  · rw [h, Option.or_none]
  · obtain ⟨value, hvalue⟩ := Option.isSome_iff_exists.mp h
    rw [hvalue]
    rfl

/-- Of two things one of which says nothing under the names, the order does not
    matter. -/
theorem lastUnder_move (h : e.valueUnder? names = none ∨ lastUnder names middle = none) :
    lastUnder names (before ++ e :: middle ++ later)
      = lastUnder names (before ++ middle ++ e :: later) := by
  simp only [List.append_assoc, lastUnder_append, List.cons_append, lastUnder_cons]
  rcases h with h | h <;> simp [h]

/-- Where neither relation nor fields change, and no segment that resolves, all
    that counts is the same. -/
theorem agree_of_lastUnder {s t : Specification}
    (hrelation : lastUnder (sameWord · "relation") s.entries
      = lastUnder (sameWord · "relation") t.entries)
    (hfields : ∀ key ∈ constraintKeys,
      lastUnder (· == key) s.entries = lastUnder (· == key) t.entries)
    (hsegments : resolvingValues catalog baseKind s.entries
      = resolvingValues catalog baseKind t.entries) :
    Agree catalog baseKind s t :=
  ⟨by rw [givenRelation, givenRelation, hrelation], hfields, hsegments⟩

/-- An entry that does not count can be left out. -/
theorem agree_of_inert (h : e.Inert catalog baseKind later) :
    Agree catalog baseKind ⟨before ++ e :: later⟩ ⟨before ++ later⟩ := by
  have hresolving : e.resolving? catalog baseKind = none := by
    cases h with
    | extra => rfl
    | repeated => rfl
    | relation => rfl
    | scalar hscalar => simp [Entry.resolving?, hscalar]
    | invalid hinvalid => simp [Entry.resolving?, Segment.resolves, hinvalid]
    | unregistered hunknown => simp [Entry.resolving?, Segment.resolves, hunknown]
  refine agree_of_lastUnder (lastUnder_insert ?lastRelation)
    (fun key hkey => lastUnder_insert ?lastField) ?resolving
  case lastRelation =>
    cases h with
    | extra _ hrelation => simp [Entry.valueUnder?, hrelation]
    | repeated hrelation => simp [Entry.valueUnder?, hrelation]
    | relation hkey hother hlater => exact .inr (isSome_lastUnder hlater hother)
    | scalar => exact .inl rfl
    | invalid => exact .inl rfl
    | unregistered => exact .inl rfl
  case lastField =>
    cases h with
    | @extra name value hname =>
      have hne : name ≠ key := fun heq => hname (heq ▸ hkey)
      simp [Entry.valueUnder?, hne]
    | @repeated name value again hrelation hlater =>
      by_cases hname : name = key
      · exact .inr (isSome_lastUnder hlater (beq_iff_eq.mpr hname))
      · simp [Entry.valueUnder?, hname]
    | @relation name other value again hname =>
      -- the relation is no key of a constraint
      have hne : name ≠ key := by
        rintro rfl
        rw [sameWord_constraintKey hkey] at hname
        cases hname
      simp [Entry.valueUnder?, hne]
    | scalar => exact .inl rfl
    | invalid => exact .inl rfl
    | unregistered => exact .inl rfl
  case resolving =>
    simp [resolvingValues, List.filterMap_append, hresolving]

/-- A named entry can be moved past others, if none of them has its key or, where
    it holds the relation, holds the relation, too. -/
theorem agree_of_moved {key : String} {value : Json}
    (hkey : ∀ other v, .named other v ∈ middle → other ≠ key)
    (hrelation : ∀ other v, .named other v ∈ middle → sameWord key "relation" = true →
      sameWord other "relation" = false) :
    Agree catalog baseKind ⟨before ++ .named key value :: middle ++ later⟩
      ⟨before ++ middle ++ .named key value :: later⟩ := by
  refine agree_of_lastUnder (lastUnder_move ?lastRelation)
    (fun name hname => lastUnder_move ?lastField) ?resolving
  case lastRelation =>
    cases hword : sameWord key "relation" with
    | false => simp [Entry.valueUnder?, hword]
    | true => exact .inr (lastUnder_eq_none fun other v hv => hrelation other v hv hword)
  case lastField =>
    by_cases hsame : key = name
    · subst hsame
      exact .inr (lastUnder_eq_none fun other v hv => beq_eq_false_iff_ne.mpr (hkey other v hv))
    · simp [Entry.valueUnder?, hsame]
  case resolving =>
    simp [resolvingValues, List.filterMap_append, List.filterMap_cons, Entry.resolving?]

end Specification

/-! ## Compiled filters -/

namespace Query

/-- Specifications that agree on all that counts are compiled alike, against any
    catalogue.  So an entry that does not count makes no difference wherever it
    stands, and neither does the place of a field among others. -/
theorem inert_entries_do_not_interfere (catalog : Catalog) (base : Base) :
    (∀ s t : Specification, Specification.Agree catalog base.kind s t →
      SameOutput (compile catalog base s) (compile catalog base t)) ∧
    (∀ (before later : List Entry) (e : Entry), e.Inert catalog base.kind later →
      SameOutput (compile catalog base ⟨before ++ e :: later⟩)
        (compile catalog base ⟨before ++ later⟩)) ∧
    (∀ (before middle later : List Entry) (key : String) (value : Json),
      (∀ other v, .named other v ∈ middle → other ≠ key) →
      (∀ other v, .named other v ∈ middle → sameWord key "relation" = true →
        sameWord other "relation" = false) →
      SameOutput (compile catalog base ⟨before ++ .named key value :: middle ++ later⟩)
        (compile catalog base ⟨before ++ middle ++ .named key value :: later⟩)) := by
  refine ⟨fun s t h => h.sameOutput, ?_, ?_⟩
  · intro before later e hinert
    exact (Specification.agree_of_inert hinert).sameOutput
  · intro before middle later key value hkey hrelation
    exact (Specification.agree_of_moved hkey hrelation).sameOutput

end Query

/-- Linked to post 25 or to post 50. -/
def Specification.eitherPost : Specification :=
  Specification.empty.field "type" (.string "basic")
    |>.field "related_to_post" (.number (.integer 25))
    |>.segment (.object [("type", .string "basic"), ("related_to_post", .number (.integer 50))])
    |>.relation (.string "or")

/-- The same among entries that do not count, one of which tries for the key of a
    constraint. -/
def Specification.eitherPostNoisy : Specification :=
  Specification.empty.relation (.string "and")
    |>.segment (.object [("type", .string "unknown"), ("related_to_post", .number (.integer 1))])
    |>.field "related_to_post" (.number (.integer 7))
    |>.segment (.string "type")
    |>.segment (.object [("type", .string "basic"), ("related_to_post", .number (.integer 50))])
    |>.field "related_to_post" (.number (.integer 25))
    |>.field "RELATION" (.string "OR")
    |>.segment (.array [.string "related_to_user"])
    |>.field "type" (.string "basic")
    |>.field "related_to_users" (.number (.integer 2))

/-- Only links called `basic` are known. -/
def Catalog.basicOnly : Catalog := fun request =>
  if request.typeName = "basic" then some ⟨"wp_post_to_post", "id1", "id2"⟩ else none

/-- Ten entries say no more than four: the first of the ten can be left out, since the
    relation is given again, and the first of the four can be put last. -/
theorem inert_entries_do_not_interfere_noisy :
    let noisy := Query.compile Catalog.basicOnly .default .eitherPostNoisy
    let plain := Query.compile Catalog.basicOnly .default .eitherPost
    let entries := Specification.eitherPost.entries
    Specification.Agree Catalog.basicOnly "post" .eitherPostNoisy .eitherPost ∧
      plain.resolved.length = 2 ∧ noisy.segments.length = 4 ∧ noisy.SameOutput plain ∧
      (Query.compile Catalog.basicOnly .default ⟨.named "Relation" (.string "and") :: entries⟩
        ).SameOutput plain ∧
      plain.SameOutput (Query.compile Catalog.basicOnly .default
        ⟨entries.tail ++ [.named "type" (.string "basic")]⟩) := by
  have hagree : Specification.Agree Catalog.basicOnly "post" .eitherPostNoisy .eitherPost :=
    ⟨by decide +kernel, by decide +kernel, by decide +kernel⟩
  have hinert : Entry.Inert Catalog.basicOnly "post" Specification.eitherPost.entries
      (.named "Relation" (.string "and")) :=
    @Entry.Inert.relation _ _ _ "Relation" "relation" _ (.string "or") (by decide +kernel)
      (by decide +kernel) (by decide +kernel)
  have hmiddle : ∀ other v, .named other v ∈ Specification.eitherPost.entries.tail →
      other = "related_to_post" ∨ other = "relation" := by
    intro other v hv
    simp [Specification.eitherPost, Specification.empty, Specification.field,
      Specification.segment, Specification.relation] at hv
    rcases hv with ⟨rfl, -⟩ | ⟨rfl, -⟩
    · exact .inl rfl
    · exact .inr rfl
  obtain ⟨hsame, hleft, hmoved⟩ :=
    Query.inert_entries_do_not_interfere Catalog.basicOnly .default
  refine ⟨hagree, by decide +kernel, by decide +kernel, hsame _ _ hagree,
    hleft [] _ _ hinert,
    hmoved [] Specification.eitherPost.entries.tail [] "type" (.string "basic") ?_ ?_⟩
  · rintro other v hv rfl
    cases hmiddle _ v hv <;> contradiction
  · intro other v hv hword
    cases hword

end RelatedFilter
