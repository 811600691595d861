/-
  RelatedFilter.Proofs.Query.Check

  The strict check against the resolver.  The check walks the segments and asks
  a catalogue anew; it fails at the first valid segment that has no answer, and
  names it by its place among all segments.  Resolving only counts the answered
  ones.  Both say the same (`check_agrees`): the check passes if and only if every
  valid segment is resolved, and where it fails, the valid segments in front are
  the first resolved ones.
-/
import RelatedFilter.Proofs.Query.Resolution

namespace RelatedFilter

/-! ## Constraints and what they are resolved to -/

/-- The segment asks for links of this type to the object of this kind and id. -/
inductive Segment.Constrains : Segment → Json → String → Json → Prop
  | post {fields : Fields} {type id : Json} (htype : fields.get? "type" = some type)
      (hpost : fields.get? "related_to_post" = some id)
      (huser : fields.get? "related_to_user" = none) : Constrains (.keyed fields) type "post" id
  | user {fields : Fields} {type id : Json} (htype : fields.get? "type" = some type)
      (hpost : fields.get? "related_to_post" = none)
      (huser : fields.get? "related_to_user" = some id) : Constrains (.keyed fields) type "user" id

/-- What a catalogue makes of a segment, under whatever number. -/
inductive Segment.ResolvedAs (catalog : Catalog) (baseKind : String) (s : Segment) :
    Resolved → Prop
  | found {type id : Json} {kind typeName : String} {columns : Columns} {place : Nat}
      (hconstrains : s.Constrains type kind id) (htype : typeText? type = some typeName)
      (hcolumns : catalog ⟨baseKind, kind, typeName⟩ = some columns) :
      ResolvedAs catalog baseKind s ⟨place, typeName, columns, .ofJson id⟩

/-- A constraint is what the segment asks for. -/
theorem Segment.constrains_of_constraint? {s : Segment} {c : Constraint}
    (h : s.constraint? = some c) : s.Constrains c.typeValue c.target.kind c.targetId := by
  cases s with
  | positional values => cases h
  | keyed fields =>
    simp only [constraint?, target?, get?, typeField, postField, userField] at h
    cases htype : fields.get? "type" with
    | none => simp [htype] at h
    | some type =>
      cases hpost : fields.get? "related_to_post" <;>
        cases huser : fields.get? "related_to_user" <;> simp [htype, hpost, huser] at h
      case none.some id => exact h ▸ .user htype hpost huser
      case some.none id => exact h ▸ .post htype hpost huser

theorem Segment.Constrains.constraint? {s : Segment} {type id : Json} {kind : String}
    (h : s.Constrains type kind id) :
    ∃ target : Target, target.kind = kind ∧ s.constraint? = some ⟨type, target, id⟩ := by
  cases h with
  | post htype hpost huser =>
    exact ⟨.post, rfl, by simp [Segment.constraint?, Segment.target?, Segment.get?,
      Segment.typeField, Segment.postField, Segment.userField, htype, hpost, huser]⟩
  | user htype hpost huser =>
    exact ⟨.user, rfl, by simp [Segment.constraint?, Segment.target?, Segment.get?,
      Segment.typeField, Segment.postField, Segment.userField, htype, hpost, huser]⟩

/-- A segment is valid if it asks for something. -/
theorem Segment.isValid_iff_constrains {s : Segment} :
    s.isValid = true ↔ ∃ type kind id, s.Constrains type kind id := by
  rw [isValid, Option.isSome_iff_exists]
  constructor
  · rintro ⟨c, hc⟩
    exact ⟨_, _, _, constrains_of_constraint? hc⟩
  · rintro ⟨type, kind, id, h⟩
    obtain ⟨target, -, hc⟩ := h.constraint?
    exact ⟨_, hc⟩

variable {catalog : Catalog} {baseKind : String}

/-- An answer is what the segment is resolved to. -/
theorem Segment.resolvedAs_of_answer? {s : Segment} {question : Question} {columns : Columns}
    (h : s.answer? catalog baseKind = some (question, columns)) (place : Nat) :
    s.ResolvedAs catalog baseKind (question.resolved place columns) := by
  rw [answer?, question?_eq, Option.bind_eq_some_iff] at h
  obtain ⟨question', hquestion, hanswer⟩ := h
  obtain ⟨columns', hcolumns, hpair⟩ := Option.map_eq_some_iff.mp hanswer
  obtain ⟨rfl, rfl⟩ := Prod.mk.inj hpair
  obtain ⟨c, hc, hrequest⟩ := Option.bind_eq_some_iff.mp hquestion
  obtain ⟨request, hname, rfl⟩ := Option.map_eq_some_iff.mp hrequest
  obtain ⟨typeName, htype, rfl⟩ := Option.map_eq_some_iff.mp hname
  exact .found (constrains_of_constraint? hc) htype hcolumns

/-- Only a segment with an answer is resolved. -/
theorem Segment.ResolvedAs.isSome_answer? {s : Segment} {r : Resolved}
    (h : s.ResolvedAs catalog baseKind r) : (s.answer? catalog baseKind).isSome = true := by
  cases h with
  | @found type id kind typeName columns place hconstrains htype hcolumns =>
    obtain ⟨target, rfl, hc⟩ := hconstrains.constraint?
    have hname : (Constraint.mk type target id).typeName? = some typeName := htype
    have hrequest : (Constraint.mk type target id).request? baseKind
        = some ⟨baseKind, target.kind, typeName⟩ := by
      rw [Constraint.request?, hname, Option.map_some]
    rw [answer?, question?_eq, hc, Option.bind_some, hrequest, Option.map_some, Option.bind_some,
      hcolumns]
    rfl

theorem Segment.not_resolvedAs {s : Segment} (h : s.answer? catalog baseKind = none)
    (r : Resolved) : ¬ s.ResolvedAs catalog baseKind r := by
  intro hr
  have hsome := hr.isSome_answer?
  rw [h] at hsome
  cases hsome

/-! ## The check -/

/-- The fault of a segment at a place of the filter: what kinds it was to link, and
    its type, as text where it cannot be asked for. -/
def unknownFault (base : Base) (kind : String) (type : Json) (place : Nat) : RegistryError :=
  .unregistered base.kind kind ((typeText? type).getD type.compact)
    (some ("segment #" ++ toString place ++ " of the specification"))

/-- Every valid segment has an answer. -/
def AllKnown (catalog : Catalog) (baseKind : String) (segments : List Segment) : Prop :=
  ∀ s ∈ segments, s.isValid = true → (s.answer? catalog baseKind).isSome = true

/-- A valid segment without an answer is not known. -/
theorem not_allKnown {segments : List Segment} {s : Segment} (hs : s ∈ segments)
    (hvalid : s.isValid = true) (hunknown : s.answer? catalog baseKind = none) :
    ¬ AllKnown catalog baseKind segments := by
  intro hall
  have hsome := hall s hs hvalid
  rw [hunknown] at hsome
  cases hsome

theorem checkConstraint_eq {s : Segment} {c : Constraint} (base : Base) (place : Nat)
    (hc : s.constraint? = some c) :
    Query.checkConstraint catalog base place c
      = if (s.answer? catalog base.kind).isSome then .ok ()
        else .error (unknownFault base c.target.kind c.typeValue place) := by
  have hanswer : ((c.request? base.kind).bind catalog).isSome
      = (s.answer? catalog base.kind).isSome := by
    rw [Segment.answer?, Segment.question?_eq, hc, Option.bind_some]
    cases c.request? base.kind with
    | none => rfl
    | some request => simp
  rw [Query.checkConstraint, hanswer]
  rfl

/-- What checking segments comes to, the first of them at a place of the filter. -/
inductive Checked (catalog : Catalog) (base : Base) (place : Nat) (segments : List Segment) :
    Except RegistryError Unit → Prop
  | passes (hall : AllKnown catalog base.kind segments) :
      Checked catalog base place segments (.ok ())
  | fails {before after : List Segment} {dropped : Segment} {type id : Json} {kind : String}
      (hsegments : segments = before ++ dropped :: after)
      (hbefore : AllKnown catalog base.kind before) (hconstrains : dropped.Constrains type kind id)
      (hunknown : dropped.answer? catalog base.kind = none) :
      Checked catalog base place segments
        (.error (unknownFault base kind type (place + before.length)))

/-- A segment that does not stop the check only shifts the places. -/
theorem Checked.cons {base : Base} {place : Nat} {s : Segment} {rest : List Segment}
    {verdict : Except RegistryError Unit}
    (hs : s.isValid = true → (s.answer? catalog base.kind).isSome = true)
    (h : Checked catalog base (place + 1) rest verdict) :
    Checked catalog base place (s :: rest) verdict := by
  cases h with
  | passes hall => exact .passes (List.forall_mem_cons.mpr ⟨hs, hall⟩)
  | @fails before after dropped type id kind hsegments hbefore hconstrains hunknown =>
    have hplace : place + 1 + before.length = place + (s :: before).length := by
      rw [List.length_cons]
      omega
    rw [hplace]
    exact .fails (by rw [hsegments, List.cons_append]) (List.forall_mem_cons.mpr ⟨hs, hbefore⟩)
      hconstrains hunknown

theorem checked_checkFrom (catalog : Catalog) (base : Base) (place : Nat)
    (segments : List Segment) :
    Checked catalog base place segments (Query.checkFrom catalog base place segments) := by
  induction segments generalizing place with
  | nil => exact .passes (by simp [AllKnown])
  | cons s rest ih =>
    cases hc : s.constraint? with
    | none =>
      simp only [Query.checkFrom, hc]
      exact (ih (place + 1)).cons (by simp [Segment.isValid, hc])
    | some c =>
      simp only [Query.checkFrom, hc, checkConstraint_eq base place hc]
      cases hanswer : s.answer? catalog base.kind with
      | some answer => exact (ih (place + 1)).cons (by simp [hanswer])
      | none =>
        exact @Checked.fails catalog base place (s :: rest) [] rest s _ _ _ rfl (by simp [AllKnown])
          (Segment.constrains_of_constraint? hc) hanswer

/-! ## The resolver -/

/-- What segments are resolved to, in order, the first at a number. -/
def resolvedFrom (catalog : Catalog) (baseKind : String) (number : Nat) (segments : List Segment) :
    List Resolved :=
  ((segments.filterMap (Segment.answer? catalog baseKind)).zipIdx number).map
    fun ((q, columns), place) => q.resolved place columns

theorem resolvedOf_eq_resolvedFrom (s : Specification) :
    resolvedOf catalog baseKind s = resolvedFrom catalog baseKind 1 s.normalize.segments := by
  rw [resolvedOf, answered_questions, resolvedFrom]

theorem length_resolvedFrom (number : Nat) (segments : List Segment) :
    (resolvedFrom catalog baseKind number segments).length
      = (segments.filterMap (Segment.answer? catalog baseKind)).length := by
  rw [resolvedFrom, List.length_map, List.length_zipIdx]

/-- Later segments are numbered on. -/
theorem resolvedFrom_append (catalog : Catalog) (baseKind : String) (number : Nat)
    (before after : List Segment) :
    resolvedFrom catalog baseKind number (before ++ after)
      = resolvedFrom catalog baseKind number before
          ++ resolvedFrom catalog baseKind
              (number + (resolvedFrom catalog baseKind number before).length) after := by
  rw [length_resolvedFrom, resolvedFrom, List.filterMap_append, List.zipIdx_append,
    List.map_append]
  rfl

/-- The segments with an answer are resolved one by one. -/
theorem forall₂_resolvedFrom (number : Nat) (segments : List Segment) :
    List.Forall₂ (Segment.ResolvedAs catalog baseKind)
      (segments.filter fun s => (s.answer? catalog baseKind).isSome)
      (resolvedFrom catalog baseKind number segments) := by
  induction segments generalizing number with
  | nil => exact .nil
  | cons s rest ih =>
    cases hanswer : s.answer? catalog baseKind with
    | none => simpa [resolvedFrom, hanswer] using ih number
    | some answer =>
      have hhead := Segment.resolvedAs_of_answer? hanswer number
      simpa [resolvedFrom, hanswer] using And.intro hhead (ih (number + 1))

/-- Where all valid segments are known, these are the ones with an answer. -/
theorem AllKnown.filter_eq {segments : List Segment} (h : AllKnown catalog baseKind segments) :
    segments.filter (fun s => (s.answer? catalog baseKind).isSome)
      = segments.filter (·.isValid) := by
  apply List.filter_congr
  intro s hs
  exact Bool.eq_iff_iff.mpr ⟨Segment.isValid_of_isSome_answer?, h s hs⟩

/-- As many segments are resolved as are valid if and only if all valid ones are known. -/
theorem length_resolvedFrom_eq_iff (catalog : Catalog) (baseKind : String) (number : Nat)
    (segments : List Segment) :
    (resolvedFrom catalog baseKind number segments).length
        = (segments.filter (·.isValid)).length ↔ AllKnown catalog baseKind segments := by
  have hvalid : segments.filterMap (Segment.answer? catalog baseKind)
      = (segments.filter (·.isValid)).filterMap (Segment.answer? catalog baseKind) := by
    rw [List.filterMap_filter]
    congr 1
    funext s
    cases hanswer : s.answer? catalog baseKind with
    | none => simp
    | some answer => simp [Segment.isValid_of_answer? hanswer]
  rw [length_resolvedFrom, hvalid, List.filterMap_length_eq_length]
  simp [AllKnown]

/-- A segment without an answer is left out between the others. -/
theorem resolvedFrom_around {before : List Segment} {dropped : Segment} (after : List Segment)
    (number : Nat) (hbefore : AllKnown catalog baseKind before)
    (hunknown : dropped.answer? catalog baseKind = none) :
    ∃ found later,
      resolvedFrom catalog baseKind number (before ++ dropped :: after) = found ++ later ∧
      List.Forall₂ (Segment.ResolvedAs catalog baseKind) (before.filter (·.isValid)) found ∧
      ∃ kept, kept.Sublist after ∧
        List.Forall₂ (Segment.ResolvedAs catalog baseKind) kept later := by
  have hskip : ∀ number', resolvedFrom catalog baseKind number' (dropped :: after)
      = resolvedFrom catalog baseKind number' after := by
    intro number'
    rw [resolvedFrom, List.filterMap_cons_none hunknown, resolvedFrom]
  have hsplit := resolvedFrom_append catalog baseKind number before (dropped :: after)
  rw [hskip] at hsplit
  refine ⟨_, _, hsplit, ?_, _, List.filter_sublist, forall₂_resolvedFrom _ after⟩
  rw [← hbefore.filter_eq]
  exact forall₂_resolvedFrom number before

/-! ## The two together -/

namespace Query

/-- The first valid segment of `q` that is left out when `q'` is compiled, between
    those before and after it. -/
structure FirstDropped (catalog : Catalog) (base : Base) (q q' : Query) (before : List Segment)
    (dropped : Segment) (after : List Segment) : Prop where
  segments : q.segments = before ++ dropped :: after
  valid : dropped.isValid = true
  unresolved : ∀ r, ¬ dropped.ResolvedAs catalog base.kind r
  /-- The valid segments before it are the first resolved ones, and the others
      come after it. -/
  resolved : ∃ found later, q'.resolved = found ++ later ∧
    List.Forall₂ (Segment.ResolvedAs catalog base.kind) (before.filter (·.isValid)) found ∧
    ∃ kept, kept.Sublist after ∧ List.Forall₂ (Segment.ResolvedAs catalog base.kind) kept later

/-- Checking `q` tells what is left out when `q'` is compiled. -/
structure CheckAgrees (catalog : Catalog) (base : Base) (q q' : Query) : Prop where
  passes_iff : q.check catalog base = .ok () ↔
    q'.resolved.length = (q.segments.filter (·.isValid)).length
  fails : q.check catalog base ≠ .ok () →
    ∃ before dropped after type kind id, FirstDropped catalog base q q' before dropped after ∧
      dropped.Constrains type kind id ∧
      q.check catalog base = .error (unknownFault base kind type (before.length + 1))

/-- A filter can be checked against another catalogue than it was compiled with: the
    check tells what that catalogue would have left out. -/
theorem check_agrees (built catalog : Catalog) (builtBase base : Base) (s : Specification) :
    CheckAgrees catalog base (compile built builtBase s) (compile catalog base s) := by
  have hsegments : (compile built builtBase s).segments = s.normalize.segments := by
    rw [compile_eq]
    rfl
  have hresolved : (compile catalog base s).resolved
      = resolvedFrom catalog base.kind 1 s.normalize.segments := by
    rw [compile_eq, ← resolvedOf_eq_resolvedFrom]
    rfl
  have hchecked := checked_checkFrom catalog base 1 s.normalize.segments
  have hlength := length_resolvedFrom_eq_iff catalog base.kind 1 s.normalize.segments
  generalize hverdict : checkFrom catalog base 1 s.normalize.segments = verdict at hchecked
  have hcheck : (compile built builtBase s).check catalog base = verdict := by
    rw [check, hsegments, hverdict]
  cases hchecked with
  | passes hall =>
    refine ⟨?_, fun h => absurd hcheck h⟩
    rw [hcheck, hsegments, hresolved, hlength]
    exact iff_of_true rfl hall
  | @fails before after dropped type id kind hsplit hbefore hconstrains hunknown =>
    have hvalid := Segment.isValid_iff_constrains.mpr ⟨type, kind, id, hconstrains⟩
    have hnotall : ¬ AllKnown catalog base.kind s.normalize.segments :=
      not_allKnown (by simp [hsplit]) hvalid hunknown
    constructor
    case passes_iff =>
      rw [hcheck, hsegments, hresolved, hlength]
      exact iff_of_false (by simp) hnotall
    case fails =>
      intro _
      have haround := resolvedFrom_around after 1 hbefore hunknown
      rw [← hsplit, ← hresolved] at haround
      refine ⟨before, dropped, after, type, kind, id,
        ⟨hsegments.trans hsplit, hvalid, Segment.not_resolvedAs hunknown, haround⟩, hconstrains, ?_⟩
      rw [hcheck, Nat.add_comm]

end Query

end RelatedFilter
