/-
  RelatedFilter.Proofs.Query.Growth

  Filters while a registry grows.  Definitions never change an answer that a
  registry has (`Registry.extends_attemptAll`), they only add answers.  So what was
  resolved stays resolved, in order, but for higher numbers where segments in front
  are resolved now, and nothing at all changes for a filter that passed the strict
  check (`growth_keeps_resolved`).
-/
import RelatedFilter.Proofs.Registry.Lookup

namespace RelatedFilter

/-! ## Catalogues that answer more -/

/-- A catalogue that gives every answer that another one gives, and possibly more. -/
def Catalog.Extends (grown catalog : Catalog) : Prop :=
  ∀ request columns, catalog request = some columns → grown request = some columns

/-- Later definitions, failed ones among them, keep all answers of a registry. -/
theorem Registry.extends_attemptAll (registry : Registry) (later : List Relationship) :
    (registry.attemptAll later).catalog.Extends registry.catalog := by
  intro request columns h
  obtain ⟨r, hr, hkey, hcolumns⟩ := lookup_eq_some_iff.mp h
  refine lookup_eq_some_iff.mpr ⟨r, mem_attemptAll hr later, hkey, ?_⟩
  rw [schema, tablePrefix_attemptAll]
  exact hcolumns

variable {grown catalog : Catalog} {baseKind : String}

theorem Catalog.Extends.answer? (h : grown.Extends catalog) {s : Segment}
    {answer : Question × Columns} (hs : s.answer? catalog baseKind = some answer) :
    s.answer? grown baseKind = some answer := by
  obtain ⟨question, hquestion, hanswer⟩ := Option.bind_eq_some_iff.mp hs
  obtain ⟨columns, hcolumns, rfl⟩ := Option.map_eq_some_iff.mp hanswer
  rw [Segment.answer?, hquestion, Option.bind_some, h _ _ hcolumns, Option.map_some]

/-! ## What is resolved -/

theorem resolvedFrom_cons_none {s : Segment} (h : s.answer? catalog baseKind = none)
    (number : Nat) (rest : List Segment) :
    resolvedFrom catalog baseKind number (s :: rest)
      = resolvedFrom catalog baseKind number rest := by
  rw [resolvedFrom, List.filterMap_cons_none h, resolvedFrom]

theorem resolvedFrom_cons_some {s : Segment} {question : Question} {columns : Columns}
    (h : s.answer? catalog baseKind = some (question, columns)) (number : Nat)
    (rest : List Segment) :
    resolvedFrom catalog baseKind number (s :: rest)
      = question.resolved number columns :: resolvedFrom catalog baseKind (number + 1) rest := by
  rw [resolvedFrom, List.filterMap_cons_some h, List.zipIdx_cons, List.map_cons, resolvedFrom]

/-- A resolved segment keeps all but its number, which may rise. -/
structure Resolved.KeptAs (r later : Resolved) : Prop where
  columns : later.columns = r.columns
  typeName : later.typeName = r.typeName
  target : later.target = r.target
  aliasIndex : r.aliasIndex ≤ later.aliasIndex

/-- What is resolved is found again, in order, among what a catalogue with more answers
    resolves. -/
theorem Catalog.Extends.sublistForall₂_resolvedFrom (h : grown.Extends catalog)
    {number number' : Nat} (hnumber : number ≤ number') (segments : List Segment) :
    List.SublistForall₂ Resolved.KeptAs (resolvedFrom catalog baseKind number segments)
      (resolvedFrom grown baseKind number' segments) := by
  -- segments in front that only the greater catalogue knows have raised its number
  induction segments generalizing number number' with
  | nil => exact .nil
  | cons s rest ih =>
    cases hs : s.answer? catalog baseKind with
    | some answer =>
      rw [resolvedFrom_cons_some hs, resolvedFrom_cons_some (h.answer? hs)]
      have hkept : (answer.1.resolved number answer.2).KeptAs
          (answer.1.resolved number' answer.2) := ⟨rfl, rfl, rfl, hnumber⟩
      exact .cons hkept (ih (by omega))
    | none =>
      rw [resolvedFrom_cons_none hs]
      cases hgrown : s.answer? grown baseKind with
      | none =>
        rw [resolvedFrom_cons_none hgrown]
        exact ih hnumber
      | some answer =>
        rw [resolvedFrom_cons_some hgrown]
        exact .cons_right (ih (by omega))

/-- Where all valid segments are known, more answers resolve nothing new. -/
theorem Catalog.Extends.resolvedFrom_eq (h : grown.Extends catalog) {segments : List Segment}
    (hall : AllKnown catalog baseKind segments) (number : Nat) :
    resolvedFrom grown baseKind number segments
      = resolvedFrom catalog baseKind number segments := by
  have hanswers : ∀ s ∈ segments, s.answer? grown baseKind = s.answer? catalog baseKind := by
    intro s hs
    cases hanswer : s.answer? catalog baseKind with
    | some answer => exact h.answer? hanswer
    | none =>
      by_contra hgrown
      have hvalid := Segment.isValid_of_isSome_answer? (Option.isSome_iff_ne_none.mpr hgrown)
      exact not_allKnown hs hvalid hanswer hall
  rw [resolvedFrom, List.filterMap_congr hanswers, resolvedFrom]

theorem Catalog.Extends.allKnown (h : grown.Extends catalog) {segments : List Segment}
    (hall : AllKnown catalog baseKind segments) : AllKnown grown baseKind segments := by
  intro s hs hvalid
  obtain ⟨answer, hanswer⟩ := Option.isSome_iff_exists.mp (hall s hs hvalid)
  rw [h.answer? hanswer, Option.isSome_some]

namespace Query

theorem resolved_compile (catalog : Catalog) (base : Base) (s : Specification) :
    (compile catalog base s).resolved = resolvedFrom catalog base.kind 1 s.normalize.segments := by
  rw [compile_eq, ← resolvedOf_eq_resolvedFrom]
  rfl

/-- The strict check passes if all valid segments are known to the catalogue it asks. -/
theorem check_compile_eq_ok_iff (built catalog : Catalog) (builtBase base : Base)
    (s : Specification) :
    (compile built builtBase s).check catalog base = .ok () ↔
      AllKnown catalog base.kind s.normalize.segments := by
  have hsegments : (compile built builtBase s).segments = s.normalize.segments := by
    rw [compile_eq]
    rfl
  rw [(check_agrees built catalog builtBase base s).passes_iff, resolved_compile, hsegments,
    length_resolvedFrom_eq_iff]

/-- While a registry grows, by definitions that may fail, a filter keeps its resolved
    segments, in order, with numbers that can only rise.  One that passes the strict check
    goes on to pass it and stays what it is, with its numbers and both fragments. -/
theorem growth_keeps_resolved (registry : Registry) (later : List Relationship) (base : Base)
    (s : Specification) :
    let grown := registry.attemptAll later
    let q := compile registry.catalog base s
    let q' := compile grown.catalog base s
    List.SublistForall₂ Resolved.KeptAs q.resolved q'.resolved ∧
      (q.check registry.catalog base = .ok () →
        q'.check grown.catalog base = .ok () ∧ q' = q) := by
  intro grown q q'
  have hgrown : grown.catalog.Extends registry.catalog := registry.extends_attemptAll later
  constructor
  case left =>
    rw [resolved_compile, resolved_compile]
    exact hgrown.sublistForall₂_resolvedFrom le_rfl s.normalize.segments
  case right =>
    intro hcheck
    -- a check that passes leaves no valid segment for later definitions to resolve
    have hall := (check_compile_eq_ok_iff _ _ _ _ _).mp hcheck
    have hresolved : resolvedOf grown.catalog base.kind s
        = resolvedOf registry.catalog base.kind s := by
      rw [resolvedOf_eq_resolvedFrom, resolvedOf_eq_resolvedFrom, hgrown.resolvedFrom_eq hall]
    refine ⟨(check_compile_eq_ok_iff _ _ _ _ _).mpr (hgrown.allKnown hall), ?_⟩
    show compile grown.catalog base s = compile registry.catalog base s
    rw [compile_eq, compile_eq, hresolved]

/-- Links to owners are defined later: a filter that asks for them in front of another
    segment resolves both then, and a filter that does not ask for them stays. -/
theorem growth_keeps_resolved_owner :
    let registry := Registry.default.attempt (.postToPost "post" "post" "basic")
    let grown := registry.attemptAll [.postToUser "post" "owner"]
    let basic : Json :=
      .object [("type", .string "basic"), ("related_to_post", .number (.integer 25))]
    let owner : Json :=
      .object [("type", .string "owner"), ("related_to_user", .number (.integer 2))]
    let strict := Specification.empty.segment basic
    let lenient := (Specification.empty.segment owner).segment basic
    let q := compile registry.catalog .default strict
    q.resolved.length = 1 ∧ q.check registry.catalog .default = .ok () ∧
      compile grown.catalog .default strict = q ∧
      List.SublistForall₂ Resolved.KeptAs (compile registry.catalog .default lenient).resolved
        (compile grown.catalog .default lenient).resolved ∧
      (compile registry.catalog .default lenient).resolved.map (·.aliasIndex) = [1] ∧
      (compile grown.catalog .default lenient).resolved.map (·.typeName) = ["owner", "basic"] := by
  intro registry grown basic owner strict lenient q
  have hcheck : q.check registry.catalog .default = .ok () := by rfl
  have hkept := growth_keeps_resolved registry [.postToUser "post" "owner"] .default
  exact ⟨by decide +kernel, hcheck, ((hkept strict).2 hcheck).2, (hkept lenient).1,
    by decide +kernel, by decide +kernel⟩

end Query

end RelatedFilter
