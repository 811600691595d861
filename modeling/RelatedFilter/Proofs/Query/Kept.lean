/-
  RelatedFilter.Proofs.Query.Kept

  Which segments a filter keeps.  A segment is kept if it is valid and its link is
  registered, and then it is joined under the next number, to the table of links to
  users or of links between posts (`keptFrom_resolvedFrom`).  What is registered can be
  told from the registry file (`registers_of_registry`).
-/
import RelatedFilter.Proofs.Query.Growth
import RelatedFilter.Proofs.Registry.Loading

namespace RelatedFilter

open Relationship (Key)

/-! ## Registered links -/

/-- The definition is about links of this type from one kind of objects to another. -/
inductive Definition.Links : Definition → String → String → String → Prop
  | toUsers {base typeName : String} {toKind : Option String} :
      Links ⟨.postToUser, base, toKind, typeName⟩ base "user" typeName
  | betweenPosts {a b base target typeName : String} (hpair : s(a, b) = s(base, target))
      (htarget : target ≠ "user") : Links ⟨.postToPost, a, some b, typeName⟩ base target typeName

/-- A registry file has a definition of these links. -/
def Manifest.Registers (m : Manifest) (base target typeName : String) : Prop :=
  ∃ d ∈ m.definitions, d.Links base target typeName

/-- A file that loads is loaded as it is written. -/
theorem Manifest.loadsAsWritten_of_ok {m : Manifest} {defaultPrefix : String} {registry : Registry}
    (h : m.registry defaultPrefix = .ok registry) : m.LoadsAsWritten defaultPrefix := by
  cases hplain : isTablePrefix (m.stem defaultPrefix) with
  | false =>
    rw [registry_of_not_plain hplain] at h
    cases h
  | true => exact loadsAsWritten_of_plain hplain

/-- A definition that says where it leads to is looked up under the links that it is about. -/
theorem Definition.key_eq_between_iff {d : Definition} (hd : d.target? ≠ none)
    {base target typeName : String} :
    d.asWritten.key = Key.between base target typeName ↔ d.Links base target typeName := by
  obtain ⟨kind, a, toKind, t⟩ := d
  by_cases htarget : target = "user"
  · subst htarget
    rw [Relationship.key_eq_between_user_iff]
    cases kind with
    | postToPost =>
      refine iff_of_false (by simp [asWritten]) ?_
      rintro ⟨⟩
      contradiction
    | postToUser =>
      simp only [asWritten, Relationship.postToUser.injEq]
      constructor
      · rintro ⟨rfl, rfl⟩
        exact .toUsers
      · rintro ⟨⟩
        exact ⟨rfl, rfl⟩
  · rw [Relationship.key_eq_between_iff_of_ne htarget]
    cases kind with
    | postToPost =>
      obtain ⟨b, rfl⟩ := Option.ne_none_iff_exists'.mp hd
      simp only [asWritten, Option.getD_some, Relationship.postToPost.injEq]
      constructor
      · rintro ⟨_, _, ⟨rfl, rfl, rfl⟩, hpair⟩
        exact .betweenPosts hpair htarget
      · intro h
        cases h with
        | betweenPosts hpair _ => exact ⟨a, b, ⟨rfl, rfl, rfl⟩, hpair⟩
    | postToUser =>
      refine iff_of_false (by simp [asWritten]) ?_
      rintro ⟨⟩
      exact htarget rfl

namespace Registry

variable {registry : Registry} {base target typeName : String}

/-- A registry knows links if it keeps a relationship under their key. -/
theorem isSome_lookup_iff :
    (registry.lookup base target typeName).isSome = true ↔
      ∃ r ∈ registry.relationships, r.key = Key.between base target typeName := by
  rw [Option.isSome_iff_exists]
  simp only [lookup_eq_some_iff]
  exact ⟨fun ⟨_, r, hr, hkey, _⟩ => ⟨r, hr, hkey⟩, fun ⟨r, hr, hkey⟩ => ⟨_, r, hr, hkey, rfl⟩⟩

/-- Links to users are kept in one table, links between posts in another. -/
theorem columns_of_lookup {columns : Columns}
    (h : registry.lookup base target typeName = some columns) :
    columns = if target = "user" then .toUsers registry.tablePrefix
      else .betweenPosts registry.tablePrefix := by
  obtain ⟨r, -, hkey, rfl⟩ := lookup_eq_some_iff.mp h
  by_cases htarget : target = "user"
  · subst htarget
    rw [Relationship.key_eq_between_user_iff.mp hkey, if_pos rfl]
    rfl
  · obtain ⟨x, y, rfl, -⟩ := (Relationship.key_eq_between_iff_of_ne htarget).mp hkey
    rw [if_neg htarget]
    rfl

/-- A registry that was loaded from a file knows the links that the file registers. -/
theorem registers_of_registry {m : Manifest} {defaultPrefix : String}
    (h : m.registry defaultPrefix = .ok registry) (base target typeName : String) :
    (registry.lookup base target typeName).isSome = true ↔ m.Registers base target typeName := by
  have hloads := Manifest.loadsAsWritten_of_ok h
  have hlisted := (hloads.lists registry h).2
  have hcomplete := (hloads.loads_iff.mp ⟨registry, h⟩).2.1
  rw [isSome_lookup_iff]
  simp only [hlisted.mem_iff, List.mem_map]
  constructor
  · rintro ⟨-, ⟨d, hd, rfl⟩, hkey⟩
    exact ⟨d, hd, (Definition.key_eq_between_iff (hcomplete d hd).target?_ne_none).mp hkey⟩
  · rintro ⟨d, hd, hlinks⟩
    exact ⟨_, ⟨d, hd, rfl⟩,
      (Definition.key_eq_between_iff (hcomplete d hd).target?_ne_none).mpr hlinks⟩

end Registry

/-! ## Kept segments -/

/-- The segments that are kept, numbered on from a place: the valid ones whose links are
    registered for the kind of the base, each with the table of these links. -/
inductive KeptFrom (registry : Registry) (baseKind : String) :
    Nat → List Segment → List Resolved → Prop
  | nil {place : Nat} : KeptFrom registry baseKind place [] []
  | keep {place : Nat} {s : Segment} {rest : List Segment} {resolved : List Resolved}
      {type id : Json} {kind typeName : String} (hconstrains : s.Constrains type kind id)
      (htype : typeText? type = some typeName)
      (hregistered : (registry.lookup baseKind kind typeName).isSome = true)
      (hrest : KeptFrom registry baseKind (place + 1) rest resolved) :
      KeptFrom registry baseKind place (s :: rest)
        (⟨place, typeName, if kind = "user" then .toUsers registry.tablePrefix
          else .betweenPosts registry.tablePrefix, .ofJson id⟩ :: resolved)
  | drop {place : Nat} {s : Segment} {rest : List Segment} {resolved : List Resolved}
      (hdropped : ∀ type kind id typeName, s.Constrains type kind id →
        typeText? type = some typeName →
        (registry.lookup baseKind kind typeName).isSome = false)
      (hrest : KeptFrom registry baseKind place rest resolved) :
      KeptFrom registry baseKind place (s :: rest) resolved

theorem keptFrom_resolvedFrom (registry : Registry) (baseKind : String) (place : Nat)
    (segments : List Segment) :
    KeptFrom registry baseKind place segments
      (resolvedFrom registry.catalog baseKind place segments) := by
  induction segments generalizing place with
  | nil => exact .nil
  | cons s rest ih =>
    cases hanswer : s.answer? registry.catalog baseKind with
    | none =>
      rw [resolvedFrom_cons_none hanswer]
      refine .drop (fun type kind id typeName hconstrains htype => ?_) (ih place)
      rw [Option.isSome_eq_false_iff, Option.isNone_iff_eq_none]
      -- an answer would be what the segment is resolved to
      cases hlookup : registry.lookup baseKind kind typeName with
      | none => rfl
      | some columns =>
        have hresolved : s.ResolvedAs registry.catalog baseKind
            ⟨place, typeName, columns, .ofJson id⟩ := .found hconstrains htype hlookup
        exact absurd hresolved (Segment.not_resolvedAs hanswer _)
    | some answer =>
      obtain ⟨question, columns⟩ := answer
      rw [resolvedFrom_cons_some hanswer]
      have hresolved := Segment.resolvedAs_of_answer? hanswer place
      generalize hr : question.resolved place columns = r at hresolved ⊢
      have hplace : r.aliasIndex = place := by
        rw [← hr]
        rfl
      cases hresolved with
      | @found type id kind typeName columns' place' hconstrains htype hcolumns =>
        have hregistered : (registry.lookup baseKind kind typeName).isSome = true :=
          Option.isSome_of_eq_some hcolumns
        rw [Registry.columns_of_lookup hcolumns]
        cases hplace
        exact .keep hconstrains htype hregistered (ih (place' + 1))

/-- Nothing is kept where no links are registered. -/
theorem KeptFrom.eq_nil {registry : Registry} {baseKind : String} {place : Nat}
    {segments : List Segment} {resolved : List Resolved}
    (h : KeptFrom registry baseKind place segments resolved)
    (hnone : ∀ target typeName, (registry.lookup baseKind target typeName).isSome = false) :
    resolved = [] := by
  induction h with
  | nil => rfl
  | keep _ _ hregistered _ =>
    rw [hnone] at hregistered
    cases hregistered
  | drop _ _ ih => exact ih

end RelatedFilter
