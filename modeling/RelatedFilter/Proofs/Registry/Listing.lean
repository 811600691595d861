/-
  RelatedFilter.Proofs.Registry.Listing

  A registry told by its history.  Of the definitions that are attempted some
  succeed (`succeeded`), and these alone decide what the registry answers to the
  next one and what it lists (`history_tells_registry`).

  A registry keeps relationships by keys, with the kinds of linked posts sorted.
  Said without keys, two definitions collide if they are about the same link
  (`SameLink`), and relationships are listed by their places (`place`), texts
  compared octet by octet.
-/
import RelatedFilter.Proofs.Registry.History
import RelatedFilter.Proofs.Text.Octets
import Mathlib.Data.Prod.Lex
import Mathlib.Data.Sym.Sym2

namespace RelatedFilter

open Relationship (Key)
open Text (octets octets_inj octets_lt_octets_iff)

/-! ## Links -/

namespace Relationship

/-- Definitions of the same link: of one type and between the same two kinds of posts,
    in whatever order, or from the same kind of posts to users. -/
def SameLink : Relationship → Relationship → Prop
  | .postToPost a b t, .postToPost c d u => s(a, b) = s(c, d) ∧ t = u
  | .postToUser a t, .postToUser b u => a = b ∧ t = u
  | _, _ => False

theorem Key.postToPost_eq_iff {a b c d t u : String} :
    Key.postToPost a b t = Key.postToPost c d u ↔ s(a, b) = s(c, d) ∧ t = u := by
  constructor
  · intro h
    simp only [Key.postToPost] at h
    rw [Sym2.eq_iff]
    split at h <;> split at h <;> injection h with _ hfirst hsecond htype <;>
      simp [hfirst, hsecond, htype]
  · rintro ⟨hpair, rfl⟩
    rcases Sym2.eq_iff.mp hpair with ⟨rfl, rfl⟩ | ⟨rfl, rfl⟩
    · rfl
    · exact Key.postToPost_comm a b t

/-- The keys of two definitions are the same if and only if their links are. -/
theorem key_eq_iff {r s : Relationship} : r.key = s.key ↔ r.SameLink s := by
  cases r with
  | postToPost a b t =>
    cases s with
    | postToPost c d u => exact Key.postToPost_eq_iff
    | postToUser c u =>
      refine iff_of_false (fun h => ?_) (by simp [SameLink])
      simpa [kind] using congrArg Key.kind h
  | postToUser a t =>
    cases s with
    | postToPost c d u =>
      refine iff_of_false (fun h => ?_) (by simp [SameLink])
      simpa [kind] using congrArg Key.kind h
    | postToUser c u => simp [key, Key.postToUser, SameLink]

theorem SameLink.symm {r s : Relationship} (h : r.SameLink s) : s.SameLink r :=
  key_eq_iff.mp (key_eq_iff.mpr h).symm

/-- The place of a relationship in a listing: links between posts come first, then the
    kinds of objects decide, those of two linked posts sorted, and then the type. -/
def place : Relationship → ℕ ×ₗ List UInt8 ×ₗ List UInt8 ×ₗ List UInt8
  | .postToPost a b t =>
    if octets b < octets a then toLex (0, toLex (octets b, toLex (octets a, octets t)))
    else toLex (0, toLex (octets a, toLex (octets b, octets t)))
  | .postToUser a t => toLex (1, toLex (octets a, toLex (octets "user", octets t)))

theorem place_eq (r : Relationship) :
    r.place = toLex (r.key.kind.rank, toLex (octets r.key.first,
      toLex (octets r.key.second, octets r.key.typeName))) := by
  cases r with
  | postToPost a b t =>
    simp only [place, octets_lt_octets_iff, key, Key.postToPost]
    split <;> rfl
  | postToUser a t => rfl

/-- Keys are in the order of places. -/
theorem key_lt_iff {r s : Relationship} : r.key < s.key ↔ r.place < s.place := by
  rw [place_eq, place_eq, Key.lt_def]
  simp only [Prod.Lex.toLex_lt_toLex, octets_lt_octets_iff, octets_inj]
  have hkind : r.key.kind = s.key.kind ↔ r.key.kind.rank = s.key.kind.rank :=
    ⟨fun h => by rw [h], Kind.rank_injective⟩
  rw [hkind]

end Relationship

namespace Registry

variable {registry start : Registry} {r s : Relationship} {tablePrefix : String}

/-! ## The definitions that succeed -/

/-- The definitions of a history that succeed, in order. -/
def succeeded (registry : Registry) : List Relationship → List Relationship
  | [] => []
  | r :: rest =>
    match registry.define r with
    | .ok _ => r :: (registry.attempt r).succeeded rest
    | .error _ => (registry.attempt r).succeeded rest

theorem find?_key_eq_none_iff :
    registry.find? r.key = none ↔ ∀ s ∈ registry.relationships, ¬ s.SameLink r := by
  simp only [find?_eq_none_iff, ne_eq, Relationship.key_eq_iff]

/-- What a definition comes to: a name is empty, or its link is known, or it is added. -/
theorem define_cases (registry : Registry) (r : Relationship) :
    (¬ r.Named ∧ registry.define r = .error (.emptyName r.fromKind r.toKind r.typeName)) ∨
      (r.Named ∧ (∃ s ∈ registry.relationships, s.SameLink r) ∧
        registry.define r = .error (.duplicate r.fromKind r.toKind r.typeName)) ∨
      (r.Named ∧ ∃ free : registry.find? r.key = none,
        registry.define r = .ok (registry.schema r, registry.insert r free)) := by
  by_cases hnamed : r.Named
  · by_cases free : registry.find? r.key = none
    · exact .inr (.inr ⟨hnamed, free, define_eq_ok_iff.mpr ⟨hnamed, free, rfl, rfl⟩⟩)
    · have hknown : ∃ s ∈ registry.relationships, s.SameLink r := by
        simpa [find?_key_eq_none_iff] using free
      refine .inr (.inl ⟨hnamed, hknown, ?_⟩)
      simp only [Relationship.Named] at hnamed
      simp [define, hnamed, free]
  · refine .inl ⟨hnamed, ?_⟩
    have hempty : (r.fromKind.isEmpty || r.toKind.isEmpty || r.typeName.isEmpty) = true := by
      simpa [Relationship.Named, not_and_or, imp_iff_not_or, or_assoc] using hnamed
    rw [define, if_pos hempty]

theorem define_eq_emptyName_iff :
    registry.define r = .error (.emptyName r.fromKind r.toKind r.typeName) ↔ ¬ r.Named := by
  rcases define_cases registry r with ⟨hnamed, h⟩ | ⟨hnamed, -, h⟩ | ⟨hnamed, free, h⟩
  · exact iff_of_true h hnamed
  · simp [h, hnamed]
  · simp [h, hnamed]

theorem define_eq_duplicate_iff :
    registry.define r = .error (.duplicate r.fromKind r.toKind r.typeName) ↔
      r.Named ∧ ∃ s ∈ registry.relationships, s.SameLink r := by
  rcases define_cases registry r with ⟨hnamed, h⟩ | ⟨hnamed, hknown, h⟩ | ⟨hnamed, free, h⟩
  · simp [h, hnamed]
  · exact iff_of_true h ⟨hnamed, hknown⟩
  · have hnew := find?_key_eq_none_iff.mp free
    simp only [h, reduceCtorEq, false_iff]
    rintro ⟨-, s, hs, hsame⟩
    exact hnew s hs hsame

/-- A definition succeeds if it has its names and its link is new. -/
theorem define_succeeds_iff :
    (∃ defined, registry.define r = .ok defined) ↔
      r.Named ∧ ∀ s ∈ registry.relationships, ¬ s.SameLink r := by
  constructor
  · rintro ⟨⟨schema, next⟩, h⟩
    obtain ⟨hnamed, free, -⟩ := define_eq_ok_iff.mp h
    exact ⟨hnamed, find?_key_eq_none_iff.mp free⟩
  · rintro ⟨hnamed, hnew⟩
    exact ⟨_, define_eq_ok_iff.mpr ⟨hnamed, find?_key_eq_none_iff.mpr hnew, rfl, rfl⟩⟩

theorem attempt_of_error {cause : RegistryError} (h : registry.define r = .error cause) :
    registry.attempt r = registry := by
  rw [attempt, h]

theorem attempt_of_ok {schema : Schema} {next : Registry}
    (h : registry.define r = .ok (schema, next)) : registry.attempt r = next := by
  rw [attempt, h]

/-- What succeeds gives back the schema of the definition, and the registry that an attempt
    leads to. -/
theorem define_eq_ok_attempt_iff :
    registry.define r = .ok (registry.schema r, registry.attempt r) ↔
      ∃ defined, registry.define r = .ok defined := by
  constructor
  · exact fun h => ⟨_, h⟩
  · rintro ⟨⟨schema, next⟩, h⟩
    obtain ⟨-, -, hschema, -⟩ := define_eq_ok_iff.mp h
    rw [attempt_of_ok h, ← hschema, h]

theorem perm_insertByKey (r : Relationship) (rs : List Relationship) :
    (insertByKey r rs).Perm (r :: rs) := by
  induction rs with
  | nil => rfl
  | cons s rest ih =>
    simp only [insertByKey]
    split
    · rfl
    · exact (ih.cons s).trans (.swap r s rest)

/-- What is kept after a history is what was kept before it and what succeeded. -/
theorem perm_attemptAll (registry : Registry) (history : List Relationship) :
    (registry.attemptAll history).relationships.Perm
      (registry.relationships ++ registry.succeeded history) := by
  induction history generalizing registry with
  | nil => simp [attemptAll, succeeded]
  | cons r rest ih =>
    -- an attempt changes the registry that the rest is tried on, if it succeeds
    have hrest : (registry.attemptAll (r :: rest)).relationships.Perm
        ((registry.attempt r).relationships ++ (registry.attempt r).succeeded rest) :=
      ih (registry.attempt r)
    refine hrest.trans ?_
    rcases define_cases registry r with ⟨-, h⟩ | ⟨-, -, h⟩ | ⟨-, free, h⟩
    · simp [succeeded, attempt, h]
    · simp [succeeded, attempt, h]
    · simp only [succeeded, attempt, h]
      -- the new relationship stands somewhere among the old ones
      have hinsert := (perm_insertByKey r registry.relationships).append_right
        ((registry.insert r free).succeeded rest)
      exact hinsert.trans List.perm_middle.symm

/-! ## Registries from the start -/

/-- A registry without relationships, as it starts under a table prefix. -/
inductive New : String → Registry → Prop
  | default : New "wp_" .default
  | empty {tablePrefix : String} {start : Registry}
      (h : Registry.empty tablePrefix = .ok start) : New tablePrefix start

theorem New.eq_nil (h : New tablePrefix start) :
    start.tablePrefix = tablePrefix ∧ start.relationships = [] := by
  cases h with
  | default => exact ⟨rfl, rfl⟩
  | empty h =>
    simp only [Registry.empty] at h
    split at h
    · cases h
      exact ⟨rfl, rfl⟩
    · cases h

/-- What a registry keeps is what succeeded. -/
theorem New.perm_succeeded (h : New tablePrefix start) (history : List Relationship) :
    (start.attemptAll history).relationships.Perm (start.succeeded history) := by
  have hperm := perm_attemptAll start history
  rwa [h.eq_nil.2, List.nil_append] at hperm

theorem New.tablePrefix_attemptAll (h : New tablePrefix start) (history : List Relationship) :
    (start.attemptAll history).tablePrefix = tablePrefix := by
  rw [Registry.tablePrefix_attemptAll, h.eq_nil.1]

theorem New.schema_eq (h : New tablePrefix start) (history : List Relationship)
    (r : Relationship) : (start.attemptAll history).schema r = ⟨r, tablePrefix⟩ := by
  rw [schema, h.tablePrefix_attemptAll history]

theorem attemptAll_concat (registry : Registry) (history : List Relationship)
    (r : Relationship) :
    registry.attemptAll (history ++ [r]) = (registry.attemptAll history).attempt r := by
  simp [attemptAll]

/-! ## What a history tells -/

/-- What a definition comes to behind others of which the `earlier` ones succeeded: how a
    registry answers, and what it is next. -/
structure Answered (tablePrefix : String) (earlier : List Relationship) (r : Relationship)
    (registry next : Registry) : Prop where
  emptyName_iff : registry.define r = .error (.emptyName r.fromKind r.toKind r.typeName) ↔
    r.fromKind = "" ∨ r.toKind = "" ∨ r.typeName = ""
  duplicate_iff : registry.define r = .error (.duplicate r.fromKind r.toKind r.typeName) ↔
    (r.fromKind ≠ "" ∧ r.toKind ≠ "" ∧ r.typeName ≠ "") ∧ ∃ s ∈ earlier, s.SameLink r
  ok_iff : registry.define r = .ok (⟨r, tablePrefix⟩, next) ↔
    (r.fromKind ≠ "" ∧ r.toKind ≠ "" ∧ r.typeName ≠ "") ∧ ∀ s ∈ earlier, ¬ s.SameLink r
  /-- Success adds the schema that is given back. -/
  stored : ∀ schema after, registry.define r = .ok (schema, after) →
    schema = ⟨r, tablePrefix⟩ ∧ after = next ∧ schema ∉ registry.schemas ∧
      next.schemas.Perm (schema :: registry.schemas)
  unchanged : ∀ cause, registry.define r = .error cause → next = registry

/-- What a registry lists: the schemas of the definitions that succeeded, as they were
    defined, each once and in the order of their places. -/
structure Lists (tablePrefix : String) (earlier : List Relationship) (registry : Registry) :
    Prop where
  schemas : registry.schemas.Perm (earlier.map fun r => ⟨r, tablePrefix⟩)
  ascending : registry.schemas.Pairwise fun s t => s.relationship.place < t.relationship.place
  size : registry.size = earlier.length
  isEmpty_iff : registry.isEmpty = true ↔ earlier = []

/-- A schema that is given back is added, and was not there before. -/
theorem stored_of_define {schema : Schema} {next : Registry}
    (h : registry.define r = .ok (schema, next)) :
    schema ∉ registry.schemas ∧ next.schemas.Perm (schema :: registry.schemas) := by
  obtain ⟨-, free, rfl, rfl⟩ := define_eq_ok_iff.mp h
  constructor
  · intro hmem
    obtain ⟨s, hs, hschema⟩ := List.mem_map.mp hmem
    have hsame : s = r := congrArg Schema.relationship hschema
    exact find?_eq_none_iff.mp free s hs (by rw [hsame])
  · exact (perm_insertByKey r registry.relationships).map registry.schema

theorem New.answered (h : New tablePrefix start) (history : List Relationship)
    (r : Relationship) :
    Answered tablePrefix (start.succeeded history) r (start.attemptAll history)
      (start.attemptAll (history ++ [r])) := by
  have hkept : ∀ s, s ∈ (start.attemptAll history).relationships ↔
      s ∈ start.succeeded history := fun s => (h.perm_succeeded history).mem_iff
  have hschema := h.schema_eq history r
  rw [attemptAll_concat]
  refine ⟨?emptyName, ?duplicate, ?ok, ?stored, fun cause => attempt_of_error⟩
  case emptyName =>
    rw [define_eq_emptyName_iff]
    simp only [Relationship.Named, ne_eq, not_and_or, not_not]
  case duplicate =>
    rw [define_eq_duplicate_iff]
    simp only [hkept, Relationship.Named]
  case ok =>
    rw [← hschema, define_eq_ok_attempt_iff, define_succeeds_iff]
    simp only [hkept, Relationship.Named]
  case stored =>
    intro schema after hok
    obtain ⟨hnew, hperm⟩ := stored_of_define hok
    obtain ⟨-, -, hgiven, -⟩ := define_eq_ok_iff.mp hok
    rw [attempt_of_ok hok]
    exact ⟨hgiven.trans hschema, rfl, hnew, hperm⟩

theorem New.lists (h : New tablePrefix start) (history : List Relationship) :
    Lists tablePrefix (start.succeeded history) (start.attemptAll history) := by
  have hperm := h.perm_succeeded history
  have hschema : (start.attemptAll history).schema = fun r => ⟨r, tablePrefix⟩ :=
    funext (h.schema_eq history)
  constructor
  case schemas =>
    rw [schemas, hschema]
    exact hperm.map _
  case ascending =>
    rw [schemas, List.pairwise_map]
    exact (start.attemptAll history).ascending.imp Relationship.key_lt_iff.mp
  case size => exact hperm.length_eq
  case isEmpty_iff =>
    rw [isEmpty, List.isEmpty_iff, ← List.length_eq_zero_iff, hperm.length_eq,
      List.length_eq_zero_iff]

/-- At any time in a history the definitions that succeeded before tell what a registry
    answers to the next one, what it is then, and what it lists. -/
theorem history_tells_registry (h : New tablePrefix start) (history : List Relationship)
    (r : Relationship) :
    Lists tablePrefix (start.succeeded history) (start.attemptAll history) ∧
      Answered tablePrefix (start.succeeded history) r (start.attemptAll history)
        (start.attemptAll (history ++ [r])) :=
  ⟨h.lists history, h.answered history r⟩

/-- Two of four definitions succeed: cars have tires on posts, which posts cannot have on
    cars again, and posts have owners, but posts without a name do not. -/
theorem history_tells_registry_tires :
    let owner : Relationship := .postToUser "post" "owner"
    let tire : Relationship := .postToPost "car" "post" "tire"
    let history : List Relationship :=
      [owner, tire, .postToPost "post" "car" "tire", .postToUser "" "owner"]
    let registry := Registry.default.attemptAll history
    New "wp_" .default ∧ registry.schemas = [⟨tire, "wp_"⟩, ⟨owner, "wp_"⟩] ∧
      registry.size = 2 ∧
      registry.define (.postToPost "post" "car" "tire")
        = .error (.duplicate "post" "car" "tire") := by
  intro owner tire history registry
  have hsucceeded : Registry.default.succeeded history = [owner, tire] := by decide +kernel
  obtain ⟨hlists, hanswered⟩ :=
    history_tells_registry .default history (.postToPost "post" "car" "tire")
  have hsize := hlists.size
  rw [hsucceeded] at hsize
  refine ⟨.default, by decide +kernel, hsize, hanswered.duplicate_iff.mpr ⟨by decide, tire, ?_⟩⟩
  rw [hsucceeded]
  exact ⟨by simp, Sym2.eq_swap, rfl⟩

end Registry
end RelatedFilter
