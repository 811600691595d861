/-
  RelatedFilter.Proofs.Registry.History

  What a registry knows after a history of definitions, failed ones among them.
  Definitions only ever add: what is kept stays, under the prefix that the
  registry started with (`mem_attemptAll`).  So a definition is found at any time
  later if the question for it leads to its key (`definition_is_found`).

  It does for links to users, and for links between posts from either side, with
  one exception: a question about users never leads to links between posts, not
  even to those that were defined for a kind of posts called `user`.
-/
import RelatedFilter.Registry
import Mathlib.Data.List.Nodup

namespace RelatedFilter

open Relationship (Key)

/-! ## Keys from either side -/

namespace Relationship.Key

/-- Two kinds of posts have one key, in whatever order they are named. -/
theorem postToPost_comm (a b typeName : String) :
    postToPost a b typeName = postToPost b a typeName := by
  rcases text_trichotomy a b with h | rfl | h
  · have hnot : ¬ b < a := String.lt_asymm h
    simp [postToPost, h, hnot]
  · rfl
  · have hnot : ¬ a < b := String.lt_asymm h
    simp [postToPost, h, hnot]

theorem between_user (base typeName : String) :
    between base userKind typeName = postToUser base typeName :=
  if_pos rfl

theorem between_of_ne {target : String} (h : target ≠ userKind) (base typeName : String) :
    between base target typeName = postToPost base target typeName :=
  if_neg h

end Relationship.Key

/-! ## One definition -/

/-- The names of a relationship that must not be empty. -/
def Relationship.Named (r : Relationship) : Prop :=
  r.fromKind ≠ "" ∧ r.toKind ≠ "" ∧ r.typeName ≠ ""

namespace Registry

variable {registry : Registry} {r s : Relationship}

/-- All that a definition can do if it succeeds. -/
theorem define_eq_ok_iff {schema : Schema} {next : Registry} :
    registry.define r = .ok (schema, next) ↔
      r.Named ∧ ∃ free : registry.find? r.key = none,
        schema = registry.schema r ∧ next = registry.insert r free := by
  have hnames : (r.fromKind.isEmpty || r.toKind.isEmpty || r.typeName.isEmpty) = true ↔
      ¬ r.Named := by
    simp only [Relationship.Named, Bool.or_eq_true, String.isEmpty_iff, ne_eq, not_and_or, not_not,
      or_assoc]
  simp only [define]
  split
  · rename_i hempty
    simp [hnames.mp hempty]
  · rename_i hnamed
    have hnamed : r.Named := not_not.mp (hnames.not.mp hnamed)
    split
    · rename_i free
      simp [hnamed, free, eq_comm]
    · rename_i taken
      simp [taken]

/-- A key tells the relationships of a registry apart. -/
theorem eq_of_key_eq (hr : r ∈ registry.relationships) (hs : s ∈ registry.relationships)
    (h : r.key = s.key) : r = s := by
  have hkeys : (registry.relationships.map (·.key)).Nodup := by
    rw [List.Nodup, List.pairwise_map]
    refine registry.ascending.imp ?_
    intro r s hlt heq
    rw [heq] at hlt
    exact Key.lt_irrefl s.key hlt
  exact List.inj_on_of_nodup_map hkeys hr hs h

/-- What is kept under a key. -/
theorem find?_eq_some_iff {key : Key} :
    registry.find? key = some r ↔ r ∈ registry.relationships ∧ r.key = key := by
  constructor
  · intro h
    exact ⟨List.mem_of_find?_eq_some h, by simpa using List.find?_some h⟩
  · rintro ⟨hr, rfl⟩
    cases h : registry.find? r.key with
    | none => exact absurd rfl (find?_eq_none_iff.mp h r hr)
    | some s =>
      have hs : s.key = r.key := by simpa using List.find?_some h
      rw [eq_of_key_eq (List.mem_of_find?_eq_some h) hr hs]

theorem get_eq_ok_iff {base target typeName : String} {schema : Schema} :
    registry.get base target typeName = .ok schema ↔
      registry.get? base target typeName = some schema := by
  simp only [get]
  cases registry.get? base target typeName <;> simp

/-! ## Histories -/

/-- The registry after an attempt to define a relationship: as it was, if that
    fails. -/
def attempt (registry : Registry) (r : Relationship) : Registry :=
  match registry.define r with
  | .ok (_, next) => next
  | .error _ => registry

/-- The registry after attempts to define relationships, in order. -/
def attemptAll (registry : Registry) (history : List Relationship) : Registry :=
  history.foldl attempt registry

/-- An attempt changes nothing, or adds the relationship. -/
theorem attempt_cases (registry : Registry) (r : Relationship) :
    registry.attempt r = registry ∨
      ∃ free : registry.find? r.key = none, registry.attempt r = registry.insert r free := by
  simp only [attempt]
  cases h : registry.define r with
  | error cause => exact .inl rfl
  | ok defined =>
    obtain ⟨-, free, -, hnext⟩ := define_eq_ok_iff.mp h
    exact .inr ⟨free, hnext⟩

theorem mem_attempt (hs : s ∈ registry.relationships) (r : Relationship) :
    s ∈ (registry.attempt r).relationships := by
  rcases attempt_cases registry r with h | ⟨free, h⟩
  · rwa [h]
  · rw [h]
    exact mem_insertByKey.mpr (.inr hs)

@[simp] theorem tablePrefix_attempt (registry : Registry) (r : Relationship) :
    (registry.attempt r).tablePrefix = registry.tablePrefix := by
  rcases attempt_cases registry r with h | ⟨free, h⟩
  · rw [h]
  · rw [h]
    rfl

/-- What a registry keeps it keeps through any history. -/
theorem mem_attemptAll (hs : s ∈ registry.relationships) (history : List Relationship) :
    s ∈ (registry.attemptAll history).relationships := by
  induction history generalizing registry with
  | nil => exact hs
  | cons r rest ih => exact ih (mem_attempt hs r)

@[simp] theorem tablePrefix_attemptAll (registry : Registry) (history : List Relationship) :
    (registry.attemptAll history).tablePrefix = registry.tablePrefix := by
  induction history generalizing registry with
  | nil => rfl
  | cons r rest ih => exact (ih (registry.attempt r)).trans (tablePrefix_attempt registry r)

/-- What was defined is kept, whatever is attempted later. -/
theorem mem_attemptAll_of_define {schema : Schema} {next : Registry}
    (h : registry.define r = .ok (schema, next)) (history : List Relationship) :
    r ∈ (next.attemptAll history).relationships := by
  obtain ⟨-, free, -, rfl⟩ := define_eq_ok_iff.mp h
  exact mem_attemptAll (mem_insertByKey.mpr (.inl rfl)) history

theorem tablePrefix_attemptAll_of_define {schema : Schema} {next : Registry}
    (h : registry.define r = .ok (schema, next)) (history : List Relationship) :
    (next.attemptAll history).tablePrefix = registry.tablePrefix := by
  obtain ⟨-, free, -, rfl⟩ := define_eq_ok_iff.mp h
  exact tablePrefix_attemptAll _ history

/-! ## Questions -/

/-- A registry knows where the links from one kind of objects to another with a
    type are kept. -/
structure Knows (registry : Registry) (base target typeName : String) (schema : Schema)
    (columns : Columns) : Prop where
  get : registry.get base target typeName = .ok schema
  lookup : registry.lookup base target typeName = some columns

theorem knows_of_get? {base target typeName : String} {schema : Schema}
    (h : registry.get? base target typeName = some schema) :
    registry.Knows base target typeName schema schema.columns :=
  ⟨get_eq_ok_iff.mpr h, by rw [lookup, h, Option.map_some]⟩

/-- A question that leads to the key of a relationship is answered with it. -/
theorem get?_of_mem {base target typeName : String} (hr : r ∈ registry.relationships)
    (hkey : Key.between base target typeName = r.key) :
    registry.get? base target typeName = some (registry.schema r) := by
  rw [get?, hkey, find?_eq_some_iff.mpr ⟨hr, rfl⟩, Option.map_some]

/-- A question about users is answered with links to users only. -/
theorem kind_of_get?_user {base typeName : String} {schema : Schema}
    (h : registry.get? base userKind typeName = some schema) : schema.kind = .postToUser := by
  rw [get?, Key.between_user, Option.map_eq_some_iff] at h
  obtain ⟨r, hr, rfl⟩ := h
  have hkind : r.key.kind = .postToUser := by rw [(find?_eq_some_iff.mp hr).2]; rfl
  simpa [Schema.kind, schema] using hkind

/-- So it is never answered with a table of links between posts. -/
theorem lookup_user_ne {base typeName tablePrefix : String} {columns : Columns}
    (h : registry.lookup base userKind typeName = some columns) :
    columns ≠ ⟨tablePrefix ++ "post_to_post", "id1", "id2"⟩ := by
  obtain ⟨schema, hschema, rfl⟩ := Option.map_eq_some_iff.mp h
  intro hcolumns
  have hbase : schema.kind.columns.1 = "id1" := congrArg Columns.baseColumn hcolumns
  rw [kind_of_get?_user hschema] at hbase
  simp [Relationship.Kind.columns] at hbase

/-- Links between posts are found from a side, unless the kind of the posts on
    the other side is called `user`. -/
theorem knows_postToPost_iff {a b base target typeName : String}
    (hr : .postToPost a b typeName ∈ registry.relationships)
    (hkey : Key.postToPost base target typeName = Key.postToPost a b typeName) :
    registry.Knows base target typeName ⟨.postToPost a b typeName, registry.tablePrefix⟩
        ⟨registry.tablePrefix ++ "post_to_post", "id1", "id2"⟩ ↔ target ≠ "user" := by
  constructor
  · rintro hknows rfl
    exact lookup_user_ne hknows.lookup rfl
  · intro htarget
    have hfound := get?_of_mem hr ((Key.between_of_ne htarget base typeName).trans hkey)
    exact knows_of_get? hfound

/-- What is defined is found, at once and after any history.  Links to users are
    found by a question about users.  Links between posts are found from either
    side, but not from the one that looks at posts of a kind called `user`:
    there, links to users are looked for. -/
theorem definition_is_found (registry : Registry) (history : List Relationship) :
    (∀ (a b typeName : String) (schema : Schema) (next : Registry),
      registry.define (.postToPost a b typeName) = .ok (schema, next) →
        let later := next.attemptAll history
        let columns : Columns := ⟨registry.tablePrefix ++ "post_to_post", "id1", "id2"⟩
        schema = ⟨.postToPost a b typeName, registry.tablePrefix⟩ ∧
          (later.Knows a b typeName schema columns ↔ b ≠ "user") ∧
          (later.Knows b a typeName schema columns ↔ a ≠ "user") ∧
          ∀ base other, later.lookup base "user" other ≠ some columns) ∧
    (∀ (post typeName : String) (schema : Schema) (next : Registry),
      registry.define (.postToUser post typeName) = .ok (schema, next) →
        let later := next.attemptAll history
        schema = ⟨.postToUser post typeName, registry.tablePrefix⟩ ∧
          later.Knows post "user" typeName schema
            ⟨registry.tablePrefix ++ "post_to_user", "post_id", "user_id"⟩) := by
  constructor
  case left =>
    intro a b typeName schema next hdefine later columns
    have hmem : .postToPost a b typeName ∈ later.relationships :=
      mem_attemptAll_of_define hdefine history
    have hstem : later.tablePrefix = registry.tablePrefix :=
      tablePrefix_attemptAll_of_define hdefine history
    obtain ⟨-, -, rfl, -⟩ := define_eq_ok_iff.mp hdefine
    have hside := knows_postToPost_iff hmem rfl
    have hother := knows_postToPost_iff hmem (Key.postToPost_comm b a typeName)
    rw [hstem] at hside hother
    exact ⟨rfl, hside, hother, fun base other h => lookup_user_ne h rfl⟩
  case right =>
    intro post typeName schema next hdefine later
    have hmem : .postToUser post typeName ∈ later.relationships :=
      mem_attemptAll_of_define hdefine history
    have hstem : later.tablePrefix = registry.tablePrefix :=
      tablePrefix_attemptAll_of_define hdefine history
    obtain ⟨-, -, rfl, -⟩ := define_eq_ok_iff.mp hdefine
    have hknows := knows_of_get? (get?_of_mem hmem (Key.between_user post typeName))
    rw [schema, hstem] at hknows
    exact ⟨rfl, hknows⟩

/-- Posts have cars as tires, found from both sides after a definition that fails and
    one that does not; and they have owners. -/
theorem definition_is_found_tire :
    let tire : Relationship := .postToPost "post" "car" "tire"
    let owner : Relationship := .postToUser "post" "owner"
    let history : List Relationship :=
      [.postToPost "car" "post" "tire", .postToUser "post" "tire"]
    (∃ next, Registry.default.define tire = .ok (⟨tire, "wp_"⟩, next) ∧
      (next.attemptAll history).size = 2 ∧
      (next.attemptAll history).Knows "post" "car" "tire" ⟨tire, "wp_"⟩
        ⟨"wp_post_to_post", "id1", "id2"⟩ ∧
      (next.attemptAll history).Knows "car" "post" "tire" ⟨tire, "wp_"⟩
        ⟨"wp_post_to_post", "id1", "id2"⟩) ∧
    ∃ next, Registry.default.define owner = .ok (⟨owner, "wp_"⟩, next) ∧
      (next.attemptAll history).Knows "post" "user" "owner" ⟨owner, "wp_"⟩
        ⟨"wp_post_to_user", "post_id", "user_id"⟩ := by
  intro tire owner history
  have htire : Registry.default.define tire = .ok (⟨tire, "wp_"⟩,
      Registry.default.insert tire rfl) := rfl
  have howner : Registry.default.define owner = .ok (⟨owner, "wp_"⟩,
      Registry.default.insert owner rfl) := rfl
  obtain ⟨hposts, husers⟩ := definition_is_found .default history
  obtain ⟨-, hside, hother, -⟩ := hposts "post" "car" "tire" _ _ htire
  obtain ⟨-, hknows⟩ := husers "post" "owner" _ _ howner
  exact ⟨⟨_, htire, by decide +kernel, hside.mpr (by decide), hother.mpr (by decide)⟩,
    _, howner, hknows⟩

/-- Links to posts of a kind called `user` can be defined, and are found from
    those posts only. -/
theorem links_to_user_posts_are_lost :
    ∃ next, Registry.default.define (.postToPost "post" "user" "friend")
        = .ok (⟨.postToPost "post" "user" "friend", "wp_"⟩, next) ∧
      next.lookup "user" "post" "friend" = some ⟨"wp_post_to_post", "id1", "id2"⟩ ∧
      next.lookup "post" "user" "friend" = none ∧
      next.get "post" "user" "friend" = .error (.unregistered "post" "user" "friend" none) :=
  ⟨Registry.default.insert (.postToPost "post" "user" "friend") rfl, rfl, by decide +kernel,
    by decide +kernel, by decide +kernel⟩

end Registry
end RelatedFilter
