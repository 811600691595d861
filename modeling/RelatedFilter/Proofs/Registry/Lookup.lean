/-
  RelatedFilter.Proofs.Registry.Lookup

  What a registry answers to a question about two kinds of objects and a type.
  It has an answer exactly if a definition of that link succeeded, and the answer
  is the table for what the question points to (`lookup_tells_history`): the links
  to users for the kind `user`, the links between posts for any other.

  So a definition changes no answer but those to the questions that it names, and
  a filter joins the table of links to users for its constraints on users, and the
  table of links between posts for those on posts.
-/
import RelatedFilter.Proofs.Query.Check
import RelatedFilter.Proofs.Registry.Listing

namespace RelatedFilter

open Relationship (Key)

/-! ## Tables and questions -/

/-- Where links between posts are kept. -/
def Columns.betweenPosts (tablePrefix : String) : Columns :=
  ⟨tablePrefix ++ "post_to_post", "id1", "id2"⟩

/-- Where links to users are kept. -/
def Columns.toUsers (tablePrefix : String) : Columns :=
  ⟨tablePrefix ++ "post_to_user", "post_id", "user_id"⟩

namespace Relationship

/-- The questions that a definition is about: links between posts from either side, links
    to users from the posts. -/
def Names : Relationship → String → String → String → Prop
  | .postToPost a b t, base, target, typeName => s(base, target) = s(a, b) ∧ typeName = t
  | .postToUser a t, base, target, typeName => base = a ∧ target = "user" ∧ typeName = t

/-- A question about users leads to the links from that kind of posts to users. -/
theorem key_eq_between_user_iff {r : Relationship} {base typeName : String} :
    r.key = Key.between base "user" typeName ↔ r = .postToUser base typeName := by
  have hkey : Key.between base "user" typeName = key (.postToUser base typeName) :=
    Key.between_user base typeName
  rw [hkey, key_eq_iff]
  cases r <;> simp [SameLink]

/-- Any other question leads to links between the two kinds of posts. -/
theorem key_eq_between_iff_of_ne {r : Relationship} {base target typeName : String}
    (h : target ≠ "user") :
    r.key = Key.between base target typeName ↔
      ∃ x y, r = .postToPost x y typeName ∧ s(x, y) = s(base, target) := by
  have hkey : Key.between base target typeName = key (.postToPost base target typeName) :=
    Key.between_of_ne h base typeName
  rw [hkey, key_eq_iff]
  cases r with
  | postToPost x y t => simp [SameLink, and_comm]
  | postToUser x t => simp [SameLink]

/-- A question that leads to the key of a definition is one that it names. -/
theorem names_of_key_eq {r : Relationship} {base target typeName : String}
    (h : r.key = Key.between base target typeName) : r.Names base target typeName := by
  by_cases htarget : target = "user"
  · subst htarget
    rw [key_eq_between_user_iff.mp h]
    exact ⟨rfl, rfl, rfl⟩
  · obtain ⟨x, y, rfl, hpair⟩ := (key_eq_between_iff_of_ne htarget).mp h
    exact ⟨hpair.symm, rfl⟩

end Relationship

/-- A segment asks for one kind of objects. -/
theorem Segment.Constrains.kind_eq {s : Segment} {type id type' id' : Json} {kind kind' : String}
    (h : s.Constrains type kind id) (h' : s.Constrains type' kind' id') : kind = kind' := by
  obtain ⟨target, rfl, hc⟩ := h.constraint?
  obtain ⟨target', rfl, hc'⟩ := h'.constraint?
  rw [hc, Option.some_inj, Constraint.mk.injEq] at hc'
  rw [hc'.2.1]

namespace Registry

variable {registry start : Registry} {tablePrefix base target typeName : String}

/-! ## Lookups -/

theorem lookup_eq_some_iff {columns : Columns} :
    registry.lookup base target typeName = some columns ↔
      ∃ r ∈ registry.relationships, r.key = Key.between base target typeName ∧
        (registry.schema r).columns = columns := by
  simp only [lookup, get?, Option.map_map, Option.map_eq_some_iff, find?_eq_some_iff, and_assoc,
    Function.comp_apply]

/-- A definition changes the answers to the questions that it names at most. -/
theorem lookup_attempt_of_not_names {r : Relationship}
    (h : ¬ r.Names base target typeName) :
    (registry.attempt r).lookup base target typeName = registry.lookup base target typeName := by
  rcases attempt_cases registry r with hsame | ⟨free, hinsert⟩
  · rw [hsame]
  · -- what is added has another key than the one that is looked for
    have hother : r.key ≠ Key.between base target typeName :=
      fun hkey => h (Relationship.names_of_key_eq hkey)
    rw [hinsert]
    ext columns
    rw [lookup_eq_some_iff, lookup_eq_some_iff]
    constructor
    · rintro ⟨s, hs, hkey, hcolumns⟩
      rcases mem_insertByKey.mp hs with rfl | hs
      · exact absurd hkey hother
      · exact ⟨s, hs, hkey, hcolumns⟩
    · rintro ⟨s, hs, hkey, hcolumns⟩
      exact ⟨s, mem_insertByKey.mpr (.inr hs), hkey, hcolumns⟩

/-- Posts are looked up from either side. -/
theorem lookup_comm (registry : Registry) (typeName : String) (hbase : base ≠ "user")
    (htarget : target ≠ "user") :
    registry.lookup base target typeName = registry.lookup target base typeName := by
  have hkeys : Key.between base target typeName = Key.between target base typeName := by
    rw [Key.between_of_ne htarget, Key.between_of_ne hbase, Key.postToPost_comm]
  rw [lookup, get?, hkeys]
  rfl

/-- A question about users is answered if links to users were defined for these posts. -/
theorem New.lookup_user_eq_some_iff (h : New tablePrefix start) (history : List Relationship)
    {columns : Columns} :
    (start.attemptAll history).lookup base "user" typeName = some columns ↔
      .postToUser base typeName ∈ start.succeeded history ∧
        columns = .toUsers tablePrefix := by
  simp only [lookup_eq_some_iff, Relationship.key_eq_between_user_iff,
    (h.perm_succeeded history).mem_iff, h.schema_eq history]
  constructor
  · rintro ⟨r, hr, rfl, hcolumns⟩
    exact ⟨hr, hcolumns.symm⟩
  · rintro ⟨hr, hcolumns⟩
    exact ⟨_, hr, rfl, hcolumns.symm⟩

/-- Any other question is answered if links between these posts were defined. -/
theorem New.lookup_eq_some_iff_of_ne (h : New tablePrefix start) (history : List Relationship)
    (htarget : target ≠ "user") {columns : Columns} :
    (start.attemptAll history).lookup base target typeName = some columns ↔
      (∃ x y, .postToPost x y typeName ∈ start.succeeded history ∧ s(x, y) = s(base, target)) ∧
        columns = .betweenPosts tablePrefix := by
  simp only [lookup_eq_some_iff, Relationship.key_eq_between_iff_of_ne htarget,
    (h.perm_succeeded history).mem_iff, h.schema_eq history]
  constructor
  · rintro ⟨r, hr, ⟨x, y, rfl, hpair⟩, hcolumns⟩
    exact ⟨⟨x, y, hr, hpair⟩, hcolumns.symm⟩
  · rintro ⟨⟨x, y, hr, hpair⟩, hcolumns⟩
    exact ⟨_, hr, ⟨x, y, rfl, hpair⟩, hcolumns.symm⟩

/-! ## Joins -/

/-- The tables that a filter joins are the ones its segments point to. -/
structure JoinsByTarget (catalog : Catalog) (tablePrefix : String) (base : Base) (q : Query) :
    Prop where
  /-- The joined segments are resolved one by one. -/
  tables : ∃ joined : List Segment, joined.Sublist q.segments ∧
    List.Forall₂ (fun segment r => segment.ResolvedAs catalog base.kind r ∧
      (∀ type id, segment.Constrains type "user" id → r.columns = .toUsers tablePrefix) ∧
      (∀ type id, segment.Constrains type "post" id → r.columns = .betweenPosts tablePrefix))
      joined q.resolved
  join : q.join = String.join (q.resolved.map fun r => joinClause base r r.aliasIndex)
  predicate : q.predicate = if q.resolved.isEmpty then "" else
    " and (" ++ String.intercalate (" " ++ q.relation.text ++ " ")
      (q.resolved.map fun r => predicateClause r r.aliasIndex) ++ ")"

theorem New.columns_of_resolvedAs (h : New tablePrefix start) (history : List Relationship)
    {baseKind kind : String} {segment : Segment} {type id : Json} {r : Resolved}
    (hresolved : segment.ResolvedAs (start.attemptAll history).catalog baseKind r)
    (hconstrains : segment.Constrains type kind id) :
    r.columns = if kind = "user" then .toUsers tablePrefix else .betweenPosts tablePrefix := by
  cases hresolved with
  | found hother htype hcolumns =>
    rw [hother.kind_eq hconstrains] at hcolumns
    split
    · rename_i huser
      rw [huser] at hcolumns
      exact ((h.lookup_user_eq_some_iff history).mp hcolumns).2
    · rename_i hpost
      exact ((h.lookup_eq_some_iff_of_ne history hpost).mp hcolumns).2

theorem New.joinsByTarget (h : New tablePrefix start) (history : List Relationship)
    (base : Base) (s : Specification) :
    JoinsByTarget (start.attemptAll history).catalog tablePrefix base
      (.compile (start.attemptAll history).catalog base s) := by
  rw [compile_eq]
  constructor
  case tables =>
    have hresolved := @forall₂_resolvedFrom (start.attemptAll history).catalog base.kind 1
      s.normalize.segments
    rw [← resolvedOf_eq_resolvedFrom] at hresolved
    refine ⟨_, List.filter_sublist, hresolved.imp fun segment r hr => ⟨hr, ?user, ?post⟩⟩
    case user => exact fun type id huser => h.columns_of_resolvedAs history hr huser
    case post => exact fun type id hpost => h.columns_of_resolvedAs history hr hpost
  case join => simp only [Query.ofResolved, joinFragment, joinSql_eq]
  case predicate =>
    simp only [Query.ofResolved, whereFragment, predicateSql_eq]

/-! ## What a history tells -/

/-- After any history a lookup is answered exactly if a definition of the link succeeded,
    with the table for what it points to.  One more definition changes no other answers
    than to the questions that it names, posts are found from either side, and filters
    join by target. -/
theorem lookup_tells_history (h : New tablePrefix start) (history : List Relationship) :
    let registry := start.attemptAll history
    let earlier := start.succeeded history
    (∀ base target typeName columns,
      registry.lookup base target typeName = some columns ↔
        target = "user" ∧ .postToUser base typeName ∈ earlier ∧
            columns = .toUsers tablePrefix ∨
          target ≠ "user" ∧
            (∃ x y, .postToPost x y typeName ∈ earlier ∧ s(x, y) = s(base, target)) ∧
            columns = .betweenPosts tablePrefix) ∧
      (∀ r base target typeName,
        (start.attemptAll (history ++ [r])).lookup base target typeName
            ≠ registry.lookup base target typeName → r.Names base target typeName) ∧
      (∀ base target typeName, base ≠ "user" → target ≠ "user" →
        registry.lookup base target typeName = registry.lookup target base typeName) ∧
      ∀ base s, JoinsByTarget registry.catalog tablePrefix base
        (.compile registry.catalog base s) := by
  intro registry earlier
  refine ⟨?answers, ?frame, ?sides, h.joinsByTarget history⟩
  case answers =>
    intro base target typeName columns
    by_cases htarget : target = "user"
    · subst htarget
      simp only [ne_eq, not_true_eq_false, true_and, false_and, or_false]
      exact h.lookup_user_eq_some_iff history
    · simp only [htarget, ne_eq, not_false_eq_true, true_and, false_and, false_or]
      exact h.lookup_eq_some_iff_of_ne history htarget
  case frame =>
    intro r base target typeName hchanged
    by_contra hnames
    rw [attemptAll_concat] at hchanged
    exact hchanged (lookup_attempt_of_not_names hnames)
  case sides =>
    intro base target typeName hbase htarget
    exact lookup_comm registry typeName hbase htarget

/-- Posts have owners and cars have tires on posts; cars have no owners, though there are
    links called `owner` between cars and a kind of posts called `user`. -/
theorem lookup_tells_history_tires :
    let history : List Relationship := [.postToUser "post" "owner",
      .postToPost "car" "post" "tire", .postToPost "car" "user" "owner"]
    let registry := Registry.default.attemptAll history
    New "wp_" .default ∧
      registry.lookup "post" "car" "tire" = some (.betweenPosts "wp_") ∧
      registry.lookup "post" "user" "owner" = some (.toUsers "wp_") ∧
      registry.lookup "car" "user" "owner" = none := by
  intro history registry
  have hsucceeded : Registry.default.succeeded history = history := by decide +kernel
  obtain ⟨hanswers, -⟩ := lookup_tells_history .default history
  rw [hsucceeded] at hanswers
  refine ⟨.default, ?tire, ?owner, ?none⟩
  case tire =>
    refine (hanswers "post" "car" "tire" _).mpr (.inr ⟨by decide, ⟨"car", "post", ?_⟩, rfl⟩)
    exact ⟨by simp [history], Sym2.eq_swap⟩
  case owner =>
    exact (hanswers "post" "user" "owner" _).mpr (.inl ⟨rfl, by simp [history], rfl⟩)
  case none =>
    refine Option.eq_none_iff_forall_ne_some.mpr fun columns hcolumns => ?_
    rcases (hanswers "car" "user" "owner" columns).mp hcolumns with ⟨-, hmem, -⟩ | ⟨hne, -⟩
    · simp [history] at hmem
    · exact hne rfl

end Registry
end RelatedFilter
