/-
  RelatedFilter.Proofs.Specification.Spelling

  Different specifications that are taken apart alike.  A list of values can be given
  as an array, as an object with the indices for keys, or entry by entry without
  names (`spellings_of_values_agree`): an unnamed scalar finds the index free that
  an array names it by.

  What a specification is taken apart into can be entered again, segment by segment,
  and the fields of the implicit segment by name (`normal_forms_are_fixed`).  Only two
  things count: the order of the fields, and that of the segments.
-/
import RelatedFilter.Proofs.Specification.Normal
import RelatedFilter.Query

namespace RelatedFilter

namespace Specification

/-- Two specifications that are taken apart alike, and so compile to the same filter, with
    the same lookups, whatever the effect of a lookup is. -/
structure SameFilter (s t : Specification) : Prop where
  normal : s.normalize = t.normalize
  compiled : ∀ {m : Type → Type} [Monad m] (lookup : Request → m (Option Columns)) (base : Base),
    Query.compileWith lookup base s = Query.compileWith lookup base t

/-- Compiling sees what a specification is taken apart into, and nothing else. -/
theorem sameFilter_of_normalize_eq {s t : Specification} (h : s.normalize = t.normalize) :
    s.SameFilter t :=
  ⟨h, fun lookup base => by simp only [Query.compileWith, h]⟩

end Specification

/-! ## Lists of values -/

namespace Entry

/-- An index of its own is what an item is named by. -/
theorem ofField_toString (index : Nat) (value : Json) :
    ofField (toString index) value = ofItem value index := by
  rw [ofField, ofItem, Specification.isIndex_toString, Bool.true_and]

theorem segment?_ofItem (value : Json) (index : Nat) :
    (ofItem value index).segment? = (unnamed value).segment? := by
  cases hcontainer : value.isContainer <;> simp [ofItem, segment?, hcontainer]

/-- A scalar gives one field, be it named by its index or left to take it. -/
theorem field?_ofItem (value : Json) (index other : Nat) :
    (ofItem value index).field? other = (unnamed value).field? index := by
  cases hcontainer : value.isContainer with
  | true => simp [ofItem, field?, hcontainer]
  | false =>
    simp only [ofItem, field?, hcontainer, sameWord_toString, Bool.false_eq_true, if_false]

end Entry

/-- The object with these values under the keys `0`, `1`, … -/
def Fields.indexed (values : List Json) : Fields :=
  values.zipIdx.map fun (value, index) => (toString index, value)

theorem Fields.nodup_keys_indexed (values : List Json) : (indexed values).keys.Nodup := by
  have hkeys : (indexed values).keys
      = (List.range' 0 values.length).map fun index => toString index := by
    rw [keys, indexed, List.map_map, ← List.zipIdx_map_snd 0 values, List.map_map]
    rfl
  rw [hkeys]
  exact List.Nodup.map Specification.toString_nat_injective List.nodup_range'

namespace Specification

/-- These values as entries without a name, one after another. -/
def ofValues (values : List Json) : Specification :=
  values.foldl segment empty

/-- The scalars among values, each under its place. -/
def scalarFields (values : List Json) : Fields :=
  (Fields.indexed values).filter fun (_, value) => !value.isContainer

/-- The entries of an array. -/
def itemEntries (values : List Json) : List Entry :=
  values.zipIdx.map fun (value, index) => Entry.ofItem value index

theorem nodup_keys_scalarFields (values : List Json) : (scalarFields values).keys.Nodup :=
  (Fields.nodup_keys_indexed values).sublist (List.filter_sublist.map Prod.fst)

/-- Values that are fields under their places give the scalars among them. -/
theorem filterMap_field?_zipIdx (values : List Json) :
    (values.zipIdx.filterMap fun (value, place) => (Entry.unnamed value).field? place)
      = scalarFields values := by
  rw [scalarFields, Fields.indexed]
  induction values.zipIdx with
  | nil => rfl
  | cons placed rest ih =>
    obtain ⟨value, place⟩ := placed
    rw [List.filterMap_cons, ih, List.map_cons, List.filter_cons]
    cases hcontainer : value.isContainer <;> simp [Entry.field?, hcontainer]

theorem ofJson_indexed (values : List Json) :
    ofJson (.object (Fields.indexed values)) = .ok ⟨itemEntries values⟩ := by
  simp only [ofJson, Fields.indexed, itemEntries, List.map_map, Function.comp_def,
    Entry.ofField_toString]

theorem entries_ofValues (values : List Json) :
    (ofValues values).entries = values.map Entry.unnamed := by
  have hfold : ∀ s : Specification,
      (values.foldl segment s).entries = s.entries ++ values.map Entry.unnamed := by
    induction values with
    | nil => simp
    | cons value rest ih => intro s; simp [ih, segment]
  exact hfold empty

theorem filterMap_segment?_itemEntries (values : List Json) :
    (itemEntries values).filterMap Entry.segment?
      = values.filterMap fun value => (Entry.unnamed value).explicit? := by
  conv_rhs => rw [← List.zipIdx_map_fst 0 values]
  simp only [itemEntries, List.filterMap_map, Function.comp_def, Entry.segment?_ofItem,
    Entry.explicit?_eq_segment?]

/-- Named by their places, the scalars are fields under them. -/
theorem givenFields_itemEntries (index : Nat → Nat) (values : List Json) :
    givenFields index (itemEntries values) = scalarFields values := by
  have hplaces : (itemEntries values).zipIdx
      = values.zipIdx.map fun (value, place) => (Entry.ofItem value place, place) := by
    refine List.ext_getElem? fun place => ?_
    simp [itemEntries]
    rfl
  simp only [givenFields, hplaces, List.filterMap_map, Function.comp_def, Entry.field?_ofItem,
    filterMap_field?_zipIdx]

/-- Left without names, the scalars find their own places free. -/
theorem givenFields_unnamed (values : List Json) :
    givenFields (scalarIndex (values.map Entry.unnamed)) (values.map Entry.unnamed)
      = scalarFields values := by
  have hnames : ∀ n : Nat, toString n ∉ fieldNames (values.map Entry.unnamed) := by
    simp [mem_fieldNames]
  have hplaces : givenFields (scalarIndex (values.map Entry.unnamed)) (values.map Entry.unnamed)
      = givenFields id (values.map Entry.unnamed) :=
    givenFields_congr fun place hplace =>
      (indexed_scalarIndex (values.map Entry.unnamed)).eq_place hnames hplace
  rw [hplaces, givenFields, List.zipIdx_map, List.filterMap_map]
  exact filterMap_field?_zipIdx values

/-- The relation is left to its default where no entry has its name. -/
theorem givenRelation_eq_all {entries : List Entry}
    (h : ∀ key value, .named key value ∈ entries → sameWord key "relation" = false) :
    givenRelation entries = .all := by
  rw [givenRelation, lastUnder_eq_none h]
  rfl

theorem sameWord_of_mem_itemEntries {values : List Json} {key : String} {value : Json}
    (h : .named key value ∈ itemEntries values) : sameWord key "relation" = false := by
  obtain ⟨⟨item, index⟩, -, hitem⟩ := List.mem_map.mp h
  simp only [Entry.ofItem] at hitem
  split at hitem
  · cases hitem
  · cases hitem
    exact sameWord_toString index

/-- A list of values means the same as an array, as an object with the indices for keys,
    and value by value: its scalars are the fields of the implicit segment, under their
    places, and its objects and arrays are the segments behind it. -/
theorem spellings_of_values_agree (values : List Json) :
    (Fields.indexed values).keys.Nodup ∧
      ∃ s, ofJson (.array values) = .ok s ∧ ofJson (.object (Fields.indexed values)) = .ok s ∧
        s.normalize = .ofParts .all (scalarFields values)
          (values.filterMap fun value => (Entry.unnamed value).explicit?) ∧
        (ofValues values).SameFilter s := by
  have hitems : (Specification.mk (itemEntries values)).normalize
      = .ofParts .all (scalarFields values)
          (values.filterMap fun value => (Entry.unnamed value).explicit?) := by
    rw [normalize_eq_ofParts, givenRelation_eq_all fun _ _ => sameWord_of_mem_itemEntries,
      givenFields_itemEntries, Fields.writeAll_of_nodup (nodup_keys_scalarFields values),
      filterMap_segment?_itemEntries]
  have hvalues : (ofValues values).normalize
      = .ofParts .all (scalarFields values)
          (values.filterMap fun value => (Entry.unnamed value).explicit?) := by
    have hnone : ∀ key value, .named key value ∈ values.map Entry.unnamed →
        sameWord key "relation" = false := by simp
    rw [normalize_eq_ofParts, entries_ofValues, givenRelation_eq_all hnone, givenFields_unnamed,
      Fields.writeAll_of_nodup (nodup_keys_scalarFields values), List.filterMap_map]
    simp only [Function.comp_def, Entry.explicit?_eq_segment?]
  exact ⟨Fields.nodup_keys_indexed values, ⟨itemEntries values⟩, rfl, ofJson_indexed values, hitems,
    sameFilter_of_normalize_eq (hvalues.trans hitems.symm)⟩

/-- Scalars keep their places among objects and arrays. -/
example : (ofValues [.string "a", .object [], .array [.null], .bool true]).normalize
    = .ofParts .all [("0", .string "a"), ("3", .bool true)] [.keyed [], .positional [.null]] := by
  decide +kernel

end Specification

/-! ## Entering a normal form again -/

/-- A list made of two others, each in its order. -/
inductive Interleaved {α : Type} : List α → List α → List α → Prop
  | nil : Interleaved [] [] []
  | left {x : α} {xs ys zs : List α} (h : Interleaved xs ys zs) :
      Interleaved (x :: xs) ys (x :: zs)
  | right {y : α} {xs ys zs : List α} (h : Interleaved xs ys zs) :
      Interleaved xs (y :: ys) (y :: zs)

namespace Interleaved

variable {α β : Type} {xs ys zs : List α}

theorem mem_iff (h : Interleaved xs ys zs) {z : α} : z ∈ zs ↔ z ∈ xs ∨ z ∈ ys := by
  induction h with
  | nil => simp
  | left _ ih => simp only [List.mem_cons, ih, or_assoc]
  | right _ ih => simp only [List.mem_cons, ih, or_left_comm]

theorem filterMap (h : Interleaved xs ys zs) (f : α → Option β) :
    Interleaved (xs.filterMap f) (ys.filterMap f) (zs.filterMap f) := by
  induction h with
  | nil => exact .nil
  | @left x _ _ _ _ ih =>
    cases hx : f x with
    | none => simpa only [List.filterMap_cons_none hx] using ih
    | some b => simpa only [List.filterMap_cons_some hx] using ih.left
  | @right y _ _ _ _ ih =>
    cases hy : f y with
    | none => simpa only [List.filterMap_cons_none hy] using ih
    | some b => simpa only [List.filterMap_cons_some hy] using ih.right

theorem eq_of_right_nil (h : Interleaved xs [] zs) : zs = xs := by
  generalize hys : ([] : List α) = ys at h
  induction h with
  | nil => rfl
  | left _ ih => rw [ih hys]
  | right => cases hys

theorem eq_of_left_nil (h : Interleaved [] ys zs) : zs = ys := by
  generalize hxs : ([] : List α) = xs at h
  induction h with
  | nil => rfl
  | left => cases hxs
  | right _ ih => rw [ih hxs]

theorem of_left_nil (ys : List α) : Interleaved [] ys ys := by
  induction ys with
  | nil => exact .nil
  | cons y rest ih => exact ih.right

end Interleaved

theorem Segment.isContainer_toJson (g : Segment) : g.toJson.isContainer = true := by
  cases g <;> rfl

namespace Entry

/-- The entry for a field of the implicit segment. -/
def ofPair (field : String × Json) : Entry :=
  .named field.1 field.2

/-- The entry for a segment. -/
def ofSegment (g : Segment) : Entry :=
  .unnamed g.toJson

/-- A segment is what its own entry holds. -/
theorem segment?_ofSegment (g : Segment) : (ofSegment g).segment? = some g := by
  rw [ofSegment, segment?, if_pos g.isContainer_toJson, Segment.ofJson_toJson]

end Entry

namespace Specification

/-- Adds an entry. -/
def enter (s : Specification) : Entry → Specification
  | .named key value => s.field key value
  | .unnamed value => s.segment value

/-- Adds entries in order. -/
def enterAll (s : Specification) (entries : List Entry) : Specification :=
  entries.foldl enter s

theorem entries_enterAll (s : Specification) (entries : List Entry) :
    (s.enterAll entries).entries = s.entries ++ entries := by
  induction entries generalizing s with
  | nil => exact (List.append_nil _).symm
  | cons e rest ih =>
    have henter : (s.enter e).entries = s.entries ++ [e] := by cases e <;> rfl
    rw [enterAll, List.foldl_cons]
    exact (ih (s.enter e)).trans (by rw [henter, List.append_assoc]; rfl)

/-- The entries that give the relation after some and before others. -/
def withRelation (relation : Relation) (before after : List Entry) : Specification :=
  ((empty.enterAll before).relation (.string relation.text)).enterAll after

theorem entries_withRelation (relation : Relation) (before after : List Entry) :
    (withRelation relation before after).entries
      = before ++ .named "relation" (.string relation.text) :: after := by
  simp [withRelation, entries_enterAll, Specification.relation, field, empty]

/-- Without unnamed scalars, the fields are the named entries. -/
theorem givenFields_eq_filterMap {entries : List Entry} (index : Nat → Nat)
    (h : ∀ e ∈ entries, e.isScalar = false) :
    givenFields index entries = entries.filterMap (Entry.field? 0) := by
  have hnone : givenFields index entries = givenFields (fun _ => 0) entries := by
    refine givenFields_congr fun place hplace => ?_
    obtain ⟨value, he, hscalar⟩ := mem_scalarPlaces.mp hplace
    have hentry := h _ (List.mem_of_getElem? he)
    rw [Entry.isScalar, hscalar] at hentry
    cases hentry
  conv_rhs => rw [← List.zipIdx_map_fst 0 entries]
  rw [hnone, givenFields, List.filterMap_map]
  rfl

section
variable {fields : Fields} {segments : List Segment} {before after : List Entry}

/-- Entries for fields and for segments, none of them the relation. -/
structure Entered (fields : Fields) (segments : List Segment) (entries : List Entry) : Prop where
  interleaved : Interleaved (fields.map Entry.ofPair) (segments.map Entry.ofSegment) entries
  names : ∀ field ∈ fields, sameWord field.1 "relation" = false

namespace Entered

variable {entries : List Entry}

theorem cases_of_mem (h : Entered fields segments entries) {e : Entry} (he : e ∈ entries) :
    (∃ field ∈ fields, e = .ofPair field) ∨ ∃ g ∈ segments, e = .ofSegment g := by
  rcases h.interleaved.mem_iff.mp he with hfield | hsegment
  · obtain ⟨field, hmem, rfl⟩ := List.mem_map.mp hfield
    exact .inl ⟨field, hmem, rfl⟩
  · obtain ⟨g, hmem, rfl⟩ := List.mem_map.mp hsegment
    exact .inr ⟨g, hmem, rfl⟩

theorem names_of_mem (h : Entered fields segments entries) {key : String} {value : Json}
    (he : .named key value ∈ entries) : sameWord key "relation" = false := by
  rcases h.cases_of_mem he with ⟨field, hmem, heq⟩ | ⟨g, -, heq⟩
  · cases heq
    exact h.names field hmem
  · cases heq

theorem isScalar_eq_false (h : Entered fields segments entries) {e : Entry} (he : e ∈ entries) :
    e.isScalar = false := by
  rcases h.cases_of_mem he with ⟨field, -, rfl⟩ | ⟨g, -, rfl⟩
  · rfl
  · rw [Entry.ofSegment, Entry.isScalar, g.isContainer_toJson, Bool.not_true]

/-- The fields are read off the entries. -/
theorem filterMap_field? (h : Entered fields segments entries) :
    entries.filterMap (Entry.field? 0) = fields := by
  have hfields : (fields.map Entry.ofPair).filterMap (Entry.field? 0) = fields := by
    rw [List.filterMap_map]
    refine (List.filterMap_congr fun field hmem => ?_).trans List.filterMap_some
    rw [Function.comp_apply, Entry.ofPair, Entry.field?, h.names field hmem]
    rfl
  have hsegments : (segments.map Entry.ofSegment).filterMap (Entry.field? 0) = [] := by
    rw [List.filterMap_map, List.filterMap_eq_nil_iff]
    intro g _
    rw [Function.comp_apply, Entry.ofSegment, Entry.field?, if_pos g.isContainer_toJson]
  have hall := h.interleaved.filterMap (Entry.field? 0)
  rw [hfields, hsegments] at hall
  exact hall.eq_of_right_nil

/-- The segments are read off the entries. -/
theorem filterMap_segment? (h : Entered fields segments entries) :
    entries.filterMap Entry.segment? = segments := by
  have hfields : (fields.map Entry.ofPair).filterMap Entry.segment? = [] := by
    rw [List.filterMap_map, List.filterMap_eq_nil_iff]
    exact fun _ _ => rfl
  have hsegments : (segments.map Entry.ofSegment).filterMap Entry.segment? = segments := by
    rw [List.filterMap_map]
    refine (List.filterMap_congr fun g _ => ?_).trans List.filterMap_some
    exact Entry.segment?_ofSegment g
  have hall := h.interleaved.filterMap Entry.segment?
  rw [hfields, hsegments] at hall
  exact hall.eq_of_left_nil

end Entered

/-- An entry that a function passes over can stand anywhere. -/
theorem filterMap_around {α β : Type} {f : α → Option β} {e : α} (he : f e = none)
    (before after : List α) :
    (before ++ e :: after).filterMap f = (before ++ after).filterMap f := by
  rw [List.filterMap_append, List.filterMap_cons_none he, List.filterMap_append]

/-- Parts that are entered in any order are what is taken apart. -/
theorem normalize_withRelation (relation : Relation) (hkeys : fields.keys.Nodup)
    (h : Entered fields segments (before ++ after)) :
    (withRelation relation before after).normalize = .ofParts relation fields segments := by
  have hrelation : givenRelation (withRelation relation before after).entries = relation := by
    have hafter : lastUnder (sameWord · "relation") after = none :=
      lastUnder_eq_none fun key value hmem => h.names_of_mem (List.mem_append_right before hmem)
    rw [entries_withRelation, givenRelation, lastUnder_append, lastUnder_cons, hafter]
    exact Relation.ofText_text relation
  have hscalars : ∀ e ∈ (withRelation relation before after).entries, e.isScalar = false := by
    intro e he
    rw [entries_withRelation, List.mem_append, List.mem_cons] at he
    rcases he with he | rfl | he
    · exact h.isScalar_eq_false (List.mem_append_left after he)
    · rfl
    · exact h.isScalar_eq_false (List.mem_append_right before he)
  rw [normalize_eq_ofParts, hrelation, givenFields_eq_filterMap _ hscalars, entries_withRelation,
    filterMap_around rfl, filterMap_around rfl, h.filterMap_field?, h.filterMap_segment?,
    Fields.writeAll_of_nodup hkeys]

end

/-- The keys of the implicit segment are not the relation. -/
theorem sameWord_of_mem_writeAll {index : Nat → Nat} {entries : List Entry}
    {field : String × Json} (h : field ∈ Fields.writeAll (givenFields index entries)) :
    sameWord field.1 "relation" = false := by
  have hkey : field.1 ∈ (Fields.writeAll (givenFields index entries)).keys :=
    List.mem_map_of_mem h
  rw [Fields.mem_keys_writeAll, mem_keys_givenFields] at hkey
  rcases hkey with hname | ⟨place, -, hindex⟩
  · exact (mem_fieldNames.mp hname).1
  · rw [← hindex]
    exact sameWord_toString (index place)

/-- What a specification is taken apart into is taken apart into itself: its segments can be
    entered again, with the relation anywhere.  The implicit segment may as well be entered
    field by field, in between the others. -/
theorem normal_forms_are_fixed (s : Specification) :
    (∀ before after, before ++ after = s.normalize.segments.map Entry.ofSegment →
      (withRelation s.normalize.relation before after).SameFilter s) ∧
    ((fieldNames s.entries).Nonempty ∨ (scalarPlaces s.entries).Nonempty →
      ∃ fields, s.normalize.segments = .keyed fields :: s.entries.filterMap Entry.explicit? ∧
        ∀ before after,
          Interleaved (fields.map Entry.ofPair)
            ((s.entries.filterMap Entry.explicit?).map Entry.ofSegment) (before ++ after) →
          (withRelation s.normalize.relation before after).SameFilter s) := by
  have hnormal := normalize_eq_ofParts s
  have hexplicit : s.entries.filterMap Entry.segment? = s.entries.filterMap Entry.explicit? :=
    congrArg (List.filterMap · s.entries) (funext fun e => e.explicit?_eq_segment?.symm)
  rw [hexplicit] at hnormal
  refine ⟨fun before after hentries => sameFilter_of_normalize_eq ?_, fun himplicit => ?_⟩
  · -- no field is entered by its name
    have hkeys : (Fields.keys []).Nodup := List.nodup_nil
    have hentered : Entered [] s.normalize.segments (before ++ after) :=
      ⟨by rw [hentries]; exact .of_left_nil _, fun _ hfield => absurd hfield List.not_mem_nil⟩
    rw [normalize_withRelation s.normalize.relation hkeys hentered]
    rfl
  · have hfields := (isEmpty_writeAll_givenFields (indexed_scalarIndex s.entries)).not.mpr
      (not_not.mpr himplicit)
    refine ⟨.writeAll (givenFields (scalarIndex s.entries) s.entries), ?_,
      fun before after hentries => sameFilter_of_normalize_eq ?_⟩
    · rw [hnormal, Normal.ofParts, if_neg hfields]
      rfl
    · have hrelation : s.normalize.relation = givenRelation s.entries := by rw [hnormal]; rfl
      rw [hnormal, ← hrelation]
      exact normalize_withRelation _ (Fields.nodup_keys_writeAll _)
        ⟨hentries, fun _ => sameWord_of_mem_writeAll⟩

/-- A scalar that has lost its index to a field, an empty object and a list. -/
def displaced : Specification :=
  empty.segment (.string "x") |>.field "0" (.string "y") |>.relation (.string "or")
    |>.segment (.object []) |>.segment (.array [.null])

/-- The displaced scalar is entered under the index that it was given, between the segments
    and with the relation in the middle; or its segment is entered as a whole. -/
theorem normal_forms_are_fixed_displaced :
    let fields : Fields := [("1", .string "x"), ("0", .string "y")]
    displaced.normalize = ⟨.any, [.keyed fields, .keyed [], .positional [.null]]⟩ ∧
      (scalarPlaces displaced.entries).Nonempty ∧
      (withRelation .any [.unnamed (.object []), .named "1" (.string "x")]
        [.unnamed (.array [.null]), .named "0" (.string "y")]).SameFilter displaced ∧
      (withRelation .any [.unnamed (.object fields)]
        [.unnamed (.object []), .unnamed (.array [.null])]).SameFilter displaced := by
  intro fields
  have hnormal : displaced.normalize
      = ⟨.any, [.keyed fields, .keyed [], .positional [.null]]⟩ := by decide +kernel
  have hscalar : (scalarPlaces displaced.entries).Nonempty :=
    ⟨0, mem_scalarPlaces.mpr ⟨.string "x", rfl, rfl⟩⟩
  obtain ⟨hsegments, hfields⟩ := normal_forms_are_fixed displaced
  obtain ⟨fields', hfields', hentered⟩ := hfields (.inr hscalar)
  simp only [hnormal, List.cons.injEq, Segment.keyed.injEq] at hfields' hsegments hentered
  obtain ⟨rfl, -⟩ := hfields'
  exact ⟨hnormal, hscalar, hentered _ _ (.right (.left (.right (.left .nil)))), hsegments _ _ rfl⟩

end Specification
end RelatedFilter
