/-
  RelatedFilter.Proofs.Specification.Normal

  What taking a specification apart gives.  Every entry holds the relation, a
  segment, or a field of the implicit segment, and the fields are written one
  after another (`implicitFields_eq_writeAll`), so that a key stands where it was
  first written and has the value it was last given.  An unnamed scalar has an
  index of its own that no other entry has any use for (`indexed_scalarIndex`).
  So nothing is lost, invented or overwritten (`normalize_takes_apart`).
-/
import RelatedFilter.Proofs.Specification.FreeKey
import Mathlib

namespace RelatedFilter

/-! ## Words -/

/-- The same word, whatever the case of its ASCII letters. -/
def sameWord (a b : String) : Bool :=
  a.toList.map Char.toLower == b.toList.map Char.toLower

/-- Digits have no case. -/
theorem toLower_of_isDigit {c : Char} (h : c.isDigit = true) : c.toLower = c := by
  have hupper : ¬ (c.val ≥ 'A'.val ∧ c.val ≤ 'Z'.val) := by
    simp only [Char.isDigit, Bool.and_eq_true, decide_eq_true_eq] at h
    rintro ⟨hA, -⟩
    exact absurd (UInt32.le_trans hA h.2) (by decide)
  rw [Char.toLower, dif_neg hupper]

/-- A decimal is another word than the relation. -/
theorem sameWord_toString (n : Nat) : sameWord (toString n) "relation" = false := by
  have hdigits : (toString n).toList.all Char.isDigit = true := by
    have hindex := Specification.isIndex_toString n
    rw [Entry.isIndex, Bool.and_eq_true] at hindex
    exact hindex.2
  have hlower : 'r' ∉ (toString n).toList.map Char.toLower := by
    intro hmem
    obtain ⟨c, hc, hr⟩ := List.mem_map.mp hmem
    have hdigit := List.all_eq_true.mp hdigits c hc
    rw [toLower_of_isDigit hdigit] at hr
    rw [hr] at hdigit
    cases hdigit
  have hrelation : 'r' ∈ "relation".toList.map Char.toLower := by decide
  rw [sameWord, beq_eq_false_iff_ne]
  intro heq
  exact hlower (heq ▸ hrelation)

namespace Relation

theorem isKey_eq_sameWord (word : String) : isKey word = sameWord word "relation" := by
  have hrelation : "relation".toList.map Char.toLower
      = ['r', 'e', 'l', 'a', 't', 'i', 'o', 'n'] := by decide
  rw [isKey, sameWord, hrelation, beq_eq_decide]

theorem ofText_eq_any_iff (word : String) : ofText word = .any ↔ sameWord word "or" = true := by
  have hor : sameWord word "or" = true ↔ word.toList.map Char.toLower = ['o', 'r'] := by
    simp [sameWord]
  have hupper : word.toList.map Char.toUpper = ['O', 'R'] ↔
      word.toList.map Char.toLower = ['o', 'r'] := by
    constructor <;> intro h
    · have hlower := congrArg (List.map Char.toLower) h
      simpa [Function.comp_def, Char.toLower_toUpper_eq_toLower] using hlower
    · have hupper := congrArg (List.map Char.toUpper) h
      simpa [Function.comp_def, Char.toUpper_toLower_eq_toUpper] using hupper
  rw [hor, ← hupper, ofText]
  split <;> simp_all

theorem ofJson_eq_any_iff (value : Json) :
    ofJson value = .any ↔ ∃ word, value = .string word ∧ sameWord word "or" = true := by
  cases value <;> simp [ofJson, ofText_eq_any_iff]

end Relation

/-! ## Fields written one after another -/

namespace Fields

/-- The fields after all of `given` were written, in order. -/
def writeAll (given : Fields) : Fields :=
  given.foldl (fun fields (key, value) => fields.set key value) []

theorem writeAll_snoc (given : Fields) (key : String) (value : Json) :
    writeAll (given ++ [(key, value)]) = (writeAll given).set key value := by
  simp [writeAll]

/-- A key has the value that was written last. -/
theorem get?_writeAll (given : Fields) (key : String) :
    (writeAll given).get? key = Fields.get? given.reverse key := by
  induction given using List.reverseRecOn with
  | nil => rfl
  | append_singleton given field ih =>
    obtain ⟨k, v⟩ := field
    rw [writeAll_snoc, get?_set, ih, List.reverse_append, List.reverse_singleton,
      List.singleton_append, get?_cons]

/-- Keys stand in the order in which they were first written. -/
theorem keys_writeAll (given : Fields) : (writeAll given).keys = (keys given).eraseDups := by
  induction given using List.reverseRecOn with
  | nil => rfl
  | append_singleton given field ih =>
    obtain ⟨k, v⟩ := field
    have hkeys : Fields.keys (given ++ [(k, v)]) = keys given ++ [k] := by simp [keys]
    rw [writeAll_snoc, keys_set, ih, hkeys, List.eraseDups_append]
    by_cases hk : k ∈ keys given <;> simp [List.removeAll, List.eraseDups_cons, hk]

/-- Every key once. -/
theorem nodup_keys_writeAll (given : Fields) : (writeAll given).keys.Nodup := by
  induction given using List.reverseRecOn with
  | nil => exact List.nodup_nil
  | append_singleton given field ih =>
    obtain ⟨k, v⟩ := field
    rw [writeAll_snoc, keys_set]
    split
    · exact ih
    · rename_i hk
      exact List.nodup_append'.mpr ⟨ih, List.nodup_singleton k, by simpa using hk⟩

theorem mem_keys_writeAll {given : Fields} {key : String} :
    key ∈ (writeAll given).keys ↔ key ∈ keys given := by
  rw [keys_writeAll, List.mem_eraseDups]

/-- A key that is not there is put at the end. -/
theorem set_of_notMem {fields : Fields} {key : String} (h : key ∉ keys fields) (value : Json) :
    set key value fields = fields ++ [(key, value)] := by
  induction fields with
  | nil => rfl
  | cons field rest ih =>
    obtain ⟨k, v⟩ := field
    simp only [keys, List.map_cons, List.mem_cons, not_or] at h
    rw [set, if_neg (Ne.symm h.1), ih h.2]
    rfl

/-- Fields with different keys are written as they are given. -/
theorem writeAll_of_nodup {given : Fields} (h : (keys given).Nodup) : writeAll given = given := by
  induction given using List.reverseRecOn with
  | nil => rfl
  | append_singleton given field ih =>
    obtain ⟨k, v⟩ := field
    have hkeys : keys (given ++ [(k, v)]) = keys given ++ [k] := by simp [keys]
    rw [hkeys, List.nodup_append'] at h
    obtain ⟨hgiven, -, hdisjoint⟩ := h
    have hnew : k ∉ keys given := fun hmem => hdisjoint hmem (List.mem_singleton_self k)
    rw [writeAll_snoc, ih hgiven, set_of_notMem hnew]

/-- Where all values under a key are the same, it has that value. -/
theorem get?_eq_some_of_forall {fields : Fields} {key : String} {value : Json}
    (hmem : (key, value) ∈ fields) (hall : ∀ other, (key, other) ∈ fields → other = value) :
    fields.get? key = some value := by
  induction fields with
  | nil => cases hmem
  | cons field rest ih =>
    obtain ⟨k, v⟩ := field
    rw [get?_cons]
    split
    · rename_i hk
      subst hk
      rw [hall v List.mem_cons_self]
    · rename_i hk
      refine ih ?_ fun other hother => hall other (List.mem_cons_of_mem _ hother)
      rcases List.mem_cons.mp hmem with heq | hmem
      · exact absurd (congrArg Prod.fst heq) hk
      · exact hmem

end Fields

/-! ## What entries hold -/

namespace Entry

/-- Does the entry hold a value without a name that is no segment either? -/
def isScalar : Entry → Bool
  | .named _ _ => false
  | .unnamed value => !value.isContainer

/-- The value of an entry whose key passes a test. -/
def valueUnder? (names : String → Bool) : Entry → Option Json
  | .named key value => if names key then some value else none
  | .unnamed _ => none

/-- The segment that an entry holds: the fields of an object, the values of an
    array. -/
def explicit? : Entry → Option Segment
  | .unnamed (.object fields) => some (.keyed fields)
  | .unnamed (.array values) => some (.positional values)
  | _ => none

/-- The field that an entry holds, where an unnamed scalar has an index. -/
def field? (index : Nat) : Entry → Option (String × Json)
  | .named key value => if sameWord key "relation" then none else some (key, value)
  | .unnamed value => if value.isContainer then none else some (toString index, value)

theorem explicit?_eq_segment? (e : Entry) : e.explicit? = e.segment? := by
  cases e with
  | named key value => rfl
  | unnamed value => cases value <;> rfl

end Entry

namespace Specification

/-- The value of the last entry whose key passes a test. -/
def lastUnder (names : String → Bool) (entries : List Entry) : Option Json :=
  entries.reverse.findSome? (Entry.valueUnder? names)

/-- The keys of the named entries, apart from the relation. -/
def fieldNames (entries : List Entry) : Finset String :=
  (entries.filterMap fun
    | .named key _ => if sameWord key "relation" then none else some key
    | .unnamed _ => none).toFinset

/-- Where the unnamed scalars stand. -/
def scalarPlaces (entries : List Entry) : Finset Nat :=
  (Finset.range entries.length).filter fun place => entries[place]?.any Entry.isScalar

/-- Every unnamed scalar has an index: the least one from its place on whose
    decimal is neither a key of a named entry, wherever that stands, nor the key of
    an unnamed scalar before it. -/
def Indexed (entries : List Entry) (index : Nat → Nat) : Prop :=
  ∀ place ∈ scalarPlaces entries,
    IsLeast {n | place ≤ n ∧ toString n ∉ fieldNames entries ∧
      ∀ earlier ∈ scalarPlaces entries, earlier < place → index earlier ≠ n} (index place)

/-- The fields that entries hold, in order. -/
def givenFields (index : Nat → Nat) (entries : List Entry) : Fields :=
  entries.zipIdx.filterMap fun (e, place) => e.field? (index place)

theorem lastUnder_append (names : String → Bool) (entries later : List Entry) :
    lastUnder names (entries ++ later) = (lastUnder names later).or (lastUnder names entries) := by
  rw [lastUnder, List.reverse_append, List.findSome?_append]
  rfl

theorem lastUnder_singleton (names : String → Bool) (e : Entry) :
    lastUnder names [e] = e.valueUnder? names := by
  rw [lastUnder, List.reverse_singleton, List.findSome?_singleton]

theorem lastUnder_snoc (names : String → Bool) (entries : List Entry) (e : Entry) :
    lastUnder names (entries ++ [e])
      = (e.valueUnder? names).or (lastUnder names entries) := by
  rw [lastUnder_append, lastUnder_singleton]

theorem lastUnder_cons (names : String → Bool) (e : Entry) (later : List Entry) :
    lastUnder names (e :: later) = (lastUnder names later).or (e.valueUnder? names) := by
  rw [← List.singleton_append, lastUnder_append, lastUnder_singleton]

/-- There is a last value if there is any. -/
theorem isSome_lastUnder {names : String → Bool} {entries : List Entry} {key : String}
    {value : Json} (he : .named key value ∈ entries) (hkey : names key = true) :
    (lastUnder names entries).isSome = true := by
  rw [lastUnder, List.findSome?_isSome_iff]
  exact ⟨_, List.mem_reverse.mpr he, by simp [Entry.valueUnder?, hkey]⟩

/-- There is none if no key passes the test. -/
theorem lastUnder_eq_none {names : String → Bool} {entries : List Entry}
    (h : ∀ key value, .named key value ∈ entries → names key = false) :
    lastUnder names entries = none := by
  rw [lastUnder, List.findSome?_eq_none_iff]
  intro e he
  cases e with
  | unnamed value => rfl
  | named key value => simp [Entry.valueUnder?, h key value (List.mem_reverse.mp he)]

theorem givenFields_snoc (index : Nat → Nat) (entries : List Entry) (e : Entry) :
    givenFields index (entries ++ [e])
      = givenFields index entries ++ (e.field? (index entries.length)).toList := by
  rw [givenFields, List.zipIdx_append, List.filterMap_append, givenFields]
  simp only [List.zipIdx_singleton, Nat.zero_add, List.filterMap_cons, List.filterMap_nil]
  cases e.field? (index entries.length) <;> rfl

theorem mem_fieldNames {entries : List Entry} {key : String} :
    key ∈ fieldNames entries ↔
      sameWord key "relation" = false ∧ ∃ value, .named key value ∈ entries := by
  simp only [fieldNames, List.mem_toFinset, List.mem_filterMap]
  constructor
  · rintro ⟨e, he, hkey⟩
    cases e with
    | named k value =>
      simp only [Option.ite_none_left_eq_some, Option.some.injEq] at hkey
      obtain ⟨hrelation, rfl⟩ := hkey
      exact ⟨by simpa using hrelation, value, he⟩
    | unnamed value => simp at hkey
  · rintro ⟨hrelation, value, he⟩
    exact ⟨.named key value, he, by simp [hrelation]⟩

theorem mem_scalarPlaces {entries : List Entry} {place : Nat} :
    place ∈ scalarPlaces entries ↔
      ∃ value, entries[place]? = some (.unnamed value) ∧ value.isContainer = false := by
  simp only [scalarPlaces, Finset.mem_filter, Finset.mem_range, Option.any_eq_true]
  constructor
  · rintro ⟨-, e, he, hscalar⟩
    cases e with
    | named key value => simp [Entry.isScalar] at hscalar
    | unnamed value => exact ⟨value, he, by simpa [Entry.isScalar] using hscalar⟩
  · rintro ⟨value, he, hscalar⟩
    exact ⟨(List.getElem?_eq_some_iff.mp he).1, _, he, by simp [Entry.isScalar, hscalar]⟩

theorem mem_scalarPlaces_take {entries : List Entry} {place count : Nat} :
    place ∈ scalarPlaces (entries.take count) ↔ place ∈ scalarPlaces entries ∧ place < count := by
  simp only [mem_scalarPlaces, List.getElem?_take]
  by_cases h : place < count <;> simp [h]

theorem mem_scalarPlaces_snoc {entries : List Entry} {e : Entry} {place : Nat}
    (h : place ∈ scalarPlaces entries) : place ∈ scalarPlaces (entries ++ [e]) := by
  obtain ⟨value, he, hscalar⟩ := mem_scalarPlaces.mp h
  have hplace := (List.getElem?_eq_some_iff.mp he).1
  exact mem_scalarPlaces.mpr ⟨value, by rw [List.getElem?_append_left hplace, he], hscalar⟩

theorem fieldNames_eq (entries : List Entry) :
    fieldNames entries = (fieldKeys entries).toFinset := by
  have hkey : (fun
      | .named key _ => if sameWord key "relation" then none else some key
      | .unnamed _ => none) = Entry.fieldKey? := by
    funext e
    cases e with
    | named key value => rw [Entry.fieldKey?, Relation.isKey_eq_sameWord]
    | unnamed value => rfl
  rw [fieldNames, fieldKeys, hkey]

theorem mem_givenFields {index : Nat → Nat} {entries : List Entry} {field : String × Json} :
    field ∈ givenFields index entries ↔
      ∃ place, ∃ e : Entry, entries[place]? = some e ∧ e.field? (index place) = some field := by
  simp only [givenFields, List.mem_filterMap, Prod.exists, List.mem_zipIdx_iff_getElem?]
  exact exists_comm

/-- Every key comes from a name or from an unnamed scalar. -/
theorem mem_keys_givenFields {index : Nat → Nat} {entries : List Entry} {key : String} :
    key ∈ Fields.keys (givenFields index entries) ↔
      key ∈ fieldNames entries ∨ ∃ place ∈ scalarPlaces entries, toString (index place) = key := by
  simp only [Fields.keys, List.mem_map, mem_givenFields, mem_fieldNames]
  constructor
  · rintro ⟨⟨_, value⟩, ⟨place, e, he, hfield⟩, rfl⟩
    cases e with
    | named k v =>
      simp only [Entry.field?, Option.ite_none_left_eq_some, Option.some.injEq,
        Prod.mk.injEq] at hfield
      obtain ⟨hrelation, rfl, rfl⟩ := hfield
      exact .inl ⟨by simpa using hrelation, v, List.mem_of_getElem? he⟩
    | unnamed v =>
      simp only [Entry.field?, Option.ite_none_left_eq_some, Option.some.injEq,
        Prod.mk.injEq] at hfield
      obtain ⟨hscalar, hkey, -⟩ := hfield
      exact .inr ⟨place, mem_scalarPlaces.mpr ⟨v, he, by simpa using hscalar⟩, hkey⟩
  · rintro (⟨hrelation, value, he⟩ | ⟨place, hplace, rfl⟩)
    · obtain ⟨place, hplace⟩ := List.mem_iff_getElem?.mp he
      exact ⟨(key, value), ⟨place, _, hplace, by simp [Entry.field?, hrelation]⟩, rfl⟩
    · obtain ⟨value, he, hscalar⟩ := mem_scalarPlaces.mp hplace
      exact ⟨(toString (index place), value), ⟨place, _, he, by simp [Entry.field?, hscalar]⟩, rfl⟩

/-- Only the indices of unnamed scalars count. -/
theorem givenFields_congr {entries : List Entry} {index index' : Nat → Nat}
    (h : ∀ place ∈ scalarPlaces entries, index place = index' place) :
    givenFields index entries = givenFields index' entries := by
  rw [givenFields, givenFields]
  refine List.filterMap_congr fun ⟨e, place⟩ hmem => ?_
  have he := List.mem_zipIdx_iff_getElem?.mp hmem
  cases e with
  | named key value => rfl
  | unnamed value =>
    cases hcontainer : value.isContainer with
    | true => simp [Entry.field?, hcontainer]
    | false => simp only [h place (mem_scalarPlaces.mpr ⟨value, he, hcontainer⟩)]

/-! ## The fields of the implicit segment -/

/-- Entries are taken one after another. -/
theorem implicitFields_append (named : List String) (done : Fields) (place : Nat)
    (first rest : List Entry) :
    implicitFields named done place (first ++ rest)
      = implicitFields named (implicitFields named done place first) (place + first.length)
          rest := by
  induction first generalizing done place with
  | nil => rfl
  | cons e first ih =>
    have hplace : place + (first.length + 1) = place + 1 + first.length := by omega
    cases e with
    | named key value => simp only [List.cons_append, implicitFields, ih, List.length_cons, hplace]
    | unnamed value => simp only [List.cons_append, implicitFields, ih, List.length_cons, hplace]

/-- An entry writes the field that it holds. -/
theorem implicitFields_singleton (named : List String) (done : Fields) (place : Nat) (e : Entry) :
    implicitFields named done place [e]
      = (e.field? (freeIndex place (named ++ done.keys))).elim done
          fun (key, value) => done.set key value := by
  cases e with
  | named key value =>
    simp only [implicitFields, Entry.field?, Relation.isKey_eq_sameWord]
    split <;> rfl
  | unnamed value =>
    simp only [implicitFields, Entry.field?, freeKey_eq]
    split <;> rfl

/-- The fields that the entries before a place have given. -/
def fieldsBefore (entries : List Entry) (place : Nat) : Fields :=
  implicitFields (fieldKeys entries) [] 0 (entries.take place)

/-- The index of the unnamed scalar at a place. -/
def scalarIndex (entries : List Entry) (place : Nat) : Nat :=
  freeIndex place (fieldKeys entries ++ (fieldsBefore entries place).keys)

/-- The entry at a place adds the field that it holds. -/
theorem fieldsBefore_succ {entries : List Entry} {place : Nat} {e : Entry}
    (he : entries[place]? = some e) :
    fieldsBefore entries (place + 1)
      = (e.field? (scalarIndex entries place)).elim (fieldsBefore entries place)
          fun (key, value) => (fieldsBefore entries place).set key value := by
  have hlength : (entries.take place).length = place :=
    List.length_take_of_le (List.getElem?_eq_some_iff.mp he).1.le
  rw [fieldsBefore, List.take_add_one, he, Option.toList_some, implicitFields_append, hlength,
    Nat.zero_add, implicitFields_singleton]
  rfl

/-- The fields are those that the entries hold, written one after another. -/
theorem fieldsBefore_eq_writeAll (entries : List Entry) (place : Nat) :
    fieldsBefore entries place
      = Fields.writeAll (givenFields (scalarIndex entries) (entries.take place)) := by
  induction place with
  | zero => rfl
  | succ place ih =>
    have htake := List.take_add_one (l := entries) (i := place)
    cases he : entries[place]? with
    | none =>
      rw [he, Option.toList_none, List.append_nil] at htake
      rw [fieldsBefore, htake]
      exact ih
    | some e =>
      rw [he, Option.toList_some] at htake
      have hlength : (entries.take place).length = place :=
        List.length_take_of_le (List.getElem?_eq_some_iff.mp he).1.le
      rw [fieldsBefore_succ he, htake, givenFields_snoc, hlength, ih]
      cases e.field? (scalarIndex entries place) with
      | none => simp
      | some field =>
        rw [Option.toList_some, Fields.writeAll_snoc]
        rfl

theorem implicitFields_eq_writeAll (entries : List Entry) :
    implicitFields (fieldKeys entries) [] 0 entries
      = Fields.writeAll (givenFields (scalarIndex entries) entries) := by
  have hall := fieldsBefore_eq_writeAll entries entries.length
  rwa [fieldsBefore, List.take_length] at hall

/-! ## The indices of unnamed scalars -/

theorem indexed_scalarIndex (entries : List Entry) : Indexed entries (scalarIndex entries) := by
  intro place hplace
  -- what has a key already: a named entry anywhere, or an unnamed scalar before
  have htaken : ∀ n, toString n ∉ fieldKeys entries ++ (fieldsBefore entries place).keys ↔
      toString n ∉ fieldNames entries ∧
        ∀ earlier ∈ scalarPlaces entries, earlier < place → scalarIndex entries earlier ≠ n := by
    intro n
    have hnamed : toString n ∈ fieldKeys entries ↔ toString n ∈ fieldNames entries := by
      rw [fieldNames_eq, List.mem_toFinset]
    have hsub : toString n ∈ fieldNames (entries.take place) → toString n ∈ fieldNames entries := by
      simp only [mem_fieldNames]
      rintro ⟨hrelation, value, he⟩
      exact ⟨hrelation, value, List.mem_of_mem_take he⟩
    rw [List.mem_append, hnamed, fieldsBefore_eq_writeAll, Fields.mem_keys_writeAll,
      mem_keys_givenFields]
    simp only [mem_scalarPlaces_take, toString_nat_injective.eq_iff]
    grind
  have hleast := isLeast_freeIndex place (fieldKeys entries ++ (fieldsBefore entries place).keys)
  simp only [htaken] at hleast
  exact hleast

namespace Indexed

variable {entries : List Entry} {index : Nat → Nat}

theorem notMem_fieldNames (h : Indexed entries index) {place : Nat}
    (hplace : place ∈ scalarPlaces entries) : toString (index place) ∉ fieldNames entries :=
  (h place hplace).1.2.1

/-- No two unnamed scalars have one index. -/
theorem injOn (h : Indexed entries index) : Set.InjOn index (scalarPlaces entries) := by
  intro place hplace other hother heq
  rcases Nat.lt_trichotomy place other with hlt | hsame | hlt
  · exact absurd heq ((h other hother).1.2.2 place hplace hlt)
  · exact hsame
  · exact absurd heq.symm ((h place hplace).1.2.2 other hother hlt)

/-- Where no field is named by an index, every unnamed scalar has its place for index. -/
theorem eq_place (h : Indexed entries index) (hnames : ∀ n : Nat, toString n ∉ fieldNames entries)
    {place : Nat} (hplace : place ∈ scalarPlaces entries) : index place = place := by
  -- the scalars before it have their places, so its own is free
  induction place using Nat.strongRecOn with
  | _ place ih =>
    refine (h place hplace).unique ⟨⟨Nat.le_refl place, hnames place, ?_⟩, fun n hn => hn.1⟩
    intro earlier hearlier hlt
    rw [ih earlier hlt hearlier]
    exact hlt.ne

end Indexed

/-! ## The values of fields -/

/-- A key that no unnamed scalar has is left to the named entries. -/
theorem get?_reverse_givenFields {entries : List Entry} {index : Nat → Nat} {key : String}
    (hrelation : sameWord key "relation" = false)
    (hscalar : ∀ place ∈ scalarPlaces entries, toString (index place) ≠ key) :
    Fields.get? (givenFields index entries).reverse key = lastUnder (· == key) entries := by
  induction entries using List.reverseRecOn with
  | nil => rfl
  | append_singleton entries e ih =>
    have hbefore := ih fun place hplace => hscalar place (mem_scalarPlaces_snoc hplace)
    rw [givenFields_snoc, lastUnder_snoc, List.reverse_append, ← hbefore]
    cases e with
    | named k value =>
      by_cases hk : key = k
      · subst hk
        simp [Entry.field?, Entry.valueUnder?, hrelation, Fields.get?_cons]
      · have hk' : (k == key) = false := beq_eq_false_iff_ne.mpr fun h => hk h.symm
        cases hrel : sameWord k "relation" <;>
          simp [Entry.field?, Entry.valueUnder?, hrel, hk, hk', Fields.get?_cons]
    | unnamed value =>
      cases hcontainer : value.isContainer with
      | true => simp [Entry.field?, Entry.valueUnder?, hcontainer]
      | false =>
        have hlast : entries.length ∈ scalarPlaces (entries ++ [.unnamed value]) :=
          mem_scalarPlaces.mpr ⟨value, List.getElem?_concat_length, hcontainer⟩
        have hfield : Entry.field? (index entries.length) (.unnamed value)
            = some (toString (index entries.length), value) := by simp [Entry.field?, hcontainer]
        rw [hfield, Option.toList_some, List.reverse_singleton, List.singleton_append,
          Fields.get?_cons, if_neg (hscalar entries.length hlast).symm]
        rfl

/-- What is named has the last value that was given under its name. -/
theorem get?_named {entries : List Entry} {index : Nat → Nat} (h : Indexed entries index)
    {key : String} (hkey : key ∈ fieldNames entries) :
    (Fields.writeAll (givenFields index entries)).get? key = lastUnder (· == key) entries := by
  rw [Fields.get?_writeAll]
  refine get?_reverse_givenFields (mem_fieldNames.mp hkey).1 ?_
  rintro place hplace rfl
  exact h.notMem_fieldNames hplace hkey

/-- There is a value under every name. -/
theorem exists_lastUnder {entries : List Entry} {key : String} (hkey : key ∈ fieldNames entries) :
    ∃ value, lastUnder (· == key) entries = some value := by
  obtain ⟨-, value, he⟩ := mem_fieldNames.mp hkey
  exact Option.isSome_iff_exists.mp (isSome_lastUnder he (beq_self_eq_true key))

/-- An unnamed scalar is what its index leads to: no other entry writes there. -/
theorem get?_scalar {entries : List Entry} {index : Nat → Nat} (h : Indexed entries index)
    {place : Nat} {value : Json} (he : entries[place]? = some (.unnamed value))
    (hscalar : value.isContainer = false) :
    (Fields.writeAll (givenFields index entries)).get? (toString (index place)) = some value := by
  have hplace : place ∈ scalarPlaces entries := mem_scalarPlaces.mpr ⟨value, he, hscalar⟩
  have hfield : (toString (index place), value) ∈ givenFields index entries :=
    mem_givenFields.mpr ⟨place, _, he, by simp [Entry.field?, hscalar]⟩
  rw [Fields.get?_writeAll]
  refine Fields.get?_eq_some_of_forall (List.mem_reverse.mpr hfield) ?_
  intro other hother
  obtain ⟨place', e, he', hfield'⟩ := mem_givenFields.mp (List.mem_reverse.mp hother)
  cases e with
  | named k v =>
    simp only [Entry.field?, Option.ite_none_left_eq_some, Option.some.injEq,
      Prod.mk.injEq] at hfield'
    obtain ⟨hrelation, rfl, -⟩ := hfield'
    have hnamed := mem_fieldNames.mpr ⟨by simpa using hrelation, v, List.mem_of_getElem? he'⟩
    exact absurd hnamed (h.notMem_fieldNames hplace)
  | unnamed v =>
    simp only [Entry.field?, Option.ite_none_left_eq_some, Option.some.injEq,
      Prod.mk.injEq] at hfield'
    obtain ⟨hcontainer, hindex, rfl⟩ := hfield'
    have hplace' : place' ∈ scalarPlaces entries :=
      mem_scalarPlaces.mpr ⟨v, he', by simpa using hcontainer⟩
    have hsame := h.injOn hplace' hplace (toString_nat_injective hindex)
    rw [hsame, he, Option.some.injEq, Entry.unnamed.injEq] at he'
    exact he'.symm

/-- There are as many fields as names and unnamed scalars. -/
theorem length_writeAll_givenFields {entries : List Entry} {index : Nat → Nat}
    (h : Indexed entries index) :
    (Fields.writeAll (givenFields index entries)).length
      = (fieldNames entries).card + (scalarPlaces entries).card := by
  have hkeys : (Fields.writeAll (givenFields index entries)).keys.toFinset
      = fieldNames entries ∪ (scalarPlaces entries).image fun place => toString (index place) := by
    ext key
    simp only [List.mem_toFinset, Fields.mem_keys_writeAll, mem_keys_givenFields, Finset.mem_union,
      Finset.mem_image]
  have hdisjoint : Disjoint (fieldNames entries)
      ((scalarPlaces entries).image fun place => toString (index place)) := by
    rw [Finset.disjoint_right]
    intro key hkey
    obtain ⟨place, hplace, rfl⟩ := Finset.mem_image.mp hkey
    exact h.notMem_fieldNames hplace
  have hinjective : Set.InjOn (fun place => toString (index place)) (scalarPlaces entries) :=
    toString_nat_injective.comp_injOn h.injOn
  calc (Fields.writeAll (givenFields index entries)).length
      = (Fields.writeAll (givenFields index entries)).keys.length := by simp [Fields.keys]
    _ = (Fields.writeAll (givenFields index entries)).keys.toFinset.card :=
        (List.toFinset_card_of_nodup (Fields.nodup_keys_writeAll _)).symm
    _ = (fieldNames entries).card + (scalarPlaces entries).card := by
        rw [hkeys, Finset.card_union_of_disjoint hdisjoint, Finset.card_image_of_injOn hinjective]

/-- There are no fields exactly if there are neither names nor unnamed scalars. -/
theorem isEmpty_writeAll_givenFields {entries : List Entry} {index : Nat → Nat}
    (h : Indexed entries index) :
    (Fields.writeAll (givenFields index entries)).isEmpty = true ↔
      ¬ ((fieldNames entries).Nonempty ∨ (scalarPlaces entries).Nonempty) := by
  rw [List.isEmpty_iff_length_eq_zero, length_writeAll_givenFields h]
  simp [Finset.not_nonempty_iff_eq_empty]

/-! ## Taking a specification apart -/

/-- The relation that entries give: that of the last entry with its name. -/
def givenRelation (entries : List Entry) : Relation :=
  ((lastUnder (sameWord · "relation") entries).map Relation.ofJson).getD .all

theorem relationOf_eq_givenRelation (entries : List Entry) :
    relationOf entries = givenRelation entries := by
  induction entries using List.reverseRecOn with
  | nil => rfl
  | append_singleton entries e ih =>
    have hstep : relationOf (entries ++ [e]) = e.relation (relationOf entries) := by
      simp [relationOf]
    rw [hstep, ih, givenRelation, givenRelation, lastUnder_snoc]
    cases e with
    | named key value =>
      simp only [Entry.relation, Entry.valueUnder?, Relation.isKey_eq_sameWord]
      split <;> rfl
    | unnamed value => rfl

theorem givenRelation_eq_any_iff (entries : List Entry) :
    givenRelation entries = .any ↔
      ∃ word, lastUnder (sameWord · "relation") entries = some (.string word)
        ∧ sameWord word "or" = true := by
  rw [givenRelation]
  cases lastUnder (sameWord · "relation") entries with
  | none => simp
  | some value => simp [Relation.ofJson_eq_any_iff]

/-- A relation, the implicit segment if it has any fields, and the segments behind it. -/
def Normal.ofParts (relation : Relation) (fields : Fields) (segments : List Segment) : Normal :=
  ⟨relation, (if fields.isEmpty then [] else [.keyed fields]) ++ segments⟩

/-- The parts are what the entries hold. -/
theorem normalize_eq_ofParts (s : Specification) :
    s.normalize = .ofParts (givenRelation s.entries)
      (.writeAll (givenFields (scalarIndex s.entries) s.entries))
      (s.entries.filterMap Entry.segment?) := by
  rw [normalize, Normal.ofParts, implicitFields_eq_writeAll, relationOf_eq_givenRelation]
  split <;> rfl

/-- What a specification is taken apart into: nothing is lost, invented or
    overwritten. -/
structure TakenApart (entries : List Entry) (index : Nat → Nat) (fields : Fields)
    (normal : Normal) : Prop where
  /-- The last entry called `relation`, in any case, says whether it is `OR`. -/
  relation : normal.relation = .any ↔
    ∃ word, lastUnder (sameWord · "relation") entries = some (.string word)
      ∧ sameWord word "or" = true
  /-- In front of the unnamed objects and arrays stands the implicit segment, if an
      entry holds a field of it. -/
  segments : normal.segments =
    (if (fieldNames entries).Nonempty ∨ (scalarPlaces entries).Nonempty then [.keyed fields]
      else []) ++ entries.filterMap Entry.explicit?
  size : fields.length = (fieldNames entries).card + (scalarPlaces entries).card
  distinct : fields.keys.Nodup
  /-- A name has the last value given under it. -/
  named : ∀ key ∈ fieldNames entries, ∃ value,
    lastUnder (· == key) entries = some value ∧ fields.get? key = some value
  /-- An unnamed scalar has a field of its own. -/
  scalar : ∀ place ∈ scalarPlaces entries, ∃ value,
    entries[place]? = some (.unnamed value) ∧ fields.get? (toString (index place)) = some value
  /-- A key stands where the first entry has put it. -/
  order : fields.keys = (givenFields index entries).keys.eraseDups

/-- Every specification is taken apart into what its entries hold.  Unnamed
    scalars are kept under indices that are free of all names and of each other. -/
theorem normalize_takes_apart (s : Specification) :
    ∃ (index : Nat → Nat) (fields : Fields),
      Indexed s.entries index ∧ TakenApart s.entries index fields s.normalize := by
  have hindexed := indexed_scalarIndex s.entries
  have hlength := length_writeAll_givenFields hindexed
  refine ⟨scalarIndex s.entries, _, hindexed, ?relation, ?segments, hlength,
    Fields.nodup_keys_writeAll _, ?named, ?scalar, Fields.keys_writeAll _⟩
  case relation =>
    rw [← givenRelation_eq_any_iff, ← relationOf_eq_givenRelation]
    rfl
  case segments =>
    have hexplicit : s.entries.filterMap Entry.segment? = s.entries.filterMap Entry.explicit? :=
      congrArg (List.filterMap · s.entries) (funext fun e => e.explicit?_eq_segment?.symm)
    simp only [normalize, implicitFields_eq_writeAll, isEmpty_writeAll_givenFields hindexed,
      hexplicit, ite_not]
    split <;> rfl
  case named =>
    intro key hkey
    obtain ⟨value, hvalue⟩ := exists_lastUnder hkey
    exact ⟨value, hvalue, (get?_named hindexed hkey).trans hvalue⟩
  case scalar =>
    intro place hplace
    obtain ⟨value, he, hscalar⟩ := mem_scalarPlaces.mp hplace
    exact ⟨value, he, get?_scalar hindexed he hscalar⟩

/-- A scalar that finds its index taken takes the next one, and displaces another. -/
example : (normalize ⟨[.unnamed (.string "a"), .unnamed (.string "b"), .named "0" .null]⟩).segments
    = [.keyed [("1", .string "a"), ("2", .string "b"), ("0", .null)]] := by
  decide +kernel

end Specification
end RelatedFilter
