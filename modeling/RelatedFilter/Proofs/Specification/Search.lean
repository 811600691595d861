/-
  RelatedFilter.Proofs.Specification.Search

  The search for a free key as it goes along: it looks at one index after another,
  with nothing to tell it where to stop but a decimal that is not taken.

  It stops all the same, and early (`free_keys_are_found`).  Different indices have
  different decimals, so of one more index than there are taken keys one is free.
  While a specification is taken apart, each entry in front of an unnamed scalar, and
  each one behind it, takes one key at most; that bounds the index by the number of
  entries, long before the words that count indices are used up.
-/
import RelatedFilter.Proofs.Specification.Normal

namespace RelatedFilter.Specification

/-- Looks at indices one after another, up to the first whose decimal is free.  There
    is no result if none of the first `budget` is, or if a word of 64 bits cannot hold
    the index behind one that is taken.  A counter that works out the next index before
    it gives one away would need a word for the index behind the free one, too. -/
def search (taken : List String) : (budget : Nat) → (index : Nat) → Option Nat
  | 0, _ => none
  | budget + 1, index =>
    if toString index ∈ taken then
      if index + 1 < 2 ^ 64 then search taken budget (index + 1) else none
    else some index

/-- The keys that are taken, each once. -/
def takenKeys (named : List String) (fields : Fields) : Finset String :=
  (named ++ fields.keys).toFinset

/-! ## The search stops -/

/-- The search passes what is taken and stops at what is free. -/
theorem search_eq_some {taken : List String} {budget index found : Nat}
    (hle : index ≤ found) (hbudget : found < index + budget) (hword : found < 2 ^ 64)
    (htaken : ∀ n, index ≤ n → n < found → toString n ∈ taken)
    (hfree : toString found ∉ taken) : search taken budget index = some found := by
  induction budget generalizing index with
  | zero => omega
  | succ budget ih =>
    rw [search]
    by_cases hfound : index = found
    · subst hfound
      rw [if_neg hfree]
    · have hlt : index < found := by omega
      have hnext : index + 1 < 2 ^ 64 := by omega
      rw [if_pos (htaken index (Nat.le_refl index) hlt), if_pos hnext]
      apply ih (by omega) (by omega)
      intro n hn hnfound
      exact htaken n (by omega) hnfound

/-- A key that is taken twice rules out one index only. -/
theorem freeIndex_le (position : Nat) (taken : List String) :
    freeIndex position taken ≤ position + taken.toFinset.card := by
  obtain ⟨n, hn, hfree⟩ := exists_free position taken.dedup
  rw [List.mem_dedup] at hfree
  obtain ⟨hle, hlt⟩ := List.mem_range'_1.mp hn
  have hleast : freeIndex position taken ≤ n := (isLeast_freeIndex position taken).2 ⟨hle, hfree⟩
  rw [List.card_toFinset]
  omega

/-- What the search for a free key from a position on comes to. -/
structure Found (position : Nat) (named : List String) (fields : Fields) (index : Nat) :
    Prop where
  key : freeKey position (named ++ fields.keys) = toString index
  ne_empty : freeKey position (named ++ fields.keys) ≠ ""
  least : IsLeast {n | position ≤ n ∧ toString n ∉ named ∧ toString n ∉ fields.keys} index
  /-- It is enough to look at one more index than there are taken keys. -/
  stops : position + (takenKeys named fields).card < 2 ^ 64 →
    ∀ budget, (takenKeys named fields).card < budget →
      search (named ++ fields.keys) budget position = some index

theorem found_freeIndex (position : Nat) (named : List String) (fields : Fields) :
    Found position named fields (freeIndex position (named ++ fields.keys)) := by
  have hleast := isLeast_freeIndex position (named ++ fields.keys)
  have hle := freeIndex_le position (named ++ fields.keys)
  refine ⟨freeKey_eq _ _, ?ne_empty, ?least, ?stops⟩
  case ne_empty =>
    intro hempty
    rw [freeKey_eq] at hempty
    have hindex := isIndex_toString (freeIndex position (named ++ fields.keys))
    rw [hempty] at hindex
    exact absurd hindex (by decide)
  case least =>
    simpa only [List.mem_append, not_or] using hleast
  case stops =>
    intro hword budget hbudget
    change _ ≤ position + (takenKeys named fields).card at hle
    apply search_eq_some hleast.1.1 (by omega) (by omega) _ hleast.1.2
    -- an index in front of the least free one is not free
    intro n hn hlt
    by_contra hfree
    have hmin := hleast.2 ⟨hn, hfree⟩
    omega

/-! ## While a specification is taken apart -/

/-- The key that the entry at a place takes. -/
def keyAt (entries : List Entry) (place : Nat) : String :=
  match entries[place]? with
  | some (.named key _) => key
  | _ => toString (scalarIndex entries place)

/-- What is taken when an unnamed scalar looks for its key has been taken by the other
    entries: by name, wherever they stand, or as scalars in front of it. -/
theorem takenKeys_subset {entries : List Entry} {place : Nat} {value : Json}
    (he : entries[place]? = some (.unnamed value)) :
    takenKeys (fieldKeys entries) (fieldsBefore entries place)
      ⊆ ((Finset.range entries.length).erase place).image (keyAt entries) := by
  have hnamed : ∀ key ∈ fieldNames entries,
      key ∈ ((Finset.range entries.length).erase place).image (keyAt entries) := by
    intro key hkey
    obtain ⟨-, v, hv⟩ := mem_fieldNames.mp hkey
    obtain ⟨other, hother⟩ := List.mem_iff_getElem?.mp hv
    have hne : other ≠ place := by
      rintro rfl
      rw [he] at hother
      cases hother
    have hlt : other < entries.length := (List.getElem?_eq_some_iff.mp hother).1
    refine Finset.mem_image.mpr ⟨other, by simp [hne, hlt], ?_⟩
    rw [keyAt, hother]
  intro key hkey
  rw [takenKeys, List.toFinset_append, Finset.mem_union, ← fieldNames_eq, List.mem_toFinset,
    fieldsBefore_eq_writeAll, Fields.mem_keys_writeAll, mem_keys_givenFields] at hkey
  rcases hkey with hkey | hkey | ⟨other, hother, rfl⟩
  · exact hnamed key hkey
  · obtain ⟨hrelation, v, hv⟩ := mem_fieldNames.mp hkey
    exact hnamed key (mem_fieldNames.mpr ⟨hrelation, v, List.mem_of_mem_take hv⟩)
  · obtain ⟨hother, hlt⟩ := mem_scalarPlaces_take.mp hother
    obtain ⟨v, hv, -⟩ := mem_scalarPlaces.mp hother
    have hlength : other < entries.length := (List.getElem?_eq_some_iff.mp hv).1
    refine Finset.mem_image.mpr ⟨other, by simp [hlt.ne, hlength], ?_⟩
    rw [keyAt, hv]

theorem card_takenKeys_lt {entries : List Entry} {place : Nat} {value : Json}
    (he : entries[place]? = some (.unnamed value)) :
    (takenKeys (fieldKeys entries) (fieldsBefore entries place)).card < entries.length := by
  have hplace : place < entries.length := (List.getElem?_eq_some_iff.mp he).1
  calc (takenKeys (fieldKeys entries) (fieldsBefore entries place)).card
      ≤ (((Finset.range entries.length).erase place).image (keyAt entries)).card :=
        Finset.card_le_card (takenKeys_subset he)
    _ ≤ ((Finset.range entries.length).erase place).card := Finset.card_image_le
    _ < (Finset.range entries.length).card :=
        Finset.card_erase_lt_of_mem (Finset.mem_range.mpr hplace)
    _ = entries.length := Finset.card_range _

/-- The search from any position on stops at the least free index, after no more looks
    than one for each taken key and one more.  For an entry of a specification the index
    and the one behind it are less than twice the number of entries, and words can hold
    them. -/
theorem free_keys_are_found :
    (∀ position named fields, ∃ index, Found position named fields index)
      ∧ ∀ (s : Specification) (place : Nat) (value : Json),
          s.entries[place]? = some (.unnamed value) → value.isContainer = false →
          ∃ index, Found place (fieldKeys s.entries) (fieldsBefore s.entries place) index
            ∧ fieldsBefore s.entries (place + 1)
                = (fieldsBefore s.entries place).set (toString index) value
            ∧ index + 1 < 2 * s.entries.length
            ∧ (s.entries.length ≤ 2 ^ 63 → index + 1 < 2 ^ 64 ∧
                search (fieldKeys s.entries ++ (fieldsBefore s.entries place).keys)
                  s.entries.length place = some index) := by
  refine ⟨fun position named fields => ⟨_, found_freeIndex position named fields⟩, ?_⟩
  intro s place value he hscalar
  have hplace : place < s.entries.length := (List.getElem?_eq_some_iff.mp he).1
  have hcard := card_takenKeys_lt he
  have hfound := found_freeIndex place (fieldKeys s.entries) (fieldsBefore s.entries place)
  have hle : scalarIndex s.entries place
      ≤ place + (takenKeys (fieldKeys s.entries) (fieldsBefore s.entries place)).card :=
    freeIndex_le _ _
  refine ⟨scalarIndex s.entries place, hfound, ?writes, by omega, fun hsize => ⟨by omega, ?_⟩⟩
  case writes =>
    rw [fieldsBefore_succ he, Entry.field?, hscalar]
    rfl
  · exact hfound.stops (by omega) _ hcard

/-- The second scalar finds its place taken by the first, which a name behind both has
    displaced. -/
theorem free_keys_are_found_displaced :
    let entries := [.unnamed (.string "a"), .unnamed (.string "b"), .named "0" .null]
    Found 1 (fieldKeys entries) (fieldsBefore entries 1) 2
      ∧ fieldsBefore entries 2 = (fieldsBefore entries 1).set "2" (.string "b")
      ∧ search (fieldKeys entries ++ (fieldsBefore entries 1).keys) 3 1 = some 2 := by
  intro entries
  obtain ⟨index, hfound, hwrites, -, hsearch⟩ :=
    free_keys_are_found.2 ⟨entries⟩ 1 (.string "b") rfl rfl
  have hindex : index = 2 := by
    have htwo : search (fieldKeys entries ++ (fieldsBefore entries 1).keys) 3 1 = some 2 := by
      decide +kernel
    exact Option.some.inj ((hsearch (by decide)).2.symm.trans htwo)
  subst hindex
  exact ⟨hfound, hwrites, (hsearch (by decide)).2⟩

end RelatedFilter.Specification
