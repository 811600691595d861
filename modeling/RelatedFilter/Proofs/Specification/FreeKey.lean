/-
  RelatedFilter.Proofs.Specification.FreeKey

  The key of an unnamed scalar.  Different indices have different decimals, so a
  list of taken keys cannot hold the decimals of more indices than it has members,
  and the search always ends at an index: the least one from its start on whose
  decimal is not taken (`isLeast_freeIndex`).
-/
import RelatedFilter.Specification
import Mathlib

namespace RelatedFilter.Specification

theorem toString_nat_injective : Function.Injective fun n : Nat => toString n :=
  fun _ _ h => Nat.repr_injective h

/-- A decimal is an index. -/
theorem isIndex_toString (n : Nat) : Entry.isIndex (toString n) = true := by
  have hne : Nat.toDigits 10 n ≠ [] := Nat.toDigits_ne_nil
  have hdigits : ∀ c ∈ Nat.toDigits 10 n, c.isDigit = true := fun c hc =>
    Nat.isDigit_of_mem_toDigits (by decide) (by decide) hc
  simpa [Entry.isIndex, hne] using hdigits

/-- The first index from `position` on whose decimal is not taken. -/
def freeIndex (position : Nat) (taken : List String) : Nat :=
  ((List.range' position (taken.length + 1)).find? fun n => !taken.contains (toString n)).getD 0

/-- One more index than there are taken keys: one of them is free. -/
theorem exists_free (position : Nat) (taken : List String) :
    ∃ n ∈ List.range' position (taken.length + 1), toString n ∉ taken := by
  by_contra hnone
  have hall : ∀ n ∈ List.range' position (taken.length + 1), toString n ∈ taken := by
    simpa using hnone
  have hnodup : ((List.range' position (taken.length + 1)).map fun n => toString n).Nodup :=
    List.Nodup.map toString_nat_injective List.nodup_range'
  have hsubset : ((List.range' position (taken.length + 1)).map fun n => toString n) ⊆ taken := by
    intro key hkey
    obtain ⟨n, hn, rfl⟩ := List.mem_map.mp hkey
    exact hall n hn
  have hlength := (List.subperm_of_subset hnodup hsubset).length_le
  rw [List.length_map, List.length_range'] at hlength
  omega

theorem find?_eq_freeIndex (position : Nat) (taken : List String) :
    ((List.range' position (taken.length + 1)).find? fun n => !taken.contains (toString n))
      = some (freeIndex position taken) := by
  obtain ⟨n, hn, hfree⟩ := exists_free position taken
  have hfound : ((List.range' position (taken.length + 1)).find?
      fun n => !taken.contains (toString n)).isSome := by
    rw [List.find?_isSome]
    exact ⟨n, hn, by simpa using hfree⟩
  obtain ⟨m, hm⟩ := Option.isSome_iff_exists.mp hfound
  rw [freeIndex, hm, Option.getD_some]

/-- The key that is looked for is the decimal of an index. -/
theorem freeKey_eq (position : Nat) (taken : List String) :
    freeKey position taken = toString (freeIndex position taken) := by
  have hfind : ((List.range' position (taken.length + 1)).map toString).find?
        (!taken.contains ·)
      = ((List.range' position (taken.length + 1)).find?
          fun n => !taken.contains (toString n)).map toString :=
    List.find?_map
  rw [freeKey, hfind, find?_eq_freeIndex]
  rfl

/-- The index is the least free one. -/
theorem isLeast_freeIndex (position : Nat) (taken : List String) :
    IsLeast {n | position ≤ n ∧ toString n ∉ taken} (freeIndex position taken) := by
  obtain ⟨hfree, hrange, hbefore⟩ :=
    List.find?_range'_eq_some.mp (find?_eq_freeIndex position taken)
  refine ⟨⟨(List.mem_range'_1.mp hrange).1, by simpa using hfree⟩, ?_⟩
  rintro n ⟨hn, hfree⟩
  -- an index before the one that was found would be taken
  by_contra hlt
  have htaken := hbefore n hn (not_le.mp hlt)
  rw [Bool.not_not, List.contains_iff_mem] at htaken
  exact hfree htaken

end RelatedFilter.Specification
