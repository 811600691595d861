/-
  RelatedFilter.Proofs.Environment.Entries

  Variables by the entries of an environment.  The system keeps an entry as octets,
  `NAME=value`, and looks for the first one that starts with the name that it is asked
  for and an equals sign.  What follows there is the value, if it is text
  (`text?_eq_some_iff`).
-/
import RelatedFilter.Environment
import RelatedFilter.Proofs.Text.Octets

namespace RelatedFilter.Environment

/-- An entry as it is kept: the name, an equals sign and the value. -/
def entryOctets (entry : String × ByteArray) : List UInt8 :=
  Text.octets (entry.1 ++ "=") ++ entry.2.data.toList

/-- The environment gives a variable a value: of the entries that start with its name and
    an equals sign, the first one goes on with the octets of the value. -/
def Assigns (e : Environment) (name value : String) : Prop :=
  ∃ before entry after, e = before ++ entry :: after
    ∧ entryOctets entry = Text.octets (name ++ "=" ++ value)
    ∧ ∀ earlier ∈ before, ¬ Text.octets (name ++ "=") <+: entryOctets earlier

theorem behind?_eq_some_iff {front text rest : List UInt8} :
    behind? front text = some rest ↔ text = front ++ rest := by
  induction front generalizing text with
  | nil => simp [behind?]
  | cons a front ih =>
    cases text with
    | nil => simp [behind?]
    | cons b text =>
      by_cases hsame : a = b
      · simp [behind?, hsame, ih]
      · simp [behind?, hsame, Ne.symm hsame]

section
variable {name : String} {entry : String × ByteArray}

theorem underName?_eq_behind? (hname : name ≠ "") :
    underName? name entry = behind? (Text.octets (name ++ "=")) (entryOctets entry) := by
  have hempty : ¬ name.isEmpty = true := by rwa [String.isEmpty_iff]
  rw [underName?, if_neg hempty, entryOctets, entryStart, entryStart, Text.toList_toUTF8,
    Text.toList_toUTF8, Text.toList_byteArray]

theorem underName?_eq_none_iff (hname : name ≠ "") :
    underName? name entry = none ↔ ¬ Text.octets (name ++ "=") <+: entryOctets entry := by
  rw [underName?_eq_behind? hname, Option.eq_none_iff_forall_ne_some]
  constructor
  · rintro h ⟨rest, hrest⟩
    exact h rest (behind?_eq_some_iff.mpr hrest.symm)
  · intro h rest hrest
    exact h ⟨rest, (behind?_eq_some_iff.mp hrest).symm⟩

/-- A variable has a value exactly if an entry gives it that value. -/
theorem text?_eq_some_iff {e : Environment} {value : String} (hname : name ≠ "") :
    e.text? name = some value ↔ e.Assigns name value := by
  have hentry : ∀ entry, underName? name entry = some (Text.octets value)
      ↔ entryOctets entry = Text.octets (name ++ "=" ++ value) := by
    intro entry
    rw [underName?_eq_behind? hname, behind?_eq_some_iff, Text.octets_append (name ++ "=")]
  have hvalue : e.text? name = some value ↔ e.octets? name = some (Text.octets value) := by
    rw [text?, Option.bind_eq_some_iff]
    simp only [Text.fromUTF8?_eq_some_iff, exists_eq_right]
  rw [hvalue, octets?, List.findSome?_eq_some_iff]
  simp only [hentry, underName?_eq_none_iff hname]
  rfl

end

end RelatedFilter.Environment
