/-
  RelatedFilter.Identifier

  Table names, key columns and table prefixes are written into SQL text
  without quotes, so only plain ASCII names are let through.  `isIdentifier`
  is the test for a whole name; `isTablePrefix` is the test for text that
  stands in front of a name, which may be empty and may start with a digit.
-/

namespace RelatedFilter

/-- An ASCII letter, digit or underscore. -/
def isNameChar (c : Char) : Bool :=
  c.isAlphanum || c == '_'

/-- An ASCII letter or underscore: what a name may start with. -/
def isNameStart (c : Char) : Bool :=
  c.isAlpha || c == '_'

/-- A whole name: a letter or underscore, then letters, digits and underscores. -/
def isIdentifier (name : String) : Bool :=
  match name.toList with
  | [] => false
  | c :: rest => isNameStart c && rest.all isNameChar

/-- Text that may stand in front of a name: letters, digits and underscores,
    or nothing at all. -/
def isTablePrefix (text : String) : Bool :=
  text.toList.all isNameChar

theorem isNameChar_of_isNameStart {c : Char} (h : isNameStart c = true) :
    isNameChar c = true := by
  simp only [isNameStart, Bool.or_eq_true] at h
  simp only [isNameChar, Char.isAlphanum, Bool.or_eq_true]
  exact h.imp Or.inl id

theorem isTablePrefix_iff {text : String} :
    isTablePrefix text = true ↔ ∀ c ∈ text.toList, c.isAlphanum = true ∨ c = '_' := by
  simp [isTablePrefix, isNameChar]

/-- Every name is also a prefix. -/
theorem isTablePrefix_of_isIdentifier {name : String} (h : isIdentifier name = true) :
    isTablePrefix name = true := by
  unfold isIdentifier at h
  unfold isTablePrefix
  cases hn : name.toList with
  | nil => rfl
  | cons c rest =>
    simp only [hn, Bool.and_eq_true] at h
    simp [isNameChar_of_isNameStart h.1, h.2]

end RelatedFilter
