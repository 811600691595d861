/-
  RelatedFilter.Relation

  How the constraints of a filter are combined: all of them (`AND`) or any of
  them (`OR`).  The word is read without regard to ASCII case, and anything but
  `or` means `AND`.
-/
import RelatedFilter.Json.Basic

namespace RelatedFilter

/-- The connective between the constraints of a filter. -/
inductive Relation where
  | all
  | any
deriving DecidableEq, Repr

namespace Relation

/-- The SQL operator. -/
def text : Relation → String
  | .all => "AND"
  | .any => "OR"

/-- The relation a word names. -/
def ofText (word : String) : Relation :=
  if word.toList.map Char.toUpper = ['O', 'R'] then .any else .all

/-- The relation a value names; only strings name one. -/
def ofJson : Json → Relation
  | .string word => ofText word
  | _ => .all

/-- Does the word name the entry that holds the relation? -/
def isKey (word : String) : Bool :=
  word.toList.map Char.toLower = ['r', 'e', 'l', 'a', 't', 'i', 'o', 'n']

theorem ofText_text (r : Relation) : ofText r.text = r := by
  cases r <;> decide

end Relation
end RelatedFilter
