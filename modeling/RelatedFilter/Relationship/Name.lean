/-
  RelatedFilter.Relationship.Name

  The kind of a relationship in JSON text: its name as a string, or an object
  with the name for its key and null under it.  The object holds that one field
  and no other, not even the same one again.
-/
import RelatedFilter.Json.Reader
import RelatedFilter.Relationship

namespace RelatedFilter.Relationship.Kind

open Json.Reader in
/-- The name at the start of a text. -/
def nameText (text : Octets) : Except Stop (String × Octets) :=
  match skipBlanks text with
  | [] => failOn .endInValue []
  | b :: rest =>
    if b == octet '"' then string rest
    else do
      let ((), rest) ← word () ['\x7b'] (b :: rest)
      let ((), rest) ← word () ['"'] (skipBlanks rest)
      let (name, rest) ← string rest
      let ((), rest) ← word () [':'] (skipBlanks rest)
      let ((), rest) ← word () ['n', 'u', 'l', 'l'] (skipBlanks rest)
      let ((), rest) ← word () ['\x7d'] (skipBlanks rest)
      .ok (name, rest)

/-- The kind that a whole text names. -/
def read? (text : String) : Option Kind :=
  match nameText text.toUTF8.toList with
  | .ok (name, rest) => if (Json.Reader.skipBlanks rest).isEmpty then ofName? name else none
  | .error _ => none

end RelatedFilter.Relationship.Kind
