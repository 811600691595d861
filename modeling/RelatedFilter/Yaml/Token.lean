/-
  RelatedFilter.Yaml.Token

  The tokens of a YAML document and the places they stand at.  Nesting by
  indentation is explicit: a block collection has a start token, and `blockEnd`
  closes it.  The reader knows the part of YAML that settings and registries are
  usually written in: no token is made for anchors, tags, directives or block scalars.
-/

namespace RelatedFilter.Yaml

/-- How many octets some characters take. -/
def octetLength (text : List Char) : Nat :=
  text.foldl (fun length c => length + c.utf8Size) 0

/-- A place in a document, counted from zero: `index` in octets from the start
    of the text, `column` in characters from the start of the line. -/
structure Mark where
  index : Nat
  line : Nat
  column : Nat
deriving DecidableEq, Repr

namespace Mark

def origin : Mark := ⟨0, 0, 0⟩

/-- The place behind some characters of the same line. -/
def advance (m : Mark) (text : List Char) : Mark :=
  ⟨m.index + octetLength text, m.line, m.column + text.length⟩

/-- The start of the next line, behind a line break of `n` octets. -/
def nextLine (m : Mark) (n : Nat) : Mark := ⟨m.index + n, m.line + 1, 0⟩

end Mark

namespace Token

/-- What a token is. -/
inductive Kind where
  | documentStart
  | documentEnd
  | streamEnd
  | blockSequenceStart
  | blockMappingStart
  | blockEnd
  | flowSequenceStart
  | flowSequenceEnd
  | flowMappingStart
  | flowMappingEnd
  | blockEntry
  | flowEntry
  | key
  | value
  /-- A scalar's text, and whether it was written without quotes. -/
  | scalar (text : String) (plain : Bool)
deriving DecidableEq, Repr

end Token

/-- A token with its first place and the place behind it. -/
structure Token where
  kind : Token.Kind
  start : Mark
  stop : Mark
deriving DecidableEq, Repr

/-! ## Characters -/

/-- A space or a tab. -/
def isBlank (c : Char) : Bool :=
  c == ' ' || c == '\t'

/-- A line break: CR, LF, NEL, LS or PS. -/
def isBreak (c : Char) : Bool :=
  c == '\r' || c == '\n' || c == '\x85' || c == '\u2028' || c == '\u2029'

/-- Does the text end here, or go on with a blank or a line break? -/
def endsWord : List Char → Bool
  | [] => true
  | c :: _ => isBlank c || isBreak c

/-- The characters a document may hold. -/
def isDocumentChar (c : Char) : Bool :=
  let n := c.toNat
  n == 0x09 || n == 0x0A || n == 0x0D || (0x20 ≤ n && n ≤ 0x7E) || n == 0x85
    || (0xA0 ≤ n && n ≤ 0xD7FF) || (0xE000 ≤ n && n ≤ 0xFFFD) || 0x10000 ≤ n

/-- A line that starts or ends a document: three hyphens or three points, then
    a blank, a line break or the end. -/
def isDocumentLine : List Char → Bool
  | '-' :: '-' :: '-' :: rest => endsWord rest
  | '.' :: '.' :: '.' :: rest => endsWord rest
  | _ => false

end RelatedFilter.Yaml
