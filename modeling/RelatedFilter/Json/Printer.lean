/-
  RelatedFilter.Json.Printer

  The text of JSON values: `compact` on one line without blanks, `pretty` with
  one item on a line and two blanks per level.  Keys stand in stored order, and
  of the characters of a string only the quote, the backslash and those below
  U+0020 are escaped.
-/
import RelatedFilter.Json.Basic
import RelatedFilter.Decimal.Shortest

namespace RelatedFilter

/-! ## Numbers -/

/-- `digits` with the point after `point` of them, and at least one digit on
    either side. -/
def positional (digits : List Char) (point : Int) : List Char :=
  if point ≤ 0 then
    '0' :: '.' :: List.replicate (-point).toNat '0' ++ digits
  else if digits.length ≤ point.toNat then
    digits ++ List.replicate (point.toNat - digits.length) '0' ++ ['.', '0']
  else
    digits.take point.toNat ++ '.' :: digits.drop point.toNat

/-- `d.ddde+x`: one digit before the point, no point after a single digit, and
    the sign of the exponent always written. -/
def exponential (digits : List Char) (point : Int) : List Char :=
  let e := point - 1
  let mantissa := match digits with
    | [] => []
    | [d] => [d]
    | d :: rest => d :: '.' :: rest
  mantissa ++ 'e' :: (if e < 0 then '-' else '+') :: (toString e.natAbs).toList

namespace Binary64

/-- The shortest text that reads back: positional from 1e-5 to below 1e16, with
    an exponent outside. -/
def text (x : Binary64) : String :=
  let sign := if x.negative then ['-'] else []
  let body :=
    if x.isZero then "0.0".toList
    else
      let s := Decimal.shortest x
      if -5 < s.point ∧ s.point ≤ 16 then positional s.digits s.point
      else exponential s.digits s.point
  String.ofList (sign ++ body)

end Binary64

/-- The text of a number. -/
def Number.text : Number → String
  | .integer z => toString z
  | .real x => x.text

/-! ## Strings -/

/-- A digit below sixteen, in lower case. -/
def hexDigit (n : Nat) : Char :=
  if n < 10 then Char.ofNat (48 + n) else Char.ofNat (87 + n)

/-- A character inside a JSON string. -/
def escapeChar (c : Char) : List Char :=
  if c = '"' then ['\\', '"']
  else if c = '\\' then ['\\', '\\']
  else if c = '\x08' then ['\\', 'b']
  else if c = '\x0c' then ['\\', 'f']
  else if c = '\n' then ['\\', 'n']
  else if c = '\r' then ['\\', 'r']
  else if c = '\t' then ['\\', 't']
  else if c.toNat < 0x20 then
    ['\\', 'u', '0', '0', hexDigit (c.toNat / 16), hexDigit (c.toNat % 16)]
  else [c]

/-- A JSON string literal. -/
def jsonString (s : String) : String :=
  String.ofList ('"' :: s.toList.flatMap escapeChar ++ ['"'])

/-! ## Values -/

namespace Json

mutual

/-- A value on one line, without blanks. -/
def compact : Json → String
  | .null => "null"
  | .bool b => if b then "true" else "false"
  | .number n => n.text
  | .string s => jsonString s
  | .array items => "[" ++ String.intercalate "," (compactItems items) ++ "]"
  | .object fields => "\x7b" ++ String.intercalate "," (compactFields fields) ++ "\x7d"

/-- The items of an array, each on its own. -/
def compactItems : List Json → List String
  | [] => []
  | item :: rest => compact item :: compactItems rest

/-- The fields of an object, each as `"key":value`. -/
def compactFields : List (String × Json) → List String
  | [] => []
  | (key, value) :: rest => (jsonString key ++ ":" ++ compact value) :: compactFields rest

end

/-- The items of a container on lines of their own, two blanks deeper than its
    brackets. -/
def bracketLines (depth : Nat) (opening closing : String) (lines : List String) : String :=
  let indent (n : Nat) := "".pushn ' ' (2 * n)
  if lines.isEmpty then opening ++ closing
  else
    opening ++ "\n" ++
      String.intercalate ",\n" (lines.map (indent (depth + 1) ++ ·)) ++
      "\n" ++ indent depth ++ closing

mutual

/-- A value with one item on a line, nested in `depth` containers. -/
def prettyAt (depth : Nat) : Json → String
  | .array items => bracketLines depth "[" "]" (prettyItems (depth + 1) items)
  | .object fields => bracketLines depth "\x7b" "\x7d" (prettyFields (depth + 1) fields)
  | .null => "null"
  | .bool b => if b then "true" else "false"
  | .number n => n.text
  | .string s => jsonString s

/-- The items of an array that stands in `depth - 1` containers. -/
def prettyItems (depth : Nat) : List Json → List String
  | [] => []
  | item :: rest => prettyAt depth item :: prettyItems depth rest

/-- The fields of an object that stands in `depth - 1` containers. -/
def prettyFields (depth : Nat) : List (String × Json) → List String
  | [] => []
  | (key, value) :: rest =>
    (jsonString key ++ ": " ++ prettyAt depth value) :: prettyFields depth rest

end

/-- A value with one item on a line. -/
def pretty (value : Json) : String :=
  prettyAt 0 value

end Json
end RelatedFilter
