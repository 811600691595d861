/-
  RelatedFilter.Sql.Literal

  Values in SQL text.  Numbers, and strings that look like integers of 64 bits,
  stand bare, so that ids are compared as numbers; any other text is quoted,
  with quotes and backslashes doubled.
-/
import RelatedFilter.Json.Printer

namespace RelatedFilter.Sql

/-! ## Quoting -/

/-- A character between single quotes. -/
def quotedChar (c : Char) : List Char :=
  if c = '\\' then ['\\', '\\'] else if c = '\'' then ['\'', '\''] else [c]

/-- Text between single quotes. -/
def quote (text : String) : String :=
  String.ofList ('\'' :: text.toList.flatMap quotedChar ++ ['\''])

/-! ## Integers -/

/-- The integer of a sign, or none, and one or more digits, as long as it is
    one of a signed or of an unsigned 64-bit word. -/
def integer? (text : List Char) : Option Int :=
  let (negative, digits) := match text with
    | '-' :: rest => (true, rest)
    | '+' :: rest => (false, rest)
    | _ => (false, text)
  if digits.isEmpty || !digits.all Char.isDigit then none
  else
    let magnitude := Nat.ofDigitChars 10 digits 0
    let z : Int := if negative then -magnitude else magnitude
    if -Nat.pow 2 63 ≤ z ∧ z ≤ Nat.pow 2 64 - 1 then some z else none

/-! ## Literals -/

/-- A value in SQL text. -/
inductive Literal where
  /-- Stands bare. -/
  | number (digits : String)
  /-- Stands between quotes. -/
  | text (content : String)
  | null
deriving DecidableEq, Repr

namespace Literal

/-- The literal for a string: a number if it looks like an integer. -/
def ofString (s : String) : Literal :=
  match integer? s.toList with
  | some z => .number (toString z)
  | none => .text s

/-- The literal for a value; arrays and objects stand as the text of their
    compact form. -/
def ofJson : Json → Literal
  | .number n => .number n.text
  | .string s => ofString s
  | .bool b => .number (if b then "1" else "0")
  | .null => .null
  | value => .text value.compact

/-- The SQL text of a literal. -/
def sql : Literal → String
  | .number digits => digits
  | .text content => quote content
  | .null => "NULL"

def toJson : Literal → Json
  | .number digits => .object [("kind", .string "number"), ("value", .string digits)]
  | .text content => .object [("kind", .string "text"), ("value", .string content)]
  | .null => .object [("kind", .string "null")]

end Literal
end RelatedFilter.Sql
