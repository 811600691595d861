/-
  RelatedFilter.Yaml.Plain

  What a plain scalar stands for: nothing, a truth value, an integer, a double
  or text.  Files are read by the text of their scalars alone, so this decides
  only whether an optional entry is given and how an entry of the wrong type is
  described.
-/
import RelatedFilter.Decimal.Shortest
import RelatedFilter.Json.Printer

namespace RelatedFilter.Yaml

/-- The meaning of a plain scalar. -/
inductive Plain where
  | null
  | bool (value : Bool)
  | integer (value : Int)
  | real (value : Binary64)
  | infinite (negative : Bool)
  | notANumber
  | text
deriving DecidableEq, Repr

namespace Plain

/-- The value of digits in a base of sixteen at most; none without a digit. -/
def natOfDigits (base : Nat) (digits : List Char) : Option Nat := do
  if digits.isEmpty then none
  digits.foldlM (fun n c => do
    let d ← if c.isDigit then some (c.toNat - 48)
      else if 'a' ≤ c && c ≤ 'f' then some (c.toNat - 87)
      else if 'A' ≤ c && c ≤ 'F' then some (c.toNat - 55)
      else none
    if d < base then some (n * base + d) else none) 0

/-- Digits with a leading zero, which stand for text. -/
def isPaddedNumber (text : List Char) : Bool :=
  let digits := match text with
    | '-' :: rest | '+' :: rest => rest
    | _ => text
  digits.length > 1 && digits.head? == some '0' && digits.all Char.isDigit

/-- The magnitude of an integer in base 16, 8, 2 (behind `0x`, `0o`, `0b`) or 10. -/
def magnitude (text : List Char) : Option Nat :=
  match text with
  | '0' :: 'x' :: rest => natOfDigits 16 rest
  | '0' :: 'o' :: rest => natOfDigits 8 rest
  | '0' :: 'b' :: rest => natOfDigits 2 rest
  | _ => if isPaddedNumber text then none else natOfDigits 10 text

/-- An integer of 128 bits at most. -/
def integer? (text : List Char) : Option Int :=
  match text with
  | '-' :: rest => do
    let n ← magnitude rest
    if n ≤ Nat.pow 2 127 then some (-n) else none
  | _ => do
    let n ← magnitude (match text with | '+' :: rest => rest | _ => text)
    if n < Nat.pow 2 128 then some n else none

/-- The exponent of a number, from behind its digits: nothing, or an `e` with
    an integer. -/
def exponent? (text : List Char) : Option Int :=
  match text with
  | [] => some 0
  | e :: rest =>
    if e == 'e' || e == 'E' then
      match rest with
      | '-' :: digits => (natOfDigits 10 digits).map fun n => -(n : Int)
      | '+' :: digits => (natOfDigits 10 digits).map fun n => (n : Int)
      | digits => (natOfDigits 10 digits).map fun n => (n : Int)
    else none

/-- The double nearest to `n * 10 ^ e`. -/
def nearest (n : Nat) (e : Int) : Binary64 :=
  -- far outside the range of doubles the power need not be worked out
  let size := e + (toString n).length
  if n = 0 || size < -400 then .zero
  else if size > 400 then .infinity
  else .ofQuotient (n * Nat.pow 10 e.toNat) (Nat.pow 10 (-e).toNat)

/-- A finite double: a sign, digits with a point among them or at either end,
    and an exponent. -/
def real? (text : List Char) : Option Binary64 := do
  let (negative, text) := match text with
    | '-' :: rest => (true, rest)
    | '+' :: rest => (false, rest)
    | _ => (false, text)
  let whole := text.takeWhile Char.isDigit
  let (places, rest) := match text.dropWhile Char.isDigit with
    | '.' :: rest => (rest.takeWhile Char.isDigit, rest.dropWhile Char.isDigit)
    | rest => ([], rest)
  let n ← natOfDigits 10 (whole ++ places)
  let e ← exponent? rest
  let x := nearest n (e - places.length)
  if x.isFinite then some (if negative then x.neg else x) else none

/-- What a plain scalar stands for. -/
def ofText (text : String) : Plain :=
  if ["", "~", "null", "Null", "NULL"].contains text then .null
  else if ["true", "True", "TRUE"].contains text then .bool true
  else if ["false", "False", "FALSE"].contains text then .bool false
  else
    let chars := text.toList
    match integer? chars with
    | some z => .integer z
    | none =>
      if isPaddedNumber chars then .text
      else if [".inf", ".Inf", ".INF", "+.inf", "+.Inf", "+.INF"].contains text then .infinite false
      else if ["-.inf", "-.Inf", "-.INF"].contains text then .infinite true
      else if [".nan", ".NaN", ".NAN"].contains text then .notANumber
      else match real? chars with
        | some x => .real x
        | none => .text

end Plain

/-- All digits of a double, without an exponent and with one decimal place at
    least. -/
def positionalText (x : Binary64) : String :=
  let sign := if x.negative then ['-'] else []
  let body :=
    if x.isZero then ['0', '.', '0']
    else
      let s := Decimal.shortest x
      positional s.digits s.point
  String.ofList (sign ++ body)

end RelatedFilter.Yaml
