/-
  RelatedFilter.Json.Reader

  Reading JSON text, octet by octet.  A fault is reported with its line and
  with the octets read in that line; some faults lie behind what was read
  (`failAfter`), others on the next octet (`failOn`).  Containers may be nested
  127 deep.  A double is read from at most 64 bits of digits and one scaling by
  a power of ten, which is not always the double nearest to the text.
-/
import RelatedFilter.Json.Basic

namespace RelatedFilter.Json

/-! ## Faults -/

/-- What is wrong with a JSON text. -/
inductive Fault where
  | endInList
  | endInObject
  | endInString
  | endInValue
  | expectedColon
  | expectedCommaOrBracket
  | expectedCommaOrBrace
  | expectedWord
  | expectedValue
  | invalidEscape
  | invalidNumber
  | numberOutOfRange
  | controlCharacter
  | keyNotString
  | loneSurrogate
  | trailingComma
  | trailingCharacters
  | endOfHexEscape
  | tooDeep
deriving DecidableEq, Repr

/-- The wording of a fault. -/
def Fault.message : Fault → String
  | .endInList => "EOF while parsing a list"
  | .endInObject => "EOF while parsing an object"
  | .endInString => "EOF while parsing a string"
  | .endInValue => "EOF while parsing a value"
  | .expectedColon => "expected `:`"
  | .expectedCommaOrBracket => "expected `,` or `]`"
  | .expectedCommaOrBrace => "expected `,` or `\x7d`"
  | .expectedWord => "expected ident"
  | .expectedValue => "expected value"
  | .invalidEscape => "invalid escape"
  | .invalidNumber => "invalid number"
  | .numberOutOfRange => "number out of range"
  | .controlCharacter => "control character (\\u0000-\\u001F) found while parsing a string"
  | .keyNotString => "key must be a string"
  | .loneSurrogate => "lone leading surrogate in hex escape"
  | .trailingComma => "trailing comma"
  | .trailingCharacters => "trailing characters"
  | .endOfHexEscape => "unexpected end of hex escape"
  | .tooDeep => "recursion limit exceeded"

/-- A fault at a place in the text. -/
structure ReadError where
  fault : Fault
  line : Nat
  column : Nat
deriving DecidableEq, Repr

def ReadError.message (e : ReadError) : String :=
  e.fault.message ++ " at line " ++ toString e.line ++ " column " ++ toString e.column

namespace Reader

/-- What is left of the text. -/
abbrev Octets := List UInt8

/-- A fault, with the number of octets that follow its place. -/
structure Stop where
  fault : Fault
  left : Nat

/-- A fault in what has just been read. -/
def failAfter {α : Type} (fault : Fault) (rest : Octets) : Except Stop α :=
  .error ⟨fault, rest.length⟩

/-- A fault on the next octet, or at the end if there is none. -/
def failOn {α : Type} (fault : Fault) (rest : Octets) : Except Stop α :=
  .error ⟨fault, rest.length - 1⟩

/-! ## Octets -/

/-- The octet of an ASCII character. -/
def octet (c : Char) : UInt8 := c.toUInt8

def isBlank (b : UInt8) : Bool :=
  b == octet ' ' || b == octet '\n' || b == octet '\t' || b == octet '\r'

def skipBlanks (text : Octets) : Octets :=
  text.dropWhile isBlank

def isDigit (b : UInt8) : Bool :=
  octet '0' ≤ b && b ≤ octet '9'

def digitValue (b : UInt8) : Nat := b.toNat - 48

/-- Does the text go on with an exponent? -/
def startsExponent : Octets → Bool
  | b :: _ => b == octet 'e' || b == octet 'E'
  | [] => false

/-! ## Numbers -/

/-- The greatest significand that is kept exactly. -/
def maxSignificand : Nat := Nat.pow 2 64 - 1

/-- Takes digits into the significand until the next would overflow it.  Gives
    the significand, how many digits were taken, and the rest. -/
def takeDigits (significand : Nat) (count : Nat) : Octets → Nat × Nat × Octets
  | [] => (significand, count, [])
  | b :: rest =>
    if isDigit b && significand * 10 + digitValue b ≤ maxSignificand then
      takeDigits (significand * 10 + digitValue b) (count + 1) rest
    else (significand, count, b :: rest)

/-- `f` scaled by `10 ^ e`: one product or quotient, after as many quotients by
    1e308 as a small exponent needs.  None if it is out of range. -/
def scale : Nat → Binary64 → Int → Option Binary64
  | 0, _, _ => some .zero
  | fuel + 1, f, e =>
    if e.natAbs ≤ 308 then
      if 0 ≤ e then
        let product := f.mul (.powerOfTen e.natAbs)
        if product.isFinite then some product else none
      else some (f.div (.powerOfTen e.natAbs))
    else if f.isZero then some f
    else if 0 ≤ e then none
    else scale fuel (f.div (.powerOfTen 308)) (e + 308)

/-- The double of a sign, a significand and a decimal exponent. -/
def real (negative : Bool) (significand : Nat) (e : Int) (rest : Octets) :
    Except Stop (Number × Octets) :=
  -- three quotients by 1e308 take any 64-bit significand to zero
  match scale 4 (.ofNat significand) e with
  | some f => .ok (.real (if negative then f.neg else f), rest)
  | none => failAfter .numberOutOfRange rest

/-- The digits of an exponent, up to where they pass 32 bits.  Gives the
    exponent, or none with the rest behind the digit that is too much. -/
def exponentDigits (e : Nat) : Octets → Option Nat × Octets
  | [] => (some e, [])
  | b :: rest =>
    if isDigit b then
      if e * 10 + digitValue b > Nat.pow 2 31 - 1 then (none, rest)
      else exponentDigits (e * 10 + digitValue b) rest
    else (some e, b :: rest)

/-- From behind the `e` of an exponent. -/
def exponent (negative : Bool) (significand : Nat) (e : Int) (text : Octets) :
    Except Stop (Number × Octets) :=
  let (minus, text) := match text with
    | b :: rest =>
      if b == octet '+' then (false, rest)
      else if b == octet '-' then (true, rest)
      else (false, text)
    | [] => (false, [])
  match text with
  | [] => failAfter .endInValue []
  | b :: rest =>
    if isDigit b then
      match exponentDigits (digitValue b) rest with
      | (some shift, rest) =>
        real negative significand (if minus then e - shift else e + shift) rest
      | (none, rest) =>
        if significand != 0 && !minus then failAfter .numberOutOfRange rest
        else .ok (.real (if negative then Binary64.zero.neg else .zero), rest.dropWhile isDigit)
    else failAfter .invalidNumber rest

/-- From behind the significand: an exponent, or the end of the number. -/
def afterDigits (negative : Bool) (significand : Nat) (e : Int) (text : Octets) :
    Except Stop (Number × Octets) :=
  if startsExponent text then exponent negative significand e (text.drop 1)
  else real negative significand e text

/-- From behind a decimal point. -/
def decimals (negative : Bool) (significand : Nat) (e : Int) (text : Octets) :
    Except Stop (Number × Octets) :=
  let (significand, count, rest) := takeDigits significand 0 text
  if rest.head?.any isDigit then
    afterDigits negative significand (e - count) (rest.dropWhile isDigit)
  else if count = 0 then
    failOn (if rest.isEmpty then .endInValue else .invalidNumber) rest
  else afterDigits negative significand (e - count) rest

/-- From behind the digits of an integer that fit. -/
def afterInteger (negative : Bool) (significand : Nat) (text : Octets) :
    Except Stop (Number × Octets) :=
  if text.head? == some (octet '.') then decimals negative significand 0 (text.drop 1)
  else if startsExponent text then exponent negative significand 0 (text.drop 1)
  else if !negative then .ok (.integer significand, text)
  else if significand = 0 || significand > Nat.pow 2 63 then
    .ok (.real (Binary64.ofNat significand).neg, text)
  else .ok (.integer (-significand), text)

/-- A number, from behind its sign. -/
def number (negative : Bool) : Octets → Except Stop (Number × Octets)
  | [] => failAfter .endInValue []
  | b :: rest =>
    if b == octet '0' then
      if rest.head?.any isDigit then failOn .invalidNumber rest
      else afterInteger negative 0 rest
    else if isDigit b then
      let (significand, _, rest) := takeDigits (digitValue b) 0 rest
      if rest.head?.any isDigit then
        -- the remaining digits only raise the exponent
        let behind := rest.dropWhile isDigit
        let e : Int := (rest.length : Int) - behind.length
        if behind.head? == some (octet '.') then decimals negative significand e (behind.drop 1)
        else afterDigits negative significand e behind
      else afterInteger negative significand rest
    else failAfter .invalidNumber rest

/-! ## Strings -/

/-- The value of a hexadecimal digit. -/
def hexValue (b : UInt8) : Option Nat :=
  if isDigit b then some (digitValue b)
  else if octet 'a' ≤ b && b ≤ octet 'f' then some (b.toNat - 87)
  else if octet 'A' ≤ b && b ≤ octet 'F' then some (b.toNat - 55)
  else none

/-- The four digits of a `\u` escape. -/
def fourHexDigits : Octets → Except Stop (Nat × Octets)
  | a :: b :: c :: d :: rest =>
    match hexValue a, hexValue b, hexValue c, hexValue d with
    | some a, some b, some c, some d => .ok (((a * 16 + b) * 16 + c) * 16 + d, rest)
    | _, _, _, _ => failAfter .invalidEscape rest
  | _ => failAfter .endInString []

/-- A `\u` escape, from behind the `u`; two of them for a surrogate pair. -/
def unicodeEscape (text : Octets) : Except Stop (Char × Octets) := do
  let (high, text) ← fourHexDigits text
  if 0xDC00 ≤ high && high ≤ 0xDFFF then failAfter .loneSurrogate text
  else if high < 0xD800 || 0xDBFF < high then .ok (Char.ofNat high, text)
  else
    match text with
    | [] => failAfter .endInString []
    | b :: text =>
      if b != octet '\\' then failAfter .endOfHexEscape text
      else
        match text with
        | [] => failAfter .endInString []
        | b :: text =>
          if b != octet 'u' then failAfter .endOfHexEscape text
          else do
            let (low, text) ← fourHexDigits text
            if low < 0xDC00 || 0xDFFF < low then failAfter .loneSurrogate text
            else .ok (Char.ofNat ((high - 0xD800) * 0x400 + (low - 0xDC00) + 0x10000), text)

/-- An escape, from behind the backslash. -/
def escape : Octets → Except Stop (Char × Octets)
  | [] => failAfter .endInString []
  | b :: rest =>
    if b == octet '"' then .ok ('"', rest)
    else if b == octet '\\' then .ok ('\\', rest)
    else if b == octet '/' then .ok ('/', rest)
    else if b == octet 'b' then .ok ('\x08', rest)
    else if b == octet 'f' then .ok ('\x0c', rest)
    else if b == octet 'n' then .ok ('\n', rest)
    else if b == octet 'r' then .ok ('\r', rest)
    else if b == octet 't' then .ok ('\t', rest)
    else if b == octet 'u' then unicodeEscape rest
    else failAfter .invalidEscape rest

/-- The octets of a string up to its closing quote.  Every round takes at
    least one octet, so `fuel` above the length of the text is enough. -/
def stringOctets : Nat → Octets → Except Stop (List UInt8 × Octets)
  | _, [] => failAfter .endInString []
  | 0, text => failAfter .endInString text
  | fuel + 1, b :: rest =>
    if b == octet '"' then .ok ([], rest)
    else if b == octet '\\' then do
      let (c, rest) ← escape rest
      let (more, rest) ← stringOctets fuel rest
      .ok (c.toString.toUTF8.toList ++ more, rest)
    else if b < 0x20 then failAfter .controlCharacter rest
    else do
      let (more, rest) ← stringOctets fuel rest
      .ok (b :: more, rest)

/-- A string, from behind its opening quote. -/
def string (text : Octets) : Except Stop (String × Octets) := do
  let (octets, rest) ← stringOctets text.length text
  .ok ((String.fromUTF8? ⟨octets.toArray⟩).getD "", rest)

/-! ## Values -/

/-- The letters that must follow the first one of `null`, `true` and `false`. -/
def word {α : Type} (value : α) : List Char → Octets → Except Stop (α × Octets)
  | [], rest => .ok (value, rest)
  | _ :: _, [] => failAfter .endInValue []
  | c :: more, b :: rest =>
    if b == octet c then word value more rest else failAfter .expectedWord rest

mutual

/-- A value that may hold `depth` levels of containers.  A container and each
    of its items take at least one octet, so twice the length is enough fuel. -/
def value (fuel depth : Nat) (text : Octets) : Except Stop (Json × Octets) :=
  match fuel, skipBlanks text with
  | _, [] => failOn .endInValue []
  | 0, text => failOn .endInValue text
  | fuel + 1, b :: rest =>
    if b == octet 'n' then word .null ['u', 'l', 'l'] rest
    else if b == octet 't' then word (.bool true) ['r', 'u', 'e'] rest
    else if b == octet 'f' then word (.bool false) ['a', 'l', 's', 'e'] rest
    else if b == octet '-' then do
      let (n, rest) ← number true rest
      .ok (.number n, rest)
    else if isDigit b then do
      let (n, rest) ← number false (b :: rest)
      .ok (.number n, rest)
    else if b == octet '"' then do
      let (s, rest) ← string rest
      .ok (.string s, rest)
    else if b == octet '[' then
      match depth with
      | 0 => failOn .tooDeep (b :: rest)
      | depth + 1 => do
        let (items, rest) ← items fuel depth true rest
        .ok (.array items, rest)
    else if b == octet '\x7b' then
      match depth with
      | 0 => failOn .tooDeep (b :: rest)
      | depth + 1 => do
        let (fields, rest) ← fields fuel depth [] true rest
        .ok (.object fields, rest)
    else failOn .expectedValue (b :: rest)

/-- The items of an array up to its closing bracket; `first` as long as none
    was read. -/
def items (fuel depth : Nat) (first : Bool) (text : Octets) : Except Stop (List Json × Octets) :=
  match fuel, skipBlanks text with
  | _, [] => failOn .endInList []
  | 0, text => failOn .endInList text
  | fuel + 1, b :: rest =>
    let next (text : Octets) : Except Stop (List Json × Octets) := do
      let (item, text) ← value fuel depth text
      let (more, text) ← items fuel depth false text
      .ok (item :: more, text)
    if b == octet ']' then .ok ([], rest)
    else if first then next (b :: rest)
    else if b == octet ',' then
      match skipBlanks rest with
      | [] => failOn .endInValue []
      | b :: rest =>
        if b == octet ']' then failOn .trailingComma (b :: rest) else next (b :: rest)
    else failOn .expectedCommaOrBracket (b :: rest)

/-- The fields of an object up to its closing brace, after those in `done`. -/
def fields (fuel depth : Nat) (done : Fields) (first : Bool) (text : Octets) :
    Except Stop (Fields × Octets) :=
  match fuel, skipBlanks text with
  | _, [] => failOn .endInObject []
  | 0, text => failOn .endInObject text
  | fuel + 1, b :: rest =>
    let next (text : Octets) : Except Stop (Fields × Octets) :=
      match text with
      | [] => failOn .endInValue []
      | b :: rest =>
        if b != octet '"' then failOn .keyNotString (b :: rest)
        else do
          let (key, rest) ← string rest
          match skipBlanks rest with
          | [] => failOn .endInObject []
          | b :: rest =>
            if b != octet ':' then failOn .expectedColon (b :: rest)
            else do
              let (item, rest) ← value fuel depth rest
              fields fuel depth (Fields.set key item done) false rest
    if b == octet '\x7d' then .ok (done, rest)
    else if first then next (b :: rest)
    else if b == octet ',' then
      match skipBlanks rest with
      | b :: rest =>
        if b == octet '\x7d' then failOn .trailingComma (b :: rest) else next (b :: rest)
      | [] => next []
    else failOn .expectedCommaOrBrace (b :: rest)

end

/-- How many containers may be open at once. -/
def maxDepth : Nat := 127

/-- A whole text: one value with blanks around it. -/
def document (text : Octets) : Except Stop Json := do
  let (json, rest) ← value (2 * text.length + 1) maxDepth text
  match skipBlanks rest with
  | [] => .ok json
  | rest => failOn .trailingCharacters rest

/-- The line and column behind the given octets: both count from one, with
    column zero directly after a line feed. -/
def position (read : Octets) : Nat × Nat :=
  read.foldl (fun (line, column) b =>
    if b == octet '\n' then (line + 1, 0) else (line, column + 1)) (1, 0)

end Reader

/-- The value that a JSON text stands for. -/
def read (text : String) : Except ReadError Json :=
  let octets := text.toUTF8.toList
  match Reader.document octets with
  | .ok json => .ok json
  | .error stop =>
    let (line, column) := Reader.position (octets.take (octets.length - stop.left))
    .error ⟨stop.fault, line, column⟩

end RelatedFilter.Json
