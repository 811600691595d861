/-
  RelatedFilter.Yaml.Scalar

  The text of scalars, which may run over several lines.  Between two words on
  one line the blanks stay; a single line break becomes a space, and of several
  the first is dropped.  A plain scalar ends before a comment, before `: `, and
  in the block context before a line that is not indented far enough.
-/
import RelatedFilter.Yaml.Token

namespace RelatedFilter.Yaml

/-- What is left of a document, and where that is. -/
structure Cursor where
  rest : List Char
  mark : Mark

namespace Cursor

/-- Behind the next `n` characters, none of them a line break. -/
def skip (c : Cursor) (n : Nat) : Cursor :=
  ⟨c.rest.drop n, c.mark.advance (c.rest.take n)⟩

def column (c : Cursor) : Nat := c.mark.column

/-- At the start of a line that starts or ends a document? -/
def atDocumentLine (c : Cursor) : Bool :=
  c.column == 0 && isDocumentLine c.rest

/-- Behind the line break that comes next, with the character it is read as. -/
def takeBreak (c : Cursor) : Option (Char × Cursor) :=
  match c.rest with
  | '\r' :: '\n' :: rest => some ('\n', ⟨rest, c.mark.nextLine 2⟩)
  | b :: rest =>
    if b == '\u2028' || b == '\u2029' then some (b, ⟨rest, c.mark.nextLine b.utf8Size⟩)
    else if isBreak b then some ('\n', ⟨rest, c.mark.nextLine b.utf8Size⟩)
    else none
  | [] => none

end Cursor

/-! ## Blanks between words -/

/-- The blanks and line breaks between two words of a scalar. -/
structure Gap where
  /-- Blanks in front of any line break. -/
  blanks : List Char
  /-- The first line break, if it counts. -/
  firstBreak : List Char
  /-- The line breaks after the first. -/
  moreBreaks : List Char
  /-- Has a line ended? -/
  broken : Bool

namespace Gap

def empty : Gap := ⟨[], [], [], false⟩

/-- A line has ended in an escaped line break, which counts for nothing. -/
def escapedBreak : Gap := ⟨[], [], [], true⟩

/-- The text a gap stands for. -/
def text (g : Gap) : List Char :=
  if g.broken then
    if g.firstBreak.head? == some '\n' then
      if g.moreBreaks.isEmpty then [' '] else g.moreBreaks
    else g.firstBreak ++ g.moreBreaks
  else g.blanks

def addBlank (g : Gap) (c : Char) : Gap :=
  if g.broken then g else { g with blanks := g.blanks ++ [c] }

def addBreak (g : Gap) (c : Char) : Gap :=
  if g.broken then { g with moreBreaks := g.moreBreaks ++ [c] }
  else { g with blanks := [], firstBreak := [c], broken := true }

end Gap

/-- Takes blanks and line breaks into a gap.  None if a tab stands in the
    indentation of a line, before column `indent`.  Each round takes a
    character, so the length of the rest is enough fuel. -/
def takeGap (indent : Int) : Nat → Cursor → Gap → Option (Cursor × Gap)
  | 0, c, g => some (c, g)
  | fuel + 1, c, g =>
    match c.takeBreak with
    | some (b, behind) => takeGap indent fuel behind (g.addBreak b)
    | none =>
      match c.rest with
      | b :: _ =>
        if isBlank b then
          if g.broken && b == '\t' && c.column < indent then none
          else takeGap indent fuel (c.skip 1) (g.addBlank b)
        else some (c, g)
      | [] => some (c, g)

/-! ## Plain scalars -/

/-- Ends a plain scalar in a flow collection. -/
def isFlowIndicator (c : Char) : Bool :=
  c == ',' || c == '[' || c == ']' || c == '\x7b' || c == '\x7d'

/-- A word of a plain scalar, and what follows it.  None for a colon that
    stands in front of an indicator of a flow collection. -/
def plainWord (flow : Bool) : List Char → Option (List Char × List Char)
  | [] => some ([], [])
  | c :: rest =>
    if isBlank c || isBreak c then some ([], c :: rest)
    else if flow && c == ':' && rest.head?.any (fun d => isFlowIndicator d || d == '?') then none
    else if c == ':' && endsWord rest then some ([], c :: rest)
    else if flow && isFlowIndicator c then some ([], c :: rest)
    else (plainWord flow rest).map fun (word, rest) => (c :: word, rest)

/-- A scalar that was read: its text, the place behind its last word, what
    follows, and whether that is on a later line. -/
structure PlainScalar where
  text : List Char
  stop : Mark
  after : Cursor
  broken : Bool

/-- A plain scalar whose further lines are indented to `indent` at least. -/
def plainScalar (flow : Bool) (indent : Int) :
    Nat → Cursor → List Char → Gap → Mark → Option PlainScalar
  | 0, c, text, gap, stop => some ⟨text, stop, c, gap.broken⟩
  | fuel + 1, c, text, gap, stop =>
    if c.atDocumentLine || c.rest.head? == some '#' then some ⟨text, stop, c, gap.broken⟩
    else do
      let (word, rest) ← plainWord flow c.rest
      let behind : Cursor := ⟨rest, c.mark.advance word⟩
      let (text, gap, stop) :=
        if word.isEmpty then (text, gap, stop)
        else (text ++ gap.text ++ word, Gap.empty, behind.mark)
      if rest.isEmpty || !endsWord rest then some ⟨text, stop, behind, gap.broken⟩
      else do
        let (next, gap) ← takeGap indent rest.length behind gap
        if !flow && next.column < indent then some ⟨text, stop, next, gap.broken⟩
        else plainScalar flow indent fuel next text gap stop

/-! ## Quoted scalars -/

/-- The character of a one-letter escape. -/
def escapedChar (c : Char) : Option Char :=
  match c with
  | '0' => some '\x00'
  | 'a' => some '\x07'
  | 'b' => some '\x08'
  | 't' | '\t' => some '\t'
  | 'n' => some '\n'
  | 'v' => some '\x0b'
  | 'f' => some '\x0c'
  | 'r' => some '\r'
  | 'e' => some '\x1b'
  | ' ' => some ' '
  | '"' => some '"'
  | '/' => some '/'
  | '\\' => some '\\'
  | 'N' => some '\x85'
  | '_' => some '\xa0'
  | 'L' => some '\u2028'
  | 'P' => some '\u2029'
  | _ => none

/-- How many hexadecimal digits follow the letter of an escape. -/
def escapeLength (c : Char) : Option Nat :=
  match c with
  | 'x' => some 2
  | 'u' => some 4
  | 'U' => some 8
  | _ => none

def hexDigitValue (c : Char) : Option Nat :=
  if c.isDigit then some (c.toNat - 48)
  else if 'a' ≤ c && c ≤ 'f' then some (c.toNat - 87)
  else if 'A' ≤ c && c ≤ 'F' then some (c.toNat - 55)
  else none

/-- The character with the given hexadecimal code of `n` digits. -/
def escapedCode (n : Nat) (text : List Char) : Option Char := do
  let digits := text.take n
  if digits.length < n then none
  let values ← digits.mapM hexDigitValue
  let code := values.foldl (fun code v => code * 16 + v) 0
  if (0xD800 ≤ code && code ≤ 0xDFFF) || code > 0x10FFFF then none
  else some (Char.ofNat code)

/-- A piece of a quoted scalar without blanks, what follows it, and whether it
    ended in an escaped line break. -/
def quotedWord (single : Bool) : Nat → Cursor → List Char → Option (List Char × Cursor × Bool)
  | 0, c, text => some (text, c, false)
  | fuel + 1, c, text =>
    match c.rest with
    | [] => some (text, c, false)
    | d :: rest =>
      if isBlank d || isBreak d then some (text, c, false)
      else if single then
        if d == '\'' then
          if rest.head? == some '\'' then quotedWord single fuel (c.skip 2) (text ++ ['\''])
          else some (text, c, false)
        else quotedWord single fuel (c.skip 1) (text ++ [d])
      else if d == '"' then some (text, c, false)
      else if d == '\\' then
        match (c.skip 1).takeBreak with
        | some (_, behind) => some (text, behind, true)
        | none => do
          let letter ← rest.head?
          match escapeLength letter with
          | some n => do
            let code ← escapedCode n (rest.drop 1)
            quotedWord single fuel (c.skip (2 + n)) (text ++ [code])
          | none => do
            let code ← escapedChar letter
            quotedWord single fuel (c.skip 2) (text ++ [code])
      else quotedWord single fuel (c.skip 1) (text ++ [d])

/-- A quoted scalar from behind its opening quote: its text, and what follows
    the closing quote.  None if it is never closed. -/
def quotedScalar (single : Bool) : Nat → Cursor → List Char → Option (List Char × Cursor)
  | 0, _, _ => none
  | fuel + 1, c, text =>
    if c.atDocumentLine || c.rest.isEmpty then none
    else do
      let (text, c, escaped) ← quotedWord single c.rest.length c text
      if c.rest.head? == some (if single then '\'' else '"') then some (text, c.skip 1)
      else do
        let start := if escaped then Gap.escapedBreak else Gap.empty
        let (next, gap) ← takeGap 0 c.rest.length c start
        quotedScalar single fuel next (text ++ gap.text)

end RelatedFilter.Yaml
