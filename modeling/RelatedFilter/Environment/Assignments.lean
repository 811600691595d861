/-
  RelatedFilter.Environment.Assignments

  A file of assignments `NAME=value` that fill in variables which are not set.
  Values may be quoted and may then run over several lines; `$NAME` and
  `${NAME}` stand for the value of a variable, or of an earlier assignment.  The
  first fault ends the reading, and what was assigned before it stays.  A value
  that no variable can hold is no such fault: then all of it fails.
-/
import RelatedFilter.Environment
import RelatedFilter.Text.Alphanumeric

namespace RelatedFilter.Assignments

/-! ## Lines -/

/-- What the characters so far leave open. -/
inductive Open where
  | nothing
  | blank
  | escape
  | single
  | singleEscape
  | double
  | doubleEscape
deriving DecidableEq, Repr

/-- The state after a character that stands outside quotes. -/
def Open.outside (c : Char) : Open :=
  if c == '\\' then .escape
  else if c == '"' then .double
  else if c == '\'' then .single
  else .nothing

/-- The state after one more character. -/
def Open.step : Open → Char → Open
  | .nothing, c =>
    if Text.isWhitespace c && c != '\n' && c != '\r' then .blank else Open.outside c
  | .blank, c => Open.outside c
  | .escape, _ => .nothing
  | .single, c =>
    if c == '\\' then .singleEscape else if c == '\'' then .nothing else .single
  | .singleEscape, _ => .single
  | .double, c =>
    if c == '\\' then .doubleEscape else if c == '"' then .nothing else .double
  | .doubleEscape, _ => .double

/-- Reads characters up to a comment, which starts with a number sign behind
    one blank.  Gives the state, or the characters in front of the comment. -/
def scanLine (state : Open) : List Char → List Char → Open ⊕ List Char
  | _, [] => .inl state
  | before, c :: rest =>
    if state == .blank && c == '#' then .inr before
    else scanLine (state.step c) (before ++ [c]) rest

/-- A line without the line break at its end. -/
def dropLineBreak (line : List Char) : List Char :=
  match line.reverse with
  | '\n' :: '\r' :: rest => rest.reverse
  | '\n' :: rest => rest.reverse
  | _ => line

/-- Puts lines together that a quote leaves open.  None stands for a fault:
    a line that is no text, or an end in the middle of one. -/
def logicalLines (state : Open) (buffer : List Char) :
    List (Option (List Char)) → List (Option (List Char))
  | [] => if state == .nothing then [] else [none]
  | none :: _ => [none]
  | some line :: rest =>
    if ((buffer ++ line).dropWhile Text.isWhitespace).head? == some '#' then
      some [] :: logicalLines .nothing [] rest
    else
      match scanLine state [] line with
      | .inr before => some (buffer ++ before) :: logicalLines .nothing [] rest
      | .inl .nothing => some (dropLineBreak (buffer ++ line)) :: logicalLines .nothing [] rest
      | .inl state => logicalLines state (buffer ++ line) rest

/-- Cuts octets behind each line feed. -/
def cutLines (line : List UInt8) : List UInt8 → List (List UInt8)
  | [] => if line.isEmpty then [] else [line]
  | b :: rest =>
    if b == 10 then (line ++ [b]) :: cutLines [] rest else cutLines (line ++ [b]) rest

/-- The lines of a file, without a byte order mark in front. -/
def lines (octets : List UInt8) : List (Option (List Char)) :=
  let octets := match octets with
    | 0xEF :: 0xBB :: 0xBF :: rest => rest
    | _ => octets
  logicalLines .nothing [] <|
    (cutLines [] octets).map fun line =>
      (String.fromUTF8? ⟨line.toArray⟩).map String.toList

/-! ## Values -/

/-- The variables, and the assignments read before. -/
structure Scope where
  environment : Environment
  earlier : List (String × String)

/-- What a reference to a name stands for. -/
def Scope.resolve (s : Scope) (name : List Char) : List Char :=
  let name := String.ofList name
  match s.environment.text? name with
  | some value => value.toList
  | none => ((List.lookup name s.earlier).getD "").toList

/-- Where in a value a character stands. -/
inductive Place where
  | bare
  | single
  | double
  /-- Behind a backslash. -/
  | escape (inDouble : Bool)
  /-- In a name behind a dollar sign. -/
  | name (inDouble : Bool) (name : List Char)
  /-- In a name behind a dollar sign and a brace. -/
  | bracedName (inDouble : Bool) (name : List Char)
  /-- Behind the value: only blanks and a comment may follow. -/
  | after
  | comment

/-- Where a quote is open or not. -/
def Place.text (inDouble : Bool) : Place := if inDouble then .double else .bare

/-- The character of an escape. -/
def escapedChar (c : Char) : Option Char :=
  if ['\\', '\'', '"', '$', ' '].contains c then some c
  else if c == 'n' then some '\n'
  else none

/-- Takes one character of a value. -/
def stepValue (s : Scope) : Place × List Char → Char → Option (Place × List Char)
  | (.comment, out), _ => some (.comment, out)
  | (.after, out), c =>
    if c == ' ' || c == '\t' then some (.after, out)
    else if c == '#' then some (.comment, out)
    else none
  | (.escape inDouble, out), c =>
    (escapedChar c).map fun d => (Place.text inDouble, out ++ [d])
  | (.single, out), c => if c == '\'' then some (.bare, out) else some (.single, out ++ [c])
  | (.name inDouble name, out), c =>
    if Text.isAlphanumeric c then some (.name inDouble (name ++ [c]), out)
    else if c == '\x7b' && name.isEmpty then some (.bracedName inDouble [], out)
    else if c == '$' then some (.name inDouble [], out ++ s.resolve name)
    else some (Place.text inDouble, out ++ s.resolve name ++ [c])
  | (.bracedName inDouble name, out), c =>
    if c == '\x7d' then some (Place.text inDouble, out ++ s.resolve name)
    else some (.bracedName inDouble (name ++ [c]), out)
  | (.double, out), c =>
    if c == '$' then some (.name true [], out)
    else if c == '"' then some (.bare, out)
    else if c == '\\' then some (.escape true, out)
    else some (.double, out ++ [c])
  | (.bare, out), c =>
    if c == '$' then some (.name false [], out)
    else if c == '\'' then some (.single, out)
    else if c == '"' then some (.double, out)
    else if c == '\\' then some (.escape false, out)
    else if c == ' ' || c == '\t' then some (.after, out)
    else some (.bare, out ++ [c])

/-- The value that is written; none if it is faulty or left open. -/
def value (s : Scope) (text : List Char) : Option String := do
  let (place, out) ← text.foldlM (stepValue s) (.bare, [])
  match place with
  | .bare | .after | .comment | .escape false => some (String.ofList out)
  | .name false name => some (String.ofList (out ++ s.resolve name))
  | _ => none

/-! ## Assignments -/

/-- A name at the start of a text, and what follows it. -/
def key (text : List Char) : Option (String × List Char) :=
  match text with
  | c :: _ =>
    if c.isAlpha || c == '_' then
      let isKeyChar (c : Char) := c.isAlphanum || c == '_' || c == '.'
      some (String.ofList (text.takeWhile isKeyChar), text.dropWhile isKeyChar)
    else none
  | [] => none

/-- What follows an equals sign. -/
def behindEquals : List Char → Option (List Char)
  | '=' :: rest => some rest
  | _ => none

def skipBlanks (text : List Char) : List Char :=
  text.dropWhile Text.isWhitespace

/-- Nothing more on the line, or only a comment. -/
def endsLine (text : List Char) : Bool :=
  text.isEmpty || text.head? == some '#'

/-- The assignment on a line, if there is one; fails if the line is faulty.
    `export` may stand in front of the name. -/
def assignment (s : Scope) (line : List Char) : Option (Option (String × String)) := do
  let line := (line.reverse.dropWhile Text.isWhitespace).reverse
  let text := skipBlanks line
  if endsLine text then some none
  else do
    let (name, rest) ← key text
    let rest := skipBlanks rest
    let (name, rest) ←
      if name == "export" && (behindEquals rest).isNone then do
        let (name, rest) ← key rest
        some (name, skipBlanks rest)
      else some (name, rest)
    let text := skipBlanks (← behindEquals rest)
    if endsLine text then some (some (name, ""))
    else some (some (name, ← value s text))

/-- Carries out the assignments of lines in order, up to the first fault. -/
def run (s : Scope) : List (Option (List Char)) → Option Environment
  | [] => some s.environment
  | none :: _ => some s.environment
  | some line :: rest =>
    match assignment s line with
    | none => some s.environment
    | some none => run s rest
    | some (some (name, value)) => do
      run ⟨← s.environment.setDefault name value, (name, value) :: s.earlier⟩ rest

end Assignments

/-- The environment, filled in by a file of assignments. -/
def Environment.fill (e : Environment) (octets : ByteArray) : Option Environment :=
  Assignments.run ⟨e, []⟩ (Assignments.lines octets.toList)

end RelatedFilter
