/-
  RelatedFilter.Yaml.Lexer

  Cutting a document into tokens.  A key is only known for one when its colon
  comes up, so the lexer remembers where a key could have started
  (`SimpleKey`) and puts the key's token there afterwards; such a key stands on
  one line and is no longer than 1024 octets.  Outside flow collections the
  columns of the tokens open and close block collections (`indent`).
-/
import RelatedFilter.Yaml.Scalar

namespace RelatedFilter.Yaml

/-- A place where a key may have started. -/
structure SimpleKey where
  /-- How many tokens stand before it. -/
  tokenCount : Nat
  mark : Mark
  /-- Nothing but a key may stand there. -/
  required : Bool

/-- A document that is partly read. -/
structure Lexer where
  cursor : Cursor
  tokens : Array Token
  /-- The possible key of the current level, and of each flow collection and
      the block context around it. -/
  simpleKey : Option SimpleKey
  outerKeys : List (Option SimpleKey)
  /-- May a key start here? -/
  keyAllowed : Bool
  /-- The column of the innermost block collection, -1 if there is none. -/
  indent : Int
  outerIndents : List Int

namespace Lexer

def start (text : List Char) : Lexer :=
  ⟨⟨text, .origin⟩, #[], none, [], true, -1, []⟩

def inFlow (l : Lexer) : Bool := !l.outerKeys.isEmpty

def column (l : Lexer) : Int := l.cursor.column

/-- Puts a token at the end. -/
def push (l : Lexer) (kind : Token.Kind) (start stop : Mark) : Lexer :=
  { l with tokens := l.tokens.push ⟨kind, start, stop⟩ }

/-- Puts a token behind the first `count` ones. -/
def insertToken (l : Lexer) (count : Nat) (kind : Token.Kind) (mark : Mark) : Lexer :=
  { l with tokens := l.tokens.take count ++ #[⟨kind, mark, mark⟩] ++ l.tokens.drop count }

/-- Takes the next `n` characters as a token. -/
def take (l : Lexer) (kind : Token.Kind) (n : Nat) : Lexer :=
  let behind := l.cursor.skip n
  { l.push kind l.cursor.mark behind.mark with cursor := behind }

/-! ## Indentation -/

/-- Opens a block collection at `column` if that is further in than the current
    one; its token goes behind the first `count` tokens. -/
def openBlock (l : Lexer) (column : Int) (count : Nat) (kind : Token.Kind) (mark : Mark) : Lexer :=
  if !l.inFlow && l.indent < column then
    { l.insertToken count kind mark with
      indent := column, outerIndents := l.indent :: l.outerIndents }
  else l

/-- Closes the block collections further in than `column`. -/
def closeBlocks (column : Int) : List Int → Lexer → Lexer
  | [], l => l
  | outer :: more, l =>
    if l.indent > column then
      closeBlocks column more
        { l.push .blockEnd l.cursor.mark l.cursor.mark with indent := outer, outerIndents := more }
    else l

/-- Closes the block collections further in than `column`, outside flow
    collections. -/
def dedent (l : Lexer) (column : Int) : Lexer :=
  if l.inFlow then l else closeBlocks column l.outerIndents l

/-! ## Keys -/

/-- Is a key that may start at `key` out of reach? -/
def isStale (l : Lexer) (key : SimpleKey) : Bool :=
  key.mark.line < l.cursor.mark.line || key.mark.index + 1024 < l.cursor.mark.index

/-- Gives up a possible key that is out of reach.  None if it had to be one. -/
def dropIfStale (l : Lexer) (key : Option SimpleKey) : Option (Option SimpleKey) :=
  match key with
  | some k => if l.isStale k then (if k.required then none else some none) else some key
  | none => some none

/-- Gives up the possible keys that are out of reach. -/
def dropStaleKeys (l : Lexer) : Option Lexer := do
  let outer ← l.outerKeys.mapM l.dropIfStale
  let inner ← l.dropIfStale l.simpleKey
  return { l with simpleKey := inner, outerKeys := outer }

/-- Gives up the possible key of this level.  None if it had to be one. -/
def dropKey (l : Lexer) : Option Lexer :=
  match l.simpleKey with
  | some key => if key.required then none else some { l with simpleKey := none }
  | none => some l

/-- Remembers that a key may start here. -/
def noteKey (l : Lexer) : Option Lexer :=
  if l.keyAllowed then do
    let required := !l.inFlow && l.indent == l.column
    let l ← l.dropKey
    return { l with simpleKey := some ⟨l.tokens.size, l.cursor.mark, required⟩ }
  else some l

/-! ## Between tokens -/

/-- Skips blanks, comments and line breaks.  A tab is no blank where it could
    be taken for indentation.  Each round takes a character. -/
def skipBlanks : Nat → Lexer → Lexer
  | 0, l => l
  | fuel + 1, l =>
    match l.cursor.takeBreak with
    | some (_, behind) =>
      skipBlanks fuel { l with cursor := behind, keyAllowed := l.keyAllowed || !l.inFlow }
    | none =>
      match l.cursor.rest with
      | [] => l
      | c :: rest =>
        if c == ' ' || (c == '\t' && (l.inFlow || !l.keyAllowed)) then
          skipBlanks fuel { l with cursor := l.cursor.skip 1 }
        else if c == '#' then
          let length := (rest.takeWhile (!isBreak ·)).length + 1
          let behind := l.cursor.skip length
          -- nothing but a line break or the end follows a comment
          if behind.rest.isEmpty then { l with cursor := behind }
          else skipBlanks fuel { l with cursor := behind }
        else l

/-- Skips a byte order mark at the start of a line. -/
def skipByteOrderMark (l : Lexer) : Lexer :=
  if l.cursor.column == 0 && l.cursor.rest.head? == some '\ufeff' then
    { l with cursor := l.cursor.skip 1 }
  else l

/-- Skips all that stands between two tokens. -/
def skipToToken : Nat → Lexer → Lexer
  | 0, l => l
  | fuel + 1, l =>
    let l := l.skipByteOrderMark
    let next := skipBlanks l.cursor.rest.length l
    if next.cursor.column == 0 && next.cursor.rest.head? == some '\ufeff' then
      skipToToken fuel next
    else next

/-! ## Tokens -/

/-- The end of all text. -/
def takeEnd (l : Lexer) : Option Lexer := do
  let mark := if l.cursor.column == 0 then l.cursor.mark else l.cursor.mark.nextLine 0
  let l := { l with cursor := ⟨[], mark⟩ }.dedent (-1)
  let l ← l.dropKey
  return { l.push .streamEnd mark mark with keyAllowed := false }

/-- A line that starts or ends a document. -/
def takeDocumentLine (l : Lexer) (kind : Token.Kind) : Option Lexer := do
  let l ← (l.dedent (-1)).dropKey
  return { l.take kind 3 with keyAllowed := false }

/-- An opening bracket or brace; a whole flow collection may be a key. -/
def takeFlowStart (l : Lexer) (kind : Token.Kind) : Option Lexer := do
  let l ← l.noteKey
  return { l.take kind 1 with
    simpleKey := none, outerKeys := l.simpleKey :: l.outerKeys, keyAllowed := true }

/-- A closing bracket or brace. -/
def takeFlowEnd (l : Lexer) (kind : Token.Kind) : Option Lexer := do
  let l ← l.dropKey
  let l := match l.outerKeys with
    | key :: outer => { l with simpleKey := key, outerKeys := outer }
    | [] => l
  return { l.take kind 1 with keyAllowed := false }

/-- A comma in a flow collection. -/
def takeFlowEntry (l : Lexer) : Option Lexer := do
  let l ← l.dropKey
  return { l.take .flowEntry 1 with keyAllowed := true }

/-- The hyphen of a block sequence. -/
def takeBlockEntry (l : Lexer) : Option Lexer := do
  if !l.inFlow && !l.keyAllowed then none
  let l := l.openBlock l.column l.tokens.size .blockSequenceStart l.cursor.mark
  let l ← l.dropKey
  return { l.take .blockEntry 1 with keyAllowed := true }

/-- The question mark of a key. -/
def takeKey (l : Lexer) : Option Lexer := do
  if !l.inFlow && !l.keyAllowed then none
  let l := l.openBlock l.column l.tokens.size .blockMappingStart l.cursor.mark
  let l ← l.dropKey
  return { l.take .key 1 with keyAllowed := !l.inFlow }

/-- The colon of a value.  It makes a key of what was remembered as one. -/
def takeValue (l : Lexer) : Option Lexer :=
  match l.simpleKey with
  | some key =>
    let l := l.insertToken key.tokenCount .key key.mark
    let l := l.openBlock key.mark.column key.tokenCount .blockMappingStart key.mark
    some { l.take .value 1 with simpleKey := none, keyAllowed := false }
  | none => do
    if !l.inFlow && !l.keyAllowed then none
    let l := l.openBlock l.column l.tokens.size .blockMappingStart l.cursor.mark
    return { l.take .value 1 with keyAllowed := !l.inFlow }

/-- A quoted scalar. -/
def takeQuoted (l : Lexer) (single : Bool) : Option Lexer := do
  let l ← l.noteKey
  let (text, behind) ← quotedScalar single (l.cursor.rest.length + 1) (l.cursor.skip 1) []
  return { l.push (.scalar (String.ofList text) false) l.cursor.mark behind.mark with
    cursor := behind, keyAllowed := false }

/-- A plain scalar.  If it was left on a later line, a key may follow. -/
def takePlain (l : Lexer) : Option Lexer := do
  let l ← l.noteKey
  let s ← plainScalar l.inFlow (l.indent + 1) (l.cursor.rest.length + 1) l.cursor [] .empty
    l.cursor.mark
  return { l.push (.scalar (String.ofList s.text) true) l.cursor.mark s.stop with
    cursor := s.after, keyAllowed := s.broken }

/-- The characters that no plain scalar starts with, unless a hyphen, question
    mark or colon is followed by more. -/
def isIndicator (c : Char) : Bool :=
  "-?:,[]\x7b\x7d#&*!|>'\"%@`".toList.contains c

/-- The next token. -/
def next (l : Lexer) : Option Lexer := do
  let l ← (skipToToken (l.cursor.rest.length + 1) l).dropStaleKeys
  let l := l.dedent l.column
  match l.cursor.rest with
  | [] => l.takeEnd
  | c :: rest =>
    if isBlank c then none
    else if l.cursor.atDocumentLine then
      l.takeDocumentLine (if c == '-' then .documentStart else .documentEnd)
    else if c == '%' && l.column == 0 then none
    else if c == '[' then l.takeFlowStart .flowSequenceStart
    else if c == '\x7b' then l.takeFlowStart .flowMappingStart
    else if c == ']' then l.takeFlowEnd .flowSequenceEnd
    else if c == '\x7d' then l.takeFlowEnd .flowMappingEnd
    else if c == ',' then l.takeFlowEntry
    else if c == '-' && endsWord rest then l.takeBlockEntry
    else if c == '?' && (l.inFlow || endsWord rest) then l.takeKey
    else if c == ':' && (l.inFlow || endsWord rest) then l.takeValue
    else if c == '\'' then l.takeQuoted true
    else if c == '"' then l.takeQuoted false
    else if !isIndicator c || c == '-' || (!l.inFlow && (c == '?' || c == ':')) then l.takePlain
    else none

/-- How many of the tokens are settled: behind these a key's token might still
    be put in between. -/
def settled (l : Lexer) : Nat :=
  let l := l.dropStaleKeys.getD l
  (l.simpleKey :: l.outerKeys).foldl
    (fun n key => match key with
      | some k => min n k.tokenCount
      | none => n)
    l.tokens.size

/-- All tokens up to the end, or those that are settled at the first fault: then
    the end is not among them.  Each takes a character, and the end is one
    more. -/
def run : Nat → Lexer → List Token
  | 0, l => l.tokens.toList
  | fuel + 1, l =>
    match l.next with
    | none => (l.tokens.take l.settled).toList
    | some next =>
      if next.tokens.back?.any (·.kind == .streamEnd) then next.tokens.toList
      else run fuel next

end Lexer

/-- The tokens of a text.  Without fault the last is the end of the text. -/
def tokens (text : String) : List Token :=
  let chars := text.toList
  if chars.all isDocumentChar then (Lexer.start chars).run (chars.length + 2) else []

end RelatedFilter.Yaml
