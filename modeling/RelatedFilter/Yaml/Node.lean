/-
  RelatedFilter.Yaml.Node

  A reader of documents: the tree of a text's tokens.  An item, key or value that
  is left out is an empty plain scalar.  Where the text stops being well-formed the
  tree ends in a broken node: what stands before it can still be told.

  It reads the part of YAML that settings and registries are usually written in.
  Texts with anchors, tags, directives or block scalars are broken for it.
-/
import RelatedFilter.Text.Printable
import RelatedFilter.Yaml.Document
import RelatedFilter.Yaml.Lexer
import RelatedFilter.Yaml.Plain

namespace RelatedFilter.Yaml

/-! ## Scalars -/

/-- What a plain scalar stands for, in words. -/
def Plain.describe (text : String) : String :=
  match Plain.ofText text with
  | .null => "unit value"
  | .bool b => "boolean `" ++ (if b then "true" else "false") ++ "`"
  | .integer z =>
    let wide :=
      if z ≥ Nat.pow 2 64 then " as u128"
      else if z < -Nat.pow 2 63 then " as i128"
      else ""
    "integer `" ++ toString z ++ "`" ++ wide
  | .real x => "floating point `" ++ positionalText x ++ "`"
  | .infinite negative => "floating point `" ++ (if negative then "-inf" else "inf") ++ "`"
  | .notANumber => "floating point `NaN`"
  | .text => "string " ++ Text.quoted text

/-- A scalar without a tag; only plain ones stand for anything but their text. -/
def Scalar.written (text : String) (plain : Bool) : Scalar where
  text := text
  optional := .ok (if plain && Plain.ofText text == .null then none else some text)
  variant := .ok text
  isEmpty := plain && text.isEmpty
  description := if plain then Plain.describe text else "string " ++ Text.quoted text

/-! ## Reading on -/

/-- What was read, and the tokens behind it: none if the text is broken there. -/
abbrev Reading (α : Type) := α × Option (List Token)

namespace Reading

def map {α β : Type} (f : α → β) (r : Reading α) : Reading β :=
  (f r.1, r.2)

/-- Reads on behind what was read, or makes the best of it if the text is broken. -/
def andThen {α β : Type} (r : Reading α) (cut : α → β) (next : α → List Token → Reading β) :
    Reading β :=
  match r with
  | (a, some rest) => next a rest
  | (a, none) => (cut a, none)

end Reading

namespace Node

/-- A node that is left out at a place. -/
def missing (m : Mark) : Node := .scalar (.written "" true) m

/-! ## From tokens -/

/-- Does a token of one of these kinds come next? -/
def nextIs (kinds : List Token.Kind) (tokens : List Token) : Bool :=
  tokens.head?.any fun t => kinds.contains t.kind

/-- The items of a sequence after which the text is broken. -/
def brokenItems (item : Node) : List Node := [item, .broken]

/-- The entries of a mapping after which the text is broken. -/
def brokenEntries (entry : Node × Node) : List (Node × Node) := [entry, (.broken, .broken)]

mutual

/-- A node.  Block collections only where `block` says so, and a block sequence
    without indentation of its own only where `indentless` does.  No more than
    six calls are made for a token. -/
def ofTokens (fuel : Nat) (block indentless : Bool) (tokens : List Token) : Reading Node :=
  match fuel, tokens with
  | 0, _ => (.broken, none)
  | _, [] => (.broken, none)
  | fuel + 1, t :: rest =>
    match t.kind with
    | .scalar text plain => (.scalar (.written text plain) t.start, some rest)
    | .blockEntry =>
      if indentless then (indentlessItems fuel (t :: rest)).map (.sequence · t.start)
      else (.broken, none)
    | .flowSequenceStart => (flowItems fuel true rest).map (.sequence · t.start)
    | .flowMappingStart => (flowEntries fuel true rest).map (.mapping · t.start)
    | .blockSequenceStart =>
      if block then (blockItems fuel rest).map (.sequence · t.start) else (.broken, none)
    | .blockMappingStart =>
      if block then (blockEntries fuel rest).map (.mapping · t.start) else (.broken, none)
    | _ => (.broken, none)

/-- The node behind a hyphen, a key mark or a colon, unless one of `ends` comes
    next: then it is left out. -/
def orMissing (fuel : Nat) (block indentless : Bool) (ends : List Token.Kind) (m : Mark)
    (tokens : List Token) : Reading Node :=
  match fuel with
  | 0 => (.broken, none)
  | fuel + 1 =>
    if nextIs ends tokens then (missing m, some tokens)
    else ofTokens fuel block indentless tokens

/-- The items of an indented block sequence, and its end. -/
def blockItems (fuel : Nat) (tokens : List Token) : Reading (List Node) :=
  match fuel, tokens with
  | 0, _ => ([.broken], none)
  | _, [] => ([.broken], none)
  | fuel + 1, t :: rest =>
    match t.kind with
    | .blockEntry =>
      (orMissing fuel true false [.blockEntry, .blockEnd] t.stop rest).andThen brokenItems
        fun item rest => (blockItems fuel rest).map (item :: ·)
    | .blockEnd => ([], some rest)
    | _ => ([.broken], none)

/-- The items of a block sequence that stands as deep as the mapping around it. -/
def indentlessItems (fuel : Nat) (tokens : List Token) : Reading (List Node) :=
  match fuel, tokens with
  | 0, _ => ([.broken], none)
  | _, [] => ([.broken], none)
  | fuel + 1, t :: rest =>
    match t.kind with
    | .blockEntry =>
      (orMissing fuel true false [.blockEntry, .key, .value, .blockEnd] t.stop rest).andThen
        brokenItems fun item rest => (indentlessItems fuel rest).map (item :: ·)
    | _ => ([], some (t :: rest))

/-- The entries of a block mapping, and its end. -/
def blockEntries (fuel : Nat) (tokens : List Token) : Reading (List (Node × Node)) :=
  match fuel, tokens with
  | 0, _ => ([(.broken, .broken)], none)
  | _, [] => ([(.broken, .broken)], none)
  | fuel + 1, t :: rest =>
    match t.kind with
    | .key =>
      (blockEntry fuel t.stop rest).andThen brokenEntries fun entry rest =>
        (blockEntries fuel rest).map (entry :: ·)
    | .blockEnd => ([], some rest)
    | _ => ([(.broken, .broken)], none)

/-- An entry of a block mapping, from behind its key mark, which ends at `m`. -/
def blockEntry (fuel : Nat) (m : Mark) (tokens : List Token) : Reading (Node × Node) :=
  match fuel with
  | 0 => ((.broken, .broken), none)
  | fuel + 1 =>
    (orMissing fuel true true [.key, .value, .blockEnd] m tokens).andThen (·, .broken)
      fun key rest => (blockValue fuel rest).map (key, ·)

/-- The value of an entry of a block mapping. -/
def blockValue (fuel : Nat) (tokens : List Token) : Reading Node :=
  match fuel, tokens with
  | 0, _ => (.broken, none)
  | _, [] => (.broken, none)
  | fuel + 1, t :: rest =>
    match t.kind with
    | .value => orMissing fuel true true [.key, .value, .blockEnd] t.stop rest
    | _ => (missing t.start, some (t :: rest))

/-- The items of a flow sequence, and its end. -/
def flowItems (fuel : Nat) (first : Bool) (tokens : List Token) : Reading (List Node) :=
  match fuel, tokens with
  | 0, _ => ([.broken], none)
  | _, [] => ([.broken], none)
  | fuel + 1, t :: rest =>
    let item (tokens : List Token) : Reading (List Node) :=
      if nextIs [.flowSequenceEnd] tokens then ([], some tokens.tail)
      else
        (flowItem fuel tokens).andThen brokenItems fun item rest =>
          (flowItems fuel false rest).map (item :: ·)
    if t.kind == .flowSequenceEnd then ([], some rest)
    else if first then item (t :: rest)
    else if t.kind == .flowEntry then item rest
    else ([.broken], none)

/-- An item of a flow sequence.  `a: b` stands for a mapping with one entry. -/
def flowItem (fuel : Nat) (tokens : List Token) : Reading Node :=
  match fuel, tokens with
  | 0, _ => (.broken, none)
  | _, [] => (.broken, none)
  | fuel + 1, t :: rest =>
    if t.kind == .key then
      Reading.map (.mapping · t.start) <|
        (pair fuel rest).andThen brokenEntries fun entry rest =>
          -- the mapping ends where something else follows
          if rest.isEmpty then (brokenEntries entry, none) else ([entry], some rest)
    else ofTokens fuel false false (t :: rest)

/-- The entry of a mapping with one entry in a flow sequence. -/
def pair (fuel : Nat) (tokens : List Token) : Reading (Node × Node) :=
  match fuel with
  | 0 => ((.broken, .broken), none)
  | fuel + 1 =>
    (pairKey fuel tokens).andThen (·, .broken)
      fun key rest => (flowValue fuel [.flowEntry, .flowSequenceEnd] rest).map (key, ·)

/-- The key of a mapping with one entry in a flow sequence.  If it is left out,
    the token that stands in its place is passed over. -/
def pairKey (fuel : Nat) (tokens : List Token) : Reading Node :=
  match fuel, tokens with
  | 0, _ => (.broken, none)
  | _, [] => (.broken, none)
  | fuel + 1, t :: rest =>
    if nextIs [.value, .flowEntry, .flowSequenceEnd] (t :: rest) then (missing t.stop, some rest)
    else ofTokens fuel false false (t :: rest)

/-- The value of an entry in a flow collection, left out if there is no colon
    or if one of `ends` follows it. -/
def flowValue (fuel : Nat) (ends : List Token.Kind) (tokens : List Token) : Reading Node :=
  match fuel, tokens with
  | 0, _ => (.broken, none)
  | _, [] => (.broken, none)
  | fuel + 1, t :: rest =>
    if t.kind == .value then
      match rest with
      | [] => (.broken, none)
      | u :: rest =>
        if ends.contains u.kind then (missing u.start, some (u :: rest))
        else ofTokens fuel false false (u :: rest)
    else (missing t.start, some (t :: rest))

/-- The entries of a flow mapping, and its end. -/
def flowEntries (fuel : Nat) (first : Bool) (tokens : List Token) :
    Reading (List (Node × Node)) :=
  match fuel, tokens with
  | 0, _ => ([(.broken, .broken)], none)
  | _, [] => ([(.broken, .broken)], none)
  | fuel + 1, t :: rest =>
    let entry (tokens : List Token) : Reading (List (Node × Node)) :=
      if nextIs [.flowMappingEnd] tokens then ([], some tokens.tail)
      else
        (flowEntry fuel tokens).andThen brokenEntries fun entry rest =>
          (flowEntries fuel false rest).map (entry :: ·)
    if t.kind == .flowMappingEnd then ([], some rest)
    else if first then entry (t :: rest)
    else if t.kind == .flowEntry then entry rest
    else ([(.broken, .broken)], none)

/-- An entry of a flow mapping.  One that is not marked as a key has no value. -/
def flowEntry (fuel : Nat) (tokens : List Token) : Reading (Node × Node) :=
  match fuel, tokens with
  | 0, _ => ((.broken, .broken), none)
  | _, [] => ((.broken, .broken), none)
  | fuel + 1, t :: rest =>
    if t.kind == .key then
      match rest with
      | [] => ((.broken, .broken), none)
      | u :: rest =>
        let ends : List Token.Kind := [.value, .flowEntry, .flowMappingEnd]
        (orMissing fuel false false ends u.start (u :: rest)).andThen (·, .broken)
          fun key rest => (flowValue fuel [.flowEntry, .flowMappingEnd] rest).map (key, ·)
    else
      (ofTokens fuel false false (t :: rest)).andThen (·, .broken) fun key rest =>
        match rest with
        | [] => ((key, .broken), none)
        | u :: _ => ((key, missing u.start), some rest)

end

end Node

/-! ## Documents -/

/-- The kinds of tokens that no content of a document stands in front of. -/
def endsDocument : List Token.Kind := [.documentStart, .documentEnd, .streamEnd]

/-- What the tokens behind a document say of its ending. -/
def Ending.ofTokens : Option (List Token) → Ending
  | none | some [] => .broken
  | some behind =>
    if Node.nextIs [.streamEnd] (behind.dropWhile (·.kind == .documentEnd)) then .last else .more

/-- Reads the first document of a text. -/
def stream : Reader := fun text =>
  let tokens := tokens text
  let fuel := 6 * tokens.length + 6
  let (node, behind) : Reading Node := match tokens with
    | [] => (.broken, none)
    | t :: rest =>
      if t.kind == .streamEnd then (.missing .origin, some tokens)
      else if t.kind == .documentStart then
        match rest with
        | [] => (.broken, none)
        | u :: rest => Node.orMissing fuel true false endsDocument u.start (u :: rest)
      else Node.ofTokens fuel true false tokens
  ⟨node, .ofTokens behind⟩

end RelatedFilter.Yaml
