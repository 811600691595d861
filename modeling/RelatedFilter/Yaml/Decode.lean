/-
  RelatedFilter.Yaml.Decode

  Reading records, lists and texts from a document.  A fault names the way
  from the root to the node, what is wrong with it and where it starts.  The
  entries of a record are read in the order they are written in, unknown ones
  are passed over, and the first fault counts, be it in what the text says or
  in its form.
-/
import RelatedFilter.Yaml.Document

namespace RelatedFilter.Yaml

/-! ## Faults -/

/-- One step from a node to a part of it. -/
inductive Step where
  | field (name : String)
  | item (index : Nat)
deriving DecidableEq, Repr

/-- The way from the root of a document to a node. -/
abbrev Path := List Step

namespace Path

/-- The steps of a path after the first. -/
def tailText : Path → String
  | [] => ""
  | .field name :: rest => "." ++ name ++ tailText rest
  | .item i :: rest => "[" ++ toString i ++ "]" ++ tailText rest

/-- A path in writing: `relationships[0].kind`. -/
def text : Path → String
  | .field name :: rest => name ++ tailText rest
  | path => tailText path

end Path

/-- What can be wrong with a node. -/
inductive Problem where
  | wrongType (found expected : String)
  | missingField (name : String)
  | duplicateField (name : String)
  | unknownVariant (found : String) (first second : String)
  /-- A scalar that cannot be read as it should be, for the given reason. -/
  | unsuitable (reason : String)
  /-- The text is not well-formed there. -/
  | broken
deriving DecidableEq, Repr

def Problem.message : Problem → String
  | .wrongType found expected => "invalid type: " ++ found ++ ", expected " ++ expected
  | .missingField name => "missing field `" ++ name ++ "`"
  | .duplicateField name => "duplicate field `" ++ name ++ "`"
  | .unknownVariant found first second =>
    "unknown variant `" ++ found ++ "`, expected `" ++ first ++ "` or `" ++ second ++ "`"
  | .unsuitable reason => reason
  | .broken => "the text is not a well-formed YAML document"

/-- A problem with the node at the end of a path. -/
structure Fault where
  path : Path
  problem : Problem
  mark : Mark
deriving DecidableEq, Repr

/-- The path is left out for the root, and the place if it is the very start. -/
def Fault.message (f : Fault) : String :=
  let path := if f.path.isEmpty then "" else f.path.text ++ ": "
  let place :=
    if f.mark.line = 0 ∧ f.mark.column = 0 then ""
    else " at line " ++ toString (f.mark.line + 1) ++ " column " ++ toString (f.mark.column + 1)
  path ++ f.problem.message ++ place

/-- Why a document could not be read. -/
inductive Error where
  /-- The text is not well-formed; a fault in front of that place comes first. -/
  | malformed (fault : Option Fault)
  /-- Something follows the first document; what is wrong with that one comes
      first. -/
  | several (fault : Option Fault)
  | invalid (fault : Fault)
deriving DecidableEq, Repr

def Error.message : Error → String
  | .malformed none => Problem.broken.message
  | .several none => "deserializing from YAML containing more than one document is not supported"
  | .malformed (some fault) | .several (some fault) | .invalid fault => fault.message

/-! ## Reading nodes -/

/-- A node of an unexpected type, in words. -/
def Node.describe : Node → String
  | .scalar value _ => value.description
  | .sequence _ _ => "sequence"
  | .mapping _ _ => "map"
  | .broken => "nothing"

/-- Left out, or written as nothing at all. -/
def Node.isEmpty : Node → Bool
  | .scalar value _ => value.isEmpty
  | _ => false

/-- The fault of a node that is of another type than expected. -/
def wrongType {α : Type} (path : Path) (node : Node) (expected : String) : Except Fault α :=
  match node with
  | .broken => .error ⟨path, .broken, node.mark⟩
  | _ => .error ⟨path, .wrongType node.describe expected, node.mark⟩

/-- What a scalar says, or its reason not to. -/
def said {α : Type} (path : Path) (mark : Mark) : Except String α → Except Fault α :=
  Except.mapError fun reason => ⟨path, .unsuitable reason, mark⟩

/-- The text of any scalar. -/
def text (path : Path) (node : Node) : Except Fault String :=
  match node with
  | .scalar value _ => .ok value.text
  | _ => wrongType path node "a string"

/-- The text of a scalar, or none for one that stands for nothing. -/
def optionalText (path : Path) (node : Node) : Except Fault (Option String) :=
  match node with
  | .scalar value mark => said path mark value.optional
  | _ => wrongType path node "a string"

/-- One of two names. -/
def variant {α : Type} (first second : String × α) (path : Path) (node : Node) :
    Except Fault α :=
  match node with
  | .scalar value mark => do
    let name ← said path mark value.variant
    if name = first.1 then .ok first.2
    else if name = second.1 then .ok second.2
    else .error ⟨path, .unknownVariant name first.1 second.1, mark⟩
  | _ => wrongType path node "a YAML tag starting with '!'"

/-- The items of a sequence, counted from `index`. -/
def items {α : Type} (read : Path → Node → Except Fault α) (path : Path) :
    Nat → List Node → Except Fault (List α)
  | _, [] => .ok []
  | index, node :: rest => do
    let item ← read (path ++ [.item index]) node
    let more ← items read path (index + 1) rest
    .ok (item :: more)

/-- A list; nothing at all stands for the empty one. -/
def list {α : Type} (read : Path → Node → Except Fault α) (path : Path) (node : Node) :
    Except Fault (List α) :=
  match node with
  | .sequence nodes _ => items read path 0 nodes
  | _ => if node.isEmpty then .ok [] else wrongType path node "a sequence"

/-- The entries of a record, each taken into the state by `take`; `seen` are
    the names before. -/
def entries {σ : Type} (known : List String) (take : String → Node → σ → Except Fault σ)
    (path : Path) (mark : Mark) : List String → List (Node × Node) → σ → Except Fault σ
  | _, [], state => .ok state
  | seen, (key, value) :: rest, state =>
    match key with
    | .scalar name _ =>
      if !known.contains name.text then entries known take path mark seen rest state
      else if seen.contains name.text then .error ⟨path, .duplicateField name.text, mark⟩
      else do
        let state ← take name.text value state
        entries known take path mark (name.text :: seen) rest state
    | _ => wrongType path key "field identifier"

/-- A record with the given fields; nothing at all stands for one without
    entries. -/
def record {σ : Type} (typeName : String) (known : List String)
    (take : String → Node → σ → Except Fault σ) (path : Path) (start : σ) (node : Node) :
    Except Fault σ :=
  match node with
  | .mapping pairs mark => entries known take path mark [] pairs start
  | _ => if node.isEmpty then .ok start else wrongType path node ("struct " ++ typeName)

/-- A field that a record must have. -/
def required {α : Type} (path : Path) (node : Node) (name : String) (value : Option α) :
    Except Fault α :=
  match value with
  | some v => .ok v
  | none => .error ⟨path, .missingField name, node.mark⟩

/-- The value that the only document of a text stands for; a text without one
    counts as nothing at all. -/
def read {α : Type} (yaml : Reader) (decode : Path → Node → Except Fault α) (input : String) :
    Except Error α :=
  let s := yaml input
  match decode [] s.first, s.ending with
  | .ok value, .last => .ok value
  | .ok _, .more => .error (.several none)
  | .ok _, .broken => .error (.malformed none)
  | .error fault, .last => .error (.invalid fault)
  | .error fault, .more => .error (.several (some fault))
  | .error fault, .broken =>
    .error (.malformed (if fault.problem = .broken then none else some fault))

end RelatedFilter.Yaml
