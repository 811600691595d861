/-
  RelatedFilter.Registry.Manifest

  A registry in writing: a file that lists relationships, and a table prefix if
  it names one.  Its relationships are defined in the order they stand in, and
  the first that fails is the fault of the whole file.
-/
import RelatedFilter.Json.Basic
import RelatedFilter.Registry
import RelatedFilter.Yaml.Node

namespace RelatedFilter

/-- A relationship as it is written in a file.  The kind it leads to is left
    out, or has no meaning, if it links to users. -/
structure Definition where
  kind : Relationship.Kind
  fromKind : String
  toKind : Option String
  typeName : String
deriving DecidableEq, Repr

namespace Definition

/-- The relationship that is defined at a place of the file. -/
def relationship (d : Definition) (position : Nat) : Except RegistryError Relationship :=
  match d.kind with
  | .postToPost =>
    match d.toKind with
    | some toKind => .ok (.postToPost d.fromKind toKind d.typeName)
    | none => .error (.missingTarget position d.typeName)
  | .postToUser => .ok (.postToUser d.fromKind d.typeName)

/-- What has been read of a definition. -/
structure Draft where
  kind : Option Relationship.Kind
  fromKind : Option String
  toKind : Option String
  typeName : Option String

def readKind : Yaml.Path → Yaml.Node → Except Yaml.Fault Relationship.Kind :=
  Yaml.variant (Relationship.Kind.postToPost.name, .postToPost)
    (Relationship.Kind.postToUser.name, .postToUser)

/-- Takes one entry of a definition. -/
def readEntry (path : Yaml.Path) (name : String) (node : Yaml.Node) (d : Draft) :
    Except Yaml.Fault Draft := do
  let path := path ++ [.field name]
  if name == "kind" then return { d with kind := some (← readKind path node) }
  else if name == "from" then return { d with fromKind := some (← Yaml.text path node) }
  else if name == "to" then return { d with toKind := ← Yaml.optionalText path node }
  else return { d with typeName := some (← Yaml.text path node) }

/-- A definition in a file. -/
def read (path : Yaml.Path) (node : Yaml.Node) : Except Yaml.Fault Definition := do
  let d ← Yaml.record "RelationshipDefinition" ["kind", "from", "to", "type"] (readEntry path)
    path ⟨none, none, none, none⟩ node
  let kind ← Yaml.required path node "kind" d.kind
  let fromKind ← Yaml.required path node "from" d.fromKind
  let typeName ← Yaml.required path node "type" d.typeName
  return ⟨kind, fromKind, d.toKind, typeName⟩

def toJson (d : Definition) : Json :=
  .object [
    ("kind", .string d.kind.name),
    ("from", .string d.fromKind),
    ("to", match d.toKind with | some t => .string t | none => .null),
    ("type", .string d.typeName)]

end Definition

/-- A registry file. -/
structure Manifest where
  tablePrefix : Option String
  definitions : List Definition
deriving DecidableEq, Repr

namespace Manifest

/-- Takes one entry of a registry file. -/
def readEntry (name : String) (node : Yaml.Node) (m : Manifest) : Except Yaml.Fault Manifest := do
  let path : Yaml.Path := [.field name]
  if name == "table_prefix" then
    return { m with tablePrefix := ← Yaml.optionalText path node }
  else return { m with definitions := ← Yaml.list Definition.read path node }

/-- The registry file with the given text. -/
def ofYamlWith (yaml : Yaml.Reader) (text : String) : Except RegistryError Manifest :=
  (Yaml.read yaml (fun path => Yaml.record "RegistryConfig" ["table_prefix", "relationships"]
    readEntry path ⟨none, []⟩) text).mapError .unparsable

/-- The registry file with the given text, by the reader of the program. -/
def ofYaml (text : String) : Except RegistryError Manifest :=
  ofYamlWith Yaml.stream text

/-- The registry file at a path. -/
def loadWith (yaml : Yaml.Reader) (files : Files) (path : String) :
    Except RegistryError Manifest :=
  match files.readText path with
  | .ok text => ofYamlWith yaml text
  | .error cause => .error (.unreadable path cause)

/-- The registry file at a path, by the reader of the program. -/
def load (files : Files) (path : String) : Except RegistryError Manifest :=
  loadWith Yaml.stream files path

/-- Defines relationships in order; the next one is at `position`. -/
def defineAll (registry : Registry) : Nat → List Definition → Except RegistryError Registry
  | _, [] => .ok registry
  | position, d :: rest => do
    let r ← d.relationship position
    let (_, registry) ← registry.define r
    defineAll registry (position + 1) rest

/-- The registry that a file describes, under its own prefix or the given one. -/
def registry (m : Manifest) (defaultPrefix : String) : Except RegistryError Registry := do
  let start ← Registry.empty (m.tablePrefix.getD defaultPrefix)
  defineAll start 1 m.definitions

def toJson (m : Manifest) : Json :=
  .object [
    ("table_prefix", match m.tablePrefix with | some p => .string p | none => .null),
    ("relationships", .array (m.definitions.map Definition.toJson))]

end Manifest
end RelatedFilter
