/-
  RelatedFilter.Registry.Error

  What can go wrong with a registry: while relationships are defined, while one
  is looked up by its name, and while a registry file is read.
-/
import RelatedFilter.Files
import RelatedFilter.Yaml.Decode

namespace RelatedFilter

/-- A fault of a registry or of its use. -/
inductive RegistryError where
  /-- No such relationship; `context` tells where it was asked for. -/
  | unregistered (base target typeName : String) (context : Option String)
  | duplicate (fromKind toKind typeName : String)
  | invalidTablePrefix (value : String)
  | unreadable (path : String) (cause : FileError)
  | unparsable (cause : Yaml.Error)
  /-- A kind of object or a type without a name. -/
  | emptyName (fromKind toKind typeName : String)
  /-- The relationship at a place of the file links posts to nothing. -/
  | missingTarget (position : Nat) (typeName : String)
deriving DecidableEq, Repr

/-- The wording of a fault. -/
def RegistryError.message : RegistryError → String
  | .unregistered base target typeName context =>
    let asked := match context with
      | none => typeName
      | some context => typeName ++ "\n  Context: " ++ context
    "No relationship `" ++ asked ++ "` registered between `" ++ base ++ "` and `" ++ target ++ "`."
  | .duplicate fromKind toKind typeName =>
    "Relationship `" ++ typeName ++ "` between `" ++ fromKind ++ "` and `" ++ toKind
      ++ "` is already defined"
  | .invalidTablePrefix value =>
    "Invalid identifier '" ++ value
      ++ "' for table_prefix: expected letters, digits and underscores"
  | .unreadable path cause =>
    "Failed to read registry configuration: " ++ path ++ ": " ++ cause.message
  | .unparsable cause => "Failed to parse registry configuration: " ++ cause.message
  | .emptyName fromKind toKind typeName =>
    "Invalid registry configuration: relationship needs non-empty kinds and type (got from='"
      ++ fromKind ++ "', to='" ++ toKind ++ "', type='" ++ typeName ++ "')"
  | .missingTarget position typeName =>
    "Invalid registry configuration: relationship #" ++ toString position ++ " ('" ++ typeName
      ++ "') is post_to_post but has no `to` kind"

end RelatedFilter
