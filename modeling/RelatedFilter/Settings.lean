/-
  RelatedFilter.Settings

  The settings of a run: the rows that are filtered, and the prefix of the
  tables that keep links.  They come from a file or from the environment, and
  each can be overridden.  Overriding replaces the given settings first and
  checks all of them afterwards, so it takes effect even if the check fails.
-/
import RelatedFilter.Files
import RelatedFilter.Identifier
import RelatedFilter.Query.Base
import RelatedFilter.Registry
import RelatedFilter.Yaml.Decode
import RelatedFilter.Yaml.Node

namespace RelatedFilter

/-- The settings of a run. -/
structure Settings where
  baseKind : String
  baseTable : String
  baseKey : String
  tablePrefix : String
deriving DecidableEq, Repr

/-- Settings that may be given or not. -/
structure Overrides where
  baseKind : Option String
  baseTable : Option String
  baseKey : Option String
  tablePrefix : Option String
deriving DecidableEq, Repr

/-! ## Faults -/

/-- A setting that fails the check, with its value. -/
inductive SettingFault where
  | emptyBaseKind
  | invalidBaseTable (value : String)
  | invalidBaseKey (value : String)
  | invalidTablePrefix (value : String)
deriving DecidableEq, Repr

namespace SettingFault

/-- The name of the setting. -/
def field : SettingFault → String
  | .emptyBaseKind => "base_kind"
  | .invalidBaseTable _ => "base_table"
  | .invalidBaseKey _ => "base_key"
  | .invalidTablePrefix _ => "table_prefix"

/-- The name of the rule that is broken. -/
def code : SettingFault → String
  | .emptyBaseKind => "length"
  | .invalidBaseTable _ | .invalidBaseKey _ => "sql_identifier"
  | .invalidTablePrefix _ => "table_prefix"

def value : SettingFault → String
  | .emptyBaseKind => ""
  | .invalidBaseTable value | .invalidBaseKey value | .invalidTablePrefix value => value

/-- The parameters of the broken rule: the value, and the least length if the
    rule asks for one. -/
def params : SettingFault → Fields
  | .emptyBaseKind => [("min", .number (.integer 1)), ("value", .string "")]
  | fault => [("value", .string fault.value)]

def message : SettingFault → String
  | .emptyBaseKind => "Base kind cannot be empty"
  | .invalidBaseTable _ => "Base table must be a plain SQL identifier"
  | .invalidBaseKey _ => "Base key must be a plain SQL identifier"
  | .invalidTablePrefix _ => "Table prefix may only contain letters, digits and underscores"

end SettingFault

/-- Why there are no settings. -/
inductive SettingsError where
  | unreadable (cause : FileError)
  | unparsable (content : String) (cause : Yaml.Error)
  | invalid (faults : List SettingFault)
deriving DecidableEq, Repr

namespace SettingsError

/-- What lies behind an error, in words. -/
def cause : SettingsError → String
  | .unreadable cause => cause.message
  | .unparsable _ cause => cause.message
  | .invalid faults => "\n".intercalate (faults.map fun f => f.field ++ ": " ++ f.message)

/-- What was to be read when a file could not be. -/
def source : SettingsError → Option (String × String)
  | .unreadable _ => some ("yaml_file", "file read failed")
  | .unparsable content _ => some ("yaml_content", content)
  | .invalid _ => none

def message (e : SettingsError) : String :=
  match e.source with
  | some (field, value) => "Parse error for " ++ field ++ ": " ++ value ++ " - " ++ e.cause
  | none => "Validation error: " ++ e.cause

end SettingsError

namespace Settings

def default : Settings :=
  ⟨Base.default.kind, Base.default.table, Base.default.key, Registry.defaultPrefix⟩

/-- The rows that are filtered. -/
def base (s : Settings) : Base :=
  ⟨s.baseKind, s.baseTable, s.baseKey⟩

/-- The settings that fail the check. -/
def faults (s : Settings) : List SettingFault :=
  (if s.baseKind.isEmpty then [.emptyBaseKind] else [])
    ++ (if isIdentifier s.baseTable then [] else [.invalidBaseTable s.baseTable])
    ++ (if isIdentifier s.baseKey then [] else [.invalidBaseKey s.baseKey])
    ++ (if isTablePrefix s.tablePrefix then [] else [.invalidTablePrefix s.tablePrefix])

/-- Checks all settings. -/
def validate (s : Settings) : Except SettingsError Unit :=
  if s.faults.isEmpty then .ok () else .error (.invalid s.faults)

/-- Settings that pass the check. -/
def checked (s : Settings) : Except SettingsError Settings := do
  s.validate
  return s

/-- Replaces the settings that are given. -/
def override (s : Settings) (o : Overrides) : Settings :=
  ⟨o.baseKind.getD s.baseKind, o.baseTable.getD s.baseTable, o.baseKey.getD s.baseKey,
    o.tablePrefix.getD s.tablePrefix⟩

/-- Replaces the settings that are given and checks all of them; the new
    settings hold in either case. -/
def merge (s : Settings) (o : Overrides) : Settings × Except SettingsError Unit :=
  (s.override o, (s.override o).validate)

/-! ## Where settings come from -/

/-- The settings of an environment; what it does not hold takes its default. -/
def ofEnvironment (value? : String → Option String) : Except SettingsError Settings :=
  (default.override {
    baseKind := value? "RELQUERY_BASE_KIND"
    baseTable := value? "RELQUERY_BASE_TABLE"
    baseKey := value? "RELQUERY_BASE_KEY"
    tablePrefix := value? "RELQUERY_TABLE_PREFIX" }).checked

/-- Takes one entry of a settings file. -/
def readEntry (name : String) (node : Yaml.Node) (s : Settings) : Except Yaml.Fault Settings := do
  let value ← Yaml.text [.field name] node
  if name == "base_kind" then return { s with baseKind := value }
  else if name == "base_table" then return { s with baseTable := value }
  else if name == "base_key" then return { s with baseKey := value }
  else return { s with tablePrefix := value }

/-- The settings in a text, unchecked; what it does not hold takes its default. -/
def ofYamlWith (yaml : Yaml.Reader) (text : String) : Except Yaml.Error Settings :=
  Yaml.read yaml (fun path => Yaml.record "CompilerConfig"
    ["base_kind", "base_table", "base_key", "table_prefix"] readEntry path default) text

/-- The settings file at a path. -/
def loadWith (yaml : Yaml.Reader) (files : Files) (path : String) :
    Except SettingsError Settings :=
  match files.readText path with
  | .error cause => .error (.unreadable cause)
  | .ok text =>
    match ofYamlWith yaml text with
    | .error cause => .error (.unparsable text cause)
    | .ok settings => settings.checked

/-- The settings file at a path, by the reader of the program. -/
def load (files : Files) (path : String) : Except SettingsError Settings :=
  loadWith Yaml.stream files path

def toJson (s : Settings) : Json :=
  .object [
    ("base_kind", .string s.baseKind),
    ("base_table", .string s.baseTable),
    ("base_key", .string s.baseKey),
    ("table_prefix", .string s.tablePrefix)]

end Settings
end RelatedFilter
