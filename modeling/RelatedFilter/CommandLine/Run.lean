/-
  RelatedFilter.CommandLine.Run

  A run of the program, from what it is given to what it gives back.  First the
  file `.env` fills in the environment.  Then come the settings, from a file or
  the environment and from the arguments; after them the registry and the
  specification are read, and the filter is compiled.  The first fault ends the
  run.  A run is given for any reader of YAML files (`runWith`); the program has
  one of its own (`run`).
-/
import RelatedFilter.CommandLine.Arguments
import RelatedFilter.Environment.Assignments
import RelatedFilter.Query
import RelatedFilter.Registry.Manifest

namespace RelatedFilter.CommandLine

/-- All that a run can see. -/
structure Invocation where
  arguments : List String
  input : ByteArray
  files : Files
  environment : Environment

/-- What a run gives back. -/
structure Outcome where
  exitCode : UInt8
  output : String
  errors : String
deriving DecidableEq, Repr

/-! ## Faults -/

/-- Why a run failed. -/
inductive Failure where
  | config (path : String) (cause : SettingsError)
  | environment (cause : SettingsError)
  | overrides (cause : SettingsError)
  | registry (path : String) (cause : RegistryError)
  | tablePrefix (cause : RegistryError)
  | unreadableInput (cause : FileError)
  | unreadableSpecification (path : String) (cause : FileError)
  | specification (cause : SpecificationError)
  | unresolved (cause : RegistryError)
deriving DecidableEq, Repr

namespace Failure

/-- The fault and what lies behind it, from the outside in. -/
def chain : Failure → List String
  | .config path cause => ["loading compiler config " ++ path, cause.message, cause.cause]
  | .environment cause => ["reading RELQUERY_* environment", cause.message, cause.cause]
  | .overrides cause => ["applying command-line overrides", cause.message, cause.cause]
  | .registry path cause => ["loading registry " ++ path, cause.message]
  | .tablePrefix cause => [cause.message]
  | .unreadableInput cause => ["reading specification from stdin", cause.message]
  | .unreadableSpecification path cause => ["reading specification " ++ path, cause.message]
  | .specification cause => [cause.message]
  | .unresolved cause => [cause.message]

def message (f : Failure) : String :=
  ": ".intercalate f.chain

end Failure

/-! ## Stages -/

section
variable (yaml : Yaml.Reader)

/-- What a run can see once the file `.env` has filled in the environment, if
    there is one.  Fails if that asks for a value that no variable can hold. -/
def Invocation.prepared (i : Invocation) : Option Invocation :=
  match i.files ".env" with
  | .ok octets => do return { i with environment := ← i.environment.fill octets }
  | .error _ => some i

/-- The settings before they are overridden. -/
def baseSettings (i : Invocation) (a : Arguments) : Except Failure Settings :=
  match a.config with
  | some path => (Settings.loadWith yaml i.files path).mapError (.config path)
  | none => (Settings.ofEnvironment i.environment.text?).mapError .environment

/-- The settings of a run. -/
def settings (i : Invocation) (a : Arguments) : Except Failure Settings := do
  let s ← baseSettings yaml i a
  (s.override a.overrides).checked.mapError .overrides

/-- The registry of a run; without a file it knows nothing. -/
def registry (i : Invocation) (a : Arguments) (s : Settings) : Except Failure Registry :=
  match a.registry with
  | some path =>
    (do (← Manifest.loadWith yaml i.files path).registry s.tablePrefix).mapError (.registry path)
  | none => (Registry.empty s.tablePrefix).mapError .tablePrefix

/-- The text of the specification. -/
def specificationText (i : Invocation) (a : Arguments) : Except Failure String :=
  if a.specification = "-" then (decodeText i.input).mapError .unreadableInput
  else (i.files.readText a.specification).mapError (.unreadableSpecification a.specification)

/-- The specification of a run. -/
def specification (i : Invocation) (a : Arguments) : Except Failure Specification := do
  (Specification.read (← specificationText i a)).mapError .specification

/-- The compiled filter of a run. -/
def compile (i : Invocation) (a : Arguments) : Except Failure Query := do
  let settings ← settings yaml i a
  let registry ← registry yaml i a settings
  let spec ← specification i a
  let query := Query.compile registry.catalog settings.base spec
  if a.strict then (query.check registry.catalog settings.base).mapError .unresolved
  return query

end

/-- A compiled filter in writing. -/
def Format.write (f : Format) (q : Query) : String :=
  match f with
  | .text => "join:" ++ q.join ++ "\nwhere:" ++ q.predicate ++ "\n"
  | .json => q.toJson.pretty ++ "\n"

/-! ## The whole run -/

def versionText : String := "relquery 0.3.1-dev\n"

def helpText : String :=
  "Compile a related-object filter into SQL join/where fragments

Usage: relquery [OPTIONS]

Options:
      --spec <SPEC>                  JSON filter specification file, `-` reads stdin [default: -]
      --registry <REGISTRY>          YAML relationship registry; without it nothing resolves
      --config <CONFIG>              YAML compiler config [default: RELQUERY_* environment variables]
      --base-kind <BASE_KIND>        Object kind of the rows being filtered
      --base-table <BASE_TABLE>      Table the enclosing query selects from
      --base-key <BASE_KEY>          Id column of the base table
      --table-prefix <TABLE_PREFIX>  Prefix for relationship tables, if the registry file has none
      --format <FORMAT>              Output format [default: text] [possible values: text, json]
      --strict                       Fail on valid segments whose type is not registered
  -h, --help                         Print help
  -V, --version                      Print version
"

def usageText : String :=
  "error: invalid arguments

Usage: relquery [OPTIONS]

For more information, try '--help'.
"

/-- What a run gives back that cannot even be prepared. -/
def unprepared : Outcome :=
  ⟨101, "", "error: the file `.env` assigns a value with a NUL character in it\n"⟩

/-- Runs the program with a reader of YAML files. -/
def runWith (yaml : Yaml.Reader) (i : Invocation) : Outcome :=
  match i.prepared with
  | none => unprepared
  | some i =>
    match read i.arguments with
    | .help => ⟨0, helpText, ""⟩
    | .version => ⟨0, versionText, ""⟩
    | .misuse => ⟨2, "", usageText⟩
    | .run a =>
      match compile yaml i a with
      | .ok query => ⟨0, a.format.write query, ""⟩
      | .error failure => ⟨1, "", "Error: " ++ failure.message ++ "\n"⟩

/-- Runs the program. -/
def run (i : Invocation) : Outcome :=
  runWith Yaml.stream i

end RelatedFilter.CommandLine
