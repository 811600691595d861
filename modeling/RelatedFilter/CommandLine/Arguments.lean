/-
  RelatedFilter.CommandLine.Arguments

  The arguments of a run.  Options are long words, with their values behind an
  equals sign or in the next argument, which must not start with a hyphen
  unless it is one.  No option may be given twice.  Arguments are read from the
  left, and asking for help or for the version ends the reading.
-/
import RelatedFilter.Settings

namespace RelatedFilter.CommandLine

/-- How a compiled filter is written out. -/
inductive Format where
  | text
  | json
deriving DecidableEq, Repr

def Format.ofName? (name : String) : Option Format :=
  if name = "text" then some .text else if name = "json" then some .json else none

/-- The arguments of a run. -/
structure Arguments where
  /-- The file with the specification; a hyphen stands for standard input. -/
  specification : String
  registry : Option String
  config : Option String
  overrides : Overrides
  format : Format
  strict : Bool
deriving DecidableEq, Repr

/-- What the arguments ask for. -/
inductive Demand where
  | run (arguments : Arguments)
  | help
  | version
  /-- The arguments make no sense. -/
  | misuse
deriving DecidableEq, Repr

/-! ## Options -/

/-- The options that take a value. -/
inductive Setting where
  | specification
  | registry
  | config
  | baseKind
  | baseTable
  | baseKey
  | tablePrefix
  | format
deriving DecidableEq, Repr

/-- The option of a long word. -/
def Setting.ofName? (name : String) : Option Setting :=
  match name with
  | "spec" => some .specification
  | "registry" => some .registry
  | "config" => some .config
  | "base-kind" => some .baseKind
  | "base-table" => some .baseTable
  | "base-key" => some .baseKey
  | "table-prefix" => some .tablePrefix
  | "format" => some .format
  | _ => none

/-- May the option have this value?  Files need a name, formats a known one. -/
def Setting.accepts (s : Setting) (value : String) : Bool :=
  match s with
  | .registry | .config => !value.isEmpty
  | .format => (Format.ofName? value).isSome
  | _ => true

/-- The options that were given so far. -/
structure Given where
  values : List (Setting × String)
  strict : Bool

namespace Given

def value? (g : Given) (s : Setting) : Option String :=
  List.lookup s g.values

/-- Takes an option with its value. -/
def add (g : Given) (s : Setting) (value : String) : Option Given :=
  if s.accepts value && (g.value? s).isNone then some { g with values := (s, value) :: g.values }
  else none

/-- The arguments with defaults for the options that were not given. -/
def arguments (g : Given) : Arguments where
  specification := (g.value? .specification).getD "-"
  registry := g.value? .registry
  config := g.value? .config
  overrides := {
    baseKind := g.value? .baseKind
    baseTable := g.value? .baseTable
    baseKey := g.value? .baseKey
    tablePrefix := g.value? .tablePrefix }
  format := ((g.value? .format).bind Format.ofName?).getD .text
  strict := g.strict

end Given

/-! ## Reading -/

/-- One argument by itself. -/
inductive Word where
  /-- Two hyphens alone: no option follows. -/
  | endOfOptions
  /-- A long word, and the value behind its equals sign. -/
  | long (name : String) (value : Option String)
  /-- A hyphen and letters. -/
  | short (letter : Char)
  /-- Anything else. -/
  | plain
deriving DecidableEq, Repr

def Word.ofArgument (argument : String) : Word :=
  match argument.toList with
  | ['-', '-'] => .endOfOptions
  | '-' :: '-' :: word =>
    match word.dropWhile (· != '=') with
    | _ :: value => .long (String.ofList (word.takeWhile (· != '='))) (some (String.ofList value))
    | [] => .long (String.ofList word) none
  | '-' :: letter :: _ => .short letter
  | _ => .plain

/-- Reads arguments from the left. -/
def readFrom (g : Given) : List String → Demand
  | [] => .run g.arguments
  | argument :: rest =>
    match Word.ofArgument argument with
    | .endOfOptions => if rest.isEmpty then .run g.arguments else .misuse
    | .plain => .misuse
    | .short letter => if letter == 'h' then .help else if letter == 'V' then .version else .misuse
    | .long name none =>
      if name == "help" then .help
      else if name == "version" then .version
      else if name == "strict" then
        if g.strict then .misuse else readFrom { g with strict := true } rest
      else
        match Setting.ofName? name, rest with
        | some s, value :: rest =>
          if Word.ofArgument value == .plain then
            match g.add s value with
            | some g => readFrom g rest
            | none => .misuse
          else .misuse
        | _, _ => .misuse
    | .long name (some value) =>
      match Setting.ofName? name with
      | some s =>
        match g.add s value with
        | some g => readFrom g rest
        | none => .misuse
      | none => .misuse

/-- What a list of arguments asks for. -/
def read (arguments : List String) : Demand :=
  readFrom ⟨[], false⟩ arguments

end RelatedFilter.CommandLine
