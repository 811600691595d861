/-
  RelatedFilter.Main

  The program at a terminal.  It gathers all that a run can see, leaves the run
  itself to `CommandLine.run`, and passes on what that gives back.
-/
import RelatedFilter.CommandLine.Run

namespace RelatedFilter.Terminal

/-! ## Files -/

/-- The reason for which the system did not read a file, by its number, which
    may come negated. -/
def fileError (code : UInt32) (details : String) : FileError :=
  let number := if code < 0x80000000 then code else 0 - code
  if number = 2 then .notFound
  else if number = 20 then .notDirectory
  else if number = 21 then .isDirectory
  else if number = 36 then .nameTooLong
  else .other (details.capitalize ++ " (os error " ++ toString number ++ ")")

/-- What reading a file gives. -/
def readFile (path : String) : IO (Except FileError ByteArray) := do
  if path.contains '\x00' then return .error .nulInName
  try
    return .ok (← IO.FS.readBinFile path)
  catch
    | .noFileOrDirectory _ code details
    | .inappropriateType _ code details
    | .invalidArgument _ code details
    | .permissionDenied _ code details => return .error (fileError code details)
    | e => return .error (.other (toString e))

/-- Reads the given files, once each. -/
def readFiles (paths : List String) : IO Files := do
  let contents ← paths.mapM fun path => do return (path, ← readFile path)
  return fun path => (contents.lookup path).getD (.error .notFound)

/-- The directories above a path, and itself, from the inside out. -/
def directories (path : String) : List String :=
  let parts := (path.splitOn "/").filter (· != "")
  ((List.range (parts.length + 1)).map fun n => "/" ++ "/".intercalate (parts.take n)).reverse

/-- The nearest file of assignments in the current directory or above it. -/
def readAssignments : IO (Except FileError ByteArray) := do
  for directory in directories (← IO.currentDir).toString do
    let content ← readFile (directory ++ "/.env")
    if content.isOk then return content
  return .error .notFound

/-! ## Environment and input -/

/-- The variable of `NAME=value`, if its name is text. -/
def variableOf (assignment : List UInt8) : Option (String × ByteArray) := do
  let isName (b : UInt8) := b != 61
  let name ← String.fromUTF8? ⟨(assignment.takeWhile isName).toArray⟩
  match assignment.dropWhile isName with
  | [] => none
  | _ :: value => some (name, ⟨value.toArray⟩)

/-- Cuts octets at each zero. -/
def cutAtZeros (part : List UInt8) : List UInt8 → List (List UInt8)
  | [] => if part.isEmpty then [] else [part.reverse]
  | b :: rest =>
    if b == 0 then part.reverse :: cutAtZeros [] rest else cutAtZeros (b :: part) rest

/-- The variables of the process. -/
def readEnvironment : IO Environment := do
  match ← readFile "/proc/self/environ" with
  | .ok octets => return (cutAtZeros [] octets.toList).filterMap variableOf
  | .error _ => return []

/-- Reads a stream up to its end. -/
partial def readToEnd (stream : IO.FS.Stream) (before : ByteArray) : IO ByteArray := do
  let more ← stream.read 65536
  if more.isEmpty then return before else readToEnd stream (before ++ more)

/-- The files that a run will ask for. -/
def filesOf (a : CommandLine.Arguments) : List String :=
  a.config.toList ++ a.registry.toList ++ [a.specification]

end RelatedFilter.Terminal

open RelatedFilter in
def main (arguments : List String) : IO UInt32 := do
  let (paths, readsInput) := match CommandLine.read arguments with
    | .run a => (Terminal.filesOf a, a.specification == "-")
    | _ => ([], false)
  let files ← Terminal.readFiles paths
  let assignments ← Terminal.readAssignments
  let input ← if readsInput then Terminal.readToEnd (← IO.getStdin) .empty else pure .empty
  let outcome := CommandLine.run {
    arguments := arguments
    input := input
    files := fun path => if path = ".env" then assignments else files path
    environment := ← Terminal.readEnvironment }
  IO.print outcome.output
  IO.eprint outcome.errors
  return outcome.exitCode.toUInt32
