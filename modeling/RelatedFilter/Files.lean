/-
  RelatedFilter.Files

  Reading files by name, as far as a run can see it: a file's octets, or the
  reason why there are none.  `Directory` is a directory given by its files;
  the directories inside it are those that the names of its files pass through.
-/

namespace RelatedFilter

/-- Why a file could not be read as text. -/
inductive FileError where
  | notFound
  | notDirectory
  | isDirectory
  | nameTooLong
  | notText
  | nulInName
  /-- Any other reason, in the system's words. -/
  | other (message : String)
deriving DecidableEq, Repr

def FileError.message : FileError → String
  | .notFound => "No such file or directory (os error 2)"
  | .notDirectory => "Not a directory (os error 20)"
  | .isDirectory => "Is a directory (os error 21)"
  | .nameTooLong => "File name too long (os error 36)"
  | .notText => "stream did not contain valid UTF-8"
  | .nulInName => "file name contained an unexpected NUL byte"
  | .other message => message

/-- What reading each path gives. -/
abbrev Files := String → Except FileError ByteArray

/-- The text of UTF-8 octets. -/
def decodeText (octets : ByteArray) : Except FileError String :=
  match String.fromUTF8? octets with
  | some text => .ok text
  | none => .error .notText

/-- The text of a file. -/
def Files.readText (files : Files) (path : String) : Except FileError String := do
  decodeText (← files path)

/-! ## A directory of files -/

/-- The files of a directory, by their names below it. -/
abbrev Directory := List (String × ByteArray)

namespace Directory

/-- The parts of a path between its slashes; empty parts and points are dropped. -/
def parts (path : String) : List String :=
  (path.splitOn "/").filter fun part => part != "" && part != "."

/-- The longest name a part of a path may have, and the longest path, in octets. -/
def maxPart : Nat := 255
def maxPath : Nat := 4095

/-- Why nothing is read on a way that leads out of the directory: nothing is
    known there but the directories above. -/
def outside : List String → FileError
  | [] => .isDirectory
  | part :: rest =>
    if part == ".." then outside rest
    else if part.utf8ByteSize > maxPart then .nameTooLong
    else .notFound

/-- Walks down to a file; `above` are the parts that were passed. -/
def walk (files : Directory) (above : List String) : List String → Except FileError ByteArray
  | [] =>
    match files.find? (parts ·.1 == above) with
    | some (_, octets) => .ok octets
    | none => .error .isDirectory
  | part :: rest =>
    -- a file has nothing below it
    if files.any (parts ·.1 == above) then .error .notDirectory
    else if part.utf8ByteSize > maxPart then .error .nameTooLong
    else if part == ".." then
      if above.isEmpty then .error (outside rest) else walk files above.dropLast rest
    else
      let below := above ++ [part]
      if files.any (below.isPrefixOf <| parts ·.1) then walk files below rest
      else .error .notFound

/-- Reads a file of the directory by its path. -/
def read (files : Directory) : Files := fun path =>
  if path.isEmpty then .error .notFound
  else if path.contains '\x00' then .error .nulInName
  else if path.utf8ByteSize > maxPath then .error .nameTooLong
  else if path.startsWith "/" then .error (outside (parts path))
  else
    match walk files [] (parts path) with
    | .ok octets =>
      -- a slash or a point at the end asks for a directory
      if path.endsWith "/" || path.endsWith "/." then .error .notDirectory else .ok octets
    | .error e => .error e

end Directory
end RelatedFilter
