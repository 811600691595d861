/-
  RelatedFilter.Environment

  The variables a run can see.  A value may be any octets, but only one that is
  text counts as set.  A variable is asked for by its entry `NAME=value`, so a
  name with an equals sign in it reaches into a value: of `A=k=v`, the value of
  `A=k` is `v`.
-/

namespace RelatedFilter

/-- The entries by name and value, in order; of several for one name the first
    counts. -/
abbrev Environment := List (String × ByteArray)

namespace Environment

/-- What follows `front` in octets that start with it. -/
def behind? : List UInt8 → List UInt8 → Option (List UInt8)
  | [], rest => some rest
  | _ :: _, [] => none
  | a :: front, b :: rest => if a = b then behind? front rest else none

/-- A name with the equals sign behind it. -/
def entryStart (name : String) : List UInt8 :=
  (name ++ "=").toUTF8.toList

/-- What an entry goes on with behind a name, if it starts with that.  Nothing
    goes by the empty name. -/
def underName? (name : String) (entry : String × ByteArray) : Option (List UInt8) :=
  if name.isEmpty then none
  else behind? (entryStart name) (entryStart entry.1 ++ entry.2.toList)

/-- What the first entry that starts with a name goes on with. -/
def octets? (e : Environment) (name : String) : Option (List UInt8) :=
  e.findSome? (underName? name)

/-- The value of a variable, if it is text. -/
def text? (e : Environment) (name : String) : Option String :=
  (e.octets? name).bind fun octets => String.fromUTF8? ⟨octets.toArray⟩

/-- Gives a variable a value: in place of the first entry that starts with its
    name, or at the end.  Later entries stay as they are. -/
def set (name value : String) : Environment → Environment
  | [] => [(name, value.toUTF8)]
  | entry :: rest =>
    if (underName? name entry).isSome then (name, value.toUTF8) :: rest
    else entry :: set name value rest

/-- Gives a variable a value unless it has one.  Fails if it would have to be
    given one with a NUL in it, which no entry can hold. -/
def setDefault (e : Environment) (name value : String) : Option Environment :=
  if (e.text? name).isSome then some e
  else if value.contains '\x00' then none
  else some (set name value e)

end Environment
end RelatedFilter
