import CommandShell.Error
import CommandShell.Text.Split

/-!
# File names

A file name is made of components between slashes. Those before the last one lead to a directory,
and the last one says what is meant in it.
-/

namespace CommandShell

/-- The longest component of a file name, in bytes. -/
def maxComponent : Nat := 255

/-- A file name must be shorter than this number of bytes. -/
def maxFileName : Nat := 4096

/-- The file name starts at the root. -/
def isAbsolute (name : String) : Bool :=
  name.toList.head? = some '/'

/-- What a file name ends in. -/
inductive LastComponent where
  /-- The file name is made of slashes only. -/
  | root
  | here
  | above
  /-- A name; `slash` tells whether slashes follow it. -/
  | entry (name : String) (slash : Bool)
  deriving DecidableEq, Repr

structure FileName where
  absolute : Bool
  /-- The components before the last one. -/
  leading : List String
  last : LastComponent
  deriving DecidableEq, Repr

namespace FileName

/-- The last component, if there is one. -/
def lastComponent (slash : Bool) : Option String → LastComponent
  | none => .root
  | some name =>
    if name = "." then .here else if name = ".." then .above else .entry name slash

/-- Takes a file name apart. -/
def parse (name : String) : Except IoError FileName :=
  if name.toList.any fun c => c = '\x00' then .error .nulInName
  else if name = "" then .error (.os .noEntry)
  else if name.utf8ByteSize ≥ maxFileName then .error (.os .nameTooLong)
  else
    let components := (Text.split '/' name).filter fun part => part ≠ ""
    .ok
      { absolute := isAbsolute name
        leading := components.dropLast
        last := lastComponent (name.toList.getLast? = some '/') components.getLast? }

end FileName

end CommandShell
