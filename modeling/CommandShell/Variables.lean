import CommandShell.Environment
import CommandShell.Text.Shown
import CommandShell.Transcript

/-!
# Variables of a process

A process is started with names and values; both are byte strings and need not be text.
-/

namespace CommandShell

namespace Bytes

/-- The character at the start of a byte string, as a text, and the number of its bytes. -/
def firstChar? (bytes : Bytes) : Option (String × Nat) :=
  [1, 2, 3, 4].findSome? fun size => (toText? (bytes.take size)).map fun text => (text, size)

/-- A byte as an escape, in upper-case hexadecimal. -/
def showByte (byte : UInt8) : String :=
  "\\x" ++ String.ofList ((Nat.toDigits 16 byte.toNat).map Char.toUpper)

/-- Characters as they appear in the log, and escapes for the bytes that encode none. The number
tells how many bytes belong to a character that is already there. -/
def showFrom : Nat → Bytes → String
  | _, [] => ""
  | shown + 1, _ :: rest => showFrom shown rest
  | 0, byte :: rest =>
    match firstChar? (byte :: rest) with
    | some (text, size) => String.join (text.toList.map Text.showChar) ++ showFrom (size - 1) rest
    | none => showByte byte ++ showFrom 0 rest

/-- A byte string between quotes. -/
def shown (bytes : Bytes) : String :=
  "\"" ++ showFrom 0 bytes ++ "\""

end Bytes

/-- A text stands for its encoding. -/
instance : Coe String Bytes := ⟨Bytes.ofText⟩

abbrev Variables := List (Bytes × Bytes)

/-- Variables whose names are text. -/
instance : Coe (List (String × Bytes)) Variables :=
  ⟨List.map fun entry => (Bytes.ofText entry.1, entry.2)⟩

namespace Variables

/-- The value that a name stands for: what follows the name and an equals sign in an entry. A name
that holds an equals sign itself thus takes the end of a value. -/
def value? (vars : Variables) (name : String) : Option Bytes :=
  if name = "" then none
  else
    vars.findSome? fun (key, value) =>
      (Bytes.ofText (name ++ "=")).isPrefixOf? (key ++ Bytes.ofText "=" ++ value)

/-- The value that a name stands for, if it is a text. -/
def text? (vars : Variables) (name : String) : Option String :=
  (vars.value? name).bind Bytes.toText?

def isSet (vars : Variables) (name : String) : Bool :=
  (vars.lookup (Bytes.ofText name)).isSome

/-- The directory for temporary files. -/
def temporaryDirectory (vars : Variables) : String :=
  ((vars.lookup (Bytes.ofText "TMPDIR")).map Bytes.toText).getD "/tmp"

/-- Sets a variable, unless it already has a text. -/
def provide (vars : Variables) (name value : String) : Variables :=
  if (vars.text? name).isSome then vars
  else
    (Bytes.ofText name, Bytes.ofText value) ::
      vars.filter fun entry => entry.1 ≠ Bytes.ofText name

/-- The name and the value of an entry, if both are text. -/
def assignment? (entry : Bytes × Bytes) : Option (String × String) :=
  match Bytes.toText? entry.1, Bytes.toText? entry.2 with
  | some name, some value => some (name, value)
  | _, _ => none

/-- The environment of a shell that is started with these variables, before it counts itself.
Entries that are not text are left out. -/
def toEnvironment (vars : Variables) : Environment :=
  (vars.filterMap assignment?).foldl
    (fun environment entry => environment.set entry.1 entry.2) default

/-- The name of an entry that is left out. -/
def showName (name : Bytes) : String :=
  match Bytes.toText? name with
  | some text => "Ok(" ++ Text.showText text ++ ")"
  | none => "Err(" ++ name.shown ++ ")"

/-- What the variables that are left out leave in the log. -/
def skipNotes (vars : Variables) : Transcript :=
  (vars.filter fun entry => (assignment? entry).isNone).map fun entry =>
    .log .debug ("跳过非 UTF-8 环境变量: " ++ showName entry.1)

/-- The environment of a new shell, one level below the shell that started it. -/
def inherit (vars : Variables) : Except Environment.LevelOverflow Environment :=
  vars.toEnvironment.raiseShellLevel

end Variables

end CommandShell
