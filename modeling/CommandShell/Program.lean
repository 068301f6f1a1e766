import CommandShell.Error
import CommandShell.FileTree

/-!
# Programs

A program is a function: from its arguments, its environment, its standard input and the files it
finds, to its output, the files it leaves and the way it ends.
-/

namespace CommandShell

/-- A signal that can end a process. -/
structure Signal where
  number : Nat
  positive : 1 ≤ number := by decide
  bounded : number ≤ 64 := by decide
  deriving DecidableEq, Repr

namespace Signal

def hangUp : Signal := { number := 1 }
def interrupt : Signal := { number := 2 }
def quit : Signal := { number := 3 }
def kill : Signal := { number := 9 }
def terminate : Signal := { number := 15 }

/-- The signals that a shell can tell apart; the ones above them are for real time. -/
def isKnown (signal : Signal) : Bool :=
  signal.number ≤ 31

/-- The signals known by name. -/
def named : List (String × Signal) :=
  [("HUP", hangUp), ("INT", interrupt), ("QUIT", quit), ("ABRT", { number := 6 }), ("KILL", kill),
    ("USR1", { number := 10 }), ("SEGV", { number := 11 }), ("USR2", { number := 12 }),
    ("PIPE", { number := 13 }), ("ALRM", { number := 14 }), ("TERM", terminate)]

end Signal

/-- How a process ended. -/
inductive Termination where
  | exited (code : UInt8)
  | killed (signal : Signal)
  deriving DecidableEq, Repr

namespace Termination

/-- A process that leaves with a status keeps its last eight bits. -/
def ofStatus (status : Int) : Termination :=
  .exited (UInt8.ofNat (status % 256).toNat)

/-- The status a shell reports. The end by a signal that it cannot tell is a wait that failed. -/
def status : Termination → Int
  | .exited code => code.toNat
  | .killed signal => if signal.isKnown then 128 + signal.number else 1

end Termination

/-- What a program is started with. -/
structure Invocation where
  argv : List String
  environment : List String
  directory : Path
  files : FileTree
  /-- All of standard input, or the error that reading it meets. -/
  input : Except Errno Bytes
  /-- The number of bytes before it, if it is a file. -/
  inputOffset : Option Nat := none
  /-- The regular files behind the two streams. -/
  inputFile : Option Path := none
  outputFile : Option Path := none
  /-- The error that every write to standard output meets. -/
  writeError : Option Errno := none

/-- What a program leaves behind. -/
structure Completion where
  output : Bytes := []
  errors : Bytes := []
  files : FileTree
  /-- The number of bytes of standard input that were read. -/
  consumed : Nat := 0
  termination : Termination := .exited 0

/-- The programs that come with the system, by name. -/
abbrev Programs := String → Invocation → Completion

end CommandShell
