import CommandShell.FileTree.Walk
import CommandShell.Program
import CommandShell.Toolbox.Quoted

/-!
# Filters and small tools
-/

namespace CommandShell.Toolbox

/-- The name a program was called by. -/
def calledAs (invocation : Invocation) : String :=
  invocation.argv.head?.getD ""

def arguments (invocation : Invocation) : List String :=
  invocation.argv.tail

def inputBytes (invocation : Invocation) : Bytes :=
  match invocation.input with
  | .ok bytes => bytes
  | .error _ => []

/-- Ends with a status and leaves standard input alone. -/
def leave (invocation : Invocation) (code : UInt8) : Completion where
  files := invocation.files
  termination := .exited code

def complaint (invocation : Invocation) (text : String) : Bytes :=
  Bytes.ofText (calledAs invocation ++ ": " ++ text ++ "\n")

/-- What is said about a failed write. -/
def writeComplaint (invocation : Invocation) (errno : Errno) : Bytes :=
  complaint invocation ("write error: " ++ errno.systemDescription)

/-- Writes output and ends; a failed write is reported and fails the program with a status. -/
def finish (invocation : Invocation) (output : Bytes) (failure : UInt8) : Completion :=
  match invocation.writeError with
  | none => { output, files := invocation.files }
  | some errno =>
    if output.isEmpty then { files := invocation.files }
    else
      { errors := writeComplaint invocation errno
        files := invocation.files
        termination := .exited failure }

/-- How far `cat` has come. -/
structure Copying where
  output : Bytes := []
  errors : Bytes := []
  /-- What is left of standard input. -/
  input : Bytes
  /-- The number of bytes of standard input that were read. -/
  consumed : Nat := 0
  /-- A failed write ends the program. -/
  stopped : Bool := false

namespace Copying

/-- The bytes of the output file, those already copied included. -/
def outputSize (copying : Copying) (invocation : Invocation) : Nat :=
  (invocation.outputFile.elim 0 fun path => (invocation.files.content path).length) +
    copying.output.length

/-- A file that the output has grown beyond must not be copied to itself. -/
def copiesItself (copying : Copying) (invocation : Invocation) (file : Option Path)
    (position : Nat) : Bool :=
  file.isSome && file = invocation.outputFile && position < copying.outputSize invocation

def complain (copying : Copying) (invocation : Invocation) (name text : String) : Copying :=
  { copying with
    errors := copying.errors ++ complaint invocation (quotedIfNeeded name ++ ": " ++ text) }

/-- Writes bytes of an operand. -/
def write (copying : Copying) (invocation : Invocation) (bytes : Bytes) : Copying :=
  match invocation.writeError with
  | none => { copying with output := copying.output ++ bytes }
  | some errno =>
    if bytes.isEmpty then copying
    else
      { copying with
        errors := copying.errors ++ writeComplaint invocation errno
        stopped := true }

/-- What `cat` reads at once. -/
def readSize : Nat := 131072

/-- Copies standard input, as far as it is left. If it cannot be written, only its start is read. -/
def copyInput (copying : Copying) (invocation : Invocation) : Copying :=
  match invocation.input with
  | .error errno => copying.complain invocation "-" errno.systemDescription
  | .ok _ =>
    if copying.copiesItself invocation invocation.inputFile copying.consumed then
      copying.complain invocation "-" "input file is output file"
    else
      let bytes :=
        if invocation.writeError.isSome then copying.input.take readSize else copying.input
      { copying.write invocation bytes with
        input := copying.input.drop bytes.length
        consumed := copying.consumed + bytes.length }

/-- Copies a file. -/
def copyFile (copying : Copying) (invocation : Invocation) (name : String) : Copying :=
  match invocation.files.lookup invocation.directory name with
  | .error cause => copying.complain invocation name cause.errno.systemDescription
  | .ok (_, .directory) =>
    copying.complain invocation name Errno.isDirectory.systemDescription
  | .ok (path, .file content _) =>
    if copying.copiesItself invocation (some path) 0 then
      copying.complain invocation name "input file is output file"
    else copying.write invocation content
  | .ok _ => copying

/-- Copies operands until a write fails. -/
def copyAll (copying : Copying) (invocation : Invocation) : List String → Copying
  | [] => copying
  | name :: rest =>
    if copying.stopped then copying
    else if name = "-" then (copying.copyInput invocation).copyAll invocation rest
    else (copying.copyFile invocation name).copyAll invocation rest

end Copying

/-- Copies its operands to standard output; `-` is standard input. -/
def cat (invocation : Invocation) : Completion :=
  let names := if (arguments invocation).isEmpty then ["-"] else arguments invocation
  let copying := Copying.copyAll { input := inputBytes invocation } invocation names
  { output := copying.output
    errors := copying.errors
    files := invocation.files
    consumed := copying.consumed
    termination := .exited (if copying.errors.isEmpty then 0 else 1) }

/-- The line that points to a program's help. -/
def helpHint (invocation : Invocation) : Bytes :=
  Bytes.ofText ("Try '" ++ calledAs invocation ++ " --help' for more information.\n")

/-- The bytes of a set such as `a-z`, or the first range in it that goes backwards. -/
def expandSet : Bytes → Except Bytes Bytes
  | first :: 45 :: last :: rest =>
    if last < first then .error [first, 45, last]
    else
      (expandSet rest).map fun bytes =>
        (List.range (last.toNat + 1 - first.toNat)).map (fun n => UInt8.ofNat (first.toNat + n)) ++
          bytes
  | byte :: rest => (expandSet rest).map (byte :: ·)
  | [] => .ok []

/-- Replaces a byte of the first set by its partner; the last of the second set serves the rest. -/
def replaceByte (source target : Bytes) (byte : UInt8) : UInt8 :=
  match source.idxOf? byte with
  | none => byte
  | some n => (target[n]?.orElse fun _ => target.getLast?).getD byte

/-- What `tr` reads at once. -/
def trReadSize : Nat := 8192

/-- Replaces the bytes of one set by those of another. -/
def replaceBytes (invocation : Invocation) (source target : Bytes) : Completion :=
  match invocation.input with
  | .error errno =>
    { leave invocation 1 with
      errors := complaint invocation ("read error: " ++ errno.systemDescription) }
  | .ok bytes =>
    let bytes := if invocation.writeError.isSome then bytes.take trReadSize else bytes
    { finish invocation (bytes.map (replaceByte source target)) 1 with consumed := bytes.length }

/-- Replaces the bytes of the set in its first operand by those in its second. -/
def tr (invocation : Invocation) : Completion :=
  let refuse (errors : Bytes) : Completion := { leave invocation 1 with errors }
  let hint := helpHint invocation
  match arguments invocation with
  | [] => refuse (complaint invocation "missing operand" ++ hint)
  | [source] =>
    refuse (complaint invocation ("missing operand after " ++ quoted source) ++
      Bytes.ofText "Two strings must be given when translating.\n" ++ hint)
  | [source, target] =>
    match expandSet (Bytes.ofText source), expandSet (Bytes.ofText target) with
    | .error range, _ | _, .error range =>
      refuse (complaint invocation ("range-endpoints of " ++ quoted (Bytes.toText range) ++
        " are in reverse collating sequence order"))
    | .ok source, .ok target =>
      if target.isEmpty && !source.isEmpty then
        refuse (complaint invocation "when not truncating set1, string2 must be non-empty")
      else replaceBytes invocation source target
  | _ :: _ :: extra :: _ =>
    refuse (complaint invocation ("extra operand " ++ quoted extra) ++ hint)

/-- Removes directories one after the other. -/
def removeAll (invocation : Invocation) (completion : Completion) : List String → Completion
  | [] => completion
  | name :: rest =>
    match completion.files.removeDirectory invocation.directory name with
    | .ok files => removeAll invocation { completion with files } rest
    | .error cause =>
      let text := "failed to remove " ++ quoted name ++ ": " ++ cause.errno.systemDescription
      let failed := { completion with
        errors := completion.errors ++ complaint invocation text
        termination := .exited 1 }
      removeAll invocation failed rest

/-- Removes empty directories. -/
def rmdir (invocation : Invocation) : Completion :=
  match arguments invocation with
  | [] =>
    { leave invocation 1 with
      errors := complaint invocation "missing operand" ++ helpHint invocation }
  | names => removeAll invocation (leave invocation 0) names

/-- The status of `env` when it fails by itself. -/
def envFailure : UInt8 := 125

/-- Prints its environment. -/
def env (invocation : Invocation) : Completion :=
  finish invocation
    (invocation.environment.flatMap fun entry => Bytes.ofText (entry ++ "\n")) envFailure

end CommandShell.Toolbox
