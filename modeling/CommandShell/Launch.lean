import CommandShell.Search
import CommandShell.Stream

/-!
# Starting programs

A file is started if it is executable and not being written: an installed program by itself, a
script by the interpreter its first line names. The texts that are handed over have to fit into a
limited room.
-/

namespace CommandShell

/-- A space or tab. -/
def isGapByte (byte : UInt8) : Bool :=
  byte = 32 || byte = 9

/-- The start of a file, which is all that is looked at for an interpreter. -/
def headSize : Nat := 256

/-- The line after `#!` in the rest of a file's start. It ends at a line feed that comes before any
NUL. Without one it is cut off at the end of the start, but only if a gap or NUL shows that the
interpreter's name is not. -/
def headLine? (rest : Bytes) : Option Bytes :=
  let text := rest.takeWhile fun byte => byte ≠ 10 && byte ≠ 0
  if (rest.drop text.length).head? = some 10 then some text
  else
    let padded := rest ++ List.replicate (headSize - 2 - rest.length) 0
    if (padded.dropWhile isGapByte).any fun byte => isGapByte byte || byte = 0 then
      some (padded.take (headSize - 3))
    else none

/-- The interpreter of a script and the argument it is given before the script. -/
structure Interpreter where
  name : String
  argument : Option String := none
  deriving DecidableEq, Repr

/-- The interpreter that a file's content asks for. -/
def interpreter? : Bytes → Option Interpreter
  | 35 :: 33 :: rest =>
    match headLine? (rest.take (headSize - 2)) with
    | none => none
    | some text =>
      let line := (text.reverse.dropWhile isGapByte).reverse.dropWhile isGapByte
      let name := line.takeWhile fun byte => !isGapByte byte && byte ≠ 0
      let rest := line.drop name.length
      if line.isEmpty then none
      else if rest.head?.all fun byte => byte = 0 then some { name := Bytes.toText name }
      else
        let argument := (rest.dropWhile isGapByte).takeWhile fun byte => byte ≠ 0
        some { name := Bytes.toText name, argument := some (Bytes.toText argument) }
  | _ => none

/-- The room for all texts and the pointers to them, in bytes. -/
def maxRoom : Nat := 2097152

/-- The longest text, its end mark included. -/
def maxText : Nat := 131072

/-- The bytes a text takes with its end mark. -/
def roomOf (text : String) : Nat :=
  text.utf8ByteSize + 1

/-- The bytes that texts take together. -/
def totalRoom (texts : List String) : Nat :=
  texts.foldr (fun text room => roomOf text + room) 0

/-- The texts fit into a room. -/
def fits (room : Nat) (texts : List String) : Bool :=
  texts.all (fun text => roomOf text ≤ maxText) && totalRoom texts ≤ room

/-- What a file is started in. -/
structure Setting where
  files : FileTree
  directory : Path
  /-- The file that standard output goes to. -/
  outputFile : Option Path := none
  environment : List String := []

namespace Setting

/-- The room that a file leaves for arguments, `count` of them at the start. -/
def argumentRoom (setting : Setting) (file : String) (count : Nat) : Nat :=
  maxRoom - 8 * (count + setting.environment.length) - roomOf file -
    totalRoom setting.environment

/-- Opens a file to start it. The empty name stands for the working directory. -/
def openProgram (setting : Setting) (file : String) : Except Errno Node :=
  if file = "" then .error .accessDenied
  else
    match setting.files.lookup setting.directory file with
    | .error cause => .error cause.errno
    | .ok (path, node) =>
      if !node.isExecutable then .error .accessDenied
      else if setting.outputFile = some path then .error .textBusy
      else .ok node

/-- The installed program that starting an opened file runs, with its arguments. The first number
bounds the files that are looked at. -/
def startNode (setting : Setting) (room : Nat) :
    Nat → String → Node → List String → Except Errno (String × List String)
  | 0, _, _, _ => .error .tooManyLinks
  | _ + 1, _, .program name, argv => .ok (name, argv)
  | limit + 1, file, .file content _, argv =>
    match interpreter? content with
    | none => .error .execFormat
    | some interpreter =>
      let argv := interpreter.name :: interpreter.argument.toList ++ file :: argv.tail
      if !fits room argv then .error .argumentsTooLong
      else
        match setting.openProgram interpreter.name with
        | .error errno => .error errno
        | .ok node => setting.startNode room limit interpreter.name node argv
  | _ + 1, _, _, _ => .error .accessDenied

/-- A script and the scripts that it is interpreted by are at most this many files. -/
def maxFiles : Nat := 6

/-- The installed program that starting a file runs, with its arguments. -/
def startFile (setting : Setting) (file : String) (argv : List String) :
    Except Errno (String × List String) :=
  match setting.openProgram file with
  | .error errno => .error errno
  | .ok node =>
    let room := setting.argumentRoom file argv.length
    if (file :: setting.environment).all (fun text => roomOf text ≤ maxText) && fits room argv then
      setting.startNode room maxFiles file node argv
    else .error .argumentsTooLong

end Setting

/-- The text can be handed to a program. -/
def isPassable (text : String) : Bool :=
  text.toList.all fun c => c ≠ '\x00'

/-- The entries of an environment that can be handed to a program. -/
def passedEntries (environment : Environment) : List String :=
  environment.toStrings.filter isPassable

/-- The program that a command runs with the arguments it gets, or why it cannot be started. -/
def prepareProgram (world : World) (outputFile : Option Path) (environment : Environment)
    (argv : List String) : Except ShellError (String × List String) × Transcript :=
  match argv with
  | [] => (.error (.commandNotFound ""), [])
  | name :: _ =>
    match resolveCommand world.files world.directory environment name with
    | (.error e, notes) => (.error e, notes)
    | (.ok file, notes) =>
      if isPassable file && argv.all isPassable then
        let setting : Setting :=
          { files := world.files
            directory := world.directory
            outputFile
            environment := passedEntries environment }
        match setting.startFile file argv with
        | .error errno => (.error (.cannotExecute name errno), notes)
        | .ok start => (.ok start, notes)
      else (.error (.cannotExecute name .invalidArgument), notes)

/-- The regular file behind a stream. -/
def Source.file? : Source → Option Path
  | .file path => some path
  | _ => none

def Sink.file? : Sink → Option Path
  | .file path => some path
  | _ => none

/-- What a program is started with by a shell. -/
def invocation (world : World) (streams : Streams) (environment : Environment)
    (argv : List String) : Invocation where
  argv
  environment := passedEntries environment
  directory := world.directory
  files := world.files
  input := streams.input.contents world
  inputOffset := streams.input.offset world
  inputFile := streams.input.file?
  outputFile := streams.output.file?
  writeError := streams.output.writeError

end CommandShell
