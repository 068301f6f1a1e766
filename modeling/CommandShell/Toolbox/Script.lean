import CommandShell.Toolbox.Filter
import CommandShell.Toolbox.Script.Run

/-!
# The interpreter of scripts

`sh` runs the script after `-c`, the one in a file, or the one on standard input. What follows are
the parameters of the script.
-/

namespace CommandShell.Toolbox

namespace Script

/-- What the arguments of the interpreter say before the script. -/
structure Arguments where
  options : List Char := []
  /-- The script is the next argument. -/
  isCommand : Bool := false
  rest : List String := []

namespace Arguments

/-- Sets or clears options by their letters. -/
def setLetters (arguments : Arguments) (value : Bool) : List Char → Except String Arguments
  | [] => .ok arguments
  | c :: rest =>
    if c = 'c' then { arguments with isCommand := true }.setLetters value rest
    else if c = 'l' then arguments.setLetters value rest
    else if Scope.optionLetters.contains c then
      let others := arguments.options.filter fun d => d ≠ c
      let options := if value then c :: others else others
      { arguments with options }.setLetters value rest
    else .error ("Illegal option -" ++ String.singleton c)

/-- Reads options up to the first argument that is none. -/
def read (arguments : Arguments) : List String → Except String Arguments
  | [] => .ok { arguments with rest := [] }
  | text :: rest =>
    match text.toList with
    | ['-'] | ['-', '-'] => .ok { arguments with rest }
    | '-' :: letters =>
      match arguments.setLetters true letters with
      | .ok arguments => arguments.read rest
      | .error message => .error message
    | '+' :: letters =>
      match arguments.setLetters false letters with
      | .ok arguments => arguments.read rest
      | .error message => .error message
    | _ => .ok { arguments with rest := text :: rest }

end Arguments

/-- A script, its name and its parameters. -/
structure Source where
  name : String
  script : Raw
  parameters : List String := []
  consumed : Nat := 0
  /-- The script was read line by line. -/
  isRead : Bool := true

/-- The script that the arguments of the interpreter ask for. -/
def source (invocation : Invocation) (arguments : Arguments) : Except String Source :=
  let input := inputBytes invocation
  let piped : Source :=
    { name := calledAs invocation
      script := Raw.ofBytes input
      parameters := arguments.rest
      consumed := input.length }
  match arguments.rest with
  | [] => if arguments.isCommand then .error "-c requires an argument" else .ok piped
  | text :: rest =>
    if arguments.isCommand then
      .ok
        { name := rest.head?.getD (calledAs invocation)
          script := Raw.ofText text
          parameters := rest.tail
          isRead := false }
    else if arguments.options.contains 's' then .ok piped
    else
      match invocation.files.lookup invocation.directory text with
      | .error cause =>
        .error ("cannot open " ++ text ++ ": " ++ Raw.toText (openComplaint "No such file" cause))
      | .ok (_, node) =>
        let content := match node with
          | .file content _ => content
          | _ => []
        .ok { name := text, script := Raw.ofBytes content, parameters := rest }

/-- The variables of a script. The working directory keeps the name it was handed over by, if that
leads to it. -/
def startVars (invocation : Invocation) : List (Raw × Raw) :=
  let given := invocation.environment.filterMap fun entry =>
    let raw := Raw.ofText entry
    let name := raw.takeWhile fun c => c ≠ '='
    if name.head?.any isNameStart && name.all isNameChar then
      some (name, raw.drop (name.length + 1))
    else none
  let files := invocation.files
  let directory :=
    match given.lookup "PWD".toList with
    | some name =>
      let path := files.directoryAt invocation.directory (Raw.toText name)
      if name.head? = some '/' && path.toOption = some invocation.directory then name
      else Raw.ofText invocation.directory.text
    | none => Raw.ofText invocation.directory.text
  let fixed : List (String × Raw) :=
    [("IFS", " \t\n".toList), ("OPTIND", ['1']),
      ("PWD", if files.isDirectory invocation.directory then directory else [])]
  let fallback : List (String × Raw) :=
    [("PATH", "/usr/local/sbin:/usr/local/bin:/usr/sbin:/usr/bin:/sbin:/bin".toList),
      ("PS1", "# ".toList), ("PS2", "> ".toList), ("PS4", "+ ".toList)]
  let named (entries : List (String × Raw)) : List (Raw × Raw) :=
    entries.map fun (name, value) => (name.toList, value)
  named fixed ++ given ++ named fallback

/-- What the interpreter says before it starts. -/
def opening (invocation : Invocation) (name : String) (options : List Char) : List Bytes :=
  let lost := "sh: 0: getcwd() failed: No such file or directory\n"
  let noTerminal := name ++ ": 0: can't access tty; job control turned off\n"
  (if options.contains 'm' || options.contains 'i' then [Bytes.ofText noTerminal] else []) ++
    (if invocation.files.isDirectory invocation.directory then [] else [Bytes.ofText lost])

/-- Runs a script. -/
def run (invocation : Invocation) (options : List Char) (source : Source) : Completion :=
  let scope : Scope :=
    { name := Raw.ofText source.name
      parameters := source.parameters.map Raw.ofText
      vars := startVars invocation
      options
      files := invocation.files
      directory := invocation.directory }
  let script := source.script.filter fun c => c ≠ '\x00'
  let machine : Machine :=
    { scope
      errors := opening invocation source.name options
      writeError := invocation.writeError
      unshown := if source.isRead && options.contains 'v' then Text.pieces '\n' script else [] }
  { (machine.runLines (linesOf script)).completion with consumed := source.consumed }

end Script

/-- Interprets a script. -/
def sh (invocation : Invocation) : Completion :=
  let result := do
    let arguments ← Script.Arguments.read {} (arguments invocation)
    let source ← Script.source invocation arguments
    return Script.run invocation arguments.options source
  match result with
  | .ok completion => completion
  | .error message =>
    { leave invocation 2 with
      errors := Bytes.ofText (calledAs invocation ++ ": 0: " ++ message ++ "\n") }

end CommandShell.Toolbox
