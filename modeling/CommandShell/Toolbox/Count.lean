import CommandShell.Text.Numeral
import CommandShell.Toolbox.Filter

/-!
# Counting

`wc` counts the lines, words and bytes of its operands, or of standard input.
-/

namespace CommandShell.Toolbox

/-- Numbers of lines, words and bytes. -/
structure Tally where
  lines : Nat := 0
  words : Nat := 0
  bytes : Nat := 0
  deriving DecidableEq, Repr

namespace Tally

def add (a b : Tally) : Tally where
  lines := a.lines + b.lines
  words := a.words + b.words
  bytes := a.bytes + b.bytes

def isSpace (byte : UInt8) : Bool :=
  byte = 32 || (9 ≤ byte && byte ≤ 13)

/-- The number of words. Bytes that are neither white space nor visible belong to what is around
them. -/
def countWords (bytes : Bytes) : Nat :=
  let step (state : Nat × Bool) (byte : UInt8) : Nat × Bool :=
    let (count, inside) := state
    if isSpace byte then (count, false)
    else if 33 ≤ byte && byte ≤ 126 then (if inside then count else count + 1, true)
    else (count, inside)
  (bytes.foldl step (0, false)).1

def ofBytes (bytes : Bytes) : Tally where
  lines := bytes.count 10
  words := countWords bytes
  bytes := bytes.length

end Tally

/-- A number of bytes, and how many were read to find it. -/
structure Measure where
  number : Nat
  consumed : Nat

namespace Measure

def pageSize : Nat := 4096

/-- Counts the bytes that follow the first `offset` bytes of a file. Its size tells their number
unless it is a multiple of the page size: then the count goes to a position near the end and reads
on from as far behind it as the file was read before. -/
def ofFile (offset : Nat) (bytes : Bytes) : Measure :=
  let size := offset + bytes.length
  let position := size - size % (pageSize + 1)
  if size % pageSize ≠ 0 then { number := bytes.length, consumed := 0 }
  else if offset < position then
    { number := position - offset + (size - (offset + position)), consumed := bytes.length }
  else { number := bytes.length, consumed := bytes.length }

def ofBytes (offset : Option Nat) (bytes : Bytes) : Measure :=
  match offset with
  | some offset => .ofFile offset bytes
  | none => { number := bytes.length, consumed := bytes.length }

end Measure

/-- What is to be counted. -/
structure CountOptions where
  lines : Bool := false
  words : Bool := false
  bytes : Bool := false
  deriving DecidableEq, Repr

namespace CountOptions

/-- Without options everything is counted. -/
def orAll (options : CountOptions) : CountOptions :=
  if options = {} then { lines := true, words := true, bytes := true } else options

def onlyBytes : CountOptions :=
  { bytes := true }

/-- The numbers that were asked for. -/
def pick (options : CountOptions) (tally : Tally) : List Nat :=
  (if options.lines then [tally.lines] else []) ++ (if options.words then [tally.words] else []) ++
    (if options.bytes then [tally.bytes] else [])

/-- Reads the letters of an option, or finds the first that is none. -/
def readLetters (options : CountOptions) : List Char → Except Char CountOptions
  | [] => .ok options
  | 'l' :: rest => { options with lines := true }.readLetters rest
  | 'w' :: rest => { options with words := true }.readLetters rest
  | 'c' :: rest => { options with bytes := true }.readLetters rest
  | c :: _ => .error c

/-- Divides arguments into options and operands. -/
def read (options : CountOptions) : List String → Except Char (CountOptions × List String)
  | [] => .ok (options, [])
  | "--" :: rest => .ok (options, rest)
  | text :: rest =>
    match text.toList with
    | '-' :: c :: letters =>
      match options.readLetters (c :: letters) with
      | .error c => .error c
      | .ok options => options.read rest
    | _ => (options.read rest).map fun (options, operands) => (options, text :: operands)

end CountOptions

/-- How far `wc` has come. -/
structure Counting where
  options : CountOptions
  width : Nat
  output : List String := []
  errors : Bytes := []
  /-- What is left of standard input. -/
  input : Bytes
  consumed : Nat := 0
  total : Tally := {}

namespace Counting

/-- Adds a line of numbers. -/
def addLine (counting : Counting) (tally : Tally) (label : String) : Counting :=
  let numbers := (counting.options.pick tally).map fun n =>
    Text.padLeft counting.width (toString n)
  { counting with
    output := (" ".intercalate numbers ++ label ++ "\n") :: counting.output
    total := counting.total.add tally }

def complain (counting : Counting) (invocation : Invocation) (name : String) (errno : Errno) :
    Counting :=
  let text := quotedIfNeeded name ++ ": " ++ errno.systemDescription
  { counting with errors := counting.errors ++ complaint invocation text }

/-- Counts what is left of standard input, which messages call by a name. -/
def countInput (counting : Counting) (invocation : Invocation) (name label : String) : Counting :=
  match invocation.input with
  | .error errno => (counting.complain invocation name errno).addLine {} label
  | .ok _ =>
    if counting.options = .onlyBytes then
      let offset := invocation.inputOffset.map (· + counting.consumed)
      let measure := Measure.ofBytes offset counting.input
      { counting with
        input := counting.input.drop measure.consumed
        consumed := counting.consumed + measure.consumed }.addLine { bytes := measure.number } label
    else
      { counting with
        input := []
        consumed := counting.consumed + counting.input.length }.addLine
          (.ofBytes counting.input) label

/-- Counts a file. -/
def countFile (counting : Counting) (invocation : Invocation) (name : String) : Counting :=
  match invocation.files.lookup invocation.directory name with
  | .error cause => counting.complain invocation name cause.errno
  | .ok (_, .directory) =>
    (counting.complain invocation name .isDirectory).addLine {} (" " ++ name)
  | .ok (_, .file content _) => counting.addLine (.ofBytes content) (" " ++ name)
  | .ok _ => counting.addLine {} (" " ++ name)

def countAll (counting : Counting) (invocation : Invocation) : List String → Counting
  | [] => counting
  | "-" :: rest => (counting.countInput invocation "-" " -").countAll invocation rest
  | name :: rest => (counting.countFile invocation name).countAll invocation rest

end Counting

/-- The size of an operand if it is a regular file; nothing for one that is not there. -/
def operandSize? (invocation : Invocation) (name : String) : Option (Option Nat) :=
  if name = "-" then
    some (invocation.inputOffset.map (· + (inputBytes invocation).length))
  else
    match invocation.files.lookup invocation.directory name with
    | .error _ => none
    | .ok (_, .file content _) => some (some content.length)
    | .ok (_, .program _) => some (some 0)
    | .ok _ => some none

/-- The width of the numbers: that of the size of all files, and more if one is not regular. A
single number needs no room. -/
def countWidth (invocation : Invocation) (options : CountOptions) (operands : List String) : Nat :=
  let sizes := operands.map (operandSize? invocation)
  let known := sizes.filterMap id
  if operands.length = 1 && (options.pick {}).length = 1 then 1
  else if sizes.head?.any Option.isNone then 1
  else
    let total := (known.filterMap id).foldr (· + ·) 0
    max (toString total).length (if known.any Option.isNone then 7 else 1)

/-- Counts lines, words and bytes. -/
def wc (invocation : Invocation) : Completion :=
  match CountOptions.read {} (arguments invocation) with
  | .error c =>
    let text := "invalid option -- '" ++ String.singleton c ++ "'"
    { leave invocation 1 with errors := complaint invocation text ++ helpHint invocation }
  | .ok (options, operands) =>
    let options := options.orAll
    let names := if operands.isEmpty then ["-"] else operands
    let start : Counting :=
      { options
        width := countWidth invocation options names
        input := inputBytes invocation }
    let counting :=
      if operands.isEmpty then start.countInput invocation "standard input" ""
      else start.countAll invocation operands
    let counting :=
      if operands.length > 1 then counting.addLine counting.total " total" else counting
    let isLost := invocation.writeError.isSome && !counting.output.isEmpty
    let errors := counting.errors ++ if isLost then complaint invocation "write error" else []
    { output := if isLost then [] else Bytes.ofText (String.join counting.output.reverse)
      errors
      files := invocation.files
      consumed := counting.consumed
      termination := .exited (if errors.isEmpty then 0 else 1) }

end CommandShell.Toolbox
