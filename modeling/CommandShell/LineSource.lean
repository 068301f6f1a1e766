import CommandShell.Transcript

/-!
# Sources of lines

A source holds what is still to come: physical lines, interrupts, ends of input and failed reads.
After the last of them every read finds the end of input. A failed read is logged and counts as an
end of input.
-/

namespace CommandShell

/-- What a source has for one read. -/
inductive Arrival where
  | line (text : String)
  | interrupt
  | endOfInput
  | failure (cause : IoError)
  deriving DecidableEq, Repr

/-- What a read finds. -/
inductive Reading where
  | line (text : String)
  | interrupted
  | endOfInput
  deriving DecidableEq, Repr

namespace Arrival

/-- A line of a byte stream. It loses its line feed and one carriage return before it; one that is
not valid UTF-8 fails. -/
def ofPiece (piece : Bytes) : Arrival :=
  match Bytes.lineText? piece with
  | some text => .line text
  | none => .failure .notUtf8

def reading : Arrival → Reading
  | .line text => .line text
  | .interrupt => .interrupted
  | .endOfInput | .failure _ => .endOfInput

/-- What a read leaves in the log. -/
def notes : Arrival → Transcript
  | .failure cause => [.log .error ("读取输入失败: " ++ cause.detail)]
  | _ => []

end Arrival

structure LineSource where
  arrivals : List Arrival := []
  /-- The prompts shown so far, the last one first. -/
  asked : List String := []
  /-- The lines handed over for recall, the last one first. -/
  handed : List String := []
  deriving DecidableEq, Repr

namespace LineSource

/-- The lines of a byte stream. -/
def ofBytes (bytes : Bytes) : LineSource where
  arrivals := (Text.pieces 10 bytes).map Arrival.ofPiece

/-- The prompts shown so far. -/
def prompts (source : LineSource) : List String :=
  source.asked.reverse

/-- The lines handed over for recall. -/
def recalled (source : LineSource) : List String :=
  source.handed.reverse

/-- Shows a prompt a number of times. -/
def ask (source : LineSource) (count : Nat) (prompt : String) : LineSource :=
  { source with asked := List.replicate count prompt ++ source.asked }

@[simp] theorem prompts_ask (source : LineSource) (count : Nat) (prompt : String) :
    (source.ask count prompt).prompts = source.prompts ++ List.replicate count prompt := by
  simp [prompts, ask]

/-- Removes what the next read finds. -/
def next (source : LineSource) (prompt : String) : Arrival × LineSource :=
  let source := source.ask 1 prompt
  match source.arrivals with
  | [] => (.endOfInput, source)
  | arrival :: rest => (arrival, { source with arrivals := rest })

/-- Hands a line over for recall. -/
def addRecall (source : LineSource) (line : String) : LineSource :=
  { source with handed := line :: source.handed }

@[simp] theorem recalled_addRecall (source : LineSource) (line : String) :
    (source.addRecall line).recalled = source.recalled ++ [line] := by
  simp [recalled, addRecall]

end LineSource

end CommandShell
