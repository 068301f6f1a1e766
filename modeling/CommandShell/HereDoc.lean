import CommandShell.LineSource
import CommandShell.Pipeline

/-!
# Here-documents

The bodies of all here-documents of a line are read, in the order of their operators, before
anything on the line runs. A body ends at a line equal to its delimiter, or at the end of input
with a warning. An interrupt stops the reading.
-/

namespace CommandShell

/-- A body as read from a source. -/
structure BodyRead where
  /-- The lines of the body, unless an interrupt stopped it. -/
  lines : Option (List String)
  rest : List Arrival
  asked : Nat
  notes : Transcript

namespace BodyRead

def precededBy (line : String) (read : BodyRead) : BodyRead :=
  { read with lines := read.lines.map (line :: ·), asked := read.asked + 1 }

/-- The body, in which every line is followed by a line feed. -/
def body (read : BodyRead) : Option String :=
  read.lines.map fun lines => String.join (lines.map fun line => line ++ "\n")

end BodyRead

/-- The warning for a body that the end of input closes. -/
def unterminated (delimiter : String) : Transcript :=
  [.log .warn ("heredoc 遇到 EOF: " ++ delimiter),
    notice ("warning: here-document delimited by end-of-file (wanted `" ++ delimiter ++ "')")]

/-- Reads a body up to its delimiter. -/
def readBody (delimiter : String) : List Arrival → BodyRead
  | [] => { lines := some [], rest := [], asked := 1, notes := unterminated delimiter }
  | .line line :: rest =>
    if line = delimiter then { lines := some [], rest, asked := 1, notes := [] }
    else (readBody delimiter rest).precededBy line
  | .interrupt :: rest => { lines := none, rest, asked := 1, notes := [] }
  | .endOfInput :: rest =>
    { lines := some [], rest, asked := 1, notes := unterminated delimiter }
  | .failure cause :: rest =>
    { lines := some [], rest, asked := 1,
      notes := (Arrival.failure cause).notes ++ unterminated delimiter }

/-- The state of a collection of bodies. -/
structure Collection where
  source : LineSource
  interrupted : Bool := false
  notes : Transcript := []

/-- Gives a redirection its body, if it awaits one and no interrupt came. -/
def Collection.fill (prompt : String) (collection : Collection) (redirection : Redirection) :
    Collection × Redirection :=
  if collection.interrupted || !redirection.awaitsBody then (collection, redirection)
  else
    let read := readBody redirection.target collection.source.arrivals
    let source := { collection.source with arrivals := read.rest }.ask read.asked prompt
    match read.body with
    | none =>
      ({ source, interrupted := true, notes := collection.notes ++ read.notes }, redirection)
    | some body =>
      let size := Event.log .debug
        ("heredoc 收集完成: " ++ toString body.utf8ByteSize ++ " 字节")
      ({ source, notes := collection.notes ++ read.notes ++ [size] },
        { redirection with body := some body })

/-- Maps a list from left to right, handing a state on. -/
def mapWithState {σ α β : Type} (f : σ → α → σ × β) : σ → List α → σ × List β
  | state, [] => (state, [])
  | state, a :: rest =>
    let head := f state a
    let tail := mapWithState f head.1 rest
    (tail.1, head.2 :: tail.2)

def Collection.fillCommand (prompt : String) (collection : Collection) (command : Command) :
    Collection × Command :=
  let filled := mapWithState (Collection.fill prompt) collection command.redirections
  (filled.1, { command with redirections := filled.2 })

def Collection.fillPipeline (prompt : String) (collection : Collection) (pipeline : Pipeline) :
    Collection × Pipeline :=
  let filled := mapWithState (Collection.fillCommand prompt) collection pipeline.commands
  (filled.1, { pipeline with commands := filled.2 })

/-- Reads the bodies of all here-documents of a line. -/
def collectHereDocs (prompt : String) (source : LineSource) (list : CommandList) :
    Collection × CommandList :=
  mapWithState (Collection.fillPipeline prompt) { source } list

end CommandShell
