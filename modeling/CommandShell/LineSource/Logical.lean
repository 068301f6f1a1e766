import CommandShell.LineSource
import CommandShell.Quoting
import CommandShell.Theme

/-!
# Logical lines

A line with an open quote goes on in the next physical line, with a line feed between them. A line
that ends in an unquoted backslash goes on in the next one without the backslash and without a
separator.
-/

namespace CommandShell

/-- Whether a line can stand for itself. -/
inductive Completeness where
  | complete
  | openQuote (quote : Char)
  | continued
  deriving DecidableEq, Repr

/-- Whether a line that ends in a state of quoting can stand for itself. -/
def Quoting.completeness : Quoting → Completeness
  | .bare => .complete
  | .escaped => .continued
  | .single => .openQuote '\''
  | .double | .doubleEscaped => .openQuote '"'

def completeness (line : String) : Completeness :=
  (Quoting.bare.after line.toList).completeness

/-- The outcome of reading on: the logical line, what is left of the source, how often it was
asked, and what went to the log. -/
structure Joined where
  result : Except ShellError Reading
  rest : List Arrival
  asked : Nat := 0
  notes : Transcript := []

/-- The outcome seen from one physical line earlier. -/
def Joined.askedOnce (joined : Joined) : Joined :=
  { joined with asked := joined.asked + 1 }

/-- Completes a line with what a source has. The line is given by its characters, the last one
first, and the state of quoting that it ends in. -/
def joinArrivals (quoting : Quoting) (chars : List Char) (arrivals : List Arrival) : Joined :=
  let ended (chars : List Char) : Except ShellError Reading :=
    .ok (.line (String.ofList chars.reverse))
  match quoting.completeness, arrivals with
  | .complete, arrivals => { result := ended chars, rest := arrivals }
  | .openQuote quote, [] => { result := .error (.unexpectedEnd quote), rest := [], asked := 1 }
  | .openQuote quote, arrival :: rest =>
    match arrival with
    | .line next =>
      (joinArrivals ((quoting.step '\n').after next.toList)
        (next.toList.reverse ++ '\n' :: chars) rest).askedOnce
    | .interrupt => { result := .ok .interrupted, rest, asked := 1 }
    | .endOfInput | .failure _ =>
      { result := .error (.unexpectedEnd quote), rest, asked := 1, notes := arrival.notes }
  | .continued, [] => { result := ended chars.tail, rest := [], asked := 1 }
  | .continued, arrival :: rest =>
    match arrival with
    | .line next =>
      (joinArrivals (Quoting.bare.after next.toList) (next.toList.reverse ++ chars.tail)
        rest).askedOnce
    | .interrupt => { result := .ok .interrupted, rest, asked := 1 }
    | .endOfInput | .failure _ =>
      { result := ended chars.tail, rest, asked := 1, notes := arrival.notes }

/-- The outcome of reading a logical line. -/
structure LogicalRead where
  result : Except ShellError Reading
  source : LineSource
  notes : Transcript

namespace LineSource

/-- Reads a logical line. -/
def readLogical (source : LineSource) (theme : Theme) : LogicalRead :=
  let (arrival, source) := source.next theme.prompt
  match arrival with
  | .line line =>
    let joined :=
      joinArrivals (Quoting.bare.after line.toList) line.toList.reverse source.arrivals
    { result := joined.result
      source := { source with arrivals := joined.rest }.ask joined.asked theme.continuation
      notes := joined.notes }
  | other => { result := .ok other.reading, source, notes := other.notes }

end LineSource

end CommandShell
