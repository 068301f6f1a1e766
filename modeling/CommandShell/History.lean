import CommandShell.Text.Blank
import CommandShell.Text.Lines

/-!
# History

The lines a user entered, without blank ones and without immediate repetitions. In a file each
entry is one line: a backslash is doubled and a line feed is written `\n`.
-/

namespace CommandShell

namespace HistoryEntry

def escapeChars : List Char → List Char
  | [] => []
  | '\\' :: rest => '\\' :: '\\' :: escapeChars rest
  | '\n' :: rest => '\\' :: 'n' :: escapeChars rest
  | c :: rest => c :: escapeChars rest

/-- A backslash before any other character is dropped; one at the end is kept. -/
def unescapeChars : List Char → List Char
  | [] => []
  | ['\\'] => ['\\']
  | '\\' :: c :: rest => (if c = 'n' then '\n' else c) :: unescapeChars rest
  | c :: rest => c :: unescapeChars rest

def escape (entry : String) : String :=
  String.ofList (escapeChars entry.toList)

def unescape (line : String) : String :=
  String.ofList (unescapeChars line.toList)

end HistoryEntry

structure History where
  /-- Where the history is saved. -/
  path : Option String := none
  entries : List String := []
  deriving DecidableEq, Repr

namespace History

/-- A line is recorded unless it is blank or repeats the last entry. -/
def accepts (history : History) (line : String) : Bool :=
  !Text.isBlank line && history.entries.getLast? ≠ some line

def record (history : History) (line : String) : History :=
  if history.accepts line then { history with entries := history.entries ++ [line] } else history

/-- The entries of a history file. -/
def parseEntries (content : String) : List String :=
  (Text.lines content).map HistoryEntry.unescape

/-- The content of a history file. -/
def renderEntries (entries : List String) : String :=
  String.join (entries.map fun entry => HistoryEntry.escape entry ++ "\n")

end History

end CommandShell
