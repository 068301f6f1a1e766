import CommandShell.Shell

/-!
# Scripts read in blocks

A script on standard input or in a file is fetched in blocks while its commands run. A command
finds standard input where the last block ended, and what a command adds to the end of a script
file is read like the rest of it.
-/

namespace CommandShell

def blockSize : Nat := 8192

/-- Where a script comes from. -/
inductive Origin where
  | stdin
  /-- A file that was fetched up to a position. -/
  | file (path : Path) (position : Nat)
  deriving DecidableEq, Repr

namespace Origin

/-- What can still be fetched. -/
def rest (origin : Origin) (world : World) : Bytes :=
  match origin with
  | .stdin => world.stdin.rest
  | .file path position => (world.files.content path).drop position

/-- Goes forward by a number of bytes. -/
def skip (origin : Origin) (count : Nat) (world : World) : Origin × World :=
  match origin with
  | .stdin => (.stdin, { world with stdin := world.stdin.drop count })
  | .file path position => (.file path (position + count), world)

end Origin

structure Feed where
  origin : Origin
  /-- The lines that were fetched and not yet read, and a mark after them. -/
  ready : List Arrival := [.endOfInput]
  /-- The start of the line after them. -/
  started : Bytes := []

namespace Feed

/-- A shell that has certain lines before it. Its prompts are not kept, since nobody sees them. -/
def present (arrivals : List Arrival) (shell : Shell) : Shell :=
  { shell with source := { arrivals, handed := shell.source.handed } }

/-- How often a larger part is tried before the whole text is taken. -/
def maxAttempts : Nat := 64

/-- The lines of a text that the next turn of a shell takes after those in `lines`. They are looked
for in the first `size` bytes, or in more if the turn would take them all: the last line of the part
may be cut off, so it has to be left. The first number bounds the attempts. -/
def taken (shell : Shell) (lines : List Arrival) (text : Bytes) : Nat → Nat → List Bytes
  | 0, _ => Text.pieces 10 text
  | attempts + 1, size =>
    let part := Text.pieces 10 (text.take size)
    let left := (present (lines ++ part.map .ofPiece) shell).sourceAfterTurn.arrivals.length
    if left = 0 && !(text.drop size).isEmpty then taken shell lines text attempts (2 * size)
    else part.take (part.length - left)

/-- Cuts a text into the lines that can be read and the start of the next one. A last line without
an end is read only if `count` lines are needed and it is one of them. -/
def cut (text : Bytes) (count : Nat) : List Arrival × Bytes :=
  let pieces := Text.pieces 10 text
  match pieces.getLast? with
  | none => ([], [])
  | some piece =>
    if piece.getLast? = some 10 || pieces.length ≤ count then (pieces.map .ofPiece, [])
    else (pieces.dropLast.map .ofPiece, piece)

/-- Fetches as many blocks as the next turn of a shell needs. -/
def fetch (feed : Feed) (shell : Shell) : Feed × World :=
  let world := shell.session.world
  let rest := feed.origin.rest world
  let lines := feed.ready.dropLast
  let needed :=
    taken shell lines (feed.started ++ rest) maxAttempts (feed.started.length + blockSize)
  let missing := needed.flatten.length - feed.started.length
  let fetched := rest.take ((missing + blockSize - 1) / blockSize * blockSize)
  let (origin, world) := feed.origin.skip fetched.length world
  let (added, started) := cut (feed.started ++ fetched) needed.length
  ({ origin, ready := lines ++ added ++ [.endOfInput], started }, world)

/-- What is ready after a turn. -/
def after (feed : Feed) (turn : Turn) : Feed :=
  let arrivals := turn.shell.source.arrivals
  { feed with ready := if arrivals.isEmpty then [.endOfInput] else arrivals }

/-- One turn of a shell, which reads its lines from the feed. It is taken with the lines that are
ready, and once more with others if it comes to the mark after them. -/
def turn (feed : Feed) (shell : Shell) : Feed × Turn :=
  let turn := (present feed.ready shell).turn
  if turn.shell.source.arrivals.isEmpty then
    let (feed, world) := feed.fetch shell
    let turn :=
      (present feed.ready { shell with session := { shell.session with world } }).turn
    (feed.after turn, turn)
  else (feed.after turn, turn)

/-- At most the given number of turns. -/
def turns : Nat → Feed → Shell → Shell
  | 0, _, shell => shell
  | limit + 1, feed, shell =>
    match feed.turn shell with
    | (feed, .again shell) => turns limit feed shell
    | (_, .finished shell) => shell

/-- A script that keeps adding to itself is stopped after this number of turns. -/
def maxTurns : Nat := 1000000000

/-- The loop of a shell that reads its lines from the feed. -/
def loop (feed : Feed) (shell : Shell) : Shell :=
  feed.turns maxTurns shell

end Feed

end CommandShell
