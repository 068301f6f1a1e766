import CommandShell.World
import CommandShell.Writer

/-!
# Streams

Where a command reads from and writes to.
-/

namespace CommandShell

/-- A source of standard input. -/
inductive Source where
  /-- The shell's own standard input. -/
  | inherited
  /-- A pipe or here-document. -/
  | bytes (content : Bytes)
  | file (path : Path)
  | directory
  deriving DecidableEq, Repr

/-- A destination of standard output. -/
inductive Sink where
  /-- The shell's own standard output. -/
  | inherited
  /-- The pipe to the next command. -/
  | pipe
  | file (path : Path)
  | device (device : Device)
  deriving DecidableEq, Repr

structure Streams where
  input : Source := .inherited
  output : Sink := .inherited
  deriving DecidableEq, Repr

namespace Source

/-- All that can be read. A file is read as it is at that time. -/
def contents (source : Source) (world : World) : Except Errno Bytes :=
  match source with
  | .inherited => .ok world.stdin.rest
  | .bytes content => .ok content
  | .file path => .ok (world.files.content path)
  | .directory => .error .isDirectory

/-- The number of bytes of a file that are not read any more. -/
def offset (source : Source) (world : World) : Option Nat :=
  match source with
  | .inherited => world.stdin.offset
  | .file _ => some 0
  | .bytes _ | .directory => none

end Source

namespace Sink

/-- The error that every write meets. -/
def writeError : Sink → Option Errno
  | .device .full => some .noSpace
  | _ => none

/-- An empty writer that behaves like the sink. -/
def writer (sink : Sink) : Writer :=
  match sink.writeError with
  | some errno => { capacity := some 0, failure := .os errno }
  | none => {}

/-- The files after bytes were written. They go to the end of a regular file. For a stream opened
with `>`, which has a position of its own, that is where it writes as long as no other stream writes
to the file. An installed program, whose bytes are not in the tree, takes them and stays the
same. -/
def store (sink : Sink) (bytes : Bytes) (files : FileTree) : FileTree :=
  match sink with
  | .file path => files.append path bytes
  | _ => files

/-- What bytes written to the sink add to the transcript. -/
def events (sink : Sink) (bytes : Bytes) : Transcript :=
  match sink with
  | .inherited => [.output bytes]
  | _ => []

/-- What bytes written to the sink send to the next command. -/
def piped (sink : Sink) (bytes : Bytes) : Bytes :=
  match sink with
  | .pipe => bytes
  | _ => []

end Sink

end CommandShell
