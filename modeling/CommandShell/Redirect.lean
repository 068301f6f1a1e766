import CommandShell.Pipeline
import CommandShell.Stream

/-!
# Redirection

Redirections are applied in order; the last one of a stream wins, and each of them takes its
effect on the files. The first one that fails stops the rest.
-/

namespace CommandShell

/-- The world and the streams of a command that is being set up. -/
structure Wiring where
  world : World
  streams : Streams := {}

namespace Redirection

/-- A file opened for reading. Devices read as empty, and so do installed programs, whose bytes are
not in the tree. -/
def openRead (world : World) (name : String) : Except IoError Source :=
  match world.files.lookup world.directory name with
  | .error e => .error e
  | .ok (_, .directory) => .ok .directory
  | .ok (path, .file ..) => .ok (.file path)
  | .ok _ => .ok (.bytes [])

/-- A file opened for writing. -/
def openWrite (world : World) (mode : FileTree.WriteMode) (name : String) :
    Except IoError (World × Sink) :=
  match world.files.openWrite world.directory mode name with
  | .error e => .error e
  | .ok (files, _, .device device) => .ok ({ world with files }, .device device)
  | .ok (files, path, _) => .ok ({ world with files }, .file path)

/-- A longer here-document does not fit into a pipe and needs a temporary file. -/
def maxPiped : Nat := 4096

/-- A here-document opened for reading. -/
def openBody (world : World) (body : String) : Except IoError Source :=
  if body.utf8ByteSize ≤ maxPiped then .ok (.bytes (Bytes.ofText body))
  else
    match world.temporaryError? with
    | some e => .error e
    | none => .ok (.bytes (Bytes.ofText body))

/-- Opens the target of one redirection and binds its stream. -/
def apply (wiring : Wiring) (redirection : Redirection) : Except ShellError Wiring :=
  let read (target : String) (opened : Except IoError Source) : Except ShellError Wiring :=
    match opened with
    | .error cause => .error (.redirect target cause)
    | .ok input => .ok { wiring with streams := { wiring.streams with input } }
  let write (mode : FileTree.WriteMode) : Except ShellError Wiring :=
    match openWrite wiring.world mode redirection.target with
    | .error cause => .error (.redirect redirection.target cause)
    | .ok (world, output) => .ok { world, streams := { wiring.streams with output } }
  if redirection.ambiguous then .error (.ambiguousRedirect redirection.target)
  else
    match redirection.op with
    | .input => read redirection.target (openRead wiring.world redirection.target)
    | .hereDoc => read "here-document" (openBody wiring.world (redirection.body.getD ""))
    | .output => write .truncate
    | .append => write .append

/-- Applies redirections up to the first that fails. -/
def applyAll : Wiring → List Redirection → Wiring × Except ShellError Unit
  | wiring, [] => (wiring, .ok ())
  | wiring, redirection :: rest =>
    match redirection.apply wiring with
    | .error e => (wiring, .error e)
    | .ok wiring => applyAll wiring rest

end Redirection

end CommandShell
