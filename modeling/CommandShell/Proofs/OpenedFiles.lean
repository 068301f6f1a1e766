import CommandShell.Proofs.Storage
import CommandShell.Redirect

/-!
# Files that are opened

Opening a file for writing touches one path, where no directory is before or after. So names lead to
the same places as before, and a source that was opened earlier still shows what its name leads to.
-/

namespace CommandShell

open FileTree (WriteMode)

/-- What a path holds once it has been opened for writing. -/
def FileTree.WriteMode.leaves : WriteMode → Option Node → Node
  | _, none => .file [] false
  | .append, some node => node
  | .truncate, some (.file _ executable) => .file [] executable
  | .truncate, some (.program _) => .file [] true
  | .truncate, some node => node

theorem FileTree.WriteMode.leaves_truncate (mode : WriteMode) (node : Option Node) :
    truncate.leaves (some (mode.leaves node)) = truncate.leaves node := by
  cases mode with
  | truncate =>
    cases node with
    | none => rfl
    | some node => cases node <;> rfl
  | append => cases node <;> rfl

theorem FileTree.WriteMode.isDirectory_leaves (mode : WriteMode) (node : Option Node) :
    (mode.leaves node).isDirectory = node.any Node.isDirectory := by
  cases mode with
  | truncate =>
    cases node with
    | none => rfl
    | some node => cases node <;> rfl
  | append => cases node <;> rfl

theorem FileTree.IsEntry.openEntry {tree : FileTree} {path : Path} {name : String}
    (hentry : tree.IsEntry path name) (hplain : tree.isDirectory (path.child name) = false)
    (mode : WriteMode) :
    ∃ files, tree.openEntry mode path name =
        .ok (files, path.child name, mode.leaves (tree.get? (path.child name))) ∧
      files.get? (path.child name) = some (mode.leaves (tree.get? (path.child name))) ∧
      (∀ other, other ≠ path.child name → files.get? other = tree.get? other) ∧
      files.restrictions = tree.restrictions := by
  have hput (node : Node) : (tree.put (path.child name) node).get? (path.child name) = some node :=
    tree.get?_put_self (child_ne_nil path name) node
  have hother (node : Node) (other : Path) (hne : other ≠ path.child name) :
      (tree.put (path.child name) node).get? other = tree.get? other :=
    tree.get?_put_of_ne hne node
  simp only [FileTree.openEntry, hentry.step_eq]
  cases hget : tree.get? (path.child name) with
  | none =>
    refine ⟨_, ?_, hput _, hother _, rfl⟩
    simp only [hentry.directory]
    cases mode <;> rfl
  | some node =>
    cases node with
    | directory => simp [isDirectory, hget, Node.isDirectory] at hplain
    | file content executable =>
      cases mode with
      | truncate => exact ⟨_, rfl, hput _, hother _, rfl⟩
      | append => exact ⟨_, rfl, hput _, hother _, rfl⟩
    | device device => cases mode <;> exact ⟨tree, rfl, hget, fun _ _ => rfl, rfl⟩
    | program program =>
      cases mode with
      | truncate => exact ⟨_, rfl, hput _, hother _, rfl⟩
      | append => exact ⟨tree, rfl, hget, fun _ _ => rfl, rfl⟩

namespace World

variable {before after world : World} {mode : WriteMode} {name : String} {path : Path}

/-- The file name leads to an entry of a directory, which may be free. -/
def LeadsTo (world : World) (name : String) (path : Path) : Prop :=
  ∃ parent last, world.files.locate world.directory name = .ok (parent, .entry last false) ∧
    world.files.IsEntry parent last ∧ path = parent.child last

theorem LeadsTo.unique {other : Path} (h : world.LeadsTo name path)
    (hother : world.LeadsTo name other) : path = other := by
  obtain ⟨parent, last, hlocate, -, rfl⟩ := h
  obtain ⟨_, _, hlocate', -, rfl⟩ := hother
  cases hlocate.symm.trans hlocate'
  rfl

theorem LeadsTo.lookup {node : Node} (h : world.LeadsTo name path)
    (hget : world.files.get? path = some node) :
    world.files.lookup world.directory name = .ok (path, node) := by
  obtain ⟨parent, last, hlocate, hentry, rfl⟩ := h
  exact FileTree.lookup_of_entry hlocate hentry hget

theorem leadsTo_of_lookup {node : Node}
    (h : world.files.lookup world.directory name = .ok (path, node))
    (hplain : node.isDirectory = false) :
    world.LeadsTo name path ∧ world.files.get? path = some node := by
  obtain ⟨parent, last, hlocate, hstep⟩ := FileTree.lookup_cases_of_not_directory h hplain
  rcases FileTree.step_cases hstep with ⟨rfl, -⟩ | ⟨hentry, rfl, hget⟩
  · cases hplain
  · exact ⟨⟨parent, last, hlocate, hentry, rfl⟩, hget⟩

theorem lookup_directory_iff :
    world.files.lookup world.directory name = .ok (path, .directory) ↔
      world.files.directoryAt world.directory name = .ok path := by
  rw [FileTree.directoryAt]
  cases hlookup : world.files.lookup world.directory name with
  | error cause => simp
  | ok found =>
    obtain ⟨reached, node⟩ := found
    cases node <;> simp [Node.isDirectory]

/-- The path was opened for writing. -/
structure Touched (before : World) (mode : WriteMode) (path : Path) (after : World) : Prop where
  world : ∃ files, after = { before with files }
  plain : before.files.isDirectory path = false
  self : after.files.get? path = some (mode.leaves (before.files.get? path))
  others : ∀ other, other ≠ path → after.files.get? other = before.files.get? other
  restrictions : after.files.restrictions = before.files.restrictions

/-- Opening a file for writing touches the path that its name leads to. -/
theorem touched_of_openWrite {files : FileTree} {node : Node}
    (h : world.files.openWrite world.directory mode name = .ok (files, path, node)) :
    world.LeadsTo name path ∧ world.Touched mode path { world with files } ∧
      node = mode.leaves (world.files.get? path) := by
  obtain ⟨parent, last, hlocate, hopen⟩ := FileTree.openWrite_cases h
  obtain ⟨hentry, rfl, hplain, -⟩ := FileTree.openEntry_cases hopen
  obtain ⟨opened, hopened, hself, hothers, hrestrictions⟩ := hentry.openEntry hplain mode
  obtain ⟨rfl, -, rfl⟩ := by
    simpa only [Except.ok.injEq, Prod.mk.injEq] using hopen.symm.trans hopened
  exact ⟨⟨parent, last, hlocate, hentry, rfl⟩,
    ⟨⟨files, rfl⟩, hplain, hself, hothers, hrestrictions⟩, rfl⟩

namespace Touched

variable (h : before.Touched mode path after)

include h

theorem directory : after.directory = before.directory := by
  obtain ⟨files, rfl⟩ := h.world
  rfl

theorem agreesOff : before.files.AgreesOff after.files path :=
  ⟨h.plain, h.others, h.restrictions⟩

theorem agreesOff_symm : after.files.AgreesOff before.files path := by
  refine ⟨?_, fun other hne => (h.others other hne).symm, h.restrictions.symm⟩
  rw [FileTree.isDirectory, h.self, Option.any_some, FileTree.WriteMode.isDirectory_leaves]
  exact h.plain

theorem leadsTo_iff (name : String) (other : Path) :
    after.LeadsTo name other ↔ before.LeadsTo name other := by
  unfold LeadsTo
  rw [h.directory]
  constructor
  · rintro ⟨parent, last, hlocate, hentry, rfl⟩
    exact ⟨parent, last, h.agreesOff_symm.locate hlocate, h.agreesOff_symm.isEntry hentry, rfl⟩
  · rintro ⟨parent, last, hlocate, hentry, rfl⟩
    exact ⟨parent, last, h.agreesOff.locate hlocate, h.agreesOff.isEntry hentry, rfl⟩

theorem lookup {node : Node} {other : Path}
    (hlookup : before.files.lookup before.directory name = .ok (other, node)) :
    after.files.lookup after.directory name = .ok (other, node) ∨
      node.isDirectory = false ∧
        after.files.lookup after.directory name = .ok (other, mode.leaves (some node)) := by
  cases hnode : node.isDirectory with
  | true =>
    obtain rfl : node = .directory := by cases node <;> first | rfl | cases hnode
    left
    rw [lookup_directory_iff, h.directory]
    exact h.agreesOff.directoryAt (lookup_directory_iff.mp hlookup)
  | false =>
    obtain ⟨hleads, hget⟩ := leadsTo_of_lookup hlookup hnode
    have hleads := (h.leadsTo_iff name other).mpr hleads
    by_cases hother : other = path
    · subst hother
      exact .inr ⟨rfl, hleads.lookup (hget ▸ h.self)⟩
    · exact .inl (hleads.lookup ((h.others other hother).trans hget))

end Touched

end World

/-- What a source gives is what the file name leads to. -/
inductive Source.Shows (world : World) (name : String) : Source → Prop where
  | directory {path : Path}
      (hfound : world.files.lookup world.directory name = .ok (path, .directory)) :
      Shows world name .directory
  | file {path : Path} {content : Bytes} {executable : Bool}
      (hfound : world.files.lookup world.directory name = .ok (path, .file content executable)) :
      Shows world name (.file path)
  | nothing {path : Path} {node : Node}
      (hfound : world.files.lookup world.directory name = .ok (path, node))
      (hplain : node.isDirectory = false)
      (hempty : ∀ content executable, node = .file content executable → content = []) :
      Shows world name (.bytes [])

theorem Redirection.shows_of_openRead {world : World} {name : String} {source : Source}
    (h : openRead world name = .ok source) : source.Shows world name := by
  unfold openRead at h
  split at h
  · cases h
  · cases h
    exact .directory ‹_›
  · cases h
    exact .file ‹_›
  · rename_i found hdirectory hfile hfound
    obtain ⟨path, node⟩ := found
    cases h
    cases node with
    | directory => exact absurd rfl (hdirectory path)
    | file content executable => exact absurd rfl (hfile path content executable)
    | device device => exact .nothing hfound rfl nofun
    | program program => exact .nothing hfound rfl nofun

namespace Source.Shows

variable {before after world : World} {name : String} {source : Source}

theorem contents_eq (h : source.Shows world name) :
    (source.contents world).mapError IoError.os = world.readFile name := by
  cases h with
  | directory hfound =>
    rw [World.readFile, hfound]
    rfl
  | file hfound =>
    obtain ⟨-, hget⟩ := World.leadsTo_of_lookup hfound rfl
    rw [World.readFile, hfound, contents, FileTree.content, hget]
    rfl
  | nothing hfound hplain hempty =>
    rename_i path node
    rw [World.readFile, hfound]
    cases node with
    | directory => cases hplain
    | file content executable =>
      rw [hempty content executable rfl]
      rfl
    | device device => rfl
    | program program => rfl

theorem touched {mode : WriteMode} {path : Path} (h : source.Shows before name)
    (htouched : before.Touched mode path after) : source.Shows after name := by
  cases h with
  | directory hfound =>
    rcases htouched.lookup hfound with hfound | ⟨hplain, -⟩
    · exact .directory hfound
    · cases hplain
  | file hfound =>
    rcases htouched.lookup hfound with hfound | ⟨-, hfound⟩
    · exact .file hfound
    · cases mode with
      | truncate => exact .file hfound
      | append => exact .file hfound
  | nothing hfound hplain hempty =>
    rename_i reached node
    rcases htouched.lookup hfound with hfound | ⟨-, hfound⟩
    · exact .nothing hfound hplain hempty
    · have hleaves := mode.isDirectory_leaves (some node)
      refine .nothing hfound (hleaves.trans hplain) fun content executable hnode => ?_
      cases mode with
      | append => exact hempty content executable hnode
      | truncate => cases node <;> simp_all [FileTree.WriteMode.leaves]

end Source.Shows

def Node.sink (path : Path) : Node → Sink
  | .device special => .device special
  | _ => .file path

theorem Redirection.openWrite_of_ok {world : World} {mode : WriteMode} {name : String}
    {files : FileTree} {path : Path} {node : Node}
    (h : world.files.openWrite world.directory mode name = .ok (files, path, node)) :
    openWrite world mode name = .ok ({ world with files }, node.sink path) := by
  rw [openWrite, h]
  cases node <;> rfl

/-- What is written to the sink goes to the path and nowhere else. -/
structure Sink.WritesOnly (sink : Sink) (path : Path) : Prop where
  events : ∀ bytes, sink.events bytes = []
  piped : ∀ bytes, sink.piped bytes = []
  others : ∀ bytes files other, other ≠ path →
    (sink.store bytes files).get? other = files.get? other

theorem FileTree.get?_append_of_ne (tree : FileTree) {path other : Path} (hne : other ≠ path)
    (bytes : Bytes) : (tree.append path bytes).get? other = tree.get? other := by
  unfold append
  split
  · exact get?_put_of_ne tree hne _
  · rfl

theorem FileTree.get?_append_self {tree : FileTree} {path : Path} {content : Bytes}
    {executable : Bool} (h : tree.get? path = some (.file content executable)) (bytes : Bytes) :
    (tree.append path bytes).get? path = some (.file (content ++ bytes) executable) := by
  have hpath : path ≠ [] := by
    rintro rfl
    cases h
  rw [append, h]
  exact get?_put_self tree hpath _

theorem Node.writesOnly_sink (node : Node) (path : Path) : (node.sink path).WritesOnly path := by
  cases node with
  | device special => exact ⟨fun _ => rfl, fun _ => rfl, fun _ _ _ _ => rfl⟩
  | directory | file | program =>
    exact ⟨fun _ => rfl, fun _ => rfl, fun bytes files _ hne => files.get?_append_of_ne hne bytes⟩

end CommandShell
