import CommandShell.World

/-!
# Files keep what is written

A regular file written anew is found again under its name, with the bytes that were written.
-/

namespace CommandShell

namespace FileTree

theorem lookup_setNode_self (path : Path) (node : Node) (nodes : List (Path × Node)) :
    (setNode path node nodes).lookup path = some node := by
  induction nodes with
  | nil => simp [setNode]
  | cons entry rest ih =>
    obtain ⟨key, old⟩ := entry
    by_cases hkey : key = path
    · simp [setNode, hkey]
    · have hne : (path == key) = false := by simpa using Ne.symm hkey
      simp [setNode, hkey, List.lookup_cons, hne, ih]

theorem lookup_setNode_of_ne {path other : Path} (hne : other ≠ path) (node : Node)
    (nodes : List (Path × Node)) : (setNode path node nodes).lookup other = nodes.lookup other := by
  have hother : (other == path) = false := by simpa using hne
  induction nodes with
  | nil => simp [setNode, List.lookup_cons, hother]
  | cons entry rest ih =>
    obtain ⟨key, old⟩ := entry
    by_cases hkey : key = path
    · simp [setNode, hkey, List.lookup_cons, hother]
    · simp only [setNode, hkey, if_false, List.lookup_cons, ih]

theorem get?_put_self (tree : FileTree) {path : Path} (hpath : path ≠ []) (node : Node) :
    (tree.put path node).get? path = some node := by
  rw [get?, if_neg hpath]
  exact lookup_setNode_self path node tree.nodes

theorem get?_put_of_ne (tree : FileTree) {path other : Path} (hne : other ≠ path) (node : Node) :
    (tree.put path node).get? other = tree.get? other := by
  unfold get?
  split
  · rfl
  · exact lookup_setNode_of_ne hne node tree.nodes

/-- A name that is looked up as an entry of the directory at `path`. -/
structure IsEntry (tree : FileTree) (path : Path) (name : String) : Prop where
  directory : tree.isDirectory path = true
  not_here : name ≠ "."
  not_above : name ≠ ".."
  short : ¬ name.utf8ByteSize > maxComponent

theorem IsEntry.step_eq {tree : FileTree} {path : Path} {name : String}
    (h : tree.IsEntry path name) :
    tree.step path name =
      match tree.get? (path.child name) with
      | some node => .ok (path.child name, node)
      | none => .error .noEntry := by
  rw [step, if_neg h.not_here, if_neg h.not_above, h.directory, if_neg h.short]
  rfl

/-- Where a step ends: in a directory that is always there, or at an entry. -/
theorem step_cases {tree : FileTree} {path reached : Path} {name : String} {node : Node}
    (h : tree.step path name = .ok (reached, node)) :
    node = .directory ∧ (name = "." ∨ name = "..") ∨
      tree.IsEntry path name ∧ reached = path.child name ∧ tree.get? reached = some node := by
  by_cases hhere : name = "."
  · rw [step, if_pos hhere] at h
    obtain ⟨-, rfl⟩ := Prod.mk.inj (Except.ok.inj h)
    exact .inl ⟨rfl, .inl hhere⟩
  · by_cases habove : name = ".."
    · rw [step, if_neg hhere, if_pos habove] at h
      obtain ⟨-, rfl⟩ := Prod.mk.inj (Except.ok.inj h)
      exact .inl ⟨rfl, .inr habove⟩
    · rw [step, if_neg hhere, if_neg habove] at h
      split at h
      · cases h
      · rename_i hdirectory
        split at h
        · cases h
        · rename_i hshort
          split at h
          · rename_i found hfound
            obtain ⟨rfl, rfl⟩ := Prod.mk.inj (Except.ok.inj h)
            exact .inr ⟨⟨by simpa using hdirectory, hhere, habove, hshort⟩, rfl, hfound⟩
          · cases h

theorem step_noEntry {tree : FileTree} {path : Path} {name : String}
    (h : tree.step path name = .error .noEntry) (hdirectory : tree.isDirectory path = true) :
    tree.IsEntry path name ∧ tree.get? (path.child name) = none := by
  by_cases hhere : name = "."
  · rw [step, if_pos hhere] at h
    cases h
  · by_cases habove : name = ".."
    · rw [step, if_neg hhere, if_pos habove] at h
      cases h
    · by_cases hshort : name.utf8ByteSize > maxComponent
      · rw [step, if_neg hhere, if_neg habove, hdirectory, if_pos hshort] at h
        exact absurd (Except.error.inj h) (by decide)
      · have hentry : tree.IsEntry path name := ⟨hdirectory, hhere, habove, hshort⟩
        rw [hentry.step_eq] at h
        split at h
        · cases h
        · exact ⟨hentry, ‹_›⟩

theorem follow_cons_eq_ok_iff {tree : FileTree} {path reached : Path} {name : String}
    {rest : List String} :
    tree.follow path (name :: rest) = .ok reached ↔
      tree.isSearchable path = true ∧ ∃ next node, tree.step path name = .ok (next, node) ∧
        node.isDirectory = true ∧ tree.follow next rest = .ok reached := by
  rw [follow]
  constructor
  · intro hfollow
    split at hfollow
    · cases hfollow
    · rename_i hsearch
      refine ⟨by simpa using hsearch, ?_⟩
      split at hfollow
      · cases hfollow
      · rename_i next node hstep
        split at hfollow
        · exact ⟨next, node, hstep, ‹_›, hfollow⟩
        · cases hfollow
  · rintro ⟨hsearch, next, node, hstep, hnode, hfollow⟩
    rw [hsearch, hstep]
    simpa [hnode] using hfollow

theorem locate_eq_ok_iff {tree : FileTree} {directory path : Path} {name : String}
    {last : LastComponent} :
    tree.locate directory name = .ok (path, last) ↔
      ∃ parsed, FileName.parse name = .ok parsed ∧ parsed.last = last ∧
        tree.follow (if parsed.absolute then [] else directory) parsed.leading = .ok path ∧
        (last = .root ∨ tree.isSearchable path = true) := by
  unfold locate
  cases FileName.parse name with
  | error cause => simp
  | ok parsed =>
    simp only [Except.ok.injEq, exists_eq_left']
    cases tree.follow (if parsed.absolute then [] else directory) parsed.leading with
    | error errno => simp
    | ok place => grind

theorem directoryAt_eq_ok_iff {tree : FileTree} {directory reached : Path} {name : String} :
    tree.directoryAt directory name = .ok reached ↔
      ∃ path last node, tree.locate directory name = .ok (path, last) ∧
        tree.reach path last = .ok (reached, node) ∧ node.isDirectory = true := by
  unfold directoryAt lookup
  constructor
  · intro henter
    cases hlocate : tree.locate directory name with
    | error cause =>
      rw [hlocate] at henter
      cases henter
    | ok located =>
      obtain ⟨path, last⟩ := located
      rw [hlocate] at henter
      dsimp only at henter
      cases hreach : tree.reach path last with
      | error errno =>
        rw [hreach] at henter
        cases henter
      | ok found =>
        obtain ⟨place, node⟩ := found
        rw [hreach] at henter
        change (if node.isDirectory = true then Except.ok place else _) = _ at henter
        split at henter
        · rename_i hnode
          cases henter
          exact ⟨path, last, node, rfl, hreach, hnode⟩
        · cases henter
  · rintro ⟨path, last, node, hlocate, hreach, hnode⟩
    rw [hlocate]
    dsimp only
    rw [hreach]
    exact if_pos hnode

theorem enter_eq_ok_iff {tree : FileTree} {directory reached : Path} {name : String} :
    tree.enter directory name = .ok reached ↔
      tree.directoryAt directory name = .ok reached ∧ tree.isSearchable reached = true := by
  unfold enter
  cases tree.directoryAt directory name with
  | error cause => simp
  | ok place => grind

/-- Two trees that agree except at one path, where the first has no directory. -/
structure AgreesOff (before after : FileTree) (path : Path) : Prop where
  not_directory : before.isDirectory path = false
  get? : ∀ other, other ≠ path → after.get? other = before.get? other
  restrictions : after.restrictions = before.restrictions

namespace AgreesOff

variable {before after : FileTree} {target path : Path}

theorem isDirectory (h : before.AgreesOff after target) (hpath : before.isDirectory path = true) :
    after.isDirectory path = true := by
  have hne : path ≠ target := by
    rintro rfl
    exact absurd (h.not_directory.symm.trans hpath) (by simp)
  rw [FileTree.isDirectory, h.get? path hne]
  exact hpath

theorem isSearchable (h : before.AgreesOff after target) (path : Path) :
    after.isSearchable path = before.isSearchable path := by
  rw [FileTree.isSearchable, FileTree.isSearchable, h.restrictions]

theorem canName (h : before.AgreesOff after target) (path : Path) :
    after.canName path = before.canName path := by
  unfold FileTree.canName canReach FileTree.isSearchable isListable
  rw [h.restrictions]

theorem isEntry (h : before.AgreesOff after target) {name : String}
    (hentry : before.IsEntry path name) : after.IsEntry path name :=
  ⟨h.isDirectory hentry.directory, hentry.not_here, hentry.not_above, hentry.short⟩

theorem step_directory (h : before.AgreesOff after target) {name : String} {reached : Path}
    {node : Node} (hstep : before.step path name = .ok (reached, node))
    (hnode : node.isDirectory = true) : after.step path name = .ok (reached, node) := by
  rcases step_cases hstep with ⟨rfl, hname⟩ | ⟨hentry, rfl, hget⟩
  · rw [← hstep]
    rcases hname with rfl | rfl <;> rfl
  · have hdirectory : before.isDirectory (path.child name) = true := by
      rw [FileTree.isDirectory, hget]
      exact hnode
    have hne : path.child name ≠ target := by
      rintro rfl
      exact absurd (h.not_directory.symm.trans hdirectory) (by simp)
    rw [(h.isEntry hentry).step_eq, h.get? _ hne, hget]

theorem follow (h : before.AgreesOff after target) {names : List String} {reached : Path}
    (hfollow : before.follow path names = .ok reached) :
    after.follow path names = .ok reached := by
  induction names generalizing path with
  | nil => exact hfollow
  | cons name rest ih =>
    obtain ⟨hsearch, next, node, hstep, hnode, hrest⟩ := follow_cons_eq_ok_iff.mp hfollow
    rw [follow_cons_eq_ok_iff, h.isSearchable]
    exact ⟨hsearch, next, node, h.step_directory hstep hnode, hnode, ih hrest⟩

theorem locate (h : before.AgreesOff after target) {directory reached : Path} {name : String}
    {last : LastComponent} (hlocate : before.locate directory name = .ok (reached, last)) :
    after.locate directory name = .ok (reached, last) := by
  obtain ⟨parsed, hparse, hlast, hfollow, hsearch⟩ := locate_eq_ok_iff.mp hlocate
  rw [locate_eq_ok_iff, h.isSearchable]
  exact ⟨parsed, hparse, hlast, h.follow hfollow, hsearch⟩

theorem reach (h : before.AgreesOff after target) {reached : Path} {last : LastComponent}
    {node : Node} (hreach : before.reach path last = .ok (reached, node))
    (hnode : node.isDirectory = true) :
    after.reach path last = .ok (reached, node) := by
  cases last with
  | root => exact hreach
  | here => exact hreach
  | above => exact hreach
  | entry name slash =>
    rw [FileTree.reach] at hreach ⊢
    split at hreach
    · cases hreach
    · rename_i next found hstep
      split at hreach
      · cases hreach
      · rename_i hslash
        cases hreach
        rw [h.step_directory hstep hnode]
        dsimp only
        rw [if_neg hslash]

theorem directoryAt (h : before.AgreesOff after target) {directory reached : Path} {name : String}
    (hat : before.directoryAt directory name = .ok reached) :
    after.directoryAt directory name = .ok reached := by
  obtain ⟨path, last, node, hlocate, hreach, hnode⟩ := directoryAt_eq_ok_iff.mp hat
  exact directoryAt_eq_ok_iff.mpr ⟨path, last, node, h.locate hlocate, h.reach hreach hnode, hnode⟩

theorem enter (h : before.AgreesOff after target) {directory reached : Path} {name : String}
    (henter : before.enter directory name = .ok reached) :
    after.enter directory name = .ok reached := by
  obtain ⟨hat, hsearch⟩ := enter_eq_ok_iff.mp henter
  rw [enter_eq_ok_iff, h.isSearchable]
  exact ⟨h.directoryAt hat, hsearch⟩

end AgreesOff

theorem child_ne_nil (path : Path) (name : String) : path.child name ≠ [] := by
  simp [Path.child]

section

variable {tree files : FileTree} {mode : WriteMode} {path directory target : Path} {name : String}

/-- What opening an entry for writing gives: a regular file that is put into the tree, or another
node that is no directory and leaves the tree as it is. -/
theorem openEntry_cases {node : Node}
    (h : tree.openEntry mode path name = .ok (files, target, node)) :
    tree.IsEntry path name ∧ target = path.child name ∧ tree.isDirectory target = false ∧
      ((∃ content executable, node = .file content executable ∧
          (mode = .truncate → content = []) ∧ files = tree.put target node) ∨
        (files = tree ∧ tree.get? target = some node ∧
          ∀ content executable, node ≠ .file content executable)) := by
  unfold openEntry at h
  split at h
  · cases h
  · rename_i reached old executable hstep
    obtain ⟨rfl, rfl, rfl⟩ := by simpa only [Except.ok.injEq, Prod.mk.injEq] using h
    rcases step_cases hstep with ⟨hdirectory, -⟩ | ⟨hentry, rfl, hget⟩
    · cases hdirectory
    · refine ⟨hentry, rfl, by simp [isDirectory, hget, Node.isDirectory], .inl ?_⟩
      exact ⟨_, executable, rfl, fun hmode => if_pos hmode, rfl⟩
  · rename_i reached program hstep
    rcases step_cases hstep with ⟨hdirectory, -⟩ | ⟨hentry, rfl, hget⟩
    · cases hdirectory
    · have hplain : tree.isDirectory (path.child name) = false := by
        simp [isDirectory, hget, Node.isDirectory]
      split at h
      · obtain ⟨rfl, rfl, rfl⟩ := by simpa only [Except.ok.injEq, Prod.mk.injEq] using h
        exact ⟨hentry, rfl, hplain, .inl ⟨[], true, rfl, fun _ => rfl, rfl⟩⟩
      · obtain ⟨rfl, rfl, rfl⟩ := by simpa only [Except.ok.injEq, Prod.mk.injEq] using h
        exact ⟨hentry, rfl, hplain, .inr ⟨rfl, hget, by simp⟩⟩
  · rename_i reached found hnotDirectory hnotFile _ hstep
    obtain ⟨rfl, rfl, rfl⟩ := by simpa only [Except.ok.injEq, Prod.mk.injEq] using h
    rcases step_cases hstep with ⟨hdirectory, -⟩ | ⟨hentry, rfl, hget⟩
    · exact absurd hdirectory hnotDirectory
    · have hplain : found.isDirectory = false := by
        cases found <;> simp_all [Node.isDirectory]
      exact ⟨hentry, rfl, by simp [isDirectory, hget, hplain], .inr ⟨rfl, hget, hnotFile⟩⟩
  · rename_i errno hstep
    split at h
    · rename_i hmissing
      simp only [Bool.and_eq_true, decide_eq_true_eq] at hmissing
      obtain ⟨rfl, hdirectory⟩ := hmissing
      obtain ⟨rfl, rfl, rfl⟩ := by simpa only [Except.ok.injEq, Prod.mk.injEq] using h
      obtain ⟨hentry, hget⟩ := step_noEntry hstep hdirectory
      refine ⟨hentry, rfl, by simp [isDirectory, hget], .inl ?_⟩
      exact ⟨_, false, rfl, fun _ => rfl, rfl⟩
    · cases h

theorem openWrite_cases {node : Node}
    (h : tree.openWrite directory mode name = .ok (files, target, node)) :
    ∃ path last, tree.locate directory name = .ok (path, .entry last false) ∧
      tree.openEntry mode path last = .ok (files, target, node) := by
  unfold openWrite at h
  split at h
  · cases h
  · rename_i path last hlocate
    refine ⟨path, last, hlocate, ?_⟩
    cases hopen : tree.openEntry mode path last with
    | error errno =>
      rw [hopen] at h
      cases h
    | ok opened =>
      rw [hopen] at h
      rw [Except.ok.inj h]
  · cases h

theorem lookup_of_entry {last : String} {node : Node}
    (hlocate : tree.locate directory name = .ok (path, .entry last false))
    (hentry : tree.IsEntry path last) (hget : tree.get? (path.child last) = some node) :
    tree.lookup directory name = .ok (path.child last, node) := by
  rw [lookup, hlocate]
  simp only [reach, hentry.step_eq, hget]
  rfl

theorem lookup_cases_of_not_directory {node : Node}
    (h : tree.lookup directory name = .ok (path, node)) (hnode : node.isDirectory = false) :
    ∃ parent last, tree.locate directory name = .ok (parent, .entry last false) ∧
      tree.step parent last = .ok (path, node) := by
  unfold lookup at h
  cases hlocate : tree.locate directory name with
  | error cause =>
    rw [hlocate] at h
    cases h
  | ok located =>
    obtain ⟨parent, last⟩ := located
    rw [hlocate] at h
    cases last with
    | root => cases h; cases hnode
    | here => cases h; cases hnode
    | above => cases h; cases hnode
    | entry last slash =>
      simp only [reach] at h
      cases hstep : tree.step parent last with
      | error errno =>
        rw [hstep] at h
        cases h
      | ok stepped =>
        rw [hstep] at h
        dsimp only at h
        split at h
        · cases h
        · rename_i hslash
          cases h
          simp only [hnode, Bool.not_false, Bool.and_true, Bool.not_eq_true] at hslash
          exact ⟨parent, last, by rw [hslash], hstep⟩

theorem append_of_not_file {node : Node} (hget : tree.get? path = some node)
    (hnode : ∀ content executable, node ≠ .file content executable) (bytes : Bytes) :
    tree.append path bytes = tree := by
  rw [append, hget]
  cases node with
  | file content executable => exact absurd rfl (hnode content executable)
  | directory => rfl
  | device device => rfl
  | program name => rfl

theorem append_put (hpath : path ≠ []) (content bytes : Bytes) (executable : Bool) :
    (tree.put path (.file content executable)).append path bytes =
      (tree.put path (.file content executable)).put path
        (.file (content ++ bytes) executable) := by
  rw [append, tree.get?_put_self hpath]

theorem lookup_append_of_openWrite {content : Bytes} {executable : Bool}
    (h : tree.openWrite directory .truncate name = .ok (files, target, .file content executable))
    (bytes : Bytes) :
    (files.append target bytes).lookup directory name =
      .ok (target, .file bytes executable) := by
  obtain ⟨path, last, hlocate, hopen⟩ := openWrite_cases h
  obtain ⟨hentry, rfl, hdirectory, hcases⟩ := openEntry_cases hopen
  rcases hcases with ⟨found, mode, hnode, hempty, rfl⟩ | ⟨-, -, hnode⟩
  · obtain ⟨rfl, rfl⟩ := Node.file.inj hnode
    obtain rfl := hempty rfl
    have hpath := child_ne_nil path last
    have hagrees : tree.AgreesOff ((tree.put (path.child last) (.file [] executable)).put
        (path.child last) (.file bytes executable)) (path.child last) := by
      refine ⟨hdirectory, fun other hne => ?_, rfl⟩
      rw [get?_put_of_ne _ hne, get?_put_of_ne _ hne]
    rw [append_put hpath, List.nil_append]
    exact lookup_of_entry (hagrees.locate hlocate) (hagrees.isEntry hentry)
      (get?_put_self _ hpath _)
  · exact absurd rfl (hnode content executable)

theorem agreesOff_of_openWrite {content : Bytes} {executable : Bool}
    (h : tree.openWrite directory .truncate name = .ok (files, target, .file content executable)) :
    tree.AgreesOff files target ∧ files.isDirectory target = false := by
  obtain ⟨path, last, -, hopen⟩ := openWrite_cases h
  obtain ⟨-, rfl, hdirectory, hcases⟩ := openEntry_cases hopen
  rcases hcases with ⟨-, -, -, -, rfl⟩ | ⟨-, -, hnode⟩
  · refine ⟨⟨hdirectory, fun other hne => get?_put_of_ne tree hne _, rfl⟩, ?_⟩
    rw [isDirectory, get?_put_self tree (child_ne_nil path last)]
    rfl
  · exact absurd rfl (hnode content executable)

end

end FileTree

namespace World

/-- The file name leads to a regular file. -/
def HoldsFile (world : World) (name : String) : Prop :=
  ∃ path content executable,
    world.files.lookup world.directory name = .ok (path, .file content executable)

/-- The file name leads to a regular file, or to a free place in a directory. -/
def CanHold (world : World) (name : String) : Prop :=
  (∃ path node, world.files.lookup world.directory name = .ok (path, node) ∧
    node.isRegular = true) ∨
  ∃ path last, world.files.locate world.directory name = .ok (path, .entry last false) ∧
    world.files.IsEntry path last ∧ world.files.get? (path.child last) = none

theorem openWrite_of_canHold {world : World} {name : String} (h : world.CanHold name) :
    ∃ files path executable,
      world.files.openWrite world.directory .truncate name =
        .ok (files, path, .file [] executable) := by
  rcases h with ⟨path, node, hlookup, hregular⟩ | ⟨path, last, hlocate, hentry, hfree⟩
  · have hplain : node.isDirectory = false := by
      cases node <;> simp_all [Node.isRegular, Node.isDirectory]
    obtain ⟨parent, last, hlocate, hstep⟩ := FileTree.lookup_cases_of_not_directory hlookup hplain
    unfold FileTree.openWrite
    rw [hlocate]
    simp only [FileTree.openEntry, hstep]
    cases node with
    | directory => cases hregular
    | device device => cases hregular
    | file content executable => exact ⟨_, _, _, rfl⟩
    | program program => exact ⟨_, _, _, rfl⟩
  · unfold FileTree.openWrite
    rw [hlocate]
    simp only [FileTree.openEntry, hentry.step_eq, hfree, hentry.directory]
    exact ⟨_, _, _, rfl⟩

theorem files_writeFile_of_not_file {world after : World} {name : String} {bytes : Bytes}
    {path : Path} {node : Node}
    (hopen : world.files.openWrite world.directory .truncate name =
      .ok (world.files, path, node))
    (hget : world.files.get? path = some node)
    (hnode : ∀ content executable, node ≠ .file content executable)
    (h : world.writeFile name bytes = .ok after) :
    after.files = world.files ∧ after.directory = world.directory := by
  have happend := FileTree.append_of_not_file hget hnode bytes
  unfold writeFile at h
  rw [hopen] at h
  split at h
  · cases h
  · split at h
    · cases h
      exact ⟨rfl, rfl⟩
    · cases h
  · rename_i opened
    obtain ⟨rfl, rfl, rfl⟩ := by simpa only [Except.ok.injEq, Prod.mk.injEq] using opened
    cases h
    exact ⟨happend, rfl⟩

theorem readFile_writeFile {world after : World} {name : String} {bytes : Bytes}
    (h : world.writeFile name bytes = .ok after) (hfile : after.HoldsFile name) :
    after.readFile name = .ok bytes := by
  cases hopen : world.files.openWrite world.directory .truncate name with
  | error e =>
    rw [writeFile, hopen] at h
    cases h
  | ok opened =>
    obtain ⟨files, target, node⟩ := opened
    obtain ⟨path, last, hlocate, hentry⟩ := FileTree.openWrite_cases hopen
    obtain ⟨hisEntry, rfl, hdirectory, hcases⟩ := FileTree.openEntry_cases hentry
    rcases hcases with ⟨content, executable, rfl, -, -⟩ | ⟨rfl, hget, hnode⟩
    · have hlookup := FileTree.lookup_append_of_openWrite hopen bytes
      rw [writeFile, hopen] at h
      cases h
      rw [readFile]
      dsimp only
      rw [hlookup]
    · -- the tree is as before, so the name does not lead to a regular file
      obtain ⟨hfiles, hsame⟩ := files_writeFile_of_not_file hopen hget hnode h
      have hlookup := FileTree.lookup_of_entry hlocate hisEntry hget
      obtain ⟨_, content, executable, hheld⟩ := hfile
      rw [hfiles, hsame, hlookup] at hheld
      obtain ⟨-, hnodeEq⟩ := Prod.mk.inj (Except.ok.inj hheld)
      exact absurd hnodeEq (hnode content executable)

end World

end CommandShell
