import CommandShell.Proofs.Storage

/-!
# Where a history is saved

A file name leads from directory to directory. Saving a history touches nothing but its file and
the directories on the way to it.
-/

namespace CommandShell

namespace Path

def toward (path : Path) (name : String) : Path :=
  if name = "." then path else if name = ".." then path.parent else path.child name

/-- The paths that components lead to, one after the other. -/
def stations (path : Path) : List String → List Path
  | [] => []
  | name :: rest => path.toward name :: stations (path.toward name) rest

theorem stations_append (path : Path) (front back : List String) :
    stations path (front ++ back) =
      stations path front ++ stations (front.foldl toward path) back := by
  induction front generalizing path with
  | nil => rfl
  | cons name rest ih =>
    rw [List.cons_append, stations, stations, ih, List.foldl_cons, List.cons_append]

end Path

namespace FileName

def components (name : String) : List String :=
  (Text.split '/' name).filter fun part => part ≠ ""

/-- The paths that a file name passes on its way, and the one that it leads to. -/
def stations (directory : Path) (name : String) : List Path :=
  Path.stations (if isAbsolute name then [] else directory) (components name)

theorem components_append (front back : List Char) :
    components (String.ofList (front ++ '/' :: back)) =
      components (String.ofList front) ++ components (String.ofList back) := by
  simp [components, Text.split, Text.splitChars_append]

theorem eq_of_parse {name : String} {parsed : FileName} (h : parse name = .ok parsed) :
    parsed =
      { absolute := isAbsolute name
        leading := (components name).dropLast
        last := lastComponent (name.toList.getLast? = some '/') (components name).getLast? } := by
  unfold parse at h
  split at h
  · cases h
  · split at h
    · cases h
    · split at h
      · cases h
      · exact (Except.ok.inj h).symm

theorem eq_of_lastComponent {slash found : Bool} {component : Option String} {name : String}
    (h : lastComponent slash component = .entry name found) :
    component = some name ∧ name ≠ "." ∧ name ≠ ".." := by
  cases component with
  | none => cases h
  | some last =>
    rw [lastComponent] at h
    split at h
    · cases h
    · rename_i hhere
      split at h
      · cases h
      · rename_i habove
        cases h
        exact ⟨rfl, hhere, habove⟩

end FileName

namespace FileTree

variable {tree : FileTree} {path reached directory : Path} {name : String}

theorem eq_toward_of_step {node : Node} (h : tree.step path name = .ok (reached, node)) :
    reached = path.toward name := by
  by_cases hhere : name = "."
  · rw [step, if_pos hhere] at h
    cases h
    rw [Path.toward, if_pos hhere]
  by_cases habove : name = ".."
  · rw [step, if_neg hhere, if_pos habove] at h
    cases h
    rw [Path.toward, if_neg hhere, if_pos habove]
  rw [Path.toward, if_neg hhere, if_neg habove]
  rcases step_cases h with ⟨-, hname⟩ | ⟨-, hreached, -⟩
  · simp [hhere, habove] at hname
  · exact hreached

theorem eq_foldl_of_follow {names : List String} (h : tree.follow path names = .ok reached) :
    reached = names.foldl Path.toward path := by
  induction names generalizing path with
  | nil =>
    cases h
    rfl
  | cons name rest ih =>
    obtain ⟨-, next, node, hstep, -, hrest⟩ := follow_cons_eq_ok_iff.mp h
    rw [List.foldl_cons, ← eq_toward_of_step hstep]
    exact ih hrest

theorem child_mem_stations {last : String} {slash : Bool}
    (h : tree.locate directory name = .ok (path, .entry last slash)) :
    path.child last ∈ FileName.stations directory name := by
  obtain ⟨parsed, hparse, hlast, hfollow, -⟩ := locate_eq_ok_iff.mp h
  obtain rfl := FileName.eq_of_parse hparse
  obtain ⟨hcomponent, hhere, habove⟩ := FileName.eq_of_lastComponent hlast
  obtain ⟨front, hfront⟩ := List.getLast?_eq_some_iff.mp hcomponent
  have hfound := eq_foldl_of_follow hfollow
  rw [hfront, List.dropLast_concat] at hfound
  rw [FileName.stations, hfront, Path.stations_append, ← hfound]
  apply List.mem_append_right
  rw [Path.stations, Path.toward, if_neg hhere, if_neg habove]
  exact List.mem_cons_self

theorem makeDirectory_cases {files : FileTree} (h : tree.makeDirectory directory name = .ok files) :
    ∃ path last slash, tree.locate directory name = .ok (path, .entry last slash) ∧
      files = tree.put (path.child last) .directory := by
  unfold makeDirectory at h
  split at h
  · cases h
  · rename_i path last slash hlocate
    split at h
    · cases h
    · split at h
      · exact ⟨path, last, slash, hlocate, (Except.ok.inj h).symm⟩
      · cases h
  · cases h

end FileTree

namespace World

/-- What is cut off at the end of a file name starts with a slash. -/
theorem stripTail_suffix (cs : List Char) : '/' :: stripTail cs <:+ '/' :: cs := by
  fun_induction stripTail cs with
  | case1 rest ih => exact ih.trans (List.suffix_cons _ _)
  | case2 rest ih => exact (ih.trans (List.suffix_cons _ _)).trans (List.suffix_cons _ _)
  | case3 cs => exact List.suffix_rfl

theorem stripTail_suffix_self (cs : List Char) : stripTail cs <:+ cs := by
  rcases List.suffix_cons_iff.mp (stripTail_suffix cs) with hall | hsuffix
  · exact ⟨[], (List.cons.inj hall).2⟩
  · exact (List.suffix_cons _ _).trans hsuffix

theorem above_suffix (cs : List Char) :
    stripTail (cs.dropWhile fun c => c ≠ '/') = [] ∨
      '/' :: stripTail (cs.dropWhile fun c => c ≠ '/') <:+ cs := by
  have hdropped := List.dropWhile_suffix (l := cs) fun c => c ≠ '/'
  cases hcut : cs.dropWhile fun c => c ≠ '/' with
  | nil => exact .inl rfl
  | cons c rest =>
    obtain rfl : c = '/' := by
      have hsome : (cs.dropWhile fun c => c ≠ '/') ≠ [] := by
        rw [hcut]
        exact List.cons_ne_nil _ _
      have hstops := List.head_dropWhile_not _ hsome
      simp only [hcut, List.head_cons, decide_eq_false_iff_not] at hstops
      exact Decidable.not_not.mp hstops
    rw [hcut] at hdropped
    exact .inr ((stripTail_suffix rest).trans hdropped)

theorem parentName?_cases {name parent : String} (h : parentName? name = some parent) :
    FileName.components parent = [] ∨ ∃ rest, name.toList = parent.toList ++ '/' :: rest := by
  unfold parentName? at h
  dsimp only at h
  split at h
  · cases h
  split at h
  · cases h
    exact .inl rfl
  cases h
  have habove := above_suffix (stripTail name.toList.reverse)
  have hname := stripTail_suffix_self name.toList.reverse
  generalize stripTail ((stripTail name.toList.reverse).dropWhile fun c => c ≠ '/') = above
    at habove ⊢
  rcases habove with rfl | habove
  · exact .inl rfl
  · obtain ⟨tail, htail⟩ := habove.trans hname
    refine .inr ⟨tail.reverse, ?_⟩
    rw [← List.reverse_reverse name.toList, ← htail, String.toList_ofList]
    simp

theorem stations_parentName {name parent : String} (h : parentName? name = some parent)
    (directory : Path) :
    FileName.stations directory parent ⊆ FileName.stations directory name := by
  rcases parentName?_cases h with hnone | ⟨rest, hname⟩
  · rw [FileName.stations, hnone]
    exact List.nil_subset _
  · have hcomponents := FileName.components_append parent.toList rest
    rw [← hname, String.ofList_toList, String.ofList_toList] at hcomponents
    cases hparent : parent.toList with
    | nil =>
      have hempty : FileName.components parent = [] := by
        simp [FileName.components, Text.split, hparent, Text.splitChars]
      rw [FileName.stations, hempty]
      exact List.nil_subset _
    | cons c others =>
      have habsolute : isAbsolute name = isAbsolute parent := by
        rw [isAbsolute, isAbsolute, hname, hparent]
        rfl
      rw [FileName.stations, FileName.stations, habsolute, hcomponents, Path.stations_append]
      exact List.subset_append_left _ _

theorem stations_namesUpward {limit : Nat} {name above : String}
    (h : above ∈ namesUpward limit name) (directory : Path) :
    FileName.stations directory above ⊆ FileName.stations directory name := by
  induction limit generalizing name with
  | zero => cases h
  | succ limit ih =>
    rw [namesUpward] at h
    split at h
    · cases h
    · rename_i parent hparent
      rcases List.mem_cons.mp h with rfl | hup
      · exact List.Subset.refl _
      · exact List.Subset.trans (ih hup) (stations_parentName hparent directory)

/-- Nothing but the files at some places changes. -/
structure ChangesOnly (places : List Path) (before after : World) : Prop where
  world : after = { before with files := after.files }
  files : ∀ path ∉ places, after.files.get? path = before.files.get? path

namespace ChangesOnly

variable {places : List Path} {before middle after : World}

theorem refl (places : List Path) (world : World) : ChangesOnly places world world :=
  ⟨rfl, fun _ _ => rfl⟩

theorem trans (hfirst : ChangesOnly places before middle)
    (hsecond : ChangesOnly places middle after) : ChangesOnly places before after := by
  refine ⟨?_, fun path hpath => ?_⟩
  · rw [hsecond.world, hfirst.world]
  · rw [hsecond.files path hpath, hfirst.files path hpath]

theorem mono {more : List Path} (h : ChangesOnly places before after) (hmore : places ⊆ more) :
    ChangesOnly more before after :=
  ⟨h.world, fun path hpath => h.files path fun hplace => hpath (hmore hplace)⟩

theorem directory (h : ChangesOnly places before after) : after.directory = before.directory := by
  rw [h.world]

end ChangesOnly

variable {world after : World} {places : List Path} {name : String}

theorem changesOnly_put (world : World) {path : Path} (hpath : path ∈ places) (node : Node) :
    ChangesOnly places world { world with files := world.files.put path node } := by
  refine ⟨rfl, fun other hother => ?_⟩
  have hne : other ≠ path := by
    rintro rfl
    exact hother hpath
  exact world.files.get?_put_of_ne hne node

theorem changesOnly_append (world : World) {path : Path} (hpath : path ∈ places) (bytes : Bytes) :
    ChangesOnly places world { world with files := world.files.append path bytes } := by
  unfold FileTree.append
  split
  · exact world.changesOnly_put hpath _
  · exact .refl _ _

theorem changesOnly_ensureDirectory (h : world.ensureDirectory name = .ok after) :
    ChangesOnly (FileName.stations world.directory name) world after := by
  unfold ensureDirectory at h
  split at h
  · rename_i files hmade
    cases h
    obtain ⟨path, last, slash, hlocate, rfl⟩ := FileTree.makeDirectory_cases hmade
    exact world.changesOnly_put (FileTree.child_mem_stations hlocate) .directory
  · split at h
    · cases h
      exact .refl _ _
    · cases h

theorem changesOnly_climb {names missing : List String}
    (hplaces : ∀ name ∈ names, FileName.stations world.directory name ⊆ places)
    (h : world.climb names = .ok (after, missing)) :
    ChangesOnly places world after ∧ missing ⊆ names := by
  induction names generalizing missing with
  | nil =>
    cases h
    exact ⟨.refl _ _, List.Subset.refl _⟩
  | cons name above ih =>
    rw [climb] at h
    split at h
    · rename_i made hmade
      cases h
      have hchanges := (changesOnly_ensureDirectory hmade).mono (hplaces name List.mem_cons_self)
      exact ⟨hchanges, List.nil_subset _⟩
    · split at h
      · cases hclimb : world.climb above with
        | error error =>
          rw [hclimb] at h
          cases h
        | ok found =>
          rw [hclimb] at h
          cases h
          obtain ⟨hchanges, hmissing⟩ :=
            ih (fun name hname => hplaces name (List.mem_cons_of_mem _ hname)) hclimb
          exact ⟨hchanges, List.cons_subset_cons name hmissing⟩
      · cases h

theorem changesOnly_ensureDirectories {names : List String}
    (hplaces : ∀ name ∈ names, FileName.stations world.directory name ⊆ places) :
    ChangesOnly places world (world.ensureDirectories names).1 := by
  induction names generalizing world with
  | nil => exact .refl _ _
  | cons name rest ih =>
    rw [ensureDirectories]
    split
    · exact .refl _ _
    · rename_i made hmade
      have hchanges := (changesOnly_ensureDirectory hmade).mono (hplaces name List.mem_cons_self)
      apply hchanges.trans
      apply ih
      intro name hname
      rw [hchanges.directory]
      exact hplaces name (List.mem_cons_of_mem _ hname)

theorem changesOnly_createDirectories (world : World) (name : String) :
    ChangesOnly (FileName.stations world.directory name) world
      (world.createDirectories name).1 := by
  have hplaces : ∀ above ∈ namesUpward (name.length + 1) name,
      FileName.stations world.directory above ⊆ FileName.stations world.directory name :=
    fun above habove => stations_namesUpward habove world.directory
  unfold createDirectories
  split
  · exact .refl _ _
  · rename_i found missing hclimb
    obtain ⟨hchanges, hmissing⟩ := changesOnly_climb hplaces hclimb
    apply hchanges.trans
    apply changesOnly_ensureDirectories
    intro above habove
    rw [hchanges.directory]
    exact hplaces above (hmissing (List.mem_reverse.mp habove))

theorem changesOnly_createParents (world : World) (name : String) :
    ChangesOnly (FileName.stations world.directory name) world (world.createParents name).1 := by
  unfold createParents
  split
  · exact .refl _ _
  · rename_i parent hparent
    exact (world.changesOnly_createDirectories parent).mono
      (stations_parentName hparent world.directory)

theorem changesOnly_writeFile {bytes : Bytes} (h : world.writeFile name bytes = .ok after) :
    ChangesOnly (FileName.stations world.directory name) world after := by
  unfold writeFile at h
  split at h
  · cases h
  · split at h
    · cases h
      exact .refl _ _
    · cases h
  · rename_i files target node _ hopen
    cases h
    obtain ⟨path, last, hlocate, hentry⟩ := FileTree.openWrite_cases hopen
    obtain ⟨-, rfl, -, hcases⟩ := FileTree.openEntry_cases hentry
    have hmem := FileTree.child_mem_stations hlocate
    have hopened : ChangesOnly (FileName.stations world.directory name) world
        { world with files } := by
      rcases hcases with ⟨content, executable, rfl, -, rfl⟩ | ⟨rfl, -, -⟩
      · exact world.changesOnly_put hmem _
      · exact .refl _ _
    exact hopened.trans (changesOnly_append { world with files } hmem bytes)

end World

namespace History

/-- Its file and the directories on the way to it. -/
def places (history : History) (directory : Path) : List Path :=
  match history.path with
  | none => []
  | some name => FileName.stations directory name

theorem changesOnly_save (history : History) (world : World) :
    World.ChangesOnly (history.places world.directory) world (history.save world).1 := by
  unfold save places
  cases history.path with
  | none => exact .refl _ _
  | some name =>
    have hparents := world.changesOnly_createParents name
    dsimp only
    split
    · rename_i made error hmade
      rw [hmade] at hparents
      exact hparents
    · rename_i made hmade
      rw [hmade] at hparents
      split
      · exact hparents
      · rename_i written hwritten
        have hwrite := World.changesOnly_writeFile hwritten
        rw [hparents.directory] at hwrite
        exact hparents.trans hwrite

end History

end CommandShell
