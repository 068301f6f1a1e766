import CommandShell.Proofs.HistoryPlace

/-!
# Directories and their absolute paths

File names lead from a directory that is in its place to other directories that are in theirs. Such
a directory is entered by its absolute path from anywhere, unless the path is too long for a file
name.
-/

namespace CommandShell

structure IsComponent (name : String) : Prop where
  nonempty : name ≠ ""
  noSlash : '/' ∉ name.toList
  noNul : '\x00' ∉ name.toList

/-- A name that an entry of a directory can have. -/
structure IsEntryName (name : String) : Prop extends IsComponent name where
  not_here : name ≠ "."
  not_above : name ≠ ".."
  short : ¬ name.utf8ByteSize > maxComponent

theorem utf8ByteSize_replicate (count : Nat) (c : Char) :
    (String.ofList (List.replicate count c)).utf8ByteSize = count * c.utf8Size := by
  induction count with
  | zero => simp
  | succ count ih =>
    have hcons : String.ofList (List.replicate (count + 1) c) =
        String.singleton c ++ String.ofList (List.replicate count c) := by
      rw [← String.toList_inj, List.replicate_succ]
      simp
    rw [hcons, String.utf8ByteSize_append, String.utf8ByteSize_singleton, ih, Nat.succ_mul]
    omega

theorem isEntryName_replicate {count : Nat} {c : Char} (hcount : 2 < count)
    (hsize : count * c.utf8Size ≤ maxComponent) (hslash : c ≠ '/') (hnul : c ≠ '\x00') :
    IsEntryName (String.ofList (List.replicate count c)) := by
  have hlong (text : String) (htext : text.toList.length ≤ 2) :
      String.ofList (List.replicate count c) ≠ text := by
    rintro rfl
    rw [String.toList_ofList, List.length_replicate] at htext
    omega
  have hfree (d : Char) (hd : c ≠ d) : d ∉ (String.ofList (List.replicate count c)).toList := by
    rw [String.toList_ofList, List.mem_replicate]
    rintro ⟨-, heq⟩
    exact hd heq.symm
  refine ⟨⟨hlong "" (by decide), hfree '/' hslash, hfree '\x00' hnul⟩, hlong "." (by decide),
    hlong ".." (by decide), ?_⟩
  rw [utf8ByteSize_replicate]
  omega

namespace FileName

theorem isComponent_of_mem {name part : String} (hnul : '\x00' ∉ name.toList)
    (h : part ∈ components name) : IsComponent part := by
  obtain ⟨hpart, hne⟩ := List.mem_filter.mp h
  obtain ⟨chars, hchars, rfl⟩ := List.mem_map.mp hpart
  refine ⟨by simpa using hne, ?_, ?_⟩
  · rw [String.toList_ofList]
    intro hmem
    exact (Text.mem_of_mem_splitChars hchars hmem).2 rfl
  · rw [String.toList_ofList]
    intro hmem
    exact hnul (Text.mem_of_mem_splitChars hchars hmem).1

theorem components_of_isComponent {name : String} (h : IsComponent name) :
    components name = [name] := by
  rw [components, Text.split, Text.splitChars_of_notMem h.noSlash]
  simp [h.nonempty]

theorem notMem_nul_of_parse {name : String} {parsed : FileName} (h : parse name = .ok parsed) :
    '\x00' ∉ name.toList := by
  intro hmem
  have hany : (name.toList.any fun c => c = '\x00') = true :=
    List.any_eq_true.mpr ⟨_, hmem, by simp⟩
  rw [parse, if_pos hany] at h
  cases h

end FileName

namespace FileTree

/-- There is a directory at `path`, and one at each path above it. -/
structure HasDirectory (tree : FileTree) (path : Path) : Prop where
  names : ∀ name ∈ path, IsEntryName name
  directories : ∀ count, tree.isDirectory (path.take count) = true

variable {tree : FileTree} {path reached directory : Path} {name : String}

theorem isDirectory_iff : tree.isDirectory path = true ↔ tree.get? path = some .directory := by
  unfold isDirectory
  cases tree.get? path with
  | none => simp
  | some node => cases node <;> simp [Node.isDirectory]

theorem isDirectory_of_mem {paths : List Path} (h : path ∈ paths) :
    FileTree.isDirectory { nodes := paths.map fun path => (path, .directory) } path = true := by
  rw [isDirectory_iff, get?]
  split
  · rfl
  · induction paths with
    | nil => cases h
    | cons first rest ih =>
      rw [List.map_cons, List.lookup_cons]
      by_cases hfirst : path = first
      · simp [hfirst]
      · have hne : (path == first) = false := by simpa using hfirst
        rw [hne]
        exact ih ((List.mem_cons.mp h).resolve_left hfirst)

namespace HasDirectory

theorem root (tree : FileTree) : tree.HasDirectory [] := by
  refine ⟨by simp, ?_⟩
  intro count
  rw [List.take_nil]
  rfl

theorem isDirectory (h : tree.HasDirectory path) : tree.isDirectory path = true := by
  have hwhole := h.directories path.length
  rwa [List.take_length] at hwhole

theorem take (h : tree.HasDirectory path) (count : Nat) : tree.HasDirectory (path.take count) := by
  refine ⟨?_, ?_⟩
  · intro name hname
    exact h.names name (List.mem_of_mem_take hname)
  · intro other
    rw [List.take_take]
    exact h.directories _

theorem parent (h : tree.HasDirectory path) : tree.HasDirectory path.parent := by
  rw [Path.parent, List.dropLast_eq_take]
  exact h.take _

theorem of_append {names : List String} (h : tree.HasDirectory (path ++ names)) :
    tree.HasDirectory path := by
  have hfront := h.take path.length
  rwa [List.take_left] at hfront

theorem child (h : tree.HasDirectory path) (hname : IsEntryName name)
    (hchild : tree.isDirectory (path.child name) = true) : tree.HasDirectory (path.child name) := by
  refine ⟨?_, ?_⟩
  · intro other hother
    rcases List.mem_append.mp hother with hother | hother
    · exact h.names other hother
    · rw [List.mem_singleton.mp hother]
      exact hname
  · intro count
    by_cases hcount : count ≤ path.length
    · rw [Path.child, List.take_append_of_le_length hcount]
      exact h.directories count
    · rw [List.take_of_length_le (by simp [Path.child]; omega)]
      exact hchild

theorem step {node : Node} (h : tree.HasDirectory path) (hname : IsComponent name)
    (hstep : tree.step path name = .ok (reached, node)) (hnode : node.isDirectory = true) :
    tree.HasDirectory reached := by
  have hreached := eq_toward_of_step hstep
  by_cases hhere : name = "."
  · rw [hreached, Path.toward, if_pos hhere]
    exact h
  by_cases habove : name = ".."
  · rw [hreached, Path.toward, if_neg hhere, if_pos habove]
    exact h.parent
  rcases step_cases hstep with ⟨-, hname⟩ | ⟨hentry, rfl, hget⟩
  · simp [hhere, habove] at hname
  · have hdirectory : tree.isDirectory (path.child name) = true := by
      rw [FileTree.isDirectory, hget]
      exact hnode
    exact h.child ⟨hname, hhere, habove, hentry.short⟩ hdirectory

theorem follow {names : List String} (h : tree.HasDirectory path)
    (hnames : ∀ name ∈ names, IsComponent name) (hfollow : tree.follow path names = .ok reached) :
    tree.HasDirectory reached := by
  induction names generalizing path with
  | nil =>
    cases hfollow
    exact h
  | cons name rest ih =>
    obtain ⟨-, next, node, hstep, hnode, hrest⟩ := follow_cons_eq_ok_iff.mp hfollow
    have hnext := h.step (hnames name List.mem_cons_self) hstep hnode
    exact ih hnext (fun other hother => hnames other (List.mem_cons_of_mem _ hother)) hrest

theorem locate {last : LastComponent} (h : tree.HasDirectory directory)
    (hlocate : tree.locate directory name = .ok (path, last)) :
    tree.HasDirectory path ∧ ∀ entry slash, last = .entry entry slash → IsComponent entry := by
  obtain ⟨parsed, hparse, rfl, hfollow, -⟩ := locate_eq_ok_iff.mp hlocate
  have hnul := FileName.notMem_nul_of_parse hparse
  obtain rfl := FileName.eq_of_parse hparse
  refine ⟨?_, ?_⟩
  · have hstart : tree.HasDirectory (if isAbsolute name then [] else directory) := by
      split
      · exact root tree
      · exact h
    apply hstart.follow ?_ hfollow
    intro part hpart
    exact FileName.isComponent_of_mem hnul (List.dropLast_subset _ hpart)
  · intro entry slash hlast
    obtain ⟨hcomponent, -, -⟩ := FileName.eq_of_lastComponent hlast
    exact FileName.isComponent_of_mem hnul (List.mem_of_getLast? hcomponent)

theorem reach {last : LastComponent} {node : Node} (h : tree.HasDirectory path)
    (hlast : ∀ entry slash, last = .entry entry slash → IsComponent entry)
    (hreach : tree.reach path last = .ok (reached, node)) (hnode : node.isDirectory = true) :
    tree.HasDirectory reached := by
  cases last with
  | root =>
    cases hreach
    exact h
  | here =>
    cases hreach
    exact h
  | above =>
    cases hreach
    exact h.parent
  | entry entry slash =>
    rw [FileTree.reach] at hreach
    split at hreach
    · cases hreach
    rename_i next found hstep
    split at hreach
    · cases hreach
    · cases hreach
      exact h.step (hlast entry slash rfl) hstep hnode

theorem enter (h : tree.HasDirectory directory) (henter : tree.enter directory name = .ok reached) :
    tree.HasDirectory reached := by
  obtain ⟨path, last, node, hlocate, hreach, hnode⟩ :=
    directoryAt_eq_ok_iff.mp (enter_eq_ok_iff.mp henter).1
  obtain ⟨hpath, hlast⟩ := h.locate hlocate
  exact hpath.reach hlast hreach hnode

end HasDirectory

end FileTree

namespace Path

variable {path : Path}

theorem toList_text (h : path ≠ []) :
    path.text.toList = path.flatMap fun name => '/' :: name.toList := by
  cases path with
  | nil => exact absurd rfl h
  | cons name rest => simp [text, String.toList_join, List.flatMap_map]

theorem utf8ByteSize_text_replicate {count : Nat} (h : count ≠ 0) (name : String) :
    (text (List.replicate count name)).utf8ByteSize = count * (name.utf8ByteSize + 1) := by
  have hjoin (depth : Nat) :
      (String.join ((List.replicate depth name).map fun name => "/" ++ name)).utf8ByteSize =
        depth * (name.utf8ByteSize + 1) := by
    induction depth with
    | zero => simp
    | succ depth ih =>
      have hslash : "/".utf8ByteSize = 1 := rfl
      rw [List.replicate_succ, List.map_cons, String.join_cons, String.utf8ByteSize_append,
        String.utf8ByteSize_append, ih, hslash, Nat.succ_mul]
      omega
  cases count with
  | zero => exact absurd rfl h
  | succ depth => exact hjoin (depth + 1)

theorem components_flatMap {name : String} {rest : List String} (hname : IsComponent name)
    (hrest : ∀ part ∈ rest, IsComponent part) :
    FileName.components
        (String.ofList (name.toList ++ rest.flatMap fun part => '/' :: part.toList)) =
      name :: rest := by
  induction rest generalizing name with
  | nil =>
    rw [List.flatMap_nil, List.append_nil, String.ofList_toList]
    exact FileName.components_of_isComponent hname
  | cons part rest ih =>
    have hpart := ih (hrest part List.mem_cons_self)
      fun other hother => hrest other (List.mem_cons_of_mem part hother)
    rw [List.flatMap_cons, List.cons_append, FileName.components_append, hpart,
      String.ofList_toList, FileName.components_of_isComponent hname]
    rfl

theorem components_text (h : ∀ name ∈ path, IsComponent name) :
    FileName.components path.text = path := by
  cases path with
  | nil => rfl
  | cons name rest =>
    have hchars : text (name :: rest) = String.ofList
        ([] ++ '/' :: (name.toList ++ rest.flatMap fun part => '/' :: part.toList)) := by
      rw [← String.toList_inj, toList_text (List.cons_ne_nil name rest)]
      simp
    rw [hchars, FileName.components_append, components_flatMap (h name List.mem_cons_self)
      fun part hpart => h part (List.mem_cons_of_mem name hpart)]
    rfl

theorem isAbsolute_text (path : Path) : isAbsolute path.text = true := by
  cases path with
  | nil => rfl
  | cons name rest => simp [isAbsolute, toList_text]

theorem notMem_nul_text (h : ∀ name ∈ path, IsComponent name) : '\x00' ∉ path.text.toList := by
  by_cases hpath : path = []
  · subst hpath
    decide
  · rw [toList_text hpath]
    intro hmem
    obtain ⟨name, hname, hchar⟩ := List.mem_flatMap.mp hmem
    rcases List.mem_cons.mp hchar with hslash | hchar
    · exact absurd hslash (by decide)
    · exact (h name hname).noNul hchar

theorem text_ne_empty (path : Path) : path.text ≠ "" := by
  intro hempty
  have habsolute := isAbsolute_text path
  rw [hempty] at habsolute
  exact absurd habsolute (by decide)

theorem parse_text (h : ∀ name ∈ path, IsComponent name) :
    FileName.parse path.text =
      if path.text.utf8ByteSize ≥ maxFileName then .error (.os .nameTooLong)
      else .ok
        { absolute := true
          leading := path.dropLast
          last :=
            FileName.lastComponent (path.text.toList.getLast? = some '/') path.getLast? } := by
  have hnul : ¬ (path.text.toList.any fun c => c = '\x00') = true := by
    simpa using notMem_nul_text h
  have hcomponents : ((Text.split '/' path.text).filter fun part => part ≠ "") = path :=
    components_text h
  rw [FileName.parse, if_neg hnul, if_neg (text_ne_empty path), isAbsolute_text, hcomponents]

theorem getLast?_text_child (path : Path) {name : String} (h : IsComponent name) :
    (path.child name).text.toList.getLast? ≠ some '/' := by
  rw [toList_text (FileTree.child_ne_nil path name), child, List.flatMap_append,
    List.flatMap_singleton]
  intro hlast
  cases hname : name.toList.getLast? with
  | none => exact h.nonempty (String.toList_inj.mp (List.getLast?_eq_none_iff.mp hname))
  | some last =>
    have hlastChar : last = '/' := by
      simpa [List.getLast?_append, List.getLast?_cons, hname] using hlast
    exact h.noSlash (hlastChar ▸ List.mem_of_getLast? hname)

end Path

namespace FileTree

variable {tree : FileTree} {path : Path}

namespace HasDirectory

theorem step_child {name : String} (h : tree.HasDirectory (path.child name)) :
    tree.step path name = .ok (path.child name, .directory) := by
  have hname : IsEntryName name := h.names name (by simp [Path.child])
  have hpath : tree.HasDirectory path := of_append h
  have hentry : tree.IsEntry path name :=
    ⟨hpath.isDirectory, hname.not_here, hname.not_above, hname.short⟩
  rw [hentry.step_eq, isDirectory_iff.mp h.isDirectory]

theorem follow_names {names : List String} (h : tree.HasDirectory (path ++ names))
    (hsearch : ∀ count < names.length, tree.isSearchable (path ++ names.take count) = true) :
    tree.follow path names = .ok (path ++ names) := by
  induction names generalizing path with
  | nil => rw [FileTree.follow, List.append_nil]
  | cons name rest ih =>
    have happend (names : List String) : path ++ name :: names = path.child name ++ names := by
      simp [Path.child]
    rw [happend] at h ⊢
    rw [follow_cons_eq_ok_iff]
    have hhere : tree.isSearchable path = true := by simpa using hsearch 0 (by simp)
    refine ⟨hhere, _, _, (of_append h).step_child, rfl, ih h fun count hcount => ?_⟩
    rw [← happend, ← List.take_succ_cons]
    exact hsearch (count + 1) (by simpa using hcount)

theorem follow_names_of_closed {names : List String} {count : Nat}
    (h : tree.HasDirectory (path ++ names)) (hcount : count < names.length)
    (hclosed : tree.isSearchable (path ++ names.take count) = false) :
    tree.follow path names = .error .accessDenied := by
  induction names generalizing path count with
  | nil => cases hcount
  | cons name rest ih =>
    have happend (names : List String) : path ++ name :: names = path.child name ++ names := by
      simp [Path.child]
    rw [FileTree.follow]
    cases hhere : tree.isSearchable path with
    | false => rfl
    | true =>
      cases count with
      | zero =>
        rw [List.take_zero, List.append_nil, hhere] at hclosed
        cases hclosed
      | succ count =>
        rw [List.take_succ_cons, happend] at hclosed
        rw [happend] at h
        rw [(of_append h).step_child]
        exact ih h (by simpa using hcount) hclosed

theorem follow_root (h : tree.HasDirectory path) :
    tree.follow [] path = .ok path ∧ tree.isSearchable path = tree.canReach path ∨
      tree.follow [] path = .error .accessDenied ∧ tree.canReach path = false := by
  cases hall : (List.range path.length).all fun count => tree.isSearchable (path.take count) with
  | true =>
    refine .inl ⟨follow_names h fun count hcount => ?_, ?_⟩
    · exact List.all_eq_true.mp hall count (List.mem_range.mpr hcount)
    · rw [canReach, List.range_succ, List.all_append, hall]
      simp
  | false =>
    obtain ⟨count, hcount, hclosed⟩ := List.all_eq_false.mp hall
    rw [List.mem_range] at hcount
    refine .inr ⟨follow_names_of_closed h hcount (by simpa using hclosed), ?_⟩
    rw [canReach, List.range_succ, List.all_append, hall, Bool.false_and]

theorem locate_text {name : String} (h : tree.HasDirectory (path.child name))
    (hshort : (path.child name).text.utf8ByteSize < maxFileName) (directory : Path) :
    tree.locate directory (path.child name).text =
      if tree.canReach path then .ok (path, .entry name false)
      else .error (.os .accessDenied) := by
  have hname : IsEntryName name := h.names name (by simp [Path.child])
  have hpath : tree.HasDirectory path := of_append h
  have hparse := Path.parse_text fun part hpart => (h.names part hpart).toIsComponent
  rw [if_neg (Nat.not_le.mpr hshort), Path.child, List.dropLast_concat,
    List.getLast?_concat] at hparse
  rw [← Path.child] at hparse
  have hlast : FileName.lastComponent ((path.child name).text.toList.getLast? = some '/')
      (some name) = .entry name false := by
    simp [FileName.lastComponent, hname.not_here, hname.not_above,
      Path.getLast?_text_child path hname.toIsComponent]
  rw [FileTree.locate, hparse, hlast]
  dsimp only
  rcases hpath.follow_root with ⟨hfollow, hreach⟩ | ⟨hfollow, hreach⟩
  · rw [if_pos rfl, hfollow, ← hreach]
    simp
  · rw [if_pos rfl, hfollow, hreach]
    rfl

theorem canReach_child (tree : FileTree) (path : Path) (name : String) :
    tree.canReach (path.child name) =
      (tree.canReach path && tree.isSearchable (path.child name)) := by
  have hlength : (path.child name).length = path.length + 1 := by simp [Path.child]
  have hwhole : (path.child name).take (path.length + 1) = path.child name := by
    rw [← hlength, List.take_length]
  have hfront : ∀ count ∈ List.range (path.length + 1), (path.child name).take count =
      path.take count := by
    intro count hcount
    have hle : count ≤ path.length := Nat.lt_succ_iff.mp (List.mem_range.mp hcount)
    rw [Path.child, List.take_append_of_le_length hle]
  have hall : ((List.range (path.length + 1)).map (path.child name).take).all tree.isSearchable =
      ((List.range (path.length + 1)).map path.take).all tree.isSearchable := by
    rw [List.map_congr_left hfront]
  rw [List.all_map, List.all_map] at hall
  rw [canReach, hlength, List.range_succ, List.all_append, List.all_cons, hwhole, List.all_nil,
    Bool.and_true]
  exact congrArg (· && _) hall

/-- The absolute path of a directory leads to it from anywhere if all on the way can be searched. -/
theorem enter_text (h : tree.HasDirectory path) (hshort : path.text.utf8ByteSize < maxFileName)
    (directory : Path) :
    tree.enter directory path.text =
      if tree.canReach path then .ok path else .error (.os .accessDenied) := by
  rcases List.eq_nil_or_concat path with rfl | ⟨parent, name, hpath⟩
  · have hat : tree.directoryAt directory (Path.text []) = .ok [] :=
      directoryAt_eq_ok_iff.mpr ⟨[], .root, .directory, rfl, rfl, rfl⟩
    simp [FileTree.enter, hat, canReach]
  · obtain rfl : path = Path.child parent name := hpath.trans List.concat_eq_append
    rw [FileTree.enter, directoryAt, lookup, h.locate_text hshort, canReach_child]
    cases tree.canReach parent with
    | false => rfl
    | true =>
      simp only [if_true, FileTree.reach, h.step_child]
      rfl

theorem enter_text_of_long (h : tree.HasDirectory path)
    (hlong : maxFileName ≤ path.text.utf8ByteSize) (directory : Path) :
    tree.enter directory path.text = .error (.os .nameTooLong) := by
  have hparse := Path.parse_text fun part hpart => (h.names part hpart).toIsComponent
  rw [if_pos hlong] at hparse
  rw [FileTree.enter, directoryAt, lookup, FileTree.locate, hparse]

end HasDirectory

end FileTree

end CommandShell
