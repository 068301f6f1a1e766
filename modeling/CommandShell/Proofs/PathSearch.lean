import CommandShell.Search

/-!
# What a search finds

A search passes once over the candidates of a path. It ends at the first regular file that can be
executed, and until then carries along the first regular file that it met.
-/

namespace CommandShell

/-- The parts of a text between its separators. -/
structure Text.Parts (separator : Char) (text : String) (parts : List String) : Prop where
  nonempty : parts ≠ []
  free : ∀ part ∈ parts, separator ∉ part.toList
  joined : (String.singleton separator).intercalate parts = text

theorem Text.parts_split (separator : Char) (text : String) :
    Parts separator text (split separator text) where
  nonempty := by
    intro hnil
    exact splitChars_ne_nil separator text.toList (List.map_eq_nil_iff.mp hnil)
  free := by
    intro part hpart
    obtain ⟨chars, hchars, rfl⟩ := List.mem_map.mp hpart
    rw [String.toList_ofList]
    intro hmem
    exact (mem_of_mem_splitChars hchars hmem).2 rfl
  joined := by
    rw [← String.toList_inj, String.toList_intercalate, split, List.map_map]
    have hmap : String.toList ∘ String.ofList = id := by
      funext chars
      exact String.toList_ofList
    rw [hmap, List.map_id]
    simpa using intercalate_splitChars separator text.toList

theorem searchDirectories_append (front back : String) :
    searchDirectories (front ++ ":" ++ back) =
      searchDirectories front ++ searchDirectories back := by
  have hchars : (front ++ ":" ++ back).toList = front.toList ++ ':' :: back.toList := by simp
  simp only [searchDirectories, Text.split, hchars, Text.splitChars_append, List.map_append]

namespace FileTree

def hasFile (files : FileTree) (directory : Path) (name : String) : Bool :=
  match files.lookup directory name with
  | .ok (_, node) => node.isRegular
  | .error _ => false

def hasProgram (files : FileTree) (directory : Path) (name : String) : Bool :=
  match files.lookup directory name with
  | .ok (_, node) => node.isRegular && node.isExecutable
  | .error _ => false

theorem hasFile_of_hasProgram {files : FileTree} {directory : Path} {name : String}
    (h : files.hasProgram directory name = true) : files.hasFile directory name = true := by
  unfold hasProgram at h
  unfold hasFile
  split at h
  · exact (Bool.and_eq_true_iff.mp h).1
  · cases h

end FileTree

variable (files : FileTree) (directory : Path)

/-- The fallback comes before the regular files that are still to be met, and behind any program. -/
theorem found_searchCandidates (fallback : Option String) (candidates : List String) :
    (searchCandidates files directory fallback candidates).found =
      (candidates.find? (files.hasProgram directory)).or
        (fallback.or (candidates.find? (files.hasFile directory))) := by
  induction candidates generalizing fallback with
  | nil => simp [searchCandidates]
  | cons candidate rest ih =>
    rw [searchCandidates, List.find?_cons, List.find?_cons]
    unfold FileTree.hasProgram FileTree.hasFile
    cases hlookup : files.lookup directory candidate with
    | error cause => exact ih fallback
    | ok reached =>
      obtain ⟨path, node⟩ := reached
      cases hregular : node.isRegular with
      | false =>
        simp only [hregular, Bool.false_and]
        exact ih fallback
      | true =>
        cases hexecutable : node.isExecutable with
        | true => simp [hregular, hexecutable]
        | false =>
          simp only [hregular, hexecutable]
          have hrest := ih (fallback.orElse fun _ => some candidate)
          cases fallback <;> exact hrest

/-- The first program of a list of file names, or else its first regular file. -/
def firstFile (names : List String) : Option String :=
  (names.find? (files.hasProgram directory)).or (names.find? (files.hasFile directory))

theorem found_searchPath (name path : String) :
    (searchPath files directory name path).found =
      firstFile files directory
        ((searchDirectories path).map fun entry => joinName entry name) := by
  rw [searchPath, found_searchCandidates, Option.none_or]
  rfl

theorem firstFile_eq_none_iff (names : List String) :
    firstFile files directory names = none ↔
      ∀ name ∈ names, files.hasFile directory name = false := by
  rw [firstFile, Option.or_eq_none_iff, List.find?_eq_none, List.find?_eq_none]
  constructor
  · intro h name hname
    exact Bool.eq_false_iff.mpr (h.2 name hname)
  · intro h
    refine ⟨?_, ?_⟩
    · intro name hname hprogram
      have hfile := FileTree.hasFile_of_hasProgram hprogram
      rw [h name hname] at hfile
      cases hfile
    · intro name hname
      exact Bool.eq_false_iff.mp (h name hname)

theorem any_firstFile (names : List String) :
    (firstFile files directory names).any (files.hasProgram directory) =
      (names.find? (files.hasProgram directory)).isSome := by
  unfold firstFile
  cases hprogram : names.find? (files.hasProgram directory) with
  | some found =>
    have hfound := List.find?_some hprogram
    simp [hfound]
  | none =>
    cases hfile : names.find? (files.hasFile directory) with
    | none => rfl
    | some found =>
      have hplain := List.find?_eq_none.mp hprogram found (List.mem_of_find?_eq_some hfile)
      simp [hplain]

theorem firstFile_append (front back : List String) :
    firstFile files directory (front ++ back) =
      if (firstFile files directory front).any (files.hasProgram directory) then
        firstFile files directory front
      else if (firstFile files directory back).any (files.hasProgram directory) then
        firstFile files directory back
      else (firstFile files directory front).or (firstFile files directory back) := by
  rw [any_firstFile, any_firstFile]
  unfold firstFile
  rw [List.find?_append, List.find?_append]
  cases front.find? (files.hasProgram directory) with
  | some found => simp
  | none =>
    cases back.find? (files.hasProgram directory) with
    | some found => simp
    | none => simp

/-- A search finds the first candidate that is a regular file with an execute bit, or else the first
that is a regular file; two paths in a row are searched one after the other. -/
theorem searchPath_finds_first (files : FileTree) (directory : Path) (name : String) :
    (∀ path, ∃ entries, Text.Parts ':' path entries ∧
      let candidates := entries.map fun entry => joinName (if entry = "" then "." else entry) name
      let found := (searchPath files directory name path).found
      found = (candidates.find? (files.hasProgram directory)).or
        (candidates.find? (files.hasFile directory)) ∧
      (found = none ↔ ∀ candidate ∈ candidates, files.hasFile directory candidate = false)) ∧
    ∀ front back,
      let first := (searchPath files directory name front).found
      let second := (searchPath files directory name back).found
      (searchPath files directory name (front ++ ":" ++ back)).found =
        if first.any (files.hasProgram directory) then first
        else if second.any (files.hasProgram directory) then second
        else first.or second := by
  refine ⟨?_, ?_⟩
  · intro path
    refine ⟨Text.split ':' path, Text.parts_split ':' path, ?_⟩
    intro candidates found
    have hfound : found = firstFile files directory candidates := by
      change (searchPath files directory name path).found = _
      rw [found_searchPath, searchDirectories, List.map_map]
      rfl
    refine ⟨hfound, ?_⟩
    rw [hfound]
    exact firstFile_eq_none_iff files directory candidates
  · intro front back
    simp only [found_searchPath, searchDirectories_append, List.map_append]
    exact firstFile_append files directory _ _

end CommandShell
