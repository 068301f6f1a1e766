import CommandShell.Proofs.AbsolutePaths
import CommandShell.Proofs.EnvironmentNames

/-!
# Going to a directory and back

`cd` moves the working directory and the two variables that say where the shell is and was. One that
fails leaves them all alone. After one that went somewhere `cd -` goes back, unless the directory it
came from has a path too long for a file name or a path that can no longer be searched.
-/

namespace CommandShell

/-- From `before` to `after` the shell went from the directory `old` to `place`. -/
structure Session.Moved (before after : Session) (old place : Path) : Prop where
  world : after.world = { before.world with directory := place }
  current : after.state.environment.find? "PWD" = some (some place.text)
  previous : after.state.environment.find? "OLDPWD" = some (some old.text)
  others : ∀ name, name ≠ "PWD" → name ≠ "OLDPWD" →
    after.state.environment.find? name = before.state.environment.find? name

namespace Builtin

/-- The run failed, said why and changed nothing. -/
structure Run.Refuses (run : Run) (session : Session) (message : String) : Prop where
  status : run.status = 1
  state : run.session.state = session.state
  world : run.session.world = session.world
  reported : (ShellError.builtin message).report <:+ run.session.transcript

variable {session : Session} {args : List String} {target : String} {printed : Bool}
  {writer : Writer}

theorem refuses_of_fail {message : String}
    (h : changeDirectory.perform args (logged args session changeDirectory) writer =
      fail (logged args session changeDirectory) writer message) :
    (changeDirectory.run args session writer).Refuses session message := by
  rw [run_of_ok h rfl]
  exact ⟨rfl, rfl, rfl, _, (Session.transcript_emit _ _).symm⟩

theorem refuses_of_no_target {message : String}
    (h : directoryTarget session.state.environment args = .error message) :
    (changeDirectory.run args session writer).Refuses session message := by
  have hlogged : directoryTarget (logged args session changeDirectory).state.environment args =
      .error message := h
  apply refuses_of_fail
  rw [perform, changeDirectoryTo, hlogged]

theorem refuses_of_enter_error {cause : IoError}
    (htarget : directoryTarget session.state.environment args = .ok (target, printed))
    (h : session.world.files.enter session.world.directory target = .error cause) :
    (changeDirectory.run args session writer).Refuses session
      ("cd: " ++ target ++ ": " ++ cause.text) := by
  have hlogged : directoryTarget (logged args session changeDirectory).state.environment args =
      .ok (target, printed) := htarget
  have hchange : (logged args session changeDirectory).world.changeDirectory target =
      .error cause := by
    change session.world.changeDirectory target = _
    rw [World.changeDirectory, h]
    rfl
  apply refuses_of_fail
  rw [perform, changeDirectoryTo, hlogged]
  dsimp only
  rw [hchange]

theorem currentDirectory_eq {world : World} (h : world.files.isDirectory world.directory = true)
    (hname : world.files.canName world.directory = true) :
    world.currentDirectory = .ok world.directory.text := by
  rw [World.currentDirectory, h, hname]
  rfl

def entered (session : Session) (target : String) (place : Path) : Session :=
  let world := { session.world with directory := place }
  { session.setEnvironment (recordDirectories session.state.environment
      (previousDirectory session) world target) with world }

theorem run_of_enter_ok {place : Path}
    (htarget : directoryTarget session.state.environment args = .ok (target, printed))
    (h : session.world.files.enter session.world.directory target = .ok place) :
    changeDirectory.run args session {} =
      { session := entered (logged args session changeDirectory) target place
        writer := { accepted := if printed then Bytes.ofText (target ++ "\n") else [] }
        status := 0 } := by
  have hlogged : directoryTarget (logged args session changeDirectory).state.environment args =
      .ok (target, printed) := htarget
  have hchange : (logged args session changeDirectory).world.changeDirectory target =
      .ok { session.world with directory := place } := by
    change session.world.changeDirectory target = _
    rw [World.changeDirectory, h]
    rfl
  have hperform : changeDirectory.perform args (logged args session changeDirectory) {} =
      { session := entered (logged args session changeDirectory) target place
        writer := { accepted := if printed then Bytes.ofText (target ++ "\n") else [] }
        result := .ok 0 } := by
    rw [perform, changeDirectoryTo, hlogged]
    dsimp only
    rw [hchange]
    cases printed <;> rfl
  rw [run_of_ok hperform rfl]

theorem moved_entered {old place : Path}
    (hplace : session.world.files.isDirectory place = true)
    (hname : session.world.files.canName place = true)
    (hprevious : previousDirectory session = some old.text) :
    session.Moved (entered session target place) old place := by
  have henvironment : (entered session target place).state.environment =
      (session.state.environment.set "OLDPWD" old.text).set "PWD" place.text := by
    change recordDirectories _ (previousDirectory session) { session.world with directory := place }
      _ = _
    rw [hprevious, recordDirectories, currentDirectory_eq hplace hname]
  refine ⟨rfl, ?_, ?_, ?_⟩
  · rw [henvironment, Environment.find?_set, if_pos rfl]
  · rw [henvironment, Environment.find?_set, if_neg (by decide), Environment.find?_set, if_pos rfl]
  · intro name hcurrent hold
    rw [henvironment, Environment.find?_set, if_neg hcurrent, Environment.find?_set, if_neg hold]

theorem moved_run {old place : Path}
    (htarget : directoryTarget session.state.environment args = .ok (target, printed))
    (h : session.world.files.enter session.world.directory target = .ok place)
    (hplace : session.world.files.isDirectory place = true)
    (hname : session.world.files.canName place = true)
    (hprevious : previousDirectory session = some old.text) :
    session.Moved (changeDirectory.run args session {}).session old place := by
  rw [run_of_enter_ok htarget h]
  have hmoved : (logged args session changeDirectory).Moved
      (entered (logged args session changeDirectory) target place) old place :=
    moved_entered hplace hname hprevious
  exact ⟨hmoved.world, hmoved.current, hmoved.previous, hmoved.others⟩

theorem previousDirectory_eq
    (hhere : session.world.files.isDirectory session.world.directory = true)
    (hcurrent : session.state.environment.get? "PWD" = some session.world.directory.text ∨
      session.state.environment.get? "PWD" = none ∧
        session.world.files.canName session.world.directory = true) :
    previousDirectory session = some session.world.directory.text := by
  unfold previousDirectory
  rcases hcurrent with hsome | ⟨hnone, hname⟩
  · rw [hsome]
  · rw [hnone, currentDirectory_eq hhere hname]
    rfl

theorem directoryTarget_not_printed (hargs : args ≠ ["-"]) {environment : Environment}
    (h : directoryTarget environment args = .ok (target, printed)) : printed = false := by
  unfold directoryTarget at h
  split at h
  · split at h
    · cases h
      rfl
    · cases h
  · exact absurd rfl hargs
  · cases h
    rfl
  · cases h

/-- The message of a `cd` that has no directory to go to or cannot enter it. -/
def refusal? (session : Session) (args : List String) : Option String :=
  match directoryTarget session.state.environment args with
  | .error message => some message
  | .ok (target, _) =>
    match session.world.files.enter session.world.directory target with
    | .error cause => some ("cd: " ++ target ++ ": " ++ cause.text)
    | .ok _ => none

theorem enters_or_refuses (session : Session) (args : List String) :
    (∃ target printed place,
      directoryTarget session.state.environment args = .ok (target, printed) ∧
      session.world.files.enter session.world.directory target = .ok place) ∨
    ∃ message, refusal? session args = some message ∧
      (changeDirectory.run args session {}).Refuses session message := by
  unfold refusal?
  cases htarget : directoryTarget session.state.environment args with
  | error message => exact .inr ⟨message, rfl, refuses_of_no_target htarget⟩
  | ok found =>
    obtain ⟨target, printed⟩ := found
    dsimp only
    cases henter : session.world.files.enter session.world.directory target with
    | error cause => exact .inr ⟨_, rfl, refuses_of_enter_error htarget henter⟩
    | ok place => exact .inl ⟨target, printed, place, rfl, henter⟩

theorem status_changeDirectory_iff (session : Session) (args : List String) :
    (changeDirectory.run args session {}).status = 0 ↔
      ∃ target printed place,
        directoryTarget session.state.environment args = .ok (target, printed) ∧
        session.world.files.enter session.world.directory target = .ok place := by
  constructor
  · intro hstatus
    rcases enters_or_refuses session args with henters | ⟨message, -, hrefuses⟩
    · exact henters
    · rw [hrefuses.status] at hstatus
      cases hstatus
  · rintro ⟨target, printed, place, htarget, henter⟩
    rw [run_of_enter_ok htarget henter]

section

variable {before after : Session} {here place : Path}

theorem directoryTarget_dash (h : before.Moved after here place) :
    directoryTarget after.state.environment ["-"] = .ok (here.text, true) := by
  have hprevious : after.state.environment.get? "OLDPWD" = some here.text := by
    rw [Environment.get?, h.previous]
    rfl
  rw [directoryTarget, hprevious]

theorem returns_of_moved (h : before.Moved after here place)
    (hhere : before.world.files.HasDirectory here) (hplace : before.world.files.HasDirectory place)
    (hshort : here.text.utf8ByteSize < maxFileName)
    (hreach : before.world.files.canReach here = true) :
    (changeDirectory.run ["-"] after {}).status = 0 ∧
    (changeDirectory.run ["-"] after {}).writer.accepted = Bytes.ofText (here.text ++ "\n") ∧
    after.Moved (changeDirectory.run ["-"] after {}).session place here := by
  have htarget := directoryTarget_dash h
  have hfiles : after.world.files = before.world.files := by rw [h.world]
  have hdirectory : after.world.directory = place := by rw [h.world]
  have henter : after.world.files.enter after.world.directory here.text = .ok here := by
    rw [hfiles, hhere.enter_text hshort, if_pos hreach]
  have hcurrent : after.state.environment.get? "PWD" = some after.world.directory.text := by
    rw [Environment.get?, h.current, hdirectory]
    rfl
  have hprevious : previousDirectory after = some place.text := by
    rw [← hdirectory]
    apply previousDirectory_eq _ (.inl hcurrent)
    rw [hfiles, hdirectory]
    exact hplace.isDirectory
  refine ⟨?_, ?_, ?_⟩
  · rw [run_of_enter_ok htarget henter]
  · rw [run_of_enter_ok htarget henter]
    rfl
  · apply moved_run htarget henter _ _ hprevious
    · rw [hfiles]
      exact hhere.isDirectory
    · rw [FileTree.canName, decide_eq_true hshort, Bool.true_or]

theorem refuses_return (h : before.Moved after here place) {errno : Errno} {reason : String}
    (henter : before.world.files.enter place here.text = .error (.os errno))
    (hreason : errno.description = reason) :
    (changeDirectory.run ["-"] after {}).Refuses after
      ("cd: " ++ here.text ++ ": " ++ reason) := by
  rw [← hreason]
  have hafter : after.world.files.enter after.world.directory here.text = .error (.os errno) := by
    rw [h.world]
    exact henter
  exact refuses_of_enter_error (directoryTarget_dash h) hafter

end

/-- A `cd` that fails says why and changes nothing. One that succeeds from a directory that is
there, with `PWD` saying so or saying nothing, is undone by `cd -`, except that a directory is not
found again if its path is too long for a file name or leads through one that cannot be searched. -/
theorem changeDirectory_undone_by_dash (session : Session) (args : List String) :
    let environment := session.state.environment
    let files := session.world.files
    let here := session.world.directory
    let first := changeDirectory.run args session {}
    (first.status = 0 ↔ ∃ target printed place,
      directoryTarget environment args = .ok (target, printed) ∧
      files.enter here target = .ok place) ∧
    (first.status ≠ 0 →
      ∃ message, refusal? session args = some message ∧ first.Refuses session message) ∧
    (files.HasDirectory here →
      environment.get? "PWD" = some here.text ∨
        environment.get? "PWD" = none ∧ files.canName here = true →
      args ≠ ["-"] → first.status = 0 →
      ∃ target place, directoryTarget environment args = .ok (target, false) ∧
        files.enter here target = .ok place ∧
        (files.canName place = true →
          session.Moved first.session here place ∧
          let back := changeDirectory.run ["-"] first.session {}
          (here.text.utf8ByteSize < maxFileName → files.canReach here = true →
            back.status = 0 ∧ back.writer.accepted = Bytes.ofText (here.text ++ "\n") ∧
            first.session.Moved back.session place here) ∧
          (here.text.utf8ByteSize < maxFileName → files.canReach here = false →
            back.Refuses first.session ("cd: " ++ here.text ++ ": " ++ "Permission denied")) ∧
          (maxFileName ≤ here.text.utf8ByteSize →
            back.Refuses first.session
              ("cd: " ++ here.text ++ ": " ++ "File name too long")))) := by
  intro environment files here first
  refine ⟨status_changeDirectory_iff session args, ?_, ?_⟩
  · intro hstatus
    rcases enters_or_refuses session args with henters | hrefuses
    · exact absurd ((status_changeDirectory_iff session args).mpr henters) hstatus
    · exact hrefuses
  · intro hhere hcurrent hargs hstatus
    obtain ⟨target, printed, place, htarget, henter⟩ :=
      (status_changeDirectory_iff session args).mp hstatus
    obtain rfl := directoryTarget_not_printed hargs htarget
    refine ⟨target, place, htarget, henter, ?_⟩
    intro hname
    have hplace : files.HasDirectory place := hhere.enter henter
    have hprevious := previousDirectory_eq hhere.isDirectory hcurrent
    have hmoved : session.Moved first.session here place :=
      moved_run htarget henter hplace.isDirectory hname hprevious
    refine ⟨hmoved, ?_, ?_, ?_⟩
    · intro hshort hreach
      exact returns_of_moved hmoved hhere hplace hshort hreach
    · intro hshort hclosed
      have henter : files.enter place here.text = .error (.os .accessDenied) := by
        rw [hhere.enter_text hshort, hclosed]
        rfl
      exact refuses_return hmoved henter rfl
    · intro hlong
      exact refuses_return hmoved (hhere.enter_text_of_long hlong place) rfl

theorem changeDirectory_undone_by_dash_relative :
    let files : FileTree :=
      { nodes := [["home"], ["home", "a"], ["home", "b"]].map fun path => (path, .directory) }
    let session : Session :=
      { state := {}
        world :=
          { programs := fun _ invocation => { files := invocation.files }
            files
            directory := ["home", "a"] } }
    let first := changeDirectory.run ["../b"] session {}
    let back := changeDirectory.run ["-"] first.session {}
    files.HasDirectory ["home", "a"] ∧ first.status = 0 ∧
      session.Moved first.session ["home", "a"] ["home", "b"] ∧ back.status = 0 ∧
      back.writer.accepted = Bytes.ofText "/home/a\n" ∧
      first.session.Moved back.session ["home", "b"] ["home", "a"] := by
  intro files session first back
  have hhome : files.HasDirectory ["home"] :=
    (FileTree.HasDirectory.root files).child
      ⟨⟨by decide, by decide, by decide⟩, by decide, by decide, by decide⟩ rfl
  have hhere : files.HasDirectory ["home", "a"] :=
    hhome.child ⟨⟨by decide, by decide, by decide⟩, by decide, by decide, by decide⟩ rfl
  have htarget : directoryTarget session.state.environment ["../b"] = .ok ("../b", false) := rfl
  have henter : session.world.files.enter session.world.directory "../b" = .ok ["home", "b"] :=
    FileTree.enter_eq_ok_iff.mpr ⟨FileTree.directoryAt_eq_ok_iff.mpr
      ⟨["home"], .entry "b" false, .directory, rfl, rfl, rfl⟩, rfl⟩
  obtain ⟨hstatus, -, hundone⟩ := changeDirectory_undone_by_dash session ["../b"]
  have hfirst := hstatus.mpr ⟨_, _, _, htarget, henter⟩
  obtain ⟨target, place, hfound, hentered, hmoves⟩ :=
    hundone hhere (.inr ⟨rfl, by decide⟩) (by decide) hfirst
  cases htarget.symm.trans hfound
  cases henter.symm.trans hentered
  obtain ⟨hmoved, hback, -, -⟩ := hmoves (by decide)
  obtain ⟨hreturned, hprinted, hmovedBack⟩ := hback (by decide) (by decide)
  exact ⟨hhere, hfirst, hmoved, hreturned, hprinted, hmovedBack⟩

/-- Sixteen directories in each other, each with the longest name, have a path of 4096 bytes. -/
theorem changeDirectory_not_undone_from_depth :
    let name := String.ofList (List.replicate 255 'a')
    let here : Path := List.replicate 16 name
    let session : Session :=
      { state := {}
        world :=
          { programs := fun _ invocation => { files := invocation.files }
            files :=
              { nodes := ((List.range 16).map fun depth => here.take (depth + 1)).map fun path =>
                  (path, .directory) }
            directory := here } }
    let first := changeDirectory.run [".."] session {}
    session.world.files.HasDirectory here ∧ session.state.environment.get? "PWD" = none ∧
      first.status = 0 ∧ session.Moved first.session here here.parent ∧
      (changeDirectory.run ["-"] first.session {}).status ≠ 0 := by
  intro name here session first
  have hhere : session.world.files.HasDirectory here := by
    refine ⟨?_, ?_⟩
    · intro other hother
      rw [List.eq_of_mem_replicate hother]
      exact isEntryName_replicate (by decide) (by decide) (by decide) (by decide)
    · intro count
      by_cases hcount : count = 0
      · rw [hcount]
        rfl
      · have hdepth : min (min count 16 - 1 + 1) 16 = min count 16 := by omega
        apply FileTree.isDirectory_of_mem
        refine List.mem_map.mpr ⟨min count 16 - 1, List.mem_range.mpr (by omega), ?_⟩
        rw [List.take_replicate, List.take_replicate, hdepth]
  have hlong : maxFileName ≤ here.text.utf8ByteSize := by
    rw [Path.utf8ByteSize_text_replicate (by decide), utf8ByteSize_replicate]
    decide
  have hname (path : Path) : session.world.files.canName path = true := by
    simp [FileTree.canName, FileTree.canReach, FileTree.isSearchable, FileTree.isListable, session]
  have htarget : directoryTarget session.state.environment [".."] = .ok ("..", false) := rfl
  have henter : session.world.files.enter session.world.directory ".." = .ok here.parent :=
    FileTree.enter_eq_ok_iff.mpr ⟨FileTree.directoryAt_eq_ok_iff.mpr
      ⟨here, .above, .directory, rfl, rfl, rfl⟩, rfl⟩
  have hmoved : session.Moved first.session here here.parent :=
    moved_run htarget henter hhere.parent.isDirectory (hname _)
      (previousDirectory_eq hhere.isDirectory (.inr ⟨rfl, hname _⟩))
  refine ⟨hhere, rfl, ?_, hmoved, ?_⟩
  · exact (status_changeDirectory_iff session [".."]).mpr ⟨_, _, _, htarget, henter⟩
  · rw [(refuses_return hmoved (hhere.enter_text_of_long hlong _) rfl).status]
    decide

end Builtin

end CommandShell
