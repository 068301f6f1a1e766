import CommandShell.Proofs.HereDocs
import CommandShell.Proofs.Storage

/-!
# What builtins do to a session

A builtin may change the environment and the working directory and may ask to leave. It never
touches the status, the history and the mode of the shell, and writes its output to its writer only.
What it writes and how it ends hang on few parts of a session.
-/

namespace CommandShell

theorem World.exists_of_changeDirectory {world after : World} {name : String}
    (h : world.changeDirectory name = .ok after) :
    ∃ directory, after = { world with directory } := by
  unfold changeDirectory at h
  cases henter : world.files.enter world.directory name with
  | error cause => rw [henter] at h; cases h
  | ok directory => rw [henter] at h; cases h; exact ⟨directory, rfl⟩

namespace Session

/-- What no builtin changes. -/
structure Keeps (before after : Session) : Prop where
  lastStatus : after.state.lastStatus = before.state.lastStatus
  interactive : after.state.interactive = before.state.interactive
  history : after.state.history = before.state.history
  stdout : after.transcript.stdout = before.transcript.stdout
  world : ∃ directory, after.world = { before.world with directory }

variable {session middle after : Session}

theorem Keeps.refl (session : Session) : session.Keeps session :=
  ⟨rfl, rfl, rfl, rfl, _, rfl⟩

theorem Keeps.trans (hfirst : session.Keeps middle) (hsecond : middle.Keeps after) :
    session.Keeps after where
  lastStatus := hsecond.lastStatus.trans hfirst.lastStatus
  interactive := hsecond.interactive.trans hfirst.interactive
  history := hsecond.history.trans hfirst.history
  stdout := hsecond.stdout.trans hfirst.stdout
  world := by
    obtain ⟨_, hmiddle⟩ := hfirst.world
    obtain ⟨directory, hafter⟩ := hsecond.world
    exact ⟨directory, by rw [hafter, hmiddle]⟩

theorem keeps_emit (session : Session) {events : Transcript} (h : events.stdout = []) :
    session.Keeps (session.emit events) := by
  refine ⟨rfl, rfl, rfl, ?_, _, rfl⟩
  rw [transcript_emit, Transcript.stdout_append, h, List.append_nil]

theorem keeps_report (session : Session) (error : ShellError) :
    session.Keeps (session.report error) :=
  session.keeps_emit rfl

theorem keeps_setEnvironment (session : Session) (environment : Environment) :
    session.Keeps (session.setEnvironment environment) :=
  ⟨rfl, rfl, rfl, rfl, _, rfl⟩

theorem keeps_leave (session : Session) : session.Keeps session.leave :=
  ⟨rfl, rfl, rfl, rfl, _, rfl⟩

theorem state_ite_emit (session : Session) (interactive : Bool) (events : Transcript) :
    (if interactive then session.emit events else session).state = session.state := by
  cases interactive <;> rfl

end Session

namespace Builtin

variable (args : List String) (session : Session) (writer : Writer)

theorem keeps_changeNames (command : String) (change : Environment → String → Option Environment) :
    session.Keeps (changeNames command change session args).1 := by
  induction args generalizing session with
  | nil => exact .refl session
  | cons arg rest ih =>
    rw [changeNames]
    split
    · rename_i environment _
      exact (session.keeps_setEnvironment environment).trans (ih _)
    · exact (session.keeps_report _).trans (ih _)

theorem keeps_echoArgs : session.Keeps (echoArgs args session writer).session := by
  unfold echoArgs
  dsimp only
  split
  · exact .refl session
  · split
    · exact .refl session
    · exact .refl session

theorem keeps_changeDirectoryTo :
    session.Keeps (changeDirectoryTo args session writer).session := by
  unfold changeDirectoryTo
  split
  · exact session.keeps_report _
  · split
    · exact session.keeps_report _
    · rename_i world hworld
      obtain ⟨directory, rfl⟩ := World.exists_of_changeDirectory hworld
      dsimp only
      split
      · exact ⟨rfl, rfl, rfl, rfl, _, rfl⟩
      · exact ⟨rfl, rfl, rfl, rfl, _, rfl⟩

theorem keeps_printDirectoryOf : session.Keeps (printDirectoryOf session writer).session := by
  unfold printDirectoryOf
  split
  · exact .refl session
  · exact session.keeps_report _

theorem keeps_exportArgs : session.Keeps (exportArgs args session writer).session := by
  unfold exportArgs
  split
  · exact .refl session
  · exact keeps_changeNames args session "export" exportOne

theorem keeps_listEnvironment : session.Keeps (listEnvironment args session writer).session := by
  unfold listEnvironment
  split
  · exact .refl session
  · exact session.keeps_report _

theorem keeps_exitWith : session.Keeps (exitWith args session writer).session := by
  unfold exitWith
  have hfarewell : session.Keeps
      (if session.state.interactive then session.emit [.diagnostic (Bytes.ofText "exit\n")]
        else session) := by
    split
    · exact session.keeps_emit rfl
    · exact .refl session
  generalize (if session.state.interactive then _ else session) = told at hfarewell
  dsimp only
  split
  · exact hfarewell.trans told.keeps_leave
  · split
    · exact hfarewell.trans ((told.keeps_report _).trans (Session.keeps_leave _))
    · split
      · exact hfarewell.trans told.keeps_leave
      · exact hfarewell.trans (told.keeps_report _)

theorem keeps_perform (builtin : Builtin) :
    session.Keeps (builtin.perform args session writer).session := by
  cases builtin with
  | echo => exact keeps_echoArgs args session writer
  | changeDirectory => exact keeps_changeDirectoryTo args session writer
  | printDirectory => exact keeps_printDirectoryOf session writer
  | exportNames => exact keeps_exportArgs args session writer
  | unsetNames => exact keeps_changeNames args session "unset" unsetOne
  | printEnvironment => exact keeps_listEnvironment args session writer
  | exit => exact keeps_exitWith args session writer
  | history => exact .refl session

def logged (builtin : Builtin) : Session :=
  session.log .debug ("执行内建命令: " ++ builtin.name ++ " " ++ Text.showTexts args)

variable {args session writer}

theorem run_of_ok {builtin : Builtin} {outcome : Outcome} {status : Int}
    (h : builtin.perform args (logged args session builtin) writer = outcome)
    (hresult : outcome.result = .ok status) :
    builtin.run args session writer =
      { session := outcome.session, writer := outcome.writer, status } := by
  subst h
  rw [logged] at hresult
  unfold run
  dsimp only
  rw [hresult]
  rfl

theorem run_of_error {builtin : Builtin} {outcome : Outcome} {cause : IoError}
    (h : builtin.perform args (logged args session builtin) writer = outcome)
    (hresult : outcome.result = .error cause) :
    builtin.run args session writer =
      { session := outcome.session.emit [notice (builtin.name ++ ": write error: " ++ cause.text)]
        writer := outcome.writer
        status := 1 } := by
  subst h
  rw [logged] at hresult
  unfold run
  dsimp only
  rw [hresult]
  rfl

variable (args session writer)

theorem keeps_run (builtin : Builtin) :
    session.Keeps (builtin.run args session writer).session := by
  have hperform :
      session.Keeps (builtin.perform args (logged args session builtin) writer).session :=
    (session.keeps_emit rfl).trans (keeps_perform args _ writer builtin)
  cases hresult : (builtin.perform args (logged args session builtin) writer).result with
  | ok status =>
    rw [run_of_ok rfl hresult]
    exact hperform
  | error cause =>
    rw [run_of_error rfl hresult]
    exact hperform.trans (Session.keeps_emit _ rfl)

end Builtin

/-- Sessions that agree on all that the output and the status of a builtin hang on. The files may
differ, as long as the same names lead to directories. -/
structure Session.Matches (session other : Session) : Prop where
  environment : other.state.environment = session.state.environment
  lastStatus : other.state.lastStatus = session.state.lastStatus
  history : other.state.history = session.state.history
  current : other.world.currentDirectory = session.world.currentDirectory
  enters : ∀ name,
    (other.world.changeDirectory name).isOk = (session.world.changeDirectory name).isOk

namespace Builtin

def Outcome.SameWork (outcome other : Outcome) : Prop :=
  other.writer = outcome.writer ∧ other.result = outcome.result

variable {session other : Session} (args : List String) (writer : Writer)

theorem changeNames_status (command : String)
    (change : Environment → String → Option Environment)
    (h : other.state.environment = session.state.environment) :
    (changeNames command change other args).2 = (changeNames command change session args).2 := by
  induction args generalizing session other with
  | nil => rfl
  | cons arg rest ih =>
    rw [changeNames, changeNames, h]
    split
    · exact ih rfl
    · rfl

theorem sameWork_echoArgs :
    (echoArgs args session writer).SameWork (echoArgs args other writer) := by
  unfold echoArgs
  dsimp only
  generalize writer.writeText (" ".intercalate (args.dropWhile isNoFeedFlag)) = text
  obtain ⟨result, rest⟩ := text
  cases result with
  | error cause => exact ⟨rfl, rfl⟩
  | ok _ =>
    dsimp only
    split <;> exact ⟨rfl, rfl⟩

theorem sameWork_changeDirectoryTo (h : session.Matches other) :
    (changeDirectoryTo args session writer).SameWork (changeDirectoryTo args other writer) := by
  unfold changeDirectoryTo
  rw [h.environment]
  cases directoryTarget session.state.environment args with
  | error message => exact ⟨rfl, rfl⟩
  | ok target =>
    obtain ⟨target, printed⟩ := target
    have henters := h.enters target
    dsimp only
    -- both go there or neither does; only the message of a failure can differ
    cases hother : other.world.changeDirectory target with
    | error cause =>
      cases hsession : session.world.changeDirectory target with
      | error _ => exact ⟨rfl, rfl⟩
      | ok _ => simp [hother, hsession, Except.isOk, Except.toBool] at henters
    | ok world =>
      cases hsession : session.world.changeDirectory target with
      | error _ => simp [hother, hsession, Except.isOk, Except.toBool] at henters
      | ok _ =>
        cases printed <;> exact ⟨rfl, rfl⟩

theorem sameWork_printDirectoryOf (h : session.Matches other) :
    (printDirectoryOf session writer).SameWork (printDirectoryOf other writer) := by
  unfold printDirectoryOf
  rw [h.current]
  cases session.world.currentDirectory with
  | ok directory => exact ⟨rfl, rfl⟩
  | error cause => exact ⟨rfl, rfl⟩

theorem sameWork_exportArgs (h : session.Matches other) :
    (exportArgs args session writer).SameWork (exportArgs args other writer) := by
  unfold exportArgs
  split
  · rw [h.environment]
    exact ⟨rfl, rfl⟩
  · exact ⟨rfl, congrArg Except.ok (changeNames_status args "export" exportOne h.environment)⟩

theorem sameWork_listEnvironment (h : session.Matches other) :
    (listEnvironment args session writer).SameWork (listEnvironment args other writer) := by
  unfold listEnvironment
  rw [h.environment]
  split <;> exact ⟨rfl, rfl⟩

theorem sameWork_exitWith (h : session.Matches other) :
    (exitWith args session writer).SameWork (exitWith args other writer) := by
  unfold exitWith
  cases args with
  | nil =>
    refine ⟨rfl, ?_⟩
    dsimp only
    rw [Session.state_ite_emit, Session.state_ite_emit, h.lastStatus]
  | cons arg others =>
    dsimp only
    split
    · exact ⟨rfl, rfl⟩
    · split <;> exact ⟨rfl, rfl⟩

theorem sameWork_unsetArgs (h : session.Matches other) :
    (unsetArgs args session writer).SameWork (unsetArgs args other writer) :=
  ⟨rfl, congrArg Except.ok (changeNames_status args "unset" unsetOne h.environment)⟩

theorem sameWork_listHistory (h : session.Matches other) :
    (listHistory session writer).SameWork (listHistory other writer) := by
  unfold listHistory
  rw [h.history]
  exact ⟨rfl, rfl⟩

theorem sameWork_perform (h : session.Matches other) (builtin : Builtin) :
    (builtin.perform args session writer).SameWork (builtin.perform args other writer) := by
  cases builtin with
  | echo => exact sameWork_echoArgs args writer
  | changeDirectory => exact sameWork_changeDirectoryTo args writer h
  | printDirectory => exact sameWork_printDirectoryOf writer h
  | exportNames => exact sameWork_exportArgs args writer h
  | unsetNames => exact sameWork_unsetArgs args writer h
  | printEnvironment => exact sameWork_listEnvironment args writer h
  | exit =>
    unfold perform
    exact sameWork_exitWith args writer h
  | history => exact sameWork_listHistory writer h

theorem run_eq_of_matches (h : session.Matches other) (builtin : Builtin) :
    (builtin.run args other writer).writer = (builtin.run args session writer).writer ∧
      (builtin.run args other writer).status = (builtin.run args session writer).status := by
  have hlogged : (logged args session builtin).Matches (logged args other builtin) :=
    ⟨h.environment, h.lastStatus, h.history, h.current, h.enters⟩
  obtain ⟨hwriter, hresult⟩ := sameWork_perform args writer hlogged builtin
  cases hsession : (builtin.perform args (logged args session builtin) writer).result with
  | ok status =>
    rw [run_of_ok rfl hsession, run_of_ok rfl (hresult.trans hsession)]
    exact ⟨hwriter, rfl⟩
  | error cause =>
    rw [run_of_error rfl hsession, run_of_error rfl (hresult.trans hsession)]
    exact ⟨hwriter, rfl⟩

end Builtin

end CommandShell
