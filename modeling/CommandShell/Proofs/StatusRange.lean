import CommandShell.Proofs.StateInvariants

/-!
# The range of a shell's status

A status is a byte, or the one status beyond a byte that belongs to a line that cannot be read. The
statuses of builtins, of errors and of processes that were killed all lie there, and `exit` without
an argument only repeats the status before it.
-/

namespace CommandShell

/-- A status that a shell can have: a byte, or the status of a line that cannot be read. -/
def IsShellStatus (status : Int) : Prop :=
  (0 ≤ status ∧ status ≤ 255) ∨ status = 258
  deriving Decidable

theorem isShellStatus_emod (status : Int) : IsShellStatus (status % 256) := by
  have hnonneg : 0 ≤ status % 256 := Int.emod_nonneg status (by decide)
  have hlt : status % 256 < 256 := Int.emod_lt_of_pos status (by decide)
  exact .inl ⟨hnonneg, by omega⟩

theorem Termination.isShellStatus_status (termination : Termination) :
    IsShellStatus termination.status := by
  left
  cases termination with
  | exited code =>
    have hlt : code.toNat < 256 := code.toNat_lt
    simp only [status]
    omega
  | killed signal =>
    have hhigh := signal.bounded
    simp only [status]
    split
    · omega
    · decide

theorem isShellStatus_pipelineStatus (termination : Option Termination) :
    IsShellStatus (pipelineStatus termination) := by
  cases termination with
  | none => exact (by decide : IsShellStatus 1)
  | some termination => exact termination.isShellStatus_status

theorem ShellError.isShellStatus_status (error : ShellError) : IsShellStatus error.status := by
  cases error with
  | cannotExecute path errno =>
    rw [status]
    split <;> decide
  | _ => simp [status, IsShellStatus]

namespace Builtin

/-- If the builtin ends with a status, it is one that a shell can have. -/
def Outcome.HasShellStatus (outcome : Outcome) : Prop :=
  ∀ status, outcome.result = .ok status → IsShellStatus status

variable (args : List String) (session : Session) (writer : Writer)

theorem Outcome.HasShellStatus.of_ok {outcome : Outcome} {status : Int}
    (hresult : outcome.result = .ok status) (h : IsShellStatus status) :
    outcome.HasShellStatus := by
  intro other hother
  obtain rfl : status = other := Except.ok.inj (hresult.symm.trans hother)
  exact h

theorem hasShellStatus_written (write : Except IoError Unit × Writer) :
    (written session write).HasShellStatus := by
  intro status hstatus
  obtain ⟨result, rest⟩ := write
  cases result with
  | error cause => cases hstatus
  | ok _ =>
    cases hstatus
    exact (by decide : IsShellStatus 0)

theorem hasShellStatus_fail (message : String) : (fail session writer message).HasShellStatus :=
  .of_ok rfl (by decide)

theorem isShellStatus_changeNames (command : String)
    (change : Environment → String → Option Environment) :
    IsShellStatus (changeNames command change session args).2 := by
  induction args generalizing session with
  | nil => exact (by decide : IsShellStatus 0)
  | cons arg rest ih =>
    rw [changeNames]
    split
    · exact ih _
    · exact (by decide : IsShellStatus 1)

theorem hasShellStatus_echoArgs : (echoArgs args session writer).HasShellStatus := by
  unfold echoArgs
  dsimp only
  split
  · exact hasShellStatus_written session _
  · split
    · exact hasShellStatus_written session _
    · exact hasShellStatus_written session _

theorem hasShellStatus_changeDirectoryTo :
    (changeDirectoryTo args session writer).HasShellStatus := by
  unfold changeDirectoryTo
  split
  · exact hasShellStatus_fail session writer _
  · split
    · exact hasShellStatus_fail session writer _
    · dsimp only
      split
      · exact hasShellStatus_written _ _
      · exact .of_ok rfl (by decide)

theorem hasShellStatus_printDirectoryOf : (printDirectoryOf session writer).HasShellStatus := by
  unfold printDirectoryOf
  split
  · exact hasShellStatus_written session _
  · exact hasShellStatus_fail session writer _

theorem hasShellStatus_exportArgs : (exportArgs args session writer).HasShellStatus := by
  unfold exportArgs
  split
  · exact hasShellStatus_written session _
  · exact .of_ok rfl (isShellStatus_changeNames args session "export" exportOne)

theorem hasShellStatus_listEnvironment : (listEnvironment args session writer).HasShellStatus := by
  unfold listEnvironment
  split
  · exact hasShellStatus_written session _
  · exact hasShellStatus_fail session writer _

theorem isShellStatus_exitCode? {arg : String} {code : Int} (h : exitCode? arg = some code) :
    IsShellStatus code := by
  obtain ⟨value, -, rfl⟩ := Option.map_eq_some_iff.mp h
  exact isShellStatus_emod value

/-- `exit` without an argument repeats the last status, which is the only one it does not make. -/
theorem hasShellStatus_exitWith (h : IsShellStatus session.state.lastStatus) :
    (exitWith args session writer).HasShellStatus := by
  have htold := session.state_ite_emit session.state.interactive
    [.diagnostic (Bytes.ofText "exit\n")]
  unfold exitWith
  generalize (if session.state.interactive then _ else session) = told at htold
  dsimp only
  split
  · apply Outcome.HasShellStatus.of_ok rfl
    rw [htold]
    exact h
  · split
    · exact .of_ok rfl (by decide)
    · rename_i code hcode
      split
      · exact .of_ok rfl (isShellStatus_exitCode? hcode)
      · exact hasShellStatus_fail told writer _

theorem hasShellStatus_perform (builtin : Builtin) (h : IsShellStatus session.state.lastStatus) :
    (builtin.perform args session writer).HasShellStatus := by
  cases builtin with
  | echo => exact hasShellStatus_echoArgs args session writer
  | changeDirectory => exact hasShellStatus_changeDirectoryTo args session writer
  | printDirectory => exact hasShellStatus_printDirectoryOf session writer
  | exportNames => exact hasShellStatus_exportArgs args session writer
  | unsetNames => exact .of_ok rfl (isShellStatus_changeNames args session "unset" unsetOne)
  | printEnvironment => exact hasShellStatus_listEnvironment args session writer
  | exit => exact hasShellStatus_exitWith args session writer h
  | history => exact hasShellStatus_written session _

theorem isShellStatus_run (builtin : Builtin) (h : IsShellStatus session.state.lastStatus) :
    IsShellStatus (builtin.run args session writer).status := by
  unfold run
  dsimp only
  split
  · rename_i status hstatus
    exact hasShellStatus_perform args (Session.log session _ _) writer builtin h status hstatus
  · exact (by decide : IsShellStatus 1)

end Builtin

theorem ShellState.invariant_lastStatus :
    ShellState.Invariant fun state => IsShellStatus state.lastStatus where
  builtin builtin args session h := Builtin.isShellStatus_run args session {} builtin h
  ended _ termination _ := isShellStatus_pipelineStatus termination
  interrupted _ _ := (by decide : IsShellStatus interruptedStatus)
  failed _ error _ := error.isShellStatus_status
  recorded _ _ h := h

/-- A shell that starts with a status in its range has one after every turn and at its end, whether
its lines are there from the start or fetched while it runs. -/
theorem Shell.status_stays_in_range (shell : Shell) (hstart : IsShellStatus shell.status) :
    (∀ count, IsShellStatus (turns count shell).shell.status) ∧
    IsShellStatus shell.run.status ∧
    (∀ (feed : Feed) (count : Nat), IsShellStatus (feed.turns count shell).status) ∧
    ∀ script : Startup.Script, IsShellStatus (script.run shell.session).status := by
  have hinvariant := ShellState.invariant_lastStatus
  refine ⟨?_, ?_, ?_, ?_⟩
  · intro count
    exact hinvariant.session.turns count shell hstart
  · exact hinvariant.run shell hstart
  · intro feed count
    exact hinvariant.session.feedTurns feed count shell hstart
  · intro script
    exact hinvariant.scriptRun script shell.session hstart

theorem Shell.status_stays_in_range_unclosed :
    let session : Session :=
      { state := {}, world := { programs := fun _ invocation => { files := invocation.files } } }
    let shell : Shell :=
      { session
        source := { arrivals := [.line "exit -1 2", .interrupt, .line "exit 300 |", .line "'a"] }
        theme := .plain }
    IsShellStatus shell.status ∧ shell.run.status = 258 ∧ IsShellStatus shell.run.status := by
  intro session shell
  have hstart : IsShellStatus shell.status := by decide
  exact ⟨hstart, by decide +kernel, (shell.status_stays_in_range hstart).2.1⟩

end CommandShell
