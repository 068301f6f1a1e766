import CommandShell.Proofs.ChildProcesses
import CommandShell.Proofs.Turns
import CommandShell.Startup

/-!
# Invariants of a session

The state of a shell changes in few ways: a builtin runs in the shell itself, a status is taken over
and a line is recorded. The world changes by what builtins and processes do. What each of them keeps
is kept by a whole run, wherever its lines come from.
-/

namespace CommandShell

namespace Session

/-- A pipeline is a builtin in the shell itself, or it leaves the state alone, has the status of a
process and leaves the world as processes do. -/
theorem runPipeline_cases (session : Session) (pipeline : Pipeline) :
    (∃ builtin args, session.runPipeline pipeline = session.runBuiltin builtin args) ∨
      (session.runPipeline pipeline).1.state = session.state ∧
        (∃ termination, (session.runPipeline pipeline).2 = pipelineStatus termination) ∧
        ∃ commands, (session.runPipeline pipeline).1.world =
          (runStages session.state session.world .inherited commands).world := by
  by_cases hshell : pipeline.RunsInShell
  · obtain ⟨command, hcommands, hredirections, builtin, hname⟩ := hshell
    obtain ⟨args, hargv⟩ := List.head?_eq_some_iff.mp hname
    exact .inl ⟨builtin, args, session.runPipeline_of_builtin hcommands hredirections hargv⟩
  · rcases session.runPipeline_of_not_runsInShell hshell with hrun | hrun
    · rw [hrun]
      exact .inr ⟨rfl, ⟨some (.exited 0), rfl⟩, [], rfl⟩
    · rw [hrun]
      exact .inr ⟨rfl, ⟨_, rfl⟩, pipeline.commands, rfl⟩

/-- A property of state and world that each way to change them keeps. -/
structure Invariant (P : ShellState → World → Prop) : Prop where
  /-- A builtin runs in the shell itself, and its status is taken over. -/
  builtin : ∀ (builtin : Builtin) (args : List String) (session : Session),
    P session.state session.world →
      P { (builtin.run args session {}).session.state with
          lastStatus := (builtin.run args session {}).status }
        (builtin.run args session {}).session.world
  /-- The processes of a pipeline end, and the status is that of the last one. -/
  ended : ∀ state world termination, P state world →
    P { state with lastStatus := pipelineStatus termination } world
  interrupted : ∀ state world, P state world →
    P { state with lastStatus := interruptedStatus } world
  failed : ∀ state world (error : ShellError), P state world →
    P { state with lastStatus := error.status } world
  recorded : ∀ state world line, P state world →
    P { state with history := state.history.record line } world
  /-- Processes change files. -/
  files : ∀ state world files, P state world → P state { world with files }
  /-- Processes take from standard input, and so does the reader of a script there. -/
  taken : ∀ state world count, P state world →
    P state { world with stdin := world.stdin.drop count }

namespace Invariant

variable {P : ShellState → World → Prop} (hP : Invariant P)

include hP

theorem step (session : Session) (pipeline : Pipeline) (h : P session.state session.world) :
    P (session.step pipeline).1.state (session.step pipeline).1.world := by
  let told := session.emit (expansionNotes session.scope pipeline)
  change P { (told.runPipeline (pipeline.expand session.scope)).1.state with
    lastStatus := (told.runPipeline (pipeline.expand session.scope)).2 }
      (told.runPipeline (pipeline.expand session.scope)).1.world
  rcases told.runPipeline_cases (pipeline.expand session.scope) with
    ⟨builtin, args, hrun⟩ | ⟨hstate, ⟨termination, hstatus⟩, commands, hworld⟩
  · rw [hrun]
    exact hP.builtin builtin args told h
  · rw [hstate, hstatus, hworld]
    exact hP.ended session.state _ termination
      (runStages_preserves (hP.files _) (hP.taken _) told.state .inherited commands h)

theorem runList (session : Session) (list : CommandList) (h : P session.state session.world) :
    P (session.runList list).state (session.runList list).world := by
  induction list generalizing session with
  | nil => exact h
  | cons pipeline rest ih =>
    have hstep := hP.step session pipeline h
    rw [Session.runList]
    dsimp only
    split
    · exact hstep
    · split
      · exact ih _ hstep
      · split
        · exact hstep
        · exact ih _ hstep

theorem execute (session : Session) (source : LineSource) (prompt : String) (list : CommandList)
    (h : P session.state session.world) :
    P (session.execute source prompt list).1.state
      (session.execute source prompt list).1.world := by
  rw [execute_eq]
  dsimp only
  split
  · exact hP.interrupted session.state session.world h
  · exact hP.runList (session.emit _) _ h

theorem remember (shell : Shell) (line : String) (h : P shell.session.state shell.session.world) :
    P (shell.remember line).session.state (shell.remember line).session.world := by
  unfold Shell.remember
  dsimp only
  split
  · exact hP.recorded shell.session.state shell.session.world line h
  · exact h

theorem runLine (shell : Shell) (line : String) (h : P shell.session.state shell.session.world) :
    P (shell.runLine line).session.state (shell.runLine line).session.world := by
  have hremember : P (shell.afterParse line).session.state (shell.afterParse line).session.world :=
    hP.remember shell line h
  by_cases hblank : Text.isBlank line = true
  · rw [shell.runLine_of_blank hblank]
    exact h
  · cases hparse : parseLine line with
    | error error =>
      rw [shell.runLine_of_error hblank hparse]
      exact hP.failed _ _ error hremember
    | ok list =>
      rw [shell.runLine_of_ok hblank hparse]
      exact hP.execute (Session.log _ _ _) _ _ list hremember

theorem turn (shell : Shell) (h : P shell.session.state shell.session.world) :
    P shell.turn.shell.session.state shell.turn.shell.session.world := by
  by_cases hexit : shell.session.state.shouldExit = true
  · rw [Shell.turn_of_shouldExit hexit]
    exact h
  · rw [Shell.turn_of_not_shouldExit hexit]
    match (shell.source.readLogical shell.theme).result with
    | .ok (.line line) => exact hP.runLine shell.afterRead line h
    | .ok .interrupted => exact hP.interrupted shell.session.state shell.session.world h
    | .ok .endOfInput => exact h
    | .error error => exact hP.failed shell.session.state shell.session.world error h

theorem turns (count : Nat) (shell : Shell) (h : P shell.session.state shell.session.world) :
    P (Shell.turns count shell).shell.session.state
      (Shell.turns count shell).shell.session.world := by
  induction count generalizing shell with
  | zero => exact h
  | succ count ih =>
    have hturn := hP.turn shell h
    rw [Shell.turns]
    cases hnext : shell.turn with
    | again next =>
      rw [hnext] at hturn
      exact ih next hturn
    | finished done =>
      rw [hnext] at hturn
      exact hturn

theorem loop (shell : Shell) (h : P shell.session.state shell.session.world) :
    P shell.loop.session.state shell.loop.session.world :=
  hP.turns _ shell h

theorem skip (origin : Origin) (count : Nat) (state : ShellState) (world : World)
    (h : P state world) : P state (origin.skip count world).2 := by
  cases origin with
  | stdin => exact hP.taken state world count h
  | file path position => exact h

theorem feedTurns (feed : Feed) (count : Nat) (shell : Shell)
    (h : P shell.session.state shell.session.world) :
    P (feed.turns count shell).session.state (feed.turns count shell).session.world := by
  induction count generalizing feed shell with
  | zero => exact h
  | succ count ih =>
    -- a turn that is taken twice starts from the same state both times
    have hturn : P (feed.turn shell).2.shell.session.state
        (feed.turn shell).2.shell.session.world := by
      unfold Feed.turn
      dsimp only
      split
      · exact hP.turn (Feed.present _ _) (hP.skip _ _ _ _ h)
      · exact hP.turn (Feed.present _ _) h
    rw [Feed.turns]
    split
    · rename_i later next hnext
      rw [hnext] at hturn
      exact ih later next hturn
    · rename_i later done hdone
      rw [hdone] at hturn
      exact hturn

end Invariant

theorem invariant_of_world {P : World → Prop}
    (hdirectory : ∀ world directory, P world → P { world with directory })
    (hfiles : ∀ world files, P world → P { world with files })
    (htaken : ∀ world count, P world → P { world with stdin := world.stdin.drop count }) :
    Invariant fun _ world => P world where
  builtin builtin args session h := by
    obtain ⟨directory, hworld⟩ := (Builtin.keeps_run args session {} builtin).world
    rw [hworld]
    exact hdirectory _ directory h
  ended _ _ _ h := h
  interrupted _ _ h := h
  failed _ _ _ h := h
  recorded _ _ _ h := h
  files _ := hfiles
  taken _ := htaken

end Session

namespace Shell

theorem state_saveHistory (shell : Shell) :
    shell.saveHistory.session.state = shell.session.state := by
  unfold saveHistory
  dsimp only
  split
  · rfl
  · split <;> rfl

theorem saveHistory_of_silent {shell : Shell} (h : shell.session.state.interactive = false) :
    shell.saveHistory = shell := by
  rw [saveHistory]
  simp [h]

theorem conclude_of_silent {shell : Shell} (h : shell.session.state.interactive = false) :
    shell.conclude =
      shell.log .info ("退出 minishell，状态 " ++ toString shell.session.state.lastStatus) := by
  rw [conclude, saveHistory_of_silent h]

theorem runWith_preserves {P : ShellState → Prop} {loop : Shell → Shell}
    (hloop : ∀ shell : Shell, P shell.session.state → P (loop shell).session.state)
    (shell : Shell) (h : P shell.session.state) : P (shell.runWith loop).session.state := by
  rw [runWith_eq]
  change P (saveHistory _).session.state
  rw [state_saveHistory]
  apply hloop
  exact h

end Shell

/-- A property of the state that each way to change it keeps. -/
structure ShellState.Invariant (P : ShellState → Prop) : Prop where
  /-- A builtin runs in the shell itself, and its status is taken over. -/
  builtin : ∀ (builtin : Builtin) (args : List String) (session : Session), P session.state →
    P { (builtin.run args session {}).session.state with
        lastStatus := (builtin.run args session {}).status }
  /-- The processes of a pipeline end, and the status is that of the last one. -/
  ended : ∀ (state : ShellState) (termination : Option Termination), P state →
    P { state with lastStatus := pipelineStatus termination }
  interrupted : ∀ state : ShellState, P state → P { state with lastStatus := interruptedStatus }
  failed : ∀ (state : ShellState) (error : ShellError), P state →
    P { state with lastStatus := error.status }
  recorded : ∀ (state : ShellState) (line : String), P state →
    P { state with history := state.history.record line }

namespace ShellState.Invariant

variable {P : ShellState → Prop} (hP : Invariant P)

include hP

theorem session : Session.Invariant fun state _ => P state where
  builtin := hP.builtin
  ended state _ := hP.ended state
  interrupted state _ := hP.interrupted state
  failed state _ := hP.failed state
  recorded state _ := hP.recorded state
  files _ _ _ h := h
  taken _ _ _ h := h

theorem run (shell : Shell) (h : P shell.session.state) : P shell.run.session.state :=
  shell.runWith_preserves hP.session.loop h

theorem scriptRun (script : Startup.Script) (session : Session) (h : P session.state) :
    P (script.run session).session.state := by
  cases script with
  | fixed source => exact hP.run (Shell.start .plain source session) h
  | fed feed =>
    exact (Shell.start .plain {} session).runWith_preserves (hP.session.feedTurns feed _) h
  | typed theme source alarms => exact hP.run { Shell.start theme source session with alarms } h

end ShellState.Invariant

theorem ShellState.invariant_interactive (mode : Bool) :
    ShellState.Invariant fun state => state.interactive = mode where
  builtin builtin args session h := (Builtin.keeps_run args session {} builtin).interactive.trans h
  ended _ _ h := h
  interrupted _ h := h
  failed _ _ h := h
  recorded _ _ h := h

end CommandShell
