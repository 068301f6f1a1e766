import CommandShell.Proofs.Surroundings

/-!
# Standard input that is left alone

A shell whose turns neither look at standard input nor take from it does the same whatever stands
there. So does every shell whose programs leave it alone, since nothing else reads it.
-/

namespace CommandShell

@[simp] theorem StandardInput.drop_zero (input : StandardInput) : input.drop 0 = input := by
  simp [drop]

def World.withInput (world : World) (stdin : StandardInput) : World :=
  { world with stdin }

def Session.withInput (session : Session) (stdin : StandardInput) : Session :=
  { session with world := session.world.withInput stdin }

def Shell.withInput (shell : Shell) (stdin : StandardInput) : Shell :=
  { shell with session := shell.session.withInput stdin }

def Turn.withInput : Turn → StandardInput → Turn
  | .again shell, stdin => .again (shell.withInput stdin)
  | .finished shell, stdin => .finished (shell.withInput stdin)

theorem Turn.shell_withInput (turn : Turn) (stdin : StandardInput) :
    (turn.withInput stdin).shell = turn.shell.withInput stdin := by
  cases turn <;> rfl

/-- Whatever stands on standard input, the turns do the same and leave it there. -/
def Shell.IgnoresInput (shell : Shell) : Prop :=
  ∀ count stdin, turns count (shell.withInput stdin) = (turns count shell).withInput stdin

namespace Shell.IgnoresInput

variable {shell next : Shell}

theorem turn (h : shell.IgnoresInput) (stdin : StandardInput) :
    (shell.withInput stdin).turn = shell.turn.withInput stdin := by
  rw [← turns_one, ← turns_one]
  exact h 1 stdin

theorem again (h : shell.IgnoresInput) (hturn : shell.turn = .again next) : next.IgnoresInput := by
  intro count stdin
  have hturns := h (count + 1) stdin
  rw [turns, turns, h.turn, hturn] at hturns
  exact hturns

end Shell.IgnoresInput

namespace Shell

theorem within_injective {first second : Shell} {written : List Event}
    (h : first.within { written } = second.within { written }) : first = second := by
  obtain ⟨⟨_, _, _⟩, ⟨_, _, _⟩, _, _⟩ := first
  obtain ⟨⟨_, _, _⟩, ⟨_, _, _⟩, _, _⟩ := second
  simp_all [within, Session.precededBy, LineSource.within]

theorem ignoresInput_emit (shell : Shell) (events : Transcript) :
    IgnoresInput { shell with session := shell.session.emit events } ↔ shell.IgnoresInput := by
  apply iff_of_eq
  apply apply_emit_of_within (f := IgnoresInput)
  intro shell written
  have hturn {first second : Turn} (stdin : StandardInput) :
      first.within { written } = (second.within { written }).withInput stdin ↔
        first = second.withInput stdin := by
    constructor
    · intro hsame
      cases first with
      | again first =>
        cases second with
        | again second => exact congrArg Turn.again (within_injective (Turn.again.inj hsame))
        | finished second => cases hsame
      | finished first =>
        cases second with
        | again second => cases hsame
        | finished second =>
          exact congrArg Turn.finished (within_injective (Turn.finished.inj hsame))
    · rintro rfl
      cases second <;> rfl
  refine propext (forall_congr' fun count => forall_congr' fun stdin => ?_)
  change turns count ((shell.withInput stdin).within { written }) =
    (turns count (shell.within { written })).withInput stdin ↔ _
  rw [turns_within, turns_within]
  exact hturn stdin

end Shell

/-- No program looks at its standard input or takes from it. -/
def World.SparesInput (world : World) : Prop :=
  ∀ name invocation input offset,
    world.programs name { invocation with input, inputOffset := offset } =
        world.programs name invocation ∧
      (world.programs name invocation).consumed = 0

section

variable (stdin : StandardInput)

theorem Redirection.apply_withInput (world : World) (streams : Streams)
    (redirection : Redirection) :
    redirection.apply { world := world.withInput stdin, streams } =
      (redirection.apply { world, streams }).map fun wiring =>
        { wiring with world := wiring.world.withInput stdin } := by
  have hread (name : String) : openRead (world.withInput stdin) name = openRead world name := rfl
  have hbody (body : String) : openBody (world.withInput stdin) body = openBody world body := rfl
  have hwrite (mode : FileTree.WriteMode) (name : String) :
      openWrite (world.withInput stdin) mode name =
        (openWrite world mode name).map fun opened => (opened.1.withInput stdin, opened.2) := by
    unfold openWrite
    dsimp only [World.withInput]
    split <;> rfl
  unfold apply
  dsimp only
  rw [hread, hbody, hwrite, hwrite]
  split
  · rfl
  · split
    · split <;> rfl
    · split <;> rfl
    · cases openWrite world .truncate redirection.target <;> rfl
    · cases openWrite world .append redirection.target <;> rfl

theorem Redirection.applyAll_withInput (world : World) (streams : Streams)
    (redirections : List Redirection) :
    let applied := applyAll { world, streams } redirections
    applyAll { world := world.withInput stdin, streams } redirections =
      ({ applied.1 with world := applied.1.world.withInput stdin }, applied.2) := by
  induction redirections generalizing world streams with
  | nil => rfl
  | cons redirection rest ih =>
    intro applied
    dsimp only [applied]
    rw [applyAll, applyAll, apply_withInput]
    cases redirection.apply { world, streams } with
    | error _ => rfl
    | ok wiring => exact ih wiring.world wiring.streams

theorem Session.frame_withInput : Frame (·.withInput stdin) (·.withInput stdin) where
  child _ := rfl
  shouldExit _ := rfl
  world _ := rfl
  emit _ _ := rfl
  setStatus _ _ := rfl
  setEnvironment _ _ := rfl
  leave _ := rfl
  move _ _ := rfl
  current _ := rfl
  enter world name := by
    unfold World.changeDirectory
    dsimp only [World.withInput]
    cases world.files.enter world.directory name <;> rfl

theorem Builtin.respects_withInput (builtin : Builtin) : builtin.Respects (·.withInput stdin) := by
  by_cases hexit : builtin = .exit
  · rw [hexit]
    exact respects_exit (Session.frame_withInput stdin) fun _ => rfl
  · exact respects_of_ne_exit (Session.frame_withInput stdin) hexit

theorem runBuiltinStage_withInput (world : World) (state : ShellState) (output : Sink)
    (builtin : Builtin) (args : List String) :
    runBuiltinStage state (world.withInput stdin) output builtin args =
      { runBuiltinStage state world output builtin args with
        world := (runBuiltinStage state world output builtin args).world.withInput stdin } := by
  have hrun := (builtin.respects_withInput stdin).run (Session.frame_withInput stdin) args
    { state := state.enterChild, world } output.writer
  change builtin.run args { state := state.enterChild, world := world.withInput stdin } _ = _
    at hrun
  unfold runBuiltinStage
  dsimp only
  rw [hrun]
  rfl

theorem runProgramStage_withInput {world : World} (h : world.SparesInput) (state : ShellState)
    (streams : Streams) (argv : List String) :
    runProgramStage state (world.withInput stdin) streams argv =
      { runProgramStage state world streams argv with
        world := (runProgramStage state world streams argv).world.withInput stdin } := by
  unfold runProgramStage
  have hprepare :
      prepareProgram (world.withInput stdin) streams.output.file? state.environment argv =
        prepareProgram world streams.output.file? state.environment argv := rfl
  rw [hprepare]
  split
  · rfl
  · rename_i program argv notes _
    obtain ⟨hsame, hnone⟩ := h program (invocation world streams state.environment argv)
      (streams.input.contents (world.withInput stdin))
      (streams.input.offset (world.withInput stdin))
    have hcompletion : (world.withInput stdin).programs program
        (invocation (world.withInput stdin) streams state.environment argv) =
          world.programs program (invocation world streams state.environment argv) := hsame
    dsimp only
    rw [hcompletion, hnone]
    simp [World.withInput]

theorem runStage_withInput {world : World} (h : world.SparesInput) (state : ShellState)
    (streams : Streams) (command : Command) :
    runStage state (world.withInput stdin) streams command =
      { runStage state world streams command with
        world := (runStage state world streams command).world.withInput stdin } := by
  have hspares :
      (Redirection.applyAll { world, streams } command.redirections).1.world.SparesInput :=
    Redirection.world_applyAll (fun _ _ h => h) streams command.redirections h
  unfold runStage
  rw [Redirection.applyAll_withInput]
  generalize Redirection.applyAll { world, streams } command.redirections = applied at hspares ⊢
  obtain ⟨wiring, result⟩ := applied
  cases result with
  | error error => rfl
  | ok =>
    dsimp only
    split
    · rfl
    · split
      · rename_i builtin _
        exact runBuiltinStage_withInput stdin wiring.world state _ builtin _
      · exact runProgramStage_withInput stdin hspares state _ _

theorem runStages_withInput {world : World} (h : world.SparesInput) (state : ShellState)
    (input : Source) (commands : List Command) :
    runStages state (world.withInput stdin) input commands =
      { runStages state world input commands with
        world := (runStages state world input commands).world.withInput stdin } := by
  induction commands generalizing world input with
  | nil => rfl
  | cons command rest ih =>
    cases rest with
    | nil => rw [runStages, runStages, runStage_withInput stdin h]
    | cons second rest =>
      have hspares : (runStage state world { input, output := .pipe } command).world.SparesInput :=
        runStage_preserves (fun _ _ h => h) (fun _ _ h => h) state _ command h
      rw [runStages_cons, runStages_cons, runStage_withInput stdin h]
      dsimp only
      rw [ih hspares]

theorem Session.unnoticed_withInput : Unnoticed (·.withInput stdin) World.SparesInput where
  stages state _ commands h := runStages_withInput stdin h state .inherited commands
  invariant := invariant_of_world (fun _ _ h => h) (fun _ _ h => h) fun _ _ h => h

theorem Session.execute_withInput {session : Session} (h : session.world.SparesInput)
    (source : LineSource) (prompt : String) (list : CommandList) :
    (session.withInput stdin).execute source prompt list =
      ((session.execute source prompt list).1.withInput stdin,
        (session.execute source prompt list).2) := by
  rw [execute_eq, execute_eq]
  dsimp only
  split
  · rfl
  · have htold : (session.emit (collectHereDocs prompt source list).1.notes).world.SparesInput := h
    have hrun := (frame_withInput stdin).runList (unnoticed_withInput stdin)
      (Builtin.respects_withInput stdin) htold (collectHereDocs prompt source list).2
    exact congrArg (·, _) hrun

namespace Shell

theorem afterParse_withInput (shell : Shell) (line : String) :
    (shell.withInput stdin).afterParse line = (shell.afterParse line).withInput stdin := by
  by_cases haccepts : shell.session.state.history.accepts line = true
  · simp [afterParse, remember, withInput, Session.withInput, Session.emit, haccepts]
  · simp [afterParse, remember, withInput, Session.withInput, Session.emit, haccepts]

theorem world_afterParse (shell : Shell) (line : String) :
    (shell.afterParse line).session.world = shell.session.world := by
  unfold afterParse remember
  dsimp only
  split <;> rfl

theorem runLine_withInput {shell : Shell} (h : shell.session.world.SparesInput) (line : String) :
    (shell.withInput stdin).runLine line = (shell.runLine line).withInput stdin := by
  by_cases hblank : Text.isBlank line = true
  · rw [runLine_of_blank _ hblank, runLine_of_blank _ hblank]
  · cases hparse : parseLine line with
    | error error =>
      rw [runLine_of_error _ hblank hparse, runLine_of_error _ hblank hparse, afterParse_withInput]
      rfl
    | ok list =>
      rw [← shell.world_afterParse line] at h
      rw [runLine_of_ok _ hblank hparse, runLine_of_ok _ hblank hparse, afterParse_withInput]
      generalize shell.afterParse line = parsed at h ⊢
      generalize htold : parsed.log .debug ("解析结果: " ++ CommandList.shown list) = told
      have hspares : told.session.world.SparesInput := by
        rw [← htold]
        exact h
      have hlog : (parsed.withInput stdin).log .debug ("解析结果: " ++ CommandList.shown list) =
          told.withInput stdin := by
        rw [← htold]
        rfl
      rw [hlog]
      have hexecute := Session.execute_withInput stdin hspares told.source told.theme.hereDoc list
      change Shell.takeSignals
        (let ran := (told.session.withInput stdin).execute told.source told.theme.hereDoc list
        { told.withInput stdin with session := ran.1, source := ran.2 }) = _
      rw [hexecute]
      rfl

theorem turn_withInput {shell : Shell} (h : shell.session.world.SparesInput) :
    (shell.withInput stdin).turn = shell.turn.withInput stdin := by
  have hsame : (shell.withInput stdin).session.state = shell.session.state := rfl
  by_cases hexit : shell.session.state.shouldExit = true
  · rw [turn_of_shouldExit hexit, turn_of_shouldExit (hsame ▸ hexit)]
    rfl
  · rw [turn_of_not_shouldExit hexit, turn_of_not_shouldExit (hsame ▸ hexit)]
    change (shell.afterRead.withInput stdin).respond
      (shell.source.readLogical shell.theme).result = _
    match (shell.source.readLogical shell.theme).result with
    | .ok (.line line) =>
      have hread : shell.afterRead.session.world.SparesInput := h
      exact congrArg Turn.again (runLine_withInput stdin hread line)
    | .ok .interrupted => rfl
    | .ok .endOfInput => rfl
    | .error error => rfl

end Shell

end

/-- Programs that leave standard input alone make a shell that does. -/
theorem Shell.ignoresInput_of_sparesInput {shell : Shell} (h : shell.session.world.SparesInput) :
    shell.IgnoresInput := by
  intro count stdin
  induction count generalizing shell with
  | zero => rfl
  | succ count ih =>
    have hnext := (Session.unnoticed_withInput stdin).invariant.turn shell h
    rw [turns, turns, turn_withInput stdin h]
    cases hturn : shell.turn with
    | again next =>
      rw [hturn] at hnext
      exact ih hnext
    | finished done => rfl

end CommandShell
