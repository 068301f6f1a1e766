import CommandShell.Proofs.BuiltinEffects

/-!
# Processes of their own

A command that runs in a process of its own cannot change the shell: only a single builtin without
redirections can. Apart from that, a builtin does the same work in a process of its own as in the
shell itself.
-/

namespace CommandShell

def Sink.isTarget : Sink → Bool
  | .file _ | .device _ => true
  | .inherited | .pipe => false

namespace Redirection

variable {wiring after : Wiring}

theorem isTarget_of_openWrite {world opened : World} {mode : FileTree.WriteMode} {name : String}
    {sink : Sink} (h : openWrite world mode name = .ok (opened, sink)) :
    (∃ files, opened = { world with files }) ∧ sink.isTarget = true := by
  unfold openWrite at h
  split at h
  · cases h
  · rename_i files _ device _
    cases h
    exact ⟨⟨files, rfl⟩, rfl⟩
  · rename_i files path _ _ _
    cases h
    exact ⟨⟨files, rfl⟩, rfl⟩

/-- What a redirection does: it binds one of the two streams, and only one for writing changes
files. -/
theorem apply_cases {redirection : Redirection} (h : redirection.apply wiring = .ok after) :
    redirection.op.reads = true ∧ after.world = wiring.world ∧
        after.streams.output = wiring.streams.output ∨
      redirection.op.reads = false ∧ (∃ files, after.world = { wiring.world with files }) ∧
        after.streams.input = wiring.streams.input ∧ after.streams.output.isTarget = true := by
  unfold apply at h
  dsimp only at h
  split at h
  · cases h
  · cases hop : redirection.op with
    | input | hereDoc =>
      rw [hop] at h
      dsimp only at h
      split at h
      · cases h
      · cases h
        exact .inl ⟨rfl, rfl, rfl⟩
    | output | append =>
      rw [hop] at h
      dsimp only at h
      split at h
      · cases h
      · rename_i world output hopen
        cases h
        obtain ⟨hfiles, htarget⟩ := isTarget_of_openWrite hopen
        exact .inr ⟨rfl, hfiles, rfl, htarget⟩

theorem applyAll_preserves {P : Wiring → Prop} {redirections : List Redirection}
    (hstep : ∀ redirection ∈ redirections, ∀ before after,
      redirection.apply before = .ok after → P before → P after)
    {start : Wiring} (hstart : P start) : P (applyAll start redirections).1 := by
  induction redirections generalizing start with
  | nil => exact hstart
  | cons redirection rest ih =>
    obtain ⟨hhead, hrest⟩ := List.forall_mem_cons.mp hstep
    rw [applyAll]
    split
    · exact hstart
    · rename_i next hnext
      exact ih hrest (hhead start next hnext hstart)

theorem world_applyAll {P : World → Prop} (hfiles : ∀ world files, P world → P { world with files })
    {world : World} (streams : Streams) (redirections : List Redirection) (h : P world) :
    P (applyAll { world, streams } redirections).1.world := by
  refine applyAll_preserves (P := fun after => P after.world)
    (fun redirection _ before after happly hbefore => ?_) h
  rcases apply_cases happly with ⟨-, hworld, -⟩ | ⟨-, ⟨files, hworld⟩, -⟩
  · rw [hworld]
    exact hbefore
  · rw [hworld]
    exact hfiles _ files hbefore

end Redirection

/-- Processes change files and take from standard input. What neither of these breaks holds after a
pipeline. -/
theorem runStage_preserves {P : World → Prop}
    (hfiles : ∀ world files, P world → P { world with files })
    (htaken : ∀ world count, P world → P { world with stdin := world.stdin.drop count })
    (state : ShellState) {world : World} (streams : Streams) (command : Command) (h : P world) :
    P (runStage state world streams command).world := by
  have hwiring := Redirection.world_applyAll hfiles streams command.redirections h
  unfold runStage
  split
  · rename_i wiring error happly
    rw [happly] at hwiring
    exact hwiring
  · rename_i wiring happly
    rw [happly] at hwiring
    split
    · exact hwiring
    · split
      · exact hfiles _ _ hwiring
      · unfold runProgramStage
        split
        · exact hwiring
        · dsimp only
          split
          · exact hfiles _ _ (htaken wiring.world _ hwiring)
          · exact hfiles _ _ hwiring

theorem runStages_cons (state : ShellState) (world : World) (input : Source)
    (command second : Command) (rest : List Command) :
    runStages state world input (command :: second :: rest) =
      let stage := runStage state world { input, output := .pipe } command
      let others := runStages state stage.world (.bytes stage.piped) (second :: rest)
      { others with events := stage.events ++ others.events } :=
  rfl

theorem runStages_preserves {P : World → Prop}
    (hfiles : ∀ world files, P world → P { world with files })
    (htaken : ∀ world count, P world → P { world with stdin := world.stdin.drop count })
    (state : ShellState) {world : World} (input : Source) (commands : List Command) (h : P world) :
    P (runStages state world input commands).world := by
  induction commands generalizing world input with
  | nil => exact h
  | cons command rest ih =>
    cases rest with
    | nil => exact runStage_preserves hfiles htaken state { input } command h
    | cons second rest =>
      exact ih _ (runStage_preserves hfiles htaken state { input, output := .pipe } command h)

theorem directory_runStages (state : ShellState) (world : World) (input : Source)
    (commands : List Command) :
    (runStages state world input commands).world.directory = world.directory :=
  runStages_preserves (P := fun after => after.directory = world.directory) (fun _ _ h => h)
    (fun _ _ h => h) state input commands rfl

/-- A single command without redirections that is a builtin. -/
def Pipeline.RunsInShell (pipeline : Pipeline) : Prop :=
  ∃ command, pipeline.commands = [command] ∧ command.redirections = [] ∧
    ∃ builtin : Builtin, command.argv.head? = some builtin.name

namespace Builtin

theorem ofName?_name (builtin : Builtin) : ofName? builtin.name = some builtin := by
  cases builtin <;> decide

theorem name_of_ofName? {name : String} {builtin : Builtin} (h : ofName? name = some builtin) :
    builtin.name = name := by
  simpa using List.find?_some h

end Builtin

namespace Session

theorem runPipeline_of_builtin (session : Session) {pipeline : Pipeline} {command : Command}
    {builtin : Builtin} {args : List String} (hcommands : pipeline.commands = [command])
    (hredirections : command.redirections = []) (hargv : command.argv = builtin.name :: args) :
    session.runPipeline pipeline = session.runBuiltin builtin args := by
  obtain ⟨argv, redirections, expanded⟩ := command
  dsimp only at hredirections hargv
  subst hredirections hargv
  unfold runPipeline
  rw [hcommands]
  dsimp only
  rw [Builtin.ofName?_name]

theorem runPipeline_of_not_runsInShell (session : Session) {pipeline : Pipeline}
    (h : ¬ pipeline.RunsInShell) :
    session.runPipeline pipeline = (session, 0) ∨
      session.runPipeline pipeline = session.spawn pipeline.commands := by
  unfold runPipeline
  split
  · exact .inl rfl
  · rename_i name args expanded hcommands
    split
    · rename_i builtin hname
      have hruns : pipeline.RunsInShell :=
        ⟨_, hcommands, rfl, builtin, by rw [Builtin.name_of_ofName? hname]; rfl⟩
      exact absurd hruns h
    · exact .inr rfl
  · exact .inr rfl

/-- Only a builtin that runs in the shell itself changes the shell, and even that one leaves its
status, mode and history alone. -/
theorem runPipeline_keeps_shell (session : Session) (pipeline : Pipeline) :
    let after := (session.runPipeline pipeline).1
    (¬ pipeline.RunsInShell →
      after.state = session.state ∧ after.world.directory = session.world.directory) ∧
    (pipeline.RunsInShell →
      after.state.lastStatus = session.state.lastStatus ∧
      after.state.interactive = session.state.interactive ∧
      after.state.history = session.state.history) := by
  constructor
  · intro h
    rcases session.runPipeline_of_not_runsInShell h with hrun | hrun
    · rw [hrun]
      exact ⟨rfl, rfl⟩
    · rw [hrun]
      exact ⟨rfl, directory_runStages session.state session.world .inherited pipeline.commands⟩
  · rintro ⟨command, hcommands, hredirections, builtin, hname⟩
    obtain ⟨args, hargv⟩ := List.head?_eq_some_iff.mp hname
    rw [session.runPipeline_of_builtin hcommands hredirections hargv]
    have hkeeps := Builtin.keeps_run args session {} builtin
    exact ⟨hkeeps.lastStatus, hkeeps.interactive, hkeeps.history⟩

theorem runPipeline_keeps_shell_builtin_stages :
    let session : Session :=
      { state := { lastStatus := 7, interactive := true }
        world := { programs := fun _ invocation => { files := invocation.files } } }
    let stages : Pipeline :=
      { commands := [{ argv := ["cd", "/tmp"] }, { argv := ["export", "A=1"] },
          { argv := ["exit", "4"] }] }
    let alone : Pipeline := { commands := [{ argv := ["exit", "4"] }] }
    (¬ stages.RunsInShell ∧ (session.runPipeline stages).1.state = session.state ∧
      (session.runPipeline stages).1.world.directory = session.world.directory) ∧
    alone.RunsInShell ∧ (session.runPipeline alone).1.state.lastStatus = 7 ∧
      (session.runPipeline alone).1.state.interactive = true ∧
      (session.runPipeline alone).1.state.history = {} := by
  intro session stages alone
  have hstages : ¬ stages.RunsInShell := by
    rintro ⟨command, hcommands, -⟩
    simp [stages] at hcommands
  have halone : alone.RunsInShell := ⟨_, rfl, rfl, .exit, rfl⟩
  exact ⟨⟨hstages, (session.runPipeline_keeps_shell stages).1 hstages⟩, halone,
    (session.runPipeline_keeps_shell alone).2 halone⟩

end Session

theorem status_ofStatus (status : Int) : (Termination.ofStatus status).status = status % 256 := by
  have hnonneg : 0 ≤ status % 256 := Int.emod_nonneg status (by decide)
  have hlt : status % 256 < 256 := Int.emod_lt_of_pos status (by decide)
  simp only [Termination.ofStatus, Termination.status, UInt8.toNat_ofNat']
  omega

theorem isOk_changeDirectory {world : World} {files : FileTree} {target : Path}
    (h : world.files.AgreesOff files target) (htarget : files.isDirectory target = false)
    (name : String) :
    (World.changeDirectory { world with files } name).isOk = (world.changeDirectory name).isOk := by
  have hback : files.AgreesOff world.files target :=
    ⟨htarget, fun other hne => (h.get? other hne).symm, h.restrictions.symm⟩
  unfold World.changeDirectory
  dsimp only
  cases hworld : world.files.enter world.directory name with
  | ok path =>
    rw [h.enter hworld]
    rfl
  | error cause =>
    cases hfiles : files.enter world.directory name with
    | error _ => rfl
    | ok path =>
      rw [hback.enter hfiles] at hworld
      cases hworld

theorem matches_enterChild (session : Session) {files : FileTree} {target : Path}
    (h : session.world.files.AgreesOff files target) (htarget : files.isDirectory target = false) :
    session.Matches
      { state := session.state.enterChild, world := { session.world with files } } := by
  refine ⟨rfl, rfl, rfl, ?_, isOk_changeDirectory h htarget⟩
  have hdirectory (path : Path) :
      files.isDirectory path = session.world.files.isDirectory path := by
    by_cases hpath : path = target
    · rw [hpath, htarget, h.not_directory]
    · rw [FileTree.isDirectory, h.get? path hpath]
      rfl
  unfold World.currentDirectory
  dsimp only
  rw [hdirectory, h.canName]

namespace Session

theorem stdout_runBuiltin (session : Session) (builtin : Builtin) (args : List String) :
    (session.runBuiltin builtin args).1.transcript.stdout =
      session.transcript.stdout ++ (builtin.run args session {}).writer.accepted := by
  unfold runBuiltin
  rw [transcript_emit, Transcript.stdout_append, (Builtin.keeps_run args session {} builtin).stdout]
  simp [Transcript.stdout]

theorem spawn_redirected_builtin (session : Session) (builtin : Builtin) (args : List String)
    (expanded : Bool) {target : String} {files : FileTree} {path : Path} {executable : Bool}
    (hopen : session.world.files.openWrite session.world.directory .truncate target =
      .ok (files, path, .file [] executable)) :
    let child : Session :=
      { state := session.state.enterChild, world := { session.world with files } }
    let run := builtin.run args child {}
    let spawned := session.spawn
      [{ argv := builtin.name :: args, redirections := [{ op := .output, target }], expanded }]
    spawned.1.world = { session.world with files := files.append path run.writer.accepted } ∧
      spawned.1.transcript.stdout = session.transcript.stdout ∧
      spawned.2 = run.status % 256 := by
  intro child run
  have happly : Redirection.applyAll { world := session.world } [{ op := .output, target }] =
      ({ world := { session.world with files }, streams := { output := .file path } }, .ok ()) := by
    simp only [Redirection.applyAll, Redirection.apply, Redirection.openWrite, hopen]
    rfl
  have hquiet : run.session.transcript.stdout = [] :=
    (Builtin.keeps_run args child {} builtin).stdout
  have hstage : runStage session.state session.world {}
      { argv := builtin.name :: args, redirections := [{ op := .output, target }], expanded } =
        runBuiltinStage session.state { session.world with files } (.file path) builtin args := by
    simp only [runStage, happly, Builtin.ofName?_name]
  simp only [spawn, runStages, hstage]
  refine ⟨rfl, ?_, status_ofStatus run.status⟩
  rw [transcript_emit, Transcript.stdout_append]
  simp only [runBuiltinStage, Sink.events, terminationEvents, Termination.ofStatus, List.append_nil]
  change session.transcript.stdout ++ run.session.transcript.stdout = session.transcript.stdout
  rw [hquiet, List.append_nil]

/-- A builtin with its output redirected to a file leaves there what it writes when it runs in the
shell itself, and ends with the same status up to its last eight bits. -/
theorem redirected_builtin_agrees (session : Session) (builtin : Builtin) (args : List String)
    (target : String) (expanded : Bool) (connective : Option Connective)
    (htarget : session.world.CanHold target) :
    let command : Command := { argv := builtin.name :: args, expanded }
    let direct := session.runPipeline { commands := [command], connective }
    let redirected := session.runPipeline
      { commands := [{ command with redirections := [{ op := .output, target }] }], connective }
    ∃ bytes, direct.1.transcript.stdout = session.transcript.stdout ++ bytes ∧
      redirected.1.world.readFile target = .ok bytes ∧
      redirected.1.transcript.stdout = session.transcript.stdout ∧
      redirected.2 = direct.2 % 256 := by
  intro command direct redirected
  obtain ⟨files, path, executable, hopen⟩ := World.openWrite_of_canHold htarget
  have hdirect : direct = session.runBuiltin builtin args :=
    session.runPipeline_of_builtin rfl rfl rfl
  obtain ⟨hagrees, hplain⟩ := FileTree.agreesOff_of_openWrite hopen
  obtain ⟨hwriter, hstatus⟩ :=
    Builtin.run_eq_of_matches args {} (matches_enterChild session hagrees hplain) builtin
  obtain ⟨hworld, hstdout, hresult⟩ :=
    session.spawn_redirected_builtin builtin args expanded hopen
  rw [hwriter] at hworld
  rw [hstatus] at hresult
  refine ⟨(builtin.run args session {}).writer.accepted, ?_, ?_, hstdout, ?_⟩
  · rw [hdirect]
    exact session.stdout_runBuiltin builtin args
  · change World.readFile (session.spawn _).1.world target = _
    rw [hworld, World.readFile]
    dsimp only
    rw [FileTree.lookup_append_of_openWrite hopen]
  · rw [hdirect]
    exact hresult

theorem redirected_builtin_agrees_wide_status :
    let session : Session :=
      { state := { lastStatus := 258, interactive := true }
        world := { programs := fun _ invocation => { files := invocation.files } } }
    session.world.CanHold "/out" ∧
      ∃ bytes,
        (session.runPipeline { commands := [{ argv := ["exit"] }] }).1.transcript.stdout = bytes ∧
        let redirected := session.runPipeline
          { commands :=
              [{ argv := ["exit"], redirections := [{ op := .output, target := "/out" }] }] }
        redirected.1.world.readFile "/out" = .ok bytes ∧
          redirected.1.transcript.stdout = [] ∧ redirected.2 = 2 := by
  intro session
  have hfree : session.world.CanHold "/out" :=
    .inr ⟨[], "out", by decide, ⟨by decide, by decide, by decide, by decide⟩, by decide⟩
  exact ⟨hfree, session.redirected_builtin_agrees .exit [] "/out" false none hfree⟩

end Session

end CommandShell
