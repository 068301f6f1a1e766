import CommandShell.Proofs.ChildProcesses
import CommandShell.Toolbox
import Mathlib.Data.List.Chain

/-!
# What flows through a pipeline

Every command of a pipeline reads what the one before it wrote, unless a redirection of either of
them says otherwise. What the last one writes reaches the shell's standard output, and the way it
ends is the status of the pipeline.
-/

namespace CommandShell

def Command.redirectsInput (command : Command) : Bool :=
  command.redirections.any fun redirection => redirection.op.reads

def Command.redirectsOutput (command : Command) : Bool :=
  command.redirections.any fun redirection => !redirection.op.reads

/-- What a command does, whatever becomes of the bytes it writes. -/
structure Work where
  output : Bytes := []
  termination : Termination
  /-- The world after it, with its output stored if a file took it. -/
  after : World

/-- The work of a command whose streams are set up. -/
def Wiring.work (wiring : Wiring) (state : ShellState) : List String → Work
  | [] => { termination := .exited 0, after := wiring.world }
  | name :: args =>
    let output := wiring.streams.output
    match Builtin.ofName? name with
    | some builtin =>
      let child : Session := { state := state.enterChild, world := wiring.world }
      let run := builtin.run args child output.writer
      let files := output.store run.writer.accepted wiring.world.files
      { output := run.writer.accepted
        termination := .ofStatus run.status
        after := { wiring.world with files } }
    | none =>
      match (prepareProgram wiring.world output.file? state.environment (name :: args)).1 with
      | .error error => { termination := .ofStatus error.status, after := wiring.world }
      | .ok (program, argv) =>
        let completion := wiring.world.programs program
          (invocation wiring.world wiring.streams state.environment argv)
        let stdin :=
          if wiring.streams.input = .inherited then wiring.world.stdin.drop completion.consumed
          else wiring.world.stdin
        let files := output.store completion.output completion.files
        { output := completion.output
          termination := completion.termination
          after := { wiring.world with files, stdin } }

/-- A command of a pipeline at work: the world and the streams it finds, those that its redirections
leave, and what it does. -/
structure StageRun where
  command : Command
  before : World
  streams : Streams
  wiring : Wiring
  opened : Except ShellError Unit
  work : Work

namespace StageRun

def input (run : StageRun) : Except Errno Bytes :=
  run.wiring.streams.input.contents run.wiring.world

/-- The redirections are applied, and then the command does its work; if one of them fails, it
writes nothing. -/
structure Acts (run : StageRun) (state : ShellState) : Prop where
  opens : Redirection.applyAll { world := run.before, streams := run.streams }
    run.command.redirections = (run.wiring, run.opened)
  works : run.opened = .ok () → run.work = run.wiring.work state run.command.argv
  refused : ∀ error, run.opened = .error error →
    run.work = { termination := .ofStatus error.status, after := run.wiring.world }

/-- What goes on along the stream that the command found as its output. -/
def handedOn (run : StageRun) : Bytes :=
  if run.command.redirectsOutput then [] else run.work.output

/-- The second command starts in the world that the first one leaves and finds what that handed on
in the pipe between them. This is all it reads, unless a redirection gives it something else. -/
structure Feeds (first second : StageRun) : Prop where
  before : second.before = first.work.after
  output : first.streams.output = .pipe
  source : second.streams.input = .bytes first.handedOn
  input : second.command.redirectsInput = false → second.input = .ok first.handedOn

end StageRun

/-- Commands at work one after the other, between `input` and the shell's standard output. -/
structure Flow (state : ShellState) (world : World) (input : Source) (commands : List Command)
    (runs : List StageRun) : Prop where
  commands : runs.map StageRun.command = commands
  acts : ∀ run ∈ runs, run.Acts state
  first : ∀ run, runs.head? = some run → run.before = world ∧ run.streams.input = input
  feeds : runs.IsChain StageRun.Feeds
  last : ∀ run, runs.getLast? = some run → run.streams.output = .inherited

namespace Redirection

variable (start : Wiring) {redirections : List Redirection}

theorem input_applyAll
    (h : redirections.any (fun redirection => redirection.op.reads) = false) :
    (applyAll start redirections).1.streams.input = start.streams.input := by
  refine applyAll_preserves (P := fun after => after.streams.input = start.streams.input)
    (fun redirection hmem before after happly hbefore => ?_) rfl
  rcases apply_cases happly with ⟨hreads, -⟩ | ⟨-, -, hinput, -⟩
  · exact absurd hreads (List.any_eq_false.mp h redirection hmem)
  · exact hinput.trans hbefore

theorem output_applyAll
    (h : redirections.any (fun redirection => !redirection.op.reads) = false) :
    (applyAll start redirections).1.streams.output = start.streams.output := by
  refine applyAll_preserves (P := fun after => after.streams.output = start.streams.output)
    (fun redirection hmem before after happly hbefore => ?_) rfl
  rcases apply_cases happly with ⟨-, -, houtput⟩ | ⟨hwrites, -⟩
  · exact houtput.trans hbefore
  · have hno := List.any_eq_false.mp h redirection hmem
    simp [hwrites] at hno

theorem isTarget_applyAll :
    (applyAll start redirections).1.streams.output = start.streams.output ∨
      (applyAll start redirections).1.streams.output.isTarget = true := by
  refine applyAll_preserves
    (P := fun after => after.streams.output = start.streams.output ∨
      after.streams.output.isTarget = true)
    (fun redirection _ before after happly hbefore => ?_) (.inl rfl)
  rcases apply_cases happly with ⟨-, -, houtput⟩ | ⟨-, -, -, htarget⟩
  · rw [houtput]
    exact hbefore
  · exact .inr htarget

theorem isTarget_of_applyAll_ok {start wiring : Wiring}
    (h : applyAll start redirections = (wiring, .ok ()))
    (hsome : redirections.any (fun redirection => !redirection.op.reads) = true) :
    wiring.streams.output.isTarget = true := by
  induction redirections generalizing start with
  | nil => simp at hsome
  | cons redirection rest ih =>
    rw [applyAll] at h
    split at h
    · cases (Prod.mk.inj h).2
    · rename_i next hnext
      by_cases hrest : rest.any (fun redirection => !redirection.op.reads) = true
      · exact ih h hrest
      · have hlater := output_applyAll next (by simpa using hrest)
        rw [h] at hlater
        rcases apply_cases hnext with ⟨hreads, -⟩ | ⟨-, -, -, htarget⟩
        · simp_all
        · exact hlater ▸ htarget

end Redirection

theorem stdout_searchCandidates (files : FileTree) (directory : Path) (fallback : Option String)
    (candidates : List String) :
    Transcript.stdout (searchCandidates files directory fallback candidates).notes = [] := by
  induction candidates generalizing fallback with
  | nil => rfl
  | cons candidate rest ih =>
    rw [searchCandidates]
    split
    · rename_i cause _
      have hnotes : Transcript.stdout (searchNotes candidate cause) = [] := by
        unfold searchNotes
        split <;> rfl
      rw [Transcript.stdout_append, hnotes, ih]
      rfl
    · split
      · exact ih fallback
      · split
        · rfl
        · exact ih _

theorem stdout_prepareProgram (world : World) (outputFile : Option Path)
    (environment : Environment) (argv : List String) :
    Transcript.stdout (prepareProgram world outputFile environment argv).2 = [] := by
  have hresolve (name : String) :
      Transcript.stdout (resolveCommand world.files world.directory environment name).2 = [] := by
    unfold resolveCommand
    split
    · rfl
    · split
      · split <;> rfl
      · split
        · rfl
        · dsimp only
          split <;> exact stdout_searchCandidates ..
  cases argv with
  | nil => rfl
  | cons name args =>
    have hnotes := hresolve name
    unfold prepareProgram
    dsimp only
    split
    · rename_i error notes h
      rw [h] at hnotes
      exact hnotes
    · rename_i file notes h
      rw [h] at hnotes
      split
      · split <;> exact hnotes
      · exact hnotes

namespace StageRun

variable {run : StageRun} {state : ShellState}

theorem Acts.input_eq (h : run.Acts state) (hnone : run.command.redirectsInput = false) :
    run.input = run.streams.input.contents run.wiring.world := by
  have hinput := Redirection.input_applyAll { world := run.before, streams := run.streams } hnone
  rw [h.opens] at hinput
  rw [input, hinput]

theorem Acts.sink_cases (h : run.Acts state) :
    run.command.redirectsOutput = false ∧ run.wiring.streams.output = run.streams.output ∨
      run.command.redirectsOutput = true ∧
        (run.wiring.streams.output.isTarget = true ∨ run.work.output = []) := by
  cases hredirects : run.command.redirectsOutput with
  | false =>
    have houtput :=
      Redirection.output_applyAll { world := run.before, streams := run.streams } hredirects
    rw [h.opens] at houtput
    exact .inl ⟨rfl, houtput⟩
  | true =>
    refine .inr ⟨rfl, ?_⟩
    cases hopened : run.opened with
    | error error => exact .inr (by rw [h.refused error hopened])
    | ok _ => exact .inl (Redirection.isTarget_of_applyAll_ok (hopened ▸ h.opens) hredirects)

theorem Acts.piped_eq (h : run.Acts state) (hpipe : run.streams.output = .pipe) :
    run.wiring.streams.output.piped run.work.output = run.handedOn := by
  rw [handedOn]
  rcases h.sink_cases with ⟨hredirects, hsink⟩ | ⟨hredirects, htarget | hempty⟩
  · rw [hredirects, hsink, hpipe]
    rfl
  · rw [hredirects]
    cases hsink : run.wiring.streams.output <;> simp_all [Sink.isTarget, Sink.piped]
  · rw [hredirects, hempty]
    cases run.wiring.streams.output <;> rfl

theorem Acts.stdout_of_pipe (h : run.Acts state) (hpipe : run.streams.output = .pipe) :
    (run.wiring.streams.output.events run.work.output).stdout = [] := by
  have hsink := @Redirection.isTarget_applyAll { world := run.before, streams := run.streams }
    run.command.redirections
  rw [h.opens, hpipe] at hsink
  rcases hsink with hsink | htarget
  · rw [hsink]
    rfl
  · cases hsink : run.wiring.streams.output <;> simp_all [Sink.isTarget, Sink.events] <;> rfl

theorem Acts.stdout_of_inherited (h : run.Acts state)
    (hinherited : run.streams.output = .inherited) :
    (run.wiring.streams.output.events run.work.output).stdout = run.handedOn := by
  rw [handedOn]
  rcases h.sink_cases with ⟨hredirects, hsink⟩ | ⟨hredirects, htarget | hempty⟩
  · rw [hredirects, hsink, hinherited]
    exact List.append_nil _
  · rw [hredirects]
    cases hsink : run.wiring.streams.output <;> simp_all [Sink.isTarget, Sink.events] <;> rfl
  · rw [hredirects, hempty]
    cases run.wiring.streams.output <;> rfl

end StageRun

/-- The finished command shows its work to the rest of the pipeline. -/
structure StageResult.Shows (stage : StageResult) (sink : Sink) (work : Work) : Prop where
  world : stage.world = work.after
  termination : stage.termination = work.termination
  piped : stage.piped = sink.piped work.output
  stdout : stage.events.stdout = (sink.events work.output).stdout

theorem StageResult.shows_nothing {stage : StageResult} {termination : Termination}
    (sink : Sink) (htermination : stage.termination = termination) (hpiped : stage.piped = [])
    (hstdout : stage.events.stdout = []) :
    stage.Shows sink { termination, after := stage.world } := by
  refine ⟨rfl, htermination, ?_, ?_⟩
  · rw [hpiped]
    cases sink <;> rfl
  · rw [hstdout]
    cases sink <;> rfl

theorem shows_runBuiltinStage (state : ShellState) (wiring : Wiring) {name : String}
    {builtin : Builtin} (h : Builtin.ofName? name = some builtin) (args : List String) :
    (runBuiltinStage state wiring.world wiring.streams.output builtin args).Shows
      wiring.streams.output (wiring.work state (name :: args)) := by
  simp only [Wiring.work, h]
  refine ⟨rfl, rfl, rfl, ?_⟩
  have hquiet := Builtin.keeps_run args { state := state.enterChild, world := wiring.world }
    wiring.streams.output.writer builtin
  simp only [runBuiltinStage, Transcript.stdout_append]
  rw [hquiet.stdout]
  rfl

theorem shows_runProgramStage (state : ShellState) (wiring : Wiring) {name : String}
    (h : Builtin.ofName? name = none) (args : List String) :
    (runProgramStage state wiring.world wiring.streams (name :: args)).Shows
      wiring.streams.output (wiring.work state (name :: args)) := by
  have hnotes := stdout_prepareProgram wiring.world wiring.streams.output.file?
    state.environment (name :: args)
  simp only [runProgramStage, Wiring.work, h]
  cases hprepare : prepareProgram wiring.world wiring.streams.output.file?
      state.environment (name :: args) with
  | mk prepared notes =>
    rw [hprepare] at hnotes
    cases prepared with
    | error error =>
      refine StageResult.shows_nothing wiring.streams.output rfl rfl ?_
      simp only [StageResult.failed, Transcript.stdout_append, hnotes]
      rfl
    | ok start =>
      refine ⟨rfl, rfl, rfl, ?_⟩
      simp only [Transcript.stdout_append, hnotes]
      rfl

theorem exists_stageRun (state : ShellState) (world : World) (streams : Streams)
    (command : Command) :
    ∃ run : StageRun, run.command = command ∧ run.before = world ∧ run.streams = streams ∧
      run.Acts state ∧
      (runStage state world streams command).Shows run.wiring.streams.output run.work := by
  cases happly : Redirection.applyAll { world, streams } command.redirections with
  | mk wiring opened =>
    cases opened with
    | error error =>
      let work : Work := { termination := .ofStatus error.status, after := wiring.world }
      refine ⟨⟨command, world, streams, wiring, .error error, work⟩, rfl, rfl, rfl,
        ⟨happly, by simp, ?_⟩, ?_⟩
      · rintro _ ⟨rfl⟩
        rfl
      · simp only [runStage, happly]
        exact StageResult.shows_nothing wiring.streams.output rfl rfl rfl
    | ok _ =>
      refine ⟨⟨command, world, streams, wiring, .ok (), wiring.work state command.argv⟩, rfl, rfl,
        rfl, ⟨happly, fun _ => rfl, by simp⟩, ?_⟩
      simp only [runStage, happly]
      cases hargv : command.argv with
      | nil => exact StageResult.shows_nothing wiring.streams.output rfl rfl rfl
      | cons name args =>
        dsimp only
        split
        · exact shows_runBuiltinStage state wiring ‹_› args
        · exact shows_runProgramStage state wiring ‹_› args

/-- Running commands one after the other is a flow, and shows the work of the last of them. -/
theorem exists_flow (state : ShellState) (world : World) (input : Source)
    (commands : List Command) :
    ∃ runs, Flow state world input commands runs ∧ ∀ last, runs.getLast? = some last →
      (runStages state world input commands).termination = some last.work.termination ∧
      (runStages state world input commands).events.stdout = last.handedOn := by
  induction commands generalizing world input with
  | nil => exact ⟨[], ⟨rfl, by simp, by simp, .nil, by simp⟩, by simp⟩
  | cons command rest ih =>
    cases rest with
    | nil =>
      obtain ⟨run, rfl, rfl, hstreams, hacts, hshows⟩ :=
        exists_stageRun state world { input } command
      have hinherited : run.streams.output = .inherited := by rw [hstreams]
      refine ⟨[run], ⟨rfl, by simpa using hacts, ?_, .singleton run, ?_⟩, ?_⟩
      · rintro _ ⟨rfl⟩
        exact ⟨rfl, by rw [hstreams]⟩
      · rintro _ ⟨rfl⟩
        exact hinherited
      · rintro _ ⟨rfl⟩
        refine ⟨congrArg some hshows.termination, ?_⟩
        exact hshows.stdout.trans (hacts.stdout_of_inherited hinherited)
    | cons second rest =>
      obtain ⟨run, rfl, rfl, hstreams, hacts, hshows⟩ :=
        exists_stageRun state world { input, output := .pipe } command
      have hpipe : run.streams.output = .pipe := by rw [hstreams]
      let stage := runStage state run.before { input, output := .pipe } run.command
      obtain ⟨runs, hflow, hlast⟩ := ih stage.world (.bytes stage.piped)
      cases runs with
      | nil => exact absurd hflow.commands (by simp)
      | cons next runs =>
        obtain ⟨hbefore, hsource⟩ := hflow.first next rfl
        have hpiped : stage.piped = run.handedOn := hshows.piped.trans (hacts.piped_eq hpipe)
        rw [hpiped] at hsource
        have hfeeds : run.Feeds next := by
          refine ⟨hbefore.trans hshows.world, hpipe, hsource, fun hnone => ?_⟩
          have hinput := (hflow.acts next List.mem_cons_self).input_eq hnone
          rw [hinput, hsource]
          rfl
        refine ⟨run :: next :: runs, ⟨congrArg _ hflow.commands,
          List.forall_mem_cons.mpr ⟨hacts, hflow.acts⟩, ?_, .cons_cons hfeeds hflow.feeds,
          hflow.last⟩, ?_⟩
        · rintro _ ⟨rfl⟩
          exact ⟨rfl, by rw [hstreams]⟩
        · intro last hmem
          obtain ⟨htermination, hstdout⟩ := hlast last hmem
          refine ⟨htermination, ?_⟩
          have hquiet : stage.events.stdout = [] := hshows.stdout.trans (hacts.stdout_of_pipe hpipe)
          change Transcript.stdout (stage.events ++ _) = _
          rw [Transcript.stdout_append, hquiet, List.nil_append]
          exact hstdout

theorem Session.stdout_spawn (session : Session) (commands : List Command) :
    (session.spawn commands).1.transcript.stdout = session.transcript.stdout ++
      (runStages session.state session.world .inherited commands).events.stdout := by
  have hquiet (termination : Option Termination) :
      (terminationEvents termination).stdout = [] := by
    unfold terminationEvents
    split
    · split
      · rfl
      · split <;> rfl
    · rfl
  unfold spawn
  dsimp only
  rw [transcript_emit, Transcript.stdout_append, Transcript.stdout_append, hquiet, List.append_nil]
  rfl

/-- A command that is a fixed function of its standard input: what it writes and how it ends. -/
structure Filter where
  argv : List String
  effect : Bytes → Bytes × Termination

namespace Filter

def command (filter : Filter) : Command :=
  { argv := filter.argv }

/-- What filters make of bytes, one after the other. -/
def compose (filters : List Filter) (bytes : Bytes) : Bytes :=
  filters.foldl (fun bytes filter => (filter.effect bytes).1) bytes

theorem compose_replicate {copy : Filter} (h : ∀ bytes, (copy.effect bytes).1 = bytes)
    (count : Nat) (bytes : Bytes) : compose (List.replicate count copy) bytes = bytes := by
  induction count generalizing bytes with
  | zero => rfl
  | succ count ih =>
    rw [List.replicate_succ, compose, List.foldl_cons, h]
    exact ih bytes

/-- The shell finds a program that is the filter and does nothing else. -/
structure Installed (filter : Filter) (session : Session) : Prop where
  external : ∀ name args, filter.argv = name :: args → Builtin.ofName? name = none
  starts : ∃ program argv,
    (prepareProgram session.world none session.state.environment filter.argv).1 =
      .ok (program, argv) ∧
    ∀ (invocation : Invocation) (bytes : Bytes), invocation.argv = argv →
      invocation.input = .ok bytes → invocation.inputFile = none →
      invocation.writeError = none →
      let completion := session.world.programs program invocation
      (completion.output, completion.termination) = filter.effect bytes ∧
        completion.files = invocation.files

variable {filter : Filter} {session : Session}

theorem Installed.work_eq (h : filter.Installed session) (bytes : Bytes) (sink : Sink)
    (hsink : sink.isTarget = false) :
    Wiring.work { world := session.world, streams := { input := .bytes bytes, output := sink } }
      session.state filter.argv =
        ⟨(filter.effect bytes).1, (filter.effect bytes).2, session.world⟩ := by
  obtain ⟨program, argv, hstarts, heffect⟩ := h.starts
  have hfile : sink.file? = none := by cases sink <;> simp_all [Sink.isTarget, Sink.file?]
  have hwrite : sink.writeError = none := by
    cases sink <;> simp_all [Sink.isTarget, Sink.writeError]
  have hstore (output : Bytes) (files : FileTree) : sink.store output files = files := by
    cases sink <;> simp_all [Sink.isTarget, Sink.store]
  obtain ⟨hshown, hfiles⟩ := heffect
    (invocation session.world { input := .bytes bytes, output := sink } session.state.environment
      argv) bytes rfl rfl rfl hwrite
  cases hargv : filter.argv with
  | nil =>
    rw [hargv] at hstarts
    cases hstarts
  | cons name args =>
    rw [hargv] at hstarts
    simp only [Wiring.work, h.external name args hargv, hfile, hstarts, hstore, hfiles, ← hshown]
    rfl

theorem Installed.shows (h : filter.Installed session) (bytes : Bytes) (sink : Sink)
    (hsink : sink.isTarget = false) :
    (runStage session.state session.world { input := .bytes bytes, output := sink }
      filter.command).Shows sink
        ⟨(filter.effect bytes).1, (filter.effect bytes).2, session.world⟩ := by
  obtain ⟨run, hcommand, hbefore, hstreams, hacts, hshows⟩ := exists_stageRun session.state
    session.world { input := .bytes bytes, output := sink } filter.command
  have hopens := hacts.opens
  rw [hcommand, hbefore, hstreams] at hopens
  obtain ⟨hwiring, hopened⟩ := Prod.mk.inj hopens
  have hwork := hacts.works hopened.symm
  rw [← hwiring, hcommand] at hwork
  rw [← hwiring, hwork] at hshows
  rw [← h.work_eq bytes sink hsink]
  exact hshows

theorem stdout_runStages {filters : List Filter} (hne : filters ≠ [])
    (h : ∀ filter ∈ filters, filter.Installed session) (bytes : Bytes) :
    (runStages session.state session.world (.bytes bytes)
      (filters.map command)).events.stdout = compose filters bytes := by
  induction filters generalizing bytes with
  | nil => exact absurd rfl hne
  | cons filter rest ih =>
    obtain ⟨hfilter, hrest⟩ := List.forall_mem_cons.mp h
    cases rest with
    | nil =>
      have hshows := hfilter.shows bytes .inherited rfl
      exact hshows.stdout.trans (List.append_nil _)
    | cons second rest =>
      have hshows := hfilter.shows bytes .pipe rfl
      have hothers := ih (List.cons_ne_nil second rest) hrest (filter.effect bytes).1
      change Transcript.stdout (StageResult.events _ ++ PipelineResult.events _) = _
      rw [Transcript.stdout_append, hshows.stdout]
      change Transcript.stdout (runStages session.state _ _ _).events = _
      rw [hshows.world, hshows.piped]
      exact hothers

end Filter

theorem Toolbox.cat_of_pipe {invocation : Invocation} {bytes : Bytes} {name : String}
    (hargv : invocation.argv = [name]) (hinput : invocation.input = .ok bytes)
    (hfile : invocation.inputFile = none) (hwrite : invocation.writeError = none) :
    cat invocation =
      { output := bytes, files := invocation.files, consumed := bytes.length } := by
  simp [cat, arguments, hargv, Copying.copyAll, Copying.copyInput, hinput, inputBytes,
    Copying.copiesItself, hfile, Copying.write, hwrite]

namespace Session

theorem shows_builtin (session : Session) (builtin : Builtin) (args : List String) :
    let run := builtin.run args session {}
    (runStage session.state session.world { output := .pipe }
      { argv := builtin.name :: args }).Shows .pipe
        ⟨run.writer.accepted, .ofStatus run.status, session.world⟩ := by
  have hmatches : session.Matches { state := session.state.enterChild, world := session.world } :=
    ⟨rfl, rfl, rfl, rfl, fun _ => rfl⟩
  obtain ⟨hwriter, hstatus⟩ := Builtin.run_eq_of_matches args {} hmatches builtin
  have hshows := shows_runBuiltinStage session.state
    { world := session.world, streams := { output := .pipe } } builtin.ofName?_name args
  simp only [runStage, Redirection.applyAll, Builtin.ofName?_name]
  rw [← hwriter, ← hstatus]
  simp only [Wiring.work, Builtin.ofName?_name] at hshows
  exact hshows

/-- A builtin and filters behind it write what the filters make of the builtin's output. -/
theorem stdout_builtin_filters (session : Session) (builtin : Builtin) (args : List String)
    (filters : List Filter) (h : ∀ filter ∈ filters, filter.Installed session) :
    let commands : List Command := { argv := builtin.name :: args } :: filters.map Filter.command
    (session.runPipeline { commands }).1.transcript.stdout =
      session.transcript.stdout ++
        Filter.compose filters (builtin.run args session {}).writer.accepted := by
  intro commands
  cases filters with
  | nil =>
    rw [session.runPipeline_of_builtin rfl rfl rfl]
    exact session.stdout_runBuiltin builtin args
  | cons filter rest =>
    have hshows := session.shows_builtin builtin args
    have hothers := Filter.stdout_runStages (List.cons_ne_nil filter rest) h
      (builtin.run args session {}).writer.accepted
    change (session.spawn commands).1.transcript.stdout = _
    rw [stdout_spawn]
    change _ ++ Transcript.stdout (StageResult.events _ ++ PipelineResult.events _) = _
    rw [Transcript.stdout_append, hshows.stdout]
    change _ ++ Transcript.stdout (runStages session.state _ _ _).events = _
    rw [hshows.world, hshows.piped]
    exact congrArg _ hothers

theorem runPipeline_of_two (session : Session) {pipeline : Pipeline}
    (h : 2 ≤ pipeline.commands.length) :
    session.runPipeline pipeline = session.spawn pipeline.commands := by
  unfold runPipeline
  split
  · rename_i hcommands
    simp [hcommands] at h
  · rename_i hcommands
    simp [hcommands] at h
  · rfl

/-- A pipeline hands on what its commands write, shows what the last of them writes and reports how
that one ended, unless a signal above 31 ended it; so filters behind a builtin compose, and those
that copy change nothing. -/
theorem runPipeline_flows (session : Session) :
    (∀ pipeline : Pipeline, 2 ≤ pipeline.commands.length →
      ∃ runs, Flow session.state session.world .inherited pipeline.commands runs ∧
        ∀ last, runs.getLast? = some last →
          (session.runPipeline pipeline).1.transcript.stdout =
            session.transcript.stdout ++ last.handedOn ∧
          (∀ code, last.work.termination = .exited code →
            (session.runPipeline pipeline).2 = code.toNat) ∧
          ∀ signal, last.work.termination = .killed signal →
            (signal.number ≤ 31 → (session.runPipeline pipeline).2 = 128 + signal.number) ∧
            (31 < signal.number → (session.runPipeline pipeline).2 = 1)) ∧
    (∀ (builtin : Builtin) (args : List String), ∃ bytes,
      (session.runPipeline
        { commands := [{ argv := builtin.name :: args }] }).1.transcript.stdout =
          session.transcript.stdout ++ bytes ∧
      ∀ filters : List Filter, (∀ filter ∈ filters, filter.Installed session) →
        (session.runPipeline
          { commands := { argv := builtin.name :: args } ::
              filters.map Filter.command }).1.transcript.stdout =
            session.transcript.stdout ++ Filter.compose filters bytes) ∧
    ∀ (args : List String) (count : Nat) (cat : Filter),
      (∀ bytes, (cat.effect bytes).1 = bytes) → cat.Installed session →
      (session.runPipeline
        { commands := { argv := "echo" :: args } ::
            List.replicate count cat.command }).1.transcript.stdout =
        (session.runPipeline { commands := [{ argv := "echo" :: args }] }).1.transcript.stdout := by
  refine ⟨fun pipeline htwo => ?_, fun builtin args => ?_, fun args count cat hcopies hcat => ?_⟩
  · obtain ⟨runs, hflow, hlast⟩ :=
      exists_flow session.state session.world .inherited pipeline.commands
    rw [session.runPipeline_of_two htwo, stdout_spawn]
    refine ⟨runs, hflow, fun last hmem => ?_⟩
    obtain ⟨htermination, hstdout⟩ := hlast last hmem
    have hstatus : (session.spawn pipeline.commands).2 = last.work.termination.status := by
      unfold spawn
      dsimp only
      rw [htermination]
      rfl
    refine ⟨congrArg _ hstdout, fun code hcode => ?_, fun signal hsignal => ?_⟩
    · rw [hstatus, hcode]
      rfl
    · rw [hstatus, hsignal, Termination.status, Signal.isKnown]
      refine ⟨fun hknown => ?_, fun hunknown => ?_⟩
      · rw [decide_eq_true hknown, if_pos rfl]
      · rw [decide_eq_false (Nat.not_le.mpr hunknown), if_neg Bool.false_ne_true]
  · exact ⟨_, session.stdout_builtin_filters builtin args [] (by simp),
      fun filters h => session.stdout_builtin_filters builtin args filters h⟩
  · have hcats := session.stdout_builtin_filters .echo args (List.replicate count cat)
      (fun filter hmem => List.eq_of_mem_replicate hmem ▸ hcat)
    have hsingle := session.stdout_builtin_filters .echo args [] (by simp)
    rw [Filter.compose_replicate hcopies, List.map_replicate] at hcats
    exact hcats.trans hsingle.symm

theorem runPipeline_flows_cats :
    let session : Session :=
      { state := { environment := (default : Environment).set "PATH" "/bin" }
        world := { programs := Toolbox.standard, files := Toolbox.standardTree } }
    let cat : Filter := { argv := ["cat"], effect := fun bytes => (bytes, .exited 0) }
    let silent : Command :=
      { argv := ["echo", "a"], redirections := [{ op := .output, target := "/dev/null" }] }
    (2 ≤ [silent, cat.command].length ∧
      ∃ runs, Flow session.state session.world .inherited [silent, cat.command] runs) ∧
    cat.Installed session ∧
      (session.runPipeline { commands := [{ argv := ["echo", "a", "b"] }, cat.command,
        cat.command, cat.command] }).1.transcript.stdout =
      (session.runPipeline { commands := [{ argv := ["echo", "a", "b"] }] }).1.transcript.stdout := by
  intro session cat silent
  obtain ⟨hflows, -, hcats⟩ := session.runPipeline_flows
  have hstart : (prepareProgram session.world none session.state.environment cat.argv).1 =
      .ok ("cat", ["cat"]) := by
    decide
  have hcat : cat.Installed session := by
    refine ⟨?_, "cat", ["cat"], hstart, fun invocation bytes hargv hinput hfile hwrite => ?_⟩
    · rintro _ _ ⟨rfl, rfl⟩
      decide
    · have hrun := Toolbox.cat_of_pipe hargv hinput hfile hwrite
      have hprogram : session.world.programs "cat" invocation = Toolbox.cat invocation := rfl
      rw [hprogram, hrun]
      exact ⟨rfl, rfl⟩
  obtain ⟨runs, hflow, -⟩ := hflows { commands := [silent, cat.command] } (by decide)
  exact ⟨⟨by decide, runs, hflow⟩, hcat, hcats ["a", "b"] 3 cat (fun _ => rfl) hcat⟩

/-- The last command ends by signal 34, and the status is not 162. -/
theorem runPipeline_hides_realtime_signal :
    let signal : Signal := { number := 34 }
    let session : Session :=
      { state := {}
        world :=
          { programs := fun _ invocation =>
              { files := invocation.files, termination := .killed signal }
            files := { nodes := [(["a"], .program "a")] } } }
    let commands : List Command := [{ argv := ["echo"] }, { argv := ["/a"] }]
    (runStages session.state session.world .inherited commands).termination =
        some (.killed signal) ∧
      (session.runPipeline { commands }).2 = 1 := by
  decide +kernel

end Session

end CommandShell
