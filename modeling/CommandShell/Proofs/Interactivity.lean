import CommandShell.Proofs.HistoryPlace
import CommandShell.Proofs.LineRecord
import CommandShell.Proofs.Modes

/-!
# Interactive and silent shells

The mode of a shell decides on its prompts, on whether it takes leave and on whether it saves its
history. Two shells that differ in their mode only read the same lines and run them to the same
effect; on standard error the interactive one takes leave where an `exit` runs or the input ends.
-/

namespace CommandShell

/-- Two sources that differ in the texts of the prompts only. -/
structure LineSource.Alike (first second : LineSource) : Prop where
  arrivals : first.arrivals = second.arrivals
  asked : first.asked.length = second.asked.length
  handed : first.handed = second.handed

namespace LineSource.Alike

variable {first second : LineSource}

theorem ask (h : first.Alike second) (rest : List Arrival) (count : Nat)
    (prompt other : String) :
    ({ first with arrivals := rest }.ask count prompt).Alike
      ({ second with arrivals := rest }.ask count other) := by
  refine ⟨rfl, ?_, h.handed⟩
  simp [LineSource.ask, h.asked]

theorem readLogical (h : first.Alike second) (theme other : Theme) :
    (first.readLogical theme).result = (second.readLogical other).result ∧
      (first.readLogical theme).notes = (second.readLogical other).notes ∧
      (first.readLogical theme).source.Alike (second.readLogical other).source := by
  obtain ⟨arrivals, asked, handed⟩ := first
  obtain ⟨arrivals', asked', handed'⟩ := second
  obtain rfl : arrivals = arrivals' := h.arrivals
  cases arrivals with
  | nil => exact ⟨rfl, rfl, h.ask [] 1 theme.prompt other.prompt⟩
  | cons arrival rest =>
    have hfirst := h.ask rest 1 theme.prompt other.prompt
    cases arrival with
    | line text =>
      let joined := joinArrivals (Quoting.bare.after text.toList) text.toList.reverse rest
      exact ⟨rfl, rfl, hfirst.ask joined.rest joined.asked theme.continuation other.continuation⟩
    | interrupt => exact ⟨rfl, rfl, hfirst⟩
    | endOfInput => exact ⟨rfl, rfl, hfirst⟩
    | failure cause => exact ⟨rfl, rfl, hfirst⟩

end LineSource.Alike

namespace Collection

structure Alike (first second : Collection) : Prop where
  source : first.source.Alike second.source
  interrupted : first.interrupted = second.interrupted
  notes : first.notes = second.notes

def Matching {α : Type} (fill other : Collection → α → Collection × α) : Prop :=
  ∀ first second a, Alike first second →
    (fill first a).1.Alike (other second a).1 ∧ (fill first a).2 = (other second a).2

theorem matching_fill (prompt other : String) : Matching (fill prompt) (fill other) := by
  intro first second redirection h
  unfold fill
  rw [h.interrupted]
  split
  · exact ⟨h, rfl⟩
  · dsimp only
    rw [h.source.arrivals, h.notes]
    have hsource := h.source.ask (readBody redirection.target second.source.arrivals).rest
      (readBody redirection.target second.source.arrivals).asked prompt other
    split
    · exact ⟨⟨hsource, rfl, rfl⟩, rfl⟩
    · exact ⟨⟨hsource, rfl, rfl⟩, rfl⟩

theorem Matching.mapWithState {α : Type} {fill other : Collection → α → Collection × α}
    (hfill : Matching fill other) :
    Matching (CommandShell.mapWithState fill) (CommandShell.mapWithState other) := by
  intro first second list h
  induction list generalizing first second with
  | nil => exact ⟨h, rfl⟩
  | cons a rest ih =>
    obtain ⟨hhead, hfilled⟩ := hfill first second a h
    obtain ⟨htail, hrest⟩ := ih _ _ hhead
    refine ⟨htail, ?_⟩
    rw [CommandShell.mapWithState, CommandShell.mapWithState, hfilled, hrest]

theorem matching_fillCommand (prompt other : String) :
    Matching (fillCommand prompt) (fillCommand other) := by
  intro first second command h
  obtain ⟨halike, hfilled⟩ :=
    (matching_fill prompt other).mapWithState first second command.redirections h
  refine ⟨halike, ?_⟩
  rw [fillCommand, fillCommand, hfilled]

theorem matching_fillPipeline (prompt other : String) :
    Matching (fillPipeline prompt) (fillPipeline other) := by
  intro first second pipeline h
  obtain ⟨halike, hfilled⟩ :=
    (matching_fillCommand prompt other).mapWithState first second pipeline.commands h
  refine ⟨halike, ?_⟩
  rw [fillPipeline, fillPipeline, hfilled]

end Collection

theorem LineSource.Alike.collectHereDocs {first second : LineSource} (h : first.Alike second)
    (prompt other : String) (list : CommandList) :
    (collectHereDocs prompt first list).1.Alike (collectHereDocs other second list).1 ∧
      (collectHereDocs prompt first list).2 = (collectHereDocs other second list).2 :=
  (Collection.matching_fillPipeline prompt other).mapWithState _ _ list ⟨h, rfl, rfl⟩

theorem stderr_notes_joinArrivals (quoting : Quoting) (chars : List Char)
    (arrivals : List Arrival) : (joinArrivals quoting chars arrivals).notes.stderr = [] := by
  fun_induction joinArrivals quoting chars arrivals with
  | case3 _ _ _ _ _ _ ih | case8 _ _ _ _ _ ih => exact ih
  | _ => rfl

theorem LineSource.stderr_notes_readLogical (source : LineSource) (theme : Theme) :
    (source.readLogical theme).notes.stderr = [] := by
  obtain ⟨arrivals, asked, handed⟩ := source
  cases arrivals with
  | nil => rfl
  | cons arrival rest =>
    cases arrival with
    | line text => exact stderr_notes_joinArrivals _ _ rest
    | interrupt => rfl
    | endOfInput => rfl
    | failure cause => rfl

namespace Shell

theorem stderr_parseNotes (line : String) : (parseNotes line).stderr = [] := by
  unfold parseNotes
  dsimp only
  split <;> rfl

/-- What a list of pipelines writes to standard error: reports on its here-documents come first. -/
def listStretches (shell : Shell) (list : CommandList) : List Stretch :=
  let collected := collectHereDocs shell.theme.hereDoc shell.source list
  { errors := collected.1.notes.stderr } ::
    if collected.1.interrupted then [] else shell.session.stretches collected.2

theorem listStretches_log (shell : Shell) (level : LogLevel) (message : String)
    (list : CommandList) :
    (shell.log level message).listStretches list = shell.listStretches list := by
  unfold listStretches log Session.log
  dsimp only
  rw [Session.stretches_emit]

def lineStretches (shell : Shell) (line : String) : List Stretch :=
  if Text.isBlank line then []
  else
    match parseLine line with
    | .error error => [{ errors := error.report.stderr }]
    | .ok list => (shell.afterParse line).listStretches list

def turnStretches (shell : Shell) : List Stretch :=
  if shell.session.state.shouldExit then []
  else
    match (shell.source.readLogical shell.theme).result with
    | .ok (.line line) => shell.afterRead.lineStretches line
    | .ok .interrupted => []
    | .ok .endOfInput => [{ leaves := true, errors := [] }]
    | .error error => [{ errors := error.report.stderr }]

/-- What the next turns write to standard error. -/
def stretches : Nat → Shell → List Stretch
  | 0, _ => []
  | limit + 1, shell =>
    shell.turnStretches ++
      match shell.turn with
      | .again next => stretches limit next
      | .finished _ => []

/-- An interactive shell and a silent one that have done the same. -/
structure Mirrors (said : List Stretch) (loud quiet : Shell) : Prop where
  session : Session.Mirrors said loud.session quiet.session
  source : loud.source.Alike quiet.source

namespace Mirrors

variable {said : List Stretch} {loud quiet : Shell}

theorem fail (h : Mirrors said loud quiet) (error : ShellError) :
    Mirrors (said ++ [{ errors := error.report.stderr }]) (loud.fail error) (quiet.fail error) :=
  ⟨(h.session.emit error.report).setStatus error.status, h.source⟩

theorem remember (h : Mirrors said loud quiet) (line : String) :
    Mirrors said (loud.remember line) (quiet.remember line) := by
  have hhistory : loud.session.state.history = quiet.session.state.history := by
    rw [h.session.state]
  unfold Shell.remember
  dsimp only
  rw [hhistory]
  split
  · refine ⟨⟨h.session.mode, ?_, h.session.world, h.session.stdout, h.session.errors,
      h.session.aloud⟩, h.source.arrivals, h.source.asked, ?_⟩
    · rw [h.session.state]
    · rw [LineSource.addRecall, LineSource.addRecall, h.source.handed]
  · exact h

theorem afterParse (h : Mirrors said loud quiet) (line : String) :
    Mirrors said (loud.afterParse line) (quiet.afterParse line) :=
  ⟨(h.remember line).session.emit_silent (stderr_parseNotes line), (h.remember line).source⟩

theorem afterRead (h : Mirrors said loud quiet) :
    Mirrors said loud.afterRead quiet.afterRead := by
  obtain ⟨-, hnotes, hsource⟩ := h.source.readLogical loud.theme quiet.theme
  refine ⟨?_, hsource⟩
  dsimp only [Shell.afterRead]
  rw [hnotes]
  exact h.session.emit_silent (quiet.source.stderr_notes_readLogical quiet.theme)

theorem execute (h : Mirrors said loud quiet) (list : CommandList) :
    let heard := loud.session.execute loud.source loud.theme.hereDoc list
    let unheard := quiet.session.execute quiet.source quiet.theme.hereDoc list
    Mirrors (said ++ quiet.listStretches list)
      { loud with session := heard.1, source := heard.2 }
      { quiet with session := unheard.1, source := unheard.2 } := by
  obtain ⟨halike, hlist⟩ :=
    h.source.collectHereDocs loud.theme.hereDoc quiet.theme.hereDoc list
  have hnoted := h.session.emit (collectHereDocs quiet.theme.hereDoc quiet.source list).1.notes
  dsimp only
  rw [execute_eq, execute_eq, listStretches]
  dsimp only
  rw [halike.interrupted, halike.notes, hlist]
  split
  · refine ⟨?_, halike.source⟩
    exact (hnoted.emit_silent rfl).setStatus interruptedStatus
  · refine ⟨?_, halike.source⟩
    have hran := hnoted.runList (collectHereDocs quiet.theme.hereDoc quiet.source list).2
    rw [Session.stretches_emit, List.append_assoc] at hran
    exact hran

theorem takeSignals (h : Mirrors said loud quiet) :
    Mirrors said loud.takeSignals quiet.takeSignals := by
  have hsilent (shell : Shell) : shell.takeSignals.session.AgreesWith shell.session := by
    unfold Shell.takeSignals
    dsimp only
    split
    · exact shell.session.agreesWith_log _ _
    · exact .refl _
  exact ⟨h.session.of_agrees (hsilent loud) (hsilent quiet), h.source⟩

theorem runLine (h : Mirrors said loud quiet) (line : String) :
    Mirrors (said ++ quiet.lineStretches line) (loud.runLine line) (quiet.runLine line) := by
  by_cases hblank : Text.isBlank line = true
  · rw [loud.runLine_of_blank hblank, quiet.runLine_of_blank hblank, lineStretches, if_pos hblank,
      List.append_nil]
    exact h
  rw [lineStretches, if_neg hblank]
  have hparsed := h.afterParse line
  cases hparse : parseLine line with
  | error error =>
    rw [loud.runLine_of_error hblank hparse, quiet.runLine_of_error hblank hparse]
    exact hparsed.fail error
  | ok list =>
    rw [loud.runLine_of_ok hblank hparse, quiet.runLine_of_ok hblank hparse]
    have htold : Mirrors said
        ((loud.afterParse line).log .debug ("解析结果: " ++ CommandList.shown list))
        ((quiet.afterParse line).log .debug ("解析结果: " ++ CommandList.shown list)) :=
      ⟨hparsed.session.emit_silent rfl, hparsed.source⟩
    have hran := htold.execute list
    rw [listStretches_log] at hran
    exact hran.takeSignals

theorem farewell (h : Mirrors said loud quiet) :
    Mirrors (said ++ [{ leaves := true, errors := [] }]) loud.farewell quiet.farewell := by
  have hloud : (loud.log .debug "接收到 EOF，退出").session.state.interactive = true := by
    change loud.session.state.interactive = true
    rw [h.session.state]
  have hquiet : (quiet.log .debug "接收到 EOF，退出").session.state.interactive = false :=
    h.session.mode
  refine ⟨?_, h.source⟩
  dsimp only [Shell.farewell]
  rw [hloud, hquiet]
  exact (h.session.emit_silent rfl).takeLeave

end Mirrors

end Shell

/-- Turns of two shells that have done the same. -/
inductive Turn.Mirrors (said : List Stretch) : Turn → Turn → Prop
  | again {loud quiet : Shell} : Shell.Mirrors said loud quiet →
      Mirrors said (.again loud) (.again quiet)
  | finished {loud quiet : Shell} : Shell.Mirrors said loud quiet →
      Mirrors said (.finished loud) (.finished quiet)

namespace Shell.Mirrors

variable {said : List Stretch} {loud quiet : Shell}

theorem turn (h : Mirrors said loud quiet) :
    Turn.Mirrors (said ++ quiet.turnStretches) loud.turn quiet.turn := by
  have hexits : loud.session.state.shouldExit = quiet.session.state.shouldExit := by
    rw [h.session.state]
  by_cases hexit : quiet.session.state.shouldExit = true
  · rw [turn_of_shouldExit (hexits.trans hexit), turn_of_shouldExit hexit, turnStretches,
      if_pos hexit, List.append_nil]
    exact .finished h
  rw [turn_of_not_shouldExit (hexits ▸ hexit), turn_of_not_shouldExit hexit, turnStretches,
    if_neg hexit, (h.source.readLogical loud.theme quiet.theme).1]
  have hread := h.afterRead
  match (quiet.source.readLogical quiet.theme).result with
  | .ok (.line line) => exact .again (hread.runLine line)
  | .ok .interrupted =>
    rw [List.append_nil]
    exact .again ⟨(hread.session.emit_silent rfl).setStatus interruptedStatus, hread.source⟩
  | .ok .endOfInput => exact .finished hread.farewell
  | .error error => exact .again (hread.fail error)

theorem turns (h : Mirrors said loud quiet) (limit : Nat) :
    Turn.Mirrors (said ++ stretches limit quiet) (turns limit loud) (turns limit quiet) := by
  induction limit generalizing said loud quiet with
  | zero =>
    rw [stretches, List.append_nil]
    exact .again h
  | succ limit ih =>
    have hturn := h.turn
    rw [stretches, Shell.turns, Shell.turns, ← List.append_assoc]
    generalize loud.turn = heard, quiet.turn = unheard at hturn ⊢
    cases hturn with
    | again hnext => exact ih hnext
    | finished hdone =>
      rw [List.append_nil]
      exact .finished hdone

theorem loop (h : Mirrors said loud quiet) :
    Mirrors (said ++ stretches (quiet.source.arrivals.length + 1) quiet) loud.loop quiet.loop := by
  have hturns := h.turns (quiet.source.arrivals.length + 1)
  rw [Shell.loop, Shell.loop, h.source.arrivals]
  generalize Shell.turns _ loud = heard, Shell.turns _ quiet = unheard at hturns ⊢
  cases hturns with
  | again hnext => exact hnext
  | finished hdone => exact hdone

end Shell.Mirrors

theorem ShellState.invariant_historyPath (path : Option String) :
    ShellState.Invariant fun state => state.history.path = path where
  builtin builtin args session h := by
    rw [← h, ← (Builtin.keeps_run args session {} builtin).history]
  ended _ _ h := h
  interrupted _ h := h
  failed _ _ h := h
  recorded state line h := by
    rw [← h, History.record]
    split <;> rfl

namespace Shell

theorem listStretches_within (shell : Shell) (list : CommandList) (written : List Event) :
    (shell.within { written }).listStretches list = shell.listStretches list := by
  have hcollect := @collectHereDocs_within { written } shell.theme.hereDoc shell.source list
    (.inl rfl)
  unfold listStretches
  dsimp only [within]
  rw [hcollect]
  dsimp only [Collection.within]
  rw [Session.stretches_precededBy]
  rfl

theorem lineStretches_within (shell : Shell) (line : String) (written : List Event) :
    (shell.within { written }).lineStretches line = shell.lineStretches line := by
  unfold lineStretches
  split
  · rfl
  · split
    · rfl
    · rw [afterParse_within, listStretches_within]

theorem turnStretches_within (shell : Shell) (written : List Event) :
    (shell.within { written }).turnStretches = shell.turnStretches := by
  have hread := @LineSource.readLogical_within shell.source { written } shell.theme (.inl rfl)
  have hresult : ((shell.within { written }).source.readLogical
      (shell.within { written }).theme).result = (shell.source.readLogical shell.theme).result := by
    dsimp only [within]
    rw [hread]
  have hstate : (shell.within { written }).session.state = shell.session.state := rfl
  unfold turnStretches
  rw [hstate, hresult, afterRead_within (.inl rfl)]
  split
  · rfl
  · split
    · exact lineStretches_within _ _ written
    · rfl
    · rfl
    · rfl

theorem stretches_within (limit : Nat) (shell : Shell) (written : List Event) :
    stretches limit (shell.within { written }) = stretches limit shell := by
  induction limit generalizing shell with
  | zero => rfl
  | succ limit ih =>
    rw [stretches, stretches, turnStretches_within, turn_within (.inl rfl)]
    cases shell.turn with
    | again next => exact congrArg _ (ih next)
    | finished done => rfl

theorem stretches_emit (limit : Nat) (shell : Shell) (events : Transcript) :
    stretches limit { shell with session := shell.session.emit events } = stretches limit shell :=
  apply_emit_of_within (stretches_within limit) shell events

/-- A shell that has saved its history: but for the log, only files on the way to it changed. -/
structure Saves (before after : Shell) : Prop where
  state : after.session.state = before.session.state
  source : after.source = before.source
  stdout : after.session.transcript.stdout = before.session.transcript.stdout
  stderr : after.session.transcript.stderr = before.session.transcript.stderr
  world : World.ChangesOnly (before.session.state.history.places before.session.world.directory)
    before.session.world after.session.world

theorem Saves.log {before after : Shell} (h : before.Saves after) (level : LogLevel)
    (message : String) : before.Saves (after.log level message) := by
  have hagrees := after.session.agreesWith_log level message
  exact ⟨h.state, h.source, hagrees.stdout.trans h.stdout, hagrees.stderr.trans h.stderr, h.world⟩

theorem saves_saveHistory (shell : Shell) : shell.Saves shell.saveHistory := by
  have hsave := shell.session.state.history.changesOnly_save shell.session.world
  unfold saveHistory
  dsimp only
  split
  · exact ⟨rfl, rfl, rfl, rfl, .refl _ _⟩
  · let world := (shell.session.state.history.save shell.session.world).1
    have hsaved : shell.Saves { shell with session := { shell.session with world } } :=
      ⟨rfl, rfl, rfl, rfl, hsave⟩
    split
    · exact hsaved.log _ _
    · exact hsaved
    · exact hsaved.log _ _

namespace Mirrors

variable {said : List Stretch} {loud quiet : Shell}

theorem log_loud (h : Mirrors said loud quiet) (level : LogLevel) (message : String) :
    Mirrors said (loud.log level message) quiet :=
  ⟨h.session.of_agrees (Session.agreesWith_log ..) (.refl _), h.source⟩

theorem log_quiet (h : Mirrors said loud quiet) (level : LogLevel) (message : String) :
    Mirrors said loud (quiet.log level message) :=
  ⟨h.session.of_agrees (.refl _) (Session.agreesWith_log ..), h.source⟩

/-- At its end an interactive shell has saved its history, and else done what a silent one has. -/
theorem run (h : Mirrors said loud quiet) :
    ∃ unsaved, Mirrors (said ++ stretches (quiet.source.arrivals.length + 1) quiet) unsaved
      quiet.run ∧ unsaved.Saves loud.run := by
  have hmode : loud.session.state.interactive = true := by rw [h.session.state]
  rw [Shell.run, Shell.run, runWith_eq, runWith_eq, opening, opening, hmode, h.session.mode,
    if_pos rfl, if_neg Bool.false_ne_true]
  generalize "初始化 minishell (交互模式: " ++ showBool true ++ ")" = message
  generalize "初始化 minishell (交互模式: " ++ showBool false ++ ")" = other
  have htold := ((h.log_loud .debug message).log_loud .debug "信号处理器已安装").log_quiet .debug other
  have hloop := htold.loop
  refine ⟨_, ?_, (saves_saveHistory _).log _ _⟩
  change Mirrors _ _ ((quiet.log .debug other).loop.conclude)
  rw [conclude_of_silent hloop.session.mode]
  have hstretches := stretches_emit (quiet.source.arrivals.length + 1) quiet [.log .debug other]
  rw [← hstretches]
  exact hloop.log_quiet _ _

end Mirrors

theorem mirrors_start (theme : Theme) (source : LineSource) (session : Session) :
    Mirrors [{ errors := session.transcript.stderr }] (start theme source (session.inMode true))
      (start theme source (session.inMode false)) := by
  refine ⟨⟨rfl, rfl, rfl, rfl, ?_, ?_⟩, rfl, rfl, rfl⟩
  · simp [start]
    rfl
  · simp [start, Stretch.aloud]
    rfl

/-- The mode of a shell makes no difference to what its commands do. Interactive and silent runs
differ in the files of the history, and on standard error in the leave that the interactive shell
takes where an `exit` of its own runs or the input ends. -/
theorem interactivity_shows_in_farewells (theme : Theme) (source : LineSource)
    (session : Session) :
    let loud := (start theme source (session.inMode true)).run
    let quiet := (start theme source (session.inMode false)).run
    let said := stretches (source.arrivals.length + 1) (start theme source (session.inMode false))
    loud.status = quiet.status ∧
    loud.session.transcript.stdout = quiet.session.transcript.stdout ∧
    loud.session.state.environment = quiet.session.state.environment ∧
    loud.session.world.directory = quiet.session.world.directory ∧
    loud.session.state.history.entries = quiet.session.state.history.entries ∧
    loud.source.arrivals = quiet.source.arrivals ∧
    loud.source.prompts.length = quiet.source.prompts.length ∧
    (∀ path ∉ session.state.history.places quiet.session.world.directory,
      loud.session.world.files.get? path = quiet.session.world.files.get? path) ∧
    quiet.session.transcript.stderr =
      session.transcript.stderr ++ said.flatMap Stretch.errors ∧
    loud.session.transcript.stderr =
      session.transcript.stderr ++ said.flatMap Stretch.aloud := by
  intro loud quiet said
  obtain ⟨unsaved, hmirrors, hsaves⟩ := (mirrors_start theme source session).run
  rw [arrivals_start] at hmirrors
  have hstate : loud.session.state = { quiet.session.state with interactive := true } :=
    hsaves.state.trans hmirrors.session.state
  have hsource : loud.source.Alike quiet.source := hsaves.source ▸ hmirrors.source
  have hworld := hsaves.world
  rw [hmirrors.session.world] at hworld
  have hplaces : unsaved.session.state.history.places quiet.session.world.directory =
      session.state.history.places quiet.session.world.directory := by
    have hpath : quiet.session.state.history.path = session.state.history.path :=
      (ShellState.invariant_historyPath _).run (start theme source (session.inMode false)) rfl
    rw [hmirrors.session.state, History.places, History.places, hpath]
  refine ⟨?_, ?_, ?_, ?_, ?_, hsource.arrivals, ?_, ?_, ?_, ?_⟩
  · rw [status, status, hstate]
  · exact hsaves.stdout.trans hmirrors.session.stdout
  · rw [hstate]
  · exact hworld.directory
  · rw [hstate]
  · rw [LineSource.prompts, LineSource.prompts, List.length_reverse, List.length_reverse,
      hsource.asked]
  · intro path hpath
    exact hworld.files path (hplaces ▸ hpath)
  · exact hmirrors.session.errors
  · exact hsaves.stderr.trans hmirrors.session.aloud

/-- An `exit` in a pipeline, one with too many arguments and the end of input: leave is taken of the
last two, and a file beside the history stays as it is. -/
theorem interactivity_shows_in_farewells_of_exits :
    let session : Session :=
      { state := { history := { path := some "/d/h" } }
        world :=
          { programs := fun _ invocation => { files := invocation.files }
            files := { nodes := [(["d"], .directory), (["d", "g"], .file [] false)] } } }
    let source : LineSource := { arrivals := [.line "exit | exit", .line "exit 1 2"] }
    let loud := (start .plain source (session.inMode true)).run
    let quiet := (start .plain source (session.inMode false)).run
    let complaint := Bytes.ofText "minishell: exit: too many arguments\n"
    ["d", "g"] ∉ session.state.history.places quiet.session.world.directory ∧
    loud.session.world.files.get? ["d", "g"] = quiet.session.world.files.get? ["d", "g"] ∧
    loud.session.world.files.get? ["d", "h"] ≠ quiet.session.world.files.get? ["d", "h"] ∧
    quiet.session.transcript.stderr = complaint ∧
    loud.session.transcript.stderr =
      Bytes.ofText "exit\n" ++ complaint ++ Bytes.ofText "exit\n" := by
  intro session source loud quiet complaint
  obtain ⟨-, -, -, -, -, -, -, hfiles, hquiet, hloud⟩ :=
    interactivity_shows_in_farewells .plain source session
  have hbeside : ["d", "g"] ∉ session.state.history.places quiet.session.world.directory := by
    decide +kernel
  refine ⟨hbeside, hfiles _ hbeside, by decide +kernel, ?_, ?_⟩
  · rw [hquiet]
    decide +kernel
  · rw [hloud]
    decide +kernel

end Shell

end CommandShell
