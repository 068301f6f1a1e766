import CommandShell.Proofs.ScriptConcatenation
import CommandShell.Proofs.ShortCircuit

/-!
# Interactive and silent sessions

Two sessions that differ in their mode stay together whatever line they run. Of all that can run,
only an `exit` that the shell runs itself looks at the mode, and all it does with it is to take
leave on standard error.
-/

namespace CommandShell

def farewellLine : Event :=
  .diagnostic (Bytes.ofText "exit\n")

namespace Session

def inMode (session : Session) (interactive : Bool) : Session :=
  { session with state := { session.state with interactive } }

def fresh (session : Session) : Session :=
  { session with recent := [] }

theorem frame_inMode (interactive : Bool) : Frame (·.inMode interactive) id where
  child _ := rfl
  shouldExit _ := rfl
  world _ := rfl
  emit _ _ := rfl
  setStatus _ _ := rfl
  setEnvironment _ _ := rfl
  leave _ := rfl
  move _ _ := rfl
  current _ := rfl
  enter := changeDirectory_id

theorem precededBy_fresh (session : Session) :
    session.fresh.precededBy session.recent = session := by
  simp [fresh, precededBy]

end Session

namespace Builtin

/-- An interactive `exit` takes leave and then does what a silent one does. -/
theorem exitWith_aloud (args : List String) (session : Session) (writer : Writer)
    (hmode : session.state.interactive = false) :
    exitWith args (session.inMode true) writer =
      (exitWith args (session.emit [farewellLine]) writer).under (·.inMode true) := by
  apply exitWith_under (Session.frame_inMode true)
  have hquiet : (session.emit [farewellLine]).state.interactive = false := hmode
  rw [hquiet]
  rfl

theorem exists_status_exitWith (args : List String) (session : Session) (writer : Writer) :
    ∃ status, (exitWith args session writer).result = .ok status := by
  unfold exitWith
  dsimp only
  split
  · exact ⟨_, rfl⟩
  · split
    · exact ⟨_, rfl⟩
    · split
      · exact ⟨_, rfl⟩
      · exact ⟨_, rfl⟩

theorem run_exit_aloud (args : List String) (session : Session) (writer : Writer)
    (hmode : session.state.interactive = false) :
    let quiet := Builtin.exit.run args session writer
    let loud := Builtin.exit.run args (session.inMode true) writer
    loud.writer = quiet.writer ∧ loud.status = quiet.status ∧
      loud.session.state = { quiet.session.state with interactive := true } ∧
      loud.session.world = quiet.session.world ∧
      ∃ message written,
        quiet.session.transcript = session.transcript ++ [.log .debug message] ++ written ∧
        loud.session.transcript =
          session.transcript ++ [.log .debug message] ++ farewellLine :: written := by
  let message := "执行内建命令: " ++ Builtin.exit.name ++ " " ++ Text.showTexts args
  let told := session.log .debug message
  let outcome := exitWith args told.fresh writer
  have htold : told.transcript = session.transcript ++ [.log .debug message] :=
    session.transcript_emit _
  have hframe (older : List Event) :
      exitWith args (told.fresh.precededBy older) writer = outcome.under (·.precededBy older) :=
    Session.respects_precededBy older .exit args told.fresh writer
  have hquiet : exitWith args told writer = outcome.under (·.precededBy told.recent) := by
    rw [← hframe, told.precededBy_fresh]
  have hloud : exitWith args (told.inMode true) writer =
      outcome.under fun session =>
        (session.precededBy (farewellLine :: told.recent)).inMode true := by
    have hemit : told.emit [farewellLine] =
        told.fresh.precededBy (farewellLine :: told.recent) := by
      simp [Session.emit, Session.fresh, Session.precededBy]
    rw [exitWith_aloud args told writer hmode, hemit, hframe]
    rfl
  obtain ⟨status, hstatus⟩ := exists_status_exitWith args told.fresh writer
  have hrun {session : Session} {change : Session → Session}
      (hperform : exitWith args (session.log .debug message) writer = outcome.under change) :
      Builtin.exit.run args session writer = ⟨change outcome.session, outcome.writer, status⟩ := by
    have hresult : (outcome.under change).result = .ok status := hstatus
    unfold run perform
    dsimp only
    rw [hperform, hresult]
    rfl
  dsimp only
  rw [hrun hquiet, @hrun (session.inMode true) _ hloud]
  refine ⟨rfl, rfl, rfl, rfl, message, outcome.session.transcript, ?_, ?_⟩
  · rw [Session.transcript_precededBy, ← htold]
    rfl
  · change (Session.precededBy _ _).transcript = _
    rw [Session.transcript_precededBy, ← htold]
    simp [Session.transcript]

end Builtin

/-- A part of what a run writes to standard error; at its start an interactive shell takes leave, if
it `leaves`. -/
structure Stretch where
  leaves : Bool := false
  errors : Bytes
  deriving DecidableEq, Repr

/-- What an interactive shell writes in its stead. -/
def Stretch.aloud (stretch : Stretch) : Bytes :=
  (if stretch.leaves then Transcript.stderr [farewellLine] else []) ++ stretch.errors

namespace Session

/-- An interactive session and a silent one that have done the same, and all that they have written
to standard error. -/
structure Mirrors (said : List Stretch) (loud quiet : Session) : Prop where
  mode : quiet.state.interactive = false
  state : loud.state = { quiet.state with interactive := true }
  world : loud.world = quiet.world
  stdout : loud.transcript.stdout = quiet.transcript.stdout
  errors : quiet.transcript.stderr = said.flatMap Stretch.errors
  aloud : loud.transcript.stderr = said.flatMap Stretch.aloud

namespace Mirrors

variable {said new : List Stretch} {loud quiet : Session}

theorem of_agrees (h : Mirrors said loud quiet) {louder quieter : Session}
    (hloud : louder.AgreesWith loud) (hquiet : quieter.AgreesWith quiet) :
    Mirrors said louder quieter where
  mode := by rw [hquiet.state, h.mode]
  state := by rw [hloud.state, hquiet.state, h.state]
  world := by rw [hloud.world, hquiet.world, h.world]
  stdout := by rw [hloud.stdout, hquiet.stdout, h.stdout]
  errors := by rw [hquiet.stderr, h.errors]
  aloud := by rw [hloud.stderr, h.aloud]

theorem write (h : Mirrors said loud quiet) {stretch : Stretch} {heard unheard : Transcript}
    (hstdout : heard.stdout = unheard.stdout) (herrors : unheard.stderr = stretch.errors)
    (haloud : heard.stderr = stretch.aloud) :
    Mirrors (said ++ [stretch]) (loud.emit heard) (quiet.emit unheard) := by
  refine ⟨h.mode, h.state, h.world, ?_, ?_, ?_⟩
  · rw [transcript_emit, transcript_emit, Transcript.stdout_append, Transcript.stdout_append,
      h.stdout, hstdout]
  · rw [transcript_emit, Transcript.stderr_append, h.errors, herrors, List.flatMap_append,
      List.flatMap_singleton]
  · rw [transcript_emit, Transcript.stderr_append, h.aloud, haloud, List.flatMap_append,
      List.flatMap_singleton]

theorem emit (h : Mirrors said loud quiet) (events : Transcript) :
    Mirrors (said ++ [{ errors := events.stderr }]) (loud.emit events) (quiet.emit events) :=
  h.write rfl rfl rfl

theorem takeLeave (h : Mirrors said loud quiet) :
    Mirrors (said ++ [{ leaves := true, errors := [] }]) (loud.emit [farewellLine])
      (quiet.emit []) :=
  h.write rfl rfl rfl

theorem emit_silent (h : Mirrors said loud quiet) {events : Transcript}
    (hsilent : events.stderr = []) : Mirrors said (loud.emit events) (quiet.emit events) := by
  have hemit := h.emit events
  rw [hsilent] at hemit
  refine ⟨hemit.mode, hemit.state, hemit.world, hemit.stdout, ?_, ?_⟩
  · rw [hemit.errors, List.flatMap_append]
    exact List.append_nil _
  · rw [hemit.aloud, List.flatMap_append]
    exact List.append_nil _

theorem setStatus (h : Mirrors said loud quiet) (status : Int) :
    Mirrors said (loud.setStatus status) (quiet.setStatus status) := by
  refine ⟨h.mode, ?_, h.world, h.stdout, h.errors, h.aloud⟩
  simp only [Session.setStatus, h.state]

/-- What sessions do next can be looked at as if nothing had been written before. -/
theorem act (action : Session → Session)
    (hframe : ∀ session older,
      action (session.precededBy older) = (action session).precededBy older)
    (h : Mirrors said loud quiet)
    (hnew : Mirrors new (action (quiet.fresh.inMode true)) (action quiet.fresh)) :
    Mirrors (said ++ new) (action loud) (action quiet) := by
  have hloud : (quiet.fresh.inMode true).precededBy loud.recent = loud := by
    obtain ⟨state, world, recent⟩ := loud
    obtain rfl : state = { quiet.state with interactive := true } := h.state
    obtain rfl : world = quiet.world := h.world
    simp [inMode, fresh, precededBy]
  have hloudly : action loud =
      (action (quiet.fresh.inMode true)).precededBy loud.recent := by
    rw [← hframe, hloud]
  have hquietly : action quiet = (action quiet.fresh).precededBy quiet.recent := by
    rw [← hframe, precededBy_fresh]
  have hstdout : Transcript.stdout loud.recent.reverse = Transcript.stdout quiet.recent.reverse :=
    h.stdout
  have herrors : Transcript.stderr quiet.recent.reverse = said.flatMap Stretch.errors := h.errors
  have haloud : Transcript.stderr loud.recent.reverse = said.flatMap Stretch.aloud := h.aloud
  rw [hloudly, hquietly]
  refine ⟨hnew.mode, hnew.state, hnew.world, ?_, ?_, ?_⟩
  · rw [transcript_precededBy, transcript_precededBy, Transcript.stdout_append,
      Transcript.stdout_append, hstdout, hnew.stdout]
  · rw [transcript_precededBy, Transcript.stderr_append, herrors, hnew.errors,
      List.flatMap_append]
  · rw [transcript_precededBy, Transcript.stderr_append, haloud, hnew.aloud, List.flatMap_append]

end Mirrors

end Session

/-- An `exit` that the shell runs itself. -/
def Pipeline.isExit (pipeline : Pipeline) : Bool :=
  match pipeline.commands with
  | [{ argv := name :: _, redirections := [], .. }] => name = Builtin.exit.name
  | _ => false

theorem Pipeline.isExit_iff (pipeline : Pipeline) :
    pipeline.isExit = true ↔ ∃ args, pipeline.RunsBuiltin .exit args := by
  unfold isExit RunsBuiltin
  constructor
  · intro h
    split at h
    · rename_i name args expanded hcommands
      obtain rfl : name = Builtin.exit.name := by simpa using h
      exact ⟨args, _, hcommands, rfl, rfl⟩
    · cases h
  · rintro ⟨args, ⟨argv, redirections, expanded⟩, hcommands, hredirections, hargv⟩
    dsimp only at hredirections hargv
    subst hredirections hargv
    rw [hcommands]
    simp

namespace Session

theorem stderr_expansionNotes (scope : Scope) (pipeline : Pipeline) :
    (expansionNotes scope pipeline).stderr = [] := by
  simp [expansionNotes, Transcript.stderr, List.flatMap_map]

theorem interactive_step (session : Session) (pipeline : Pipeline) :
    (session.step pipeline).1.state.interactive = session.state.interactive :=
  (ShellState.invariant_interactive _).session.step session pipeline rfl

theorem mirrors_runBuiltin_exit (args : List String) (session : Session)
    (hmode : session.state.interactive = false) (hsilent : session.transcript.stderr = []) :
    let quiet := session.runBuiltin .exit args
    let loud := (session.inMode true).runBuiltin .exit args
    loud.2 = quiet.2 ∧ Mirrors [⟨true, quiet.1.transcript.stderr⟩] loud.1 quiet.1 := by
  obtain ⟨hwriter, hstatus, hstate, hworld, message, written, hquiet, hloud⟩ :=
    Builtin.run_exit_aloud args session {} hmode
  have hkept := (Builtin.keeps_run args session {} .exit).interactive
  dsimp only [runBuiltin]
  generalize Builtin.exit.run args session {} = quiet at *
  generalize Builtin.exit.run args (session.inMode true) {} = loud at *
  refine ⟨hstatus, hkept.trans hmode, hstate, hworld, ?_, by simp, ?_⟩
  · rw [transcript_emit, transcript_emit, hquiet, hloud, hwriter]
    simp [Transcript.stdout, farewellLine]
  · rw [transcript_emit, transcript_emit, hquiet, hloud, hwriter]
    simp only [Transcript.stderr_append, hsilent]
    simp [Stretch.aloud, Transcript.stderr]

theorem mirrors_step_fresh (session : Session) (pipeline : Pipeline)
    (hmode : session.state.interactive = false) (hfresh : session.recent = []) :
    Mirrors
      [{ leaves := (pipeline.expand session.scope).isExit
         errors := (session.step pipeline).1.transcript.stderr }]
      ((session.inMode true).step pipeline).1 (session.step pipeline).1 := by
  cases hexit : (pipeline.expand session.scope).isExit with
  | false =>
    have hstep : (session.inMode true).step pipeline =
        ((session.step pipeline).1.inMode true, (session.step pipeline).2) := by
      apply (frame_inMode true).step unnoticed_id trivial
      intro builtin args hruns
      apply Builtin.respects_of_ne_exit (frame_inMode true)
      rintro rfl
      have hruns := ((pipeline.expand session.scope).isExit_iff).mpr ⟨args, hruns⟩
      simp [hexit] at hruns
    rw [hstep]
    refine ⟨(session.interactive_step pipeline).trans hmode, rfl, rfl, rfl, ?_, ?_⟩
    · simp
    · simp [Stretch.aloud]
      rfl
  | true =>
    obtain ⟨args, command, hcommands, hredirections, hargv⟩ :=
      ((pipeline.expand session.scope).isExit_iff).mp hexit
    let noted := session.emit (expansionNotes session.scope pipeline)
    have hsilent : noted.transcript.stderr = [] := by
      rw [transcript_emit, transcript, hfresh]
      exact stderr_expansionNotes session.scope pipeline
    have hquiet : (session.step pipeline).1 =
        (noted.runBuiltin .exit args).1.setStatus (noted.runBuiltin .exit args).2 := by
      rw [← runPipeline_of_builtin noted hcommands hredirections hargv]
      rfl
    have hloud : ((session.inMode true).step pipeline).1 =
        ((noted.inMode true).runBuiltin .exit args).1.setStatus
          ((noted.inMode true).runBuiltin .exit args).2 := by
      rw [← runPipeline_of_builtin (noted.inMode true) hcommands hredirections hargv]
      rfl
    obtain ⟨hstatus, hmirrors⟩ := mirrors_runBuiltin_exit args noted hmode hsilent
    rw [hloud, hquiet, hstatus]
    exact hmirrors.setStatus _

instance (after : Session) (pipeline : Pipeline) : Decidable (after.GoesOn pipeline) :=
  decidable_of_iff (after.state.shouldExit = false ∧
      (pipeline.connective = some .and → after.state.lastStatus = 0) ∧
      (pipeline.connective = some .or → after.state.lastStatus ≠ 0))
    ⟨fun ⟨hstays, hand, hor⟩ => ⟨hstays, hand, hor⟩, fun h => ⟨h.stays, h.and, h.or⟩⟩

/-- What the pipelines of a line write to standard error, those that run. -/
def stretches (session : Session) : CommandList → List Stretch
  | [] => []
  | pipeline :: rest =>
    let after := (session.fresh.step pipeline).1
    { leaves := (pipeline.expand session.scope).isExit, errors := after.transcript.stderr } ::
      if after.GoesOn pipeline then after.stretches rest else []

theorem stretches_precededBy (session : Session) (older : List Event) (list : CommandList) :
    (session.precededBy older).stretches list = session.stretches list := by
  cases list <;> rfl

theorem stretches_emit (session : Session) (events : Transcript) (list : CommandList) :
    (session.emit events).stretches list = session.stretches list := by
  cases list <;> rfl

theorem step_eq_precededBy (session : Session) (pipeline : Pipeline) :
    (session.step pipeline).1 =
      ((session.fresh.step pipeline).1).precededBy session.recent := by
  have hstep := session.fresh.step_precededBy session.recent pipeline
  rw [precededBy_fresh] at hstep
  rw [hstep]

namespace Mirrors

variable {said : List Stretch} {loud quiet : Session}

theorem goesOn_iff (h : Mirrors said loud quiet) (pipeline : Pipeline) :
    loud.GoesOn pipeline ↔ quiet.GoesOn pipeline :=
  goesOn_congr (by rw [h.state]) (by rw [h.state])

theorem step (h : Mirrors said loud quiet) (pipeline : Pipeline) :
    Mirrors
      (said ++ [{ leaves := (pipeline.expand quiet.scope).isExit
                  errors := (quiet.fresh.step pipeline).1.transcript.stderr }])
      (loud.step pipeline).1 (quiet.step pipeline).1 := by
  apply h.act (fun session => (session.step pipeline).1)
  · intro session older
    rw [session.step_precededBy older]
  · exact mirrors_step_fresh quiet.fresh pipeline h.mode rfl

theorem runList (h : Mirrors said loud quiet) (list : CommandList) :
    Mirrors (said ++ quiet.stretches list) (loud.runList list) (quiet.runList list) := by
  induction list generalizing said loud quiet with
  | nil => simpa [stretches, Session.runList] using h
  | cons pipeline rest ih =>
    have hstep := h.step pipeline
    have hafter := quiet.step_eq_precededBy pipeline
    have hsame : (quiet.step pipeline).1.GoesOn pipeline ↔
        (quiet.fresh.step pipeline).1.GoesOn pipeline := by
      rw [hafter]
      exact goesOn_congr rfl rfl
    by_cases hgo : (quiet.step pipeline).1.GoesOn pipeline
    · rw [runList_cons_of_goesOn hgo, runList_cons_of_goesOn ((hstep.goesOn_iff _).mpr hgo),
        stretches, if_pos (hsame.mp hgo), hafter]
      have hrest := ih hstep
      rw [hafter, stretches_precededBy, List.append_assoc] at hrest
      exact hrest
    · rw [runList_cons_of_not_goesOn hgo,
        runList_cons_of_not_goesOn (mt (hstep.goesOn_iff _).mp hgo), stretches,
        if_neg (mt hsame.mpr hgo)]
      exact hstep.of_agrees (runList_singleton_agrees ..) (runList_singleton_agrees ..)

end Mirrors

end Session

end CommandShell
