import CommandShell.Proofs.SessionFrames
import CommandShell.Proofs.Turns

/-!
# Runs in surroundings

What a shell does hangs neither on what was written, asked and handed over before it started nor,
as long as no read finds the end of input, on what the source has after the last arrival it takes.
-/

namespace CommandShell

namespace Session

def precededBy (session : Session) (older : List Event) : Session :=
  { session with recent := session.recent ++ older }

variable (session : Session) (older : List Event)

@[simp] theorem state_precededBy : (session.precededBy older).state = session.state := rfl

theorem transcript_precededBy :
    (session.precededBy older).transcript = older.reverse ++ session.transcript := by
  simp [transcript, precededBy]

@[simp] theorem emit_precededBy (events : Transcript) :
    (session.precededBy older).emit events = (session.emit events).precededBy older := by
  simp [emit, precededBy]

@[simp] theorem log_precededBy (level : LogLevel) (message : String) :
    (session.precededBy older).log level message = (session.log level message).precededBy older :=
  session.emit_precededBy older _

@[simp] theorem report_precededBy (error : ShellError) :
    (session.precededBy older).report error = (session.report error).precededBy older :=
  session.emit_precededBy older _

@[simp] theorem setStatus_precededBy (status : Int) :
    (session.precededBy older).setStatus status = (session.setStatus status).precededBy older := rfl

theorem frame_precededBy : Frame (·.precededBy older) id where
  child _ := rfl
  shouldExit _ := rfl
  world _ := rfl
  emit session events := session.emit_precededBy older events
  setStatus _ _ := rfl
  setEnvironment _ _ := rfl
  leave _ := rfl
  move _ _ := rfl
  current _ := rfl
  enter := changeDirectory_id

theorem respects_precededBy (builtin : Builtin) : builtin.Respects (·.precededBy older) := by
  by_cases hexit : builtin = .exit
  · rw [hexit]
    exact Builtin.respects_exit (frame_precededBy older) fun _ => rfl
  · exact Builtin.respects_of_ne_exit (frame_precededBy older) hexit

theorem step_precededBy (pipeline : Pipeline) :
    (session.precededBy older).step pipeline =
      ((session.step pipeline).1.precededBy older, (session.step pipeline).2) :=
  (frame_precededBy older).step unnoticed_id trivial
    fun builtin _ _ => respects_precededBy older builtin

theorem runList_precededBy (list : CommandList) :
    (session.precededBy older).runList list = (session.runList list).precededBy older :=
  (frame_precededBy older).runList unnoticed_id (respects_precededBy older) trivial list

end Session

/-- What surrounds a part of a run: what was written, asked and handed over before it, the last
first, and what the source has after it. -/
structure Surroundings where
  written : List Event := []
  asked : List String := []
  handed : List String := []
  later : List Arrival := []

/-- No read between two sources gets to what comes later: nothing does, or every read found an
arrival. -/
def Surroundings.Unreached (around : Surroundings) (before after : LineSource) : Prop :=
  around.later = [] ∨ before.Supplied after

namespace Surroundings.Unreached

variable {around : Surroundings} {before middle after : LineSource}

theorem left (h : around.Unreached before after) (hfirst : before.Reads middle)
    (hsecond : middle.Reads after) : around.Unreached before middle :=
  h.imp_right fun h => h.left hfirst hsecond

theorem right (h : around.Unreached before after) (hfirst : before.Reads middle)
    (hsecond : middle.Reads after) : around.Unreached middle after :=
  h.imp_right fun h => h.right hfirst hsecond

end Surroundings.Unreached

theorem joinArrivals_append (quoting : Quoting) (chars : List Char)
    (arrivals later : List Arrival)
    (h : later = [] ∨ (joinArrivals quoting chars arrivals).asked +
      (joinArrivals quoting chars arrivals).rest.length = arrivals.length) :
    joinArrivals quoting chars (arrivals ++ later) =
      { joinArrivals quoting chars arrivals with
        rest := (joinArrivals quoting chars arrivals).rest ++ later } := by
  obtain rfl | h := h
  · simp
  · fun_induction joinArrivals quoting chars arrivals with
    | case1 _ _ ended _ hcomplete => simp [joinArrivals, hcomplete, ended]
    | case2 | case7 => simp at h
    | case3 _ _ _ _ hquoting _ ih | case8 _ _ _ hquoting _ ih =>
      simp only [Joined.askedOnce, List.length_cons] at h
      rw [List.cons_append, joinArrivals.eq_def]
      simp only [hquoting]
      rw [ih (by omega)]
      rfl
    | case4 _ _ _ _ hquoting | case5 _ _ _ _ hquoting | case6 _ _ _ _ hquoting
    | case9 _ _ _ hquoting => simp [joinArrivals, hquoting]
    | case10 _ _ ended _ hquoting | case11 _ _ ended _ hquoting =>
      simp [joinArrivals, hquoting, ended]

theorem readBody_append (delimiter : String) (arrivals later : List Arrival)
    (h : later = [] ∨ (readBody delimiter arrivals).asked +
      (readBody delimiter arrivals).rest.length = arrivals.length) :
    readBody delimiter (arrivals ++ later) =
      { readBody delimiter arrivals with
        rest := (readBody delimiter arrivals).rest ++ later } := by
  obtain rfl | h := h
  · simp
  · fun_induction readBody delimiter arrivals with
    | case1 => simp at h
    | case2 => simp [readBody]
    | case3 line rest hline ih =>
      simp only [BodyRead.precededBy, List.length_cons] at h
      rw [List.cons_append, readBody, if_neg hline, ih (by omega)]
      rfl
    | case4 | case5 | case6 => rfl

namespace LineSource

def within (source : LineSource) (around : Surroundings) : LineSource where
  arrivals := source.arrivals ++ around.later
  asked := source.asked ++ around.asked
  handed := source.handed ++ around.handed

variable (source : LineSource) {around : Surroundings}

theorem readLogical_within (theme : Theme)
    (h : around.Unreached source (source.readLogical theme).source) :
    (source.within around).readLogical theme =
      { source.readLogical theme with
        source := (source.readLogical theme).source.within around } := by
  obtain ⟨arrivals, asked, handed⟩ := source
  cases arrivals with
  | nil =>
    -- the end of input is found here, so nothing may come later
    obtain hlater | hsupplied := h
    · simp [within, readLogical, next, ask, hlater, Arrival.reading, Arrival.notes]
    · simp [Supplied, readLogical, next, ask, tally] at hsupplied
  | cons arrival rest =>
    cases arrival with
    | line text =>
      have hjoined := joinArrivals_append (Quoting.bare.after text.toList) text.toList.reverse
        rest around.later (h.imp_right fun htally => by
          simp [Supplied, readLogical, next, ask, tally] at htally
          omega)
      simp only [within, readLogical, next, ask, List.cons_append, hjoined, List.append_assoc]
    | interrupt => rfl
    | endOfInput => rfl
    | failure cause => rfl

end LineSource

namespace Collection

def within (collection : Collection) (around : Surroundings) : Collection :=
  { collection with source := collection.source.within around }

/-- A way to fill a part of a line that does the same between other arrivals. -/
def Framed (around : Surroundings) {α : Type} (fill : Collection → α → Collection × α) : Prop :=
  ∀ (collection : Collection) (part : α),
    around.Unreached collection.source (fill collection part).1.source →
    fill (collection.within around) part =
      ((fill collection part).1.within around, (fill collection part).2)

variable {around : Surroundings}

theorem framed_fill (prompt : String) : Framed around (fill prompt) := by
  intro collection redirection h
  by_cases hskip : (collection.interrupted || !redirection.awaitsBody) = true
  · simp [fill, within, hskip]
  · have hread := readBody_append redirection.target collection.source.arrivals around.later
      (h.imp_right fun htally => by
        rw [source_fill prompt hskip, LineSource.Supplied, LineSource.tally_ask] at htally
        simp only [LineSource.tally] at htally
        omega)
    have hbody : (readBody redirection.target (collection.source.within around).arrivals).body =
        (readBody redirection.target collection.source.arrivals).body := by
      rw [LineSource.within, hread]
      rfl
    have hskip' : ¬((collection.within around).interrupted || !redirection.awaitsBody) = true :=
      hskip
    rw [fill, fill, if_neg hskip, if_neg hskip']
    dsimp only [within]
    rw [hbody]
    cases (readBody redirection.target collection.source.arrivals).body with
    | none => simp only [LineSource.within, hread, LineSource.ask, List.append_assoc]
    | some body => simp only [LineSource.within, hread, LineSource.ask, List.append_assoc]

theorem Framed.mapWithState {α : Type} {fill : Collection → α → Collection × α}
    (h : Framed around fill) (hconsumes : Consumes fill) : Framed around (mapWithState fill) := by
  intro collection parts hunreached
  induction parts generalizing collection with
  | nil => rfl
  | cons part parts ih =>
    have hfirst := hconsumes collection part
    have hrest := hconsumes.mapWithState (fill collection part).1 parts
    rw [CommandShell.mapWithState, h collection part (hunreached.left hfirst hrest)]
    dsimp only
    rw [ih _ (hunreached.right hfirst hrest)]
    rfl

theorem framed_fillCommand (prompt : String) : Framed around (fillCommand prompt) := by
  intro collection command h
  have hfilled := (framed_fill prompt).mapWithState (consumes_fill prompt) collection
    command.redirections h
  rw [fillCommand, hfilled]
  rfl

theorem framed_fillPipeline (prompt : String) : Framed around (fillPipeline prompt) := by
  intro collection pipeline h
  have hfilled := (framed_fillCommand prompt).mapWithState (consumes_fillCommand prompt) collection
    pipeline.commands h
  rw [fillPipeline, hfilled]
  rfl

end Collection

theorem collectHereDocs_within {around : Surroundings} (prompt : String) (source : LineSource)
    (list : CommandList)
    (h : around.Unreached source (collectHereDocs prompt source list).1.source) :
    collectHereDocs prompt (source.within around) list =
      ((collectHereDocs prompt source list).1.within around,
        (collectHereDocs prompt source list).2) :=
  (Collection.framed_fillPipeline prompt).mapWithState (Collection.consumes_fillPipeline prompt)
    { source } list h

theorem execute_within {around : Surroundings} (session : Session) (source : LineSource)
    (prompt : String) (list : CommandList)
    (h : around.Unreached source (session.execute source prompt list).2) :
    (session.precededBy around.written).execute (source.within around) prompt list =
      ((session.execute source prompt list).1.precededBy around.written,
        (session.execute source prompt list).2.within around) := by
  rw [execute_source] at h
  rw [execute_eq, execute_eq, collectHereDocs_within prompt source list h]
  dsimp only [Collection.within]
  rw [Session.emit_precededBy]
  split
  · rw [Session.log_precededBy, Session.setStatus_precededBy]
  · rw [Session.runList_precededBy]

def Shell.within (shell : Shell) (around : Surroundings) : Shell :=
  { shell with
    session := shell.session.precededBy around.written
    source := shell.source.within around }

def Turn.within : Turn → Surroundings → Turn
  | .again shell, around => .again (shell.within around)
  | .finished shell, around => .finished (shell.within around)

namespace Shell

variable {shell next done : Shell} {around : Surroundings}

/-- What does not hang on what was written before is the same after more is written. -/
theorem apply_emit_of_within {α : Type} {f : Shell → α}
    (h : ∀ (shell : Shell) (written : List Event), f (shell.within { written }) = f shell)
    (shell : Shell) (events : Transcript) :
    f { shell with session := shell.session.emit events } = f shell := by
  let fresh : Shell :=
    { shell with session := { state := shell.session.state, world := shell.session.world } }
  have hwritten (written : List Event) :
      { shell with session := { shell.session with recent := written } } =
        fresh.within { written } := by
    simp [within, Session.precededBy, LineSource.within, fresh]
  have hshell : f shell = f fresh := by
    rw [← h fresh shell.session.recent, ← hwritten]
  have hemit : f { shell with session := shell.session.emit events } = f fresh := by
    rw [← h fresh (events.reverse ++ shell.session.recent), ← hwritten]
    rfl
  rw [hemit, hshell]

theorem log_within (shell : Shell) (level : LogLevel) (message : String) :
    (shell.within around).log level message = (shell.log level message).within around := by
  simp [log, within]

theorem fail_within (shell : Shell) (error : ShellError) :
    (shell.within around).fail error = (shell.fail error).within around := by
  simp [fail, within]

theorem farewell_within (shell : Shell) :
    (shell.within around).farewell = shell.farewell.within around := by
  unfold farewell
  rw [log_within]
  simp only [within, Session.emit_precededBy]
  rfl

theorem remember_within (shell : Shell) (line : String) :
    (shell.within around).remember line = (shell.remember line).within around := by
  by_cases haccepts : shell.session.state.history.accepts line = true
  · simp [remember, within, haccepts, Session.precededBy, LineSource.addRecall, LineSource.within]
  · simp [remember, within, haccepts]

theorem afterParse_within (shell : Shell) (line : String) :
    (shell.within around).afterParse line = (shell.afterParse line).within around := by
  unfold afterParse
  rw [remember_within]
  simp [within]

theorem takeSignals_within (shell : Shell) :
    (shell.within around).takeSignals = shell.takeSignals.within around := by
  unfold takeSignals
  simp only [within, Session.emit_precededBy]
  rfl

theorem runLine_within (line : String)
    (h : around.Unreached shell.source (shell.runLine line).source) :
    (shell.within around).runLine line = (shell.runLine line).within around := by
  by_cases hblank : Text.isBlank line = true
  · rw [runLine_of_blank _ hblank, runLine_of_blank _ hblank]
  · cases hparse : parseLine line with
    | error error =>
      rw [runLine_of_error _ hblank hparse, runLine_of_error _ hblank hparse, afterParse_within,
        fail_within]
    | ok list =>
      rw [runLine_of_ok _ hblank hparse] at h ⊢
      rw [runLine_of_ok _ hblank hparse, afterParse_within, log_within]
      have hreads : shell.source.Reads ((shell.afterParse line).log .debug
          ("解析结果: " ++ CommandList.shown list)).source := shell.reads_remember line
      generalize (shell.afterParse line).log .debug _ = told at h hreads ⊢
      have hexecute := h.right hreads (reads_execute told.session told.source _ list)
      dsimp only
      rw [← takeSignals_within]
      dsimp only [within]
      rw [execute_within told.session told.source _ list hexecute]

theorem afterRead_within (h : around.Unreached shell.source shell.afterRead.source) :
    (shell.within around).afterRead = shell.afterRead.within around := by
  have hread := shell.source.readLogical_within shell.theme h
  simp [afterRead, within, hread]

theorem respond_within (read : Except ShellError Reading)
    (h : around.Unreached shell.source (shell.respond read).shell.source) :
    (shell.within around).respond read = (shell.respond read).within around := by
  match read with
  | .ok (.line line) => exact congrArg Turn.again (runLine_within line h)
  | .ok .interrupted => simp [respond, Turn.within, within]
  | .ok .endOfInput => exact congrArg Turn.finished shell.farewell_within
  | .error error => exact congrArg Turn.again (shell.fail_within error)

theorem turn_within (h : around.Unreached shell.source shell.turn.shell.source) :
    (shell.within around).turn = shell.turn.within around := by
  have hsame : (shell.within around).session.state = shell.session.state := rfl
  by_cases hexit : shell.session.state.shouldExit = true
  · rw [turn_of_shouldExit hexit, turn_of_shouldExit (hsame ▸ hexit)]
    rfl
  · rw [turn_of_not_shouldExit hexit] at h ⊢
    have hrest := shell.afterRead.reads_respond (shell.source.readLogical shell.theme).result
    have hread := h.left shell.reads_afterRead hrest
    have hresult : ((shell.within around).source.readLogical (shell.within around).theme).result =
        (shell.source.readLogical shell.theme).result := by
      simp only [within, shell.source.readLogical_within shell.theme hread]
    rw [turn_of_not_shouldExit (hsame ▸ hexit), hresult, afterRead_within hread]
    exact respond_within _ (h.right shell.reads_afterRead hrest)

theorem turns_within (shell : Shell) (limit : Nat) (written : List Event) :
    turns limit (shell.within { written }) = (turns limit shell).within { written } := by
  induction limit generalizing shell with
  | zero => rfl
  | succ limit ih =>
    rw [turns, turns, turn_within (.inl rfl)]
    cases shell.turn with
    | again next => exact ih next
    | finished done => rfl

theorem loop_within (h : around.Unreached shell.source shell.loop.source) :
    (shell.within around).loop = shell.loop.within around := by
  induction shell using loop_induction with
  | finished shell done hturn =>
    rw [loop_of_finished hturn] at h ⊢
    apply loop_of_finished
    rw [turn_within (by rw [hturn]; exact h), hturn]
    rfl
  | again shell next hturn ih =>
    have hreads := shell.reads_turn
    rw [hturn] at hreads
    rw [loop_of_again hturn] at h ⊢
    have hnext : (shell.within around).turn = .again (next.within around) := by
      rw [turn_within (by rw [hturn]; exact h.left hreads next.reads_loop), hturn]
      rfl
    rw [loop_of_again hnext]
    exact ih (h.right hreads next.reads_loop)

end Shell

end CommandShell
