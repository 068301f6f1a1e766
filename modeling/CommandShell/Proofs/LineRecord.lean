import CommandShell.Proofs.StateInvariants
import CommandShell.Proofs.Surroundings
import Mathlib.Data.List.Destutter

/-!
# The record of lines

What a shell keeps of the lines it reads: its history has the old entries and then the logical
lines, without blank ones and immediate repetitions, and its source was handed the same lines. A
line is recorded before it is parsed, and nothing that runs afterwards touches the record.
-/

namespace CommandShell

namespace History

/-- What a history whose last entry is `last` gets from lines: those that are not blank, each run of
equal ones counted once, the last entry being a part of the first run. -/
def additions (last : Option String) (lines : List String) : List String :=
  ((last.toList ++ lines.filter fun line => !Text.isBlank line).destutter (· ≠ ·)).drop
    last.toList.length

theorem destutter'_eq_cons (line : String) (lines : List String) :
    lines.destutter' (· ≠ ·) line = line :: (lines.destutter' (· ≠ ·) line).tail := by
  induction lines with
  | nil => rfl
  | cons next rest ih =>
    by_cases hnext : line ≠ next
    · rw [List.destutter'_cons_pos _ hnext]
      rfl
    · rw [List.destutter'_cons_neg _ hnext]
      exact ih

variable {last : Option String} {line : String} {rest : List String}

@[simp] theorem additions_nil (last : Option String) : additions last [] = [] := by
  cases last <;> rfl

theorem additions_some (line : String) (lines : List String) :
    additions (some line) lines =
      ((lines.filter fun line => !Text.isBlank line).destutter' (· ≠ ·) line).tail := by
  rw [← List.drop_one]
  rfl

theorem additions_cons_of_blank (h : Text.isBlank line = true) :
    additions last (line :: rest) = additions last rest := by
  have hfilter : (line :: rest).filter (fun line => !Text.isBlank line) =
      rest.filter fun line => !Text.isBlank line :=
    List.filter_cons_of_neg (by simp [h])
  rw [additions, hfilter]
  rfl

theorem additions_cons_of_repeated (hblank : Text.isBlank line = false) :
    additions (some line) (line :: rest) = additions (some line) rest := by
  rw [additions_some, additions_some, List.filter_cons_of_pos (by simp [hblank]),
    List.destutter'_cons_neg _ (by simp)]

theorem additions_cons_of_new (hblank : Text.isBlank line = false) (hnew : last ≠ some line) :
    additions last (line :: rest) = line :: additions (some line) rest := by
  have hfilter : (line :: rest).filter (fun line => !Text.isBlank line) =
      line :: rest.filter fun line => !Text.isBlank line :=
    List.filter_cons_of_pos (by simp [hblank])
  rw [additions_some, ← destutter'_eq_cons, additions, hfilter]
  cases last with
  | none => rfl
  | some entry =>
    have hne : entry ≠ line := fun heq => hnew (by rw [heq])
    change ((line :: _).destutter' (· ≠ ·) entry).drop 1 = _
    rw [List.destutter'_cons_pos _ hne]
    rfl

/-- Lines that come later are compared with the last entry that the earlier ones left. -/
theorem additions_append (entries lines more : List String) :
    additions entries.getLast? (lines ++ more) =
      additions entries.getLast? lines ++
        additions (entries ++ additions entries.getLast? lines).getLast? more := by
  induction lines generalizing entries with
  | nil => simp
  | cons line rest ih =>
    rw [List.cons_append]
    cases hblank : Text.isBlank line with
    | true => rw [additions_cons_of_blank hblank, additions_cons_of_blank hblank, ih]
    | false =>
      by_cases hlast : entries.getLast? = some line
      · rw [hlast, additions_cons_of_repeated hblank, additions_cons_of_repeated hblank, ← hlast,
          ih]
      · rw [additions_cons_of_new hblank hlast, additions_cons_of_new hblank hlast]
        have hrest := ih (entries ++ [line])
        rw [List.getLast?_concat, List.append_assoc] at hrest
        rw [hrest]
        rfl

theorem entries_record (history : History) (line : String) :
    (history.record line).entries =
      history.entries ++ additions history.entries.getLast? [line] := by
  cases hblank : Text.isBlank line with
  | true => simp [record, accepts, hblank, additions_cons_of_blank]
  | false =>
    by_cases hlast : history.entries.getLast? = some line
    · rw [hlast, additions_cons_of_repeated hblank]
      simp [record, accepts, hlast]
    · rw [additions_cons_of_new hblank hlast]
      simp [record, accepts, hblank, hlast]

end History

namespace LineSource

theorem foldl_addRecall (source : LineSource) (lines : List String) :
    lines.foldl addRecall source = { source with handed := lines.reverse ++ source.handed } := by
  induction lines generalizing source with
  | nil => rfl
  | cons line rest ih =>
    rw [List.foldl_cons, ih]
    simp [addRecall]

theorem handed_readLogical (source : LineSource) (theme : Theme) :
    (source.readLogical theme).source.handed = source.handed := by
  obtain ⟨arrivals, asked, handed⟩ := source
  cases arrivals with
  | nil => rfl
  | cons arrival rest => cases arrival <;> rfl

theorem handed_collectHereDocs (prompt : String) (source : LineSource) (list : CommandList) :
    (collectHereDocs prompt source list).1.source.handed = source.handed := by
  refine collectHereDocs_invariant (P := fun collection => collection.source.handed = source.handed)
    ?_ rfl list
  intro collection redirection h
  by_cases hskip : (collection.interrupted || !redirection.awaitsBody) = true
  · rw [Collection.fill, if_pos hskip]
    exact h
  · rw [Collection.source_fill prompt hskip]
    exact h

end LineSource

namespace Session

theorem history_step (session : Session) (pipeline : Pipeline) :
    (session.step pipeline).1.state.history = session.state.history := by
  let told := session.emit (expansionNotes session.scope pipeline)
  change (told.runPipeline (pipeline.expand session.scope)).1.state.history = told.state.history
  rcases told.runPipeline_cases (pipeline.expand session.scope) with
    ⟨builtin, args, hrun⟩ | ⟨hstate, -⟩
  · rw [hrun]
    exact (Builtin.keeps_run args told {} builtin).history
  · rw [hstate]

theorem history_runList (session : Session) (list : CommandList) :
    (session.runList list).state.history = session.state.history := by
  induction list generalizing session with
  | nil => rfl
  | cons pipeline rest ih =>
    have hstep := session.history_step pipeline
    have hrest := (ih (session.step pipeline).1).trans hstep
    rw [runList]
    dsimp only
    split
    · exact hstep
    · split
      · exact hrest
      · split
        · exact hstep
        · exact hrest

theorem history_execute (session : Session) (source : LineSource) (prompt : String)
    (list : CommandList) :
    (session.execute source prompt list).1.state.history = session.state.history := by
  rw [execute_eq]
  dsimp only
  split
  · rfl
  · exact history_runList _ _

end Session

namespace Shell

/-- Between two shells, lines were read and recorded. -/
structure Records (before : Shell) (lines : List String) (after : Shell) : Prop where
  entries : after.session.state.history.entries = before.session.state.history.entries ++
    History.additions before.session.state.history.entries.getLast? lines
  recalled : after.source.recalled = before.source.recalled ++
    History.additions before.session.state.history.entries.getLast? lines

variable {shell middle after : Shell} {lines more : List String}

theorem Records.of_eq (hhistory : after.session.state.history = shell.session.state.history)
    (hhanded : after.source.handed = shell.source.handed) : shell.Records [] after := by
  refine ⟨?_, ?_⟩
  · rw [hhistory, History.additions_nil, List.append_nil]
  · rw [LineSource.recalled, hhanded, History.additions_nil, List.append_nil]
    rfl

theorem Records.trans (hfirst : shell.Records lines middle) (hsecond : middle.Records more after) :
    shell.Records (lines ++ more) after := by
  have hentries := hsecond.entries
  have hrecalled := hsecond.recalled
  rw [hfirst.entries] at hentries hrecalled
  refine ⟨?_, ?_⟩
  · rw [hentries, History.additions_append, List.append_assoc]
  · rw [hrecalled, hfirst.recalled, History.additions_append, List.append_assoc]

theorem records_remember (shell : Shell) (line : String) :
    shell.Records [line] (shell.remember line) := by
  have hentries := shell.session.state.history.entries_record line
  unfold remember
  dsimp only
  split
  · rename_i haccepts
    have hnew : History.additions shell.session.state.history.entries.getLast? [line] = [line] := by
      rw [History.record, if_pos haccepts] at hentries
      exact (List.append_cancel_left hentries).symm
    refine ⟨hentries, ?_⟩
    rw [LineSource.recalled_addRecall, hnew]
  · rename_i haccepts
    have hnone : History.additions shell.session.state.history.entries.getLast? [line] = [] := by
      rw [History.record, if_neg haccepts] at hentries
      exact (List.self_eq_append_right.mp hentries)
    refine ⟨?_, ?_⟩
    · rw [hnone, List.append_nil]
    · rw [hnone, List.append_nil]

theorem records_runLine (shell : Shell) (line : String) :
    shell.Records [line] (shell.runLine line) := by
  cases hblank : Text.isBlank line with
  | true =>
    have hnone (last : Option String) : History.additions last [line] = [] := by
      rw [History.additions_cons_of_blank hblank, History.additions_nil]
    rw [shell.runLine_of_blank hblank]
    refine ⟨?_, ?_⟩
    · rw [hnone, List.append_nil]
    · rw [hnone, List.append_nil]
  | false =>
    have hblank : ¬ Text.isBlank line = true := by simp [hblank]
    have hparsed : shell.Records [line] (shell.afterParse line) :=
      (shell.records_remember line).trans (.of_eq rfl rfl)
    cases hparse : parseLine line with
    | error error =>
      rw [shell.runLine_of_error hblank hparse]
      exact hparsed.trans (.of_eq rfl rfl)
    | ok list =>
      rw [shell.runLine_of_ok hblank hparse]
      refine hparsed.trans (.of_eq ?_ ?_)
      · exact Session.history_execute _ _ _ list
      · dsimp only
        rw [execute_source]
        exact LineSource.handed_collectHereDocs _ _ list

/-- The logical line that the next turn reads, if it is to read one and finds one. A line that is
interrupted, or that the end of input leaves open, is none. -/
def nextLine? (shell : Shell) : Option String :=
  if shell.session.state.shouldExit then none
  else
    match (shell.source.readLogical shell.theme).result with
    | .ok (.line line) => some line
    | _ => none

theorem records_turn (shell : Shell) :
    shell.Records shell.nextLine?.toList shell.turn.shell := by
  by_cases hexit : shell.session.state.shouldExit = true
  · rw [turn_of_shouldExit hexit, nextLine?, if_pos hexit]
    exact .of_eq rfl rfl
  · have hread : shell.Records [] shell.afterRead :=
      .of_eq rfl (shell.source.handed_readLogical shell.theme)
    rw [turn_of_not_shouldExit hexit, nextLine?, if_neg hexit]
    match (shell.source.readLogical shell.theme).result with
    | .ok (.line line) => exact hread.trans (shell.afterRead.records_runLine line)
    | .ok .interrupted => exact hread.trans (.of_eq rfl rfl)
    | .ok .endOfInput => exact hread.trans (.of_eq rfl rfl)
    | .error error => exact hread.trans (.of_eq rfl rfl)

/-- The logical lines that the first turns read. -/
def linesRead : Nat → Shell → List String
  | 0, _ => []
  | limit + 1, shell =>
    shell.nextLine?.toList ++
      match shell.turn with
      | .again next => linesRead limit next
      | .finished _ => []

theorem records_turns (limit : Nat) (shell : Shell) :
    shell.Records (linesRead limit shell) (turns limit shell).shell := by
  induction limit generalizing shell with
  | zero => exact .of_eq rfl rfl
  | succ limit ih =>
    have hturn := shell.records_turn
    rw [linesRead, turns]
    cases hnext : shell.turn with
    | again next =>
      rw [hnext] at hturn
      exact hturn.trans (ih next)
    | finished done =>
      rw [hnext] at hturn
      exact hturn.trans (.of_eq rfl rfl)

theorem linesRead_within (limit : Nat) (shell : Shell) (written : List Event) :
    linesRead limit (shell.within { written }) = linesRead limit shell := by
  induction limit generalizing shell with
  | zero => rfl
  | succ limit ih =>
    have hread := @LineSource.readLogical_within shell.source { written } shell.theme (.inl rfl)
    have hline : (shell.within { written }).nextLine? = shell.nextLine? := by
      unfold nextLine?
      simp only [within, hread, Session.state_precededBy]
    rw [linesRead, linesRead, hline, turn_within (.inl rfl)]
    cases shell.turn with
    | again next => exact congrArg _ (ih next)
    | finished done => rfl

theorem linesRead_emit (limit : Nat) (shell : Shell) (events : Transcript) :
    linesRead limit { shell with session := shell.session.emit events } = linesRead limit shell :=
  apply_emit_of_within (linesRead_within limit) shell events

theorem source_saveHistory (shell : Shell) : shell.saveHistory.source = shell.source := by
  unfold saveHistory
  dsimp only
  split
  · rfl
  · split <;> rfl

theorem records_run (shell : Shell) :
    shell.Records (linesRead (shell.source.arrivals.length + 1) shell) shell.run := by
  let told (events : Transcript) : Shell :=
    { shell with session := shell.session.emit events }
  have hloop (events : Transcript) :
      shell.Records (linesRead (shell.source.arrivals.length + 1) shell) (told events).loop := by
    have htold : shell.Records [] (told events) := .of_eq rfl rfl
    have hturns := htold.trans ((told events).records_turns (shell.source.arrivals.length + 1))
    rw [linesRead_emit] at hturns
    exact hturns
  have hend (last : Shell) : last.Records [] last.conclude := by
    refine .of_eq ?_ ?_
    · exact congrArg (fun state => state.history) last.state_saveHistory
    · exact congrArg LineSource.handed last.source_saveHistory
  rw [run, runWith_eq, ← List.append_nil (linesRead _ _)]
  exact (hloop shell.opening).trans (hend _)

end Shell

namespace Feed

def supply (feed : Feed) (shell : Shell) : Shell :=
  if (present feed.ready shell).turn.shell.source.arrivals.isEmpty then
    present (feed.fetch shell).1.ready
      { shell with session := { shell.session with world := (feed.fetch shell).2 } }
  else present feed.ready shell

theorem turn_eq_supply (feed : Feed) (shell : Shell) :
    (feed.turn shell).2 = (feed.supply shell).turn := by
  unfold turn supply
  dsimp only
  split <;> rfl

/-- The logical lines that the first turns read from the feed. -/
def linesRead : Nat → Feed → Shell → List String
  | 0, _, _ => []
  | limit + 1, feed, shell =>
    (feed.supply shell).nextLine?.toList ++
      match feed.turn shell with
      | (feed, .again next) => linesRead limit feed next
      | (_, .finished _) => []

theorem records_turn (feed : Feed) (shell : Shell) :
    shell.Records (feed.supply shell).nextLine?.toList (feed.turn shell).2.shell := by
  have hsupply : shell.Records [] (feed.supply shell) := by
    unfold supply
    split
    · exact .of_eq rfl rfl
    · exact .of_eq rfl rfl
  rw [turn_eq_supply]
  exact hsupply.trans (feed.supply shell).records_turn

theorem records_turns (limit : Nat) (feed : Feed) (shell : Shell) :
    shell.Records (linesRead limit feed shell) (feed.turns limit shell) := by
  induction limit generalizing feed shell with
  | zero => exact .of_eq rfl rfl
  | succ limit ih =>
    have hturn := feed.records_turn shell
    rw [linesRead, turns]
    generalize feed.turn shell = taken at hturn ⊢
    obtain ⟨later, turn⟩ := taken
    cases turn with
    | again next => exact hturn.trans (ih later next)
    | finished done => exact hturn.trans (.of_eq rfl rfl)

end Feed

namespace Shell

theorem source_start (theme : Theme) (source : LineSource) (session : Session) :
    (start theme source session).source =
      { source with handed := session.state.history.entries.reverse ++ source.handed } :=
  LineSource.foldl_addRecall source session.state.history.entries

theorem recalled_start (theme : Theme) (source : LineSource) (session : Session) :
    (start theme source session).source.recalled =
      source.recalled ++ session.state.history.entries := by
  rw [source_start]
  simp [LineSource.recalled]

theorem arrivals_start (theme : Theme) (source : LineSource) (session : Session) :
    (start theme source session).source.arrivals = source.arrivals := by
  rw [source_start]

/-- A shell that started with a history and has read lines since: what its source was handed since
then is its history, and that is the old one with what it gets from the lines. -/
structure Remembers (shell : Shell) (source : LineSource) (entries lines : List String) :
    Prop where
  recalled : shell.source.recalled = source.recalled ++ shell.session.state.history.entries
  entries : shell.session.state.history.entries =
    entries ++ History.additions entries.getLast? lines

theorem Records.remembers {theme : Theme} {source : LineSource} {session : Session}
    (h : (start theme source session).Records lines after) :
    after.Remembers source session.state.history.entries lines := by
  refine ⟨?_, h.entries⟩
  rw [h.recalled, h.entries, recalled_start, List.append_assoc]
  rfl

/-- After every turn and at the end of a run the history and the lines handed over for recall are
the same, and are those that the shell started with and then the lines it read, without blank ones
and repetitions; also if the lines are fetched while it runs. -/
theorem history_records_lines (theme : Theme) (source : LineSource) (session : Session) :
    let shell := start theme source session
    let entries := session.state.history.entries
    (∀ limit, (turns limit shell).shell.Remembers source entries (linesRead limit shell)) ∧
    shell.run.Remembers source entries (linesRead (source.arrivals.length + 1) shell) ∧
    ∀ (feed : Feed) (limit : Nat),
      (feed.turns limit shell).Remembers source entries (feed.linesRead limit shell) := by
  intro shell entries
  refine ⟨?_, ?_, ?_⟩
  · intro limit
    exact (shell.records_turns limit).remembers
  · have harrivals : shell.source.arrivals = source.arrivals := arrivals_start theme source session
    rw [← harrivals]
    exact shell.records_run.remembers
  · intro feed limit
    exact (feed.records_turns limit shell).remembers

-- a rejected line is recorded, a blank or repeated one is not, and neither is a body nor a line
-- that an interrupt leaves open
example :
    let session : Session :=
      { state := { history := { entries := ["z"] } }
        world := { programs := fun _ invocation => { files := invocation.files } } }
    let source : LineSource :=
      { arrivals := [.line "z", .line "|", .line " ", .line "|", .line "cd << E", .line "body",
          .line "E", .line "'b", .interrupt, .line "z"] }
    let shell := start .plain source session
    linesRead 11 shell = ["z", "|", " ", "|", "cd << E", "z"] ∧
      shell.run.session.state.history.entries = ["z", "|", "cd << E", "z"] := by
  decide +kernel

end Shell

end CommandShell
