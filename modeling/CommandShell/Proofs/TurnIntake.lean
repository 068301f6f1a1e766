import CommandShell.Proofs.Turns

/-!
# What a turn depends on

A turn takes a number of arrivals from the front of its source and does the same with every source
that has these arrivals there. What stands behind them is not seen, and a source at its end is like
one that goes on with ends of input.
-/

namespace CommandShell

/-- The next reads find the same in both lists, as many as the number tells. -/
def Arrival.Agree (count : Nat) (first second : List Arrival) : Prop :=
  ∀ place < count, first.getD place .endOfInput = second.getD place .endOfInput

namespace Arrival.Agree

variable {count more : Nat} {first second : List Arrival} {arrival : Arrival}

theorem refl (count : Nat) (arrivals : List Arrival) : Agree count arrivals arrivals :=
  fun _ _ => rfl

theorem symm (h : Agree count first second) : Agree count second first :=
  fun place hplace => (h place hplace).symm

theorem trans {third : List Arrival} (h : Agree count first second)
    (hsecond : Agree count second third) : Agree count first third :=
  fun place hplace => (h place hplace).trans (hsecond place hplace)

theorem mono (h : Agree more first second) (hle : count ≤ more) : Agree count first second :=
  fun place hplace => h place (Nat.lt_of_lt_of_le hplace hle)

theorem drop (h : Agree (count + more) first second) :
    Agree more (first.drop count) (second.drop count) := by
  intro place hplace
  have hlater := h (count + place) (Nat.add_lt_add_left hplace count)
  simpa [List.getD_eq_getElem?_getD] using hlater

theorem append {front : List Arrival} (h : count ≤ front.length) (first second : List Arrival) :
    Agree count (front ++ first) (front ++ second) := by
  intro place hplace
  have hfront : place < front.length := Nat.lt_of_lt_of_le hplace h
  simp [List.getD_eq_getElem?_getD, List.getElem?_append_left hfront]

theorem append_endOfInput (count : Nat) (arrivals : List Arrival) :
    Agree count (arrivals ++ [.endOfInput]) arrivals := by
  intro place _
  simp only [List.getD_eq_getElem?_getD, List.getElem?_append]
  split
  · rfl
  · rename_i hplace
    have hnone : arrivals[place]? = none := List.getElem?_eq_none (by omega)
    rw [hnone]
    cases place - arrivals.length <;> rfl

theorem of_cons {rest : List Arrival} (h : Agree (count + 1) first (arrival :: rest))
    (hne : arrival ≠ .endOfInput) : ∃ tail, first = arrival :: tail ∧ Agree count tail rest := by
  have hhead := h 0 (Nat.succ_pos count)
  cases first with
  | nil => exact absurd hhead.symm hne
  | cons head tail =>
    obtain rfl : head = arrival := hhead
    refine ⟨tail, rfl, fun place hplace => ?_⟩
    exact h (place + 1) (Nat.succ_lt_succ hplace)

theorem eq_nil_or_cons (h : Agree (count + 1) first second)
    (hend : second.getD 0 .endOfInput = .endOfInput) :
    first = [] ∨ ∃ tail, first = .endOfInput :: tail := by
  have hhead := (h 0 (Nat.succ_pos count)).trans hend
  cases first with
  | nil => exact .inl rfl
  | cons head tail =>
    obtain rfl : head = .endOfInput := hhead
    exact .inr ⟨tail, rfl⟩

end Arrival.Agree

open Arrival (Agree)

theorem exists_intake_joinArrivals (quoting : Quoting) (chars : List Char)
    (arrivals : List Arrival) :
    ∃ count, ∀ other, Agree count other arrivals →
      joinArrivals quoting chars other =
        { joinArrivals quoting chars arrivals with rest := other.drop count } := by
  fun_induction joinArrivals quoting chars arrivals with
  | case1 quoting chars ended arrivals hquoting =>
    refine ⟨0, fun other _ => ?_⟩
    simp [joinArrivals, hquoting, ended]
  | case2 quoting chars quote hquoting | case5 quoting chars quote rest hquoting =>
    refine ⟨1, fun other hagree => ?_⟩
    rcases hagree.eq_nil_or_cons rfl with rfl | ⟨tail, rfl⟩
    · simp [joinArrivals, hquoting, Arrival.notes]
    · simp [joinArrivals, hquoting, Arrival.notes]
  | case3 quoting chars quote rest hquoting next ih
  | case8 quoting chars rest hquoting next ih =>
    obtain ⟨count, hcount⟩ := ih
    refine ⟨count + 1, fun other hagree => ?_⟩
    obtain ⟨tail, rfl, htail⟩ := hagree.of_cons (by simp)
    rw [joinArrivals.eq_def]
    simp only [hquoting, hcount tail htail, Joined.askedOnce, List.drop_succ_cons]
  | case4 quoting chars quote rest hquoting | case9 quoting chars rest hquoting =>
    refine ⟨1, fun other hagree => ?_⟩
    obtain ⟨tail, rfl, -⟩ := hagree.of_cons (by simp)
    simp [joinArrivals, hquoting]
  | case6 quoting chars quote rest hquoting cause =>
    refine ⟨1, fun other hagree => ?_⟩
    obtain ⟨tail, rfl, -⟩ := hagree.of_cons (by simp)
    simp [joinArrivals, hquoting]
  | case7 quoting chars ended hquoting | case10 quoting chars ended rest hquoting =>
    refine ⟨1, fun other hagree => ?_⟩
    rcases hagree.eq_nil_or_cons rfl with rfl | ⟨tail, rfl⟩
    · simp [joinArrivals, hquoting, Arrival.notes, ended]
    · simp [joinArrivals, hquoting, Arrival.notes, ended]
  | case11 quoting chars ended rest hquoting cause =>
    refine ⟨1, fun other hagree => ?_⟩
    obtain ⟨tail, rfl, -⟩ := hagree.of_cons (by simp)
    simp [joinArrivals, hquoting, ended]

theorem exists_intake_readBody (delimiter : String) (arrivals : List Arrival) :
    ∃ count, ∀ other, Agree count other arrivals →
      readBody delimiter other =
        { readBody delimiter arrivals with rest := other.drop count } := by
  fun_induction readBody delimiter arrivals with
  | case1 | case5 =>
    refine ⟨1, fun other hagree => ?_⟩
    rcases hagree.eq_nil_or_cons rfl with rfl | ⟨tail, rfl⟩
    · rfl
    · rfl
  | case2 rest =>
    refine ⟨1, fun other hagree => ?_⟩
    obtain ⟨tail, rfl, -⟩ := hagree.of_cons (by simp)
    simp [readBody]
  | case3 line rest hline ih =>
    obtain ⟨count, hcount⟩ := ih
    refine ⟨count + 1, fun other hagree => ?_⟩
    obtain ⟨tail, rfl, htail⟩ := hagree.of_cons (by simp)
    rw [readBody, if_neg hline, hcount tail htail]
    rfl
  | case4 rest | case6 cause rest =>
    refine ⟨1, fun other hagree => ?_⟩
    obtain ⟨tail, rfl, -⟩ := hagree.of_cons (by simp)
    rfl

namespace LineSource

/-- A source before and after a number of reads. -/
structure Advances (count : Nat) (before after : LineSource) : Prop where
  arrivals : after.arrivals = before.arrivals.drop count
  handed : after.handed = before.handed

/-- In every source a number of arrivals decide what is read, and these are taken. -/
def Intake {β : Type} (read : LineSource → β × LineSource) : Prop :=
  ∀ source, ∃ count, ∀ other, Agree count other.arrivals source.arrivals →
    (read other).1 = (read source).1 ∧ Advances count other (read other).2

variable {β γ : Type} {read : LineSource → β × LineSource}

theorem Intake.map (h : Intake read) (f : β → γ) :
    Intake fun source => (f (read source).1, (read source).2) := by
  intro source
  obtain ⟨count, hcount⟩ := h source
  refine ⟨count, fun other hagree => ?_⟩
  have hread := hcount other hagree
  exact ⟨congrArg f hread.1, hread.2⟩

/-- Two readers one after the other; the second may look at what the first has read. -/
theorem Intake.bind (h : Intake read) {next : β → LineSource → γ × LineSource}
    (hnext : ∀ value, Intake (next value)) :
    Intake fun source => next (read source).1 (read source).2 := by
  intro source
  obtain ⟨first, hfirst⟩ := h source
  obtain ⟨second, hsecond⟩ := hnext (read source).1 (read source).2
  refine ⟨first + second, fun other hagree => ?_⟩
  have hself := (hfirst source (.refl first source.arrivals)).2
  have hread := hfirst other (hagree.mono (Nat.le_add_right first second))
  have hrest : Agree second (read other).2.arrivals (read source).2.arrivals := by
    rw [hread.2.arrivals, hself.arrivals]
    exact hagree.drop
  have hlater := hsecond (read other).2 hrest
  dsimp only
  rw [hread.1]
  refine ⟨hlater.1, ?_, ?_⟩
  · rw [hlater.2.arrivals, hread.2.arrivals, List.drop_drop]
  · rw [hlater.2.handed, hread.2.handed]

theorem readLogical_of_endOfInput {source : LineSource} (theme : Theme)
    (h : source.arrivals = [] ∨ ∃ tail, source.arrivals = .endOfInput :: tail) :
    source.readLogical theme =
      { result := .ok .endOfInput
        source := { source.ask 1 theme.prompt with arrivals := source.arrivals.drop 1 }
        notes := [] } := by
  obtain ⟨arrivals, asked, handed⟩ := source
  rcases h with rfl | ⟨tail, rfl⟩
  · rfl
  · rfl

theorem intake_readLogical (theme : Theme) :
    Intake fun source =>
      (((source.readLogical theme).result, (source.readLogical theme).notes),
        (source.readLogical theme).source) := by
  rintro ⟨arrivals, asked, handed⟩
  by_cases hend : arrivals.getD 0 .endOfInput = .endOfInput
  · refine ⟨1, fun other hagree => ?_⟩
    have hsource := Agree.eq_nil_or_cons (.refl 1 arrivals) hend
    dsimp only
    rw [readLogical_of_endOfInput theme (hagree.eq_nil_or_cons hend),
      readLogical_of_endOfInput theme hsource]
    exact ⟨rfl, rfl, rfl⟩
  cases arrivals with
  | nil => exact absurd rfl hend
  | cons arrival rest =>
    cases arrival with
    | line text =>
      obtain ⟨count, hcount⟩ :=
        exists_intake_joinArrivals (Quoting.bare.after text.toList) text.toList.reverse rest
      refine ⟨count + 1, fun other hagree => ?_⟩
      obtain ⟨tail, harrivals, htail⟩ := hagree.of_cons hend
      obtain ⟨arrivals, asked', handed'⟩ := other
      obtain rfl : arrivals = .line text :: tail := harrivals
      simp only [readLogical, next, ask, hcount tail htail]
      exact ⟨trivial, rfl, rfl⟩
    | interrupt | failure cause =>
      refine ⟨1, fun other hagree => ?_⟩
      obtain ⟨tail, harrivals, -⟩ := hagree.of_cons hend
      obtain ⟨arrivals, asked', handed'⟩ := other
      obtain rfl := harrivals
      exact ⟨rfl, rfl, rfl⟩
    | endOfInput => exact absurd rfl hend

end LineSource

namespace Collection

def reader {α : Type} (fill : Collection → α → Collection × α) (part : α) (interrupted : Bool)
    (notes : Transcript) (source : LineSource) : (Bool × Transcript × α) × LineSource :=
  let filled := fill { source, interrupted, notes } part
  ((filled.1.interrupted, filled.1.notes, filled.2), filled.1.source)

/-- A way to fill in which a number of arrivals decide what is read. -/
def Intake {α : Type} (fill : Collection → α → Collection × α) : Prop :=
  ∀ part interrupted notes, LineSource.Intake (reader fill part interrupted notes)

theorem intake_fill (prompt : String) : Intake (fill prompt) := by
  intro redirection interrupted notes source
  by_cases hskip : (interrupted || !redirection.awaitsBody) = true
  · refine ⟨0, fun other _ => ?_⟩
    simp only [reader, fill, hskip, if_true]
    exact ⟨trivial, rfl, rfl⟩
  · obtain ⟨count, hcount⟩ := exists_intake_readBody redirection.target source.arrivals
    refine ⟨count, fun other hagree => ?_⟩
    have hread := hcount other.arrivals hagree
    simp only [reader, fill, hskip, hread, BodyRead.body]
    cases (readBody redirection.target source.arrivals).lines with
    | none => exact ⟨rfl, rfl, rfl⟩
    | some lines => exact ⟨rfl, rfl, rfl⟩

theorem Intake.mapWithState {α : Type} {fill : Collection → α → Collection × α}
    (h : Intake fill) : Intake (mapWithState fill) := by
  intro parts
  induction parts with
  | nil =>
    intro interrupted notes source
    exact ⟨0, fun other _ => ⟨rfl, rfl, rfl⟩⟩
  | cons part parts ih =>
    intro interrupted notes
    exact (h part interrupted notes).bind fun filled =>
      (ih filled.1 filled.2.1).map fun later => (later.1, later.2.1, filled.2.2 :: later.2.2)

theorem intake_fillCommand (prompt : String) : Intake (fillCommand prompt) := by
  intro command interrupted notes
  have hfilled := (intake_fill prompt).mapWithState command.redirections interrupted notes
  exact hfilled.map fun filled =>
    (filled.1, filled.2.1, { command with redirections := filled.2.2 })

theorem intake_fillPipeline (prompt : String) : Intake (fillPipeline prompt) := by
  intro pipeline interrupted notes
  have hfilled := (intake_fillCommand prompt).mapWithState pipeline.commands interrupted notes
  exact hfilled.map fun filled =>
    (filled.1, filled.2.1, { pipeline with commands := filled.2.2 })

end Collection

theorem intake_collectHereDocs (prompt : String) (list : CommandList) :
    LineSource.Intake fun source =>
      let collected := collectHereDocs prompt source list
      ((collected.1.interrupted, collected.1.notes, collected.2), collected.1.source) :=
  (Collection.intake_fillPipeline prompt).mapWithState list false []

theorem intake_execute (session : Session) (prompt : String) (list : CommandList) :
    LineSource.Intake fun source => session.execute source prompt list := by
  have hexecute : (fun source => session.execute source prompt list) = fun source =>
      let collected := collectHereDocs prompt source list
      let told := session.emit collected.1.notes
      (if collected.1.interrupted then
          (told.log .debug "heredoc 输入被中断").setStatus interruptedStatus
        else told.runList collected.2, collected.1.source) := by
    funext source
    rw [execute_eq]
    dsimp only
    split <;> rfl
  rw [hexecute]
  exact (intake_collectHereDocs prompt list).map fun collected =>
    let told := session.emit collected.2.1
    if collected.1 then (told.log .debug "heredoc 输入被中断").setStatus interruptedStatus
    else told.runList collected.2.2

namespace Shell

def withSource (shell : Shell) (source : LineSource) : Shell :=
  { shell with source }

end Shell

def Turn.withSource : Turn → LineSource → Turn
  | .again shell, source => .again (shell.withSource source)
  | .finished shell, source => .finished (shell.withSource source)

theorem Turn.shell_withSource (turn : Turn) (source : LineSource) :
    (turn.withSource source).shell = turn.shell.withSource source := by
  cases turn <;> rfl

namespace Shell

/-- What a shell does depends on the next arrivals, as many as the number tells, and these are
taken. -/
def TakesOnly (act : Shell → Turn) (shell : Shell) (count : Nat) : Prop :=
  ∀ other : LineSource, other.handed = shell.source.handed →
    Agree count other.arrivals shell.source.arrivals →
    ∃ after, act (shell.withSource other) = (act shell).withSource after ∧
      after.arrivals = other.arrivals.drop count ∧ after.handed = (act shell).shell.source.handed

theorem exists_afterParse_withSource (shell : Shell) (line : String) {other : LineSource}
    (hhanded : other.handed = shell.source.handed) :
    ∃ after, (shell.withSource other).afterParse line = (shell.afterParse line).withSource after ∧
      after.arrivals = other.arrivals ∧ after.handed = (shell.afterParse line).source.handed := by
  by_cases haccepts : shell.session.state.history.accepts line = true
  · refine ⟨other.addRecall line, ?_, rfl, ?_⟩
    · simp [afterParse, remember, withSource, haccepts]
    · simp [afterParse, remember, haccepts, LineSource.addRecall, hhanded]
  · refine ⟨other, ?_, rfl, ?_⟩
    · simp [afterParse, remember, withSource, haccepts]
    · simp [afterParse, remember, haccepts, hhanded]

theorem arrivals_afterParse (shell : Shell) (line : String) :
    (shell.afterParse line).source.arrivals = shell.source.arrivals := by
  by_cases haccepts : shell.session.state.history.accepts line = true
  · simp [afterParse, remember, haccepts, LineSource.addRecall]
  · simp [afterParse, remember, haccepts]

theorem theme_afterParse (shell : Shell) (line : String) :
    (shell.afterParse line).theme = shell.theme := by
  by_cases haccepts : shell.session.state.history.accepts line = true
  · simp [afterParse, remember, haccepts]
  · simp [afterParse, remember, haccepts]

theorem exists_intake_runLine (shell : Shell) (line : String) :
    ∃ count, TakesOnly (fun shell => .again (shell.runLine line)) shell count := by
  by_cases hblank : Text.isBlank line = true
  · refine ⟨0, fun other hhanded _ => ⟨other, ?_, rfl, ?_⟩⟩
    · simp only [runLine_of_blank _ hblank]
      rfl
    · simp only [runLine_of_blank _ hblank]
      exact hhanded
  cases hparse : parseLine line with
  | error error =>
    refine ⟨0, fun other hhanded _ => ?_⟩
    obtain ⟨after, hafter, harrivals, hkept⟩ := shell.exists_afterParse_withSource line hhanded
    refine ⟨after, ?_, harrivals, ?_⟩
    · simp only [runLine_of_error _ hblank hparse, hafter]
      rfl
    · simp only [runLine_of_error _ hblank hparse]
      exact hkept
  | ok list =>
    let told := (shell.afterParse line).log .debug ("解析结果: " ++ CommandList.shown list)
    obtain ⟨count, hcount⟩ := intake_execute told.session told.theme.hereDoc list told.source
    refine ⟨count, fun other hhanded hagree => ?_⟩
    obtain ⟨after, hafter, harrivals, hkept⟩ := shell.exists_afterParse_withSource line hhanded
    have hsame : Agree count after.arrivals told.source.arrivals := by
      rw [harrivals]
      exact (shell.arrivals_afterParse line).symm ▸ hagree
    have hother := hcount after hsame
    have hself := hcount told.source (.refl count told.source.arrivals)
    refine ⟨(told.session.execute after told.theme.hereDoc list).2, ?_, ?_, ?_⟩
    · simp only [runLine_of_ok _ hblank hparse, hafter, Turn.withSource]
      refine congrArg Turn.again ?_
      let ran (session : Session) (source : LineSource) : Shell :=
        { told with session, source }.takeSignals
      change ran (told.session.execute after told.theme.hereDoc list).1 _ =
        (ran (told.session.execute told.source told.theme.hereDoc list).1 _).withSource _
      rw [hother.1]
      rfl
    · rw [hother.2.arrivals, harrivals]
    · rw [hother.2.handed, hkept]
      simp only [runLine_of_ok _ hblank hparse]
      exact hself.2.handed.symm

theorem exists_intake_respond (shell : Shell) (read : Except ShellError Reading) :
    ∃ count, TakesOnly (fun shell => shell.respond read) shell count := by
  match read with
  | .ok (.line line) => exact shell.exists_intake_runLine line
  | .ok .interrupted | .ok .endOfInput | .error error =>
    exact ⟨0, fun other hhanded _ => ⟨other, rfl, rfl, hhanded⟩⟩

/-- A turn depends on the arrivals that it takes, and on no others. -/
theorem exists_intake_turn (shell : Shell) : ∃ count, TakesOnly turn shell count := by
  by_cases hexit : shell.session.state.shouldExit = true
  · refine ⟨0, fun other hhanded _ => ⟨other, ?_, rfl, ?_⟩⟩
    · have hexit' : (shell.withSource other).session.state.shouldExit = true := hexit
      rw [turn_of_shouldExit hexit, turn_of_shouldExit hexit']
      rfl
    · rw [turn_of_shouldExit hexit]
      exact hhanded
  obtain ⟨first, hfirst⟩ := LineSource.intake_readLogical shell.theme shell.source
  obtain ⟨second, hsecond⟩ :=
    shell.afterRead.exists_intake_respond (shell.source.readLogical shell.theme).result
  refine ⟨first + second, fun other hhanded hagree => ?_⟩
  have hself := (hfirst shell.source (.refl first _)).2
  have hread := hfirst other (hagree.mono (Nat.le_add_right first second))
  dsimp only at hread hself
  have hresult := congrArg Prod.fst hread.1
  have hnotes := congrArg Prod.snd hread.1
  dsimp only at hresult hnotes
  have hafter : (shell.withSource other).afterRead =
      shell.afterRead.withSource (other.readLogical shell.theme).source := by
    simp only [afterRead, withSource, hnotes]
  have hrest : Agree second (other.readLogical shell.theme).source.arrivals
      shell.afterRead.source.arrivals := by
    rw [hread.2.arrivals]
    change Agree second _ (shell.source.readLogical shell.theme).source.arrivals
    rw [hself.arrivals]
    exact hagree.drop
  have hkept : (other.readLogical shell.theme).source.handed = shell.afterRead.source.handed := by
    rw [hread.2.handed, hhanded]
    exact hself.handed.symm
  obtain ⟨after, hturn, harrivals, hafterwards⟩ := hsecond _ hkept hrest
  have hexit' : ¬(shell.withSource other).session.state.shouldExit = true := hexit
  have hother : (shell.withSource other).turn =
      (shell.withSource other).afterRead.respond (other.readLogical shell.theme).result :=
    turn_of_not_shouldExit hexit'
  rw [turn_of_not_shouldExit hexit, hother, hresult, hafter]
  refine ⟨after, hturn, ?_, hafterwards⟩
  rw [harrivals, hread.2.arrivals, List.drop_drop]

theorem TakesOnly.arrivals {act : Shell → Turn} {shell : Shell} {count : Nat}
    (h : TakesOnly act shell count) :
    (act shell).shell.source.arrivals = shell.source.arrivals.drop count := by
  obtain ⟨after, hact, harrivals, -⟩ := h shell.source rfl (.refl count _)
  have hshell : (act shell).shell = (act shell).shell.withSource after := by
    rw [← Turn.shell_withSource, ← hact]
    rfl
  rw [hshell]
  exact harrivals

theorem TakesOnly.withSource {act : Shell → Turn} {shell : Shell} {count : Nat}
    (h : TakesOnly act shell count) {source : LineSource}
    (hhanded : source.handed = shell.source.handed)
    (hagree : Agree count source.arrivals shell.source.arrivals) :
    TakesOnly act (shell.withSource source) count := by
  intro other hother hsame
  obtain ⟨first, hfirst, -, hkept⟩ := h source hhanded hagree
  obtain ⟨after, hafter, harrivals, hafterwards⟩ :=
    h other (hother.trans hhanded) (hsame.trans hagree)
  refine ⟨after, ?_, harrivals, ?_⟩
  · rw [hfirst]
    refine Eq.trans hafter ?_
    cases act shell <;> rfl
  · rw [hafterwards, ← hkept, hfirst, Turn.shell_withSource]
    rfl

theorem arrivals_execute (session : Session) (prompt : String) (list : CommandList)
    {source other : LineSource} (h : source.arrivals = other.arrivals) :
    (session.execute source prompt list).2.arrivals =
      (collectHereDocs prompt other list).1.source.arrivals := by
  obtain ⟨count, hcount⟩ := intake_collectHereDocs prompt list other
  have hsame : Agree count source.arrivals other.arrivals := h ▸ .refl count _
  rw [execute_source, (hcount source hsame).2.arrivals, (hcount other (.refl count _)).2.arrivals,
    h]

theorem reads_sourceAfterTurn (shell : Shell) :
    shell.afterRead.source.Reads shell.sourceAfterTurn := by
  unfold sourceAfterTurn
  dsimp only
  split
  · split
    · exact reads_collectHereDocs _ _ _
    · exact .refl _
  · exact .refl _

theorem length_sourceAfterTurn_le_runLine (shell : Shell) {line : String}
    (hline : (shell.source.readLogical shell.theme).result = .ok (.line line)) :
    shell.sourceAfterTurn.arrivals.length ≤
      (shell.afterRead.runLine line).source.arrivals.length := by
  by_cases hblank : Text.isBlank line = true
  · rw [runLine_of_blank _ hblank]
    exact shell.reads_sourceAfterTurn.arrivals.length_le
  have harrivals := shell.afterRead.arrivals_afterParse line
  cases hparse : parseLine line with
  | error error =>
    rw [runLine_of_error _ hblank hparse]
    simp only [sourceAfterTurn, hline, hparse]
    exact Nat.le_of_eq (congrArg List.length harrivals.symm)
  | ok list =>
    rw [runLine_of_ok _ hblank hparse]
    simp only [sourceAfterTurn, hline, hparse]
    apply Nat.le_of_eq
    refine congrArg List.length (Eq.symm ?_)
    change (Session.execute _ _ (shell.afterRead.afterParse line).theme.hereDoc list).2.arrivals = _
    rw [theme_afterParse]
    exact arrivals_execute _ _ list harrivals

/-- A turn takes no more arrivals than it is foreseen to take. It may take fewer if the shell is
about to leave or the line is blank. -/
theorem length_sourceAfterTurn_le (shell : Shell) :
    shell.sourceAfterTurn.arrivals.length ≤ shell.turn.shell.source.arrivals.length := by
  by_cases hexit : shell.session.state.shouldExit = true
  · rw [turn_of_shouldExit hexit]
    exact (shell.reads_afterRead.trans shell.reads_sourceAfterTurn).arrivals.length_le
  rw [turn_of_not_shouldExit hexit]
  have hforeseen := shell.reads_sourceAfterTurn.arrivals.length_le
  cases hread : (shell.source.readLogical shell.theme).result with
  | error error => exact hforeseen
  | ok reading =>
    cases reading with
    | line line => exact shell.length_sourceAfterTurn_le_runLine hread
    | interrupted => exact hforeseen
    | endOfInput => exact hforeseen

theorem length_sourceAfterTurn_lt (shell : Shell) (h : shell.source.arrivals ≠ []) :
    shell.sourceAfterTurn.arrivals.length < shell.source.arrivals.length := by
  obtain ⟨arrival, rest, harrivals⟩ := List.exists_cons_of_ne_nil h
  have hread := shell.source.reads_readLogical_of_cons shell.theme harrivals
  have hlength := (hread.trans shell.reads_sourceAfterTurn).arrivals.length_le
  rw [harrivals, List.length_cons]
  exact Nat.lt_succ_of_le hlength

theorem arrivals_sourceAfterTurn {shell : Shell} {line : String} {rest : List Arrival}
    {list : CommandList} (h : shell.source.arrivals = .line line :: rest)
    (hcomplete : completeness line = .complete) (hparse : parseLine line = .ok list)
    (hnone : ∀ source, (collectHereDocs shell.theme.hereDoc source list).1.source = source) :
    shell.sourceAfterTurn.arrivals = rest := by
  obtain ⟨hresult, hsource⟩ := shell.source.readLogical_of_complete shell.theme h hcomplete
  unfold sourceAfterTurn
  dsimp only
  rw [hresult]
  dsimp only
  rw [hparse]
  dsimp only
  rw [hnone, hsource]

end Shell

end CommandShell
