import CommandShell.Proofs.HereDocs
import CommandShell.Shell

/-!
# Turns of the loop

Whatever a turn reads, it takes from the front of the source, and every turn but the last takes
something. So the bound on the number of turns is never what ends the loop.
-/

namespace CommandShell

namespace LineSource

/-- The prompts shown and the arrivals left. A read that finds an arrival keeps their number, and
one past the last arrival adds to it. -/
def tally (source : LineSource) : Nat :=
  source.asked.length + source.arrivals.length

/-- Every read between two sources found an arrival. -/
def Supplied (before after : LineSource) : Prop :=
  after.tally = before.tally
  deriving Decidable

/-- What reading can make of a source. -/
structure Reads (before after : LineSource) : Prop where
  arrivals : after.arrivals <:+ before.arrivals
  tally : before.tally ≤ after.tally

variable {source middle after : LineSource}

theorem Reads.refl (source : LineSource) : source.Reads source :=
  ⟨List.suffix_rfl, Nat.le_refl _⟩

theorem Reads.trans (hfirst : source.Reads middle) (hsecond : middle.Reads after) :
    source.Reads after :=
  ⟨hsecond.arrivals.trans hfirst.arrivals, Nat.le_trans hfirst.tally hsecond.tally⟩

theorem Supplied.left (h : source.Supplied after) (hfirst : source.Reads middle)
    (hsecond : middle.Reads after) : source.Supplied middle := by
  have hle := hfirst.tally
  have hle' := hsecond.tally
  rw [Supplied] at h ⊢
  omega

theorem Supplied.right (h : source.Supplied after) (hfirst : source.Reads middle)
    (hsecond : middle.Reads after) : middle.Supplied after :=
  Eq.trans h (h.left hfirst hsecond).symm

theorem tally_ask (source : LineSource) (count : Nat) (prompt : String) :
    (source.ask count prompt).tally = count + source.tally := by
  simp [tally, ask, Nat.add_assoc]

theorem reads_take (source : LineSource) {rest : List Arrival} {count : Nat}
    (hrest : rest <:+ source.arrivals) (hcount : source.arrivals.length ≤ count + rest.length)
    (prompt : String) : source.Reads ({ source with arrivals := rest }.ask count prompt) := by
  refine ⟨hrest, ?_⟩
  rw [tally_ask]
  simp only [tally]
  omega

end LineSource

theorem rest_joinArrivals (quoting : Quoting) (chars : List Char) (arrivals : List Arrival) :
    (joinArrivals quoting chars arrivals).rest <:+ arrivals ∧
      arrivals.length ≤
        (joinArrivals quoting chars arrivals).asked +
          (joinArrivals quoting chars arrivals).rest.length := by
  fun_induction joinArrivals quoting chars arrivals with
  | case3 _ _ _ _ _ _ ih | case8 _ _ _ _ _ ih =>
    refine ⟨ih.1.trans (List.suffix_cons _ _), ?_⟩
    simp only [Joined.askedOnce, List.length_cons]
    omega
  | _ => simp [Nat.add_comm]

theorem result_joinArrivals (quoting : Quoting) (chars : List Char) (arrivals : List Arrival) :
    (joinArrivals quoting chars arrivals).result ≠ .ok .endOfInput := by
  fun_induction joinArrivals quoting chars arrivals with
  | case3 _ _ _ _ _ _ ih | case8 _ _ _ _ _ ih => exact ih
  | _ => nofun

theorem rest_readBody (delimiter : String) (arrivals : List Arrival) :
    (readBody delimiter arrivals).rest <:+ arrivals ∧
      arrivals.length ≤
        (readBody delimiter arrivals).asked + (readBody delimiter arrivals).rest.length := by
  fun_induction readBody delimiter arrivals with
  | case3 _ _ _ ih =>
    refine ⟨ih.1.trans (List.suffix_cons _ _), ?_⟩
    simp only [BodyRead.precededBy, List.length_cons]
    omega
  | _ => simp [Nat.add_comm]

namespace LineSource

variable (source : LineSource) (theme : Theme)

theorem readLogical_of_empty (h : source.arrivals = []) :
    source.readLogical theme =
      { result := .ok .endOfInput, source := source.ask 1 theme.prompt, notes := [] } := by
  obtain ⟨arrivals, asked, handed⟩ := source
  obtain rfl : arrivals = [] := h
  rfl

theorem reads_readLogical_of_cons {arrival : Arrival} {rest : List Arrival}
    (h : source.arrivals = arrival :: rest) :
    ({ source with arrivals := rest }.ask 1 theme.prompt).Reads
      (source.readLogical theme).source := by
  obtain ⟨arrivals, asked, handed⟩ := source
  obtain rfl : arrivals = arrival :: rest := h
  cases arrival with
  | line text =>
    obtain ⟨hrest, hcount⟩ :=
      rest_joinArrivals (Quoting.bare.after text.toList) text.toList.reverse rest
    exact reads_take _ hrest hcount theme.continuation
  | interrupt => exact .refl _
  | endOfInput => exact .refl _
  | failure cause => exact .refl _

theorem reads_readLogical : source.Reads (source.readLogical theme).source := by
  cases h : source.arrivals with
  | nil =>
    rw [source.readLogical_of_empty theme h]
    exact ⟨List.suffix_rfl, by rw [tally_ask]; omega⟩
  | cons arrival rest =>
    have hfirst : source.Reads ({ source with arrivals := rest }.ask 1 theme.prompt) := by
      apply reads_take
      · rw [h]
        exact List.suffix_cons _ _
      · rw [h, List.length_cons]
        omega
    exact hfirst.trans (source.reads_readLogical_of_cons theme h)

theorem readLogical_of_complete {line : String} {rest : List Arrival}
    (h : source.arrivals = .line line :: rest)
    (hcomplete : completeness line = .complete) :
    (source.readLogical theme).result = .ok (.line line) ∧
      (source.readLogical theme).source.arrivals = rest := by
  obtain ⟨arrivals, asked, handed⟩ := source
  obtain rfl : arrivals = _ := h
  rw [completeness] at hcomplete
  unfold readLogical
  dsimp only [next]
  unfold joinArrivals
  simp [hcomplete, ask]

/-- A logical line that was begun is never taken for the end of input. -/
theorem eq_nil_of_readLogical (hlines : ∀ arrival ∈ source.arrivals, arrival.reading ≠ .endOfInput)
    (h : (source.readLogical theme).result = .ok .endOfInput) : source.arrivals = [] := by
  obtain ⟨arrivals, asked, handed⟩ := source
  cases arrivals with
  | nil => rfl
  | cons arrival rest =>
    cases arrival with
    | line text => exact absurd h (result_joinArrivals _ _ rest)
    | interrupt => cases h
    | endOfInput => exact absurd rfl (hlines .endOfInput List.mem_cons_self)
    | failure cause => exact absurd rfl (hlines (.failure cause) List.mem_cons_self)

end LineSource

namespace Collection

/-- A way to fill a part of a line that takes what it reads from the front of the source. -/
def Consumes {α : Type} (fill : Collection → α → Collection × α) : Prop :=
  ∀ (collection : Collection) (part : α), collection.source.Reads (fill collection part).1.source

theorem source_fill (prompt : String) {collection : Collection} {redirection : Redirection}
    (h : ¬(collection.interrupted || !redirection.awaitsBody) = true) :
    (fill prompt collection redirection).1.source =
      { collection.source with
        arrivals := (readBody redirection.target collection.source.arrivals).rest }.ask
        (readBody redirection.target collection.source.arrivals).asked prompt := by
  rw [fill, if_neg h]
  dsimp only
  split <;> rfl

theorem consumes_fill (prompt : String) : Consumes (fill prompt) := by
  intro collection redirection
  by_cases hskip : (collection.interrupted || !redirection.awaitsBody) = true
  · rw [fill, if_pos hskip]
    exact .refl _
  · obtain ⟨hrest, hcount⟩ := rest_readBody redirection.target collection.source.arrivals
    rw [source_fill prompt hskip]
    exact LineSource.reads_take _ hrest hcount prompt

theorem Consumes.mapWithState {α : Type} {fill : Collection → α → Collection × α}
    (h : Consumes fill) : Consumes (mapWithState fill) := by
  intro collection parts
  induction parts generalizing collection with
  | nil => exact .refl _
  | cons part parts ih => exact (h collection part).trans (ih _)

theorem consumes_fillCommand (prompt : String) : Consumes (fillCommand prompt) :=
  fun collection command =>
    (consumes_fill prompt).mapWithState collection command.redirections

theorem consumes_fillPipeline (prompt : String) : Consumes (fillPipeline prompt) :=
  fun collection pipeline =>
    (consumes_fillCommand prompt).mapWithState collection pipeline.commands

end Collection

theorem reads_collectHereDocs (prompt : String) (source : LineSource) (list : CommandList) :
    source.Reads (collectHereDocs prompt source list).1.source :=
  (Collection.consumes_fillPipeline prompt).mapWithState { source } list

namespace Shell

variable {shell next done : Shell}

theorem reads_remember (shell : Shell) (line : String) :
    shell.source.Reads (shell.remember line).source := by
  unfold remember
  dsimp only
  split
  · exact ⟨List.suffix_rfl, Nat.le_refl _⟩
  · exact .refl _

def afterParse (shell : Shell) (line : String) : Shell :=
  let shell := shell.remember line
  { shell with session := shell.session.emit (parseNotes line) }

theorem runLine_of_blank (shell : Shell) {line : String} (h : Text.isBlank line = true) :
    shell.runLine line = shell := by
  rw [runLine, if_pos h]

theorem runLine_of_error (shell : Shell) {line : String} {error : ShellError}
    (hblank : ¬Text.isBlank line = true) (h : parseLine line = .error error) :
    shell.runLine line = (shell.afterParse line).fail error := by
  rw [runLine, if_neg hblank]
  dsimp only
  rw [h]
  rfl

theorem runLine_of_ok (shell : Shell) {line : String} {list : CommandList}
    (hblank : ¬Text.isBlank line = true) (h : parseLine line = .ok list) :
    shell.runLine line =
      let told := (shell.afterParse line).log .debug ("解析结果: " ++ CommandList.shown list)
      let ran := told.session.execute told.source told.theme.hereDoc list
      { told with session := ran.1, source := ran.2 }.takeSignals := by
  rw [runLine, if_neg hblank]
  dsimp only
  rw [h]
  rfl

theorem reads_execute (session : Session) (source : LineSource) (prompt : String)
    (list : CommandList) : source.Reads (session.execute source prompt list).2 := by
  rw [execute_source]
  exact reads_collectHereDocs prompt source list

theorem reads_runLine (shell : Shell) (line : String) :
    shell.source.Reads (shell.runLine line).source := by
  by_cases hblank : Text.isBlank line = true
  · rw [shell.runLine_of_blank hblank]
    exact .refl _
  · cases hparse : parseLine line with
    | error error =>
      rw [shell.runLine_of_error hblank hparse]
      exact shell.reads_remember line
    | ok list =>
      rw [shell.runLine_of_ok hblank hparse]
      exact (shell.reads_remember line).trans (reads_execute _ _ _ list)

def afterRead (shell : Shell) : Shell :=
  let read := shell.source.readLogical shell.theme
  { shell with session := shell.session.emit read.notes, source := read.source }

def farewell (shell : Shell) : Shell :=
  let shell := shell.log .debug "接收到 EOF，退出"
  { shell with
    session := shell.session.emit
      (if shell.session.state.interactive then [.diagnostic (Bytes.ofText "exit\n")] else []) }

def respond (shell : Shell) : Except ShellError Reading → Turn
  | .ok (.line line) => .again (shell.runLine line)
  | .ok .interrupted =>
    .again { shell with
      session := (shell.session.log .debug "输入被中断").setStatus interruptedStatus }
  | .ok .endOfInput => .finished shell.farewell
  | .error error => .again (shell.fail error)

theorem turn_of_shouldExit (h : shell.session.state.shouldExit = true) :
    shell.turn = .finished shell := by
  rw [turn, if_pos h]

theorem turn_of_not_shouldExit (h : ¬shell.session.state.shouldExit = true) :
    shell.turn = shell.afterRead.respond (shell.source.readLogical shell.theme).result := by
  rw [turn, if_neg h]
  dsimp only
  split <;> rename_i hread <;> rw [hread] <;> rfl

theorem reads_respond (shell : Shell) (read : Except ShellError Reading) :
    shell.source.Reads (shell.respond read).shell.source := by
  match read with
  | .ok (.line line) => exact shell.reads_runLine line
  | .ok .interrupted => exact .refl _
  | .ok .endOfInput => exact .refl _
  | .error error => exact .refl _

theorem reads_afterRead (shell : Shell) : shell.source.Reads shell.afterRead.source :=
  shell.source.reads_readLogical shell.theme

theorem reads_turn (shell : Shell) : shell.source.Reads shell.turn.shell.source := by
  by_cases hexit : shell.session.state.shouldExit = true
  · rw [turn_of_shouldExit hexit]
    exact .refl _
  · rw [turn_of_not_shouldExit hexit]
    exact shell.reads_afterRead.trans (shell.afterRead.reads_respond _)

theorem finished_cases (h : shell.turn = .finished done) :
    (shell.session.state.shouldExit = true ∧ done = shell) ∨
      (¬shell.session.state.shouldExit = true ∧
        (shell.source.readLogical shell.theme).result = .ok .endOfInput ∧
        done = shell.afterRead.farewell) := by
  by_cases hexit : shell.session.state.shouldExit = true
  · rw [turn_of_shouldExit hexit] at h
    cases h
    exact .inl ⟨hexit, rfl⟩
  · rw [turn_of_not_shouldExit hexit] at h
    match hread : (shell.source.readLogical shell.theme).result with
    | .ok .endOfInput =>
      rw [hread] at h
      cases h
      exact .inr ⟨hexit, rfl, rfl⟩
    | .ok (.line line) | .ok .interrupted | .error error =>
      rw [hread] at h
      cases h

/-- Every turn but the last takes something from the source. -/
theorem arrivals_lt_of_again (h : shell.turn = .again next) :
    next.source.arrivals.length < shell.source.arrivals.length := by
  by_cases hexit : shell.session.state.shouldExit = true
  · rw [turn_of_shouldExit hexit] at h
    cases h
  rw [turn_of_not_shouldExit hexit] at h
  cases harrivals : shell.source.arrivals with
  | nil =>
    rw [shell.source.readLogical_of_empty shell.theme harrivals] at h
    cases h
  | cons arrival rest =>
    have hreads := shell.afterRead.reads_respond (shell.source.readLogical shell.theme).result
    rw [h] at hreads
    have hrest := (shell.source.reads_readLogical_of_cons shell.theme harrivals).trans hreads
    have hlength : next.source.arrivals.length ≤ rest.length := hrest.arrivals.length_le
    rw [List.length_cons]
    omega

theorem loop_induction {P : Shell → Prop}
    (finished : ∀ shell done, shell.turn = .finished done → P shell)
    (again : ∀ shell next, shell.turn = .again next → P next → P shell) (shell : Shell) :
    P shell := by
  cases h : shell.turn with
  | finished done => exact finished shell done h
  | again next =>
    have hless := arrivals_lt_of_again h
    exact again shell next h (loop_induction finished again next)
termination_by shell.source.arrivals.length

theorem turns_one (shell : Shell) : turns 1 shell = shell.turn := by
  rw [turns]
  cases shell.turn <;> rfl

theorem exists_turns_finished (shell : Shell) :
    ∃ done, ∀ count, shell.source.arrivals.length < count → turns count shell = .finished done := by
  induction shell using loop_induction with
  | finished shell done h =>
    refine ⟨done, fun count hcount => ?_⟩
    obtain ⟨count, rfl⟩ := Nat.exists_eq_add_of_lt hcount
    rw [turns, h]
  | again shell next h ih =>
    obtain ⟨done, hdone⟩ := ih
    refine ⟨done, fun count hcount => ?_⟩
    have hless := arrivals_lt_of_again h
    obtain ⟨count, rfl⟩ := Nat.exists_eq_add_of_lt hcount
    rw [turns, h]
    exact hdone _ (by omega)

theorem turns_eq_finished_loop (shell : Shell) {count : Nat}
    (h : shell.source.arrivals.length < count) : turns count shell = .finished shell.loop := by
  obtain ⟨done, hdone⟩ := shell.exists_turns_finished
  rw [loop, hdone count h, hdone _ (Nat.lt_succ_self _)]
  rfl

theorem loop_of_finished (h : shell.turn = .finished done) : shell.loop = done := by
  rw [loop, turns, h]
  rfl

theorem loop_of_again (h : shell.turn = .again next) : shell.loop = next.loop := by
  rw [loop, turns, h]
  dsimp only
  rw [turns_eq_finished_loop next (arrivals_lt_of_again h)]
  rfl

theorem across_loop {R : Shell → Shell → Prop} (hturn : ∀ shell : Shell, R shell shell.turn.shell)
    (htrans : ∀ first second third, R first second → R second third → R first third)
    (shell : Shell) : R shell shell.loop := by
  induction shell using loop_induction with
  | finished shell done h =>
    have hdone := hturn shell
    rw [h] at hdone
    rw [loop_of_finished h]
    exact hdone
  | again shell next h ih =>
    have hnext := hturn shell
    rw [h] at hnext
    rw [loop_of_again h]
    exact htrans shell next next.loop hnext ih

theorem reads_loop (shell : Shell) : shell.source.Reads shell.loop.source :=
  across_loop (R := fun before after => before.source.Reads after.source) reads_turn
    (fun _ _ _ hfirst hsecond => hfirst.trans hsecond) shell

def opening (shell : Shell) : Transcript :=
  .log .debug ("初始化 minishell (交互模式: " ++ showBool shell.session.state.interactive ++ ")") ::
    if shell.session.state.interactive then [.log .debug "信号处理器已安装"] else []

def conclude (shell : Shell) : Shell :=
  shell.saveHistory.log .info
    ("退出 minishell，状态 " ++ toString shell.saveHistory.session.state.lastStatus)

theorem runWith_eq (shell : Shell) (loop : Shell → Shell) :
    shell.runWith loop =
      (loop { shell with session := shell.session.emit shell.opening }).conclude := by
  unfold runWith opening
  dsimp only
  rw [handled_signals]
  change (loop (if shell.session.state.interactive = true then _ else _)).conclude = _
  cases shell.session.state.interactive <;> rfl

end Shell

end CommandShell
