import CommandShell.Proofs.BuiltinEffects
import CommandShell.Proofs.StateInvariants
import CommandShell.Proofs.Surroundings

/-!
# Scripts one after the other

A shell that runs two scripts as one does what it would do on the first and then, from where that
left it, on the second. Where the first script ends a logical line is the only thing that can come
in between, and a shell that was asked to leave never gets to the second.
-/

namespace CommandShell

theorem Shell.interactive_loop (shell : Shell) :
    shell.loop.session.state.interactive = shell.session.state.interactive :=
  (ShellState.invariant_interactive _).session.loop shell rfl

def Turn.next? : Turn → Option Shell
  | .again shell => some shell
  | .finished _ => none

namespace Shell

variable {shell next done : Shell}

/-- The end of input is met only where a logical line would start: whenever the loop goes on, all
reads so far found an arrival. -/
def EndsBetweenLines (shell : Shell) : Prop :=
  ∀ count, ∀ next ∈ (turns count shell).next?, shell.source.Supplied next.source

instance (shell : Shell) : Decidable shell.EndsBetweenLines :=
  decidable_of_iff
    (∀ count < shell.source.arrivals.length + 1,
      ∀ next ∈ (turns count shell).next?, shell.source.Supplied next.source) <| by
    refine ⟨fun h count next hnext => ?_, fun h count _ => h count⟩
    by_cases hcount : count < shell.source.arrivals.length + 1
    · exact h count hcount next hnext
    · rw [turns_eq_finished_loop shell (by omega)] at hnext
      cases hnext

theorem EndsBetweenLines.supplied (h : shell.EndsBetweenLines) (hturn : shell.turn = .again next) :
    shell.source.Supplied next.source := by
  apply h 1
  rw [turns, hturn]
  rfl

theorem EndsBetweenLines.of_again (h : shell.EndsBetweenLines) (hturn : shell.turn = .again next) :
    next.EndsBetweenLines := by
  intro count later hlater
  have hnext : shell.source.Supplied next.source := h.supplied hturn
  have hall : shell.source.Supplied later.source := by
    apply h (count + 1)
    rw [turns, hturn]
    exact hlater
  exact hall.trans hnext.symm

/-- A shell at the end of a script takes leave there, and with more to come goes on from there. -/
theorem exists_last (shell : Shell)
    (hlines : ∀ arrival ∈ shell.source.arrivals, arrival.reading ≠ .endOfInput)
    (hends : shell.EndsBetweenLines) (hstays : shell.loop.session.state.shouldExit = false) :
    ∃ last : Shell, last.source.arrivals = [] ∧ shell.loop = last.afterRead.farewell ∧
      ∀ around, (shell.within around).loop = (last.within around).loop := by
  induction shell using loop_induction with
  | finished shell done hturn =>
    rw [loop_of_finished hturn] at hstays ⊢
    obtain ⟨hexit, rfl⟩ | ⟨-, hread, hdone⟩ := finished_cases hturn
    · rw [hexit] at hstays
      cases hstays
    · exact ⟨shell, shell.source.eq_nil_of_readLogical shell.theme hlines hread, hdone,
        fun _ => rfl⟩
  | again shell next hturn ih =>
    have hreads := shell.reads_turn
    rw [hturn] at hreads
    rw [loop_of_again hturn] at hstays ⊢
    have hrest (arrival) (h : arrival ∈ next.source.arrivals) : arrival.reading ≠ .endOfInput :=
      hlines arrival (hreads.arrivals.subset h)
    obtain ⟨last, hempty, hloop, hgoes⟩ := ih hrest (hends.of_again hturn) hstays
    refine ⟨last, hempty, hloop, fun around => ?_⟩
    have hnext : (shell.within around).turn = .again (next.within around) := by
      rw [turn_within (by rw [hturn]; exact .inr (hends.supplied hturn)), hturn]
      rfl
    rw [loop_of_again hnext, hgoes]

def followedBy (shell : Shell) (later : List Arrival) : Shell :=
  { shell with source := { shell.source with arrivals := shell.source.arrivals ++ later } }

theorem followedBy_eq_within (shell : Shell) (later : List Arrival) :
    shell.followedBy later = shell.within { later } := by
  simp [followedBy, within, LineSource.within, Session.precededBy]

/-- A shell with nothing written yet that starts where another one ended. -/
def resume (shell : Shell) (source : LineSource) : Shell :=
  { shell with session := { state := shell.session.state, world := shell.session.world }, source }

/-- A run that does what a first one and then a second one do. Only the first one has the end of
its input in its log. -/
structure Joins (both first second : Shell) : Prop where
  state : both.session.state = second.session.state
  world : both.session.world = second.session.world
  unread : both.source.arrivals = second.source.arrivals
  stdout : both.session.transcript.stdout =
    first.session.transcript.stdout ++ second.session.transcript.stdout
  stderr : both.session.transcript.stderr =
    first.session.transcript.stderr ++ second.session.transcript.stderr
  transcript : ∃ written, both.session.transcript = written ++ second.session.transcript ∧
    first.session.transcript = written ++ [.log .debug "接收到 EOF，退出"]

theorem transcript_farewell (h : shell.source.arrivals = [])
    (hmode : shell.session.state.interactive = false) :
    shell.afterRead.farewell.session.transcript =
      shell.session.transcript ++ [.log .debug "接收到 EOF，退出"] := by
  have hfarewell : shell.afterRead.farewell.session.transcript =
      shell.session.transcript ++ (shell.source.readLogical shell.theme).notes ++
        [.log .debug "接收到 EOF，退出"] ++
        if shell.session.state.interactive then [.diagnostic (Bytes.ofText "exit\n")] else [] := by
    rw [← Session.transcript_emit, ← Session.transcript_emit, ← Session.transcript_emit]
    rfl
  rw [hfarewell, shell.source.readLogical_of_empty shell.theme h, hmode]
  simp

theorem joins_of_last {last : Shell} (hempty : last.source.arrivals = [])
    (hmode : last.session.state.interactive = false) (source : LineSource) :
    (last.within { later := source.arrivals }).loop.Joins last.afterRead.farewell
      (last.afterRead.farewell.resume source).loop := by
  let fresh : Shell :=
    { last with
      session := { state := last.session.state, world := last.session.world }
      source := { arrivals := source.arrivals } }
  let before : Surroundings :=
    { written := last.session.recent, asked := last.source.asked, handed := last.source.handed }
  have hgoes : last.within { later := source.arrivals } = fresh.within before := by
    simp [within, Session.precededBy, LineSource.within, fresh, before, hempty]
  have hresumes : last.afterRead.farewell.resume source =
      fresh.within { asked := source.asked, handed := source.handed } := by
    simp only [within, LineSource.within, fresh, List.append_nil, List.nil_append]
    rfl
  have hwritten : (fresh.loop.within before).session.transcript =
      last.session.transcript ++ fresh.loop.session.transcript :=
    fresh.loop.session.transcript_precededBy _
  have hsecond : (fresh.loop.within
      { asked := source.asked, handed := source.handed }).session.transcript =
        fresh.loop.session.transcript :=
    fresh.loop.session.transcript_precededBy []
  have hfirst := transcript_farewell hempty hmode
  rw [hgoes, hresumes, loop_within (.inl rfl), loop_within (.inl rfl)]
  refine ⟨rfl, rfl, rfl, ?_, ?_, last.session.transcript, ?_, hfirst⟩
  · rw [hwritten, hsecond, hfirst, Transcript.stdout_append, Transcript.stdout_append]
    simp [Transcript.stdout]
  · rw [hwritten, hsecond, hfirst, Transcript.stderr_append, Transcript.stderr_append]
    simp [Transcript.stderr]
  · rw [hwritten, hsecond]

theorem loop_concatenates (shell : Shell) (later : List Arrival)
    (hmode : shell.session.state.interactive = false)
    (hlines : ∀ arrival ∈ shell.source.arrivals, arrival.reading ≠ .endOfInput) :
    (shell.EndsBetweenLines → shell.loop.session.state.shouldExit = false →
      ∀ source : LineSource, source.arrivals = later →
        (shell.followedBy later).loop.Joins shell.loop (shell.loop.resume source).loop) ∧
    (shell.loop.session.state.shouldExit = true → shell.source.Supplied shell.loop.source →
      (shell.followedBy later).loop = shell.loop.followedBy later) := by
  refine ⟨fun hends hstays source hsource => ?_, fun _ hsupplied => ?_⟩
  · obtain ⟨last, hempty, hloop, hgoes⟩ := shell.exists_last hlines hends hstays
    have hlast : last.session.state.interactive = false := by
      have hkept := shell.interactive_loop
      rw [hloop] at hkept
      exact hkept.trans hmode
    rw [followedBy_eq_within, hgoes, hloop, ← hsource]
    exact joins_of_last hempty hlast source
  · rw [followedBy_eq_within, followedBy_eq_within]
    exact loop_within (.inr hsupplied)

theorem loop_concatenates_scripts :
    let session : Session :=
      { state := {}, world := { programs := fun _ invocation => { files := invocation.files } } }
    let later : List Arrival := [.line "echo $K"]
    let staying : Shell :=
      { session
        source := { arrivals := [.line "export K='a", .line "b'", .interrupt, .line "cd << E",
          .line "exit", .line "E"] }
        theme := .plain }
    let leaving : Shell :=
      { session, source := { arrivals := [.line "exit 3 \\", .line "", .line "echo"] }
        theme := .plain }
    (staying.EndsBetweenLines ∧ staying.loop.session.state.shouldExit = false ∧
      (staying.followedBy later).loop.Joins staying.loop
        (staying.loop.resume { arrivals := later }).loop) ∧
    leaving.loop.session.state.shouldExit = true ∧
      leaving.source.Supplied leaving.loop.source ∧
      (leaving.followedBy later).loop = leaving.loop.followedBy later := by
  intro session later staying leaving
  have hends : staying.EndsBetweenLines := by decide +kernel
  have hstays : staying.loop.session.state.shouldExit = false := by decide +kernel
  have hleaves : leaving.loop.session.state.shouldExit = true := by decide +kernel
  have hsupplied : leaving.source.Supplied leaving.loop.source := by decide +kernel
  refine ⟨⟨hends, hstays, ?_⟩, hleaves, hsupplied, ?_⟩
  · exact (staying.loop_concatenates later rfl (by decide)).1 hends hstays _ rfl
  · exact (leaving.loop_concatenates later rfl (by decide)).2 hleaves hsupplied

end Shell

end CommandShell
