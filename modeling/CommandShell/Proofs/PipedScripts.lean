import CommandShell.Proofs.BlockReading

/-!
# Scripts on standard input

A script on standard input shares it with its commands. They find what the fetched blocks leave of
it: nothing if the script fits into one block, and else a part of the script itself.
-/

namespace CommandShell

open Text (Ended pieces)
open Arrival (Agree)

namespace Feed

variable {feed : Feed} {shell plain : Shell}

/-- The feed of a script on standard input, with nothing fetched yet. -/
abbrev piped : Feed :=
  { origin := .stdin }

/-- The turns of a shell with a script on standard input are turns with all lines, but for what is
left of standard input. -/
theorem Serves.turns_input {stdin : StandardInput}
    (h : feed.Serves none shell (plain.withInput stdin)) (hignores : plain.IgnoresInput)
    (limit : Nat) :
    ∃ left, (feed.turns limit shell).session =
      (Shell.turns limit plain).shell.session.withInput left := by
  induction limit generalizing feed shell plain stdin with
  | zero => exact ⟨stdin, h.session⟩
  | succ limit ih =>
    obtain ⟨input, -, -, hserves⟩ := h.turn
    change (plain.withInput input).turn.shell.session.world.script none = _ →
      ∃ after, _ = (plain.withInput input).turn.withSource after ∧
        Feed.Serves none _ _ (plain.withInput input).turn.shell at hserves
    have hturn := hignores.turn input
    have hkept : (plain.withInput input).turn.shell.session.world.script none =
        (plain.withInput input).session.world.script none := by
      rw [hturn, Turn.shell_withInput]
      rfl
    obtain ⟨after, hsame, hserves⟩ := hserves hkept
    rw [Shell.turns]
    cases hplain : plain.turn with
    | finished last =>
      rw [hplain] at hturn
      rcases turns_succ hsame hserves limit with ⟨done, hdone, hsession⟩ | ⟨next, _, _, hnext, -⟩
      · cases hturn.symm.trans hdone
        exact ⟨input, hsession⟩
      · cases hturn.symm.trans hnext
    | again last =>
      rw [hplain] at hturn
      rcases turns_succ hsame hserves limit with
        ⟨done, hdone, -⟩ | ⟨next, later, other, hnext, hturns, hserves⟩
      · cases hturn.symm.trans hdone
      · cases hturn.symm.trans hnext
        rw [hturns]
        exact ih hserves (hignores.again hplain)

theorem drop_drained (count : Nat) : ({} : StandardInput).drop count = {} := by
  simp [StandardInput.drop]

theorem invariant_drained : Session.Invariant fun _ world => world.stdin = {} := by
  refine Session.invariant_of_world (fun _ _ h => h) (fun _ _ h => h) fun world count h => ?_
  change world.stdin.drop count = {}
  rw [h, drop_drained]

theorem Serves.turns_drained (h : feed.Serves none shell plain)
    (hdrained : plain.session.world.stdin = {}) (limit : Nat) :
    (feed.turns limit shell).session = (Shell.turns limit plain).shell.session := by
  induction limit generalizing feed shell plain with
  | zero => exact h.session
  | succ limit ih =>
    have hnext := invariant_drained.turn plain hdrained
    obtain ⟨input, ⟨count, hinput⟩, -, hserves⟩ := h.turn
    have hplain : plain.withInput input = plain := by
      rw [hinput, hdrained, drop_drained, ← hdrained]
      rfl
    rw [hplain] at hserves
    have hkept : plain.turn.shell.session.world.script none = plain.session.world.script none := by
      change plain.turn.shell.session.world.stdin.rest = plain.session.world.stdin.rest
      rw [hnext, hdrained]
    obtain ⟨after, hsame, hserves⟩ := hserves hkept
    refine session_turns_succ hsame hserves fun later other next hturn hserves => ?_
    rw [hturn] at hnext
    exact ih hserves hnext

theorem arrivals_turn_mark (hstays : ¬ shell.session.state.shouldExit = true) :
    (present [.endOfInput] shell).turn.shell.source.arrivals = [] := by
  have hreads : ¬ (present [.endOfInput] shell).session.state.shouldExit = true := hstays
  rw [Shell.turn_of_not_shouldExit hreads]
  rfl

theorem turn_of_mark (hstays : ¬ shell.session.state.shouldExit = true)
    (hready : feed.ready = [.endOfInput]) {input : StandardInput}
    (hworld : (feed.fetch shell).2 = shell.session.world.withInput input) :
    feed.turn shell =
      ((feed.fetch shell).1.after (present (feed.fetch shell).1.ready (shell.withInput input)).turn,
        (present (feed.fetch shell).1.ready (shell.withInput input)).turn) := by
  rw [Feed.turn, hready, arrivals_turn_mark hstays]
  dsimp only [List.isEmpty_nil]
  rw [if_pos rfl, hworld]
  rfl

theorem blocks_of_short (h : shell.session.world.stdin.rest.length ≤ blockSize) :
    piped.blocks shell = shell.session.world.stdin.rest := by
  suffices hneeded : shell.session.world.stdin.rest = [] ∨
      0 < (piped.needed shell).flatten.length by
    rw [blocks]
    change shell.session.world.stdin.rest.take _ = _
    rcases hneeded with hnil | hpos
    · rw [hnil, List.take_nil]
    · apply List.take_of_length_le
      simp only [List.length_nil, blockSize] at h hpos ⊢
      omega
  rw [needed, maxAttempts, taken]
  simp only [unread, Origin.rest, List.nil_append, List.length_nil, Nat.zero_add,
    List.take_of_length_le h, List.drop_of_length_le h]
  generalize shell.session.world.stdin.rest = text
  cases text with
  | nil => exact .inl rfl
  | cons byte more =>
    obtain ⟨piece, others, hpieces⟩ := Text.exists_pieces_cons 10 byte more
    let part := present (((byte :: piece) :: others).map .ofPiece) shell
    have hleft := part.length_sourceAfterTurn_lt (by simp [part, present])
    right
    rw [hpieces]
    simp only [List.isEmpty_nil, Bool.not_true, Bool.and_false, Bool.false_eq_true, if_false]
    change 0 < (List.take (_ - part.sourceAfterTurn.arrivals.length) _).flatten.length
    generalize part.sourceAfterTurn = after at hleft ⊢
    obtain ⟨count, hcount⟩ := Nat.exists_eq_add_of_lt hleft
    change (((byte :: piece) :: others).map Arrival.ofPiece).length = _ at hcount
    rw [List.length_map] at hcount
    rw [hcount, Nat.add_assoc, Nat.add_sub_cancel_left, List.take_succ_cons]
    simp

/-- If a script fits into one block, its commands find nothing on standard input. -/
theorem Serves.turns_short {text : Bytes} (h : piped.Serves none shell plain)
    (hinput : plain.session.world.stdin = { rest := text }) (hshort : text.length ≤ blockSize)
    (hstays : ¬ shell.session.state.shouldExit = true) (limit : Nat) :
    (piped.turns (limit + 1) shell).session =
      (Shell.turns (limit + 1) (plain.withInput {})).shell.session := by
  have hblocks : piped.blocks shell = text := by
    have hrest : shell.session.world.stdin.rest = text := by
      rw [h.session, hinput]
    rw [blocks_of_short (hrest ▸ hshort), hrest]
  obtain ⟨input, hworld, -, -, hserves, henough⟩ := h.fetch
  obtain rfl : input = {} := by
    have hstdin : (piped.fetch shell).2.stdin = input := congrArg World.stdin hworld
    rw [← hstdin, fetch_eq, hblocks]
    change shell.session.world.stdin.drop text.length = {}
    rw [h.session, hinput]
    simp [StandardInput.drop]
  have hnext := invariant_drained.turn (plain.withInput {}) rfl
  have hkept : (plain.withInput {}).turn.shell.session.world.script none =
      (plain.withInput {}).session.world.script none :=
    congrArg StandardInput.rest hnext
  obtain ⟨after, hsame, hserves⟩ := hserves.after hkept henough
  rw [← h.session] at hworld
  obtain ⟨hlater, hturn⟩ := Prod.ext_iff.mp (turn_of_mark hstays rfl hworld)
  dsimp only at hlater hturn
  rw [← hlater, ← hturn] at hserves
  refine session_turns_succ (hturn.trans hsame) hserves fun later other next hagain hserves => ?_
  rw [hagain] at hnext
  exact hserves.turns_drained hnext limit

theorem cut_cons {line text : Bytes} (hline : Ended 10 line) (htext : text ≠ []) :
    ∃ arrivals, (cut (line ++ text) 1).1 = .ofPiece line :: arrivals := by
  have hpieces := Text.pieces_ended_append hline text
  obtain ⟨next, more, hmore⟩ := List.exists_cons_of_ne_nil (Text.pieces_ne_nil 10 htext)
  rw [hmore] at hpieces
  unfold cut
  simp only [hpieces, List.getLast?_cons_cons]
  split
  · simp_all
  · split
    · exact ⟨_, rfl⟩
    · exact ⟨_, rfl⟩

theorem fetch_first_line {shell : Shell} {line more : Bytes} (hline : Ended 10 line)
    (hshort : line.length < blockSize) (hmore : more ≠ [])
    (hrest : shell.session.world.stdin.rest = line ++ more)
    (htakes : ∀ arrivals,
      (present (.ofPiece line :: arrivals) shell).sourceAfterTurn.arrivals = arrivals) :
    ∃ arrivals, (piped.fetch shell).1.ready = .ofPiece line :: arrivals ∧
      (piped.fetch shell).2 = shell.session.world.withInput
        (shell.session.world.stdin.drop (min blockSize (line ++ more).length)) := by
  have hunread : piped.unread shell.session.world = line ++ more := hrest
  have htake : (line ++ more).take blockSize = line ++ more.take (blockSize - line.length) := by
    rw [List.take_append, List.take_of_length_le (Nat.le_of_lt hshort)]
  have hpart : more.take (blockSize - line.length) ≠ [] := by
    have : 0 < blockSize - line.length := by omega
    simp [hmore]
    omega
  have hneeded : piped.needed shell = [line] := by
    have hleft := Text.pieces_ne_nil 10 hpart
    obtain ⟨next, others, hothers⟩ := List.exists_cons_of_ne_nil hleft
    rw [needed, hunread, maxAttempts, taken]
    simp only [List.length_nil, Nat.zero_add, htake, Text.pieces_ended_append hline,
      List.map_cons, hothers]
    rw [show ([Arrival.endOfInput] : List Arrival).dropLast = [] from rfl, List.nil_append, htakes]
    simp
  have hblocks : piped.blocks shell = (line ++ more).take blockSize := by
    obtain ⟨front, -, rfl⟩ := hline
    rw [blocks, hneeded]
    change (shell.session.world.stdin.rest).take _ = _
    rw [hrest]
    congr 1
    simp only [List.flatten_cons, List.flatten_nil, List.append_nil, List.length_append,
      List.length_singleton, List.length_nil, blockSize] at hshort ⊢
    omega
  obtain ⟨arrivals, hcut⟩ := cut_cons hline hpart
  refine ⟨arrivals ++ [.endOfInput], ?_, ?_⟩
  · rw [fetch_eq]
    change [] ++ (cut ([] ++ piped.blocks shell) (piped.needed shell).length).1 ++ _ = _
    rw [hblocks, hneeded, htake, List.nil_append, List.nil_append, List.length_singleton, hcut]
    rfl
  · rw [fetch_eq]
    change (Origin.skip .stdin (piped.blocks shell).length _).2 = _
    rw [hblocks, List.length_take]
    rfl

theorem turn_first_line {shell : Shell} {line more : Bytes} (hline : Ended 10 line)
    (hshort : line.length < blockSize) (hmore : more ≠ [])
    (hrest : shell.session.world.stdin.rest = line ++ more)
    (htakes : ∀ arrivals,
      (present (.ofPiece line :: arrivals) shell).sourceAfterTurn.arrivals = arrivals)
    (hstays : ¬ shell.session.state.shouldExit = true) :
    ∃ arrivals, (piped.turn shell).2 =
      (present (.ofPiece line :: arrivals) (shell.withInput
        (shell.session.world.stdin.drop (min blockSize (line ++ more).length)))).turn := by
  obtain ⟨arrivals, hready, hworld⟩ := fetch_first_line hline hshort hmore hrest htakes
  rw [turn_of_mark hstays rfl hworld, hready]
  exact ⟨arrivals, rfl⟩

theorem ready_after_ne_nil (feed : Feed) (turn : Turn) : (feed.after turn).ready ≠ [] := by
  simp only [Feed.after]
  split
  · exact List.cons_ne_nil _ _
  · rename_i hsome
    simpa using hsome

theorem ready_turn_ne_nil (feed : Feed) (shell : Shell) : (feed.turn shell).1.ready ≠ [] := by
  rw [Feed.turn]
  dsimp only
  split
  · exact ready_after_ne_nil _ _
  · exact ready_after_ne_nil _ _

theorem session_turns_of_exit {feed : Feed} {shell : Shell}
    (h : (feed.turn shell).2.shell.session.state.shouldExit = true) (limit : Nat) :
    (feed.turns (limit + 2) shell).session = (feed.turn shell).2.shell.session := by
  have hready := ready_turn_ne_nil feed shell
  rw [Feed.turns]
  generalize feed.turn shell = taken at h hready ⊢
  obtain ⟨later, turn⟩ := taken
  cases turn with
  | finished done => rfl
  | again next =>
    have hexit : (present later.ready next).session.state.shouldExit = true := h
    have hsome :
        ¬ (Turn.finished (present later.ready next)).shell.source.arrivals.isEmpty = true := by
      simpa [present, Turn.shell] using hready
    dsimp only
    rw [Feed.turns, Feed.turn, Shell.turn_of_shouldExit hexit]
    dsimp only
    rw [if_neg hsome]
    rfl

theorem exists_maxTurns : ∃ limit, maxTurns = limit + 2 :=
  Nat.exists_eq_add_of_le' (by decide)

end Feed

namespace Startup.Script

/-- A script on standard input is run as its lines are, if its commands do not look there. Only what
is left of it can tell. -/
theorem session_run_input {session : Session} (stdin : StandardInput)
    (hmode : session.state.interactive = false)
    (hignores : (Shell.start .plain (.ofBytes stdin.rest) session).IgnoresInput) :
    ∃ left, (Script.run (session.withInput stdin) (.fed { origin := .stdin })).session =
      ((Shell.start .plain (.ofBytes stdin.rest) session).runWith
        fun shell => (shell.turns Feed.maxTurns).shell).session.withInput left := by
  let plain := Shell.start .plain (.ofBytes stdin.rest) session
  let started := Shell.start .plain {} (session.withInput stdin)
  let told : Shell := { plain with session := session.emit plain.opening }
  have hserves : Feed.piped.Serves none
      { started with session := started.session.emit started.opening } (told.withInput stdin) :=
    Feed.serves_start .stdin (session.withInput stdin) started.opening
  have htold : told.IgnoresInput := (plain.ignoresInput_emit plain.opening).mpr hignores
  obtain ⟨left, hleft⟩ := hserves.turns_input htold Feed.maxTurns
  have hsilent : (told.turns Feed.maxTurns).shell.session.state.interactive = false :=
    (ShellState.invariant_interactive false).session.turns Feed.maxTurns told hmode
  refine ⟨left, ?_⟩
  change (started.runWith (Feed.loop { origin := .stdin })).session = _
  rw [Shell.runWith_eq, Shell.runWith_eq]
  change (Feed.turns _ _ _).conclude.session =
    ((told.turns Feed.maxTurns).shell.conclude).session.withInput left
  have hquiet : (Feed.turns Feed.maxTurns { origin := .stdin }
      { started with session := started.session.emit started.opening }).session.state.interactive =
        false := by
    rw [hleft]
    exact hsilent
  rw [Shell.conclude_of_silent hquiet, Shell.conclude_of_silent hsilent, Shell.log, Shell.log,
    hleft]
  rfl

/-- A script on standard input that fits into one block is run as its lines are, with nothing left
for its commands to read. -/
theorem session_run_short {session : Session} {text : Bytes}
    (hstays : session.state.shouldExit = false) (hshort : text.length ≤ blockSize) :
    (Script.run (session.withInput { rest := text }) (.fed { origin := .stdin })).session =
      ((Shell.start .plain (.ofBytes text) (session.withInput {})).runWith
        fun shell => (shell.turns Feed.maxTurns).shell).session := by
  refine Shell.session_runWith_congr rfl fun events => ?_
  have hserves := Feed.serves_start .stdin (session.withInput { rest := text }) events
  have hnot : ¬ session.state.shouldExit = true := by
    simp [hstays]
  obtain ⟨limit, hlimit⟩ := Feed.exists_maxTurns
  rw [Feed.loop, hlimit]
  exact hserves.turns_short rfl hshort hnot (limit + 1)

/-- A script on standard input whose first line makes the shell leave. The commands of the line find
what stands behind the first block. -/
theorem stdout_run_of_exit {session : Session} {stdin left : StandardInput} {line : String}
    {piece more : Bytes} (hpiece : Ended 10 piece) (hline : Arrival.ofPiece piece = .line line)
    (hshort : piece.length < blockSize) (hmore : more ≠ []) (hrest : stdin.rest = piece ++ more)
    (hleft : stdin.drop (min blockSize (piece ++ more).length) = left)
    (htakes : ∀ arrivals, (Feed.present (.line line :: arrivals)
      (Shell.start .plain {} session)).sourceAfterTurn.arrivals = arrivals)
    (hstays : ¬ session.state.shouldExit = true) (hmode : session.state.interactive = false) :
    let started := Shell.start .plain {} (session.withInput left)
    let told : Shell := { started with session := started.session.emit started.opening }
    let last := (Feed.present [.line line, .endOfInput] told).turn.shell
    last.session.state.shouldExit = true → last.source.arrivals = [.endOfInput] →
      (Script.run (session.withInput stdin) (.fed { origin := .stdin })).session.transcript.stdout =
        last.session.transcript.stdout := by
  subst hleft
  intro started told last hexit htaken
  let begun := Shell.start .plain {} (session.withInput stdin)
  let shell : Shell := { begun with session := begun.session.emit begun.opening }
  -- with the fetched lines before it, the shell takes the turn that it takes with the first alone
  have hsession : (Feed.piped.turn shell).2.shell.session = last.session := by
    rw [← hline] at htakes
    have hfetched : shell.session.world.stdin.rest = piece ++ more := hrest
    obtain ⟨arrivals, hturn⟩ := Feed.turn_first_line hpiece hshort hmore hfetched htakes hstays
    have hwithin : Feed.TurnWithin told ([.line line] ++ [.endOfInput]) 1 :=
      Feed.turnWithin_of_left Nat.one_pos (Nat.le_of_eq (congrArg List.length htaken).symm)
        (by simp)
    obtain ⟨count, hcount, hintake⟩ := hwithin
    have hagree : Agree count ([.line line] ++ arrivals) ([.line line] ++ [.endOfInput]) :=
      .append hcount arrivals [.endOfInput]
    obtain ⟨after, hsame, -, -⟩ :=
      hintake { arrivals := .line line :: arrivals, handed := told.source.handed } rfl hagree
    rw [hturn, hline]
    refine (congrArg (fun turn => turn.shell.session) hsame).trans ?_
    rw [Turn.shell_withSource]
    rfl
  obtain ⟨limit, hlimit⟩ := Feed.exists_maxTurns
  have hloop := Feed.session_turns_of_exit (hsession ▸ hexit) limit
  rw [hsession, ← hlimit] at hloop
  have hsilent : last.session.state.interactive = false :=
    (ShellState.invariant_interactive false).session.turn (Feed.present _ told) hmode
  change (begun.runWith Feed.piped.loop).session.transcript.stdout = _
  rw [Shell.runWith_eq]
  change (Feed.piped.turns Feed.maxTurns shell).conclude.session.transcript.stdout = _
  rw [Shell.conclude_of_silent (by rw [hloop, hsilent]), Shell.log, Session.log,
    Session.transcript_emit, Transcript.stdout_append, hloop]
  simp [Transcript.stdout]

end Startup.Script

end CommandShell
