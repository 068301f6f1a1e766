import CommandShell.Proofs.HistoryFile
import CommandShell.Proofs.LineRecord
import CommandShell.Proofs.SparedInput
import CommandShell.Proofs.TurnIntake
import CommandShell.Startup

/-!
# Scripts read in blocks

A shell whose script is fetched from a file in blocks takes its turns as one that has all lines
before it from the start, as long as its commands leave the file alone. Where the blocks end cannot
be seen.
-/

namespace CommandShell

namespace Text

variable {α : Type} [DecidableEq α] {separator : α}

def Ended (separator : α) (piece : List α) : Prop :=
  ∃ front, separator ∉ front ∧ piece = front ++ [separator]

theorem pieces_of_notMem {list : List α} (h : separator ∉ list) (hne : list ≠ []) :
    pieces separator list = [list] := by
  induction list with
  | nil => exact absurd rfl hne
  | cons a rest ih =>
    simp only [List.mem_cons, not_or] at h
    cases rest with
    | nil => simp [pieces, Ne.symm h.1]
    | cons b more => rw [pieces, if_neg (Ne.symm h.1), ih h.2 (List.cons_ne_nil b more)]

theorem length_pieces_of_notMem {list : List α} (h : separator ∉ list) :
    (pieces separator list).length ≤ 1 := by
  by_cases hne : list = []
  · simp [hne, pieces]
  · simp [pieces_of_notMem h hne]

theorem pieces_flatten_append {ended : List (List α)}
    (h : ∀ piece ∈ ended, Ended separator piece) (rest : List α) :
    pieces separator (ended.flatten ++ rest) = ended ++ pieces separator rest := by
  induction ended with
  | nil => rfl
  | cons piece more ih =>
    obtain ⟨⟨front, hfront, rfl⟩, hmore⟩ := List.forall_mem_cons.mp h
    have hshape : ((front ++ [separator]) :: more).flatten ++ rest =
        front ++ separator :: (more.flatten ++ rest) := by
      simp
    rw [hshape, pieces_append hfront, ih hmore, List.cons_append]

theorem exists_ended (separator : α) (text : List α) :
    ∃ (ended : List (List α)) (tail : List α), text = ended.flatten ++ tail ∧
      (∀ piece ∈ ended, Ended separator piece) ∧ separator ∉ tail := by
  induction text with
  | nil => exact ⟨[], [], rfl, by simp, by simp⟩
  | cons a rest ih =>
    obtain ⟨ended, tail, rfl, hended, htail⟩ := ih
    by_cases ha : a = separator
    · refine ⟨[a] :: ended, tail, by simp, ?_, htail⟩
      refine List.forall_mem_cons.mpr ⟨⟨[], by simp, by simp [ha]⟩, hended⟩
    · cases ended with
      | nil => exact ⟨[], a :: tail, by simp, by simp, by simp [htail, Ne.symm ha]⟩
      | cons piece more =>
        obtain ⟨⟨front, hfront, rfl⟩, hmore⟩ := List.forall_mem_cons.mp hended
        refine ⟨((a :: front) ++ [separator]) :: more, tail, by simp, ?_, htail⟩
        refine List.forall_mem_cons.mpr ⟨⟨a :: front, ?_, rfl⟩, hmore⟩
        simp [hfront, Ne.symm ha]

theorem exists_pieces_cons (separator a : α) (rest : List α) :
    ∃ piece others, pieces separator (a :: rest) = (a :: piece) :: others := by
  rw [pieces]
  split
  · exact ⟨[], _, rfl⟩
  · split
    · exact ⟨[], [], rfl⟩
    · exact ⟨_, _, rfl⟩

theorem pieces_ended_append {piece : List α}
    (h : Ended separator piece) (rest : List α) :
    pieces separator (piece ++ rest) = piece :: pieces separator rest := by
  have hone : pieces separator ([piece].flatten ++ rest) = [piece] ++ pieces separator rest :=
    pieces_flatten_append (by simpa using h) rest
  simpa using hone

theorem pieces_ne_nil (separator : α) {list : List α}
    (h : list ≠ []) : pieces separator list ≠ [] := by
  intro hnil
  have hflatten := flatten_pieces separator list
  rw [hnil] at hflatten
  exact h hflatten.symm

end Text

open Text (Ended pieces)
open Arrival (Agree)

/-- The file that a script is read from; none if it is read from standard input. -/
def Origin.place : Origin → Option Path
  | .stdin => none
  | .file path _ => some path

def World.script (world : World) : Option Path → Bytes
  | none => world.stdin.rest
  | some path => world.files.content path

theorem Origin.rest_congr {origin : Origin} {first second : World}
    (h : second.script origin.place = first.script origin.place) :
    origin.rest second = origin.rest first := by
  cases origin with
  | stdin => exact h
  | file path position => exact congrArg (List.drop position) h

theorem Origin.place_skip (origin : Origin) (count : Nat) (world : World) :
    (origin.skip count world).1.place = origin.place := by
  cases origin with
  | stdin => rfl
  | file path position => rfl

theorem Origin.rest_skip (origin : Origin) (count : Nat) (world : World) :
    (origin.skip count world).1.rest (origin.skip count world).2 =
      (origin.rest world).drop count := by
  cases origin with
  | stdin => rfl
  | file path position => exact List.drop_drop.symm

/-- After every number of turns a file has the content that it had before them. -/
def Shell.LeavesAlone (path : Path) (shell : Shell) : Prop :=
  ∀ count, (shell.turns count).shell.session.world.files.content path =
    shell.session.world.files.content path

theorem Shell.leavesAlone_iff (path : Path) (shell : Shell) :
    shell.LeavesAlone path ↔ ∀ count < shell.source.arrivals.length + 2,
      (shell.turns count).shell.session.world.files.content path =
        shell.session.world.files.content path := by
  constructor
  · intro h count _
    exact h count
  · intro h count
    by_cases hcount : count < shell.source.arrivals.length + 2
    · exact h count hcount
    · have hlast := h (shell.source.arrivals.length + 1) (Nat.lt_succ_self _)
      rw [turns_eq_finished_loop shell (Nat.lt_succ_self _)] at hlast
      rw [turns_eq_finished_loop shell (by omega)]
      exact hlast

instance (path : Path) (shell : Shell) : Decidable (shell.LeavesAlone path) :=
  decidable_of_iff' _ (shell.leavesAlone_iff path)

namespace Feed

variable {feed : Feed} {shell plain : Shell}

theorem cut_length_pieces (text : Bytes) :
    cut text (pieces 10 text).length = ((pieces 10 text).map .ofPiece, []) := by
  unfold cut
  dsimp only
  split
  · rename_i hlast
    rw [List.getLast?_eq_none_iff.mp hlast]
    rfl
  · simp

theorem cut_ended {ended : List Bytes} {tail : Bytes} {count : Nat}
    (hended : ∀ piece ∈ ended, Ended 10 piece) (htail : 10 ∉ tail) (hcount : count ≤ ended.length) :
    cut (ended.flatten ++ tail) count = (ended.map .ofPiece, tail) := by
  unfold cut
  rw [Text.pieces_flatten_append hended]
  by_cases hne : tail = []
  · subst hne
    rw [pieces, List.append_nil]
    rcases List.eq_nil_or_concat ended with rfl | ⟨front, piece, rfl⟩
    · rfl
    · obtain ⟨line, -, rfl⟩ := hended piece (by simp)
      simp
  · have hlast : tail.getLast? ≠ some 10 := by
      intro hlast
      exact htail (List.mem_of_getLast? hlast)
    have hlong : ¬ended.length + 1 ≤ count := by omega
    simp [Text.pieces_of_notMem htail hne, hlast, hlong]

theorem exists_cut {needed : List Bytes} {text : Bytes} (htext : needed.flatten <+: text)
    (hneeded : ∀ piece ∈ needed, Ended 10 piece) (later : Bytes) :
    ∃ read : List Bytes, needed.length ≤ read.length ∧
      (cut text needed.length).1 = read.map .ofPiece ∧
      pieces 10 (text ++ later) = read ++ pieces 10 ((cut text needed.length).2 ++ later) := by
  obtain ⟨more, rfl⟩ := htext
  obtain ⟨ended, tail, rfl, hended, htail⟩ := Text.exists_ended 10 more
  have hread : ∀ piece ∈ needed ++ ended, Ended 10 piece := by
    intro piece hmem
    exact (List.mem_append.mp hmem).elim (hneeded piece) (hended piece)
  have hle : needed.length ≤ (needed ++ ended).length := by
    simp
  rw [← List.append_assoc, ← List.flatten_append, cut_ended hread htail hle]
  refine ⟨needed ++ ended, hle, rfl, ?_⟩
  rw [List.append_assoc, Text.pieces_flatten_append hread]

/-- With these arrivals before it, a shell takes at most so many of them in its next turn. -/
def TurnWithin (shell : Shell) (arrivals : List Arrival) (bound : Nat) : Prop :=
  ∃ count ≤ bound, (present arrivals shell).TakesOnly Shell.turn count

theorem TurnWithin.append {front first : List Arrival}
    (h : TurnWithin shell (front ++ first) front.length) (second : List Arrival) :
    TurnWithin shell (front ++ second) front.length := by
  obtain ⟨count, hcount, htakes⟩ := h
  exact ⟨count, hcount, htakes.withSource rfl (.append hcount second first)⟩

/-- What is left after a turn, if anything, tells how many arrivals it took. -/
theorem turnWithin_of_left {arrivals : List Arrival} {left bound : Nat} (hpos : 0 < left)
    (hleft : left ≤ (present arrivals shell).turn.shell.source.arrivals.length)
    (hbound : arrivals.length ≤ bound + left) : TurnWithin shell arrivals bound := by
  obtain ⟨count, htakes⟩ := (present arrivals shell).exists_intake_turn
  refine ⟨count, ?_, htakes⟩
  rw [htakes.arrivals, List.length_drop] at hleft
  change left ≤ arrivals.length - count at hleft
  omega

/-- What is taken of a text: all lines, or ended ones among which the next turn finds its last. -/
def Suffices (shell : Shell) (lines : List Arrival) (text : Bytes) (needed : List Bytes) : Prop :=
  needed = pieces 10 text ∨
    needed.flatten <+: text ∧ (∀ piece ∈ needed, Ended 10 piece) ∧
      TurnWithin shell (lines ++ (pieces 10 text).map .ofPiece) (lines.length + needed.length)

theorem suffices_take {lines : List Arrival} {text : Bytes} {size left : Nat} (hpos : 0 < left)
    (hleft : left ≤ (present (lines ++ (pieces 10 (text.take size)).map .ofPiece)
      shell).turn.shell.source.arrivals.length) :
    Suffices shell lines text
      ((pieces 10 (text.take size)).take ((pieces 10 (text.take size)).length - left)) := by
  obtain ⟨ended, tail, hshape, hended, htail⟩ := Text.exists_ended 10 (text.take size)
  have hpart : pieces 10 (text.take size) = ended ++ pieces 10 tail := by
    rw [hshape, Text.pieces_flatten_append hended]
  rw [hpart] at hleft ⊢
  have hshort := Text.length_pieces_of_notMem htail
  generalize hcount : (ended ++ pieces 10 tail).length - left = count
  rw [List.length_append] at hcount
  -- a last line that may be cut off is not among them
  have hle : count ≤ ended.length := by omega
  rw [List.take_append_of_le_length hle]
  have htext : text = (ended.take count).flatten ++
      ((ended.drop count).flatten ++ tail ++ text.drop size) := by
    have hsplit : ended.flatten = (ended.take count).flatten ++ (ended.drop count).flatten := by
      rw [← List.flatten_append, List.take_append_drop]
    rw [← List.append_assoc, ← List.append_assoc, ← hsplit, ← hshape, List.take_append_drop]
  have htaken : ∀ piece ∈ ended.take count, Ended 10 piece := by
    intro piece hmem
    exact hended piece (List.mem_of_mem_take hmem)
  refine .inr ⟨⟨_, htext.symm⟩, htaken, ?_⟩
  let front := lines ++ (ended.take count).map Arrival.ofPiece
  have hfront : front.length = lines.length + (ended.take count).length := by
    simp [front]
  have hwithin : TurnWithin shell
      (front ++ (ended.drop count ++ pieces 10 tail).map .ofPiece) front.length := by
    have harrivals : front ++ (ended.drop count ++ pieces 10 tail).map Arrival.ofPiece =
        lines ++ (ended ++ pieces 10 tail).map .ofPiece := by
      rw [List.append_assoc, ← List.map_append, ← List.append_assoc, List.take_append_drop]
    rw [harrivals]
    refine turnWithin_of_left hpos hleft ?_
    rw [hfront, List.length_append, List.length_map, List.length_append, List.length_take]
    omega
  rw [← hfront, htext, Text.pieces_flatten_append htaken, List.map_append, ← List.append_assoc]
  exact hwithin.append _

theorem taken_withInput (shell : Shell) (stdin : StandardInput) (lines : List Arrival)
    (text : Bytes) (attempts size : Nat) :
    taken (shell.withInput stdin) lines text attempts size =
      taken shell lines text attempts size := by
  induction attempts generalizing size with
  | zero => rfl
  | succ attempts ih =>
    rw [taken, taken, ih]
    rfl

theorem suffices_taken (shell : Shell) (lines : List Arrival) (text : Bytes) (attempts size : Nat) :
    Suffices shell lines text (taken shell lines text attempts size) := by
  induction attempts generalizing size with
  | zero => exact .inl rfl
  | succ attempts ih =>
    rw [taken]
    generalize hpart : present (lines ++ (pieces 10 (text.take size)).map .ofPiece) shell = part
    split
    · exact ih (2 * size)
    · rename_i hleft
      by_cases hzero : part.sourceAfterTurn.arrivals.length = 0
      · -- the part is the whole text
        have hwhole : text.drop size = [] := by
          simpa [hzero] using hleft
        have htake : text.take size = text := by
          rw [← List.append_nil (text.take size), ← hwhole, List.take_append_drop]
        left
        rw [hzero, htake, Nat.sub_zero, List.take_length]
      · refine suffices_take (Nat.pos_of_ne_zero hzero) ?_
        rw [hpart]
        exact part.length_sourceAfterTurn_le

def unread (feed : Feed) (world : World) : Bytes :=
  feed.started ++ feed.origin.rest world

def pending (feed : Feed) (world : World) : List Arrival :=
  feed.ready.dropLast ++ (pieces 10 (feed.unread world)).map .ofPiece

def needed (feed : Feed) (shell : Shell) : List Bytes :=
  taken shell feed.ready.dropLast (feed.unread shell.session.world) maxAttempts
    (feed.started.length + blockSize)

def blocks (feed : Feed) (shell : Shell) : Bytes :=
  let missing := (feed.needed shell).flatten.length - feed.started.length
  (feed.origin.rest shell.session.world).take ((missing + blockSize - 1) / blockSize * blockSize)

theorem fetch_eq (feed : Feed) (shell : Shell) :
    feed.fetch shell =
      let origin := feed.origin.skip (feed.blocks shell).length shell.session.world
      let lines := cut (feed.started ++ feed.blocks shell) (feed.needed shell).length
      ({ origin := origin.1
         ready := feed.ready.dropLast ++ lines.1 ++ [.endOfInput]
         started := lines.2 }, origin.2) :=
  rfl

theorem blocks_append (feed : Feed) (shell : Shell) :
    feed.started ++ feed.blocks shell ++
        (feed.origin.rest shell.session.world).drop (feed.blocks shell).length =
      feed.unread shell.session.world := by
  have hfront : feed.blocks shell <+: feed.origin.rest shell.session.world :=
    List.take_prefix _ _
  rw [List.append_assoc, List.prefix_iff_eq_append.mp hfront, unread]

theorem length_needed_le (feed : Feed) (shell : Shell)
    (h : (feed.needed shell).flatten.length ≤ (feed.unread shell.session.world).length) :
    (feed.needed shell).flatten.length ≤ (feed.started ++ feed.blocks shell).length := by
  simp only [unread, blocks, blockSize, List.length_append, List.length_take] at h ⊢
  omega

/-- What fetching makes ready: some of the next lines, and enough of them for the next turn unless
they are the last ones. -/
theorem exists_fetch (feed : Feed) (shell : Shell) (stdin : StandardInput) :
    ∃ read : List Bytes,
      (feed.fetch shell).1.ready =
          feed.ready.dropLast ++ read.map .ofPiece ++ [.endOfInput] ∧
        pieces 10 (feed.unread shell.session.world) =
          read ++ pieces 10 ((feed.fetch shell).1.unread (feed.fetch shell).2) ∧
        ((feed.fetch shell).1.unread (feed.fetch shell).2 = [] ∨
          TurnWithin (shell.withInput stdin) (feed.pending shell.session.world)
            (feed.ready.dropLast.length + read.length)) := by
  have hunread : (feed.fetch shell).1.unread (feed.fetch shell).2 =
      (cut (feed.started ++ feed.blocks shell) (feed.needed shell).length).2 ++
        (feed.origin.rest shell.session.world).drop (feed.blocks shell).length := by
    rw [unread, fetch_eq, Origin.rest_skip]
  have hready : (feed.fetch shell).1.ready = feed.ready.dropLast ++
      (cut (feed.started ++ feed.blocks shell) (feed.needed shell).length).1 ++ [.endOfInput] :=
    rfl
  have hwhole := feed.blocks_append shell
  have hneeded : Suffices (shell.withInput stdin) feed.ready.dropLast
      (feed.unread shell.session.world) (feed.needed shell) := by
    rw [needed, ← taken_withInput shell stdin]
    exact suffices_taken _ _ _ maxAttempts _
  rw [hunread, hready]
  rcases hneeded with hall | ⟨hfront, hended, hwithin⟩
  · -- the last blocks are fetched
    have hflatten : (feed.needed shell).flatten = feed.unread shell.session.world := by
      rw [hall, Text.flatten_pieces]
    have hlength := feed.length_needed_le shell (hflatten ▸ Nat.le_refl _)
    rw [hflatten, ← hwhole, List.length_append] at hlength
    have hlater : (feed.origin.rest shell.session.world).drop (feed.blocks shell).length = [] :=
      List.eq_nil_of_length_eq_zero (by omega)
    rw [hlater, List.append_nil] at hwhole
    rw [hlater, hall, hwhole, cut_length_pieces]
    exact ⟨_, rfl, (List.append_nil _).symm, .inl rfl⟩
  · have htext : (feed.needed shell).flatten <+: feed.started ++ feed.blocks shell :=
      List.prefix_of_prefix_length_le hfront ⟨_, hwhole⟩
        (feed.length_needed_le shell hfront.length_le)
    obtain ⟨read, hlength, hlines, hpieces⟩ := exists_cut htext hended
      ((feed.origin.rest shell.session.world).drop (feed.blocks shell).length)
    rw [hwhole] at hpieces
    refine ⟨read, by rw [hlines], hpieces, .inr ?_⟩
    obtain ⟨count, hcount, htakes⟩ := hwithin
    exact ⟨count, by omega, htakes⟩

/-- A shell with a feed and one that has all lines before it. -/
structure Serves (place : Option Path) (feed : Feed) (shell plain : Shell) : Prop where
  session : shell.session = plain.session
  theme : shell.theme = plain.theme
  alarms : shell.alarms = plain.alarms
  handed : shell.source.handed = plain.source.handed
  place : feed.origin.place = place
  ready : ∃ lines, feed.ready = lines ++ [.endOfInput]
  pending : feed.pending shell.session.world = plain.source.arrivals

variable {place : Option Path}

theorem Serves.present_withSource (h : feed.Serves place shell plain) (arrivals : List Arrival) :
    (present arrivals shell).withSource plain.source = plain := by
  rw [present, Shell.withSource, h.session, h.theme, h.alarms]

theorem ready_after {turn : Turn} {lines : List Arrival} {count : Nat}
    (h : turn.shell.source.arrivals = (lines ++ [Arrival.endOfInput]).drop count) :
    (feed.after turn).ready = lines.drop count ++ [.endOfInput] := by
  by_cases hcount : count ≤ lines.length
  · rw [List.drop_append_of_le_length hcount] at h
    simp [Feed.after, h]
  · -- the mark was taken and is put back
    have hlines : lines.drop count = [] := List.drop_eq_nil_of_le (by omega)
    have hnone : (lines ++ [Arrival.endOfInput]).drop count = [] := by
      apply List.drop_eq_nil_of_le
      simp
      omega
    rw [hnone] at h
    simp [Feed.after, h, hlines]

theorem exists_takesOnly {lines : List Arrival} (hready : feed.ready = lines ++ [.endOfInput])
    (henough : TurnWithin shell feed.ready feed.ready.dropLast.length ∨
      feed.unread shell.session.world = []) :
    ∃ count, (present feed.ready shell).TakesOnly Shell.turn count ∧
      Agree count (lines ++ (pieces 10 (feed.unread shell.session.world)).map .ofPiece)
        feed.ready ∧
      (count ≤ lines.length ∨ feed.unread shell.session.world = []) := by
  rcases henough with ⟨count, hcount, htakes⟩ | hnone
  · rw [hready, List.dropLast_concat] at hcount
    refine ⟨count, htakes, ?_, .inl hcount⟩
    rw [hready]
    exact .append hcount _ _
  · obtain ⟨count, htakes⟩ := (present feed.ready shell).exists_intake_turn
    refine ⟨count, htakes, ?_, .inr hnone⟩
    rw [hready, hnone, pieces, List.map_nil, List.append_nil]
    exact (Agree.append_endOfInput count lines).symm

theorem Serves.after (h : feed.Serves place shell plain)
    (hkept : plain.turn.shell.session.world.script place = plain.session.world.script place)
    (henough : TurnWithin shell feed.ready feed.ready.dropLast.length ∨
      feed.unread shell.session.world = []) :
    ∃ after, (present feed.ready shell).turn = plain.turn.withSource after ∧
      (feed.after (present feed.ready shell).turn).Serves place
        (present feed.ready shell).turn.shell plain.turn.shell := by
  obtain ⟨lines, hready⟩ := h.ready
  obtain ⟨more, hmore⟩ :
      ∃ more, (pieces 10 (feed.unread shell.session.world)).map Arrival.ofPiece = more := ⟨_, rfl⟩
  have hpending : plain.source.arrivals = lines ++ more := by
    rw [← h.pending, Feed.pending, hready, List.dropLast_concat, hmore]
  obtain ⟨count, htakes, hagree, hcount⟩ := exists_takesOnly hready henough
  rw [hmore, ← hpending] at hagree
  obtain ⟨after, hturn, harrivals, hhanded⟩ := htakes plain.source h.handed.symm hagree
  have hleft := htakes.arrivals
  rw [h.present_withSource] at hturn
  generalize (present feed.ready shell).turn = turn at hturn hhanded hleft ⊢
  have hshell : plain.turn.shell = turn.shell.withSource after := by
    rw [hturn, Turn.shell_withSource]
  have hafter : (feed.after turn).ready = lines.drop count ++ [.endOfInput] := by
    apply ready_after
    rw [hleft, ← hready]
    rfl
  refine ⟨turn.shell.source, ?_, ?_⟩
  · rw [hturn]
    cases turn <;> rfl
  · have hsession : turn.shell.session = plain.turn.shell.session := by
      rw [hshell]
      rfl
    refine ⟨hsession, by rw [hshell]; rfl, by rw [hshell]; rfl, by rw [hshell]; exact hhanded.symm,
      h.place, ⟨_, hafter⟩, ?_⟩
    rw [← hsession, ← h.session, ← h.place] at hkept
    have hunread : (feed.after turn).unread turn.shell.session.world =
        feed.unread shell.session.world :=
      congrArg (feed.started ++ ·) (Origin.rest_congr hkept)
    rw [Feed.pending, hafter, List.dropLast_concat, hunread, hmore, hshell]
    refine Eq.trans ?_ harrivals.symm
    rw [hpending, List.drop_append]
    rcases hcount with hcount | hnone
    · rw [Nat.sub_eq_zero_of_le hcount, List.drop_zero]
    · have hnil : more = [] := by
        rw [← hmore, hnone]
        rfl
      rw [hnil, List.drop_nil]

theorem exists_world_fetch (feed : Feed) (shell : Shell) :
    ∃ input, (feed.fetch shell).2 = shell.session.world.withInput input ∧
      (∃ count, input = shell.session.world.stdin.drop count) ∧
      (feed.origin.place ≠ none → input = shell.session.world.stdin) := by
  rw [fetch_eq]
  cases feed.origin with
  | stdin => exact ⟨_, rfl, ⟨_, rfl⟩, fun hplace => absurd rfl hplace⟩
  | file path position =>
    exact ⟨_, rfl, ⟨0, (StandardInput.drop_zero _).symm⟩, fun _ => rfl⟩

theorem Serves.fetch (h : feed.Serves place shell plain) :
    ∃ input, (feed.fetch shell).2 = plain.session.world.withInput input ∧
      (∃ count, input = plain.session.world.stdin.drop count) ∧
      (place ≠ none → input = plain.session.world.stdin) ∧
      (feed.fetch shell).1.Serves place (shell.withInput input) (plain.withInput input) ∧
      (TurnWithin (shell.withInput input) (feed.fetch shell).1.ready
          (feed.fetch shell).1.ready.dropLast.length ∨
        (feed.fetch shell).1.unread (shell.withInput input).session.world = []) := by
  obtain ⟨input, hworld, hdropped, hinput⟩ := feed.exists_world_fetch shell
  obtain ⟨read, hready, hpieces, henough⟩ := feed.exists_fetch shell input
  rw [hworld] at hpieces henough
  have hpending : (feed.fetch shell).1.pending (shell.session.world.withInput input) =
      feed.pending shell.session.world := by
    rw [Feed.pending, Feed.pending, hready, List.dropLast_concat, hpieces, List.map_append,
      List.append_assoc]
  rw [h.place] at hinput
  rw [← h.session]
  refine ⟨input, hworld, hdropped, hinput, ?_, ?_⟩
  · refine ⟨congrArg (Session.withInput · input) h.session, h.theme, h.alarms, h.handed, ?_,
      ⟨_, hready⟩, hpending.trans h.pending⟩
    rw [fetch_eq, ← h.place]
    exact feed.origin.place_skip _ _
  · rcases henough with hnone | hwithin
    · exact .inr hnone
    · left
      rw [Feed.pending, hpieces, List.map_append, ← List.append_assoc] at hwithin
      rw [hready, List.dropLast_concat]
      have hlength : (feed.ready.dropLast ++ read.map Arrival.ofPiece).length =
          feed.ready.dropLast.length + read.length := by
        simp
      rw [← hlength] at hwithin
      exact hwithin.append _

/-- A turn of a shell with a feed is a turn with all lines, on what the feed leaves of standard
input. -/
theorem Serves.turn (h : feed.Serves place shell plain) :
    ∃ input, (∃ count, input = plain.session.world.stdin.drop count) ∧
      (place ≠ none → input = plain.session.world.stdin) ∧
      ((plain.withInput input).turn.shell.session.world.script place =
          (plain.withInput input).session.world.script place →
        ∃ after, (feed.turn shell).2 = (plain.withInput input).turn.withSource after ∧
          (feed.turn shell).1.Serves place (feed.turn shell).2.shell
            (plain.withInput input).turn.shell) := by
  rw [Feed.turn]
  dsimp only
  split
  · -- the turn came to the mark
    obtain ⟨input, hworld, hdropped, hinput, hserves, henough⟩ := h.fetch
    refine ⟨input, hdropped, hinput, fun hkept => ?_⟩
    rw [hworld, ← h.session]
    exact hserves.after hkept henough
  · rename_i hleft
    refine ⟨plain.session.world.stdin, ⟨0, (StandardInput.drop_zero _).symm⟩, fun _ => rfl,
      fun hkept => h.after hkept (.inl ?_)⟩
    obtain ⟨lines, hready⟩ := h.ready
    rw [hready, List.dropLast_concat, ← hready]
    refine turnWithin_of_left Nat.one_pos ?_ (by simp [hready])
    rw [List.isEmpty_iff] at hleft
    exact List.length_pos_of_ne_nil hleft

theorem turns_succ {after : LineSource} (hsame : (feed.turn shell).2 = plain.turn.withSource after)
    (hserves : (feed.turn shell).1.Serves place (feed.turn shell).2.shell plain.turn.shell)
    (limit : Nat) :
    (∃ done, plain.turn = .finished done ∧ (feed.turns (limit + 1) shell).session = done.session) ∨
      ∃ (next : Shell) (later : Feed) (other : Shell), plain.turn = .again next ∧
        feed.turns (limit + 1) shell = later.turns limit other ∧ later.Serves place other next := by
  rw [Feed.turns]
  generalize feed.turn shell = taken at hsame hserves ⊢
  obtain ⟨later, turn⟩ := taken
  dsimp only at hsame hserves
  subst hsame
  cases hplain : plain.turn with
  | finished done =>
    rw [hplain] at hserves
    exact .inl ⟨done, rfl, hserves.session⟩
  | again next =>
    rw [hplain] at hserves
    exact .inr ⟨next, later, _, rfl, rfl, hserves⟩

/-- The first turn is the same, so all are if the later ones are. -/
theorem session_turns_succ {after : LineSource} {limit : Nat}
    (hsame : (feed.turn shell).2 = plain.turn.withSource after)
    (hserves : (feed.turn shell).1.Serves place (feed.turn shell).2.shell plain.turn.shell)
    (hlater : ∀ (later : Feed) (other next : Shell), plain.turn = .again next →
      later.Serves place other next →
        (later.turns limit other).session = (Shell.turns limit next).shell.session) :
    (feed.turns (limit + 1) shell).session = (Shell.turns (limit + 1) plain).shell.session := by
  rw [Shell.turns]
  rcases turns_succ hsame hserves limit with
    ⟨done, hturn, hsession⟩ | ⟨next, later, other, hturn, hturns, hnext⟩
  · rw [hturn]
    exact hsession
  · rw [hturn, hturns]
    exact hlater later other next hturn hnext

/-- The turns of a shell with a script file are turns with all lines. -/
theorem Serves.turns_file {path : Path} (h : feed.Serves (some path) shell plain)
    (hkept : plain.LeavesAlone path) (limit : Nat) :
    (feed.turns limit shell).session = (Shell.turns limit plain).shell.session := by
  induction limit generalizing feed shell plain with
  | zero => exact h.session
  | succ limit ih =>
    have hturn := hkept 1
    rw [Shell.turns_one] at hturn
    obtain ⟨input, -, hinput, hserves⟩ := h.turn
    obtain rfl := hinput (Option.some_ne_none path)
    obtain ⟨after, hsame, hserves⟩ := hserves hturn
    change (feed.turn shell).2 = plain.turn.withSource after at hsame
    refine session_turns_succ hsame hserves fun later other next hplain hnext => ?_
    rw [hplain] at hturn
    refine ih hnext fun count => ?_
    have hlater := hkept (count + 1)
    rw [Shell.turns, hplain] at hlater
    exact hlater.trans hturn.symm

end Feed

namespace Shell

theorem session_saveHistory_congr {first second : Shell} (h : first.session = second.session) :
    first.saveHistory.session = second.saveHistory.session := by
  unfold saveHistory
  dsimp only
  rw [h]
  split
  · exact h
  · split <;> simp [log]

theorem session_runWith_congr {first second : Shell} {loop other : Shell → Shell}
    (h : first.session.state = second.session.state)
    (hloop : ∀ events, (loop { first with session := first.session.emit events }).session =
      (other { second with session := second.session.emit events }).session) :
    (first.runWith loop).session = (second.runWith other).session := by
  have hopening : first.opening = second.opening := by
    rw [opening, opening, h]
  have hsame := hloop first.opening
  rw [runWith_eq, runWith_eq, ← hopening]
  simp only [conclude, log, session_saveHistory_congr hsame]

theorem world_turns_emit (shell : Shell) (limit : Nat) (events : Transcript) :
    (turns limit { shell with session := shell.session.emit events }).shell.session.world =
      (turns limit shell).shell.session.world := by
  apply apply_emit_of_within (f := fun shell => (turns limit shell).shell.session.world)
  intro shell written
  rw [turns_within]
  cases turns limit shell <;> rfl

end Shell

theorem Feed.serves_start (origin : Origin) (session : Session) (events : Transcript) :
    Feed.Serves origin.place { origin }
      { Shell.start .plain {} session with session := session.emit events }
      { Shell.start .plain (.ofBytes (origin.rest session.world)) session with
        session := session.emit events } := by
  refine ⟨rfl, rfl, rfl, ?_, rfl, ⟨[], rfl⟩, ?_⟩
  · simp only [Shell.source_start, LineSource.ofBytes]
  · simp only [Shell.arrivals_start, LineSource.ofBytes]
    rfl

namespace Startup.Script

/-- A script file is run as its lines are, if nothing is written to it. -/
theorem session_run_file {session : Session} {path : Path}
    (hkept : (Shell.start .plain (.ofBytes (session.world.files.content path)) session).LeavesAlone
      path) :
    (Script.run session (.fed { origin := .file path 0 })).session =
      ((Shell.start .plain (.ofBytes (session.world.files.content path)) session).runWith
        fun shell => (shell.turns Feed.maxTurns).shell).session := by
  let plain := Shell.start .plain (.ofBytes (session.world.files.content path)) session
  refine Shell.session_runWith_congr rfl fun events => ?_
  have hserves := Feed.serves_start (.file path 0) session events
  refine hserves.turns_file (fun count => ?_) Feed.maxTurns
  have hworld := plain.world_turns_emit count events
  exact (congrArg (fun world => world.files.content path) hworld).trans (hkept count)

end Startup.Script

end CommandShell
