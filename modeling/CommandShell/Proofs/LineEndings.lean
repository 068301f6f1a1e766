import CommandShell.Proofs.PipedScripts

/-!
# Line endings

A line of a byte stream may end in a line feed or in a carriage return and a line feed, and the last
one may have no end. The lines that are read are the same, and so is all that a shell does with
them.
-/

namespace CommandShell

namespace Bytes

theorem ofText_eq_flatMap (text : String) :
    ofText text = text.toList.flatMap String.utf8EncodeChar := by
  have hbytes : text.toByteArray = (text.toList.flatMap String.utf8EncodeChar).toByteArray := by
    change text.toByteArray = text.toList.utf8Encode
    rw [← String.toByteArray_ofList, String.ofList_toList]
  change text.toByteArray.data.toList = _
  rw [hbytes, List.data_toByteArray]

/-- No other character has the byte of a line feed in its encoding. -/
theorem eq_feed_of_mem_utf8EncodeChar {c : Char} (h : 10 ∈ String.utf8EncodeChar c) : c = '\n' := by
  have hbyte (n : Nat) (hn : 10 = UInt8.ofNat n) : n % 256 = 10 := by
    have htoNat := congrArg UInt8.toNat hn
    simpa using htoNat.symm
  unfold String.utf8EncodeChar at h
  dsimp only at h
  split at h
  · have hval := hbyte _ (List.mem_singleton.mp h)
    apply Char.ext
    apply UInt32.toNat_inj.mp
    have hfeed : '\n'.val.toNat = 10 := rfl
    omega
  · exfalso
    split at h
    · simp only [List.mem_cons, List.not_mem_nil, or_false] at h
      rcases h with h | h <;> have hval := hbyte _ h <;> omega
    · split at h
      · simp only [List.mem_cons, List.not_mem_nil, or_false] at h
        rcases h with h | h | h <;> have hval := hbyte _ h <;> omega
      · simp only [List.mem_cons, List.not_mem_nil, or_false] at h
        rcases h with h | h | h | h <;> have hval := hbyte _ h <;> omega

theorem feed_notMem_ofText {text : String} (h : '\n' ∉ text.toList) : 10 ∉ ofText text := by
  rw [ofText_eq_flatMap, List.mem_flatMap]
  rintro ⟨c, hc, hbyte⟩
  exact h (eq_feed_of_mem_utf8EncodeChar hbyte ▸ hc)

theorem ofText_feed : ofText "\n" = [10] := by
  decide

theorem length_ofText (text : String) : (ofText text).length = text.utf8ByteSize :=
  rfl

theorem ofText_spaces (count : Nat) :
    ofText (String.ofList (List.replicate count ' ')) = List.replicate count 32 := by
  have hspace : String.utf8EncodeChar ' ' = [32] := by decide
  rw [ofText_eq_flatMap, String.toList_ofList, List.flatMap_replicate, hspace,
    List.flatten_replicate_singleton]

end Bytes

namespace Text

/-- The text is these lines, each with a line feed behind it or a carriage return and a line feed.
The last one may lack its end, unless it is empty. -/
inductive MadeOf : List String → String → Prop
  | nothing : MadeOf [] ""
  | unended {line : String} (ne_empty : line ≠ "") : MadeOf [line] line
  | feed (line : String) {lines : List String} {text : String} (rest : MadeOf lines text) :
      MadeOf (line :: lines) (line ++ "\n" ++ text)
  | returnFeed (line : String) {lines : List String} {text : String} (rest : MadeOf lines text) :
      MadeOf (line :: lines) (line ++ "\r\n" ++ text)

/-- A line without a line feed and without a carriage return at its end. -/
structure IsLine (line : String) : Prop where
  feed : '\n' ∉ line.toList
  last : line.toList.getLast? ≠ some '\r'

instance (line : String) : Decidable (IsLine line) :=
  decidable_of_iff ('\n' ∉ line.toList ∧ line.toList.getLast? ≠ some '\r')
    ⟨fun h => ⟨h.1, h.2⟩, fun h => ⟨h.feed, h.last⟩⟩

theorem chomp_of_notMem {text : List Char} (h : '\n' ∉ text) : chomp '\n' '\r' text = text := by
  have hlast : text.getLast? ≠ some '\n' := by
    intro hlast
    exact h (List.mem_of_getLast? hlast)
  rw [chomp, if_neg hlast]

theorem isLine_spaces (count : Nat) : IsLine (String.ofList (List.replicate count ' ')) := by
  have honly {c : Char} (h : c ∈ (String.ofList (List.replicate count ' ')).toList) : c = ' ' := by
    rw [String.toList_ofList] at h
    exact List.eq_of_mem_replicate h
  constructor
  · intro hfeed
    exact absurd (honly hfeed) (by decide)
  · intro hlast
    exact absurd (honly (List.mem_of_getLast? hlast)) (by decide)

end Text

namespace Arrival

open Text

theorem ofPiece_ofText (text : String) :
    ofPiece (Bytes.ofText text) = .line (String.ofList (chomp '\n' '\r' text.toList)) := by
  rw [ofPiece, Bytes.lineText?, Bytes.toText?_ofText]
  rfl

theorem ofPiece_feed {line : String} (h : IsLine line) :
    ofPiece (Bytes.ofText (line ++ "\n")) = .line line := by
  have hchars : (line ++ "\n").toList = line.toList ++ ['\n'] := by
    simp
  rw [ofPiece_ofText, hchars, chomp_append_feed, (dropReturn_eq_self_iff _).mpr h.last,
    String.ofList_toList]

theorem ofPiece_returnFeed (line : String) :
    ofPiece (Bytes.ofText (line ++ "\r\n")) = .line line := by
  have hchars : (line ++ "\r\n").toList = line.toList ++ ['\r'] ++ ['\n'] := by
    simp
  rw [ofPiece_ofText, hchars, chomp_append_feed, dropReturn_concat, if_pos rfl,
    String.ofList_toList]

theorem ofPiece_unended {line : String} (h : IsLine line) :
    ofPiece (Bytes.ofText line) = .line line := by
  rw [ofPiece_ofText, chomp_of_notMem h.feed, String.ofList_toList]

end Arrival

namespace Bytes

theorem pieces_ofText {line ending text : String} (hline : '\n' ∉ line.toList)
    (hending : ending = "\n" ∨ ending = "\r\n") :
    Text.pieces 10 (ofText (line ++ ending ++ text)) =
      ofText (line ++ ending) :: Text.pieces 10 (ofText text) := by
  have hfront : ∃ front : String, '\n' ∉ front.toList ∧ line ++ ending = front ++ "\n" := by
    rcases hending with rfl | rfl
    · exact ⟨line, hline, rfl⟩
    · refine ⟨line ++ "\r", by simpa using hline, ?_⟩
      rw [String.append_assoc]
      rfl
  obtain ⟨front, hfeed, hends⟩ := hfront
  rw [hends, ofText_append, ofText_append, ofText_feed, List.append_assoc, List.singleton_append,
    Text.pieces_append (feed_notMem_ofText hfeed)]

end Bytes

namespace LineSource

/-- What reads find one after the other, a prompt for each. -/
def found (source : LineSource) : List String → List Arrival
  | [] => []
  | prompt :: prompts =>
    let read := source.next prompt
    read.1 :: read.2.found prompts

theorem found_append {source : LineSource} {first : List String}
    (h : first.length = source.arrivals.length) (later : List String) :
    source.found (first ++ later) = source.arrivals ++ later.map fun _ => .endOfInput := by
  obtain ⟨arrivals, asked, handed⟩ := source
  induction arrivals generalizing first asked with
  | nil =>
    obtain rfl := List.eq_nil_of_length_eq_zero h
    induction later generalizing asked with
    | nil => rfl
    | cons prompt later ih => exact congrArg (Arrival.endOfInput :: ·) (ih (prompt :: asked) rfl)
  | cons arrival rest ih =>
    cases first with
    | nil => exact absurd h (by simp)
    | cons prompt first =>
      have hrest : first.length = rest.length := Nat.succ.inj h
      exact congrArg (arrival :: ·) (ih (prompt :: asked) hrest)

/-- The lines of a byte stream, whatever their ends. -/
theorem arrivals_ofBytes {lines : List String} {text : String}
    (hlines : ∀ line ∈ lines, Text.IsLine line) (htext : Text.MadeOf lines text) :
    (ofBytes (Bytes.ofText text)).arrivals = lines.map .line := by
  change (Text.pieces 10 (Bytes.ofText text)).map Arrival.ofPiece = _
  induction htext with
  | nothing => rfl
  | @unended line ne_empty =>
    have hline : Text.IsLine line := hlines line List.mem_cons_self
    have hne : Bytes.ofText line ≠ [] := by
      intro hnil
      have htext := Bytes.toText?_ofText line
      rw [hnil] at htext
      exact ne_empty (Option.some.inj htext).symm
    rw [Text.pieces_of_notMem (Bytes.feed_notMem_ofText hline.feed) hne, List.map_singleton,
      Arrival.ofPiece_unended hline, List.map_singleton]
  | feed line rest ih =>
    have hline : Text.IsLine line := hlines line List.mem_cons_self
    have hrest := ih fun line h => hlines line (List.mem_cons_of_mem _ h)
    rw [Bytes.pieces_ofText hline.feed (.inl rfl), List.map_cons, hrest,
      Arrival.ofPiece_feed hline, List.map_cons]
  | returnFeed line rest ih =>
    have hline : Text.IsLine line := hlines line List.mem_cons_self
    have hrest := ih fun line h => hlines line (List.mem_cons_of_mem _ h)
    rw [Bytes.pieces_ofText hline.feed (.inr rfl), List.map_cons, hrest,
      Arrival.ofPiece_returnFeed, List.map_cons]

theorem ofBytes_eq {lines : List String} {text : String}
    (hlines : ∀ line ∈ lines, Text.IsLine line) (htext : Text.MadeOf lines text) :
    ofBytes (Bytes.ofText text) = { arrivals := lines.map .line } := by
  rw [← arrivals_ofBytes hlines htext]
  rfl

end LineSource

theorem Startup.prepareLog_arguments (startup : Startup) (arguments : List String)
    (settings : Settings) :
    { startup with arguments }.prepareLog settings = startup.prepareLog settings := by
  simp only [prepareLog, openLog]

theorem Startup.script_command (settings : Settings) (terminal : Option Terminal) (world : World)
    (line : String) (more : List String) :
    script settings terminal world ("-c" :: line :: more) =
      .ok (.fixed (.ofBytes (Bytes.ofText line))) :=
  rfl

theorem Startup.Script.session_run_lines {session : Session} {path : Path} {lines : List String}
    {text : String} (hlines : ∀ line ∈ lines, Text.IsLine line) (htext : Text.MadeOf lines text)
    (hcontent : session.world.files.content path = Bytes.ofText text)
    (hkept : (Shell.start .plain { arrivals := lines.map .line } session).LeavesAlone path) :
    (Script.run session (.fed { origin := .file path 0 })).session =
      ((Shell.start .plain { arrivals := lines.map .line } session).runWith
        fun shell => (shell.turns Feed.maxTurns).shell).session := by
  rw [← LineSource.ofBytes_eq hlines htext, ← hcontent] at hkept ⊢
  exact session_run_file hkept

end CommandShell
