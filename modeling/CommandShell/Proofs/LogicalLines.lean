import CommandShell.LineSource.Logical
import Mathlib.Data.List.Infix

/-!
# Logical lines are complete, and no longer than they have to be

A logical line is read physical line by physical line until the text joined so far can stand for
itself. What comes out of it is told from that text and from what the read after it finds.
-/

namespace CommandShell

/-- No quote is open, and no backslash waits for the next line. -/
def IsComplete (text : String) : Prop :=
  unclosedQuote text = none ∧ endsWithContinuation text = false
  deriving Decidable

/-- A text and the physical line after it. A line feed stands between them if a quote is open; a
backslash at the end is dropped. -/
def glue (text next : String) : String :=
  if hasUnclosedQuote text then text ++ "\n" ++ next
  else if endsWithContinuation text then String.ofList text.toList.dropLast ++ next
  else text ++ next

/-- Physical lines as one text. -/
def joinLines : List String → String
  | [] => ""
  | first :: others => others.foldl glue first

def readingAt (arrivals : List Arrival) (count : Nat) : Reading :=
  (arrivals[count]?.map Arrival.reading).getD .endOfInput

theorem readingAt_cons_succ (arrival : Arrival) (rest : List Arrival) (count : Nat) :
    readingAt (arrival :: rest) (count + 1) = readingAt rest count := by
  simp only [readingAt, List.getElem?_cons_succ]

theorem isComplete_iff_after (text : String) :
    IsComplete text ↔ Quoting.bare.after text.toList = .bare := by
  unfold IsComplete unclosedQuote endsWithContinuation
  cases Quoting.bare.after text.toList <;> simp [Quoting.openQuote]

theorem isComplete_empty : IsComplete "" :=
  (isComplete_iff_after "").mpr rfl

theorem step_eq_escaped_iff (quoting : Quoting) (c : Char) :
    quoting.step c = .escaped ↔ quoting = .bare ∧ c = '\\' := by
  cases quoting <;> grind [Quoting.step]

theorem exists_of_after_escaped {cs : List Char} (h : Quoting.bare.after cs = .escaped) :
    ∃ front, cs = front ++ ['\\'] ∧ Quoting.bare.after front = .bare := by
  rcases List.eq_nil_or_concat cs with rfl | ⟨front, c, rfl⟩
  · cases h
  · rw [List.concat_eq_append, Quoting.after_append] at h
    obtain ⟨hfront, rfl⟩ := (step_eq_escaped_iff _ c).mp h
    exact ⟨front, List.concat_eq_append, hfront⟩

theorem after_of_endsWithContinuation {text : String}
    (h : endsWithContinuation text = true) : Quoting.bare.after text.toList = .escaped := by
  simpa [endsWithContinuation] using h

theorem exists_of_endsWithContinuation {text : String} (h : endsWithContinuation text = true) :
    ∃ line, text = line ++ "\\" ∧ IsComplete line := by
  obtain ⟨front, hfront, hbare⟩ := exists_of_after_escaped (after_of_endsWithContinuation h)
  refine ⟨String.ofList front, ?_, ?_⟩
  · apply String.toList_inj.mp
    rw [hfront]
    simp
  · rw [isComplete_iff_after, String.toList_ofList]
    exact hbare

theorem completeness_cases (text : String) :
    IsComplete text ∨ (∃ quote, unclosedQuote text = some quote) ∨
      endsWithContinuation text = true := by
  unfold IsComplete unclosedQuote endsWithContinuation
  cases Quoting.bare.after text.toList <;> simp [Quoting.openQuote]

theorem not_isComplete_of_unclosedQuote {text : String} {quote : Char}
    (h : unclosedQuote text = some quote) : ¬IsComplete text := by
  intro hcomplete
  rw [hcomplete.1] at h
  cases h

theorem not_isComplete_of_endsWithContinuation {text : String}
    (h : endsWithContinuation text = true) : ¬IsComplete text := by
  intro hcomplete
  rw [hcomplete.2] at h
  cases h

theorem unclosedQuote_of_endsWithContinuation {text : String}
    (h : endsWithContinuation text = true) : unclosedQuote text = none := by
  rw [unclosedQuote, after_of_endsWithContinuation h]
  rfl

def joinText (text : String) (arrivals : List Arrival) : Joined :=
  joinArrivals (Quoting.bare.after text.toList) text.toList.reverse arrivals

theorem joinText_of_complete {text : String} (h : IsComplete text) (arrivals : List Arrival) :
    joinText text arrivals = { result := .ok (.line text), rest := arrivals } := by
  have hstate := (isComplete_iff_after text).mp h
  unfold joinText joinArrivals
  rw [hstate]
  simp [Quoting.completeness]

private theorem completeness_of_unclosedQuote {text : String} {quote : Char}
    (h : unclosedQuote text = some quote) :
    (Quoting.bare.after text.toList).completeness = .openQuote quote := by
  unfold unclosedQuote at h
  cases hstate : Quoting.bare.after text.toList <;> rw [hstate] at h <;> cases h <;> rfl

theorem joinText_line {text : String} (h : ¬IsComplete text) (next : String)
    (rest : List Arrival) :
    joinText text (.line next :: rest) = (joinText (glue text next) rest).askedOnce := by
  obtain hdone | ⟨quote, hquote⟩ | hcontinued := completeness_cases text
  · exact absurd hdone h
  · have hglue : glue text next = text ++ "\n" ++ next := by
      simp [glue, hasUnclosedQuote, hquote]
    rw [hglue, joinText, joinText, joinArrivals.eq_def, completeness_of_unclosedQuote hquote]
    simp [Quoting.after_append]
  · have hstate := after_of_endsWithContinuation hcontinued
    obtain ⟨front, hfront, hbare⟩ := exists_of_after_escaped hstate
    have hglue : glue text next = String.ofList front ++ next := by
      simp [glue, hasUnclosedQuote, unclosedQuote_of_endsWithContinuation hcontinued, hcontinued,
        hfront]
    -- without its backslash the text is complete, so the state is that of the next line alone
    rw [hglue, joinText, joinText, joinArrivals.eq_def, hstate]
    simp [Quoting.completeness, Quoting.after_append, hfront, hbare]

/-- What becomes of a text that is complete, or that the next read does not carry on. -/
inductive Ends (text : String) (next : Reading) : Except ShellError Reading → Prop
  | complete : IsComplete text → Ends text next (.ok (.line text))
  | interrupted : ¬IsComplete text → next = .interrupted → Ends text next (.ok .interrupted)
  | openQuote {quote : Char} : unclosedQuote text = some quote → next = .endOfInput →
      Ends text next (.error (.unexpectedEnd quote))
  | backslash {line : String} : text = line ++ "\\" → endsWithContinuation text = true →
      IsComplete line → next = .endOfInput → Ends text next (.ok (.line line))

theorem joinText_of_not_line {text : String} (h : ¬IsComplete text) {arrivals : List Arrival}
    (hnext : ∀ next, readingAt arrivals 0 ≠ .line next) :
    Ends text (readingAt arrivals 0) (joinText text arrivals).result ∧
      (joinText text arrivals).asked = 1 ∧ (joinText text arrivals).rest = arrivals.tail := by
  obtain hdone | ⟨quote, hquote⟩ | hcontinued := completeness_cases text
  · exact absurd hdone h
  · rw [joinText, joinArrivals.eq_def, completeness_of_unclosedQuote hquote]
    rcases arrivals with _ | ⟨arrival, rest⟩
    · exact ⟨.openQuote hquote rfl, rfl, rfl⟩
    · cases arrival with
      | line next => exact absurd rfl (hnext next)
      | interrupt => exact ⟨.interrupted h rfl, rfl, rfl⟩
      | endOfInput => exact ⟨.openQuote hquote rfl, rfl, rfl⟩
      | failure cause => exact ⟨.openQuote hquote rfl, rfl, rfl⟩
  · obtain ⟨line, hline, hcomplete⟩ := exists_of_endsWithContinuation hcontinued
    have hchars : String.ofList text.toList.reverse.tail.reverse = line := by
      rw [hline]
      simp
    rw [joinText, joinArrivals.eq_def, after_of_endsWithContinuation hcontinued]
    rcases arrivals with _ | ⟨arrival, rest⟩
    · refine ⟨?_, rfl, rfl⟩
      simp only [Quoting.completeness, hchars]
      exact .backslash hline hcontinued hcomplete rfl
    · cases arrival with
      | line next => exact absurd rfl (hnext next)
      | interrupt => exact ⟨.interrupted h rfl, rfl, rfl⟩
      | endOfInput =>
        refine ⟨?_, rfl, rfl⟩
        simp only [Quoting.completeness, hchars]
        exact .backslash hline hcontinued hcomplete rfl
      | failure cause =>
        refine ⟨?_, rfl, rfl⟩
        simp only [Quoting.completeness, hchars]
        exact .backslash hline hcontinued hcomplete rfl

namespace Ends

variable {text : String} {next : Reading} {result : Except ShellError Reading}

theorem line_iff (h : Ends text next result) (line : String) :
    result = .ok (.line line) ↔
      IsComplete text ∧ line = text ∨
        endsWithContinuation text = true ∧ next = .endOfInput ∧ text = line ++ "\\" := by
  cases h with
  | complete hcomplete =>
    have hnot : endsWithContinuation text ≠ true := by simp [hcomplete.2]
    simp [hcomplete, hnot, eq_comm]
  | interrupted hnot hnext => simp [hnot, hnext]
  | openQuote hquote hnext =>
    have hnot := not_isComplete_of_unclosedQuote hquote
    have hcontinued : endsWithContinuation text ≠ true := by
      intro hcontinued
      rw [unclosedQuote_of_endsWithContinuation hcontinued] at hquote
      cases hquote
    simp [hnot, hcontinued]
  | backslash hline hcontinued _ hnext =>
    have hnot := not_isComplete_of_endsWithContinuation hcontinued
    subst hline
    simp [hnot, hcontinued, hnext]

theorem isComplete {line : String} (h : Ends text next (.ok (.line line))) : IsComplete line := by
  cases h with
  | complete hcomplete => exact hcomplete
  | backslash _ _ hcomplete _ => exact hcomplete

theorem unexpectedEnd_iff (h : Ends text next result) (quote : Char) :
    result = .error (.unexpectedEnd quote) ↔
      next = .endOfInput ∧ unclosedQuote text = some quote := by
  cases h with
  | complete hcomplete => simp [hcomplete.1]
  | interrupted _ hnext => simp [hnext]
  | openQuote hquote hnext => simp [hquote, hnext]
  | backslash _ hcontinued _ _ => simp [unclosedQuote_of_endsWithContinuation hcontinued]

theorem interrupted_iff (h : Ends text next result) :
    result = .ok .interrupted ↔ next = .interrupted ∧ ¬IsComplete text := by
  cases h with
  | complete hcomplete => simp [hcomplete]
  | interrupted hnot hnext => simp [hnot, hnext]
  | openQuote _ hnext => simp [hnext]
  | backslash _ _ _ hnext => simp [hnext]

theorem ne_endOfInput (h : Ends text next result) : result ≠ .ok .endOfInput := by
  cases h <;> simp

theorem enough (h : Ends text next result) : IsComplete text ∨ ∀ line, next ≠ .line line := by
  cases h with
  | complete hcomplete => exact .inl hcomplete
  | interrupted _ hnext => exact .inr (by simp [hnext])
  | openQuote _ hnext => exact .inr (by simp [hnext])
  | backslash _ _ _ hnext => exact .inr (by simp [hnext])

end Ends

/-- The physical lines that a text is completed with, and how often the source is asked. -/
structure Completes (text : String) (arrivals : List Arrival) (lines : List String)
    (joined : Joined) : Prop where
  found : lines.map Arrival.line <+: arrivals
  needed : ∀ front, front <+: lines → front ≠ lines → ¬IsComplete (front.foldl glue text)
  ends : Ends (lines.foldl glue text) (readingAt arrivals lines.length) joined.result
  asked : joined.asked = lines.length + if IsComplete (lines.foldl glue text) then 0 else 1
  rest : joined.rest = arrivals.drop joined.asked

theorem Completes.of_complete {text : String} (h : IsComplete text) (arrivals : List Arrival) :
    Completes text arrivals [] (joinText text arrivals) := by
  rw [joinText_of_complete h]
  refine ⟨List.nil_prefix, ?_, .complete h, ?_, rfl⟩
  · intro front hfront hne
    exact absurd (List.prefix_nil.mp hfront) hne
  · simp [h]

theorem Completes.of_not_line {text : String} (h : ¬IsComplete text) {arrivals : List Arrival}
    (hnext : ∀ next, readingAt arrivals 0 ≠ .line next) :
    Completes text arrivals [] (joinText text arrivals) := by
  obtain ⟨hends, hasked, hrest⟩ := joinText_of_not_line h hnext
  refine ⟨List.nil_prefix, ?_, hends, ?_, ?_⟩
  · intro front hfront hne
    exact absurd (List.prefix_nil.mp hfront) hne
  · simp [h, hasked]
  · rw [hasked, hrest, List.drop_one]

private theorem forall_proper_cons {P : List String → Prop} {first : String} {lines : List String}
    (hnil : P []) (hcons : ∀ front, front <+: lines → front ≠ lines → P (first :: front)) :
    ∀ front, front <+: first :: lines → front ≠ first :: lines → P front := by
  intro front hfront hne
  rcases front with _ | ⟨head, front⟩
  · exact hnil
  · obtain ⟨rfl, htail⟩ := List.cons_prefix_cons.mp hfront
    apply hcons front htail
    rintro rfl
    exact hne rfl

theorem Completes.cons {text next : String} (h : ¬IsComplete text) {arrivals : List Arrival}
    {lines : List String}
    (hnext : Completes (glue text next) arrivals lines (joinText (glue text next) arrivals)) :
    Completes text (.line next :: arrivals) (next :: lines)
      (joinText text (.line next :: arrivals)) := by
  rw [joinText_line h]
  generalize joinText (glue text next) arrivals = joined at hnext ⊢
  refine ⟨?_, ?_, ?_, ?_, ?_⟩
  · exact (List.prefix_cons_inj _).mpr hnext.found
  · exact forall_proper_cons h hnext.needed
  · rw [List.length_cons, readingAt_cons_succ]
    exact hnext.ends
  · change joined.asked + 1 = _
    rw [hnext.asked, List.length_cons, List.foldl_cons, Nat.add_right_comm]
  · exact hnext.rest

theorem exists_completes (text : String) (arrivals : List Arrival) :
    ∃ lines, Completes text arrivals lines (joinText text arrivals) := by
  induction arrivals generalizing text with
  | nil =>
    by_cases h : IsComplete text
    · exact ⟨[], .of_complete h []⟩
    · exact ⟨[], .of_not_line h nofun⟩
  | cons arrival rest ih =>
    by_cases h : IsComplete text
    · exact ⟨[], .of_complete h _⟩
    · cases arrival with
      | line next =>
        obtain ⟨lines, hlines⟩ := ih (glue text next)
        exact ⟨next :: lines, hlines.cons h⟩
      | interrupt => exact ⟨[], .of_not_line h nofun⟩
      | endOfInput => exact ⟨[], .of_not_line h nofun⟩
      | failure cause => exact ⟨[], .of_not_line h nofun⟩

namespace LineSource

def finds (source : LineSource) (count : Nat) : Reading :=
  readingAt source.arrivals count

def afterReads (source : LineSource) (theme : Theme) (count : Nat) : LineSource :=
  { source with
    arrivals := source.arrivals.drop count
    asked := List.replicate (count - 1) theme.continuation ++ theme.prompt :: source.asked }

/-- The physical lines of a logical line: the source has them next, the line is not complete before
the last of them, and with that one it is, or there are no more. -/
structure Takes (source : LineSource) (lines : List String) : Prop where
  found : lines.map Arrival.line <+: source.arrivals
  needed : ∀ front, front <+: lines → front ≠ lines → front ≠ [] → ¬IsComplete (joinLines front)
  enough : (lines ≠ [] ∧ IsComplete (joinLines lines)) ∨
    ∀ line, source.finds lines.length ≠ .line line

/-- A logical line that starts with a physical line ends as the text of its lines tells. -/
theorem exists_takes_of_line (source : LineSource) (theme : Theme) {first : String}
    (h : source.finds 0 = .line first) :
    ∃ lines, lines ≠ [] ∧ source.Takes lines ∧
      Ends (joinLines lines) (source.finds lines.length) (source.readLogical theme).result ∧
      (source.readLogical theme).source = source.afterReads theme
        (lines.length + if IsComplete (joinLines lines) then 0 else 1) := by
  obtain ⟨arrivals, asked, handed⟩ := source
  rcases arrivals with _ | ⟨arrival, rest⟩
  · cases h
  cases arrival with
  | interrupt => cases h
  | endOfInput => cases h
  | failure cause => cases h
  | line text =>
    obtain ⟨lines, hlines⟩ := exists_completes text rest
    have hends : Ends (joinLines (text :: lines))
        (readingAt (.line text :: rest) (text :: lines).length) (joinText text rest).result := by
      rw [List.length_cons, readingAt_cons_succ]
      exact hlines.ends
    refine ⟨text :: lines, List.cons_ne_nil _ _, ⟨?_, ?_, ?_⟩, hends, ?_⟩
    · exact (List.prefix_cons_inj _).mpr hlines.found
    · exact forall_proper_cons (fun hsome => absurd rfl hsome)
        fun front hfront hne _ => hlines.needed front hfront hne
    · exact hends.enough.imp_left fun hcomplete => ⟨List.cons_ne_nil _ _, hcomplete⟩
    · have hcount : (text :: lines).length +
          (if IsComplete (joinLines (text :: lines)) then 0 else 1) =
            (joinText text rest).asked + 1 := by
        rw [hlines.asked, List.length_cons, joinLines, Nat.add_right_comm]
      rw [hcount, afterReads, Nat.add_sub_cancel, List.drop_succ_cons, ← hlines.rest]
      rfl

theorem readLogical_of_not_line (source : LineSource) (theme : Theme)
    (h : ∀ line, source.finds 0 ≠ .line line) :
    (source.readLogical theme).result = .ok (source.finds 0) ∧
      (source.readLogical theme).source = source.afterReads theme 1 := by
  obtain ⟨arrivals, asked, handed⟩ := source
  rcases arrivals with _ | ⟨arrival, rest⟩
  · exact ⟨rfl, rfl⟩
  · cases arrival with
    | line text => exact absurd rfl (h text)
    | interrupt => exact ⟨rfl, rfl⟩
    | endOfInput => exact ⟨rfl, rfl⟩
    | failure cause => exact ⟨rfl, rfl⟩

/-- A logical line is complete, and it takes no physical line more than it needs. There is none
where the end of input is read inside a quote, where an interrupt is read before the line is
complete, and where the input ends before it. -/
theorem readLogical_takes_exactly (source : LineSource) (theme : Theme) :
    let read := source.readLogical theme
    (∀ line, read.result = .ok (.line line) →
      unclosedQuote line = none ∧ endsWithContinuation line = false) ∧
    ∃ lines,
      let text := joinLines lines
      let next := source.finds lines.length
      source.Takes lines ∧
      read.source = source.afterReads theme
        (lines.length + if lines ≠ [] ∧ IsComplete text then 0 else 1) ∧
      (∀ line, read.result = .ok (.line line) ↔
        lines ≠ [] ∧
          (IsComplete text ∧ line = text ∨
            endsWithContinuation text = true ∧ next = .endOfInput ∧ text = line ++ "\\")) ∧
      (∀ quote, read.result = .error (.unexpectedEnd quote) ↔
        next = .endOfInput ∧ unclosedQuote text = some quote) ∧
      (read.result = .ok .interrupted ↔
        next = .interrupted ∧ ¬(lines ≠ [] ∧ IsComplete text)) ∧
      (read.result = .ok .endOfInput ↔ next = .endOfInput ∧ lines = []) := by
  intro read
  by_cases hline : ∃ first, source.finds 0 = .line first
  · obtain ⟨first, hfirst⟩ := hline
    obtain ⟨lines, hne, htakes, hends, hsource⟩ := source.exists_takes_of_line theme hfirst
    constructor
    · intro line hresult
      rw [hresult] at hends
      exact hends.isComplete
    · refine ⟨lines, htakes, ?_, ?_, hends.unexpectedEnd_iff, ?_, ?_⟩
      · simpa [hne] using hsource
      · intro line
        simpa [hne] using hends.line_iff line
      · simpa [hne] using hends.interrupted_iff
      · simp [hne, hends.ne_endOfInput, read]
  · have hnone : ∀ line, source.finds 0 ≠ .line line := by simpa using hline
    obtain ⟨hresult, hsource⟩ := source.readLogical_of_not_line theme hnone
    constructor
    · intro line hfound
      have hreading : source.finds 0 = .line line := Except.ok.inj (hresult.symm.trans hfound)
      exact absurd hreading (hnone line)
    · have hempty : unclosedQuote (joinLines []) = none := isComplete_empty.1
      refine ⟨[], ⟨List.nil_prefix, ?_, .inr hnone⟩, ?_, ?_, ?_, ?_, ?_⟩
      · intro front hfront hne
        exact absurd (List.prefix_nil.mp hfront) hne
      · simpa using hsource
      · intro line
        simp [read, hresult, hnone line]
      · intro quote
        simp [read, hresult, hempty]
      · simp [read, hresult]
      · simp [read, hresult]

theorem readLogical_takes_exactly_backslash :
    let source : LineSource := { arrivals := [.line "echo 'a", .line "b' \\", .endOfInput] }
    let line := "echo 'a\nb' "
    (source.readLogical .plain).result = .ok (.line line) ∧
      unclosedQuote line = none ∧ endsWithContinuation line = false := by
  intro source line
  have hresult : (source.readLogical .plain).result = .ok (.line line) := rfl
  exact ⟨hresult, (source.readLogical_takes_exactly .plain).1 line hresult⟩

end LineSource

end CommandShell
