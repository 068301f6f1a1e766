import CommandShell.Proofs.HereDocLines
import CommandShell.Proofs.HereDocs
import CommandShell.Proofs.HistoryFile
import Mathlib.Algebra.Order.BigOperators.Group.List
import Mathlib.Algebra.Order.Ring.Nat

/-!
# Bodies of here-documents

What a here-document hands to its command, told from the lines that arrive for it. A quoted body is
these lines as they are. Any other body is cut into lines once more when its command is expanded,
and a line that ends in a carriage return loses it there.
-/

namespace CommandShell

/-- What closes a body: a line equal to the delimiter, or the end of input. -/
inductive Arrival.Closes (delimiter : String) : List Arrival → List Arrival → Prop where
  | delimiter (rest : List Arrival) : Closes delimiter (.line delimiter :: rest) rest
  | endOfInput {arrival : Arrival} (hend : arrival.reading = .endOfInput) (rest : List Arrival) :
      Closes delimiter (arrival :: rest) rest
  | exhausted : Closes delimiter [] []

/-- Arrivals that are, for each delimiter in turn, the lines of a body and what closes it. -/
inductive Arrival.Bodies :
    List String → List Arrival → List (List String) → List Arrival → Prop where
  | done (arrivals : List Arrival) : Bodies [] arrivals [] arrivals
  | body {delimiter : String} {delimiters lines : List String} {bodies : List (List String)}
      {closing later rest : List Arrival} (hlines : delimiter ∉ lines)
      (hclosing : Closes delimiter closing later) (hlater : Bodies delimiters later bodies rest) :
      Bodies (delimiter :: delimiters) (lines.map .line ++ closing) (lines :: bodies) rest

theorem Arrival.Bodies.split {delimiters others : List String} {arrivals rest : List Arrival}
    {bodies : List (List String)} (h : Bodies (delimiters ++ others) arrivals bodies rest) :
    ∃ first second middle, bodies = first ++ second ∧ Bodies delimiters arrivals first middle ∧
      Bodies others middle second rest := by
  induction delimiters generalizing arrivals bodies with
  | nil => exact ⟨[], bodies, arrivals, rfl, .done arrivals, h⟩
  | cons delimiter delimiters ih =>
    cases h with
    | body hlines hclosing hlater =>
      obtain ⟨first, second, middle, rfl, hfirst, hsecond⟩ := ih hlater
      exact ⟨_ :: first, second, middle, rfl, .body hlines hclosing hfirst, hsecond⟩

theorem readBody_of_closes {delimiter : String} {closing rest : List Arrival}
    (h : Arrival.Closes delimiter closing rest) :
    (readBody delimiter closing).lines = some [] ∧ (readBody delimiter closing).rest = rest := by
  cases h with
  | delimiter => simp [readBody]
  | endOfInput hend => exact readBody_of_reading_endOfInput delimiter hend rest
  | exhausted => exact ⟨rfl, rfl⟩

theorem readBody_lines_append {delimiter : String} {lines : List String}
    (hlines : delimiter ∉ lines) {closing rest : List Arrival}
    (hclosing : Arrival.Closes delimiter closing rest) :
    (readBody delimiter (lines.map .line ++ closing)).lines = some lines ∧
      (readBody delimiter (lines.map .line ++ closing)).rest = rest := by
  induction lines with
  | nil => exact readBody_of_closes hclosing
  | cons line lines ih =>
    simp only [List.mem_cons, not_or] at hlines
    obtain ⟨hread, hrest⟩ := ih hlines.2
    rw [List.map_cons, List.cons_append, readBody, if_neg (Ne.symm hlines.1)]
    refine ⟨?_, hrest⟩
    rw [BodyRead.precededBy, hread]
    rfl

namespace Collection

/-- A way to fill a part of a line: it takes the bodies that arrive for the delimiters that it finds
in the part, and puts them there. -/
def Delivers {α : Type} (view : α → List Redirection)
    (fill : Collection → α → Collection × α) : Prop :=
  ∀ (collection : Collection) (part : α) (bodies : List (List String)) (rest : List Arrival),
    collection.interrupted = false →
    Arrival.Bodies (Redirection.delimiters (view part)) collection.source.arrivals bodies rest →
    (fill collection part).1.interrupted = false ∧
      (fill collection part).1.source.arrivals = rest ∧
      Redirection.Filled (view part) (bodies.map bodyText) (view (fill collection part).2)

theorem delivers_fill (prompt : String) :
    Delivers (fun redirection => [redirection]) (fill prompt) := by
  intro collection redirection bodies rest hready harrive
  cases hawaits : redirection.awaitsBody with
  | false =>
    have hfill : fill prompt collection redirection = (collection, redirection) := by
      simp [fill, hawaits]
    rw [Redirection.delimiters, List.filter_singleton, hawaits] at harrive
    rw [hfill]
    cases harrive with
    | done => exact ⟨hready, rfl, .other hawaits .nil⟩
  | true =>
    rw [Redirection.delimiters, List.filter_singleton, hawaits] at harrive
    generalize harrivals : collection.source.arrivals = arrivals at harrive
    cases harrive with
    | body hlines hclosing hlater =>
      cases hlater with
      | done =>
        obtain ⟨hread, hrest⟩ := readBody_lines_append hlines hclosing
        refine ⟨?_, ?_, ?_⟩
        · simp [fill, hready, hawaits, harrivals, BodyRead.body, hread]
        · simp [fill, hready, hawaits, harrivals, BodyRead.body, hread, hrest, LineSource.ask]
        · simpa [fill, hready, hawaits, harrivals, BodyRead.body, hread, bodyText] using
            Redirection.Filled.body hawaits (bodyText _) .nil

theorem Delivers.mapWithState {α : Type} {view : α → List Redirection}
    {fill : Collection → α → Collection × α} (h : Delivers view fill) :
    Delivers (List.flatMap view) (mapWithState fill) := by
  intro collection parts bodies rest hready harrive
  induction parts generalizing collection bodies with
  | nil =>
    cases harrive with
    | done => exact ⟨hready, rfl, .nil⟩
  | cons part parts ih =>
    rw [List.flatMap_cons, Redirection.delimiters_append] at harrive
    obtain ⟨first, second, middle, rfl, hfirst, hsecond⟩ := harrive.split
    obtain ⟨hgoes, rfl, hfilled⟩ := h collection part first middle hready hfirst
    obtain ⟨hready, hrest, hfilleds⟩ := ih _ second hgoes hsecond
    refine ⟨hready, hrest, ?_⟩
    rw [List.flatMap_cons, List.map_append]
    exact hfilled.append hfilleds

theorem delivers_fillCommand (prompt : String) :
    Delivers Command.redirections (fillCommand prompt) := by
  intro collection command bodies rest hready harrive
  have hfill := (delivers_fill prompt).mapWithState collection command.redirections bodies rest
  rw [List.flatMap_singleton', List.flatMap_singleton'] at hfill
  exact hfill hready harrive

theorem delivers_fillPipeline (prompt : String) :
    Delivers Pipeline.redirections (fillPipeline prompt) := fun collection pipeline =>
  (delivers_fillCommand prompt).mapWithState collection pipeline.commands

end Collection

section Substitution

variable {scope : Scope}

theorem substituteHereDoc_parameter {rest after : List Char} {parameter : Parameter}
    (h : Parameter.read? rest = some (parameter, after)) :
    substituteHereDoc scope ('$' :: rest) =
      (scope.value parameter).toList ++ substituteHereDoc scope after := by
  rw [substituteHereDoc, if_pos rfl]
  · split <;> simp_all
  · simp
  · simp

theorem substituteHereDoc_alone {rest : List Char} (h : Parameter.read? rest = none) :
    substituteHereDoc scope ('$' :: rest) = '$' :: substituteHereDoc scope rest := by
  rw [substituteHereDoc, if_pos rfl]
  · split <;> simp_all
  · simp
  · simp

theorem substituteHereDoc_plain {c : Char} (hescape : c ≠ '\\') (hdollar : c ≠ '$')
    (rest : List Char) :
    substituteHereDoc scope (c :: rest) = c :: substituteHereDoc scope rest := by
  rw [substituteHereDoc, if_neg hdollar]
  · exact fun h => absurd h hescape
  · exact fun _ _ h => absurd h hescape

/-- Nothing that a line is expanded to reaches over a carriage return at its end. -/
theorem substituteHereDoc_append_return (text : List Char) :
    substituteHereDoc scope (text ++ ['\r']) = substituteHereDoc scope text ++ ['\r'] := by
  fun_induction substituteHereDoc scope text with
  | case1 => simp [substituteHereDoc]
  | case2 => simp [substituteHereDoc]
  | case3 c rest hc ih => simp [substituteHereDoc, hc, ih]
  | case4 c rest hc ih => simpa [substituteHereDoc, hc] using ih
  | case5 rest parameter after hread _ _ ih =>
    have hlonger : Parameter.read? (rest ++ ['\r']) = some (parameter, after ++ ['\r']) := by
      rw [Parameter.read?_append (by decide) (by decide), hread]
      rfl
    rw [List.cons_append, substituteHereDoc_parameter hlonger, ih, List.append_assoc]
  | case6 rest hread _ _ ih =>
    have hlonger : Parameter.read? (rest ++ ['\r']) = none := by
      rw [Parameter.read?_append (by decide) (by decide), hread]
      rfl
    rw [List.cons_append, substituteHereDoc_alone hlonger, ih, List.cons_append]
  | case7 c rest hlone hpair hdollar ih =>
    have hescape : c ≠ '\\' := by
      rintro rfl
      cases rest with
      | nil => exact hlone rfl rfl
      | cons d more => exact hpair d more rfl rfl
    rw [List.cons_append, substituteHereDoc_plain hescape hdollar, ih, List.cons_append]

theorem substituteHereDoc_eq_self {text : List Char} (hescape : '\\' ∉ text)
    (hdollar : '$' ∉ text) : substituteHereDoc scope text = text := by
  induction text with
  | nil => rw [substituteHereDoc]
  | cons c rest ih =>
    simp only [List.mem_cons, not_or] at hescape hdollar
    rw [substituteHereDoc_plain (Ne.symm hescape.1) (Ne.symm hdollar.1), ih hescape.2 hdollar.2]

end Substitution

theorem expandHereDocLine_eq_self (scope : Scope) {line : String} (hescape : '\\' ∉ line.toList)
    (hdollar : '$' ∉ line.toList) : expandHereDocLine scope line = line := by
  rw [expandHereDocLine, substituteHereDoc_eq_self hescape hdollar, String.ofList_toList]

def Text.withoutReturn (line : String) : String :=
  String.ofList (dropReturn line.toList)

theorem Text.withoutReturn_eq_self {line : String} (h : line.toList.getLast? ≠ some '\r') :
    withoutReturn line = line := by
  rw [withoutReturn, (dropReturn_eq_self_iff _).mpr h, String.ofList_toList]

theorem length_expandHereDocLine_of_return (scope : Scope) {line : String}
    (h : line.toList.getLast? = some '\r') :
    (expandHereDocLine scope line).length =
      (expandHereDocLine scope (Text.withoutReturn line)).length + 1 := by
  obtain ⟨front, hfront⟩ := List.getLast?_eq_some_iff.mp h
  have hdrop : Text.dropReturn line.toList = front := by
    rw [hfront, Text.dropReturn_concat, if_pos rfl]
  rw [Text.withoutReturn, hdrop, expandHereDocLine, hfront, substituteHereDoc_append_return,
    expandHereDocLine, String.toList_ofList]
  simp only [String.length_ofList, List.length_append, List.length_singleton]

theorem length_bodyText (lines : List String) :
    (bodyText lines).length = (lines.map fun line => line.length + 1).sum := by
  induction lines with
  | nil => rfl
  | cons line lines ih =>
    have hbody : bodyText (line :: lines) = line ++ "\n" ++ bodyText lines := by
      simp [bodyText]
    rw [hbody, String.length_append, String.length_append, ih]
    rfl

namespace Redirection

theorem expandBody_bodyText (scope : Scope) {lines : List String}
    (hfeed : ∀ line ∈ lines, '\n' ∉ line.toList) :
    expandBody scope (bodyText lines) =
      bodyText (lines.map fun line => expandHereDocLine scope (Text.withoutReturn line)) := by
  rw [expandBody, bodyText, Text.lines_join hfeed, bodyText, List.map_map, List.map_map]
  rfl

/-- Expanding a body expands its lines as they are, unless one ends in a carriage return. -/
theorem expandBody_bodyText_eq_iff (scope : Scope) {lines : List String}
    (hfeed : ∀ line ∈ lines, '\n' ∉ line.toList) :
    expandBody scope (bodyText lines) = bodyText (lines.map (expandHereDocLine scope)) ↔
      ∀ line ∈ lines, line.toList.getLast? ≠ some '\r' := by
  rw [expandBody_bodyText scope hfeed]
  constructor
  · intro hsame line hline hreturn
    have hlengths := congrArg String.length hsame
    rw [length_bodyText, length_bodyText, List.map_map, List.map_map] at hlengths
    refine hlengths.not_lt (List.sum_lt_sum _ _ (fun other _ => ?_) ⟨line, hline, ?_⟩)
    · by_cases hother : other.toList.getLast? = some '\r'
      · simp [length_expandHereDocLine_of_return scope hother]
      · simp [Text.withoutReturn_eq_self hother]
    · simp [length_expandHereDocLine_of_return scope hreturn]
  · intro hlast
    congr 1
    refine List.map_congr_left fun line hline => ?_
    rw [Text.withoutReturn_eq_self (hlast line hline)]

/-- What a here-document is when its command runs, told from the lines of its body. -/
structure Arrives (scope : Scope) (hereDoc : Redirection) (lines : List String)
    (arrived : Redirection) : Prop where
  withoutBody : arrived.withoutBody = hereDoc.withoutBody
  /-- A quoted body is its lines. -/
  quoted : hereDoc.quoted = true → arrived.body = some (bodyText lines)
  /-- Any other body is its lines, each expanded without a carriage return at its end. -/
  expanded : hereDoc.quoted = false → (∀ line ∈ lines, '\n' ∉ line.toList) →
    arrived.body =
      some (bodyText (lines.map fun line => expandHereDocLine scope (Text.withoutReturn line)))
  /-- It is its lines, each expanded, just if none ends in a carriage return. -/
  lineByLine : hereDoc.quoted = false → (∀ line ∈ lines, '\n' ∉ line.toList) →
    (arrived.body = some (bodyText (lines.map (expandHereDocLine scope))) ↔
      ∀ line ∈ lines, line.toList.getLast? ≠ some '\r')
  /-- With nothing to expand, it is the same as a quoted one under the same condition. -/
  plain : hereDoc.quoted = false → (∀ line ∈ lines, '\n' ∉ line.toList) →
    (∀ line ∈ lines, '$' ∉ line.toList ∧ '\\' ∉ line.toList) →
    (arrived.body = some (bodyText lines) ↔ ∀ line ∈ lines, line.toList.getLast? ≠ some '\r')

theorem arrives_expand (scope : Scope) {hereDoc : Redirection} (hop : hereDoc.op = .hereDoc)
    (lines : List String) :
    Arrives scope hereDoc lines
      (expand scope { hereDoc with body := some (bodyText lines) }) := by
  by_cases hquoted : hereDoc.quoted = true
  · have hexpand : expand scope { hereDoc with body := some (bodyText lines) } =
        { hereDoc with body := some (bodyText lines) } := by
      simp [expand, hop, hquoted]
    rw [hexpand]
    exact ⟨rfl, fun _ => rfl, by simp [hquoted], by simp [hquoted], by simp [hquoted]⟩
  · have hexpand : expand scope { hereDoc with body := some (bodyText lines) } =
        { hereDoc with body := some (expandBody scope (bodyText lines)) } := by
      simp [expand, hop, hquoted]
    rw [hexpand]
    refine ⟨rfl, fun h => absurd h hquoted, fun _ hfeed => ?_, fun _ hfeed => ?_,
      fun _ hfeed hplain => ?_⟩
    · exact congrArg some (expandBody_bodyText scope hfeed)
    · rw [← expandBody_bodyText_eq_iff scope hfeed]
      exact Option.some_inj
    · have hsame : lines.map (expandHereDocLine scope) = lines := by
        refine List.map_congr_left (fun line hline => ?_) |>.trans lines.map_id
        obtain ⟨hdollar, hescape⟩ := hplain line hline
        exact expandHereDocLine_eq_self scope hescape hdollar
      rw [← expandBody_bodyText_eq_iff scope hfeed, hsame]
      exact Option.some_inj

/-- The redirections with bodies given, in order, to those that await one, and all expanded. -/
inductive Served (scope : Scope) :
    List Redirection → List (List String) → List Redirection → Prop where
  | nil : Served scope [] [] []
  | hereDoc {redirection arrived : Redirection} {redirections others : List Redirection}
      {lines : List String} {bodies : List (List String)}
      (hawaits : redirection.awaitsBody = true) (harrives : Arrives scope redirection lines arrived)
      (hlater : Served scope redirections bodies others) :
      Served scope (redirection :: redirections) (lines :: bodies) (arrived :: others)
  | other {redirection : Redirection} {redirections others : List Redirection}
      {bodies : List (List String)} (hawaits : redirection.awaitsBody = false)
      (hlater : Served scope redirections bodies others) :
      Served scope (redirection :: redirections) bodies (redirection.expand scope :: others)

theorem Filled.served (scope : Scope) {redirections filled : List Redirection}
    {bodies : List (List String)} (h : Filled redirections (bodies.map bodyText) filled) :
    Served scope redirections bodies (filled.map (expand scope)) := by
  generalize htexts : bodies.map bodyText = texts at h
  induction h generalizing bodies with
  | nil =>
    obtain rfl := List.map_eq_nil_iff.mp htexts
    exact .nil
  | body hawaits text _ ih =>
    obtain ⟨lines, more, rfl, rfl, hmore⟩ := List.map_eq_cons_iff.mp htexts
    have hop := (Bool.and_eq_true_iff.mp hawaits).1
    exact .hereDoc hawaits (arrives_expand scope (of_decide_eq_true hop) lines) (ih hmore)
  | other hawaits _ ih => exact .other hawaits (ih htexts)

end Redirection

def CommandList.commands (list : CommandList) : List Command :=
  list.flatMap Pipeline.commands

namespace CommandList

theorem redirections_eq (list : CommandList) :
    list.redirections = list.commands.flatMap Command.redirections := by
  rw [commands, List.flatMap_assoc]
  rfl

theorem commands_expand (scope : Scope) (list : CommandList) :
    (list.expand scope).commands = list.commands.map (Command.expand scope) := by
  simp [commands, expand, Pipeline.expand, List.flatMap_map, List.map_flatMap]

theorem redirections_expand (scope : Scope) {list : CommandList}
    (hraw : ∀ command ∈ list.commands, command.expanded = false) :
    (list.expand scope).redirections = list.redirections.map (Redirection.expand scope) := by
  rw [redirections_eq, redirections_eq, commands_expand, List.flatMap_map, List.map_flatMap]
  refine List.flatMap_congr fun command hcommand => ?_
  simp [Command.expand, hraw command hcommand]

theorem commands_withoutBodies (list : CommandList) :
    commands (list.map Pipeline.withoutBodies) = list.commands.map Command.withoutBodies := by
  simp [commands, Pipeline.withoutBodies, List.flatMap_map, List.map_flatMap]

theorem expanded_collectHereDocs (prompt : String) (source : LineSource) {list : CommandList}
    (hraw : ∀ command ∈ list.commands, command.expanded = false) :
    ∀ command ∈ (collectHereDocs prompt source list).2.commands, command.expanded = false := by
  intro command hcommand
  have hsame := congrArg commands (withoutBodies_collectHereDocs prompt source list)
  rw [commands_withoutBodies, commands_withoutBodies] at hsame
  have hmem := List.mem_map_of_mem (f := Command.withoutBodies) hcommand
  rw [hsame] at hmem
  obtain ⟨original, horiginal, heq⟩ := List.mem_map.mp hmem
  exact (congrArg Command.expanded heq).symm.trans (hraw original horiginal)

end CommandList

/-- A body reaches its command line by line, unless a line that is not quoted ends in a carriage
return: the carriage return is lost. -/
theorem hereDocs_arrive_line_by_line (prompt : String) (source : LineSource) (list : CommandList)
    (bodies : List (List String)) (rest : List Arrival)
    (hraw : ∀ command ∈ list.commands, command.expanded = false)
    (harrive : Arrival.Bodies list.delimiters source.arrivals bodies rest) :
    (collectHereDocs prompt source list).1.interrupted = false ∧
      (collectHereDocs prompt source list).1.source.arrivals = rest ∧
      ∀ scope, Redirection.Served scope list.redirections bodies
        ((collectHereDocs prompt source list).2.expand scope).redirections := by
  obtain ⟨hgoes, hrest, hfilled⟩ :=
    (Collection.delivers_fillPipeline prompt).mapWithState { source } list bodies rest rfl harrive
  have hcollected := CommandList.expanded_collectHereDocs prompt source hraw
  refine ⟨hgoes, hrest, fun scope => ?_⟩
  rw [CommandList.redirections_expand scope hcollected]
  exact hfilled.served scope

theorem hereDocs_arrive_line_by_line_mixed :
    let list : CommandList :=
      [{ commands := [{ argv := ["cat"], redirections :=
          [{ op := .hereDoc, target := "E" },
            { op := .hereDoc, target := "F", quoted := true }] }] }]
    let bodies := [["$x\\$", "", "\rb"], ["$x\r", "E"]]
    let source : LineSource := { arrivals :=
      [.line "$x\\$", .line "", .line "\rb", .line "E", .line "$x\r", .line "E", .failure .notUtf8,
        .line "F"] }
    (∀ command ∈ list.commands, command.expanded = false) ∧
      Arrival.Bodies list.delimiters source.arrivals bodies [.line "F"] ∧
      ∀ scope, ((collectHereDocs "> " source list).2.expand scope).redirections.map (·.body) =
        [some (bodyText (["$x\\$", "", "\rb"].map (expandHereDocLine scope))),
          some "$x\r\nE\n"] := by
  intro list bodies source
  have hraw : ∀ command ∈ list.commands, command.expanded = false := by decide
  have hlater : Arrival.Bodies ["F"] (["$x\r", "E"].map .line ++ [.failure .notUtf8, .line "F"])
      [["$x\r", "E"]] [.line "F"] :=
    .body (by decide) (.endOfInput rfl _) (.done _)
  have harrive : Arrival.Bodies list.delimiters (["$x\\$", "", "\rb"].map .line ++
      (.line "E" :: (["$x\r", "E"].map .line ++ [.failure .notUtf8, .line "F"]))) bodies
      [.line "F"] :=
    .body (by decide) (.delimiter _) hlater
  refine ⟨hraw, harrive, fun scope => ?_⟩
  obtain ⟨-, -, hserved⟩ := hereDocs_arrive_line_by_line "> " source list bodies _ hraw harrive
  have hbodies (arrived : List Redirection)
      (h : Redirection.Served scope list.redirections
        [["$x\\$", "", "\rb"], ["$x\r", "E"]] arrived) :
      arrived.map (·.body) =
        [some (bodyText (["$x\\$", "", "\rb"].map (expandHereDocLine scope))),
          some "$x\r\nE\n"] := by
    obtain _ | ⟨-, hfirst, _ | ⟨-, hsecond, _ | _⟩ | hnone⟩ | hnone := h
    · rw [List.map_cons, List.map_cons, (hfirst.lineByLine rfl (by decide)).mpr (by decide),
        hsecond.quoted rfl]
      rfl
    · cases hnone
    · cases hnone
  exact hbodies _ (hserved scope)

/-- A line that ends in a carriage return loses it, unless the body is quoted. -/
theorem hereDocs_lose_return :
    let scope : Scope := { environment := {}, status := 0 }
    let hereDoc (quoted : Bool) : CommandList :=
      [{ commands := [{ redirections := [{ op := .hereDoc, target := "E", quoted }] }] }]
    let arrived (quoted : Bool) :=
      ((collectHereDocs "> " { arrivals := [.line "a\r", .line "E"] } (hereDoc quoted)).2.expand
        scope).redirections.map (·.body)
    arrived false = [some "a\n"] ∧ arrived true = [some "a\r\n"] ∧
      bodyText (["a\r"].map (expandHereDocLine scope)) = "a\r\n" := by
  decide +kernel

end CommandShell
