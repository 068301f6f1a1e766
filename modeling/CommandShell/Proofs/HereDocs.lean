import CommandShell.Execute
import Mathlib.Data.List.Basic

/-!
# Here-documents partition the input

The lines of a source are cut at the delimiters of the here-documents of a line, in the order of
their operators. What is left after the last delimiter is the same whatever the line does.
-/

namespace CommandShell

/-- Lines cut into one body for each delimiter and a rest. A body ends at the first line equal to
its delimiter. When the lines end first, it takes all of them, and later bodies are empty. -/
inductive HereDocCut : List String → List String → List (List String) → List String → Prop where
  | done (lines : List String) : HereDocCut [] lines [] lines
  | closed {delimiter : String} {delimiters body lines rest : List String}
      {bodies : List (List String)} (hbody : delimiter ∉ body)
      (hlater : HereDocCut delimiters lines bodies rest) :
      HereDocCut (delimiter :: delimiters) (body ++ delimiter :: lines) (body :: bodies) rest
  | exhausted {delimiter : String} {delimiters body : List String} (hbody : delimiter ∉ body) :
      HereDocCut (delimiter :: delimiters) body (body :: delimiters.map fun _ => []) []

namespace HereDocCut

variable {delimiters others lines middle rest : List String} {bodies more : List (List String)}

theorem of_no_lines (h : HereDocCut delimiters [] bodies rest) :
    bodies = delimiters.map (fun _ => []) ∧ rest = [] := by
  generalize hlines : [] = lines at h
  cases h with
  | done => simp [← hlines]
  | closed => simp at hlines
  | exhausted => simp [← hlines]

theorem append (hfirst : HereDocCut delimiters lines bodies middle)
    (hsecond : HereDocCut others middle more rest) :
    HereDocCut (delimiters ++ others) lines (bodies ++ more) rest := by
  induction hfirst with
  | done => exact hsecond
  | closed hbody _ ih => exact .closed hbody (ih hsecond)
  | exhausted hbody =>
    obtain ⟨rfl, rfl⟩ := hsecond.of_no_lines
    rw [List.cons_append, List.cons_append, ← List.map_append]
    exact .exhausted hbody

theorem cons_line {delimiter line : String} {body : List String} (hline : line ≠ delimiter)
    (h : HereDocCut [delimiter] lines [body] rest) :
    HereDocCut [delimiter] (line :: lines) [line :: body] rest := by
  have hmem (hbody : delimiter ∉ body) : delimiter ∉ line :: body := by
    simpa [hline.symm] using hbody
  cases h with
  | closed hbody hlater =>
    rw [← List.cons_append]
    exact .closed (hmem hbody) hlater
  | exhausted hbody => exact .exhausted (hmem hbody)

end HereDocCut

/-- What is still to come are these lines, and then the end of input for ever. -/
def Arrival.Yield (arrivals : List Arrival) (lines : List String) : Prop :=
  ∃ count, arrivals.map Arrival.reading =
    lines.map .line ++ List.replicate count .endOfInput

def LineSource.Yields (source : LineSource) (lines : List String) : Prop :=
  Arrival.Yield source.arrivals lines

def bodyText (lines : List String) : String :=
  String.join (lines.map fun line => line ++ "\n")

theorem Arrival.eq_line_of_reading {arrival : Arrival} {text : String}
    (h : arrival.reading = .line text) : arrival = .line text := by
  cases arrival <;> simp_all [Arrival.reading]

theorem readBody_of_reading_endOfInput (delimiter : String) {arrival : Arrival}
    (h : arrival.reading = .endOfInput) (rest : List Arrival) :
    (readBody delimiter (arrival :: rest)).lines = some [] ∧
      (readBody delimiter (arrival :: rest)).rest = rest := by
  cases arrival <;> simp_all [Arrival.reading, readBody]

theorem exists_readBody_cut (delimiter : String) {arrivals : List Arrival} {lines : List String}
    (h : Arrival.Yield arrivals lines) :
    ∃ body rest, HereDocCut [delimiter] lines [body] rest ∧
      (readBody delimiter arrivals).lines = some body ∧
      Arrival.Yield (readBody delimiter arrivals).rest rest := by
  -- on the arrivals and not on the lines: the end of input may be an arrival of its own
  induction arrivals generalizing lines with
  | nil =>
    obtain ⟨count, hcount⟩ := h
    obtain rfl : lines = [] := by
      exact List.map_eq_nil_iff.mp (List.append_eq_nil_iff.mp hcount.symm).1
    exact ⟨[], [], .exhausted (by simp), rfl, 0, rfl⟩
  | cons arrival more ih =>
    obtain ⟨count, hcount⟩ := h
    cases lines with
    | nil =>
      cases count with
      | zero => simp at hcount
      | succ count =>
        obtain ⟨hreading, hmore⟩ := List.cons.inj hcount
        obtain ⟨hlines, hrest⟩ := readBody_of_reading_endOfInput delimiter hreading more
        refine ⟨[], [], .exhausted (by simp), hlines, count, ?_⟩
        rw [hrest, hmore]
        rfl
    | cons line lines =>
      obtain ⟨hreading, hmore⟩ := List.cons.inj hcount
      obtain rfl := Arrival.eq_line_of_reading hreading
      by_cases hline : line = delimiter
      · subst hline
        refine ⟨[], lines, .closed List.not_mem_nil (.done lines), ?_, count, ?_⟩
        · rw [readBody, if_pos rfl]
        · rw [readBody, if_pos rfl]
          exact hmore
      · obtain ⟨body, rest, hcut, hbody, hrest⟩ := ih ⟨count, hmore⟩
        refine ⟨line :: body, rest, hcut.cons_line hline, ?_, ?_⟩
        · simp [readBody, hline, BodyRead.precededBy, hbody]
        · simpa [readBody, hline, BodyRead.precededBy] using hrest

/-- The redirections with bodies given, in order, to those that await one. -/
inductive Redirection.Filled : List Redirection → List String → List Redirection → Prop where
  | nil : Filled [] [] []
  | body {redirection : Redirection} {redirections filled : List Redirection}
      {bodies : List String} (hawaits : redirection.awaitsBody = true) (body : String)
      (hlater : Filled redirections bodies filled) :
      Filled (redirection :: redirections) (body :: bodies)
        ({ redirection with body := some body } :: filled)
  | other {redirection : Redirection} {redirections filled : List Redirection}
      {bodies : List String} (hawaits : redirection.awaitsBody = false)
      (hlater : Filled redirections bodies filled) :
      Filled (redirection :: redirections) bodies (redirection :: filled)

theorem Redirection.Filled.append {redirections others filled more : List Redirection}
    {bodies texts : List String} (hfirst : Filled redirections bodies filled)
    (hsecond : Filled others texts more) :
    Filled (redirections ++ others) (bodies ++ texts) (filled ++ more) := by
  induction hfirst with
  | nil => exact hsecond
  | body hawaits body _ ih => exact .body hawaits body ih
  | other hawaits _ ih => exact .other hawaits ih

def Redirection.delimiters (redirections : List Redirection) : List String :=
  (redirections.filter awaitsBody).map target

theorem Redirection.delimiters_append (redirections others : List Redirection) :
    delimiters (redirections ++ others) = delimiters redirections ++ delimiters others := by
  simp [delimiters]

def Redirection.withoutBody (redirection : Redirection) : Redirection :=
  { redirection with body := none }

def Command.withoutBodies (command : Command) : Command :=
  { command with redirections := command.redirections.map Redirection.withoutBody }

def Pipeline.withoutBodies (pipeline : Pipeline) : Pipeline :=
  { pipeline with commands := pipeline.commands.map Command.withoutBodies }

def Pipeline.redirections (pipeline : Pipeline) : List Redirection :=
  pipeline.commands.flatMap Command.redirections

def CommandList.redirections (list : CommandList) : List Redirection :=
  list.flatMap Pipeline.redirections

namespace Collection

/-- A collection that can go on with these lines. -/
structure Ready (collection : Collection) (lines : List String) : Prop where
  interrupted : collection.interrupted = false
  yields : collection.source.Yields lines

/-- A way to fill a part of a line: it cuts the lines to come at the delimiters that it finds in
the part and puts the bodies there. -/
def Partitions {α : Type} (view : α → List Redirection)
    (fill : Collection → α → Collection × α) : Prop :=
  ∀ (collection : Collection) (lines : List String) (part : α), collection.Ready lines →
    ∃ bodies rest, HereDocCut (Redirection.delimiters (view part)) lines bodies rest ∧
      Redirection.Filled (view part) (bodies.map bodyText) (view (fill collection part).2) ∧
      (fill collection part).1.Ready rest

theorem partitions_fill (prompt : String) :
    Partitions (fun redirection => [redirection]) (fill prompt) := by
  intro collection lines redirection hready
  cases hawaits : redirection.awaitsBody with
  | false =>
    refine ⟨[], lines, ?_, ?_, ?_⟩
    · simpa [Redirection.delimiters, hawaits] using HereDocCut.done lines
    · simpa [fill, hawaits] using Redirection.Filled.other hawaits .nil
    · simpa [fill, hawaits] using hready
  | true =>
    obtain ⟨body, rest, hcut, hlines, hrest⟩ :=
      exists_readBody_cut redirection.target hready.yields
    refine ⟨[body], rest, ?_, ?_, ?_⟩
    · simpa [Redirection.delimiters, hawaits] using hcut
    · simpa [fill, hready.interrupted, hawaits, BodyRead.body, hlines, bodyText] using
        Redirection.Filled.body hawaits (bodyText body) .nil
    · constructor
      · simp [fill, hready.interrupted, hawaits, BodyRead.body, hlines]
      · simpa [fill, hready.interrupted, hawaits, BodyRead.body, hlines, LineSource.Yields,
          LineSource.ask] using hrest

theorem Partitions.mapWithState {α : Type} {view : α → List Redirection}
    {fill : Collection → α → Collection × α} (h : Partitions view fill) :
    Partitions (List.flatMap view) (mapWithState fill) := by
  intro collection lines parts hready
  induction parts generalizing collection lines with
  | nil => exact ⟨[], lines, .done lines, .nil, hready⟩
  | cons part parts ih =>
    obtain ⟨bodies, middle, hcut, hfilled, hmiddle⟩ := h collection lines part hready
    obtain ⟨more, rest, hcuts, hfilleds, hrest⟩ := ih (fill collection part).1 middle hmiddle
    refine ⟨bodies ++ more, rest, ?_, ?_, hrest⟩
    · rw [List.flatMap_cons, Redirection.delimiters_append]
      exact hcut.append hcuts
    · rw [List.flatMap_cons, List.map_append]
      exact hfilled.append hfilleds

theorem partitions_fillCommand (prompt : String) :
    Partitions Command.redirections (fillCommand prompt) := by
  intro collection lines command hready
  obtain ⟨bodies, rest, hcut, hfilled, hrest⟩ :=
    (partitions_fill prompt).mapWithState collection lines command.redirections hready
  rw [List.flatMap_singleton'] at hcut
  rw [List.flatMap_singleton', List.flatMap_singleton'] at hfilled
  exact ⟨bodies, rest, hcut, hfilled, hrest⟩

theorem partitions_fillPipeline (prompt : String) :
    Partitions Pipeline.redirections (fillPipeline prompt) := by
  intro collection lines pipeline hready
  obtain ⟨bodies, rest, hcut, hfilled, hrest⟩ :=
    (partitions_fillCommand prompt).mapWithState collection lines pipeline.commands hready
  exact ⟨bodies, rest, hcut, hfilled, hrest⟩

end Collection

theorem map_mapWithState {σ α β : Type} {f : σ → α → σ × α} {view : α → β}
    (hf : ∀ state part, view (f state part).2 = view part) (state : σ) (parts : List α) :
    (mapWithState f state parts).2.map view = parts.map view := by
  induction parts generalizing state with
  | nil => rfl
  | cons part parts ih => exact congrArg₂ List.cons (hf state part) (ih _)

namespace Collection

variable (prompt : String) (collection : Collection)

theorem withoutBody_fill (redirection : Redirection) :
    (fill prompt collection redirection).2.withoutBody = redirection.withoutBody := by
  unfold fill
  split
  · rfl
  · dsimp only
    split <;> rfl

theorem withoutBodies_fillCommand (command : Command) :
    (fillCommand prompt collection command).2.withoutBodies = command.withoutBodies := by
  have hfilled := map_mapWithState (withoutBody_fill prompt) collection command.redirections
  simp only [Command.withoutBodies, fillCommand, hfilled]

theorem withoutBodies_fillPipeline (pipeline : Pipeline) :
    (fillPipeline prompt collection pipeline).2.withoutBodies = pipeline.withoutBodies := by
  have hfilled := map_mapWithState (withoutBodies_fillCommand prompt) collection pipeline.commands
  simp only [Pipeline.withoutBodies, fillPipeline, hfilled]

end Collection

theorem withoutBodies_collectHereDocs (prompt : String) (source : LineSource)
    (list : CommandList) :
    (collectHereDocs prompt source list).2.map Pipeline.withoutBodies =
      list.map Pipeline.withoutBodies :=
  map_mapWithState (Collection.withoutBodies_fillPipeline prompt) _ _

theorem mapWithState_eq_self {σ α : Type} {f : σ → α → σ × α} {state : σ} {parts : List α}
    (h : ∀ part ∈ parts, f state part = (state, part)) :
    mapWithState f state parts = (state, parts) := by
  induction parts with
  | nil => rfl
  | cons part parts ih =>
    obtain ⟨hpart, hparts⟩ := List.forall_mem_cons.mp h
    rw [mapWithState, hpart, ih hparts]

theorem mapWithState_invariant {σ α β : Type} {f : σ → α → σ × β} {P : σ → Prop}
    (hf : ∀ state part, P state → P (f state part).1) (state : σ) (parts : List α) (h : P state) :
    P (mapWithState f state parts).1 := by
  induction parts generalizing state with
  | nil => exact h
  | cons part parts ih => exact ih _ (hf state part h)

/-- What the reading of each body keeps, the reading of all bodies keeps. -/
theorem collectHereDocs_invariant {P : Collection → Prop} {prompt : String} {source : LineSource}
    (hfill : ∀ collection redirection, P collection → P (collection.fill prompt redirection).1)
    (hstart : P { source }) (list : CommandList) : P (collectHereDocs prompt source list).1 := by
  have hcommand (collection : Collection) (command : Command) (h : P collection) :
      P (collection.fillCommand prompt command).1 :=
    mapWithState_invariant hfill _ _ h
  have hpipeline (collection : Collection) (pipeline : Pipeline) (h : P collection) :
      P (collection.fillPipeline prompt pipeline).1 :=
    mapWithState_invariant hcommand _ _ h
  exact mapWithState_invariant hpipeline _ _ hstart

theorem collectHereDocs_of_no_awaiting (prompt : String) (source : LineSource)
    {list : CommandList} (h : ∀ redirection ∈ list.redirections, redirection.awaitsBody = false) :
    collectHereDocs prompt source list = ({ source }, list) := by
  apply mapWithState_eq_self
  intro pipeline hpipeline
  have hcommands : mapWithState (Collection.fillCommand prompt) { source } pipeline.commands =
      ({ source }, pipeline.commands) := by
    apply mapWithState_eq_self
    intro command hcommand
    have hredirections : mapWithState (Collection.fill prompt) { source } command.redirections =
        ({ source }, command.redirections) := by
      apply mapWithState_eq_self
      intro redirection hredirection
      have hawaits : redirection.awaitsBody = false := by
        apply h
        exact List.mem_flatMap.mpr
          ⟨pipeline, hpipeline, List.mem_flatMap.mpr ⟨command, hcommand, hredirection⟩⟩
      simp [Collection.fill, hawaits]
    rw [Collection.fillCommand, hredirections]
  rw [Collection.fillPipeline, hcommands]

namespace Transcript

theorem stdout_append (first second : Transcript) :
    stdout (first ++ second) = stdout first ++ stdout second := by
  simp [stdout]

theorem stderr_append (first second : Transcript) :
    stderr (first ++ second) = stderr first ++ stderr second := by
  simp [stderr]

end Transcript

theorem stdout_notes_readBody (delimiter : String) (arrivals : List Arrival) :
    (readBody delimiter arrivals).notes.stdout = [] := by
  induction arrivals with
  | nil => rfl
  | cons arrival more ih =>
    cases arrival with
    | line text =>
      rw [readBody]
      split
      · rfl
      · exact ih
    | interrupt => rfl
    | endOfInput => rfl
    | failure cause => rfl

def Collection.Quiet (collection : Collection) : Prop :=
  collection.notes.stdout = []

theorem Collection.Quiet.fill {collection : Collection} (h : collection.Quiet) (prompt : String)
    (redirection : Redirection) : (collection.fill prompt redirection).1.Quiet := by
  have hnotes : collection.notes.stdout = [] := h
  have hread := stdout_notes_readBody redirection.target collection.source.arrivals
  unfold Collection.fill
  split
  · exact h
  · dsimp only
    split <;> simp only [Quiet, Transcript.stdout_append, hnotes, hread] <;> rfl

theorem quiet_collectHereDocs (prompt : String) (source : LineSource) (list : CommandList) :
    (collectHereDocs prompt source list).1.Quiet :=
  collectHereDocs_invariant (P := Collection.Quiet)
    (fun _ redirection h => h.fill prompt redirection) rfl list

/-- The delimiters of the here-documents of a line whose bodies are still to be read. -/
def CommandList.delimiters (list : CommandList) : List String :=
  Redirection.delimiters list.redirections

theorem execute_eq (session : Session) (source : LineSource) (prompt : String)
    (list : CommandList) :
    session.execute source prompt list =
      let collected := collectHereDocs prompt source list
      let session := session.emit collected.1.notes
      if collected.1.interrupted then
        ((session.log .debug "heredoc 输入被中断").setStatus interruptedStatus, collected.1.source)
      else (session.runList collected.2, collected.1.source) := rfl

theorem execute_source (session : Session) (source : LineSource) (prompt : String)
    (list : CommandList) :
    (session.execute source prompt list).2 = (collectHereDocs prompt source list).1.source := by
  rw [execute_eq]
  dsimp only
  split <;> rfl

/-- The bodies of a line's here-documents partition the lines to come, and a line reads the same
from its source in every session. -/
theorem hereDocs_partition_input (source : LineSource) (prompt : String) (list : CommandList) :
    (∀ lines, source.Yields lines → ∃ bodies rest,
      HereDocCut list.delimiters lines bodies rest ∧
      (collectHereDocs prompt source list).1.interrupted = false ∧
      (collectHereDocs prompt source list).1.source.Yields rest ∧
      Redirection.Filled list.redirections (bodies.map bodyText)
        (collectHereDocs prompt source list).2.redirections ∧
      (collectHereDocs prompt source list).2.map Pipeline.withoutBodies =
        list.map Pipeline.withoutBodies ∧
      ∀ session : Session, (session.execute source prompt list).2.Yields rest) ∧
    ∀ first second : Session,
      (first.execute source prompt list).2 = (second.execute source prompt list).2 := by
  refine ⟨fun lines hlines => ?_, fun first second => ?_⟩
  · obtain ⟨bodies, rest, hcut, hfilled, hready⟩ :=
      (Collection.partitions_fillPipeline prompt).mapWithState { source } lines list ⟨rfl, hlines⟩
    refine ⟨bodies, rest, hcut, hready.interrupted, hready.yields, hfilled,
      withoutBodies_collectHereDocs prompt source list, ?_⟩
    intro session
    rw [execute_source]
    exact hready.yields
  · rw [execute_source, execute_source]

theorem hereDocs_partition_input_crossed :
    let list : CommandList :=
      [{ commands := [{ argv := ["false"] }], connective := some .and },
        { commands := [{ argv := ["cat"], redirections := [{ op := .hereDoc, target := "ONE" }] }],
          connective := some .or },
        { commands :=
            [{ argv := ["cat"], redirections := [{ op := .hereDoc, target := "TWO" }] }] }]
    let lines := ["TWO", "a", "ONE", "ONE", "TWO", "next"]
    let source : LineSource := { arrivals := lines.map .line }
    source.Yields lines ∧ list.delimiters = ["ONE", "TWO"] ∧
      ∃ bodies rest, HereDocCut ["ONE", "TWO"] lines bodies rest ∧
        (collectHereDocs "> " source list).1.source.Yields rest ∧
        ∀ first second : Session,
          (first.execute source "> " list).2 = (second.execute source "> " list).2 := by
  intro list lines source
  have hyields : source.Yields lines := ⟨0, rfl⟩
  obtain ⟨hcut, hsame⟩ := hereDocs_partition_input source "> " list
  obtain ⟨bodies, rest, h, -, hrest, -⟩ := hcut lines hyields
  exact ⟨hyields, rfl, bodies, rest, h, hrest, hsame⟩

end CommandShell
