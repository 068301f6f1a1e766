import CommandShell.Pipeline.Expand
import CommandShell.Proofs.SingleQuotes
import CommandShell.Proofs.Validation

/-!
# Printing command lists

Every command list without empty pipelines and nameless commands can be written down as a line.
Parsed and expanded, the line gives the list back, whatever its texts are and whatever values the
expansion has at hand.
-/

namespace CommandShell

def Connective.text : Connective → String
  | .and => "&&"
  | .or => "||"

def Redirection.pieces (redirection : Redirection) : List String :=
  [redirection.op.text, Word.quote redirection.target]

/-- The arguments in quotes, then the redirections. -/
def Command.pieces (command : Command) : List String :=
  command.argv.map Word.quote ++ command.redirections.flatMap Redirection.pieces

def Pipeline.pieces (pipeline : Pipeline) : List String :=
  ["|"].intercalate (pipeline.commands.map Command.pieces)

def CommandList.pieces (list : CommandList) : List String :=
  list.flatMap fun pipeline =>
    pipeline.pieces ++ pipeline.connective.toList.map Connective.text

/-- A command list as a line, with single spaces between its pieces. -/
def CommandList.print (list : CommandList) : String :=
  " ".intercalate list.pieces

/-- A redirection that has been expanded, its target and operator as they are. -/
def Redirection.settled (redirection : Redirection) : Redirection where
  op := redirection.op
  target := redirection.target
  quoted := redirection.op = .hereDoc

def Command.settled (command : Command) : Command where
  argv := command.argv
  redirections := command.redirections.map Redirection.settled
  expanded := true

def Pipeline.settled (pipeline : Pipeline) : Pipeline :=
  { pipeline with commands := pipeline.commands.map Command.settled }

def Redirection.tokens (redirection : Redirection) : List Token :=
  [.redirect redirection.op, .word (Word.quote redirection.target)]

def Command.tokens (command : Command) : List Token :=
  command.argv.map (fun text => .word (Word.quote text)) ++
    command.redirections.flatMap Redirection.tokens

def Pipeline.tokens (pipeline : Pipeline) : List Token :=
  [.pipe].intercalate (pipeline.commands.map Command.tokens)

def CommandList.tokens (list : CommandList) : List Token :=
  list.flatMap fun pipeline =>
    pipeline.tokens ++ pipeline.connective.toList.map Connective.token

theorem Command.map_text_tokens (command : Command) :
    command.tokens.map Token.text = command.pieces := by
  rw [Command.tokens, Command.pieces, List.map_append, List.map_map, List.map_flatMap]
  rfl

theorem Pipeline.map_text_tokens (pipeline : Pipeline) :
    pipeline.tokens.map Token.text = pipeline.pieces := by
  rw [Pipeline.tokens, Pipeline.pieces]
  induction pipeline.commands with
  | nil => rfl
  | cons command rest ih =>
    cases rest with
    | nil => simp [Command.map_text_tokens]
    | cons next more =>
      simp only [List.map_cons, List.intercalate_cons_cons, List.map_append] at ih ⊢
      rw [ih, Command.map_text_tokens]
      rfl

theorem CommandList.map_text_tokens (list : CommandList) :
    list.tokens.map Token.text = list.pieces := by
  have hconnective (connective : Connective) : connective.token.text = connective.text := by
    cases connective <;> rfl
  rw [CommandList.tokens, CommandList.pieces, List.map_flatMap]
  congr 1
  funext pipeline
  rw [List.map_append, Pipeline.map_text_tokens, List.map_map]
  congr 2
  funext connective
  exact hconnective connective

theorem Token.standsAlone_operator (op : RedirectOp) : (Token.redirect op).StandsAlone := by
  cases op <;> exact standsAlone_of_nextToken rfl rfl

theorem Token.standsAlone_pipe : Token.pipe.StandsAlone :=
  standsAlone_of_nextToken rfl rfl

theorem Connective.standsAlone_token (connective : Connective) : connective.token.StandsAlone := by
  cases connective <;> exact Token.standsAlone_of_nextToken rfl rfl

theorem Command.standsAlone_tokens (command : Command) :
    ∀ token ∈ command.tokens, token.StandsAlone := by
  intro token htoken
  rcases List.mem_append.mp htoken with htoken | htoken
  · obtain ⟨text, -, rfl⟩ := List.mem_map.mp htoken
    exact Word.standsAlone_quote text
  · obtain ⟨redirection, -, htoken⟩ := List.mem_flatMap.mp htoken
    simp only [Redirection.tokens, List.mem_cons, List.not_mem_nil, or_false] at htoken
    rcases htoken with rfl | rfl
    · exact Token.standsAlone_operator redirection.op
    · exact Word.standsAlone_quote redirection.target

theorem Pipeline.standsAlone_tokens (pipeline : Pipeline) :
    ∀ token ∈ pipeline.tokens, token.StandsAlone := by
  rw [Pipeline.tokens]
  induction pipeline.commands with
  | nil => simp
  | cons command rest ih =>
    cases rest with
    | nil => simpa using command.standsAlone_tokens
    | cons next more =>
      simp only [List.map_cons, List.intercalate_cons_cons, List.forall_mem_append] at ih ⊢
      exact ⟨⟨command.standsAlone_tokens, by simpa using Token.standsAlone_pipe⟩, ih⟩

theorem CommandList.standsAlone_tokens (list : CommandList) :
    ∀ token ∈ list.tokens, token.StandsAlone := by
  intro token htoken
  obtain ⟨pipeline, -, htoken⟩ := List.mem_flatMap.mp htoken
  rcases List.mem_append.mp htoken with htoken | htoken
  · exact pipeline.standsAlone_tokens token htoken
  · obtain ⟨connective, -, rfl⟩ := List.mem_map.mp htoken
    exact connective.standsAlone_token

theorem CommandList.tokenize_print (list : CommandList) : tokenize list.print = list.tokens := by
  rw [CommandList.print, ← list.map_text_tokens, tokenize_intercalate list.standsAlone_tokens]

/-- The redirection as the parser takes it from a printed line. -/
def Redirection.raw (redirection : Redirection) : Redirection :=
  .ofWord redirection.op (Word.quote redirection.target)

def Command.raw (command : Command) : Command where
  argv := command.argv.map Word.quote
  redirections := command.redirections.map Redirection.raw

def Pipeline.raw (pipeline : Pipeline) : Pipeline :=
  { pipeline with commands := pipeline.commands.map Command.raw }

namespace Remainder

theorem reads_redirections {strict : Bool} {rest : List Token} {remainder : Remainder}
    (h : Reads strict true rest remainder) (redirections : List Redirection) :
    Reads strict true (redirections.flatMap Redirection.tokens ++ rest)
      { remainder with
        command := { remainder.command with
          redirections :=
            redirections.map Redirection.raw ++ remainder.command.redirections } } := by
  induction redirections with
  | nil => exact h
  | cons redirection more ih => exact .redirection (fun _ => rfl) ih

theorem reads_argv {strict : Bool} {rest : List Token} {remainder : Remainder}
    (h : Reads strict true rest remainder) (argv : List String) :
    Reads strict true (argv.map (fun text => .word (Word.quote text)) ++ rest)
      { remainder with
        command := { remainder.command with
          argv := argv.map Word.quote ++ remainder.command.argv } } := by
  induction argv with
  | nil => exact h
  | cons text more ih => exact .word ih

section

variable {strict : Bool} {rest : List Token} {connective : Option Connective}
  {following : CommandList}

theorem reads_command {started : Bool} {commands : List Command} {command : Command}
    (h : Reads strict true rest { commands, connective, following }) (hargv : command.argv ≠ []) :
    Reads strict started (command.tokens ++ rest)
      { command := command.raw, commands, connective, following } := by
  obtain ⟨text, more, hcons⟩ := List.exists_cons_of_ne_nil hargv
  have hreads := reads_argv (reads_redirections h command.redirections) more
  have hword := @Reads.word strict started (Word.quote text) _ _ hreads
  rw [Command.tokens, Command.raw, hcons]
  simpa [addWord] using hword

theorem reads_commands (h : Reads strict true rest { connective, following }) (first : Command)
    (others : List Command) (hargv : ∀ command ∈ first :: others, command.argv ≠ []) :
    Reads strict false ([.pipe].intercalate ((first :: others).map Command.tokens) ++ rest)
      { command := first.raw, commands := others.map Command.raw, connective, following } := by
  -- from the last command back: each is read before a pipe and the commands read already
  induction others generalizing first with
  | nil =>
    rw [List.map_cons, List.map_nil, List.intercalate_singleton]
    exact reads_command h (hargv first List.mem_cons_self)
  | cons next more ih =>
    obtain ⟨hfirst, hothers⟩ := List.forall_mem_cons.mp hargv
    rw [List.map_cons, List.map_cons, List.intercalate_cons_cons, List.append_assoc,
      List.append_assoc]
    exact reads_command (.pipe (ih next hothers)) hfirst

theorem reads_pipeline (h : Reads strict true rest { connective, following })
    {pipeline : Pipeline} (hconnective : pipeline.connective = connective)
    (hne : pipeline.commands ≠ []) (hargv : ∀ command ∈ pipeline.commands, command.argv ≠ []) :
    ∃ remainder, Reads strict false (pipeline.tokens ++ rest) remainder ∧
      remainder.toList = pipeline.raw :: following := by
  obtain ⟨first, others, hcons⟩ := List.exists_cons_of_ne_nil hne
  rw [hcons] at hargv
  have hreads := reads_commands h first others hargv
  rw [← hcons, ← Pipeline.tokens] at hreads
  refine ⟨_, hreads, ?_⟩
  rw [toList, Pipeline.raw, hcons, hconnective, List.map_cons]

end

theorem exists_reads_tokens (strict : Bool) {list : CommandList} (hne : list ≠ [])
    (h : list.WellFormed) :
    ∃ remainder, Reads strict false list.tokens remainder ∧
      remainder.toList = list.map Pipeline.raw := by
  induction list with
  | nil => exact absurd rfl hne
  | cons pipeline rest ih =>
    have hcommands := h.commands pipeline List.mem_cons_self
    have hargv := h.argv pipeline List.mem_cons_self
    cases rest with
    | nil =>
      have hnone := (CommandList.threaded_singleton_iff pipeline).mp h.toThreaded
      have htokens : CommandList.tokens [pipeline] = pipeline.tokens ++ [] := by
        simp [CommandList.tokens, hnone]
      rw [htokens]
      exact reads_pipeline .done hnone hcommands hargv
    | cons next more =>
      obtain ⟨hsome, hthreaded⟩ :=
        (CommandList.threaded_cons_iff pipeline next more).mp h.toThreaded
      obtain ⟨connective, hconnective⟩ := Option.ne_none_iff_exists'.mp hsome
      have hrest : CommandList.WellFormed (next :: more) :=
        ⟨hthreaded, fun p hp => h.commands p (List.mem_cons_of_mem _ hp),
          fun p hp => h.argv p (List.mem_cons_of_mem _ hp)⟩
      obtain ⟨remainder, hreads, hlist⟩ := ih (List.cons_ne_nil _ _) hrest
      have htokens : CommandList.tokens (pipeline :: next :: more) =
          pipeline.tokens ++ connective.token :: CommandList.tokens (next :: more) := by
        simp [CommandList.tokens, hconnective]
      rw [htokens, List.map_cons, ← hlist]
      exact reads_pipeline (.connective hreads) hconnective hcommands hargv

end Remainder

theorem Word.argument?_quote (scope : Scope) (text : String) :
    Word.argument? scope (Word.quote text) = some text := by
  simp [Word.argument?, Word.expand_quote, Word.Expanded.vanishes]

theorem Redirection.expand_raw (scope : Scope) (redirection : Redirection) :
    redirection.raw.expand scope = redirection.settled := by
  obtain ⟨op, target, quoted, body, ambiguous⟩ := redirection
  have hquote : ((Word.quote target).toList.any fun c => c = '\'' || c = '"') = true := by
    simp [Word.quote]
  cases op <;>
    simp [Redirection.raw, Redirection.ofWord, Redirection.expand, Redirection.settled,
      Word.expand_quote, Word.Expanded.vanishes, Word.removeQuotes_quote, hquote]

theorem Command.expand_raw (scope : Scope) (command : Command) :
    command.raw.expand scope = command.settled := by
  have hargv : (command.argv.map Word.quote).filterMap (Word.argument? scope) = command.argv := by
    simp [List.filterMap_map, Word.argument?_quote]
  simp [Command.expand, Command.raw, Command.settled, hargv, Redirection.expand_raw]

theorem Pipeline.expand_raw (scope : Scope) (pipeline : Pipeline) :
    pipeline.raw.expand scope = pipeline.settled := by
  simp [Pipeline.expand, Pipeline.raw, Pipeline.settled, Command.expand_raw]

/-- Every command list can be written down and read back: the printed line is parsed, and the
parsed list expands to the printed one under all values. -/
theorem exists_parseLine_print (list : CommandList) (hne : list ≠ []) (h : list.WellFormed) :
    ∃ parsed : CommandList, parseLine list.print = .ok parsed ∧
      ∀ scope, parsed.expand scope = list.map Pipeline.settled := by
  obtain ⟨remainder, hreads, hlist⟩ := Remainder.exists_reads_tokens true hne h
  have hend : .endOfInput ∉ list.tokens := by
    rw [← list.tokenize_print]
    exact endOfInput_notMem_tokenize list.print
  have hvalid := (Token.validate_eq_ok_iff_strict hend).mpr (.inr hreads.mem_readable)
  refine ⟨remainder.toList, ?_, fun scope => ?_⟩
  · rw [parseLine, list.tokenize_print, hvalid]
    exact parseTokens_of_reads hend hreads
  · rw [hlist, CommandList.expand, List.map_map]
    exact List.map_congr_left fun pipeline _ => pipeline.expand_raw scope

theorem exists_parseLine_print_hostile :
    let list : CommandList :=
      [{ commands := [
          { argv := ["echo", "", "it's", "$HOME \\ \"|\n&& "]
            redirections := [{ op := .hereDoc, target := "" }, { op := .append, target := "$?" }] },
          { argv := ["<<"] }]
         connective := some .or },
       { commands := [{ argv := ["'"] }] }]
    list ≠ [] ∧ list.WellFormed ∧
      ∃ parsed : CommandList, parseLine list.print = .ok parsed ∧
        ∀ scope, parsed.expand scope = list.map Pipeline.settled := by
  intro list
  have hne : list ≠ [] := List.cons_ne_nil _ _
  have h : list.WellFormed := ⟨⟨by decide, by decide⟩, by decide, by decide⟩
  exact ⟨hne, h, exists_parseLine_print list hne h⟩

end CommandShell
