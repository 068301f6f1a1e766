import CommandShell.Proofs.Parsing

/-!
# The parser as cutting

A parsed list is its tokens cut at the connectives, each piece cut at the pipes. Within a command
the words that follow a redirection operator are targets; all others are arguments.
-/

namespace CommandShell

def Token.connective? : Token → Option Connective
  | .and => some .and
  | .or => some .or
  | _ => none

/-- A redirection as it is written: a here-document takes its delimiter without quotes and notes
whether there were any, every other target is the word itself. -/
def Redirection.written (op : RedirectOp) (word : String) : Redirection where
  op := op
  target := if op = .hereDoc then Word.removeQuotes word else word
  quoted := op = .hereDoc && ('\'' ∈ word.toList || '"' ∈ word.toList)

def Command.cut (tokens : List Token) : Command where
  argv := ((none :: tokens.map some).zip tokens).filterMap fun
    | (some (.redirect _), _) => none
    | (_, .word text) => some text
    | _ => none
  redirections := (tokens.zip tokens.tail).filterMap fun
    | (.redirect op, .word text) => some (.written op text)
    | _ => none

def Pipeline.cut (tokens : List Token) (connective : Option Connective) : Pipeline where
  commands := (tokens.splitOn .pipe).map Command.cut
  connective := connective

/-- The connectives of a token list in order, and none after the last pipeline. -/
def Token.connectives (tokens : List Token) : List (Option Connective) :=
  (tokens.filterMap Token.connective?).map some ++ [none]

/-- The pipelines of a token list that is not empty. -/
def Token.pipelines (tokens : List Token) : CommandList :=
  List.zipWith Pipeline.cut (tokens.splitOnP fun token => token.connective?.isSome)
    (Token.connectives tokens)

def CommandList.cut (tokens : List Token) : CommandList :=
  if tokens = [] then [] else Token.pipelines tokens

theorem Redirection.ofWord_eq_written (op : RedirectOp) (word : String) :
    Redirection.ofWord op word = .written op word := by
  have hquote : (word.toList.any fun c => c = '\'' || c = '"') =
      ('\'' ∈ word.toList || '"' ∈ word.toList : Bool) := by
    rw [Bool.eq_iff_iff]
    simp only [List.any_eq_true, Bool.or_eq_true, decide_eq_true_eq]
    constructor
    · rintro ⟨c, hc, rfl | rfl⟩
      · exact .inl hc
      · exact .inr hc
    · rintro (hc | hc)
      · exact ⟨_, hc, .inl rfl⟩
      · exact ⟨_, hc, .inr rfl⟩
  cases op <;> simp [Redirection.ofWord, Redirection.written, hquote]

namespace Command

private theorem zip_after_word (text : String) (rest : List Token) :
    (((some (.word text) :: rest.map some).zip rest).filterMap fun
      | (some (.redirect _), _) => none
      | (_, .word text) => some text
      | _ => none) = (Command.cut rest).argv := by
  cases rest with
  | nil => rfl
  | cons token more => cases token <;> rfl

private theorem redirections_cut_word (text : String) (rest : List Token) :
    (Command.cut (.word text :: rest)).redirections = (Command.cut rest).redirections := by
  cases rest <;> rfl

theorem cut_word (text : String) (rest : List Token) :
    Command.cut (.word text :: rest) =
      { argv := text :: (Command.cut rest).argv
        redirections := (Command.cut rest).redirections } := by
  rw [← redirections_cut_word text rest, ← zip_after_word text rest]
  rfl

theorem cut_redirection (op : RedirectOp) (text : String) (rest : List Token) :
    Command.cut (.redirect op :: .word text :: rest) =
      { argv := (Command.cut rest).argv
        redirections := .written op text :: (Command.cut rest).redirections } := by
  rw [← redirections_cut_word text rest, ← zip_after_word text rest]
  rfl

end Command

namespace Token

private theorem splitOnP_append {p : Token → Bool} {front : List Token}
    (hfront : ∀ token ∈ front, p token = false) (tokens : List Token) :
    (front ++ tokens).splitOnP p = (tokens.splitOnP p).modifyHead (front ++ ·) := by
  induction front with
  | nil =>
    rw [List.nil_append]
    cases tokens.splitOnP p <;> rfl
  | cons token front ih =>
    have htoken := hfront token List.mem_cons_self
    have hrest := ih fun t ht => hfront t (List.mem_cons_of_mem _ ht)
    rw [List.cons_append, List.splitOnP_cons_eq_if_modifyHead, hrest, htoken]
    cases tokens.splitOnP p <;> rfl

private theorem pipelines_eq_cons (tokens : List Token) :
    ∃ piece pieces connective connectives,
      tokens.splitOnP (fun token => token.connective?.isSome) = piece :: pieces ∧
        Token.connectives tokens = connective :: connectives ∧
          Token.pipelines tokens =
            Pipeline.cut piece connective :: List.zipWith Pipeline.cut pieces connectives := by
  obtain ⟨piece, pieces, hpieces⟩ := List.exists_cons_of_ne_nil
    (List.splitOnP_ne_nil (fun token : Token => token.connective?.isSome) tokens)
  obtain ⟨connective, connectives, hconnectives⟩ := List.exists_cons_of_ne_nil
    (show Token.connectives tokens ≠ [] by simp [Token.connectives])
  refine ⟨piece, pieces, connective, connectives, hpieces, hconnectives, ?_⟩
  rw [Token.pipelines, hpieces, hconnectives, List.zipWith_cons_cons]

section Front

variable {front : List Token} (hfront : ∀ token ∈ front, token.isControl = false)

include hfront

private theorem connective?_of_mem_front : ∀ token ∈ front, token.connective? = none := by
  intro token htoken
  have hcontrol := hfront token htoken
  cases token <;> simp_all [Token.isControl, Token.connective?]

private theorem connectives_append (rest : List Token) :
    Token.connectives (front ++ rest) = Token.connectives rest := by
  have hskip : front.filterMap Token.connective? = [] :=
    List.filterMap_eq_nil_iff.mpr (connective?_of_mem_front hfront)
  simp only [Token.connectives, List.filterMap_append, hskip, List.nil_append]

private theorem cut_append (piece : List Token) (connective : Option Connective) :
    ∃ first others,
      Pipeline.cut piece connective = ⟨Command.cut first :: others, connective⟩ ∧
        Pipeline.cut (front ++ piece) connective =
          ⟨Command.cut (front ++ first) :: others, connective⟩ := by
  have hpipe : ∀ token ∈ front, (token == Token.pipe) = false := by
    intro token htoken
    have hcontrol := hfront token htoken
    cases token <;> simp_all [Token.isControl]
  obtain ⟨first, others, hfirst⟩ := List.exists_cons_of_ne_nil
    (List.splitOnP_ne_nil (fun token : Token => token == .pipe) piece)
  refine ⟨first, others.map Command.cut, ?_, ?_⟩
  · rw [Pipeline.cut, List.splitOn_eq_splitOnP, hfirst, List.map_cons]
  · rw [Pipeline.cut, List.splitOn_eq_splitOnP, splitOnP_append hpipe, hfirst,
      List.modifyHead_cons, List.map_cons]

/-- Tokens put in front of a list that separate nothing go to its first command. -/
theorem pipelines_append {rest : List Token} {remainder : Remainder}
    (h : remainder.toList = Token.pipelines rest) :
    ∃ first, remainder.command = Command.cut first ∧
      Remainder.toList { remainder with command := Command.cut (front ++ first) } =
        Token.pipelines (front ++ rest) := by
  obtain ⟨piece, pieces, connective, connectives, hpieces, hconnectives, hcut⟩ :=
    pipelines_eq_cons rest
  obtain ⟨first, others, hpiece, hgrown⟩ := cut_append hfront piece connective
  have hnone : ∀ token ∈ front, token.connective?.isSome = false := by
    simpa using connective?_of_mem_front hfront
  rw [hcut, hpiece] at h
  obtain ⟨hpipeline, hfollowing⟩ := List.cons.inj h
  obtain ⟨hcommands, hconnective⟩ := Pipeline.mk.inj hpipeline
  obtain ⟨hcommand, hothers⟩ := List.cons.inj hcommands
  refine ⟨first, hcommand, ?_⟩
  rw [Token.pipelines, splitOnP_append hnone, connectives_append hfront, hpieces, hconnectives,
    List.modifyHead_cons, List.zipWith_cons_cons, hgrown, Remainder.toList, hothers, hconnective,
    hfollowing]

end Front

theorem pipelines_pipe {rest : List Token} {remainder : Remainder}
    (h : remainder.toList = Token.pipelines rest) :
    remainder.afterPipe.toList = Token.pipelines (.pipe :: rest) := by
  obtain ⟨piece, pieces, connective, connectives, hpieces, hconnectives, hcut⟩ :=
    pipelines_eq_cons rest
  have hsame : Token.connectives (.pipe :: rest) = Token.connectives rest := rfl
  rw [hcut] at h
  obtain ⟨hpipeline, hfollowing⟩ := List.cons.inj h
  obtain ⟨hcommands, hconnective⟩ := Pipeline.mk.inj hpipeline
  rw [Token.pipelines, List.splitOnP_cons_eq_if_modifyHead, hpieces, hsame, hconnectives,
    Remainder.afterPipe, Remainder.toList, hcommands, hconnective, hfollowing]
  rfl

theorem pipelines_connective {rest : List Token} {remainder : Remainder}
    (h : remainder.toList = Token.pipelines rest) (connective : Connective) :
    (remainder.afterConnective connective).toList =
      Token.pipelines (connective.token :: rest) := by
  rw [Token.pipelines, List.splitOnP_cons_eq_if_modifyHead, Remainder.afterConnective,
    Remainder.toList, h]
  cases connective <;> rfl

end Token

namespace Remainder

theorem Reads.toList_eq_pipelines {strict started : Bool} {tokens : List Token}
    {remainder : Remainder} (h : Reads strict started tokens remainder) :
    remainder.toList = Token.pipelines tokens := by
  induction h with
  | done => rfl
  | @word _ text rest remainder _ ih =>
    obtain ⟨first, hcommand, hpieces⟩ :=
      @Token.pipelines_append [.word text] (by simp [Token.isControl]) _ _ ih
    rw [List.singleton_append, List.singleton_append, Command.cut_word] at hpieces
    rw [← hpieces, addWord, hcommand]
    rfl
  | @redirection _ op text rest remainder _ _ ih =>
    obtain ⟨first, hcommand, hpieces⟩ :=
      @Token.pipelines_append [.redirect op, .word text] (by simp [Token.isControl]) _ _ ih
    rw [List.cons_append, List.singleton_append, Command.cut_redirection] at hpieces
    rw [addRedirection, hcommand, Redirection.ofWord_eq_written]
    exact hpieces
  | pipe _ ih => exact Token.pipelines_pipe ih
  | @connective connective _ _ _ ih => exact Token.pipelines_connective ih connective

end Remainder

theorem cut_eq_of_reads {strict : Bool} {tokens : List Token} {remainder : Remainder}
    (h : Remainder.Reads strict false tokens remainder) :
    CommandList.cut tokens = remainder.toList := by
  have hne : tokens ≠ [] := by
    rintro rfl
    exact Remainder.not_reads_nil h
  rw [CommandList.cut, if_neg hne, h.toList_eq_pipelines]

/-- The parser takes exactly the lenient lists, and its result is the list cut into pieces. -/
theorem parseTokens_eq_ok_iff_cut (tokens : List Token) (hend : .endOfInput ∉ tokens)
    (list : CommandList) :
    parseTokens tokens = .ok list ↔
      (tokens = [] ∨ tokens ∈ Grammar.list Grammar.lenientCommand) ∧
        list = CommandList.cut tokens := by
  constructor
  · intro h
    obtain ⟨rfl, rfl⟩ | ⟨remainder, hreads, rfl⟩ := parseTokens_cases hend h
    · exact ⟨.inl rfl, rfl⟩
    · exact ⟨.inr hreads.mem_readable, (cut_eq_of_reads hreads).symm⟩
  · rintro ⟨rfl | hmem, rfl⟩
    · rfl
    · obtain ⟨remainder, hreads⟩ := @Remainder.exists_reads false false tokens hmem
      rw [cut_eq_of_reads hreads, parseTokens_of_reads hend hreads]

theorem parseTokens_interleaved :
    let tokens : List Token := [.redirect .input, .word "in", .word "cat", .redirect .hereDoc,
      .word "'E'", .pipe, .word "wc", .or, .redirect .append, .word "'log'"]
    .endOfInput ∉ tokens ∧ tokens ∈ Grammar.list Grammar.lenientCommand ∧
      CommandList.cut tokens =
        [{ commands := [
            { argv := ["cat"]
              redirections := [{ op := .input, target := "in" },
                { op := .hereDoc, target := "E", quoted := true }] },
            { argv := ["wc"] }]
           connective := some .or },
         { commands := [{ redirections := [{ op := .append, target := "'log'" }] }] }] := by
  intro tokens
  have hend : .endOfInput ∉ tokens := by decide
  obtain ⟨hmem, hcut⟩ := (parseTokens_eq_ok_iff_cut tokens hend _).mp rfl
  exact ⟨hend, hmem.resolve_left (by decide), hcut.symm⟩

end CommandShell
