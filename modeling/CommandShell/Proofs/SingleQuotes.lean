import CommandShell.Proofs.Scanning
import CommandShell.Word

/-!
# Single quotes protect everything

A text in single quotes is one word, and every reader of words gives the text back.
-/

namespace CommandShell

namespace Word

/-- The inside of the quotes: a single quote in the text closes them, stands escaped and opens them
again. -/
def quoteChars (text : List Char) : List Char :=
  text.flatMap fun c => if c = '\'' then ['\'', '\\', '\'', '\''] else [c]

def quote (text : String) : String :=
  String.ofList ('\'' :: quoteChars text.toList ++ ['\''])

theorem quoteChars_quote (rest : List Char) :
    quoteChars ('\'' :: rest) = '\'' :: '\\' :: '\'' :: '\'' :: quoteChars rest := rfl

theorem quoteChars_cons {c : Char} (hc : c ≠ '\'') (rest : List Char) :
    quoteChars (c :: rest) = c :: quoteChars rest := by
  simp [quoteChars, hc]

theorem after_quoteChars (text : List Char) :
    Quoting.single.after (quoteChars text) = .single := by
  induction text with
  | nil => rfl
  | cons c rest ih =>
    by_cases hc : c = '\''
    · subst hc
      exact ih
    · rw [quoteChars_cons hc, Quoting.after_cons, Quoting.step, if_neg hc, ih]

theorem splitWord_quoteChars (text rest : List Char) :
    splitWord .single (quoteChars text ++ rest) =
      (quoteChars text ++ (splitWord .single rest).1, (splitWord .single rest).2) := by
  induction text with
  | nil => rfl
  | cons c more ih =>
    by_cases hc : c = '\''
    · subst hc
      simp [quoteChars_quote, splitWord, Quoting.step, atBoundary, isSeparator, Token.operator?, ih]
    · simp [quoteChars_cons hc, splitWord, Quoting.step, hc, ih]

/-- A reader of words that keeps what its state says of every character but a `$` that starts a
parameter. -/
structure Reader (read : Quoting → List Char → List Char) : Prop where
  nil : ∀ quoting, read quoting [] = quoting.keepAtEnd
  cons : ∀ quoting c rest, (c = '$' → quoting.expands = false) →
    read quoting (c :: rest) = quoting.keep c ++ read (quoting.step c) rest

theorem reader_unquote : Reader unquote :=
  ⟨fun _ => rfl, fun _ _ _ _ => rfl⟩

theorem reader_substitute (scope : Scope) : Reader (substitute scope) := by
  constructor
  · intro quoting
    rw [substitute]
  · intro quoting c rest h
    rw [substitute, if_neg]
    simpa using h

theorem Reader.quoteChars {read : Quoting → List Char → List Char} (hread : Reader read)
    (text rest : List Char) :
    read .single (quoteChars text ++ rest) = text ++ read .single rest := by
  induction text with
  | nil => rfl
  | cons c more ih =>
    by_cases hc : c = '\''
    · subst hc
      simp [quoteChars_quote, hread.cons, Quoting.keep, Quoting.step, ih]
    · rw [quoteChars_cons hc, List.cons_append, hread.cons .single c _ fun _ => rfl]
      simp only [Quoting.keep, Quoting.step, if_neg hc, ih]
      rfl

/-- Every reader gives back the text that was put in quotes. -/
theorem Reader.quote {read : Quoting → List Char → List Char} (hread : Reader read)
    (text : String) : read .bare (quote text).toList = text.toList := by
  have hinside := hread.quoteChars text.toList ['\'']
  rw [Word.quote, String.toList_ofList, List.cons_append, hread.cons _ _ _ (by simp)]
  simp [hinside, hread.cons, hread.nil, Quoting.keep, Quoting.step, Quoting.keepAtEnd]

theorem removeQuotes_quote (text : String) : removeQuotes (quote text) = text := by
  rw [removeQuotes, reader_unquote.quote, String.ofList_toList]

theorem expand_quote (scope : Scope) (text : String) :
    expand scope (quote text) = { text, quoted := true } := by
  rw [expand, (reader_substitute scope).quote, String.ofList_toList]
  simp [quote, hasQuote]

theorem standsAlone_quote (text : String) : (Token.word (quote text)).StandsAlone := by
  let inside := quoteChars text.toList ++ ['\'']
  have hchars : (quote text).toList = '\'' :: inside := by
    rw [quote, String.toList_ofList, List.cons_append]
  have hdrop : ('\'' :: inside).dropWhile isSeparator = '\'' :: inside := rfl
  have hsplit : splitWord .bare ('\'' :: inside) = ('\'' :: inside, []) := by
    have hinside : splitWord .single inside = (inside, []) := splitWord_quoteChars _ _
    simp [splitWord, atBoundary, isSeparator, Token.operator?, Quoting.step, hinside]
  apply Token.standsAlone_of_nextToken
  · rw [Token.text, hchars, nextToken_of_word hdrop (List.cons_ne_nil _ _) rfl, hsplit, ← hchars,
      String.ofList_toList]
  · rw [Token.text, hchars, Quoting.after_cons]
    change Quoting.single.after inside = .bare
    rw [Quoting.after_append, after_quoteChars]
    rfl

end Word

end CommandShell
