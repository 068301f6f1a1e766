import CommandShell.Quoting
import CommandShell.Token

/-!
# Scanning a line

Blanks separate tokens; operators are taken longest first; everything else is part of a word.
A word ends at a blank or an operator that is neither quoted nor escaped.
-/

namespace CommandShell

/-- The characters that separate tokens. -/
def isSeparator (c : Char) : Bool :=
  c = ' ' || c = '\t' || c = '\n'

/-- The operator at the start of a text, and what follows it. A single `&` is no operator. -/
def Token.operator? : List Char → Option (Token × List Char)
  | '|' :: '|' :: rest => some (.or, rest)
  | '|' :: rest => some (.pipe, rest)
  | '&' :: '&' :: rest => some (.and, rest)
  | ';' :: rest => some (.semicolon, rest)
  | '<' :: '<' :: rest => some (.redirect .hereDoc, rest)
  | '<' :: rest => some (.redirect .input, rest)
  | '>' :: '>' :: rest => some (.redirect .append, rest)
  | '>' :: rest => some (.redirect .output, rest)
  | _ => none

/-- A word cannot go on here: the text is at a blank or at an operator. -/
def atBoundary : List Char → Bool
  | [] => true
  | c :: rest => isSeparator c || (Token.operator? (c :: rest)).isSome

/-- Splits off the characters up to the first boundary outside quotes. -/
def splitWord : Quoting → List Char → List Char × List Char
  | _, [] => ([], [])
  | quoting, c :: rest =>
    if quoting = .bare && atBoundary (c :: rest) then ([], c :: rest)
    else
      let split := splitWord (quoting.step c) rest
      (c :: split.1, split.2)

/-- The next token of a text and what follows it; `none` when only blanks are left. -/
def nextToken (text : List Char) : Option (Token × List Char) :=
  match text.dropWhile isSeparator with
  | [] => none
  | c :: rest =>
    match Token.operator? (c :: rest) with
    | some found => some found
    | none =>
      let split := splitWord .bare (c :: rest)
      some (.word (String.ofList split.1), split.2)

theorem length_operator?_lt {text rest : List Char} {token : Token}
    (h : Token.operator? text = some (token, rest)) : rest.length < text.length := by
  revert h
  fun_cases Token.operator? text <;> simp <;> intros <;> subst_vars <;> omega

theorem length_splitWord_le (quoting : Quoting) (text : List Char) :
    (splitWord quoting text).2.length ≤ text.length := by
  induction text generalizing quoting with
  | nil => simp [splitWord]
  | cons c rest ih =>
    simp only [splitWord]
    split
    · simp
    · exact Nat.le_succ_of_le (ih _)

theorem length_dropSeparators_le (text : List Char) :
    (text.dropWhile isSeparator).length ≤ text.length :=
  (List.dropWhile_suffix _).length_le

/-- Every token takes at least one character. -/
theorem length_nextToken_lt {text rest : List Char} {token : Token}
    (h : nextToken text = some (token, rest)) : rest.length < text.length := by
  have hdrop := length_dropSeparators_le text
  revert h
  unfold nextToken
  split
  · simp
  · rename_i c tail htext
    rw [htext] at hdrop
    have hseparator : isSeparator c = false := by
      have hne : text.dropWhile isSeparator ≠ [] := by simp [htext]
      have hhead := List.head_dropWhile_not isSeparator hne
      simpa [htext] using hhead
    cases hop : Token.operator? (c :: tail) with
    | some found =>
      intro h
      simp only [Option.some.injEq] at h
      subst h
      have := length_operator?_lt hop
      omega
    | none =>
      intro h
      simp only [Option.some.injEq, Prod.mk.injEq] at h
      have hword : (splitWord .bare (c :: tail)).2 = (splitWord (Quoting.step .bare c) tail).2 := by
        simp [splitWord, atBoundary, hseparator, hop]
      have := length_splitWord_le (Quoting.step .bare c) tail
      rw [← h.2, hword]
      simp only [List.length_cons] at hdrop
      omega

/-- All tokens of a text. -/
def scan (text : List Char) : List Token :=
  match _h : nextToken text with
  | none => []
  | some (token, rest) => token :: scan rest
termination_by text.length
decreasing_by exact length_nextToken_lt _h

/-- The tokens of a line. -/
def tokenize (line : String) : List Token :=
  scan line.toList

/-- The first `count` tokens of a text, the end of input standing for each missing one. -/
def Token.stream : Nat → List Char → List Token
  | 0, _ => []
  | count + 1, text =>
    match nextToken text with
    | none => .endOfInput :: Token.stream count []
    | some (token, rest) => token :: Token.stream count rest

end CommandShell
