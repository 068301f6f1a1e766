import CommandShell.Error
import CommandShell.Token

/-!
# Validation of token lists

A check before parsing: the first token that cannot stand where it is gets the blame, by its text,
or `newline` where the line ends too early.
-/

namespace CommandShell

namespace Token

/-- The operators at the start of a token list. -/
def leadingRedirects : List Token → List RedirectOp
  | .redirect op :: rest => op :: leadingRedirects rest
  | _ => []

/-- The text blamed for a run of redirection operators, if there are a first and a second one to
look at. A run in one direction is blamed by the number of its characters. -/
def blamedRedirect? (tokens : List Token) : Option String := do
  let ops := leadingRedirects tokens
  let first ← ops[0]?
  let second ← ops[1]?
  let run := ops.takeWhile fun op => op.reads = first.reads
  let length : Nat := run.foldr (fun op length => op.width + length) 0
  let followedByWord := (tokens.drop run.length).head?.any Token.isWord
  return if first.reads then
      if length = 4 then "<" else if length = 5 then "<<" else second.text
    else if length = 2 && !followedByWord then Token.endOfInput.text
    else if length > 3 then ">>"
    else second.text

/-- The text blamed for a run of at least two redirection operators. -/
def blamedRedirect (tokens : List Token) : String :=
  (blamedRedirect? tokens).getD Token.endOfInput.text

/-- The text blamed when `token`, followed by `rest`, is wrong at its place. -/
def fault? (isFirst : Bool) (token : Token) (rest : List Token) : Option String :=
  if token = .semicolon then some token.text
  else if isFirst && (token.isControl || token.isRedirect) then some token.text
  else if token.isControl || token.isRedirect then
    match rest with
    | [] => some Token.endOfInput.text
    | next :: _ =>
      if token.isRedirect && next.isRedirect then some (blamedRedirect (token :: rest))
      else if next.isWord then none
      else some next.text
  else none

/-- The first fault of a token list. -/
def firstFault? (isFirst : Bool) : List Token → Option String
  | [] => none
  | token :: rest =>
    match fault? isFirst token rest with
    | some text => some text
    | none => firstFault? false rest

/-- Accepts the token lists that the parser takes. -/
def validate (tokens : List Token) : Except ShellError Unit :=
  match firstFault? true tokens with
  | some text => .error (.unexpectedToken text)
  | none => .ok ()

end Token

end CommandShell
