import CommandShell.Environment
import CommandShell.Quoting

/-!
# Expansion of words

A word is read once from left to right. Outside single quotes `$NAME` and `$?` are replaced; the
quotes and the backslashes that protect something are dropped, and what they protected is kept.
A value that is put in is not read again.
-/

namespace CommandShell

/-- What a `$` can stand for. -/
inductive Parameter where
  | named (name : String)
  | status
  deriving DecidableEq, Repr

/-- The parameter named by the characters after a `$`, and what follows it. -/
def Parameter.read? : List Char → Option (Parameter × List Char)
  | '?' :: rest => some (.status, rest)
  | text =>
    match text.takeWhile isNameChar with
    | [] => none
    | name => some (.named (String.ofList name), text.dropWhile isNameChar)

theorem Parameter.length_read?_le {text rest : List Char} {parameter : Parameter}
    (h : Parameter.read? text = some (parameter, rest)) : rest.length ≤ text.length := by
  unfold Parameter.read? at h
  split at h
  · obtain ⟨-, rfl⟩ := Prod.mk.inj (Option.some.inj h)
    exact Nat.le_succ _
  · split at h
    · exact absurd h (by simp)
    · obtain ⟨-, rfl⟩ := Prod.mk.inj (Option.some.inj h)
      exact (List.dropWhile_suffix _).length_le

/-- The values a word is expanded with. -/
structure Scope where
  environment : Environment
  status : Int

/-- The value of a parameter; a name without a value stands for nothing. -/
def Scope.value (scope : Scope) : Parameter → String
  | .named name => (scope.environment.get? name).getD ""
  | .status => toString scope.status

namespace Quoting

/-- The characters a backslash protects within double quotes. -/
def isDoubleQuoteSpecial (c : Char) : Bool :=
  c = '\\' || c = '"' || c = '`' || c = '$'

/-- A `$` is read as the start of a parameter. -/
def expands : Quoting → Bool
  | .bare | .double => true
  | _ => false

/-- What is kept of a character that is read in this state. -/
def keep : Quoting → Char → List Char
  | .bare, c => if c = '\'' || c = '"' || c = '\\' then [] else [c]
  | .escaped, c => if c = '\n' then [] else [c]
  | .single, c => if c = '\'' then [] else [c]
  | .double, c => if c = '"' || c = '\\' then [] else [c]
  | .doubleEscaped, c => if isDoubleQuoteSpecial c then [c] else ['\\', c]

/-- What is kept when the word ends in this state: a backslash with nothing to protect. -/
def keepAtEnd : Quoting → List Char
  | .escaped | .doubleEscaped => ['\\']
  | _ => []

end Quoting

namespace Word

/-- Drops quotes and protecting backslashes. -/
def unquote : Quoting → List Char → List Char
  | quoting, [] => quoting.keepAtEnd
  | quoting, c :: rest => quoting.keep c ++ unquote (quoting.step c) rest

/-- Drops quotes and protecting backslashes and replaces parameters. -/
def substitute (scope : Scope) (quoting : Quoting) (text : List Char) : List Char :=
  match text with
  | [] => quoting.keepAtEnd
  | c :: rest =>
    if c = '$' && quoting.expands then
      match _h : Parameter.read? rest with
      | some (parameter, after) =>
        (scope.value parameter).toList ++ substitute scope quoting after
      | none => '$' :: substitute scope quoting rest
    else quoting.keep c ++ substitute scope (quoting.step c) rest
termination_by text.length
decreasing_by
  · have := Parameter.length_read?_le _h
    simp only [List.length_cons]
    omega
  · simp
  · simp

/-- The word holds a quote that no backslash protects. -/
def hasQuote : List Char → Bool
  | '\\' :: _ :: rest => hasQuote rest
  | c :: rest => c = '\'' || c = '"' || hasQuote rest
  | [] => false

/-- An expanded word. -/
structure Expanded where
  text : String
  /-- The word was quoted, at least in part. -/
  quoted : Bool
  deriving DecidableEq, Repr

/-- An expanded word that vanishes: it is empty and was not quoted. -/
def Expanded.vanishes (expanded : Expanded) : Bool :=
  expanded.text = "" && !expanded.quoted

def expand (scope : Scope) (raw : String) : Expanded where
  text := String.ofList (substitute scope .bare raw.toList)
  quoted := hasQuote raw.toList

def removeQuotes (raw : String) : String :=
  String.ofList (unquote .bare raw.toList)

end Word

/-- Expansion of one line of a here-document, where quotes are ordinary characters. -/
def substituteHereDoc (scope : Scope) (text : List Char) : List Char :=
  match text with
  | [] => []
  | ['\\'] => ['\\']
  | '\\' :: c :: rest =>
    if c = '\\' || c = '$' || c = '`' then c :: substituteHereDoc scope rest
    else '\\' :: substituteHereDoc scope (c :: rest)
  | c :: rest =>
    if c = '$' then
      match _h : Parameter.read? rest with
      | some (parameter, after) => (scope.value parameter).toList ++ substituteHereDoc scope after
      | none => '$' :: substituteHereDoc scope rest
    else c :: substituteHereDoc scope rest
termination_by text.length
decreasing_by
  · simp only [List.length_cons]
    omega
  · simp only [List.length_cons]
    omega
  · have := Parameter.length_read?_le _h
    simp only [List.length_cons]
    omega
  · simp only [List.length_cons]
    omega
  · simp

def expandHereDocLine (scope : Scope) (line : String) : String :=
  String.ofList (substituteHereDoc scope line.toList)

end CommandShell
