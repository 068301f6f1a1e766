import CommandShell.Toolbox.Script.Pattern

/-!
# Expansion in scripts

Parameters are replaced by their values. Outside quotes the blanks of a value divide fields, and a
field may be a pattern.
-/

namespace CommandShell.Toolbox.Script

/-- What the words of a script are expanded with. -/
structure Scope where
  name : Raw
  parameters : List Raw := []
  vars : List (Raw × Raw) := []
  /-- The status of the last command. -/
  status : Nat := 0
  /-- The letters of the options that are set. -/
  options : List Char := []
  files : FileTree
  directory : Path
  /-- The list of parameters stood between quotes, so the next value of the word is not divided. -/
  held : Bool := false

namespace Scope

/-- The option letters in the order in which they are shown. -/
def optionLetters : List Char :=
  "upbaCEVvxsnmiIfe".toList

def joined (scope : Scope) : Raw :=
  [' '].intercalate scope.parameters

/-- The value of a parameter. The number of the process is not known and is shown as `$$`. -/
def value? (scope : Scope) (name : Raw) : Option Raw :=
  match name with
  | ['#'] => some (toString scope.parameters.length).toList
  | ['?'] => some (toString scope.status).toList
  | ['$'] => some ['$', '$']
  | ['-'] => some (optionLetters.filter scope.options.contains)
  | ['!'] => none
  | ['@'] | ['*'] => some scope.joined
  | _ =>
    match name.foldl (fun n c => n.bind fun n =>
        if c.isDigit then some (10 * n + (c.toNat - '0'.toNat)) else none) (some 0) with
    | some 0 => some scope.name
    | some (n + 1) => scope.parameters[n]?
    | none => scope.vars.lookup name

def setVariable (scope : Scope) (name value : Raw) : Scope :=
  { scope with vars := (name, value) :: scope.vars.filter fun entry => entry.1 ≠ name }

end Scope

/-- A piece of an expanded word. -/
inductive Piece where
  | char (c : Char) (active : Bool)
  /-- A blank that divides fields. -/
  | gap (c : Char)
  /-- A field is here, even if it is empty. -/
  | anchor
  deriving DecidableEq, Repr

namespace Piece

def isBlank (c : Char) : Bool :=
  c = ' ' || c = '\t' || c = '\n'

/-- A character outside quotes. -/
def bare (c : Char) : Piece :=
  if isBlank c then .gap c else .char c true

def ofValue (quoted : Bool) (value : Raw) : List Piece :=
  value.map fun c => if quoted then .char c false else bare c

/-- The parameters as fields of their own. -/
def ofParameters (quoted : Bool) (parameters : List Raw) : List Piece :=
  [Piece.gap ' '].intercalate (parameters.map fun value =>
    (if quoted then [Piece.anchor] else []) ++ ofValue quoted value)

/-- Pieces that are not divided. -/
def undivided (pieces : List Piece) : List Piece :=
  pieces.map fun
    | .gap c => .char c true
    | piece => piece

/-- The text of pieces that are not divided. -/
def text (pieces : List Piece) : Raw :=
  pieces.filterMap fun
    | .char c _ | .gap c => some c
    | .anchor => none

/-- The fields of pieces; `field` is the one being read, its last character first. -/
def fields (field : Option Field) : List Piece → List Field
  | [] => field.toList.map List.reverse
  | .gap _ :: rest => field.toList.map List.reverse ++ fields none rest
  | .anchor :: rest => fields (some (field.getD [])) rest
  | .char c active :: rest => fields (some ((c, active) :: field.getD [])) rest

end Piece

/-- Pieces and what their expansion left, or what was wrong. -/
abbrev Expansion := Except Raw (List Piece × Scope)

namespace Scope

/-- The pieces that a parameter's value gives. -/
def valuePieces (scope : Scope) (quoted : Bool) (name : Raw) (value : Raw) : List Piece :=
  if name = ['@'] || (name = ['*'] && !quoted) then Piece.ofParameters quoted scope.parameters
  else Piece.ofValue quoted value

def notSet (name : Raw) (orNull : Bool) : Raw :=
  name ++ (if orNull then ": parameter not set or null" else ": parameter not set").toList

/-- The pieces of a parameter. Texts that take its place are expanded by `expand`. -/
def expandParameter (expand : Scope → Word → Expansion) (scope : Scope) (quoted : Bool) (name : Raw)
    (use : Use) : Expansion :=
  let value := scope.value? name
  let strict := scope.options.contains 'u' && value.isNone
  match use with
  | .malformed => .error "Bad substitution".toList
  | .value =>
    if strict then .error (notSet name false)
    else .ok (scope.valuePieces quoted name (value.getD []), scope)
  | .length =>
    if strict then .error (notSet name false)
    else .ok (Piece.ofValue quoted (toString (value.getD []).length).toList, scope)
  | .choice sign colon text =>
    let isList := name = ['@'] || name = ['*']
    let present := value.isSome && !(colon && value = some []) &&
      !(isList && scope.parameters.isEmpty)
    let limit := text.length + 1
    let word := if quoted then quotedChoiceParts limit text else choiceParts limit false text
    let found := scope.valuePieces quoted name (value.getD [])
    if sign = '+' then if present then expand scope word else .ok ([], scope)
    else if present then .ok (found, scope)
    else if sign = '-' then expand scope word
    else
      match expand scope word with
      | .error e => .error e
      | .ok (pieces, scope) =>
        let chosen := Piece.text pieces
        if sign = '?' then
          .error (if text.isEmpty then notSet name colon else name ++ ": ".toList ++ chosen)
        else if name.head?.any isNameStart then
          .ok (Piece.ofValue quoted chosen, scope.setVariable name chosen)
        else .error (name ++ ": bad variable name".toList)

/-- The pieces of a parameter, after which the next one may be divided or not. -/
def expandHeld (expand : Scope → Word → Expansion) (scope : Scope) (quoted : Bool) (name : Raw)
    (use : Use) : Expansion :=
  (scope.expandParameter expand quoted name use).map fun (pieces, after) =>
    if quoted then
      let isList := name = ['@'] && !scope.parameters.isEmpty
      (pieces, { after with held := after.held || isList })
    else if scope.held && !(use = .value && (scope.value? name).isNone) then
      (Piece.undivided pieces, { after with held := false })
    else (pieces, after)

/-- The pieces of a word. The first number bounds how deep texts are nested that take the place of
parameters. -/
def expandWord : Nat → Scope → Word → Expansion
  | 0, scope, _ => .ok ([], scope)
  | limit + 1, scope, word =>
    let step (state : List (List Piece) × Scope) (part : Part) :
        Except Raw (List (List Piece) × Scope) :=
      let (done, scope) := state
      match part with
      | .active c => .ok ([Piece.bare c] :: done, scope)
      | .fixed c => .ok ([.char c false] :: done, scope)
      | .anchor => .ok ([.anchor] :: done, scope)
      | .parameter quoted name use =>
        (scope.expandHeld (expandWord limit) quoted name use).map fun (pieces, scope) =>
          (pieces :: done, scope)
    (word.foldlM step ([], scope)).map fun (done, scope) => (done.reverse.flatten, scope)

/-- A tilde at the start of a word stands for the home directory. -/
def withHome (scope : Scope) (word : Word) : Word :=
  let home := scope.vars.lookup "HOME".toList
  match home, word with
  | some home, [.active '~'] => .anchor :: home.map .fixed
  | some home, .active '~' :: .active '/' :: rest => home.map .fixed ++ .active '/' :: rest
  | _, word => word

def maxNesting : Nat := 100

/-- The pieces of a word with its tilde. -/
def expandWhole (scope : Scope) (word : Word) : Expansion :=
  { scope with held := false }.expandWord maxNesting (scope.withHome word)

/-- The text of a word that stays one. -/
def expandText (scope : Scope) (word : Word) : Except Raw (Raw × Scope) :=
  (scope.expandWhole word).map fun (pieces, scope) => (Piece.text pieces, scope)

/-- The fields that words give. -/
def expandFields (scope : Scope) : List Word → Except Raw (List Raw × Scope)
  | [] => .ok ([], scope)
  | word :: rest =>
    match scope.expandWhole word with
    | .error e => .error e
    | .ok (pieces, scope) =>
      let names (field : Field) : List Raw :=
        if scope.options.contains 'f' then [field.raw]
        else field.expand scope.files scope.directory
      (scope.expandFields rest).map fun (fields, scope) =>
        ((Piece.fields none pieces).flatMap names ++ fields, scope)

end Scope

end CommandShell.Toolbox.Script
