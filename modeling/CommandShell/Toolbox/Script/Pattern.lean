import CommandShell.FileTree.Walk
import CommandShell.Toolbox.Script.Word

/-!
# Patterns

A field stands for the files whose names it matches: `*` matches any text, `?` one character and
`[...]` one of several. A name that starts with a dot is only matched by a dot.
-/

namespace CommandShell.Toolbox.Script

/-- A field: its characters, and whether they may have a meaning in a pattern. -/
abbrev Field := List (Char × Bool)

namespace Field

def raw (field : Field) : Raw :=
  field.map Prod.fst

def isPattern (field : Field) : Bool :=
  field.any fun (c, active) => active && (c = '*' || c = '?' || c = '[')

/-- Cuts a field at the bracket that closes a set. The first character cannot close it. -/
def cutSet (first : Bool) : Field → Option (Field × Field)
  | [] => none
  | part :: rest =>
    if part = (']', true) && !first then some ([], rest)
    else (cutSet false rest).map fun cut => (part :: cut.1, cut.2)

/-- The ranges that a set consists of. -/
def ranges : Field → List (Char × Char)
  | [] => []
  | (low, _) :: ('-', true) :: (high, _) :: rest => (low, high) :: ranges rest
  | (c, _) :: rest => (c, c) :: ranges rest

/-- The set after an opening bracket: whether a character is in it, and what follows. -/
def readBracket (field : Field) : Option ((Char → Bool) × Field) :=
  let inverted := field.head? = some ('!', true)
  (cutSet true (if inverted then field.tail else field)).map fun (body, rest) =>
    (fun c => (ranges body |>.any fun range => range.1 ≤ c && c ≤ range.2) != inverted, rest)

/-- The field matches a name. The first number bounds the steps. -/
def matchesWithin : Nat → Field → Raw → Bool
  | 0, _, _ => false
  | _ + 1, [], name => name.isEmpty
  | limit + 1, ('*', true) :: rest, name =>
    matchesWithin limit rest name ||
      match name with
      | [] => false
      | _ :: name => matchesWithin limit (('*', true) :: rest) name
  | _ + 1, _ :: _, [] => false
  | limit + 1, (c, active) :: rest, d :: name =>
    if c = '?' && active then matchesWithin limit rest name
    else
      match if c = '[' && active then readBracket rest else none with
      | some (holds, rest) => holds d && matchesWithin limit rest name
      | none => c = d && matchesWithin limit rest name

def isMatch (field : Field) (name : Raw) : Bool :=
  (name.head? ≠ some '.' || field.head?.any fun part => part.1 = '.') &&
    matchesWithin (field.length + name.length + 1) field name

/-- The components between slashes. -/
def components : Field → List Field
  | [] => [[]]
  | part :: rest =>
    if part.1 = '/' then [] :: components rest
    else
      match components rest with
      | [] => [[part]]
      | component :: others => (part :: component) :: others

/-- The names in a directory, with those of the directory itself and the one above it. -/
def namesIn (files : FileTree) (directory : Path) (raw : Raw) : List Raw :=
  match files.directoryAt directory (if raw.isEmpty then "." else Raw.toText raw) with
  | .error _ => []
  | .ok path =>
    if !(files.isDirectory path && files.isListable path) then []
    else
      let names := files.nodes.filterMap fun (key, _) =>
        if key ≠ [] && key.dropLast = path then key.getLast?.map Raw.ofText else none
      ['.'] :: ['.', '.'] :: names

/-- The files that components stand for, after a file name that leads to a directory. -/
def expandComponents (files : FileTree) (directory : Path) (before : Raw) : List Field → List Raw
  | [] => []
  | [last] =>
    if last.isPattern then
      ((namesIn files directory before).filter last.isMatch).map (before ++ ·)
    else
      let file := before ++ last.raw
      if (files.lookup directory (Raw.toText file)).isOk then [file] else []
  | component :: rest =>
    let names :=
      if component.isPattern then (namesIn files directory before).filter component.isMatch
      else [component.raw]
    names.flatMap fun name => expandComponents files directory (before ++ name ++ ['/']) rest

/-- The file names that a field stands for, in order; itself if it matches none. -/
def expand (files : FileTree) (directory : Path) (field : Field) : List Raw :=
  if field.isPattern then
    let found := expandComponents files directory [] field.components
    if found.isEmpty then [field.raw] else found.mergeSort fun a b => !b.lex a
  else [field.raw]

end Field

end CommandShell.Toolbox.Script
