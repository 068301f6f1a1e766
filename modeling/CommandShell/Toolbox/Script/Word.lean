import CommandShell.Bytes
import CommandShell.Environment
import CommandShell.Quoting

/-!
# Words of scripts

A script is read byte by byte: a character stands for one byte here. A word is a list of parts, in
which quotes and backslashes have done their work and parameters are still to be looked up.
-/

namespace CommandShell.Toolbox.Script

/-- A text of bytes, each of them a character. -/
abbrev Raw := List Char

namespace Raw

def ofBytes (bytes : Bytes) : Raw :=
  bytes.map fun byte => Char.ofNat byte.toNat

def toBytes (raw : Raw) : Bytes :=
  raw.map fun c => UInt8.ofNat c.toNat

/-- No byte is lost. -/
@[simp] theorem toBytes_ofBytes (bytes : Bytes) : toBytes (ofBytes bytes) = bytes := by
  have byte (b : UInt8) : UInt8.ofNat (Char.ofNat b.toNat).toNat = b := by
    have h : Nat.isValidChar b.toNat := .inl (Nat.lt_trans b.toNat_lt (by decide))
    rw [Char.ofNat, dif_pos h]
    exact UInt8.ofNat_toNat
  simp [toBytes, ofBytes, Function.comp_def, byte]

def ofText (text : String) : Raw :=
  ofBytes (Bytes.ofText text)

def toText (raw : Raw) : String :=
  Bytes.toText (toBytes raw)

end Raw

/-- What is made of a parameter. -/
inductive Use where
  | value
  | length
  /-- Another text may take its place. The sign tells when; with a colon an empty value counts as
  none. -/
  | choice (sign : Char) (colon : Bool) (text : Raw)
  | malformed
  deriving DecidableEq, Repr

/-- A part of a word. -/
inductive Part where
  /-- A character that may have a meaning in a pattern. -/
  | active (c : Char)
  /-- A character that stands for itself. -/
  | fixed (c : Char)
  /-- A word is here, even if it is empty. -/
  | anchor
  | parameter (quoted : Bool) (name : Raw) (use : Use)
  deriving DecidableEq, Repr

abbrev Word := List Part

def isSpecial (c : Char) : Bool :=
  "@*#?-$!".contains c

/-- The name of a parameter at the start of a text between braces. -/
def bracedName : Raw → Raw
  | [] => []
  | text@(c :: _) =>
    if c.isDigit then text.takeWhile Char.isDigit
    else if isNameStart c then text.takeWhile isNameChar
    else if isSpecial c then [c]
    else []

/-- The name of a parameter at the start of a text without braces. -/
def bareName : Raw → Raw
  | [] => []
  | text@(c :: _) => if c.isDigit then [c] else bracedName text

def isChoiceSign (c : Char) : Bool :=
  "-+=?".contains c

/-- What follows a parameter's name between braces. -/
def useAfter : Raw → Use
  | [] => .value
  | ':' :: sign :: text => if isChoiceSign sign then .choice sign true text else .malformed
  | sign :: text => if isChoiceSign sign then .choice sign false text else .malformed

/-- Reads what stands between braces. -/
def readBraced (body : Raw) : Raw × Use :=
  let name := bracedName body
  let whole := (name, if name.isEmpty then .malformed else useAfter (body.drop name.length))
  match body with
  | '#' :: rest =>
    let counted := bracedName rest
    if !counted.isEmpty && counted.length = rest.length then (counted, .length) else whole
  | _ => whole

/-- Cuts a text after the brace that closes it. The quoting is the one before the text, `quoting`
the one within it, and the number is that of the inner braces that are open. -/
def cutBraced (outer : Quoting) : Nat → Quoting → Raw → Option (Raw × Raw)
  | _, _, [] => none
  | depth, quoting, '$' :: '\x7b' :: rest =>
    let depth := if quoting = .single then depth else depth + 1
    (cutBraced outer depth quoting rest).map fun cut => ('$' :: '\x7b' :: cut.1, cut.2)
  | depth, quoting, c :: rest =>
    if c = '\x7d' && (quoting = .bare || quoting = outer) then
      match depth with
      | 0 => some ([], rest)
      | depth + 1 => (cutBraced outer depth quoting rest).map fun cut => (c :: cut.1, cut.2)
    else
      (cutBraced outer depth (quoting.step c) rest).map fun cut => (c :: cut.1, cut.2)

/-- What a dollar sign starts. -/
inductive Dollar where
  | itself
  | unclosed
  | parameter (part : Part) (width : Nat)

/-- Reads what follows a dollar sign. The width is the number of characters that belong to it. -/
def readDollar (quoted : Bool) : Raw → Dollar
  | '\x7b' :: rest =>
    let outer := if quoted then Quoting.double else .bare
    match cutBraced outer 0 outer rest with
    | none => .unclosed
    | some (body, _) =>
      let (name, use) := readBraced body
      .parameter (.parameter quoted name use) (body.length + 2)
  | text =>
    let name := bareName text
    if name.isEmpty then .itself else .parameter (.parameter quoted name .value) name.length

/-- A backslash between double quotes takes this character. -/
def isEscapable (c : Char) : Bool :=
  c = '$' || c = '\x60' || c = '"' || c = '\\'

/-- The parts of a text that takes a parameter's place outside quotes. `double` tells that a double
quote is open, and the first number bounds the steps. -/
def choiceParts : Nat → Bool → Raw → Word
  | 0, _, _ | _, _, [] => []
  | limit + 1, double, '\\' :: c :: rest =>
    if c = '\n' then choiceParts limit double rest
    else if !double || isEscapable c then .fixed c :: choiceParts limit double rest
    else .fixed '\\' :: choiceParts limit double (c :: rest)
  | limit + 1, double, c :: rest =>
    if c = '"' then .anchor :: choiceParts limit (!double) rest
    else if c = '\'' && !double then
      let body := rest.takeWhile fun c => c ≠ '\''
      .anchor :: body.map .fixed ++ choiceParts limit double (rest.drop (body.length + 1))
    else
      let itself := if double then Part.fixed c else .active c
      if c = '$' then
        match readDollar double rest with
        | .parameter part width => part :: choiceParts limit double (rest.drop width)
        | _ => itself :: choiceParts limit double rest
      else itself :: choiceParts limit double rest

/-- The parts of a text that takes a parameter's place between quotes. The first number bounds the
steps. -/
def quotedChoiceParts : Nat → Raw → Word
  | 0, _ | _, [] => []
  | limit + 1, '\\' :: c :: rest =>
    if c = '\n' then quotedChoiceParts limit rest
    else if isEscapable c || c = '\x7d' then .fixed c :: quotedChoiceParts limit rest
    else .fixed '\\' :: quotedChoiceParts limit (c :: rest)
  | limit + 1, c :: rest =>
    if c = '"' then quotedChoiceParts limit rest
    else if c = '$' then
      match readDollar true rest with
      | .parameter part width => part :: quotedChoiceParts limit (rest.drop width)
      | _ => .fixed c :: quotedChoiceParts limit rest
    else .fixed c :: quotedChoiceParts limit rest

end CommandShell.Toolbox.Script
