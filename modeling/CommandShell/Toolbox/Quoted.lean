import CommandShell.Bytes

/-!
# File names in complaints

Tools show a file name the way it could be typed. A name of plain characters needs no quotes. In
quotes, a single quote is written between two quoted parts, and bytes that cannot be printed are
written as escapes.
-/

namespace CommandShell.Toolbox

/-- The escape of a byte that cannot be printed: a letter or three octal digits. -/
def escape? (byte : UInt8) : Option (List Char) :=
  let n := byte.toNat
  match [(7, 'a'), (8, 'b'), (9, 't'), (10, 'n'), (11, 'v'), (12, 'f'), (13, 'r')].lookup n with
  | some letter => some [letter]
  | none =>
    if 32 ≤ n && n < 127 then none
    else some ([n / 64, n / 8 % 8, n % 8].map fun digit => Char.ofNat (48 + digit))

/-- The inside of single quotes; `escaping` tells that escapes were being written. -/
def quotedPart (escaping : Bool) : Bytes → List Char
  | [] => []
  | byte :: rest =>
    if byte = 39 then "'\\''".toList ++ quotedPart false rest
    else
      match escape? byte with
      | some escape =>
        (if escaping then [] else "'$'".toList) ++ '\\' :: escape ++ quotedPart true rest
      | none =>
        (if escaping then "''".toList else []) ++ Char.ofNat byte.toNat :: quotedPart false rest

/-- Characters with a meaning outside quotes. -/
def isMeaningful (c : Char) : Bool :=
  "?\\ !\"$&()*;<=>[^`|':".toList.contains c

/-- Characters that mean the same in single and in double quotes. -/
def isNeutral (c : Char) : Bool :=
  c.isAlphanum || "%+,-./:]_ '@".toList.contains c

/-- The name between quotes. One with single quotes takes double quotes, if nothing else in it
needs single ones; if it needs them and ends in an escape, it starts as if after an escape. -/
def quoted (name : String) : String :=
  let neutral := match name.toList with
    | [] => true
    | first :: rest => (isNeutral first || first = '#' || first = '~') && rest.all isNeutral
  if neutral && name.toList.contains '\'' then "\"" ++ name ++ "\""
  else
    let bytes := Bytes.ofText name
    let escaping := bytes.contains 39 && bytes.getLast?.any fun byte => (escape? byte).isSome
    "'" ++ String.ofList (quotedPart escaping bytes) ++ "'"

/-- The name, between quotes if it needs them. -/
def quotedIfNeeded (name : String) : String :=
  let plain (c : Char) : Bool := !isMeaningful c && 32 ≤ c.toNat && c.toNat < 127
  let bare := name ≠ "\x7b" && name ≠ "\x7d" && name.toList.all plain &&
    name.toList.head?.any fun c => c ≠ '#' && c ≠ '~'
  if bare then name else quoted name

end CommandShell.Toolbox
