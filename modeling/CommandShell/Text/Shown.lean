import CommandShell.Text.Combining
import CommandShell.Text.Graphic

/-!
# Text in the log

Texts appear in the log between double quotes, with escapes for quotes, backslashes and the
characters that cannot be seen by themselves: those that are not graphic, and combining marks.
-/

namespace CommandShell.Text

/-- A number in lower-case hexadecimal. -/
def hexadecimal (n : Nat) : String :=
  String.ofList (Nat.toDigits 16 n)

def showChar (c : Char) : String :=
  if c = '"' then "\\\""
  else if c = '\\' then "\\\\"
  else if c = '\n' then "\\n"
  else if c = '\r' then "\\r"
  else if c = '\t' then "\\t"
  else if c = '\x00' then "\\0"
  else if isGraphic c && !isCombining c then String.singleton c
  else "\\u\x7b" ++ hexadecimal c.toNat ++ "\x7d"

/-- A text between quotes. -/
def showText (text : String) : String :=
  "\"" ++ String.join (text.toList.map showChar) ++ "\""

/-- Items between brackets. -/
def showItems (items : List String) : String :=
  "[" ++ ", ".intercalate items ++ "]"

def showTexts (texts : List String) : String :=
  showItems (texts.map showText)

end CommandShell.Text
