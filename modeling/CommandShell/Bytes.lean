import CommandShell.Text.Lines

/-!
# Bytes

File contents and output are byte strings. Text is written as its UTF-8 encoding.
-/

namespace CommandShell

abbrev Bytes := List UInt8

namespace Bytes

/-- The encoding of a text. -/
def ofText (text : String) : Bytes :=
  text.toUTF8.data.toList

theorem ofText_append (a b : String) : ofText (a ++ b) = ofText a ++ ofText b := by
  simp [ofText]

/-- The text a byte string encodes, if it encodes one. -/
def toText? (bytes : Bytes) : Option String :=
  String.fromUTF8? ⟨bytes.toArray⟩

@[simp] theorem toText?_ofText (text : String) : toText? (ofText text) = some text := by
  unfold toText? ofText String.fromUTF8?
  simp only [Array.toArray_toList, Option.dite_none_right_eq_some]
  exact ⟨text.isValidUTF8, rfl⟩

/-- The text a byte string encodes. In one that encodes none, the bytes beyond ASCII become
replacement characters. -/
def toText (bytes : Bytes) : String :=
  (toText? bytes).getD (String.ofList (bytes.map fun byte =>
    if byte < 128 then Char.ofNat byte.toNat else '\uFFFD'))

/-- A line without its terminator, if it is text. -/
def lineText? (piece : Bytes) : Option String :=
  (toText? piece).map fun text => String.ofList (Text.chomp '\n' '\r' text.toList)

/-- The lines of a byte string, without their terminators; one that is not text has no value. -/
def lines (bytes : Bytes) : List (Option String) :=
  (Text.pieces 10 bytes).map lineText?

end Bytes

end CommandShell
