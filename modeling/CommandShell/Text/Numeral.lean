/-!
# Decimal numerals

Signed decimal numerals of 64 bits: an optional sign and at least one ASCII digit, nothing else.
-/

namespace CommandShell.Text

def maxInt64 : Int := 9223372036854775807

def minInt64 : Int := -9223372036854775808

/-- The value of a run of digits read after `value`. -/
def digitsValue (value : Nat) : List Char → Option Nat
  | [] => some value
  | c :: rest => if c.isDigit then digitsValue (10 * value + (c.toNat - '0'.toNat)) rest else none

def unsigned? : List Char → Option Nat
  | [] => none
  | digits => digitsValue 0 digits

def signed? : List Char → Option Int
  | '+' :: digits => (unsigned? digits).map Int.ofNat
  | '-' :: digits => (unsigned? digits).map fun n => -Int.ofNat n
  | digits => (unsigned? digits).map Int.ofNat

/-- Reads a numeral; one outside the range of 64 bits is refused. -/
def int64? (text : String) : Option Int :=
  (signed? text.toList).filter fun n => minInt64 ≤ n && n ≤ maxInt64

/-- A number right-aligned in a field of the given width. -/
def padLeft (width : Nat) (text : String) : String :=
  String.ofList (List.replicate (width - text.length) ' ') ++ text

end CommandShell.Text
