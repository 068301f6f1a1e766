import CommandShell.Toolbox.Script.Word

/-!
# Echo

What `echo` writes: its words with spaces between them, in which backslashes start escapes, and a
line feed after them unless the first word is `-n`.
-/

namespace CommandShell.Toolbox.Script

/-- The value of up to `limit` octal digits at the start of a text, read after `value`, and what
follows them. -/
def readOctal (value : Nat) : Nat → Raw → Nat × Raw
  | limit + 1, c :: rest =>
    if '0' ≤ c && c ≤ '7' then readOctal (8 * value + (c.toNat - 48)) limit rest
    else (value, c :: rest)
  | _, rest => (value, rest)

theorem readOctal_length (value limit : Nat) (text : Raw) :
    (readOctal value limit text).2.length ≤ text.length := by
  fun_induction readOctal value limit text with
  | case1 value limit c rest _ ih => exact Nat.le_succ_of_le ih
  | case2 => exact Nat.le_refl _
  | case3 => exact Nat.le_refl _

/-- The escapes of one letter. -/
def escapes : List (Char × Char) :=
  [('\\', '\\'), ('a', '\x07'), ('b', '\x08'), ('e', '\x1b'), ('f', '\x0c'), ('n', '\n'),
    ('r', '\r'), ('t', '\t'), ('v', '\x0b')]

/-- What the escapes of a text stand for, and whether one of them ends the output. The characters
before it are in `done`, the last one first. -/
def unescape (done : Raw) : Raw → Raw × Bool
  | '\\' :: c :: rest =>
    match escapes.lookup c with
    | some c => unescape (c :: done) rest
    | none =>
      if c = 'c' then (done.reverse, true)
      else if '0' ≤ c && c ≤ '7' then
        let digits := if c = '0' then rest else c :: rest
        let octal := readOctal 0 3 digits
        have : octal.2.length < rest.length + 2 := by
          have h := readOctal_length 0 3 digits
          have : digits.length ≤ rest.length + 1 := by
            simp only [digits]
            split <;> simp
          simp only [octal]
          omega
        unescape (Char.ofNat (octal.1 % 256) :: done) octal.2
      else unescape ('\\' :: done) (c :: rest)
  | c :: rest => unescape (c :: done) rest
  | [] => (done.reverse, false)
termination_by text => text.length
decreasing_by all_goals simp only [List.length_cons]; omega

/-- What `echo` writes. -/
def echoed (words : List Raw) : Bytes :=
  let (newline, words) := match words with
    | ['-', 'n'] :: words => (false, words)
    | words => (true, words)
  let (text, ended) := unescape [] ([' '].intercalate words)
  Raw.toBytes (if newline && !ended then text ++ ['\n'] else text)

end CommandShell.Toolbox.Script
