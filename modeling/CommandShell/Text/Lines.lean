/-!
# Lines

A text is cut after each line feed; a line loses its line feed and one carriage return before it.
What follows the last line feed is a line of its own unless it is empty.
-/

namespace CommandShell.Text

variable {α : Type} [DecidableEq α]

/-- Cuts a list after every separator, which stays at the end of its piece. -/
def pieces (separator : α) : List α → List (List α)
  | [] => []
  | a :: rest =>
    if a = separator then [a] :: pieces separator rest
    else
      match pieces separator rest with
      | [] => [[a]]
      | piece :: others => (a :: piece) :: others

/-- Drops a final `feed`, and one `return` just before it. -/
def chomp (feed carriageReturn : α) (line : List α) : List α :=
  if line.getLast? = some feed then
    if line.dropLast.getLast? = some carriageReturn then line.dropLast.dropLast else line.dropLast
  else line

/-- The lines of a text, without their terminators. -/
def lines (text : String) : List String :=
  (pieces '\n' text.toList).map fun line => String.ofList (chomp '\n' '\r' line)

/-- The concatenation of the pieces is the list that was cut. -/
@[simp] theorem flatten_pieces (separator : α) (l : List α) : (pieces separator l).flatten = l := by
  induction l with
  | nil => rfl
  | cons a rest ih =>
    simp only [pieces]
    split
    · simp [ih]
    · split
      · simp_all
      · rename_i piece others h
        simp [h] at ih
        simp [ih]

end CommandShell.Text
