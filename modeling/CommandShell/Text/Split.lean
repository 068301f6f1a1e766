/-!
# Cutting at a character
-/

namespace CommandShell.Text

/-- The parts between separators; there is one more of them than there are separators. -/
def splitChars (separator : Char) : List Char → List (List Char)
  | [] => [[]]
  | c :: rest =>
    if c = separator then [] :: splitChars separator rest
    else
      match splitChars separator rest with
      | [] => [[c]]
      | part :: others => (c :: part) :: others

def split (separator : Char) (text : String) : List String :=
  (splitChars separator text.toList).map String.ofList

/-- The parts before and after the first separator, if there is one. -/
def splitFirstChars (separator : Char) : List Char → Option (List Char × List Char)
  | [] => none
  | c :: rest =>
    if c = separator then some ([], rest)
    else (splitFirstChars separator rest).map fun parts => (c :: parts.1, parts.2)

def splitFirst? (separator : Char) (text : String) : Option (String × String) :=
  (splitFirstChars separator text.toList).map fun parts =>
    (String.ofList parts.1, String.ofList parts.2)

theorem splitChars_ne_nil (separator : Char) (cs : List Char) : splitChars separator cs ≠ [] := by
  cases cs with
  | nil => simp [splitChars]
  | cons c rest =>
    simp only [splitChars]
    split
    · simp
    · split <;> simp

/-- Cutting a text at a separator of it cuts its two sides. -/
theorem splitChars_append (separator : Char) (cs ds : List Char) :
    splitChars separator (cs ++ separator :: ds) =
      splitChars separator cs ++ splitChars separator ds := by
  induction cs with
  | nil => simp [splitChars]
  | cons c rest ih =>
    simp only [List.cons_append, splitChars, ih]
    split
    · simp
    · cases h : splitChars separator rest with
      | nil => exact absurd h (splitChars_ne_nil separator rest)
      | cons part others => simp

theorem splitChars_of_notMem {separator : Char} {cs : List Char} (h : separator ∉ cs) :
    splitChars separator cs = [cs] := by
  induction cs with
  | nil => rfl
  | cons c rest ih =>
    have hne : c ≠ separator := fun heq => h (heq ▸ List.mem_cons_self)
    rw [splitChars, if_neg hne, ih fun hmem => h (List.mem_cons_of_mem c hmem)]

/-- A part is made of characters of the text other than the separator. -/
theorem mem_of_mem_splitChars {separator : Char} {cs part : List Char} {c : Char}
    (hpart : part ∈ splitChars separator cs) (hc : c ∈ part) : c ∈ cs ∧ c ≠ separator := by
  induction cs generalizing part with
  | nil =>
    have hnil : part = [] := by simpa [splitChars] using hpart
    simp [hnil] at hc
  | cons d rest ih =>
    rw [splitChars] at hpart
    split at hpart
    · rcases List.mem_cons.mp hpart with rfl | hrest
      · simp at hc
      · exact (ih hrest hc).imp_left (List.mem_cons_of_mem d)
    · rename_i hne
      cases hparts : splitChars separator rest with
      | nil => exact absurd hparts (splitChars_ne_nil separator rest)
      | cons first others =>
        rw [hparts] at hpart ih
        rcases List.mem_cons.mp hpart with rfl | hother
        · rcases List.mem_cons.mp hc with rfl | hfirst
          · exact ⟨List.mem_cons_self, hne⟩
          · exact (ih List.mem_cons_self hfirst).imp_left (List.mem_cons_of_mem d)
        · exact (ih (List.mem_cons_of_mem first hother) hc).imp_left (List.mem_cons_of_mem d)

/-- The parts with separators between them are the text that was cut. -/
theorem intercalate_splitChars (separator : Char) (cs : List Char) :
    [separator].intercalate (splitChars separator cs) = cs := by
  induction cs with
  | nil => rfl
  | cons c rest ih =>
    rw [splitChars]
    cases hparts : splitChars separator rest with
    | nil => exact absurd hparts (splitChars_ne_nil separator rest)
    | cons first others =>
      rw [hparts] at ih
      split
      · rename_i heq
        rw [List.intercalate_cons_cons, ih, heq]
        rfl
      · cases others with
        | nil => simpa using ih
        | cons second more =>
          rw [List.intercalate_cons_cons] at ih ⊢
          rw [← ih]
          rfl

end CommandShell.Text
