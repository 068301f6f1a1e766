import CommandShell.Bytes
import CommandShell.Text.Blank
import CommandShell.Text.Numeral

/-!
# Environments

A finite map from names to values in which a name may also be declared without a value. Entries
are kept in the bytewise order of their names.
-/

namespace CommandShell

/-- The bytewise order of names. -/
def nameBefore (a b : String) : Prop :=
  Bytes.ofText a < Bytes.ofText b

instance (a b : String) : Decidable (nameBefore a b) :=
  inferInstanceAs (Decidable (Bytes.ofText a < Bytes.ofText b))

theorem nameBefore_trans {a b c : String} (hab : nameBefore a b) (hbc : nameBefore b c) :
    nameBefore a c :=
  List.lt_trans hab hbc

theorem ofText_injective {a b : String} (h : Bytes.ofText a = Bytes.ofText b) : a = b := by
  apply String.toByteArray_inj.mp
  have hdata : a.toByteArray.data = b.toByteArray.data := Array.toList_inj.mp h
  cases ha : a.toByteArray
  cases hb : b.toByteArray
  simp_all

theorem nameBefore_of_ne {a b : String} (hne : a ≠ b) (h : ¬ nameBefore a b) : nameBefore b a := by
  rcases List.le_iff_lt_or_eq.mp (List.not_lt.mp h) with hlt | heq
  · exact hlt
  · exact absurd (ofText_injective heq).symm hne

/-- A name with its value, if it has one. -/
abbrev Binding := String × Option String

/-- Puts a binding in its place, in the stead of one of the same name. -/
def insertBinding (name : String) (value : Option String) : List Binding → List Binding
  | [] => [(name, value)]
  | (key, old) :: rest =>
    if name = key then (key, value) :: rest
    else if nameBefore name key then (name, value) :: (key, old) :: rest
    else (key, old) :: insertBinding name value rest

theorem mem_insertBinding {name : String} {value : Option String} {bindings : List Binding}
    {binding : Binding} (h : binding ∈ insertBinding name value bindings) :
    binding = (name, value) ∨ binding ∈ bindings := by
  induction bindings with
  | nil => simpa [insertBinding] using h
  | cons head rest ih =>
    obtain ⟨key, old⟩ := head
    simp only [insertBinding] at h
    split at h
    · rename_i heq
      rcases List.mem_cons.mp h with h | h
      · exact .inl (by rw [h, heq])
      · exact .inr (List.mem_cons_of_mem _ h)
    · split at h
      · rcases List.mem_cons.mp h with h | h
        · exact .inl h
        · exact .inr h
      · rcases List.mem_cons.mp h with h | h
        · exact .inr (h ▸ List.mem_cons_self)
        · rcases ih h with h | h
          · exact .inl h
          · exact .inr (List.mem_cons_of_mem _ h)

theorem sorted_insertBinding (name : String) (value : Option String) {bindings : List Binding}
    (h : bindings.Pairwise fun a b => nameBefore a.1 b.1) :
    (insertBinding name value bindings).Pairwise fun a b => nameBefore a.1 b.1 := by
  induction bindings with
  | nil => simp [insertBinding]
  | cons head rest ih =>
    obtain ⟨key, old⟩ := head
    obtain ⟨hhead, hrest⟩ := List.pairwise_cons.mp h
    simp only [insertBinding]
    split
    · exact List.pairwise_cons.mpr ⟨hhead, hrest⟩
    · rename_i hne
      split
      · rename_i hbefore
        refine List.pairwise_cons.mpr ⟨fun b hb => ?_, h⟩
        rcases List.mem_cons.mp hb with hb | hb
        · exact hb ▸ hbefore
        · exact nameBefore_trans hbefore (hhead b hb)
      · rename_i hbefore
        refine List.pairwise_cons.mpr ⟨fun b hb => ?_, ih hrest⟩
        rcases mem_insertBinding hb with hb | hb
        · exact hb ▸ nameBefore_of_ne hne hbefore
        · exact hhead b hb

structure Environment where
  bindings : List Binding := []
  sorted : bindings.Pairwise fun a b => nameBefore a.1 b.1 := by simp

instance : Inhabited Environment := ⟨{}⟩

namespace Environment

/-- The binding of a name: `none` if it is absent, `some none` if it has no value. -/
def find? (environment : Environment) (name : String) : Option (Option String) :=
  environment.bindings.lookup name

/-- The value of a name. -/
def get? (environment : Environment) (name : String) : Option String :=
  (environment.find? name).join

def contains (environment : Environment) (name : String) : Bool :=
  (environment.find? name).isSome

def bind (environment : Environment) (name : String) (value : Option String) : Environment :=
  ⟨insertBinding name value environment.bindings,
    sorted_insertBinding name value environment.sorted⟩

def set (environment : Environment) (name value : String) : Environment :=
  environment.bind name (some value)

/-- Adds a name without a value; a name that is present keeps its binding. -/
def declare (environment : Environment) (name : String) : Environment :=
  if environment.contains name then environment else environment.bind name none

def unset (environment : Environment) (name : String) : Environment :=
  ⟨environment.bindings.filter fun binding => binding.1 ≠ name, environment.sorted.filter _⟩

/-- The strings `NAME=VALUE` passed to a program. -/
def toStrings (environment : Environment) : List String :=
  environment.bindings.filterMap fun binding => binding.2.map fun value => binding.1 ++ "=" ++ value

/-- The nesting level a shell inherits; anything but a non-negative numeral counts as zero. -/
def shellLevel (environment : Environment) : Int :=
  (((environment.get? "SHLVL").bind fun value => Text.int64? (Text.trim value)).filter
    fun level => 0 ≤ level).getD 0

/-- The nesting level has no successor of 64 bits. -/
inductive LevelOverflow where
  | mk
  deriving DecidableEq, Repr

def LevelOverflow.message (_ : LevelOverflow) : String :=
  "attempt to add with overflow"

/-- Raises the nesting level by one. -/
def raiseShellLevel (environment : Environment) : Except LevelOverflow Environment :=
  if environment.shellLevel = Text.maxInt64 then .error .mk
  else .ok (environment.set "SHLVL" (toString (environment.shellLevel + 1)))

end Environment

def isNameStart (c : Char) : Bool :=
  c.isAlpha || c = '_'

def isNameChar (c : Char) : Bool :=
  c.isAlphanum || c = '_'

/-- A letter or underscore, then letters, digits and underscores, all of them ASCII. -/
def isIdentifier (name : String) : Bool :=
  match name.toList with
  | [] => false
  | c :: rest => isNameStart c && rest.all isNameChar

end CommandShell
