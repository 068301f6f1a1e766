import CommandShell.Proofs.ExportListing
import CommandShell.Proofs.StateInvariants
import Mathlib.Computability.Language

/-!
# The names of an environment

A shell gives only identifiers as new names. So if no inherited name holds an equals sign, the
strings that are passed to a program can be cut back into names and values.
-/

namespace CommandShell

namespace Grammar

open Computability

def letter : Language Char :=
  {text | ∃ c, text = [c] ∧ ('A' ≤ c ∧ c ≤ 'Z' ∨ 'a' ≤ c ∧ c ≤ 'z' ∨ c = '_')}

def digit : Language Char :=
  {text | ∃ c, text = [c] ∧ '0' ≤ c ∧ c ≤ '9'}

/-- `[A-Za-z_][A-Za-z0-9_]*` -/
def identifier : Language Char :=
  letter * (letter + digit)∗

theorem mem_letter_of_isNameStart {c : Char} (h : isNameStart c = true) : [c] ∈ letter := by
  refine ⟨c, rfl, ?_⟩
  simp only [isNameStart, Bool.or_eq_true, decide_eq_true_eq] at h
  rcases h with hletter | hunderscore
  · have hcase : (c.isUpper || c.isLower) = true := hletter
    rcases (Bool.or_eq_true _ _).mp hcase with hupper | hlower
    · exact .inl (of_decide_eq_true hupper)
    · have hrange : (decide ('a' ≤ c) && decide (c ≤ 'z')) = true := hlower
      exact .inr (.inl (by simpa using hrange))
  · exact .inr (.inr hunderscore)

theorem mem_of_isNameChar {c : Char} (h : isNameChar c = true) : [c] ∈ letter + digit := by
  simp only [isNameChar, Char.isAlphanum, Bool.or_eq_true] at h
  rcases h with (hletter | hdigit) | hunderscore
  · exact .inl (mem_letter_of_isNameStart (by simp [isNameStart, hletter]))
  · have hrange : (decide ('0' ≤ c) && decide (c ≤ '9')) = true := hdigit
    exact .inr ⟨c, rfl, by simpa using hrange⟩
  · exact .inl (mem_letter_of_isNameStart (by simp [isNameStart, hunderscore]))

theorem mem_identifier_of_isIdentifier {name : String} (h : isIdentifier name = true) :
    name.toList ∈ identifier := by
  unfold isIdentifier at h
  split at h
  · cases h
  · rename_i c rest hchars
    simp only [Bool.and_eq_true, List.all_eq_true] at h
    obtain ⟨hstart, hrest⟩ := h
    have hparts : rest ∈ (letter + digit)∗ := by
      refine Language.mem_kstar.mpr ⟨rest.map fun d => [d], ?_, ?_⟩
      · rw [← List.flatMap_def, List.flatMap_singleton']
      · intro part hpart
        obtain ⟨d, hd, rfl⟩ := List.mem_map.mp hpart
        exact mem_of_isNameChar (hrest d hd)
    rw [hchars]
    exact Language.mem_mul.mpr ⟨[c], mem_letter_of_isNameStart hstart, rest, hparts, rfl⟩

end Grammar

namespace Environment

variable {initial environment : Environment}

theorem find?_eq_some_iff {name : String} {value : Option String} :
    environment.find? name = some value ↔ (name, value) ∈ environment.bindings := by
  rw [find?, List.lookup_eq_some_iff]
  constructor
  · rintro ⟨front, rest, hbindings, -⟩
    rw [hbindings]
    exact List.mem_append_cons_self
  · intro hmem
    obtain ⟨front, rest, hbindings⟩ := List.append_of_mem hmem
    refine ⟨front, rest, hbindings, ?_⟩
    intro other hother
    -- the order is strict, so no earlier entry has the name
    have hsorted := environment.sorted
    rw [hbindings] at hsorted
    have hbefore : nameBefore other.1 name :=
      (List.pairwise_append.mp hsorted).2.2 other hother (name, value) List.mem_cons_self
    have hne : name ≠ other.1 := by
      rintro rfl
      exact not_nameBefore_self _ hbefore
    simpa using hne

theorem contains_iff {name : String} :
    environment.contains name = true ↔ ∃ value, (name, value) ∈ environment.bindings := by
  rw [contains, Option.isSome_iff_exists]
  exact exists_congr fun _ => find?_eq_some_iff

theorem get?_eq_some_iff {name value : String} :
    environment.get? name = some value ↔ (name, some value) ∈ environment.bindings := by
  rw [get?, Option.join_eq_some_iff, find?_eq_some_iff]

theorem lookup_insertBinding (name other : String) (value : Option String)
    (bindings : List Binding) :
    (insertBinding name value bindings).lookup other =
      if other = name then some value else bindings.lookup other := by
  have hlookup (key : String) (found : Option String) (rest : List Binding) (hne : other ≠ key) :
      ((key, found) :: rest).lookup other = rest.lookup other := by
    rw [List.lookup_cons, beq_false_of_ne hne]
  induction bindings with
  | nil =>
    by_cases hother : other = name
    · simp [insertBinding, hother]
    · rw [insertBinding, hlookup _ _ _ hother, if_neg hother]
  | cons head rest ih =>
    obtain ⟨key, old⟩ := head
    rw [insertBinding]
    by_cases hother : other = name
    · subst hother
      split
      · rename_i hkey
        simp [hkey]
      · rename_i hkey
        -- the new binding comes before this one or behind it
        split
        · simp
        · rw [hlookup _ _ _ hkey, ih, if_pos rfl, if_pos rfl]
    · rw [if_neg hother] at ih ⊢
      split
      · rename_i hkey
        subst hkey
        rw [hlookup _ _ _ hother, hlookup _ _ _ hother]
      · split
        · rw [hlookup _ _ _ hother]
        · rw [List.lookup_cons, List.lookup_cons, ih]

theorem find?_bind (environment : Environment) (name other : String) (value : Option String) :
    (environment.bind name value).find? other =
      if other = name then some value else environment.find? other :=
  lookup_insertBinding name other value environment.bindings

theorem find?_set (environment : Environment) (name other value : String) :
    (environment.set name value).find? other =
      if other = name then some (some value) else environment.find? other :=
  environment.find?_bind name other (some value)

theorem get?_set (environment : Environment) (name other value : String) :
    (environment.set name value).get? other =
      if other = name then some value else environment.get? other := by
  rw [get?, find?_set]
  split <;> rfl

def assigned (environment : Environment) : List (String × String) :=
  environment.bindings.filterMap fun binding => binding.2.map fun value => (binding.1, value)

theorem mem_assigned {name value : String} :
    (name, value) ∈ environment.assigned ↔ environment.get? name = some value := by
  rw [get?_eq_some_iff, assigned, List.mem_filterMap]
  constructor
  · rintro ⟨⟨key, entry⟩, hmem, hentry⟩
    obtain ⟨found, rfl, hpair⟩ := Option.map_eq_some_iff.mp hentry
    obtain ⟨rfl, rfl⟩ := Prod.mk.inj hpair
    exact hmem
  · intro hmem
    exact ⟨(name, some value), hmem, rfl⟩

theorem sorted_assigned (environment : Environment) :
    environment.assigned.Pairwise fun a b => nameBefore a.1 b.1 := by
  refine List.Pairwise.filterMap _ ?_ environment.sorted
  intro a b hbefore first hfirst second hsecond
  obtain ⟨_, -, rfl⟩ := Option.map_eq_some_iff.mp hfirst
  obtain ⟨_, -, rfl⟩ := Option.map_eq_some_iff.mp hsecond
  exact hbefore

theorem toStrings_eq_map_assigned (environment : Environment) :
    environment.toStrings = environment.assigned.map fun entry => entry.1 ++ "=" ++ entry.2 := by
  rw [toStrings, assigned, List.map_filterMap]
  simp [Function.comp_def]

theorem splitFirst?_toStrings
    (h : ∀ name, environment.contains name = true → '=' ∉ name.toList) :
    environment.toStrings.map (Text.splitFirst? '=') = environment.assigned.map some := by
  rw [toStrings_eq_map_assigned, List.map_map]
  apply List.map_congr_left
  rintro ⟨name, value⟩ hentry
  have hname : environment.contains name = true :=
    contains_iff.mpr ⟨some value, get?_eq_some_iff.mp (mem_assigned.mp hentry)⟩
  exact Text.splitFirst?_append (h name hname) value

/-- Each name was there at first or is an identifier. -/
def Inherits (initial environment : Environment) : Prop :=
  ∀ name, environment.contains name = true →
    initial.contains name = true ∨ isIdentifier name = true

theorem Inherits.refl (environment : Environment) : environment.Inherits environment :=
  fun _ hname => .inl hname

theorem Inherits.bind (h : initial.Inherits environment) {name : String}
    (hname : isIdentifier name = true) (value : Option String) :
    initial.Inherits (environment.bind name value) := by
  intro other hother
  obtain ⟨found, hmem⟩ := contains_iff.mp hother
  rcases mem_insertBinding hmem with hnew | hold
  · obtain ⟨rfl, -⟩ := Prod.mk.inj hnew
    exact .inr hname
  · exact h other (contains_iff.mpr ⟨found, hold⟩)

theorem Inherits.declare (h : initial.Inherits environment) {name : String}
    (hname : isIdentifier name = true) : initial.Inherits (environment.declare name) := by
  rw [Environment.declare]
  split
  · exact h
  · exact h.bind hname none

theorem Inherits.unset (h : initial.Inherits environment) (name : String) :
    initial.Inherits (environment.unset name) := by
  intro other hother
  obtain ⟨found, hmem⟩ := contains_iff.mp hother
  exact h other (contains_iff.mpr ⟨found, List.mem_of_mem_filter hmem⟩)

theorem inherits_of_raiseShellLevel (h : initial.raiseShellLevel = .ok environment) :
    initial.Inherits environment := by
  unfold raiseShellLevel at h
  split at h
  · cases h
  · cases h
    exact (Inherits.refl initial).bind (by decide) _

theorem Inherits.notMem_name (h : initial.Inherits environment)
    (hinitial : ∀ name, initial.contains name = true → '=' ∉ name.toList) (name : String)
    (hname : environment.contains name = true) : '=' ∉ name.toList := by
  rcases h name hname with hold | hidentifier
  · exact hinitial name hold
  · exact Builtin.notMem_name hidentifier (by decide)

end Environment

namespace Builtin

variable {initial : Environment} {session : Session} (args : List String) (writer : Writer)

theorem inherits_recordDirectories {environment : Environment} (h : initial.Inherits environment)
    (previous : Option String) (world : World) (target : String) :
    initial.Inherits (recordDirectories environment previous world target) := by
  have hold : ∀ directory, initial.Inherits (environment.set "OLDPWD" directory) :=
    fun directory => h.bind (by decide) _
  unfold recordDirectories
  cases previous with
  | none =>
    dsimp only
    split
    · exact h.bind (by decide) _
    · exact h.bind (by decide) _
  | some previous =>
    dsimp only
    split
    · exact (hold previous).bind (by decide) _
    · exact (hold previous).bind (by decide) _

theorem inherits_exportOne {environment changed : Environment} {arg : String}
    (h : initial.Inherits environment) (hchange : exportOne environment arg = some changed) :
    initial.Inherits changed := by
  unfold exportOne at hchange
  split at hchange
  · obtain ⟨hname, hchanged⟩ := Option.ite_none_right_eq_some.mp hchange
    cases hchanged
    exact h.bind hname _
  · obtain ⟨hname, hchanged⟩ := Option.ite_none_right_eq_some.mp hchange
    cases hchanged
    exact h.declare hname

theorem inherits_unsetOne {environment changed : Environment} {arg : String}
    (h : initial.Inherits environment) (hchange : unsetOne environment arg = some changed) :
    initial.Inherits changed := by
  unfold unsetOne at hchange
  obtain ⟨-, hchanged⟩ := Option.ite_none_right_eq_some.mp hchange
  cases hchanged
  exact h.unset arg

theorem inherits_changeNames (command : String)
    {change : Environment → String → Option Environment}
    (hchange : ∀ environment changed arg, initial.Inherits environment →
      change environment arg = some changed → initial.Inherits changed)
    (h : initial.Inherits session.state.environment) :
    initial.Inherits (changeNames command change session args).1.state.environment := by
  induction args generalizing session with
  | nil => exact h
  | cons arg rest ih =>
    rw [changeNames]
    split
    · rename_i changed hchanged
      exact @ih (session.setEnvironment changed) (hchange _ changed arg h hchanged)
    · exact @ih (session.report _) h

theorem inherits_changeDirectoryTo (h : initial.Inherits session.state.environment) :
    initial.Inherits (changeDirectoryTo args session writer).session.state.environment := by
  unfold changeDirectoryTo
  split
  · exact h
  · split
    · exact h
    · dsimp only
      split
      · exact inherits_recordDirectories h _ _ _
      · exact inherits_recordDirectories h _ _ _

theorem inherits_exportArgs (h : initial.Inherits session.state.environment) :
    initial.Inherits (exportArgs args session writer).session.state.environment := by
  unfold exportArgs
  split
  · exact h
  · exact inherits_changeNames args "export" (fun _ _ _ => inherits_exportOne) h

theorem inherits_unsetArgs (h : initial.Inherits session.state.environment) :
    initial.Inherits (unsetArgs args session writer).session.state.environment :=
  inherits_changeNames args "unset" (fun _ _ _ => inherits_unsetOne) h

theorem environment_exitWith (session : Session) :
    (exitWith args session writer).session.state.environment = session.state.environment := by
  have htold := session.state_ite_emit session.state.interactive
    [.diagnostic (Bytes.ofText "exit\n")]
  unfold exitWith
  generalize (if session.state.interactive then _ else session) = told at htold
  rw [← htold]
  dsimp only
  split
  · rfl
  · split
    · rfl
    · split <;> rfl

theorem environment_echoArgs (session : Session) :
    (echoArgs args session writer).session.state.environment = session.state.environment := by
  unfold echoArgs
  dsimp only
  split
  · rfl
  · split <;> rfl

theorem inherits_perform (builtin : Builtin) (h : initial.Inherits session.state.environment) :
    initial.Inherits (builtin.perform args session writer).session.state.environment := by
  cases builtin with
  | echo =>
    rw [perform, environment_echoArgs]
    exact h
  | changeDirectory => exact inherits_changeDirectoryTo args writer h
  | printDirectory =>
    rw [perform, printDirectoryOf]
    split <;> exact h
  | exportNames => exact inherits_exportArgs args writer h
  | unsetNames => exact inherits_unsetArgs args writer h
  | printEnvironment =>
    rw [perform, listEnvironment]
    split <;> exact h
  | exit =>
    rw [perform, environment_exitWith]
    exact h
  | history => exact h

theorem inherits_run (builtin : Builtin) (h : initial.Inherits session.state.environment) :
    initial.Inherits (builtin.run args session writer).session.state.environment := by
  unfold run
  dsimp only
  split
  · exact @inherits_perform initial (session.log _ _) args writer builtin h
  · exact @inherits_perform initial (session.log _ _) args writer builtin h

end Builtin

theorem ShellState.invariant_inherits (initial : Environment) :
    ShellState.Invariant fun state => initial.Inherits state.environment where
  builtin builtin args _ h := Builtin.inherits_run args {} builtin h
  ended _ _ h := h
  interrupted _ h := h
  failed _ _ h := h
  recorded _ _ h := h

namespace Environment

/-- What a shell can make of the environment it starts with. -/
structure Descends (initial final : Environment) : Prop where
  names : ∀ name, final.contains name = true →
    initial.contains name = true ∨ name.toList ∈ Grammar.identifier
  /-- The strings for a program, cut at their first equals sign, are the names that have a value
  with these values, in the order of the names. -/
  decodes : (∀ name, initial.contains name = true → '=' ∉ name.toList) →
    ∃ entries : List (String × String),
      final.toStrings.map (Text.splitFirst? '=') = entries.map some ∧
      (∀ name value, (name, value) ∈ entries ↔ final.get? name = some value) ∧
      entries.Pairwise fun a b => nameBefore a.1 b.1

theorem Inherits.descends {initial final : Environment} (h : initial.Inherits final) :
    initial.Descends final where
  names name hname := (h name hname).imp_right Grammar.mem_identifier_of_isIdentifier
  decodes hinitial :=
    ⟨final.assigned, splitFirst?_toStrings (h.notMem_name hinitial), fun _ _ => mem_assigned,
      final.sorted_assigned⟩

end Environment

/-- Whatever lines a shell runs, its environment has only inherited names and identifiers, and what
it passes to programs has one reading. The nesting level may be counted before the first line. -/
theorem Shell.environment_descends (initial : Environment) (shell : Shell)
    (hstart : shell.session.state.environment = initial ∨
      initial.raiseShellLevel = .ok shell.session.state.environment) :
    (∀ count, initial.Descends (turns count shell).shell.session.state.environment) ∧
    initial.Descends shell.run.session.state.environment ∧
    (∀ (feed : Feed) (count : Nat),
      initial.Descends (feed.turns count shell).session.state.environment) ∧
    ∀ script : Startup.Script,
      initial.Descends (script.run shell.session).session.state.environment := by
  have hinherits : initial.Inherits shell.session.state.environment := by
    rcases hstart with rfl | hraised
    · exact .refl _
    · exact Environment.inherits_of_raiseShellLevel hraised
  have hinvariant := ShellState.invariant_inherits initial
  refine ⟨?_, ?_, ?_, ?_⟩
  · intro count
    exact (hinvariant.session.turns count shell hinherits).descends
  · exact (hinvariant.run shell hinherits).descends
  · intro feed count
    exact (hinvariant.session.feedTurns feed count shell hinherits).descends
  · intro script
    exact (hinvariant.scriptRun script shell.session hinherits).descends

theorem Shell.environment_descends_export :
    let initial : Environment := (default : Environment).set "a.b" "1" |>.set "V" "K=x=y"
    let session : Session :=
      { state := { environment := initial.set "SHLVL" "1" }
        world := { programs := fun _ invocation => { files := invocation.files } } }
    let shell : Shell :=
      { session
        source := { arrivals := [.line "export $V 2=3 =4 D", .line "cd /", .line "unset V D"] }
        theme := .plain }
    let final := shell.run.session.state.environment
    initial.raiseShellLevel = .ok shell.session.state.environment ∧
      (∀ name, initial.contains name = true → '=' ∉ name.toList) ∧
      final.toStrings = ["K=x=y", "OLDPWD=/", "PWD=/", "SHLVL=1", "a.b=1"] ∧
      initial.Descends final := by
  intro initial session shell final
  have hraised : initial.raiseShellLevel = .ok shell.session.state.environment := by rfl
  have hseparators : ∀ name, initial.contains name = true → '=' ∉ name.toList := by
    intro name hname
    obtain ⟨value, hmem⟩ := Environment.contains_iff.mp hname
    have hbindings : initial.bindings = [("V", some "K=x=y"), ("a.b", some "1")] := by
      decide +kernel
    rw [hbindings] at hmem
    rcases List.mem_pair.mp hmem with heq | heq
    · obtain ⟨rfl, -⟩ := Prod.mk.inj heq
      decide
    · obtain ⟨rfl, -⟩ := Prod.mk.inj heq
      decide
  exact ⟨hraised, hseparators, by decide +kernel,
    (environment_descends initial shell (.inr hraised)).2.1⟩

end CommandShell
