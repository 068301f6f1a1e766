import CommandShell.Proofs.EnvironmentNames
import CommandShell.Variables
import Mathlib.Data.Nat.Digits.Defs

/-!
# The nesting level of a new shell

A new shell takes over the variables that are text and counts itself one level below the shell
that started it. Whatever it finds as that level, it starts; only the largest number of 64 bits has
no successor, and a shell that inherits it does not start.
-/

namespace CommandShell

namespace Text

def decimal (digits : List Char) : Nat :=
  Nat.ofDigits 10 (digits.reverse.map fun c => c.toNat - '0'.toNat)

/-- Decimal digits, with or without a sign before them, and the number they stand for. -/
inductive Numeral : List Char → Int → Prop where
  | plain {digits : List Char} (hne : digits ≠ []) (hdigits : ∀ c ∈ digits, c.isDigit = true) :
      Numeral digits (decimal digits)
  | plus {digits : List Char} (hne : digits ≠ []) (hdigits : ∀ c ∈ digits, c.isDigit = true) :
      Numeral ('+' :: digits) (decimal digits)
  | minus {digits : List Char} (hne : digits ≠ []) (hdigits : ∀ c ∈ digits, c.isDigit = true) :
      Numeral ('-' :: digits) (-decimal digits)

theorem decimal_cons (c : Char) (rest : List Char) :
    decimal (c :: rest) = (c.toNat - '0'.toNat) * 10 ^ rest.length + decimal rest := by
  simp only [decimal, List.reverse_cons, List.map_append, Nat.ofDigits_append, List.map_cons,
    List.map_nil, Nat.ofDigits_singleton, List.length_map, List.length_reverse]
  ring

theorem digitsValue_eq_some_iff {start n : Nat} {text : List Char} :
    digitsValue start text = some n ↔
      (∀ c ∈ text, c.isDigit = true) ∧ n = start * 10 ^ text.length + decimal text := by
  induction text generalizing start with
  | nil => simpa [digitsValue, decimal] using @eq_comm _ start n
  | cons c rest ih =>
    rw [digitsValue, decimal_cons, List.forall_mem_cons]
    split
    · rename_i hdigit
      have hvalue : (10 * start + (c.toNat - '0'.toNat)) * 10 ^ rest.length + decimal rest =
          start * 10 ^ (c :: rest).length +
            ((c.toNat - '0'.toNat) * 10 ^ rest.length + decimal rest) := by
        rw [List.length_cons]
        ring
      rw [ih, hvalue]
      simp [hdigit]
    · rename_i hdigit
      simp [hdigit]

theorem unsigned?_eq_some_iff {n : Nat} {text : List Char} :
    unsigned? text = some n ↔
      text ≠ [] ∧ (∀ c ∈ text, c.isDigit = true) ∧ n = decimal text := by
  cases text with
  | nil => simp [unsigned?]
  | cons c rest =>
    rw [unsigned?, digitsValue_eq_some_iff]
    · simp
    · exact nofun

theorem numeral_of_signed? {text : List Char} {n : Int} (h : signed? text = some n) :
    Numeral text n := by
  unfold signed? at h
  split at h
  · obtain ⟨value, hvalue, rfl⟩ := Option.map_eq_some_iff.mp h
    obtain ⟨hne, hdigits, rfl⟩ := unsigned?_eq_some_iff.mp hvalue
    exact .plus hne hdigits
  · obtain ⟨value, hvalue, rfl⟩ := Option.map_eq_some_iff.mp h
    obtain ⟨hne, hdigits, rfl⟩ := unsigned?_eq_some_iff.mp hvalue
    exact .minus hne hdigits
  · obtain ⟨value, hvalue, rfl⟩ := Option.map_eq_some_iff.mp h
    obtain ⟨hne, hdigits, rfl⟩ := unsigned?_eq_some_iff.mp hvalue
    exact .plain hne hdigits

theorem signed?_of_numeral {text : List Char} {n : Int} (h : Numeral text n) :
    signed? text = some n := by
  have hunsigned {digits : List Char} (hne : digits ≠ [])
      (hdigits : ∀ c ∈ digits, c.isDigit = true) :
      unsigned? digits = some (decimal digits) :=
    unsigned?_eq_some_iff.mpr ⟨hne, hdigits, rfl⟩
  cases h with
  | plus hne hdigits => rw [signed?, hunsigned hne hdigits]; rfl
  | minus hne hdigits => rw [signed?, hunsigned hne hdigits]; rfl
  | plain hne hdigits =>
    -- no sign is a digit, so the text is read as digits
    unfold signed?
    split
    · exact absurd (hdigits '+' List.mem_cons_self) (by decide)
    · exact absurd (hdigits '-' List.mem_cons_self) (by decide)
    · rw [hunsigned hne hdigits]
      rfl

theorem isWhiteSpace_of_isDigit {c : Char} (h : c.isDigit = true) : isWhiteSpace c = false := by
  have hbounds : 48 ≤ c.toNat ∧ c.toNat ≤ 57 := Char.isDigit_iff_toNat.mp h
  simp only [isWhiteSpace, inRanges, whiteSpaceRanges, List.any_cons, List.any_nil]
  simp
  omega

theorem Numeral.ne_nil {text : List Char} {n : Int} (h : Numeral text n) : text ≠ [] := by
  cases h with
  | plain hne => exact hne
  | plus | minus => exact List.cons_ne_nil _ _

theorem Numeral.isWhiteSpace {text : List Char} {n : Int} (h : Numeral text n) :
    ∀ c ∈ text, isWhiteSpace c = false := by
  have hall {digits : List Char} (hdigits : ∀ c ∈ digits, c.isDigit = true) :
      ∀ c ∈ digits, Text.isWhiteSpace c = false :=
    fun c hc => isWhiteSpace_of_isDigit (hdigits c hc)
  cases h with
  | plain _ hdigits => exact hall hdigits
  | plus _ hdigits => exact List.forall_mem_cons.mpr ⟨by decide, hall hdigits⟩
  | minus _ hdigits => exact List.forall_mem_cons.mpr ⟨by decide, hall hdigits⟩

theorem trimEnd_trimStart {before core after : List Char} (hne : core ≠ [])
    (hcore : ∀ c ∈ core, isWhiteSpace c = false) (hbefore : ∀ c ∈ before, isWhiteSpace c = true)
    (hafter : ∀ c ∈ after, isWhiteSpace c = true) :
    trimEnd (trimStart (before ++ core ++ after)) = core := by
  have hstop {text : List Char} (rest : List Char) (hne : text ≠ [])
      (htext : ∀ c ∈ text, isWhiteSpace c = false) :
      (text ++ rest).dropWhile isWhiteSpace = text ++ rest := by
    obtain ⟨c, more, rfl⟩ := List.exists_cons_of_ne_nil hne
    rw [List.cons_append, List.dropWhile_cons_of_neg (by simp [htext c List.mem_cons_self])]
  have hstart : trimStart (before ++ core ++ after) = core ++ after := by
    rw [trimStart, List.append_assoc, List.dropWhile_append_of_pos hbefore, hstop after hne hcore]
  have hreverse : ∀ c ∈ core.reverse, isWhiteSpace c = false :=
    fun c hc => hcore c (List.mem_reverse.mp hc)
  rw [hstart, trimEnd, List.reverse_append,
    List.dropWhile_append_of_pos fun c hc => hafter c (List.mem_reverse.mp hc)]
  have hback := hstop [] (List.reverse_ne_nil_iff.mpr hne) hreverse
  rw [List.append_nil] at hback
  rw [hback, List.reverse_reverse]

theorem exists_trim (text : List Char) :
    ∃ before after, text = before ++ trimEnd (trimStart text) ++ after ∧
      (∀ c ∈ before, isWhiteSpace c = true) ∧ ∀ c ∈ after, isWhiteSpace c = true := by
  refine ⟨text.takeWhile isWhiteSpace,
    ((trimStart text).reverse.takeWhile isWhiteSpace).reverse, ?_, ?_, ?_⟩
  · rw [List.append_assoc, trimEnd, ← List.reverse_append, List.takeWhile_append_dropWhile,
      List.reverse_reverse, trimStart, List.takeWhile_append_dropWhile]
  · intro c hc
    exact List.mem_takeWhile_imp hc
  · intro c hc
    exact List.mem_takeWhile_imp (List.mem_reverse.mp hc)

/-- The text is a numeral with white space around it, for a number of 64 bits. -/
def ReadsAs (text : String) (n : Int) : Prop :=
  ∃ before numeral after, text.toList = before ++ numeral ++ after ∧
    (∀ c ∈ before, isWhiteSpace c = true) ∧ (∀ c ∈ after, isWhiteSpace c = true) ∧
    Numeral numeral n ∧ minInt64 ≤ n ∧ n ≤ maxInt64

theorem int64?_trim_eq_some_iff {text : String} {n : Int} :
    int64? (trim text) = some n ↔ ReadsAs text n := by
  rw [int64?, Option.filter_eq_some_iff, trim, String.toList_ofList, Bool.and_eq_true,
    decide_eq_true_eq, decide_eq_true_eq]
  constructor
  · rintro ⟨hsigned, hmin, hmax⟩
    obtain ⟨before, after, htext, hbefore, hafter⟩ := exists_trim text.toList
    exact ⟨before, _, after, htext, hbefore, hafter, numeral_of_signed? hsigned, hmin, hmax⟩
  · rintro ⟨before, numeral, after, htext, hbefore, hafter, hnumeral, hmin, hmax⟩
    rw [htext, trimEnd_trimStart hnumeral.ne_nil hnumeral.isWhiteSpace hbefore hafter]
    exact ⟨signed?_of_numeral hnumeral, hmin, hmax⟩

end Text

namespace Bytes

theorem toText?_eq_some_iff {bytes : Bytes} {text : String} :
    toText? bytes = some text ↔ bytes = ofText text := by
  constructor
  · intro h
    unfold toText? String.fromUTF8? at h
    split at h
    · obtain rfl := Option.some.inj h
      rfl
    · cases h
  · rintro rfl
    exact toText?_ofText text

theorem ofText_inj {first second : String} : ofText first = ofText second ↔ first = second :=
  ⟨ofText_injective, congrArg ofText⟩

end Bytes

namespace Variables

variable {vars : Variables} {name value : String}

theorem assignment?_eq_some_iff {entry : Bytes × Bytes} :
    assignment? entry = some (name, value) ↔ entry = (Bytes.ofText name, Bytes.ofText value) := by
  have hentry : entry = (Bytes.ofText name, Bytes.ofText value) ↔
      Bytes.toText? entry.1 = some name ∧ Bytes.toText? entry.2 = some value := by
    rw [Bytes.toText?_eq_some_iff, Bytes.toText?_eq_some_iff, Prod.ext_iff]
  rw [hentry, assignment?]
  split
  · rename_i hname hvalue
    rw [hname, hvalue]
    simp
  · rename_i hnone
    refine ⟨nofun, fun h => ?_⟩
    exact absurd h.2 (hnone name value h.1)

/-- The last entry for the name that is text has this value. -/
def Gives (vars : Variables) (name value : String) : Prop :=
  ∃ front back, vars = front ++ (Bytes.ofText name, Bytes.ofText value) :: back ∧
    ∀ other, (Bytes.ofText name, Bytes.ofText other) ∉ back

theorem not_gives_nil : ¬ Gives [] name value := by
  rintro ⟨front, back, hvars, -⟩
  exact absurd hvars (by simp)

theorem gives_concat_iff {entry : Bytes × Bytes} :
    Gives (vars ++ [entry]) name value ↔
      entry = (Bytes.ofText name, Bytes.ofText value) ∨
        (∀ other, entry ≠ (Bytes.ofText name, Bytes.ofText other)) ∧ Gives vars name value := by
  constructor
  · rintro ⟨front, back, hvars, hback⟩
    rcases List.eq_nil_or_concat back with rfl | ⟨middle, last, rfl⟩
    · obtain ⟨-, hentry⟩ := List.append_inj' hvars rfl
      exact .inl (List.cons.inj hentry).1
    · rw [List.concat_eq_append] at hvars hback
      rw [← List.cons_append, ← List.append_assoc] at hvars
      obtain ⟨hfront, hlast⟩ := List.append_inj' hvars rfl
      obtain ⟨rfl, -⟩ := List.cons.inj hlast
      refine .inr ⟨fun other hother => hback other (by simp [hother]), front, middle, hfront, ?_⟩
      exact fun other hother => hback other (List.mem_append_left _ hother)
  · rintro (rfl | ⟨hentry, front, back, rfl, hback⟩)
    · exact ⟨vars, [], rfl, by simp⟩
    · refine ⟨front, back ++ [entry], by simp, fun other hother => ?_⟩
      rcases List.mem_append.mp hother with hold | hnew
      · exact hback other hold
      · exact hentry other (List.mem_singleton.mp hnew).symm

theorem toEnvironment_concat (vars : Variables) (entry : Bytes × Bytes) :
    (vars ++ [entry]).toEnvironment =
      match assignment? entry with
      | some (name, value) => vars.toEnvironment.set name value
      | none => vars.toEnvironment := by
  unfold toEnvironment
  rw [List.filterMap_append, List.foldl_append]
  cases hentry : assignment? entry with
  | none => simp [hentry]
  | some assignment => simp [hentry]

/-- The environment has the entries that are text, each with its last value, and nothing else. -/
theorem find?_toEnvironment {binding : Option String} :
    vars.toEnvironment.find? name = some binding ↔
      ∃ value, binding = some value ∧ vars.Gives name value := by
  induction vars using List.reverseRecOn with
  | nil =>
    refine ⟨nofun, ?_⟩
    rintro ⟨value, -, hgives⟩
    exact absurd hgives not_gives_nil
  | append_singleton vars entry ih =>
    rw [toEnvironment_concat]
    cases hentry : assignment? entry with
    | none =>
      have hother (other : String) : entry ≠ (Bytes.ofText name, Bytes.ofText other) := by
        intro h
        rw [assignment?_eq_some_iff.mpr h] at hentry
        cases hentry
      simpa [gives_concat_iff, hother] using ih
    | some assignment =>
      obtain ⟨key, given⟩ := assignment
      obtain rfl := assignment?_eq_some_iff.mp hentry
      have hname (other : String) :
          (Bytes.ofText key, Bytes.ofText given) = (Bytes.ofText name, Bytes.ofText other) ↔
            key = name ∧ given = other := by
        rw [Prod.mk.injEq, Bytes.ofText_inj, Bytes.ofText_inj]
      simp only [Environment.find?_set, gives_concat_iff, hname, ne_eq]
      by_cases hkey : name = key
      · subst hkey
        simp [eq_comm]
      · simp only [if_neg hkey, ih, Ne.symm hkey, false_and, not_false_eq_true, implies_true,
          true_and, false_or]

/-- The level that a shell inherits: the number that the variable for it reads as, if that is not
negative, and otherwise zero. -/
def InheritsLevel (vars : Variables) (level : Int) : Prop :=
  (∃ value, vars.Gives "SHLVL" value ∧ Text.ReadsAs value level ∧ 0 ≤ level) ∨
    level = 0 ∧ ∀ value, vars.Gives "SHLVL" value → ∀ n, Text.ReadsAs value n → n < 0

theorem get?_toEnvironment :
    vars.toEnvironment.get? name = some value ↔ vars.Gives name value := by
  rw [Environment.get?, Option.join_eq_some_iff, find?_toEnvironment]
  simp

theorem inheritsLevel_iff {level : Int} :
    vars.InheritsLevel level ↔ vars.toEnvironment.shellLevel = level := by
  let parsed := (vars.toEnvironment.get? "SHLVL").bind fun value => Text.int64? (Text.trim value)
  let read := parsed.filter fun level => 0 ≤ level
  have hread (n : Int) : read = some n ↔
      ∃ value, vars.Gives "SHLVL" value ∧ Text.ReadsAs value n ∧ 0 ≤ n := by
    simp only [read, parsed, Option.filter_eq_some_iff, Option.bind_eq_some_iff, get?_toEnvironment,
      Text.int64?_trim_eq_some_iff, decide_eq_true_eq]
    constructor
    · rintro ⟨⟨value, hvalue, hreads⟩, hnonneg⟩
      exact ⟨value, hvalue, hreads, hnonneg⟩
    · rintro ⟨value, hvalue, hreads, hnonneg⟩
      exact ⟨⟨value, hvalue, hreads⟩, hnonneg⟩
  change _ ↔ read.getD 0 = level
  rw [InheritsLevel, ← hread]
  cases hcase : read with
  | some n =>
    obtain ⟨value, hvalue, hreads, hnonneg⟩ := (hread n).mp hcase
    constructor
    · rintro (hsome | ⟨-, hnone⟩)
      · exact Option.some.inj hsome
      · exact absurd (hnone value hvalue n hreads) (by omega)
    · rintro rfl
      exact .inl rfl
  | none =>
    constructor
    · rintro (hsome | ⟨rfl, -⟩)
      · cases hsome
      · rfl
    · rintro rfl
      refine .inr ⟨rfl, fun value hvalue n hreads => ?_⟩
      by_contra hnonneg
      have hsome := (hread n).mpr ⟨value, hvalue, hreads, by omega⟩
      rw [hcase] at hsome
      cases hsome

theorem existsUnique_inheritsLevel (vars : Variables) : ∃! level, vars.InheritsLevel level := by
  refine ⟨vars.toEnvironment.shellLevel, inheritsLevel_iff.mpr rfl, fun level hlevel => ?_⟩
  exact (inheritsLevel_iff.mp hlevel).symm

theorem inherit_of_largest (h : vars.InheritsLevel Text.maxInt64) : vars.inherit = .error .mk := by
  rw [inherit, Environment.raiseShellLevel, if_pos (inheritsLevel_iff.mp h)]

theorem inherit_of_ne_largest {level : Int} (h : vars.InheritsLevel level)
    (hlevel : level ≠ Text.maxInt64) :
    vars.inherit = .ok (vars.toEnvironment.set "SHLVL" (toString (level + 1))) := by
  obtain rfl := inheritsLevel_iff.mp h
  rw [inherit, Environment.raiseShellLevel, if_neg hlevel]

/-- A shell starts with the variables that are text and one level further, exactly if the level it
inherits is not the largest one. -/
theorem inherit_counts_level_iff (vars : Variables) :
    (∃! level, vars.InheritsLevel level) ∧
    ∀ level, vars.InheritsLevel level →
      ((∃ environment, vars.inherit = .ok environment ∧
          environment.find? "SHLVL" = some (some (toString (level + 1))) ∧
          ∀ name, name ≠ "SHLVL" → ∀ binding, environment.find? name = some binding ↔
            ∃ value, binding = some value ∧ vars.Gives name value) ↔
        level ≠ Text.maxInt64) := by
  refine ⟨existsUnique_inheritsLevel vars, fun level hlevel => ⟨?_, fun hne => ?_⟩⟩
  · rintro ⟨environment, hinherit, -⟩ rfl
    rw [inherit_of_largest hlevel] at hinherit
    cases hinherit
  · refine ⟨_, inherit_of_ne_largest hlevel hne, ?_, fun name hname binding => ?_⟩
    · rw [Environment.find?_set, if_pos rfl]
    · rw [Environment.find?_set, if_neg hname]
      exact find?_toEnvironment

theorem inherit_counts_level_iff_signed :
    let vars : Variables :=
      [(Bytes.ofText "A", [255]), ([254], Bytes.ofText "a"), (Bytes.ofText "B", Bytes.ofText "1"),
        (Bytes.ofText "SHLVL", Bytes.ofText " +41\t"), (Bytes.ofText "B", [255])]
    vars.InheritsLevel 41 ∧ ∃ environment, vars.inherit = .ok environment ∧
      environment.find? "SHLVL" = some (some "42") ∧
      environment.find? "B" = some (some "1") ∧ environment.find? "A" = none := by
  intro vars
  have hbyte (text : String) : Bytes.ofText text ≠ [255] := by
    intro h
    have hnone : Bytes.toText? [255] = none := by decide +kernel
    rw [Bytes.toText?_eq_some_iff.mpr h.symm] at hnone
    cases hnone
  have hname : Bytes.ofText "A" ≠ [254] := by decide
  have hnumeral : Text.Numeral ['+', '4', '1'] 41 :=
    @Text.Numeral.plus ['4', '1'] (by simp) (by simp)
  have hlevel : vars.InheritsLevel 41 := by
    refine .inl ⟨" +41\t", ⟨vars.take 3, vars.drop 4, rfl, ?_⟩, ?_, by decide⟩
    · intro other
      simp [vars, hbyte]
    · have hspace : Text.isWhiteSpace ' ' = true := by decide +kernel
      have htab : Text.isWhiteSpace '\t' = true := by decide +kernel
      exact ⟨[' '], _, ['\t'], rfl, by simpa using hspace, by simpa using htab, hnumeral,
        by decide, by decide⟩
  obtain ⟨environment, hinherit, hcounted, hkept⟩ :=
    ((inherit_counts_level_iff vars).2 41 hlevel).mpr (by decide)
  refine ⟨hlevel, environment, hinherit, hcounted, ?_, ?_⟩
  · refine (hkept "B" (by decide) _).mpr ⟨"1", rfl, vars.take 2, vars.drop 3, rfl, ?_⟩
    intro other
    simp [vars, hbyte, Bytes.ofText_inj]
  · refine Option.eq_none_iff_forall_ne_some.mpr fun binding hbinding => ?_
    obtain ⟨value, -, front, back, hvars, -⟩ := (hkept "A" (by decide) binding).mp hbinding
    have hmem : (Bytes.ofText "A", Bytes.ofText value) ∈ vars := by
      rw [hvars]
      exact List.mem_append_cons_self
    simp [vars, hbyte, hname, Bytes.ofText_inj] at hmem

theorem inherit_refuses_largest_level :
    let vars : Variables := [(Bytes.ofText "SHLVL", Bytes.ofText "9223372036854775807")]
    vars.Gives "SHLVL" "9223372036854775807" ∧
      Text.ReadsAs "9223372036854775807" 9223372036854775807 ∧
      ¬ ∃ environment, vars.inherit = .ok environment := by
  intro vars
  have hgives : vars.Gives "SHLVL" "9223372036854775807" := ⟨[], [], rfl, by simp⟩
  have hnumeral : Text.Numeral "9223372036854775807".toList 9223372036854775807 :=
    @Text.Numeral.plain "9223372036854775807".toList (by simp) (by simp)
  have hreads : Text.ReadsAs "9223372036854775807" 9223372036854775807 :=
    ⟨[], _, [], by simp, by simp, by simp, hnumeral, by decide, by decide⟩
  refine ⟨hgives, hreads, ?_⟩
  rintro ⟨environment, henvironment⟩
  rw [inherit_of_largest (.inl ⟨_, hgives, hreads, by decide⟩)] at henvironment
  cases henvironment

end Variables

end CommandShell
