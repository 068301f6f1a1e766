import CommandShell.Proofs.EnvironmentNames

/-!
# Words as templates

A word alone says which of its text stays and where a parameter stands. Expansion puts values into
these places, and quote removal puts back what was written there; no value is ever read.
-/

namespace CommandShell

/-- A part of a word: text that stays, or the place of a parameter. -/
inductive Segment where
  | literal (text : String)
  | place (parameter : Parameter)
  deriving DecidableEq, Repr

def Segment.fill (value : Parameter → String) : Segment → String
  | .literal text => text
  | .place parameter => value parameter

namespace Parameter

def written : Parameter → String
  | .named name => "$" ++ name
  | .status => "$?"

theorem read?_eq_some {text rest : List Char} {parameter : Parameter}
    (h : read? text = some (parameter, rest)) :
    ∃ shown, text = shown ++ rest ∧ parameter.written.toList = '$' :: shown ∧
      ∀ c ∈ shown, c = '?' ∨ isNameChar c = true := by
  unfold read? at h
  split at h
  · obtain ⟨rfl, rfl⟩ := Prod.mk.inj (Option.some.inj h)
    exact ⟨['?'], rfl, rfl, by simp⟩
  · split at h
    · cases h
    · obtain ⟨rfl, rfl⟩ := Prod.mk.inj (Option.some.inj h)
      refine ⟨_, List.takeWhile_append_dropWhile.symm, by simp [written], ?_⟩
      intro c hc
      exact .inr (List.mem_takeWhile_imp hc)

end Parameter

namespace Word

/-- The segments of the characters that are read from a state of quoting on. -/
def segments (quoting : Quoting) (text : List Char) : List Segment :=
  match text with
  | [] => [.literal (String.ofList quoting.keepAtEnd)]
  | c :: rest =>
    if c = '$' && quoting.expands then
      match _h : Parameter.read? rest with
      | some (parameter, after) => .place parameter :: segments quoting after
      | none => .literal "$" :: segments quoting rest
    else .literal (String.ofList (quoting.keep c)) :: segments (quoting.step c) rest
termination_by text.length
decreasing_by
  · have := Parameter.length_read?_le _h
    simp only [List.length_cons]
    omega
  · simp
  · simp

def template (raw : String) : List Segment :=
  segments .bare raw.toList

/-- A reader of words that puts a value for each parameter. -/
structure Instantiates (value : Parameter → String) (read : Quoting → List Char → List Char) : Prop
    extends Reader read where
  parameter : ∀ quoting rest parameter after, quoting.expands = true →
    Parameter.read? rest = some (parameter, after) →
    read quoting ('$' :: rest) = (value parameter).toList ++ read quoting after
  alone : ∀ quoting rest, quoting.expands = true → Parameter.read? rest = none →
    read quoting ('$' :: rest) = '$' :: read quoting rest

theorem Instantiates.fills {value : Parameter → String}
    {read : Quoting → List Char → List Char} (h : Instantiates value read) (quoting : Quoting)
    (text : List Char) :
    String.ofList (read quoting text) =
      String.join ((segments quoting text).map (Segment.fill value)) := by
  rw [← String.toList_inj, String.toList_ofList, String.toList_join]
  fun_induction segments quoting text with
  | case1 quoting => simp [h.nil, Segment.fill]
  | case2 quoting c rest hc parameter after hread ih =>
    obtain ⟨rfl, hexpands⟩ : c = '$' ∧ quoting.expands = true := by simpa using hc
    rw [h.parameter quoting rest parameter after hexpands hread, ih]
    rfl
  | case3 quoting c rest hc hread ih =>
    obtain ⟨rfl, hexpands⟩ : c = '$' ∧ quoting.expands = true := by simpa using hc
    rw [h.alone quoting rest hexpands hread, ih]
    simp [Segment.fill]
  | case4 quoting c rest hc ih =>
    have hplain : c = '$' → quoting.expands = false := by simpa using hc
    rw [h.cons quoting c rest hplain, ih]
    simp [Segment.fill]

theorem instantiates_substitute (scope : Scope) : Instantiates scope.value (substitute scope) where
  toReader := reader_substitute scope
  parameter := by
    intro quoting rest parameter after hexpands hread
    rw [substitute, if_pos (by simpa using hexpands)]
    split
    · rename_i hother
      obtain ⟨rfl, rfl⟩ := Prod.mk.inj (Option.some.inj (hread.symm.trans hother))
      rfl
    · rename_i hother
      cases hread.symm.trans hother
  alone := by
    intro quoting rest hexpands hread
    rw [substitute, if_pos (by simpa using hexpands)]
    split
    · rename_i hother
      cases hread.symm.trans hother
    · rfl

theorem keep_step_parameter {quoting : Quoting} (hexpands : quoting.expands = true) {c : Char}
    (hc : c = '?' ∨ isNameChar c = true) : quoting.keep c = [c] ∧ quoting.step c = quoting := by
  have hne (d : Char) (hname : isNameChar d = false) (hmark : d ≠ '?') : c ≠ d := by
    rcases hc with rfl | hc
    · exact hmark.symm
    · exact ne_of_isNameChar hc hname
  have hsingle : c ≠ '\'' := hne _ (by decide) (by decide)
  have hdouble : c ≠ '"' := hne _ (by decide) (by decide)
  have hescape : c ≠ '\\' := hne _ (by decide) (by decide)
  cases quoting with
  | bare => simp [Quoting.keep, Quoting.step, hsingle, hdouble, hescape]
  | double => simp [Quoting.keep, Quoting.step, hdouble, hescape]
  | escaped | single | doubleEscaped => cases hexpands

theorem unquote_parameter {quoting : Quoting} (hexpands : quoting.expands = true)
    {shown : List Char} (hshown : ∀ c ∈ shown, c = '?' ∨ isNameChar c = true)
    (rest : List Char) : unquote quoting (shown ++ rest) = shown ++ unquote quoting rest := by
  induction shown with
  | nil => rfl
  | cons c more ih =>
    obtain ⟨hc, hmore⟩ := List.forall_mem_cons.mp hshown
    obtain ⟨hkeep, hstep⟩ := keep_step_parameter hexpands hc
    rw [List.cons_append, unquote, hkeep, hstep, ih hmore]
    rfl

theorem instantiates_unquote : Instantiates Parameter.written unquote := by
  have hdollar (quoting : Quoting) (hexpands : quoting.expands = true) (rest : List Char) :
      unquote quoting ('$' :: rest) = '$' :: unquote quoting rest := by
    cases quoting with
    | bare | double => rfl
    | escaped | single | doubleEscaped => cases hexpands
  refine ⟨reader_unquote, ?_, ?_⟩
  · intro quoting rest parameter after hexpands hread
    obtain ⟨shown, rfl, hwritten, hshown⟩ := Parameter.read?_eq_some hread
    rw [hdollar quoting hexpands, unquote_parameter hexpands hshown, hwritten]
    rfl
  · intro quoting rest hexpands _
    exact hdollar quoting hexpands rest

/-- The text between the places of one parameter, the others being filled. -/
def pieces (target : Parameter) (value : Parameter → String) : List Segment → List String
  | [] => [""]
  | segment :: rest =>
    if segment = .place target then "" :: pieces target value rest
    else (pieces target value rest).modifyHead (segment.fill value ++ ·)

theorem pieces_ne_nil (target : Parameter) (value : Parameter → String)
    (segments : List Segment) : pieces target value segments ≠ [] := by
  induction segments with
  | nil => simp [pieces]
  | cons segment rest ih =>
    rw [pieces]
    split
    · simp
    · simpa using ih

/-- Filling a template joins its pieces with the value of the parameter between them. -/
theorem join_fill_eq_intercalate (target : Parameter) {value other : Parameter → String}
    (hother : ∀ parameter, parameter ≠ target → other parameter = value parameter)
    (segments : List Segment) :
    String.join (segments.map (Segment.fill other)) =
      (other target).intercalate (pieces target value segments) := by
  induction segments with
  | nil => simp [pieces]
  | cons segment rest ih =>
    have hne := pieces_ne_nil target value rest
    rw [List.map_cons, String.join_cons, ih, pieces]
    by_cases hsegment : segment = .place target
    · subst hsegment
      rw [if_pos rfl, String.intercalate_cons_of_ne_nil hne]
      simp [Segment.fill]
    · have hfill : segment.fill other = segment.fill value := by
        cases segment with
        | literal text => rfl
        | place parameter => exact hother parameter fun h => hsegment (by rw [h])
      rw [if_neg hsegment, hfill]
      obtain ⟨first, more, hpieces⟩ := List.exists_cons_of_ne_nil hne
      rw [hpieces, List.modifyHead_cons, String.intercalate_cons_append]

theorem value_set (scope : Scope) (name value : String) {parameter : Parameter}
    (h : parameter ≠ .named name) :
    Scope.value { scope with environment := scope.environment.set name value } parameter =
      scope.value parameter := by
  cases parameter with
  | status => rfl
  | named other =>
    have hne : other ≠ name := fun heq => h (by rw [heq])
    simp only [Scope.value, Environment.get?_set, if_neg hne]

/-- Expansion fills the template of a word with values and quote removal fills it with what was
written; neither whether the word is quoted nor where a variable stands hangs on any value. -/
theorem expand_fills_template (raw : String) :
    (∀ scope : Scope, (expand scope raw).text =
      String.join ((template raw).map (Segment.fill scope.value))) ∧
    removeQuotes raw = String.join ((template raw).map (Segment.fill Parameter.written)) ∧
    (∀ scope other : Scope, (expand scope raw).quoted = (expand other raw).quoted) ∧
    ∀ (scope : Scope) (name : String), ∃ pieces : List String, ∀ value : String,
      (expand { scope with environment := scope.environment.set name value } raw).text =
        value.intercalate pieces := by
  have hexpand (scope : Scope) : (expand scope raw).text =
      String.join ((template raw).map (Segment.fill scope.value)) :=
    (instantiates_substitute scope).fills .bare raw.toList
  refine ⟨hexpand, instantiates_unquote.fills .bare raw.toList, fun _ _ => rfl, ?_⟩
  intro scope name
  refine ⟨pieces (.named name) scope.value (template raw), fun value => ?_⟩
  have hvalue : Scope.value { scope with environment := scope.environment.set name value }
      (.named name) = value := by
    simp [Scope.value, Environment.get?_set]
  rw [hexpand, join_fill_eq_intercalate (.named name) fun _ h => value_set scope name value h,
    hvalue]

-- a value with quotes, a backslash and its own name in it comes out as it is
example :
    let scope : Scope :=
      { environment := Environment.set {} "x" "'\"\\$x", status := 0 }
    (expand scope "a$x\"$x\"'$x'").text = "a'\"\\$x'\"\\$x$x" := by
  decide +kernel

end Word

end CommandShell
