import CommandShell.Builtin
import CommandShell.Pipeline.Expand
import CommandShell.Proofs.SingleQuotes

/-!
# Ordinary characters and double quotes

Ordinary characters, alone or before a text in double quotes, make up one word. Every reader of
words gives back the characters and the text.
-/

namespace CommandShell

namespace Word

/-- Outside quotes the character neither ends a word nor quotes anything. -/
def isOrdinary (c : Char) : Bool :=
  c ∉ [' ', '\t', '\n', '\'', '"', '\\', '|', '&', ';', '<', '>']

theorem atBoundary_ordinary {c : Char} (hc : isOrdinary c) (rest : List Char) :
    atBoundary (c :: rest) = false := by
  simp only [isOrdinary, List.mem_cons, List.not_mem_nil, decide_eq_true_eq, not_or] at hc
  simp [atBoundary, isSeparator, operator?_cons, hc]

theorem step_ordinary {c : Char} (hc : isOrdinary c) : Quoting.bare.step c = .bare := by
  simp only [isOrdinary, List.mem_cons, List.not_mem_nil, decide_eq_true_eq, not_or] at hc
  simp [Quoting.step, hc]

theorem keep_ordinary {c : Char} (hc : isOrdinary c) : Quoting.bare.keep c = [c] := by
  simp only [isOrdinary, List.mem_cons, List.not_mem_nil, decide_eq_true_eq, not_or] at hc
  simp [Quoting.keep, hc]

theorem after_ordinary {text : List Char} (htext : ∀ c ∈ text, isOrdinary c) :
    Quoting.bare.after text = .bare := by
  induction text with
  | nil => rfl
  | cons c rest ih =>
    obtain ⟨hc, hrest⟩ := List.forall_mem_cons.mp htext
    rw [Quoting.after_cons, step_ordinary hc, ih hrest]

theorem splitWord_ordinary {text : List Char} (htext : ∀ c ∈ text, isOrdinary c)
    (rest : List Char) :
    splitWord .bare (text ++ rest) =
      (text ++ (splitWord .bare rest).1, (splitWord .bare rest).2) := by
  induction text with
  | nil => rfl
  | cons c more ih =>
    obtain ⟨hc, hmore⟩ := List.forall_mem_cons.mp htext
    simp [splitWord, atBoundary_ordinary hc, step_ordinary hc, ih hmore]

theorem Reader.ordinary {read : Quoting → List Char → List Char} (hread : Reader read)
    {text : List Char} (htext : ∀ c ∈ text, isOrdinary c) (hdollar : '$' ∉ text)
    (rest : List Char) : read .bare (text ++ rest) = text ++ read .bare rest := by
  induction text with
  | nil => rfl
  | cons c more ih =>
    obtain ⟨hc, hmore⟩ := List.forall_mem_cons.mp htext
    simp only [List.mem_cons, not_or] at hdollar
    rw [List.cons_append, hread.cons _ _ _ fun heq => absurd heq.symm hdollar.1,
      keep_ordinary hc, step_ordinary hc, ih hmore hdollar.2]
    rfl

/-- A finished text that starts with an ordinary character and has no boundary is one word. -/
theorem standsAlone_of_splitWord {text : String} {c : Char} {rest : List Char}
    (hchars : text.toList = c :: rest) (hc : isOrdinary c)
    (hsplit : splitWord .bare text.toList = (text.toList, []))
    (hafter : Quoting.bare.after text.toList = .bare) : (Token.word text).StandsAlone := by
  have hboundary := atBoundary_cons_eq_false.mp (atBoundary_ordinary hc rest)
  have hdrop : text.toList.dropWhile isSeparator = text.toList := by
    rw [hchars, List.dropWhile_cons_of_neg (by simp [hboundary.1])]
  refine Token.standsAlone_of_nextToken ?_ hafter
  rw [Token.text, nextToken_of_word hdrop (by simp [hchars]) (by rw [hchars]; exact hboundary.2),
    hsplit, String.ofList_toList]

theorem standsAlone_ordinary {text : String} (hne : text ≠ "")
    (htext : ∀ c ∈ text.toList, isOrdinary c) : (Token.word text).StandsAlone := by
  obtain ⟨c, rest, hchars⟩ := List.exists_cons_of_ne_nil (mt String.toList_eq_nil_iff.mp hne)
  apply standsAlone_of_splitWord hchars (htext c (by simp [hchars]))
  · simpa [splitWord] using splitWord_ordinary htext []
  · exact after_ordinary htext

/-- The inside of the quotes: what would be special there is preceded by a backslash. -/
def escapeChars (text : List Char) : List Char :=
  text.flatMap fun c => if Quoting.isDoubleQuoteSpecial c then ['\\', c] else [c]

theorem escapeChars_special {c : Char} (hc : Quoting.isDoubleQuoteSpecial c)
    (rest : List Char) : escapeChars (c :: rest) = '\\' :: c :: escapeChars rest := by
  simp [escapeChars, hc]

theorem escapeChars_plain {c : Char} (hc : ¬ Quoting.isDoubleQuoteSpecial c)
    (rest : List Char) : escapeChars (c :: rest) = c :: escapeChars rest := by
  simp [escapeChars, hc]

theorem step_double_plain {c : Char} (hc : ¬ Quoting.isDoubleQuoteSpecial c) :
    Quoting.double.step c = .double := by
  simp only [Quoting.isDoubleQuoteSpecial, Bool.or_eq_true, decide_eq_true_eq, not_or] at hc
  simp [Quoting.step, hc]

theorem after_escapeChars (text : List Char) :
    Quoting.double.after (escapeChars text) = .double := by
  induction text with
  | nil => rfl
  | cons c rest ih =>
    by_cases hc : Quoting.isDoubleQuoteSpecial c
    · rw [escapeChars_special hc]
      exact ih
    · rw [escapeChars_plain hc, Quoting.after_cons, step_double_plain hc, ih]

theorem splitWord_escapeChars (text rest : List Char) :
    splitWord .double (escapeChars text ++ rest) =
      (escapeChars text ++ (splitWord .double rest).1, (splitWord .double rest).2) := by
  induction text with
  | nil => rfl
  | cons c more ih =>
    by_cases hc : Quoting.isDoubleQuoteSpecial c
    · simp [escapeChars_special hc, splitWord, Quoting.step, ih]
    · simp [escapeChars_plain hc, splitWord, step_double_plain hc, ih]

theorem Reader.escapeChars {read : Quoting → List Char → List Char} (hread : Reader read)
    (text rest : List Char) :
    read .double (escapeChars text ++ rest) = text ++ read .double rest := by
  induction text with
  | nil => rfl
  | cons c more ih =>
    by_cases hc : Quoting.isDoubleQuoteSpecial c
    · rw [escapeChars_special hc, List.cons_append, List.cons_append, hread.cons _ _ _ (by simp),
        hread.cons _ _ _ fun _ => rfl]
      simp [Quoting.keep, Quoting.step, hc, ih]
    · have hkeep : Quoting.double.keep c = [c] := by
        simp only [Quoting.isDoubleQuoteSpecial, Bool.or_eq_true, decide_eq_true_eq,
          not_or] at hc
        simp [Quoting.keep, hc]
      have hdollar : c = '$' → Quoting.double.expands = false := by
        rintro rfl
        exact absurd rfl hc
      rw [escapeChars_plain hc, List.cons_append, hread.cons _ _ _ hdollar, hkeep,
        step_double_plain hc, ih]
      rfl

end Word

theorem Builtin.toList_quoteValue (value : String) :
    (quoteValue value).toList = '"' :: Word.escapeChars value.toList ++ ['"'] := by
  have hspecial (c : Char) :
      (c = '"' || c = '\\' || c = '$' || c = '`') = Quoting.isDoubleQuoteSpecial c := by
    rw [Bool.eq_iff_iff]
    simp only [Quoting.isDoubleQuoteSpecial, Bool.or_eq_true, decide_eq_true_eq]
    grind
  simp [quoteValue, Word.escapeChars, hspecial]

namespace Word

variable {front : String}

theorem standsAlone_quoteValue (hne : front ≠ "") (hfront : ∀ c ∈ front.toList, isOrdinary c)
    (value : String) : (Token.word (front ++ Builtin.quoteValue value)).StandsAlone := by
  let inside := escapeChars value.toList ++ ['"']
  have hchars : (front ++ Builtin.quoteValue value).toList = front.toList ++ '"' :: inside := by
    rw [String.toList_append, Builtin.toList_quoteValue, List.cons_append]
  obtain ⟨c, rest, hcons⟩ := List.exists_cons_of_ne_nil (mt String.toList_eq_nil_iff.mp hne)
  have hquoted : splitWord .bare ('"' :: inside) = ('"' :: inside, []) := by
    have hinside : splitWord .double inside = (inside, []) := splitWord_escapeChars _ _
    simp [splitWord, atBoundary, isSeparator, Token.operator?, Quoting.step, hinside]
  have hstart : (front ++ Builtin.quoteValue value).toList = c :: (rest ++ '"' :: inside) := by
    rw [hchars, hcons, List.cons_append]
  apply standsAlone_of_splitWord hstart (hfront c (by simp [hcons]))
  · rw [hchars, splitWord_ordinary hfront, hquoted]
  · rw [hchars, Quoting.after_append, after_ordinary hfront, Quoting.after_cons]
    change Quoting.double.after inside = .bare
    rw [Quoting.after_append, after_escapeChars]
    rfl

theorem argument?_ordinary (scope : Scope) {text : String} (hne : text ≠ "")
    (htext : ∀ c ∈ text.toList, isOrdinary c) (hdollar : '$' ∉ text.toList) :
    argument? scope text = some text := by
  have hread : substitute scope .bare text.toList = text.toList := by
    simpa [(reader_substitute scope).nil, Quoting.keepAtEnd] using
      (reader_substitute scope).ordinary htext hdollar []
  have hexpand : (expand scope text).text = text := by
    rw [expand, hread, String.ofList_toList]
  simp [argument?, Expanded.vanishes, hexpand, hne]

theorem argument?_quoteValue (scope : Scope) (hne : front ≠ "")
    (hfront : ∀ c ∈ front.toList, isOrdinary c) (hdollar : '$' ∉ front.toList) (value : String) :
    argument? scope (front ++ Builtin.quoteValue value) = some (front ++ value) := by
  have hread := reader_substitute scope
  have hclose : substitute scope .double ['"'] = [] := by
    rw [hread.cons _ _ _ (by simp), hread.nil]
    rfl
  have hquoted : substitute scope .bare (Builtin.quoteValue value).toList = value.toList := by
    rw [Builtin.toList_quoteValue, List.cons_append, hread.cons _ _ _ (by simp)]
    change substitute scope .double (escapeChars value.toList ++ ['"']) = _
    rw [hread.escapeChars, hclose, List.append_nil]
  have hexpand : (expand scope (front ++ Builtin.quoteValue value)).text = front ++ value := by
    rw [expand, String.toList_append, hread.ordinary hfront hdollar, hquoted,
      ← String.toList_append, String.ofList_toList]
  simp [argument?, Expanded.vanishes, hexpand, hne]

end Word

end CommandShell
