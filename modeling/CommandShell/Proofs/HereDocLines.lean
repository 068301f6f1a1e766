import CommandShell.Proofs.Templates

/-!
# Lines of here-documents

A line of a here-document is expanded as it would be between double quotes.
-/

namespace CommandShell

namespace Parameter

theorem read?_of_ne_mark {text : List Char} (h : text.head? ≠ some '?') :
    read? text =
      if text.takeWhile isNameChar = [] then none
      else
        some (.named (String.ofList (text.takeWhile isNameChar)), text.dropWhile isNameChar) := by
  unfold read?
  split
  · exact absurd rfl h
  · split
    · rename_i hname
      rw [if_pos hname]
    · rename_i hname
      rw [if_neg hname]

theorem takeWhile_append_of_not {p : Char → Bool} {c : Char} (hc : p c = false)
    (text rest : List Char) :
    (text ++ c :: rest).takeWhile p = text.takeWhile p ∧
      (text ++ c :: rest).dropWhile p = text.dropWhile p ++ c :: rest := by
  induction text with
  | nil => simp [hc]
  | cons d more ih => by_cases hd : p d = true <;> simp [hd, ih]

theorem read?_append {c : Char} (hname : isNameChar c = false) (hmark : c ≠ '?')
    (text rest : List Char) :
    read? (text ++ c :: rest) = (read? text).map (Prod.map id (· ++ c :: rest)) := by
  by_cases hstatus : text.head? = some '?'
  · obtain ⟨more, rfl⟩ := List.head?_eq_some_iff.mp hstatus
    rfl
  · have hstatus' : (text ++ c :: rest).head? ≠ some '?' := by
      cases text with
      | nil => simpa using hmark
      | cons d more => simpa using hstatus
    obtain ⟨htake, hdrop⟩ := takeWhile_append_of_not hname text rest
    rw [read?_of_ne_mark hstatus, read?_of_ne_mark hstatus', htake, hdrop]
    split <;> rfl

end Parameter

namespace Quoting

theorem openQuote_step_double {quoting : Quoting} (hopen : quoting.openQuote = some '"')
    {c : Char} (hc : c ≠ '"') : (quoting.step c).openQuote = some '"' := by
  cases quoting with
  | double => by_cases hescape : c = '\\' <;> simp [step, hc, hescape, openQuote]
  | doubleEscaped => rfl
  | bare | escaped | single => cases hopen

theorem openQuote_after_double {quoting : Quoting} (hopen : quoting.openQuote = some '"')
    {text : List Char} (htext : '"' ∉ text) : (quoting.after text).openQuote = some '"' := by
  induction text generalizing quoting with
  | nil => exact hopen
  | cons c rest ih =>
    simp only [List.mem_cons, not_or] at htext
    exact ih (openQuote_step_double hopen (Ne.symm htext.1)) htext.2

theorem after_parameter {quoting : Quoting} (hexpands : quoting.expands = true)
    {shown : List Char} (hshown : ∀ c ∈ shown, c = '?' ∨ isNameChar c = true) :
    quoting.after shown = quoting := by
  induction shown with
  | nil => rfl
  | cons c more ih =>
    obtain ⟨hc, hmore⟩ := List.forall_mem_cons.mp hshown
    rw [after_cons, (Word.keep_step_parameter hexpands hc).2, ih hmore]

theorem after_of_read? {quoting : Quoting} (hexpands : quoting.expands = true)
    {text rest : List Char} {parameter : Parameter}
    (h : Parameter.read? text = some (parameter, rest)) :
    quoting.after text = quoting.after rest := by
  obtain ⟨shown, rfl, -, hshown⟩ := Parameter.read?_eq_some h
  rw [after_append, after_parameter hexpands hshown]

end Quoting

namespace Word

variable {scope : Scope}

theorem substitute_double_plain {c : Char} (hquote : c ≠ '"') (hescape : c ≠ '\\')
    (hdollar : c ≠ '$') (rest : List Char) :
    substitute scope .double (c :: rest) = c :: substitute scope .double rest := by
  rw [(reader_substitute scope).cons _ _ _ fun h => absurd h hdollar]
  simp [Quoting.keep, Quoting.step, hquote, hescape]

theorem substitute_double_escape (c : Char) (rest : List Char) :
    substitute scope .double ('\\' :: c :: rest) =
      Quoting.doubleEscaped.keep c ++ substitute scope .double rest := by
  have hread := reader_substitute scope
  rw [hread.cons _ _ _ (by simp), hread.cons _ _ _ fun _ => rfl]
  rfl

/-- Between double quotes a text is read like a line of a here-document, if it has no double quote
and no backslash takes the one behind it. -/
theorem substitute_double_eq_hereDoc {text : List Char} (hquote : '"' ∉ text)
    (hclosed : Quoting.double.after text = .double) :
    substitute scope .double (text ++ ['"']) = substituteHereDoc scope text := by
  have hreader := instantiates_substitute scope
  fun_induction substituteHereDoc scope text with
  | case1 =>
    rw [List.nil_append, hreader.cons _ _ _ (by simp), hreader.nil]
    rfl
  | case2 => cases hclosed
  | case3 c rest hc ih =>
    have hspecial : Quoting.isDoubleQuoteSpecial c = true := by
      simp only [Bool.or_eq_true, decide_eq_true_eq] at hc
      rcases hc with (rfl | rfl) | rfl <;> rfl
    simp only [List.mem_cons, not_or] at hquote
    simp only [List.cons_append]
    rw [substitute_double_escape, ih hquote.2.2 hclosed]
    simp [Quoting.keep, hspecial]
  | case4 c rest hc ih =>
    simp only [Bool.or_eq_true, decide_eq_true_eq, not_or] at hc
    simp only [List.mem_cons, not_or] at hquote
    obtain ⟨-, hne, hrest⟩ := hquote
    have hkeep : Quoting.doubleEscaped.keep c = ['\\', c] := by
      simp [Quoting.keep, Quoting.isDoubleQuoteSpecial, hc, Ne.symm hne]
    have hstep : Quoting.double.after (c :: rest) = .double := by
      simpa [Quoting.step, hc, Ne.symm hne] using hclosed
    -- the character after the backslash is read again, and it is plain
    have hagain := ih (by simp [hne, hrest]) hstep
    simp only [List.cons_append] at hagain ⊢
    rw [substitute_double_plain (Ne.symm hne) hc.1.1 hc.1.2] at hagain
    rw [substitute_double_escape, hkeep, ← hagain]
    rfl
  | case5 rest parameter after hread _ _ ih =>
    have hafter : Quoting.double.after after = .double :=
      (Quoting.after_of_read? rfl hread).symm.trans hclosed
    have hnone : '"' ∉ after := by
      obtain ⟨shown, hshown, -⟩ := Parameter.read?_eq_some hread
      exact fun h => hquote (by simp [hshown, h])
    have hlonger : Parameter.read? (rest ++ ['"']) = some (parameter, after ++ ['"']) := by
      rw [Parameter.read?_append (by decide) (by decide), hread]
      rfl
    rw [List.cons_append, hreader.parameter _ _ _ _ rfl hlonger, ih hnone hafter]
  | case6 rest hread _ _ ih =>
    have hlonger : Parameter.read? (rest ++ ['"']) = none := by
      rw [Parameter.read?_append (by decide) (by decide), hread]
      rfl
    rw [List.cons_append, hreader.alone _ _ rfl hlonger,
      ih (fun h => hquote (by simp [h])) hclosed]
  | case7 c rest hlone hpair hdollar ih =>
    have hescape : c ≠ '\\' := by
      rintro rfl
      cases rest with
      | nil => exact hlone rfl rfl
      | cons d more => exact hpair d more rfl rfl
    simp only [List.mem_cons, not_or] at hquote
    have hstep : Quoting.double.after rest = .double := by
      simpa [Quoting.step, hescape, Ne.symm hquote.1] using hclosed
    rw [List.cons_append, substitute_double_plain (Ne.symm hquote.1) hescape hdollar,
      ih hquote.2 hstep]

theorem after_double_of_closed {text : String} (hquote : '"' ∉ text.toList)
    (hclosed : unclosedQuote ("\"" ++ text ++ "\"") = none) :
    Quoting.double.after text.toList = .double := by
  have hopen : (Quoting.double.after text.toList).openQuote = some '"' :=
    Quoting.openQuote_after_double rfl hquote
  have hend : ((Quoting.double.after text.toList).step '"').openQuote = none := by
    simpa [unclosedQuote, Quoting.after_append, Quoting.step] using hclosed
  cases hstate : Quoting.double.after text.toList with
  | double => rfl
  | doubleEscaped =>
    rw [hstate] at hend
    cases hend
  | bare | escaped | single =>
    rw [hstate] at hopen
    cases hopen

/-- A text that double quotes can hold is expanded between them as on a line of a here-document. -/
theorem expand_double_quotes (scope : Scope) (text : String) (hquote : '"' ∉ text.toList)
    (hclosed : unclosedQuote ("\"" ++ text ++ "\"") = none) :
    expand scope ("\"" ++ text ++ "\"") =
      { text := expandHereDocLine scope text, quoted := true } := by
  have hchars : ("\"" ++ text ++ "\"").toList = '"' :: (text.toList ++ ['"']) := by simp
  have hinside : substitute scope .double (text.toList ++ ['"']) =
      substituteHereDoc scope text.toList :=
    substitute_double_eq_hereDoc hquote (after_double_of_closed hquote hclosed)
  rw [expand, hchars, (reader_substitute scope).cons _ _ _ (by simp)]
  change Expanded.mk (String.ofList (substitute scope .double (text.toList ++ ['"']))) _ = _
  rw [hinside]
  rfl

theorem expand_double_quotes_mixed :
    let scope : Scope := { environment := Environment.set {} "x" "'\"", status := 2 }
    let text := "\\\\$x\\$x'\\q`\\`$?\n$\\\\"
    '"' ∉ text.toList ∧ unclosedQuote ("\"" ++ text ++ "\"") = none ∧
      expand scope ("\"" ++ text ++ "\"") = { text := "\\'\"$x'\\q``2\n$\\", quoted := true } := by
  intro scope text
  have hquote : '"' ∉ text.toList := by decide +kernel
  have hclosed : unclosedQuote ("\"" ++ text ++ "\"") = none := by decide +kernel
  refine ⟨hquote, hclosed, ?_⟩
  rw [expand_double_quotes scope text hquote hclosed]
  decide +kernel

end Word

end CommandShell
