import CommandShell.Proofs.Layouts

/-!
# Lines left open

What a line leaves open, a quote or a backslash, is what its last word leaves open. All words
before it are closed.
-/

namespace CommandShell

theorem after_gap {blanks : String} (hgap : IsGap blanks) :
    Quoting.bare.after blanks.toList = .bare := by
  have hnone := List.dropWhile_eq_nil_iff.mpr ((isGap_iff blanks).mp hgap)
  rw [← after_dropSeparators, hnone, Quoting.after_nil]

theorem Token.after_text_of_not_isWord {token : Token} (h : token.isWord = false) :
    Quoting.bare.after token.text.toList = .bare := by
  cases token with
  | word text => cases h
  | redirect op => cases op <;> rfl
  | _ => rfl

theorem Token.EndsBefore.after_text {token : Token} {following : List Char}
    (h : token.EndsBefore following) (hne : following ≠ []) :
    Quoting.bare.after token.text.toList = .bare := by
  cases token with
  | word text => exact h.finished hne
  | _ => exact Token.after_text_of_not_isWord rfl

namespace Layout.Proper

variable {layout : Layout}

theorem after_line (h : layout.Proper) :
    Quoting.bare.after layout.line.toList =
      layout.tokens.getLast?.elim .bare fun token => Quoting.bare.after token.text.toList := by
  induction h with
  | margin gap => exact after_gap gap
  | @item blanks token rest gap ends apart proper ih =>
    have hline : Quoting.bare.after (Layout.item blanks token rest).line.toList =
        (Quoting.bare.after token.text.toList).after rest.line.toList := by
      rw [toList_line_item, Quoting.after_append, Quoting.after_append, after_gap gap]
    rw [hline, tokens]
    cases proper with
    | @margin trailing hgap =>
      change (Quoting.bare.after token.text.toList).after trailing.toList = _
      by_cases htrailing : trailing.toList = []
      · rw [htrailing]
        rfl
      · rw [ends.after_text htrailing, after_gap hgap]
        exact (ends.after_text htrailing).symm
    | @item _ next more hgap hends hapart hmore =>
      have hne := (Proper.item hgap hends hapart hmore).line_ne_nil (List.cons_ne_nil _ _)
      rw [ends.after_text hne, ih, tokens, List.getLast?_cons_cons]

theorem after_text_of_mem_dropLast (h : layout.Proper) :
    ∀ token ∈ layout.tokens.dropLast, Quoting.bare.after token.text.toList = .bare := by
  induction h with
  | margin gap => simp [tokens]
  | @item blanks token rest gap ends apart proper ih =>
    by_cases hlast : rest.tokens = []
    · simp [tokens, hlast]
    · rw [tokens, List.dropLast_cons_of_ne_nil hlast]
      exact List.forall_mem_cons.mpr ⟨ends.after_text (proper.line_ne_nil hlast), ih⟩

end Layout.Proper

/-- A line is left in a state other than the first one by its last word. -/
theorem after_iff_last_word {leaves : Quoting → Prop} (hbare : ¬ leaves .bare) (line : String) :
    leaves (Quoting.bare.after line.toList) ↔
      ∃ word, (tokenize line).getLast? = some (.word word) ∧
        leaves (Quoting.bare.after word.toList) := by
  obtain ⟨layout, rfl, htokens, hproper⟩ := Layout.exists_proper line
  rw [hproper.after_line, ← htokens]
  cases hlast : layout.tokens.getLast? with
  | none => simpa using hbare
  | some token =>
    cases hword : token.isWord with
    | true =>
      obtain ⟨text, rfl⟩ := Token.exists_word_of_isWord hword
      simp [Token.text]
    | false =>
      have hno (word : String) : token ≠ .word word := by
        rintro rfl
        cases hword
      simp [Token.after_text_of_not_isWord hword, hbare, hno]

/-- Open quotes and pending backslashes of a line and of its words: a line has those of its last
word, the other words have none, and no line has both. -/
theorem unclosed_iff_last_word (line : String) :
    (∀ quote, unclosedQuote line = some quote ↔
      ∃ word, (tokenize line).getLast? = some (.word word) ∧ unclosedQuote word = some quote) ∧
    (endsWithContinuation line = true ↔
      ∃ word, (tokenize line).getLast? = some (.word word) ∧ endsWithContinuation word = true) ∧
    (∀ word, .word word ∈ (tokenize line).dropLast →
      unclosedQuote word = none ∧ endsWithContinuation word = false) ∧
    ¬ (hasUnclosedQuote line = true ∧ endsWithContinuation line = true) := by
  refine ⟨fun quote => ?_, ?_, ?_, ?_⟩
  · exact @after_iff_last_word (fun quoting => quoting.openQuote = some quote) nofun line
  · simpa [endsWithContinuation] using
      @after_iff_last_word (fun quoting => quoting = .escaped) nofun line
  · intro word hword
    obtain ⟨layout, rfl, htokens, hproper⟩ := Layout.exists_proper line
    rw [← htokens] at hword
    have hclosed : Quoting.bare.after word.toList = .bare :=
      hproper.after_text_of_mem_dropLast _ hword
    simp [unclosedQuote, endsWithContinuation, hclosed, Quoting.openQuote]
  · rintro ⟨hquote, hescaped⟩
    have hstate : Quoting.bare.after line.toList = .escaped := by
      simpa [endsWithContinuation] using hescaped
    simp [hasUnclosedQuote, unclosedQuote, hstate, Quoting.openQuote] at hquote

theorem unclosed_iff_last_word_quoted :
    .word "'a | b'" ∈ (tokenize "echo 'a | b'>\"c\\").dropLast ∧
      unclosedQuote "'a | b'" = none ∧ unclosedQuote "echo 'a | b'>\"c\\" = some '"' := by
  have hline := unclosed_iff_last_word "echo 'a | b'>\"c\\"
  have hword : .word "'a | b'" ∈ (tokenize "echo 'a | b'>\"c\\").dropLast := by decide +kernel
  exact ⟨hword, (hline.2.2.1 _ hword).1,
    (hline.1 '"').mpr ⟨"\"c\\", by decide +kernel, by decide +kernel⟩⟩

end CommandShell
