import CommandShell.Proofs.HistoryFile

/-!
# The written form of history entries

Writing an entry doubles its backslashes first and replaces its line feeds afterwards; reading goes
over the line once. Reading undoes writing, and the lines that writing undoes are exactly the
written forms: they hold no line feed, and each backslash makes a pair with a backslash or an `n`.
-/

namespace CommandShell

def Text.replaceChar (old : Char) (new : List Char) (text : List Char) : List Char :=
  text.flatMap fun c => if c = old then new else [c]

namespace HistoryEntry

/-- Read from left to right, each backslash takes the next character with it, which is a backslash
or the letter `n`. -/
inductive Paired : List Char → Prop
  | nil : Paired []
  | pair {c : Char} {rest : List Char} (second : c = '\\' ∨ c = 'n') (paired : Paired rest) :
      Paired ('\\' :: c :: rest)
  | single {c : Char} {rest : List Char} (first : c ≠ '\\') (paired : Paired rest) :
      Paired (c :: rest)

/-- The second replacement leaves the backslashes of the first one alone. -/
theorem escapeChars_eq_replaceChar (text : List Char) :
    escapeChars text =
      Text.replaceChar '\n' ['\\', 'n'] (Text.replaceChar '\\' ['\\', '\\'] text) := by
  induction text with
  | nil => rfl
  | cons c rest ih =>
    simp only [Text.replaceChar] at ih
    rw [escapeChars_cons, ih]
    by_cases hslash : c = '\\'
    · simp [Text.replaceChar, hslash]
    · by_cases hfeed : c = '\n'
      · simp [Text.replaceChar, hfeed]
      · simp [Text.replaceChar, hslash, hfeed]

theorem paired_escapeChars (text : List Char) : Paired (escapeChars text) := by
  induction text with
  | nil => exact .nil
  | cons c rest ih =>
    rw [escapeChars_cons]
    by_cases hslash : c = '\\'
    · rw [if_pos hslash]
      exact .pair (.inl rfl) ih
    · rw [if_neg hslash]
      by_cases hfeed : c = '\n'
      · rw [if_pos hfeed]
        exact .pair (.inr rfl) ih
      · rw [if_neg hfeed]
        exact .single hslash ih

theorem exists_escapeChars_of_paired {line : List Char} (h : Paired line) (hfeed : '\n' ∉ line) :
    ∃ text, escapeChars text = line := by
  induction h with
  | nil => exact ⟨[], rfl⟩
  | @pair c rest second _ ih =>
    have hrest : '\n' ∉ rest := by
      intro hmem
      exact hfeed (by simp [hmem])
    obtain ⟨text, htext⟩ := ih hrest
    rcases second with hslash | hletter
    · exact ⟨'\\' :: text, by simp [escapeChars_cons, htext, hslash]⟩
    · exact ⟨'\n' :: text, by simp [escapeChars_cons, htext, hletter]⟩
  | @single c rest first _ ih =>
    have hc : c ≠ '\n' := by
      intro hc
      exact hfeed (by simp [hc])
    have hrest : '\n' ∉ rest := by
      intro hmem
      exact hfeed (by simp [hmem])
    obtain ⟨text, htext⟩ := ih hrest
    exact ⟨c :: text, by simp [escapeChars_cons, htext, first, hc]⟩

theorem exists_escapeChars_iff (line : List Char) :
    (∃ text, escapeChars text = line) ↔ '\n' ∉ line ∧ Paired line := by
  constructor
  · rintro ⟨text, rfl⟩
    exact ⟨feed_notMem_escapeChars text, paired_escapeChars text⟩
  · intro h
    exact exists_escapeChars_of_paired h.2 h.1

/-- Writing undoes reading on written forms only, since reading undoes writing everywhere. -/
theorem escapeChars_unescapeChars_iff (line : List Char) :
    escapeChars (unescapeChars line) = line ↔ ∃ text, escapeChars text = line := by
  constructor
  · intro h
    exact ⟨unescapeChars line, h⟩
  · rintro ⟨text, rfl⟩
    rw [unescapeChars_escapeChars]

/-- An entry is written by two replacements and read back as it was, from a line of its own; and a
line is the written form of what is read from it exactly if it holds no line feed and its
backslashes are paired. -/
theorem codec_is_exact (entry line : String) :
    (escape entry).toList =
        Text.replaceChar '\n' ['\\', 'n'] (Text.replaceChar '\\' ['\\', '\\'] entry.toList) ∧
      unescape (escape entry) = entry ∧ '\n' ∉ (escape entry).toList ∧
      (escape (unescape line) = line ↔ '\n' ∉ line.toList ∧ Paired line.toList) := by
  refine ⟨?_, ?_, ?_, ?_⟩
  · rw [escape, String.toList_ofList, escapeChars_eq_replaceChar]
  · rw [unescape, escape, String.toList_ofList, unescapeChars_escapeChars, String.ofList_toList]
  · rw [escape, String.toList_ofList]
    exact feed_notMem_escapeChars entry.toList
  · rw [← exists_escapeChars_iff, ← escapeChars_unescapeChars_iff, escape, unescape,
      String.toList_ofList, ← String.toList_inj, String.toList_ofList]

end HistoryEntry

end CommandShell
