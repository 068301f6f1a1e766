import CommandShell.Proofs.Scanning

/-!
# Layouts of lines

A line is its tokens in order, with blanks before, between and behind them. The rules for where a
token may end leave one list of tokens for a line, and the scanner finds it. With single spaces for
the blanks the line keeps its tokens.
-/

namespace CommandShell

def IsGap (text : String) : Prop :=
  ∀ c ∈ text.toList, c = ' ' ∨ c = '\t' ∨ c = '\n'

namespace Word

/-- Outside quotes the character belongs to a word: it is no blank and starts no operator. -/
def Admits (c : Char) (following : List Char) : Prop :=
  c ∉ [' ', '\t', '\n', '|', ';', '<', '>'] ∧ (c = '&' → following.head? ≠ some '&')

/-- Every character that is read outside quotes belongs to the word. -/
def Unbroken (quoting : Quoting) (word following : List Char) : Prop :=
  ∀ front c back, word = front ++ c :: back → quoting.after front = .bare →
    Admits c (back ++ following)

/-- The word ends where the text behind it starts. -/
structure EndsBefore (word following : List Char) : Prop where
  ne_nil : word ≠ []
  unbroken : Unbroken .bare word following
  /-- An open quote or a pending backslash is left at the end of a line only. -/
  finished : following ≠ [] → Quoting.bare.after word = .bare

end Word

/-- The token ends where the text behind it starts; an operator is no part of a longer one. -/
def Token.EndsBefore (following : List Char) : Token → Prop
  | .word text => Word.EndsBefore text.toList following
  | .pipe => following.head? ≠ some '|'
  | .redirect .input => following.head? ≠ some '<'
  | .redirect .output => following.head? ≠ some '>'
  | .and | .or | .semicolon | .redirect .append | .redirect .hereDoc => True
  | .endOfInput => False

/-- Blanks and tokens in turn, with blanks at both ends. -/
inductive Layout where
  | margin (blanks : String)
  | item (blanks : String) (token : Token) (rest : Layout)

namespace Layout

def line : Layout → String
  | .margin blanks => blanks
  | .item blanks token rest => blanks ++ (token.text ++ rest.line)

def tokens : Layout → List Token
  | .margin _ => []
  | .item _ token rest => token :: rest.tokens

/-- Gaps are blank, every token ends where it has to, and two words have a blank between them. -/
inductive Proper : Layout → Prop
  | margin {blanks : String} (gap : IsGap blanks) : Proper (.margin blanks)
  | item {blanks : String} {token : Token} {rest : Layout} (gap : IsGap blanks)
      (ends : token.EndsBefore rest.line.toList)
      (apart : token.isWord = true → ∀ next more, rest ≠ .item "" (.word next) more)
      (proper : Proper rest) : Proper (.item blanks token rest)

end Layout

theorem isGap_iff (text : String) : IsGap text ↔ ∀ c ∈ text.toList, isSeparator c = true := by
  simp only [IsGap, isSeparator_iff]

theorem atBoundary_eq_false_iff (c : Char) (rest : List Char) :
    atBoundary (c :: rest) = false ↔ Word.Admits c rest := by
  simp only [atBoundary, isSeparator, operator?_cons, Word.Admits]
  grind

theorem atBoundary_of_operator? {text rest : List Char} {token : Token}
    (h : Token.operator? text = some (token, rest)) : atBoundary text = true := by
  cases text with
  | nil => rfl
  | cons c tail => simp [atBoundary, h]

namespace Word

theorem unbroken_cons_iff (quoting : Quoting) (c : Char) (word following : List Char) :
    Unbroken quoting (c :: word) following ↔
      (quoting = .bare → Admits c (word ++ following)) ∧
        Unbroken (quoting.step c) word following := by
  constructor
  · intro h
    refine ⟨fun hbare => h [] c word rfl hbare, ?_⟩
    intro front d back hword hafter
    exact h (c :: front) d back (by rw [hword]; rfl) hafter
  · rintro ⟨hfirst, hrest⟩ front d back hword hafter
    cases front with
    | nil =>
      obtain ⟨rfl, rfl⟩ := List.cons.inj hword
      exact hfirst hafter
    | cons e front =>
      obtain ⟨rfl, hmore⟩ := List.cons.inj hword
      exact hrest front d back hmore hafter

theorem splitWord_append_of_unbroken {quoting : Quoting} {word following : List Char}
    (hword : Unbroken quoting word following)
    (hstop : following ≠ [] → quoting.after word = .bare)
    (hboundary : atBoundary following = true) :
    splitWord quoting (word ++ following) = (word, following) := by
  induction word generalizing quoting with
  | nil =>
    cases following with
    | nil => rfl
    | cons c rest =>
      have hbare : quoting = .bare := hstop (List.cons_ne_nil c rest)
      simp [splitWord, hbare, hboundary]
  | cons c word ih =>
    obtain ⟨hfirst, hrest⟩ := (unbroken_cons_iff quoting c word following).mp hword
    have hgo : ¬ (quoting = .bare && atBoundary (c :: (word ++ following))) = true := by
      simp only [Bool.and_eq_true, decide_eq_true_eq, not_and, Bool.not_eq_true]
      exact fun hbare => (atBoundary_eq_false_iff _ _).mpr (hfirst hbare)
    rw [List.cons_append, splitWord, if_neg hgo, ih hrest hstop]

theorem unbroken_splitWord (quoting : Quoting) (text : List Char) :
    Unbroken quoting (splitWord quoting text).1 (splitWord quoting text).2 := by
  induction text generalizing quoting with
  | nil => simp [splitWord, Unbroken]
  | cons c rest ih =>
    simp only [splitWord]
    split
    · simp [Unbroken]
    · rename_i hgo
      refine (unbroken_cons_iff _ _ _ _).mpr ⟨fun hbare => ?_, ih _⟩
      rw [splitWord_append_eq, ← atBoundary_eq_false_iff]
      simpa [hbare] using hgo

theorem atBoundary_splitWord (quoting : Quoting) (text : List Char) :
    atBoundary (splitWord quoting text).2 = true := by
  induction text generalizing quoting with
  | nil => rfl
  | cons c rest ih =>
    simp only [splitWord]
    split
    · rename_i hstop
      simp only [Bool.and_eq_true] at hstop
      exact hstop.2
    · exact ih _

theorem endsBefore_splitWord {text : List Char} (hstart : atBoundary text = false) :
    EndsBefore (splitWord .bare text).1 (splitWord .bare text).2 := by
  refine ⟨?_, unbroken_splitWord .bare text, after_splitWord⟩
  intro hnil
  have hall : (splitWord .bare text).2 = text := by
    have hsplit := splitWord_append_eq .bare text
    rwa [hnil, List.nil_append] at hsplit
  have hboundary := atBoundary_splitWord .bare text
  rw [hall, hstart] at hboundary
  cases hboundary

theorem EndsBefore.atBoundary_append {word following : List Char} (h : EndsBefore word following) :
    atBoundary (word ++ following) = false := by
  obtain ⟨c, tail, rfl⟩ := List.exists_cons_of_ne_nil h.ne_nil
  exact (atBoundary_eq_false_iff c _).mpr (h.unbroken [] c tail rfl rfl)

end Word

namespace Token

theorem head?_ne_of_forall_ne_cons {c : Char} {rest : List Char}
    (h : ∀ more, rest = c :: more → False) : rest.head? ≠ some c := by
  intro hhead
  obtain ⟨more, hmore⟩ := List.head?_eq_some_iff.mp hhead
  exact h more hmore

theorem endsBefore_of_operator? {text rest : List Char} {token : Token}
    (h : operator? text = some (token, rest)) :
    text = token.text.toList ++ rest ∧ token.isWord = false ∧ token.EndsBefore rest := by
  revert h
  fun_cases operator? text <;> rintro ⟨⟩
  case case2 hnext => exact ⟨rfl, rfl, head?_ne_of_forall_ne_cons hnext⟩
  case case6 hnext => exact ⟨rfl, rfl, head?_ne_of_forall_ne_cons hnext⟩
  case case8 hnext => exact ⟨rfl, rfl, head?_ne_of_forall_ne_cons hnext⟩
  all_goals exact ⟨rfl, rfl, trivial⟩

theorem operator?_of_endsBefore {token : Token} (hword : token.isWord = false)
    {rest : List Char} (h : token.EndsBefore rest) :
    operator? (token.text.toList ++ rest) = some (token, rest) := by
  cases token with
  | word text => cases hword
  | endOfInput => cases h
  | pipe => simpa [Token.text, operator?_cons, EndsBefore] using h
  | and | or | semicolon => rfl
  | redirect op =>
    cases op with
    | input | output => simpa [Token.text, RedirectOp.text, operator?_cons, EndsBefore] using h
    | append | hereDoc => rfl

theorem isSeparator_of_operator? {c : Char} {tail rest : List Char} {token : Token}
    (h : operator? (c :: tail) = some (token, rest)) : isSeparator c = false := by
  by_contra hc
  rw [operator?_cons] at h
  rcases (isSeparator_iff c).mp (by simpa using hc) with rfl | rfl | rfl <;> simp at h

end Token

theorem exists_gap (text : List Char) :
    ∃ blanks, IsGap blanks ∧ text = blanks.toList ++ text.dropWhile isSeparator := by
  refine ⟨String.ofList (text.takeWhile isSeparator), ?_, ?_⟩
  · rw [isGap_iff, String.toList_ofList]
    exact fun c hc => List.mem_takeWhile_imp hc
  · rw [String.toList_ofList, List.takeWhile_append_dropWhile]

theorem dropSeparators_gap {blanks : String} (hgap : IsGap blanks) {c : Char}
    (hc : isSeparator c = false) (rest : List Char) :
    (blanks.toList ++ c :: rest).dropWhile isSeparator = c :: rest := by
  rw [List.dropWhile_append_of_pos ((isGap_iff blanks).mp hgap),
    List.dropWhile_cons_of_neg (by simp [hc])]

theorem atBoundary_dropSeparators {text body : List Char}
    (hbody : text.dropWhile isSeparator = body) (hne : body ≠ [])
    (hop : Token.operator? body = none) : atBoundary body = false := by
  obtain ⟨c, tail, rfl⟩ := List.exists_cons_of_ne_nil hne
  refine atBoundary_cons_eq_false.mpr ⟨?_, hop⟩
  have hhead := List.head_dropWhile_not isSeparator (by rw [hbody]; exact hne)
  simpa [hbody] using hhead

theorem nextToken_gap_operator {blanks : String} (hgap : IsGap blanks) {token : Token}
    (hword : token.isWord = false) {rest : List Char} (hends : token.EndsBefore rest) :
    nextToken (blanks.toList ++ (token.text.toList ++ rest)) = some (token, rest) := by
  have hop := Token.operator?_of_endsBefore hword hends
  cases hchars : token.text.toList ++ rest with
  | nil =>
    rw [hchars] at hop
    cases hop
  | cons c tail =>
    rw [hchars] at hop
    have hc := Token.isSeparator_of_operator? hop
    exact nextToken_of_operator? (dropSeparators_gap hgap hc tail) hop

theorem nextToken_gap_word {blanks : String} (hgap : IsGap blanks) {word : String}
    {rest : List Char} (hends : Word.EndsBefore word.toList rest)
    (hboundary : atBoundary rest = true) :
    nextToken (blanks.toList ++ (word.toList ++ rest)) = some (.word word, rest) := by
  have hstart := hends.atBoundary_append
  have hsplit := Word.splitWord_append_of_unbroken hends.unbroken hends.finished hboundary
  obtain ⟨c, tail, hchars⟩ := List.exists_cons_of_ne_nil hends.ne_nil
  rw [hchars, List.cons_append] at hstart hsplit ⊢
  obtain ⟨hc, hop⟩ := atBoundary_cons_eq_false.mp hstart
  rw [nextToken_of_word (dropSeparators_gap hgap hc _) (List.cons_ne_nil _ _) hop, hsplit,
    ← hchars, String.ofList_toList]

/-- The scanner follows the rules for where a token ends. -/
theorem nextToken_eq_some_iff {text rest : List Char} {token : Token} :
    nextToken text = some (token, rest) ↔
      ∃ blanks, IsGap blanks ∧ text = blanks.toList ++ (token.text.toList ++ rest) ∧
        token.EndsBefore rest ∧ (token.isWord = true → atBoundary rest = true) := by
  constructor
  · intro h
    obtain ⟨blanks, hgap, htext⟩ := exists_gap text
    refine ⟨blanks, hgap, ?_⟩
    obtain ⟨body, hbody, hne, hop | ⟨hop, rfl, rfl⟩⟩ := nextToken_cases h
    · obtain ⟨hchars, hword, hends⟩ := Token.endsBefore_of_operator? hop
      exact ⟨by rw [← hchars, ← hbody, ← htext], hends, by simp [hword]⟩
    · have hends := Word.endsBefore_splitWord (atBoundary_dropSeparators hbody hne hop)
      refine ⟨?_, ?_, fun _ => Word.atBoundary_splitWord .bare body⟩
      · rw [Token.text, String.toList_ofList, splitWord_append_eq, ← hbody, ← htext]
      · rwa [Token.EndsBefore, String.toList_ofList]
  · rintro ⟨blanks, hgap, rfl, hends, hboundary⟩
    cases hword : token.isWord with
    | false => exact nextToken_gap_operator hgap hword hends
    | true =>
      obtain ⟨text, rfl⟩ := Token.exists_word_of_isWord hword
      exact nextToken_gap_word hgap hends (hboundary rfl)

theorem atBoundary_gap {blanks : String} (hgap : IsGap blanks) (hne : blanks ≠ "")
    (rest : List Char) : atBoundary (blanks.toList ++ rest) = true := by
  obtain ⟨c, more, hchars⟩ := List.exists_cons_of_ne_nil (mt String.toList_eq_nil_iff.mp hne)
  have hc : isSeparator c = true := (isGap_iff blanks).mp hgap c (by simp [hchars])
  simp [hchars, atBoundary, hc]

namespace Layout

theorem toList_line_item (blanks : String) (token : Token) (rest : Layout) :
    (item blanks token rest).line.toList =
      blanks.toList ++ (token.text.toList ++ rest.line.toList) := by
  simp [line]

theorem Proper.atBoundary_line {layout : Layout} (h : layout.Proper)
    (hstart : ∀ next more, layout ≠ .item "" (.word next) more) :
    atBoundary layout.line.toList = true := by
  cases h with
  | @margin blanks gap =>
    by_cases hblanks : blanks = ""
    · rw [hblanks]
      rfl
    · simpa [line] using atBoundary_gap gap hblanks []
  | @item blanks token rest gap ends apart proper =>
    rw [toList_line_item]
    by_cases hblanks : blanks = ""
    · have hword : token.isWord = false := by
        cases token with
        | word next => exact absurd (by rw [hblanks]) (hstart next rest)
        | _ => rfl
      rw [hblanks]
      exact atBoundary_of_operator? (Token.operator?_of_endsBefore hword ends)
    · exact atBoundary_gap gap hblanks _

theorem Proper.tokenize_line {layout : Layout} (h : layout.Proper) :
    tokenize layout.line = layout.tokens := by
  induction h with
  | @margin blanks gap =>
    apply scan_of_none
    exact (nextToken_eq_none_iff _).mpr (List.dropWhile_eq_nil_iff.mpr ((isGap_iff blanks).mp gap))
  | @item blanks token rest gap ends apart proper ih =>
    have hnext :
        nextToken (Layout.item blanks token rest).line.toList = some (token, rest.line.toList) :=
      nextToken_eq_some_iff.mpr ⟨blanks, gap, toList_line_item blanks token rest, ends,
        fun hword => proper.atBoundary_line (apart hword)⟩
    rw [tokenize, scan_of_some hnext, tokens, ← ih, tokenize]

theorem exists_proper_scan (text : List Char) :
    ∃ layout : Layout, layout.line.toList = text ∧ layout.tokens = scan text ∧ layout.Proper := by
  fun_induction scan text with
  | case1 text h =>
    refine ⟨.margin (String.ofList text), String.toList_ofList, rfl, .margin ?_⟩
    rw [isGap_iff, String.toList_ofList]
    exact List.dropWhile_eq_nil_iff.mp ((nextToken_eq_none_iff text).mp h)
  | case2 text token rest h ih =>
    obtain ⟨blanks, hgap, rfl, hends, hboundary⟩ := nextToken_eq_some_iff.mp h
    obtain ⟨layout, rfl, htokens, hproper⟩ := ih
    refine ⟨.item blanks token layout, toList_line_item blanks token layout, ?_,
      .item hgap hends ?_ hproper⟩
    · rw [tokens, htokens]
    -- a word stops at a boundary, and no word starts at one
    rintro hword next more rfl
    cases hproper with
    | item _ hnext _ _ =>
      have hstart := Word.EndsBefore.atBoundary_append hnext
      have hstop := hboundary hword
      rw [toList_line_item] at hstop
      exact absurd (hstop.symm.trans hstart) (by decide)

theorem exists_proper (line : String) :
    ∃ layout : Layout, layout.line = line ∧ layout.tokens = tokenize line ∧ layout.Proper := by
  obtain ⟨layout, hline, htokens, hproper⟩ := exists_proper_scan line.toList
  exact ⟨layout, String.toList_inj.mp hline, htokens, hproper⟩

end Layout

/-- Nothing of a line is lost or moved: its tokens are those of its proper layouts, in which words
are not empty and kept apart by blanks, and operators are as long as they can be. -/
theorem tokenize_eq_iff_layout (line : String) (tokens : List Token) :
    tokenize line = tokens ↔
      ∃ layout : Layout, layout.line = line ∧ layout.tokens = tokens ∧ layout.Proper := by
  constructor
  · rintro rfl
    exact Layout.exists_proper line
  · rintro ⟨layout, rfl, rfl, hproper⟩
    exact hproper.tokenize_line

-- the first two of three characters make the operator, and a single `&` stays in its word
example : tokenize "a&&&b>>>c" =
    [.word "a", .and, .word "&b", .redirect .append, .redirect .output, .word "c"] := by
  decide +kernel

theorem Token.text_ne_nil_of_endsBefore {token : Token} {following : List Char}
    (h : token.EndsBefore following) : token.text.toList ≠ [] := by
  cases token with
  | word text => exact h.ne_nil
  | redirect op => cases op <;> simp [Token.text, RedirectOp.text]
  | _ => simp [Token.text]

theorem Token.EndsBefore.of_space {token : Token} {following after : List Char}
    (h : token.EndsBefore following) (hend : following = [] → after = [])
    (hspace : ∀ c, after.head? = some c → c = ' ') : token.EndsBefore after := by
  have hhead (c : Char) (hc : c ≠ ' ') : after.head? ≠ some c := fun hafter => hc (hspace c hafter)
  cases token with
  | word text =>
    refine ⟨h.ne_nil, ?_, fun hafter => h.finished (mt hend hafter)⟩
    intro front c back htext hbare
    obtain ⟨hc, hpair⟩ := h.unbroken front c back htext hbare
    refine ⟨hc, fun hamp => ?_⟩
    cases back with
    | nil => exact hhead '&' (by decide)
    | cons d back => exact hpair hamp
  | pipe => exact hhead '|' (by decide)
  | redirect op =>
    cases op with
    | input => exact hhead '<' (by decide)
    | output => exact hhead '>' (by decide)
    | append | hereDoc => trivial
  | and | or | semicolon => trivial
  | endOfInput => cases h

namespace Layout

def spaced (blanks : String) : Layout → Layout
  | .margin _ => .margin ""
  | .item _ token rest => .item blanks token (rest.spaced " ")

theorem tokens_spaced (blanks : String) (layout : Layout) :
    (layout.spaced blanks).tokens = layout.tokens := by
  induction layout generalizing blanks with
  | margin => rfl
  | item _ token rest ih => rw [spaced, tokens, tokens, ih]

theorem line_spaced (layout : Layout) :
    (layout.spaced "").line = " ".intercalate (layout.tokens.map Token.text) := by
  induction layout with
  | margin => rfl
  | item _ token rest ih =>
    cases rest with
    | margin => simp [spaced, line, tokens]
    | item _ next more =>
      simp only [tokens, List.map_cons] at ih ⊢
      rw [String.intercalate_cons_cons, ← ih]
      simp [spaced, line, String.append_assoc]

theorem Proper.line_ne_nil {layout : Layout} (h : layout.Proper) (htokens : layout.tokens ≠ []) :
    layout.line.toList ≠ [] := by
  cases h with
  | margin => exact absurd rfl htokens
  | item gap ends apart proper =>
    rw [toList_line_item]
    simp [Token.text_ne_nil_of_endsBefore ends]

theorem Proper.spaced {layout : Layout} (h : layout.Proper) {blanks : String}
    (hblanks : IsGap blanks) : (layout.spaced blanks).Proper := by
  have hspace : IsGap " " := by simp [IsGap]
  induction h generalizing blanks with
  | margin => exact .margin (by simp [IsGap])
  | @item _ token rest gap ends apart proper ih =>
    refine .item hblanks (ends.of_space ?_ ?_) ?_ (ih hspace)
    · intro hend
      cases rest with
      | margin => rfl
      | item => exact absurd hend (proper.line_ne_nil (by simp [tokens]))
    · cases rest with
      | margin => simp [Layout.spaced, line]
      | item => simp [Layout.spaced, line]
    · intro hword next more
      cases rest <;> simp [Layout.spaced]

end Layout

/-- The texts of the tokens of a line, with single spaces between them, have these tokens again. -/
theorem tokenize_texts_of_tokenize (line : String) :
    tokenize (" ".intercalate ((tokenize line).map Token.text)) = tokenize line := by
  obtain ⟨layout, -, htokens, hproper⟩ := Layout.exists_proper line
  have hspaced : (layout.spaced "").Proper := hproper.spaced (by simp [IsGap])
  rw [← htokens]
  calc tokenize (" ".intercalate (layout.tokens.map Token.text))
    _ = tokenize (layout.spaced "").line := by rw [Layout.line_spaced]
    _ = (layout.spaced "").tokens := hspaced.tokenize_line
    _ = layout.tokens := layout.tokens_spaced ""

end CommandShell
