import CommandShell.Token.Scan
import Mathlib.Data.List.TakeWhile

/-!
# Scanning across a blank

A text that ends outside quotes and without a pending backslash can be cut off at a blank: the
tokens of the whole are those of both sides. A text that ends anywhere else takes the blank into
its last word.
-/

namespace CommandShell

theorem isSeparator_iff (c : Char) : isSeparator c = true ↔ c = ' ' ∨ c = '\t' ∨ c = '\n' := by
  simp [isSeparator, or_assoc]

theorem step_separator {c : Char} (hc : isSeparator c) : Quoting.bare.step c = .bare := by
  rcases (isSeparator_iff c).mp hc with rfl | rfl | rfl <;> rfl

theorem operator?_cons (c : Char) (rest : List Char) :
    Token.operator? (c :: rest) =
      if c = '|' then
        if rest.head? = some '|' then some (.or, rest.tail) else some (.pipe, rest)
      else if c = '&' then
        if rest.head? = some '&' then some (.and, rest.tail) else none
      else if c = ';' then some (.semicolon, rest)
      else if c = '<' then
        if rest.head? = some '<' then some (.redirect .hereDoc, rest.tail)
        else some (.redirect .input, rest)
      else if c = '>' then
        if rest.head? = some '>' then some (.redirect .append, rest.tail)
        else some (.redirect .output, rest)
      else none := by
  cases rest <;> unfold Token.operator? <;> split <;> simp_all <;> grind

theorem operator?_append {c : Char} (hc : isSeparator c) (rest : List Char) {text : List Char}
    (htext : text ≠ []) :
    Token.operator? (text ++ c :: rest) =
      (Token.operator? text).map (Prod.map id (· ++ c :: rest)) := by
  obtain ⟨d, more, rfl⟩ := List.exists_cons_of_ne_nil htext
  rw [List.cons_append, operator?_cons, operator?_cons]
  rcases (isSeparator_iff c).mp hc with rfl | rfl | rfl <;> cases more <;>
    simp [apply_ite (Option.map _)]

theorem after_operator? {text rest : List Char} {token : Token}
    (h : Token.operator? text = some (token, rest)) :
    Quoting.bare.after text = Quoting.bare.after rest := by
  revert h
  fun_cases Token.operator? text <;> rintro ⟨⟩ <;> rfl

theorem atBoundary_append {c : Char} (hc : isSeparator c) (rest : List Char) {text : List Char}
    (htext : text ≠ []) : atBoundary (text ++ c :: rest) = atBoundary text := by
  have hop := operator?_append hc rest htext
  obtain ⟨d, more, rfl⟩ := List.exists_cons_of_ne_nil htext
  rw [List.cons_append] at hop ⊢
  simp only [atBoundary, hop, Option.isSome_map]

theorem atBoundary_cons_eq_false {c : Char} {rest : List Char} :
    atBoundary (c :: rest) = false ↔
      isSeparator c = false ∧ Token.operator? (c :: rest) = none := by
  simp [atBoundary]

theorem splitWord_append_eq (quoting : Quoting) (text : List Char) :
    (splitWord quoting text).1 ++ (splitWord quoting text).2 = text := by
  induction text generalizing quoting with
  | nil => rfl
  | cons c rest ih =>
    simp only [splitWord]
    split
    · rfl
    · rw [List.cons_append, ih]

theorem splitWord_of_snd_nil {quoting : Quoting} {text : List Char}
    (h : (splitWord quoting text).2 = []) : (splitWord quoting text).1 = text := by
  have heq := splitWord_append_eq quoting text
  rwa [h, List.append_nil] at heq

theorem after_splitWord {quoting : Quoting} {text : List Char}
    (h : (splitWord quoting text).2 ≠ []) : quoting.after (splitWord quoting text).1 = .bare := by
  induction text generalizing quoting with
  | nil => exact absurd rfl h
  | cons c rest ih =>
    simp only [splitWord] at h ⊢
    split
    · rename_i hstop
      simp only [Bool.and_eq_true, decide_eq_true_eq] at hstop
      exact hstop.1
    · rename_i hgo
      rw [if_neg hgo] at h
      exact ih h

theorem splitWord_bare_separator {c : Char} (hc : isSeparator c) (rest : List Char) :
    splitWord .bare (c :: rest) = ([], c :: rest) := by
  simp [splitWord, atBoundary, hc]

theorem splitWord_cons_of_ne_bare {quoting : Quoting} (hq : quoting ≠ .bare) (c : Char)
    (rest : List Char) :
    splitWord quoting (c :: rest) =
      (c :: (splitWord (quoting.step c) rest).1, (splitWord (quoting.step c) rest).2) := by
  simp [splitWord, hq]

theorem splitWord_append {c : Char} (hc : isSeparator c) (rest : List Char) (quoting : Quoting)
    (text : List Char) :
    splitWord quoting (text ++ c :: rest) =
      if (splitWord quoting text).2 = [] then
        (text ++ (splitWord (quoting.after text) (c :: rest)).1,
          (splitWord (quoting.after text) (c :: rest)).2)
      else ((splitWord quoting text).1, (splitWord quoting text).2 ++ c :: rest) := by
  induction text generalizing quoting with
  | nil => rfl
  | cons d more ih =>
    have hboundary := atBoundary_append hc rest (List.cons_ne_nil d more)
    rw [List.cons_append] at hboundary ⊢
    by_cases hstop : (quoting = .bare && atBoundary (d :: more)) = true
    · rw [splitWord, hboundary, if_pos hstop, splitWord, if_pos hstop]
      simp
    · rw [splitWord, hboundary, if_neg hstop, splitWord, if_neg hstop]
      simp only [ih, Quoting.after_cons]
      split <;> rfl

theorem after_dropSeparators (text : List Char) :
    Quoting.bare.after (text.dropWhile isSeparator) = Quoting.bare.after text := by
  induction text with
  | nil => rfl
  | cons c rest ih =>
    by_cases hc : isSeparator c = true
    · rw [List.dropWhile_cons_of_pos hc, ih, Quoting.after_cons, step_separator hc]
    · rw [List.dropWhile_cons_of_neg hc]

theorem nextToken_eq_none_iff (text : List Char) :
    nextToken text = none ↔ text.dropWhile isSeparator = [] := by
  unfold nextToken
  split
  · simp_all
  · rename_i c rest htext
    cases Token.operator? (c :: rest) <;> simp [htext]

/-- The next token is an operator, or the word that starts at the first character that is no
blank. -/
theorem nextToken_cases {text rest : List Char} {token : Token}
    (h : nextToken text = some (token, rest)) :
    ∃ body, text.dropWhile isSeparator = body ∧ body ≠ [] ∧
      (Token.operator? body = some (token, rest) ∨
        Token.operator? body = none ∧ token = .word (String.ofList (splitWord .bare body).1) ∧
          rest = (splitWord .bare body).2) := by
  unfold nextToken at h
  split at h
  · exact absurd h (by simp)
  · rename_i c tail htext
    refine ⟨c :: tail, htext, List.cons_ne_nil _ _, ?_⟩
    cases hop : Token.operator? (c :: tail) with
    | some found =>
      rw [hop] at h
      exact .inl h
    | none =>
      rw [hop] at h
      obtain ⟨rfl, rfl⟩ := Prod.mk.inj (Option.some.inj h)
      exact .inr ⟨rfl, rfl, rfl⟩

theorem nextToken_of_operator? {text body rest : List Char} {token : Token}
    (hbody : text.dropWhile isSeparator = body) (hop : Token.operator? body = some (token, rest)) :
    nextToken text = some (token, rest) := by
  unfold nextToken
  rw [hbody]
  cases body with
  | nil => exact absurd hop (by simp [Token.operator?])
  | cons c tail => simp only [hop]

theorem nextToken_of_word {text body : List Char} (hbody : text.dropWhile isSeparator = body)
    (hne : body ≠ []) (hop : Token.operator? body = none) :
    nextToken text =
      some (.word (String.ofList (splitWord .bare body).1), (splitWord .bare body).2) := by
  unfold nextToken
  rw [hbody]
  cases body with
  | nil => exact absurd rfl hne
  | cons c tail => simp only [hop]

theorem after_nextToken {text rest : List Char} {token : Token}
    (h : nextToken text = some (token, rest)) (hrest : rest ≠ []) :
    Quoting.bare.after text = Quoting.bare.after rest := by
  obtain ⟨body, hbody, -, hop | ⟨-, -, rfl⟩⟩ := nextToken_cases h
  · rw [← after_dropSeparators, hbody, after_operator? hop]
  · have hword := after_splitWord hrest
    calc Quoting.bare.after text
      _ = Quoting.bare.after body := by rw [← after_dropSeparators, hbody]
      _ = (Quoting.bare.after (splitWord .bare body).1).after (splitWord .bare body).2 := by
        rw [← Quoting.after_append, splitWord_append_eq]
      _ = Quoting.bare.after (splitWord .bare body).2 := by rw [hword]

theorem dropSeparators_append {text body : List Char} (hbody : text.dropWhile isSeparator = body)
    (hne : body ≠ []) (tail : List Char) :
    (text ++ tail).dropWhile isSeparator = body ++ tail := by
  rw [List.dropWhile_append, hbody, if_neg (by simpa using hne)]

/-- A token that stops before a blank does not depend on what stands behind it. -/
theorem nextToken_append {c : Char} (hc : isSeparator c) (tail : List Char)
    {text rest : List Char} {token : Token} (h : nextToken text = some (token, rest))
    (hstop : rest ≠ [] ∨ Quoting.bare.after text = .bare) :
    nextToken (text ++ c :: tail) = some (token, rest ++ c :: tail) := by
  obtain ⟨body, hbody, hne, hop | ⟨hop, rfl, rfl⟩⟩ := nextToken_cases h
  · apply nextToken_of_operator? (dropSeparators_append hbody hne _)
    rw [operator?_append hc tail hne, hop]
    rfl
  · rw [nextToken_of_word (dropSeparators_append hbody hne _) (by simp)
      (by rw [operator?_append hc tail hne, hop]; rfl), splitWord_append hc]
    split
    · rename_i hend
      -- the word reaches the blank, so it has to be finished there
      have hafter : Quoting.bare.after body = .bare := by
        rw [← hbody, after_dropSeparators]
        exact hstop.resolve_left (absurd hend)
      rw [hafter, splitWord_bare_separator hc, splitWord_of_snd_nil hend, hend]
      simp
    · rfl

theorem nextToken_append_unfinished {c : Char} (hc : isSeparator c) (tail : List Char)
    {text : List Char} {token : Token} (h : nextToken text = some (token, []))
    (hopen : Quoting.bare.after text ≠ .bare) :
    ∃ word more rest, token = .word (String.ofList word) ∧
      nextToken (text ++ c :: tail) = some (.word (String.ofList (word ++ c :: more)), rest) := by
  obtain ⟨body, hbody, hne, hop | ⟨hop, rfl, hrest⟩⟩ := nextToken_cases h
  · rw [← after_dropSeparators, hbody, after_operator? hop] at hopen
    exact absurd rfl hopen
  · rw [← after_dropSeparators, hbody] at hopen
    let split := splitWord ((Quoting.bare.after body).step c) tail
    refine ⟨(splitWord .bare body).1, split.1, split.2, rfl, ?_⟩
    rw [nextToken_of_word (dropSeparators_append hbody hne _) (by simp)
      (by rw [operator?_append hc tail hne, hop]; rfl), splitWord_append hc, if_pos hrest.symm,
      splitWord_cons_of_ne_bare hopen, splitWord_of_snd_nil hrest.symm]

theorem scan_of_none {text : List Char} (h : nextToken text = none) : scan text = [] := by
  rw [scan]
  split
  · rfl
  · simp_all

theorem scan_of_some {text rest : List Char} {token : Token}
    (h : nextToken text = some (token, rest)) : scan text = token :: scan rest := by
  rw [scan]
  split
  · simp_all
  · simp_all

theorem scan_separator {c : Char} (hc : isSeparator c) (text : List Char) :
    scan (c :: text) = scan text := by
  have hnext : nextToken (c :: text) = nextToken text := by
    simp only [nextToken, List.dropWhile_cons_of_pos hc]
  cases h : nextToken text with
  | none => rw [scan_of_none h, scan_of_none (hnext.trans h)]
  | some found => rw [scan_of_some h, scan_of_some (hnext.trans h)]

theorem scan_separators_append {blanks : List Char} (hblanks : ∀ c ∈ blanks, isSeparator c)
    (text : List Char) : scan (blanks ++ text) = scan text := by
  induction blanks with
  | nil => rfl
  | cons c more ih =>
    rw [List.cons_append, scan_separator (hblanks c List.mem_cons_self)]
    exact ih fun d hd => hblanks d (List.mem_cons_of_mem _ hd)

/-- A finished text and what follows a blank after it are scanned on their own. -/
theorem scan_append {c : Char} (hc : isSeparator c) (tail : List Char) {text : List Char}
    (hdone : Quoting.bare.after text = .bare) :
    scan (text ++ c :: tail) = scan text ++ scan tail := by
  fun_induction scan text with
  | case1 text h =>
    have hblanks := List.dropWhile_eq_nil_iff.mp ((nextToken_eq_none_iff text).mp h)
    rw [scan_separators_append hblanks, scan_separator hc, List.nil_append]
  | case2 text token rest h ih =>
    rw [scan_of_some (nextToken_append hc tail h (.inr hdone)), List.cons_append]
    congr 1
    apply ih
    by_cases hrest : rest = []
    · rw [hrest, Quoting.after_nil]
    · rw [← after_nextToken h hrest, hdone]

/-- An unfinished text ends in a word, and that word takes a blank and more. -/
theorem scan_append_unfinished {c : Char} (hc : isSeparator c) (tail : List Char)
    {text : List Char} (hopen : Quoting.bare.after text ≠ .bare) :
    ∃ tokens word more following, scan text = tokens ++ [.word (String.ofList word)] ∧
      scan (text ++ c :: tail) =
        tokens ++ .word (String.ofList (word ++ c :: more)) :: following := by
  fun_induction scan text with
  | case1 text h =>
    rw [← after_dropSeparators, (nextToken_eq_none_iff text).mp h] at hopen
    exact absurd rfl hopen
  | case2 text token rest h ih =>
    by_cases hrest : rest = []
    · subst hrest
      obtain ⟨word, more, after, rfl, hnext⟩ := nextToken_append_unfinished hc tail h hopen
      refine ⟨[], word, more, scan after, ?_, scan_of_some hnext⟩
      rw [scan_of_none (by rfl), List.nil_append]
    · rw [after_nextToken h hrest] at hopen
      obtain ⟨tokens, word, more, following, hscan, happend⟩ := ih hopen
      refine ⟨token :: tokens, word, more, following, by rw [hscan, List.cons_append], ?_⟩
      rw [scan_of_some (nextToken_append hc tail h (.inl hrest)), happend, List.cons_append]

theorem operator?_ne_endOfInput {text rest : List Char} {token : Token}
    (h : Token.operator? text = some (token, rest)) : token ≠ .endOfInput := by
  revert h
  fun_cases Token.operator? text <;> rintro ⟨⟩ <;> simp

theorem endOfInput_notMem_tokenize (line : String) : .endOfInput ∉ tokenize line := by
  unfold tokenize
  fun_induction scan line.toList with
  | case1 => simp
  | case2 text token rest h ih =>
    have htoken : token ≠ .endOfInput := by
      obtain ⟨body, -, -, hop | ⟨-, rfl, -⟩⟩ := nextToken_cases h
      · exact operator?_ne_endOfInput hop
      · simp
    simp [ih, htoken.symm]

/-- The text of the token is a finished text with this token only. -/
structure Token.StandsAlone (token : Token) : Prop where
  scanned : tokenize token.text = [token]
  finished : Quoting.bare.after token.text.toList = .bare

theorem Token.standsAlone_of_nextToken {token : Token}
    (hnext : nextToken token.text.toList = some (token, []))
    (hfinished : Quoting.bare.after token.text.toList = .bare) : token.StandsAlone := by
  refine ⟨?_, hfinished⟩
  rw [tokenize, scan_of_some hnext, scan_of_none rfl]

theorem tokenize_intercalate {tokens : List Token} (h : ∀ token ∈ tokens, token.StandsAlone) :
    tokenize (" ".intercalate (tokens.map Token.text)) = tokens := by
  induction tokens with
  | nil => exact scan_of_none rfl
  | cons token rest ih =>
    obtain ⟨⟨hscanned, hfinished⟩, hrest⟩ := List.forall_mem_cons.mp h
    cases rest with
    | nil => simpa using hscanned
    | cons next more =>
      let tail := " ".intercalate ((next :: more).map Token.text)
      have hchars : (" ".intercalate ((token :: next :: more).map Token.text)).toList =
          token.text.toList ++ ' ' :: tail.toList := by
        simp [tail, String.intercalate_cons_cons]
      calc tokenize (" ".intercalate ((token :: next :: more).map Token.text))
        _ = scan (token.text.toList ++ ' ' :: tail.toList) := by rw [tokenize, hchars]
        _ = tokenize token.text ++ tokenize tail := scan_append rfl _ hfinished
        _ = token :: next :: more := by rw [hscanned, ih hrest, List.singleton_append]

/-- Two lines joined by a blank have the tokens of the one and then those of the other, exactly if
the first ends outside quotes and without a pending backslash. -/
theorem tokenize_append_blank_iff (a b : String) (c : Char) (hc : c ∈ [' ', '\t', '\n']) :
    tokenize (a ++ String.singleton c ++ b) = tokenize a ++ tokenize b ↔
      unclosedQuote a = none ∧ endsWithContinuation a = false := by
  have hseparator : isSeparator c = true := by simpa [isSeparator_iff] using hc
  have hstate : (unclosedQuote a = none ∧ endsWithContinuation a = false) ↔
      Quoting.bare.after a.toList = .bare := by
    unfold unclosedQuote endsWithContinuation
    cases Quoting.bare.after a.toList <;> simp [Quoting.openQuote]
  have hchars : (a ++ String.singleton c ++ b).toList = a.toList ++ c :: b.toList := by simp
  rw [hstate, tokenize, tokenize, tokenize, hchars]
  constructor
  · intro hjoin
    by_contra hopen
    obtain ⟨tokens, word, more, following, hscan, happend⟩ :=
      scan_append_unfinished hseparator b.toList hopen
    -- both scans agree before the last word of `a`, and there one word is longer
    rw [happend, hscan, List.append_assoc, List.append_cancel_left_eq] at hjoin
    have hword : word ++ c :: more = word := by
      simpa using (List.cons.inj hjoin).1
    simp at hword
  · exact scan_append hseparator b.toList

theorem tokenize_append_blank_iff_open :
    '\n' ∈ [' ', '\t', '\n'] ∧
      ¬ (tokenize ("cat 'a" ++ String.singleton '\n' ++ "b' | wc") =
        tokenize "cat 'a" ++ tokenize "b' | wc") :=
  ⟨by decide, fun h =>
    absurd ((tokenize_append_blank_iff "cat 'a" "b' | wc" '\n' (by decide)).mp h).1 (by decide)⟩

end CommandShell
