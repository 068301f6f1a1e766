import CommandShell.Proofs.Validation

/-!
# The token that gets the blame

A syntax error names a token. It is the first one with which the tokens read so far can no longer
be the beginning of a line; where the line only ends too early, it is the end of input. A run of
redirection operators is the one thing that validation blames in another way.
-/

namespace CommandShell

namespace Grammar

/-- The tokens are the beginning of a list of the language, or all of it. -/
def Extends (language : Language Token) (tokens : List Token) : Prop :=
  ∃ more, tokens ++ more ∈ language

/-- The first token such that the tokens up to it, itself included, cannot be extended. -/
structure Culprit (language : Language Token) (tokens : List Token) (place : Nat)
    (token : Token) : Prop where
  stands : tokens[place]? = some token
  refused : ¬ Extends language (tokens.take (place + 1))
  first : ∀ earlier < place, Extends language (tokens.take (earlier + 1))

/-- The text names the culprit, or the end of input if there is none. -/
structure Blames (language : Language Token) (tokens : List Token) (text : String) : Prop where
  culprit : ∀ place token, Culprit language tokens place token → text = token.text
  unfinished : (∀ place token, ¬ Culprit language tokens place token) → text = "newline"

variable {language later : Language Token} {tokens front rest : List Token} {token : Token}

theorem Extends.of_append (h : Extends language (front ++ rest)) : Extends language front := by
  obtain ⟨more, hmore⟩ := h
  exact ⟨rest ++ more, by rwa [← List.append_assoc]⟩

theorem Extends.take (h : Extends language tokens) (count : Nat) :
    Extends language (tokens.take count) := by
  rw [← List.take_append_drop count tokens] at h
  exact h.of_append

theorem Extends.not_culprit (h : Extends language tokens) (place : Nat) :
    ¬ Culprit language tokens place token :=
  fun hculprit => hculprit.refused (h.take (place + 1))

theorem Extends.blames (h : Extends language tokens) : Blames language tokens "newline" :=
  ⟨fun place _ hculprit => absurd hculprit (h.not_culprit place), fun _ => rfl⟩

theorem culprit_of_append (hfront : Extends language front)
    (htoken : ¬ Extends language (front ++ [token])) (rest : List Token) :
    Culprit language (front ++ token :: rest) front.length token := by
  refine ⟨by simp, ?_, fun earlier hearlier => ?_⟩
  · rwa [List.take_length_add_append]
  · rw [List.take_append_of_le_length hearlier]
    exact hfront.take (earlier + 1)

theorem Culprit.unique {place other : Nat} {second : Token}
    (h : Culprit language tokens place token) (hother : Culprit language tokens other second) :
    place = other ∧ token = second := by
  have hplace : place = other := by
    rcases Nat.lt_trichotomy place other with hlt | heq | hgt
    · exact absurd (hother.first place hlt) h.refused
    · exact heq
    · exact absurd (h.first other hgt) hother.refused
  subst hplace
  exact ⟨rfl, Option.some.inj (h.stands.symm.trans hother.stands)⟩

theorem Culprit.blames {place : Nat} (h : Culprit language tokens place token) :
    Blames language tokens token.text :=
  ⟨fun _ _ hother => by rw [(h.unique hother).2], fun hnone => absurd h (hnone place token)⟩

structure Follows (language : Language Token) (front : List Token) (later : Language Token) :
    Prop where
  mem : ∀ more, front ++ more ∈ language ↔ more ∈ later
  inhabited : ∃ more, more ∈ later

theorem Follows.extends (h : Follows language front later) : Extends language front := by
  obtain ⟨more, hmore⟩ := h.inhabited
  exact ⟨more, (h.mem more).mpr hmore⟩

theorem Follows.extends_append_iff (h : Follows language front later) (tokens : List Token) :
    Extends language (front ++ tokens) ↔ Extends later tokens := by
  refine exists_congr fun more => ?_
  rw [List.append_assoc, h.mem]

theorem Follows.culprit_iff (h : Follows language front later) (rest : List Token) (place : Nat) :
    Culprit language (front ++ rest) (front.length + place) token ↔
      Culprit later rest place token := by
  have htake (count : Nat) : Extends language ((front ++ rest).take (front.length + count + 1)) ↔
      Extends later (rest.take (count + 1)) := by
    rw [Nat.add_assoc, List.take_length_add_append, h.extends_append_iff]
  have hstands : (front ++ rest)[front.length + place]? = rest[place]? := by
    rw [List.getElem?_append_right (Nat.le_add_right _ _), Nat.add_sub_cancel_left]
  constructor
  · intro hculprit
    refine ⟨hstands ▸ hculprit.stands, fun hextends => ?_, fun earlier hearlier => ?_⟩
    · exact hculprit.refused ((htake place).mpr hextends)
    · exact (htake earlier).mp (hculprit.first _ (Nat.add_lt_add_left hearlier _))
  · intro hculprit
    refine ⟨hstands ▸ hculprit.stands, fun hextends => ?_, fun earlier hearlier => ?_⟩
    · exact hculprit.refused ((htake place).mp hextends)
    · rcases Nat.lt_or_ge earlier front.length with hlt | hge
      · rw [List.take_append_of_le_length hlt]
        exact h.extends.take (earlier + 1)
      · obtain ⟨count, rfl⟩ := Nat.exists_eq_add_of_le hge
        exact (htake count).mpr (hculprit.first count (Nat.lt_of_add_lt_add_left hearlier))

theorem Follows.exists_culprit (h : Follows language front later) {place : Nat}
    (hculprit : Culprit language (front ++ rest) place token) :
    ∃ shifted, place = front.length + shifted ∧ Culprit later rest shifted token := by
  rcases Nat.lt_or_ge place front.length with hlt | hge
  · have htake : (front ++ rest).take (place + 1) = front.take (place + 1) :=
      List.take_append_of_le_length hlt
    exact absurd (htake ▸ h.extends.take (place + 1)) hculprit.refused
  · obtain ⟨shifted, rfl⟩ := Nat.exists_eq_add_of_le hge
    exact ⟨shifted, rfl, (h.culprit_iff rest shifted).mp hculprit⟩

theorem Follows.blames (h : Follows language front later) {text : String}
    (hrest : Blames later rest text) : Blames language (front ++ rest) text := by
  constructor
  · intro place token hculprit
    obtain ⟨shifted, -, hshifted⟩ := h.exists_culprit hculprit
    exact hrest.culprit shifted token hshifted
  · intro hnone
    refine hrest.unfinished fun place token hculprit => ?_
    exact hnone _ token ((h.culprit_iff rest place).mpr hculprit)

end Grammar

namespace Remainder

open Grammar

variable (strict started : Bool)

theorem exists_mem_readable : ∃ tokens, tokens ∈ readable strict started := by
  refine ⟨[.word ""], (word_mem_readable strict started "" []).mpr ?_⟩
  exact nil_mem_remainder _

theorem extends_nil : Extends (readable strict started) [] :=
  exists_mem_readable strict started

theorem follows_word (text : String) :
    Follows (readable strict started) [.word text] (readable strict true) :=
  ⟨word_mem_readable strict started text, exists_mem_readable strict true⟩

theorem follows_redirection {strict started : Bool} (hstart : strict → started) (op : RedirectOp)
    (text : String) :
    Follows (readable strict started) [.redirect op, .word text] (readable strict true) := by
  refine ⟨fun more => ?_, exists_mem_readable strict true⟩
  refine (redirect_mem_readable strict started op (.word text :: more)).trans ?_
  rw [word_mem_readable]
  exact ⟨fun h => h.2.2, fun h => ⟨hstart, rfl, h⟩⟩

theorem follows_pipe : Follows (readable strict true) [.pipe] (readable strict false) :=
  ⟨pipe_mem_remainder _, exists_mem_readable strict false⟩

theorem follows_connective (connective : Connective) :
    Follows (readable strict true) [connective.token] (readable strict false) := by
  refine ⟨fun more => ?_, exists_mem_readable strict false⟩
  cases connective with
  | and => exact and_mem_remainder _ more
  | or => exact or_mem_remainder _ more

theorem extends_redirect {strict started : Bool} (hstart : strict → started) (op : RedirectOp) :
    Extends (readable strict started) [.redirect op] := by
  have hpair : Extends (readable strict started) ([.redirect op] ++ [.word ""]) :=
    (follows_redirection hstart op "").extends
  exact hpair.of_append

theorem not_extends_redirect {next : Token} (hnext : next.isWord = false) (op : RedirectOp) :
    ¬ Extends (readable strict started) ([.redirect op] ++ [next]) := by
  rintro ⟨more, hmore⟩
  have hword := ((redirect_mem_readable strict started op (next :: more)).mp hmore).2.1
  rw [Token.startsWithWord_cons, hnext] at hword
  exact Bool.false_ne_true hword

theorem not_extends_semicolon : ¬ Extends (readable strict started) [.semicolon] := by
  have hstarted (more : List Token) : .semicolon :: more ∉ readable strict true :=
    semicolon_notMem_remainder _ more
  rintro ⟨more, hmore⟩
  cases started with
  | true => exact hstarted more hmore
  | false => exact hstarted more ((mem_readable_false_iff strict _).mp hmore).2

/-- What joins two commands cannot begin one. -/
theorem not_extends_control {token : Token} (h : token.isControl = true) :
    ¬ Extends (readable strict false) [token] := by
  rintro ⟨more, hmore⟩
  have hstart := ((mem_readable_false_iff strict _).mp hmore).1
  cases token <;> cases strict <;> simp_all [Token.isControl, Token.isWord, Token.isRedirect]

theorem blames_headText {tokens : List Token} (hend : .endOfInput ∉ tokens)
    (hword : Token.startsWithOperand tokens = false) :
    Blames (readable false false) tokens (Token.headText tokens) := by
  cases tokens with
  | nil => exact (extends_nil false false).blames
  | cons token rest =>
    have hrefused : ¬ Extends (readable false false) [token] := by
      cases token with
      | word text => cases hword
      | redirect op => cases hword
      | pipe | and | or => exact not_extends_control false rfl
      | semicolon => exact not_extends_semicolon false false
      | endOfInput => exact absurd List.mem_cons_self hend
    exact (culprit_of_append (extends_nil false false) hrefused rest).blames

theorem blames_redirect {strict started : Bool} (hstart : strict → started) (op : RedirectOp)
    {rest : List Token} (hword : Token.startsWithWord rest = false) :
    Blames (readable strict started) (.redirect op :: rest) (Token.headText rest) := by
  cases rest with
  | nil => exact (extends_redirect hstart op).blames
  | cons next more =>
    exact (culprit_of_append (extends_redirect hstart op)
      (not_extends_redirect strict started hword op) more).blames

theorem map_eq_error {f : Remainder → Remainder} {result : Except ShellError Remainder}
    {error : ShellError} (h : result.map f = .error error) : result = .error error := by
  cases result with
  | error cause => exact congrArg _ (Except.error.inj h)
  | ok remainder => cases h

theorem blames_of_read {started : Bool} {tokens : List Token} {error : ShellError}
    (hend : .endOfInput ∉ tokens) (h : read started tokens = .error error) :
    ∃ text, error = .unexpectedToken text ∧ Blames (readable false started) tokens text := by
  fun_induction read started tokens with
  | case1 started text rest ih =>
    obtain ⟨blamed, rfl, hblames⟩ := ih (by simp_all) (map_eq_error h)
    exact ⟨blamed, rfl, (follows_word false started text).blames hblames⟩
  | case2 started op text rest ih =>
    obtain ⟨blamed, rfl, hblames⟩ := ih (by simp_all) (map_eq_error h)
    have hstart : false = true → started = true := fun h => absurd h Bool.false_ne_true
    exact ⟨blamed, rfl, (follows_redirection hstart op text).blames hblames⟩
  | case3 started op rest hrest =>
    have hstart : false = true → started = true := fun h => absurd h Bool.false_ne_true
    refine ⟨_, (Except.error.inj h).symm, blames_redirect hstart op ?_⟩
    rcases rest with _ | ⟨next, more⟩
    · rfl
    · cases next <;> simp_all [Token.isWord]
  | case4 rest _ _ _ ih =>
    obtain ⟨blamed, rfl, hblames⟩ := ih (by simp_all) (map_eq_error h)
    exact ⟨blamed, rfl, (follows_pipe false).blames hblames⟩
  | case5 rest _ _ _ ih =>
    obtain ⟨blamed, rfl, hblames⟩ := ih (by simp_all) (map_eq_error h)
    exact ⟨blamed, rfl, (follows_connective false .and).blames hblames⟩
  | case6 rest _ _ _ ih =>
    obtain ⟨blamed, rfl, hblames⟩ := ih (by simp_all) (map_eq_error h)
    exact ⟨blamed, rfl, (follows_connective false .or).blames hblames⟩
  | case7 rest =>
    have hculprit := culprit_of_append (extends_nil false true) (not_extends_semicolon false true)
      rest
    exact ⟨_, (Except.error.inj h).symm, hculprit.blames⟩
  | case8 => cases h
  | case9 started tokens _ _ _ hstarted =>
    obtain rfl : started = false := by simpa using hstarted
    refine ⟨_, (Except.error.inj h).symm, blames_headText hend ?_⟩
    rcases tokens with _ | ⟨token, rest⟩
    · rfl
    · cases token <;> simp_all [Token.isWord, Token.isRedirect]

end Remainder

theorem blames_of_parseTokens {tokens : List Token} {error : ShellError}
    (hend : .endOfInput ∉ tokens) (h : parseTokens tokens = .error error) :
    ∃ text, error = .unexpectedToken text ∧
      Grammar.Blames (Grammar.list Grammar.lenientCommand) tokens text := by
  by_cases hne : tokens = []
  · subst hne
    cases h
  · rw [parseTokens_of_ne_nil hne hend] at h
    cases hread : Remainder.read false tokens with
    | ok remainder =>
      rw [hread] at h
      cases h
    | error cause =>
      rw [hread] at h
      obtain rfl : cause = error := Except.error.inj h
      exact Remainder.blames_of_read hend hread

namespace Token

open Grammar Remainder

def RunsOn (tokens : List Token) (place : Nat) : Prop :=
  ∃ before first second, place = before + 1 ∧ tokens[before]? = some (.redirect first) ∧
    tokens[place]? = some (.redirect second)

/-- The text is blamed rightly, unless the culprit continues a run of redirection operators. -/
def BlamesOutsideRuns (language : Language Token) (tokens : List Token) (text : String) : Prop :=
  (∃ place token, Culprit language tokens place token ∧ RunsOn tokens place) ∨
    Blames language tokens text

theorem RunsOn.append {rest : List Token} {place : Nat} (h : RunsOn rest place)
    (front : List Token) : RunsOn (front ++ rest) (front.length + place) := by
  obtain ⟨before, first, second, rfl, hfirst, hsecond⟩ := h
  refine ⟨front.length + before, first, second, rfl, ?_, ?_⟩
  · rwa [List.getElem?_append_right (Nat.le_add_right _ _), Nat.add_sub_cancel_left]
  · rwa [List.getElem?_append_right (Nat.le_add_right _ _), Nat.add_sub_cancel_left]

theorem BlamesOutsideRuns.append {language later : Language Token} {front rest : List Token}
    {text : String} (hfront : Follows language front later)
    (h : BlamesOutsideRuns later rest text) : BlamesOutsideRuns language (front ++ rest) text := by
  rcases h with ⟨place, token, hculprit, hruns⟩ | hblames
  · exact .inl ⟨_, token, (hfront.culprit_iff rest place).mpr hculprit, hruns.append front⟩
  · exact .inr (hfront.blames hblames)

theorem follows_operator {token : Token} (h : (token.isControl || token.isRedirect) = true) :
    Follows (readable true true) [token] (readable true false) := by
  cases token with
  | pipe => exact follows_pipe true
  | and => exact follows_connective true .and
  | or => exact follows_connective true .or
  | redirect op =>
    refine ⟨fun more => ?_, exists_mem_readable true false⟩
    rw [mem_readable_false_iff]
    exact redirect_mem_remainder _ more op
  | word text | semicolon | endOfInput => cases h

theorem not_extends_of_not_isWord {token : Token} (h : token.isWord = false) :
    ¬ Extends (readable true false) [token] := by
  rintro ⟨more, hmore⟩
  have hstart := ((mem_readable_false_iff true _).mp hmore).1
  exact absurd (h.symm.trans hstart) Bool.false_ne_true

/-- Behind what joins or redirects, anything but a word is the culprit. -/
theorem culprit_behind_operator {token next : Token}
    (h : (token.isControl || token.isRedirect) = true) (hnext : next.isWord = false)
    (more : List Token) : Culprit (readable true true) (token :: next :: more) 1 next := by
  have hculprit := culprit_of_append (extends_nil true false) (not_extends_of_not_isWord hnext) more
  exact ((follows_operator h).culprit_iff (next :: more) 0).mpr hculprit

theorem blamesOutsideRuns_of_fault? {token : Token} {rest : List Token} {text : String}
    (h : (token.isControl || token.isRedirect) = true)
    (hfault : fault? false token rest = some text) :
    BlamesOutsideRuns (readable true true) (token :: rest) text := by
  have hsemicolon : token ≠ .semicolon := by
    rintro rfl
    cases h
  cases rest with
  | nil =>
    rw [fault?, if_neg hsemicolon, Bool.false_and, if_neg Bool.false_ne_true, if_pos h] at hfault
    obtain rfl := Option.some.inj hfault
    exact .inr (follows_operator h).extends.blames
  | cons next more =>
    rw [fault?, if_neg hsemicolon, Bool.false_and, if_neg Bool.false_ne_true, if_pos h] at hfault
    split at hfault
    · rename_i hrun
      cases token <;> cases next <;> simp [isRedirect] at hrun
      exact .inl ⟨1, _, culprit_behind_operator h rfl more, 0, _, _, rfl, rfl, rfl⟩
    · split at hfault
      · cases hfault
      · rename_i hword
        obtain rfl := Option.some.inj hfault
        exact .inr (culprit_behind_operator h (by simpa using hword) more).blames

/-- The scan behind the first token. Where a command is to start, it goes on with a word. -/
theorem blamesOutsideRuns_of_firstFault? {tokens : List Token} {text : String} (started : Bool)
    (hend : .endOfInput ∉ tokens) (hstart : started = false → startsWithWord tokens = true)
    (h : firstFault? false tokens = some text) :
    BlamesOutsideRuns (readable true started) tokens text := by
  induction tokens generalizing started with
  | nil => cases h
  | cons token rest ih =>
    have hrest : .endOfInput ∉ rest := fun hmem => hend (List.mem_cons_of_mem _ hmem)
    by_cases hword : token.isWord = true
    · obtain ⟨word, rfl⟩ := exists_word_of_isWord hword
      exact (ih true hrest nofun h).append (follows_word true started word)
    · obtain rfl : started = true := by
        cases started with
        | true => rfl
        | false => exact absurd (hstart rfl) hword
      by_cases hoperator : (token.isControl || token.isRedirect) = true
      · cases hfault : fault? false token rest with
        | some blamed =>
          rw [firstFault?, hfault] at h
          obtain rfl := Option.some.inj h
          exact blamesOutsideRuns_of_fault? hoperator hfault
        | none =>
          -- the check of the operator has found a word behind it
          have hnext := ((fault?_false_eq_none_iff token rest).mp hfault).2 hoperator
          rw [firstFault?, hfault] at h
          exact (ih false hrest (fun _ => hnext) h).append (follows_operator hoperator)
      · cases token with
        | semicolon =>
          obtain rfl := Option.some.inj h
          exact .inr (culprit_of_append (extends_nil true true)
            (not_extends_semicolon true true) rest).blames
        | endOfInput => exact absurd List.mem_cons_self hend
        | word | pipe | and | or | redirect => simp_all [isWord, isControl, isRedirect]

theorem blamesOutsideRuns_of_validate {tokens : List Token} {error : ShellError}
    (hend : .endOfInput ∉ tokens) (h : validate tokens = .error error) :
    ∃ text, error = .unexpectedToken text ∧
      BlamesOutsideRuns (Grammar.list Grammar.strictCommand) tokens text := by
  cases hfault : firstFault? true tokens with
  | none =>
    rw [validate, hfault] at h
    cases h
  | some text =>
    rw [validate, hfault] at h
    refine ⟨text, (Except.error.inj h).symm, ?_⟩
    cases tokens with
    | nil => cases hfault
    | cons token rest =>
      have hrest : .endOfInput ∉ rest := fun hmem => hend (List.mem_cons_of_mem _ hmem)
      by_cases hword : token.isWord = true
      · obtain ⟨word, rfl⟩ := exists_word_of_isWord hword
        exact (blamesOutsideRuns_of_firstFault? true hrest nofun hfault).append
          (follows_word true false word)
      · have htext : text = token.text := by
          cases token <;> simp_all [firstFault?, fault?, isControl, isRedirect, isWord]
        have hrefused := not_extends_of_not_isWord (by simpa using hword)
        rw [htext]
        exact .inr (culprit_of_append (extends_nil true false) hrefused rest).blames

end Token

/-- Parser and validation blame the first token with which the line cannot go on, or the end of
input: the parser for the lenient grammar, validation for the strict one and outside runs of
redirection operators. -/
theorem syntax_errors_blame_culprit (tokens : List Token) (hend : .endOfInput ∉ tokens) :
    (∀ error, parseTokens tokens = .error error →
      ∃ text, error = .unexpectedToken text ∧
        Grammar.Blames (Grammar.list Grammar.lenientCommand) tokens text) ∧
    ∀ error, Token.validate tokens = .error error →
      ∃ text, error = .unexpectedToken text ∧
        ((∃ place token, Grammar.Culprit (Grammar.list Grammar.strictCommand) tokens place token ∧
            Token.RunsOn tokens place) ∨
          Grammar.Blames (Grammar.list Grammar.strictCommand) tokens text) := by
  constructor
  · intro error herror
    exact blames_of_parseTokens hend herror
  · intro error herror
    exact Token.blamesOutsideRuns_of_validate hend herror

theorem syntax_errors_blame_culprit_unfinished :
    let tokens : List Token :=
      [.word "ls", .pipe, .redirect .output, .word "out", .word "x", .and]
    .endOfInput ∉ tokens ∧
      parseTokens tokens = .error (.unexpectedToken "newline") ∧
      Grammar.Blames (Grammar.list Grammar.lenientCommand) tokens "newline" ∧
      Token.validate tokens = .error (.unexpectedToken ">") ∧
      Grammar.Blames (Grammar.list Grammar.strictCommand) tokens ">" := by
  intro tokens
  have hend : .endOfInput ∉ tokens := by decide
  have hparse : parseTokens tokens = .error (.unexpectedToken "newline") := rfl
  have hvalid : Token.validate tokens = .error (.unexpectedToken ">") := rfl
  obtain ⟨hparser, hvalidation⟩ := syntax_errors_blame_culprit tokens hend
  obtain ⟨_, ⟨rfl⟩, hlenient⟩ := hparser _ hparse
  obtain ⟨_, ⟨rfl⟩, hruns | hstrict⟩ := hvalidation _ hvalid
  · obtain ⟨_, _, -, before, first, second, rfl, hfirst, hsecond⟩ := hruns
    rcases before with _ | _ | _ | _ | _ | _ | before <;> simp [tokens] at hfirst hsecond
  · exact ⟨hend, hparse, hlenient, hvalid, hstrict⟩

end CommandShell
