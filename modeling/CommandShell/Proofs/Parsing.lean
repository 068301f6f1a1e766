import CommandShell.Pipeline.Parse
import CommandShell.Proofs.Grammar

/-!
# What the parser takes and what it makes of it
-/

namespace CommandShell

def Connective.token : Connective → Token
  | .and => .and
  | .or => .or

namespace Remainder

/-- The successful ways of reading on, one for each token that can come next. With `strict` a
command that has not started cannot begin with a redirection. -/
inductive Reads (strict : Bool) : Bool → List Token → Remainder → Prop
  | done : Reads strict true [] {}
  | word {started : Bool} {text : String} {rest : List Token} {remainder : Remainder} :
      Reads strict true rest remainder →
        Reads strict started (.word text :: rest) (remainder.addWord text)
  | redirection {started : Bool} {op : RedirectOp} {text : String} {rest : List Token}
      {remainder : Remainder} :
      (strict → started) → Reads strict true rest remainder →
        Reads strict started (.redirect op :: .word text :: rest)
          (remainder.addRedirection (.ofWord op text))
  | pipe {rest : List Token} {remainder : Remainder} :
      Reads strict false rest remainder → Reads strict true (.pipe :: rest) remainder.afterPipe
  | connective {connective : Connective} {rest : List Token} {remainder : Remainder} :
      Reads strict false rest remainder →
        Reads strict true (connective.token :: rest) (remainder.afterConnective connective)

theorem read_of_reads {strict started : Bool} {tokens : List Token} {remainder : Remainder}
    (h : Reads strict started tokens remainder) : read started tokens = .ok remainder := by
  induction h with
  | done => rfl
  | word _ ih => rw [read, ih]; rfl
  | redirection _ _ ih => rw [read, ih]; rfl
  | pipe _ ih => simp only [read, ih, if_true]; rfl
  | @connective connective _ _ _ ih =>
    cases connective <;> simp only [Connective.token, read, ih, if_true] <;> rfl

private theorem map_eq_ok {f : Remainder → Remainder} {result : Except ShellError Remainder}
    {remainder : Remainder} (h : result.map f = .ok remainder) :
    ∃ before, result = .ok before ∧ f before = remainder := by
  cases result with
  | error e => exact absurd h (by simp [Except.map])
  | ok before => exact ⟨before, rfl, Except.ok.inj h⟩

theorem reads_of_read {started : Bool} {tokens : List Token} {remainder : Remainder}
    (hend : .endOfInput ∉ tokens) (h : read started tokens = .ok remainder) :
    Reads false started tokens remainder := by
  fun_induction read started tokens generalizing remainder with
  | case1 started text rest ih =>
    obtain ⟨before, hread, rfl⟩ := map_eq_ok h
    exact .word (ih (by simp_all) hread)
  | case2 started op text rest ih =>
    obtain ⟨before, hread, rfl⟩ := map_eq_ok h
    exact .redirection nofun (ih (by simp_all) hread)
  | case3 => exact absurd h (by simp)
  | case4 rest _ _ _ ih =>
    obtain ⟨before, hread, rfl⟩ := map_eq_ok h
    exact .pipe (ih (by simp_all) hread)
  | case5 rest _ _ _ ih =>
    obtain ⟨before, hread, rfl⟩ := map_eq_ok h
    exact @Reads.connective _ .and _ _ (ih (by simp_all) hread)
  | case6 rest _ _ _ ih =>
    obtain ⟨before, hread, rfl⟩ := map_eq_ok h
    exact @Reads.connective _ .or _ _ (ih (by simp_all) hread)
  | case7 => exact absurd h (by simp)
  | case8 tokens =>
    -- reading also stops at an end of input, which `hend` rules out
    obtain rfl : tokens = [] := by
      cases tokens with
      | nil => rfl
      | cons token rest => cases token <;> simp_all
    rw [← Except.ok.inj h]
    exact .done
  | case9 => exact absurd h (by simp)

def opening (strict : Bool) : Language Token :=
  if strict then Grammar.word else Grammar.operand

/-- The lists that can be read inside a command that has started, and those that can be read where
a command is to start. -/
def readable (strict started : Bool) : Language Token :=
  if started then Grammar.remainder (opening strict)
  else Grammar.list (Grammar.command (opening strict))

theorem mem_readable_false_iff (strict : Bool) (tokens : List Token) :
    tokens ∈ readable strict false ↔
      (if strict then Token.startsWithWord tokens else Token.startsWithOperand tokens) ∧
        tokens ∈ readable strict true := by
  cases strict
  · exact Grammar.mem_lenient_list_iff tokens
  · exact Grammar.mem_strict_list_iff tokens

theorem word_mem_readable (strict started : Bool) (text : String) (rest : List Token) :
    .word text :: rest ∈ readable strict started ↔ rest ∈ readable strict true := by
  cases started
  · rw [mem_readable_false_iff]
    cases strict <;> simp [readable, Token.isWord]
  · simp [readable]

theorem redirect_mem_readable (strict started : Bool) (op : RedirectOp) (rest : List Token) :
    .redirect op :: rest ∈ readable strict started ↔
      (strict → started) ∧ Token.startsWithWord rest ∧ rest ∈ readable strict true := by
  cases started
  · rw [mem_readable_false_iff]
    cases strict <;> simp [readable, Token.isWord, Token.isRedirect]
  · simp [readable]

theorem Reads.mem_readable {strict started : Bool} {tokens : List Token} {remainder : Remainder}
    (h : Reads strict started tokens remainder) : tokens ∈ readable strict started := by
  induction h with
  | done => exact Grammar.nil_mem_remainder _
  | word _ ih => exact (word_mem_readable _ _ _ _).mpr ih
  | redirection hstart _ ih =>
    exact (redirect_mem_readable _ _ _ _).mpr ⟨hstart, rfl, (word_mem_readable _ _ _ _).mpr ih⟩
  | pipe _ ih => exact (Grammar.pipe_mem_remainder _ _).mpr ih
  | @connective connective _ _ _ ih =>
    cases connective with
    | and => exact (Grammar.and_mem_remainder _ _).mpr ih
    | or => exact (Grammar.or_mem_remainder _ _).mpr ih

theorem exists_reads {strict started : Bool} {tokens : List Token}
    (h : tokens ∈ readable strict started) :
    ∃ remainder, Reads strict started tokens remainder := by
  fun_induction read started tokens with
  | case1 started text rest ih =>
    obtain ⟨remainder, hreads⟩ := ih ((word_mem_readable _ _ _ _).mp h)
    exact ⟨_, .word hreads⟩
  | case2 started op text rest ih =>
    obtain ⟨hstart, -, hword⟩ := (redirect_mem_readable _ _ _ _).mp h
    obtain ⟨remainder, hreads⟩ := ih ((word_mem_readable _ _ _ _).mp hword)
    exact ⟨_, .redirection hstart hreads⟩
  | case3 started op rest hrest =>
    obtain ⟨-, hword, -⟩ := (redirect_mem_readable _ _ _ _).mp h
    rcases rest with _ | ⟨token, more⟩
    · exact absurd hword (by decide)
    · cases token <;> simp_all [Token.isWord]
  | case4 rest _ _ _ ih =>
    obtain ⟨remainder, hreads⟩ := ih ((Grammar.pipe_mem_remainder _ _).mp h)
    exact ⟨_, .pipe hreads⟩
  | case5 rest _ _ _ ih =>
    obtain ⟨remainder, hreads⟩ := ih ((Grammar.and_mem_remainder _ _).mp h)
    exact ⟨_, @Reads.connective _ .and _ _ hreads⟩
  | case6 rest _ _ _ ih =>
    obtain ⟨remainder, hreads⟩ := ih ((Grammar.or_mem_remainder _ _).mp h)
    exact ⟨_, @Reads.connective _ .or _ _ hreads⟩
  | case7 rest => exact absurd h (Grammar.semicolon_notMem_remainder _ _)
  | case8 tokens =>
    rcases tokens with _ | ⟨token, rest⟩
    · exact ⟨_, .done⟩
    · cases token <;> simp_all [readable]
  | case9 started tokens _ _ _ hstarted =>
    obtain rfl : started = false := by simpa using hstarted
    obtain ⟨hstart, -⟩ := (mem_readable_false_iff _ _).mp h
    rcases tokens with _ | ⟨token, rest⟩
    · cases strict <;> exact absurd hstart (by decide)
    · cases strict <;> cases token <;> simp_all [Token.isWord, Token.isRedirect]

theorem not_reads_nil {strict : Bool} {remainder : Remainder} :
    ¬ Reads strict false [] remainder :=
  nofun

end Remainder

theorem parseTokens_of_ne_nil {tokens : List Token} (hne : tokens ≠ [])
    (hend : .endOfInput ∉ tokens) :
    parseTokens tokens = (Remainder.read false tokens).map Remainder.toList := by
  unfold parseTokens
  split <;> simp_all

theorem parseTokens_of_reads {strict : Bool} {tokens : List Token} {remainder : Remainder}
    (hend : .endOfInput ∉ tokens) (h : Remainder.Reads strict false tokens remainder) :
    parseTokens tokens = .ok remainder.toList := by
  have hne : tokens ≠ [] := by
    rintro rfl
    exact Remainder.not_reads_nil h
  rw [parseTokens_of_ne_nil hne hend, Remainder.read_of_reads h]
  rfl

/-- A parse is a way of reading the whole list. -/
theorem parseTokens_cases {tokens : List Token} {list : CommandList}
    (hend : .endOfInput ∉ tokens) (h : parseTokens tokens = .ok list) :
    tokens = [] ∧ list = [] ∨
      ∃ remainder, Remainder.Reads false false tokens remainder ∧ list = remainder.toList := by
  by_cases hne : tokens = []
  · subst hne
    exact .inl ⟨rfl, (Except.ok.inj h).symm⟩
  · rw [parseTokens_of_ne_nil hne hend] at h
    cases hread : Remainder.read false tokens with
    | error e => rw [hread] at h; exact absurd h (by simp [Except.map])
    | ok remainder =>
      rw [hread] at h
      exact .inr ⟨remainder, Remainder.reads_of_read hend hread, (Except.ok.inj h).symm⟩

end CommandShell
