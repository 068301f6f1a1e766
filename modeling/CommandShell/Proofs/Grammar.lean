import CommandShell.Token
import Mathlib.Computability.Language

/-!
# The grammar of command lines

A line is a list of pipelines joined by `&&` and `||`; a pipeline is a list of commands joined by
`|`. The grammar has two readings: in the strict one a command begins with a word, in the lenient
one it may begin with a redirection.
-/

namespace CommandShell

def Token.startsWithWord (tokens : List Token) : Bool :=
  tokens.head?.any Token.isWord

def Token.startsWithOperand (tokens : List Token) : Bool :=
  tokens.head?.any fun token => token.isWord || token.isRedirect

namespace Token

variable (token : Token) (rest : List Token)

@[simp] theorem startsWithWord_nil : startsWithWord [] = false := rfl

@[simp] theorem startsWithWord_cons : startsWithWord (token :: rest) = token.isWord := rfl

@[simp] theorem startsWithOperand_nil : startsWithOperand [] = false := rfl

@[simp] theorem startsWithOperand_cons :
    startsWithOperand (token :: rest) = (token.isWord || token.isRedirect) := rfl

end Token

namespace Grammar

open Computability

def word : Language Token :=
  {tokens | ∃ text, tokens = [.word text]}

def redirection : Language Token :=
  {tokens | ∃ op text, tokens = [.redirect op, .word text]}

def operand : Language Token :=
  word + redirection

/-- `opening (WORD | REDIRECT WORD)*` -/
def command (opening : Language Token) : Language Token :=
  opening * operand∗

/-- `pipeline := command (| command)*` -/
def pipeline (command : Language Token) : Language Token :=
  command * ({[.pipe]} * command)∗

/-- `list := pipeline ((&& | ||) pipeline)*` -/
def list (command : Language Token) : Language Token :=
  pipeline command * (({[.and]} + {[.or]}) * pipeline command)∗

/-- `command := WORD (WORD | REDIRECT WORD)*` -/
abbrev strictCommand : Language Token :=
  command word

/-- `command := (WORD | REDIRECT WORD)+` -/
abbrev lenientCommand : Language Token :=
  command operand

/-- What may follow the opening of a command up to the end of the line. -/
def remainder (opening : Language Token) : Language Token :=
  operand∗ * (({[.pipe]} * command opening)∗ *
    (({[.and]} + {[.or]}) * pipeline (command opening))∗)

theorem list_eq (opening : Language Token) :
    list (command opening) = opening * remainder opening := by
  simp only [list, pipeline, remainder, command, mul_assoc]

private theorem kstar_mul_eq (l m : Language Token) : l∗ * m = m + l * (l∗ * m) := by
  conv_lhs => rw [← Language.one_add_self_mul_kstar_eq_kstar l]
  rw [add_mul, one_mul, mul_assoc]

theorem remainder_eq (opening : Language Token) :
    remainder opening = 1 + ({[.and]} + {[.or]}) * list (command opening) +
      {[.pipe]} * list (command opening) + operand * remainder opening := by
  -- every star but the first is peeled off in front of the one behind it
  let pipelines := (({[.and]} + {[.or]}) * pipeline (command opening))∗
  let commands := ({[.pipe]} * command opening)∗ * pipelines
  have hlist : list (command opening) = command opening * commands := by
    simp only [list, pipeline, commands, pipelines, mul_assoc]
  have hpipelines : pipelines = 1 + ({[.and]} + {[.or]}) * list (command opening) := by
    rw [list, ← mul_assoc]
    exact (Language.one_add_self_mul_kstar_eq_kstar _).symm
  have hcommands : commands = pipelines + {[.pipe]} * list (command opening) := by
    rw [hlist, ← mul_assoc]
    exact kstar_mul_eq _ _
  calc remainder opening
    _ = commands + operand * remainder opening := kstar_mul_eq _ _
    _ = _ := by rw [hcommands, hpipelines]

private theorem mem_singleton_mul {token : Token} {l : Language Token} {tokens : List Token} :
    tokens ∈ ({[token]} * l : Language Token) ↔ ∃ rest ∈ l, tokens = token :: rest := by
  rw [Language.mem_mul]
  constructor
  · rintro ⟨_, rfl, rest, hrest, rfl⟩
    exact ⟨rest, hrest, rfl⟩
  · rintro ⟨rest, hrest, rfl⟩
    exact ⟨[token], rfl, rest, hrest, rfl⟩

private theorem mem_word_mul {l : Language Token} {tokens : List Token} :
    tokens ∈ word * l ↔ ∃ text, ∃ rest ∈ l, tokens = .word text :: rest := by
  rw [Language.mem_mul]
  constructor
  · rintro ⟨_, ⟨text, rfl⟩, rest, hrest, rfl⟩
    exact ⟨text, rest, hrest, rfl⟩
  · rintro ⟨text, rest, hrest, rfl⟩
    exact ⟨[.word text], ⟨text, rfl⟩, rest, hrest, rfl⟩

private theorem mem_operand_mul {l : Language Token} {tokens : List Token} :
    tokens ∈ operand * l ↔ (∃ text, ∃ rest ∈ l, tokens = .word text :: rest) ∨
      ∃ op text, ∃ rest ∈ l, tokens = .redirect op :: .word text :: rest := by
  rw [operand, add_mul, Language.mem_add, mem_word_mul, Language.mem_mul]
  refine or_congr_right ⟨?_, ?_⟩
  · rintro ⟨_, ⟨op, text, rfl⟩, rest, hrest, rfl⟩
    exact ⟨op, text, rest, hrest, rfl⟩
  · rintro ⟨op, text, rest, hrest, rfl⟩
    exact ⟨[.redirect op, .word text], ⟨op, text, rfl⟩, rest, hrest, rfl⟩

private theorem mem_remainder_iff (opening : Language Token) (tokens : List Token) :
    tokens ∈ remainder opening ↔
      match tokens with
      | [] => True
      | .word _ :: rest => rest ∈ remainder opening
      | .redirect _ :: .word _ :: rest => rest ∈ remainder opening
      | .pipe :: rest | .and :: rest | .or :: rest => rest ∈ list (command opening)
      | _ => False := by
  conv_lhs => rw [remainder_eq, add_mul]
  simp only [Language.mem_add, Language.mem_one, mem_singleton_mul, mem_operand_mul]
  split <;> simp_all

section Remainder

variable (opening : Language Token) (rest : List Token)

@[simp] theorem nil_mem_remainder : [] ∈ remainder opening :=
  (mem_remainder_iff opening []).mpr trivial

@[simp] theorem word_mem_remainder (text : String) :
    .word text :: rest ∈ remainder opening ↔ rest ∈ remainder opening :=
  mem_remainder_iff opening _

@[simp] theorem redirect_mem_remainder (op : RedirectOp) :
    .redirect op :: rest ∈ remainder opening ↔
      Token.startsWithWord rest ∧ rest ∈ remainder opening := by
  rw [mem_remainder_iff]
  rcases rest with _ | ⟨token, rest⟩
  · simp
  · cases token <;> simp [Token.isWord]

@[simp] theorem pipe_mem_remainder :
    .pipe :: rest ∈ remainder opening ↔ rest ∈ list (command opening) :=
  mem_remainder_iff opening _

@[simp] theorem and_mem_remainder :
    .and :: rest ∈ remainder opening ↔ rest ∈ list (command opening) :=
  mem_remainder_iff opening _

@[simp] theorem or_mem_remainder :
    .or :: rest ∈ remainder opening ↔ rest ∈ list (command opening) :=
  mem_remainder_iff opening _

@[simp] theorem semicolon_notMem_remainder : .semicolon :: rest ∉ remainder opening :=
  (mem_remainder_iff opening _).mp

@[simp] theorem endOfInput_notMem_remainder : .endOfInput :: rest ∉ remainder opening :=
  (mem_remainder_iff opening _).mp

end Remainder

/-- A strict list begins with a word and goes on like the inside of a command. -/
theorem mem_strict_list_iff (tokens : List Token) :
    tokens ∈ list strictCommand ↔ Token.startsWithWord tokens ∧ tokens ∈ remainder word := by
  rw [list_eq, mem_word_mul]
  rcases tokens with _ | ⟨token, rest⟩
  · simp
  · cases token <;> simp [Token.isWord]

theorem mem_lenient_list_iff (tokens : List Token) :
    tokens ∈ list lenientCommand ↔
      Token.startsWithOperand tokens ∧ tokens ∈ remainder operand := by
  rw [list_eq, mem_operand_mul]
  rcases tokens with _ | ⟨token, rest⟩
  · simp
  · cases token with
    | word text => simp [Token.isWord]
    | redirect op =>
      -- the target is the next token, so a redirection is settled by looking at two
      rcases rest with _ | ⟨next, more⟩
      · simp
      · cases next <;> simp [Token.isRedirect, Token.isWord]
    | _ => simp [Token.isRedirect, Token.isWord]

end Grammar

end CommandShell
