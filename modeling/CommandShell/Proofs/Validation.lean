import CommandShell.Proofs.Parsing
import CommandShell.Proofs.Scanning

/-!
# Validation is the gate that parsing needs

Validation looks at two neighbouring tokens at a time. This is enough to accept exactly the strict
lists, and behind it the parser cannot fail.
-/

namespace CommandShell

namespace Token

theorem fault?_false_eq_none_iff (token : Token) (rest : List Token) :
    fault? false token rest = none ↔
      token ≠ .semicolon ∧ (token.isControl || token.isRedirect → startsWithWord rest) := by
  cases rest with
  | nil => cases token <;> simp [fault?, isControl, isRedirect]
  | cons next more =>
    cases token <;> cases next <;> simp [fault?, isControl, isRedirect, isWord]

theorem firstFault?_cons_eq_none_iff (isFirst : Bool) (token : Token) (rest : List Token) :
    firstFault? isFirst (token :: rest) = none ↔
      fault? isFirst token rest = none ∧ firstFault? false rest = none := by
  rw [firstFault?]
  cases fault? isFirst token rest <;> simp

/-- The neighbourhood checks after the first token accept what may follow a word. -/
theorem firstFault?_false_eq_none_iff {tokens : List Token} (hend : .endOfInput ∉ tokens) :
    firstFault? false tokens = none ↔ tokens ∈ Grammar.remainder Grammar.word := by
  induction tokens with
  | nil => simp [firstFault?]
  | cons token rest ih =>
    have hrest := ih fun h => hend (List.mem_cons_of_mem _ h)
    rw [firstFault?_cons_eq_none_iff, fault?_false_eq_none_iff, hrest]
    cases token with
    | endOfInput => exact absurd List.mem_cons_self hend
    -- behind a separator the grammar asks for a whole list, validation for a word and more of the
    -- same scan; the two agree since a strict list is a word before a remainder
    | _ => simp [isControl, isRedirect, Grammar.mem_strict_list_iff]

theorem fault?_true_eq_none_iff (token : Token) (rest : List Token) :
    fault? true token rest = none ↔ token.isWord ∨ token = .endOfInput := by
  cases token <;> simp [fault?, isControl, isRedirect, isWord]

theorem validate_eq_ok_iff_firstFault? (tokens : List Token) :
    validate tokens = .ok () ↔ firstFault? true tokens = none := by
  unfold validate
  cases firstFault? true tokens <;> simp

theorem validate_eq_ok_iff_strict {tokens : List Token} (hend : .endOfInput ∉ tokens) :
    validate tokens = .ok () ↔ tokens = [] ∨ tokens ∈ Grammar.list Grammar.strictCommand := by
  rw [validate_eq_ok_iff_firstFault?]
  cases tokens with
  | nil => simp [firstFault?]
  | cons token rest =>
    have hrest : .endOfInput ∉ rest := fun h => hend (List.mem_cons_of_mem _ h)
    rw [firstFault?_cons_eq_none_iff, fault?_true_eq_none_iff, firstFault?_false_eq_none_iff hrest,
      Grammar.mem_strict_list_iff]
    cases token with
    | endOfInput => exact absurd List.mem_cons_self hend
    | _ => simp [isWord]

end Token

/-- Nothing has been read or expanded for the command yet. -/
structure Command.Fresh (command : Command) : Prop where
  expanded : command.expanded = false
  body : ∀ redirection ∈ command.redirections, redirection.body = none
  ambiguous : ∀ redirection ∈ command.redirections, redirection.ambiguous = false

/-- Every pipeline but the last is joined to the next one. -/
structure CommandList.Threaded (list : CommandList) : Prop where
  joined : ∀ pipeline ∈ list.dropLast, pipeline.connective ≠ none
  closed : ∀ pipeline ∈ list.getLast?, pipeline.connective = none

/-- No pipeline is empty and no command lacks a name. -/
structure CommandList.WellFormed (list : CommandList) : Prop extends list.Threaded where
  commands : ∀ pipeline ∈ list, pipeline.commands ≠ []
  argv : ∀ pipeline ∈ list, ∀ command ∈ pipeline.commands, command.argv ≠ []

theorem CommandList.threaded_cons_iff (pipeline next : Pipeline) (rest : CommandList) :
    CommandList.Threaded (pipeline :: next :: rest) ↔
      pipeline.connective ≠ none ∧ CommandList.Threaded (next :: rest) := by
  constructor
  · intro h
    exact ⟨h.joined pipeline (by simp), fun p hp => h.joined p (by simp_all),
      fun p hp => h.closed p (by simp_all)⟩
  · rintro ⟨hpipeline, h⟩
    refine ⟨?_, fun p hp => h.closed p (by simpa using hp)⟩
    intro p hp
    rw [List.dropLast_cons_cons, List.mem_cons] at hp
    rcases hp with rfl | hp
    · exact hpipeline
    · exact h.joined p hp

theorem CommandList.threaded_singleton_iff (pipeline : Pipeline) :
    CommandList.Threaded [pipeline] ↔ pipeline.connective = none := by
  constructor
  · intro h
    exact h.closed pipeline rfl
  · intro h
    exact ⟨by simp, by simpa using h⟩

theorem Redirection.fresh_ofWord (op : RedirectOp) (word : String) :
    (Redirection.ofWord op word).body = none ∧ (Redirection.ofWord op word).ambiguous = false := by
  cases op <;> exact ⟨rfl, rfl⟩

namespace Remainder

theorem forall_toList {p : Command → Prop} {remainder : Remainder} :
    (∀ pipeline ∈ remainder.toList, ∀ command ∈ pipeline.commands, p command) ↔
      p remainder.command ∧ (∀ command ∈ remainder.commands, p command) ∧
        ∀ pipeline ∈ remainder.following, ∀ command ∈ pipeline.commands, p command := by
  simp [toList, and_assoc]

theorem Reads.fresh {strict started : Bool} {tokens : List Token} {remainder : Remainder}
    (h : Reads strict started tokens remainder) :
    ∀ pipeline ∈ remainder.toList, ∀ command ∈ pipeline.commands, command.Fresh := by
  have hempty : Command.Fresh {} := ⟨rfl, by simp, by simp⟩
  induction h with
  | done => exact forall_toList.mpr ⟨hempty, by simp, by simp⟩
  | word _ ih =>
    obtain ⟨⟨hexpanded, hbody, hambiguous⟩, hrest⟩ := forall_toList.mp ih
    exact forall_toList.mpr ⟨⟨hexpanded, hbody, hambiguous⟩, hrest⟩
  | @redirection _ op text _ _ _ _ ih =>
    obtain ⟨⟨hexpanded, hbody, hambiguous⟩, hrest⟩ := forall_toList.mp ih
    have hnew := Redirection.fresh_ofWord op text
    refine forall_toList.mpr ⟨⟨hexpanded, ?_, ?_⟩, hrest⟩
    · exact List.forall_mem_cons.mpr ⟨hnew.1, hbody⟩
    · exact List.forall_mem_cons.mpr ⟨hnew.2, hambiguous⟩
  | pipe _ ih =>
    obtain ⟨hcommand, hcommands, hfollowing⟩ := forall_toList.mp ih
    exact forall_toList.mpr ⟨hempty, List.forall_mem_cons.mpr ⟨hcommand, hcommands⟩, hfollowing⟩
  | connective _ ih => exact forall_toList.mpr ⟨hempty, by simp [afterConnective], ih⟩

theorem threaded_toList_iff (remainder : Remainder) :
    remainder.toList.Threaded ↔
      remainder.following = [] ∧ remainder.connective = none ∨
        remainder.following ≠ [] ∧ remainder.connective ≠ none ∧
          CommandList.Threaded remainder.following := by
  rw [toList]
  cases remainder.following with
  | nil => simp [CommandList.threaded_singleton_iff]
  | cons next rest => simp [CommandList.threaded_cons_iff]

theorem Reads.threaded {strict started : Bool} {tokens : List Token} {remainder : Remainder}
    (h : Reads strict started tokens remainder) : remainder.toList.Threaded := by
  induction h with
  | done => exact (threaded_toList_iff _).mpr (.inl ⟨rfl, rfl⟩)
  | word _ ih | redirection _ _ ih | pipe _ ih =>
    rw [threaded_toList_iff] at ih ⊢
    exact ih
  | connective _ ih =>
    exact (threaded_toList_iff _).mpr (.inr ⟨List.cons_ne_nil _ _, Option.some_ne_none _, ih⟩)

theorem Reads.commands_ne_nil {strict started : Bool} {tokens : List Token} {remainder : Remainder}
    (h : Reads strict started tokens remainder) :
    ∀ pipeline ∈ remainder.toList, pipeline.commands ≠ [] := by
  induction h with
  | connective _ ih => exact List.forall_mem_cons.mpr ⟨List.cons_ne_nil _ _, ih⟩
  | done => exact List.forall_mem_cons.mpr ⟨List.cons_ne_nil _ _, by simp⟩
  | word _ ih | redirection _ _ ih | pipe _ ih =>
    exact List.forall_mem_cons.mpr ⟨List.cons_ne_nil _ _, (List.forall_mem_cons.mp ih).2⟩

/-- Read strictly, the commands after the one in hand have arguments, and so has that one if it is
yet to start. -/
theorem Reads.argv_ne_nil {started : Bool} {tokens : List Token} {remainder : Remainder}
    (h : Reads true started tokens remainder) :
    (started = false → remainder.command.argv ≠ []) ∧
      (∀ command ∈ remainder.commands, command.argv ≠ []) ∧
        ∀ pipeline ∈ remainder.following, ∀ command ∈ pipeline.commands, command.argv ≠ [] := by
  -- nothing is said of the command in hand once it has started: its name may be behind us
  induction h with
  | done => simp
  | word _ ih => exact ⟨fun _ => List.cons_ne_nil _ _, ih.2⟩
  | redirection hstart _ ih =>
    refine ⟨fun hnew => ?_, ih.2⟩
    rw [hnew] at hstart
    exact absurd (hstart rfl) Bool.false_ne_true
  | pipe _ ih =>
    obtain ⟨hcommand, hcommands, hfollowing⟩ := ih
    exact ⟨by simp, List.forall_mem_cons.mpr ⟨hcommand rfl, hcommands⟩, hfollowing⟩
  | connective _ ih =>
    obtain ⟨hcommand, hcommands, hfollowing⟩ := ih
    have hlist := forall_toList.mpr ⟨hcommand rfl, hcommands, hfollowing⟩
    exact ⟨by simp, by simp [afterConnective], hlist⟩

theorem Reads.wellFormed {tokens : List Token} {remainder : Remainder}
    (h : Reads true false tokens remainder) : remainder.toList.WellFormed := by
  obtain ⟨hcommand, hcommands, hfollowing⟩ := h.argv_ne_nil
  have hargv := forall_toList.mpr ⟨hcommand rfl, hcommands, hfollowing⟩
  exact ⟨h.threaded, h.commands_ne_nil, hargv⟩

end Remainder

theorem exists_parseTokens_of_strict {tokens : List Token} (hend : .endOfInput ∉ tokens)
    (h : tokens = [] ∨ tokens ∈ Grammar.list Grammar.strictCommand) :
    ∃ list : CommandList, parseTokens tokens = .ok list ∧ list.WellFormed ∧
      ∀ pipeline ∈ list, ∀ command ∈ pipeline.commands, command.Fresh := by
  rcases h with rfl | hmem
  · exact ⟨[], rfl, ⟨⟨by simp, by simp⟩, by simp, by simp⟩, by simp⟩
  · obtain ⟨remainder, hreads⟩ := @Remainder.exists_reads true false tokens hmem
    exact ⟨remainder.toList, parseTokens_of_reads hend hreads, hreads.wellFormed, hreads.fresh⟩

/-- Validation accepts exactly the strict lists; what it accepts can be parsed, into a list without
empty pipelines and nameless commands; and so a line can be parsed if and only if its tokens are a
strict list. -/
theorem validate_is_exact_gate (tokens : List Token) (hend : .endOfInput ∉ tokens)
    (line : String) :
    (Token.validate tokens = .ok () ↔
      tokens = [] ∨ tokens ∈ Grammar.list Grammar.strictCommand) ∧
    (Token.validate tokens = .ok () →
      ∃ list : CommandList, parseTokens tokens = .ok list ∧ list.WellFormed ∧
        ∀ pipeline ∈ list, ∀ command ∈ pipeline.commands, command.Fresh) ∧
    ((∃ list, parseLine line = .ok list) ↔
      tokenize line = [] ∨ tokenize line ∈ Grammar.list Grammar.strictCommand) := by
  have hgate := Token.validate_eq_ok_iff_strict hend
  have hline := Token.validate_eq_ok_iff_strict (endOfInput_notMem_tokenize line)
  refine ⟨hgate, fun hvalid => exists_parseTokens_of_strict hend (hgate.mp hvalid), ?_⟩
  rw [← hline, parseLine]
  constructor
  · rintro ⟨list, hparse⟩
    cases hvalid : Token.validate (tokenize line) with
    | error e => rw [hvalid] at hparse; exact absurd hparse (by simp)
    | ok _ => rfl
  · intro hvalid
    obtain ⟨list, hparse, -⟩ :=
      exists_parseTokens_of_strict (endOfInput_notMem_tokenize line) (hline.mp hvalid)
    exact ⟨list, by rw [hvalid]; exact hparse⟩

theorem validate_accepts_interleaved :
    let tokens : List Token := [.word "cat", .redirect .hereDoc, .word "'E'", .word "x", .or,
      .word "wc", .redirect .output, .word "out"]
    .endOfInput ∉ tokens ∧ tokens ∈ Grammar.list Grammar.strictCommand ∧
      ∃ list : CommandList, parseTokens tokens = .ok list ∧ list.WellFormed ∧
        ∀ pipeline ∈ list, ∀ command ∈ pipeline.commands, command.Fresh := by
  intro tokens
  have hend : .endOfInput ∉ tokens := by decide
  have hvalid : Token.validate tokens = .ok () := rfl
  have hgate := validate_is_exact_gate tokens hend "cat | wc"
  exact ⟨hend, (hgate.1.mp hvalid).resolve_left (by decide), hgate.2.1 hvalid⟩

end CommandShell
