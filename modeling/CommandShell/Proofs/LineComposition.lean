import CommandShell.Proofs.LogicalLines
import CommandShell.Proofs.Printing

/-!
# Lines joined by an operator

Two lines with an operator between them are parsed like each of them alone. A connective is put
behind the last pipeline of the first line; a pipe makes one pipeline of the last and the first.
-/

namespace CommandShell

/-- A command list whose last pipeline goes on like a line inside a command. The rest of that
command is not looked at. -/
def CommandList.extend (tail : Remainder) : CommandList → CommandList
  | [] => []
  | [last] =>
    { commands := last.commands ++ tail.commands, connective := tail.connective } ::
      tail.following
  | pipeline :: next :: rest => pipeline :: CommandList.extend tail (next :: rest)

theorem CommandList.extend_append (tail : Remainder) (front : CommandList) (last : Pipeline) :
    CommandList.extend tail (front ++ [last]) =
      front ++ { commands := last.commands ++ tail.commands, connective := tail.connective } ::
        tail.following := by
  induction front with
  | nil => rfl
  | cons pipeline rest ih =>
    have hne : rest ++ [last] ≠ [] := by simp
    obtain ⟨next, more, hnext⟩ := List.exists_cons_of_ne_nil hne
    rw [List.cons_append, hnext, CommandList.extend, ← hnext, ih, List.cons_append]

namespace Remainder

/-- A line from inside a command on with more behind its last command. -/
def extend (remainder tail : Remainder) : Remainder :=
  match remainder.following with
  | [] =>
    { command := remainder.command
      commands := remainder.commands ++ tail.commands
      connective := tail.connective
      following := tail.following }
  | next :: rest => { remainder with following := CommandList.extend tail (next :: rest) }

section Extend

variable (remainder tail : Remainder)

theorem toList_extend :
    (remainder.extend tail).toList = CommandList.extend tail remainder.toList := by
  obtain ⟨command, commands, connective, following⟩ := remainder
  cases following <;> rfl

theorem extend_addWord (word : String) :
    (remainder.addWord word).extend tail = (remainder.extend tail).addWord word := by
  obtain ⟨command, commands, connective, following⟩ := remainder
  cases following <;> rfl

theorem extend_addRedirection (redirection : Redirection) :
    (remainder.addRedirection redirection).extend tail =
      (remainder.extend tail).addRedirection redirection := by
  obtain ⟨command, commands, connective, following⟩ := remainder
  cases following <;> rfl

theorem extend_afterPipe : remainder.afterPipe.extend tail = (remainder.extend tail).afterPipe := by
  obtain ⟨command, commands, connective, following⟩ := remainder
  cases following <;> rfl

theorem extend_afterConnective (connective : Connective) :
    (remainder.afterConnective connective).extend tail =
      (remainder.extend tail).afterConnective connective := by
  have hlist := toList_extend remainder tail
  simp only [afterConnective, hlist]
  rfl

end Extend

/-- What can be read, and then goes on with a separator, can be read to its end. -/
theorem Reads.append {strict started : Bool} {tokens more : List Token}
    {remainder tail : Remainder} (h : Reads strict started tokens remainder)
    (htail : Reads strict true more tail) (hfresh : tail.command = {}) :
    Reads strict started (tokens ++ more) (remainder.extend tail) := by
  induction h with
  | done =>
    have hwhole : Remainder.extend {} tail = tail := by
      rw [extend, ← hfresh]
      rfl
    rw [hwhole]
    exact htail
  | @word _ text _ before _ ih =>
    rw [extend_addWord]
    exact .word ih
  | @redirection _ op text _ before hstart _ ih =>
    rw [extend_addRedirection]
    exact .redirection hstart ih
  | @pipe _ before _ ih =>
    rw [extend_afterPipe]
    exact .pipe ih
  | @connective connective _ before _ ih =>
    rw [extend_afterConnective]
    exact .connective ih

end Remainder

theorem parseLine_of_reads {line : String} {remainder : Remainder}
    (h : Remainder.Reads true false (tokenize line) remainder) :
    parseLine line = .ok remainder.toList := by
  have hend := endOfInput_notMem_tokenize line
  have hvalid := (Token.validate_eq_ok_iff_strict hend).mpr (.inr h.mem_readable)
  rw [parseLine, hvalid]
  exact parseTokens_of_reads hend h

theorem exists_reads_of_parseLine {line : String} {list : CommandList}
    (h : parseLine line = .ok list) (hne : list ≠ []) :
    ∃ remainder, Remainder.Reads true false (tokenize line) remainder ∧
      list = remainder.toList := by
  have hend := endOfInput_notMem_tokenize line
  cases hvalid : Token.validate (tokenize line) with
  | error e =>
    rw [parseLine, hvalid] at h
    cases h
  | ok _ =>
    rw [parseLine, hvalid] at h
    rcases (Token.validate_eq_ok_iff_strict hend).mp hvalid with hempty | hstrict
    · rw [hempty] at h
      exact absurd (Except.ok.inj h).symm hne
    · obtain ⟨remainder, hreads⟩ := @Remainder.exists_reads true false _ hstrict
      have hparse := parseTokens_of_reads hend hreads
      exact ⟨remainder, hreads, Except.ok.inj (h.symm.trans hparse)⟩

theorem tokenize_operator {token : Token} (htoken : token.StandsAlone) {a : String}
    (ha : Quoting.bare.after a.toList = .bare) (b : String) :
    tokenize (a ++ " " ++ token.text ++ " " ++ b) = tokenize a ++ token :: tokenize b := by
  have hchars : (a ++ " " ++ token.text ++ " " ++ b).toList =
      a.toList ++ ' ' :: (token.text.toList ++ ' ' :: b.toList) := by
    simp
  have hsecond : scan (token.text.toList ++ ' ' :: b.toList) = token :: tokenize b := by
    rw [scan_append rfl _ htoken.finished]
    change tokenize token.text ++ tokenize b = _
    rw [htoken.scanned, List.singleton_append]
  rw [tokenize, hchars, scan_append rfl _ ha, hsecond]
  rfl

theorem parseLine_operator {token : Token} (htoken : token.StandsAlone) {a b : String}
    (hcomplete : IsComplete a) {front : CommandList} {last : Pipeline}
    (ha : parseLine a = .ok (front ++ [last])) {tail : Remainder}
    (htail : Remainder.Reads true true (token :: tokenize b) tail) (hfresh : tail.command = {}) :
    parseLine (a ++ " " ++ token.text ++ " " ++ b) =
      .ok (front ++ { commands := last.commands ++ tail.commands, connective := tail.connective } ::
        tail.following) := by
  have hne : front ++ [last] ≠ [] := by simp
  obtain ⟨remainder, hreads, hlist⟩ := exists_reads_of_parseLine ha hne
  have htokens := tokenize_operator htoken ((isComplete_iff_after a).mp hcomplete) b
  have hwhole := hreads.append htail hfresh
  rw [← htokens] at hwhole
  rw [parseLine_of_reads hwhole, Remainder.toList_extend, ← hlist, CommandList.extend_append]

theorem parseLine_connective (connective : Connective) {a b : String} (hcomplete : IsComplete a)
    {front rest : CommandList} {last first : Pipeline} (ha : parseLine a = .ok (front ++ [last]))
    (hb : parseLine b = .ok (first :: rest)) :
    parseLine (a ++ " " ++ connective.token.text ++ " " ++ b) =
      .ok (front ++ { last with connective := some connective } :: first :: rest) := by
  obtain ⟨remainder, hreads, hlist⟩ := exists_reads_of_parseLine hb (List.cons_ne_nil _ _)
  have hline := parseLine_operator connective.standsAlone_token hcomplete ha
    (.connective hreads) rfl
  rw [hline, hlist]
  simp [Remainder.afterConnective]

theorem parseLine_pipe {a b : String} (hcomplete : IsComplete a) {front rest : CommandList}
    {last first : Pipeline} (ha : parseLine a = .ok (front ++ [last]))
    (hb : parseLine b = .ok (first :: rest)) :
    parseLine (a ++ " " ++ Token.pipe.text ++ " " ++ b) =
      .ok (front ++ { commands := last.commands ++ first.commands
                      connective := first.connective } :: rest) := by
  obtain ⟨remainder, hreads, hlist⟩ := exists_reads_of_parseLine hb (List.cons_ne_nil _ _)
  obtain ⟨rfl, rfl⟩ := List.cons.inj hlist
  exact parseLine_operator Token.standsAlone_pipe hcomplete ha (.pipe hreads) rfl

/-- Two lines, the first one complete, with an operator between them: a connective joins the last
pipeline of the one to the first of the other, and a pipe makes one pipeline of the two. -/
theorem parseLine_composes (a b : String) (front rest : CommandList) (last first : Pipeline)
    (hquote : unclosedQuote a = none) (hcontinued : endsWithContinuation a = false)
    (ha : parseLine a = .ok (front ++ [last])) (hb : parseLine b = .ok (first :: rest)) :
    parseLine (a ++ " && " ++ b) =
      .ok (front ++ { last with connective := some .and } :: first :: rest) ∧
    parseLine (a ++ " || " ++ b) =
      .ok (front ++ { last with connective := some .or } :: first :: rest) ∧
    parseLine (a ++ " | " ++ b) =
      .ok (front ++ { commands := last.commands ++ first.commands
                      connective := first.connective } :: rest) := by
  have hcomplete : IsComplete a := ⟨hquote, hcontinued⟩
  have htext (text : String) : a ++ (" " ++ text ++ " ") ++ b = a ++ " " ++ text ++ " " ++ b := by
    simp only [String.append_assoc]
  refine ⟨?_, ?_, ?_⟩
  · exact (congrArg parseLine (htext "&&")).trans (parseLine_connective .and hcomplete ha hb)
  · exact (congrArg parseLine (htext "||")).trans (parseLine_connective .or hcomplete ha hb)
  · exact (congrArg parseLine (htext "|")).trans (parseLine_pipe hcomplete ha hb)

theorem parseLine_composes_hereDoc :
    let a := "cat << 'E F' && tr \"a \" b"
    let b := "wc\t-l > out | cat || env"
    let cat : Pipeline :=
      { commands := [{ argv := ["cat"]
                       redirections := [{ op := .hereDoc, target := "E F", quoted := true }] }]
        connective := some .and }
    let tr : Command := { argv := ["tr", "\"a \"", "b"] }
    let wc : Command :=
      { argv := ["wc", "-l"], redirections := [{ op := .output, target := "out" }] }
    let env : Pipeline := { commands := [{ argv := ["env"] }] }
    unclosedQuote a = none ∧ endsWithContinuation a = false ∧
      parseLine a = .ok [cat, { commands := [tr] }] ∧
      parseLine b =
        .ok [{ commands := [wc, { argv := ["cat"] }], connective := some .or }, env] ∧
      parseLine (a ++ " | " ++ b) =
        .ok [cat, { commands := [tr, wc, { argv := ["cat"] }], connective := some .or }, env] := by
  intro a b cat tr wc env
  have hquote : unclosedQuote a = none := by decide
  have hcontinued : endsWithContinuation a = false := by decide
  have ha : parseLine a = .ok ([cat] ++ [{ commands := [tr] }]) := by decide +kernel
  have hb : parseLine b =
      .ok [{ commands := [wc, { argv := ["cat"] }], connective := some .or }, env] := by
    decide +kernel
  exact ⟨hquote, hcontinued, ha, hb,
    (parseLine_composes a b [cat] [env] _ _ hquote hcontinued ha hb).2.2⟩

end CommandShell
