import CommandShell.Proofs.DoubleQuotes
import CommandShell.Proofs.Layouts
import CommandShell.Proofs.LineComposition

/-!
# Runs of redirection characters

Characters of one direction that stand together are scanned in pairs, with a single one at the end
of an odd number. Validation adds the widths of the operators up again, so that a line is blamed by
the number of characters alone. The run that it looks at has a second operator in every token list.
-/

namespace CommandShell

namespace RedirectOp

def sign (reads : Bool) : Char :=
  if reads then '<' else '>'

def single (reads : Bool) : RedirectOp :=
  if reads then .input else .output

def double (reads : Bool) : RedirectOp :=
  if reads then .hereDoc else .append

/-- The operators that a number of equal characters is taken for, the longest first. -/
def run (reads : Bool) : Nat → List RedirectOp
  | 0 => []
  | 1 => [single reads]
  | count + 2 => double reads :: run reads count

/-- The text blamed for a run that cannot stand, by the number of its characters. -/
def runBlame (reads : Bool) (count : Nat) : String :=
  if count ≤ 2 then "newline"
  else if reads then if count ≤ 4 then "<" else "<<"
  else if count = 3 then ">" else ">>"

theorem reads_of_mem_run {reads : Bool} {count : Nat} {op : RedirectOp}
    (h : op ∈ run reads count) : op.reads = reads := by
  fun_induction run reads count with
  | case1 => simp at h
  | case2 => cases reads <;> simp_all [single, RedirectOp.reads]
  | case3 count ih =>
    rcases List.mem_cons.mp h with hop | hmem
    · cases reads <;> simp [hop, double, RedirectOp.reads]
    · exact ih hmem

theorem width_run (reads : Bool) (count : Nat) :
    (run reads count).foldr (fun op length => op.width + length) 0 = count := by
  fun_induction run reads count with
  | case1 => rfl
  | case2 => cases reads <;> rfl
  | case3 count ih =>
    have hwidth : (double reads).width = 2 := by cases reads <;> rfl
    rw [List.foldr_cons, ih, hwidth]
    omega

theorem exists_run_eq_singleton (reads : Bool) {count : Nat} (hpos : 1 ≤ count)
    (hshort : count ≤ 2) : ∃ op, run reads count = [op] := by
  have hcount : count = 1 ∨ count = 2 := by omega
  rcases hcount with rfl | rfl
  · exact ⟨single reads, rfl⟩
  · exact ⟨double reads, rfl⟩

theorem getElem?_zero_run (reads : Bool) {count : Nat} (hlong : 3 ≤ count) :
    (run reads count)[0]? = some (double reads) := by
  obtain ⟨more, rfl⟩ := Nat.exists_eq_add_of_le' hlong
  rfl

/-- The second operator is a single character only where three are left for two operators. -/
theorem getElem?_one_run (reads : Bool) {count : Nat} (hlong : 3 ≤ count) :
    (run reads count)[1]? = some (if count = 3 then single reads else double reads) := by
  obtain ⟨more, rfl⟩ := Nat.exists_eq_add_of_le' hlong
  have hsecond : (run reads (more + 3))[1]? = (run reads (more + 1))[0]? := rfl
  rw [hsecond]
  cases more with
  | zero => rfl
  | succ more => simp [run]

end RedirectOp

open RedirectOp

theorem scan_sign {reads : Bool} {text rest : List Char} {token : Token}
    (hop : Token.operator? (sign reads :: text) = some (token, rest)) :
    scan (sign reads :: text) = token :: scan rest := by
  have hsign : isSeparator (sign reads) = false := by
    cases reads <;> rfl
  apply scan_of_some
  exact nextToken_of_operator? (List.dropWhile_cons_of_neg (by simp [hsign])) hop

theorem scan_double (reads : Bool) (rest : List Char) :
    scan (sign reads :: sign reads :: rest) = .redirect (double reads) :: scan rest := by
  apply scan_sign
  cases reads <;> rfl

theorem scan_single {reads : Bool} {rest : List Char} (hrest : rest.head? ≠ some (sign reads)) :
    scan (sign reads :: rest) = .redirect (single reads) :: scan rest := by
  apply scan_sign
  cases reads <;> simpa [sign, single, operator?_cons] using hrest

theorem scan_run {reads : Bool} {rest : List Char} (hrest : rest.head? ≠ some (sign reads))
    (count : Nat) :
    scan (List.replicate count (sign reads) ++ rest) =
      (run reads count).map .redirect ++ scan rest := by
  fun_induction run reads count with
  | case1 => rfl
  | case2 => exact scan_single hrest
  | case3 count ih =>
    rw [List.replicate_succ, List.replicate_succ, List.cons_append, List.cons_append, scan_double,
      ih, List.map_cons, List.cons_append]

/-- A word without quotes, backslashes, blanks and characters of operators. -/
structure Word.Ordinary (word : String) : Prop where
  ne_empty : word ≠ ""
  chars : ∀ c ∈ word.toList, Word.isOrdinary c

/-- Nothing, or a blank and an ordinary word. -/
def Word.IsTail (tail : String) : Prop :=
  tail = "" ∨ ∃ blank text, blank ∈ [' ', '\t', '\n'] ∧ Word.Ordinary text ∧
    tail = String.singleton blank ++ text

def runLine (sign : Char) (count : Nat) (word tail : String) : String :=
  word ++ " " ++ String.ofList (List.replicate count sign) ++ tail

variable {reads : Bool} {count : Nat} {word tail : String}

theorem Word.Ordinary.standsAlone (h : Word.Ordinary word) : (Token.word word).StandsAlone :=
  Word.standsAlone_ordinary h.ne_empty h.chars

theorem tokenize_runLine (hword : Word.Ordinary word) (htail : Word.IsTail tail) :
    tokenize (runLine (sign reads) count word tail) =
      .word word :: ((run reads count).map .redirect ++ tokenize tail) := by
  have hhead : tail.toList.head? ≠ some (sign reads) := by
    rcases htail with rfl | ⟨blank, text, hblank, -, rfl⟩
    · simp
    · cases reads <;> simp only [List.mem_cons, List.not_mem_nil, or_false] at hblank <;>
        rcases hblank with rfl | rfl | rfl <;> simp [sign]
  have hchars : (runLine (sign reads) count word tail).toList =
      word.toList ++ ' ' :: (List.replicate count (sign reads) ++ tail.toList) := by
    simp [runLine]
  have hfront : scan word.toList = [.word word] := hword.standsAlone.scanned
  have hfinished : Quoting.bare.after word.toList = .bare := hword.standsAlone.finished
  rw [tokenize, hchars, scan_append rfl _ hfinished, hfront, scan_run hhead,
    List.singleton_append, tokenize]

theorem tokenize_blank_word {blank : Char} {text : String} (hblank : blank ∈ [' ', '\t', '\n'])
    (htext : Word.Ordinary text) : tokenize (String.singleton blank ++ text) = [.word text] := by
  have hseparator : isSeparator blank = true := by
    simpa [isSeparator_iff] using hblank
  have hchars : (String.singleton blank ++ text).toList = blank :: text.toList := by
    simp
  rw [tokenize, hchars, scan_separator hseparator]
  exact htext.standsAlone.scanned

namespace Token

theorem leadingRedirects_append (ops : List RedirectOp) (rest : List Token) :
    leadingRedirects (ops.map .redirect ++ rest) = ops ++ leadingRedirects rest := by
  induction ops with
  | nil => rfl
  | cons op ops ih => rw [List.map_cons, List.cons_append, leadingRedirects, ih, List.cons_append]

theorem blamedRedirect?_run (reads : Bool) {count : Nat} (hlong : 3 ≤ count) {rest : List Token}
    (hrest : leadingRedirects rest = []) :
    blamedRedirect? ((run reads count).map .redirect ++ rest) = some (runBlame reads count) := by
  have hops : leadingRedirects ((run reads count).map .redirect ++ rest) = run reads count := by
    rw [leadingRedirects_append, hrest, List.append_nil]
  have hreads : (double reads).reads = reads := by
    cases reads <;> rfl
  have hrun : (run reads count).takeWhile (fun op => op.reads = reads) = run reads count := by
    apply List.takeWhile_eq_self_iff.mpr
    intro op hop
    simpa using reads_of_mem_run hop
  simp only [blamedRedirect?, hops, getElem?_zero_run reads hlong, getElem?_one_run reads hlong,
    Option.bind_eq_bind, Option.bind_some, hreads, hrun, width_run]
  cases reads with
  | false =>
    have htwo : count ≠ 2 := by omega
    by_cases hthree : count = 3
    · simp [runBlame, hthree, single, RedirectOp.text]
    · have hmore : 3 < count := by omega
      have hlarge : ¬ count ≤ 2 := by omega
      simp [runBlame, htwo, hthree, hmore, hlarge]
  | true =>
    have hlarge : ¬ count ≤ 2 := by omega
    by_cases hthree : count = 3
    · simp [runBlame, hthree, single, RedirectOp.text]
    · by_cases hfour : count = 4
      · simp [runBlame, hfour]
      · have hmore : ¬ count ≤ 4 := by omega
        simp [runBlame, hthree, hfour, hlarge, hmore, double, RedirectOp.text]

/-- Behind a word, two operators in a row are a fault that is blamed for the whole run. -/
theorem validate_word_run (word : String) (first second : RedirectOp) (rest : List Token) :
    validate (.word word :: .redirect first :: .redirect second :: rest) =
      .error (.unexpectedToken (blamedRedirect (.redirect first :: .redirect second :: rest))) := by
  simp [validate, firstFault?, fault?, isControl, isRedirect]

theorem validate_word_redirect (word : String) (op : RedirectOp) :
    validate [.word word, .redirect op] = .error (.unexpectedToken "newline") := by
  simp [validate, firstFault?, fault?, isControl, isRedirect, Token.text]

end Token

theorem parseLine_of_validate_error {line : String} {error : ShellError}
    (h : Token.validate (tokenize line) = .error error) : parseLine line = .error error := by
  rw [parseLine, h]

theorem Word.IsTail.leadingRedirects_tokenize (h : Word.IsTail tail) :
    Token.leadingRedirects (tokenize tail) = [] := by
  rcases h with rfl | ⟨blank, text, hblank, htext, rfl⟩
  · rw [tokenize, scan_of_none rfl]
    rfl
  · rw [tokenize_blank_word hblank htext]
    rfl

theorem parseLine_long_run (hlong : 3 ≤ count) (hword : Word.Ordinary word)
    (htail : Word.IsTail tail) :
    parseLine (runLine (sign reads) count word tail) =
      .error (.unexpectedToken (runBlame reads count)) := by
  apply parseLine_of_validate_error
  have hblame := Token.blamedRedirect?_run reads hlong htail.leadingRedirects_tokenize
  have hfirst := getElem?_zero_run reads hlong
  have hsecond := getElem?_one_run reads hlong
  rw [tokenize_runLine hword htail]
  cases hrun : run reads count with
  | nil => simp [hrun] at hfirst
  | cons first more =>
    cases more with
    | nil => simp [hrun] at hsecond
    | cons second others =>
      rw [hrun] at hblame
      simp only [List.map_cons, List.cons_append] at hblame ⊢
      rw [Token.validate_word_run, Token.blamedRedirect, hblame, Option.getD_some]

theorem parseLine_short_run (hpos : 1 ≤ count) (hshort : count ≤ 2) (hword : Word.Ordinary word) :
    parseLine (runLine (sign reads) count word "") =
      .error (.unexpectedToken (runBlame reads count)) := by
  obtain ⟨op, hrun⟩ := exists_run_eq_singleton reads hpos hshort
  have hblame : runBlame reads count = "newline" := if_pos hshort
  have hnil : tokenize "" = [] := scan_of_none rfl
  apply parseLine_of_validate_error
  rw [tokenize_runLine hword (.inl rfl), hrun, hnil, hblame]
  exact Token.validate_word_redirect word op

theorem parseLine_run_target {blank : Char} {text : String} (hpos : 1 ≤ count) (hshort : count ≤ 2)
    (hword : Word.Ordinary word) (hblank : blank ∈ [' ', '\t', '\n']) (htext : Word.Ordinary text) :
    ∃ list,
      parseLine (runLine (sign reads) count word (String.singleton blank ++ text)) = .ok list := by
  obtain ⟨op, hrun⟩ := exists_run_eq_singleton reads hpos hshort
  have htokens : tokenize (runLine (sign reads) count word (String.singleton blank ++ text)) =
      [.word word, .redirect op, .word text] := by
    rw [tokenize_runLine hword (.inr ⟨blank, text, hblank, htext, rfl⟩), hrun,
      tokenize_blank_word hblank htext]
    rfl
  have hreads : Remainder.Reads true false [.word word, .redirect op, .word text] _ :=
    .word (.redirection (fun _ => rfl) .done)
  rw [← htokens] at hreads
  exact ⟨_, parseLine_of_reads hreads⟩

theorem parseLine_run_error (hpos : 1 ≤ count) (hword : Word.Ordinary word)
    (htail : Word.IsTail tail) (h : ¬ (count ≤ 2 ∧ tail ≠ "")) :
    parseLine (runLine (sign reads) count word tail) =
      .error (.unexpectedToken (runBlame reads count)) := by
  by_cases hshort : count ≤ 2
  · have hempty : tail = "" := by
      by_contra hne
      exact h ⟨hshort, hne⟩
    subst hempty
    exact parseLine_short_run hpos hshort hword
  · exact parseLine_long_run (by omega) hword htail

theorem exists_parseLine_run_iff (hpos : 1 ≤ count) (hword : Word.Ordinary word)
    (htail : Word.IsTail tail) :
    (∃ list, parseLine (runLine (sign reads) count word tail) = .ok list) ↔
      count ≤ 2 ∧ tail ≠ "" := by
  constructor
  · intro hparse
    by_contra hrefused
    obtain ⟨list, hlist⟩ := hparse
    rw [parseLine_run_error hpos hword htail hrefused] at hlist
    cases hlist
  · intro h
    rcases htail with hempty | ⟨blank, text, hblank, htext, rfl⟩
    · exact absurd hempty h.2
    · exact parseLine_run_target hpos h.1 hword hblank htext

namespace Token

theorem blamedRedirect?_of_two (first second : RedirectOp) (rest : List Token) :
    blamedRedirect? (.redirect first :: .redirect second :: rest) =
      some (blamedRedirect (.redirect first :: .redirect second :: rest)) := by
  have hdefined : ∃ text,
      blamedRedirect? (.redirect first :: .redirect second :: rest) = some text := ⟨_, rfl⟩
  obtain ⟨text, htext⟩ := hdefined
  rw [blamedRedirect, htext, Option.getD_some]

theorem exists_redirect_of_isRedirect {token : Token} (h : token.isRedirect = true) :
    ∃ op, token = .redirect op := by
  cases token with
  | redirect op => exact ⟨op, rfl⟩
  | _ => simp [isRedirect] at h

def checkedFault? (isFirst : Bool) (token : Token) (rest : List Token) : Option (Option String) :=
  if token = .semicolon then some (some token.text)
  else if isFirst && (token.isControl || token.isRedirect) then some (some token.text)
  else if token.isControl || token.isRedirect then
    match rest with
    | [] => some (some Token.endOfInput.text)
    | next :: _ =>
      if token.isRedirect && next.isRedirect then (blamedRedirect? (token :: rest)).map some
      else if next.isWord then some none
      else some (some next.text)
  else some none

def checkedFirstFault? (isFirst : Bool) : List Token → Option (Option String)
  | [] => some none
  | token :: rest =>
    match checkedFault? isFirst token rest with
    | none => none
    | some (some text) => some (some text)
    | some none => checkedFirstFault? false rest

/-- Validation that is undefined where the blame for a run looks at an operator that is missing. -/
def checkedValidate (tokens : List Token) : Option (Except ShellError Unit) :=
  (checkedFirstFault? true tokens).map fun
    | some text => .error (.unexpectedToken text)
    | none => .ok ()

theorem checkedFault?_eq_some (isFirst : Bool) (token : Token) (rest : List Token) :
    checkedFault? isFirst token rest = some (fault? isFirst token rest) := by
  unfold checkedFault? fault?
  split
  · rfl
  split
  · rfl
  split
  · cases rest with
    | nil => rfl
    | cons next more =>
      by_cases hboth : (token.isRedirect && next.isRedirect) = true
      · -- the one place where a run is looked at
        obtain ⟨first, rfl⟩ := exists_redirect_of_isRedirect (Bool.and_eq_true_iff.mp hboth).1
        obtain ⟨second, rfl⟩ := exists_redirect_of_isRedirect (Bool.and_eq_true_iff.mp hboth).2
        simp only [isRedirect, Bool.and_self, if_true, blamedRedirect?_of_two, Option.map_some]
      · dsimp only
        rw [if_neg hboth, if_neg hboth]
        split <;> rfl
  · rfl

theorem checkedFirstFault?_eq_some (isFirst : Bool) (tokens : List Token) :
    checkedFirstFault? isFirst tokens = some (firstFault? isFirst tokens) := by
  induction tokens generalizing isFirst with
  | nil => rfl
  | cons token rest ih =>
    rw [checkedFirstFault?, firstFault?, checkedFault?_eq_some]
    cases fault? isFirst token rest with
    | some text => rfl
    | none => exact ih false

/-- In no token list does validation look at an operator that is not there. -/
theorem checkedValidate_eq_some (tokens : List Token) :
    checkedValidate tokens = some (validate tokens) := by
  have hfault := checkedFirstFault?_eq_some true tokens
  cases hfirst : firstFault? true tokens with
  | none => simp [checkedValidate, validate, hfault, hfirst]
  | some text => simp [checkedValidate, validate, hfault, hfirst]

end Token

/-- A word and a run of redirection characters can be parsed if the run is one operator with a
target. Otherwise the blame goes by the number of characters, the same for every word and target.
The operators that this looks at are there in every token list. -/
theorem redirection_runs_blamed_by_length (count : Nat) (hpos : 1 ≤ count) (word tail : String)
    (hword : Word.Ordinary word) (htail : Word.IsTail tail) :
    ((∃ list, parseLine (runLine '>' count word tail) = .ok list) ↔ count ≤ 2 ∧ tail ≠ "") ∧
    (¬ (count ≤ 2 ∧ tail ≠ "") → parseLine (runLine '>' count word tail) =
      .error (.unexpectedToken
        (if count ≤ 2 then "newline" else if count = 3 then ">" else ">>"))) ∧
    ((∃ list, parseLine (runLine '<' count word tail) = .ok list) ↔ count ≤ 2 ∧ tail ≠ "") ∧
    (¬ (count ≤ 2 ∧ tail ≠ "") → parseLine (runLine '<' count word tail) =
      .error (.unexpectedToken
        (if count ≤ 2 then "newline" else if count ≤ 4 then "<" else "<<"))) ∧
    ∀ tokens, Token.checkedValidate tokens = some (Token.validate tokens) := by
  refine ⟨?_, ?_, ?_, ?_, Token.checkedValidate_eq_some⟩
  · exact @exists_parseLine_run_iff false count word tail hpos hword htail
  · intro h
    exact @parseLine_run_error false count word tail hpos hword htail h
  · exact @exists_parseLine_run_iff true count word tail hpos hword htail
  · intro h
    exact @parseLine_run_error true count word tail hpos hword htail h

theorem redirection_runs_blamed_by_length_tab :
    Word.Ordinary "cat" ∧ Word.IsTail "\tx" ∧
      (∃ list, parseLine "cat <<\tx" = .ok list) ∧
      parseLine "cat >>>\tx" = .error (.unexpectedToken ">") ∧
      parseLine "cat <<<<<\tx" = .error (.unexpectedToken "<<") := by
  have hword : Word.Ordinary "cat" := ⟨by decide, by simp [Word.isOrdinary]⟩
  have htarget : Word.Ordinary "x" := ⟨by decide, by simp [Word.isOrdinary]⟩
  have htail : Word.IsTail "\tx" := .inr ⟨'\t', "x", by decide, htarget, by decide⟩
  have htwo := redirection_runs_blamed_by_length 2 (by decide) "cat" "\tx" hword htail
  have hthree := redirection_runs_blamed_by_length 3 (by decide) "cat" "\tx" hword htail
  have hfive := redirection_runs_blamed_by_length 5 (by decide) "cat" "\tx" hword htail
  exact ⟨hword, htail, htwo.2.2.1.mpr (by decide), hthree.2.1 (by decide),
    hfive.2.2.2.1 (by decide)⟩

end CommandShell
