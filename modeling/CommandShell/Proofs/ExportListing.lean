import CommandShell.Proofs.DoubleQuotes
import CommandShell.Pipeline.Parse

/-!
# Replaying the export listing

What `export` lists can be read again: each entry, made a command, is one call of `export`, and
all of them together rebuild the environment.
-/

namespace CommandShell

namespace Builtin

/-- Entries replayed in turn, each with `export` in the place of `declare -x` and expanded in a
scope of its own: the line is a single command that calls `export` with success. -/
inductive Replayed : Session → List (Scope × String) → Session → Prop where
  | done (session : Session) : Replayed session [] session
  | entry {session final : Session} {scope : Scope} {tail : String}
      {rest : List (Scope × String)} {args : List String} (command : Command)
      (hparse : parseLine ("export" ++ tail) = .ok [{ commands := [command] }])
      (hexpand : CommandList.expand scope [{ commands := [command] }] =
        [{ commands := [{ argv := exportNames.name :: args, expanded := true }] }])
      (hstatus : (exportNames.run args session {}).status = 0)
      (hrest : Replayed (exportNames.run args session {}).session rest final) :
      Replayed session ((scope, "declare -x" ++ tail) :: rest) final

end Builtin

theorem not_nameBefore_self (name : String) : ¬ nameBefore name name :=
  List.lt_irrefl _

theorem insertBinding_of_forall_before {name : String} {bindings : List Binding}
    (h : ∀ binding ∈ bindings, nameBefore binding.1 name) (value : Option String) :
    insertBinding name value bindings = bindings ++ [(name, value)] := by
  induction bindings with
  | nil => rfl
  | cons head rest ih =>
    obtain ⟨hhead, hrest⟩ := List.forall_mem_cons.mp h
    have hne : name ≠ head.1 := by
      intro heq
      rw [heq] at hhead
      exact not_nameBefore_self _ hhead
    have hafter : ¬ nameBefore name head.1 := fun hbefore =>
      not_nameBefore_self _ (nameBefore_trans hbefore hhead)
    rw [insertBinding, if_neg hne, if_neg hafter, ih hrest, List.cons_append]

namespace Environment

theorem ext_bindings {a b : Environment} (h : a.bindings = b.bindings) : a = b := by
  cases a
  cases b
  cases h
  rfl

theorem contains_of_forall_before {environment : Environment} {name : String}
    (h : ∀ binding ∈ environment.bindings, nameBefore binding.1 name) :
    environment.contains name = false := by
  have hlookup : environment.bindings.lookup name = none := by
    rw [List.lookup_eq_none_iff]
    intro binding hbinding
    have hne : name ≠ binding.1 := by
      intro heq
      have hbefore := h binding hbinding
      rw [← heq] at hbefore
      exact not_nameBefore_self _ hbefore
    simpa using hne
  simp [contains, find?, hlookup]

end Environment

theorem Writer.writeLines_of_unbounded {writer : Writer} (h : writer.capacity = none)
    (lines : List String) :
    writer.writeLines lines =
      (.ok (), { writer with
        accepted := writer.accepted ++
          Bytes.ofText (String.join (lines.map fun line => line ++ "\n")) }) := by
  rw [writeLines_eq_write, write, h]

theorem isNameChar_of_isIdentifier {name : String} (h : isIdentifier name) :
    name ≠ "" ∧ ∀ c ∈ name.toList, isNameChar c := by
  unfold isIdentifier at h
  split at h
  · exact absurd h (by simp)
  · rename_i c rest hchars
    simp only [Bool.and_eq_true, List.all_eq_true] at h
    refine ⟨?_, ?_⟩
    · rintro rfl
      simp at hchars
    · rw [hchars]
      refine List.forall_mem_cons.mpr ⟨?_, h.2⟩
      have hstart := h.1
      simp only [isNameStart, isNameChar, Char.isAlphanum, Bool.or_eq_true] at hstart ⊢
      exact hstart.imp_left .inl

theorem ne_of_isNameChar {c d : Char} (hc : isNameChar c) (hd : isNameChar d = false) : c ≠ d := by
  rintro rfl
  simp [hd] at hc

theorem Word.isOrdinary_of_isNameChar {c : Char} (hc : isNameChar c) : isOrdinary c := by
  simp only [isOrdinary, List.mem_cons, List.not_mem_nil, or_false, not_or, decide_eq_true_eq]
  refine ⟨?_, ?_, ?_, ?_, ?_, ?_, ?_, ?_, ?_, ?_, ?_⟩ <;> exact ne_of_isNameChar hc (by decide)

theorem Text.splitFirstChars_append {separator : Char} {front : List Char}
    (h : separator ∉ front) (rest : List Char) :
    splitFirstChars separator (front ++ separator :: rest) = some (front, rest) := by
  induction front with
  | nil => simp [splitFirstChars]
  | cons c more ih =>
    simp only [List.mem_cons, not_or] at h
    simp [splitFirstChars, Ne.symm h.1, ih h.2]

theorem Text.splitFirstChars_of_notMem {separator : Char} {text : List Char}
    (h : separator ∉ text) : splitFirstChars separator text = none := by
  induction text with
  | nil => rfl
  | cons c more ih =>
    simp only [List.mem_cons, not_or] at h
    simp [splitFirstChars, Ne.symm h.1, ih h.2]

theorem Text.splitFirst?_append {name : String} (h : '=' ∉ name.toList) (value : String) :
    splitFirst? '=' (name ++ "=" ++ value) = some (name, value) := by
  have hchars : (name ++ "=" ++ value).toList = name.toList ++ '=' :: value.toList := by simp
  rw [splitFirst?, hchars, splitFirstChars_append h]
  simp

namespace Builtin

/-- The word behind `export` in a replayed entry. -/
def exportWord : Binding → String
  | (name, some value) => name ++ "=" ++ quoteValue value
  | (name, none) => name

def exportArgument : Binding → String
  | (name, some value) => name ++ "=" ++ value
  | (name, none) => name

theorem exportLine_eq (binding : Binding) :
    exportLine binding = "declare -x" ++ (" " ++ exportWord binding) := by
  obtain ⟨name, value | value⟩ := binding <;>
    simp [← String.toList_inj, exportLine, exportWord]

section

variable {name : String}

theorem ordinary_name (h : isIdentifier name) : ∀ c ∈ name.toList, Word.isOrdinary c :=
  fun c hc => Word.isOrdinary_of_isNameChar ((isNameChar_of_isIdentifier h).2 c hc)

theorem notMem_name (h : isIdentifier name) {c : Char} (hc : isNameChar c = false) :
    c ∉ name.toList :=
  fun hmem => ne_of_isNameChar ((isNameChar_of_isIdentifier h).2 c hmem) hc rfl

theorem ordinary_assignment (h : isIdentifier name) :
    ∀ c ∈ (name ++ "=").toList, Word.isOrdinary c := by
  rw [String.toList_append, List.forall_mem_append]
  exact ⟨ordinary_name h, by simp [Word.isOrdinary]⟩

end

variable {binding : Binding}

theorem standsAlone_exportWord (h : isIdentifier binding.1) :
    (Token.word (exportWord binding)).StandsAlone := by
  obtain ⟨name, value | value⟩ := binding
  · exact Word.standsAlone_ordinary (isNameChar_of_isIdentifier h).1 (ordinary_name h)
  · exact Word.standsAlone_quoteValue (by simp) (ordinary_assignment h) value

theorem argument?_exportWord (scope : Scope) (h : isIdentifier binding.1) :
    Word.argument? scope (exportWord binding) = some (exportArgument binding) := by
  have hdollar : '$' ∉ binding.1.toList := notMem_name h (by decide)
  obtain ⟨name, value | value⟩ := binding
  · exact Word.argument?_ordinary scope (isNameChar_of_isIdentifier h).1 (ordinary_name h) hdollar
  · exact Word.argument?_quoteValue scope (by simp) (ordinary_assignment h)
      (by simpa using hdollar) value

/-- A name behind all others takes its place at the end, with or without a value. -/
theorem exportOne_exportArgument {environment : Environment} (h : isIdentifier binding.1)
    (hbefore : ∀ other ∈ environment.bindings, nameBefore other.1 binding.1) :
    exportOne environment (exportArgument binding) =
      some (environment.bind binding.1 binding.2) := by
  have hequals : '=' ∉ binding.1.toList := notMem_name h (by decide)
  obtain ⟨name, value | value⟩ := binding
  · have hsplit : Text.splitFirst? '=' name = none := by
      rw [Text.splitFirst?, Text.splitFirstChars_of_notMem hequals, Option.map_none]
    have hdeclare : environment.declare name = environment.bind name none := by
      rw [Environment.declare, Environment.contains_of_forall_before hbefore]
      rfl
    rw [exportArgument, exportOne, hsplit, ← hdeclare]
    exact if_pos h
  · rw [exportArgument, exportOne, Text.splitFirst?_append hequals]
    exact if_pos h

theorem ordinary_export : ∀ c ∈ "export".toList, Word.isOrdinary c := by
  simp [Word.isOrdinary]

theorem parseLine_replayed (h : isIdentifier binding.1) :
    parseLine ("export" ++ (" " ++ exportWord binding)) =
      .ok [{ commands := [{ argv := ["export", exportWord binding] }] }] := by
  have htokens : tokenize ("export" ++ (" " ++ exportWord binding)) =
      [.word "export", .word (exportWord binding)] := by
    have hexport : (Token.word "export").StandsAlone :=
      Word.standsAlone_ordinary (by decide) ordinary_export
    have hwords : ∀ token ∈ [Token.word "export", .word (exportWord binding)],
        token.StandsAlone := by
      simp [hexport, standsAlone_exportWord h]
    have hline : "export" ++ (" " ++ exportWord binding) =
        " ".intercalate ([Token.word "export", .word (exportWord binding)].map Token.text) := by
      simp [← String.toList_inj, String.intercalate_cons_cons, Token.text]
    rw [hline]
    exact tokenize_intercalate hwords
  rw [parseLine, htokens]
  rfl

theorem expand_replayed (scope : Scope) (h : isIdentifier binding.1) :
    CommandList.expand scope [{ commands := [{ argv := ["export", exportWord binding] }] }] =
      [{ commands :=
          [{ argv := [exportNames.name, exportArgument binding], expanded := true }] }] := by
  have hexport : Word.argument? scope "export" = some "export" :=
    Word.argument?_ordinary scope (by decide) ordinary_export (by decide)
  simp [CommandList.expand, Pipeline.expand, Command.expand, hexport,
    argument?_exportWord scope h, name]

theorem run_exportNames_single {session : Session} {arg : String} {environment : Environment}
    (h : exportOne session.state.environment arg = some environment) :
    (exportNames.run [arg] session {}).status = 0 ∧
      (exportNames.run [arg] session {}).session.state.environment = environment := by
  have hlogged (message : String) :
      (session.log .debug message).state.environment = session.state.environment := rfl
  simp [run, perform, exportArgs, changeNames, hlogged, h, Session.setEnvironment]

theorem run_exportNames_nil (session : Session) :
    (exportNames.run [] session {}).status = 0 ∧
      (exportNames.run [] session {}).writer.accepted =
        Bytes.ofText (String.join (session.state.environment.bindings.map fun binding =>
          exportLine binding ++ "\n")) := by
  have hlogged (message : String) :
      (session.log .debug message).state.environment = session.state.environment := rfl
  have hlines := @Writer.writeLines_of_unbounded {} rfl
    (session.state.environment.bindings.map exportLine)
  rw [List.map_map] at hlines
  simp [run, perform, exportArgs, written, hlogged, hlines, Except.map, Function.comp_def]

theorem exists_replayed (session : Session) {bindings : List Binding}
    {replay : List (Scope × String)} (hreplay : replay.map Prod.snd = bindings.map exportLine)
    (hnames : ∀ binding ∈ bindings, isIdentifier binding.1)
    (hsorted : (session.state.environment.bindings ++ bindings).Pairwise
      fun a b => nameBefore a.1 b.1) :
    ∃ final, Replayed session replay final ∧
      final.state.environment.bindings = session.state.environment.bindings ++ bindings := by
  -- the names so far stay before those to come, so each entry goes to the end
  induction bindings generalizing session replay with
  | nil =>
    obtain rfl : replay = [] := by simpa using hreplay
    exact ⟨session, .done session, by simp⟩
  | cons binding rest ih =>
    obtain ⟨hname, hrest⟩ := List.forall_mem_cons.mp hnames
    obtain ⟨⟨scope, entry⟩, later, rfl, hentry, hlater⟩ := List.map_eq_cons_iff.mp hreplay
    obtain rfl : entry = exportLine binding := hentry
    rw [exportLine_eq]
    have hbefore : ∀ other ∈ session.state.environment.bindings,
        nameBefore other.1 binding.1 := by
      intro other hother
      exact (List.pairwise_append.mp hsorted).2.2 other hother binding List.mem_cons_self
    obtain ⟨hstatus, henvironment⟩ :=
      run_exportNames_single (exportOne_exportArgument hname hbefore)
    let after := (exportNames.run [exportArgument binding] session {}).session
    have hbindings : after.state.environment.bindings =
        session.state.environment.bindings ++ [binding] := by
      rw [henvironment]
      exact insertBinding_of_forall_before hbefore binding.2
    have hafter : (after.state.environment.bindings ++ rest).Pairwise
        fun a b => nameBefore a.1 b.1 := by
      rw [hbindings, List.append_assoc, List.singleton_append]
      exact hsorted
    obtain ⟨final, hreplayed, hfinal⟩ := ih after hlater hrest hafter
    refine ⟨final, .entry _ (parseLine_replayed hname) (expand_replayed scope hname) hstatus
      hreplayed, ?_⟩
    rw [hfinal, hbindings, List.append_assoc, List.singleton_append]

/-- The listing of an environment, replayed entry by entry in a shell without variables, gives the
environment back. -/
theorem export_listing_replays (listing start : Session)
    (hnames : ∀ binding ∈ listing.state.environment.bindings, isIdentifier binding.1 = true)
    (hempty : start.state.environment.bindings = []) (replay : List (Scope × String))
    (hreplay : replay.map Prod.snd = listing.state.environment.bindings.map exportLine) :
    let printed := exportNames.run [] listing {}
    printed.status = 0 ∧
    printed.writer.accepted =
      Bytes.ofText (String.join (replay.map fun entry => entry.2 ++ "\n")) ∧
    ∃ final, Replayed start replay final ∧
      final.state.environment = listing.state.environment := by
  have hsorted : (start.state.environment.bindings ++
      listing.state.environment.bindings).Pairwise fun a b => nameBefore a.1 b.1 := by
    rw [hempty, List.nil_append]
    exact listing.state.environment.sorted
  obtain ⟨final, hreplayed, hfinal⟩ := exists_replayed start hreplay hnames hsorted
  rw [hempty, List.nil_append] at hfinal
  obtain ⟨hstatus, hprinted⟩ := run_exportNames_nil listing
  have hentries : (replay.map fun entry => entry.2 ++ "\n") =
      listing.state.environment.bindings.map fun binding => exportLine binding ++ "\n" := by
    simpa [Function.comp_def] using congrArg (List.map fun entry => entry ++ "\n") hreplay
  refine ⟨hstatus, ?_, final, hreplayed, Environment.ext_bindings hfinal⟩
  rw [hprinted, hentries]

theorem export_listing_replays_hostile :
    let environment : Environment :=
      ((default : Environment).set "A" "\"$HOME\" `x` \\\n'$").declare "B_2" |>.set "_" ""
    let world : World := { programs := fun _ invocation => { files := invocation.files } }
    let listing : Session := { state := { environment }, world }
    let start : Session := { state := {}, world }
    let replay := environment.bindings.map fun binding =>
      (({ environment, status := 7 } : Scope), exportLine binding)
    (∀ binding ∈ environment.bindings, isIdentifier binding.1 = true) ∧
      start.state.environment.bindings = [] ∧
      replay.map Prod.snd = environment.bindings.map exportLine ∧
      ∃ final, Replayed start replay final ∧
        final.state.environment = listing.state.environment := by
  intro environment world listing start replay
  have hnames : ∀ binding ∈ environment.bindings, isIdentifier binding.1 = true := by decide
  have hreplay : replay.map Prod.snd = environment.bindings.map exportLine := by
    rw [List.map_map]
    rfl
  obtain ⟨-, -, hfinal⟩ := export_listing_replays listing start hnames rfl replay hreplay
  exact ⟨hnames, rfl, hreplay, hfinal⟩

end Builtin

end CommandShell
