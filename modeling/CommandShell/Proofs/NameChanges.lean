import CommandShell.Proofs.EnvironmentNames

/-!
# Names after exports and unsets

Each argument of `export` and `unset` is about one name. What a name is bound to after any number of
calls hangs on the arguments about it alone, and of these on the last ones.
-/

namespace CommandShell

namespace Environment

variable (environment : Environment) (name other : String)

theorem find?_declare :
    (environment.declare name).find? other =
      if other = name then some ((environment.find? name).getD none)
      else environment.find? other := by
  unfold declare contains
  cases hfind : environment.find? name with
  | none => simp [find?_bind]
  | some value =>
    by_cases hother : other = name
    · simp [hother, hfind]
    · simp [hother]

theorem find?_unset :
    (environment.unset name).find? other =
      if other = name then none else environment.find? other := by
  change List.lookup other (environment.bindings.filter fun binding => binding.1 ≠ name) = _
  unfold find?
  generalize environment.bindings = bindings
  induction bindings with
  | nil => simp
  | cons head rest ih =>
    obtain ⟨key, value⟩ := head
    by_cases hkey : key = name
    · rw [List.filter_cons_of_neg (by simpa using hkey), ih]
      by_cases hother : other = name
      · simp [hother]
      · have hne : (other == key) = false := by simpa [hkey] using hother
        rw [if_neg hother, if_neg hother, List.lookup_cons, hne]
    · rw [List.filter_cons_of_pos (by simpa using hkey), List.lookup_cons, List.lookup_cons, ih]
      by_cases hother : other = key
      · simp [hother, hkey]
      · have hne : (other == key) = false := by simpa using hother
        rw [hne]

end Environment

/-- What an argument says about a name. -/
inductive Mention where
  | assigned (value : String)
  | declared
  | dropped
  deriving DecidableEq, Repr

/-- The binding of a name after an argument about it. -/
def Mention.apply (binding : Option (Option String)) : Mention → Option (Option String)
  | .assigned value => some (some value)
  | .declared => some (binding.getD none)
  | .dropped => none

inductive NameCommand where
  | exportNames
  | unsetNames
  deriving DecidableEq, Repr

namespace NameCommand

def builtin : NameCommand → Builtin
  | .exportNames => .exportNames
  | .unsetNames => .unsetNames

def change : NameCommand → Environment → String → Option Environment
  | .exportNames => Builtin.exportOne
  | .unsetNames => Builtin.unsetOne

def subject : NameCommand → String → String
  | .exportNames, arg => String.ofList (arg.toList.takeWhile fun c => c ≠ '=')
  | .unsetNames, arg => arg

/-- What an argument says about a name: an export gives `name=value` or `name`, an unset `name`. -/
def mention? (name : String) : NameCommand → String → Option Mention
  | .exportNames, arg =>
    if arg = name then some .declared
    else if name.toList ++ ['='] <+: arg.toList then
      some (.assigned (String.ofList (arg.toList.drop (name.toList.length + 1))))
    else none
  | .unsetNames, arg => if arg = name then some .dropped else none

theorem exported_cases (arg : String) :
    (∃ name value, arg = name ++ "=" ++ value ∧ '=' ∉ name.toList) ∨ '=' ∉ arg.toList := by
  by_cases hmem : '=' ∈ arg.toList
  · obtain ⟨front, back, hchars, hfront⟩ := List.eq_append_cons_of_mem hmem
    refine .inl ⟨String.ofList front, String.ofList back, ?_, by simpa using hfront⟩
    rw [← String.toList_inj, hchars]
    simp
  · exact .inr hmem

variable {name arg : String}

theorem forall_ne_equals (h : '=' ∉ name.toList) :
    ∀ c ∈ name.toList, decide (c ≠ '=') = true := by
  intro c hc
  apply decide_eq_true
  rintro rfl
  exact h hc

theorem subject_assignment (h : '=' ∉ name.toList) (value : String) :
    exportNames.subject (name ++ "=" ++ value) = name := by
  have hchars : (name ++ "=" ++ value).toList = name.toList ++ '=' :: value.toList := by simp
  rw [subject, hchars, List.takeWhile_append_of_pos (forall_ne_equals h)]
  simp

theorem subject_plain (h : '=' ∉ arg.toList) : exportNames.subject arg = arg := by
  rw [subject, List.takeWhile_eq_self_iff.mpr (forall_ne_equals h), String.ofList_toList]

theorem ne_assignment (h : '=' ∉ name.toList) (value : String) : name ++ "=" ++ value ≠ name := by
  intro heq
  apply h
  rw [← heq]
  simp

theorem mention?_exportNames_eq_some_iff (h : '=' ∉ name.toList) {mention : Mention} :
    exportNames.mention? name arg = some mention ↔
      mention = .declared ∧ arg = name ∨
        ∃ value, mention = .assigned value ∧ arg = name ++ "=" ++ value := by
  rw [mention?]
  constructor
  · intro hsome
    split at hsome
    · rename_i hname
      exact .inl ⟨(Option.some.inj hsome).symm, hname⟩
    · split at hsome
      · rename_i hbegins
        obtain ⟨rest, hrest⟩ := hbegins
        refine .inr ⟨String.ofList rest, ?_, ?_⟩
        · rw [← Option.some.inj hsome, ← hrest, List.drop_left' (by simp)]
        · rw [← String.toList_inj, ← hrest]
          simp
      · cases hsome
  · rintro (⟨rfl, rfl⟩ | ⟨value, rfl, rfl⟩)
    · exact if_pos rfl
    · have hchars : (name ++ "=" ++ value).toList = name.toList ++ ['='] ++ value.toList := by simp
      rw [if_neg (ne_assignment h value), hchars, if_pos (List.prefix_append _ _),
        List.drop_left' (by simp), String.ofList_toList]

theorem mention?_of_ne {command : NameCommand} (hname : isIdentifier name = true)
    (hne : name ≠ command.subject arg) : command.mention? name arg = none := by
  have hequals : '=' ∉ name.toList := Builtin.notMem_name hname (by decide)
  cases command with
  | unsetNames => exact if_neg (Ne.symm hne)
  | exportNames =>
    rw [Option.eq_none_iff_forall_ne_some]
    intro mention hmention
    apply hne
    rcases (mention?_exportNames_eq_some_iff hequals).mp hmention with ⟨-, harg⟩ | ⟨value, -, harg⟩
    · rw [harg, subject_plain hequals]
    · rw [harg, subject_assignment hequals]

def applyArg (command : NameCommand) (environment : Environment) (arg : String) : Environment :=
  (command.change environment arg).getD environment

variable {command : NameCommand} (environment : Environment)

theorem change_of_invalid (h : isIdentifier (command.subject arg) = false) :
    command.change environment arg = none := by
  cases command with
  | unsetNames => exact if_neg (by simpa [subject] using h)
  | exportNames =>
    change Builtin.exportOne environment arg = none
    unfold Builtin.exportOne
    rcases exported_cases arg with ⟨name, value, rfl, hname⟩ | hplain
    · rw [subject_assignment hname] at h
      rw [Text.splitFirst?_append hname]
      simp [h]
    · rw [subject_plain hplain] at h
      rw [Text.splitFirst?, Text.splitFirstChars_of_notMem hplain]
      simp [h]

/-- An argument with a valid name changes the binding of that name and no other. -/
theorem change_of_valid (h : isIdentifier (command.subject arg) = true) :
    ∃ changed mention, command.change environment arg = some changed ∧
      command.mention? (command.subject arg) arg = some mention ∧
      ∀ name, changed.find? name =
        if name = command.subject arg then mention.apply (environment.find? name)
        else environment.find? name := by
  have hequals : '=' ∉ (command.subject arg).toList := Builtin.notMem_name h (by decide)
  cases command with
  | unsetNames =>
    refine ⟨environment.unset arg, .dropped, if_pos h, if_pos rfl, ?_⟩
    intro name
    exact environment.find?_unset arg name
  | exportNames =>
    have hmention {mention : Mention} := @mention?_exportNames_eq_some_iff _ arg hequals mention
    change ∃ changed mention, Builtin.exportOne environment arg = some changed ∧ _
    unfold Builtin.exportOne
    rcases exported_cases arg with ⟨name, value, rfl, hname⟩ | hplain
    · rw [subject_assignment hname] at h hmention ⊢
      rw [Text.splitFirst?_append hname]
      refine ⟨environment.set name value, .assigned value, if_pos h, ?_, ?_⟩
      · exact hmention.mpr (.inr ⟨value, rfl, rfl⟩)
      · intro other
        exact environment.find?_set name other value
    · rw [subject_plain hplain] at h hmention ⊢
      rw [Text.splitFirst?, Text.splitFirstChars_of_notMem hplain]
      refine ⟨environment.declare arg, .declared, if_pos h, hmention.mpr (.inl ⟨rfl, rfl⟩), ?_⟩
      intro other
      rw [environment.find?_declare]
      split
      · rename_i heq
        rw [heq]
        rfl
      · rfl

theorem find?_applyArg (hname : isIdentifier name = true) :
    (command.applyArg environment arg).find? name =
      (command.mention? name arg).toList.foldl Mention.apply (environment.find? name) := by
  cases hvalid : isIdentifier (command.subject arg) with
  | false =>
    have hne : name ≠ command.subject arg := ne_of_apply_ne isIdentifier (by simp [hname, hvalid])
    rw [applyArg, change_of_invalid environment hvalid, mention?_of_ne hname hne]
    rfl
  | true =>
    obtain ⟨changed, mention, hchange, hmention, hfind⟩ := change_of_valid environment hvalid
    rw [applyArg, hchange, Option.getD_some, hfind]
    split
    · rename_i heq
      rw [heq, hmention]
      rfl
    · rename_i hne
      rw [mention?_of_ne hname hne]
      rfl

theorem find?_applyArg_of_not_identifier (hname : isIdentifier name = false) :
    (command.applyArg environment arg).find? name = environment.find? name := by
  cases hvalid : isIdentifier (command.subject arg) with
  | false =>
    rw [applyArg, change_of_invalid environment hvalid]
    rfl
  | true =>
    obtain ⟨changed, mention, hchange, -, hfind⟩ := change_of_valid environment hvalid
    have hne : name ≠ command.subject arg := ne_of_apply_ne isIdentifier (by simp [hname, hvalid])
    rw [applyArg, hchange, Option.getD_some, hfind, if_neg hne]

theorem find?_foldl_applyArg (hname : isIdentifier name = true) (args : List String) :
    (args.foldl command.applyArg environment).find? name =
      (args.filterMap (command.mention? name)).foldl Mention.apply (environment.find? name) := by
  induction args generalizing environment with
  | nil => rfl
  | cons arg rest ih =>
    rw [List.foldl_cons, ih, find?_applyArg environment hname, List.filterMap_cons]
    cases command.mention? name arg with
    | none => rfl
    | some mention => rfl

theorem find?_foldl_applyArg_of_not_identifier (hname : isIdentifier name = false)
    (args : List String) :
    (args.foldl command.applyArg environment).find? name = environment.find? name := by
  induction args generalizing environment with
  | nil => rfl
  | cons arg rest ih =>
    rw [List.foldl_cons, ih, find?_applyArg_of_not_identifier environment hname]

end NameCommand

def NameCommand.complaint (command : NameCommand) (arg : String) : Transcript :=
  ShellError.report
    (.builtin (command.builtin.name ++ ": `" ++ arg ++ "': not a valid identifier"))

def NameCommand.invalidArgs (command : NameCommand) (args : List String) : List String :=
  args.filter fun arg => !isIdentifier (command.subject arg)

theorem Builtin.changeNames_eq (command : NameCommand) (session : Session) (args : List String) :
    changeNames command.builtin.name command.change session args =
      ((session.setEnvironment (args.foldl command.applyArg session.state.environment)).emit
          ((command.invalidArgs args).flatMap command.complaint),
        if command.invalidArgs args = [] then 0 else 1) := by
  induction args generalizing session with
  | nil => rfl
  | cons arg rest ih =>
    rw [changeNames, List.foldl_cons, NameCommand.applyArg, NameCommand.invalidArgs,
      List.filter_cons]
    cases hvalid : isIdentifier (command.subject arg) with
    | true =>
      obtain ⟨changed, mention, hchange, -, -⟩ :=
        NameCommand.change_of_valid session.state.environment hvalid
      rw [hchange]
      exact ih (session.setEnvironment changed)
    | false =>
      rw [NameCommand.change_of_invalid session.state.environment hvalid]
      dsimp only
      rw [ih]
      simp [NameCommand.invalidArgs, NameCommand.complaint, Session.emit, Session.report,
        Session.setEnvironment]

theorem NameCommand.environment_run_nil (command : NameCommand) (session : Session)
    (writer : Writer) :
    (command.builtin.run [] session writer).session.state.environment =
      session.state.environment := by
  cases command with
  | unsetNames => rfl
  | exportNames =>
    change (Builtin.run .exportNames [] session writer).session.state.environment = _
    unfold Builtin.run
    dsimp only
    split <;> rfl

theorem NameCommand.foldl_applyArg_filter (command : NameCommand)
    (environment : Environment) (args : List String) :
    (args.filter fun arg => isIdentifier (command.subject arg)).foldl command.applyArg environment =
      args.foldl command.applyArg environment := by
  induction args generalizing environment with
  | nil => rfl
  | cons arg rest ih =>
    rw [List.filter_cons, List.foldl_cons]
    cases hvalid : isIdentifier (command.subject arg) with
    | true => exact ih (command.applyArg environment arg)
    | false =>
      have hskip : command.applyArg environment arg = environment := by
        rw [NameCommand.applyArg, NameCommand.change_of_invalid environment hvalid]
        rfl
      rw [hskip]
      exact ih environment

/-- A call of `export` or `unset` that has arguments. -/
structure NameCall where
  command : NameCommand
  args : List String
  nonempty : args ≠ []

namespace NameCall

variable (call : NameCall) (session : Session) (writer : Writer)

def run : Builtin.Run :=
  call.command.builtin.run call.args session writer

theorem perform_eq :
    call.command.builtin.perform call.args session writer =
      { session := (Builtin.changeNames call.command.builtin.name call.command.change session
          call.args).1
        writer
        result := .ok (Builtin.changeNames call.command.builtin.name call.command.change session
          call.args).2 } := by
  obtain ⟨command, args, hne⟩ := call
  cases command with
  | exportNames =>
    have hargs : ¬ args.isEmpty = true := by simpa using hne
    exact if_neg hargs
  | unsetNames => rfl

theorem run_eq :
    call.run session writer =
      { session :=
          ((Builtin.logged call.args session call.command.builtin).setEnvironment
              (call.args.foldl call.command.applyArg session.state.environment)).emit
            ((call.command.invalidArgs call.args).flatMap call.command.complaint)
        writer
        status := if call.command.invalidArgs call.args = [] then 0 else 1 } := by
  rw [run, Builtin.run_of_ok (call.perform_eq _ writer) rfl, Builtin.changeNames_eq]
  rfl

theorem status_run_eq_one_iff :
    (call.run session writer).status = 1 ↔
      ∃ arg ∈ call.args, isIdentifier (call.command.subject arg) = false := by
  have hempty : call.command.invalidArgs call.args = [] ↔
      ¬ ∃ arg ∈ call.args, isIdentifier (call.command.subject arg) = false := by
    simp [NameCommand.invalidArgs]
  rw [run_eq]
  by_cases hnone : call.command.invalidArgs call.args = []
  · exact iff_of_false (by simp [hnone]) (hempty.mp hnone)
  · exact iff_of_true (if_neg hnone) (Decidable.not_not.mp (mt hempty.mpr hnone))

theorem environment_run :
    (call.run session writer).session.state.environment =
      call.args.foldl call.command.applyArg session.state.environment := by
  rw [run_eq]
  rfl

/-- The arguments that are not valid might as well not be there. -/
theorem environment_run_filter :
    (call.command.builtin.run (call.args.filter fun arg => isIdentifier (call.command.subject arg))
        session writer).session.state.environment =
      (call.run session writer).session.state.environment := by
  rw [environment_run, ← NameCommand.foldl_applyArg_filter]
  by_cases hvalid : (call.args.filter fun arg => isIdentifier (call.command.subject arg)) = []
  · rw [hvalid]
    exact call.command.environment_run_nil session writer
  · exact environment_run ⟨call.command, _, hvalid⟩ session writer

end NameCall

def runCalls (writer : Writer) (session : Session) (calls : List NameCall) : Session :=
  calls.foldl (fun session call => (call.run session writer).session) session

/-- What the arguments of calls say about a name, in order. -/
def mentions (name : String) (calls : List NameCall) : List Mention :=
  calls.flatMap fun call => call.args.filterMap (call.command.mention? name)

section

variable (writer : Writer) (session : Session) (calls : List NameCall)

theorem find?_runCalls {name : String} (hname : isIdentifier name = true) :
    (runCalls writer session calls).state.environment.find? name =
      (mentions name calls).foldl Mention.apply (session.state.environment.find? name) := by
  induction calls generalizing session with
  | nil => rfl
  | cons call rest ih =>
    have hrest := ih (call.run session writer).session
    rw [call.environment_run, NameCommand.find?_foldl_applyArg _ hname,
      ← List.foldl_append] at hrest
    exact hrest

theorem find?_runCalls_of_not_identifier {name : String} (hname : isIdentifier name = false) :
    (runCalls writer session calls).state.environment.find? name =
      session.state.environment.find? name := by
  induction calls generalizing session with
  | nil => rfl
  | cons call rest ih =>
    have hrest := ih (call.run session writer).session
    rw [call.environment_run, NameCommand.find?_foldl_applyArg_of_not_identifier _ hname] at hrest
    exact hrest

theorem runCalls_keeps :
    (runCalls writer session calls).state =
        { session.state with environment := (runCalls writer session calls).state.environment } ∧
      (runCalls writer session calls).world = session.world := by
  induction calls generalizing session with
  | nil => exact ⟨rfl, rfl⟩
  | cons call rest ih =>
    obtain ⟨hstate, hworld⟩ := ih (call.run session writer).session
    have hcall : (call.run session writer).session.state =
        { session.state with
          environment := call.args.foldl call.command.applyArg session.state.environment } := by
      rw [call.run_eq]
      rfl
    have hkept : (call.run session writer).session.world = session.world := by
      rw [call.run_eq]
      rfl
    refine ⟨hstate.trans ?_, hworld.trans hkept⟩
    rw [hcall]
    rfl

end

/-- The binding of a name that was bound like `before`, `after` arguments said things about it. -/
structure Settled (before : Option (Option String)) (mentions : List Mention)
    (after : Option (Option String)) : Prop where
  kept : (∀ mention ∈ mentions, mention = .declared) → (mentions = [] ∨ before.isSome = true) →
    after = before
  dropped : mentions.getLast? = some .dropped → after = none
  assigned : ∀ front value back, mentions = front ++ .assigned value :: back →
    (∀ mention ∈ back, mention = .declared) → after = some (some value)
  redeclared : ∀ front back, mentions = front ++ .dropped :: back → back ≠ [] →
    (∀ mention ∈ back, mention = .declared) → after = some none
  declared : (∀ mention ∈ mentions, mention = .declared) → mentions ≠ [] → before = none →
    after = some none

theorem foldl_declared {mentions : List Mention} (h : ∀ mention ∈ mentions, mention = .declared)
    (binding : Option (Option String)) :
    mentions.foldl Mention.apply binding =
      if mentions = [] then binding else some (binding.getD none) := by
  induction mentions generalizing binding with
  | nil => rfl
  | cons mention rest ih =>
    rw [List.foldl_cons, ih fun other hother => h other (List.mem_cons_of_mem _ hother),
      h mention List.mem_cons_self]
    simp [Mention.apply]

theorem settled_foldl (before : Option (Option String)) (mentions : List Mention) :
    Settled before mentions (mentions.foldl Mention.apply before) where
  kept := by
    intro hdeclared hpresent
    rw [foldl_declared hdeclared]
    rcases hpresent with rfl | hsome
    · rfl
    · obtain ⟨value, rfl⟩ := Option.isSome_iff_exists.mp hsome
      simp
  dropped := by
    intro hlast
    obtain ⟨front, rfl⟩ := List.getLast?_eq_some_iff.mp hlast
    rw [List.foldl_append]
    rfl
  assigned := by
    intro front value back hmentions hback
    rw [hmentions, List.foldl_append, List.foldl_cons, foldl_declared hback]
    simp [Mention.apply]
  redeclared := by
    intro front back hmentions hne hback
    rw [hmentions, List.foldl_append, List.foldl_cons, foldl_declared hback, if_neg hne]
    rfl
  declared := by
    intro hdeclared hne hbefore
    rw [foldl_declared hdeclared, if_neg hne, hbefore]
    rfl

/-- Calls of `export` and `unset` settle each name by the arguments about it, in order, and change
nothing else; a call ends with status one just if it has an argument that is not valid, and such
arguments are reported and have no other effect. -/
theorem exports_and_unsets_settle_names (writer : Writer) (session : Session)
    (calls : List NameCall) :
    let after := runCalls writer session calls
    (∀ name, isIdentifier name = true →
      Settled (session.state.environment.find? name) (mentions name calls)
        (after.state.environment.find? name)) ∧
    (∀ name, isIdentifier name = false →
      after.state.environment.find? name = session.state.environment.find? name) ∧
    (after.state = { session.state with environment := after.state.environment } ∧
      after.world = session.world) ∧
    ∀ (call : NameCall) (session : Session),
      let run := call.run session writer
      (run.status = 1 ↔ ∃ arg ∈ call.args, isIdentifier (call.command.subject arg) = false) ∧
      (run.status = 0 ∨ run.status = 1) ∧
      run.writer = writer ∧
      run.session.transcript =
        (Builtin.logged call.args session call.command.builtin).transcript ++
          (call.command.invalidArgs call.args).flatMap call.command.complaint ∧
      run.session.state.environment =
        (call.command.builtin.run
          (call.args.filter fun arg => isIdentifier (call.command.subject arg))
          session writer).session.state.environment := by
  intro after
  refine ⟨?_, ?_, runCalls_keeps writer session calls, ?_⟩
  · intro name hname
    rw [find?_runCalls writer session calls hname]
    exact settled_foldl _ _
  · intro name hname
    exact find?_runCalls_of_not_identifier writer session calls hname
  · intro call session run
    refine ⟨call.status_run_eq_one_iff session writer, ?_, ?_, ?_,
      (call.environment_run_filter session writer).symm⟩
    · change (call.run session writer).status = 0 ∨ (call.run session writer).status = 1
      rw [call.run_eq]
      exact ite_eq_or_eq _ _ _
    · change (call.run session writer).writer = writer
      rw [call.run_eq]
    · change (call.run session writer).session.transcript = _
      rw [call.run_eq, Session.transcript_emit]
      rfl

/-- A value is kept by a bare export and lost by an unset, and a name that is not valid is passed
over. -/
theorem exports_and_unsets_settle_names_mixed :
    let session : Session :=
      { state := { environment := Environment.set default "A" "1" }
        world := { programs := fun _ invocation => { files := invocation.files } } }
    let calls : List NameCall :=
      [⟨.exportNames, ["A", "B=2", "1x=3", "C"], by simp⟩, ⟨.unsetNames, ["B", "C=", "C"], by simp⟩,
        ⟨.exportNames, ["B=x=y", "C", "B"], by simp⟩]
    let after := (runCalls {} session calls).state.environment
    after.find? "A" = some (some "1") ∧ after.find? "B" = some (some "x=y") ∧
      after.find? "C" = some none ∧ after.find? "1x" = none := by
  intro session calls after
  obtain ⟨hvalid, hother, -, -⟩ := exports_and_unsets_settle_names {} session calls
  have hA : mentions "A" calls = [.declared] := by decide
  have hB : mentions "B" calls =
      [.assigned "2", .dropped] ++ .assigned "x=y" :: [.declared] := by decide
  have hC : mentions "C" calls = [.declared] ++ .dropped :: [.declared] := by decide
  refine ⟨?_, ?_, ?_, ?_⟩
  · exact (hvalid "A" (by decide)).kept (by simp [hA]) (.inr (by decide))
  · exact (hvalid "B" (by decide)).assigned _ _ _ hB (by simp)
  · exact (hvalid "C" (by decide)).redeclared _ _ hC (by simp) (by simp)
  · exact hother "1x" (by decide)

end CommandShell
