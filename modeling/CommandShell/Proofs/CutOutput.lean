import CommandShell.Proofs.BuiltinEffects

/-!
# Output that is cut short

A builtin settles what it does to the session, what it prints and its status without a look at its
writer. So a writer that runs full cuts the output where it ran full and changes nothing else; the
failed write is reported and gives the status.
-/

namespace CommandShell

namespace Builtin

/-- What a call of a builtin comes to before anything is written. -/
structure Effect where
  session : Session
  output : Bytes
  status : Int

namespace Effect

def deliver (effect : Effect) (writer : Writer) : Outcome where
  session := effect.session
  writer := (writer.write effect.output).2
  result := (writer.write effect.output).1.map fun _ => effect.status

theorem deliver_of_silent (session : Session) (status : Int) (writer : Writer) :
    deliver ⟨session, [], status⟩ writer = { session, writer, result := .ok status } := by
  rw [deliver, Writer.write_nil]
  rfl

end Effect

variable (args : List String) (session : Session)

theorem effect_fail (message : String) : ∃ effect : Effect,
    ∀ writer, fail session writer message = effect.deliver writer :=
  ⟨⟨session.report (.builtin message), [], 1⟩, fun writer =>
    (Effect.deliver_of_silent _ 1 writer).symm⟩

theorem effect_writeText (text : String) : ∃ effect : Effect,
    ∀ writer, written session (writer.writeText text) = effect.deliver writer :=
  ⟨⟨session, Bytes.ofText text, 0⟩, fun _ => rfl⟩

theorem effect_writeLines (lines : List String) : ∃ effect : Effect,
    ∀ writer, written session (writer.writeLines lines) = effect.deliver writer := by
  refine ⟨⟨session, Bytes.ofText (String.join (lines.map fun line => line ++ "\n")), 0⟩, ?_⟩
  intro writer
  rw [Writer.writeLines_eq_write]
  rfl

theorem effect_silent (status : Int) : ∃ effect : Effect,
    ∀ writer, { session, writer, result := .ok status : Outcome } = effect.deliver writer :=
  ⟨⟨session, [], status⟩, fun writer => (Effect.deliver_of_silent session status writer).symm⟩

/-- The words and the line feed are two writes, which come to one. -/
theorem effect_echoArgs : ∃ effect : Effect,
    ∀ writer, echoArgs args session writer = effect.deliver writer := by
  let words := Bytes.ofText (" ".intercalate (args.dropWhile isNoFeedFlag))
  by_cases hflag : args.head?.any isNoFeedFlag = true
  · refine ⟨⟨session, words, 0⟩, ?_⟩
    intro writer
    unfold echoArgs
    simp only [hflag, if_true]
    split <;> rfl
  · refine ⟨⟨session, words ++ Bytes.ofText "\n", 0⟩, ?_⟩
    intro writer
    unfold echoArgs Effect.deliver
    cases hwords : (writer.write words).1 with
    | error cause =>
      have htext : (writer.writeText (" ".intercalate (args.dropWhile isNoFeedFlag))).1 =
          .error cause := hwords
      rw [Writer.write_append_of_error hwords]
      simp only [htext]
      rfl
    | ok _ =>
      have htext : (writer.writeText (" ".intercalate (args.dropWhile isNoFeedFlag))).1 =
          .ok () := hwords
      rw [Writer.write_append_of_ok hwords]
      simp only [htext, if_neg hflag]
      rfl

theorem effect_changeDirectoryTo : ∃ effect : Effect,
    ∀ writer, changeDirectoryTo args session writer = effect.deliver writer := by
  unfold changeDirectoryTo
  cases directoryTarget session.state.environment args with
  | error message => exact effect_fail session message
  | ok target =>
    obtain ⟨target, printed⟩ := target
    dsimp only
    cases session.world.changeDirectory target with
    | error cause => exact effect_fail session _
    | ok world =>
      cases printed with
      | false => exact effect_silent _ 0
      | true => exact effect_writeText _ _

theorem effect_printDirectoryOf : ∃ effect : Effect,
    ∀ writer, printDirectoryOf session writer = effect.deliver writer := by
  unfold printDirectoryOf
  cases session.world.currentDirectory with
  | error cause => exact effect_fail session _
  | ok directory => exact effect_writeText session _

theorem effect_exportArgs : ∃ effect : Effect,
    ∀ writer, exportArgs args session writer = effect.deliver writer := by
  unfold exportArgs
  cases args.isEmpty with
  | true => exact effect_writeLines session _
  | false => exact effect_silent _ _

theorem effect_listEnvironment : ∃ effect : Effect,
    ∀ writer, listEnvironment args session writer = effect.deliver writer := by
  unfold listEnvironment
  cases args.isEmpty with
  | true => exact effect_writeLines session _
  | false => exact effect_fail session _

theorem effect_exitWith : ∃ effect : Effect,
    ∀ writer, exitWith args session writer = effect.deliver writer := by
  unfold exitWith
  generalize (if session.state.interactive then _ else session) = told
  cases args with
  | nil => exact effect_silent _ _
  | cons arg others =>
    dsimp only
    cases exitCode? arg with
    | none => exact effect_silent _ 255
    | some code =>
      cases others with
      | nil => exact effect_silent _ code
      | cons _ _ => exact effect_fail told _

theorem exists_effect (builtin : Builtin) : ∃ effect : Effect,
    ∀ writer, builtin.perform args session writer = effect.deliver writer := by
  cases builtin with
  | echo => exact effect_echoArgs args session
  | changeDirectory => exact effect_changeDirectoryTo args session
  | printDirectory => exact effect_printDirectoryOf session
  | exportNames => exact effect_exportArgs args session
  | unsetNames => exact effect_silent _ _
  | printEnvironment => exact effect_listEnvironment args session
  | exit => exact effect_exitWith args session
  | history => exact effect_writeLines session _

section

variable {args session} {builtin : Builtin} {effect : Effect} {writer : Writer}
  (h : builtin.perform args (logged args session builtin) writer = effect.deliver writer)

include h

theorem run_of_written (hwrite : (writer.write effect.output).1 = .ok ()) :
    builtin.run args session writer =
      { session := effect.session
        writer := (writer.write effect.output).2
        status := effect.status } := by
  apply run_of_ok h
  rw [Effect.deliver, hwrite]
  rfl

theorem run_of_not_written {cause : IoError}
    (hwrite : (writer.write effect.output).1 = .error cause) :
    builtin.run args session writer =
      { session :=
          effect.session.emit [notice (builtin.name ++ ": write error: " ++ cause.text)]
        writer := (writer.write effect.output).2
        status := 1 } := by
  apply run_of_error h
  rw [Effect.deliver, hwrite]
  rfl

end

/-- Beside a run whose writer takes everything, the run of the same call whose writer takes `limit`
bytes and then fails. -/
theorem run_cut_at_limit (builtin : Builtin) (args : List String) (session : Session) (limit : Nat)
    (failure : IoError) :
    let limited : Writer := { capacity := some limit, failure }
    let whole := builtin.run args session {}
    let cut := builtin.run args session limited
    let output := whole.writer.accepted
    cut.writer.accepted = output.take (min limit output.length) ∧
    (output.length ≤ limit →
      cut.status = whole.status ∧ cut.session.transcript = whole.session.transcript) ∧
    (limit < output.length →
      cut.status = 1 ∧
      cut.session.transcript = whole.session.transcript ++
        [notice (builtin.name ++ ": write error: " ++ limited.cause.text)]) ∧
    cut.session.state = whole.session.state ∧ cut.session.world = whole.session.world := by
  intro limited whole cut output
  obtain ⟨effect, heffect⟩ := exists_effect args (logged args session builtin) builtin
  have hwhole : whole = { session := effect.session
                          writer := { accepted := effect.output }
                          status := effect.status } := run_of_written (heffect {}) rfl
  have houtput : output = effect.output := by
    change whole.writer.accepted = _
    rw [hwhole]
  rw [houtput, hwhole, ← List.take_eq_take_min]
  by_cases hfits : effect.output.length ≤ limit
  · have hcut : cut = _ := run_of_written (heffect _) (if_pos hfits)
    rw [hcut]
    refine ⟨rfl, ?_, ?_, rfl, rfl⟩
    · intro _
      exact ⟨rfl, rfl⟩
    · intro hlong
      omega
  · have hcut : cut = _ := run_of_not_written (heffect _) (if_neg hfits)
    rw [hcut]
    refine ⟨rfl, ?_, ?_, rfl, rfl⟩
    · intro hshort
      omega
    · intro _
      exact ⟨rfl, Session.transcript_emit _ _⟩

/-- The directory was changed before its name did not fit. -/
theorem run_cut_at_limit_directory :
    let session : Session :=
      { state := { environment := Environment.set default "OLDPWD" "/" }
        world :=
          { programs := fun _ invocation => { files := invocation.files }
            files := { nodes := [(["tmp"], .directory)] }
            directory := ["tmp"] } }
    let cut := Builtin.changeDirectory.run ["-"] session { capacity := some 1 }
    cut.writer.accepted = Bytes.ofText "/" ∧ cut.status = 1 ∧ cut.session.world.directory = [] ∧
      cut.session.state.environment.get? "OLDPWD" = some "/tmp" := by
  intro session cut
  obtain ⟨haccepted, -, hlong, hstate, hworld⟩ :=
    run_cut_at_limit .changeDirectory ["-"] session 1 .shortWrite
  refine ⟨haccepted.trans ?_, (hlong ?_).1, ?_, ?_⟩
  · decide
  · decide
  · rw [hworld]
    decide
  · rw [hstate]
    decide

end Builtin

end CommandShell
