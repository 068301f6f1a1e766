import CommandShell.Proofs.HereDocs

/-!
# Short circuits

The pipelines of a line run one after the other up to the first that ends the line. The line is
the same as its pipelines run one at a time; those behind the end leave no trace.
-/

namespace CommandShell

namespace Session

/-- A pipeline run by itself, expanded with the environment and the status that it finds. -/
def runAlone (session : Session) (pipeline : Pipeline) : Session × Int :=
  let scope : Scope :=
    { environment := session.state.environment, status := session.state.lastStatus }
  (session.emit (expansionNotes scope pipeline)).runPipeline (pipeline.expand scope)

/-- The session after the first pipelines of a list, each run by itself and its status kept. -/
def afterFirst (session : Session) (list : CommandList) (count : Nat) : Session :=
  (list.take count).foldl
    (fun session pipeline => (session.runAlone pipeline).1.setStatus (session.runAlone pipeline).2)
    session

/-- What a pipeline left lets the line go on: nobody asked to leave, and the status is zero before
`&&` and not zero before `||`. -/
structure GoesOn (after : Session) (pipeline : Pipeline) : Prop where
  stays : after.state.shouldExit = false
  and : pipeline.connective = some .and → after.state.lastStatus = 0
  or : pipeline.connective = some .or → after.state.lastStatus ≠ 0

/-- Sessions that differ in their logs only. -/
structure AgreesWith (session other : Session) : Prop where
  state : session.state = other.state
  world : session.world = other.world
  stdout : session.transcript.stdout = other.transcript.stdout
  stderr : session.transcript.stderr = other.transcript.stderr

/-- Exactly the first `count` pipelines of a list run, one after the other, and leave `final`. -/
structure RunsFirst (start : Session) (list : CommandList) (count : Nat) (final : Session) :
    Prop where
  count_le : count ≤ list.length
  first : list ≠ [] → 0 < count
  /-- Another pipeline runs if the one before it ran and lets the line go on. -/
  next : ∀ k pipeline, list[k]? = some pipeline → k + 1 < list.length →
    (k + 1 < count ↔ k < count ∧ (start.afterFirst list (k + 1)).GoesOn pipeline)
  agrees : final.AgreesWith (start.afterFirst list count)
  /-- The status of a line is that of the last pipeline that ran. -/
  status : ∀ k pipeline, list[k]? = some pipeline → count = k + 1 →
    final.state.lastStatus = ((start.afterFirst list k).runAlone pipeline).2
  statusOfNone : count = 0 → final.state.lastStatus = start.state.lastStatus

theorem afterFirst_zero (session : Session) (list : CommandList) :
    session.afterFirst list 0 = session := rfl

theorem afterFirst_cons_succ (session : Session) (pipeline : Pipeline) (rest : CommandList)
    (count : Nat) :
    session.afterFirst (pipeline :: rest) (count + 1) =
      (session.step pipeline).1.afterFirst rest count := rfl

theorem AgreesWith.refl (session : Session) : session.AgreesWith session :=
  ⟨rfl, rfl, rfl, rfl⟩

theorem agreesWith_log (session : Session) (level : LogLevel) (message : String) :
    (session.log level message).AgreesWith session := by
  refine ⟨rfl, rfl, ?_, ?_⟩
  · rw [log, transcript_emit, Transcript.stdout_append]
    exact List.append_nil _
  · rw [log, transcript_emit, Transcript.stderr_append]
    exact List.append_nil _

section

variable {session : Session} {pipeline : Pipeline}

theorem goesOn_step_iff :
    (session.step pipeline).1.GoesOn pipeline ↔
      (session.step pipeline).1.state.shouldExit = false ∧
        ∀ connective, pipeline.connective = some connective →
          connective.stops (session.step pipeline).2 = false := by
  have hstatus : (session.step pipeline).1.state.lastStatus = (session.step pipeline).2 := rfl
  constructor
  · intro h
    refine ⟨h.stays, fun connective hconnective => ?_⟩
    cases connective with
    | and => simpa [Connective.stops, hstatus] using h.and hconnective
    | or => simpa [Connective.stops, hstatus] using h.or hconnective
  · rintro ⟨hstays, hgo⟩
    refine ⟨hstays, fun hconnective => ?_, fun hconnective => ?_⟩
    · simpa [Connective.stops, hstatus] using hgo _ hconnective
    · simpa [Connective.stops, hstatus] using hgo _ hconnective

theorem runList_cons_of_goesOn (h : (session.step pipeline).1.GoesOn pipeline)
    (rest : CommandList) :
    session.runList (pipeline :: rest) = (session.step pipeline).1.runList rest := by
  obtain ⟨hstays, hgo⟩ := goesOn_step_iff.mp h
  simp only [runList, hstays]
  cases hconnective : pipeline.connective with
  | none => simp
  | some connective => simp [hgo connective hconnective]

theorem runList_cons_of_not_goesOn (h : ¬ (session.step pipeline).1.GoesOn pipeline)
    (rest : CommandList) : session.runList (pipeline :: rest) = session.runList [pipeline] := by
  simp only [runList]
  by_cases hstays : (session.step pipeline).1.state.shouldExit = true
  · simp [hstays]
  · rw [if_neg hstays, if_neg hstays]
    cases hconnective : pipeline.connective with
    | none =>
      have hgo : (session.step pipeline).1.GoesOn pipeline :=
        goesOn_step_iff.mpr ⟨by simpa using hstays, by simp [hconnective]⟩
      exact absurd hgo h
    | some connective =>
      have hstops : connective.stops (session.step pipeline).2 = true := by
        by_contra hgo
        refine h (goesOn_step_iff.mpr ⟨by simpa using hstays, fun other hother => ?_⟩)
        obtain rfl : connective = other := by simpa [hconnective] using hother
        simpa using hgo
      simp [hstops]

theorem runList_singleton_agrees (session : Session) (pipeline : Pipeline) :
    (session.runList [pipeline]).AgreesWith (session.step pipeline).1 := by
  simp only [runList]
  split
  · exact .refl _
  · split
    · exact .refl _
    · split
      · exact agreesWith_log ..
      · exact .refl _

theorem goesOn_congr {other : Session} (hexit : session.state.shouldExit = other.state.shouldExit)
    (hstatus : session.state.lastStatus = other.state.lastStatus) :
    session.GoesOn pipeline ↔ other.GoesOn pipeline := by
  constructor
  · rintro ⟨hstays, hand, hor⟩
    exact ⟨hexit ▸ hstays, hstatus ▸ hand, hstatus ▸ hor⟩
  · rintro ⟨hstays, hand, hor⟩
    exact ⟨hexit ▸ hstays, hstatus ▸ hand, hstatus ▸ hor⟩

theorem AgreesWith.goesOn_iff {other : Session} (h : session.AgreesWith other) :
    session.GoesOn pipeline ↔ other.GoesOn pipeline :=
  goesOn_congr (by rw [h.state]) (by rw [h.state])

end

section

variable {session final : Session} {pipeline : Pipeline} {rest : CommandList} {count : Nat}

theorem RunsFirst.cons (hgo : (session.step pipeline).1.GoesOn pipeline)
    (h : (session.step pipeline).1.RunsFirst rest count final) :
    session.RunsFirst (pipeline :: rest) (count + 1) final where
  count_le := Nat.succ_le_succ h.count_le
  first _ := Nat.succ_pos count
  next := by
    intro k other hother hk
    cases k with
    | zero =>
      obtain rfl : pipeline = other := by simpa using hother
      have hcount : 0 < count := by
        apply h.first
        rintro rfl
        simp at hk
      rw [afterFirst_cons_succ, afterFirst_zero]
      exact ⟨fun _ => ⟨by omega, hgo⟩, fun _ => by omega⟩
    | succ k =>
      have hnext := h.next k other (by simpa using hother) (by simpa using hk)
      rw [afterFirst_cons_succ, Nat.add_lt_add_iff_right, Nat.add_lt_add_iff_right]
      exact hnext
  agrees := h.agrees
  status := by
    intro k other hother hcount
    cases k with
    | zero =>
      obtain rfl : pipeline = other := by simpa using hother
      exact h.statusOfNone (by omega)
    | succ k => exact h.status k other (by simpa using hother) (by omega)
  statusOfNone := by simp

theorem runsFirst_one (hstop : ¬ (session.step pipeline).1.GoesOn pipeline) :
    session.RunsFirst (pipeline :: rest) 1 (session.runList [pipeline]) where
  count_le := by simp
  first _ := Nat.one_pos
  next := by
    intro k other hother _
    cases k with
    | zero =>
      obtain rfl : pipeline = other := by simpa using hother
      simpa [afterFirst_cons_succ, afterFirst_zero] using hstop
    | succ k => exact ⟨fun h => by omega, fun h => by omega⟩
  agrees := runList_singleton_agrees session pipeline
  status := by
    intro k other hother hcount
    obtain rfl : k = 0 := by omega
    obtain rfl : pipeline = other := by simpa using hother
    rw [(runList_singleton_agrees session pipeline).state]
    rfl
  statusOfNone := by simp

end

/-- A list runs up to the first pipeline that ends the line. -/
theorem exists_runsFirst (session : Session) (list : CommandList) :
    ∃ count, session.RunsFirst list count (session.runList list) := by
  induction list generalizing session with
  | nil => exact ⟨0, by simp, by simp, by simp, .refl _, by simp, fun _ => rfl⟩
  | cons pipeline rest ih =>
    by_cases hgo : (session.step pipeline).1.GoesOn pipeline
    · obtain ⟨count, hruns⟩ := ih (session.step pipeline).1
      rw [runList_cons_of_goesOn hgo]
      exact ⟨count + 1, hruns.cons hgo⟩
    · rw [runList_cons_of_not_goesOn hgo]
      exact ⟨1, runsFirst_one hgo⟩

theorem execute_of_no_awaiting (session : Session) (source : LineSource) (prompt : String)
    {list : CommandList} (h : ∀ redirection ∈ list.redirections, redirection.awaitsBody = false) :
    session.execute source prompt list = (session.runList list, source) := by
  rw [execute_eq, collectHereDocs_of_no_awaiting prompt source h]
  rfl

theorem execute_cons (session : Session) (source : LineSource) (prompt : String)
    {pipeline : Pipeline} {rest : CommandList}
    (h : ∀ redirection ∈ CommandList.redirections (pipeline :: rest),
      redirection.awaitsBody = false) :
    let first := session.execute source prompt [pipeline]
    (first.1.GoesOn pipeline →
      session.execute source prompt (pipeline :: rest) = first.1.execute first.2 prompt rest) ∧
    (¬ first.1.GoesOn pipeline → session.execute source prompt (pipeline :: rest) = first) := by
  have hlist : CommandList.redirections (pipeline :: rest) =
      pipeline.redirections ++ CommandList.redirections rest := rfl
  rw [hlist, List.forall_mem_append] at h
  have hfirst : session.execute source prompt [pipeline] =
      (session.runList [pipeline], source) := by
    apply execute_of_no_awaiting
    simpa [CommandList.redirections] using h.1
  have hrest (later : Session) : later.execute source prompt rest = (later.runList rest, source) :=
    later.execute_of_no_awaiting source prompt h.2
  have hall : session.execute source prompt (pipeline :: rest) =
      (session.runList (pipeline :: rest), source) := by
    apply execute_of_no_awaiting
    rw [hlist, List.forall_mem_append]
    exact h
  dsimp only
  rw [hfirst, hall, hrest, (runList_singleton_agrees session pipeline).goesOn_iff]
  constructor
  · intro hgo
    rw [runList_cons_of_goesOn hgo, runList_cons_of_goesOn hgo]
    rfl
  · intro hstop
    rw [runList_cons_of_not_goesOn hstop]

theorem execute_of_interrupted (session : Session) (source : LineSource) (prompt : String)
    (list : CommandList) (h : (collectHereDocs prompt source list).1.interrupted = true) :
    let final := (session.execute source prompt list).1
    final.state = { session.state with lastStatus := 130 } ∧ final.world = session.world ∧
      final.transcript.stdout = session.transcript.stdout ∧
      final.transcript.stderr = session.transcript.stderr ++
        (collectHereDocs prompt source list).1.notes.stderr := by
  have hquiet : (collectHereDocs prompt source list).1.notes.stdout = [] :=
    quiet_collectHereDocs prompt source list
  have hexecute := execute_eq session source prompt list
  dsimp only at hexecute ⊢
  rw [if_pos h] at hexecute
  rw [hexecute]
  refine ⟨rfl, rfl, ?_, ?_⟩
  · change ((session.emit _).log .debug _).transcript.stdout = _
    rw [(agreesWith_log ..).stdout, transcript_emit, Transcript.stdout_append, hquiet,
      List.append_nil]
  · change ((session.emit _).log .debug _).transcript.stderr = _
    rw [(agreesWith_log ..).stderr, transcript_emit, Transcript.stderr_append]

/-- A line runs its pipelines, which got their bodies first, up to the one that ends it; without
bodies to read, it is its pipelines run as lines of their own; an interrupt while bodies are read
leaves only a status. -/
theorem execute_short_circuits (session : Session) (source : LineSource) (prompt : String)
    (list : CommandList) :
    let collected := collectHereDocs prompt source list
    let final := (session.execute source prompt list).1
    collected.2.map Pipeline.withoutBodies = list.map Pipeline.withoutBodies ∧
    (collected.1.interrupted = false →
      ∃ count, RunsFirst (session.emit collected.1.notes) collected.2 count final) ∧
    (∀ pipeline rest, list = pipeline :: rest →
      (∀ redirection ∈ list.redirections, redirection.awaitsBody = false) →
      let first := session.execute source prompt [pipeline]
      (first.1.GoesOn pipeline →
        session.execute source prompt list = first.1.execute first.2 prompt rest) ∧
      (¬ first.1.GoesOn pipeline → session.execute source prompt list = first)) ∧
    (collected.1.interrupted = true →
      final.state = { session.state with lastStatus := 130 } ∧ final.world = session.world ∧
      final.transcript.stdout = session.transcript.stdout ∧
      final.transcript.stderr = session.transcript.stderr ++ collected.1.notes.stderr) := by
  refine ⟨withoutBodies_collectHereDocs prompt source list, fun hdone => ?_, ?_,
    execute_of_interrupted session source prompt list⟩
  · rw [execute_eq]
    dsimp only
    rw [hdone]
    exact exists_runsFirst _ _
  · rintro pipeline rest rfl hread
    exact session.execute_cons source prompt hread

theorem execute_short_circuits_failed_and :
    let session : Session :=
      { state := {}, world := { programs := fun _ invocation => { files := invocation.files } } }
    let list : CommandList :=
      [{ commands := [{ argv := ["cd", "a", "b"], expanded := true }], connective := some .and },
        { commands := [{ argv := ["export", "A=1"], expanded := true }] }]
    let collected := collectHereDocs "> " {} list
    collected.1.interrupted = false ∧
      RunsFirst (session.emit collected.1.notes) collected.2 1
        (session.execute {} "> " list).1 := by
  intro session list collected
  obtain ⟨count, hruns⟩ := (execute_short_circuits session {} "> " list).2.1 rfl
  have hstop : ¬ (session.afterFirst list 1).GoesOn (list.head (by simp [list])) := by
    intro hgo
    exact absurd (hgo.and rfl) (by decide)
  have hfirst := hruns.first (List.cons_ne_nil _ _)
  have hnext := hruns.next 0 _ rfl (by decide)
  have hcount : count = 1 := by
    have hsecond : ¬ 1 < count := fun h => hstop (hnext.mp h).2
    omega
  exact ⟨rfl, hcount ▸ hruns⟩

end Session

end CommandShell
