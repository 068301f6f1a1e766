import CommandShell.Proofs.OpenedFiles
import CommandShell.Proofs.PipelineFlow

/-!
# The order of redirections

Redirections are opened one after the other, each in the files that the earlier ones left, up to the
first that is refused. When all are open, each stream is bound to the last redirection for it, and
what is read is the file as all of them left it.
-/

namespace CommandShell

open FileTree (WriteMode)

def RedirectOp.mode? : RedirectOp → Option WriteMode
  | .output => some .truncate
  | .append => some .append
  | .input | .hereDoc => none

theorem RedirectOp.reads_eq_false_iff {op : RedirectOp} :
    op.reads = false ↔ ∃ mode, op.mode? = some mode := by
  cases op <;> simp [reads, mode?]

namespace Redirection

/-- The redirection opens in the world `before` and leaves the world `after`. -/
inductive Opens (before : World) (redirection : Redirection) : World → Prop where
  | input {path : Path} {node : Node} (hplain : redirection.ambiguous = false)
      (hop : redirection.op = .input)
      (hfound : before.files.lookup before.directory redirection.target = .ok (path, node)) :
      Opens before redirection before
  | hereDoc (hplain : redirection.ambiguous = false) (hop : redirection.op = .hereDoc)
      (hroom : (redirection.body.getD "").utf8ByteSize ≤ maxPiped ∨ before.temporaryError? = none) :
      Opens before redirection before
  | write {mode : WriteMode} {files : FileTree} {path : Path} {node : Node}
      (hplain : redirection.ambiguous = false) (hop : redirection.op.mode? = some mode)
      (hopen : before.files.openWrite before.directory mode redirection.target =
        .ok (files, path, node)) :
      Opens before redirection { before with files }

/-- The redirection is ambiguous or does not open in the world. -/
inductive Refused (world : World) (redirection : Redirection) : ShellError → Prop where
  | ambiguous (hambiguous : redirection.ambiguous = true) :
      Refused world redirection (.ambiguousRedirect redirection.target)
  | input {cause : IoError} (hplain : redirection.ambiguous = false)
      (hop : redirection.op = .input)
      (hfound : world.files.lookup world.directory redirection.target = .error cause) :
      Refused world redirection (.redirect redirection.target cause)
  | hereDoc {cause : IoError} (hplain : redirection.ambiguous = false)
      (hop : redirection.op = .hereDoc)
      (hlong : ¬ (redirection.body.getD "").utf8ByteSize ≤ maxPiped)
      (hroom : world.temporaryError? = some cause) :
      Refused world redirection (.redirect "here-document" cause)
  | write {mode : WriteMode} {cause : IoError} (hplain : redirection.ambiguous = false)
      (hop : redirection.op.mode? = some mode)
      (hopen : world.files.openWrite world.directory mode redirection.target = .error cause) :
      Refused world redirection (.redirect redirection.target cause)

theorem opens_or_refused (world : World) (redirection : Redirection) :
    (∃ after, Opens world redirection after) ∨ ∃ error, Refused world redirection error := by
  by_cases hambiguous : redirection.ambiguous = true
  · exact .inr ⟨_, .ambiguous hambiguous⟩
  · have hplain := Bool.eq_false_iff.mpr hambiguous
    have hwrite {mode : WriteMode} (hop : redirection.op.mode? = some mode) :
        (∃ after, Opens world redirection after) ∨ ∃ error, Refused world redirection error := by
      cases hopen : world.files.openWrite world.directory mode redirection.target with
      | error cause => exact .inr ⟨_, .write hplain hop hopen⟩
      | ok opened => exact .inl ⟨_, .write hplain hop hopen⟩
    cases hop : redirection.op with
    | input =>
      cases hfound : world.files.lookup world.directory redirection.target with
      | error cause => exact .inr ⟨_, .input hplain hop hfound⟩
      | ok found => exact .inl ⟨_, .input hplain hop hfound⟩
    | hereDoc =>
      by_cases hshort : (redirection.body.getD "").utf8ByteSize ≤ maxPiped
      · exact .inl ⟨_, .hereDoc hplain hop (.inl hshort)⟩
      · cases hroom : world.temporaryError? with
        | none => exact .inl ⟨_, .hereDoc hplain hop (.inr hroom)⟩
        | some cause => exact .inr ⟨_, .hereDoc hplain hop hshort hroom⟩
    | output => exact hwrite (congrArg RedirectOp.mode? hop)
    | append => exact hwrite (congrArg RedirectOp.mode? hop)

theorem Opens.cases {before after : World} {redirection : Redirection}
    (h : Opens before redirection after) :
    redirection.op.mode? = none ∧ after = before ∨
      ∃ mode path, redirection.op.mode? = some mode ∧ before.LeadsTo redirection.target path ∧
        before.Touched mode path after := by
  cases h with
  | input hplain hop hfound => exact .inl ⟨hop ▸ rfl, rfl⟩
  | hereDoc hplain hop hroom => exact .inl ⟨hop ▸ rfl, rfl⟩
  | write hplain hop hopen =>
    obtain ⟨hleads, htouched, -⟩ := World.touched_of_openWrite hopen
    exact .inr ⟨_, _, hop, hleads, htouched⟩

theorem Refused.apply {start : Wiring} {redirection : Redirection} {error : ShellError}
    (h : Refused start.world redirection error) : redirection.apply start = .error error := by
  cases h with
  | ambiguous hambiguous => simp [Redirection.apply, hambiguous]
  | input hplain hop hfound => simp [Redirection.apply, hplain, hop, openRead, hfound]
  | hereDoc hplain hop hlong hroom =>
    simp [Redirection.apply, hplain, hop, openBody, hlong, hroom]
  | write hplain hop hopen =>
    cases hop' : redirection.op <;> simp_all [Redirection.apply, openWrite, RedirectOp.mode?]

theorem Refused.status {world : World} {redirection : Redirection} {error : ShellError}
    (h : Refused world redirection error) : error.status = 1 := by
  cases h <;> rfl

/-- The redirections open one after the other, each in the world that the earlier ones left. -/
inductive Opened : World → List Redirection → World → Prop where
  | nil (world : World) : Opened world [] world
  | cons {before middle after : World} {redirection : Redirection} {rest : List Redirection}
      (hfirst : Opens before redirection middle) (hrest : Opened middle rest after) :
      Opened before (redirection :: rest) after

/-- Redirections all open, or there is a first one that is refused. -/
theorem opened_or_refused (world : World) (redirections : List Redirection) :
    (∃ after, Opened world redirections after) ∨
      ∃ front refused rest middle error, redirections = front ++ refused :: rest ∧
        Opened world front middle ∧ Refused middle refused error := by
  induction redirections generalizing world with
  | nil => exact .inl ⟨world, .nil world⟩
  | cons redirection redirections ih =>
    rcases opens_or_refused world redirection with ⟨middle, hopens⟩ | ⟨error, hrefused⟩
    · rcases ih middle with ⟨after, hopened⟩ | ⟨front, refused, rest, last, error, rfl, hfront, h⟩
      · exact .inl ⟨after, .cons hopens hopened⟩
      · exact .inr ⟨redirection :: front, refused, rest, last, error, rfl, .cons hopens hfront, h⟩
    · exact .inr ⟨[], redirection, redirections, world, error, rfl, .nil world, hrefused⟩

theorem Opened.split {before after : World} {front rest : List Redirection}
    (h : Opened before (front ++ rest) after) :
    ∃ middle, Opened before front middle ∧ Opened middle rest after := by
  induction front generalizing before with
  | nil => exact ⟨before, .nil before, h⟩
  | cons redirection front ih =>
    cases h with
    | cons hfirst hrest =>
      obtain ⟨middle, hfront, hlater⟩ := ih hrest
      exact ⟨middle, .cons hfirst hfront, hlater⟩

def WritesTo (redirection : Redirection) (world : World) (mode : WriteMode) (path : Path) : Prop :=
  redirection.op.mode? = some mode ∧ world.LeadsTo redirection.target path

/-- What redirections leave of the files, told from the files before any of them was opened. -/
structure Settles (before : World) (redirections : List Redirection) (after : World) : Prop where
  world : ∃ files, after = { before with files }
  leads : ∀ redirection ∈ redirections, ∀ mode, redirection.op.mode? = some mode →
    ∃ path, redirection.WritesTo before mode path
  truncated : ∀ redirection ∈ redirections, ∀ path, redirection.WritesTo before .truncate path →
    after.files.get? path = some (WriteMode.truncate.leaves (before.files.get? path))
  appended : ∀ redirection ∈ redirections, ∀ path, redirection.WritesTo before .append path →
    (∀ other ∈ redirections, ¬ other.WritesTo before .truncate path) →
    after.files.get? path = some (WriteMode.append.leaves (before.files.get? path))
  untouched : ∀ path, (∀ redirection ∈ redirections, ∀ mode,
    ¬ redirection.WritesTo before mode path) → after.files.get? path = before.files.get? path

namespace Settles

variable {before middle after : World} {redirection : Redirection} {redirections : List Redirection}

theorem nil (world : World) : Settles world [] world :=
  ⟨⟨world.files, rfl⟩, nofun, nofun, nofun, fun _ _ => rfl⟩

theorem get?_of_some (h : Settles before redirections after) {path : Path} {node : Node}
    (hget : before.files.get? path = some node) :
    (∃ other ∈ redirections, other.WritesTo before .truncate path) ∧
        after.files.get? path = some (WriteMode.truncate.leaves (some node)) ∨
      (∀ other ∈ redirections, ¬ other.WritesTo before .truncate path) ∧
        after.files.get? path = some node := by
  by_cases hcut : ∃ other ∈ redirections, other.WritesTo before .truncate path
  · obtain ⟨other, hmem, hother⟩ := hcut
    exact .inl ⟨⟨other, hmem, hother⟩, hget ▸ h.truncated other hmem path hother⟩
  · have hcut : ∀ other ∈ redirections, ¬ other.WritesTo before .truncate path := by
      simpa using hcut
    refine .inr ⟨hcut, ?_⟩
    by_cases happend : ∃ other ∈ redirections, other.WritesTo before .append path
    · obtain ⟨other, hmem, hother⟩ := happend
      exact (h.appended other hmem path hother hcut).trans (by rw [hget]; rfl)
    · refine (h.untouched path fun other hmem mode hother => ?_).trans hget
      cases mode with
      | truncate => exact hcut other hmem hother
      | append => exact happend ⟨other, hmem, hother⟩

theorem cons_read (hop : redirection.op.mode? = none) (h : Settles before redirections after) :
    Settles before (redirection :: redirections) after := by
  have hnone (mode : WriteMode) (path : Path) : ¬ redirection.WritesTo before mode path :=
    fun hwrites => Option.some_ne_none mode (hwrites.1.symm.trans hop)
  constructor
  · exact h.world
  · intro other hmem mode hmode
    rcases List.mem_cons.mp hmem with rfl | hmem
    · exact absurd (hmode.symm.trans hop) (Option.some_ne_none mode)
    · exact h.leads other hmem mode hmode
  · intro other hmem path hother
    rcases List.mem_cons.mp hmem with rfl | hmem
    · exact absurd hother (hnone .truncate path)
    · exact h.truncated other hmem path hother
  · intro other hmem path hother hcut
    rcases List.mem_cons.mp hmem with rfl | hmem
    · exact absurd hother (hnone .append path)
    · exact h.appended other hmem path hother (List.forall_mem_cons.mp hcut).2
  · intro path hfree
    exact h.untouched path (List.forall_mem_cons.mp hfree).2

section

variable {mode : WriteMode} {target : Path}

theorem writesTo_iff (htouched : before.Touched mode target middle) {other : WriteMode}
    {path : Path} :
    redirection.WritesTo middle other path ↔ redirection.WritesTo before other path :=
  and_congr_right fun _ => htouched.leadsTo_iff redirection.target path

/-- A redirection that touches a path counts only where no later one does. -/
theorem cons_write (hfirst : redirection.WritesTo before mode target)
    (htouched : before.Touched mode target middle) (h : Settles middle redirections after) :
    Settles before (redirection :: redirections) after := by
  have hmode {other : WriteMode} {path : Path} (hother : redirection.WritesTo before other path) :
      other = mode ∧ path = target :=
    ⟨Option.some.inj (hother.1.symm.trans hfirst.1), hother.2.unique hfirst.2⟩
  constructor
  · obtain ⟨files, rfl⟩ := htouched.world
    exact h.world
  · intro other hmem op hop
    rcases List.mem_cons.mp hmem with rfl | hmem
    · exact ⟨target, hop, hfirst.2⟩
    · obtain ⟨path, hpath⟩ := h.leads other hmem op hop
      exact ⟨path, (writesTo_iff htouched).mp hpath⟩
  · intro other hmem path hother
    rcases List.mem_cons.mp hmem with rfl | hmem
    · obtain ⟨rfl, rfl⟩ := hmode hother
      rcases h.get?_of_some htouched.self with ⟨-, hget⟩ | ⟨-, hget⟩
      · rw [hget, WriteMode.leaves_truncate]
      · exact hget
    · rw [h.truncated other hmem path ((writesTo_iff htouched).mpr hother)]
      by_cases hpath : path = target
      · rw [hpath, htouched.self, WriteMode.leaves_truncate]
      · rw [htouched.others path hpath]
  · intro other hmem path hother hcut
    obtain ⟨hfirstCut, hcut⟩ := List.forall_mem_cons.mp hcut
    have hlater : ∀ other ∈ redirections, ¬ other.WritesTo middle .truncate path :=
      fun other hmem hother => hcut other hmem ((writesTo_iff htouched).mp hother)
    by_cases hpath : path = target
    · subst hpath
      have hop : mode = .append := by
        cases mode with
        | truncate => exact absurd hfirst hfirstCut
        | append => rfl
      rcases h.get?_of_some htouched.self with ⟨⟨cutter, hmem, hcutter⟩, -⟩ | ⟨-, hget⟩
      · exact absurd hcutter (hlater cutter hmem)
      · rw [hget, hop]
    · rcases List.mem_cons.mp hmem with rfl | hmem
      · exact absurd (hmode hother).2 hpath
      · rw [h.appended other hmem path ((writesTo_iff htouched).mpr hother) hlater,
          htouched.others path hpath]
  · intro path hfree
    obtain ⟨hfirstFree, hfree⟩ := List.forall_mem_cons.mp hfree
    have hpath : path ≠ target := by
      rintro rfl
      exact hfirstFree mode hfirst
    rw [← htouched.others path hpath]
    exact h.untouched path fun other hmem op hother =>
      hfree other hmem op ((writesTo_iff htouched).mp hother)

end

end Settles

theorem Opened.settles {before after : World} {redirections : List Redirection}
    (h : Opened before redirections after) : Settles before redirections after := by
  induction h with
  | nil world => exact .nil world
  | cons hfirst _ ih =>
    rcases hfirst.cases with ⟨hop, rfl⟩ | ⟨mode, path, hop, hleads, htouched⟩
    · exact ih.cons_read hop
    · exact ih.cons_write ⟨hop, hleads⟩ htouched

theorem Opened.shows {before after : World} {redirections : List Redirection} {source : Source}
    {name : String} (h : Opened before redirections after) (hshows : source.Shows before name) :
    source.Shows after name := by
  induction h with
  | nil world => exact hshows
  | cons hfirst _ ih =>
    apply ih
    rcases hfirst.cases with ⟨-, rfl⟩ | ⟨mode, path, -, -, htouched⟩
    · exact hshows
    · exact hshows.touched htouched

theorem Opened.eq_of_reads {before after : World} {redirections : List Redirection}
    (h : Opened before redirections after)
    (hreads : ∀ redirection ∈ redirections, redirection.op.reads = true) : after = before := by
  induction h with
  | nil world => rfl
  | cons hfirst _ ih =>
    obtain ⟨hop, hreads⟩ := List.forall_mem_cons.mp hreads
    rcases hfirst.cases with ⟨-, rfl⟩ | ⟨mode, path, hmode, -⟩
    · exact ih hreads
    · exact absurd hop (by simp [RedirectOp.reads_eq_false_iff.mpr ⟨mode, hmode⟩])

/-- The standard input is what the redirection reads. -/
structure Feeds (redirection : Redirection) (finish : Wiring) : Prop where
  hereDoc : redirection.op = .hereDoc →
    finish.streams.input = .bytes (Bytes.ofText (redirection.body.getD ""))
  shows : redirection.op = .input → finish.streams.input.Shows finish.world redirection.target
  contents : redirection.op = .input →
    (finish.streams.input.contents finish.world).mapError IoError.os =
      finish.world.readFile redirection.target

/-- The standard output is what the redirection leads to: the node `node` at `path`. -/
structure Fills (redirection : Redirection) (finish : Wiring) (path : Path) (node : Node) :
    Prop where
  found : finish.world.files.lookup finish.world.directory redirection.target = .ok (path, node)
  plain : node.isDirectory = false
  sink : finish.streams.output = node.sink path
  only : finish.streams.output.WritesOnly path
  added : ∀ content executable, node = .file content executable → ∀ bytes,
    (finish.streams.output.store bytes finish.world.files).get? path =
      some (.file (content ++ bytes) executable)

theorem feeds_hereDoc {redirection : Redirection} {finish : Wiring}
    (hop : redirection.op = .hereDoc)
    (h : finish.streams.input = .bytes (Bytes.ofText (redirection.body.getD ""))) :
    redirection.Feeds finish :=
  ⟨fun _ => h, by simp [hop], by simp [hop]⟩

theorem feeds_input {redirection : Redirection} {finish : Wiring} (hop : redirection.op = .input)
    (h : finish.streams.input.Shows finish.world redirection.target) : redirection.Feeds finish :=
  ⟨by simp [hop], fun _ => h, fun _ => h.contents_eq⟩

theorem fills_of_sink {redirection : Redirection} {finish : Wiring} {path : Path} {node : Node}
    (hfound : finish.world.files.lookup finish.world.directory redirection.target =
      .ok (path, node))
    (hplain : node.isDirectory = false) (hsink : finish.streams.output = node.sink path) :
    redirection.Fills finish path node := by
  refine ⟨hfound, hplain, hsink, hsink ▸ node.writesOnly_sink path, ?_⟩
  rintro content executable rfl bytes
  rw [hsink]
  exact FileTree.get?_append_self (World.leadsTo_of_lookup hfound hplain).2 bytes

theorem Opens.apply_read {start : Wiring} {after : World} {redirection : Redirection}
    (h : Opens start.world redirection after) (hreads : redirection.op.reads = true) :
    ∃ finish, redirection.apply start = .ok finish ∧ finish.world = after ∧
      redirection.Feeds finish := by
  cases h with
  | @input path node hplain hop hfound =>
    have hopened : ∃ source, openRead start.world redirection.target = .ok source := by
      rw [openRead, hfound]
      cases node <;> exact ⟨_, rfl⟩
    obtain ⟨source, hsource⟩ := hopened
    refine ⟨{ start with streams := { start.streams with input := source } }, ?_, rfl, ?_⟩
    · simp [Redirection.apply, hplain, hop, hsource]
    · exact feeds_input hop (shows_of_openRead hsource)
  | hereDoc hplain hop hroom =>
    have hopened : openBody start.world (redirection.body.getD "") =
        .ok (.bytes (Bytes.ofText (redirection.body.getD ""))) := by
      unfold openBody
      split
      · rfl
      · rw [hroom.resolve_left ‹_›]
    generalize hsource : Source.bytes (Bytes.ofText (redirection.body.getD "")) = source at hopened
    refine ⟨{ start with streams := { start.streams with input := source } }, ?_, rfl, ?_⟩
    · simp [Redirection.apply, hplain, hop, hopened]
    · exact feeds_hereDoc hop hsource.symm
  | write hplain hop hopen =>
    rw [RedirectOp.reads_eq_false_iff.mpr ⟨_, hop⟩] at hreads
    cases hreads

theorem Opens.apply_write {start : Wiring} {after : World} {redirection : Redirection}
    (h : Opens start.world redirection after) (hwrites : redirection.op.reads = false) :
    ∃ finish, redirection.apply start = .ok finish ∧ finish.world = after ∧
      ∃ path node, redirection.Fills finish path node := by
  cases h with
  | input hplain hop hfound => simp [hop, RedirectOp.reads] at hwrites
  | hereDoc hplain hop hroom => simp [hop, RedirectOp.reads] at hwrites
  | @write mode files path node hplain hop hopen =>
    refine ⟨⟨{ start.world with files }, { start.streams with output := node.sink path }⟩, ?_, rfl,
      path, node, ?_⟩
    · have hopened := openWrite_of_ok hopen
      cases hmode : redirection.op <;> simp_all [Redirection.apply, RedirectOp.mode?]
    · obtain ⟨hleads, htouched, rfl⟩ := World.touched_of_openWrite hopen
      refine fills_of_sink ?_ ?_ rfl
      · exact ((htouched.leadsTo_iff _ _).mpr hleads).lookup htouched.self
      · exact (mode.isDirectory_leaves _).trans htouched.plain

theorem Opens.apply {start : Wiring} {after : World} {redirection : Redirection}
    (h : Opens start.world redirection after) :
    ∃ finish, redirection.apply start = .ok finish ∧ finish.world = after := by
  cases hreads : redirection.op.reads with
  | true =>
    obtain ⟨finish, happly, hworld, -⟩ := h.apply_read hreads
    exact ⟨finish, happly, hworld⟩
  | false =>
    obtain ⟨finish, happly, hworld, -⟩ := h.apply_write hreads
    exact ⟨finish, happly, hworld⟩

theorem Opened.applyAll {start : Wiring} {after : World} {redirections : List Redirection}
    (h : Opened start.world redirections after) :
    ∃ finish, applyAll start redirections = (finish, .ok ()) ∧ finish.world = after := by
  generalize hworld : start.world = before at h
  induction h generalizing start with
  | nil world => exact ⟨start, rfl, hworld⟩
  | cons hfirst _ ih =>
    obtain ⟨next, happly, rfl⟩ := (hworld ▸ hfirst).apply
    obtain ⟨finish, hrest, hfinish⟩ := ih rfl
    exact ⟨finish, by rw [Redirection.applyAll, happly]; exact hrest, hfinish⟩

theorem applyAll_append {start middle : Wiring} {front : List Redirection}
    (h : applyAll start front = (middle, .ok ())) (rest : List Redirection) :
    applyAll start (front ++ rest) = applyAll middle rest := by
  induction front generalizing start with
  | nil =>
    cases h
    rfl
  | cons redirection front ih =>
    rw [applyAll] at h
    rw [List.cons_append, applyAll]
    split at h
    · cases h
    · exact ih h

/-- The last redirection before such that bind the other stream is still bound. -/
theorem Opened.reached {start finish : Wiring} {front rest : List Redirection} {last : Redirection}
    (h : Opened start.world (front ++ last :: rest) finish.world)
    (happly : Redirection.applyAll start (front ++ last :: rest) = (finish, .ok ())) :
    ∃ middle next, Opens middle.world last next.world ∧ last.apply middle = .ok next ∧
      Opened next.world rest finish.world ∧ Redirection.applyAll next rest = (finish, .ok ()) := by
  obtain ⟨world, hfront, hlater⟩ := h.split
  obtain ⟨middle, hmiddle, rfl⟩ := hfront.applyAll
  rw [applyAll_append hmiddle] at happly
  cases hlater with
  | cons hlast hrest =>
    obtain ⟨next, hnext, rfl⟩ := hlast.apply
    rw [Redirection.applyAll, hnext] at happly
    exact ⟨middle, next, hlast, hnext, hrest, happly⟩

theorem input_eq_of_writes {start finish : Wiring} {redirections : List Redirection}
    (h : applyAll start redirections = (finish, .ok ()))
    (hwrites : ∀ redirection ∈ redirections, redirection.op.reads = false) :
    finish.streams.input = start.streams.input := by
  have hany : redirections.any (fun redirection => redirection.op.reads) = false := by
    simpa using hwrites
  have hkept := input_applyAll start hany
  rwa [h] at hkept

theorem output_eq_of_reads {start finish : Wiring} {redirections : List Redirection}
    (h : applyAll start redirections = (finish, .ok ()))
    (hreads : ∀ redirection ∈ redirections, redirection.op.reads = true) :
    finish.streams.output = start.streams.output := by
  have hany : redirections.any (fun redirection => !redirection.op.reads) = false := by
    simpa using hreads
  have hkept := output_applyAll start hany
  rwa [h] at hkept

/-- Each stream is bound to the last redirection for it. -/
structure Bound (start : Wiring) (redirections : List Redirection) (finish : Wiring) : Prop where
  input_kept : (∀ redirection ∈ redirections, redirection.op.reads = false) →
    finish.streams.input = start.streams.input
  input : ∀ front last rest, redirections = front ++ last :: rest → last.op.reads = true →
    (∀ later ∈ rest, later.op.reads = false) → last.Feeds finish
  output_kept : (∀ redirection ∈ redirections, redirection.op.reads = true) →
    finish.streams.output = start.streams.output
  output : ∀ front last rest, redirections = front ++ last :: rest → last.op.reads = false →
    (∀ later ∈ rest, later.op.reads = true) → ∃ path node, last.Fills finish path node

theorem Opened.bound {start finish : Wiring} {redirections : List Redirection}
    (h : Opened start.world redirections finish.world)
    (happly : Redirection.applyAll start redirections = (finish, .ok ())) :
    Bound start redirections finish := by
  refine ⟨input_eq_of_writes happly, ?_, output_eq_of_reads happly, ?_⟩
  · rintro front last rest rfl hreads hlater
    obtain ⟨middle, next, hopens, hnext, hopened, hrest⟩ := h.reached happly
    obtain ⟨found, hfound, -, hfeeds⟩ := hopens.apply_read hreads
    obtain rfl := Except.ok.inj (hfound.symm.trans hnext)
    have hkept := input_eq_of_writes hrest hlater
    cases hop : last.op with
    | hereDoc => exact feeds_hereDoc hop (hkept.trans (hfeeds.hereDoc hop))
    | input => exact feeds_input hop (hkept ▸ hopened.shows (hfeeds.shows hop))
    | output | append =>
      rw [hop] at hreads
      cases hreads
  · rintro front last rest rfl hwrites hlater
    obtain ⟨middle, next, hopens, hnext, hopened, hrest⟩ := h.reached happly
    obtain ⟨found, hfound, -, path, node, hfills⟩ := hopens.apply_write hwrites
    obtain rfl := Except.ok.inj (hfound.symm.trans hnext)
    have hkept := output_eq_of_reads hrest hlater
    refine ⟨path, node, fills_of_sink ?_ hfills.plain (hkept.trans hfills.sink)⟩
    rw [hopened.eq_of_reads hlater]
    exact hfills.found

theorem Refused.applyAll {start : Wiring} {middle : World} {front rest : List Redirection}
    {refused : Redirection} {error : ShellError} (hfront : Opened start.world front middle)
    (h : Refused middle refused error) :
    ∃ finish, Redirection.applyAll start (front ++ refused :: rest) = (finish, .error error) ∧
      finish.world = middle := by
  obtain ⟨finish, happly, rfl⟩ := hfront.applyAll
  refine ⟨finish, ?_, rfl⟩
  rw [applyAll_append happly, Redirection.applyAll, h.apply]

end Redirection

variable (state : ShellState) {start finish : Wiring} (command : Command)

theorem runStage_of_applyAll_ok
    (h : Redirection.applyAll start command.redirections = (finish, .ok ())) :
    runStage state start.world start.streams command =
      runStage state finish.world finish.streams { command with redirections := [] } := by
  have hstart : start = { world := start.world, streams := start.streams } := rfl
  rw [runStage, ← hstart, h]
  rfl

theorem runStage_of_applyAll_error {error : ShellError}
    (h : Redirection.applyAll start command.redirections = (finish, .error error)) :
    runStage state start.world start.streams command = .failed finish.world [] error := by
  have hstart : start = { world := start.world, streams := start.streams } := rfl
  rw [runStage, ← hstart, h]

/-- Redirections open in order, the first that is refused stops them and the command, and the last
one for each stream wins. -/
theorem redirections_open_in_order (start : Wiring) (redirections : List Redirection) :
    (∀ after, Redirection.Opened start.world redirections after →
      Redirection.Settles start.world redirections after ∧
      ∃ finish, Redirection.applyAll start redirections = (finish, .ok ()) ∧
        finish.world = after ∧ Redirection.Bound start redirections finish ∧
        ∀ state argv expanded,
          runStage state start.world start.streams { argv, redirections, expanded } =
            runStage state after finish.streams { argv, expanded }) ∧
    (∀ front refused rest middle error, redirections = front ++ refused :: rest →
      Redirection.Opened start.world front middle → Redirection.Refused middle refused error →
      Redirection.Settles start.world front middle ∧ error.status = 1 ∧
      (∃ finish, Redirection.applyAll start redirections = (finish, .error error) ∧
        finish.world = middle) ∧
      ∀ state argv expanded,
        runStage state start.world start.streams { argv, redirections, expanded } =
          { world := middle, events := error.report, termination := .exited 1 }) ∧
    ((∃ after, Redirection.Opened start.world redirections after) ∨
      ∃ front refused rest middle error, redirections = front ++ refused :: rest ∧
        Redirection.Opened start.world front middle ∧
        Redirection.Refused middle refused error) := by
  refine ⟨?_, ?_, Redirection.opened_or_refused start.world redirections⟩
  · intro after hopened
    obtain ⟨finish, happly, rfl⟩ := hopened.applyAll
    refine ⟨hopened.settles, finish, happly, rfl, hopened.bound happly, ?_⟩
    intro state argv expanded
    exact runStage_of_applyAll_ok state { argv, redirections, expanded } happly
  · rintro front refused rest middle error rfl hfront hrefused
    obtain ⟨finish, happly, rfl⟩ := Redirection.Refused.applyAll hfront hrefused
    refine ⟨hfront.settles, hrefused.status, ⟨finish, happly, rfl⟩, ?_⟩
    intro state argv expanded
    rw [runStage_of_applyAll_error state ⟨argv, _, expanded⟩ happly, StageResult.failed,
      hrefused.status]
    rfl

/-- A file that is read and cut gives nothing. A file that is missing stops the redirections between
one that makes a file and one that would cut another. -/
theorem redirections_open_in_order_cut :
    let world : World :=
      { programs := fun _ invocation => { files := invocation.files }
        files := { nodes := [(["f"], .file [97] false)] } }
    let cut : World := { world with files := { nodes := [(["f"], .file [] false)] } }
    let made : World := { world with
      files := { nodes := [(["f"], .file [97] false), (["g"], .file [] false)] } }
    let read (target : String) : Redirection := { op := .input, target }
    let write (target : String) : Redirection := { op := .output, target }
    let error := ShellError.redirect "h" (.os .noEntry)
    (Redirection.Opened world [read "f", write "f"] cut ∧
      ∃ finish, Redirection.applyAll { world } [read "f", write "f"] = (finish, .ok ()) ∧
        (finish.streams.input.contents cut).mapError IoError.os = .ok []) ∧
    Redirection.Opened world [write "g"] made ∧ Redirection.Refused made (read "h") error ∧
      ∀ state argv expanded, runStage state world {}
          { argv, redirections := [write "g", read "h", write "f"], expanded } =
        { world := made, events := error.report, termination := .exited 1 } := by
  intro world cut made read write error
  have hfound : world.files.lookup world.directory "f" = .ok (["f"], .file [97] false) := rfl
  have hcut : world.files.openWrite world.directory .truncate "f" =
      .ok (cut.files, ["f"], .file [] false) := rfl
  have hopened : Redirection.Opened world [read "f", write "f"] cut :=
    .cons (.input rfl rfl hfound) (.cons (.write rfl rfl hcut) (.nil cut))
  have hmade : world.files.openWrite world.directory .truncate "g" =
      .ok (made.files, ["g"], .file [] false) := rfl
  have hfront : Redirection.Opened world [write "g"] made :=
    .cons (.write rfl rfl hmade) (.nil made)
  have hmissing : made.files.lookup made.directory "h" = .error (.os .noEntry) := rfl
  have hrefused : Redirection.Refused made (read "h") error := .input rfl rfl hmissing
  obtain ⟨hopen, -⟩ := redirections_open_in_order { world } [read "f", write "f"]
  obtain ⟨-, finish, happly, hworld, hbound, -⟩ := hopen cut hopened
  have hlater : ∀ later ∈ [write "f"], later.op.reads = false := by simp [write, RedirectOp.reads]
  have hfeeds : (read "f").Feeds finish := hbound.input [] _ [write "f"] rfl rfl hlater
  obtain ⟨-, hrefuse, -⟩ := redirections_open_in_order { world } [write "g", read "h", write "f"]
  obtain ⟨-, -, -, hrun⟩ := hrefuse [write "g"] _ [write "f"] made error rfl hfront hrefused
  refine ⟨⟨hopened, finish, happly, ?_⟩, hfront, hrefused, hrun⟩
  have hempty : cut.files.lookup cut.directory "f" = .ok (["f"], .file [] false) := rfl
  rw [← hworld, hfeeds.contents rfl, hworld, World.readFile, hempty]

end CommandShell
