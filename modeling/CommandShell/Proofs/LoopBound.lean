import CommandShell.Proofs.Turns

/-!
# How long the loop takes

An iteration of the loop that does not end it takes at least one arrival from the source, whichever
of its three readers gets it: the prompt, a continuation or a here-document. So the loop ends, and
with at most one iteration more than there are arrivals.
-/

namespace CommandShell

namespace Shell

/-- The loop as it is executed, with the number of its iterations: it is left before an iteration if
the shell was asked to leave, and in one that finds the end of input. -/
inductive Iterates : Shell → Nat → Shell → Prop
  | left {shell : Shell} (hleave : shell.session.state.shouldExit = true) : Iterates shell 0 shell
  | ended {shell done : Shell} (hstays : shell.session.state.shouldExit = false)
    (hturn : shell.turn = .finished done) : Iterates shell 1 done
  | again {shell next done : Shell} {count : Nat} (hturn : shell.turn = .again next)
    (hrest : Iterates next count done) : Iterates shell (count + 1) done

theorem exists_iterates (shell : Shell) :
    ∃ count ≤ shell.source.arrivals.length + 1, shell.Iterates count shell.loop := by
  induction shell using loop_induction with
  | finished shell done hturn =>
    rw [loop_of_finished hturn]
    cases hexit : shell.session.state.shouldExit with
    | true =>
      have hdone : done = shell := by
        rw [turn_of_shouldExit hexit] at hturn
        cases hturn
        rfl
      subst hdone
      exact ⟨0, Nat.zero_le _, .left hexit⟩
    | false => exact ⟨1, by omega, .ended hexit hturn⟩
  | again shell next hturn ih =>
    obtain ⟨count, hcount, hiterates⟩ := ih
    -- the measure is what the source still has
    have hless := arrivals_lt_of_again hturn
    rw [loop_of_again hturn]
    exact ⟨count + 1, by omega, .again hturn hiterates⟩

theorem turns_of_iterates {shell done : Shell} {count limit : Nat}
    (h : shell.Iterates count done) (hstays : done.session.state.shouldExit = false)
    (hlimit : count ≤ limit) : turns limit shell = .finished done := by
  induction h generalizing limit with
  | left hleave => simp [hleave] at hstays
  | ended _ hturn =>
    obtain ⟨limit, rfl⟩ := Nat.exists_eq_add_of_le' hlimit
    rw [turns, hturn]
  | again hturn hrest ih =>
    obtain ⟨limit, rfl⟩ := Nat.exists_eq_add_of_le' hlimit
    rw [← Nat.add_assoc, turns, hturn]
    exact ih hstays (Nat.le_add_left _ _)

theorem Iterates.unique {shell done other : Shell} {count number : Nat}
    (h : shell.Iterates count done) (hother : shell.Iterates number other) :
    count = number ∧ done = other := by
  induction h generalizing number with
  | left hleave =>
    cases hother with
    | left _ => exact ⟨rfl, rfl⟩
    | ended hstays _ => simp [hleave] at hstays
    | again hturn _ =>
      rw [turn_of_shouldExit hleave] at hturn
      cases hturn
  | ended hstays hturn =>
    cases hother with
    | left hleave => simp [hstays] at hleave
    | ended _ hturn' =>
      rw [hturn] at hturn'
      cases hturn'
      exact ⟨rfl, rfl⟩
    | again hturn' _ =>
      rw [hturn] at hturn'
      cases hturn'
  | again hturn hrest ih =>
    cases hother with
    | left hleave =>
      rw [turn_of_shouldExit hleave] at hturn
      cases hturn
    | ended _ hturn' =>
      rw [hturn] at hturn'
      cases hturn'
    | again hturn' hrest' =>
      rw [hturn] at hturn'
      cases hturn'
      obtain ⟨rfl, rfl⟩ := ih hrest'
      exact ⟨rfl, rfl⟩

theorem arrivals_of_chain {shells : Nat → Shell}
    (h : ∀ k, (shells k).turn = .again (shells (k + 1))) (k : Nat) :
    (shells k).source.arrivals.length + k ≤ (shells 0).source.arrivals.length := by
  induction k with
  | zero => exact Nat.le_refl _
  | succ k ih =>
    have hless := arrivals_lt_of_again (h k)
    omega

/-- On every input the loop is executed in exactly one way, with at most one iteration more than
there are arrivals, and never goes on for ever. -/
theorem loop_ends_within (shell : Shell) :
    (∃ count ≤ shell.source.arrivals.length + 1, shell.Iterates count shell.loop) ∧
    (∀ count done, shell.Iterates count done →
      count ≤ shell.source.arrivals.length + 1 ∧ done = shell.loop) ∧
    ¬ ∃ shells : Nat → Shell, shells 0 = shell ∧ ∀ k, (shells k).turn = .again (shells (k + 1)) := by
  obtain ⟨count, hcount, hiterates⟩ := shell.exists_iterates
  refine ⟨⟨count, hcount, hiterates⟩, ?_, ?_⟩
  · intro number done hother
    obtain ⟨rfl, rfl⟩ := hiterates.unique hother
    exact ⟨hcount, rfl⟩
  · rintro ⟨shells, rfl, hchain⟩
    have hmore := arrivals_of_chain hchain ((shells 0).source.arrivals.length + 1)
    omega

/-- The bound is met: an interrupt, a line that does not parse and an open quote take an iteration
each, and the end of input takes the last one. -/
theorem loop_ends_within_unclosed :
    let session : Session :=
      { state := {}, world := { programs := fun _ invocation => { files := invocation.files } } }
    let shell : Shell :=
      { session, source := { arrivals := [.interrupt, .line "| a", .line "'b"] }, theme := .plain }
    shell.Iterates (shell.source.arrivals.length + 1) shell.loop := by
  intro session shell
  obtain ⟨⟨count, -, hiterates⟩, hall, -⟩ := shell.loop_ends_within
  have hmost := (hall count shell.loop hiterates).1
  have hleast : ¬ count ≤ 3 := by
    intro hfew
    have hstays : shell.loop.session.state.shouldExit = false := by decide +kernel
    have hturns := congrArg Turn.shell (turns_of_iterates hiterates hstays hfew)
    -- the loop reads once more than its first three turns
    have hasked : (turns 3 shell).shell.source.asked.length = 4 := by decide +kernel
    have hloop : shell.loop.source.asked.length = 5 := by decide +kernel
    rw [hturns] at hasked
    exact absurd (hloop.symm.trans hasked) (by decide)
  have hcount : count = shell.source.arrivals.length + 1 := by
    have hlength : shell.source.arrivals.length = 3 := rfl
    omega
  rw [← hcount]
  exact hiterates

end Shell

end CommandShell
