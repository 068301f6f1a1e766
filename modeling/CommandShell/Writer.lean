import CommandShell.Bytes
import CommandShell.Error

/-!
# Writers

A writer takes bytes up to its capacity. A write that does not fit is cut at the capacity and
fails; so does every further write that is not empty. One that is interrupted does not fail for it,
but is tried again.
-/

namespace CommandShell

structure Writer where
  accepted : Bytes := []
  /-- The number of bytes that are still taken; `none` for no bound. -/
  capacity : Option Nat := none
  /-- The error that a write at the capacity meets. -/
  failure : IoError := .shortWrite
  deriving DecidableEq, Repr

namespace Writer

/-- The error that is left of a write that does not fit. One that was interrupted is tried again,
and then nothing is taken. -/
def cause (writer : Writer) : IoError :=
  if writer.failure = .os .interrupted then .shortWrite else writer.failure

/-- Writes all bytes, or as many as fit. -/
def write (writer : Writer) (bytes : Bytes) : Except IoError Unit × Writer :=
  match writer.capacity with
  | none => (.ok (), { writer with accepted := writer.accepted ++ bytes })
  | some capacity =>
    let rest := { writer with
      accepted := writer.accepted ++ bytes.take capacity
      capacity := some (capacity - bytes.length) }
    (if bytes.length ≤ capacity then .ok () else .error writer.cause, rest)

def writeText (writer : Writer) (text : String) : Except IoError Unit × Writer :=
  writer.write (Bytes.ofText text)

/-- Writes lines until one fails. -/
def writeLines (writer : Writer) : List String → Except IoError Unit × Writer
  | [] => (.ok (), writer)
  | line :: rest =>
    match writer.writeText (line ++ "\n") with
    | (.error e, writer) => (.error e, writer)
    | (.ok (), writer) => writer.writeLines rest

@[simp] theorem write_nil (writer : Writer) : writer.write [] = (.ok (), writer) := by
  obtain ⟨accepted, capacity, failure⟩ := writer
  cases capacity <;> simp [write]

/-- A piece that fits leaves the rest to be written. -/
theorem write_append_of_ok {writer : Writer} {front : Bytes}
    (h : (writer.write front).1 = .ok ()) (back : Bytes) :
    writer.write (front ++ back) = (writer.write front).2.write back := by
  obtain ⟨accepted, capacity, failure⟩ := writer
  cases capacity with
  | none => simp [write]
  | some capacity =>
    have hfits : front.length ≤ capacity := by
      apply Decidable.byContradiction
      intro hlong
      simp [write, hlong] at h
    have htotal :
        front.length + back.length ≤ capacity ↔ back.length ≤ capacity - front.length := by
      omega
    simp [write, cause, List.take_append, List.take_of_length_le hfits, htotal, Nat.sub_sub]

/-- What comes behind a piece that does not fit is not looked at. -/
theorem write_append_of_error {writer : Writer} {front : Bytes} {cause : IoError}
    (h : (writer.write front).1 = .error cause) (back : Bytes) :
    writer.write (front ++ back) = writer.write front := by
  obtain ⟨accepted, capacity, failure⟩ := writer
  cases capacity with
  | none => simp [write] at h
  | some capacity =>
    have hlong : ¬ front.length ≤ capacity := by
      intro hfits
      simp [write, hfits] at h
    have htotal : ¬ front.length + back.length ≤ capacity := by omega
    have hfront : capacity - front.length = 0 := by omega
    have hrest : capacity - (front.length + back.length) = 0 := by omega
    simp [write, Writer.cause, List.take_append, hlong, htotal, hfront, hrest]

/-- Lines that are written one by one are written like their text. -/
theorem writeLines_eq_write (writer : Writer) (lines : List String) :
    writer.writeLines lines =
      writer.write (Bytes.ofText (String.join (lines.map fun line => line ++ "\n"))) := by
  induction lines generalizing writer with
  | nil =>
    have hempty : Bytes.ofText "" = [] := rfl
    simp [writeLines, hempty]
  | cons line rest ih =>
    rw [writeLines, List.map_cons, String.join_cons, Bytes.ofText_append]
    cases hwrite : writer.writeText (line ++ "\n") with
    | mk result after =>
      have hresult : (writer.write (Bytes.ofText (line ++ "\n"))).1 = result :=
        congrArg Prod.fst hwrite
      have hafter : (writer.write (Bytes.ofText (line ++ "\n"))).2 = after :=
        congrArg Prod.snd hwrite
      cases result with
      | error cause =>
        rw [write_append_of_error hresult]
        exact hwrite.symm
      | ok _ =>
        rw [write_append_of_ok hresult, hafter]
        exact ih after

end Writer

end CommandShell
