import CommandShell.Proofs.Storage

/-!
# History files

A saved history is read back as it was, but for the carriage returns at the ends of its entries:
in the file they stand before a line feed and count as part of the line's end.
-/

namespace CommandShell

namespace HistoryEntry

theorem escapeChars_cons (c : Char) (rest : List Char) :
    escapeChars (c :: rest) =
      (if c = '\\' then ['\\', '\\'] else if c = '\n' then ['\\', 'n'] else [c]) ++
        escapeChars rest := by
  by_cases hslash : c = '\\'
  · subst hslash
    rfl
  · by_cases hfeed : c = '\n'
    · subst hfeed
      rfl
    · simp [escapeChars, hslash, hfeed]

theorem escapeChars_append (front back : List Char) :
    escapeChars (front ++ back) = escapeChars front ++ escapeChars back := by
  induction front with
  | nil => rfl
  | cons c rest ih =>
    rw [List.cons_append, escapeChars_cons, escapeChars_cons, ih, List.append_assoc]

theorem unescapeChars_escapeChars (text : List Char) :
    unescapeChars (escapeChars text) = text := by
  induction text with
  | nil => rfl
  | cons c rest ih =>
    rw [escapeChars_cons]
    by_cases hslash : c = '\\'
    · simp [hslash, unescapeChars, ih]
    · by_cases hfeed : c = '\n'
      · simp [hfeed, unescapeChars, ih]
      · simp [hslash, hfeed, unescapeChars, ih]

theorem feed_notMem_escapeChars (text : List Char) : '\n' ∉ escapeChars text := by
  induction text with
  | nil => simp [escapeChars]
  | cons c rest ih =>
    rw [escapeChars_cons]
    split
    · simpa using ih
    · split
      · simpa using ih
      · rename_i hfeed
        simpa [Ne.symm hfeed] using ih

end HistoryEntry

namespace Text

theorem pieces_append {α : Type} [DecidableEq α] {separator : α} {front : List α}
    (h : separator ∉ front) (rest : List α) :
    pieces separator (front ++ separator :: rest) =
      (front ++ [separator]) :: pieces separator rest := by
  induction front with
  | nil => simp [pieces]
  | cons a more ih =>
    simp only [List.mem_cons, not_or] at h
    simp [pieces, Ne.symm h.1, ih h.2]

def dropReturn (text : List Char) : List Char :=
  if text.getLast? = some '\r' then text.dropLast else text

theorem dropReturn_concat (front : List Char) (c : Char) :
    dropReturn (front ++ [c]) = if c = '\r' then front else front ++ [c] := by
  simp [dropReturn]

theorem dropReturn_eq_self_iff (text : List Char) :
    dropReturn text = text ↔ text.getLast? ≠ some '\r' := by
  rcases List.eq_nil_or_concat text with rfl | ⟨front, last, rfl⟩
  · simp [dropReturn]
  · rw [List.concat_eq_append, dropReturn_concat]
    split <;> simp_all

theorem chomp_append_feed (text : List Char) :
    chomp '\n' '\r' (text ++ ['\n']) = dropReturn text := by
  simp [chomp, dropReturn]

/-- Texts without line feeds, each with a line feed behind it, are the lines of the whole, but
for a carriage return at their ends. -/
theorem lines_join {texts : List String} (h : ∀ text ∈ texts, '\n' ∉ text.toList) :
    lines (String.join (texts.map fun text => text ++ "\n")) =
      texts.map fun text => String.ofList (dropReturn text.toList) := by
  induction texts with
  | nil => rfl
  | cons text rest ih =>
    obtain ⟨htext, hrest⟩ := List.forall_mem_cons.mp h
    have hchars : (String.join ((text :: rest).map fun text => text ++ "\n")).toList =
        text.toList ++ '\n' :: (String.join (rest.map fun text => text ++ "\n")).toList := by
      simp
    rw [lines, hchars, pieces_append htext, List.map_cons, chomp_append_feed, List.map_cons,
      ← ih hrest]
    rfl

end Text

namespace HistoryEntry

theorem dropReturn_escapeChars (text : List Char) :
    Text.dropReturn (escapeChars text) = escapeChars (Text.dropReturn text) := by
  rcases List.eq_nil_or_concat text with rfl | ⟨front, last, rfl⟩
  · rfl
  · rw [List.concat_eq_append]
    by_cases hreturn : last = '\r'
    · subst hreturn
      rw [escapeChars_append, Text.dropReturn_concat, if_pos rfl]
      exact (Text.dropReturn_concat _ _).trans (if_pos rfl)
    · -- no escape ends in a carriage return
      obtain ⟨middle, c, hc, hescape⟩ :
          ∃ middle c, c ≠ '\r' ∧ escapeChars [last] = middle ++ [c] := by
        rw [escapeChars_cons]
        split
        · exact ⟨['\\'], '\\', by decide, rfl⟩
        · split
          · exact ⟨['\\'], 'n', by decide, rfl⟩
          · exact ⟨[], last, hreturn, rfl⟩
      rw [Text.dropReturn_concat, if_neg hreturn, escapeChars_append, hescape,
        ← List.append_assoc, Text.dropReturn_concat, if_neg hc]

/-- What is read back of an entry that was written. -/
def reread (entry : String) : String :=
  String.ofList (Text.dropReturn entry.toList)

theorem reread_eq_self_iff (entry : String) :
    reread entry = entry ↔ entry.toList.getLast? ≠ some '\r' := by
  rw [← Text.dropReturn_eq_self_iff, reread, ← String.toList_inj, String.toList_ofList]

end HistoryEntry

namespace History

theorem parseEntries_renderEntries (entries : List String) :
    parseEntries (renderEntries entries) = entries.map HistoryEntry.reread := by
  have hfeed : ∀ line ∈ entries.map HistoryEntry.escape, '\n' ∉ line.toList := by
    intro line hline
    obtain ⟨entry, -, rfl⟩ := List.mem_map.mp hline
    rw [HistoryEntry.escape, String.toList_ofList]
    exact HistoryEntry.feed_notMem_escapeChars entry.toList
  have hcontent : renderEntries entries =
      String.join ((entries.map HistoryEntry.escape).map fun line => line ++ "\n") := by
    rw [renderEntries, List.map_map]
    rfl
  rw [parseEntries, hcontent, Text.lines_join hfeed, List.map_map, List.map_map]
  apply List.map_congr_left
  intro entry _
  simp [HistoryEntry.unescape, HistoryEntry.escape, HistoryEntry.reread,
    HistoryEntry.dropReturn_escapeChars, HistoryEntry.unescapeChars_escapeChars]

theorem map_reread_eq_self_iff (entries : List String) :
    entries.map HistoryEntry.reread = entries ↔
      ∀ entry ∈ entries, entry.toList.getLast? ≠ some '\r' := by
  have hid : entries.map HistoryEntry.reread = entries ↔
      entries.map HistoryEntry.reread = entries.map id := by rw [List.map_id]
  rw [hid, List.map_inj_left]
  exact forall₂_congr fun entry _ => HistoryEntry.reread_eq_self_iff entry

theorem path_load (world : World) (path : String) :
    (History.load world path).1.path = some path := by
  unfold History.load
  dsimp only
  split <;> rfl

theorem path_foldl_record (history : History) (lines : List String) :
    (lines.foldl record history).path = history.path := by
  induction lines generalizing history with
  | nil => rfl
  | cons line rest ih =>
    rw [List.foldl_cons, ih, record]
    split <;> rfl

theorem entries_load_of_readFile {world : World} {path text : String}
    (h : world.readFile path = .ok (Bytes.ofText text)) :
    (History.load world path).1.entries = parseEntries text := by
  simp [History.load, h]

/-- A saved history is read back from its file, but for carriage returns at the ends. -/
theorem entries_load_save {history : History} {world after : World} {path : String}
    (hpath : history.path = some path) (hsave : history.save world = (after, .ok ()))
    (hfile : after.HoldsFile path) :
    (History.load after path).1.entries = history.entries.map HistoryEntry.reread := by
  rw [← parseEntries_renderEntries]
  apply entries_load_of_readFile
  rw [save, hpath] at hsave
  dsimp only at hsave
  split at hsave
  · cases hsave
  · split at hsave
    · cases hsave
    · rename_i hwrite
      obtain ⟨rfl, -⟩ := Prod.mk.inj hsave
      exact World.readFile_writeFile hwrite hfile

/-- A history that was loaded, extended and saved is loaded with the same entries exactly if none
of them ends in a carriage return. -/
theorem load_save_same_entries_iff (world after : World) (path : String) (lines : List String)
    (hsave : (lines.foldl record (History.load world path).1).save world = (after, .ok ()))
    (hfile : after.HoldsFile path) :
    (History.load after path).1.entries =
        (lines.foldl record (History.load world path).1).entries ↔
      ∀ entry ∈ (lines.foldl record (History.load world path).1).entries,
        entry.toList.getLast? ≠ some '\r' := by
  have hpath : (lines.foldl record (History.load world path).1).path = some path := by
    rw [path_foldl_record, path_load]
  rw [entries_load_save hpath hsave hfile, map_reread_eq_self_iff]

theorem load_save_same_entries_multiline :
    let world : World := { programs := fun _ invocation => { files := invocation.files } }
    let history := ["echo 'a\nb'", "\\n"].foldl record (History.load world "h").1
    let after := (history.save world).1
    after.HoldsFile "h" ∧ (History.load after "h").1.entries = ["echo 'a\nb'", "\\n"] := by
  intro world history after
  have hsave : history.save world = (after, .ok ()) := rfl
  have hfile : after.HoldsFile "h" := ⟨["h"], _, _, rfl⟩
  have hentries : history.entries = ["echo 'a\nb'", "\\n"] := by decide
  have hsame := load_save_same_entries_iff world after "h" ["echo 'a\nb'", "\\n"] hsave hfile
  refine ⟨hfile, (hsame.mpr ?_).trans hentries⟩
  change ∀ entry ∈ history.entries, _
  rw [hentries]
  decide

theorem load_save_loses_return :
    let world : World := { programs := fun _ invocation => { files := invocation.files } }
    let history := ["a\r"].foldl record (History.load world "h").1
    let after := (history.save world).1
    (history.save world).2 = .ok () ∧ after.HoldsFile "h" ∧ history.entries = ["a\r"] ∧
      (History.load after "h").1.entries = ["a"] := by
  intro world history after
  have hsave : history.save world = (after, .ok ()) := rfl
  have hfile : after.HoldsFile "h" := ⟨["h"], _, _, rfl⟩
  have hentries : history.entries = ["a\r"] := by decide
  refine ⟨rfl, hfile, hentries, ?_⟩
  rw [entries_load_save rfl hsave hfile, hentries]
  decide

end History

end CommandShell
