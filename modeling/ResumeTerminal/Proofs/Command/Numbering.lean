import ResumeTerminal.Command.Run
import ResumeTerminal.Proofs.Text.Digits
import ResumeTerminal.Proofs.Text.Rows

/-! What the `history` command makes of the recorded lines: each stands behind its number, and both
can be read back. -/
namespace ResumeTerminal

namespace Environment

/-- A line behind its number, which stands to the right in a column of four places or more. -/
def numberedRow (number : Nat) (line : String) : String :=
  Text.padLeft 4 (toString number) ++ "  " ++ line

/-- The number and the line of a row. -/
def numbered? (row : String) : Option (Nat × String) :=
  let column := row.toList.dropWhile (· == ' ')
  match column.dropWhile Char.isDigit with
  | ' ' :: ' ' :: line =>
    (Text.natural? (column.takeWhile Char.isDigit)).map (·, String.ofList line)
  | _ => none

theorem toList_numberedRow (number : Nat) (line : String) :
    (numberedRow number line).toList =
      List.replicate (4 - (Nat.toDigits 10 number).length) ' ' ++
        (Nat.toDigits 10 number ++ ' ' :: ' ' :: line.toList) := by
  unfold numberedRow Text.padLeft Text.spaces
  rw [Nat.toString_eq_ofList_toDigits, String.length_ofList]
  simp

theorem numbered?_numberedRow (number : Nat) (line : String) :
    numbered? (numberedRow number line) = some (number, line) := by
  have hdigits : ∀ c ∈ Nat.toDigits 10 number, c.isDigit = true := Text.isDigit_of_mem_toDigits
  have hspace : ¬ ' '.isDigit = true := by decide
  have hcolumn : (numberedRow number line).toList.dropWhile (· == ' ') =
      Nat.toDigits 10 number ++ ' ' :: ' ' :: line.toList := by
    obtain ⟨c, rest, hfirst⟩ :=
      List.exists_cons_of_ne_nil (Nat.toDigits_ne_nil : Nat.toDigits 10 number ≠ [])
    have hc : ¬ (c == ' ') = true := by
      intro hc
      rw [← beq_iff_eq.mp hc] at hspace
      exact hspace (hdigits c (hfirst ▸ List.mem_cons_self))
    rw [toList_numberedRow, List.dropWhile_append_of_pos (by simp), hfirst, List.cons_append]
    exact List.dropWhile_cons_of_neg hc
  unfold numbered?
  dsimp only
  rw [hcolumn, List.dropWhile_append_of_pos hdigits, List.takeWhile_append_of_pos hdigits,
    List.dropWhile_cons_of_neg hspace, List.takeWhile_cons_of_neg hspace, List.append_nil,
    Text.natural?_toDigits]
  exact congrArg (fun text => some (number, text)) String.ofList_toList

/-- The line is not empty, so that its end is the end of the row. -/
theorem isRow_numberedRow (number : Nat) {line : String} (h : Text.IsRow line) (hne : line ≠ "") :
    Text.IsRow (numberedRow number line) where
  no_feed hmem := by
    rw [toList_numberedRow, List.mem_append, List.mem_append] at hmem
    rcases hmem with hpad | hdigit | hline
    · exact absurd (List.eq_of_mem_replicate hpad) (by decide)
    · exact absurd (Text.isDigit_of_mem_toDigits _ hdigit) (by decide)
    · have hfeed : '\n' ∈ line.toList := by simpa using hline
      exact h.no_feed hfeed
  no_return hlast := by
    have hchars : line.toList ≠ [] := fun hnil => hne (String.toList_eq_nil_iff.mp hnil)
    obtain ⟨c, rest, hline⟩ := List.exists_cons_of_ne_nil hchars
    rw [toList_numberedRow] at hlast
    apply h.no_return
    rw [hline] at hlast ⊢
    simpa using hlast

theorem historyRows_eq (env : Environment) :
    env.historyRows = env.history.mapIdx fun index line => numberedRow (index + 1) line := rfl

theorem map_numbered?_mapIdx (lines : List String) :
    (lines.mapIdx fun index line => numberedRow (index + 1) line).map numbered? =
      lines.mapIdx fun index line => some (index + 1, line) := by
  apply List.ext_getElem?
  intro index
  rw [List.getElem?_map, List.getElem?_mapIdx, List.getElem?_mapIdx]
  cases lines[index]? with
  | none => rfl
  | some line => rw [Option.map_some, Option.map_some, Option.map_some, numbered?_numberedRow]

theorem numberedRow_ne_empty (number : Nat) (line : String) : numberedRow number line ≠ "" := by
  intro hempty
  have hread := numbered?_numberedRow number line
  rw [hempty] at hread
  cases hread

/-- The rows that show recorded lines: a row for each line, behind its number. A line with line
breaks of its own goes on in the rows below. -/
structure Numbers (rows lines : List String) : Prop where
  nothing : lines = [] → rows = ["(no history)"]
  reproduces : lines ≠ [] → Text.Reproduces rows
    ("\n".intercalate (lines.mapIdx fun index line => numberedRow (index + 1) line))
  one_row_each : lines ≠ [] → (∀ line ∈ lines, '\n' ∉ line.toList) →
    rows = lines.mapIdx fun index line => numberedRow (index + 1) line
  read_back : lines ≠ [] → (∀ line ∈ lines, '\n' ∉ line.toList) →
    rows.map numbered? = lines.mapIdx fun index line => some (index + 1, line)

theorem historyText_of_ne_nil {env : Environment} (hne : env.history ≠ []) :
    env.historyText =
      "\n".intercalate (env.history.mapIdx fun index line => numberedRow (index + 1) line) := by
  rw [historyText, if_neg (by rwa [List.isEmpty_iff]), historyRows_eq]

/-- Joining numbered lines and cutting the text again gives their rows. -/
theorem printedRows_numbered {lines : List String} (hne : lines ≠ [])
    (h : ∀ line ∈ lines, Text.IsRow line ∧ line ≠ "") :
    let numbered := lines.mapIdx fun index line => numberedRow (index + 1) line
    Text.printedRows ("\n".intercalate numbered) = numbered := by
  intro numbered
  have hmem : ∀ row ∈ numbered, Text.IsRow row ∧ row ≠ "" := by
    intro row hrow
    obtain ⟨index, hindex, rfl⟩ := List.mem_mapIdx.mp hrow
    obtain ⟨hline, hvisible⟩ := h _ (List.getElem_mem hindex)
    exact ⟨isRow_numberedRow _ hline hvisible, numberedRow_ne_empty _ _⟩
  apply Text.printedRows_intercalate
  · rwa [ne_eq, List.mapIdx_eq_nil_iff]
  · exact fun row hrow => (hmem row hrow).1
  · exact fun hlast => (hmem "" (List.mem_of_getLast? hlast)).2 rfl

theorem printedRows_historyText {env : Environment}
    (h : ∀ line ∈ env.history, line ≠ "" ∧ Text.trim line = line) (hne : env.history ≠ [])
    (hfeed : ∀ line ∈ env.history, '\n' ∉ line.toList) :
    Text.printedRows env.historyText =
      env.history.mapIdx fun index line => numberedRow (index + 1) line := by
  rw [historyText_of_ne_nil hne]
  apply printedRows_numbered hne
  intro line hline
  obtain ⟨hvisible, htrim⟩ := h line hline
  exact ⟨htrim ▸ Text.isRow_trim (hfeed line hline), hvisible⟩

theorem numbers_historyText {env : Environment}
    (h : ∀ line ∈ env.history, line ≠ "" ∧ Text.trim line = line) :
    Numbers (Text.printedRows env.historyText) env.history where
  nothing hnone := by
    rw [historyText, hnone, if_pos List.isEmpty_nil]
    decide
  reproduces hne := by
    rw [historyText_of_ne_nil hne]
    exact Text.reproduces_printedRows _
  one_row_each := printedRows_historyText h
  read_back hne hfeed := by
    rw [printedRows_historyText h hne hfeed, map_numbered?_mapIdx]

end Environment

end ResumeTerminal
