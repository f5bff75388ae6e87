import ResumeTerminal.History

/-! Recalling lines. The cursor never leaves the entries and the fresh line behind them,
and where it comes to stand decides the text that is recalled. -/
namespace ResumeTerminal.History

/-- Where a step leads from the cursor. -/
def next (history : History) : Direction → Nat
  | .older => history.cursor - 1
  | .newer => min (history.cursor + 1) history.size

/-- The line at a place; there is none on the fresh line. -/
def lineAt (history : History) (place : Nat) : String := history.entries[place]?.getD ""

theorem navigate_of_eq_nil {history : History} (h : history.entries = [])
    (direction : Direction) : history.navigate direction = (history, none) := by
  simp [navigate, h]

theorem navigate_of_ne_nil {history : History} (h : history.entries ≠ [])
    (hcursor : history.cursor ≤ history.size) (direction : Direction) :
    history.navigate direction =
      ({ history with cursor := history.next direction },
        some (history.lineAt (history.next direction))) := by
  have hempty : history.entries.isEmpty = false := by simpa using h
  have hpos : 0 < history.size := List.length_pos_iff.mpr h
  unfold navigate
  rw [hempty]
  cases direction with
  | older =>
    have hlt : history.cursor - 1 < history.entries.length := by
      unfold size at hcursor hpos
      omega
    simp [next, lineAt, List.getElem?_eq_getElem hlt]
  | newer =>
    by_cases hlt : history.cursor + 1 < history.size
    · have hmin : min (history.cursor + 1) history.size = history.cursor + 1 := by omega
      simp [next, lineAt, hlt, hmin, List.getElem?_eq_getElem (show _ < _ from hlt)]
    · have hmin : min (history.cursor + 1) history.size = history.size := by omega
      have hnone : history.entries[history.size]? = none := List.getElem?_eq_none (Nat.le_refl _)
      simp [next, lineAt, hlt, hmin, hnone]

theorem next_le_size {history : History} (h : history.cursor ≤ history.size)
    (direction : Direction) : history.next direction ≤ history.size := by
  cases direction with
  | older => exact Nat.le_trans (Nat.sub_le _ _) h
  | newer => exact Nat.min_le_right _ _

theorem cursor_navigate_le {history : History} (h : history.cursor ≤ history.size)
    (direction : Direction) :
    (history.navigate direction).1.cursor ≤ (history.navigate direction).1.size := by
  by_cases hentries : history.entries = []
  · rw [navigate_of_eq_nil hentries]
    exact h
  · rw [navigate_of_ne_nil hentries h]
    exact next_le_size h direction

theorem append_of_visible (history : History) {line : String} (h : Text.isBlank line = false) :
    history.append line = (⟨history.entries ++ [line], history.size + 1⟩, true) := by
  simp [append, h, size]

end ResumeTerminal.History
