import Mathlib.Algebra.Order.BigOperators.Group.List
import Mathlib.Algebra.Order.Ring.Nat
import ResumeTerminal.Page
import ResumeTerminal.Proofs.Text.Trimming

/-! Pages as rows, one below the other. A page loses nothing of its rows but blanks at its very
end, so what there is to see on it is what there is to see in the rows. -/
namespace ResumeTerminal

namespace Page

/-- A text made of rows, without a blank end, and with nothing else left away. -/
structure Shows (text : String) (rows : List String) : Prop where
  rows_eq : ∃ blanks, (∀ c ∈ blanks, Text.isBlankChar c = true) ∧
    "\n".intercalate rows = text ++ String.ofList blanks
  closed : ∀ c ∈ text.toList.getLast?, Text.isBlankChar c = false

theorem isBlankChar_of_mem_line_feed : ∀ c ∈ ['\n'], Text.isBlankChar c = true := by
  intro c hc
  rw [List.mem_singleton.mp hc]
  decide

/-- A line feed behind every row is one more than there are between them. -/
theorem join_eq_intercalate {rows : List String} (h : rows ≠ []) :
    String.join (rows.map (· ++ "\n")) = "\n".intercalate rows ++ "\n" := by
  induction rows with
  | nil => exact absurd rfl h
  | cons row rest ih =>
    cases rest with
    | nil => simp
    | cons next rest =>
      rw [List.map_cons, String.join_cons, ih (List.cons_ne_nil _ _),
        String.intercalate_cons_cons, String.append_assoc, String.append_assoc, String.append_assoc]

theorem layout_eq (rows : List String) : layout rows = Text.trimEnd ("\n".intercalate rows) := by
  by_cases h : rows = []
  · subst h
    rfl
  · rw [layout, join_eq_intercalate h]
    exact Text.trimEnd_append isBlankChar_of_mem_line_feed _

theorem layout_append_blank (rows : List String) : layout (rows ++ [""]) = layout rows := by
  have hjoin : String.join ((rows ++ [""]).map (· ++ "\n")) =
      String.join (rows.map (· ++ "\n")) ++ String.ofList ['\n'] := by
    rw [List.map_append, String.join_append]
    rfl
  rw [layout, hjoin, Text.trimEnd_append isBlankChar_of_mem_line_feed, layout]

/-- Rows can be shown in one way only. -/
theorem shows_iff {text : String} {rows : List String} : Shows text rows ↔ text = layout rows := by
  constructor
  · rintro ⟨⟨blanks, hblanks, hrows⟩, hclosed⟩
    rw [layout_eq, hrows, Text.trimEnd_append hblanks, Text.trimEnd_eq_self hclosed]
  · rintro rfl
    rw [layout_eq]
    exact ⟨Text.exists_trimEnd_append _, Text.isBlankChar_getLast?_trimEnd _⟩

theorem shows_layout (rows : List String) : Shows (layout rows) rows := shows_iff.mpr rfl

theorem flatMap_append_blank {blocks : List (List String)} (h : blocks ≠ []) :
    blocks.flatMap (· ++ [""]) = [""].intercalate blocks ++ [""] := by
  induction blocks with
  | nil => exact absurd rfl h
  | cons block rest ih =>
    cases rest with
    | nil => simp
    | cons next rest =>
      rw [List.flatMap_cons, ih (List.cons_ne_nil _ _), List.intercalate_cons_cons,
        List.append_assoc, List.append_assoc, List.append_assoc]

/-- A blank row behind each block is one more than there are between them. -/
theorem layout_flatMap_append_blank (top : List String) (blocks : List (List String)) :
    layout (top ++ blocks.flatMap (· ++ [""])) = layout (top ++ [""].intercalate blocks) := by
  by_cases h : blocks = []
  · rw [h]
    rfl
  · rw [flatMap_append_blank h, ← List.append_assoc, layout_append_blank]

/-! What there is to see. -/

def rowsInk (rows : List String) : List Char := rows.flatMap Text.ink

theorem rowsInk_append (first second : List String) :
    rowsInk (first ++ second) = rowsInk first ++ rowsInk second := List.flatMap_append

theorem rowsInk_cons (row : String) (rows : List String) :
    rowsInk (row :: rows) = Text.ink row ++ rowsInk rows := List.flatMap_cons

theorem length_rowsInk_flatMap {α : Type} (block : α → List String) (records : List α) :
    (rowsInk (records.flatMap block)).length =
      (records.map fun record => (rowsInk (block record)).length).sum := by
  rw [rowsInk, List.flatMap_assoc, List.length_flatMap]
  rfl

theorem ink_layout (rows : List String) : Text.ink (layout rows) = rowsInk rows := by
  rw [layout, Text.ink_trimEnd]
  induction rows with
  | nil => rfl
  | cons row rest ih =>
    have hfeed : Text.ink "\n" = [] := by decide
    rw [List.map_cons, String.join_cons, Text.ink_append, Text.ink_append, hfeed, List.append_nil,
      ih, rowsInk_cons]

theorem length_rowsInk_lt (before after : List String) {row : String}
    (h : Text.isVisible row = true) :
    (rowsInk (before ++ after)).length < (rowsInk (before ++ row :: after)).length := by
  have hpos := List.length_pos_of_ne_nil ((Text.ink_ne_nil_iff row).mpr h)
  rw [rowsInk_append, rowsInk_append, rowsInk_cons, List.length_append, List.length_append,
    List.length_append]
  omega

/-- Where single records may lose something visible, and are shown in full otherwise, the page is
shown in full as long as no record loses anything. -/
theorem layout_flatMap_eq_iff {α : Type} (top : List String) (records : List α)
    {shown full : α → List String} {loses : α → Prop}
    (hfull : ∀ record, ¬ loses record → shown record = full record)
    (hless : ∀ record, loses record →
      (rowsInk (shown record)).length < (rowsInk (full record)).length) :
    layout (top ++ records.flatMap shown) = layout (top ++ records.flatMap full) ↔
      ∀ record ∈ records, ¬ loses record := by
  have hink (block : α → List String) :
      (Text.ink (layout (top ++ records.flatMap block))).length =
        (rowsInk top).length + (records.map fun record => (rowsInk (block record)).length).sum := by
    rw [ink_layout, rowsInk_append, List.length_append, length_rowsInk_flatMap]
  constructor
  · intro heq record hrecord hloses
    have hle : ∀ record ∈ records,
        (rowsInk (shown record)).length ≤ (rowsInk (full record)).length := by
      intro record _
      by_cases h : loses record
      · exact (hless record h).le
      · rw [hfull record h]
    have hlt := List.sum_lt_sum _ _ hle ⟨record, hrecord, hless record hloses⟩
    have hsame := hink shown
    rw [heq, hink full] at hsame
    omega
  · intro h
    have hrows : records.flatMap shown = records.flatMap full :=
      List.flatMap_congr fun record hrecord => hfull record (h record hrecord)
    rw [hrows]

end Page
end ResumeTerminal
