import Mathlib.Logic.Function.Basic
import ResumeTerminal.Console

/-! A terminal without edges. It takes in one character after the other: printable ones
are written over what stands at the cursor, the others move the cursor or belong to a
control sequence. -/
namespace ResumeTerminal

namespace Terminal

/-- How much of a control sequence has come in. -/
inductive Mode where
  | text
  | escape
  | sequence (parameters : List Char)
  deriving DecidableEq, Repr

end Terminal

/-- A row holds its characters up to the last one that has been written. -/
structure Terminal where
  row : Nat → List Char := fun _ => []
  line : Nat := 0
  column : Nat := 0
  mode : Terminal.Mode := .text

namespace Terminal

def isControl (c : Char) : Bool := c.toNat < 0x20 || (0x7F ≤ c.toNat && c.toNat ≤ 0x9F)

/-- Columns that were skipped hold blanks. -/
def overwrite (cells : List Char) (column : Nat) (c : Char) : List Char :=
  cells.take column ++ List.replicate (column - cells.length) ' ' ++ c :: cells.drop (column + 1)

def print (terminal : Terminal) (c : Char) : Terminal :=
  { terminal with
    row := Function.update terminal.row terminal.line
      (overwrite (terminal.row terminal.line) terminal.column c)
    column := terminal.column + 1 }

def eraseRow (terminal : Terminal) : Terminal :=
  { terminal with row := Function.update terminal.row terminal.line [] }

/-- Sequences that are not known do nothing. -/
def execute (terminal : Terminal) (parameters : List Char) (final : Char) : Terminal :=
  match final, parameters with
  | 'K', ['2'] => terminal.eraseRow
  | 'J', ['2'] => { terminal with row := fun _ => [] }
  | 'H', ['1', ';', '1'] => { terminal with line := 0, column := 0 }
  | _, _ => terminal

def feed (terminal : Terminal) (c : Char) : Terminal :=
  match terminal.mode with
  | .text =>
    if c = '\x1b' then { terminal with mode := .escape }
    else if c = '\r' then { terminal with column := 0 }
    else if c = '\n' then { terminal with line := terminal.line + 1 }
    else if isControl c then terminal
    else terminal.print c
  | .escape =>
    if c = '[' then { terminal with mode := .sequence [] } else { terminal with mode := .text }
  | .sequence parameters =>
    if c.isDigit || c == ';' then { terminal with mode := .sequence (parameters ++ [c]) }
    else { terminal with mode := .text }.execute parameters c

def write (terminal : Terminal) (text : String) : Terminal := text.toList.foldl feed terminal

@[simp] theorem write_append (terminal : Terminal) (before after : String) :
    terminal.write (before ++ after) = (terminal.write before).write after := by
  rw [write, String.toList_append, List.foldl_append]
  rfl

@[simp] theorem write_empty (terminal : Terminal) : terminal.write "" = terminal := rfl

/-! What the console writes, on a terminal that is not inside a control sequence. -/

variable {terminal : Terminal}

theorem write_eraseRow (h : terminal.mode = .text) :
    terminal.write Console.eraseRow = terminal.eraseRow := by
  obtain ⟨row, line, column, mode⟩ := terminal
  subst h
  rfl

theorem write_eraseScreen (h : terminal.mode = .text) :
    terminal.write Console.eraseScreen = { terminal with row := fun _ => [] } := by
  obtain ⟨row, line, column, mode⟩ := terminal
  subst h
  rfl

theorem write_cursorHome (h : terminal.mode = .text) :
    terminal.write Console.cursorHome = { terminal with line := 0, column := 0 } := by
  obtain ⟨row, line, column, mode⟩ := terminal
  subst h
  rfl

theorem write_return (h : terminal.mode = .text) :
    terminal.write "\r" = { terminal with column := 0 } := by
  obtain ⟨row, line, column, mode⟩ := terminal
  subst h
  rfl

theorem write_lineBreak (h : terminal.mode = .text) :
    terminal.write "\r\n" = { terminal with line := terminal.line + 1, column := 0 } := by
  obtain ⟨row, line, column, mode⟩ := terminal
  subst h
  rfl

theorem overwrite_length (cells : List Char) (c : Char) :
    overwrite cells cells.length c = cells ++ [c] := by
  simp [overwrite]

theorem feed_of_not_isControl (h : terminal.mode = .text) {c : Char}
    (hc : isControl c = false) : terminal.feed c = terminal.print c := by
  have hother (d : Char) (hd : isControl d = true) : c ≠ d := by
    rintro rfl
    rw [hc] at hd
    cases hd
  rw [feed, h]
  dsimp only
  rw [if_neg (hother _ (by decide)), if_neg (hother _ (by decide)),
    if_neg (hother _ (by decide)), hc]
  rfl

/-- At the end of a row characters are added to it. -/
theorem foldl_feed_of_not_isControl (h : terminal.mode = .text) {chars : List Char}
    (hchars : ∀ c ∈ chars, isControl c = false)
    (hcolumn : terminal.column = (terminal.row terminal.line).length) :
    chars.foldl feed terminal =
      { terminal with
        row := Function.update terminal.row terminal.line (terminal.row terminal.line ++ chars)
        column := terminal.column + chars.length } := by
  induction chars generalizing terminal with
  | nil => simp
  | cons c rest ih =>
    have hc : isControl c = false := hchars c List.mem_cons_self
    have hrest : ∀ d ∈ rest, isControl d = false := fun d hd => hchars d (List.mem_cons_of_mem c hd)
    rw [List.foldl_cons, feed_of_not_isControl h hc, ih (by exact h) hrest]
    · simp [print, hcolumn, overwrite_length, Nat.add_assoc, Nat.add_comm]
    · simp [print, hcolumn, overwrite_length]

end Terminal
end ResumeTerminal
