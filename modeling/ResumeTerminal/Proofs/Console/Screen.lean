import ResumeTerminal.Proofs.Console.Terminal

/-! What the writing of a console amounts to on a terminal: finished rows, and below them
the row that was drawn last. Every row is erased before it is drawn anew, and the cursor
never leaves the last row, so nothing of an older and longer row can stay behind. -/
namespace ResumeTerminal

namespace Console

/-- All that a console is told: calls, what the host does between them, and the end. -/
inductive Step where
  | setPrompt (prompt : String)
  | edit (input : String)
  | call (call : Call)
  | redraw
  | finish

def step (console : Console) : Step → Console × String
  | .setPrompt prompt => ({ console with prompt }, "")
  | .edit input => ({ console with input }, "")
  | .call call => console.perform call
  | .redraw => (console, console.redraw)
  | .finish => (console, finish)

/-- The console after the steps, and all that is written in them. -/
def run (console : Console) : List Step → Console × String
  | [] => (console, "")
  | step :: rest =>
    let (console, written) := console.step step
    let (console, more) := console.run rest
    (console, written ++ more)

def Step.texts : Step → List String
  | .setPrompt text | .edit text | .call (.line text) | .call (.setInput text)
  | .call (.openLink text) => [text]
  | .call (.download href fileName) => [href, fileName]
  | .call .clear | .redraw | .finish => []

end Console

def Text.IsPrintable (text : String) : Prop := ∀ c ∈ text.toList, Terminal.isControl c = false

instance (text : String) : Decidable (Text.IsPrintable text) :=
  List.decidableBAll (fun c => Terminal.isControl c = false) text.toList

theorem Text.IsPrintable.append {a b : String} (ha : IsPrintable a) (hb : IsPrintable b) :
    IsPrintable (a ++ b) := by
  intro c hc
  rw [String.toList_append, List.mem_append] at hc
  exact hc.elim (ha c) (hb c)

/-- The rows that were finished since the last time the screen was cleared, and the row
that is drawn below them. The prompt and the input show only once they are drawn. -/
structure Scrollback where
  prompt : String := ""
  input : String := ""
  rows : List String := []
  current : String := ""
  deriving DecidableEq

namespace Scrollback
open Console (Step)

def push (scrollback : Scrollback) (row : String) : Scrollback :=
  { scrollback with rows := scrollback.rows ++ [row], current := "" }

def draw (scrollback : Scrollback) : Scrollback :=
  { scrollback with current := scrollback.prompt ++ " " ++ scrollback.input }

def step (scrollback : Scrollback) : Step → Scrollback
  | .setPrompt prompt => { scrollback with prompt }
  | .edit input => { scrollback with input }
  | .call (.line text) => scrollback.push text
  | .call .clear => { scrollback with rows := [], current := "" }
  | .call (.setInput input) => { scrollback with input }.draw
  | .call (.openLink url) => scrollback.push ("  " ++ url)
  | .call (.download ..) => scrollback
  | .redraw => scrollback.draw
  | .finish => scrollback.push scrollback.current

/-- The characters in a line of the screen; below the current row there are none. -/
def cells (scrollback : Scrollback) (line : Nat) : List Char :=
  ((scrollback.rows ++ [scrollback.current])[line]?.getD "").toList

theorem cells_size (scrollback : Scrollback) :
    scrollback.cells scrollback.rows.length = scrollback.current.toList := by
  simp [cells]

theorem cells_draw (scrollback : Scrollback) (row : String) :
    ({ scrollback with current := row } : Scrollback).cells =
      Function.update scrollback.cells scrollback.rows.length row.toList := by
  funext line
  by_cases hline : line = scrollback.rows.length
  · subst hline
    simp [cells]
  · rw [Function.update_of_ne hline]
    rcases Nat.lt_or_gt_of_ne hline with hlt | hgt
    · simp [cells, List.getElem?_append_left hlt]
    · have hbelow (last : String) : (scrollback.rows ++ [last])[line]? = none :=
        List.getElem?_eq_none (by simp; omega)
      simp [cells, hbelow]

/-- A finished row leaves an empty one below it. -/
theorem cells_push (scrollback : Scrollback) (row : String) :
    (scrollback.push row).cells =
      Function.update scrollback.cells scrollback.rows.length row.toList := by
  rw [← cells_draw]
  funext line
  unfold cells push
  rcases Nat.lt_or_ge line (scrollback.rows ++ [row]).length with hlt | hge
  · rw [List.getElem?_append_left hlt]
  · have hbeyond : (scrollback.rows ++ [row])[line]? = none := List.getElem?_eq_none hge
    rw [List.getElem?_append_right hge, hbeyond]
    cases line - (scrollback.rows ++ [row]).length <;> rfl

theorem cells_clear (prompt input : String) :
    (⟨prompt, input, [], ""⟩ : Scrollback).cells = fun _ => [] := by
  funext line
  cases line <;> rfl

end Scrollback

/-- The terminal shows a scrollback and has its cursor on the current row. -/
structure Terminal.Shows (terminal : Terminal) (scrollback : Scrollback) : Prop where
  mode : terminal.mode = .text
  line : terminal.line = scrollback.rows.length
  row : terminal.row = scrollback.cells

namespace Terminal
variable {terminal : Terminal} {scrollback : Scrollback}

/-- Erasing a row and drawing it leaves the new text alone on it. -/
theorem write_row (h : terminal.mode = .text) {text : String} (htext : Text.IsPrintable text) :
    terminal.write (Console.eraseRow ++ "\r" ++ text) =
      { terminal with
        row := Function.update terminal.row terminal.line text.toList
        column := text.toList.length } := by
  rw [write_append, write_append, write_eraseRow h, write_return (by exact h), write,
    foldl_feed_of_not_isControl (by exact h) htext (by simp [eraseRow])]
  simp [eraseRow]

theorem Shows.appendLine (h : terminal.Shows scrollback) {text : String}
    (htext : Text.IsPrintable text) :
    (terminal.write (Console.appendLine text)).Shows (scrollback.push text) := by
  rw [Console.appendLine, write_append, write_row h.mode htext,
    write_lineBreak (by exact h.mode)]
  refine ⟨h.mode, ?_, ?_⟩
  · simp [Scrollback.push, h.line]
  · rw [Scrollback.cells_push, ← h.row, ← h.line]

theorem Shows.redraw (h : terminal.Shows scrollback)
    (hprompt : Text.IsPrintable scrollback.prompt) (hinput : Text.IsPrintable scrollback.input) :
    (terminal.write (Console.redraw ⟨scrollback.prompt, scrollback.input⟩)).Shows
      scrollback.draw := by
  have hblank : Text.IsPrintable " " := by decide
  have hrow := write_row h.mode ((hprompt.append hblank).append hinput)
  rw [← String.append_assoc, ← String.append_assoc] at hrow
  rw [Console.redraw, hrow]
  refine ⟨h.mode, h.line, ?_⟩
  rw [Scrollback.draw, Scrollback.cells_draw, ← h.row, ← h.line]

theorem Shows.finish (h : terminal.Shows scrollback) :
    (terminal.write Console.finish).Shows (scrollback.push scrollback.current) := by
  rw [Console.finish, write_lineBreak h.mode]
  refine ⟨h.mode, ?_, ?_⟩
  · simp [Scrollback.push, h.line]
  · rw [Scrollback.cells_push, ← Scrollback.cells_size, Function.update_eq_self, h.row]

theorem Shows.clear (h : terminal.Shows scrollback) :
    (terminal.write (Console.eraseScreen ++ Console.cursorHome)).Shows
      { scrollback with rows := [], current := "" } := by
  rw [write_append, write_eraseScreen h.mode, write_cursorHome (by exact h.mode)]
  exact ⟨h.mode, rfl, (Scrollback.cells_clear _ _).symm⟩

end Terminal

/-- What a console keeps up with its terminal: all that it has drawn is on the screen,
and what it has yet to draw is printable. -/
structure Console.Tracks (console : Console) (terminal : Terminal) (scrollback : Scrollback) :
    Prop where
  shows_scrollback : terminal.Shows scrollback
  console_eq : console = ⟨scrollback.prompt, scrollback.input⟩
  printable_prompt : Text.IsPrintable scrollback.prompt
  printable_input : Text.IsPrintable scrollback.input

namespace Console
variable {console : Console} {terminal : Terminal} {scrollback : Scrollback}

theorem Tracks.start : Tracks {} {} {} where
  shows_scrollback := ⟨rfl, rfl, (Scrollback.cells_clear _ _).symm⟩
  console_eq := rfl
  printable_prompt := by decide
  printable_input := by decide

theorem Tracks.step (h : console.Tracks terminal scrollback) {step : Step}
    (hstep : ∀ text ∈ step.texts, Text.IsPrintable text) :
    (console.step step).1.Tracks (terminal.write (console.step step).2)
      (scrollback.step step) := by
  obtain ⟨hshows, rfl, hprompt, hinput⟩ := h
  cases step with
  | setPrompt prompt =>
    exact ⟨⟨hshows.mode, hshows.line, hshows.row⟩, rfl, hstep _ List.mem_cons_self, hinput⟩
  | edit input =>
    exact ⟨⟨hshows.mode, hshows.line, hshows.row⟩, rfl, hprompt, hstep _ List.mem_cons_self⟩
  | redraw => exact ⟨hshows.redraw hprompt hinput, rfl, hprompt, hinput⟩
  | finish => exact ⟨hshows.finish, rfl, hprompt, hinput⟩
  | call call =>
    cases call with
    | line text =>
      exact ⟨hshows.appendLine (hstep _ List.mem_cons_self), rfl, hprompt, hinput⟩
    | clear => exact ⟨hshows.clear, rfl, hprompt, hinput⟩
    | setInput input =>
      have hnext : terminal.Shows { scrollback with input } :=
        ⟨hshows.mode, hshows.line, hshows.row⟩
      have htext : Text.IsPrintable input := hstep _ List.mem_cons_self
      exact ⟨hnext.redraw hprompt htext, rfl, hprompt, htext⟩
    | openLink url =>
      have hindent : Text.IsPrintable "  " := by decide
      exact ⟨hshows.appendLine (hindent.append (hstep _ List.mem_cons_self)), rfl, hprompt,
        hinput⟩
    | download href fileName => exact ⟨hshows, rfl, hprompt, hinput⟩

theorem Tracks.run (h : console.Tracks terminal scrollback) {steps : List Step}
    (hsteps : ∀ step ∈ steps, ∀ text ∈ step.texts, Text.IsPrintable text) :
    (console.run steps).1.Tracks (terminal.write (console.run steps).2)
      (steps.foldl Scrollback.step scrollback) := by
  induction steps generalizing console terminal scrollback with
  | nil => exact h
  | cons step rest ih =>
    have hnext := h.step (hsteps step List.mem_cons_self)
    have hrest := ih hnext fun later hlater => hsteps later (List.mem_cons_of_mem step hlater)
    rw [Console.run, Terminal.write_append]
    exact hrest

theorem terminal_shows_scrollback (steps : List Step)
    (hsteps : ∀ step ∈ steps, ∀ text ∈ step.texts, Text.IsPrintable text) :
    (Terminal.write {} (run {} steps).2).row = (steps.foldl Scrollback.step {}).cells :=
  (Tracks.start.run hsteps).shows_scrollback.row

/-- A long prompt row, cut down and then pushed up by shorter ones. -/
theorem terminal_shows_rows_after_long_prompt :
    let steps : List Step := [.setPrompt "ada@portfolio $", .call (.setInput "projects"),
      .edit "", .redraw, .call (.line "ok"), .call (.openLink "x"), .redraw, .finish]
    (∀ step ∈ steps, ∀ text ∈ step.texts, Text.IsPrintable text) ∧
      (Terminal.write {} (run {} steps).2).row =
        (⟨"", "", ["ok", "  x", "ada@portfolio $ "], ""⟩ : Scrollback).cells :=
  ⟨by decide, terminal_shows_scrollback _ (by decide)⟩

end Console
end ResumeTerminal
