import ResumeTerminal.Text.Basic

/-! Submitted lines and the place from which they are being recalled. The cursor
stands on an entry, or just past the last one on the fresh line. -/
namespace ResumeTerminal

inductive Direction where
  | older
  | newer
  deriving DecidableEq, Repr

/-- Negative steps lead to older lines and positive ones to newer lines. -/
def Direction.ofStep? (step : Int) : Option Direction :=
  if step < 0 then some .older else if step > 0 then some .newer else none

def Direction.step : Direction → Int
  | .older => -1
  | .newer => 1

structure History where
  entries : List String := []
  cursor : Nat := 0
  deriving DecidableEq, Repr

namespace History

def size (history : History) : Nat := history.entries.length

def isFresh (history : History) : Bool := history.cursor == history.size

/-- Blank lines are not recorded; the result says whether this one was. -/
def append (history : History) (line : String) : History × Bool :=
  if Text.isBlank line then (history, false)
  else
    let entries := history.entries ++ [line]
    (⟨entries, entries.length⟩, true)

/-- The text to recall, if there is anything to recall: the way to older lines ends at
the first entry, the way to newer ones at the empty fresh line. -/
def navigate (history : History) (direction : Direction) : History × Option String :=
  if history.entries.isEmpty then (history, none)
  else
    match direction with
    | .older =>
      let cursor := history.cursor - 1
      ({ history with cursor }, history.entries[cursor]?)
    | .newer =>
      let cursor := history.cursor + 1
      if cursor < history.size then ({ history with cursor }, history.entries[cursor]?)
      else ({ history with cursor := history.size }, some "")

@[simp] theorem entries_navigate (history : History) (direction : Direction) :
    (history.navigate direction).1.entries = history.entries := by
  unfold navigate
  split
  · rfl
  · cases direction
    · rfl
    · dsimp only
      split <;> rfl

end History
end ResumeTerminal
