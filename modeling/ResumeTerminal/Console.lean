import ResumeTerminal.Session

/-! The screen as a stream of characters. The prompt and the input share the last row,
which is erased and drawn anew; finished rows scroll up. -/
namespace ResumeTerminal

structure Console where
  prompt : String := ""
  input : String := ""
  deriving DecidableEq, Repr

namespace Console

def eraseRow : String := "\x1b[2K"

def eraseScreen : String := "\x1b[2J"

def cursorHome : String := "\x1b[1;1H"

/-- What is written to draw the last row. -/
def redraw (console : Console) : String :=
  eraseRow ++ "\r" ++ console.prompt ++ " " ++ console.input

/-- Line feeds do not return to the first column by themselves. -/
def appendLine (text : String) : String := eraseRow ++ "\r" ++ text ++ "\r\n"

def finish : String := "\r\n"

def setInput (console : Console) (text : String) : Console × String :=
  let console := { console with input := text }
  (console, console.redraw)

/-- Carries out a call. Links are written out, and downloads are left to the host. -/
def perform (console : Console) : Call → Console × String
  | .line text => (console, appendLine text)
  | .clear => (console, eraseScreen ++ cursorHome)
  | .setInput text => console.setInput text
  | .openLink url => (console, appendLine ("  " ++ url))
  | .download .. => (console, "")

def performAll (console : Console) : List Call → Console × String
  | [] => (console, "")
  | call :: calls =>
    let (console, written) := console.perform call
    let (console, more) := console.performAll calls
    (console, written ++ more)

/-! The input line through a sequence of calls: the last call that sets it decides, and all others
leave it alone. -/

def inputAfter (input : String) : List Call → String
  | [] => input
  | .setInput text :: rest => inputAfter text rest
  | .line _ :: rest | .clear :: rest | .openLink _ :: rest | .download .. :: rest =>
    inputAfter input rest

theorem input_performAll (console : Console) (calls : List Call) :
    (console.performAll calls).1.input = inputAfter console.input calls := by
  induction calls generalizing console with
  | nil => rfl
  | cons call rest ih => cases call <;> exact ih _

theorem inputAfter_append_setInput (input : String) (calls : List Call) (text : String) :
    inputAfter input (calls ++ [.setInput text]) = text := by
  induction calls generalizing input with
  | nil => rfl
  | cons call rest ih => cases call <;> exact ih _

end Console
end ResumeTerminal
