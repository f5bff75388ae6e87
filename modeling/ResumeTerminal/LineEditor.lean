import ResumeTerminal.Session

/-! Keys, and what they mean for the input line and for the session. -/
namespace ResumeTerminal

inductive KeyCode where
  | char (c : Char)
  | enter
  | escape
  | tab
  | backTab
  | backspace
  | delete
  | insert
  | up
  | down
  | left
  | right
  | home
  | lineEnd
  | pageUp
  | pageDown
  | null
  | function (number : Nat)
  | capsLock
  | scrollLock
  | numLock
  | printScreen
  | pause
  | menu
  | keypadBegin
  | media (number : Nat)
  | modifier (number : Nat)
  deriving DecidableEq, Repr

structure Key where
  code : KeyCode
  ctrl : Bool := false
  shift : Bool := false
  alt : Bool := false
  deriving DecidableEq, Repr

inductive KeyAction where
  | event (event : Event)
  | edited
  | ignored
  | quit
  deriving DecidableEq, Repr

/-- The meaning of a key, and the input line after it. Together with control, letters
are commands in lower case only and are never typed. -/
def Key.press (key : Key) (input : String) : KeyAction × String :=
  match key.code with
  | .escape => (.quit, input)
  | .char c =>
    if !key.ctrl then (.edited, input.push c)
    else if c = 'c' ∨ c = 'd' then (.quit, input)
    else if c = 'u' then (.edited, "")
    else if c = 'l' then (.event (.submit "clear"), input)
    else (.ignored, input)
  | .enter => (.event (.submit input), input)
  | .tab => (.event (.complete input), input)
  | .up => (.event (.navigate .older), input)
  | .down => (.event (.navigate .newer), input)
  | .backspace => (.edited, String.ofList input.toList.dropLast)
  | _ => (.ignored, input)

end ResumeTerminal
