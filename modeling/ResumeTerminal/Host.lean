import ResumeTerminal.Console
import ResumeTerminal.LineEditor

/-! A session on a console. Every key starts a turn: the last row is drawn, and what
the key means is carried out. -/
namespace ResumeTerminal

structure Host where
  session : Session
  console : Console

namespace Host

/-- Starts without a profile and loads one. -/
def start (config : Config) (profile : Profile) (now : Timestamp) : Host × String :=
  let (session, calls) := (Session.start config none now).load profile
  let (console, written) := Console.performAll {} calls
  (⟨session, console⟩, written)

/-- Draws the row that waits for a key. -/
def await (host : Host) : Host × String :=
  let console := { host.console with prompt := host.session.prompt }
  ({ host with console }, console.redraw)

/-- Carries out a key's meaning. -/
def press (host : Host) (key : Key) : Host × KeyAction × String :=
  let (action, input) := key.press host.console.input
  let console := { host.console with input }
  match action with
  | .event event =>
    let (session, calls) := host.session.handle event
    let (console, written) := console.performAll calls
    (⟨session, console⟩, action, written)
  | _ => ({ host with console }, action, "")

/-- A whole turn, and all that is written in it. -/
def turn (host : Host) (key : Key) : Host × KeyAction × String :=
  let (host, drawn) := host.await
  let (host, action, written) := host.press key
  (host, action, drawn ++ written)

/-- A turn for a key that is pressed at a given time. -/
def turnAt (host : Host) (now : Timestamp) (key : Key) : Host × KeyAction × String :=
  turn { host with session := { host.session with now } } key

end Host
end ResumeTerminal
