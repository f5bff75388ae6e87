import ResumeTerminal.Command.Catalog
import ResumeTerminal.Command.Run
import ResumeTerminal.History

/-! A session: lines are submitted, recalled and completed, and the profile can be
exchanged. What the user gets to see is a list of calls to the screen. -/
namespace ResumeTerminal

inductive Call where
  | line (text : String)
  | clear
  | setInput (text : String)
  | openLink (url : String)
  | download (href : String) (fileName : String)
  deriving DecidableEq, Repr

/-- All that depends on the profile. -/
structure Setup where
  registry : Registry
  aliases : AliasTable
  prompt : String

def Setup.of (profile : Option Profile) (config : Config) : Setup where
  registry := Registry.registerAll {} (Command.all profile config)
  aliases := AliasTable.ofPairs ((profile.map Profile.aliases).getD [])
  prompt := Profile.promptFor profile config.prompt

structure Session where
  config : Config
  profile : Option Profile
  setup : Setup
  history : History
  now : Timestamp

inductive Event where
  | submit (line : String)
  | navigate (direction : Direction)
  | complete (typed : String)
  deriving DecidableEq, Repr

namespace Session

def start (config : Config) (profile : Option Profile) (now : Timestamp) : Session where
  config := config
  profile := profile
  setup := .of profile config
  history := {}
  now := now

def prompt (session : Session) : String := session.setup.prompt

def environment (session : Session) : Environment where
  registry := session.setup.registry
  aliases := session.setup.aliases
  history := session.history.entries
  now := session.now

def suggestions (config : Config) (profile : Profile) : List Call :=
  let commands := profile.suggestedCommands
  if config.showSuggestions && !commands.isEmpty then
    [.line "", .line ("Suggested commands: " ++ ", ".intercalate commands)]
  else []

/-- Exchanges the profile; the history stays. -/
def load (session : Session) (profile : Profile) : Session × List Call :=
  ({ session with profile := some profile, setup := .of (some profile) session.config },
    suggestions session.config profile)

def printed (text : String) : List Call := (Text.printedRows text).map .line

def shown : Output → List Call
  | .text text => printed text
  | .silent => []
  | .clear => [.clear]
  | .openLink url notice => .openLink url :: printed notice
  | .download href fileName notice => .download href fileName :: printed notice

/-- Commands speak for themselves; other failures name their kind. -/
def complaint : Failure → String
  | .command message => "error: " ++ message
  | failure => "error: " ++ failure.message

/-- The command of a line and its arguments, once aliases are replaced. -/
def invocation (session : Session) (line : String) : String × List String :=
  match Text.words line with
  | [] => session.setup.aliases.resolve "" []
  | name :: args => session.setup.aliases.resolve name args

/-- What running a line shows, between its echo and the fresh input line. -/
def response (session : Session) (line : String) : List Call :=
  let (name, args) := session.invocation line
  match session.setup.registry.lookup name with
  | none => [.line ("Command not found: " ++ name),
      .line "Type 'help' for available commands."]
  | some command =>
    match session.environment.run command.action args with
    | .ok output => shown output
    | .error failure => printed (complaint failure)

def submit (session : Session) (line : String) : Session × List Call :=
  let line := Text.trim line
  if line.isEmpty then (session, [.setInput ""])
  else
    ({ session with history := (session.history.append line).1 },
      .line (session.prompt ++ " " ++ line) :: session.response line ++ [.setInput ""])

def navigate (session : Session) (direction : Direction) : Session × List Call :=
  let (history, recalled) := session.history.navigate direction
  ({ session with history }, (recalled.map .setInput).toList)

/-- Several names are listed, and the input stays as it is. -/
def complete (session : Session) (typed : String) : List Call :=
  match session.setup.registry.complete typed with
  | .none => []
  | .single name => [.setInput name]
  | .multiple names => [.line ("  ".intercalate names)]

def handle (session : Session) : Event → Session × List Call
  | .submit line => session.submit line
  | .navigate direction => session.navigate direction
  | .complete typed => (session, session.complete typed)

end Session
end ResumeTerminal
