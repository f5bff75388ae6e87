import ResumeTerminal.Alias
import ResumeTerminal.Command.Registry
import ResumeTerminal.Timestamp

/-! Running commands. They read the state of the terminal and change nothing. -/
namespace ResumeTerminal

/-- What commands can see. The line that is running is not in the history yet. -/
structure Environment where
  registry : Registry
  aliases : AliasTable
  history : List String
  now : Timestamp

namespace Environment

def commandRow (labelWidth : Nat) (entry : String × Command) : String :=
  "  " ++ Text.padRight labelWidth entry.1 ++ " - " ++ entry.2.description

def aliasRow (labelWidth : Nat) (entry : String × String) : String :=
  "  " ++ Text.padRight labelWidth entry.1 ++ " -> " ++ entry.2

/-- A heading stands only over rows. -/
def titled (title : String) (rows : List String) : List String :=
  if rows.isEmpty then [] else "" :: (title ++ ":") :: rows

/-- A heading goes before every command of another category than the one before it. -/
def commandRows (labelWidth : Nat) : Option Category → List (String × Command) → List String
  | _, [] => []
  | current, entry :: rest =>
    (if current = some entry.2.category then []
      else ["", entry.2.category.heading ++ ":"])
      ++ commandRow labelWidth entry :: commandRows labelWidth (some entry.2.category) rest

def overviewRows (env : Environment) (labelWidth : Nat) : List String :=
  "Available commands:" :: commandRows labelWidth none env.registry.listing
    ++ titled "Aliases" (env.aliases.entries.map (aliasRow labelWidth))

/-- Commands come before aliases of the same name. -/
def describe (env : Environment) (name : String) : Except Failure Output :=
  match env.registry.lookup name with
  | some command =>
    .ok (.text (Text.lower name ++ " (" ++ command.category.tag ++ ")\n  " ++
      command.description ++ "\n  Usage: " ++ command.usage))
  | none =>
    match env.aliases.expansion? name with
    | some expansion => .ok (.text (name ++ ": alias for '" ++ expansion ++ "'"))
    | none => .error (.command ("help: no such command: " ++ name))

/-- Rows are numbered from one. -/
def historyRows (env : Environment) : List String :=
  env.history.mapIdx fun index line =>
    Text.padLeft 4 (toString (index + 1)) ++ "  " ++ line

def historyText (env : Environment) : String :=
  if env.history.isEmpty then "(no history)" else "\n".intercalate env.historyRows

def run (env : Environment) (action : Action) (args : List String) : Except Failure Output :=
  match action with
  | .help labelWidth =>
    match args with
    | [] => .ok (.text (Page.layout (env.overviewRows labelWidth)))
    | name :: _ => env.describe name
  | .history => .ok (.text env.historyText)
  | .date => .ok (.text env.now.text)
  | .give output => .ok output
  | .page page ruleWidth => .ok (.text (page.text ruleWidth))
  | .answer reply => reply args

end Environment
end ResumeTerminal
