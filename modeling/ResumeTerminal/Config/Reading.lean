import ResumeTerminal.Failure
import ResumeTerminal.Toml.Reading

/-! Configurations from texts and files. -/
namespace ResumeTerminal.Config

/-- A configuration without defects. -/
def checked (config : Config) : Except Failure Config :=
  match config.defect? with
  | some defect => .error (.config defect)
  | none => .ok config

def ofDocument (entries : Toml.Entries) : Except Failure Config :=
  match ofEntries entries with
  | .ok config => config.checked
  | .error misfit => .error (.setting misfit)

def ofText (text : String) : Except Failure Config :=
  match Toml.read text with
  | some entries => ofDocument entries
  | none => .error .malformedConfig

/-- Without a file everything has its default. -/
def ofFile (file : FileContent) : Except Failure Config :=
  match file with
  | .missing => .ok {}
  | file =>
    match file.text with
    | .ok text => ofText text
    | .error problem => .error (.file problem)

end ResumeTerminal.Config
