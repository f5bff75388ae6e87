import ResumeTerminal.Config.Fields
import ResumeTerminal.Json.Error

/-! Everything that can go wrong, and the words for it. -/
namespace ResumeTerminal

/-! What is found at a path, and why it may hold no text. -/

inductive FileProblem where
  | notFound
  | isDirectory
  | notText
  deriving DecidableEq, Repr

def FileProblem.message : FileProblem → String
  | .notFound => "No such file or directory (os error 2)"
  | .isDirectory => "Is a directory (os error 21)"
  | .notText => "stream did not contain valid UTF-8"

inductive FileContent where
  | missing
  | directory
  | bytes (content : ByteArray)

def FileContent.text : FileContent → Except FileProblem String
  | .missing => .error .notFound
  | .directory => .error .isDirectory
  | .bytes content =>
    match String.fromUTF8? content with
    | some text => .ok text
    | none => .error .notText

/-! Failures of every kind. -/

inductive Failure where
  | config (defect : Config.Defect)
  | setting (misfit : Config.Misfit)
  | malformedConfig
  | profileFile (path : String) (problem : FileProblem)
  | file (problem : FileProblem)
  | json (error : Json.Error)
  | command (message : String)

/-- What is said without naming the kind of failure. -/
def Failure.detail : Failure → String
  | .config defect => defect.message
  | .setting misfit => misfit.message
  | .malformedConfig => "the text is not well formed"
  | .profileFile path problem => s!"cannot read {path}: {problem.message}"
  | .file problem => problem.message
  | .json error => error.message
  | .command message => message

def Failure.topic : Failure → String
  | .config _ => "config error"
  | .setting _ | .malformedConfig => "TOML parse error"
  | .profileFile .. => "profile error"
  | .file _ => "I/O error"
  | .json _ => "JSON error"
  | .command _ => "command error"

def Failure.message (failure : Failure) : String := failure.topic ++ ": " ++ failure.detail

end ResumeTerminal
