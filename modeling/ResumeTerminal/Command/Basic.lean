import ResumeTerminal.Failure
import ResumeTerminal.Page

/-! Commands: how they are presented, and what they do. -/
namespace ResumeTerminal

inductive Category where
  | resume
  | action
  | system
  | other
  deriving DecidableEq, Repr

namespace Category

/-- The order of the groups in the overview. -/
def order : List Category := [.resume, .action, .system, .other]

def heading : Category → String
  | .resume => "Resume Commands"
  | .action => "Actions"
  | .system => "System"
  | .other => "Other"

def tag : Category → String
  | .resume => "resume"
  | .action => "action"
  | .system => "system"
  | .other => "other"

end Category

/-- What a command asks of the terminal. -/
inductive Output where
  /-- An empty text still takes a row. -/
  | text (text : String)
  | silent
  | clear
  | openLink (url : String) (notice : String)
  | download (href : String) (fileName : String) (notice : String)
  deriving DecidableEq, Repr

inductive Action where
  /-- An overview of all commands, or the description of one. -/
  | help (labelWidth : Nat)
  | history
  | date
  /-- The same output every time. -/
  | give (output : Output)
  | page (page : Page) (ruleWidth : Nat)
  /-- Whatever the arguments lead to. -/
  | answer (reply : List String → Except Failure Output)

structure Command where
  name : String
  description : String
  usage : String
  category : Category := .other
  action : Action

end ResumeTerminal
