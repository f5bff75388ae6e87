import ResumeTerminal.Text.Basic

/-! Settings of the terminal. Every one has a default; two of them must make sense
before they are used. -/
namespace ResumeTerminal

structure Config where
  profilePath : String := "resume.json"
  /-- A prompt that goes before any that the profile gives. -/
  prompt : Option String := none
  resumePdf : String := "/resume.pdf"
  resumeFileName : String := "resume.pdf"
  /-- Width of the rule under a page's title. -/
  ruleWidth : Nat := 50
  /-- Width of the column of names in the overview of commands. -/
  labelWidth : Nat := 15
  showSuggestions : Bool := true
  deriving DecidableEq, Repr

namespace Config

inductive Defect where
  | labelWidthZero
  | fileNameBlank
  deriving DecidableEq, Repr

def Defect.message : Defect → String
  | .labelWidthZero => "label_width must be at least 1"
  | .fileNameBlank => "resume_file_name must not be empty"

/-- The first defect, if there is any. -/
def defect? (config : Config) : Option Defect :=
  if config.labelWidth = 0 then some .labelWidthZero
  else if Text.isBlank config.resumeFileName then some .fileNameBlank
  else none

end Config
end ResumeTerminal
