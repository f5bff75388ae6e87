import ResumeTerminal.Decimal.Double
import ResumeTerminal.OrderedMap
import ResumeTerminal.Text.Basic

/-! A profile: who someone is, and the sections of their resume. Every section may be
missing. Some details have an older name, which is looked at when the current one is
empty or absent. -/
namespace ResumeTerminal

/-- A year or a date, written as a text or as a number. -/
inductive Scalar where
  | text (value : String)
  | integer (value : Int)
  | float (value : Float)

def Scalar.display : Scalar → String
  | .text value => value
  | .integer value => toString value
  | .float value => Decimal.Style.plain.text value

structure Identity where
  name : Option String := none
  handle : Option String := none
  headline : Option String := none
  location : Option String := none

structure Contact where
  email : String := ""
  phone : String := ""
  location : String := ""
  website : String := ""
  linkedin : String := ""
  github : String := ""

structure TerminalSettings where
  prompt : Option String := none
  suggestedCommands : List String := []
  aliases : OrderedMap String := {}

/-- A bare list of lines, or lines with values one stands for. -/
inductive Intro where
  | lines (lines : List String)
  | block (short : Option String) (lines : List String) (values : List String)

structure DateSpan where
  start : Option Scalar := none
  finish : Option Scalar := none

/-- The texts of older records are `position`, `period` and `description`. -/
structure Job where
  company : String := ""
  title : Option String := none
  position : Option String := none
  location : Option String := none
  dates : Option DateSpan := none
  period : Option String := none
  employmentType : Option String := none
  highlights : Option (List String) := none
  description : Option (List String) := none

structure Schooling where
  school : Option String := none
  institution : Option String := none
  degree : String := ""
  location : Option String := none
  graduationYear : Option Scalar := none
  period : Option String := none
  highlights : List String := []

structure ProjectLink where
  label : String := ""
  url : Option String := none

structure Project where
  name : String := ""
  summary : Option String := none
  description : Option String := none
  stack : Option (List String) := none
  tech : Option (List String) := none
  links : List ProjectLink := []
  link : Option String := none

structure Certificate where
  name : String := ""
  issuer : Option String := none
  year : Option Scalar := none

structure Profile where
  identity : Option Identity := none
  name : Option String := none
  title : Option String := none
  contact : Option Contact := none
  terminal : Option TerminalSettings := none
  intro : Option Intro := none
  skills : Option (OrderedMap (List String)) := none
  experience : Option (List Job) := none
  education : Option (List Schooling) := none
  projects : Option (List Project) := none
  certifications : Option (List Certificate) := none

/-- The first of two texts that is there and not empty. -/
def firstFilled (current older : Option String) : Option String :=
  current.filter (!·.isEmpty) <|> older.filter (!·.isEmpty)

def Job.heading (job : Job) : Option String := firstFilled job.title job.position

def Job.points (job : Job) : List String := (job.highlights <|> job.description).getD []

def Schooling.place (schooling : Schooling) : String :=
  (firstFilled schooling.school schooling.institution).getD ""

def Project.about (project : Project) : Option String :=
  firstFilled project.summary project.description

def Project.tools (project : Project) : List String := (project.stack <|> project.tech).getD []

namespace Profile

def aliases (profile : Profile) : List (String × String) :=
  (profile.terminal.map (·.aliases.entries)).getD []

def suggestedCommands (profile : Profile) : List String :=
  (profile.terminal.map (·.suggestedCommands)).getD []

/-- Stands in for a profile that cannot be read. -/
def fallback : Profile where
  identity := some
    { name := some "User"
      handle := some "user"
      headline := some "Developer"
      location := some "Earth" }
  contact := some { email := "contact@example.com", phone := "N/A", location := "Earth" }
  terminal := some { prompt := some "user@portfolio $", suggestedCommands := ["help"] }
  intro := some (.block (some "Resume data not found.") ["Resume data not found."] [])
  skills := some {}
  experience := some []
  education := some []
  projects := some []
  certifications := some []

end Profile
end ResumeTerminal
