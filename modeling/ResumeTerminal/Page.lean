import ResumeTerminal.Profile.Basic
import ResumeTerminal.Text.Basic

/-! The pages of a resume, one for each section of a profile. A page is made of rows,
and ends with the last visible one. -/
namespace ResumeTerminal

inductive Page where
  | intro (intro : Intro)
  | skills (skills : OrderedMap (List String))
  | experience (jobs : List Job)
  | education (schooling : List Schooling)
  | contact (contact : Contact)
  | projects (projects : List Project)
  | certificates (certificates : List Certificate)

namespace Page

/-- Rows as one text, without the blank rest at its end. -/
def layout (rows : List String) : String :=
  Text.trimEnd (String.join (rows.map (· ++ "\n")))

def rule (width : Nat) : String := String.ofList (List.replicate width '=')

def heading (title : String) (width : Nat) : List String := [title, rule width, ""]

def bullet (item : String) : String := "  • " ++ item

def visible (text : Option String) : Option String := text.filter Text.isVisible

/-- An addition that is only made for a visible text. -/
def suffix (text : Option String) (shown : String → String) : String :=
  ((visible text).map shown).getD ""

def introRows : Intro → List String
  | .lines lines => lines
  | .block _ lines values =>
    lines ++ if values.isEmpty then [] else "" :: "Core values:" :: values.map bullet

def skillRows (entry : String × List String) : List String :=
  (entry.1 ++ ":") :: entry.2.map bullet ++ [""]

def spanText (dates : DateSpan) : String :=
  let start := (dates.start.map Scalar.display).getD ""
  let finish := (visible (dates.finish.map Scalar.display)).getD "Present"
  start ++ " - " ++ finish

/-- The location stands behind the time, and is left out without it. -/
def jobRows (job : Job) : List String :=
  let time := (job.dates.map spanText) <|> job.period
  [job.company ++ suffix job.heading (" - " ++ ·)]
    ++ (time.map (· ++ suffix job.location (" | " ++ ·))).toList
    ++ ((visible job.employmentType).map fun kind => "(" ++ Text.trim kind ++ ")").toList
    ++ "" :: job.points.map bullet ++ [""]

def schoolingRows (schooling : Schooling) : List String :=
  let time :=
    match schooling.graduationYear with
    | some year => "Graduated: " ++ year.display
    | none => schooling.period.getD ""
  [schooling.place, schooling.degree, time ++ suffix schooling.location (" | " ++ ·), ""]
    ++ if schooling.highlights.isEmpty then [] else schooling.highlights.map bullet ++ [""]

def contactRows (contact : Contact) : List String :=
  [("Email:", contact.email), ("Phone:", contact.phone), ("Location:", contact.location),
    ("Website:", contact.website), ("LinkedIn:", contact.linkedin), ("GitHub:", contact.github)]
    |>.map fun (label, value) => Text.padRight 9 label ++ " " ++ value

def linkRow (link : ProjectLink) : Option String :=
  (visible link.url).map fun url => link.label ++ ": " ++ url

/-- The older single link counts only where there is no list of links. -/
def projectRows (project : Project) : List String :=
  let links :=
    if project.links.isEmpty then ((visible project.link).map ("Link: " ++ ·)).toList
    else project.links.filterMap linkRow
  [project.name, project.about.getD "", ""]
    ++ (if project.tools.isEmpty then [] else ["Tech: " ++ ", ".intercalate project.tools])
    ++ links ++ [""]

def certificateRow (certificate : Certificate) : String :=
  "• " ++ certificate.name ++ suffix certificate.issuer (fun issuer => " (" ++ issuer ++ ")")
    ++ ((certificate.year.map fun year => " - " ++ year.display).getD "")

def rows (page : Page) (ruleWidth : Nat) : List String :=
  match page with
  | .intro content => introRows content
  | .skills table => heading "TECHNICAL SKILLS" ruleWidth ++ table.entries.flatMap skillRows
  | .experience jobs => heading "WORK EXPERIENCE" ruleWidth ++ jobs.flatMap jobRows
  | .education schooling => heading "EDUCATION" ruleWidth ++ schooling.flatMap schoolingRows
  | .contact details => heading "CONTACT INFORMATION" ruleWidth ++ contactRows details
  | .projects list => heading "PROJECTS" ruleWidth ++ list.flatMap projectRows
  | .certificates list => heading "CERTIFICATIONS" ruleWidth ++ list.map certificateRow

def text (page : Page) (ruleWidth : Nat) : String := layout (page.rows ruleWidth)

end Page
end ResumeTerminal
