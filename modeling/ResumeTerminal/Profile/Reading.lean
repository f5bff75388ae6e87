import ResumeTerminal.Failure
import ResumeTerminal.Json.Shape.Reading
import ResumeTerminal.Profile.Basic

/-! Profiles from texts and files: the form of a profile as JSON, and how it is read. -/
namespace ResumeTerminal
open Json

namespace Profile

def texts : Shape (List String) := .list .text

def scalarShape : Shape Scalar :=
  .choice "TextOrNumber" <|
    .option .text .text <|
    .option .integer .integer <|
    .option .float .float <| .done

def identityShape : Shape Identity :=
  .record "Identity" false
    (.optional "name" .text <|
      .optional "handle" .text <|
      .optional "headline" .text <|
      .optional "location" .text <| .done)
    fun (name, handle, headline, location, ()) => { name, handle, headline, location }

def contactShape : Shape Contact :=
  .record "Contact" false
    (.withDefault "email" .text "" <|
      .withDefault "phone" .text "" <|
      .withDefault "location" .text "" <|
      .withDefault "website" .text "" <|
      .withDefault "linkedin" .text "" <|
      .withDefault "github" .text "" <| .done)
    fun (email, phone, location, website, linkedin, github, ()) =>
      { email, phone, location, website, linkedin, github }

def terminalShape : Shape TerminalSettings :=
  .record "TerminalSection" false
    (.optional "prompt" .text <|
      .withDefault "suggestedCommands" texts [] <|
      .withDefault "aliases" (.map .text) {} <| .done)
    fun (prompt, suggestedCommands, aliases, ()) => { prompt, suggestedCommands, aliases }

def introBlockShape : Shape Intro :=
  .record "IntroBlock" false
    (.optional "short" .text <|
      .withDefault "lines" texts [] <|
      .withDefault "values" texts [] <| .done)
    fun (short, lines, values, ()) => .block short lines values

def introShape : Shape Intro :=
  .choice "Intro" <| .option texts .lines <| .option introBlockShape id <| .done

def dateSpanShape : Shape DateSpan :=
  .record "DateRange" false
    (.optional "start" scalarShape <| .optional "end" scalarShape <| .done)
    fun (start, finish, ()) => { start, finish }

def jobShape : Shape Job :=
  .record "Experience" false
    (.withDefault "company" .text "" <|
      .optional "title" .text <|
      .optional "position" .text <|
      .optional "location" .text <|
      .optional "dates" dateSpanShape <|
      .optional "period" .text <|
      .optional "employmentType" .text <|
      .optional "highlights" texts <|
      .optional "description" texts <| .done)
    fun (company, title, position, location, dates, period, employmentType, highlights,
        description, ()) =>
      { company, title, position, location, dates, period, employmentType, highlights,
        description }

def schoolingShape : Shape Schooling :=
  .record "Education" false
    (.optional "school" .text <|
      .optional "institution" .text <|
      .withDefault "degree" .text "" <|
      .optional "location" .text <|
      .optional "graduationYear" scalarShape <|
      .optional "period" .text <|
      .withDefault "highlights" texts [] <| .done)
    fun (school, institution, degree, location, graduationYear, period, highlights, ()) =>
      { school, institution, degree, location, graduationYear, period, highlights }

def projectLinkShape : Shape ProjectLink :=
  .record "ProjectLink" false
    (.withDefault "label" .text "" <| .optional "url" .text <| .done)
    fun (label, url, ()) => { label, url }

def projectShape : Shape Project :=
  .record "Project" false
    (.withDefault "name" .text "" <|
      .optional "summary" .text <|
      .optional "description" .text <|
      .optional "stack" texts <|
      .optional "tech" texts <|
      .withDefault "links" (.list projectLinkShape) [] <|
      .optional "link" .text <| .done)
    fun (name, summary, description, stack, tech, links, link, ()) =>
      { name, summary, description, stack, tech, links, link }

def certificateShape : Shape Certificate :=
  .record "Certification" false
    (.withDefault "name" .text "" <|
      .optional "issuer" .text <|
      .optional "year" scalarShape <| .done)
    fun (name, issuer, year, ()) => { name, issuer, year }

/-- Written as a list, a profile names every section. -/
def shape : Shape Profile :=
  .record "Profile" true
    (.optional "identity" identityShape <|
      .optional "name" .text <|
      .optional "title" .text <|
      .optional "contact" contactShape <|
      .optional "terminal" terminalShape <|
      .optional "intro" introShape <|
      .optional "skills" (.map texts) <|
      .optional "experience" (.list jobShape) <|
      .optional "education" (.list schoolingShape) <|
      .optional "projects" (.list projectShape) <|
      .optional "certifications" (.list certificateShape) <| .done)
    fun (identity, name, title, contact, terminal, intro, skills, experience, education,
        projects, certifications, ()) =>
      { identity, name, title, contact, terminal, intro, skills, experience, education,
        projects, certifications }

def ofText (text : String) : Except Failure Profile :=
  match shape.ofText text with
  | .ok profile => .ok profile
  | .error e => .error (.json e)

def ofFile (path : String) (file : FileContent) : Except Failure Profile :=
  match file.text with
  | .ok content => ofText content
  | .error problem => .error (.profileFile path problem)

end Profile
end ResumeTerminal
