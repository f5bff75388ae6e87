import ResumeTerminal.Command.Registry
import ResumeTerminal.Config.Basic
import ResumeTerminal.Profile.Persona

/-! The commands that a profile gives rise to. A section that the profile does not have
has no command. -/
namespace ResumeTerminal.Command

/-- These are there even without a profile. -/
def system (profile : Option Profile) (config : Config) : List Command :=
  [⟨"help", "Show available commands", "help [command]", .system, .help config.labelWidth⟩,
   ⟨"clear", "Clear terminal screen", "clear", .system, .give .clear⟩,
   ⟨"history", "Show command history", "history", .system, .history⟩,
   ⟨"date", "Show current date and time", "date", .system, .date⟩,
   ⟨"whoami", "Display current user", "whoami", .system,
     .give (.text (Profile.whoAmI profile))⟩]

/-- A section that is there but empty. -/
def nonempty {α : Type} (items : Option (List α)) : Option (List α) :=
  items.filter (!·.isEmpty)

def resume (profile : Profile) (config : Config) : List Command :=
  let page (name description : String) (content : Option Page) : Option Command :=
    content.map fun content =>
      ⟨name, description, name, .resume, .page content config.ruleWidth⟩
  [page "intro" "About me" (profile.intro.map .intro),
   page "skills" "Technical skills" (profile.skills.map .skills),
   page "experience" "Work experience" (profile.experience.map .experience),
   page "education" "Education background" (profile.education.map .education),
   page "contact" "Contact information" (profile.contact.map .contact),
   page "projects" "View personal projects" ((nonempty profile.projects).map .projects),
   page "certs" "View certifications"
     ((nonempty profile.certifications).map .certificates)].filterMap id

def download (config : Config) : Output :=
  .download config.resumePdf config.resumeFileName
    ("Initiating download...\n" ++ config.resumeFileName ++ " downloaded successfully!")

def link (target missing url : String) : Output :=
  if Text.isBlank url then .text (missing ++ " URL not configured.")
  else .openLink (Text.trim url) ("Opening " ++ target ++ " in new tab...")

def links (contact : Contact) : List Command :=
  [⟨"linkedin", "Open LinkedIn profile", "linkedin", .action,
     .give (link "LinkedIn profile" "LinkedIn profile" contact.linkedin)⟩,
   ⟨"github", "Open GitHub profile", "github", .action,
     .give (link "GitHub profile" "GitHub profile" contact.github)⟩,
   ⟨"website", "Open personal website", "website", .action,
     .give (link "website" "Website" contact.website)⟩]

def actions (profile : Profile) (config : Config) : List Command :=
  ⟨"download", "Download resume PDF", "download", .action, .give (download config)⟩
    :: (profile.contact.map links).getD []

def all (profile : Option Profile) (config : Config) : List Command :=
  system profile config
    ++ (profile.map fun profile => resume profile config ++ actions profile config).getD []

end ResumeTerminal.Command
