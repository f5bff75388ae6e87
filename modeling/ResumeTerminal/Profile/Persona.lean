import ResumeTerminal.Profile.Basic
import ResumeTerminal.Text.Lowercase

/-! Whom a profile is about, as the terminal says it: before the input line, and when
it is asked. -/
namespace ResumeTerminal.Profile

def anonymousPrompt : String := "hacker@cyberdesk $"

def anonymous : String := "hacker@cyberdesk"

/-- A display name squashed into a user name: `Ada Lovelace` becomes `adalovelace`. -/
def userName (name : String) : String :=
  Text.lowerEach (String.ofList (name.toList.filter (!Text.isBlankChar ·)))

def portfolioPrompt (user : String) : String := user ++ "@portfolio $"

def ownPrompt (profile : Profile) : Option String :=
  (profile.terminal.bind (·.prompt)).filter Text.isVisible

def handlePrompt (profile : Profile) : Option String :=
  ((profile.identity.bind (·.handle)).filter Text.isVisible).map portfolioPrompt

/-- The older top-level name counts only where the identity has none at all. -/
def namePrompt (profile : Profile) : Option String :=
  let name := profile.identity.bind (·.name) <|> profile.name
  ((name.map userName).filter (!·.isEmpty)).map portfolioPrompt

/-- A given prompt goes first, then the profile's own, then those made up from the
handle and from the name. -/
def promptFor (profile : Option Profile) (given : Option String) : String :=
  let derived := profile.bind fun profile =>
    profile.ownPrompt <|> profile.handlePrompt <|> profile.namePrompt
  (given.filter Text.isVisible <|> derived).getD anonymousPrompt

/-- Name and headline, one per row; the older ones only without an identity. -/
def introduction (profile : Profile) : List String :=
  let (name, headline) :=
    match profile.identity with
    | some identity => (identity.name, identity.headline)
    | none => (profile.name, profile.title)
  (name.filter Text.isVisible).toList ++ (headline.filter Text.isVisible).toList

def whoAmI (profile : Option Profile) : String :=
  match profile.map introduction with
  | some (row :: rows) => "\n".intercalate (row :: rows)
  | _ => anonymous

end ResumeTerminal.Profile
