import ResumeTerminal.Profile.Persona
import ResumeTerminal.Proofs.Text.LowerCase
import ResumeTerminal.Proofs.Text.Rows

/-! What a prompt is made of. Some prompts repeat a text of the settings or of the profile as it
is written; those made up from a name are words. -/
namespace ResumeTerminal.Profile

theorem isWord_userName (name : String) : Text.IsWord (userName name) := by
  intro c hc
  rw [userName, Text.lowerEach, String.toList_ofList, String.toList_ofList] at hc
  obtain ⟨d, hd, hlower⟩ := List.mem_flatMap.mp hc
  apply Text.isBlankChar_of_mem_lowerChar _ hlower
  simpa using (List.mem_filter.mp hd).2

/-- The text that a prompt repeats: the given prompt, the profile's own, or the handle. -/
def quotedPrompt (profile : Option Profile) (given : Option String) : Option String :=
  given.filter Text.isVisible <|> profile.bind fun profile =>
    profile.ownPrompt <|> (profile.identity.bind (·.handle)).filter Text.isVisible

theorem line_feed_mem_portfolioPrompt (user : String) :
    '\n' ∈ (portfolioPrompt user).toList ↔ '\n' ∈ user.toList := by
  rw [portfolioPrompt, String.toList_append, List.mem_append]
  apply or_iff_left
  decide

theorem line_feed_not_mem_namePrompt (profile : Profile) :
    ∀ prompt ∈ profile.namePrompt, '\n' ∉ prompt.toList := by
  intro prompt hprompt
  obtain ⟨user, huser, rfl⟩ := Option.map_eq_some_iff.mp hprompt
  obtain ⟨name, -, rfl⟩ := Option.map_eq_some_iff.mp (Option.filter_eq_some_iff.mp huser).1
  rw [line_feed_mem_portfolioPrompt]
  exact (isWord_userName name).not_mem_line_feed

theorem line_feed_mem_promptFor_iff (profile : Option Profile) (given : Option String) :
    '\n' ∈ (promptFor profile given).toList ↔
      ∃ text ∈ quotedPrompt profile given, '\n' ∈ text.toList := by
  have hanonymous : '\n' ∉ anonymousPrompt.toList := by decide
  unfold promptFor quotedPrompt
  cases given.filter Text.isVisible with
  | some literal => simp
  | none =>
    cases profile with
    | none => simp [hanonymous]
    | some profile =>
      simp only [Option.bind_some, handlePrompt]
      cases profile.ownPrompt with
      | some prompt => simp
      | none =>
        cases (profile.identity.bind (·.handle)).filter Text.isVisible with
        | some handle => simp [line_feed_mem_portfolioPrompt]
        | none =>
          cases hname : profile.namePrompt with
          | none => simp [hanonymous]
          | some prompt => simp [line_feed_not_mem_namePrompt profile prompt hname]

end ResumeTerminal.Profile
