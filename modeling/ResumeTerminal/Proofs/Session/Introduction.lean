import ResumeTerminal.Proofs.Profile.Persona
import ResumeTerminal.Proofs.Session.Overview

/-! What `whoami` shows of a profile. -/
namespace ResumeTerminal.Session
open Profile

theorem WellFormed.dispatch_whoami {session : Session} (h : session.WellFormed)
    (args : List String) :
    session.dispatch "whoami" args = printed (whoAmI session.profile) := by
  obtain ⟨whoami, hmem, hname, haction⟩ :=
    Command.exists_mem_all_whoami session.profile session.config
  have hlower : "whoami" = Text.lower "whoami" := by decide
  have hlookup := h.lookup_eq_some_iff.mpr ⟨hmem, hname.trans hlower⟩
  simp only [dispatch, hlookup, answer, haction, Environment.run, shown]

theorem printed_presentation {profile : Profile}
    (h : ∀ line ∈ profile.presentation, Text.IsRow line) :
    printed ("\n".intercalate profile.presentation) = profile.presentation.map .line := by
  have hlast : profile.presentation.getLast? ≠ some "" := by
    intro hempty
    exact absurd (isVisible_of_mem_presentation (List.mem_of_getLast? hempty)) (by decide)
  rw [printed, Text.printedRows_intercalate profile.presentation_ne_nil h hlast]

theorem whoami_shows_presentation (config : Config) (initial : Option Profile) (now : Timestamp)
    (operations : List Operation) {profile : Profile}
    (h : ((start config initial now).after operations).profile = some profile)
    (args : List String) :
    let calls := ((start config initial now).after operations).dispatch "whoami" args
    (¬ profile.IdentityHidesOlder → calls = printed ("\n".intercalate profile.presentation) ∧
      ((∀ line ∈ profile.presentation, Text.IsRow line) →
        calls = profile.presentation.map .line)) ∧
    (profile.IdentityHidesOlder → calls = [.line anonymous]) := by
  intro calls
  have hwell := wellFormed_after_start config initial now operations
  have hcalls : calls = printed (whoAmI (some profile)) := by
    rw [← h]
    exact hwell.dispatch_whoami args
  constructor
  · intro hnot
    have hprinted : calls = printed ("\n".intercalate profile.presentation) := by
      rw [hcalls, whoAmI_eq_presentation hnot]
    exact ⟨hprinted, fun hrows => hprinted.trans (printed_presentation hrows)⟩
  · intro hidden
    rw [hcalls, whoAmI_of_hidden hidden]
    decide

/-- A blank headline is left out, and the older name and title do not come up. -/
def named : Profile where
  identity := some { name := some "Ada Lovelace", headline := some " " }
  name := some "Charles"
  title := some "Engineer"

theorem whoami_shows_current_name :
    ((start {} none ⟨0, 0, 0⟩).after [.load named]).profile = some named ∧
      ((start {} none ⟨0, 0, 0⟩).after [.load named]).dispatch "whoami" [] =
        [.line "Ada Lovelace"] := by
  have hnot : ¬ named.IdentityHidesOlder := by
    rintro ⟨-, hsilent, -⟩
    exact absurd hsilent (by decide)
  have hshown := whoami_shows_presentation {} none ⟨0, 0, 0⟩ [.load named] rfl []
  exact ⟨rfl, (hshown.1 hnot).2 (by decide)⟩

/-- An identity that says something else. -/
def handled : Profile where
  identity := some { handle := some "ada" }
  name := some "Ada Lovelace"
  title := some "Analyst"

theorem whoami_is_anonymous_beside_handle :
    ((start {} (some handled) ⟨0, 0, 0⟩).submit "whoami").2 =
        [.line "ada@portfolio $ whoami", .line "hacker@cyberdesk", .setInput ""] ∧
      handled.presentation = ["Ada Lovelace", "Analyst"] := by
  decide

end ResumeTerminal.Session
