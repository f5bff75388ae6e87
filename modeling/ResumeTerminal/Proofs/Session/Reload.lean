import ResumeTerminal.Proofs.Session.Run

/-! Exchanging the profile. Commands, aliases and prompt always belong to the profile that
was loaded last, so a session behaves as if it had started with that profile. -/
namespace ResumeTerminal

def Operation.loaded? : Operation → Option Profile
  | .load profile => some profile
  | .handle _ | .tick _ => none

/-- The profile that counts once the operations are done. -/
def latestProfile (profile : Option Profile) (operations : List Operation) : Option Profile :=
  ((operations.filterMap Operation.loaded?).getLast?).or profile

theorem latestProfile_cons (profile : Option Profile) (operation : Operation)
    (rest : List Operation) :
    latestProfile profile (operation :: rest) =
      latestProfile (operation.loaded?.or profile) rest := by
  unfold latestProfile
  cases h : operation.loaded? with
  | none => rw [List.filterMap_cons_none h, Option.none_or]
  | some loaded =>
    rw [List.filterMap_cons_some h, List.getLast?_cons, Option.some_or, Option.some_or]
    cases (rest.filterMap Operation.loaded?).getLast? <;> rfl

namespace Session

theorem profile_perform (session : Session) (operation : Operation) :
    (session.perform operation).1.profile = operation.loaded?.or session.profile := by
  cases operation with
  | handle event =>
    rw [perform, handle_eq]
    rfl
  | load profile => rfl
  | tick now => rfl

theorem profile_after (session : Session) (operations : List Operation) :
    (session.after operations).profile = latestProfile session.profile operations := by
  induction operations generalizing session with
  | nil => rfl
  | cons operation rest ih => rw [after, ih, profile_perform, latestProfile_cons]

/-- A reload leaves no trace of what was loaded before. -/
theorem load_eq_start {session : Session} (h : session.WellFormed) (profile : Profile) :
    (session.load profile).1 =
      { start session.config (some profile) session.now with history := session.history } := by
  apply (h.load profile).ext
  · exact ⟨rfl, h.cursor_le⟩
  all_goals rfl

theorem load_replaces_setup (config : Config) (profile : Option Profile) (now : Timestamp)
    (earlier : List Operation) :
    let session := (start config profile now).after earlier
    session.config = config ∧ session.profile = latestProfile profile earlier ∧
    session.setup = .of session.profile session.config ∧
    ∀ (next : Profile) (later : List Operation),
      (session.load next).1.trace later =
        ({ start config (some next) session.now with
          history := session.history } : Session).trace later := by
  intro session
  have hwell : session.WellFormed := wellFormed_after_start config profile now earlier
  have hconfig : session.config = config := config_after _ _
  refine ⟨hconfig, profile_after _ _, hwell.setup_eq, ?_⟩
  intro next later
  rw [load_eq_start hwell, hconfig]

end Session
end ResumeTerminal
