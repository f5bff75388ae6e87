import ResumeTerminal.Proofs.Command.Catalog
import ResumeTerminal.Proofs.Command.Registry
import ResumeTerminal.Proofs.History
import ResumeTerminal.Proofs.Text.Trimming
import ResumeTerminal.Session

/-! What a single event does to a session. Events change the history alone; in a
well-formed session the commands are those of its own profile. -/
namespace ResumeTerminal

theorem Setup.registry_of (profile : Option Profile) (config : Config) :
    (Setup.of profile config).registry =
      Registry.registerAll {} (Command.all profile config) := by
  rw [Setup.of]

theorem Setup.nodup_names_of (profile : Option Profile) (config : Config) :
    (Setup.of profile config).registry.names.Nodup := by
  exact Registry.nodup_names _

namespace Session

@[simp] theorem invocation_trim (session : Session) (line : String) :
    session.invocation (Text.trim line) = session.invocation line := by
  rw [invocation, invocation, Text.words_trim]

theorem invocation_of_words {session : Session} {line name : String} {args : List String}
    (h : Text.words line = name :: args) :
    session.invocation line = session.setup.aliases.resolve name args := by
  rw [invocation, h]

@[simp] theorem response_trim (session : Session) (line : String) :
    session.response (Text.trim line) = session.response line := by
  rw [response, response, invocation_trim]

theorem submit_of_isBlank (session : Session) {line : String} (h : Text.isBlank line = true) :
    session.submit line = (session, [.setInput ""]) := by
  simp only [submit, Text.isEmpty_trim, h, if_true]

theorem submit_of_visible (session : Session) {line : String} (h : Text.isBlank line = false) :
    session.submit line =
      ({ session with
          history := ⟨session.history.entries ++ [Text.trim line], session.history.size + 1⟩ },
        .line (session.prompt ++ " " ++ Text.trim line) :: session.response line
          ++ [.setInput ""]) := by
  have htrim : Text.isBlank (Text.trim line) = false := by rw [Text.isBlank_trim, h]
  simp only [submit, Text.isEmpty_trim, h, response_trim, History.append_of_visible _ htrim]
  rfl

theorem handle_eq (session : Session) (event : Event) :
    (session.handle event).1 =
      { session with history := (session.handle event).1.history } := by
  cases event with
  | submit line =>
    cases h : Text.isBlank line with
    | true => rw [handle, submit_of_isBlank session h]
    | false => rw [handle, submit_of_visible session h]
  | navigate direction => rfl
  | complete typed => rfl

/-- What everything that happens to a session keeps up. -/
structure WellFormed (session : Session) : Prop where
  setup_eq : session.setup = .of session.profile session.config
  cursor_le : session.history.cursor ≤ session.history.size

theorem wellFormed_start (config : Config) (profile : Option Profile) (now : Timestamp) :
    (start config profile now).WellFormed :=
  ⟨rfl, Nat.le_refl 0⟩

theorem cursor_handle_le {session : Session} (h : session.WellFormed) (event : Event) :
    (session.handle event).1.history.cursor ≤ (session.handle event).1.history.size := by
  cases event with
  | submit line =>
    cases hline : Text.isBlank line with
    | true =>
      rw [handle, submit_of_isBlank session hline]
      exact h.cursor_le
    | false =>
      rw [handle, submit_of_visible session hline]
      simp [History.size]
  | navigate direction => exact History.cursor_navigate_le h.cursor_le direction
  | complete typed => exact h.cursor_le

theorem WellFormed.handle {session : Session} (h : session.WellFormed) (event : Event) :
    (session.handle event).1.WellFormed := by
  refine ⟨?_, cursor_handle_le h event⟩
  rw [handle_eq session event]
  exact h.setup_eq

/-- Sessions that are well formed differ in no more than these four. -/
theorem WellFormed.ext {a b : Session} (ha : a.WellFormed) (hb : b.WellFormed)
    (hconfig : a.config = b.config) (hprofile : a.profile = b.profile)
    (hhistory : a.history = b.history) (hnow : a.now = b.now) : a = b := by
  have hsetup : a.setup = b.setup := by
    rw [ha.setup_eq, hb.setup_eq, hconfig, hprofile]
  cases a
  cases b
  simp_all

/-! Commands of a well-formed session. -/

theorem WellFormed.registry_eq {session : Session} (h : session.WellFormed) :
    session.setup.registry =
      Registry.registerAll {} (Command.all session.profile session.config) := by
  rw [h.setup_eq, Setup.registry_of]

/-- The commands that can be found are those of the catalog, each under its name. -/
theorem WellFormed.lookup_eq_some_iff {session : Session} (h : session.WellFormed)
    {name : String} {command : Command} :
    session.setup.registry.lookup name = some command ↔
      command ∈ Command.all session.profile session.config ∧
        command.name = Text.lower name := by
  rw [h.registry_eq]
  exact Command.lookup_all_eq_some_iff

end Session
end ResumeTerminal
