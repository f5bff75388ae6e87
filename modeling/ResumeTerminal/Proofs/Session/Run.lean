import ResumeTerminal.Proofs.Session.Event

/-! Runs of a session: events and new profiles in any order, while the clock goes on.
No step reads the clock twice, so setting it between steps stands for every clock. -/
namespace ResumeTerminal

inductive Operation where
  | handle (event : Event)
  | load (profile : Profile)
  | tick (now : Timestamp)

namespace Session

def perform (session : Session) : Operation → Session × List Call
  | .handle event => session.handle event
  | .load profile => session.load profile
  | .tick now => ({ session with now }, [])

def after (session : Session) : List Operation → Session
  | [] => session
  | operation :: rest => (session.perform operation).1.after rest

/-- The calls of a run, step by step. -/
def trace (session : Session) : List Operation → List (List Call)
  | [] => []
  | operation :: rest =>
    (session.perform operation).2 :: (session.perform operation).1.trace rest

theorem config_perform (session : Session) (operation : Operation) :
    (session.perform operation).1.config = session.config := by
  cases operation with
  | handle event => rw [perform, handle_eq]
  | load profile => rfl
  | tick now => rfl

theorem config_after (session : Session) (operations : List Operation) :
    (session.after operations).config = session.config := by
  induction operations generalizing session with
  | nil => rfl
  | cons operation rest ih => rw [after, ih, config_perform]

theorem WellFormed.load {session : Session} (h : session.WellFormed) (profile : Profile) :
    (session.load profile).1.WellFormed :=
  ⟨rfl, h.cursor_le⟩

theorem WellFormed.tick {session : Session} (h : session.WellFormed) (now : Timestamp) :
    ({ session with now } : Session).WellFormed :=
  ⟨h.setup_eq, h.cursor_le⟩

theorem WellFormed.perform {session : Session} (h : session.WellFormed)
    (operation : Operation) : (session.perform operation).1.WellFormed := by
  cases operation with
  | handle event => exact h.handle event
  | load profile => exact h.load profile
  | tick now => exact h.tick now

theorem WellFormed.after {session : Session} (h : session.WellFormed)
    (operations : List Operation) : (session.after operations).WellFormed := by
  induction operations generalizing session with
  | nil => exact h
  | cons operation rest ih => exact ih (h.perform operation)

theorem wellFormed_after_start (config : Config) (profile : Option Profile) (now : Timestamp)
    (operations : List Operation) : ((start config profile now).after operations).WellFormed :=
  (wellFormed_start config profile now).after operations

end Session
end ResumeTerminal
