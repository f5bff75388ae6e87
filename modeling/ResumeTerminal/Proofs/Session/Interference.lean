import ResumeTerminal.Proofs.Session.Run

/-! What the clock and the history leave alone. Of all commands only `date` reads the clock and
only `history` reads the history, so sessions that differ in nothing else show the same in reply
to everything else, and go on to differ in nothing else. -/
namespace ResumeTerminal

theorem Environment.run_congr {a b : Environment} {action : Action}
    (hregistry : a.registry = b.registry) (haliases : a.aliases = b.aliases)
    (hhistory : action = .history → a.history = b.history)
    (hnow : action = .date → a.now = b.now) (args : List String) :
    a.run action args = b.run action args := by
  cases action with
  | help labelWidth =>
    cases args with
    | nil => simp only [run, overviewRows, hregistry, haliases]
    | cons name rest => simp only [run, describe, hregistry, haliases]
  | history => simp only [run, historyText, historyRows, hhistory rfl]
  | date => simp only [run, hnow rfl]
  | give output => rfl
  | page page ruleWidth => rfl
  | answer reply => rfl

/-- Whether an operation submits a line that leads to the command of this name. -/
def Operation.Runs (operation : Operation) (session : Session) (name : String) : Prop :=
  ∃ line, operation = .handle (.submit line) ∧ Text.lower (session.invocation line).1 = name

theorem Operation.runs_submit_iff {line : String} {session : Session} {name : String} :
    (handle (.submit line)).Runs session name ↔
      Text.lower (session.invocation line).1 = name := by
  constructor
  · rintro ⟨_, ⟨⟩, hname⟩
    exact hname
  · intro hname
    exact ⟨line, rfl, hname⟩

/-- The same operation, while the clocks may say different things. -/
inductive Operation.SameButClock : Operation → Operation → Prop
  | handle (event : Event) : SameButClock (.handle event) (.handle event)
  | load (profile : Profile) : SameButClock (.load profile) (.load profile)
  | tick (first second : Timestamp) : SameButClock (.tick first) (.tick second)

namespace Session

structure SameButClock (a b : Session) : Prop where
  config_eq : a.config = b.config
  profile_eq : a.profile = b.profile
  setup_eq : a.setup = b.setup
  history_eq : a.history = b.history

structure SameButHistory (a b : Session) : Prop where
  config_eq : a.config = b.config
  profile_eq : a.profile = b.profile
  setup_eq : a.setup = b.setup
  now_eq : a.now = b.now

/-- In a catalog the actions that look at history and clock go by these names. -/
theorem WellFormed.lower_eq_of_lookup {session : Session} (h : session.WellFormed)
    {name : String} {command : Command}
    (hlookup : session.setup.registry.lookup name = some command) :
    (command.action = .history → Text.lower name = "history") ∧
      (command.action = .date → Text.lower name = "date") := by
  obtain ⟨hmem, hname⟩ := h.lookup_eq_some_iff.mp hlookup
  rw [← hname]
  rcases Command.mem_all_cases hmem with ⟨-, haction⟩ | ⟨heq, haction⟩ | ⟨heq, haction⟩ | hfixed
  · rw [haction]
    exact ⟨nofun, nofun⟩
  · rw [haction]
    exact ⟨fun _ => heq, nofun⟩
  · rw [haction]
    exact ⟨nofun, fun _ => heq⟩
  · constructor <;> intro haction <;> rw [haction] at hfixed <;> cases hfixed

/-- A reply depends on the setup, and on no more than its command looks at. -/
theorem WellFormed.response_congr {a b : Session} (h : a.WellFormed) (hsetup : a.setup = b.setup)
    {line : String}
    (hhistory : Text.lower (a.invocation line).1 = "history" →
      a.history.entries = b.history.entries)
    (hnow : Text.lower (a.invocation line).1 = "date" → a.now = b.now) :
    a.response line = b.response line := by
  have hinvocation : a.invocation line = b.invocation line := by
    rw [invocation, invocation, hsetup]
  cases hlookup : a.setup.registry.lookup (a.invocation line).1 with
  | none => simp only [response, ← hinvocation, ← hsetup, hlookup]
  | some command =>
    obtain ⟨hlooksBack, hlooksUp⟩ := h.lower_eq_of_lookup hlookup
    have hrun : a.environment.run command.action (a.invocation line).2 =
        b.environment.run command.action (a.invocation line).2 := by
      apply Environment.run_congr
      · exact congrArg Setup.registry hsetup
      · exact congrArg Setup.aliases hsetup
      · exact fun haction => hhistory (hlooksBack haction)
      · exact fun haction => hnow (hlooksUp haction)
    simp only [response, ← hinvocation, ← hsetup, hlookup, hrun]

theorem WellFormed.submit_congr {a b : Session} (h : a.WellFormed) (hsetup : a.setup = b.setup)
    {line : String}
    (hhistory : Text.lower (a.invocation line).1 = "history" →
      a.history.entries = b.history.entries)
    (hnow : Text.lower (a.invocation line).1 = "date" → a.now = b.now) :
    (a.submit line).2 = (b.submit line).2 := by
  cases hblank : Text.isBlank line with
  | true => rw [submit_of_isBlank a hblank, submit_of_isBlank b hblank]
  | false =>
    rw [submit_of_visible a hblank, submit_of_visible b hblank,
      h.response_congr hsetup hhistory hnow, prompt, prompt, hsetup]

/-! Clocks. -/

theorem history_handle_congr {a b : Session} (h : a.history = b.history) (event : Event) :
    (a.handle event).1.history = (b.handle event).1.history := by
  cases event with
  | submit line =>
    cases hblank : Text.isBlank line with
    | true => rw [handle, handle, submit_of_isBlank a hblank, submit_of_isBlank b hblank, h]
    | false => rw [handle, handle, submit_of_visible a hblank, submit_of_visible b hblank, h]
  | navigate direction => simp only [handle, navigate, h]
  | complete typed => exact h

theorem SameButClock.perform {a b : Session} (h : SameButClock a b) {first second : Operation}
    (hoperation : first.SameButClock second) :
    SameButClock (a.perform first).1 (b.perform second).1 := by
  cases hoperation with
  | handle event =>
    rw [Session.perform, Session.perform, handle_eq a, handle_eq b]
    exact ⟨h.config_eq, h.profile_eq, h.setup_eq, history_handle_congr h.history_eq event⟩
  | load profile =>
    exact ⟨h.config_eq, rfl, congrArg (Setup.of (some profile)) h.config_eq, h.history_eq⟩
  | tick first second => exact ⟨h.config_eq, h.profile_eq, h.setup_eq, h.history_eq⟩

theorem SameButClock.after {a b : Session} (h : SameButClock a b) {first second : List Operation}
    (hoperations : List.Forall₂ Operation.SameButClock first second) :
    SameButClock (a.after first) (b.after second) := by
  induction hoperations generalizing a b with
  | nil => exact h
  | cons hoperation _ ih => exact ih (h.perform hoperation)

theorem SameButClock.calls_eq {a b : Session} (h : SameButClock a b) (hwell : a.WellFormed)
    {first second : Operation} (hoperation : first.SameButClock second)
    (hdate : ¬ first.Runs a "date") : (a.perform first).2 = (b.perform second).2 := by
  cases hoperation with
  | handle event =>
    cases event with
    | submit line =>
      rw [Session.perform, Session.perform, handle, handle]
      apply hwell.submit_congr h.setup_eq
      · exact fun _ => congrArg History.entries h.history_eq
      · exact fun hname => absurd ⟨line, rfl, hname⟩ hdate
    | navigate direction => simp only [Session.perform, handle, navigate, h.history_eq]
    | complete typed => simp only [Session.perform, handle, complete, h.setup_eq]
  | load profile => simp only [Session.perform, load, h.config_eq]
  | tick first second => rfl

/-! Histories. -/

theorem SameButHistory.perform {a b : Session} (h : SameButHistory a b) (operation : Operation) :
    SameButHistory (a.perform operation).1 (b.perform operation).1 := by
  cases operation with
  | handle event =>
    rw [Session.perform, Session.perform, handle_eq a, handle_eq b]
    exact ⟨h.config_eq, h.profile_eq, h.setup_eq, h.now_eq⟩
  | load profile =>
    exact ⟨h.config_eq, rfl, congrArg (Setup.of (some profile)) h.config_eq, h.now_eq⟩
  | tick now => exact ⟨h.config_eq, h.profile_eq, h.setup_eq, rfl⟩

theorem SameButHistory.after {a b : Session} (h : SameButHistory a b)
    (operations : List Operation) : SameButHistory (a.after operations) (b.after operations) := by
  induction operations generalizing a b with
  | nil => exact h
  | cons operation rest ih => exact ih (h.perform operation)

theorem SameButHistory.calls_eq {a b : Session} (h : SameButHistory a b) (hwell : a.WellFormed)
    {operation : Operation}
    (hnavigate : ∀ direction, operation ≠ .handle (.navigate direction))
    (hhistory : ¬ operation.Runs a "history") :
    (a.perform operation).2 = (b.perform operation).2 := by
  cases operation with
  | handle event =>
    cases event with
    | submit line =>
      rw [Session.perform, Session.perform, handle, handle]
      apply hwell.submit_congr h.setup_eq
      · exact fun hname => absurd ⟨line, rfl, hname⟩ hhistory
      · exact fun _ => h.now_eq
    | navigate direction => exact absurd rfl (hnavigate direction)
    | complete typed => simp only [Session.perform, handle, complete, h.setup_eq]
  | load profile => simp only [Session.perform, load, h.config_eq]
  | tick now => rfl

/-- Twins that differ in their clocks, or in their histories, stay twins over every run, and all
that they show is the same but for the one command that looks there. -/
theorem calls_ignore_clock_and_history (config : Config) (profile : Option Profile)
    (now : Timestamp) (past : List Operation) :
    let session := (start config profile now).after past
    (∀ twin, SameButClock session twin →
      ∀ earlier earlier', List.Forall₂ Operation.SameButClock earlier earlier' →
        SameButClock (session.after earlier) (twin.after earlier') ∧
        ∀ next next', Operation.SameButClock next next' →
          ¬ next.Runs (session.after earlier) "date" →
            ((session.after earlier).perform next).2 =
              ((twin.after earlier').perform next').2) ∧
    ∀ twin, SameButHistory session twin → ∀ earlier,
      SameButHistory (session.after earlier) (twin.after earlier) ∧
      ∀ next, (∀ direction, next ≠ .handle (.navigate direction)) →
        ¬ next.Runs (session.after earlier) "history" →
          ((session.after earlier).perform next).2 = ((twin.after earlier).perform next).2 := by
  intro session
  have hwell : session.WellFormed := wellFormed_after_start config profile now past
  constructor
  · intro twin htwin earlier earlier' hearlier
    have hafter := htwin.after hearlier
    refine ⟨hafter, ?_⟩
    intro next next' hnext hdate
    exact hafter.calls_eq (hwell.after earlier) hnext hdate
  · intro twin htwin earlier
    have hafter := htwin.after earlier
    refine ⟨hafter, ?_⟩
    intro next hnavigate hhistory
    exact hafter.calls_eq (hwell.after earlier) hnavigate hhistory

/-- The clocks go on to differ while `whoami` shows the same, and the histories while `clear`
does. -/
theorem whoami_and_clear_ignore_clock_and_history :
    let session := start {} none ⟨0, 0, 0⟩
    let late : Session := { session with now := ⟨86400, 0, 60⟩ }
    let versed : Session := { session with history := (session.history.append "skills").1 }
    let whoami : Operation := .handle (.submit "whoami")
    let clear : Operation := .handle (.submit "clear")
    let earlier : List Operation := [.tick ⟨1, 0, 0⟩, .handle (.submit "date")]
    let earlier' : List Operation := [.tick ⟨2, 0, 0⟩, .handle (.submit "date")]
    SameButClock session late ∧ List.Forall₂ Operation.SameButClock earlier earlier' ∧
    ¬ whoami.Runs (session.after earlier) "date" ∧
    ((session.after earlier).perform whoami).2 = ((late.after earlier').perform whoami).2 ∧
    SameButHistory session versed ∧ ¬ clear.Runs (session.after earlier) "history" ∧
    ((session.after earlier).perform clear).2 = ((versed.after earlier).perform clear).2 := by
  intro session late versed whoami clear earlier earlier'
  obtain ⟨hclock, hhistory⟩ := calls_ignore_clock_and_history {} none ⟨0, 0, 0⟩ []
  have hlate : SameButClock session late := ⟨rfl, rfl, rfl, rfl⟩
  have hversed : SameButHistory session versed := ⟨rfl, rfl, rfl, rfl⟩
  have hearlier : List.Forall₂ Operation.SameButClock earlier earlier' :=
    .cons (.tick _ _) (.cons (.handle _) .nil)
  have hdate : ¬ whoami.Runs (session.after earlier) "date" :=
    Operation.runs_submit_iff.not.mpr (by decide)
  have hlook : ¬ clear.Runs (session.after earlier) "history" :=
    Operation.runs_submit_iff.not.mpr (by decide)
  have hnavigate : ∀ direction : Direction,
      Operation.handle (.submit "clear") ≠ .handle (.navigate direction) := nofun
  refine ⟨hlate, hearlier, hdate, ?_, hversed, hlook, ?_⟩
  · exact (hclock late hlate earlier earlier' hearlier).2 whoami whoami (.handle _) hdate
  · exact (hhistory versed hversed earlier).2 clear hnavigate hlook

end Session
end ResumeTerminal
