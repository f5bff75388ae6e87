import ResumeTerminal.Proofs.Command.Numbering
import ResumeTerminal.Proofs.Session.Run

/-! What a session remembers: the visible lines that were submitted, trimmed, each once
and in order, whatever they led to and whichever profiles came and went. The `history` command
shows these lines, one to a row behind their numbers, and not the line that it runs for. -/
namespace ResumeTerminal

/-- What an operation adds to the history. -/
def Operation.recorded? : Operation → Option String
  | .handle (.submit line) => if Text.isBlank line then none else some (Text.trim line)
  | .handle _ | .load _ | .tick _ => none

def recorded (operations : List Operation) : List String :=
  operations.filterMap Operation.recorded?

theorem isVisible_of_mem_recorded {operations : List Operation} {line : String}
    (h : line ∈ recorded operations) : line ≠ "" ∧ Text.trim line = line := by
  obtain ⟨operation, -, hline⟩ := List.mem_filterMap.mp h
  unfold Operation.recorded? at hline
  split at hline
  · rename_i typed
    cases hblank : Text.isBlank typed with
    | true => simp [hblank] at hline
    | false =>
      simp only [hblank, Bool.false_eq_true, if_false, Option.some.injEq] at hline
      subst hline
      exact ⟨Text.trim_ne_empty hblank, Text.trim_trim typed⟩
  all_goals cases hline

theorem line_feed_not_mem_recorded {operations : List Operation}
    (hlines : ∀ line, .handle (.submit line) ∈ operations → '\n' ∉ line.toList) {line : String}
    (h : line ∈ recorded operations) : '\n' ∉ line.toList := by
  obtain ⟨operation, hmem, hline⟩ := List.mem_filterMap.mp h
  unfold Operation.recorded? at hline
  split at hline
  · rename_i typed
    split at hline
    · cases hline
    · cases hline
      exact fun hfeed => hlines typed hmem (Text.mem_of_mem_trim hfeed)
  all_goals cases hline

namespace Session
open Environment

theorem entries_perform (session : Session) (operation : Operation) :
    (session.perform operation).1.history.entries =
      session.history.entries ++ operation.recorded?.toList := by
  cases operation with
  | handle event =>
    cases event with
    | submit line =>
      cases h : Text.isBlank line with
      | true => simp [perform, handle, submit_of_isBlank session h, Operation.recorded?, h]
      | false =>
        simp [perform, handle, submit_of_visible session h, Operation.recorded?, h]
    | navigate direction => simp [perform, handle, navigate, Operation.recorded?]
    | complete typed => simp [perform, handle, Operation.recorded?]
  | load profile => simp [perform, load, Operation.recorded?]
  | tick now => simp [perform, Operation.recorded?]

theorem entries_after (session : Session) (operations : List Operation) :
    (session.after operations).history.entries =
      session.history.entries ++ recorded operations := by
  induction operations generalizing session with
  | nil => simp [after, recorded]
  | cons operation rest ih =>
    rw [after, ih, entries_perform, recorded, recorded, List.append_assoc]
    congr 1
    cases h : operation.recorded? with
    | none => rw [List.filterMap_cons_none h]; rfl
    | some line => rw [List.filterMap_cons_some h]; rfl

/-- A `history` command shows the history as it stands before its own line. -/
theorem response_history {session : Session} (h : session.WellFormed) {line : String}
    (hname : Text.lower (session.invocation line).1 = "history") :
    session.response line = printed session.environment.historyText := by
  obtain ⟨command, hmem, heq, haction⟩ :=
    Command.exists_mem_all_history session.profile session.config
  have hlookup := h.lookup_eq_some_iff.mpr ⟨hmem, heq.trans hname.symm⟩
  simp only [response, hlookup, haction, Environment.run, shown]

theorem submit_history_after (config : Config) (profile : Option Profile) (now : Timestamp)
    (operations : List Operation) {line : String} (hline : Text.isBlank line = false)
    (hname : Text.lower
      (((start config profile now).after operations).invocation line).1 = "history") :
    ∃ rows : List String,
      (((start config profile now).after operations).submit line).2 =
        .line (((start config profile now).after operations).prompt ++ " " ++ Text.trim line) ::
          rows.map .line ++ [.setInput ""] ∧
      Numbers rows (recorded operations) := by
  have hwell := wellFormed_after_start config profile now operations
  have hhistory : ((start config profile now).after operations).environment.history =
      recorded operations := entries_after _ _
  refine ⟨_, ?_, hhistory ▸ numbers_historyText ?_⟩
  · rw [submit_of_visible _ hline, response_history hwell hname, printed]
  · rw [hhistory]
    exact fun earlier hearlier => isVisible_of_mem_recorded hearlier

theorem history_records_submissions (config : Config) (profile : Option Profile)
    (now : Timestamp) (operations : List Operation) :
    let session := (start config profile now).after operations
    session.history.entries = recorded operations ∧
    (∀ entry ∈ session.history.entries, entry ≠ "" ∧ Text.trim entry = entry) ∧
    (∀ operation, (∀ line, operation = .handle (.submit line) → Text.isBlank line = true) →
      (session.perform operation).1.history.entries = session.history.entries) ∧
    ∀ line, Text.isBlank line = false →
      Text.lower (session.invocation line).1 = "history" →
        ∃ rows : List String,
          (session.submit line).2 =
            .line (session.prompt ++ " " ++ Text.trim line) :: rows.map .line
              ++ [.setInput ""] ∧
          Numbers rows (recorded operations) := by
  intro session
  have hentries : session.history.entries = recorded operations := entries_after _ _
  refine ⟨hentries, ?_, ?_, ?_⟩
  · intro entry hentry
    rw [hentries] at hentry
    exact isVisible_of_mem_recorded hentry
  · intro operation hblank
    have hnone : operation.recorded? = none := by
      cases operation with
      | handle event =>
        cases event with
        | submit line => rw [Operation.recorded?, hblank line rfl]; rfl
        | navigate direction => rfl
        | complete typed => rfl
      | load profile => rfl
      | tick now => rfl
    rw [entries_perform, hnone, Option.toList_none, List.append_nil]
  · intro line hline hname
    exact submit_history_after config profile now operations hline hname

/-- The line that asks for the history is recorded when it has been shown. -/
theorem history_shows_whoami_before_itself :
    let operations : List Operation := [.handle (.submit " whoami "), .handle (.submit " ")]
    let session := (start {} none ⟨0, 0, 0⟩).after operations
    Text.isBlank "history" = false ∧ Text.lower (session.invocation "history").1 = "history" ∧
    (session.submit "history").2 =
      [.line "hacker@cyberdesk $ history", .line "   1  whoami", .setInput ""] ∧
    (session.submit "history").1.history.entries = ["whoami", "history"] := by
  intro operations session
  have hvisible : Text.isBlank "history" = false := by decide
  have hname : Text.lower (session.invocation "history").1 = "history" := by decide
  obtain ⟨-, -, -, hshows⟩ := history_records_submissions {} none ⟨0, 0, 0⟩ operations
  obtain ⟨rows, hcalls, hnumbers⟩ := hshows "history" hvisible hname
  refine ⟨hvisible, hname, ?_, by decide⟩
  rw [hcalls, hnumbers.one_row_each (by decide) (by decide)]
  decide

/-- Whoever reads the rows of `history` learns the recorded lines, each under its number. -/
theorem history_shows_numbered_lines (config : Config) (profile : Option Profile)
    (now : Timestamp) (operations : List Operation)
    (hlines : ∀ line, .handle (.submit line) ∈ operations → '\n' ∉ line.toList)
    {line typed : String} {args : List String} (hwords : Text.words line = typed :: args)
    (hname : Text.lower
      (((start config profile now).after operations).setup.aliases.resolve typed args).1 =
        "history") :
    ∃ rows : List String,
      (((start config profile now).after operations).submit line).2 =
        .line (((start config profile now).after operations).prompt ++ " " ++ Text.trim line) ::
          rows.map .line ++ [.setInput ""] ∧
      (recorded operations = [] → rows = ["(no history)"]) ∧
      (recorded operations ≠ [] →
        rows = (recorded operations).mapIdx (fun index line => numberedRow (index + 1) line) ∧
        rows.map numbered? =
          (recorded operations).mapIdx fun index line => some (index + 1, line)) := by
  have hblank := Text.isBlank_of_words_eq_cons hwords
  have hinvoked : Text.lower
      (((start config profile now).after operations).invocation line).1 = "history" := by
    rw [invocation_of_words hwords]
    exact hname
  obtain ⟨rows, hcalls, hnumbers⟩ :=
    submit_history_after config profile now operations hblank hinvoked
  refine ⟨rows, hcalls, hnumbers.nothing, ?_⟩
  intro hsome
  have hfeed : ∀ earlier ∈ recorded operations, '\n' ∉ earlier.toList :=
    fun _ => line_feed_not_mem_recorded hlines
  exact ⟨hnumbers.one_row_each hsome hfeed, hnumbers.read_back hsome hfeed⟩

/-- Two lines are recorded, one of them a number after blanks, and an alias asks for them. -/
theorem history_shows_lines_through_alias :
    let profile : Profile := { terminal := some { aliases := .ofList [("h", "HISTORY")] } }
    let operations : List Operation := [.handle (.submit "  1  skills\t"),
      .handle (.submit " "), .handle (.navigate .older), .load profile, .handle (.submit "x")]
    (∀ line, .handle (.submit line) ∈ operations → '\n' ∉ line.toList) ∧
    Text.words "h" = ["h"] ∧
    (((start {} none ⟨0, 0, 0⟩).after operations).submit "h").2 =
      [.line "hacker@cyberdesk $ h", .line "   1  1  skills", .line "   2  x", .setInput ""] := by
  intro profile operations
  have hlines : ∀ line, .handle (.submit line) ∈ operations → '\n' ∉ line.toList := by
    intro line hline
    simp only [operations, List.mem_cons, List.not_mem_nil, Operation.handle.injEq,
      Event.submit.injEq, reduceCtorEq, false_or, or_false] at hline
    rcases hline with rfl | rfl | rfl <;> decide
  have hwords : Text.words "h" = ["h"] := by decide
  obtain ⟨rows, hcalls, -, hrows⟩ :=
    history_shows_numbered_lines {} none ⟨0, 0, 0⟩ operations hlines hwords (by decide)
  refine ⟨hlines, hwords, ?_⟩
  rw [hcalls, (hrows (by decide)).1]
  decide

end Session
end ResumeTerminal
