import ResumeTerminal.Proofs.Command.Completion
import ResumeTerminal.Proofs.Profile.Prompt
import ResumeTerminal.Proofs.Session.Reload
import ResumeTerminal.Proofs.Session.Response

/-! Which lines take a single row. What commands say is cut at its line feeds, and what is said
about names has none. The echo of a line and the suggestions of a profile are shown uncut, with
whatever line feeds the texts in them hold. -/
namespace ResumeTerminal

/-- Whether no line among the calls holds a line feed. -/
def Call.SingleRows (calls : List Call) : Prop :=
  ∀ text, Call.line text ∈ calls → '\n' ∉ text.toList

namespace Call.SingleRows

theorem append_iff {before after : List Call} :
    SingleRows (before ++ after) ↔ SingleRows before ∧ SingleRows after := by
  simp only [SingleRows, List.mem_append, or_imp, forall_and]

theorem line_iff {text : String} : SingleRows [.line text] ↔ '\n' ∉ text.toList := by
  simp [SingleRows]

theorem of_not_line {call : Call} (h : ∀ text, call ≠ .line text) : SingleRows [call] := by
  intro text hmem
  exact absurd (List.mem_singleton.mp hmem).symm (h text)

end Call.SingleRows

namespace Session
open Call

/-! What is cut into rows. -/

theorem singleRows_printed (text : String) : SingleRows (printed text) := by
  intro line hline
  obtain ⟨row, hrow, heq⟩ := List.mem_map.mp hline
  cases heq
  exact Text.not_mem_of_mem_printedRows hrow

theorem singleRows_shown (output : Output) : SingleRows (shown output) := by
  cases output with
  | text text => exact singleRows_printed text
  | silent => simp [SingleRows, shown]
  | clear => exact SingleRows.of_not_line (by simp)
  | openLink url notice =>
    rw [shown, ← List.singleton_append, SingleRows.append_iff]
    exact ⟨SingleRows.of_not_line (by simp), singleRows_printed notice⟩
  | download href fileName notice =>
    rw [shown, ← List.singleton_append, SingleRows.append_iff]
    exact ⟨SingleRows.of_not_line (by simp), singleRows_printed notice⟩

/-- The name of a command that is not found is a word. -/
theorem singleRows_response (session : Session) (line : String) :
    SingleRows (session.response line) := by
  unfold response
  dsimp only
  split
  · have hname : '\n' ∉ (session.invocation line).1.toList :=
      (isWord_of_mem_invocation _ List.mem_cons_self).not_mem_line_feed
    intro text htext
    simp only [List.mem_cons, Call.line.injEq, List.not_mem_nil, or_false] at htext
    rcases htext with rfl | rfl
    · rw [String.toList_append, List.mem_append, not_or]
      exact ⟨by decide, hname⟩
    · decide
  · split
    · exact singleRows_shown _
    · exact singleRows_printed _

theorem WellFormed.isWord_of_mem_names {session : Session} (h : session.WellFormed)
    {name : String} (hname : name ∈ session.setup.registry.names) : Text.IsWord name := by
  rw [h.registry_eq] at hname
  obtain ⟨entry, hentry, rfl⟩ := List.mem_map.mp hname
  obtain ⟨hmem, heq⟩ := Command.mem_all_of_mem_entries hentry
  rw [heq]
  exact (Command.isWord_name_of_mem_all hmem).1

theorem WellFormed.singleRows_complete {session : Session} (h : session.WellFormed)
    (typed : String) : SingleRows (session.complete typed) := by
  unfold complete
  split
  · simp [SingleRows]
  · exact SingleRows.of_not_line (by simp)
  · rename_i names hcomplete
    rw [SingleRows.line_iff, Text.mem_intercalate_iff (by decide)]
    rintro ⟨name, hname, hfeed⟩
    have hoffered : name ∈ (session.setup.registry.complete typed).names := by
      rwa [hcomplete]
    have hmem := (Registry.mem_names_complete_iff.mp hoffered).2.1
    exact (h.isWord_of_mem_names hmem).not_mem_line_feed hfeed

theorem singleRows_navigate (session : Session) (direction : Direction) :
    SingleRows (session.navigate direction).2 := by
  intro text htext
  simp [navigate] at htext

/-! What is shown uncut. -/

theorem singleRows_submit_iff {session : Session} {line : String}
    (h : Text.isBlank line = false) :
    SingleRows (session.submit line).2 ↔
      '\n' ∉ session.prompt.toList ∧ '\n' ∉ (Text.trim line).toList := by
  have hcalls : (session.submit line).2 =
      [.line (session.prompt ++ " " ++ Text.trim line)] ++ session.response line
        ++ [.setInput ""] := by
    rw [submit_of_visible session h]
    rfl
  have hfresh : SingleRows [.setInput ""] := SingleRows.of_not_line (by simp)
  rw [hcalls, SingleRows.append_iff, SingleRows.append_iff, SingleRows.line_iff]
  simp [hfresh, singleRows_response]

theorem singleRows_suggestions_iff (config : Config) (profile : Profile) :
    SingleRows (suggestions config profile) ↔
      (config.showSuggestions = true → ∀ name ∈ profile.suggestedCommands, '\n' ∉ name.toList) := by
  have hlabel : '\n' ∉ "Suggested commands: ".toList := by decide
  have hseparator : '\n' ∉ ", ".toList := by decide
  have hline : '\n' ∈ ("Suggested commands: " ++
      ", ".intercalate profile.suggestedCommands).toList ↔
        ∃ name ∈ profile.suggestedCommands, '\n' ∈ name.toList := by
    rw [String.toList_append, List.mem_append, or_iff_right hlabel,
      Text.mem_intercalate_iff hseparator]
  unfold suggestions
  cases config.showSuggestions with
  | false => simp [SingleRows]
  | true =>
    by_cases hempty : profile.suggestedCommands = []
    · simp [SingleRows, hempty]
    · have hshown : (true && !profile.suggestedCommands.isEmpty) = true := by simp [hempty]
      rw [if_pos hshown, ← List.singleton_append, SingleRows.append_iff, SingleRows.line_iff,
        SingleRows.line_iff, hline]
      simp

end Session

/-! Runs. -/

/-- The texts that an operation shows uncut. -/
def Operation.uncut (config : Config) (profile : Option Profile) : Operation → List String
  | .handle (.submit line) =>
    if Text.isBlank line then []
    else (Profile.quotedPrompt profile config.prompt).toList ++ [Text.trim line]
  | .load next => if config.showSuggestions then next.suggestedCommands else []
  | .handle _ | .tick _ => []

/-- The texts that a run shows uncut, each under the profile that counts at the time. -/
def uncut (config : Config) (profile : Option Profile) : List Operation → List String
  | [] => []
  | operation :: rest =>
    operation.uncut config profile ++ uncut config (operation.loaded?.or profile) rest

namespace Session
open Call

theorem WellFormed.prompt_eq {session : Session} (h : session.WellFormed) :
    session.prompt = Profile.promptFor session.profile session.config.prompt := by
  rw [prompt, h.setup_eq, Setup.of]

theorem WellFormed.singleRows_perform_iff {session : Session} (h : session.WellFormed)
    (operation : Operation) :
    SingleRows (session.perform operation).2 ↔
      ∀ text ∈ operation.uncut session.config session.profile, '\n' ∉ text.toList := by
  cases operation with
  | handle event =>
    cases event with
    | submit line =>
      rw [Session.perform, Session.handle, Operation.uncut]
      cases hblank : Text.isBlank line with
      | true =>
        have hfresh : SingleRows [.setInput ""] := SingleRows.of_not_line (by simp)
        simp [submit_of_isBlank session hblank, hfresh]
      | false =>
        have hprompt := Profile.line_feed_mem_promptFor_iff session.profile session.config.prompt
        rw [singleRows_submit_iff hblank, h.prompt_eq, hprompt]
        simp [or_imp, forall_and]
    | navigate direction =>
      have hcalls := singleRows_navigate session direction
      simp [Session.perform, Session.handle, Operation.uncut, hcalls]
    | complete typed =>
      have hcalls := h.singleRows_complete typed
      simp [Session.perform, Session.handle, Operation.uncut, hcalls]
  | load next =>
    apply (singleRows_suggestions_iff session.config next).trans
    unfold Operation.uncut
    cases session.config.showSuggestions <;> simp
  | tick now => simp [Session.perform, SingleRows, Operation.uncut]

theorem WellFormed.singleRows_trace_iff {session : Session} (h : session.WellFormed)
    (operations : List Operation) :
    (∀ calls ∈ session.trace operations, SingleRows calls) ↔
      ∀ text ∈ uncut session.config session.profile operations, '\n' ∉ text.toList := by
  induction operations generalizing session with
  | nil => simp [trace, uncut]
  | cons operation rest ih =>
    have hrest := ih (h.perform operation)
    rw [config_perform, profile_perform] at hrest
    simp only [trace, uncut, List.forall_mem_cons, List.forall_mem_append]
    rw [h.singleRows_perform_iff, hrest]

/-- Every line of a run takes a single row just if nothing that is shown uncut has a line feed. -/
theorem single_rows_iff_uncut (config : Config) (profile : Option Profile) (now : Timestamp)
    (operations : List Operation) :
    (∀ calls ∈ (start config profile now).trace operations, SingleRows calls) ↔
      ∀ text ∈ uncut config profile operations, '\n' ∉ text.toList :=
  (wellFormed_start config profile now).singleRows_trace_iff operations

/-- Both texts of the profile that are shown uncut hold a line feed; the line has none. -/
theorem prompt_and_suggestion_span_two_rows :
    let profile : Profile :=
      { terminal := some { prompt := some "ada\n$", suggestedCommands := ["a\nb"] } }
    (start {} none ⟨0, 0, 0⟩).trace [.load profile, .handle (.submit "x")] =
      [[.line "", .line "Suggested commands: a\nb"],
       [.line "ada\n$ x", .line "Command not found: x",
        .line "Type 'help' for available commands.", .setInput ""]] := by
  decide

end Session
end ResumeTerminal
