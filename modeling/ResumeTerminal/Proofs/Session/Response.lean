import ResumeTerminal.Proofs.Alias
import ResumeTerminal.Proofs.Session.Run
import ResumeTerminal.Proofs.Text.Rows

/-! What a submission shows: the echo of the line, then a body, then a fresh input line.
The body is settled by the command that the line leads to; of the commands of a profile
only `help` can fail, and only when it is asked about a name that stands for nothing. A text is
printed row by row, and its rows say all of it. -/
namespace ResumeTerminal

/-- Row by row; an empty text takes a row too. -/
def Call.rows (text : String) : List Call :=
  (if text = "" then [""] else Text.rows text).map .line

namespace Environment

theorem describe_of_unknown {env : Environment} {topic : String}
    (hname : env.registry.lookup topic = none) (halias : env.aliases.expansion? topic = none) :
    env.describe topic = .error (.command ("help: no such command: " ++ topic)) := by
  simp only [describe, hname, halias]

theorem exists_describe {env : Environment} {topic : String}
    (h : env.registry.lookup topic ≠ none ∨ env.aliases.expansion? topic ≠ none) :
    ∃ output, env.describe topic = .ok output := by
  cases hname : env.registry.lookup topic with
  | some command => exact ⟨_, by simp only [describe, hname]; rfl⟩
  | none =>
    cases halias : env.aliases.expansion? topic with
    | some expansion => exact ⟨_, by simp only [describe, hname, halias]; rfl⟩
    | none => exact absurd (h.resolve_left (not_not.mpr hname)) (not_not.mpr halias)

end Environment

namespace Session

/-- Whether a command is registered under a name, in any case. -/
def Knows (session : Session) (name : String) : Prop :=
  Text.lower name ∈ session.setup.registry.names

/-- `help` is asked about a name that is neither a command nor an alias. -/
structure MissesTopic (session : Session) (command : String) (args : List String)
    (topic : String) : Prop where
  asks_help : Text.lower command = "help"
  first_arg : args.head? = some topic
  not_command : ¬ session.Knows topic
  not_alias : ¬ session.setup.aliases.Covers topic

/-- The calls with which a command and its arguments are answered. -/
structure Answers (session : Session) (command : String) (args : List String)
    (body : List Call) : Prop where
  unknown : ¬ session.Knows command →
    body = [.line ("Command not found: " ++ command),
      .line "Type 'help' for available commands."]
  failed : ∀ topic, session.MissesTopic command args topic →
    body = [.line ("error: help: no such command: " ++ topic)]
  done : session.Knows command → (∀ topic, ¬ session.MissesTopic command args topic) →
    ∃ found output, session.setup.registry.lookup command = some found ∧
      session.environment.run found.action args = .ok output ∧
      match output with
      | .text text => body = Call.rows text
      | .silent => body = []
      | .clear => body = [.clear]
      | .openLink url notice => body = .openLink url :: Call.rows notice
      | .download href fileName notice =>
        body = .download href fileName :: Call.rows notice

theorem printed_eq_rows (text : String) : printed text = Call.rows text := by
  unfold printed Call.rows Text.printedRows
  congr 1
  by_cases h : text = ""
  · simp [h]
  · simp [h]

/-- The printed rows are the only ones that reproduce the text. Whatever rows a command made it
from, blank ones among them, are printed as they are, each in its place; just an empty row at the
very end needs a line break behind it. -/
theorem printed_reproduces_text (text : String) :
    ∃ rows : List String, printed text = rows.map .line ∧ Text.Reproduces rows text ∧
      (∀ others : List String, Text.Reproduces others text → others = rows) ∧
      ∀ output : List String, output ≠ [] → (∀ row ∈ output, Text.IsRow row) →
        text = "\n".intercalate output ++ "\n" ∨
          (text = "\n".intercalate output ∧ output.getLast? ≠ some "") →
        rows = output := by
  refine ⟨Text.printedRows text, rfl, Text.reproduces_printedRows text,
    fun _ hothers => Text.reproduces_iff.mp hothers, ?_⟩
  intro output hne hrows htext
  rcases htext with hclosed | ⟨hopen, hlast⟩
  · rw [hclosed, Text.printedRows_intercalate_feed hne hrows]
  · rw [hopen, Text.printedRows_intercalate hne hrows hlast]

theorem printed_keeps_blank_rows :
    (∀ row ∈ ["", "a", "", "", " b"], Text.IsRow row) ∧
    printed "\na\n\n\n b" = [.line "", .line "a", .line "", .line "", .line " b"] := by
  have hrows : ∀ row ∈ ["", "a", "", "", " b"], Text.IsRow row := by decide
  obtain ⟨rows, hprinted, -, -, hkept⟩ := printed_reproduces_text "\na\n\n\n b"
  refine ⟨hrows, ?_⟩
  rw [hprinted, hkept _ (List.cons_ne_nil _ _) hrows (.inr ⟨by decide, by decide⟩)]
  rfl

example : printed "\r\n\na\r\r\n\n b\r" =
    [.line "", .line "", .line "a\r", .line "", .line " b\r"] := by decide

theorem not_knows_iff (session : Session) (name : String) :
    ¬ session.Knows name ↔ session.setup.registry.lookup name = none :=
  (Registry.lookup_eq_none_iff _ _).symm

/-- What `help` says about a missing topic fits on one row, as topics are words. -/
theorem printed_complaint {topic : String} (h : Text.IsWord topic) :
    printed (complaint (.command ("help: no such command: " ++ topic))) =
      [.line ("error: help: no such command: " ++ topic)] := by
  have hjoin : "error: " ++ ("help: no such command: " ++ topic) =
      "error: help: no such command: " ++ topic := by
    rw [← String.append_assoc]
    rfl
  have hrow : '\n' ∉ ("error: help: no such command: " ++ topic).toList := by
    rw [String.toList_append, List.mem_append, not_or]
    exact ⟨by decide, h.not_mem_line_feed⟩
  rw [complaint, hjoin, printed, Text.printedRows_of_not_mem hrow]
  rfl

/-- Outside `help` no command of a catalog fails, and `help` knows what it is asked. -/
theorem WellFormed.exists_run_of_lookup {session : Session} (h : session.WellFormed)
    {command : String} {args : List String} {found : Command}
    (hlookup : session.setup.registry.lookup command = some found)
    (htopic : ∀ topic, ¬ session.MissesTopic command args topic) :
    ∃ output, session.environment.run found.action args = .ok output := by
  obtain ⟨hmem, hname⟩ := h.lookup_eq_some_iff.mp hlookup
  rcases Command.mem_all_cases hmem with ⟨hhelp, haction⟩ | ⟨-, haction⟩ | ⟨-, haction⟩ | hfixed
  · rw [haction]
    cases args with
    | nil => exact ⟨_, rfl⟩
    | cons topic rest =>
      apply Environment.exists_describe
      by_contra hneither
      rw [not_or, not_not, not_not] at hneither
      exact htopic topic
        { asks_help := hname.symm.trans hhelp
          first_arg := rfl
          not_command := (not_knows_iff session topic).mpr hneither.1
          not_alias := (AliasTable.expansion?_eq_none_iff _ _).mp hneither.2 }
  · rw [haction]
    exact ⟨_, rfl⟩
  · rw [haction]
    exact ⟨_, rfl⟩
  · obtain ⟨output, hrun⟩ := Environment.run_of_isFixed hfixed
    exact ⟨output, hrun _ _⟩

theorem isWord_of_mem_invocation {session : Session} {line : String} :
    ∀ part ∈ (session.invocation line).1 :: (session.invocation line).2, Text.IsWord part := by
  unfold invocation
  split
  · apply AliasTable.isWord_of_mem_resolve
    simp [Text.IsWord]
  · rename_i name args hwords
    apply AliasTable.isWord_of_mem_resolve
    rw [← hwords]
    intro part hpart
    exact Text.isWord_of_mem_words hpart

theorem response_of_ok {session : Session} {line : String} {found : Command} {output : Output}
    (hlookup : session.setup.registry.lookup (session.invocation line).1 = some found)
    (hrun : session.environment.run found.action (session.invocation line).2 = .ok output) :
    session.response line = shown output := by
  simp only [response, hlookup, hrun]

theorem response_of_error {session : Session} {line : String} {found : Command}
    {failure : Failure}
    (hlookup : session.setup.registry.lookup (session.invocation line).1 = some found)
    (hrun : session.environment.run found.action (session.invocation line).2 = .error failure) :
    session.response line = printed (complaint failure) := by
  simp only [response, hlookup, hrun]

theorem WellFormed.answers {session : Session} (h : session.WellFormed) (line : String) :
    session.Answers (session.invocation line).1 (session.invocation line).2
      (session.response line) where
  unknown hknown := by
    rw [not_knows_iff] at hknown
    simp only [response, hknown]
  failed topic hmissing := by
    obtain ⟨found, hmem, hname, haction⟩ :=
      Command.exists_mem_all_help session.profile session.config
    have hlookup := h.lookup_eq_some_iff.mpr ⟨hmem, hname.trans hmissing.asks_help.symm⟩
    obtain ⟨rest, hargs⟩ := List.head?_eq_some_iff.mp hmissing.first_arg
    have hrun : session.environment.run found.action (session.invocation line).2 =
        .error (.command ("help: no such command: " ++ topic)) := by
      rw [haction, hargs]
      exact Environment.describe_of_unknown ((not_knows_iff session topic).mp hmissing.not_command)
        ((AliasTable.expansion?_eq_none_iff _ _).mpr hmissing.not_alias)
    rw [response_of_error hlookup hrun]
    apply printed_complaint
    apply isWord_of_mem_invocation
    rw [hargs]
    exact List.mem_cons_of_mem _ List.mem_cons_self
  done hknown htopic := by
    have hfound := mt (not_knows_iff session _).mpr (not_not.mpr hknown)
    obtain ⟨found, hlookup⟩ := Option.ne_none_iff_exists'.mp hfound
    obtain ⟨output, hrun⟩ := h.exists_run_of_lookup hlookup htopic
    refine ⟨found, output, hlookup, hrun, ?_⟩
    rw [response_of_ok hlookup hrun]
    cases output <;> simp only [shown, printed_eq_rows]

theorem submit_answers_line (config : Config) (profile : Option Profile) (now : Timestamp)
    (operations : List Operation) (line : String) :
    let session := (start config profile now).after operations
    if Text.isBlank line then (session.submit line).2 = [.setInput ""]
    else
      ∃ typed rest body, Text.words line = typed :: rest ∧
        (session.submit line).2 =
          .line (session.prompt ++ " " ++ Text.trim line) :: body ++ [.setInput ""] ∧
        session.Answers (session.setup.aliases.resolve typed rest).1
          (session.setup.aliases.resolve typed rest).2 body := by
  intro session
  have hwell : session.WellFormed := wellFormed_after_start config profile now operations
  cases hblank : Text.isBlank line with
  | true => rw [if_pos rfl, submit_of_isBlank session hblank]
  | false =>
    rw [if_neg (by decide)]
    cases hwords : Text.words line with
    | nil =>
      rw [Text.words_eq_nil_iff, hblank] at hwords
      cases hwords
    | cons typed rest =>
      refine ⟨typed, rest, session.response line, rfl, ?_, ?_⟩
      · rw [submit_of_visible session hblank]
      · rw [← invocation_of_words hwords]
        exact hwell.answers line

end Session
end ResumeTerminal
