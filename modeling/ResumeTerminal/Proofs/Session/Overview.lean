import ResumeTerminal.Proofs.Command.Overview
import ResumeTerminal.Proofs.Session.Response

/-! What `help` shows and what a line does. The overview has a row for every command and
every alias. Aliases are replaced before commands are looked up, so a command runs under
its name unless an alias has the same name, and an alias is only ever replaced when its
name is a single word. -/
namespace ResumeTerminal

namespace Environment

/-- The rows of the overview that belong to no command and no alias. -/
def overviewHeadings : List String :=
  ["Available commands:", "", "Aliases:"] ++
    Category.order.map fun category => category.heading ++ ":"

theorem mem_overviewRows {env : Environment} {labelWidth : Nat} {row : String}
    (h : row ∈ env.overviewRows labelWidth) :
    row ∈ overviewHeadings ∨
      (∃ entry ∈ env.registry.listing, row = commandRow labelWidth entry) ∨
      ∃ entry ∈ env.aliases.entries, row = aliasRow labelWidth entry := by
  have htitled {title : String} {rows : List String} (hrow : row ∈ titled title rows) :
      row = "" ∨ row = title ++ ":" ∨ row ∈ rows := by
    unfold titled at hrow
    split at hrow
    · cases hrow
    · simpa using hrow
  rw [overviewRows_eq, List.cons_append, List.mem_cons, List.mem_append, List.mem_flatMap] at h
  rcases h with rfl | ⟨category, hcategory, hrow⟩ | hrow
  · exact .inl (by simp [overviewHeadings])
  · rcases htitled hrow with rfl | rfl | hrow
    · exact .inl (by simp [overviewHeadings])
    · exact .inl (List.mem_append_right _ (List.mem_map_of_mem hcategory))
    · obtain ⟨entry, hentry, rfl⟩ := List.mem_map.mp hrow
      exact .inr (.inl ⟨entry, List.mem_flatMap.mpr ⟨category, hcategory, hentry⟩, rfl⟩)
  · rcases htitled hrow with rfl | rfl | hrow
    · exact .inl (by simp [overviewHeadings])
    · exact .inl (by simp [overviewHeadings])
    · obtain ⟨entry, hentry, rfl⟩ := List.mem_map.mp hrow
      exact .inr (.inr ⟨entry, hentry, rfl⟩)

end Environment

namespace Session

/-- What running a command shows. -/
def answer (session : Session) (command : Command) (args : List String) : List Call :=
  match session.environment.run command.action args with
  | .ok output => shown output
  | .error failure => printed (complaint failure)

/-- What is shown for a name and its arguments once aliases are replaced. -/
def dispatch (session : Session) (name : String) (args : List String) : List Call :=
  match session.setup.registry.lookup name with
  | none => [.line ("Command not found: " ++ name),
      .line "Type 'help' for available commands."]
  | some command => session.answer command args

theorem response_eq_dispatch (session : Session) (line : String) :
    session.response line =
      session.dispatch (session.invocation line).1 (session.invocation line).2 := rfl

theorem submit_dispatches {session : Session} {line typed name : String}
    {args given : List String} (hwords : Text.words line = typed :: given)
    (hresolve : session.setup.aliases.resolve typed given = (name, args)) :
    (session.submit line).2 =
      .line (session.prompt ++ " " ++ Text.trim line) :: session.dispatch name args
        ++ [.setInput ""] := by
  rw [submit_of_visible session (Text.isBlank_of_words_eq_cons hwords), response_eq_dispatch,
    invocation_of_words hwords, hresolve]

variable {session : Session}

theorem WellFormed.lookup_of_mem_listing (h : session.WellFormed) {name : String}
    {command : Command} (hmem : (name, command) ∈ session.setup.registry.listing) :
    session.setup.registry.lookup name = some command := by
  rw [h.registry_eq] at hmem ⊢
  exact Registry.lookup_of_mem_entries ((Registry.listing_perm _).mem_iff.mp hmem)

/-- Only a word can be the name of a command, in whatever case it is typed. -/
theorem WellFormed.isWord_of_lookup (h : session.WellFormed) {name : String}
    {command : Command} (hlookup : session.setup.registry.lookup name = some command) :
    Text.IsWord name ∧ name ≠ "" := by
  obtain ⟨hmem, hname⟩ := h.lookup_eq_some_iff.mp hlookup
  have hword := Command.isWord_name_of_mem_all hmem
  rw [hname] at hword
  refine ⟨Text.isWord_of_isWord_lower hword.1, ?_⟩
  rintro rfl
  exact hword.2 rfl

/-- A command runs under its name if no alias has that name too. -/
theorem WellFormed.submit_name (h : session.WellFormed) {name : String} {command : Command}
    (hlookup : session.setup.registry.lookup name = some command)
    (hcovers : ¬ session.setup.aliases.Covers name) :
    (session.submit name).2 =
      .line (session.prompt ++ " " ++ name) :: session.answer command [] ++ [.setInput ""] := by
  obtain ⟨hword, hne⟩ := h.isWord_of_lookup hlookup
  have hnone := (AliasTable.expansion?_eq_none_iff _ _).mpr hcovers
  rw [submit_dispatches (Text.words_of_isWord hword hne)
    (AliasTable.resolve_of_expansion?_eq_none hnone []), Text.trim_of_isWord hword, dispatch,
    hlookup]

theorem Setup.tidy_aliases_of (profile : Option Profile) (config : Config) :
    (Setup.of profile config).aliases.Tidy := AliasTable.tidy_ofPairs _

theorem WellFormed.tidy_aliases (h : session.WellFormed) : session.setup.aliases.Tidy := by
  rw [h.setup_eq]
  exact Setup.tidy_aliases_of _ _

/-- An alias stands for the words beside it, in whatever case it is typed. -/
theorem WellFormed.submit_alias (h : session.WellFormed) {name expansion : String}
    (hmem : (name, expansion) ∈ session.setup.aliases.entries) {line typed : String}
    {args : List String} (hwords : Text.words line = typed :: args)
    (hname : Text.lower typed = Text.lower name) :
    ∃ command first, Text.words expansion = command :: first ∧
      (session.submit line).2 =
        .line (session.prompt ++ " " ++ Text.trim line) ::
          session.dispatch command (first ++ args) ++ [.setInput ""] := by
  obtain ⟨command, first, hfirst, hresolve⟩ := h.tidy_aliases.exists_resolve_of_mem hmem
  exact ⟨command, first, hfirst, submit_dispatches hwords (hresolve typed args hname)⟩

/-- The rows are headings, commands and aliases. A listed command, or one that `help`
describes because its name is found, runs unless an alias covers it. -/
theorem submit_follows_overview (config : Config) (profile : Option Profile) (now : Timestamp)
    (operations : List Operation) :
    let session := (start config profile now).after operations
    (∀ labelWidth, ∀ row ∈ session.environment.overviewRows labelWidth,
      row ∈ Environment.overviewHeadings ∨
      (∃ entry ∈ session.setup.registry.listing,
        row = Environment.commandRow labelWidth entry) ∨
      ∃ entry ∈ session.setup.aliases.entries, row = Environment.aliasRow labelWidth entry) ∧
    (∀ name command,
      (name, command) ∈ session.setup.registry.listing ∨
        session.setup.registry.lookup name = some command →
      ¬ session.setup.aliases.Covers name →
      (session.submit name).2 =
        .line (session.prompt ++ " " ++ name) :: session.answer command [] ++ [.setInput ""]) ∧
    ∀ name expansion, (name, expansion) ∈ session.setup.aliases.entries →
      ∀ line typed args, Text.words line = typed :: args → Text.lower typed = Text.lower name →
        ∃ command first, Text.words expansion = command :: first ∧
          (session.submit line).2 =
            .line (session.prompt ++ " " ++ Text.trim line) ::
              session.dispatch command (first ++ args) ++ [.setInput ""] := by
  intro session
  have hwell : session.WellFormed := wellFormed_after_start config profile now operations
  refine ⟨fun _ _ hrow => Environment.mem_overviewRows hrow, ?_, ?_⟩
  · intro name command hlisted hcovers
    exact hwell.submit_name (hlisted.elim hwell.lookup_of_mem_listing id) hcovers
  · intro name expansion hmem line typed args hwords hname
    exact hwell.submit_alias hmem hwords hname

/-- The first alias hides a command, and the second one is no single word. -/
def shadowing : Profile where
  terminal := some { aliases := .ofList [("clear", "whoami"), ("my skills", "whoami")] }

theorem overview_names_shadowed_command :
    let session := start {} (some shadowing) ⟨0, 0, 0⟩
    (∃ command, ("clear", command) ∈ session.setup.registry.listing ∧
      session.answer command [] = [.clear]) ∧
    (session.submit "clear").2 =
      [.line (session.prompt ++ " clear"), .line "hacker@cyberdesk", .setInput ""] ∧
    ("my skills", "whoami") ∈ session.setup.aliases.entries ∧
    (session.submit "my skills").2 =
      [.line (session.prompt ++ " my skills"), .line "Command not found: my",
        .line "Type 'help' for available commands.", .setInput ""] := by
  refine ⟨⟨⟨"clear", "Clear terminal screen", "clear", .system, .give .clear⟩, ?_, rfl⟩, ?_⟩
  · refine List.mem_flatMap.mpr ⟨.system, by decide, List.mem_filter.mpr ⟨?_, rfl⟩⟩
    exact List.mem_cons_of_mem _ List.mem_cons_self
  · decide

end Session
end ResumeTerminal
