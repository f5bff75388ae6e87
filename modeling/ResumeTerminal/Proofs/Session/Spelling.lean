import ResumeTerminal.Proofs.Session.Overview

/-! How a line may be spelled. Its words count and not the blanks between them, and the case of
the first word does not count if it stands for something. -/
namespace ResumeTerminal.Session

variable {session : Session}

theorem dispatch_congr {typed retyped : String} (hname : Text.lower typed = Text.lower retyped)
    (hknows : session.Knows typed) (args : List String) :
    session.dispatch typed args = session.dispatch retyped args := by
  have hlookup := session.setup.registry.lookup_congr hname
  cases hfound : session.setup.registry.lookup typed with
  | none => exact absurd hknows ((not_knows_iff session typed).mpr hfound)
  | some command => simp only [dispatch, ← hlookup, hfound]

theorem WellFormed.response_congr_words (h : session.WellFormed)
    {first second typed retyped : String} {args : List String}
    (hfirst : Text.words first = typed :: args) (hsecond : Text.words second = retyped :: args)
    (hname : Text.lower typed = Text.lower retyped)
    (hknown : session.setup.aliases.Covers typed ∨ session.Knows typed) :
    session.response first = session.response second := by
  rw [response_eq_dispatch, response_eq_dispatch, invocation_of_words hfirst,
    invocation_of_words hsecond]
  by_cases hcovers : session.setup.aliases.Covers typed
  · obtain ⟨⟨name, expansion⟩, hmem, hentry⟩ := hcovers
    obtain ⟨command, extra, -, hresolve⟩ := h.tidy_aliases.exists_resolve_of_mem hmem
    rw [hresolve typed args hentry.symm, hresolve retyped args (hname.symm.trans hentry.symm)]
  · have htyped := (AliasTable.expansion?_eq_none_iff _ _).mpr hcovers
    have hretyped : session.setup.aliases.expansion? retyped = none := by
      rw [← AliasTable.expansion?_congr _ hname, htyped]
    rw [AliasTable.resolve_of_expansion?_eq_none htyped,
      AliasTable.resolve_of_expansion?_eq_none hretyped]
    exact dispatch_congr hname (hknown.resolve_left hcovers) args

/-- Two lines of the same words are answered alike. The first words may differ in case when they
name an alias or a command; a name that is unknown is repeated as it was typed. -/
theorem submit_ignores_spelling (config : Config) (profile : Option Profile) (now : Timestamp)
    (operations : List Operation) {first second typed retyped : String} {args : List String}
    (hfirst : Text.words first = typed :: args) (hsecond : Text.words second = retyped :: args)
    (hname : Text.lower typed = Text.lower retyped) :
    let session := (start config profile now).after operations
    session.setup.aliases.Covers typed ∨ session.Knows typed ∨ typed = retyped →
      ∃ body,
        (session.submit first).2 =
          .line (session.prompt ++ " " ++ Text.trim first) :: body ++ [.setInput ""] ∧
        (session.submit second).2 =
          .line (session.prompt ++ " " ++ Text.trim second) :: body ++ [.setInput ""] := by
  intro session hknown
  have hwell : session.WellFormed := wellFormed_after_start config profile now operations
  have hbody : session.response first = session.response second := by
    rcases or_assoc.mpr hknown with hknown | rfl
    · exact hwell.response_congr_words hfirst hsecond hname hknown
    · rw [response_eq_dispatch, response_eq_dispatch, invocation_of_words hfirst,
        invocation_of_words hsecond]
  refine ⟨session.response first, ?_, ?_⟩
  · rw [submit_of_visible session (Text.isBlank_of_words_eq_cons hfirst)]
  · rw [submit_of_visible session (Text.isBlank_of_words_eq_cons hsecond), hbody]

/-- An alias in capitals, with an em space and a tab between the words. -/
theorem alias_in_capitals_after_wide_blanks :
    let profile : Profile := { terminal := some { aliases := .ofList [("sk", "help date")] } }
    let session := (start {} (some profile) ⟨0, 0, 0⟩).after []
    Text.words " \u2003SK\t--all " = ["SK", "--all"] ∧ Text.words "sk --all" = ["sk", "--all"] ∧
    Text.lower "SK" = Text.lower "sk" ∧ session.setup.aliases.Covers "SK" ∧
    ∃ body,
      (session.submit " \u2003SK\t--all ").2 =
        .line (session.prompt ++ " SK\t--all") :: body ++ [.setInput ""] ∧
      (session.submit "sk --all").2 =
        .line (session.prompt ++ " sk --all") :: body ++ [.setInput ""] := by
  intro profile session
  have hfirst : Text.words " \u2003SK\t--all " = ["SK", "--all"] := by decide
  have hsecond : Text.words "sk --all" = ["sk", "--all"] := by decide
  have hname : Text.lower "SK" = Text.lower "sk" := by decide
  have hcovers : session.setup.aliases.Covers "SK" := ⟨("sk", "help date"), by decide, by decide⟩
  exact ⟨hfirst, hsecond, hname, hcovers,
    submit_ignores_spelling {} (some profile) ⟨0, 0, 0⟩ [] hfirst hsecond hname (.inl hcovers)⟩

end ResumeTerminal.Session
