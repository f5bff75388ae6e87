import Mathlib.Data.List.Forall2
import Mathlib.Data.List.Nodup
import ResumeTerminal.Command.Catalog
import ResumeTerminal.Command.Run
import ResumeTerminal.Proofs.Command.Registry
import ResumeTerminal.Proofs.Text.LowerCase

/-! What the commands of a catalog can do. Only `help`, `history` and `date` look at the
terminal; the output of all others is fixed when the catalog is made. -/
namespace ResumeTerminal

def Action.isFixed : Action → Bool
  | .give _ | .page .. => true
  | .help _ | .history | .date | .answer _ => false

theorem Environment.run_of_isFixed {action : Action} (h : action.isFixed = true) :
    ∃ output, ∀ (env : Environment) (args : List String), env.run action args = .ok output := by
  cases action with
  | give output => exact ⟨output, fun _ _ => rfl⟩
  | page page ruleWidth => exact ⟨.text (page.text ruleWidth), fun _ _ => rfl⟩
  | help _ | history | date | answer _ => cases h

namespace Command

/-! Names and descriptions. Sections that are missing leave gaps, so catalogs differ only in which
of these they have. -/

def title (command : Command) : String × String := (command.name, command.description)

def systemTitles : List (String × String) :=
  [("help", "Show available commands"), ("clear", "Clear terminal screen"),
   ("history", "Show command history"), ("date", "Show current date and time"),
   ("whoami", "Display current user")]

def resumeTitles : List (String × String) :=
  [("intro", "About me"), ("skills", "Technical skills"), ("experience", "Work experience"),
   ("education", "Education background"), ("contact", "Contact information"),
   ("projects", "View personal projects"), ("certs", "View certifications")]

def actionTitles : List (String × String) :=
  [("download", "Download resume PDF"), ("linkedin", "Open LinkedIn profile"),
   ("github", "Open GitHub profile"), ("website", "Open personal website")]

def titles : List (String × String) := systemTitles ++ (resumeTitles ++ actionTitles)

theorem titles_filterMap_sublist {sections : List (Option Command)}
    {titles : List (String × String)}
    (h : List.Forall₂ (fun content title => ∀ command ∈ content, command.title = title)
      sections titles) :
    ((sections.filterMap id).map title).Sublist titles := by
  induction h with
  | nil => exact List.Sublist.refl []
  | @cons content first sections titles hfirst _ ih =>
    cases content with
    | none => exact ih.cons _
    | some command =>
      have hcons : (some command :: sections).filterMap id = command :: sections.filterMap id :=
        rfl
      rw [hcons, List.map_cons, hfirst command rfl]
      exact ih.cons_cons _

theorem titles_resume_sublist (profile : Profile) (config : Config) :
    ((resume profile config).map title).Sublist resumeTitles := by
  apply titles_filterMap_sublist
  simp [title, resumeTitles]

theorem titles_actions_sublist (profile : Profile) (config : Config) :
    ((actions profile config).map title).Sublist actionTitles := by
  unfold actions
  cases profile.contact with
  | none => exact (List.nil_sublist _).cons_cons _
  | some contact => exact List.Sublist.refl _

theorem titles_all_sublist (profile : Option Profile) (config : Config) :
    ((all profile config).map title).Sublist titles := by
  rw [all, List.map_append]
  refine (List.Sublist.refl _).append ?_
  cases profile with
  | none => exact List.nil_sublist _
  | some profile =>
    rw [Option.map_some, Option.getD_some, List.map_append]
    exact (titles_resume_sublist profile config).append (titles_actions_sublist profile config)

theorem title_mem_titles {profile : Option Profile} {config : Config} {command : Command}
    (h : command ∈ all profile config) : command.title ∈ titles :=
  (titles_all_sublist profile config).mem (List.mem_map_of_mem h)

theorem nodup_names_all (profile : Option Profile) (config : Config) :
    ((all profile config).map name).Nodup := by
  have hnames := (titles_all_sublist profile config).map Prod.fst
  rw [List.map_map] at hnames
  exact hnames.nodup (by decide)

/-- Catalog names are in lower case already. -/
theorem lower_name_of_mem_all {profile : Option Profile} {config : Config} {command : Command}
    (h : command ∈ all profile config) : Text.lower command.name = command.name := by
  have hplain : ∀ title ∈ titles, Text.isPlain title.1 = true := by decide
  exact Text.lower_of_isPlain (hplain _ (title_mem_titles h))

/-- Every command of a catalog is found under its name, in any case, and nothing else is. -/
theorem lookup_all_eq_some_iff {profile : Option Profile} {config : Config} {name : String}
    {command : Command} :
    (Registry.registerAll {} (all profile config)).lookup name = some command ↔
      command ∈ all profile config ∧ command.name = Text.lower name := by
  constructor
  · intro hlookup
    obtain ⟨hmem, hname⟩ := Registry.mem_of_lookup_registerAll hlookup
    exact ⟨hmem, by rw [← hname, lower_name_of_mem_all hmem]⟩
  · rintro ⟨hmem, hname⟩
    have hlower : (all profile config).map (fun command => Text.lower command.name) =
        (all profile config).map Command.name :=
      List.map_congr_left fun _ => lower_name_of_mem_all
    apply Registry.lookup_registerAll_of_mem _ hmem
    · rw [lower_name_of_mem_all hmem, hname]
    · rw [hlower]
      exact nodup_names_all _ _

theorem isWord_name_of_mem_all {profile : Option Profile} {config : Config} {command : Command}
    (h : command ∈ all profile config) : Text.IsWord command.name ∧ command.name ≠ "" := by
  have hwords : ∀ title ∈ titles, Text.IsWord title.1 ∧ title.1 ≠ "" := by decide
  exact hwords _ (title_mem_titles h)

theorem line_feed_not_mem_description {profile : Option Profile} {config : Config}
    {command : Command} (h : command ∈ all profile config) :
    '\n' ∉ command.description.toList := by
  have hrows : ∀ title ∈ titles, '\n' ∉ title.2.toList := by decide
  exact hrows _ (title_mem_titles h)

/-- The entries are the commands, each under its name. -/
theorem mem_all_of_mem_entries {profile : Option Profile} {config : Config}
    {entry : String × Command}
    (h : entry ∈ (Registry.registerAll {} (all profile config)).entries) :
    entry.2 ∈ all profile config ∧ entry.1 = entry.2.name := by
  rcases Registry.mem_entries_registerAll h with hempty | ⟨hmem, hname⟩
  · cases hempty
  · exact ⟨hmem, hname.trans (lower_name_of_mem_all hmem)⟩

/-! Actions. -/

theorem exists_mem_all_help (profile : Option Profile) (config : Config) :
    ∃ command ∈ all profile config,
      command.name = "help" ∧ command.action = .help config.labelWidth :=
  ⟨_, List.mem_cons_self, rfl, rfl⟩

theorem exists_mem_all_clear (profile : Option Profile) (config : Config) :
    ∃ command ∈ all profile config, command.name = "clear" ∧ command.action = .give .clear :=
  ⟨_, List.mem_cons_of_mem _ List.mem_cons_self, rfl, rfl⟩

theorem exists_mem_all_history (profile : Option Profile) (config : Config) :
    ∃ command ∈ all profile config, command.name = "history" ∧ command.action = .history :=
  ⟨_, List.mem_cons_of_mem _ (List.mem_cons_of_mem _ List.mem_cons_self), rfl, rfl⟩

theorem exists_mem_all_whoami (profile : Option Profile) (config : Config) :
    ∃ command ∈ all profile config,
      command.name = "whoami" ∧ command.action = .give (.text (Profile.whoAmI profile)) :=
  ⟨_, List.mem_append_left _ (List.mem_of_getElem? (rfl : (system profile config)[4]? = _)),
    rfl, rfl⟩

/-- The command of a section shows a page. -/
theorem exists_page_of_mem_resume {profile : Profile} {config : Config} {command : Command}
    (h : command ∈ resume profile config) :
    ∃ page, command.action = .page page config.ruleWidth := by
  simp only [resume, List.mem_filterMap, List.mem_cons, List.not_mem_nil, or_false, id] at h
  obtain ⟨page?, hpage, hsome⟩ := h
  -- Seven sections, and every one of them a page.
  rcases hpage with rfl | rfl | rfl | rfl | rfl | rfl | rfl <;>
    obtain ⟨content, -, rfl⟩ := Option.map_eq_some_iff.mp hsome <;> exact ⟨_, rfl⟩

theorem link_ne_clear (target missing url : String) : link target missing url ≠ .clear := by
  unfold link
  split <;> exact nofun

/-- Actions start downloads and open links. -/
theorem exists_give_of_mem_actions {profile : Profile} {config : Config} {command : Command}
    (h : command ∈ actions profile config) :
    ∃ output, command.action = .give output ∧ output ≠ .clear := by
  rcases List.mem_cons.mp h with rfl | h
  · exact ⟨_, rfl, nofun⟩
  · cases hcontact : profile.contact with
    | none => simp [hcontact] at h
    | some contact =>
      simp only [hcontact, Option.map_some, Option.getD_some, links, List.mem_cons,
        List.not_mem_nil, or_false] at h
      rcases h with rfl | rfl | rfl <;> exact ⟨_, rfl, link_ne_clear _ _ _⟩

/-- The commands that look at the terminal, and all others. -/
theorem mem_all_cases {profile : Option Profile} {config : Config} {command : Command}
    (h : command ∈ all profile config) :
    (command.name = "help" ∧ command.action = .help config.labelWidth) ∨
    (command.name = "history" ∧ command.action = .history) ∨
    (command.name = "date" ∧ command.action = .date) ∨ command.action.isFixed = true := by
  rcases List.mem_append.mp h with h | h
  · simp only [system, List.mem_cons, List.not_mem_nil, or_false] at h
    rcases h with rfl | rfl | rfl | rfl | rfl
    · exact .inl ⟨rfl, rfl⟩
    · exact .inr (.inr (.inr rfl))
    · exact .inr (.inl ⟨rfl, rfl⟩)
    · exact .inr (.inr (.inl ⟨rfl, rfl⟩))
    · exact .inr (.inr (.inr rfl))
  · cases profile with
    | none => simp at h
    | some profile =>
      rcases List.mem_append.mp h with h | h
      · obtain ⟨page, haction⟩ := exists_page_of_mem_resume h
        exact .inr (.inr (.inr (by rw [haction]; rfl)))
      · obtain ⟨output, haction, -⟩ := exists_give_of_mem_actions h
        exact .inr (.inr (.inr (by rw [haction]; rfl)))

theorem name_eq_clear {profile : Option Profile} {config : Config} {command : Command}
    (h : command ∈ all profile config) (haction : command.action = .give .clear) :
    command.name = "clear" := by
  rcases List.mem_append.mp h with h | h
  · simp only [system, List.mem_cons, List.not_mem_nil, or_false] at h
    rcases h with rfl | rfl | rfl | rfl | rfl
    case inr.inl => rfl
    all_goals cases haction
  · cases profile with
    | none => simp at h
    | some profile =>
      rcases List.mem_append.mp h with h | h
      · obtain ⟨page, hpage⟩ := exists_page_of_mem_resume h
        rw [hpage] at haction
        cases haction
      · obtain ⟨output, hgive, hother⟩ := exists_give_of_mem_actions h
        rw [hgive] at haction
        cases haction
        exact absurd rfl hother

/-- Of all commands `clear` alone clears the screen. -/
theorem action_eq_clear_iff {profile : Option Profile} {config : Config} {command : Command}
    (h : command ∈ all profile config) :
    command.action = .give .clear ↔ command.name = "clear" := by
  refine ⟨name_eq_clear h, fun hname => ?_⟩
  obtain ⟨clear, hclear, hclearName, haction⟩ := exists_mem_all_clear profile config
  rw [List.inj_on_of_nodup_map (nodup_names_all profile config) h hclear
    (hname.trans hclearName.symm), haction]

end Command

theorem Environment.describe_ne_clear (env : Environment) (name : String) :
    env.describe name ≠ .ok .clear := by
  unfold describe
  split
  · exact nofun
  · split <;> exact nofun

theorem Environment.run_eq_clear_iff {profile : Option Profile} {config : Config}
    {command : Command} (h : command ∈ Command.all profile config) (env : Environment)
    (args : List String) :
    env.run command.action args = .ok .clear ↔ command.name = "clear" := by
  rw [← Command.action_eq_clear_iff h]
  constructor
  · intro hrun
    rcases Command.mem_all_cases h with ⟨-, haction⟩ | ⟨-, haction⟩ | ⟨-, haction⟩ | hfixed
    · rw [haction] at hrun
      cases args with
      | nil => cases hrun
      | cons topic _ => exact absurd hrun (env.describe_ne_clear topic)
    · rw [haction] at hrun
      cases hrun
    · rw [haction] at hrun
      cases hrun
    · cases haction : command.action with
      | give output =>
        rw [haction] at hrun
        cases hrun
        rfl
      | page page ruleWidth =>
        rw [haction] at hrun
        cases hrun
      | help _ | history | date | answer _ =>
        rw [haction] at hfixed
        cases hfixed
  · intro haction
    rw [haction]
    rfl

end ResumeTerminal
