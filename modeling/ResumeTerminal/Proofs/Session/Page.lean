import Mathlib.Data.List.ReduceOption
import ResumeTerminal.Proofs.Page.Layout
import ResumeTerminal.Proofs.Session.Overview

/-! The pages of a profile. Each of them is the answer of one command, whatever arguments the
command is given and whatever the session has gone through before. -/
namespace ResumeTerminal

/-- The pages of a profile, under the names of the commands that show them. -/
def Profile.pages (profile : Profile) : List (String × Page) :=
  [profile.intro.map fun intro => ("intro", .intro intro),
   profile.skills.map fun table => ("skills", .skills table),
   profile.experience.map fun jobs => ("experience", .experience jobs),
   profile.education.map fun schooling => ("education", .education schooling),
   profile.contact.map fun contact => ("contact", .contact contact),
   (Command.nonempty profile.projects).map fun list => ("projects", .projects list),
   (Command.nonempty profile.certifications).map fun list =>
     ("certs", .certificates list)].filterMap id

namespace Command

/-- Of a section's command, what it is called and what it does. -/
theorem map_resume (profile : Profile) (config : Config) :
    (resume profile config).map (fun command => (command.name, command.action)) =
      profile.pages.map fun entry => (entry.1, .page entry.2 config.ruleWidth) := by
  unfold resume Profile.pages
  rw [← List.reduceOption, ← List.reduceOption, ← List.reduceOption_map, ← List.reduceOption_map]
  simp only [List.map_cons, List.map_nil, Option.map_map, Function.comp_def]

theorem exists_mem_all_of_mem_pages {profile : Profile} (config : Config) {name : String}
    {page : Page} (h : (name, page) ∈ profile.pages) :
    ∃ command ∈ all (some profile) config,
      command.name = name ∧ command.action = .page page config.ruleWidth := by
  have hmem : (name, Action.page page config.ruleWidth) ∈
      (resume profile config).map fun command => (command.name, command.action) := by
    rw [map_resume]
    exact List.mem_map_of_mem h
  obtain ⟨command, hcommand, heq⟩ := List.mem_map.mp hmem
  obtain ⟨hname, haction⟩ := Prod.mk.inj heq
  exact ⟨command, List.mem_append_right _ (List.mem_append_left _ hcommand), hname, haction⟩

end Command

namespace Session

/-- A command answers with a text, whatever it is given, and the rows of the text are shown. -/
structure Tells (session : Session) (name text : String) : Prop where
  output : ∃ command, session.setup.registry.lookup name = some command ∧
    ∀ args, session.environment.run command.action args = .ok (.text text)
  calls : ∀ args, session.dispatch name args = printed text

theorem WellFormed.tells_page {session : Session} (h : session.WellFormed) {profile : Profile}
    (hprofile : session.profile = some profile) {name : String} {page : Page}
    (hpage : (name, page) ∈ profile.pages) :
    session.Tells name (page.text session.config.ruleWidth) := by
  obtain ⟨command, hmem, hname, haction⟩ :=
    Command.exists_mem_all_of_mem_pages session.config hpage
  rw [← hprofile] at hmem
  have hlower := Command.lower_name_of_mem_all hmem
  rw [hname] at hlower
  have hlookup := h.lookup_eq_some_iff.mpr ⟨hmem, hname.trans hlower.symm⟩
  have hrun : ∀ args, session.environment.run command.action args =
      .ok (.text (page.text session.config.ruleWidth)) := by
    intro args
    rw [haction]
    rfl
  refine ⟨⟨command, hlookup, hrun⟩, fun args => ?_⟩
  rw [dispatch, hlookup]
  simp only [answer, hrun, shown]

theorem Tells.unique {session : Session} {name text other : String} (h : session.Tells name text)
    (hother : session.Tells name other) : text = other := by
  obtain ⟨command, hlookup, hrun⟩ := h.output
  obtain ⟨found, hfound, hrunOther⟩ := hother.output
  obtain rfl : command = found := Option.some.inj (hlookup.symm.trans hfound)
  have hsame := (hrun []).symm.trans (hrunOther [])
  injection hsame with houtput
  injection houtput

/-! Pages with a heading on top and a block of rows for every record. -/

/-- A command answers with the blocks of the records, in their order. -/
def ShowsBlocks {α : Type} (session : Session) (name : String) (top : List String)
    (records : List α) (block : α → List String) : Prop :=
  ∃ text, session.Tells name text ∧ Page.Shows text (top ++ records.flatMap block)

section Blocks
variable {α : Type} {session : Session} {name : String} {top : List String} {records : List α}
  {block other : α → List String}

theorem ShowsBlocks.tells (h : session.ShowsBlocks name top records block) :
    session.Tells name (Page.layout (top ++ records.flatMap block)) := by
  obtain ⟨text, htells, hshows⟩ := h
  rwa [← Page.shows_iff.mp hshows]

/-- Whether other blocks are shown is a matter of the text alone. -/
theorem ShowsBlocks.iff_layout_eq (h : session.ShowsBlocks name top records block) :
    session.ShowsBlocks name top records other ↔
      Page.layout (top ++ records.flatMap block) = Page.layout (top ++ records.flatMap other) := by
  constructor
  · intro hother
    exact h.tells.unique hother.tells
  · intro heq
    exact ⟨_, h.tells, heq ▸ Page.shows_layout _⟩

/-- Where single records may lose something visible, and are shown in full otherwise, all records
are shown in full as long as none of them loses anything. -/
theorem ShowsBlocks.full_iff {loses : α → Prop} (h : session.ShowsBlocks name top records block)
    (hfull : ∀ record, ¬ loses record → block record = other record)
    (hless : ∀ record, loses record →
      (Page.rowsInk (block record)).length < (Page.rowsInk (other record)).length) :
    session.ShowsBlocks name top records other ↔ ∀ record ∈ records, ¬ loses record := by
  rw [h.iff_layout_eq]
  exact Page.layout_flatMap_eq_iff top records hfull hless

end Blocks

/-! However a session came to its profile, it shows the profile's pages. -/

section Sections
variable {config : Config} {initial : Option Profile} {now : Timestamp}
  {operations : List Operation} {profile : Profile}

theorem showsBlocks_of_mem_pages {α : Type} {name : String} {top : List String} {records : List α}
    {block : α → List String} {page : Page}
    (h : ((start config initial now).after operations).profile = some profile)
    (hpage : (name, page) ∈ profile.pages)
    (hrows : page.rows config.ruleWidth = top ++ records.flatMap block) :
    ((start config initial now).after operations).ShowsBlocks name top records block := by
  have htells := (wellFormed_after_start config initial now operations).tells_page h hpage
  rw [config_after] at htells
  exact ⟨_, htells, Page.shows_iff.mpr (congrArg Page.layout hrows)⟩

theorem showsBlocks_skills {table : OrderedMap (List String)}
    (h : ((start config initial now).after operations).profile = some profile)
    (hskills : profile.skills = some table) :
    ((start config initial now).after operations).ShowsBlocks "skills"
      (Page.heading "TECHNICAL SKILLS" config.ruleWidth) table.entries Page.skillRows := by
  have hpage : ("skills", Page.skills table) ∈ profile.pages := by simp [Profile.pages, hskills]
  exact showsBlocks_of_mem_pages h hpage rfl

theorem showsBlocks_experience {jobs : List Job}
    (h : ((start config initial now).after operations).profile = some profile)
    (hjobs : profile.experience = some jobs) :
    ((start config initial now).after operations).ShowsBlocks "experience"
      (Page.heading "WORK EXPERIENCE" config.ruleWidth) jobs Page.jobRows := by
  have hpage : ("experience", Page.experience jobs) ∈ profile.pages := by
    simp [Profile.pages, hjobs]
  exact showsBlocks_of_mem_pages h hpage rfl

theorem showsBlocks_education {records : List Schooling}
    (h : ((start config initial now).after operations).profile = some profile)
    (hrecords : profile.education = some records) :
    ((start config initial now).after operations).ShowsBlocks "education"
      (Page.heading "EDUCATION" config.ruleWidth) records Page.schoolingRows := by
  have hpage : ("education", Page.education records) ∈ profile.pages := by
    simp [Profile.pages, hrecords]
  exact showsBlocks_of_mem_pages h hpage rfl

/-- A profile without projects has no command for them. -/
theorem showsBlocks_projects {list : List Project}
    (h : ((start config initial now).after operations).profile = some profile)
    (hlist : profile.projects = some list) (hne : list ≠ []) :
    ((start config initial now).after operations).ShowsBlocks "projects"
      (Page.heading "PROJECTS" config.ruleWidth) list Page.projectRows := by
  have hpage : ("projects", Page.projects list) ∈ profile.pages := by
    simp [Profile.pages, hlist, Command.nonempty, hne]
  exact showsBlocks_of_mem_pages h hpage rfl

end Sections
end Session
end ResumeTerminal
