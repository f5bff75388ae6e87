import ResumeTerminal.Proofs.Session.Page

/-! The links on the page of the projects. A project has a list of links or, from older records, a
single one. The single one is only looked at where there is no list at all, so a list in which
nothing leads anywhere stands in its way. -/
namespace ResumeTerminal

/-- The label and the target of a link that leads somewhere. -/
def ProjectLink.usable? (link : ProjectLink) : Option (String × String) :=
  (link.url.filter Text.isVisible).map (link.label, ·)

namespace Project

def listedLinks (project : Project) : List (String × String) :=
  project.links.filterMap ProjectLink.usable?

def olderLink (project : Project) : List (String × String) :=
  ((project.link.filter Text.isVisible).map ("Link", ·)).toList

/-- The links of the list that lead somewhere, and the older one if there are none. -/
def usableLinks (project : Project) : List (String × String) :=
  if project.listedLinks = [] then project.olderLink else project.listedLinks

/-- There is a link that leads somewhere, in the list or outside of it. -/
def CarriesLink (project : Project) : Prop :=
  (∃ link ∈ project.links, ∃ url, link.url = some url ∧ Text.isVisible url = true) ∨
    ∃ url, project.link = some url ∧ Text.isVisible url = true

/-- There is a list of links of which none leads anywhere, and an older link that does. -/
structure LosesLink (project : Project) : Prop where
  listed : project.links ≠ []
  unusable : ∀ link ∈ project.links, ∀ url, link.url = some url → Text.isVisible url = false
  older : ∃ url, project.link = some url ∧ Text.isVisible url = true

def leadRows (project : Project) : List String :=
  [project.name, project.about.getD "", ""]
    ++ if project.tools = [] then [] else ["Tech: " ++ ", ".intercalate project.tools]

def linkRow (link : String × String) : String := link.1 ++ ": " ++ link.2

/-- All rows of a project, with one for each link that leads somewhere. -/
def account (project : Project) : List String :=
  project.leadRows ++ project.usableLinks.map linkRow ++ [""]

/-- Beside a list of links the older one is passed over. -/
def withoutLostLink (project : Project) : Project :=
  if project.links = [] then project else { project with link := none }

theorem usable?_eq_none_iff (link : ProjectLink) :
    link.usable? = none ↔ ∀ url, link.url = some url → Text.isVisible url = false := by
  rw [ProjectLink.usable?, Option.map_eq_none_iff, Option.filter_eq_none_iff]
  simp only [Bool.not_eq_true]

theorem listedLinks_eq_nil_iff (project : Project) :
    project.listedLinks = [] ↔
      ∀ link ∈ project.links, ∀ url, link.url = some url → Text.isVisible url = false := by
  rw [listedLinks, List.filterMap_eq_nil_iff]
  simp only [usable?_eq_none_iff]

theorem olderLink_eq_nil_iff (project : Project) :
    project.olderLink = [] ↔ ∀ url, project.link = some url → Text.isVisible url = false := by
  rw [olderLink, Option.toList_eq_nil_iff, Option.map_eq_none_iff, Option.filter_eq_none_iff]
  simp only [Bool.not_eq_true]

theorem usableLinks_ne_nil_iff (project : Project) :
    project.usableLinks ≠ [] ↔ project.CarriesLink := by
  have hboth : project.usableLinks = [] ↔ project.listedLinks = [] ∧ project.olderLink = [] := by
    rw [usableLinks]
    split
    · next hnil => rw [and_iff_right hnil]
    · next hne => exact iff_of_false hne fun hboth => hne hboth.1
  rw [ne_eq, hboth, listedLinks_eq_nil_iff, olderLink_eq_nil_iff, CarriesLink, not_and_or]
  push Not
  simp only [Bool.not_eq_false]

theorem projectRows_eq (project : Project) :
    Page.projectRows project =
      project.leadRows ++
        (if project.links = [] then project.olderLink else project.listedLinks).map linkRow
        ++ [""] := by
  have holder : ((Page.visible project.link).map ("Link: " ++ ·)).toList =
      project.olderLink.map linkRow := by
    rw [olderLink, Page.visible]
    cases project.link.filter Text.isVisible <;> rfl
  have hlisted : project.links.filterMap Page.linkRow = project.listedLinks.map linkRow := by
    rw [listedLinks, List.map_filterMap]
    apply List.filterMap_congr
    intro link _
    rw [Page.linkRow, ProjectLink.usable?, Option.map_map]
    rfl
  rw [Page.projectRows, holder, hlisted, leadRows]
  simp only [List.isEmpty_iff, apply_ite (List.map linkRow)]

theorem listedLinks_of_links {project : Project} (h : project.links = []) :
    project.listedLinks = [] := by
  rw [listedLinks, h, List.filterMap_nil]

theorem projectRows_eq_account {project : Project} (h : ¬ project.LosesLink) :
    Page.projectRows project = project.account := by
  rw [projectRows_eq, account, usableLinks]
  by_cases hlinks : project.links = []
  · rw [if_pos hlinks, if_pos (listedLinks_of_links hlinks)]
  · rw [if_neg hlinks]
    by_cases hlisted : project.listedLinks = []
    · have holder : project.olderLink = [] := by
        rw [olderLink_eq_nil_iff]
        intro url hurl
        rw [← Bool.not_eq_true]
        intro hvisible
        exact h ⟨hlinks, project.listedLinks_eq_nil_iff.mp hlisted, ⟨url, hurl, hvisible⟩⟩
      rw [if_pos hlisted, hlisted, holder]
    · rw [if_neg hlisted]

theorem projectRows_eq_account_withoutLostLink (project : Project) :
    Page.projectRows project = project.withoutLostLink.account := by
  rw [withoutLostLink]
  by_cases hlinks : project.links = []
  · rw [if_pos hlinks]
    exact projectRows_eq_account fun h => h.listed hlinks
  · have hrows : Page.projectRows project = Page.projectRows { project with link := none } := by
      rw [projectRows_eq, projectRows_eq, if_neg hlinks, if_neg hlinks]
      rfl
    rw [if_neg hlinks, hrows]
    apply projectRows_eq_account
    rintro ⟨-, -, url, hurl, -⟩
    cases hurl

theorem length_rowsInk_of_losesLink {project : Project} (h : project.LosesLink) :
    (Page.rowsInk (Page.projectRows project)).length <
      (Page.rowsInk project.account).length := by
  have hlisted := project.listedLinks_eq_nil_iff.mpr h.unusable
  obtain ⟨url, hurl, hvisible⟩ := h.older
  have holder : project.olderLink = [("Link", url)] := by
    rw [olderLink, hurl, Option.filter_some, if_pos hvisible]
    rfl
  have hrow : Text.isVisible (linkRow ("Link", url)) = true := by
    rw [linkRow, Text.isVisible_append, hvisible, Bool.or_true]
  rw [projectRows_eq, account, usableLinks, if_neg h.listed, if_pos hlisted, hlisted, holder,
    List.map_nil, List.append_nil, List.map_singleton, List.append_assoc]
  exact Page.length_rowsInk_lt project.leadRows [""] hrow

end Project

namespace Session

/-- All projects are shown, each with a row for every link of its list that leads somewhere, and the
older link is shown where there is no list. So every usable link gets its row as long as no list
without any stands before a usable older link, and otherwise one is missing. -/
theorem projects_show_usable_links_iff (config : Config) (initial : Option Profile)
    (now : Timestamp) (operations : List Operation) {profile : Profile}
    (h : ((start config initial now).after operations).profile = some profile)
    {list : List Project} (hlist : profile.projects = some list) (hne : list ≠ []) :
    let session := (start config initial now).after operations
    let top := Page.heading "PROJECTS" config.ruleWidth
    session.ShowsBlocks "projects" top list (fun project => project.withoutLostLink.account) ∧
      (session.ShowsBlocks "projects" top list Project.account ↔
        ∀ project ∈ list, ¬ project.LosesLink) ∧
      ∀ project ∈ list, project.CarriesLink ↔ project.usableLinks ≠ [] := by
  intro session top
  have hshown : session.ShowsBlocks "projects" top list Page.projectRows :=
    showsBlocks_projects h hlist hne
  have hrows : Page.projectRows = fun project => project.withoutLostLink.account :=
    funext Project.projectRows_eq_account_withoutLostLink
  refine ⟨hrows ▸ hshown, hshown.full_iff ?_ ?_, ?_⟩
  · exact fun project => Project.projectRows_eq_account
  · exact fun project => Project.length_rowsInk_of_losesLink
  · exact fun project _ => project.usableLinks_ne_nil_iff.symm

/-- A list with a gap in it, an older link alone, and a list that leads nowhere. -/
def workshopProjects : List Project :=
  [{ name := "Desk", links := [{ label := "Docs" }, { label := "Repo", url := some "x/desk" }],
     link := some "x/old" },
   { name := "Mill", link := some "x/mill" },
   { name := "Loom", links := [{ label := "Docs", url := some " " }], link := some "" }]

def workshop : Profile where
  projects := some workshopProjects

theorem projects_show_workshop :
    let session := (start { ruleWidth := 3 } none ⟨0, 0, 0⟩).after [.load workshop]
    session.profile = some workshop ∧ workshop.projects = some workshopProjects ∧
      workshopProjects ≠ [] ∧
      session.ShowsBlocks "projects" ["PROJECTS", "===", ""] workshopProjects Project.account ∧
      workshopProjects.map Project.usableLinks =
        [[("Repo", "x/desk")], [("Link", "x/mill")], []] := by
  intro session
  have hlinks : ∀ project ∈ workshopProjects, ¬ project.LosesLink := by
    rintro project hproject ⟨hlisted, hunusable, url, hurl, hvisible⟩
    simp only [workshopProjects, List.mem_cons, List.not_mem_nil, or_false] at hproject
    rcases hproject with rfl | rfl | rfl
    · exact absurd (hunusable _ (List.mem_cons_of_mem _ List.mem_cons_self) _ rfl) (by decide)
    · exact hlisted rfl
    · cases hurl
      exact absurd hvisible (by decide)
  have hshown := projects_show_usable_links_iff { ruleWidth := 3 } none ⟨0, 0, 0⟩
    [.load workshop] rfl rfl (List.cons_ne_nil _ _)
  exact ⟨rfl, rfl, List.cons_ne_nil _ _, hshown.2.1.mpr hlinks, by decide⟩

/-- A list with nothing but a label in it, before an older link. -/
def labelledProject : Project where
  name := "Desk"
  links := [{ label := "Docs" }]
  link := some "x/desk"

theorem unusable_list_hides_link :
    ((start { ruleWidth := 3 } (some { projects := some [labelledProject] }) ⟨0, 0, 0⟩).submit
        "projects").2 =
      [.line "hacker@cyberdesk $ projects", .line "PROJECTS", .line "===", .line "",
        .line "Desk", .setInput ""] ∧
      labelledProject.account = ["Desk", "", "", "Link: x/desk", ""] := by
  decide

end Session
end ResumeTerminal
