import ResumeTerminal.Proofs.Command.Catalog
import ResumeTerminal.Proofs.Command.Listing
import ResumeTerminal.Proofs.Text.Rows
import ResumeTerminal.Proofs.Text.Trimming

/-! The overview of all commands. It goes through the listing once and remembers the category it
is in, which puts one heading over every group that has commands and none over the others, since
the listing never comes back to a category. -/
namespace ResumeTerminal

namespace Environment

/-- Within a category there is no further heading. -/
theorem commandRows_append (labelWidth : Nat) {category : Category}
    {group : List (String × Command)} (h : ∀ member ∈ group, member.2.category = category)
    (rest : List (String × Command)) :
    commandRows labelWidth (some category) (group ++ rest) =
      group.map (commandRow labelWidth) ++ commandRows labelWidth (some category) rest := by
  induction group with
  | nil => rfl
  | cons entry entries ih =>
    have hentries := ih fun member hmember => h member (List.mem_cons_of_mem entry hmember)
    rw [List.cons_append, commandRows, h entry List.mem_cons_self, if_pos rfl, List.nil_append,
      hentries, List.map_cons, List.cons_append]

/-- Groups of different categories, one behind the other, have a heading each. -/
theorem commandRows_flatMap (labelWidth : Nat) {categories : List Category}
    (hnodup : categories.Nodup) {group : Category → List (String × Command)}
    (hgroup : ∀ category, ∀ member ∈ group category, member.2.category = category)
    (current : Option Category) (hcurrent : ∀ category ∈ categories, current ≠ some category) :
    commandRows labelWidth current (categories.flatMap group) =
      categories.flatMap fun category =>
        titled category.heading ((group category).map (commandRow labelWidth)) := by
  induction categories generalizing current with
  | nil => rfl
  | cons category rest ih =>
    obtain ⟨hnew, hrest⟩ := List.nodup_cons.mp hnodup
    rw [List.flatMap_cons, List.flatMap_cons]
    cases hentries : group category with
    | nil =>
      -- An empty group leaves the category as it was.
      exact ih hrest current fun later hlater =>
        hcurrent later (List.mem_cons_of_mem category hlater)
    | cons entry entries =>
      have hcategory : ∀ member ∈ entry :: entries, member.2.category = category := by
        rw [← hentries]
        exact hgroup category
      have hsame := commandRows_append labelWidth
        (fun member hmember => hcategory member (List.mem_cons_of_mem entry hmember))
        (rest.flatMap group)
      have hnext : ∀ later ∈ rest, some category ≠ some later := by
        rintro later hlater ⟨⟩
        exact hnew hlater
      rw [List.cons_append, commandRows, hcategory entry List.mem_cons_self,
        if_neg (hcurrent category List.mem_cons_self), hsame, ih hrest _ hnext]
      rfl

theorem overviewRows_eq (env : Environment) (labelWidth : Nat) :
    env.overviewRows labelWidth =
      "Available commands:" ::
        (Category.order.flatMap fun category =>
          titled category.heading ((env.registry.group category).map (commandRow labelWidth)))
        ++ titled "Aliases" (env.aliases.entries.map (aliasRow labelWidth)) := by
  have hgroup : ∀ category, ∀ member ∈ env.registry.group category,
      member.2.category = category := by
    intro category member hmember
    exact beq_iff_eq.mp (List.mem_filter.mp hmember).2
  have hrows := commandRows_flatMap labelWidth (by decide : Category.order.Nodup) hgroup none
    fun _ _ => nofun
  rw [overviewRows, Registry.listing, hrows]

/-! What the overview says, category by category. -/

/-- A row with a label in a column of its own, a mark, and what stands for the label. -/
def labelled (labelWidth : Nat) (mark label content : String) : String :=
  "  " ++ label ++ String.ofList (List.replicate (labelWidth - label.length) ' ') ++ mark
    ++ content

/-- The label of a row, up to the first space behind the two that it begins with. -/
def label? (row : String) : Option String :=
  match row.toList with
  | ' ' :: ' ' :: rest => some (String.ofList (rest.takeWhile (· != ' ')))
  | _ => none

def groupSection (env : Environment) (labelWidth : Nat) (category : Category) : List String :=
  "" :: (category.heading ++ ":") ::
    (env.registry.entries.filter (·.2.category == category)).map fun (name, command) =>
      labelled labelWidth " - " name command.description

def aliasSection (env : Environment) (labelWidth : Nat) : List String :=
  "" :: "Aliases:" :: env.aliases.entries.map fun (name, expansion) =>
    labelled labelWidth " -> " name expansion

/-- The categories that have commands. -/
def shownCategories (env : Environment) : List Category :=
  Category.order.filter fun category =>
    env.registry.entries.any fun entry => entry.2.category == category

def groupRows (env : Environment) (labelWidth : Nat) : List String :=
  env.shownCategories.flatMap (env.groupSection labelWidth)

def sections (env : Environment) (labelWidth : Nat) : List String :=
  "Available commands:" :: env.groupRows labelWidth
    ++ if env.aliases.entries = [] then [] else env.aliasSection labelWidth

/-- A text that presents all commands and aliases of the terminal. -/
structure Presents (env : Environment) (labelWidth : Nat) (text : String) : Prop where
  /-- Nothing but blanks at the very end is left away. -/
  rows_eq : ∃ blanks, (∀ c ∈ blanks, Text.isBlankChar c = true) ∧
    String.join ((env.sections labelWidth).map (· ++ "\n")) = text ++ String.ofList blanks
  closed : ∀ c ∈ text.toList.getLast?, Text.isBlankChar c = false
  shown_iff : ∀ category, category ∈ env.shownCategories ↔
    ∃ entry ∈ env.registry.entries, entry.2.category = category
  headings : Function.Injective Category.heading ∧
    ∀ category : Category, Text.isVisible category.heading = true
  /-- No group takes more rows than it says. -/
  single_rows : ∀ row ∈ env.groupRows labelWidth, '\n' ∉ row.toList
  /-- A command has one row, and this row is under the heading of its category. -/
  one_row : ∀ entry ∈ env.registry.entries,
    (env.groupRows labelWidth).countP (label? · == some entry.1) = 1 ∧
    ∀ category, (env.groupSection labelWidth category).countP (label? · == some entry.1) =
      if category = entry.2.category then 1 else 0

theorem commandRow_eq (labelWidth : Nat) (entry : String × Command) :
    commandRow labelWidth entry = labelled labelWidth " - " entry.1 entry.2.description := by
  simp only [commandRow, labelled, Text.padRight, Text.spaces, String.append_assoc]

theorem aliasRow_eq (labelWidth : Nat) (entry : String × String) :
    aliasRow labelWidth entry = labelled labelWidth " -> " entry.1 entry.2 := by
  simp only [aliasRow, labelled, Text.padRight, Text.spaces, String.append_assoc]

theorem toList_labelled (labelWidth : Nat) (mark label content : String) :
    (labelled labelWidth mark label content).toList =
      ' ' :: ' ' :: (label.toList ++ (List.replicate (labelWidth - label.length) ' ' ++
        (mark.toList ++ content.toList))) := by
  simp [labelled]

/-- A label without spaces ends where its column goes on, or at the mark. -/
theorem label?_labelled (labelWidth : Nat) {label : String} (h : Text.IsWord label)
    (content : String) : label? (labelled labelWidth " - " label content) = some label := by
  have hlabel : ∀ c ∈ label.toList, (c != ' ') = true := by
    intro c hc
    rw [bne_iff_ne]
    rintro rfl
    exact absurd (h _ hc) (by decide)
  have hspace : (List.replicate (labelWidth - label.length) ' ' ++
      (" - ".toList ++ content.toList)).takeWhile (· != ' ') = [] := by
    cases labelWidth - label.length <;> rfl
  rw [label?, toList_labelled]
  simp only [List.takeWhile_append_of_pos hlabel, hspace, List.append_nil, String.ofList_toList]

theorem label?_heading (category : Category) : label? (category.heading ++ ":") = none := by
  cases category <;> decide

theorem injective_heading : Function.Injective Category.heading := by
  intro a b
  cases a <;> cases b <;> decide

theorem titled_group (env : Environment) (labelWidth : Nat) (category : Category) :
    titled category.heading ((env.registry.group category).map (commandRow labelWidth)) =
      if env.registry.entries.any (fun entry => entry.2.category == category) then
        env.groupSection labelWidth category
      else [] := by
  have hrows : (env.registry.group category).map (commandRow labelWidth) =
      (env.registry.entries.filter (·.2.category == category)).map fun (name, command) =>
        labelled labelWidth " - " name command.description :=
    List.map_congr_left fun entry _ => commandRow_eq labelWidth entry
  have hempty : (env.registry.group category).isEmpty =
      !env.registry.entries.any fun entry => entry.2.category == category := by
    rw [Bool.eq_iff_iff, List.isEmpty_iff, Registry.group, List.filter_eq_nil_iff]
    simp
  rw [titled, List.isEmpty_map, hempty, hrows, groupSection]
  cases env.registry.entries.any fun entry => entry.2.category == category <;> rfl

theorem flatMap_titled (env : Environment) (labelWidth : Nat) :
    (Category.order.flatMap fun category =>
      titled category.heading ((env.registry.group category).map (commandRow labelWidth))) =
        env.groupRows labelWidth := by
  simp only [titled_group]
  rw [groupRows, shownCategories]
  induction Category.order with
  | nil => rfl
  | cons category rest ih =>
    rw [List.flatMap_cons, ih, List.filter_cons]
    split <;> rfl

theorem overviewRows_eq_sections (env : Environment) (labelWidth : Nat) :
    env.overviewRows labelWidth = env.sections labelWidth := by
  have hrows : env.aliases.entries.map (aliasRow labelWidth) =
      env.aliases.entries.map fun (name, expansion) =>
        labelled labelWidth " -> " name expansion :=
    List.map_congr_left fun entry _ => aliasRow_eq labelWidth entry
  have haliases : titled "Aliases" (env.aliases.entries.map (aliasRow labelWidth)) =
      if env.aliases.entries = [] then [] else env.aliasSection labelWidth := by
    rw [titled, List.isEmpty_map, hrows, aliasSection]
    simp only [List.isEmpty_iff]
    rfl
  rw [overviewRows_eq, flatMap_titled, haliases, sections]

/-- Without a profile there is a single group. -/
example :
    let registry := Registry.registerAll {} (Command.all none {})
    overviewRows ⟨registry, AliasTable.ofPairs [("h", "help")], [], ⟨0, 0, 0⟩⟩ 8 =
      ["Available commands:", "", "System:", "  help     - Show available commands",
        "  clear    - Clear terminal screen", "  history  - Show command history",
        "  date     - Show current date and time", "  whoami   - Display current user", "",
        "Aliases:", "  h        -> help"] := by
  decide

theorem mem_shownCategories_iff (env : Environment) (category : Category) :
    category ∈ env.shownCategories ↔
      ∃ entry ∈ env.registry.entries, entry.2.category = category := by
  rw [shownCategories, List.mem_filter, and_iff_right (Category.mem_order category),
    List.any_eq_true]
  simp only [beq_iff_eq]

theorem nodup_shownCategories (env : Environment) : env.shownCategories.Nodup :=
  (by decide : Category.order.Nodup).filter _

/-- Names tell the entries apart, so a command is in the group of its category alone. -/
theorem count_names_group (registry : Registry) {entry : String × Command}
    (hentry : entry ∈ registry.entries) (category : Category) :
    ((registry.group category).map (·.1)).count entry.1 =
      if category = entry.2.category then 1 else 0 := by
  have hsublist : ((registry.group category).map (·.1)).Sublist registry.names :=
    List.filter_sublist.map _
  have hmem : entry.1 ∈ (registry.group category).map (·.1) ↔ category = entry.2.category := by
    constructor
    · intro hname
      obtain ⟨same, hsame, heq⟩ := List.mem_map.mp hname
      obtain ⟨hsame, hcategory⟩ := List.mem_filter.mp hsame
      rw [List.inj_on_of_nodup_map registry.nodup_names hsame hentry heq] at hcategory
      exact (beq_iff_eq.mp hcategory).symm
    · rintro rfl
      exact List.mem_map_of_mem (List.mem_filter.mpr ⟨hentry, beq_self_eq_true _⟩)
  rw [(registry.nodup_names.sublist hsublist).count]
  simp only [hmem]

section Counting
variable {env : Environment} (labelWidth : Nat)
  (hwords : ∀ entry ∈ env.registry.entries, Text.IsWord entry.1)
  {entry : String × Command} (hentry : entry ∈ env.registry.entries)
include hwords

/-- Of the rows under a heading the labels are the names of its group. -/
theorem filterMap_label?_groupSection (category : Category) :
    (env.groupSection labelWidth category).filterMap label? =
      (env.registry.group category).map (·.1) := by
  have hempty : label? "" = none := rfl
  have hlabels : ∀ member ∈ env.registry.group category,
      label? (labelled labelWidth " - " member.1 member.2.description) = some member.1 := by
    intro member hmember
    exact label?_labelled labelWidth (hwords member (List.mem_of_mem_filter hmember)) _
  rw [groupSection, List.filterMap_cons_none hempty,
    List.filterMap_cons_none (label?_heading category), List.filterMap_map,
    ← List.filterMap_eq_map]
  exact List.filterMap_congr hlabels

include hentry

theorem countP_groupSection (category : Category) :
    (env.groupSection labelWidth category).countP (label? · == some entry.1) =
      if category = entry.2.category then 1 else 0 := by
  rw [← List.count_filterMap, filterMap_label?_groupSection labelWidth hwords,
    count_names_group env.registry hentry]

theorem countP_flatMap_groupSection (categories : List Category) :
    (categories.flatMap (env.groupSection labelWidth)).countP (label? · == some entry.1) =
      categories.count entry.2.category := by
  induction categories with
  | nil => rfl
  | cons category rest ih =>
    rw [List.flatMap_cons, List.countP_append, ih,
      countP_groupSection labelWidth hwords hentry, List.count_cons, Nat.add_comm]
    simp only [beq_iff_eq]

theorem countP_groupRows :
    (env.groupRows labelWidth).countP (label? · == some entry.1) = 1 := by
  have hshown := (env.mem_shownCategories_iff entry.2.category).mpr ⟨entry, hentry, rfl⟩
  rw [groupRows, countP_flatMap_groupSection labelWidth hwords hentry,
    List.count_eq_one_of_mem env.nodup_shownCategories hshown]

end Counting

theorem line_feed_not_mem_labelled (labelWidth : Nat) {mark label content : String}
    (hmark : '\n' ∉ mark.toList) (hlabel : '\n' ∉ label.toList)
    (hcontent : '\n' ∉ content.toList) :
    '\n' ∉ (labelled labelWidth mark label content).toList := by
  have hpad : '\n' ∉ List.replicate (labelWidth - label.length) ' ' := by
    intro hmem
    exact absurd (List.eq_of_mem_replicate hmem) (by decide)
  simp only [toList_labelled, List.mem_cons, List.mem_append, not_or]
  exact ⟨by decide, by decide, hlabel, hpad, hmark, hcontent⟩

theorem line_feed_not_mem_groupRows (env : Environment) (labelWidth : Nat)
    (h : ∀ entry ∈ env.registry.entries,
      Text.IsWord entry.1 ∧ '\n' ∉ entry.2.description.toList) {row : String}
    (hrow : row ∈ env.groupRows labelWidth) : '\n' ∉ row.toList := by
  obtain ⟨category, -, hrow⟩ := List.mem_flatMap.mp hrow
  rw [groupSection, List.mem_cons, List.mem_cons, List.mem_map] at hrow
  rcases hrow with rfl | rfl | ⟨entry, hentry, rfl⟩
  · decide
  · cases category <;> decide
  · obtain ⟨hword, hdescription⟩ := h entry (List.mem_of_mem_filter hentry)
    exact line_feed_not_mem_labelled labelWidth (by decide) hword.not_mem_line_feed hdescription

theorem presents_overview (env : Environment) (labelWidth : Nat)
    (h : ∀ entry ∈ env.registry.entries,
      Text.IsWord entry.1 ∧ '\n' ∉ entry.2.description.toList) :
    env.Presents labelWidth (Page.layout (env.overviewRows labelWidth)) where
  rows_eq := by
    obtain ⟨blanks, hblanks, htext⟩ := Text.exists_trimEnd_append
      (String.join ((env.overviewRows labelWidth).map (· ++ "\n")))
    exact ⟨blanks, hblanks, by rwa [← overviewRows_eq_sections]⟩
  closed := Text.isBlankChar_getLast?_trimEnd _
  shown_iff := env.mem_shownCategories_iff
  headings := by
    refine ⟨injective_heading, ?_⟩
    intro category
    cases category <;> decide
  single_rows _ := env.line_feed_not_mem_groupRows labelWidth h
  one_row entry hentry := by
    have hwords : ∀ entry ∈ env.registry.entries, Text.IsWord entry.1 :=
      fun entry hentry => (h entry hentry).1
    exact ⟨countP_groupRows labelWidth hwords hentry,
      countP_groupSection labelWidth hwords hentry⟩

theorem run_help (env : Environment) (labelWidth : Nat) :
    env.run (.help labelWidth) [] = .ok (.text (Page.layout (env.overviewRows labelWidth))) := rfl

end Environment

/-- However commands come up, they are listed once each in the order of their groups, and `help`
shows the ones of a profile so, before the aliases. -/
theorem help_presents_listing :
    (∀ commands : List Command,
      Registry.Lists commands (Registry.registerAll {} commands).listing) ∧
    ∀ (profile : Option Profile) (config : Config) (aliases : AliasTable)
      (history : List String) (now : Timestamp),
      let registry := Registry.registerAll {} (Command.all profile config)
      let env : Environment := ⟨registry, aliases, history, now⟩
      ∃ help text, registry.lookup "help" = some help ∧
        env.run help.action [] = .ok (.text text) ∧ env.Presents config.labelWidth text := by
  refine ⟨Registry.listing_lists, ?_⟩
  intro profile config aliases history now registry env
  obtain ⟨help, hmem, hname, haction⟩ := Command.exists_mem_all_help profile config
  have hlower : "help" = Text.lower "help" := by decide
  have hlookup : registry.lookup "help" = some help :=
    Command.lookup_all_eq_some_iff.mpr ⟨hmem, hname.trans hlower⟩
  have hrun : env.run help.action [] =
      .ok (.text (Page.layout (env.overviewRows config.labelWidth))) := by
    rw [haction, Environment.run_help]
  have hentries : ∀ entry ∈ registry.entries,
      Text.IsWord entry.1 ∧ '\n' ∉ entry.2.description.toList := by
    intro entry hentry
    obtain ⟨hmem, hname⟩ := Command.mem_all_of_mem_entries hentry
    rw [hname]
    exact ⟨(Command.isWord_name_of_mem_all hmem).1, Command.line_feed_not_mem_description hmem⟩
  exact ⟨help, _, hlookup, hrun, env.presents_overview config.labelWidth hentries⟩

end ResumeTerminal
