import ResumeTerminal.Proofs.Page.Layout
import ResumeTerminal.Proofs.Session.Page

/-! Texts with two spellings on the pages of a profile. The current spelling goes first and the
older one stands in for it. The choice is made by what is empty, though, and what is shown by what
is visible, so a current text of blanks alone keeps its place and shows nothing. -/
namespace ResumeTerminal

/-- The current text if there is something to see in it, and otherwise the older one. -/
def firstVisible (current older : Option String) : Option String :=
  (current.filter Text.isVisible).or (older.filter Text.isVisible)

/-- A current text of blanks alone, and not empty, stands before a visible older one. -/
structure BlankHidesOlder (current older : Option String) : Prop where
  blank : ∃ text, current = some text ∧ text ≠ "" ∧ Text.isBlank text = true
  older : ∃ text, older = some text ∧ Text.isVisible text = true

/-- What is to be seen of a text with two spellings. -/
structure ShowsSpelling (shown current older : Option String) : Prop where
  first_visible : ¬ BlankHidesOlder current older → shown = firstVisible current older
  nothing : BlankHidesOlder current older → shown = none

/-- What is visible is not empty, so looking for both is looking for the one. -/
theorem visible_filter_filled (text : Option String) :
    Page.visible (text.filter (!·.isEmpty)) = text.filter Text.isVisible := by
  rw [Page.visible, Option.filter_filter]
  congr 1
  funext text
  rw [Bool.eq_iff_iff, Bool.and_eq_true, and_iff_right_iff_imp]
  intro hvisible
  rw [Text.isEmpty_of_isVisible hvisible]
  rfl

theorem firstFilled_of_filled {text : String} (h : text ≠ "") (older : Option String) :
    firstFilled (some text) older = some text := by
  have hfilled : (!text.isEmpty) = true := by simpa using h
  rw [firstFilled, Option.filter_some, if_pos hfilled]
  rfl

theorem firstFilled_of_empty {current : Option String} (h : ∀ text, current = some text → text = "")
    (older : Option String) : firstFilled current older = older.filter (!·.isEmpty) := by
  have hnone : current.filter (!·.isEmpty) = none := by
    rw [Option.filter_eq_none_iff]
    intro text htext
    rw [h text htext]
    decide
  rw [firstFilled, hnone]
  rfl

theorem showsSpelling_firstFilled (current older : Option String) :
    ShowsSpelling (Page.visible (firstFilled current older)) current older where
  first_visible := by
    intro hnot
    by_cases hfilled : ∃ text, current = some text ∧ text ≠ ""
    · obtain ⟨text, rfl, hne⟩ := hfilled
      rw [firstFilled_of_filled hne, firstVisible, Page.visible]
      by_cases hblank : Text.isBlank text = true
      · -- Nothing to see in the current text, and so there is nothing in the older one.
        have holder : older.filter Text.isVisible = none := by
          rw [Option.filter_eq_none_iff]
          intro other hother hvisible
          exact hnot ⟨⟨text, rfl, hne, hblank⟩, ⟨other, hother, hvisible⟩⟩
        rw [Text.filter_isVisible_of_blank hblank, holder, Option.none_or]
      · have hvisible : Text.isVisible text = true := by
          rw [Text.isVisible, Bool.eq_false_iff.mpr hblank]
          rfl
        rw [Option.filter_some, if_pos hvisible, Option.some_or]
    · push Not at hfilled
      have hnone : current.filter Text.isVisible = none := by
        rw [Option.filter_eq_none_iff]
        intro text htext
        rw [hfilled text htext]
        decide
      rw [firstFilled_of_empty hfilled, visible_filter_filled, firstVisible, hnone, Option.none_or]
  nothing := by
    rintro ⟨⟨text, rfl, hne, hblank⟩, -⟩
    rw [firstFilled_of_filled hne, Page.visible, Text.filter_isVisible_of_blank hblank]

/-- A row shows what there is to see in the text that it is made of. -/
theorem visible_getD (text : Option String) :
    Page.visible (some (text.getD "")) = Page.visible text := by
  cases text with
  | none => decide
  | some text => rfl

/-! Where the texts stand. -/

/-- The first row names the company and the title. -/
def Job.ShowsTitle (job : Job) (block : List String) : Prop :=
  ∃ title rest, block = (job.company ++ (title.map (" - " ++ ·)).getD "") :: rest ∧
    ShowsSpelling title job.title job.position

theorem showsTitle_jobRows (job : Job) : job.ShowsTitle (Page.jobRows job) :=
  ⟨Page.visible job.heading, _, rfl, showsSpelling_firstFilled job.title job.position⟩

/-- The second row is the summary. -/
def Project.ShowsSummary (project : Project) (block : List String) : Prop :=
  ∃ summary rest, block = project.name :: summary :: rest ∧
    ShowsSpelling (Page.visible (some summary)) project.summary project.description

theorem showsSummary_projectRows (project : Project) :
    project.ShowsSummary (Page.projectRows project) := by
  refine ⟨project.about.getD "", _, rfl, ?_⟩
  rw [visible_getD]
  exact showsSpelling_firstFilled project.summary project.description

namespace Schooling

/-- The year of a graduation if there is something to see in it, and otherwise the period. -/
def statedTime (schooling : Schooling) : Option String :=
  (((schooling.graduationYear.map Scalar.display).filter Text.isVisible).map
    ("Graduated: " ++ ·)).or (schooling.period.filter Text.isVisible)

def HasBlankYear (schooling : Schooling) : Prop :=
  ∃ year, schooling.graduationYear = some year ∧ Text.isBlank year.display = true

structure ShowsTime (schooling : Schooling) (time : String) : Prop where
  stated : ¬ schooling.HasBlankYear → Page.visible (some time) = schooling.statedTime
  /-- A year without anything to see in it is announced all the same. -/
  announced : schooling.HasBlankYear →
    time = "Graduated: " ++ ((schooling.graduationYear.map Scalar.display).getD "")

/-- The first row is the school, the second one the degree, and the third one begins with the
time. -/
def ShowsSchool (schooling : Schooling) (block : List String) : Prop :=
  ∃ school time place rest, block = school :: schooling.degree :: (time ++ place) :: rest ∧
    place = ((schooling.location.filter Text.isVisible).map (" | " ++ ·)).getD "" ∧
    ShowsSpelling (Page.visible (some school)) schooling.school schooling.institution ∧
    schooling.ShowsTime time

theorem isVisible_graduated (year : String) : Text.isVisible ("Graduated: " ++ year) = true := by
  have hstart : Text.isVisible "Graduated: " = true := by decide
  rw [Text.isVisible_append, hstart, Bool.true_or]

theorem showsTime_of_year {schooling : Schooling} {year : Scalar}
    (h : schooling.graduationYear = some year) :
    schooling.ShowsTime ("Graduated: " ++ year.display) where
  stated := by
    intro hnot
    have hyear : Text.isVisible year.display = true := by
      rw [Text.isVisible, Bool.not_eq_true']
      exact Bool.eq_false_iff.mpr fun hblank => hnot ⟨year, h, hblank⟩
    rw [statedTime, h, Page.visible, Option.filter_some, if_pos (isVisible_graduated _),
      Option.map_some, Option.filter_some, if_pos hyear, Option.map_some, Option.some_or]
  announced _ := by rw [h, Option.map_some, Option.getD_some]

theorem showsTime_of_period {schooling : Schooling} (h : schooling.graduationYear = none) :
    schooling.ShowsTime (schooling.period.getD "") where
  stated _ := by
    rw [statedTime, h, visible_getD]
    rfl
  announced := by
    rintro ⟨year, hyear, -⟩
    rw [h] at hyear
    cases hyear

theorem showsSchool_schoolingRows (schooling : Schooling) :
    schooling.ShowsSchool (Page.schoolingRows schooling) := by
  have hschool : ShowsSpelling (Page.visible (some schooling.place)) schooling.school
      schooling.institution := by
    rw [place, visible_getD]
    exact showsSpelling_firstFilled _ _
  let rest := "" ::
    if schooling.highlights.isEmpty then [] else schooling.highlights.map Page.bullet ++ [""]
  cases hyear : schooling.graduationYear with
  | some year =>
    refine ⟨schooling.place, "Graduated: " ++ year.display, _, rest, ?_, rfl, hschool,
      showsTime_of_year hyear⟩
    rw [Page.schoolingRows, hyear]
    rfl
  | none =>
    refine ⟨schooling.place, schooling.period.getD "", _, rest, ?_, rfl, hschool,
      showsTime_of_period hyear⟩
    rw [Page.schoolingRows, hyear]
    rfl

end Schooling

namespace Session

/-- Every record has its block, and in it the first of two spellings that is visible. Only where a
text of blanks hides an older one, nothing is shown of both. -/
theorem pages_show_spellings (config : Config) (initial : Option Profile) (now : Timestamp)
    (operations : List Operation) {profile : Profile}
    (h : ((start config initial now).after operations).profile = some profile) :
    let session := (start config initial now).after operations
    (∀ jobs, profile.experience = some jobs →
      session.ShowsBlocks "experience" (Page.heading "WORK EXPERIENCE" config.ruleWidth) jobs
        Page.jobRows ∧ ∀ job ∈ jobs, job.ShowsTitle (Page.jobRows job)) ∧
    (∀ records, profile.education = some records →
      session.ShowsBlocks "education" (Page.heading "EDUCATION" config.ruleWidth) records
        Page.schoolingRows ∧ ∀ record ∈ records, record.ShowsSchool (Page.schoolingRows record)) ∧
    ∀ list, profile.projects = some list → list ≠ [] →
      session.ShowsBlocks "projects" (Page.heading "PROJECTS" config.ruleWidth) list
        Page.projectRows ∧ ∀ project ∈ list, project.ShowsSummary (Page.projectRows project) := by
  intro session
  refine ⟨?_, ?_, ?_⟩
  · intro jobs hjobs
    exact ⟨showsBlocks_experience h hjobs, fun job _ => showsTitle_jobRows job⟩
  · intro records hrecords
    exact ⟨showsBlocks_education h hrecords, fun record _ => record.showsSchool_schoolingRows⟩
  · intro list hlist hne
    exact ⟨showsBlocks_projects h hlist hne, fun project _ => showsSummary_projectRows project⟩

/-- Records of the older spelling, one of them beside an empty current text. -/
def olderRecords : Profile where
  experience := some [{ company := "Acme", title := some "", position := some "Dev" }]
  education := some [{ institution := some "MIT", degree := "BSc", period := some "2010" }]
  projects := some [{ name := "Engine", description := some "Gears" }]

theorem pages_show_older_records :
    let session := (start { ruleWidth := 5 } none ⟨0, 0, 0⟩).after [.load olderRecords]
    session.profile = some olderRecords ∧
      session.Tells "experience" "WORK EXPERIENCE\n=====\n\nAcme - Dev" ∧
      session.Tells "education" "EDUCATION\n=====\n\nMIT\nBSc\n2010" ∧
      session.Tells "projects" "PROJECTS\n=====\n\nEngine\nGears" := by
  intro session
  obtain ⟨hjobs, hschooling, hprojects⟩ :=
    pages_show_spellings { ruleWidth := 5 } none ⟨0, 0, 0⟩ [.load olderRecords] rfl
  refine ⟨rfl, (hjobs _ rfl).1.tells, (hschooling _ rfl).1.tells, ?_⟩
  exact (hprojects _ rfl (List.cons_ne_nil _ _)).1.tells

/-- Blanks in the place of a title and of a school, and a year without anything in it. -/
def blankRecords : Profile where
  experience := some [{ company := "Acme", title := some " ", position := some "Dev" }]
  education := some
    [{ school := some " ", institution := some "MIT", degree := "BSc",
       graduationYear := some (.text ""), period := some "2010" }]

theorem blank_texts_hide_older_records :
    let session := start { ruleWidth := 5 } (some blankRecords) ⟨0, 0, 0⟩
    (session.submit "experience").2 =
        [.line "hacker@cyberdesk $ experience", .line "WORK EXPERIENCE", .line "=====", .line "",
          .line "Acme", .setInput ""] ∧
      firstVisible (some " ") (some "Dev") = some "Dev" ∧
      (session.submit "education").2 =
        [.line "hacker@cyberdesk $ education", .line "EDUCATION", .line "=====", .line "",
          .line " ", .line "BSc", .line "Graduated:", .setInput ""] := by
  decide

end Session
end ResumeTerminal
