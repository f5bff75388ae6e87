import ResumeTerminal.Proofs.Session.Page

/-! What the page of the jobs says of each of them. A place stands on the row of the time, and a job
with neither dates nor a period has no such row, so its place is the one thing that gets lost. -/
namespace ResumeTerminal

namespace Job

/-- When a job was held: between its dates, up to the present if they are open, or else in its
period. -/
def time? (job : Job) : Option String :=
  match job.dates with
  | some dates =>
    let start := (dates.start.map Scalar.display).getD ""
    let finish := ((dates.finish.map Scalar.display).filter Text.isVisible).getD "Present"
    some (start ++ " - " ++ finish)
  | none => job.period

def headline (job : Job) : String :=
  job.company ++ ((job.heading.filter Text.isVisible).map (" - " ++ ·)).getD ""

def placeNote? (job : Job) : Option String :=
  (job.location.filter Text.isVisible).map (" | " ++ ·)

def kindRow? (job : Job) : Option String :=
  (job.employmentType.filter Text.isVisible).map fun kind => "(" ++ Text.trim kind ++ ")"

/-- All that there is to see of a job: company and title, time and place, the kind of employment,
and point by point what was done. -/
def account (job : Job) : List String :=
  job.headline :: (job.time?.merge (· ++ ·) job.placeNote?).toList ++ job.kindRow?.toList
    ++ "" :: job.points.map ("  • " ++ ·) ++ [""]

/-- A visible place without dates and without a period. -/
structure LosesPlace (job : Job) : Prop where
  no_dates : job.dates = none
  no_period : job.period = none
  place : ∃ place, job.location = some place ∧ Text.isVisible place = true

/-- Without a time the place of a job is passed over. -/
def withoutLostPlace (job : Job) : Job :=
  if job.time?.isSome then job else { job with location := none }

theorem jobRows_eq (job : Job) :
    Page.jobRows job =
      job.headline :: (job.time?.map (· ++ job.placeNote?.getD "")).toList ++ job.kindRow?.toList
        ++ "" :: job.points.map ("  • " ++ ·) ++ [""] := by
  have htime : (job.dates.map Page.spanText <|> job.period) = job.time? := by
    rw [time?]
    cases job.dates <;> rfl
  rw [Page.jobRows, htime]
  rfl

theorem time?_eq_none_iff (job : Job) :
    job.time? = none ↔ job.dates = none ∧ job.period = none := by
  rw [time?]
  cases job.dates <;> simp

theorem account_of_time {job : Job} {time : String} (h : job.time? = some time) :
    Page.jobRows job = job.account := by
  rw [jobRows_eq, account, h]
  cases job.placeNote? with
  | none => rw [Option.map_some, Option.getD_none, String.append_empty, Option.merge_none_right]
  | some note => rfl

theorem account_of_place_none {job : Job} (h : job.placeNote? = none) :
    Page.jobRows job = job.account := by
  rw [jobRows_eq, account, h]
  cases job.time? with
  | none => rfl
  | some time =>
    rw [Option.map_some, Option.getD_none, String.append_empty, Option.merge_none_right]

theorem placeNote?_eq_none {job : Job} (htime : job.time? = none) (h : ¬ job.LosesPlace) :
    job.placeNote? = none := by
  obtain ⟨hdates, hperiod⟩ := job.time?_eq_none_iff.mp htime
  rw [placeNote?, Option.map_eq_none_iff, Option.filter_eq_none_iff]
  intro place hplace hvisible
  exact h ⟨hdates, hperiod, ⟨place, hplace, hvisible⟩⟩

theorem jobRows_eq_account {job : Job} (h : ¬ job.LosesPlace) :
    Page.jobRows job = job.account := by
  cases htime : job.time? with
  | some time => exact account_of_time htime
  | none => exact account_of_place_none (placeNote?_eq_none htime h)

theorem jobRows_eq_account_withoutLostPlace (job : Job) :
    Page.jobRows job = job.withoutLostPlace.account := by
  rw [withoutLostPlace]
  cases htime : job.time? with
  | some time => exact account_of_time htime
  | none =>
    obtain ⟨hdates, hperiod⟩ := job.time?_eq_none_iff.mp htime
    have hrows : Page.jobRows job = Page.jobRows { job with location := none } := by
      rw [Page.jobRows, Page.jobRows, hdates, hperiod]
      rfl
    rw [if_neg (by decide), hrows]
    exact account_of_place_none rfl

/-- The page has one row less than there is to say, and the row is a visible one. -/
theorem length_rowsInk_of_losesPlace {job : Job} (h : job.LosesPlace) :
    (Page.rowsInk (Page.jobRows job)).length < (Page.rowsInk job.account).length := by
  have htime : job.time? = none := job.time?_eq_none_iff.mpr ⟨h.no_dates, h.no_period⟩
  obtain ⟨place, hplace, hvisible⟩ := h.place
  have hnote : job.placeNote? = some (" | " ++ place) := by
    rw [placeNote?, hplace, Option.filter_some, if_pos hvisible, Option.map_some]
  have hrow : Text.isVisible (" | " ++ place) = true := by
    rw [Text.isVisible_append, hvisible, Bool.or_true]
  rw [jobRows_eq, account, htime, hnote]
  exact Page.length_rowsInk_lt [job.headline] _ hrow

end Job

namespace Session

/-- All jobs are shown, each with all that there is to see of it but a place without a time. So
nothing is lost as long as no job has such a place, and otherwise something visible is. -/
theorem experience_shows_accounts_iff (config : Config) (initial : Option Profile)
    (now : Timestamp) (operations : List Operation) {profile : Profile}
    (h : ((start config initial now).after operations).profile = some profile) {jobs : List Job}
    (hjobs : profile.experience = some jobs) :
    let session := (start config initial now).after operations
    let top := Page.heading "WORK EXPERIENCE" config.ruleWidth
    session.ShowsBlocks "experience" top jobs (fun job => job.withoutLostPlace.account) ∧
      (session.ShowsBlocks "experience" top jobs Job.account ↔
        ∀ job ∈ jobs, ¬ job.LosesPlace) := by
  intro session top
  have hshown : session.ShowsBlocks "experience" top jobs Page.jobRows :=
    showsBlocks_experience h hjobs
  have hrows : Page.jobRows = fun job => job.withoutLostPlace.account :=
    funext Job.jobRows_eq_account_withoutLostPlace
  refine ⟨hrows ▸ hshown, hshown.full_iff ?_ ?_⟩
  · exact fun job => Job.jobRows_eq_account
  · exact fun job => Job.length_rowsInk_of_losesPlace

/-- An open end, a blank place, and a period with nothing to see in it. -/
def careerJobs : List Job :=
  [{ company := "Acme", title := some "Engineer", location := some "Remote",
     dates := some { start := some (.text "2020"), finish := some (.text " ") },
     employmentType := some " Full-time", highlights := some ["Shipped it"] },
   { company := "Home", location := some " " },
   { company := "Engines", position := some "Programmer", location := some "London",
     period := some "" }]

def career : Profile where
  experience := some careerJobs

theorem experience_shows_career :
    let session := (start { ruleWidth := 5 } none ⟨0, 0, 0⟩).after [.load career]
    session.profile = some career ∧ career.experience = some careerJobs ∧
      session.ShowsBlocks "experience" ["WORK EXPERIENCE", "=====", ""] careerJobs Job.account ∧
      careerJobs.map Job.account =
        [["Acme - Engineer", "2020 - Present | Remote", "(Full-time)", "", "  • Shipped it", ""],
         ["Home", "", ""],
         ["Engines - Programmer", " | London", "", ""]] := by
  intro session
  have hplaces : ∀ job ∈ careerJobs, ¬ job.LosesPlace := by
    rintro job hjob ⟨hdates, hperiod, place, hplace, hvisible⟩
    simp only [careerJobs, List.mem_cons, List.not_mem_nil, or_false] at hjob
    rcases hjob with rfl | rfl | rfl
    · cases hdates
    · cases hplace
      exact absurd hvisible (by decide)
    · cases hperiod
  have hshown := (experience_shows_accounts_iff { ruleWidth := 5 } none ⟨0, 0, 0⟩ [.load career]
    rfl rfl).2.mpr hplaces
  exact ⟨rfl, rfl, hshown, by decide⟩

/-- A job that says where it is and not when. -/
def placedJob : Job where
  company := "Acme"
  location := some "Remote"
  highlights := some ["Shipped it"]

theorem place_without_time_is_lost :
    ((start { ruleWidth := 5 } (some { experience := some [placedJob] }) ⟨0, 0, 0⟩).submit
        "experience").2 =
      [.line "hacker@cyberdesk $ experience", .line "WORK EXPERIENCE", .line "=====", .line "",
        .line "Acme", .line "", .line "  • Shipped it", .setInput ""] ∧
      placedJob.account = ["Acme", " | Remote", "", "  • Shipped it", ""] := by
  decide

end Session
end ResumeTerminal
