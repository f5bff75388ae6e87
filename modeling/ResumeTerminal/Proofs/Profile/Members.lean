import Mathlib.Logic.Relation
import ResumeTerminal.Proofs.Json.Shape.Position
import ResumeTerminal.Proofs.Profile.Aliases

/-! The members of the records that a profile is made of. A member that is `null` may as well be
missing, members that no record asks for are passed over, and their order is of no account. Only
in maps does it count: they keep their keys in the order of the text. -/
namespace ResumeTerminal.Profile
open Json

/-- A record of a profile may hold at least one more bracket. Only the introduction is read as a
tree before it is read as a record. -/
theorem site_of_inside {β σ : Type} {name : String} {complete : Bool} {fields : Fields σ}
    {make : σ → β} {site : Site} {frames : List Frame}
    (h : (Shape.record name complete fields make).Inside site shape ⟨nestingLimit, false⟩ frames) :
    0 < site.depth ∧ site.inner.buffered = decide (name = "IntroBlock") ∧
      (name = "IntroBlock" → site.inner.depth = 125) := by
  have hrecords : ∀ record ∈ shape.records ⟨nestingLimit, false⟩, 0 < record.2.depth ∧
      record.2.inner.buffered = decide (record.1 = "IntroBlock") ∧
        (record.1 = "IntroBlock" → record.2.inner.depth = 125) := by decide
  exact hrecords (name, site) h.mem_records

example : (shape.records ⟨nestingLimit, false⟩).map (·.1) =
    ["Profile", "Identity", "Contact", "TerminalSection", "IntroBlock", "Experience", "DateRange",
      "Education", "Project", "ProjectLink", "Certification"] := by decide

section Records
variable {β σ : Type} {name : String} {complete : Bool} {fields : Fields σ} {make : σ → β}
  {site : Site} {frames : List Frame}

/-- A profile is read on from what a record within it means. -/
theorem exists_finish_of_inside
    (h : (Shape.record name complete fields make).Inside site shape ⟨nestingLimit, false⟩ frames) :
    ∃ finish : σ → Option Profile, ∀ members close,
      shape.ofSource nestingLimit ((Source.object members close).within frames) =
        (fields.meaning site.inner (members.map Member.entry)).bind finish := by
  obtain ⟨finish, hfinish⟩ := h.exists_finish
  obtain ⟨hdepth, -⟩ := site_of_inside h
  obtain ⟨depth, buffered⟩ := site
  obtain ⟨depth, rfl⟩ := Nat.exists_eq_succ_of_ne_zero (Nat.ne_of_gt hdepth)
  refine ⟨fun slots => finish (make slots), fun members close => ?_⟩
  rw [← Shape.meaning_direct, hfinish, Shape.meaning_object, Option.bind_map]
  rfl

variable {olds news : List (Member Source)} {close newClose lead trail : Blanks} {key : Literal}

/-! Fields that are `null`. -/

/-- A member that is `null` may be added to a record wherever its field is missing. -/
theorem ofText_null_member
    (h : (Shape.record name complete fields make).Inside site shape ⟨nestingLimit, false⟩ frames)
    {field : String} (hkey : key.text? = some field)
    (hmissing : ∀ old ∈ olds, old.key.text? ≠ some field)
    (hadded : (news.map Member.entry).Perm ((key, .null) :: olds.map Member.entry)) :
    (ofText (Document.mk lead ((Source.object news newClose).within frames) trail).text).toOption =
      (ofText
        (Document.mk lead ((Source.object olds close).within frames) trail).text).toOption := by
  obtain ⟨finish, hfinish⟩ := exists_finish_of_inside h
  have hentries : ∀ entry ∈ olds.map Member.entry, entry.1.text? ≠ some field := by
    intro entry hentry
    obtain ⟨old, hold, rfl⟩ := List.mem_map.mp hentry
    exact hmissing old hold
  rw [Document.toOption_ofText, Document.toOption_ofText, hfinish, hfinish,
    fields.meaning_perm site.inner hadded, fields.meaning_cons_null site.inner hkey hentries]

/-- A member without blanks, and none beside it. -/
def compactFrame (key : String) (h : key.toList.all isPlainChar = true) : Frame :=
  .member [] ⟨.none, .none⟩ (.quoting key h) .none .none [] .none

/-- The dates of the only job, after other members of the profile. -/
def datesFrames (before : List (Member Source)) : List Frame :=
  [.member before ⟨.none, .none⟩ (.quoting "experience" rfl) .none .none [] .none,
    .item [] ⟨.none, .none⟩ [] .none, compactFrame "dates" rfl]

def datesDocument (members : List (Member Source)) : Document where
  lead := .none
  value := (Source.object members .none).within (datesFrames [])
  trail := .none

theorem inside_datesFrames (before : List (Member Source)) :
    dateSpanShape.Inside ⟨124, false⟩ shape ⟨nestingLimit, false⟩ (datesFrames before) := by
  have hjob : dateSpanShape.Inside ⟨124, false⟩ jobShape ⟨125, false⟩
      [compactFrame "dates" rfl] :=
    .member (.there (by decide) (.there (by decide) (.there (by decide) (.there (by decide)
      .here)))) _ _ (Literal.text?_quoting "dates" rfl) _ _ _ _ .here
  exact .member (.there (by decide) (.there (by decide) (.there (by decide) (.there (by decide)
    (.there (by decide) (.there (by decide) (.there (by decide) .here)))))))
    _ _ (Literal.text?_quoting "experience" rfl) _ _ _ _ (.item _ _ _ _ hjob)

theorem null_end_of_dates :
    ∃ profile, ofText "\x7b\"experience\":[\x7b\"dates\":\x7b\x7d\x7d]\x7d" = .ok profile ∧
      ofText "\x7b\"experience\":[\x7b\"dates\":\x7b\"end\":null\x7d\x7d]\x7d" =
        .ok profile := by
  have hadded : ([compactMember "end" rfl .null].map Member.entry).Perm
      ((.quoting "end" rfl, .null) :: ([] : List (Member Source)).map Member.entry) :=
    List.Perm.refl _
  have hnull : (ofText (datesDocument [compactMember "end" rfl .null]).text).toOption =
      (ofText (datesDocument []).text).toOption :=
    ofText_null_member (inside_datesFrames []) (Literal.text?_quoting "end" rfl) (by simp) hadded
  have hsome : (shape.ofSource nestingLimit (datesDocument []).value).isSome := by decide +kernel
  obtain ⟨profile, hread⟩ := Option.isSome_iff_exists.mp hsome
  rw [Document.toOption_ofText, Document.toOption_ofText, hread] at hnull
  exact ⟨profile, (ofText_eq_ok_iff (datesDocument []) profile).mpr hread,
    (ofText_eq_ok_iff (datesDocument [compactMember "end" rfl .null]) profile).mpr hnull⟩

/-! Members that nobody asks for. -/

/-- A member under a key that is not the name of a field does no harm, with one exception: in an
introduction its value has to have a tree. -/
theorem ofText_unknown_member
    (h : (Shape.record name complete fields make).Inside site shape ⟨nestingLimit, false⟩ frames)
    (hkey : ∀ field ∈ fields.names, key.text? ≠ some field) {value : Source}
    (hadded : (news.map Member.entry).Perm ((key, value) :: olds.map Member.entry)) :
    (ofText (Document.mk lead ((Source.object news newClose).within frames) trail).text).toOption =
      if key.text?.isSome ∧ (name = "IntroBlock" → (value.tree? 125).isSome) then
        (ofText (Document.mk lead ((Source.object olds close).within frames) trail).text).toOption
      else none := by
  obtain ⟨finish, hfinish⟩ := exists_finish_of_inside h
  obtain ⟨-, hbuffered, hdepth⟩ := site_of_inside h
  have hadmits : site.inner.admits value = true ↔
      (name = "IntroBlock" → (value.tree? 125).isSome = true) := by
    by_cases hname : name = "IntroBlock"
    · simp [Site.admits, hbuffered, hname, hdepth hname]
    · simp [Site.admits, hbuffered, hname]
  rw [Document.toOption_ofText, Document.toOption_ofText, hfinish, hfinish,
    fields.meaning_perm site.inner hadded, fields.meaning_cons_of_unknown site.inner hkey]
  simp only [hadmits]
  split <;> rfl

/-- No 64-bit number is as big. -/
def hugeNumeral : Numeral where
  negative := false
  whole := ⟨['1'], by decide, rfl⟩
  no_leading_zero := by decide
  decimals := none
  exponent := some ⟨false, none, ⟨"9999999999".toList, by decide, rfl⟩⟩

def introDocument (members : List (Member Source)) : Document where
  lead := .none
  value := (Source.object members .none).within [compactFrame "intro" rfl]
  trail := .none

theorem inside_introFrame :
    introBlockShape.Inside ⟨126, true⟩ shape ⟨nestingLimit, false⟩ [compactFrame "intro" rfl] := by
  have hintro : introBlockShape.Inside ⟨126, true⟩ introShape ⟨126, false⟩ [] :=
    .option (.there (fun _ => rfl) (.here fun _ => rfl))
      (fun members close => ⟨members, close, rfl⟩) .here
  exact .member (.there (by decide) (.there (by decide) (.there (by decide) (.there (by decide)
    (.there (by decide) .here))))) _ _ (Literal.text?_quoting "intro" rfl) _ _ _ _ hintro

theorem unknown_list_in_intro :
    (ofText "\x7b\"intro\":\x7b\"extra\":[null]\x7d\x7d").toOption =
      (ofText "\x7b\"intro\":\x7b\x7d\x7d").toOption := by
  let extra := compactMember "extra" rfl (.array [⟨⟨.none, .none⟩, .null⟩] .none)
  have hadded : ([extra].map Member.entry).Perm
      ((extra.key, extra.value) :: ([] : List (Member Source)).map Member.entry) :=
    List.Perm.refl _
  have hkey : extra.key.text? = some "extra" := Literal.text?_quoting "extra" rfl
  have hunknown : ∀ field ∈ introBlockShape.fieldNames, extra.key.text? ≠ some field := by
    rw [hkey]
    decide
  have hread : (ofText (introDocument [extra]).text).toOption =
      if extra.key.text?.isSome ∧ ("IntroBlock" = "IntroBlock" → (extra.value.tree? 125).isSome)
        then (ofText (introDocument []).text).toOption else none :=
    ofText_unknown_member inside_introFrame hunknown hadded
  have htree : (extra.value.tree? 125).isSome := by decide
  exact hread.trans (if_pos ⟨Option.isSome_of_eq_some hkey, fun _ => htree⟩)

/-- A number that is too big where nobody asks for it costs the whole profile. -/
theorem huge_member_of_intro_is_refused :
    (introDocument []).text = "\x7b\"intro\":\x7b\x7d\x7d" ∧
      (introDocument [compactMember "extra" rfl (.number hugeNumeral)]).text =
        "\x7b\"intro\":\x7b\"extra\":1e9999999999\x7d\x7d" ∧
      "extra" ∉ introBlockShape.fieldNames ∧
      (∃ profile, ofText (introDocument []).text = .ok profile) ∧
      ∀ profile, ofText (introDocument [compactMember "extra" rfl (.number hugeNumeral)]).text ≠
        .ok profile := by
  have hsome : (shape.ofSource nestingLimit (introDocument []).value).isSome := by decide +kernel
  have hnone : (shape.ofSource nestingLimit
      (introDocument [compactMember "extra" rfl (.number hugeNumeral)]).value).isNone := by
    decide +kernel
  obtain ⟨profile, hread⟩ := Option.isSome_iff_exists.mp hsome
  refine ⟨by decide, by decide, by decide, ⟨profile, (ofText_eq_ok_iff _ profile).mpr hread⟩, ?_⟩
  intro profile hprofile
  rw [ofText_eq_ok_iff, Option.isNone_iff_eq_none.mp hnone] at hprofile
  cases hprofile

end Records

/-! Order. -/

/-- Two values with the same members in one of their records, in any order and with any blanks. -/
inductive Reordered : Source → Source → Prop where
  | record {β σ : Type} {name : String} {complete : Bool} {fields : Fields σ} {make : σ → β}
    {site : Site} {frames : List Frame}
    (h : (Shape.record name complete fields make).Inside site shape ⟨nestingLimit, false⟩ frames)
    {olds news : List (Member Source)}
    (hentries : (olds.map Member.entry).Perm (news.map Member.entry)) (close newClose : Blanks) :
    Reordered ((Source.object olds close).within frames)
      ((Source.object news newClose).within frames)

theorem Reordered.ofSource_eq {source other : Source} (h : Reordered source other) :
    shape.ofSource nestingLimit source = shape.ofSource nestingLimit other := by
  cases h with
  | record hinside hentries close newClose =>
    obtain ⟨finish, hfinish⟩ := exists_finish_of_inside hinside
    rw [hfinish, hfinish, Fields.meaning_perm _ _ hentries]

theorem ofSource_of_reorderings {source other : Source}
    (h : Relation.ReflTransGen Reordered source other) :
    shape.ofSource nestingLimit source = shape.ofSource nestingLimit other := by
  induction h with
  | refl => rfl
  | tail _ hlast ih => exact ih.trans hlast.ofSource_eq

/-- A map has its keys in the order in which they first come up. -/
theorem keys_of_map {α : Type} {value : Shape α} {depth : Nat} {members : List (Member Source)}
    {close : Blanks} {map : OrderedMap α}
    (h : (Shape.map value).ofSource depth (.object members close) = some map) :
    ∃ keys, (members.mapM fun member => member.key.text?) = some keys ∧
      map.keys = keys.eraseDups := by
  cases depth with
  | zero => cases h
  | succ depth =>
    obtain ⟨pairs, hpairs, rfl⟩ := Option.map_eq_some_iff.mp h
    have hkey (member : Member Source) (pair : String × α)
        (hpair : member.pair? (value.ofSource depth) = some pair) :
        member.key.text? = some pair.1 := by
      obtain ⟨key, hkey, hvalue⟩ := Option.bind_eq_some_iff.mp hpair
      obtain ⟨read, -, rfl⟩ := Option.map_eq_some_iff.mp hvalue
      exact hkey
    exact ⟨pairs.map (·.1), (mapM_eq_of_mapM hkey hpairs).trans List.mapM_pure,
      OrderedMap.keys_ofList pairs⟩

theorem exists_skills {depth : Nat} {source : Source} {profile : Profile}
    (h : shape.ofSource depth source = some profile) {members : List (Member Source)}
    {close : Blanks} (hskills : source.field? shape "skills" = some (.object members close)) :
    ∃ skills inner, profile.skills = some skills ∧
      (Shape.map texts).ofSource inner (.object members close) = some skills := by
  obtain ⟨inner, slots, -, rfl, hslots⟩ := Shape.exists_slots h
  have hslot := hslots (.there (by decide) (.there (by decide) (.there (by decide)
    (.there (by decide) (.there (by decide) (.there (by decide) .here))))))
  rw [← shape, hskills] at hslot
  obtain ⟨skills, hread, hsome⟩ := exists_of_slot? (by rintro ⟨⟩) hslot
  exact ⟨skills, inner, hsome.symm, hread⟩

/-- The order of members makes no difference to a profile, except in its two maps: skills and
aliases have the order of the text. -/
theorem ofText_reordered {document other : Document} {profile : Profile}
    (hread : ofText document.text = .ok profile)
    (h : Relation.ReflTransGen Reordered document.value other.value) :
    ofText other.text = .ok profile ∧
      (∀ members close, document.value.field? shape "skills" = some (.object members close) →
        ∃ keys, (members.mapM fun member => member.key.text?) = some keys ∧
          profile.skills.map OrderedMap.keys = some keys.eraseDups) ∧
      ∀ members close, ((document.value.field? shape "terminal").bind
          (·.field? terminalShape "aliases")) = some (.object members close) →
        ∃ keys, (members.mapM fun member => member.key.text?) = some keys ∧
          profile.terminal.map (·.aliases.keys) = some keys.eraseDups := by
  rw [ofText_eq_ok_iff] at hread ⊢
  refine ⟨(ofSource_of_reorderings h).symm.trans hread, fun members close hskills => ?_,
    fun members close haliases => ?_⟩
  · obtain ⟨skills, inner, hprofile, hmap⟩ := exists_skills hread hskills
    obtain ⟨keys, hkeys, horder⟩ := keys_of_map hmap
    exact ⟨keys, hkeys, by rw [hprofile, Option.map_some, horder]⟩
  · obtain ⟨settings, inner, hprofile, hmap⟩ := exists_aliases hread haliases
    obtain ⟨keys, hkeys, horder⟩ := keys_of_map hmap
    exact ⟨keys, hkeys, by rw [hprofile, Option.map_some, horder]⟩

def skillsSection : Member Source :=
  compactMember "skills" rfl (.object [compactMember "b" rfl (.array [] .none),
    compactMember "a" rfl (.array [] .none), compactMember "b" rfl (.array [] .none)] .none)

def jobSection (dates : List (Member Source)) : Member Source :=
  compactMember "experience" rfl (.array [⟨⟨.none, .none⟩,
    .object [compactMember "dates" rfl (.object dates .none)] .none⟩] .none)

def startDate : Member Source := compactMember "start" rfl (.text (.quoting "1" rfl))

def endDate : Member Source := compactMember "end" rfl (.text (.quoting "2" rfl))

def sectionsDocument (sections : List (Member Source)) : Document where
  lead := .none
  value := .object sections .none
  trail := .none

theorem reordered_dates_and_sections :
    (sectionsDocument [skillsSection, jobSection [startDate, endDate]]).text =
        "\x7b\"skills\":\x7b\"b\":[],\"a\":[],\"b\":[]\x7d,\"experience\":[\x7b\"dates\":" ++
          "\x7b\"start\":\"1\",\"end\":\"2\"\x7d\x7d]\x7d" ∧
      (sectionsDocument [jobSection [endDate, startDate], skillsSection]).text =
        "\x7b\"experience\":[\x7b\"dates\":\x7b\"end\":\"2\",\"start\":\"1\"\x7d\x7d]," ++
          "\"skills\":\x7b\"b\":[],\"a\":[],\"b\":[]\x7d\x7d" ∧
      ∃ profile,
        ofText (sectionsDocument [skillsSection, jobSection [startDate, endDate]]).text =
          .ok profile ∧
        ofText (sectionsDocument [jobSection [endDate, startDate], skillsSection]).text =
          .ok profile ∧
        profile.skills.map OrderedMap.keys = some ["b", "a"] := by
  have hdates : Reordered
      (sectionsDocument [skillsSection, jobSection [startDate, endDate]]).value
      (sectionsDocument [skillsSection, jobSection [endDate, startDate]]).value :=
    .record (inside_datesFrames [skillsSection])
      ((List.Perm.swap endDate startDate []).map Member.entry) .none .none
  have hsections : Reordered
      (sectionsDocument [skillsSection, jobSection [endDate, startDate]]).value
      (sectionsDocument [jobSection [endDate, startDate], skillsSection]).value :=
    .record .here ((List.Perm.swap _ skillsSection []).map Member.entry) .none .none
  have hsome : (shape.ofSource nestingLimit
      (sectionsDocument [skillsSection, jobSection [startDate, endDate]]).value).isSome := by
    decide +kernel
  obtain ⟨profile, hread⟩ := Option.isSome_iff_exists.mp hsome
  obtain ⟨hother, hskills, -⟩ := ofText_reordered ((ofText_eq_ok_iff _ profile).mpr hread)
    ((Relation.ReflTransGen.single hdates).tail hsections)
  obtain ⟨keys, hkeys, horder⟩ := hskills _ _ rfl
  have hknown : some ["b", "a", "b"] = some keys := hkeys
  cases hknown
  exact ⟨by decide, by decide, profile, (ofText_eq_ok_iff _ profile).mpr hread, hother, horder⟩

end ResumeTerminal.Profile
