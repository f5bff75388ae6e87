import ResumeTerminal.Config.Reading
import ResumeTerminal.Proofs.Toml.Document

/-! Which documents are configurations, and which configuration a document is. -/
namespace ResumeTerminal.Config

/-- The fields, each with the values that it takes. -/
inductive Takes : String → Toml.Value → Prop
  | profilePath (path : String) : Takes "profile_path" (.string path)
  | prompt (text : String) : Takes "prompt" (.string text)
  | resumePdf (link : String) : Takes "resume_pdf" (.string link)
  | resumeFileName (name : String) : Takes "resume_file_name" (.string name)
  | ruleWidth (width : Nat) : Takes "rule_width" (.integer width)
  | labelWidth (width : Nat) : Takes "label_width" (.integer width)
  | showSuggestions (shown : Bool) : Takes "show_suggestions" (.boolean shown)

/-- The value with which a document gives a configuration what it has in a field. -/
def value? (config : Config) : String → Option Toml.Value
  | "profile_path" => some (.string config.profilePath)
  | "prompt" => config.prompt.map .string
  | "resume_pdf" => some (.string config.resumePdf)
  | "resume_file_name" => some (.string config.resumeFileName)
  | "rule_width" => some (.integer config.ruleWidth)
  | "label_width" => some (.integer config.labelWidth)
  | "show_suggestions" => some (.boolean config.showSuggestions)
  | _ => none

/-! ### One field -/

theorem eq_of_stringOf {expected : String} {value : Toml.Value} {text : String}
    (h : stringOf expected value = .ok text) : value = .string text := by
  cases value <;> cases h
  rfl

theorem eq_of_widthOf {value : Toml.Value} {width : Nat} (h : widthOf value = .ok width) :
    value = .integer width := by
  cases value with
  | integer given =>
    simp only [widthOf] at h
    split at h
    · cases h
    · next hnegative =>
      cases h
      rw [Int.toNat_of_nonneg (Int.not_lt.mp hnegative)]
  | _ => cases h

theorem eq_of_booleanOf {value : Toml.Value} {shown : Bool}
    (h : booleanOf value = .ok shown) : value = .boolean shown := by
  cases value <;> cases h
  rfl

/-- What a field takes goes there, and to no other field. -/
theorem setField_of_takes (config : Config) {name : String} {value : Toml.Value}
    (h : Takes name value) :
    ∃ next, config.setField name value = .ok next ∧ next.value? name = some value ∧
      ∀ other, other ≠ name → next.value? other = config.value? other := by
  cases h
  all_goals
    refine ⟨_, rfl, rfl, fun other hother => ?_⟩
    -- Another field is not the one that is set, so both sides read the same place.
    unfold value?
    split <;> trivial

theorem exists_of_bind {α : Type} {read : Except Misfit α} {put : α → Except Misfit Config}
    {config : Config} (h : read >>= put = .ok config) : ∃ value, read = .ok value := by
  cases read with
  | error misfit => cases h
  | ok value => exact ⟨value, rfl⟩

theorem takes_of_setField {config next : Config} {name : String} {value : Toml.Value}
    (h : config.setField name value = .ok next) : Takes name value := by
  unfold setField at h
  split at h
  · next field hfield =>
    have hname : field.name = name := by simpa using List.find?_some hfield
    have hmem : field ∈ fields := List.mem_of_find?_eq_some hfield
    subst hname
    simp only [fields, List.mem_cons, List.not_mem_nil, or_false] at hmem
    obtain rfl | rfl | rfl | rfl | rfl | rfl | rfl := hmem <;>
      obtain ⟨given, hgiven⟩ := exists_of_bind h
    · rw [eq_of_stringOf hgiven]
      exact .profilePath given
    · rw [eq_of_stringOf hgiven]
      exact .prompt given
    · rw [eq_of_stringOf hgiven]
      exact .resumePdf given
    · rw [eq_of_stringOf hgiven]
      exact .resumeFileName given
    · rw [eq_of_widthOf hgiven]
      exact .ruleWidth given
    · rw [eq_of_widthOf hgiven]
      exact .labelWidth given
    · rw [eq_of_booleanOf hgiven]
      exact .showSuggestions given
  · cases h

/-! ### A document -/

/-- Every key is a field, and its value is one that the field takes. -/
def Typed (entries : Toml.Entries) : Prop :=
  ∀ name value, (name, value) ∈ entries → Takes name value

/-- A configuration that has what the entries say, and elsewhere what was there before. -/
structure Follows (config base : Config) (entries : Toml.Entries) : Prop where
  present (name : String) (value : Toml.Value) :
    (name, value) ∈ entries → config.value? name = some value
  absent (name : String) : name ∉ entries.map (·.1) → config.value? name = base.value? name

theorem Follows.mem_iff {config base : Config} {entries : Toml.Entries}
    (h : config.Follows base entries) {name : String} {value : Toml.Value}
    (hbase : base.value? name ≠ some value) :
    config.value? name = some value ↔ (name, value) ∈ entries := by
  refine ⟨fun hvalue => ?_, h.present name value⟩
  by_cases hname : name ∈ entries.map (·.1)
  · obtain ⟨⟨_, given⟩, hmem, rfl⟩ := List.mem_map.mp hname
    rw [h.present _ given hmem] at hvalue
    cases hvalue
    exact hmem
  · rw [h.absent name hname] at hvalue
    contradiction

/-- The view by fields leaves nothing of a configuration out. -/
theorem eq_of_value? {config other : Config}
    (h : ∀ name, config.value? name = other.value? name) : config = other := by
  have hprofilePath := h "profile_path"
  have hprompt := h "prompt"
  have hresumePdf := h "resume_pdf"
  have hresumeFileName := h "resume_file_name"
  have hruleWidth := h "rule_width"
  have hlabelWidth := h "label_width"
  have hshowSuggestions := h "show_suggestions"
  have hstring : Function.Injective Toml.Value.string := fun _ _ heq => Toml.Value.string.inj heq
  cases config
  cases other
  simp_all only [value?, Option.some.injEq, Toml.Value.string.injEq, Toml.Value.integer.injEq,
    Toml.Value.boolean.injEq, (Option.map_injective hstring).eq_iff, Int.ofNat_inj]

theorem Follows.unique {config other base : Config} {entries : Toml.Entries}
    (h : config.Follows base entries) (hother : other.Follows base entries) : config = other := by
  refine eq_of_value? fun name => ?_
  by_cases hname : name ∈ entries.map (·.1)
  · obtain ⟨⟨_, value⟩, hmem, rfl⟩ := List.mem_map.mp hname
    rw [h.present _ value hmem, hother.present _ value hmem]
  · rw [h.absent name hname, hother.absent name hname]

/-- The fold over the entries, from any configuration on. -/
def takeOver (base : Config) (entries : Toml.Entries) : Except Misfit Config :=
  entries.foldlM (fun config entry => config.setField entry.1 entry.2) base

theorem ofEntries_eq (entries : Toml.Entries) : ofEntries entries = takeOver {} entries := rfl

theorem follows_takeOver {entries : Toml.Entries} (hdistinct : Toml.Distinct entries)
    (htyped : Typed entries) (base : Config) :
    ∃ config, takeOver base entries = .ok config ∧ config.Follows base entries := by
  induction entries generalizing base with
  | nil => exact ⟨base, rfl, by simp, fun _ _ => rfl⟩
  | cons entry entries ih =>
    obtain ⟨name, value⟩ := entry
    obtain ⟨hnew, hdistinct⟩ := List.nodup_cons.mp hdistinct
    have hhead : Takes name value := htyped name value List.mem_cons_self
    have htail : Typed entries := fun name value hmem =>
      htyped name value (List.mem_cons_of_mem _ hmem)
    obtain ⟨next, hset, hvalue, hothers⟩ := setField_of_takes base hhead
    obtain ⟨config, htake, hfollows⟩ := ih hdistinct htail next
    refine ⟨config, ?_, fun other given hmem => ?_, fun other hother => ?_⟩
    · rw [takeOver, List.foldlM_cons, hset]
      exact htake
    · obtain heq | hmem := List.mem_cons.mp hmem
      · -- the keys behind are other ones, so this value stays
        cases heq
        rw [hfollows.absent name hnew, hvalue]
      · exact hfollows.present other given hmem
    · obtain ⟨hne, hother⟩ := List.ne_and_not_mem_of_not_mem_cons hother
      rw [hfollows.absent other hother, hothers other hne]

theorem typed_of_takeOver {base config : Config} {entries : Toml.Entries}
    (h : takeOver base entries = .ok config) : Typed entries := by
  induction entries generalizing base with
  | nil => intro name value hmem; cases hmem
  | cons entry entries ih =>
    rw [takeOver, List.foldlM_cons] at h
    obtain ⟨next, hset⟩ := exists_of_bind h
    rw [hset] at h
    intro name value hmem
    obtain rfl | hmem := List.mem_cons.mp hmem
    · exact takes_of_setField hset
    · exact ih h name value hmem

/-! ### Defects -/

/-- The entries leave the configuration without a defect. -/
structure Sound (entries : Toml.Entries) : Prop where
  labelWidth : ("label_width", .integer 0) ∉ entries
  resumeFileName (name : String) :
    ("resume_file_name", .string name) ∈ entries → Text.isVisible name

theorem defect?_eq_none_iff (config : Config) :
    config.defect? = none ↔ 1 ≤ config.labelWidth ∧ Text.isVisible config.resumeFileName := by
  unfold defect?
  split
  · next hzero => simp [hzero]
  · next hwidth =>
    simp only [Nat.one_le_iff_ne_zero, ne_eq, hwidth, not_false_iff, true_and, Text.isVisible]
    split <;> simp_all

theorem Follows.defect?_eq_none_iff {config : Config} {entries : Toml.Entries}
    (h : config.Follows {} entries) : config.defect? = none ↔ Sound entries := by
  have hdefaultWidth : ({} : Config).value? "label_width" ≠ some (.integer 0) := by
    simp [value?]
  have hwidth : 1 ≤ config.labelWidth ↔ ("label_width", .integer 0) ∉ entries := by
    rw [← h.mem_iff hdefaultWidth]
    simp [value?, Nat.one_le_iff_ne_zero]
  have hname : Text.isVisible config.resumeFileName ↔
      ∀ name, ("resume_file_name", .string name) ∈ entries → Text.isVisible name := by
    refine ⟨fun hvisible name hmem => ?_, fun hvisible => ?_⟩
    · have hgiven := h.present _ _ hmem
      cases hgiven
      exact hvisible
    · by_contra hblank
      have hdefaultName : ({} : Config).value? "resume_file_name" ≠
          some (.string config.resumeFileName) := by
        intro heq
        injection heq with heq
        injection heq with heq
        rw [← heq] at hblank
        exact hblank rfl
      exact hblank (hvisible _ ((h.mem_iff hdefaultName).mp rfl))
  rw [Config.defect?_eq_none_iff, hwidth, hname]
  exact ⟨fun ⟨hwidth, hname⟩ => ⟨hwidth, hname⟩, fun hsound => ⟨hsound.1, hsound.2⟩⟩

/-! ### Texts and files -/

theorem checked_eq_ok {config result : Config} (h : config.checked = .ok result) :
    config.defect? = none ∧ result = config := by
  unfold checked at h
  split at h
  · cases h
  · next hnone =>
    cases h
    exact ⟨hnone, rfl⟩

theorem ofText_of_typed {text : String} {entries : Toml.Entries}
    (hread : Toml.read text = some entries) (htyped : Typed entries) :
    ∃ config : Config, ofText text = config.checked ∧ config.Follows {} entries := by
  obtain ⟨config, htake, hfollows⟩ := follows_takeOver (Toml.distinct_of_read hread) htyped {}
  refine ⟨config, ?_, hfollows⟩
  simp only [ofText, hread, ofDocument, ofEntries_eq, htake]

theorem ofText_of_not_typed {text : String} {entries : Toml.Entries}
    (hread : Toml.read text = some entries) (htyped : ¬ Typed entries) :
    ∃ misfit, ofText text = .error (.setting misfit) := by
  cases htake : takeOver {} entries with
  | ok config => exact absurd (typed_of_takeOver htake) htyped
  | error misfit =>
    refine ⟨misfit, ?_⟩
    simp only [ofText, hread, ofDocument, ofEntries_eq, htake]

theorem defect?_of_ofText {text : String} {config : Config} (h : ofText text = .ok config) :
    config.defect? = none := by
  unfold ofText at h
  split at h
  · unfold ofDocument at h
    split at h
    · obtain ⟨hnone, rfl⟩ := checked_eq_ok h
      exact hnone
    · cases h
  · cases h

theorem defect?_of_ofFile {file : FileContent} {config : Config} (h : ofFile file = .ok config) :
    config.defect? = none := by
  unfold ofFile at h
  split at h
  · cases h
    rfl
  · split at h
    · exact defect?_of_ofText h
    · cases h

/-- A well-formed text is a configuration exactly if its entries are of the fields' types
and leave no defect, and then it is the one that has the entries' values and elsewhere the
defaults. A value of another type is reported before any defect. No file gives a
configuration with a defect, and neither does its absence. -/
theorem ofText_of_read {text : String} {entries : Toml.Entries}
    (hread : Toml.read text = some entries) :
    ((∃ config, ofText text = .ok config) ↔ Typed entries ∧ Sound entries) ∧
    (∀ config, ofText text = .ok config ↔
      Typed entries ∧ Sound entries ∧ config.Follows {} entries) ∧
    ((∃ misfit, ofText text = .error (.setting misfit)) ↔ ¬ Typed entries) ∧
    ((∃ defect, ofText text = .error (.config defect)) ↔ Typed entries ∧ ¬ Sound entries) ∧
    ∀ file config, ofFile file = .ok config →
      1 ≤ config.labelWidth ∧ Text.isVisible config.resumeFileName := by
  have hfile : ∀ file config, ofFile file = .ok config →
      1 ≤ config.labelWidth ∧ Text.isVisible config.resumeFileName := fun file config h =>
    (defect?_eq_none_iff config).mp (defect?_of_ofFile h)
  by_cases htyped : Typed entries
  · obtain ⟨config, htext, hfollows⟩ := ofText_of_typed hread htyped
    rw [htext, checked]
    cases hdefect : config.defect? with
    | none =>
      have hsound : Sound entries := hfollows.defect?_eq_none_iff.mp hdefect
      refine ⟨?_, fun other => ⟨?_, ?_⟩, ?_, ?_, hfile⟩
      · simp [htyped, hsound]
      · intro h
        cases h
        exact ⟨htyped, hsound, hfollows⟩
      · rintro ⟨-, -, hother⟩
        rw [hfollows.unique hother]
      · simp [htyped]
      · simp [hsound]
    | some defect =>
      have hsound : ¬ Sound entries := by
        rw [← hfollows.defect?_eq_none_iff, hdefect]
        simp
      exact ⟨by simp [hsound], by simp [hsound], by simp [htyped], by simp [htyped, hsound],
        hfile⟩
  · obtain ⟨misfit, htext⟩ := ofText_of_not_typed hread htyped
    rw [htext]
    exact ⟨by simp [htyped], by simp [htyped], by simp [htyped], by simp [htyped], hfile⟩

/-- Two widths, the second of which no configuration has. -/
theorem zero_width_is_a_defect :
    Toml.read "rule_width = 30\nlabel_width = 0" =
        some [("rule_width", .integer 30), ("label_width", .integer 0)] ∧
      ∃ defect, ofText "rule_width = 30\nlabel_width = 0" = .error (.config defect) := by
  have hread : Toml.read "rule_width = 30\nlabel_width = 0" =
      some [("rule_width", .integer 30), ("label_width", .integer 0)] := rfl
  refine ⟨hread, (ofText_of_read hread).2.2.2.1.mpr ⟨?_, fun hsound => ?_⟩⟩
  · intro name value hmem
    simp only [List.mem_cons, List.not_mem_nil, or_false, Prod.mk.injEq] at hmem
    obtain ⟨rfl, rfl⟩ | ⟨rfl, rfl⟩ := hmem
    · exact .ruleWidth 30
    · exact .labelWidth 0
  · exact hsound.labelWidth (by simp)

end ResumeTerminal.Config
