import ResumeTerminal.Profile.Persona
import ResumeTerminal.Proofs.Text.LowerCase

/-! Which of its texts a profile goes by. The current fields come before the older ones, and a text
counts when there is something to see in it. Two places decide too early: a prompt takes the name
of the identity before it looks whether the name is blank, and an introduction keeps to the
identity although that may say nothing. -/
namespace ResumeTerminal.Profile

theorem isEmpty_userName (name : String) : (userName name).isEmpty = Text.isBlank name := by
  have hletters (chars : List Char) :
      (chars.filter (!Text.isBlankChar ·)).flatMap Text.lowerChar = [] ↔
        chars.all Text.isBlankChar = true := by
    rw [List.flatMap_eq_nil_iff, List.all_eq_true]
    simp only [List.mem_filter, Text.lowerChar_ne_nil, imp_false, not_and, Bool.not_eq_true',
      Bool.not_eq_false]
  rw [Bool.eq_iff_iff, String.isEmpty_iff, userName, Text.lowerEach, String.ofList_eq_empty_iff,
    String.toList_ofList, hletters, Text.isBlank]

theorem filter_map_userName (name : Option String) :
    (name.map userName).filter (!·.isEmpty) = (name.filter Text.isVisible).map userName := by
  have hsame : (fun name : String => !(userName name).isEmpty) = Text.isVisible := by
    funext name
    rw [isEmpty_userName, Text.isVisible]
  rw [Option.filter_map, Function.comp_def, hsame]

/-! Prompts. -/

/-- A text that a prompt can be made from, and how. -/
structure PromptSource where
  text : Option String
  made : String → String

/-- What a source gives when there is something to see in it. -/
def PromptSource.prompt? (source : PromptSource) : Option String :=
  (source.text.filter Text.isVisible).map source.made

def namedSource (name : Option String) : PromptSource where
  text := name
  made name := portfolioPrompt (userName name)

/-- Sources of a prompt, the best one first. -/
def promptSources (profile : Profile) : List PromptSource :=
  [⟨profile.terminal.bind (·.prompt), id⟩,
   ⟨profile.identity.bind (·.handle), portfolioPrompt⟩,
   namedSource (profile.identity.bind (·.name)),
   namedSource profile.name]

/-- The prompt of the first source with visible content. -/
def preferredPrompt (profile : Profile) : String :=
  (profile.promptSources.findSome? PromptSource.prompt?).getD anonymousPrompt

/-- A blank name stands before a visible older one, and nothing better is visible. -/
structure BlankNameHidesOlder (profile : Profile) : Prop where
  no_prompt : (profile.terminal.bind (·.prompt)).filter Text.isVisible = none
  no_handle : (profile.identity.bind (·.handle)).filter Text.isVisible = none
  blank : ∃ name, profile.identity.bind (·.name) = some name ∧ Text.isBlank name = true
  older : ∃ name, profile.name = some name ∧ Text.isVisible name = true

/-- The name is chosen first, and only then looked at. -/
theorem namePrompt_eq (profile : Profile) :
    profile.namePrompt =
      (namedSource ((profile.identity.bind (·.name)).or profile.name)).prompt? := by
  rw [namePrompt, filter_map_userName, Option.map_map, Option.orElse_eq_orElse,
    Option.orElse_eq_or]
  rfl

theorem findSome?_cons_or {α β : Type} (f : α → Option β) (first : α) (rest : List α) :
    (first :: rest).findSome? f = (f first).or (rest.findSome? f) := by
  rw [List.findSome?_cons]
  cases f first <;> rfl

theorem preferredPrompt_eq (profile : Profile) :
    profile.preferredPrompt =
      (profile.ownPrompt.or (profile.handlePrompt.or
        ((namedSource (profile.identity.bind (·.name))).prompt?.or
          (namedSource profile.name).prompt?))).getD anonymousPrompt := by
  have hown : PromptSource.prompt? ⟨profile.terminal.bind (·.prompt), id⟩ = profile.ownPrompt :=
    Option.map_id_apply
  rw [preferredPrompt, promptSources]
  simp only [findSome?_cons_or, List.findSome?_nil, Option.or_none, hown]
  rfl

theorem promptFor_of_blank (profile : Profile) {given : Option String}
    (h : given.filter Text.isVisible = none) :
    promptFor (some profile) given =
      (profile.ownPrompt.or (profile.handlePrompt.or profile.namePrompt)).getD
        anonymousPrompt := by
  simp only [promptFor, h, Option.bind_some, Option.orElse_eq_orElse, Option.orElse_eq_or,
    Option.none_or]

/-- Between a name that is not blank and the older one nothing gets lost. -/
theorem namePrompt_eq_or (profile : Profile)
    (h : ∀ name, profile.identity.bind (·.name) = some name → Text.isVisible name = true) :
    profile.namePrompt =
      (namedSource (profile.identity.bind (·.name))).prompt?.or
        (namedSource profile.name).prompt? := by
  rw [namePrompt_eq]
  cases hname : profile.identity.bind (·.name) with
  | none => rfl
  | some name =>
    have hvisible : (some name).filter Text.isVisible = some name := by
      rw [Option.filter_some, if_pos (h name hname)]
    simp only [PromptSource.prompt?, namedSource, Option.some_or, hvisible, Option.map_some]

theorem namePrompt_of_blank {profile : Profile} {name : String}
    (hname : profile.identity.bind (·.name) = some name) (hblank : Text.isBlank name = true) :
    profile.namePrompt = none ∧
      (namedSource (profile.identity.bind (·.name))).prompt? = none := by
  have hnone : (some name).filter Text.isVisible = none := Text.filter_isVisible_of_blank hblank
  rw [namePrompt_eq, hname]
  simp only [PromptSource.prompt?, namedSource, Option.some_or, hnone, Option.map_none, and_self]

theorem isVisible_portfolioPrompt (user : String) :
    Text.isVisible (portfolioPrompt user) = true := by
  have hend : Text.isVisible "@portfolio $" = true := by decide
  rw [portfolioPrompt, Text.isVisible_append, hend, Bool.or_true]

theorem isVisible_promptFor (profile : Profile) {given : Option String}
    (h : given.filter Text.isVisible = none) :
    Text.isVisible (promptFor (some profile) given) = true := by
  rw [promptFor_of_blank profile h]
  cases hown : profile.ownPrompt with
  | some prompt => exact (Option.filter_eq_some_iff.mp hown).2
  | none =>
    cases hhandle : profile.handlePrompt with
    | some prompt =>
      obtain ⟨user, -, rfl⟩ := Option.map_eq_some_iff.mp hhandle
      exact isVisible_portfolioPrompt user
    | none =>
      cases hname : profile.namePrompt with
      | some prompt =>
        obtain ⟨user, -, rfl⟩ := Option.map_eq_some_iff.mp hname
        exact isVisible_portfolioPrompt user
      | none => decide

/-- No user has the prompt of the nameless. -/
theorem portfolioPrompt_ne_anonymous (user : String) : portfolioPrompt user ≠ anonymousPrompt := by
  intro heq
  have hend : "@portfolio $".toList <:+ anonymousPrompt.toList := by
    rw [← heq, portfolioPrompt, String.toList_append]
    exact List.suffix_append _ _
  exact absurd hend (by decide)

namespace BlankNameHidesOlder
variable {profile : Profile}

theorem handlePrompt_eq_none (hidden : profile.BlankNameHidesOlder) :
    profile.handlePrompt = none := by
  rw [handlePrompt, hidden.no_handle, Option.map_none]

theorem promptFor_eq (hidden : profile.BlankNameHidesOlder) {given : Option String}
    (h : given.filter Text.isVisible = none) :
    promptFor (some profile) given = anonymousPrompt := by
  obtain ⟨name, hname, hblank⟩ := hidden.blank
  rw [promptFor_of_blank profile h, ownPrompt, hidden.no_prompt, hidden.handlePrompt_eq_none,
    (namePrompt_of_blank hname hblank).1]
  rfl

theorem preferredPrompt_ne (hidden : profile.BlankNameHidesOlder) :
    profile.preferredPrompt ≠ anonymousPrompt := by
  obtain ⟨name, hname, hblank⟩ := hidden.blank
  obtain ⟨older, holder, hvisible⟩ := hidden.older
  have hshown : (namedSource profile.name).prompt? = some (portfolioPrompt (userName older)) := by
    rw [PromptSource.prompt?, namedSource, holder, Option.filter_some, if_pos hvisible]
    rfl
  rw [preferredPrompt_eq, ownPrompt, hidden.no_prompt, hidden.handlePrompt_eq_none,
    (namePrompt_of_blank hname hblank).2, hshown]
  exact portfolioPrompt_ne_anonymous _

end BlankNameHidesOlder

theorem promptFor_eq_preferred {profile : Profile} (hnot : ¬ profile.BlankNameHidesOlder)
    {given : Option String} (h : given.filter Text.isVisible = none) :
    promptFor (some profile) given = profile.preferredPrompt := by
  rw [promptFor_of_blank profile h, preferredPrompt_eq]
  cases hown : profile.ownPrompt with
  | some prompt => rfl
  | none =>
    cases hhandle : profile.handlePrompt with
    | some prompt => rfl
    | none =>
      by_cases hblank : ∃ name, profile.identity.bind (·.name) = some name ∧
          Text.isBlank name = true
      · obtain ⟨name, hname, hname_blank⟩ := hblank
        -- The name is passed over, and so has to be the older one.
        have holder : (namedSource profile.name).prompt? = none := by
          rw [PromptSource.prompt?, Option.map_eq_none_iff, Option.filter_eq_none_iff]
          intro older hsome hvisible
          exact hnot ⟨hown, Option.map_eq_none_iff.mp hhandle, ⟨name, hname, hname_blank⟩,
            ⟨older, hsome, hvisible⟩⟩
        rw [(namePrompt_of_blank hname hname_blank).1, (namePrompt_of_blank hname hname_blank).2,
          holder]
        rfl
      · rw [namePrompt_eq_or]
        intro name hname
        rw [Text.isVisible, Bool.not_eq_true']
        exact Bool.eq_false_iff.mpr fun hname_blank => hblank ⟨name, hname, hname_blank⟩

/-- A prompt that nobody has given comes from the first visible source, unless a blank name hides
the older one. It is visible in any case. -/
theorem promptFor_eq_preferred_iff (profile : Profile) {given : Option String}
    (h : given.filter Text.isVisible = none) :
    (promptFor (some profile) given = profile.preferredPrompt ↔ ¬ profile.BlankNameHidesOlder) ∧
      (profile.BlankNameHidesOlder → promptFor (some profile) given = anonymousPrompt) ∧
      Text.isVisible (promptFor (some profile) given) = true := by
  refine ⟨⟨?_, fun hnot => promptFor_eq_preferred hnot h⟩, fun hidden => hidden.promptFor_eq h,
    isVisible_promptFor profile h⟩
  intro heq hidden
  rw [hidden.promptFor_eq h] at heq
  exact hidden.preferredPrompt_ne heq.symm

def spacedName : Profile where
  identity := some { handle := some " " }
  name := some "Ada  King"

theorem prompt_of_spaced_name :
    (some "  ").filter Text.isVisible = none ∧
      promptFor (some spacedName) (some "  ") = spacedName.preferredPrompt ∧
      spacedName.preferredPrompt = "adaking@portfolio $" := by
  have hgiven : (some "  ").filter Text.isVisible = none := by decide
  have hnot : ¬ spacedName.BlankNameHidesOlder := by
    rintro ⟨-, -, ⟨name, hname, -⟩, -⟩
    cases hname
  exact ⟨hgiven, (promptFor_eq_preferred_iff spacedName hgiven).1.mpr hnot, by decide⟩

/-- Two names, and the current one has nothing to see in it. -/
def blankName : Profile where
  identity := some { name := some " " }
  name := some "Ada Lovelace"

theorem blank_name_leaves_default_prompt :
    promptFor (some blankName) none = "hacker@cyberdesk $" ∧
      blankName.preferredPrompt = "adalovelace@portfolio $" := by
  decide

/-! Introductions. -/

def visibleTexts (texts : List (Option String)) : List String :=
  texts.filterMap (·.filter Text.isVisible)

/-- Name and headline of the identity. -/
def currentLines (profile : Profile) : List String :=
  visibleTexts [profile.identity.bind (·.name), profile.identity.bind (·.headline)]

/-- The older name and title. -/
def olderLines (profile : Profile) : List String := visibleTexts [profile.name, profile.title]

/-- What a profile has to say about who it is. -/
def presentation (profile : Profile) : List String :=
  if profile.currentLines ≠ [] then profile.currentLines
  else if profile.olderLines ≠ [] then profile.olderLines
  else [anonymous]

/-- There is an identity without a visible name or headline, and an older name or title. -/
structure IdentityHidesOlder (profile : Profile) : Prop where
  present : profile.identity.isSome = true
  silent : profile.currentLines = []
  older : profile.olderLines ≠ []

theorem introduction_eq (profile : Profile) :
    profile.introduction =
      if profile.identity.isSome then profile.currentLines else profile.olderLines := by
  have hpair (first second : Option String) :
      (first.filter Text.isVisible).toList ++ (second.filter Text.isVisible).toList =
        visibleTexts [first, second] := by
    rw [visibleTexts]
    cases hfirst : first.filter Text.isVisible <;> cases hsecond : second.filter Text.isVisible <;>
      simp [hfirst, hsecond]
  unfold introduction currentLines olderLines
  cases profile.identity <;> exact hpair _ _

theorem whoAmI_eq (profile : Profile) :
    whoAmI (some profile) =
      if profile.introduction = [] then anonymous else "\n".intercalate profile.introduction := by
  unfold whoAmI
  rw [Option.map_some]
  cases profile.introduction <;> rfl

theorem whoAmI_of_hidden {profile : Profile} (hidden : profile.IdentityHidesOlder) :
    whoAmI (some profile) = anonymous := by
  rw [whoAmI_eq, introduction_eq, if_pos hidden.present, if_pos hidden.silent]

theorem whoAmI_eq_presentation {profile : Profile} (hnot : ¬ profile.IdentityHidesOlder) :
    whoAmI (some profile) = "\n".intercalate profile.presentation := by
  rw [whoAmI_eq, introduction_eq, presentation]
  by_cases hcurrent : profile.currentLines = []
  · by_cases holder : profile.olderLines = []
    · simp [hcurrent, holder]
    · have habsent : profile.identity.isSome = false :=
        Bool.eq_false_iff.mpr fun hpresent => hnot ⟨hpresent, hcurrent, holder⟩
      simp [hcurrent, holder, habsent]
  · have hpresent : profile.identity.isSome = true := by
      by_contra habsent
      rw [Option.not_isSome_iff_eq_none] at habsent
      exact hcurrent (by simp [currentLines, visibleTexts, habsent])
    simp [hcurrent, hpresent]

theorem presentation_ne_nil (profile : Profile) : profile.presentation ≠ [] := by
  unfold presentation
  split
  · assumption
  · split
    · assumption
    · exact List.cons_ne_nil _ _

theorem isVisible_of_mem_presentation {profile : Profile} {line : String}
    (h : line ∈ profile.presentation) : Text.isVisible line = true := by
  have hvisible (texts : List (Option String)) (hline : line ∈ visibleTexts texts) :
      Text.isVisible line = true := by
    obtain ⟨text, -, htext⟩ := List.mem_filterMap.mp hline
    exact (Option.filter_eq_some_iff.mp htext).2
  unfold presentation at h
  split at h
  · exact hvisible _ h
  · split at h
    · exact hvisible _ h
    · rw [List.mem_singleton.mp h]
      decide

end ResumeTerminal.Profile
