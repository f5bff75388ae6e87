import ResumeTerminal.Proofs.Command.Dictionary
import ResumeTerminal.Proofs.Text.Beginnings

/-! Completion. On offer are the names that begin with what is typed, in lower case. As names are
in lower case themselves, a name on offer can be completed in turn, and then nothing is on offer
that was not before. -/
namespace ResumeTerminal

namespace Completion

/-- The names on offer. -/
def names : Completion → List String
  | .none => []
  | .single name => [name]
  | .multiple names => names

theorem names_ofMatches (found : List String) : (ofMatches found).names = found := by
  unfold ofMatches
  split <;> rfl

theorem ofMatches_eq_none_iff (found : List String) : ofMatches found = .none ↔ found = [] := by
  cases found with
  | nil => exact iff_of_true rfl rfl
  | cons name others => cases others <;> exact iff_of_false nofun nofun

theorem ofMatches_eq_single_iff (found : List String) (name : String) :
    ofMatches found = .single name ↔ found = [name] := by
  cases found with
  | nil => exact iff_of_false nofun nofun
  | cons first others => cases others <;> simp [ofMatches]

theorem ofMatches_eq_multiple_iff (found names : List String) :
    ofMatches found = .multiple names ↔ found = names ∧ 2 ≤ names.length := by
  cases found with
  | nil => exact iff_of_false nofun (by rintro ⟨rfl, h⟩; cases h)
  | cons first others =>
    cases others with
    | nil => exact iff_of_false nofun (by rintro ⟨rfl, h⟩; simp at h)
    | cons second others =>
      constructor
      · rintro ⟨⟩
        exact ⟨rfl, by simp⟩
      · rintro ⟨rfl, -⟩
        rfl

end Completion

namespace Registry

/-- Whether a name starts with what is typed, in any case. -/
def Begins (typed name : String) : Prop := (Text.lower typed).toList <+: name.toList

theorem begins_self {name : String} (h : Text.lower name = name) : Begins name name := by
  rw [Begins, h]

theorem Begins.trans {typed name other : String} (hname : Begins typed name)
    (hlower : Text.lower name = name) (hother : Begins name other) : Begins typed other := by
  rw [Begins, hlower] at hother
  exact List.IsPrefix.trans hname hother

/-- Only the empty text is the beginning of the empty name. -/
theorem Begins.ne_empty {typed name : String} (h : Begins typed name) (htyped : typed ≠ "") :
    name ≠ "" := by
  rintro rfl
  have hlower : (Text.lower typed).isEmpty = true := by
    rw [String.isEmpty_iff, ← String.toList_eq_nil_iff]
    exact List.prefix_nil.mp h
  rw [Text.isEmpty_lower, String.isEmpty_iff] at hlower
  exact htyped hlower

def matching (registry : Registry) (typed : String) : List String :=
  if typed = "" then []
  else registry.names.filter fun name => (Text.lower typed).toList.isPrefixOf name.toList

theorem complete_eq_ofMatches (registry : Registry) (typed : String) :
    registry.complete typed = .ofMatches (registry.matching typed) := by
  unfold complete matching
  by_cases htyped : typed = ""
  · rw [if_pos (String.isEmpty_iff.mpr htyped), if_pos htyped]
    rfl
  · rw [if_neg (mt String.isEmpty_iff.mp htyped), if_neg htyped]

@[simp] theorem names_complete (registry : Registry) (typed : String) :
    (registry.complete typed).names = registry.matching typed := by
  rw [complete_eq_ofMatches, Completion.names_ofMatches]

theorem mem_matching_iff {registry : Registry} {typed name : String} :
    name ∈ registry.matching typed ↔
      typed ≠ "" ∧ name ∈ registry.names ∧ Begins typed name := by
  unfold matching Begins
  split <;> simp_all

theorem matching_sublist (registry : Registry) (typed : String) :
    (registry.matching typed).Sublist registry.names := by
  unfold matching
  split
  · exact List.nil_sublist _
  · exact List.filter_sublist

theorem mem_names_complete_iff {registry : Registry} {typed name : String} :
    name ∈ (registry.complete typed).names ↔
      typed ≠ "" ∧ name ∈ registry.names ∧ Begins typed name := by
  rw [names_complete, mem_matching_iff]

section
variable {commands : List Command} {typed name : String}

theorem mem_matching_self (h : name ∈ (registerAll {} commands).matching typed) :
    name ∈ (registerAll {} commands).matching name := by
  obtain ⟨htyped, hname, hbegins⟩ := mem_matching_iff.mp h
  have hlower := lower_of_mem_names hname
  exact mem_matching_iff.mpr ⟨hbegins.ne_empty htyped, hname, begins_self hlower⟩

theorem matching_sublist_matching (h : name ∈ (registerAll {} commands).matching typed) :
    ((registerAll {} commands).matching name).Sublist
      ((registerAll {} commands).matching typed) := by
  obtain ⟨htyped, hname, hbegins⟩ := mem_matching_iff.mp h
  have hlower := lower_of_mem_names hname
  rw [matching, matching, if_neg (hbegins.ne_empty htyped), if_neg htyped]
  apply List.monotone_filter_right
  intro other hother
  rw [List.isPrefixOf_iff_prefix] at hother ⊢
  exact hbegins.trans hlower hother

/-- A name that is alone on offer stays alone. -/
theorem matching_eq_singleton (h : (registerAll {} commands).matching typed = [name]) :
    (registerAll {} commands).matching name = [name] := by
  have hmem : name ∈ (registerAll {} commands).matching typed := by
    rw [h]
    exact List.mem_singleton_self name
  have hsublist := matching_sublist_matching hmem
  rw [h, List.sublist_singleton] at hsublist
  exact hsublist.resolve_left (List.ne_nil_of_mem (mem_matching_self hmem))

end

/-- What a completion offers for what is typed, in a registry of these commands. -/
structure Offers (commands : List Command) (typed : String) (completion : Completion) : Prop where
  none_iff : completion = .none ↔
    typed = "" ∨ ∀ name ∈ (registerAll {} commands).names, ¬ Begins typed name
  mem_iff : ∀ name, name ∈ completion.names ↔
    typed ≠ "" ∧ name ∈ (registerAll {} commands).names ∧ Begins typed name
  nodup : completion.names.Nodup
  /-- Names keep the order of their first registration. -/
  ordered : completion.names.Pairwise fun a b =>
    (commands.map (Text.lower ·.name)).idxOf a < (commands.map (Text.lower ·.name)).idxOf b
  single_iff : ∀ name, completion = .single name ↔ completion.names = [name]
  multiple_iff : ∀ names,
    completion = .multiple names ↔ completion.names = names ∧ 2 ≤ names.length
  found : ∀ name ∈ completion.names, ((registerAll {} commands).lookup name).isSome = true
  stable : ∀ name, completion = .single name →
    (registerAll {} commands).complete name = .single name
  narrowed : ∀ names, completion = .multiple names → ∀ name ∈ names,
    name ∈ ((registerAll {} commands).complete name).names ∧
      ((registerAll {} commands).complete name).names ⊆ names

theorem complete_offers_names (commands : List Command) (typed : String) :
    Offers commands typed ((registerAll {} commands).complete typed) where
  none_iff := by
    rw [complete_eq_ofMatches, Completion.ofMatches_eq_none_iff, List.eq_nil_iff_forall_not_mem]
    simp only [mem_matching_iff, not_and]
    constructor
    · intro h
      by_cases htyped : typed = ""
      · exact .inl htyped
      · exact .inr fun name hname => h name htyped hname
    · rintro (rfl | h) name htyped hname
      · exact absurd rfl htyped
      · exact h name hname
  mem_iff name := mem_names_complete_iff
  nodup := by
    rw [names_complete]
    exact (nodup_names _).sublist (matching_sublist _ _)
  ordered := by
    rw [names_complete]
    exact (ordered_names_registerAll commands).sublist (matching_sublist _ _)
  single_iff name := by
    rw [names_complete, complete_eq_ofMatches, Completion.ofMatches_eq_single_iff]
  multiple_iff names := by
    rw [names_complete, complete_eq_ofMatches, Completion.ofMatches_eq_multiple_iff]
  found name hname := by
    have hmem := (mem_names_complete_iff.mp hname).2.1
    rw [isSome_lookup_iff, lower_of_mem_names hmem]
    exact hmem
  stable name hsingle := by
    rw [complete_eq_ofMatches, Completion.ofMatches_eq_single_iff] at hsingle ⊢
    exact matching_eq_singleton hsingle
  narrowed names hmultiple name hname := by
    rw [complete_eq_ofMatches, Completion.ofMatches_eq_multiple_iff] at hmultiple
    rw [← hmultiple.1] at hname ⊢
    rw [names_complete]
    exact ⟨mem_matching_self hname, (matching_sublist_matching hname).subset⟩

/-! Names as they were registered. Name and beginning are put into lower case separately. -/

theorem lower_name_mem_names {commands : List Command} {command : Command}
    (h : command ∈ commands) : Text.lower command.name ∈ (registerAll {} commands).names := by
  rw [names_registerAll, List.mem_eraseDups]
  exact List.mem_map_of_mem h

/-- A command is on offer for the beginnings of its name, but for those that end at a capital
sigma behind which the word goes on. -/
theorem complete_offers_beginning_iff (commands : List Command) {command : Command}
    (hmem : command ∈ commands) (typed rest : String) (htyped : typed ≠ "")
    (hname : command.name = typed ++ rest) :
    Text.lower command.name ∈ ((registerAll {} commands).complete typed).names ↔
      ¬ Text.CutsAtSigma [] typed.toList rest.toList := by
  rw [mem_names_complete_iff, Begins, hname, Text.lower_prefix_append_iff, ← hname]
  exact ⟨fun h => h.2.2, fun h => ⟨htyped, lower_name_mem_names hmem, h⟩⟩

def music : Command := ⟨"ΜΟΥΣΙΚΗ", "", "", .other, .give .silent⟩

theorem music_is_offered_behind_sigma :
    music ∈ [music] ∧ "ΜΟΥΣΙ" ≠ "" ∧ music.name = "ΜΟΥΣΙ" ++ "ΚΗ" ∧
      Text.lower music.name ∈ ((registerAll {} [music]).complete "ΜΟΥΣΙ").names := by
  have hmem := List.mem_singleton_self music
  have hletter : Text.caseIgnorableRanges.has 'Ι' = false := by decide +kernel
  have hcut := Text.not_cutsAtSigma_of_last hletter (by decide) [] "ΜΟΥΣ".toList "ΚΗ".toList
  have hchars : "ΜΟΥΣ".toList ++ ['Ι'] = "ΜΟΥΣΙ".toList := by decide
  rw [hchars] at hcut
  exact ⟨hmem, by decide, by decide, (complete_offers_beginning_iff [music] hmem "ΜΟΥΣΙ" "ΚΗ"
    (by decide) (by decide)).mpr hcut⟩

/-- The beginning in lower case is `μους`, and the name is `μουσικη`. -/
theorem music_is_not_offered_at_sigma :
    music ∈ [music] ∧ music.name = "ΜΟΥΣ" ++ "ΙΚΗ" ∧
      (registerAll {} [music]).complete "ΜΟΥΣ" = .none ∧
      Text.lower music.name ∉ ((registerAll {} [music]).complete "ΜΟΥΣ").names := by
  refine ⟨List.mem_singleton_self music, ?_⟩
  decide +kernel

end Registry
end ResumeTerminal
