import Mathlib.Data.List.Induction
import ResumeTerminal.Proofs.Alias

/-! A table after any list of definitions. Of the definitions of a name, in whatever case, the
last one is shown, and the names stand in the order of these last definitions. What is looked up
when a line runs says the same about every name as what is shown. -/
namespace ResumeTerminal.AliasTable

/-- Without a name, or without a word to stand for, a pair defines nothing. -/
def IsDefinition (pair : String × String) : Prop :=
  Text.trim pair.1 ≠ "" ∧ Text.words pair.2 ≠ []

instance : DecidablePred IsDefinition := fun _ => inferInstanceAs (Decidable (_ ∧ _))

def keyOf (pair : String × String) : String := Text.lower (Text.trim pair.1)

def trimmed (pair : String × String) : String × String := (Text.trim pair.1, Text.trim pair.2)

theorem lower_trimmed (pair : String × String) : Text.lower (trimmed pair).1 = keyOf pair := rfl

/-- The pairs that no later pair of the same key follows. -/
def lastOfEach : List (String × String) → List (String × String)
  | [] => []
  | pair :: rest =>
    if ∃ later ∈ rest, keyOf later = keyOf pair then lastOfEach rest
    else pair :: lastOfEach rest

theorem isDefinition_iff (pair : String × String) :
    IsDefinition pair ↔ Text.isBlank pair.1 = false ∧ Text.isBlank pair.2 = false := by
  rw [IsDefinition, ne_eq, ← String.isEmpty_iff, Text.isEmpty_trim, ne_eq, Text.words_eq_nil_iff,
    Bool.not_eq_true, Bool.not_eq_true]

/-- A further pair comes last, and the earlier ones of its key go away. -/
theorem lastOfEach_append_singleton (pairs : List (String × String)) (pair : String × String) :
    lastOfEach (pairs ++ [pair]) =
      (lastOfEach pairs).filter (keyOf · != keyOf pair) ++ [pair] := by
  induction pairs with
  | nil => rfl
  | cons first rest ih =>
    have hlater : (∃ later ∈ rest ++ [pair], keyOf later = keyOf first) ↔
        (∃ later ∈ rest, keyOf later = keyOf first) ∨ keyOf pair = keyOf first := by
      simp only [List.mem_append, List.mem_singleton, or_and_right, exists_or, exists_eq_left]
    rw [List.cons_append, lastOfEach, lastOfEach]
    by_cases hrest : ∃ later ∈ rest, keyOf later = keyOf first
    · rw [if_pos (hlater.mpr (.inl hrest)), if_pos hrest, ih]
    rw [if_neg hrest]
    by_cases hpair : keyOf pair = keyOf first
    · rw [if_pos (hlater.mpr (.inr hpair)), ih, List.filter_cons_of_neg (by simp [hpair])]
    · rw [if_neg (mt hlater.mp (not_or.mpr ⟨hrest, hpair⟩)), ih,
        List.filter_cons_of_pos (by simpa using Ne.symm hpair), List.cons_append]

theorem ofPairs_append_singleton (pairs : List (String × String)) (pair : String × String) :
    ofPairs (pairs ++ [pair]) = (ofPairs pairs).add pair.1 pair.2 := by
  rw [ofPairs, List.foldl_append]
  rfl

theorem entries_ofPairs (pairs : List (String × String)) :
    (ofPairs pairs).entries = (lastOfEach (pairs.filter IsDefinition)).map trimmed := by
  induction pairs using List.reverseRecOn with
  | nil => rfl
  | append_singleton pairs pair ih =>
    rw [ofPairs_append_singleton, List.filter_append]
    by_cases hpair : IsDefinition pair
    · obtain ⟨hname, hexpansion⟩ := (isDefinition_iff pair).mp hpair
      have hlast : [pair].filter IsDefinition = [pair] := by simp [hpair]
      have hkey : (fun entry => Text.lower entry.1 != Text.lower (Text.trim pair.1)) ∘ trimmed =
          fun earlier => keyOf earlier != keyOf pair := by
        funext earlier
        rw [Function.comp_apply, lower_trimmed, keyOf, keyOf]
      rw [entries_add _ hname hexpansion, entriesBeside_eq_filter, ih, hlast,
        lastOfEach_append_singleton, List.map_append, List.filter_map, hkey, List.map_singleton,
        trimmed]
    · have hblank := mt (isDefinition_iff pair).mpr hpair
      have hnone : [pair].filter IsDefinition = [] := by simp [hpair]
      rw [add_of_isBlank _ hblank, ih, hnone, List.append_nil]

/-- A table that tells all about the pairs it was made from. -/
structure Reflects (table : AliasTable) (pairs : List (String × String)) : Prop where
  entries_eq : table.entries = (lastOfEach (pairs.filter IsDefinition)).map trimmed
  distinct : table.entries.Pairwise fun a b => Text.lower a.1 ≠ Text.lower b.1
  shown_iff : ∀ name expansion, table.expansion? name = some expansion ↔
    ∃ entry ∈ table.entries, Text.lower entry.1 = Text.lower name ∧ entry.2 = expansion
  missing_iff : ∀ name, table.expansion? name = none ↔
    ∀ entry ∈ table.entries, Text.lower entry.1 ≠ Text.lower name
  target_eq : ∀ name,
    table.targets.get? (Text.lower name) = (table.expansion? name).map Text.words
  replaced : ∀ name expansion args, table.expansion? name = some expansion →
    ∃ command first, Text.words expansion = command :: first ∧
      table.resolve name args = (command, first ++ args)
  passed : ∀ name args, table.expansion? name = none → table.resolve name args = (name, args)

theorem Tidy.expansion?_eq_some_iff {table : AliasTable} (h : table.Tidy)
    (name expansion : String) :
    table.expansion? name = some expansion ↔
      ∃ entry ∈ table.entries, Text.lower entry.1 = Text.lower name ∧ entry.2 = expansion := by
  constructor
  · intro hshown
    obtain ⟨entry, hfound, rfl⟩ := Option.map_eq_some_iff.mp hshown
    have hfits := List.find?_some hfound
    exact ⟨entry, List.mem_of_find?_eq_some hfound, beq_iff_eq.mp hfits, rfl⟩
  · rintro ⟨entry, hentry, hname, rfl⟩
    rw [← expansion?_congr table hname]
    exact h.expansion?_of_mem hentry

theorem ofPairs_reflects (pairs : List (String × String)) : (ofPairs pairs).Reflects pairs where
  entries_eq := entries_ofPairs pairs
  distinct := List.pairwise_map.mp (tidy_ofPairs pairs).nodup
  shown_iff := (tidy_ofPairs pairs).expansion?_eq_some_iff
  missing_iff name := by
    rw [expansion?_eq_none_iff, Covers]
    push Not
    rfl
  target_eq := get?_targets _
  replaced name expansion args hshown := by
    obtain ⟨⟨shown, _⟩, hentry, hname, rfl⟩ :=
      ((tidy_ofPairs pairs).expansion?_eq_some_iff name expansion).mp hshown
    obtain ⟨command, first, hwords, hresolve⟩ := (tidy_ofPairs pairs).exists_resolve_of_mem hentry
    exact ⟨command, first, hwords, hresolve name args hname.symm⟩
  passed name args hmissing := resolve_of_expansion?_eq_none hmissing args

-- The last pair takes the place of the first one but not its slot, and the third one is blank.
example : (ofPairs [(" sk", "skills"), ("d", "date"), ("gh", " "), ("SK", "skills  -a")]).entries =
    [("d", "date"), ("SK", "skills  -a")] := by decide

end ResumeTerminal.AliasTable
