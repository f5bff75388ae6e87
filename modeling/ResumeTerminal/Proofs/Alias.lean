import Mathlib.Data.List.Nodup
import ResumeTerminal.Alias
import ResumeTerminal.Proofs.Text.LowerCase

/-! Aliases: which names stand for something, what for, and what their arguments look
like. Of several definitions of a name the last one counts. -/
namespace ResumeTerminal.AliasTable

/-- Whether a name stands for something, in any case. -/
def Covers (table : AliasTable) (name : String) : Prop :=
  ∃ entry ∈ table.entries, Text.lower entry.1 = Text.lower name

theorem expansion?_eq_none_iff (table : AliasTable) (name : String) :
    table.expansion? name = none ↔ ¬ table.Covers name := by
  rw [expansion?, Option.map_eq_none_iff, List.find?_eq_none]
  constructor
  · rintro h ⟨entry, hentry, hname⟩
    exact h entry hentry (beq_iff_eq.mpr hname)
  · intro h entry hentry hname
    exact h ⟨entry, hentry, beq_iff_eq.mp hname⟩

theorem expansion?_congr (table : AliasTable) {a b : String}
    (h : Text.lower a = Text.lower b) : table.expansion? a = table.expansion? b := by
  rw [expansion?, expansion?, h]

/-! Tables are built from pairs, one definition after the other. -/

/-- Whether a pair gives a name a meaning; blank names and expansions do not count. -/
def Defines (name : String) (pair : String × String) : Prop :=
  Text.isBlank pair.1 = false ∧ Text.isBlank pair.2 = false ∧
    Text.lower (Text.trim pair.1) = Text.lower name

instance (name : String) (pair : String × String) : Decidable (Defines name pair) :=
  inferInstanceAs (Decidable (_ ∧ _ ∧ _))

/-- What the last definition of a name says. -/
def lastDefinition? (pairs : List (String × String)) (name : String) : Option String :=
  (pairs.reverse.find? fun pair => decide (Defines name pair)).map (·.2)

theorem isBlank_of_lastDefinition? {pairs : List (String × String)} {name expansion : String}
    (h : lastDefinition? pairs name = some expansion) : Text.isBlank expansion = false := by
  obtain ⟨pair, hfind, rfl⟩ := Option.map_eq_some_iff.mp h
  have hdefines := List.find?_some hfind
  exact (of_decide_eq_true hdefines).2.1

theorem isEmpty_lower_trim (name : String) :
    (Text.lower (Text.trim name)).isEmpty = Text.isBlank name := by
  rw [Text.isEmpty_lower, Text.isEmpty_trim]

theorem isEmpty_words (text : String) : (Text.words text).isEmpty = Text.isBlank text := by
  rw [Bool.eq_iff_iff, List.isEmpty_iff, Text.words_eq_nil_iff]

theorem add_of_isBlank (table : AliasTable) {name expansion : String}
    (h : ¬ (Text.isBlank name = false ∧ Text.isBlank expansion = false)) :
    table.add name expansion = table := by
  have hblank : (Text.isBlank expansion || Text.isBlank name) = true := by
    cases hname : Text.isBlank name with
    | true => rw [Bool.or_true]
    | false =>
      cases hexpansion : Text.isBlank expansion with
      | true => rfl
      | false => exact absurd ⟨hname, hexpansion⟩ h
  simp only [add, isEmpty_words, isEmpty_lower_trim, hblank, if_true]

theorem entries_add (table : AliasTable) {name expansion : String}
    (hname : Text.isBlank name = false) (hexpansion : Text.isBlank expansion = false) :
    (table.add name expansion).entries =
      table.entriesBeside (Text.lower (Text.trim name)) ++
        [(Text.trim name, Text.trim expansion)] := by
  simp only [add, isEmpty_words, isEmpty_lower_trim, hname, hexpansion, Bool.or_self,
    Bool.false_eq_true, if_false]

theorem expansion?_add (table : AliasTable) (pair : String × String) (name : String) :
    (table.add pair.1 pair.2).expansion? name =
      if Defines name pair then some (Text.trim pair.2) else table.expansion? name := by
  by_cases hvisible : Text.isBlank pair.1 = false ∧ Text.isBlank pair.2 = false
  · rw [expansion?, entries_add table hvisible.1 hvisible.2, List.find?_append,
      List.find?_singleton]
    by_cases hsame : Text.lower (Text.trim pair.1) = Text.lower name
    · have hdefines : Defines name pair := ⟨hvisible.1, hvisible.2, hsame⟩
      rw [if_pos hdefines, ← hsame, find?_entriesBeside_self, if_pos (beq_self_eq_true _)]
      rfl
    · have hdefines : ¬ Defines name pair := fun h => hsame h.2.2
      rw [if_neg hdefines, find?_entriesBeside_of_ne table (Ne.symm hsame),
        if_neg (by simpa using hsame), Option.or_none, expansion?]
  · have hdefines : ¬ Defines name pair := fun h => hvisible ⟨h.1, h.2.1⟩
    rw [add_of_isBlank table hvisible, if_neg hdefines]

theorem expansion?_foldl_add (table : AliasTable) (pairs : List (String × String))
    (name : String) :
    (pairs.foldl (fun table pair => table.add pair.1 pair.2) table).expansion? name =
      ((lastDefinition? pairs name).map Text.trim).or (table.expansion? name) := by
  induction pairs generalizing table with
  | nil => rfl
  | cons pair rest ih =>
    rw [List.foldl_cons, ih, expansion?_add]
    simp only [lastDefinition?, List.reverse_cons, List.find?_append, List.find?_singleton]
    cases rest.reverse.find? fun later => decide (Defines name later) with
    | some later => rfl
    | none => by_cases hpair : Defines name pair <;> simp [hpair]

theorem expansion?_ofPairs (pairs : List (String × String)) (name : String) :
    (ofPairs pairs).expansion? name = (lastDefinition? pairs name).map Text.trim := by
  have hfold := expansion?_foldl_add {} pairs name
  have hempty : expansion? {} name = none := rfl
  rwa [hempty, Option.or_none] at hfold

/-- The tables that come from pairs: no name stands for two things, and none for nothing. -/
structure Tidy (table : AliasTable) : Prop where
  nodup : (table.entries.map fun entry => Text.lower entry.1).Nodup
  visible : ∀ entry ∈ table.entries, Text.isBlank entry.2 = false

theorem Tidy.add {table : AliasTable} (h : table.Tidy) (name expansion : String) :
    (table.add name expansion).Tidy := by
  by_cases hvisible : Text.isBlank name = false ∧ Text.isBlank expansion = false
  · have hentries := entries_add table hvisible.1 hvisible.2
    constructor
    · rw [hentries, entriesBeside_eq_filter, List.map_append, List.map_singleton,
        ← List.concat_eq_append]
      apply List.Nodup.concat
      · simp
      · exact h.nodup.sublist (List.filter_sublist.map _)
    · intro entry hentry
      rw [hentries, entriesBeside_eq_filter, List.mem_append, List.mem_singleton] at hentry
      rcases hentry with hentry | rfl
      · exact h.visible entry (List.mem_of_mem_filter hentry)
      · rw [Text.isBlank_trim, hvisible.2]
  · rwa [add_of_isBlank table hvisible]

theorem tidy_ofPairs (pairs : List (String × String)) : (ofPairs pairs).Tidy := by
  have hfold (table : AliasTable) (h : table.Tidy) :
      (pairs.foldl (fun table pair => table.add pair.1 pair.2) table).Tidy := by
    induction pairs generalizing table with
    | nil => exact h
    | cons pair rest ih => exact ih _ (h.add pair.1 pair.2)
  exact hfold {} ⟨List.nodup_nil, by simp⟩

/-- A name in the table stands for what the table shows beside it. -/
theorem Tidy.expansion?_of_mem {table : AliasTable} (h : table.Tidy) {name expansion : String}
    (hmem : (name, expansion) ∈ table.entries) : table.expansion? name = some expansion := by
  cases hfound : table.entries.find? (Text.lower ·.1 == Text.lower name) with
  | none =>
    have hmissing := List.find?_eq_none.mp hfound _ hmem
    exact absurd (beq_self_eq_true (Text.lower name)) hmissing
  | some found =>
    have hfits := List.find?_some hfound
    have hlower : Text.lower found.1 = Text.lower name := beq_iff_eq.mp hfits
    have heq : found = (name, expansion) :=
      List.inj_on_of_nodup_map h.nodup (List.mem_of_find?_eq_some hfound) hmem hlower
    rw [expansion?, hfound, heq]
    rfl

/-! Replacing a name. -/

/-- What is looked up is what is shown. -/
theorem get?_targets (table : AliasTable) (name : String) :
    table.targets.get? (Text.lower name) = (table.expansion? name).map Text.words := by
  rw [table.agree, expansion?, Option.map_map]
  rfl

theorem resolve_of_expansion {table : AliasTable} {name expansion command : String}
    {first : List String} (h : table.expansion? name = some expansion)
    (hwords : Text.words expansion = command :: first) (args : List String) :
    table.resolve name args = (command, first ++ args) := by
  simp only [resolve, get?_targets, h, Option.map_some, hwords]

theorem resolve_of_expansion?_eq_none {table : AliasTable} {name : String}
    (h : table.expansion? name = none) (args : List String) :
    table.resolve name args = (name, args) := by
  simp only [resolve, get?_targets, h, Option.map_none]

/-- However the name of an alias is typed, it is replaced by the same words. -/
theorem Tidy.exists_resolve_of_mem {table : AliasTable} (h : table.Tidy)
    {name expansion : String} (hmem : (name, expansion) ∈ table.entries) :
    ∃ command first, Text.words expansion = command :: first ∧
      ∀ typed args, Text.lower typed = Text.lower name →
        table.resolve typed args = (command, first ++ args) := by
  cases hwords : Text.words expansion with
  | nil =>
    have hvisible := h.visible _ hmem
    rw [Text.words_eq_nil_iff, hvisible] at hwords
    cases hwords
  | cons command first =>
    refine ⟨command, first, rfl, ?_⟩
    intro typed args htyped
    have hexpansion : table.expansion? typed = some expansion := by
      rw [expansion?_congr table htyped]
      exact h.expansion?_of_mem hmem
    exact resolve_of_expansion hexpansion hwords args

/-- Name and arguments come word by word, from the line or from the expansion. -/
theorem isWord_of_mem_resolve {table : AliasTable} {name : String} {args : List String}
    (h : ∀ part ∈ name :: args, Text.IsWord part) :
    ∀ part ∈ (table.resolve name args).1 :: (table.resolve name args).2, Text.IsWord part := by
  unfold resolve
  split
  · rename_i command first htarget
    rw [get?_targets] at htarget
    obtain ⟨expansion, -, hwords⟩ := Option.map_eq_some_iff.mp htarget
    intro part hpart
    rw [← List.cons_append, ← hwords, List.mem_append] at hpart
    rcases hpart with hpart | hpart
    · exact Text.isWord_of_mem_words hpart
    · exact h part (List.mem_cons_of_mem name hpart)
  · exact h

end ResumeTerminal.AliasTable
