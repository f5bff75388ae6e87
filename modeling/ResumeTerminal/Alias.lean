import ResumeTerminal.OrderedMap
import ResumeTerminal.Text.Basic
import ResumeTerminal.Text.Lowercase

/-! Aliases: names that stand for a command with its first arguments. They are told
apart without regard to case, and are replaced once, so that even a circle of aliases
leads to a command name. What is shown and what names are replaced by is kept apart. -/
namespace ResumeTerminal

/-- Before anything is defined no name stands for anything. -/
theorem AliasTable.agree_nil (key : String) :
    ({} : OrderedMap (List String)).get? key =
      (([] : List (String × String)).find? (Text.lower ·.1 == key)).map (Text.words ·.2) := rfl

structure AliasTable where
  /-- Names and expansions as they are shown. -/
  entries : List (String × String) := []
  /-- The words that come in the place of a name, under the name in lower case. -/
  targets : OrderedMap (List String) := {}
  /-- A name is replaced by the words that are shown beside it. -/
  agree : ∀ key, targets.get? key =
    (entries.find? (Text.lower ·.1 == key)).map (Text.words ·.2) := by
      exact AliasTable.agree_nil

namespace AliasTable

/-- The entries that stay when a key gets a new meaning. -/
def entriesBeside (table : AliasTable) (key : String) : List (String × String) :=
  if (table.targets.get? key).isSome then table.entries.filter (Text.lower ·.1 != key)
  else table.entries

/-- Where there is nothing to replace, there is nothing to leave out. -/
theorem entriesBeside_eq_filter (table : AliasTable) (key : String) :
    table.entriesBeside key = table.entries.filter (Text.lower ·.1 != key) := by
  unfold entriesBeside
  split
  · rfl
  · next hmissing =>
    rw [Option.not_isSome_iff_eq_none, table.agree, Option.map_eq_none_iff,
      List.find?_eq_none] at hmissing
    refine (List.filter_eq_self.mpr ?_).symm
    intro entry hentry
    rw [bne, Bool.not_eq_true']
    exact Bool.eq_false_iff.mpr (hmissing entry hentry)

theorem find?_entriesBeside_self (table : AliasTable) (key : String) :
    (table.entriesBeside key).find? (Text.lower ·.1 == key) = none := by
  rw [entriesBeside_eq_filter, List.find?_eq_none]
  intro entry hentry
  simpa [bne] using (List.mem_filter.mp hentry).2

theorem find?_entriesBeside_of_ne (table : AliasTable) {key other : String} (h : other ≠ key) :
    (table.entriesBeside key).find? (Text.lower ·.1 == other) =
      table.entries.find? (Text.lower ·.1 == other) := by
  rw [entriesBeside_eq_filter, List.find?_filter]
  congr 1
  funext entry
  by_cases hentry : Text.lower entry.1 = other
  · simp [hentry, h]
  · simp [hentry]

theorem agree_insert (table : AliasTable) (name expansion key : String) :
    (table.targets.insert (Text.lower name) (Text.words expansion)).get? key =
      ((table.entriesBeside (Text.lower name) ++ [(name, Text.trim expansion)]).find?
        (Text.lower ·.1 == key)).map (Text.words ·.2) := by
  rw [List.find?_append]
  by_cases h : key = Text.lower name
  · rw [h, OrderedMap.get?_insert_self, find?_entriesBeside_self, Option.none_or,
      List.find?_singleton]
    simp
  · have hlast : ([(name, Text.trim expansion)].find? (Text.lower ·.1 == key)) = none := by
      rw [List.find?_singleton, if_neg (by simpa using Ne.symm h)]
    rw [OrderedMap.get?_insert_of_ne _ h, find?_entriesBeside_of_ne table h, hlast,
      Option.or_none, table.agree]

/-- A new expansion takes the place of an earlier one, but stands at the end; blank
names and expansions are ignored. -/
def add (table : AliasTable) (name expansion : String) : AliasTable :=
  let words := Text.words expansion
  let key := Text.lower (Text.trim name)
  if words.isEmpty || key.isEmpty then table
  else
    { entries := table.entriesBeside key ++ [(Text.trim name, Text.trim expansion)]
      targets := table.targets.insert key words
      agree := table.agree_insert (Text.trim name) expansion }

def ofPairs (pairs : List (String × String)) : AliasTable :=
  pairs.foldl (fun table (name, expansion) => table.add name expansion) {}

/-- What is shown beside a name. -/
def expansion? (table : AliasTable) (name : String) : Option String :=
  (table.entries.find? (Text.lower ·.1 == Text.lower name)).map (·.2)

/-- The words of an expansion come before the arguments. -/
def resolve (table : AliasTable) (name : String) (args : List String) : String × List String :=
  match table.targets.get? (Text.lower name) with
  | some (command :: first) => (command, first ++ args)
  | _ => (name, args)

def size (table : AliasTable) : Nat := table.entries.length

def isEmpty (table : AliasTable) : Bool := table.entries.isEmpty

end AliasTable
end ResumeTerminal
