import ResumeTerminal.Command.Basic
import ResumeTerminal.Text.Lowercase

/-! The commands that can be called. Their names are kept in lower case, and a command
registered under a known name takes the place of the earlier one. An index beside the
entries says where each name stands. What has been typed is completed to these names. -/
namespace ResumeTerminal

/-- Before anything is registered no name stands anywhere. -/
theorem Registry.indexed_nil (key : String) (slot : Nat) :
    ({} : OrderedMap Nat).get? key = some slot ↔
      (([] : List (String × Command)).map (·.1))[slot]? = some key := by
  simp [OrderedMap.get?]

structure Registry where
  /-- Commands under their names, in the order in which the names came up. -/
  entries : List (String × Command) := []
  index : OrderedMap Nat := {}
  /-- A name stands where the index has it, and nowhere else. -/
  indexed : ∀ key slot, index.get? key = some slot ↔
    (entries.map (·.1))[slot]? = some key := by exact Registry.indexed_nil

namespace Registry

/-- The map that entries and index stand for. -/
def commands (registry : Registry) : OrderedMap Command := ⟨registry.entries⟩

def names (registry : Registry) : List String := registry.commands.keys

theorem exists_entry (registry : Registry) {key : String} {slot : Nat}
    (h : registry.index.get? key = some slot) :
    ∃ hslot : slot < registry.entries.length, registry.entries[slot].1 = key := by
  obtain ⟨hslot, hkey⟩ := List.getElem?_eq_some_iff.mp ((registry.indexed key slot).mp h)
  rw [List.length_map] at hslot
  rw [List.getElem_map] at hkey
  exact ⟨hslot, hkey⟩

/-- A new command at the place of an earlier one leaves all names where they are. -/
theorem indexed_set (registry : Registry) (command : Command) {slot : Nat}
    (hslot : slot < registry.entries.length) (key : String) (place : Nat) :
    registry.index.get? key = some place ↔
      ((registry.entries.set slot (registry.entries[slot].1, command)).map (·.1))[place]? =
        some key := by
  have hnames : (registry.entries.set slot (registry.entries[slot].1, command)).map (·.1) =
      registry.entries.map (·.1) := by
    rw [List.map_set]
    apply List.ext_getElem (List.length_set ..)
    intro i hset hmap
    rw [List.getElem_set]
    split
    · next heq =>
      subst heq
      rw [List.getElem_map]
    · rfl
  rw [hnames, registry.indexed]

/-- A new name stands behind all others. -/
theorem indexed_insert (registry : Registry) (command : Command) {name : String}
    (hname : registry.index.get? name = none) (key : String) (place : Nat) :
    (registry.index.insert name registry.entries.length).get? key = some place ↔
      ((registry.entries ++ [(name, command)]).map (·.1))[place]? = some key := by
  rw [List.map_append, List.map_singleton, List.getElem?_append, List.length_map]
  by_cases hkey : key = name
  · subst hkey
    have hnew : (registry.entries.map (·.1))[place]? ≠ some key := by
      intro h
      rw [(registry.indexed key place).mpr h] at hname
      cases hname
    rw [OrderedMap.get?_insert_self, Option.some.injEq]
    split
    · exact iff_of_false (by omega) hnew
    · rw [List.getElem?_singleton]
      split
      · exact iff_of_true (by omega) rfl
      · exact iff_of_false (by omega) nofun
  · rw [OrderedMap.get?_insert_of_ne _ hkey, registry.indexed]
    split
    · rfl
    · next hplace =>
      -- Behind the entries the old names have come to an end.
      have hold : (registry.entries.map (·.1))[place]? = none :=
        List.getElem?_eq_none (by rw [List.length_map]; omega)
      rw [hold]
      refine iff_of_false nofun ?_
      intro h
      exact hkey (List.mem_singleton.mp (List.mem_of_getElem? h))

def register (registry : Registry) (command : Command) : Registry :=
  let key := Text.lower command.name
  match h : registry.index.get? key with
  | some slot =>
    have hslot := (registry.exists_entry h).1
    { registry with
      entries := registry.entries.set slot (registry.entries[slot].1, command)
      indexed := registry.indexed_set command hslot }
  | none =>
    { entries := registry.entries ++ [(key, command)]
      index := registry.index.insert key registry.entries.length
      indexed := registry.indexed_insert command h }

def registerAll (registry : Registry) (commands : List Command) : Registry :=
  commands.foldl register registry

def lookup (registry : Registry) (name : String) : Option Command :=
  match h : registry.index.get? (Text.lower name) with
  | some slot =>
    have hslot := (registry.exists_entry h).1
    some registry.entries[slot].2
  | none => none

def contains (registry : Registry) (name : String) : Bool :=
  (registry.index.get? (Text.lower name)).isSome

def size (registry : Registry) : Nat := registry.entries.length

def isEmpty (registry : Registry) : Bool := registry.entries.isEmpty

def group (registry : Registry) (category : Category) : List (String × Command) :=
  registry.entries.filter (·.2.category == category)

/-- Group by group, in each in the order of registration. -/
def listing (registry : Registry) : List (String × Command) :=
  Category.order.flatMap registry.group

end Registry

inductive Completion where
  | none
  | single (name : String)
  | multiple (names : List String)
  deriving DecidableEq, Repr

def Completion.ofMatches : List String → Completion
  | [] => .none
  | [name] => .single name
  | names => .multiple names

/-- Nothing is offered for an empty text; aliases are never offered. -/
def Registry.complete (registry : Registry) (typed : String) : Completion :=
  if typed.isEmpty then .none
  else
    let start := (Text.lower typed).toList
    .ofMatches (registry.names.filter (start.isPrefixOf ·.toList))

end ResumeTerminal
