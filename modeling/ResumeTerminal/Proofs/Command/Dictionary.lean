import ResumeTerminal.Proofs.Command.Registry
import ResumeTerminal.Proofs.Text.Idempotence

/-! What a registry says after any number of registrations: it is a dictionary from lower-case
names to commands that remembers the order in which the names came up. -/
namespace ResumeTerminal

namespace Registry

theorem commands_registerAll (commands : List Command) :
    (registerAll {} commands).commands =
      .ofList (commands.map fun command => (Text.lower command.name, command)) := by
  have hfold (registry : Registry) :
      (commands.foldl register registry).commands = commands.foldl
        (fun map command => map.insert (Text.lower command.name) command) registry.commands := by
    induction commands generalizing registry with
    | nil => rfl
    | cons command rest ih => rw [List.foldl_cons, ih, commands_register, List.foldl_cons]
  rw [registerAll, hfold, OrderedMap.ofList, List.foldl_map]
  rfl

/-- A registry that tells all about the commands registered with it, in this order. -/
structure Reflects (registry : Registry) (commands : List Command) : Prop where
  nodup : registry.names.Nodup
  mem_iff : ∀ name, name ∈ registry.names ↔ ∃ command ∈ commands, Text.lower command.name = name
  /-- Names keep the order of their first registration. -/
  ordered : registry.names.Pairwise fun a b =>
    (commands.map (Text.lower ·.name)).idxOf a < (commands.map (Text.lower ·.name)).idxOf b
  size_eq : registry.size = (commands.map (Text.lower ·.name)).toFinset.card
  contains_iff : ∀ name, registry.contains name = true ↔ Text.lower name ∈ registry.names
  isSome_lookup_iff : ∀ name,
    (registry.lookup name).isSome = true ↔ Text.lower name ∈ registry.names
  /-- The last command of a name is the one that counts. -/
  lookup_eq : ∀ name, registry.lookup name =
    (commands.filter fun command => Text.lower command.name == Text.lower name).getLast?
  same_answer : ∀ a b, Text.lower a = Text.lower b →
    registry.lookup a = registry.lookup b ∧ registry.contains a = registry.contains b
  recased : ∀ command ∈ commands, ∀ name, Text.Recased name command.name →
    registry.contains name = true ∧ (registry.lookup name).isSome = true
  /-- The index leads to all places among the entries and to no other. -/
  index_iff : ∀ key slot, registry.index.get? key = some slot ↔
    ∃ h : slot < registry.entries.length, registry.entries[slot].1 = key

theorem contains_iff (registry : Registry) (name : String) :
    registry.contains name = true ↔ Text.lower name ∈ registry.names := by
  rw [contains, Option.isSome_iff_ne_none, ne_eq, index_eq_none_iff, not_not]

theorem isSome_lookup_iff (registry : Registry) (name : String) :
    (registry.lookup name).isSome = true ↔ Text.lower name ∈ registry.names := by
  rw [Option.isSome_iff_ne_none, ne_eq, lookup_eq_none_iff, not_not]

theorem index_iff (registry : Registry) (key : String) (slot : Nat) :
    registry.index.get? key = some slot ↔
      ∃ h : slot < registry.entries.length, registry.entries[slot].1 = key := by
  constructor
  · exact registry.exists_entry
  · rintro ⟨h, rfl⟩
    rw [registry.indexed, List.getElem?_map, List.getElem?_eq_getElem h]
    rfl

theorem names_registerAll (commands : List Command) :
    (registerAll {} commands).names = (commands.map (Text.lower ·.name)).eraseDups := by
  rw [names, commands_registerAll, OrderedMap.keys_ofList, List.map_map]
  rfl

/-- Names are kept in lower case. -/
theorem lower_of_mem_names {commands : List Command} {name : String}
    (h : name ∈ (registerAll {} commands).names) : Text.lower name = name := by
  rw [names_registerAll, List.mem_eraseDups] at h
  obtain ⟨command, -, rfl⟩ := List.mem_map.mp h
  exact Text.lower_lower _

theorem ordered_names_registerAll (commands : List Command) :
    (registerAll {} commands).names.Pairwise fun a b =>
      (commands.map (Text.lower ·.name)).idxOf a < (commands.map (Text.lower ·.name)).idxOf b := by
  have hordered := OrderedMap.pairwise_keys_ofList
    (commands.map fun command => (Text.lower command.name, command))
  rw [List.map_map, ← commands_registerAll] at hordered
  exact hordered

theorem lookup_eq_getLast? (commands : List Command) (name : String) :
    (registerAll {} commands).lookup name =
      (commands.filter fun command => Text.lower command.name == Text.lower name).getLast? := by
  have hempty : lookup {} name = none := rfl
  rw [lookup_registerAll, hempty, Option.or_none, List.getLast?_eq_head?_reverse,
    ← List.filter_reverse, List.head?_filter]

theorem size_registerAll (commands : List Command) :
    (registerAll {} commands).size = (commands.map (Text.lower ·.name)).toFinset.card := by
  have hsize := OrderedMap.size_ofList
    (commands.map fun command => (Text.lower command.name, command))
  rw [List.map_map, ← commands_registerAll] at hsize
  exact hsize

theorem registerAll_reflects (commands : List Command) :
    (registerAll {} commands).Reflects commands where
  nodup := nodup_names _
  mem_iff name := by
    rw [names_registerAll, List.mem_eraseDups, List.mem_map]
  ordered := ordered_names_registerAll commands
  size_eq := size_registerAll commands
  contains_iff := contains_iff _
  isSome_lookup_iff := isSome_lookup_iff _
  lookup_eq := lookup_eq_getLast? commands
  same_answer a b h := by
    refine ⟨lookup_congr _ h, ?_⟩
    rw [contains, contains, h]
  recased command hmem name h := by
    have hname : Text.lower name ∈ (registerAll {} commands).names := by
      rw [names_registerAll, List.mem_eraseDups, h.lower_eq]
      exact List.mem_map_of_mem hmem
    exact ⟨(contains_iff _ _).mpr hname, (isSome_lookup_iff _ _).mpr hname⟩
  index_iff := index_iff _

end Registry
end ResumeTerminal
