import ResumeTerminal.Command.Registry
import ResumeTerminal.Proofs.OrderedMap

/-! The registry as a dictionary over lower-case names. Entries and index are kept in step, so
they can be seen as one ordered map: what is found under a name is the last command registered
for it, and no name is listed twice. -/
namespace ResumeTerminal

namespace Registry

/-- A name has a single place, the one in the index. -/
theorem nodup_names (registry : Registry) : registry.names.Nodup := by
  rw [List.nodup_iff_getElem?_ne_getElem?]
  intro i j hij hj heq
  obtain ⟨name, hname⟩ := Option.ne_none_iff_exists'.mp (mt List.getElem?_eq_none_iff.mp
    (Nat.not_le_of_lt hj))
  have hfirst := (registry.indexed name i).mpr (heq.trans hname)
  rw [(registry.indexed name j).mpr hname, Option.some.injEq] at hfirst
  omega

theorem index_eq_none_iff (registry : Registry) (key : String) :
    registry.index.get? key = none ↔ key ∉ registry.names := by
  rw [Option.eq_none_iff_forall_ne_some, List.mem_iff_getElem?, not_exists]
  exact forall_congr' fun slot => not_congr (registry.indexed key slot)

/-- Finding the place and storing there is storing under the name. -/
theorem commands_register (registry : Registry) (command : Command) :
    (registry.register command).commands =
      registry.commands.insert (Text.lower command.name) command := by
  unfold register
  dsimp only
  split
  · next slot h =>
    obtain ⟨hslot, hkey⟩ := registry.exists_entry h
    apply congrArg OrderedMap.mk
    calc registry.entries.set slot (registry.entries[slot].1, command)
        = OrderedMap.put registry.entries[slot].1 command registry.entries :=
          (OrderedMap.put_getElem registry.nodup_names hslot command).symm
      _ = OrderedMap.put (Text.lower command.name) command registry.entries := by rw [hkey]
  · next h =>
    have hnew := (registry.index_eq_none_iff _).mp h
    exact congrArg OrderedMap.mk (OrderedMap.put_of_not_mem hnew command).symm

theorem lookup_eq_get? (registry : Registry) (name : String) :
    registry.lookup name = registry.commands.get? (Text.lower name) := by
  unfold lookup
  split
  · next slot h =>
    obtain ⟨hslot, hkey⟩ := registry.exists_entry h
    have hfound := OrderedMap.lookup_of_mem registry.nodup_names (List.getElem_mem hslot)
    rw [hkey] at hfound
    exact hfound.symm
  · next h =>
    exact ((OrderedMap.get?_eq_none_iff _ _).mpr ((registry.index_eq_none_iff _).mp h)).symm

theorem lookup_congr (registry : Registry) {a b : String} (h : Text.lower a = Text.lower b) :
    registry.lookup a = registry.lookup b := by
  rw [lookup_eq_get?, lookup_eq_get?, h]

theorem lookup_eq_none_iff (registry : Registry) (name : String) :
    registry.lookup name = none ↔ Text.lower name ∉ registry.names := by
  rw [lookup_eq_get?]
  exact OrderedMap.get?_eq_none_iff _ _

theorem lookup_register (registry : Registry) (command : Command) (name : String) :
    (registry.register command).lookup name =
      if Text.lower name = Text.lower command.name then some command
      else registry.lookup name := by
  rw [lookup_eq_get?, lookup_eq_get?, commands_register]
  split
  · next h => rw [h, OrderedMap.get?_insert_self]
  · next h => exact OrderedMap.get?_insert_of_ne _ h _

/-- The last command of a name hides the earlier ones. -/
theorem lookup_registerAll (registry : Registry) (commands : List Command) (name : String) :
    (registry.registerAll commands).lookup name =
      (commands.reverse.find? fun command => Text.lower command.name == Text.lower name).or
        (registry.lookup name) := by
  induction commands generalizing registry with
  | nil => rfl
  | cons command rest ih =>
    have hrest : registry.registerAll (command :: rest) =
        (registry.register command).registerAll rest := rfl
    rw [hrest, ih, lookup_register, List.reverse_cons, List.find?_append, Option.or_assoc]
    congr 1
    by_cases hname : Text.lower name = Text.lower command.name
    · rw [if_pos hname, List.find?_singleton, if_pos (by simp [hname]), Option.some_or]
    · rw [if_neg hname, List.find?_singleton, if_neg (by simp [Ne.symm hname]),
        Option.none_or]

theorem mem_of_lookup_registerAll {commands : List Command} {name : String} {command : Command}
    (h : (Registry.registerAll {} commands).lookup name = some command) :
    command ∈ commands ∧ Text.lower command.name = Text.lower name := by
  have hempty : Registry.lookup {} name = none := rfl
  rw [lookup_registerAll, hempty, Option.or_none] at h
  exact ⟨List.mem_reverse.mp (List.mem_of_find?_eq_some h), by simpa using List.find?_some h⟩

/-- What is listed has been registered, under its name in lower case. -/
theorem mem_entries_registerAll {registry : Registry} {commands : List Command}
    {entry : String × Command} (h : entry ∈ (registry.registerAll commands).commands.entries) :
    entry ∈ registry.commands.entries ∨
      (entry.2 ∈ commands ∧ entry.1 = Text.lower entry.2.name) := by
  induction commands generalizing registry with
  | nil => exact .inl h
  | cons command rest ih =>
    rcases @ih (registry.register command) h with hentry | ⟨hmem, hname⟩
    · rw [commands_register] at hentry
      rcases OrderedMap.mem_entries_insert hentry with rfl | hentry
      · exact .inr ⟨List.mem_cons_self, rfl⟩
      · exact .inl hentry
    · exact .inr ⟨List.mem_cons_of_mem command hmem, hname⟩

/-- Names that are told apart by their lower case hide nothing. -/
theorem lookup_registerAll_of_mem {commands : List Command}
    (hnodup : (commands.map fun command => Text.lower command.name).Nodup)
    {command : Command} (h : command ∈ commands) {name : String}
    (hname : Text.lower command.name = Text.lower name) :
    (Registry.registerAll {} commands).lookup name = some command := by
  cases hfound : (Registry.registerAll {} commands).lookup name with
  | none =>
    rw [lookup_registerAll, Option.or_eq_none_iff, List.find?_eq_none] at hfound
    exact absurd (beq_iff_eq.mpr hname) (hfound.1 command (List.mem_reverse.mpr h))
  | some found =>
    obtain ⟨hmem, heq⟩ := mem_of_lookup_registerAll hfound
    rw [List.inj_on_of_nodup_map hnodup hmem h (heq.trans hname.symm)]

end Registry
end ResumeTerminal
