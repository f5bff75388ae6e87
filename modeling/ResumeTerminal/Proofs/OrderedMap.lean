import Mathlib.Data.Finset.Card
import Mathlib.Data.List.Induction
import Mathlib.Data.List.Nodup
import ResumeTerminal.OrderedMap

/-! Ordered maps as dictionaries. A map made from a list has every key once, where it first
came up, with the value that came last, and it is the only map of which this is true. -/
namespace ResumeTerminal

namespace OrderedMap
variable {α : Type}

theorem get?_eq_none_iff (map : OrderedMap α) (key : String) :
    map.get? key = none ↔ key ∉ map.keys := by
  rw [get?, List.lookup_eq_none_iff, keys, List.mem_map]
  constructor
  · rintro h ⟨entry, hentry, rfl⟩
    exact absurd (h entry hentry) (by simp)
  · intro h entry hentry
    rw [bne_iff_ne]
    rintro rfl
    exact h ⟨entry, hentry, rfl⟩

theorem nodup_keys_insert (map : OrderedMap α) (key : String) (value : α)
    (h : map.keys.Nodup) : (map.insert key value).keys.Nodup := by
  rw [keys_insert]
  split
  · exact h
  · rename_i hkey
    rw [← List.concat_eq_append]
    exact h.concat hkey

theorem mem_entries_insert {map : OrderedMap α} {key : String} {value : α}
    {entry : String × α} (h : entry ∈ (map.insert key value).entries) :
    entry = (key, value) ∨ entry ∈ map.entries := by
  obtain ⟨entries⟩ := map
  dsimp only [insert] at h ⊢
  induction entries with
  | nil => exact .inl (List.mem_singleton.mp h)
  | cons first rest ih =>
    by_cases hkey : first.1 = key
    · simp only [put, hkey, if_true, List.mem_cons] at h
      exact h.imp_right (List.mem_cons_of_mem first)
    · simp only [put, hkey, if_false, List.mem_cons] at h
      rcases h with rfl | hrest
      · exact .inr List.mem_cons_self
      · exact (ih hrest).imp_right (List.mem_cons_of_mem first)

theorem put_of_not_mem {key : String} {entries : List (String × α)}
    (h : key ∉ entries.map (·.1)) (value : α) :
    put key value entries = entries ++ [(key, value)] := by
  induction entries with
  | nil => rfl
  | cons entry rest ih =>
    rw [List.map_cons, List.mem_cons, not_or] at h
    rw [put, if_neg (Ne.symm h.1), ih h.2, List.cons_append]

/-- Where no key comes twice, the entry of a key can be told by its place. -/
theorem put_getElem {entries : List (String × α)} (h : (entries.map (·.1)).Nodup) {slot : Nat}
    (hslot : slot < entries.length) (value : α) :
    put entries[slot].1 value entries = entries.set slot (entries[slot].1, value) := by
  induction entries generalizing slot with
  | nil => cases hslot
  | cons entry rest ih =>
    rw [List.map_cons, List.nodup_cons] at h
    cases slot with
    | zero => rw [List.getElem_cons_zero, put, if_pos rfl, List.set_cons_zero]
    | succ slot =>
      have hslot : slot < rest.length := Nat.lt_of_succ_lt_succ hslot
      have hne : entry.1 ≠ rest[slot].1 := by
        intro heq
        rw [heq] at h
        exact h.1 (List.mem_map_of_mem (List.getElem_mem hslot))
      rw [List.getElem_cons_succ, put, if_neg hne, ih h.2 hslot, List.set_cons_succ]

/-! Maps from lists. -/

/-- Every key once, in the order in which they come up, with its last value. -/
def merged (members : List (String × α)) : List (String × α) :=
  (members.map (·.1)).eraseDups.filterMap fun key =>
    (members.reverse.lookup key).map (key, ·)

theorem ofList_append_singleton (members : List (String × α)) (key : String) (value : α) :
    ofList (members ++ [(key, value)]) = (ofList members).insert key value :=
  List.foldl_concat _ _ _ _

theorem keys_ofList (members : List (String × α)) :
    (ofList members).keys = (members.map (·.1)).eraseDups := by
  induction members using List.reverseRecOn with
  | nil => rfl
  | append_singleton members member ih =>
    rw [ofList_append_singleton, keys_insert, ih, List.map_append, List.eraseDups_append]
    by_cases h : member.1 ∈ members.map (·.1)
    · simp [List.mem_eraseDups, List.removeAll, h]
    · have hsingle : [member.1].eraseDups = [member.1] := rfl
      simp [List.mem_eraseDups, List.removeAll, h, hsingle]

theorem nodup_keys_ofList (members : List (String × α)) : (ofList members).keys.Nodup := by
  induction members using List.reverseRecOn with
  | nil => exact List.nodup_nil
  | append_singleton members member ih =>
    rw [ofList_append_singleton]
    exact nodup_keys_insert _ _ _ ih

theorem get?_ofList (members : List (String × α)) (key : String) :
    (ofList members).get? key = members.reverse.lookup key := by
  induction members using List.reverseRecOn with
  | nil => rfl
  | append_singleton members member ih =>
    rw [ofList_append_singleton, List.reverse_append, List.reverse_singleton,
      List.singleton_append]
    by_cases h : key = member.1
    · subst h
      rw [get?_insert_self, List.lookup_cons_self]
    · rw [get?_insert_of_ne _ h, ih, List.lookup_cons, beq_false_of_ne h]

theorem lookup_of_mem {entries : List (String × α)} (h : (entries.map (·.1)).Nodup)
    {entry : String × α} (hmem : entry ∈ entries) : entries.lookup entry.1 = some entry.2 := by
  obtain ⟨before, after, rfl⟩ := List.append_of_mem hmem
  rw [List.lookup_eq_some_iff]
  refine ⟨before, after, rfl, fun other hother => ?_⟩
  rw [List.map_append, List.nodup_append] at h
  rw [bne_iff_ne]
  exact Ne.symm (h.2.2 _ (List.mem_map_of_mem hother) _ List.mem_cons_self)

/-- Where no key comes twice, the entries are what is found under the keys. -/
theorem entries_eq_filterMap (map : OrderedMap α) (h : map.keys.Nodup) :
    map.entries = map.keys.filterMap fun key => (map.get? key).map (key, ·) := by
  have hentry : ∀ entry ∈ map.entries,
      (map.get? entry.1).map (entry.1, ·) = some entry := by
    intro entry hentry
    rw [get?, lookup_of_mem h hentry]
    rfl
  rw [keys, List.filterMap_map]
  exact (List.filterMap_some.symm.trans (List.filterMap_congr fun entry hmem =>
    (hentry entry hmem).symm))

theorem entries_ofList (members : List (String × α)) :
    (ofList members).entries = merged members := by
  rw [entries_eq_filterMap _ (nodup_keys_ofList members), keys_ofList, merged]
  simp only [get?_ofList]

theorem keys_merged (members : List (String × α)) :
    (merged members).map (·.1) = (members.map (·.1)).eraseDups := by
  rw [← entries_ofList]
  exact keys_ofList members

theorem lookup_of_mem_merged {members : List (String × α)} {entry : String × α}
    (h : entry ∈ merged members) : members.reverse.lookup entry.1 = some entry.2 := by
  obtain ⟨key, -, hkey⟩ := List.mem_filterMap.mp h
  obtain ⟨value, hvalue, rfl⟩ := Option.map_eq_some_iff.mp hkey
  exact hvalue

/-- Keys stand in the order of their first appearance. -/
theorem pairwise_keys_ofList (members : List (String × α)) :
    (ofList members).keys.Pairwise fun a b =>
      (members.map (·.1)).idxOf a < (members.map (·.1)).idxOf b := by
  induction members using List.reverseRecOn with
  | nil => exact List.Pairwise.nil
  | append_singleton members member ih =>
    have hmem : ∀ key ∈ (ofList members).keys, key ∈ members.map (·.1) := by
      intro key hkey
      rwa [keys_ofList, List.mem_eraseDups] at hkey
    -- Further members change no first appearance.
    have hold : (ofList members).keys.Pairwise fun a b =>
        ((members ++ [member]).map (·.1)).idxOf a <
          ((members ++ [member]).map (·.1)).idxOf b := by
      refine ih.imp_of_mem ?_
      intro a b ha hb hlt
      rwa [List.map_append, List.idxOf_append_of_mem (hmem a ha),
        List.idxOf_append_of_mem (hmem b hb)]
    rw [ofList_append_singleton, keys_insert]
    split
    · exact hold
    · next hnew =>
      rw [List.pairwise_append]
      refine ⟨hold, List.pairwise_singleton _ _, ?_⟩
      intro a ha b hb
      rw [List.mem_singleton] at hb
      subst hb
      rw [keys_ofList, List.mem_eraseDups] at hnew
      rw [List.map_append, List.idxOf_append_of_mem (hmem a ha),
        List.idxOf_append_of_notMem hnew]
      exact Nat.lt_add_right _ (List.idxOf_lt_length_of_mem (hmem a ha))

/-- A map that has kept of a list of insertions what it should. -/
structure Collects (map : OrderedMap α) (members : List (String × α)) : Prop where
  nodup : map.keys.Nodup
  mem_iff : ∀ key, key ∈ map.keys ↔ key ∈ members.map (·.1)
  /-- Keys keep the order in which they were first inserted. -/
  ordered : map.keys.Pairwise fun a b =>
    (members.map (·.1)).idxOf a < (members.map (·.1)).idxOf b
  /-- The last insertion of a key is the one that counts. -/
  last : ∀ entry ∈ map.entries, members.reverse.lookup entry.1 = some entry.2
  size_eq : map.size = (members.map (·.1)).toFinset.card

theorem mem_keys_ofList (members : List (String × α)) (key : String) :
    key ∈ (ofList members).keys ↔ key ∈ members.map (·.1) := by
  rw [keys_ofList, List.mem_eraseDups]

theorem size_ofList (members : List (String × α)) :
    (ofList members).size = (members.map (·.1)).toFinset.card := by
  have hsize : (ofList members).size = (ofList members).keys.length := (List.length_map _).symm
  rw [hsize, ← List.toFinset_card_of_nodup (nodup_keys_ofList members)]
  apply congrArg Finset.card
  ext key
  rw [List.mem_toFinset, List.mem_toFinset, mem_keys_ofList]

theorem collects_ofList (members : List (String × α)) : (ofList members).Collects members where
  nodup := nodup_keys_ofList members
  mem_iff := mem_keys_ofList members
  ordered := pairwise_keys_ofList members
  last entry hentry := by
    rw [entries_ofList] at hentry
    exact lookup_of_mem_merged hentry
  size_eq := size_ofList members

/-- Maps with the same keys in the same order, and the same values, are the same. -/
theorem ext_of_keys {a b : OrderedMap α} (hnodup : a.keys.Nodup) (hkeys : a.keys = b.keys)
    (hvalues : ∀ key ∈ a.keys, a.get? key = b.get? key) : a = b := by
  have hentries : a.entries = b.entries := by
    rw [entries_eq_filterMap a hnodup, entries_eq_filterMap b (hkeys ▸ hnodup), ← hkeys]
    apply List.filterMap_congr
    intro key hkey
    rw [hvalues key hkey]
  cases a
  cases b
  exact congrArg OrderedMap.mk hentries

theorem Collects.get?_eq {map : OrderedMap α} {members : List (String × α)}
    (h : map.Collects members) {key : String} (hkey : key ∈ map.keys) :
    map.get? key = members.reverse.lookup key := by
  obtain ⟨entry, hentry, rfl⟩ := List.mem_map.mp hkey
  rw [get?, lookup_of_mem h.nodup hentry, h.last entry hentry]

theorem collects_iff (map : OrderedMap α) (members : List (String × α)) :
    map.Collects members ↔ map = ofList members := by
  constructor
  · intro h
    -- The order of first insertion leaves only one way to list the keys.
    have hperm : map.keys.Perm (ofList members).keys := by
      rw [List.perm_ext_iff_of_nodup h.nodup (nodup_keys_ofList members)]
      intro key
      rw [h.mem_iff, mem_keys_ofList]
    have hkeys : map.keys = (ofList members).keys :=
      hperm.eq_of_pairwise (fun _ _ _ _ hab hba => absurd hab (Nat.lt_asymm hba)) h.ordered
        (pairwise_keys_ofList members)
    apply ext_of_keys h.nodup hkeys
    intro key hkey
    rw [h.get?_eq hkey, get?_ofList]
  · rintro rfl
    exact collects_ofList members

/-- Inserting the entries of a map one by one makes the map again. -/
theorem ofList_entries {map : OrderedMap α} (h : map.keys.Nodup) : ofList map.entries = map := by
  obtain ⟨entries⟩ := map
  dsimp only [keys] at h ⊢
  induction entries using List.reverseRecOn with
  | nil => rfl
  | append_singleton entries entry ih =>
    rw [List.map_append, List.nodup_append] at h
    have hnew : entry.1 ∉ entries.map (·.1) :=
      fun hmem => h.2.2 _ hmem _ (List.mem_singleton_self _) rfl
    rw [ofList_append_singleton, ih h.1, insert, put_of_not_mem hnew]

end OrderedMap
end ResumeTerminal
