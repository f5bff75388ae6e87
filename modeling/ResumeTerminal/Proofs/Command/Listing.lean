import ResumeTerminal.Proofs.Command.Dictionary

/-! The listing of a registry. It is made group by group, one pass over the entries for each
category, and is nothing but the entries sorted by their category, where those of one category stay
in the order of their registration. -/
namespace ResumeTerminal

namespace Category

theorem mem_order (category : Category) : category ∈ order := by
  cases category <;> decide

/-- The place of a category among the groups. -/
def rank (category : Category) : Nat := order.idxOf category

theorem pairwise_order : order.Pairwise fun a b => a.rank < b.rank := by decide

end Category

namespace Command

/-- The commands of a category, as they come. -/
def ofCategory (entries : List (String × Command)) (category : Category) :
    List (String × Command) :=
  entries.filter (·.2.category == category)

/-- Whether the group of the first command does not come behind that of the second one. -/
def inOrder (a b : String × Command) : Bool :=
  decide (a.2.category.rank ≤ b.2.category.rank)

theorem ofCategory_eq_nil {entries : List (String × Command)} {category : Category}
    (h : ∀ entry ∈ entries, entry.2.category ≠ category) : ofCategory entries category = [] := by
  rw [ofCategory, List.filter_eq_nil_iff]
  intro entry hentry
  rw [beq_iff_eq]
  exact h entry hentry

theorem ofCategory_cons_self (entry : String × Command) (rest : List (String × Command)) :
    ofCategory (entry :: rest) entry.2.category =
      entry :: ofCategory rest entry.2.category :=
  List.filter_cons_of_pos (beq_self_eq_true _)

theorem ofCategory_cons_of_ne {entry : String × Command} {category : Category}
    (h : entry.2.category ≠ category) (rest : List (String × Command)) :
    ofCategory (entry :: rest) category = ofCategory rest category :=
  List.filter_cons_of_neg (by rwa [beq_iff_eq])

/-- Entries in the order of their groups are made up of the groups. The first entry stands at the
head of its own group, the groups before it are empty, and those behind it do not see it. -/
theorem flatMap_ofCategory {entries : List (String × Command)}
    (h : entries.Pairwise fun a b => inOrder a b = true) :
    Category.order.flatMap (ofCategory entries) = entries := by
  induction entries with
  | nil => rfl
  | cons entry rest ih =>
    obtain ⟨hfirst, hrest⟩ := List.pairwise_cons.mp h
    obtain ⟨before, after, horder⟩ := List.append_of_mem (Category.mem_order entry.2.category)
    have hranks := Category.pairwise_order
    rw [horder, List.pairwise_append, List.pairwise_cons] at hranks
    obtain ⟨-, ⟨hafter, -⟩, hbefore⟩ := hranks
    have hlate (category : Category) (hmem : category ∈ before) :
        ∀ other ∈ entry :: rest, other.2.category ≠ category := by
      rintro other hother rfl
      have hlt := hbefore _ hmem _ List.mem_cons_self
      rcases List.mem_cons.mp hother with rfl | hother
      · exact Nat.lt_irrefl _ hlt
      · have hle := of_decide_eq_true (hfirst other hother)
        exact Nat.not_le_of_lt hlt hle
    have hnone : before.flatMap (ofCategory (entry :: rest)) = [] :=
      List.flatMap_eq_nil_iff.mpr fun category hmem => ofCategory_eq_nil (hlate category hmem)
    have hnone' : before.flatMap (ofCategory rest) = [] :=
      List.flatMap_eq_nil_iff.mpr fun category hmem => ofCategory_eq_nil fun other hother =>
        hlate category hmem other (List.mem_cons_of_mem entry hother)
    have hsame : after.flatMap (ofCategory (entry :: rest)) = after.flatMap (ofCategory rest) := by
      refine List.flatMap_congr fun category hmem => ofCategory_cons_of_ne ?_ rest
      rintro rfl
      exact Nat.lt_irrefl _ (hafter _ hmem)
    have ih := ih hrest
    rw [horder, List.flatMap_append, List.flatMap_cons, hnone', List.nil_append] at ih
    rw [horder, List.flatMap_append, List.flatMap_cons, hnone, hsame, ofCategory_cons_self,
      List.nil_append, List.cons_append, ih]

theorem inOrder_trans (a b c : String × Command) (hab : inOrder a b = true)
    (hbc : inOrder b c = true) : inOrder a c = true :=
  decide_eq_true (Nat.le_trans (of_decide_eq_true hab) (of_decide_eq_true hbc))

theorem inOrder_total (a b : String × Command) : (inOrder a b || inOrder b a) = true := by
  rw [Bool.or_eq_true, inOrder, inOrder, decide_eq_true_iff, decide_eq_true_iff]
  exact Nat.le_total _ _

/-- Sorting keeps the commands of a category as they come. -/
theorem ofCategory_mergeSort (entries : List (String × Command)) (category : Category) :
    ofCategory (entries.mergeSort inOrder) category = ofCategory entries category := by
  have halike : (ofCategory entries category).Pairwise fun a b => inOrder a b = true := by
    refine List.pairwise_of_forall_mem_list ?_
    intro a ha b hb
    have ha := beq_iff_eq.mp (List.mem_filter.mp ha).2
    have hb := beq_iff_eq.mp (List.mem_filter.mp hb).2
    exact decide_eq_true (by rw [ha, hb])
  have hkept : (ofCategory entries category).Sublist (entries.mergeSort inOrder) :=
    List.sublist_mergeSort inOrder_trans inOrder_total halike List.filter_sublist
  have hgroup := hkept.filter (·.2.category == category)
  rw [ofCategory, List.filter_filter] at hgroup
  simp only [Bool.and_self] at hgroup
  exact (hgroup.eq_of_length ((List.mergeSort_perm _ _).filter _).length_eq.symm).symm

end Command

namespace Registry

theorem listing_eq_mergeSort (registry : Registry) :
    registry.listing = registry.entries.mergeSort Command.inOrder := by
  have hsorted := List.pairwise_mergeSort Command.inOrder_trans Command.inOrder_total
    registry.entries
  calc registry.listing
      = Category.order.flatMap (Command.ofCategory registry.entries) := rfl
    _ = Category.order.flatMap
          (Command.ofCategory (registry.entries.mergeSort Command.inOrder)) := by
        simp only [funext (Command.ofCategory_mergeSort registry.entries)]
    _ = registry.entries.mergeSort Command.inOrder := Command.flatMap_ofCategory hsorted

theorem listing_perm (registry : Registry) : registry.listing.Perm registry.entries := by
  rw [listing_eq_mergeSort]
  exact List.mergeSort_perm _ _

theorem lookup_of_mem_entries {commands : List Command} {name : String} {command : Command}
    (h : (name, command) ∈ (registerAll {} commands).entries) :
    (registerAll {} commands).lookup name = some command := by
  have hname : name ∈ (registerAll {} commands).names := List.mem_map_of_mem h
  rw [lookup_eq_get?, lower_of_mem_names hname]
  exact OrderedMap.lookup_of_mem (nodup_names _) h

/-- A listing of all that has been registered with these commands, in this order. -/
structure Lists (commands : List Command) (listing : List (String × Command)) : Prop where
  /-- The sort is stable. -/
  sorted : listing = (registerAll {} commands).entries.mergeSort Command.inOrder
  names_perm : (listing.map (·.1)).Perm (registerAll {} commands).names
  nodup : (listing.map (·.1)).Nodup
  /-- The groups follow each other, and in each the names keep the order of their first
  registration. -/
  grouped : listing = Category.order.flatMap (Command.ofCategory listing)
  ordered : ∀ category, ((Command.ofCategory listing category).map (·.1)).Pairwise fun a b =>
    (commands.map (Text.lower ·.name)).idxOf a < (commands.map (Text.lower ·.name)).idxOf b
  found : ∀ name command, (name, command) ∈ listing →
    (registerAll {} commands).lookup name = some command

theorem listing_lists (commands : List Command) :
    Lists commands (registerAll {} commands).listing where
  sorted := listing_eq_mergeSort _
  names_perm := (listing_perm _).map _
  nodup := ((listing_perm _).map _).nodup_iff.mpr (nodup_names _)
  grouped := by
    rw [listing_eq_mergeSort]
    exact (Command.flatMap_ofCategory
      (List.pairwise_mergeSort Command.inOrder_trans Command.inOrder_total _)).symm
  ordered category := by
    rw [listing_eq_mergeSort, Command.ofCategory_mergeSort]
    exact (ordered_names_registerAll commands).sublist (List.filter_sublist.map _)
  found _ _ hmem := lookup_of_mem_entries ((listing_perm _).mem_iff.mp hmem)

-- The second `clear` keeps its place among the entries, and stands in another group.
example :
    let command (name : String) (category : Category) : Command :=
      ⟨name, "", name, category, .give .silent⟩
    ((registerAll {} [command "clear" .system, command "me" .resume, command "old" .resume,
      command "CLEAR" .resume]).listing.map (·.1)) = ["clear", "me", "old"] := by decide +kernel

end Registry
end ResumeTerminal
