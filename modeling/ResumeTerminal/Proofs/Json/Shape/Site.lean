import ResumeTerminal.Proofs.Json.Shape.Buffering
import ResumeTerminal.Proofs.Json.Shape.Entries

/-! What a value means where it stands. Inside a choice it is read as a tree first, and then it
means nothing if it has no tree. -/
namespace ResumeTerminal.Json

/-- How many more brackets may open at a value, and whether it is read as a tree first. -/
structure Site where
  depth : Nat
  buffered : Bool
  deriving DecidableEq

namespace Site

/-- Within one more bracket. -/
def inner (site : Site) : Site := ⟨site.depth - 1, site.buffered⟩

/-- Only where a tree is wanted does a value need to have one. -/
def admits (site : Site) (source : Source) : Bool :=
  !site.buffered || (source.tree? site.depth).isSome

def admitsEntry (site : Site) (entry : Literal × Source) : Bool :=
  !site.buffered || (entry.1.text?.isSome && (entry.2.tree? site.depth).isSome)

theorem admits_array (depth : Nat) (buffered : Bool) (items : List (Item Source))
    (close : Blanks) :
    admits ⟨depth + 1, buffered⟩ (.array items close) =
      items.all fun item => admits ⟨depth, buffered⟩ item.value := by
  cases buffered with
  | false => exact (List.all_eq_true.mpr fun _ _ => rfl).symm
  | true =>
    simp only [admits, Bool.not_true, Bool.false_or, Source.tree?, Option.isSome_map, isSome_mapM]

theorem admits_object (depth : Nat) (buffered : Bool) (members : List (Member Source))
    (close : Blanks) :
    admits ⟨depth + 1, buffered⟩ (.object members close) =
      (members.map Member.entry).all (admitsEntry ⟨depth, buffered⟩) := by
  cases buffered with
  | false => exact (List.all_eq_true.mpr fun _ _ => rfl).symm
  | true =>
    have hpair (member : Member Source) : (member.pair? (Source.tree? depth)).isSome =
        admitsEntry ⟨depth, true⟩ member.entry := by
      rw [Member.pair?]
      cases hkey : member.key.text? <;> simp [admitsEntry, Member.entry, hkey]
    simp only [admits, Bool.not_true, Bool.false_or, Source.tree?, Option.isSome_map, isSome_mapM,
      hpair, List.all_map, Function.comp_def]

end Site

/-- What a source means at a site. -/
def Shape.meaning {α : Type} (shape : Shape α) (site : Site) (source : Source) : Option α :=
  if site.admits source then shape.ofSource site.depth source else none

theorem Shape.meaning_direct {α : Type} (shape : Shape α) (depth : Nat) (source : Source) :
    shape.meaning ⟨depth, false⟩ source = shape.ofSource depth source := rfl

theorem Shape.meaning_buffered {α : Type} (shape : Shape α) (depth : Nat) (source : Source) :
    shape.meaning ⟨depth, true⟩ source = (source.tree? depth).bind shape.ofTree := by
  rw [meaning, Site.admits]
  cases htree : source.tree? depth with
  | none => rfl
  | some tree => exact Shape.ofSource_of_tree? shape htree

/-- What the entries of a record mean at a site. -/
def Fields.meaning {σ : Type} (fields : Fields σ) (site : Site)
    (entries : List (Literal × Source)) : Option σ :=
  if entries.all site.admitsEntry then fields.slots? site.depth [] fields.absent entries else none

theorem Shape.ofSource_object {σ α : Type} (name : String) (complete : Bool) (fields : Fields σ)
    (make : σ → α) (depth : Nat) (members : List (Member Source)) (close : Blanks) :
    (Shape.record name complete fields make).ofSource (depth + 1) (.object members close) =
      (fields.slots? depth [] fields.absent (members.map Member.entry)).map make := by
  rw [Fields.slots?_entries, Shape.ofSource, Option.map_map]
  rfl

theorem Shape.meaning_object {σ α : Type} (name : String) (complete : Bool) (fields : Fields σ)
    (make : σ → α) (depth : Nat) (buffered : Bool) (members : List (Member Source))
    (close : Blanks) :
    (Shape.record name complete fields make).meaning ⟨depth + 1, buffered⟩
        (.object members close) =
      (fields.meaning ⟨depth, buffered⟩ (members.map Member.entry)).map make := by
  rw [meaning, Fields.meaning, Site.admits_object, Shape.ofSource_object]
  split <;> rfl

namespace Fields
variable {σ : Type} (fields : Fields σ) (site : Site)

theorem meaning_perm {entries others : List (Literal × Source)} (h : entries.Perm others) :
    fields.meaning site entries = fields.meaning site others := by
  rw [meaning, meaning, h.all_eq, fields.slots?_perm site.depth h]

theorem meaning_cons_null {literal : Literal} {name : String} (hname : literal.text? = some name)
    {entries : List (Literal × Source)} (h : ∀ entry ∈ entries, entry.1.text? ≠ some name) :
    fields.meaning site ((literal, .null) :: entries) = fields.meaning site entries := by
  have hnull : site.admitsEntry (literal, .null) = true := by
    obtain ⟨depth, buffered⟩ := site
    cases depth <;> simp [Site.admitsEntry, hname, Source.tree?]
  rw [meaning, meaning, List.all_cons, hnull, Bool.true_and, fields.slots?_cons_null _ hname h]

theorem meaning_cons_of_unknown {literal : Literal}
    (h : ∀ name ∈ fields.names, literal.text? ≠ some name) (source : Source)
    (entries : List (Literal × Source)) :
    fields.meaning site ((literal, source) :: entries) =
      if literal.text?.isSome ∧ site.admits source then fields.meaning site entries
      else none := by
  rw [meaning, List.all_cons, fields.slots?_cons_of_unknown site.depth h, meaning, Site.admitsEntry,
    Site.admits]
  cases literal.text? with
  | none => simp
  | some key =>
    simp only [Option.isSome_some, Option.bind_some, Bool.true_and, Bool.and_eq_true, ite_and,
      if_true]

end Fields

end ResumeTerminal.Json
