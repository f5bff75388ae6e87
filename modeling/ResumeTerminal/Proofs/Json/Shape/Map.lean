import Mathlib.Data.List.Forall2
import ResumeTerminal.Proofs.Json.Shape.Buffering
import ResumeTerminal.Proofs.Json.Shape.Reading
import ResumeTerminal.Proofs.Json.Writing
import ResumeTerminal.Proofs.OrderedMap

/-! Objects that are read as ordered maps: the map is what inserting the members one by one
makes, in the order of the text, and a map that is written as an object is read back. -/
namespace ResumeTerminal.Json
variable {α : Type}

/-! Members. -/

/-- Whether a key stands for this name, and a value is read as this value. -/
structure Member.ReadsAs (shape : Shape α) (depth : Nat) (member : Member Source)
    (pair : String × α) : Prop where
  key : member.key.text? = some pair.1
  value : shape.ReadsAs depth member.value pair.2

/-- Whether the members of an object are these pairs, one after the other. -/
inductive Source.Lists (shape : Shape α) (depth : Nat) : Source → List (String × α) → Prop where
  | object {members : List (Member Source)} {close : Blanks} {pairs : List (String × α)}
    (h : List.Forall₂ (Member.ReadsAs shape depth) members pairs) :
    Lists shape depth (.object members close) pairs

section
variable {shape : Shape α} {depth : Nat}

theorem Member.readsAs_iff {member : Member Source} {pair : String × α} :
    member.ReadsAs shape depth pair ↔ member.pair? (shape.ofSource depth) = some pair := by
  constructor
  · intro h
    rw [pair?, h.key, Option.bind_some, Shape.readsAs_iff.mp h.value, Option.map_some]
  · intro h
    obtain ⟨key, hkey, hvalue⟩ := Option.bind_eq_some_iff.mp h
    obtain ⟨value, hread, rfl⟩ := Option.map_eq_some_iff.mp hvalue
    exact ⟨hkey, Shape.readsAs_iff.mpr hread⟩

theorem forall₂_readsAs_iff {members : List (Member Source)} {pairs : List (String × α)} :
    List.Forall₂ (Member.ReadsAs shape depth) members pairs ↔
      members.mapM (Member.pair? (shape.ofSource depth)) = some pairs := by
  constructor
  · intro h
    induction h with
    | nil => rfl
    | cons hmember _ ih =>
      rw [List.mapM_cons, Member.readsAs_iff.mp hmember, ih]
      rfl
  · intro h
    induction members generalizing pairs with
    | nil =>
      cases h
      exact .nil
    | cons member members ih =>
      obtain ⟨pair, others, hpair, hothers, rfl⟩ := mapM_cons_eq_some h
      exact .cons (Member.readsAs_iff.mpr hpair) (ih hothers)

/-- An object that is written for entries lists them. -/
theorem Source.lists_ofEntries {write : α → Source} {entries : List (String × α)}
    (h : ∀ entry ∈ entries, shape.ReadsAs depth (write entry.2) entry.2) :
    (Source.ofEntries write entries).Lists shape depth entries := by
  apply Lists.object
  rw [List.forall₂_map_left_iff, List.forall₂_same]
  intro entry hentry
  exact ⟨Literal.text?_ofText entry.1, h entry hentry⟩

/-! Maps. -/

theorem Shape.map_readsAs_iff {source : Source} {map : OrderedMap α} :
    (Shape.map shape).ReadsAs (depth + 1) source map ↔
      ∃ pairs, source.Lists shape depth pairs ∧ .ofList pairs = map := by
  rw [readsAs_iff]
  cases source with
  | object members close =>
    rw [ofSource, Option.map_eq_some_iff]
    apply exists_congr
    intro pairs
    apply and_congr_left'
    rw [← forall₂_readsAs_iff]
    exact ⟨.object, fun ⟨h⟩ => h⟩
  | null | boolean value | number numeral | text literal | array items close =>
    constructor
    · intro h
      cases h
    · rintro ⟨pairs, h, -⟩
      cases h

/-- A map comes back from any object with its entries. -/
theorem Shape.map_readsAs_of_entries {source : Source} {map : OrderedMap α}
    (hnodup : map.keys.Nodup) (h : source.Lists shape depth map.entries) :
    (Shape.map shape).ReadsAs (depth + 1) source map :=
  map_readsAs_iff.mpr ⟨map.entries, h, OrderedMap.ofList_entries hnodup⟩

end

/-- Inserting pairs one by one makes the only map that has collected them. An object with these
members is read as this map, wherever it stands, and so is an object with the entries of the map
as its members. Where it is a whole text, 126 more brackets may open in its members. Such an
object can be written whenever the values can. -/
theorem Shape.map_reads_insertions (shape : Shape α) (pairs : List (String × α)) :
    let map := OrderedMap.ofList pairs
    (∀ other : OrderedMap α, other.Collects pairs ↔ other = map) ∧
    (∀ depth source, source.Lists shape depth pairs ∨ source.Lists shape depth map.entries →
      (Shape.map shape).ReadsAs (depth + 1) source map) ∧
    (∀ document : Document,
      document.value.Lists shape 126 pairs ∨ document.value.Lists shape 126 map.entries →
        (Shape.map shape).ofText document.text = .ok map) ∧
    (∀ depth write, (∀ entry ∈ map.entries, shape.ReadsAs depth (write entry.2) entry.2) →
      (Source.ofEntries write map.entries).Lists shape depth map.entries) := by
  intro map
  have hread (depth : Nat) (source : Source)
      (h : source.Lists shape depth pairs ∨ source.Lists shape depth map.entries) :
      (Shape.map shape).ReadsAs (depth + 1) source map := by
    rcases h with hpairs | hentries
    · exact map_readsAs_iff.mpr ⟨pairs, hpairs, rfl⟩
    · exact map_readsAs_of_entries (OrderedMap.nodup_keys_ofList pairs) hentries
  refine ⟨fun other => OrderedMap.collects_iff other pairs, hread, ?_, ?_⟩
  · intro document h
    exact ofText_eq_ok_iff.mpr (hread 126 document.value h)
  · intro depth write h
    exact Source.lists_ofEntries h

/-- Two members of an object with one key, which is written differently the second time. -/
def repeatedKeyDocument : Document := .of <| .object
  [.ofEntry "a" (.number (.ofInt 1)), .ofEntry "b" (.number (.ofInt 2)),
   { Member.ofEntry "" (.number (.ofInt 3)) with key := ⟨[.unit '0' '0' '6' '1' 97 rfl]⟩ }] .none

theorem Shape.map_reads_repeatedKeyDocument :
    (Shape.map .integer).ofText "\x7b\"a\":1,\"b\":2,\"\\u0061\":3\x7d" =
        .ok ⟨[("a", 3), ("b", 2)]⟩ ∧
      (Shape.map .integer).ofText "\x7b\"a\":3,\"b\":2\x7d" = .ok ⟨[("a", 3), ("b", 2)]⟩ := by
  obtain ⟨-, -, hread, hwrite⟩ :=
    Shape.map_reads_insertions .integer [("a", 1), ("b", 2), ("a", 3)]
  have hwritten : ∀ entry ∈ [("a", (3 : Int)), ("b", 2)],
      Shape.integer.ofSource 126 (.number (.ofInt entry.2)) = some entry.2 := by decide
  constructor
  · exact hread repeatedKeyDocument (.inl (.object (forall₂_readsAs_iff.mpr rfl)))
  · have hlists := hwrite 126 (fun n => .number (.ofInt n)) fun entry hentry =>
      readsAs_iff.mpr (hwritten entry hentry)
    have hback := hread (.of _) (.inr hlists)
    exact hback

end ResumeTerminal.Json
