import ResumeTerminal.Proofs.Json.Shape.Meaning

/-! The fields of a record. A record takes each field from the one member or the one place
in a list that stands for it; other members make no difference. -/
namespace ResumeTerminal.Json

namespace Shape

def fieldNames {α : Type} : Shape α → List String
  | .record _ _ fields _ => fields.names
  | _ => []

end Shape

/-- What stands for a field of a shape: a member of that name, or an element in the place
that the field has among all fields. -/
def Source.field? {α : Type} (source : Source) (shape : Shape α) (name : String) :
    Option Source :=
  match source with
  | .object members _ =>
    (members.find? fun member => member.key.text? == some name).map Member.value
  | .array items _ => items[shape.fieldNames.idxOf name]?.map Item.value
  | _ => none

/-- The value of a field that may be missing. -/
def slot? {α β : Type} (absent : β) (present : α → β) (meaning : Source → Option α) :
    Option Source → Option β
  | none => some absent
  | some source => source.orNull absent present meaning

theorem exists_of_slot? {α β : Type} {absent slot : β} {present : α → β}
    {meaning : Source → Option α} {source : Source} (hnull : source ≠ .null)
    (h : slot? absent present meaning (some source) = some slot) :
    ∃ value, meaning source = some value ∧ present value = slot := by
  cases source with
  | null => exact absurd rfl hnull
  | _ => exact Option.map_eq_some_iff.mp h

/-- A field among others, with the function that gets its slot. -/
inductive Fields.At {α β : Type} (name : String) (shape : Shape α) (absent : β)
    (present : α → β) : {σ : Type} → Fields σ → (σ → β) → Prop where
  | here {σ : Type} {others : Fields σ} :
    At name shape absent present (.field name shape absent present others) Prod.fst
  | there {γ δ σ : Type} {other : String} {otherShape : Shape γ} {otherAbsent : δ}
    {otherPresent : γ → δ} {others : Fields σ} {get : σ → β} (hne : other ≠ name)
    (hothers : At name shape absent present others get) :
    At name shape absent present (.field other otherShape otherAbsent otherPresent others)
      (get ∘ Prod.snd)

theorem recordStep_eq_some {σ : Type} {names : List String}
    {set : String → Source → σ → Option σ} {key : String} {state next : List String × σ}
    {source : Source} (h : recordStep names set key state source = some next) :
    ¬ (key ∈ names ∧ key ∈ state.1) ∧
      ∃ slots, set key source state.2 = some slots ∧ next = (key :: state.1, slots) := by
  rw [recordStep] at h
  split at h
  · cases h
  · next hrepeated =>
    obtain ⟨slots, hslots, rfl⟩ := Option.map_eq_some_iff.mp h
    exact ⟨by simpa [isRepeated] using hrepeated, slots, hslots, rfl⟩

namespace Fields.At

variable {α β σ : Type} {name : String} {shape : Shape α} {absent : β} {present : α → β}
  {fields : Fields σ} {get : σ → β}

theorem mem_names (h : At name shape absent present fields get) : name ∈ fields.names := by
  induction h with
  | here => exact List.mem_cons_self
  | there _ _ ih => exact List.mem_cons_of_mem _ ih

theorem get_absent (h : At name shape absent present fields get) :
    get fields.absent = absent := by
  induction h with
  | here => rfl
  | there _ _ ih => exact ih

/-! Members. -/

theorem get_set_self (h : At name shape absent present fields get) {depth : Nat}
    {source : Source} {slots next : σ}
    (hset : fields.setFromSource depth name source slots = some next) :
    source.orNull absent present (shape.ofSource depth) = some (get next) := by
  induction h with
  | here =>
    rw [Fields.setFromSource, if_pos rfl, Option.map_eq_some_iff] at hset
    obtain ⟨value, hvalue, rfl⟩ := hset
    exact hvalue
  | there hne _ ih =>
    rw [Fields.setFromSource, if_neg (Ne.symm hne), Option.map_eq_some_iff] at hset
    obtain ⟨others, hothers, rfl⟩ := hset
    exact ih hothers

theorem get_set_of_ne (h : At name shape absent present fields get) {depth : Nat}
    {key : String} (hkey : key ≠ name) {source : Source} {slots next : σ}
    (hset : fields.setFromSource depth key source slots = some next) :
    get next = get slots := by
  induction h with
  | here =>
    rw [Fields.setFromSource, if_neg hkey, Option.map_eq_some_iff] at hset
    obtain ⟨others, -, rfl⟩ := hset
    rfl
  | there hne _ ih =>
    rw [Fields.setFromSource] at hset
    split at hset
    · obtain ⟨value, -, rfl⟩ := Option.map_eq_some_iff.mp hset
      rfl
    · obtain ⟨others, hothers, rfl⟩ := Option.map_eq_some_iff.mp hset
      exact ih hothers

/-- A name of a field that has been seen is not accepted again. -/
theorem get_fold (h : At name shape absent present fields get) {depth : Nat}
    {members : List (Member Source)} {seen : List String} {slots : σ}
    {last : List String × σ}
    (hfold : foldMembers (recordStep fields.names (fields.setFromSource depth)) (seen, slots)
      members = some last) :
    match members.find? fun member => member.key.text? == some name with
    | none => get last.2 = get slots
    | some member => name ∉ seen ∧
      member.value.orNull absent present (shape.ofSource depth) = some (get last.2) := by
  induction members generalizing seen slots with
  | nil =>
    cases Option.some.inj hfold
    rfl
  | cons member members ih =>
    obtain ⟨key, next, hkey, hstep, hrest⟩ := foldMembers_cons_eq_some hfold
    obtain ⟨hseen, middle, hset, rfl⟩ := recordStep_eq_some hstep
    have hlater := ih hrest
    rw [List.find?_cons, hkey]
    by_cases hname : key = name
    · subst hname
      have hself := h.get_set_self hset
      rw [beq_self_eq_true]
      refine ⟨fun hmem => hseen ⟨h.mem_names, hmem⟩, ?_⟩
      cases hfind : members.find? fun member => member.key.text? == some key with
      | none =>
        rw [hfind] at hlater
        rw [hlater, hself]
      | some other =>
        rw [hfind] at hlater
        exact absurd List.mem_cons_self hlater.1
    · have hother := h.get_set_of_ne hname hset
      have hne : (some key == some name) = false := by simpa using hname
      rw [hne]
      cases hfind : members.find? fun member => member.key.text? == some name with
      | none =>
        rw [hfind] at hlater
        exact hlater.trans hother
      | some other =>
        rw [hfind] at hlater
        exact ⟨fun hmem => hlater.1 (List.mem_cons_of_mem _ hmem), hlater.2⟩

/-! Lists. -/

theorem get_ofSources (h : At name shape absent present fields get) {depth : Nat}
    {sources : List Source} {slots : σ} (hslots : fields.ofSources depth sources = some slots) :
    slot? absent present (shape.ofSource depth) sources[fields.names.idxOf name]? =
      some (get slots) := by
  induction h generalizing sources with
  | here =>
    rw [Fields.names, List.idxOf_cons_self]
    cases sources with
    | nil =>
      cases Option.some.inj hslots
      rfl
    | cons source sources =>
      obtain ⟨value, hvalue, hmap⟩ := Option.bind_eq_some_iff.mp hslots
      obtain ⟨others, -, rfl⟩ := Option.map_eq_some_iff.mp hmap
      exact hvalue
  | there hne hothers ih =>
    rw [Fields.names, List.idxOf_cons_ne _ hne]
    cases sources with
    | nil =>
      cases Option.some.inj hslots
      exact congrArg some hothers.get_absent.symm
    | cons source sources =>
      obtain ⟨value, -, hmap⟩ := Option.bind_eq_some_iff.mp hslots
      obtain ⟨others, hrest, rfl⟩ := Option.map_eq_some_iff.mp hmap
      exact ih hrest

end Fields.At

/-- A record is made from slots, and each slot comes from what stands for its field. -/
theorem Shape.exists_slots {σ α : Type} {name : String} {complete : Bool} {fields : Fields σ}
    {make : σ → α} {depth : Nat} {source : Source} {value : α}
    (h : (Shape.record name complete fields make).ofSource depth source = some value) :
    ∃ inner slots, depth = inner + 1 ∧ value = make slots ∧
      ∀ {β γ : Type} {field : String} {shape : Shape β} {absent : γ} {present : β → γ}
        {get : σ → γ}, Fields.At field shape absent present fields get →
          slot? absent present (shape.ofSource inner)
            (source.field? (.record name complete fields make) field) = some (get slots) := by
  cases depth with
  | zero => cases source <;> cases h
  | succ depth =>
    cases source with
    | object members close =>
      obtain ⟨last, hfold, rfl⟩ := Option.map_eq_some_iff.mp h
      refine ⟨depth, last.2, rfl, rfl, fun hat => ?_⟩
      have hslot := hat.get_fold hfold
      simp only [Source.field?]
      split at hslot
      · next hfind => rw [hfind, Option.map_none, slot?, hslot, hat.get_absent]
      · next hfind => rw [hfind, Option.map_some, slot?, hslot.2]
    | array items close =>
      rw [Shape.ofSource] at h
      split at h
      · cases h
      · obtain ⟨slots, hslots, rfl⟩ := Option.map_eq_some_iff.mp h
        refine ⟨depth, slots, rfl, rfl, fun hat => ?_⟩
        rw [Source.field?, ← List.getElem?_map]
        exact hat.get_ofSources hslots
    | null | boolean value | number numeral | text literal => cases h

end ResumeTerminal.Json
