import ResumeTerminal.Proofs.Json.Shape.Meaning

/-! The members of a record without the blanks between them. It makes no difference to the
record in which order they stand, whether there are others under keys that it does not know, or
whether a field that is missing is written as `null`. -/
namespace ResumeTerminal.Json

theorem isRepeated_cons (names seen : List String) (before key : String) :
    isRepeated names (before :: seen) key =
      if key = before then names.contains key else isRepeated names seen key := by
  by_cases h : key = before
  · subst h
    simp [isRepeated]
  · rw [if_neg h, isRepeated, isRepeated, List.contains_cons, beq_false_of_ne h, Bool.false_or]

/-- A key and a value. -/
def Member.entry (member : Member Source) : Literal × Source := (member.key, member.value)

namespace Fields

/-- The slots after some entries, given the keys before them. -/
def slots? {σ : Type} (fields : Fields σ) (depth : Nat) :
    List String → σ → List (Literal × Source) → Option σ
  | _, slots, [] => some slots
  | seen, slots, (literal, source) :: entries =>
    literal.text?.bind fun key =>
      if isRepeated fields.names seen key then none
      else (fields.setFromSource depth key source slots).bind fun slots =>
        fields.slots? depth (key :: seen) slots entries

variable {σ : Type} (fields : Fields σ) (depth : Nat)

theorem slots?_entries (seen : List String) (slots : σ) (members : List (Member Source)) :
    fields.slots? depth seen slots (members.map Member.entry) =
      (foldMembers (recordStep fields.names (fields.setFromSource depth)) (seen, slots)
        members).map Prod.snd := by
  induction members generalizing seen slots with
  | nil => rfl
  | cons member members ih =>
    rw [List.map_cons, Member.entry, slots?, foldMembers, List.foldlM_cons]
    cases member.key.text? with
    | none => rfl
    | some key =>
      rw [Option.bind_some, Option.bind_some, recordStep]
      split
      · rfl
      · cases fields.setFromSource depth key member.value slots with
        | none => rfl
        | some next => exact ih (key :: seen) next

/-- Of the keys before, only those matter that come again. -/
theorem slots?_congr {entries : List (Literal × Source)} {seen others : List String}
    (h : ∀ entry ∈ entries, ∀ key, entry.1.text? = some key →
      isRepeated fields.names seen key = isRepeated fields.names others key) (slots : σ) :
    fields.slots? depth seen slots entries = fields.slots? depth others slots entries := by
  induction entries generalizing seen others slots with
  | nil => rfl
  | cons entry entries ih =>
    obtain ⟨literal, source⟩ := entry
    rw [slots?, slots?]
    cases hkey : literal.text? with
    | none => rfl
    | some key =>
      rw [Option.bind_some, Option.bind_some, h _ List.mem_cons_self key hkey]
      split
      · rfl
      · refine congrArg _ (funext fun next => ih (fun entry hentry other hother => ?_) next)
        have hbefore := h entry (List.mem_cons_of_mem _ hentry) other hother
        rw [isRepeated_cons, isRepeated_cons, hbefore]

/-! One field after the other. -/

theorem set_of_not_mem {σ : Type} (fields : Fields σ) (depth : Nat) {key : String}
    (h : key ∉ fields.names) (source : Source) (slots : σ) :
    fields.setFromSource depth key source slots = some slots := by
  cases fields with
  | done => rfl
  | field name shape absent present others =>
    rw [names, List.mem_cons, not_or] at h
    rw [setFromSource, if_neg h.1, set_of_not_mem others depth h.2]
    rfl

theorem set_null_absent {σ : Type} (fields : Fields σ) (depth : Nat) (key : String) :
    fields.setFromSource depth key .null fields.absent = some fields.absent := by
  cases fields with
  | done => rfl
  | field name shape absent present others =>
    rw [setFromSource, Fields.absent, set_null_absent others depth key]
    split <;> rfl

/-- Values under different keys go to different slots. -/
theorem set_comm {σ : Type} (fields : Fields σ) (depth : Nat) {key other : String}
    (h : key ≠ other) (source otherSource : Source) (slots : σ) :
    ((fields.setFromSource depth key source slots).bind
        (fields.setFromSource depth other otherSource)) =
      (fields.setFromSource depth other otherSource slots).bind
        (fields.setFromSource depth key source) := by
  cases fields with
  | done => rfl
  | field name shape absent present others =>
    have hlater := set_comm others depth h source otherSource slots.2
    simp only [setFromSource]
    by_cases hkey : key = name
    · have hother : other ≠ name := fun hother => h (hkey.trans hother.symm)
      simp only [if_pos hkey, if_neg hother, Option.bind_map, Function.comp_def]
      cases source.orNull absent present (shape.ofSource depth) <;>
        cases others.setFromSource depth other otherSource slots.2 <;> rfl
    · by_cases hother : other = name
      · simp only [if_neg hkey, if_pos hother, Option.bind_map, Function.comp_def]
        cases others.setFromSource depth key source slots.2 <;>
          cases otherSource.orNull absent present (shape.ofSource depth) <;> rfl
      · simpa only [if_neg hkey, if_neg hother, Option.bind_map, Option.map_bind,
          Function.comp_def] using congrArg (Option.map (slots.1, ·)) hlater

/-! Rules for entries. -/

theorem slots?_cons_of_unknown {literal : Literal}
    (h : ∀ name ∈ fields.names, literal.text? ≠ some name) (source : Source) (seen : List String)
    (slots : σ) (entries : List (Literal × Source)) :
    fields.slots? depth seen slots ((literal, source) :: entries) =
      literal.text?.bind fun _ => fields.slots? depth seen slots entries := by
  rw [slots?]
  cases hkey : literal.text? with
  | none => rfl
  | some key =>
    have hunknown : key ∉ fields.names := fun hmem => h key hmem hkey
    have hfirst : isRepeated fields.names seen key = false := by simp [isRepeated, hunknown]
    rw [Option.bind_some, Option.bind_some, hfirst, set_of_not_mem fields depth hunknown]
    refine fields.slots?_congr depth (fun entry _ other _ => ?_) slots
    rw [isRepeated_cons]
    split
    · next heq =>
      subst heq
      simp [isRepeated, hunknown]
    · rfl

/-- A field that is `null` is a missing field. -/
theorem slots?_cons_null {literal : Literal} {name : String} (hname : literal.text? = some name)
    {entries : List (Literal × Source)} (h : ∀ entry ∈ entries, entry.1.text? ≠ some name) :
    fields.slots? depth [] fields.absent ((literal, .null) :: entries) =
      fields.slots? depth [] fields.absent entries := by
  have hfirst : isRepeated fields.names [] name = false := by simp [isRepeated]
  rw [slots?, hname, Option.bind_some, hfirst, set_null_absent]
  refine fields.slots?_congr depth (fun entry hentry other hother => ?_) fields.absent
  have hne : other ≠ name := by
    rintro rfl
    exact h entry hentry hother
  rw [isRepeated_cons, if_neg hne]

theorem slots?_swap (first second : Literal × Source) (entries : List (Literal × Source))
    (seen : List String) (slots : σ) :
    fields.slots? depth seen slots (first :: second :: entries) =
      fields.slots? depth seen slots (second :: first :: entries) := by
  obtain ⟨firstLiteral, firstSource⟩ := first
  obtain ⟨secondLiteral, secondSource⟩ := second
  simp only [slots?]
  cases firstLiteral.text? with
  | none => simp
  | some key =>
    cases secondLiteral.text? with
    | none => simp
    | some other =>
      simp only [Option.bind_some, isRepeated_cons]
      by_cases hkey : key = other
      · subst hkey
        by_cases hmem : key ∈ fields.names
        · simp [hmem]
        · simp [hmem, set_of_not_mem fields depth hmem]
      · have hseen (slots : σ) : fields.slots? depth (other :: key :: seen) slots entries =
            fields.slots? depth (key :: other :: seen) slots entries := by
          refine fields.slots?_congr depth (fun _ _ again _ => ?_) slots
          simp only [isRepeated_cons]
          split <;> split <;> simp_all
        have hslots := congrArg (Option.bind · fun slots =>
          fields.slots? depth (other :: key :: seen) slots entries)
          (set_comm fields depth hkey firstSource secondSource slots)
        simp only [if_neg hkey, if_neg (Ne.symm hkey)]
        by_cases hfirst : isRepeated fields.names seen key
        · simp [hfirst]
        · by_cases hsecond : isRepeated fields.names seen other
          · simp [hsecond]
          · simpa only [if_neg hfirst, if_neg hsecond, Option.bind_assoc, hseen] using hslots

theorem slots?_perm {entries others : List (Literal × Source)} (h : entries.Perm others)
    (seen : List String) (slots : σ) :
    fields.slots? depth seen slots entries = fields.slots? depth seen slots others := by
  induction h generalizing seen slots with
  | nil => rfl
  | cons entry _ ih => simp only [slots?, ih]
  | swap first second entries => exact fields.slots?_swap depth second first entries seen slots
  | trans _ _ ihFirst ihSecond => exact (ihFirst seen slots).trans (ihSecond seen slots)

end Fields
end ResumeTerminal.Json
