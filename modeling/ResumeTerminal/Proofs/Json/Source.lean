import ResumeTerminal.Proofs.Json.Literal
import ResumeTerminal.Proofs.Json.Numeral

/-! JSON texts as trees of what is written: every value with the blanks around it, members
in their order, and keys as literals that may come more than once. What a text means to a
reader is stated and proved by way of its tree. -/
namespace ResumeTerminal.Json

/-- The blanks before and after a comma. The first element of a bracket has no comma. -/
structure Gap where
  before : Blanks
  after : Blanks

def Gap.chars (gap : Gap) (first : Bool) : List Char :=
  gap.before.chars ++ (if first then gap.after.chars else ',' :: gap.after.chars)

structure Item (α : Type) where
  gap : Gap
  value : α

/-- A key and a value, with the blanks on both sides of the colon. -/
structure Member (α : Type) where
  gap : Gap
  key : Literal
  colon : Blanks
  space : Blanks
  value : α

inductive Source where
  | null
  | boolean (value : Bool)
  | number (numeral : Numeral)
  | text (literal : Literal)
  | array (items : List (Item Source)) (close : Blanks)
  | object (members : List (Member Source)) (close : Blanks)

def wordChars : Bool → List Char
  | true => ['t', 'r', 'u', 'e']
  | false => ['f', 'a', 'l', 's', 'e']

mutual

def Source.chars : Source → List Char
  | .null => ['n', 'u', 'l', 'l']
  | .boolean value => wordChars value
  | .number numeral => numeral.chars
  | .text literal => literal.chars
  | .array items close => '[' :: (itemsChars true items ++ (close.chars ++ [']']))
  | .object members close => '\x7b' :: (membersChars true members ++ (close.chars ++ ['\x7d']))

def itemsChars (first : Bool) : List (Item Source) → List Char
  | [] => []
  | ⟨gap, value⟩ :: rest => gap.chars first ++ (value.chars ++ itemsChars false rest)

def membersChars (first : Bool) : List (Member Source) → List Char
  | [] => []
  | ⟨gap, key, colon, space, value⟩ :: rest =>
    gap.chars first ++ (key.chars ++ (colon.chars ++ ':' :: (space.chars ++
      (value.chars ++ membersChars false rest))))

end

/-- A whole text: one value, with blanks around it. -/
structure Document where
  lead : Blanks
  value : Source
  trail : Blanks

def Document.text (document : Document) : String :=
  String.ofList (document.lead.chars ++ (document.value.chars ++ document.trail.chars))

namespace Source

/-- Trees are finite: what holds of a bracket if it holds of its elements holds of all. -/
@[elab_as_elim, induction_eliminator]
theorem induct {motive : Source → Prop} (null : motive .null)
    (boolean : ∀ value, motive (.boolean value)) (number : ∀ numeral, motive (.number numeral))
    (text : ∀ literal, motive (.text literal))
    (array : ∀ items close, (∀ item ∈ items, motive item.value) → motive (.array items close))
    (object : ∀ members close, (∀ member ∈ members, motive member.value) →
      motive (.object members close)) (source : Source) : motive source :=
  match source with
  | .null => null
  | .boolean value => boolean value
  | .number numeral => number numeral
  | .text literal => text literal
  | .array items close => array items close fun item _hitem =>
    induct null boolean number text array object item.value
  | .object members close => object members close fun member _hmember =>
    induct null boolean number text array object member.value
termination_by sizeOf source
decreasing_by
  · have hsize := List.sizeOf_lt_of_mem _hitem
    cases item
    simp only [Item.mk.sizeOf_spec, Source.array.sizeOf_spec] at hsize ⊢
    omega
  · have hsize := List.sizeOf_lt_of_mem _hmember
    cases member
    simp only [Member.mk.sizeOf_spec, Source.object.sizeOf_spec] at hsize ⊢
    omega

/-- A value begins with a character that is neither blank nor a closing bracket. -/
theorem exists_cons (source : Source) :
    ∃ c rest, source.chars = c :: rest ∧ isSpace c = false ∧ c ≠ ']' := by
  cases source with
  | null => exact ⟨'n', _, rfl, rfl, by decide⟩
  | boolean value => cases value <;> exact ⟨_, _, rfl, rfl, by decide⟩
  | number numeral =>
    obtain ⟨c, rest, hchars, hc⟩ := numeral.exists_cons
    refine ⟨c, rest, hchars, (Numeral.ne_of_head hc).1, ?_⟩
    rintro rfl
    exact absurd hc (by decide)
  | text literal => exact ⟨'"', _, rfl, rfl, by decide⟩
  | array items close => exact ⟨'[', _, rfl, rfl, by decide⟩
  | object members close => exact ⟨'\x7b', _, rfl, rfl, by decide⟩

theorem skipSpace_append (source : Source) (rest : List Char) :
    skipSpace (source.chars ++ rest) = source.chars ++ rest := by
  obtain ⟨c, others, hchars, hspace, -⟩ := source.exists_cons
  rw [hchars, List.cons_append, skipSpace_cons hspace]

theorem array_chars_append (items : List (Item Source)) (close : Blanks) (rest : List Char) :
    (Source.array items close).chars ++ rest =
      '[' :: (itemsChars true items ++ (close.chars ++ ']' :: rest)) := by
  simp [chars]

theorem object_chars_append (members : List (Member Source)) (close : Blanks)
    (rest : List Char) :
    (Source.object members close).chars ++ rest =
      '\x7b' :: (membersChars true members ++ (close.chars ++ '\x7d' :: rest)) := by
  simp [chars]

theorem text_chars_append (literal : Literal) (rest : List Char) :
    (Source.text literal).chars ++ rest = '"' :: (literal.body ++ '"' :: rest) := by
  simp [chars, Literal.chars]

theorem length_pos (source : Source) : 0 < source.chars.length := by
  obtain ⟨c, others, hchars, -⟩ := source.exists_cons
  rw [hchars]
  exact Nat.succ_pos _

end Source

/-! After an element a number cannot go on. -/

theorem ends_blanks_append (blanks : Blanks) {c : Char} (h : continues c = false)
    (rest : List Char) : Ends (blanks.chars ++ c :: rest) := by
  obtain ⟨chars, hspace⟩ := blanks
  cases chars with
  | nil => exact Ends.cons h rest
  | cons b chars =>
    rw [List.all_cons, Bool.and_eq_true] at hspace
    apply Ends.cons
    simp only [isSpace, Bool.or_eq_true, beq_iff_eq] at hspace
    rcases hspace.1 with ((rfl | rfl) | rfl) | rfl <;> rfl

theorem ends_blanks (blanks : Blanks) : Ends blanks.chars := by
  have hcomma : continues ',' = false := rfl
  have hends := ends_blanks_append blanks hcomma []
  intro c hc
  apply hends
  rw [List.head?_append, Option.mem_def.mp hc]
  rfl

theorem Document.skipSpace_text (document : Document) :
    skipSpace document.text.toList = document.value.chars ++ document.trail.chars := by
  rw [text, String.toList_ofList, Blanks.skipSpace_append, Source.skipSpace_append]

theorem Gap.chars_false (gap : Gap) (rest : List Char) :
    gap.chars false ++ rest = gap.before.chars ++ ',' :: (gap.after.chars ++ rest) := by
  simp [chars]

theorem Gap.chars_true (gap : Gap) (rest : List Char) :
    gap.chars true ++ rest = gap.before.chars ++ (gap.after.chars ++ rest) := by
  simp [chars]

theorem ends_after_item (items : List (Item Source)) (close : Blanks) (rest : List Char) :
    Ends (itemsChars false items ++ (close.chars ++ ']' :: rest)) := by
  cases items with
  | nil => exact ends_blanks_append close rfl rest
  | cons item items =>
    rw [itemsChars, List.append_assoc, Gap.chars_false]
    exact ends_blanks_append item.gap.before rfl _

theorem ends_after_member (members : List (Member Source)) (close : Blanks) (rest : List Char) :
    Ends (membersChars false members ++ (close.chars ++ '\x7d' :: rest)) := by
  cases members with
  | nil => exact ends_blanks_append close rfl rest
  | cons member members =>
    rw [membersChars, List.append_assoc, Gap.chars_false]
    exact ends_blanks_append member.gap.before rfl _

end ResumeTerminal.Json
