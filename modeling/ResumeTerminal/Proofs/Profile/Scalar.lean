import ResumeTerminal.Profile.Reading
import ResumeTerminal.Proofs.Json.Integer
import ResumeTerminal.Proofs.Json.Shape.Buffering
import ResumeTerminal.Proofs.Json.Shape.Reading

/-! Years and dates, from the text of a profile to what is shown of them. An integer is shown with
the digits it was written with and a text as it is, and neither is taken for the other. -/
namespace ResumeTerminal.Profile
open Json

variable {depth : Nat} {source : Source}

/-- A number is an integer if it can be, and a float otherwise. -/
def scalarOf (number : Number) : Scalar :=
  match (number.toInt "i64").toOption with
  | some n => .integer n
  | none => .float number.toFloat

theorem scalarShape_ofTree_number (number : Number) :
    scalarShape.ofTree (.number number) = some (scalarOf number) := by
  simp only [scalarShape, Shape.ofTree, Options.ofTree, scalarOf]
  cases (number.toInt "i64").toOption <;> rfl

/-- A scalar is what a literal stands for, or what a number is read as. -/
theorem scalar_readsAs_iff {scalar : Scalar} :
    scalarShape.ReadsAs depth source scalar ↔
      (∃ literal text, source = .text literal ∧ literal.text? = some text ∧
        .text text = scalar) ∨
      ∃ numeral number, source = .number numeral ∧ numeral.number? = some number ∧
        scalarOf number = scalar := by
  have hmeaning : scalarShape.ofSource depth source =
      (source.tree? depth).bind scalarShape.ofTree := by
    simp only [scalarShape, Shape.ofSource, Shape.ofTree]
  rw [Shape.readsAs_iff, hmeaning]
  constructor
  · intro h
    obtain ⟨tree, htree, hscalar⟩ := Option.bind_eq_some_iff.mp h
    cases Source.hasTree_of_tree? htree with
    | number hnumber =>
      rw [scalarShape_ofTree_number] at hscalar
      exact .inr ⟨_, _, rfl, hnumber, Option.some.inj hscalar⟩
    | text htext => exact .inl ⟨_, _, rfl, htext, Option.some.inj hscalar⟩
    | null | boolean | array | object => cases hscalar
  · rintro (⟨literal, text, rfl, htext, rfl⟩ | ⟨numeral, number, rfl, hnumber, rfl⟩)
    · have htree : (Source.text literal).tree? depth = some (.text text) := by
        cases depth <;> simp [Source.tree?, htext]
      rw [htree]
      rfl
    · have htree : (Source.number numeral).tree? depth = some (.number number) := by
        cases depth <;> simp [Source.tree?, hnumber]
      rw [htree]
      exact scalarShape_ofTree_number number

theorem scalarOf_eq_integer_iff (number : Number) (n : Int) :
    scalarOf number = .integer n ↔ (number.toInt "i64").toOption = some n := by
  unfold scalarOf
  cases (number.toInt "i64").toOption <;> simp

theorem scalarOf_ne_text (number : Number) (text : String) : scalarOf number ≠ .text text := by
  unfold scalarOf
  cases (number.toInt "i64").toOption <;> simp

/-- Texts are read from literals only. -/
theorem scalar_readsAs_text_iff {text : String} :
    scalarShape.ReadsAs depth source (.text text) ↔
      ∃ literal, source = .text literal ∧ literal.text? = some text := by
  rw [scalar_readsAs_iff]
  constructor
  · rintro (⟨literal, other, hsource, htext, hother⟩ | ⟨numeral, number, -, -, hnumber⟩)
    · cases hother
      exact ⟨literal, hsource, htext⟩
    · exact absurd hnumber (scalarOf_ne_text number text)
  · rintro ⟨literal, hsource, htext⟩
    exact .inl ⟨literal, text, hsource, htext, rfl⟩

theorem scalar_readsAs_integer_iff {n : Int} :
    scalarShape.ReadsAs depth source (.integer n) ↔
      ∃ numeral, source = .number numeral ∧ numeral.integer? = some n := by
  rw [scalar_readsAs_iff]
  constructor
  · rintro (⟨literal, text, -, -, htext⟩ | ⟨numeral, number, hsource, hnumber, hn⟩)
    · cases htext
    · refine ⟨numeral, hsource, ?_⟩
      rw [Numeral.integer?, hnumber, Option.bind_some]
      exact (scalarOf_eq_integer_iff number n).mp hn
  · rintro ⟨numeral, hsource, hinteger⟩
    obtain ⟨number, hnumber, hn⟩ := Option.bind_eq_some_iff.mp hinteger
    exact .inr ⟨numeral, number, hsource, hnumber, (scalarOf_eq_integer_iff number n).mpr hn⟩

/-- Integers are read from their decimal digits only. -/
theorem scalar_readsAs_integer_iff_digits {n : Int} :
    scalarShape.ReadsAs depth source (.integer n) ↔
      IsInt64 n ∧ source.chars = (toString n).toList := by
  constructor
  · intro h
    obtain ⟨numeral, rfl, hinteger⟩ := scalar_readsAs_integer_iff.mp h
    exact (numeral.integer?_eq_some_iff n).mp hinteger
  · rintro ⟨hbounds, hchars⟩
    have hread : scalarShape.ReadsAs depth (.number (.ofInt n)) (.integer n) :=
      scalar_readsAs_integer_iff.mpr ⟨_, rfl, Numeral.integer?_ofInt hbounds⟩
    -- What is read depends on the characters alone.
    rw [Shape.ReadsAs, hchars, ← Numeral.chars_ofInt]
    exact hread

/-- An integer of 64 bits is read from its decimal digits and shown with them, and a text is read
from whatever literal stands for it and shown as it is. In a longer text, too, an integer is read
where its digits stand and nowhere else, and a text where a literal for it stands. -/
theorem scalars_survive_as_written :
    (∀ n, IsInt64 n →
      scalarShape.ofText (toString n) = .ok (.integer n) ∧
        (Scalar.integer n).display = toString n) ∧
    (∀ (literal : Literal) (text : String), literal.text? = some text →
      scalarShape.ofText (String.ofList literal.chars) = .ok (.text text) ∧
        (Scalar.text text).display = text) ∧
    ∀ (depth : Nat) (source : Source),
      (∀ n, scalarShape.ReadsAs depth source (.integer n) ↔
        IsInt64 n ∧ source.chars = (toString n).toList) ∧
      ∀ text, scalarShape.ReadsAs depth source (.text text) ↔
        ∃ literal, source = .text literal ∧ literal.text? = some text := by
  refine ⟨fun n hbounds => ⟨?_, rfl⟩, fun literal text htext => ⟨?_, rfl⟩, fun depth source =>
    ⟨fun n => scalar_readsAs_integer_iff_digits, fun text => scalar_readsAs_text_iff⟩⟩
  · have hdigits : (Document.of (.number (.ofInt n))).text = toString n := by
      rw [Document.text_of, Source.chars, Numeral.chars_ofInt, String.ofList_toList]
    rw [← hdigits, Shape.ofText_eq_ok_iff]
    exact scalar_readsAs_integer_iff.mpr ⟨_, rfl, Numeral.integer?_ofInt hbounds⟩
  · have hliteral : (Document.of (.text literal)).text = String.ofList literal.chars := by
      rw [Document.text_of, Source.chars]
    rw [← hliteral, Shape.ofText_eq_ok_iff]
    exact scalar_readsAs_text_iff.mpr ⟨literal, rfl, htext⟩

/-- The least integer there is, a text of digits, and a text with a surrogate pair. -/
theorem least_year_survives_as_written :
    scalarShape.ofText "-9223372036854775808" = .ok (.integer (-9223372036854775808)) ∧
      scalarShape.ofText "\"2020\"" = .ok (.text "2020") ∧
      scalarShape.ofText "\"\\u0032\\ud83c\\uDF93\\n\"" = .ok (.text "2🎓\n") := by
  obtain ⟨hinteger, htext, -⟩ := scalars_survive_as_written
  have hdigits : toString (-9223372036854775808 : Int) = "-9223372036854775808" := by cbv
  refine ⟨hdigits ▸ (hinteger (-9223372036854775808) (by decide)).1, ?_, ?_⟩
  · exact (htext (.ofText "2020") "2020" (Literal.text?_ofText _)).1
  · exact (htext ⟨[.unit '0' '0' '3' '2' 0x32 rfl, .unit 'd' '8' '3' 'c' 0xD83C rfl,
      .unit 'D' 'F' '9' '3' 0xDF93 rfl, .escape 'n' '\n' rfl]⟩ "2🎓\n" (by decide)).1

end ResumeTerminal.Profile
