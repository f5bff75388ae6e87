import ResumeTerminal.Json.Shape
import ResumeTerminal.Proofs.Json.Bracketed
import ResumeTerminal.Proofs.Json.Writing

/-! Which numbers are read as integers: those of 64 bits that are written as their decimal
digits are. With decimals, with an exponent or with more bits a number is a float. -/
namespace ResumeTerminal.Json

/-! Digits are taken in as long as their value has 64 bits. -/

theorem absorb_cons (start : Nat) (c : Char) (digits : List Char) :
    absorb start (c :: digits) =
      if 10 * start + Text.digitValue 10 c < Nat.pow 2 64 then
        absorb (10 * start + Text.digitValue 10 c) digits
      else (start, c :: digits) := rfl

theorem le_foldl_digits (digits : List Char) (start : Nat) :
    start ≤ digits.foldl (fun n c => 10 * n + Text.digitValue 10 c) start := by
  induction digits generalizing start with
  | nil => exact Nat.le_refl start
  | cons c digits ih =>
    have hrest := ih (10 * start + Text.digitValue 10 c)
    rw [List.foldl_cons]
    omega

theorem absorb_eq_iff {start : Nat} (hstart : start < Nat.pow 2 64) (digits : List Char)
    (value : Nat) :
    absorb start digits = (value, []) ↔
      digits.foldl (fun n c => 10 * n + Text.digitValue 10 c) start = value ∧
        value < Nat.pow 2 64 := by
  induction digits generalizing start with
  | nil =>
    rw [absorb, List.foldl_nil]
    constructor
    · intro h
      cases h
      exact ⟨rfl, hstart⟩
    · rintro ⟨rfl, -⟩
      rfl
  | cons c digits ih =>
    rw [absorb_cons, List.foldl_cons]
    by_cases hnext : 10 * start + Text.digitValue 10 c < Nat.pow 2 64
    · rw [if_pos hnext]
      exact ih hnext
    · -- Further digits cannot make the value any smaller.
      have hle := le_foldl_digits digits (10 * start + Text.digitValue 10 c)
      rw [if_neg hnext]
      constructor
      · intro h
        cases h
      · intro h
        omega

/-! A number that is not whole is a float. -/

def Number.IsFloat : Number → Prop
  | .float _ => True
  | .natural _ | .negative _ => False

theorem floatNumber_isFloat {negative : Bool} {significand : Nat} {exponent : Int}
    {number : Number} (h : floatNumber negative significand exponent = .ok number) :
    number.IsFloat := by
  unfold floatNumber at h
  cases hscaled : scaled? significand exponent with
  | error e =>
    rw [hscaled] at h
    cases h
  | ok value =>
    rw [hscaled] at h
    cases h
    trivial

theorem exponentPart_isFloat {negative below : Bool} {significand : Nat} {places : Int}
    {text rest : List Char} {number : Number}
    (h : exponentPart negative significand places below text = .ok (number, rest)) :
    number.IsFloat := by
  simp only [exponentPart] at h
  split at h
  · cases h
  split at h
  · split at h <;> cases h
    trivial
  · generalize hfloat : floatNumber negative significand _ = float at h
    cases float with
    | error e => cases h
    | ok float =>
      cases h
      exact floatNumber_isFloat hfloat

theorem scaledPart_isFloat {negative : Bool} {significand : Nat} {places : Int}
    {text rest : List Char} {number : Number}
    (h : scaledPart negative significand places text = .ok (number, rest)) : number.IsFloat := by
  unfold scaledPart at h
  split at h
  iterate 6 exact exponentPart_isFloat h
  · generalize hfloat : floatNumber negative significand _ = float at h
    cases float with
    | error e => cases h
    | ok float =>
      cases h
      exact floatNumber_isFloat hfloat

/-- A number that is no float ends with its first digits, all of which have been taken in. -/
theorem unsignedNumber_cases {negative : Bool} {text rest : List Char} {number : Number}
    (h : unsignedNumber negative text = .ok (number, rest)) :
    number.IsFloat ∨ ∃ value, absorb 0 (text.takeWhile isDigit) = (value, []) ∧
      number = wholeNumber negative value ∧ rest = text.dropWhile isDigit := by
  simp only [unsignedNumber] at h
  split at h
  · cases h
  split at h
  · cases h
  split at h
  · split at h
    · cases h
    · exact .inl (scaledPart_isFloat h)
  · exact .inl (scaledPart_isFloat h)
  · exact .inl (scaledPart_isFloat h)
  · split at h
    · next hdropped =>
      cases h
      exact .inr ⟨_, Prod.ext rfl (List.isEmpty_iff.mp hdropped), rfl, rfl⟩
    · exact .inl (scaledPart_isFloat h)

/-! Numerals. -/

namespace Numeral

theorem number?_eq_some_iff (numeral : Numeral) (number : Number) :
    numeral.number? = some number ↔
      unsignedNumber numeral.negative numeral.unsigned = .ok (number, []) := by
  obtain ⟨outcome, houtcome⟩ := numeral.takes_unsignedNumber numeral.negative
  have hread := numeral.readNumber_chars_append []
  have halone := houtcome [] Ends.nil
  rw [List.append_nil, List.append_nil] at hread
  rw [List.append_nil] at halone
  rw [number?, hread, halone]
  cases outcome <;> simp [Except.map, Except.toOption]

/-- The digits of a numeral, and what it has behind them. -/
theorem takeWhile_unsigned (numeral : Numeral) :
    numeral.unsigned.takeWhile isDigit = numeral.whole.chars ∧
      numeral.unsigned.dropWhile isDigit = numeral.decimalChars ++ numeral.exponentChars := by
  have hends := numeral.endsDigits_decimalChars Ends.nil
  rw [List.append_nil] at hends
  exact ⟨numeral.whole.takeWhile_append hends, numeral.whole.dropWhile_append hends⟩

theorem number?_cases {numeral : Numeral} {number : Number} (h : numeral.number? = some number) :
    number.IsFloat ∨ ∃ value, absorb 0 numeral.whole.chars = (value, []) ∧
      number = wholeNumber numeral.negative value ∧ numeral.unsigned = numeral.whole.chars := by
  obtain ⟨htake, hdrop⟩ := numeral.takeWhile_unsigned
  rw [number?_eq_some_iff] at h
  have hcases := unsignedNumber_cases h
  rw [htake, hdrop] at hcases
  refine hcases.imp_right ?_
  rintro ⟨value, habsorb, hnumber, hrest⟩
  exact ⟨value, habsorb, hnumber, by rw [unsigned, ← hrest, List.append_nil]⟩

theorem number?_of_whole {numeral : Numeral} {value : Nat}
    (hunsigned : numeral.unsigned = numeral.whole.chars)
    (habsorb : absorb 0 numeral.whole.chars = (value, [])) :
    numeral.number? = some (wholeNumber numeral.negative value) := by
  obtain ⟨htake, hdrop⟩ := numeral.takeWhile_unsigned
  have hrest : numeral.decimalChars ++ numeral.exponentChars = [] :=
    List.append_right_eq_self.mp hunsigned
  rw [number?_eq_some_iff]
  simp only [unsignedNumber, htake, hdrop, hrest, habsorb, numeral.whole.isEmpty_chars,
    Bool.false_eq_true, if_false, gt_iff_lt, if_neg numeral.not_leading_zero]
  rfl

theorem chars_of_whole {numeral : Numeral} {value : Nat}
    (hunsigned : numeral.unsigned = numeral.whole.chars)
    (hvalue : Text.numeralValue 10 numeral.whole.chars = value) :
    numeral.chars =
      if numeral.negative then '-' :: Nat.toDigits 10 value else Nat.toDigits 10 value := by
  have hdigits : ∀ c ∈ numeral.whole.chars, c.isDigit = true := by
    intro c hc
    rw [← Text.isDigit_ten]
    exact List.all_eq_true.mp numeral.whole.all_digits c hc
  rw [chars, hunsigned, ← hvalue,
    Text.toDigits_numeralValue numeral.whole.ne_nil hdigits numeral.no_leading_zero]

end Numeral

/-- The integers that have 64 bits, one of them for the sign. -/
def IsInt64 (n : Int) : Prop := Int64.minValue.toInt ≤ n ∧ n ≤ Int64.maxValue.toInt

instance : DecidablePred IsInt64 := fun _ => inferInstanceAs (Decidable (_ ∧ _))

theorem isInt64_iff (n : Int) :
    IsInt64 n ↔ -9223372036854775808 ≤ n ∧ n ≤ 9223372036854775807 := Iff.rfl

theorem toInt_wholeNumber_iff (negative : Bool) (value : Nat) (n : Int) :
    ((wholeNumber negative value).toInt "i64").toOption = some n ↔
      IsInt64 n ∧ decide (n < 0) = negative ∧ n.natAbs = value := by
  have hpow : Nat.pow 2 63 = 9223372036854775808 := rfl
  rw [isInt64_iff]
  cases negative with
  | false =>
    rw [wholeNumber, Bool.not_false, if_pos rfl, Number.toInt, hpow, decide_eq_false_iff_not]
    split
    · rw [toOption_eq_some_iff, Except.ok.injEq]
      omega
    · constructor
      · intro h
        cases h
      · omega
  | true =>
    rw [wholeNumber, Bool.not_true, if_neg Bool.false_ne_true, hpow, decide_eq_true_iff]
    split
    · rw [Number.toInt, toOption_eq_some_iff, Except.ok.injEq]
      omega
    · constructor
      · intro h
        cases h
      · omega

theorem Number.IsFloat.toInt {number : Number} (h : number.IsFloat) (expected : String) :
    (number.toInt expected).toOption = none := by
  cases number with
  | natural value | negative value => cases h
  | float value => rfl

namespace Numeral

/-- The integer that a numeral is read as, if it is read as one. -/
def integer? (numeral : Numeral) : Option Int :=
  numeral.number?.bind fun number => (number.toInt "i64").toOption

theorem integer?_ofInt {n : Int} (h : IsInt64 n) : (ofInt n).integer? = some n := by
  have habsorb : absorb 0 (ofInt n).whole.chars = (n.natAbs, []) := by
    rw [absorb_eq_iff (by decide)]
    refine ⟨Text.numeralValue_toDigits n.natAbs, ?_⟩
    have hpow : Nat.pow 2 64 = 18446744073709551616 := rfl
    have hbounds := (isInt64_iff n).mp h
    omega
  rw [integer?, number?_of_whole (List.append_nil _) habsorb, Option.bind_some,
    toInt_wholeNumber_iff]
  exact ⟨h, rfl, rfl⟩

/-- An integer is read from what is written for it, and from nothing else. -/
theorem integer?_eq_some_iff (numeral : Numeral) (n : Int) :
    numeral.integer? = some n ↔ IsInt64 n ∧ numeral.chars = (toString n).toList := by
  rw [← chars_ofInt]
  constructor
  · intro h
    obtain ⟨number, hnumber, hint⟩ := Option.bind_eq_some_iff.mp h
    rcases number?_cases hnumber with hfloat | ⟨value, habsorb, rfl, hunsigned⟩
    · rw [hfloat.toInt] at hint
      cases hint
    · have hvalue := ((absorb_eq_iff (by decide) _ _).mp habsorb).1
      obtain ⟨hbounds, hsign, habs⟩ := (toInt_wholeNumber_iff _ _ _).mp hint
      refine ⟨hbounds, ?_⟩
      rw [chars_of_whole hunsigned hvalue,
        chars_of_whole (List.append_nil _) (Text.numeralValue_toDigits n.natAbs), ← hsign, habs]
      rfl
  · rintro ⟨hbounds, hchars⟩
    rw [← integer?_ofInt hbounds, integer?, integer?, number?, number?, hchars]

end Numeral
end ResumeTerminal.Json
