import Mathlib.Data.List.Basic
import ResumeTerminal.Text.Basic

/-! Decimal numerals. What is written for a number reads back as it, zeros in front change
nothing, and a numeral that has none in front is what is written for its value. -/
namespace ResumeTerminal.Text

/-! Single digits. -/

theorem isDigit_iff (c : Char) : c.isDigit = true ↔ '0' ≤ c ∧ c ≤ '9' := by
  simp only [Char.isDigit, Bool.and_eq_true, decide_eq_true_eq, ge_iff_le, Char.le_def]

theorem digit?_of_isDigit {c : Char} (h : c.isDigit = true) :
    digit? 10 c = some (c.toNat - '0'.toNat) := by
  have hbounds := (isDigit_iff c).mp h
  have hlast : c.toNat ≤ 57 := hbounds.2
  unfold digit?
  rw [if_pos hbounds, if_pos (by omega)]
  rfl

theorem digit?_of_not_isDigit {c : Char} (h : c.isDigit = false) : digit? 10 c = none := by
  have hbounds : ¬ ('0' ≤ c ∧ c ≤ '9') := by
    rw [← isDigit_iff, h]
    exact Bool.false_ne_true
  unfold digit?
  rw [if_neg hbounds]
  split
  · -- Letters count from ten on, so that no letter is a decimal digit.
    next hsmall =>
      have hfirst : 97 ≤ c.toNat := hsmall.1
      exact if_neg (by omega)
  · split
    · next hcapital =>
        have hfirst : 65 ≤ c.toNat := hcapital.1
        exact if_neg (by omega)
    · rfl

theorem isDigit_ten (c : Char) : isDigit 10 c = c.isDigit := by
  unfold isDigit
  cases h : c.isDigit with
  | true => rw [digit?_of_isDigit h, Option.isSome_some]
  | false => rw [digit?_of_not_isDigit h, Option.isSome_none]

theorem digitValue_of_isDigit {c : Char} (h : c.isDigit = true) :
    digitValue 10 c = c.toNat - '0'.toNat := by
  rw [digitValue, digit?_of_isDigit h, Option.getD_some]

theorem digitChar_of_isDigit {c : Char} (h : c.isDigit = true) :
    (c.toNat - '0'.toNat).digitChar = c ∧ c.toNat - '0'.toNat < 10 := by
  have hfirst : 48 ≤ c.toNat := ((isDigit_iff c).mp h).1
  have hlast : c.toNat ≤ 57 := ((isDigit_iff c).mp h).2
  have hzero : '0'.toNat = 48 := rfl
  have hvalue : c.toNat - '0'.toNat < 10 := by omega
  refine ⟨?_, hvalue⟩
  apply Char.toNat_inj.mp
  rw [Nat.toNat_digitChar_of_lt_ten hvalue]
  omega

/-! Numerals. -/

theorem numeralValue_eq_ofDigitChars {digits : List Char}
    (h : ∀ c ∈ digits, c.isDigit = true) :
    numeralValue 10 digits = Nat.ofDigitChars 10 digits 0 := by
  unfold numeralValue
  generalize 0 = start
  induction digits generalizing start with
  | nil => rfl
  | cons c rest ih =>
    rw [List.foldl_cons, Nat.ofDigitChars_cons, digitValue_of_isDigit (h c List.mem_cons_self),
      ih fun d hd => h d (List.mem_cons_of_mem c hd)]

theorem isDigit_of_mem_toDigits {n : Nat} : ∀ c ∈ Nat.toDigits 10 n, c.isDigit = true :=
  fun _ hc => Nat.isDigit_of_mem_toDigits (by decide) (by decide) hc

@[simp] theorem numeralValue_toDigits (n : Nat) : numeralValue 10 (Nat.toDigits 10 n) = n := by
  rw [numeralValue_eq_ofDigitChars isDigit_of_mem_toDigits, Nat.ofDigitChars_ten_toDigits]

/-- The number that a text of digits and nothing else stands for. -/
def natural? (digits : List Char) : Option Nat :=
  if digits ≠ [] ∧ digits.all Char.isDigit = true then some (Nat.ofDigitChars 10 digits 0) else none

theorem natural?_of_isDigit {digits : List Char} (hne : digits ≠ [])
    (h : ∀ c ∈ digits, c.isDigit = true) :
    natural? digits = some (Nat.ofDigitChars 10 digits 0) :=
  if_pos ⟨hne, List.all_eq_true.mpr h⟩

theorem natural?_toDigits (n : Nat) : natural? (Nat.toDigits 10 n) = some n := by
  rw [natural?_of_isDigit Nat.toDigits_ne_nil isDigit_of_mem_toDigits,
    Nat.ofDigitChars_ten_toDigits]

/-- Further digits can be written behind those of a number that is not zero. -/
theorem toDigits_ofDigitChars {start : Nat} (hstart : 0 < start) {digits : List Char}
    (h : ∀ c ∈ digits, c.isDigit = true) :
    Nat.toDigits 10 (Nat.ofDigitChars 10 digits start) = Nat.toDigits 10 start ++ digits := by
  induction digits generalizing start with
  | nil => rw [Nat.ofDigitChars_nil, List.append_nil]
  | cons c rest ih =>
    obtain ⟨hdigit, hvalue⟩ := digitChar_of_isDigit (h c List.mem_cons_self)
    have happend := Nat.toDigits_append_toDigits (by decide : 1 < 10) hstart hvalue
    rw [Nat.toDigits_of_lt_base hvalue, hdigit] at happend
    rw [Nat.ofDigitChars_cons, ih (by omega) fun d hd => h d (List.mem_cons_of_mem c hd),
      ← happend, List.append_assoc, List.singleton_append]

/-- A numeral without zeros in front is what is written for its value. -/
theorem toDigits_numeralValue {digits : List Char} (hne : digits ≠ [])
    (hdigits : ∀ c ∈ digits, c.isDigit = true)
    (hzero : digits.head? = some '0' → digits.length ≤ 1) :
    Nat.toDigits 10 (numeralValue 10 digits) = digits := by
  obtain ⟨c, rest, rfl⟩ := List.exists_cons_of_ne_nil hne
  obtain ⟨hchar, hvalue⟩ := digitChar_of_isDigit (hdigits c List.mem_cons_self)
  rw [numeralValue_eq_ofDigitChars hdigits, Nat.ofDigitChars_cons, Nat.mul_zero, Nat.zero_add]
  by_cases hc : c = '0'
  · subst hc
    have hrest : rest = [] := List.length_eq_zero_iff.mp (by simpa using hzero rfl)
    subst hrest
    decide
  · have hpos : 0 < c.toNat - '0'.toNat := by
      rw [Nat.pos_iff_ne_zero]
      intro hnone
      rw [hnone] at hchar
      exact hc hchar.symm
    rw [toDigits_ofDigitChars hpos fun d hd => hdigits d (List.mem_cons_of_mem c hd),
      Nat.toDigits_of_lt_base hvalue, hchar, List.singleton_append]

theorem head?_toDigits_ne {n : Nat} (h : 0 < n) : (Nat.toDigits 10 n).head? ≠ some '0' := by
  induction n using Nat.strongRecOn with
  | ind n ih =>
    rw [Nat.toDigits_eq_if (by decide)]
    split
    · rw [List.head?_cons, ne_eq, Option.some_inj, Nat.digitChar_eq_zero]
      exact Nat.ne_of_gt h
    · have hhead := ih (n / 10) (by omega) (by omega)
      rw [List.head?_append_of_ne_nil _ Nat.toDigits_ne_nil]
      exact hhead

/-- No number is written with a zero in front. -/
theorem length_toDigits_of_head? {n : Nat} (h : (Nat.toDigits 10 n).head? = some '0') :
    (Nat.toDigits 10 n).length ≤ 1 := by
  rcases Nat.eq_zero_or_pos n with rfl | hpos
  · rw [Nat.toDigits_zero]
    exact Nat.le_refl 1
  · exact absurd h (head?_toDigits_ne hpos)

end ResumeTerminal.Text
