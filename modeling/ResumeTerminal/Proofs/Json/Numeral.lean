import ResumeTerminal.Json.Number

/-! Numbers as they are written: a sign, digits, and perhaps decimals and an exponent. A
number ends where no more of it can follow. What it is read as does not depend on what
comes after that, and it can always be passed over, of whatever size it is. -/
namespace ResumeTerminal.Json

structure Digits where
  chars : List Char
  ne_nil : chars ≠ []
  all_digits : chars.all isDigit = true

structure Exponent where
  capital : Bool
  /-- The sign, if there is one, and whether it is a minus. -/
  sign : Option Bool
  digits : Digits

structure Numeral where
  negative : Bool
  whole : Digits
  no_leading_zero : whole.chars.head? = some '0' → whole.chars.length ≤ 1
  decimals : Option Digits
  exponent : Option Exponent

def signChars : Option Bool → List Char
  | none => []
  | some true => ['-']
  | some false => ['+']

def Exponent.chars (exponent : Exponent) : List Char :=
  (if exponent.capital then 'E' else 'e') :: signChars exponent.sign ++ exponent.digits.chars

namespace Numeral

def exponentChars (numeral : Numeral) : List Char :=
  (numeral.exponent.map Exponent.chars).getD []

def decimalChars (numeral : Numeral) : List Char :=
  (numeral.decimals.map ('.' :: ·.chars)).getD []

/-- The numeral without its sign. -/
def unsigned (numeral : Numeral) : List Char :=
  numeral.whole.chars ++ (numeral.decimalChars ++ numeral.exponentChars)

def chars (numeral : Numeral) : List Char :=
  if numeral.negative then '-' :: numeral.unsigned else numeral.unsigned

end Numeral

/-- Whether a character could carry on a number that has begun. -/
def continues (c : Char) : Bool := isDigit c || c == '.' || c == 'e' || c == 'E'

/-- Whether a number cannot go on here. -/
def Ends (rest : List Char) : Prop := ∀ c ∈ rest.head?, continues c = false

theorem Ends.nil : Ends [] := by simp [Ends]

theorem Ends.cons {c : Char} (h : continues c = false) (rest : List Char) : Ends (c :: rest) := by
  simpa [Ends] using h

/-- Whether the next character, if there is one, is no digit. -/
def EndsDigits (rest : List Char) : Prop := ∀ c ∈ rest.head?, isDigit c = false

theorem Ends.endsDigits {rest : List Char} (h : Ends rest) : EndsDigits rest := by
  intro c hc
  have hcontinues := h c hc
  simp only [continues, Bool.or_eq_false_iff] at hcontinues
  exact hcontinues.1.1.1

theorem Ends.ne {rest : List Char} (h : Ends rest) {c : Char} (hc : c ∈ rest.head?) :
    c ≠ '.' ∧ c ≠ 'e' ∧ c ≠ 'E' := by
  have hcontinues := h c hc
  simp only [continues, Bool.or_eq_false_iff, beq_eq_false_iff_ne] at hcontinues
  exact ⟨hcontinues.1.1.2, hcontinues.1.2, hcontinues.2⟩

/-! Runs of digits. -/

namespace Digits

theorem takeWhile_append (digits : Digits) {rest : List Char} (h : EndsDigits rest) :
    (digits.chars ++ rest).takeWhile isDigit = digits.chars := by
  rw [List.takeWhile_append_of_pos (List.all_eq_true.mp digits.all_digits)]
  cases rest with
  | nil => simp
  | cons c rest => simp [h c rfl]

theorem dropWhile_append (digits : Digits) {rest : List Char} (h : EndsDigits rest) :
    (digits.chars ++ rest).dropWhile isDigit = rest := by
  rw [List.dropWhile_append_of_pos (List.all_eq_true.mp digits.all_digits)]
  cases rest with
  | nil => rfl
  | cons c rest => simp [h c rfl]

theorem isEmpty_chars (digits : Digits) : digits.chars.isEmpty = false := by
  simp [digits.ne_nil]

theorem exists_cons (digits : Digits) :
    ∃ c rest, digits.chars = c :: rest ∧ isDigit c = true := by
  obtain ⟨c, rest, hchars⟩ := List.exists_cons_of_ne_nil digits.ne_nil
  have hall := digits.all_digits
  rw [hchars, List.all_cons, Bool.and_eq_true] at hall
  exact ⟨c, rest, hchars, hall.1⟩

theorem head?_append (digits : Digits) (rest : List Char) :
    (digits.chars ++ rest).head? = digits.chars.head? := by
  obtain ⟨c, others, hchars, -⟩ := digits.exists_cons
  rw [hchars]
  rfl

theorem passDigits_append (digits : Digits) {rest : List Char} (h : EndsDigits rest) :
    passDigits (digits.chars ++ rest) = .ok rest := by
  simp [passDigits, digits.takeWhile_append h, digits.dropWhile_append h, digits.ne_nil]

end Digits

/-! Exponents. -/

theorem ne_sign_of_isDigit {c : Char} (h : isDigit c = true) : c ≠ '-' ∧ c ≠ '+' := by
  constructor <;> rintro rfl <;> exact absurd h (by decide)

theorem passExponent_exponent (exponent : Exponent) (rest : List Char) :
    passExponent (exponent.chars ++ rest) = passDigits (exponent.digits.chars ++ rest) := by
  obtain ⟨capital, sign, digits⟩ := exponent
  obtain ⟨c, others, hchars, hc⟩ := digits.exists_cons
  have hne := ne_sign_of_isDigit hc
  rcases capital with _ | _ <;> rcases sign with _ | _ | _ <;>
    simp [Exponent.chars, signChars, passExponent, hchars, hne]

theorem scaledPart_exponent (negative : Bool) (significand : Nat) (places : Int)
    (exponent : Exponent) (rest : List Char) :
    scaledPart negative significand places (exponent.chars ++ rest) =
      exponentPart negative significand places (exponent.sign == some true)
        (exponent.digits.chars ++ rest) := by
  obtain ⟨capital, sign, digits⟩ := exponent
  obtain ⟨c, others, hchars, hc⟩ := digits.exists_cons
  have hne := ne_sign_of_isDigit hc
  rcases capital with _ | _ <;> rcases sign with _ | _ | _ <;>
    simp [Exponent.chars, signChars, scaledPart, hchars, hne]

theorem passExponent_of_ends {rest : List Char} (h : Ends rest) : passExponent rest = .ok rest := by
  cases rest with
  | nil => rfl
  | cons c rest =>
    obtain ⟨-, hsmall, hcapital⟩ := h.ne rfl
    rw [passExponent] <;> simp_all

theorem scaledPart_of_ends (negative : Bool) (significand : Nat) (places : Int)
    {rest : List Char} (h : Ends rest) :
    scaledPart negative significand places rest =
      (floatNumber negative significand (-places)).map (·, rest) := by
  cases rest with
  | nil => rfl
  | cons c rest =>
    obtain ⟨-, hsmall, hcapital⟩ := h.ne rfl
    rw [scaledPart] <;> simp_all

namespace Numeral

theorem endsDigits_exponentChars (numeral : Numeral) {rest : List Char} (h : Ends rest) :
    EndsDigits (numeral.exponentChars ++ rest) := by
  cases hexponent : numeral.exponent with
  | none => simpa [exponentChars, hexponent] using h.endsDigits
  | some exponent =>
    obtain ⟨capital, sign, digits⟩ := exponent
    cases capital <;> simp [exponentChars, hexponent, Exponent.chars, EndsDigits] <;> decide

theorem endsDigits_decimalChars (numeral : Numeral) {rest : List Char} (h : Ends rest) :
    EndsDigits (numeral.decimalChars ++ (numeral.exponentChars ++ rest)) := by
  cases hdecimals : numeral.decimals with
  | none => simpa [decimalChars, hdecimals] using numeral.endsDigits_exponentChars h
  | some digits => simp [decimalChars, hdecimals, EndsDigits]; decide

theorem passExponent_append (numeral : Numeral) {rest : List Char} (h : Ends rest) :
    passExponent (numeral.exponentChars ++ rest) = .ok rest := by
  cases hexponent : numeral.exponent with
  | none => simpa [exponentChars, hexponent] using passExponent_of_ends h
  | some exponent =>
    simp only [exponentChars, hexponent, Option.map_some, Option.getD_some]
    rw [passExponent_exponent, exponent.digits.passDigits_append h.endsDigits]

theorem not_leading_zero (numeral : Numeral) :
    ¬ (numeral.whole.chars.head? = some '0' ∧ 1 < numeral.whole.chars.length) := by
  rintro ⟨hhead, hlength⟩
  exact absurd (numeral.no_leading_zero hhead) (Nat.not_le.mpr hlength)

theorem exponentChars_ne_point (numeral : Numeral) {rest : List Char} (h : Ends rest)
    (after : List Char) : numeral.exponentChars ++ rest ≠ '.' :: after := by
  intro heq
  cases hexponent : numeral.exponent with
  | none =>
    simp only [exponentChars, hexponent, Option.map_none, Option.getD_none,
      List.nil_append] at heq
    rw [heq] at h
    exact (h.ne rfl).1 rfl
  | some exponent =>
    obtain ⟨capital, sign, digits⟩ := exponent
    cases capital <;> simp [exponentChars, hexponent, Exponent.chars] at heq

theorem passNumber_unsigned (numeral : Numeral) {rest : List Char} (h : Ends rest) :
    passNumber (numeral.unsigned ++ rest) = .ok rest := by
  have hwhole := numeral.endsDigits_decimalChars h
  rw [unsigned, List.append_assoc, List.append_assoc, passNumber,
    numeral.whole.passDigits_append hwhole, numeral.whole.takeWhile_append hwhole,
    numeral.whole.head?_append]
  simp only [bind, Except.bind, if_neg numeral.not_leading_zero]
  cases hdecimals : numeral.decimals with
  | none =>
    simp only [decimalChars, hdecimals, Option.map_none, Option.getD_none, List.nil_append]
    split
    · exact absurd ‹_› (numeral.exponentChars_ne_point h _)
    · exact numeral.passExponent_append h
  | some digits =>
    simp only [decimalChars, hdecimals, Option.map_some, Option.getD_some, List.cons_append]
    rw [digits.passDigits_append (numeral.endsDigits_exponentChars h)]
    exact numeral.passExponent_append h

end Numeral

/-! What a number is read as depends on nothing that follows it. -/

/-- Whether a reader takes exactly these characters, with one and the same outcome
whatever follows. -/
def Takes {α : Type} (reader : Reader α) (chars : List Char) : Prop :=
  ∃ outcome, ∀ rest, Ends rest → reader (chars ++ rest) = Except.map (·, rest) outcome

theorem takes_exponentPart (negative : Bool) (significand : Nat) (places : Int) (below : Bool)
    (digits : Digits) :
    Takes (exponentPart negative significand places below) digits.chars := by
  by_cases hlimit : exponentLimit < Text.numeralValue 10 digits.chars
  · by_cases hrange : significand ≠ 0 ∧ !below
    · refine ⟨.error .numberOutOfRange, fun rest h => ?_⟩
      simp only [exponentPart, digits.takeWhile_append h.endsDigits, digits.isEmpty_chars,
        Bool.false_eq_true, if_false, if_pos hlimit, if_pos hrange]
      rfl
    · refine ⟨.ok (.float (if negative then -0.0 else 0.0)), fun rest h => ?_⟩
      simp only [exponentPart, digits.takeWhile_append h.endsDigits,
        digits.dropWhile_append h.endsDigits, digits.isEmpty_chars, Bool.false_eq_true,
        if_false, if_pos hlimit, if_neg hrange]
      rfl
  · refine ⟨floatNumber negative significand
      ((if below then -(Text.numeralValue 10 digits.chars : Int)
        else Text.numeralValue 10 digits.chars) - places), fun rest h => ?_⟩
    simp only [exponentPart, digits.takeWhile_append h.endsDigits,
      digits.dropWhile_append h.endsDigits, digits.isEmpty_chars, Bool.false_eq_true,
      if_false, if_neg hlimit]
    rfl

namespace Numeral

theorem takes_scaledPart (numeral : Numeral) (negative : Bool) (significand : Nat)
    (places : Int) : Takes (scaledPart negative significand places) numeral.exponentChars := by
  cases hexponent : numeral.exponent with
  | none =>
    refine ⟨floatNumber negative significand (-places), fun rest h => ?_⟩
    simp only [exponentChars, hexponent, Option.map_none, Option.getD_none, List.nil_append]
    exact scaledPart_of_ends negative significand places h
  | some exponent =>
    obtain ⟨outcome, houtcome⟩ :=
      takes_exponentPart negative significand places (exponent.sign == some true) exponent.digits
    refine ⟨outcome, fun rest h => ?_⟩
    simp only [exponentChars, hexponent, Option.map_some, Option.getD_some]
    rw [scaledPart_exponent, houtcome rest h]

theorem takes_of_decimals (numeral : Numeral) (negative : Bool) {digits : Digits}
    (hdecimals : numeral.decimals = some digits) :
    Takes (unsignedNumber negative) numeral.unsigned := by
  rcases habsorb : absorb 0 numeral.whole.chars with ⟨significand, dropped⟩
  rcases hmore : absorb significand digits.chars with ⟨scaled, ignored⟩
  obtain ⟨outcome, houtcome⟩ := numeral.takes_scaledPart negative scaled
    (digits.chars.length - ignored.length - dropped.length)
  refine ⟨outcome, fun rest h => ?_⟩
  have hstart := numeral.endsDigits_decimalChars h
  have hnext := numeral.endsDigits_exponentChars h
  rw [← houtcome rest h, unsigned, List.append_assoc, List.append_assoc]
  simp only [unsignedNumber, numeral.whole.takeWhile_append hstart,
    numeral.whole.dropWhile_append hstart, numeral.whole.isEmpty_chars, habsorb,
    Bool.false_eq_true, if_false, gt_iff_lt, if_neg numeral.not_leading_zero]
  simp only [decimalChars, hdecimals, Option.map_some, Option.getD_some, List.cons_append,
    digits.takeWhile_append hnext, digits.dropWhile_append hnext, digits.isEmpty_chars, hmore,
    Bool.false_eq_true, if_false]

theorem takes_of_exponent (numeral : Numeral) (negative : Bool) {exponent : Exponent}
    (hdecimals : numeral.decimals = none) (hexponent : numeral.exponent = some exponent) :
    Takes (unsignedNumber negative) numeral.unsigned := by
  rcases habsorb : absorb 0 numeral.whole.chars with ⟨significand, dropped⟩
  obtain ⟨outcome, houtcome⟩ := numeral.takes_scaledPart negative significand (-dropped.length)
  refine ⟨outcome, fun rest h => ?_⟩
  have hstart := numeral.endsDigits_decimalChars h
  rw [← houtcome rest h, unsigned, List.append_assoc, List.append_assoc]
  simp only [unsignedNumber, numeral.whole.takeWhile_append hstart,
    numeral.whole.dropWhile_append hstart, numeral.whole.isEmpty_chars, habsorb,
    Bool.false_eq_true, if_false, gt_iff_lt, if_neg numeral.not_leading_zero]
  simp only [decimalChars, exponentChars, hdecimals, hexponent, Option.map_none,
    Option.map_some, Option.getD_none, Option.getD_some, List.nil_append, Exponent.chars]
  cases exponent.capital <;> rfl

theorem takes_of_whole (numeral : Numeral) (negative : Bool)
    (hdecimals : numeral.decimals = none) (hexponent : numeral.exponent = none) :
    Takes (unsignedNumber negative) numeral.unsigned := by
  rcases habsorb : absorb 0 numeral.whole.chars with ⟨significand, dropped⟩
  refine ⟨if dropped.isEmpty then .ok (wholeNumber negative significand)
    else floatNumber negative significand (-(-dropped.length)), fun rest h => ?_⟩
  have hstart := numeral.endsDigits_decimalChars h
  rw [unsigned, List.append_assoc, List.append_assoc]
  simp only [unsignedNumber, numeral.whole.takeWhile_append hstart,
    numeral.whole.dropWhile_append hstart, numeral.whole.isEmpty_chars, habsorb,
    Bool.false_eq_true, if_false, gt_iff_lt, if_neg numeral.not_leading_zero]
  simp only [decimalChars, exponentChars, hdecimals, hexponent, Option.map_none,
    Option.getD_none, List.nil_append, scaledPart_of_ends negative significand _ h]
  split
  · exact absurd rfl (h.ne rfl).1
  · exact absurd rfl (h.ne rfl).2.1
  · exact absurd rfl (h.ne rfl).2.2
  · split <;> rfl

theorem takes_unsignedNumber (numeral : Numeral) (negative : Bool) :
    Takes (unsignedNumber negative) numeral.unsigned := by
  cases hdecimals : numeral.decimals with
  | some digits => exact numeral.takes_of_decimals negative hdecimals
  | none =>
    cases hexponent : numeral.exponent with
    | some exponent => exact numeral.takes_of_exponent negative hdecimals hexponent
    | none => exact numeral.takes_of_whole negative hdecimals hexponent

/-- The sign is read apart from the number behind it. -/
theorem readNumber_chars_append (numeral : Numeral) (rest : List Char) :
    readNumber (numeral.chars ++ rest) =
      unsignedNumber numeral.negative (numeral.unsigned ++ rest) := by
  obtain ⟨c, others, hchars, hc⟩ := numeral.whole.exists_cons
  have hne := ne_sign_of_isDigit hc
  rw [chars]
  cases numeral.negative with
  | true => rfl
  | false =>
    rw [unsigned, hchars, if_neg (by decide)]
    simp only [List.cons_append]
    rw [readNumber]
    simpa using hne.1

theorem takes_readNumber (numeral : Numeral) : Takes readNumber numeral.chars := by
  obtain ⟨outcome, houtcome⟩ := numeral.takes_unsignedNumber numeral.negative
  refine ⟨outcome, fun rest h => ?_⟩
  rw [readNumber_chars_append, houtcome rest h]

/-- The first character tells a number from all other values. -/
theorem exists_cons (numeral : Numeral) :
    ∃ c rest, numeral.chars = c :: rest ∧ (c = '-' ∨ isDigit c = true) := by
  obtain ⟨c, others, hchars, hc⟩ := numeral.whole.exists_cons
  cases hsign : numeral.negative with
  | true => exact ⟨'-', numeral.unsigned, by rw [chars, hsign, if_pos rfl], .inl rfl⟩
  | false =>
    refine ⟨c, others ++ (numeral.decimalChars ++ numeral.exponentChars), ?_, .inr hc⟩
    rw [chars, hsign, if_neg (by decide), unsigned, hchars, List.cons_append]

theorem ne_of_head {c : Char} (h : c = '-' ∨ isDigit c = true) :
    isSpace c = false ∧ c ≠ '"' ∧ c ≠ '[' ∧ c ≠ '\x7b' ∧ c ≠ 'n' ∧ c ≠ 't' ∧ c ≠ 'f' := by
  have hspace : isSpace c = false := by
    cases hspace : isSpace c with
    | false => rfl
    | true =>
      simp only [isSpace, Bool.or_eq_true, beq_iff_eq] at hspace
      rcases hspace with ((rfl | rfl) | rfl) | rfl <;> exact absurd h (by decide)
  refine ⟨hspace, ?_, ?_, ?_, ?_, ?_, ?_⟩ <;> rintro rfl <;> exact absurd h (by decide)

/-- What a numeral is read as, if its value fits. -/
def number? (numeral : Numeral) : Option Number :=
  (readNumber numeral.chars).toOption.map (·.1)

theorem readNumber_append (numeral : Numeral) {rest : List Char} (h : Ends rest) :
    (readNumber (numeral.chars ++ rest)).toOption = numeral.number?.map (·, rest) := by
  obtain ⟨outcome, houtcome⟩ := numeral.takes_readNumber
  have halone := houtcome [] Ends.nil
  rw [List.append_nil] at halone
  rw [number?, halone, houtcome rest h]
  cases outcome <;> rfl

end Numeral
end ResumeTerminal.Json
