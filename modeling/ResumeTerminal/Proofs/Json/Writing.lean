import ResumeTerminal.Proofs.Json.Source
import ResumeTerminal.Proofs.Text.Digits

/-! What texts, whole numbers and objects are written as: without blanks, and with no
character escaped that can stand for itself. -/
namespace ResumeTerminal.Json

/-! Texts. -/

theorem lookup_of_find?_shortEscapes {c : Char} {entry : Char × Char}
    (h : shortEscapes.find? (·.2 == c) = some entry) : shortEscapes.lookup entry.1 = some c := by
  have hletters : ∀ entry ∈ shortEscapes, shortEscapes.lookup entry.1 = some entry.2 := by decide
  have hmeant : entry.2 = c := by simpa using List.find?_some h
  rw [hletters entry (List.mem_of_find?_eq_some h), hmeant]

/-- What has no short escape and cannot stand for itself is a control character. -/
theorem toNat_lt_of_find?_shortEscapes {c : Char} (hplain : ¬ isPlainChar c = true)
    (h : shortEscapes.find? (·.2 == c) = none) : c.toNat < 32 := by
  have hquote : c ≠ '"' := by
    rintro rfl
    exact absurd h (by decide)
  have hslash : c ≠ '\\' := by
    rintro rfl
    exact absurd h (by decide)
  have hcontrol : c < ' ' := by simpa [isPlainChar, hquote, hslash] using hplain
  exact hcontrol

theorem codeUnit?_of_lt {n : Nat} (h : n < 32) :
    codeUnit? ['0', '0', (n / 16).digitChar, (n % 16).digitChar] = some n := by
  have hall : ∀ n : Fin 32,
      codeUnit? ['0', '0', (n.val / 16).digitChar, (n.val % 16).digitChar] = some n.val := by
    decide
  exact hall ⟨n, h⟩

def Piece.ofChar (c : Char) : Piece :=
  if hplain : isPlainChar c = true then .plain c hplain
  else match hletter : shortEscapes.find? (·.2 == c) with
    | some entry => .escape entry.1 c (lookup_of_find?_shortEscapes hletter)
    | none => .unit '0' '0' (c.toNat / 16).digitChar (c.toNat % 16).digitChar c.toNat
        (codeUnit?_of_lt (toNat_lt_of_find?_shortEscapes hplain hletter))

/-- A code unit that is no half of a pair is a character, whatever follows. -/
theorem denoted_unit_cons {a b c d : Char} {value : Nat} (h : codeUnit? [a, b, c, d] = some value)
    (hlow : isLowSurrogate value = false) (hhigh : isHighSurrogate value = false)
    (pieces : List Piece) :
    denoted (.unit a b c d value h :: pieces) = (denoted pieces).map (Char.ofNat value :: ·) := by
  cases pieces with
  | nil => simp [denoted, hlow, hhigh]
  | cons piece pieces => cases piece <;> simp [denoted, hlow, hhigh]

theorem denoted_ofChar_cons (c : Char) (pieces : List Piece) :
    denoted (Piece.ofChar c :: pieces) = (denoted pieces).map (c :: ·) := by
  unfold Piece.ofChar
  split
  · rw [denoted]
  · next hplain =>
    split
    · rw [denoted]
    · next hletter =>
      have hcontrol := toNat_lt_of_find?_shortEscapes hplain hletter
      have hlow : isLowSurrogate c.toNat = false := by
        rw [isLowSurrogate, Bool.and_eq_false_iff, decide_eq_false_iff_not]
        omega
      have hhigh : isHighSurrogate c.toNat = false := by
        rw [isHighSurrogate, Bool.and_eq_false_iff, decide_eq_false_iff_not]
        omega
      rw [denoted_unit_cons _ hlow hhigh, Char.ofNat_toNat]

def Literal.ofText (text : String) : Literal where
  pieces := text.toList.map Piece.ofChar

/-- Every text can be written. -/
@[simp] theorem Literal.text?_ofText (text : String) : (ofText text).text? = some text := by
  have hdenoted (chars : List Char) : denoted (chars.map Piece.ofChar) = some chars := by
    induction chars with
    | nil => rfl
    | cons c chars ih => rw [List.map_cons, denoted_ofChar_cons, ih, Option.map_some]
  rw [text?, ofText, hdenoted, Option.map_some, String.ofList_toList]

example : (Literal.ofText "a/\"\n\x01").chars = "\"a/\\\"\\n\\u0001\"".toList := by decide

/-! Whole numbers. -/

def Digits.ofNat (n : Nat) : Digits where
  chars := Nat.toDigits 10 n
  ne_nil := Nat.toDigits_ne_nil
  all_digits := by
    rw [List.all_eq_true]
    intro c hc
    rw [isDigit, Text.isDigit_ten]
    exact Text.isDigit_of_mem_toDigits c hc

def Numeral.ofInt (n : Int) : Numeral where
  negative := decide (n < 0)
  whole := .ofNat n.natAbs
  no_leading_zero := Text.length_toDigits_of_head?
  decimals := none
  exponent := none

theorem Numeral.chars_ofInt (n : Int) : (ofInt n).chars = (toString n).toList := by
  have hunsigned : (ofInt n).unsigned = Nat.toDigits 10 n.natAbs := List.append_nil _
  rw [chars, hunsigned]
  cases n with
  | ofNat n =>
    have hsign : ¬ (ofInt (Int.ofNat n)).negative = true := by
      simp [ofInt]
    rw [if_neg hsign]
    exact String.toList_ofList.symm
  | negSucc n =>
    have hsign : (ofInt (Int.negSucc n)).negative = true := by
      simp [ofInt, Int.negSucc_lt_zero]
    rw [if_pos hsign]
    have htext : toString (Int.negSucc n) = "-" ++ Nat.repr (n + 1) := rfl
    have hdigits : (Nat.repr (n + 1)).toList = Nat.toDigits 10 (n + 1) := String.toList_ofList
    rw [htext, String.toList_append, hdigits]
    rfl

/-! Objects. -/

def Member.ofEntry (key : String) (value : Source) : Member Source where
  gap := ⟨.none, .none⟩
  key := .ofText key
  colon := .none
  space := .none
  value

/-- An object with these entries, given what their values are written as. -/
def Source.ofEntries {α : Type} (write : α → Source) (entries : List (String × α)) : Source :=
  .object (entries.map fun entry => .ofEntry entry.1 (write entry.2)) .none

/-- The text that holds a value and no blanks around it. -/
def Document.of (value : Source) : Document := ⟨.none, value, .none⟩

theorem Document.text_of (value : Source) : (of value).text = String.ofList value.chars := by
  rw [text, of]
  simp [Blanks.none]

end ResumeTerminal.Json
