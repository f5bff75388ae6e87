import Mathlib.Data.List.DropRight
import ResumeTerminal.Json.Lexeme

/-! Blanks and string literals as they are written. A literal is a list of pieces, each
of them a character or an escape. Every literal can be passed over, but one with half a
surrogate pair denotes no text and cannot be read. -/
namespace ResumeTerminal.Json

/-! Blanks. -/

structure Blanks where
  chars : List Char
  all_space : chars.all isSpace = true

def Blanks.none : Blanks := ⟨[], rfl⟩

theorem skipSpace_cons {c : Char} (h : isSpace c = false) (rest : List Char) :
    skipSpace (c :: rest) = c :: rest := by
  rw [skipSpace, List.dropWhile_cons_of_neg (Bool.not_eq_true _ ▸ h)]

theorem Blanks.skipSpace_append (blanks : Blanks) (text : List Char) :
    skipSpace (blanks.chars ++ text) = skipSpace text :=
  List.dropWhile_append_of_pos (List.all_eq_true.mp blanks.all_space)

theorem skipSpace_blanks (blanks : Blanks) : skipSpace blanks.chars = [] :=
  List.dropWhile_eq_nil_iff.mpr (List.all_eq_true.mp blanks.all_space)

@[simp] theorem skipSpace_skipSpace (text : List Char) :
    skipSpace (skipSpace text) = skipSpace text := List.dropWhile_idempotent isSpace text

/-! Literals. -/

/-- Whether a character stands for itself between quotes. -/
def isPlainChar (c : Char) : Bool := c != '"' && c != '\\' && !decide (c < ' ')

inductive Piece where
  | plain (c : Char) (h : isPlainChar c = true)
  | escape (letter meant : Char) (h : shortEscapes.lookup letter = some meant)
  | unit (a b c d : Char) (value : Nat) (h : codeUnit? [a, b, c, d] = some value)

def Piece.chars : Piece → List Char
  | .plain c _ => [c]
  | .escape letter _ _ => ['\\', letter]
  | .unit a b c d _ _ => ['\\', 'u', a, b, c, d]

/-- The characters that pieces stand for. Two code units make one character if they are
a surrogate pair; half a pair is no character. -/
def denoted : List Piece → Option (List Char)
  | [] => some []
  | .plain c _ :: rest => (denoted rest).map (c :: ·)
  | .escape _ meant _ :: rest => (denoted rest).map (meant :: ·)
  | .unit _ _ _ _ value _ :: rest =>
    if isLowSurrogate value then none
    else if isHighSurrogate value then
      match rest with
      | .unit _ _ _ _ low _ :: rest =>
        if isLowSurrogate low then (denoted rest).map (surrogatePair value low :: ·) else none
      | _ => none
    else (denoted rest).map (Char.ofNat value :: ·)

structure Literal where
  pieces : List Piece

namespace Literal

/-- What stands between the quotes. -/
def body (literal : Literal) : List Char := literal.pieces.flatMap Piece.chars

def chars (literal : Literal) : List Char := '"' :: literal.body ++ ['"']

/-- The text that a literal stands for, if it stands for one. -/
def text? (literal : Literal) : Option String := (denoted literal.pieces).map String.ofList

/-- A text in which every character stands for itself, between quotes. -/
def quoting (text : String) (h : text.toList.all isPlainChar = true) : Literal where
  pieces := text.toList.pmap Piece.plain (List.all_eq_true.mp h)

theorem denoted_pmap_plain (chars : List Char) (h : ∀ c ∈ chars, isPlainChar c = true) :
    denoted (chars.pmap Piece.plain h) = some chars := by
  induction chars with
  | nil => rfl
  | cons c chars ih =>
    rw [List.pmap_cons, denoted, ih]
    rfl

theorem text?_quoting (text : String) (h : text.toList.all isPlainChar = true) :
    (quoting text h).text? = some text := by
  rw [text?, quoting, denoted_pmap_plain, Option.map_some, String.ofList_toList]

end Literal

/-! Reading literals. -/

theorem ne_of_isPlainChar {c : Char} (h : isPlainChar c = true) :
    c ≠ '"' ∧ c ≠ '\\' ∧ ¬ c < ' ' := by
  simpa [isPlainChar, and_assoc] using h

theorem passString_plain {c : Char} (h : isPlainChar c = true) (rest : List Char) :
    passString (c :: rest) = passString rest := by
  obtain ⟨hquote, hslash, hcontrol⟩ := ne_of_isPlainChar h
  rw [passString, if_neg hcontrol] <;> simp_all

theorem stringBody_plain {c : Char} (h : isPlainChar c = true) (read rest : List Char) :
    stringBody read (c :: rest) = stringBody (c :: read) rest := by
  obtain ⟨hquote, hslash, hcontrol⟩ := ne_of_isPlainChar h
  rw [stringBody, if_neg hcontrol] <;> simp_all

theorem letter_ne_u {letter meant : Char} (h : shortEscapes.lookup letter = some meant) :
    letter ≠ 'u' := by
  have hnone : shortEscapes.lookup 'u' = none := by decide
  rintro rfl
  rw [hnone] at h
  cases h

theorem passString_escape {letter meant : Char} (h : shortEscapes.lookup letter = some meant)
    (rest : List Char) : passString ('\\' :: letter :: rest) = passString rest := by
  have hu := letter_ne_u h
  rw [passString, h, if_pos Option.isSome_some] <;> simp_all

theorem stringBody_escape {letter meant : Char} (h : shortEscapes.lookup letter = some meant)
    (read rest : List Char) :
    stringBody read ('\\' :: letter :: rest) = stringBody (meant :: read) rest := by
  have hu := letter_ne_u h
  rw [stringBody, h] <;> simp_all

theorem passString_pieces (pieces : List Piece) (rest : List Char) :
    passString (pieces.flatMap Piece.chars ++ '"' :: rest) = .ok rest := by
  induction pieces with
  | nil => rfl
  | cons piece pieces ih =>
    rw [List.flatMap_cons, List.append_assoc]
    cases piece with
    | plain c h => exact (passString_plain h _).trans ih
    | escape letter meant h => exact (passString_escape h _).trans ih
    | unit a b c d value h =>
      refine Eq.trans ?_ ih
      rw [Piece.chars]
      simp only [List.cons_append, List.nil_append]
      rw [passString, h, if_pos Option.isSome_some]

/-- Only a code unit is written with a backslash and a `u`. -/
theorem chars_pieces_ne {pieces : List Piece}
    (h : ∀ a b c d value hvalue others, pieces = .unit a b c d value hvalue :: others → False)
    (rest after : List Char) :
    pieces.flatMap Piece.chars ++ '"' :: rest ≠ '\\' :: 'u' :: after := by
  intro heq
  cases pieces with
  | nil => cases heq
  | cons piece pieces =>
    rw [List.flatMap_cons, List.append_assoc] at heq
    cases piece with
    | plain c hplain => exact (ne_of_isPlainChar hplain).2.1 (List.cons.inj heq).1
    | escape letter meant hletter =>
      exact letter_ne_u hletter (List.cons.inj (List.cons.inj heq).2).1
    | unit a b c d value hvalue => exact h a b c d value hvalue pieces rfl

theorem stringBody_pieces (read : List Char) (pieces : List Piece) (rest : List Char) :
    (stringBody read (pieces.flatMap Piece.chars ++ '"' :: rest)).toOption =
      (denoted pieces).map fun text => (String.ofList (read.reverse ++ text), rest) := by
  fun_induction denoted pieces generalizing read with
  | case1 => simp [stringBody, Except.toOption]
  | case2 c h pieces ih =>
    rw [List.flatMap_cons, Piece.chars, List.append_assoc, List.singleton_append,
      stringBody_plain h, ih]
    simp [Function.comp_def]
  | case3 letter meant h pieces ih =>
    rw [List.flatMap_cons, Piece.chars, List.append_assoc, List.cons_append,
      List.singleton_append, stringBody_escape h, ih]
    simp [Function.comp_def]
  | case4 a b c d value h pieces hlow =>
    simp [stringBody, Piece.chars, h, hlow, Except.toOption]
  | case5 a b c d value h hlow hhigh e f g i low hpair pieces hsecond ih =>
    simp [stringBody, Piece.chars, h, hlow, hhigh, hpair, hsecond, ih, Function.comp_def]
  | case6 a b c d value h hlow hhigh e f g i low hpair pieces hsecond =>
    simp [stringBody, Piece.chars, h, hlow, hhigh, hpair, hsecond, Except.toOption]
  | case7 a b c d value h pieces hlow hhigh hlone =>
    have hne := chars_pieces_ne hlone rest
    simp only [List.flatMap_cons, Piece.chars, List.cons_append, List.nil_append, stringBody, h,
      hlow, hhigh, if_true, if_false, Bool.false_eq_true]
    split
    · exact absurd ‹_› (hne _)
    · rfl
  | case8 a b c d value h pieces hlow hhigh ih =>
    simp [stringBody, Piece.chars, h, hlow, hhigh, ih, Function.comp_def]

namespace Literal

theorem passString_body (literal : Literal) (rest : List Char) :
    passString (literal.body ++ '"' :: rest) = .ok rest := passString_pieces _ _

theorem stringBody_body (literal : Literal) (rest : List Char) :
    (stringBody [] (literal.body ++ '"' :: rest)).toOption = literal.text?.map (·, rest) := by
  rw [body, stringBody_pieces, text?, Option.map_map]
  rfl

end Literal
end ResumeTerminal.Json
