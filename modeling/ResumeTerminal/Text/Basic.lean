/-! Texts: sets of characters, the digits of numerals, the words between blanks, and the rows that
a text takes on the screen. -/
namespace ResumeTerminal.Text

/-! Sets of characters given by closed ranges of code points. -/

abbrev Ranges := List (Nat × Nat)

def Ranges.has (ranges : Ranges) (c : Char) : Bool :=
  ranges.any fun (first, last) => first ≤ c.toNat && c.toNat ≤ last

/-! Digits of numerals in bases up to thirty-six; letters of either case follow nine. -/

def digit? (base : Nat) (c : Char) : Option Nat :=
  let value :=
    if '0' ≤ c ∧ c ≤ '9' then c.toNat - 48
    else if 'a' ≤ c ∧ c ≤ 'z' then c.toNat - 87
    else if 'A' ≤ c ∧ c ≤ 'Z' then c.toNat - 55
    else base
  if value < base then some value else none

def isDigit (base : Nat) (c : Char) : Bool := (digit? base c).isSome

def digitValue (base : Nat) (c : Char) : Nat := (digit? base c).getD 0

def numeralValue (base : Nat) (digits : List Char) : Nat :=
  digits.foldl (fun n c => base * n + digitValue base c) 0

/-! Blank characters are those with the Unicode property `White_Space`. A text is
visible when it holds any other character; trimming and word splitting follow the
same class, so a line is blank exactly when it has no words. -/

def blankRanges : Ranges :=
  [(0x9, 0xD), (0x20, 0x20), (0x85, 0x85), (0xA0, 0xA0), (0x1680, 0x1680), (0x2000, 0x200A),
   (0x2028, 0x2029), (0x202F, 0x202F), (0x205F, 0x205F), (0x3000, 0x3000)]

def isBlankChar (c : Char) : Bool := blankRanges.has c

def isBlank (text : String) : Bool := text.toList.all isBlankChar

def isVisible (text : String) : Bool := !isBlank text

def dropBlankEnd (chars : List Char) : List Char :=
  (chars.reverse.dropWhile isBlankChar).reverse

def trimEnd (text : String) : String := String.ofList (dropBlankEnd text.toList)

def trim (text : String) : String :=
  String.ofList (dropBlankEnd (text.toList.dropWhile isBlankChar))

theorem dropWhile_isBlankChar_eq_nil {chars : List Char} :
    chars.dropWhile isBlankChar = [] ↔ chars.all isBlankChar = true := by
  induction chars with
  | nil => simp
  | cons c rest ih => by_cases h : isBlankChar c = true <;> simp [h, ih]

theorem dropBlankEnd_eq_nil {chars : List Char} :
    dropBlankEnd chars = [] ↔ chars.all isBlankChar = true := by
  simp only [dropBlankEnd, List.reverse_eq_nil_iff, dropWhile_isBlankChar_eq_nil,
    List.all_reverse]

theorem all_dropWhile_isBlankChar (chars : List Char) :
    (chars.dropWhile isBlankChar).all isBlankChar = chars.all isBlankChar := by
  induction chars with
  | nil => rfl
  | cons c rest ih => by_cases h : isBlankChar c = true <;> simp [h, ih]

/-- Trimming leaves nothing of a blank text, and something of any other. -/
theorem isEmpty_trim (text : String) : (trim text).isEmpty = isBlank text := by
  rw [Bool.eq_iff_iff, String.isEmpty_iff, trim, String.ofList_eq_empty_iff,
    dropBlankEnd_eq_nil, all_dropWhile_isBlankChar, isBlank]

/-- The maximal runs of characters that are not blank. -/
def words (text : String) : List String :=
  ((text.toList.splitOnP isBlankChar).filter (!·.isEmpty)).map String.ofList

/-! Words are the runs of a text that are left between its blanks, so blank ends do not
matter. -/

def runs (chars : List Char) : List (List Char) :=
  (chars.splitOnP isBlankChar).filter (!·.isEmpty)

theorem words_eq_runs (text : String) : words text = (runs text.toList).map String.ofList := rfl

theorem runs_append_cons {b : Char} (hb : isBlankChar b = true) (before after : List Char) :
    runs (before ++ b :: after) = runs before ++ runs after := by
  unfold runs
  rw [List.splitOnP_append_cons before after hb, List.filter_append]

theorem runs_cons {b : Char} (hb : isBlankChar b = true) (after : List Char) :
    runs (b :: after) = runs after := by
  have h := runs_append_cons hb [] after
  rwa [List.nil_append] at h

theorem runs_eq_nil_of_all {chars : List Char} (h : chars.all isBlankChar = true) :
    runs chars = [] := by
  induction chars with
  | nil => rfl
  | cons b rest ih =>
    rw [List.all_cons, Bool.and_eq_true] at h
    rw [runs_cons h.1, ih h.2]

theorem runs_dropWhile (chars : List Char) :
    runs (chars.dropWhile isBlankChar) = runs chars := by
  induction chars with
  | nil => rfl
  | cons c rest ih =>
    by_cases hc : isBlankChar c = true
    · rw [List.dropWhile_cons_of_pos hc, runs_cons hc, ih]
    · rw [List.dropWhile_cons_of_neg hc]

theorem runs_append_of_all {blanks : List Char} (h : blanks.all isBlankChar = true)
    (chars : List Char) : runs (chars ++ blanks) = runs chars := by
  cases blanks with
  | nil => rw [List.append_nil]
  | cons b rest =>
    rw [List.all_cons, Bool.and_eq_true] at h
    rw [runs_append_cons h.1, runs_eq_nil_of_all h.2, List.append_nil]

theorem runs_dropBlankEnd (chars : List Char) : runs (dropBlankEnd chars) = runs chars := by
  let blanks := (chars.reverse.takeWhile isBlankChar).reverse
  have hsplit : dropBlankEnd chars ++ blanks = chars := by
    rw [dropBlankEnd, ← List.reverse_append, List.takeWhile_append_dropWhile,
      List.reverse_reverse]
  have hblank : blanks.all isBlankChar = true := by
    rw [List.all_reverse, List.all_takeWhile]
  calc runs (dropBlankEnd chars)
      = runs (dropBlankEnd chars ++ blanks) := (runs_append_of_all hblank _).symm
    _ = runs chars := by rw [hsplit]

theorem toList_trim (text : String) :
    (trim text).toList = dropBlankEnd (text.toList.dropWhile isBlankChar) := by
  rw [trim, String.toList_ofList]

@[simp] theorem words_trim (text : String) : words (trim text) = words text := by
  rw [words_eq_runs, words_eq_runs, toList_trim, runs_dropBlankEnd, runs_dropWhile]

/-! Rows of the terminal: how a text is cut into them, and how columns are padded. -/

/-- A carriage return right before a line feed belongs to the line break. -/
def dropReturn (row : List Char) : List Char :=
  if row.getLast? = some '\r' then row.dropLast else row

/-- A line feed at the very end closes the last row and opens none. -/
def rows (text : String) : List String :=
  let parts := text.toList.splitOn '\n'
  let closed := parts.dropLast.map dropReturn
  let last := parts.getLast?.filter (!·.isEmpty)
  (closed ++ last.toList).map String.ofList

/-- The rows of an output text; an empty one still takes a row. -/
def printedRows (text : String) : List String :=
  if text.isEmpty then [""] else rows text

def spaces (n : Nat) : String := String.ofList (List.replicate n ' ')

def padRight (width : Nat) (text : String) : String := text ++ spaces (width - text.length)

def padLeft (width : Nat) (text : String) : String := spaces (width - text.length) ++ text

end ResumeTerminal.Text
