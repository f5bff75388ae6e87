import ResumeTerminal.Decimal.Basic

/-! The shortest decimal that reads back as a given binary number: among the decimals
that round to it, one on the coarsest grid of powers of ten, and there the nearest. -/
namespace ResumeTerminal.Decimal

/-- What becomes of a number halfway between two neighbours on the grid. -/
inductive Tie where
  | up
  | even
  deriving DecidableEq, Repr

/-- The number `significand · 2 ^ exponent`. The gap below it is half as wide as the
gap above it when it is `narrowBelow`. -/
structure Binary where
  significand : Nat
  exponent : Int
  narrowBelow : Bool
  deriving DecidableEq, Repr

/-- Negative powers count as one; they are scaled away. -/
def pow (base : Nat) (exponent : Int) : Nat := Nat.pow base exponent.toNat

/-- A grid point inside the rounding interval, which holds its ends when the
significand is even. All sides are scaled to whole numbers. -/
def gridPoint? (tie : Tie) (number : Binary) (grid : Int) : Option Nat :=
  let quarter := number.exponent - 2
  let scale := pow 2 quarter * pow 10 (-grid)
  let unit := pow 10 grid * pow 2 (-quarter)
  let value := 4 * number.significand * scale
  let low := (4 * number.significand - if number.narrowBelow then 1 else 2) * scale
  let high := (4 * number.significand + 2) * scale
  let closed := number.significand % 2 == 0
  let inside (n : Nat) : Bool :=
    (low < n * unit && n * unit < high) || (closed && (low == n * unit || n * unit == high))
  let below := value / unit
  let above := below + 1
  match inside below, inside above with
  | false, false => none
  | true, false => some below
  | false, true => some above
  | true, true =>
    match compare (2 * value) ((below + above) * unit) with
    | .lt => some below
    | .gt => some above
    | .eq => some (if tie = .even && below % 2 == 0 then below else above)

/-- The number itself, written out. -/
def exactly (number : Binary) : Decimal :=
  if 0 ≤ number.exponent then ⟨number.significand * pow 2 number.exponent, 0⟩
  else ⟨number.significand * pow 5 (-number.exponent), number.exponent⟩

def search (tie : Tie) (number : Binary) : Nat → Int → Decimal
  | 0, _ => exactly number
  | steps + 1, grid =>
    match gridPoint? tie number grid with
    | some digits => ⟨digits, grid⟩
    | none => search tie number steps (grid - 1)

/-- A power of ten above the number: `30103 / 100000` is just above the decimal
logarithm of two. -/
def ceilingGrid (number : Binary) : Int :=
  (number.significand.log2 + 1 + number.exponent) * 30103 / 100000 + 1

/-- Seventeen digits always suffice for a double, so the search ends well before it
runs out of steps. -/
def shortest (tie : Tie) (number : Binary) : Decimal :=
  search tie number 24 (ceilingGrid number)

end ResumeTerminal.Decimal
