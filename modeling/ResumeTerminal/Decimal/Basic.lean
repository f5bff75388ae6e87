/-! Decimal numbers as digits and a power of ten, and the two ways to write them. -/
namespace ResumeTerminal

/-- The number `digits · 10 ^ exponent`. -/
structure Decimal where
  digits : Nat
  exponent : Int
  deriving DecidableEq, Repr

namespace Decimal

def zeros (n : Nat) : List Char := List.replicate n '0'

def digitChars (number : Decimal) : List Char := Nat.toDigits 10 number.digits

/-- The power of ten of the leading digit. -/
def magnitude (number : Decimal) : Int := number.digitChars.length + number.exponent - 1

/-- All digits in place, with as many zeros as that takes. -/
def positional (number : Decimal) : List Char :=
  let chars := number.digitChars
  if 0 ≤ number.exponent then chars ++ zeros number.exponent.toNat
  else
    let places := number.exponent.natAbs
    let padded := zeros (places + 1 - chars.length) ++ chars
    padded.take (padded.length - places) ++ '.' :: padded.drop (padded.length - places)

/-- One digit before the point, and the power of ten with its sign. -/
def scientific (number : Decimal) : List Char :=
  let mantissa :=
    match number.digitChars with
    | first :: second :: rest => first :: '.' :: second :: rest
    | short => short
  let power := number.magnitude
  mantissa ++ 'e' :: (if power < 0 then '-' else '+') :: Nat.toDigits 10 power.natAbs

end Decimal
end ResumeTerminal
