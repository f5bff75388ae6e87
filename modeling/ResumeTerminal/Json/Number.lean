import ResumeTerminal.Json.Lexeme

/-! Numbers in a JSON text. Whole ones of 64 bits are read exactly; the others become
doubles by scaling their leading digits. -/
namespace ResumeTerminal.Json

def isDigit : Char → Bool := Text.isDigit 10

/-- Whole numbers of 64 bits are kept exactly; `-0` and all others are floats. -/
inductive Number where
  | natural (value : Nat)
  | negative (value : Int)
  | float (value : Float)

def Number.found : Number → Found
  | .natural value => .integer value
  | .negative value => .integer value
  | .float value => .float value

/-- Takes in digits while the significand has 64 bits; the digits left over follow. -/
def absorb : Nat → List Char → Nat × List Char
  | significand, [] => (significand, [])
  | significand, c :: rest =>
    let next := 10 * significand + Text.digitValue 10 c
    if next < Nat.pow 2 64 then absorb next rest else (significand, c :: rest)

def powerOfTen (exponent : Nat) : Float := Float.ofScientific 1 false exponent

/-- Divides by a power of ten, the largest one first when it takes several. -/
def divideDown : Nat → Float → Nat → Float
  | 0, value, _ => value
  | steps + 1, value, exponent =>
    if exponent ≤ 308 then value / powerOfTen exponent
    else if value == 0 then value
    else divideDown steps (value / powerOfTen 308) (exponent - 308)

/-- The float nearest to the significand, scaled by a power of ten in doubles. -/
def scaled? (significand : Nat) (exponent : Int) : Except Error Float :=
  let value := Float.ofNat significand
  if exponent < 0 then .ok (divideDown (exponent.natAbs / 308 + 1) value exponent.natAbs)
  else if 308 < exponent then
    if value == 0 then .ok value else .error .numberOutOfRange
  else
    let product := value * powerOfTen exponent.toNat
    if product.isInf then .error .numberOutOfRange else .ok product

def floatNumber (negative : Bool) (significand : Nat) (exponent : Int) : Except Error Number :=
  (scaled? significand exponent).map fun value => .float (if negative then -value else value)

def wholeNumber (negative : Bool) (value : Nat) : Number :=
  if !negative then .natural value
  else if 0 < value ∧ value ≤ Nat.pow 2 63 then .negative (-value)
  else .float (-(Float.ofNat value))

/-- Exponents past 31 bits leave nothing of a number, or too much. -/
def exponentLimit : Nat := Nat.pow 2 31 - 1

/-- The digits of an exponent and its sign are read; they scale a number of which
`places` decimal places have been taken in already. -/
def exponentPart (negative : Bool) (significand : Nat) (places : Int) (below : Bool) :
    Reader Number := fun text =>
  let digits := text.takeWhile isDigit
  let rest := text.dropWhile isDigit
  if digits.isEmpty then .error (if rest.isEmpty then .endInValue else .invalidNumber)
  else
    let exponent := Text.numeralValue 10 digits
    if exponentLimit < exponent then
      if significand ≠ 0 ∧ !below then .error .numberOutOfRange
      else .ok (.float (if negative then -0.0 else 0.0), rest)
    else do
      let power : Int := if below then -exponent else exponent
      return (← floatNumber negative significand (power - places), rest)

/-- Reads on after the digits of a number that is not whole. -/
def scaledPart (negative : Bool) (significand : Nat) (places : Int) : Reader Number
  | 'e' :: '-' :: rest | 'E' :: '-' :: rest => exponentPart negative significand places true rest
  | 'e' :: '+' :: rest | 'E' :: '+' :: rest => exponentPart negative significand places false rest
  | 'e' :: rest | 'E' :: rest => exponentPart negative significand places false rest
  | rest => (floatNumber negative significand (-places)).map (·, rest)

/-- The number after its sign. Digits beyond 64 bits only move the point. -/
def unsignedNumber (negative : Bool) : Reader Number := fun text =>
  let digits := text.takeWhile isDigit
  let rest := text.dropWhile isDigit
  if digits.isEmpty then .error (if rest.isEmpty then .endInValue else .invalidNumber)
  else if digits.head? = some '0' ∧ digits.length > 1 then .error .invalidNumber
  else
    let (significand, dropped) := absorb 0 digits
    match rest with
    | '.' :: fraction =>
      let decimals := fraction.takeWhile isDigit
      let rest := fraction.dropWhile isDigit
      if decimals.isEmpty then .error (if rest.isEmpty then .endInValue else .invalidNumber)
      else
        let (significand, ignored) := absorb significand decimals
        scaledPart negative significand (decimals.length - ignored.length - dropped.length) rest
    | 'e' :: _ | 'E' :: _ => scaledPart negative significand (-dropped.length) rest
    | _ =>
      if dropped.isEmpty then .ok (wholeNumber negative significand, rest)
      else scaledPart negative significand (-dropped.length) rest

/-- The number at the front of a text that begins with a digit or a minus sign. -/
def readNumber : Reader Number
  | '-' :: rest => unsignedNumber true rest
  | text => unsignedNumber false text

/-- Passes at least one digit. -/
def passDigits (text : List Char) : Except Error (List Char) :=
  if (text.takeWhile isDigit).isEmpty then .error .invalidNumber
  else .ok (text.dropWhile isDigit)

def passExponent : List Char → Except Error (List Char)
  | 'e' :: '-' :: rest | 'E' :: '-' :: rest => passDigits rest
  | 'e' :: '+' :: rest | 'E' :: '+' :: rest => passDigits rest
  | 'e' :: rest | 'E' :: rest => passDigits rest
  | rest => .ok rest

/-- Passes a number after its sign, of whatever size. -/
def passNumber (text : List Char) : Except Error (List Char) := do
  let rest ← passDigits text
  if text.head? = some '0' ∧ 1 < (text.takeWhile isDigit).length then .error .invalidNumber
  else
    match rest with
    | '.' :: fraction => passExponent (← passDigits fraction)
    | rest => passExponent rest

end ResumeTerminal.Json
