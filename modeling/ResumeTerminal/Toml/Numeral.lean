import ResumeTerminal.Calendar
import ResumeTerminal.Toml.Lexeme

/-! Values of a TOML text that begin with a digit, a sign or a letter: integers, floats,
dates, times and truth values. -/
namespace ResumeTerminal.Toml

/-- Digits with single underscores between them. -/
def digitRun (base : Nat) : Scanner (List Char)
  | [] => none
  | c :: '_' :: rest =>
    if Text.isDigit base c then (digitRun base rest).map fun (digits, rest) => (c :: digits, rest)
    else none
  | c :: rest =>
    if !Text.isDigit base c then none
    else if rest.head?.any (Text.isDigit base) then
      (digitRun base rest).map fun (digits, rest) => (c :: digits, rest)
    else some ([c], rest)

def sign : List Char → Bool × List Char
  | '-' :: rest => (true, rest)
  | '+' :: rest => (false, rest)
  | text => (false, text)

/-- A whole decimal number: no zero comes before other digits. -/
def decimalDigits : Scanner (List Char)
  | '0' :: rest => some (['0'], rest)
  | text => digitRun 10 text

def signed (negative : Bool) (value : Nat) : Int := if negative then -value else value

/-- Integers have 64 bits. -/
def integerOf (negative : Bool) (base : Nat) (digits : List Char) : Option Value :=
  let value := signed negative (Text.numeralValue base digits)
  let limit : Int := Nat.pow 2 63
  if -limit ≤ value ∧ value < limit then some (.integer value) else none

def integer : Scanner Value
  | '0' :: 'x' :: rest => do
    let (digits, rest) ← digitRun 16 rest
    return (← integerOf false 16 digits, rest)
  | '0' :: 'o' :: rest => do
    let (digits, rest) ← digitRun 8 rest
    return (← integerOf false 8 digits, rest)
  | '0' :: 'b' :: rest => do
    let (digits, rest) ← digitRun 2 rest
    return (← integerOf false 2 digits, rest)
  | text => do
    let (negative, text) := sign text
    let (digits, rest) ← decimalDigits text
    return (← integerOf negative 10 digits, rest)

/-- The double nearest to `digits · 10 ^ exponent`; a number far outside the range of
doubles is not computed. -/
def nearestFloat (digits : Nat) (exponent : Int) : Float :=
  let magnitude := (toString digits).length + exponent
  if digits = 0 ∨ magnitude < -330 then 0.0
  else if 330 < magnitude then 1.0 / 0.0
  else if exponent < 0 then Float.ofScientific digits true exponent.natAbs
  else Float.ofScientific digits false exponent.toNat

def exponent : Scanner Int
  | 'e' :: rest | 'E' :: rest => do
    let (negative, rest) := sign rest
    let (digits, rest) ← digitRun 10 rest
    return (signed negative (Text.numeralValue 10 digits), rest)
  | _ => none

def fraction : Scanner (List Char)
  | '.' :: rest => digitRun 10 rest
  | _ => none

/-- Numbers may grow without bound only towards minus infinity. -/
def floatOf (negative : Bool) (digits : List Char) (exponent : Int) : Option Value :=
  let value := nearestFloat (Text.numeralValue 10 digits) exponent
  if negative then some (.float (-value))
  else if value.isInf then none else some (.float value)

/-- A number with a fraction, an exponent or both. -/
def decimalFloat (text : List Char) : Option (Value × List Char) := do
  let (negative, text) := sign text
  let (digits, rest) ← decimalDigits text
  match fraction rest with
  | some (places, rest) =>
    let (power, rest) := (exponent rest).getD (0, rest)
    return (← floatOf negative (digits ++ places) (power - places.length), rest)
  | none =>
    let (power, rest) ← exponent rest
    return (← floatOf negative digits power, rest)

def specialFloat (text : List Char) : Option (Value × List Char) :=
  let (negative, text) := sign text
  let signed (value : Float) : Value := .float (if negative then -value else value)
  match text with
  | 'i' :: 'n' :: 'f' :: rest => some (signed (1.0 / 0.0), rest)
  | 'n' :: 'a' :: 'n' :: rest => some (signed (0.0 / 0.0), rest)
  | _ => none

def float (text : List Char) : Option (Value × List Char) :=
  decimalFloat text <|> specialFloat text

/-- A number of exactly so many digits within bounds. -/
def fixedNumber (width low high : Nat) (text : List Char) : Option (Nat × List Char) :=
  let digits := text.take width
  let value := Text.numeralValue 10 digits
  if digits.length = width ∧ digits.all (Text.isDigit 10) ∧ low ≤ value ∧ value ≤ high then
    some (value, text.drop width)
  else none

def char? (c : Char) : List Char → Option (List Char)
  | d :: rest => if d = c then some rest else none
  | [] => none

def skipDate (text : List Char) : Option (List Char) := do
  let (year, rest) ← fixedNumber 4 0 9999 text
  let (month, rest) ← fixedNumber 2 1 12 (← char? '-' rest)
  let (_, rest) ← fixedNumber 2 1 (Calendar.daysInMonth year month) (← char? '-' rest)
  return rest

/-- Fractions of a second have at least one digit. -/
def skipSecondFraction : List Char → List Char
  | '.' :: c :: rest =>
    if Text.isDigit 10 c then rest.dropWhile (Text.isDigit 10) else '.' :: c :: rest
  | text => text

def skipTime (text : List Char) : Option (List Char) := do
  let (_, rest) ← fixedNumber 2 0 23 text
  let (_, rest) ← fixedNumber 2 0 59 (← char? ':' rest)
  let (_, rest) ← fixedNumber 2 0 60 (← char? ':' rest)
  return skipSecondFraction rest

def skipOffset : List Char → Option (List Char)
  | 'Z' :: rest | 'z' :: rest => some rest
  | '+' :: rest | '-' :: rest => do
    let (_, rest) ← fixedNumber 2 0 23 rest
    let (_, rest) ← fixedNumber 2 0 59 (← char? ':' rest)
    return rest
  | _ => none

def isTimeMark (c : Char) : Bool := c == 'T' || c == 't' || c == ' '

/-- A time of day after a date, with its distance from UTC if that is given. -/
def skipDayTime : List Char → Option (List Char)
  | c :: rest => do
    let rest ← if isTimeMark c then skipTime rest else none
    return (skipOffset rest).getD rest
  | [] => none

def datetime (text : List Char) : Option (Value × List Char) :=
  match skipDate text with
  | some rest => some (.datetime, (skipDayTime rest).getD rest)
  | none => (skipTime text).map (.datetime, ·)

/-- Dates come first, since they begin like numbers. -/
def numeral (text : List Char) : Option (Value × List Char) :=
  datetime text <|> float text <|> integer text

def boolean : Scanner Value
  | 't' :: 'r' :: 'u' :: 'e' :: rest => some (.boolean true, rest)
  | 'f' :: 'a' :: 'l' :: 's' :: 'e' :: rest => some (.boolean false, rest)
  | _ => none

end ResumeTerminal.Toml
