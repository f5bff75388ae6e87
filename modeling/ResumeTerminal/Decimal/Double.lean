import ResumeTerminal.Decimal.Shortest

/-! Texts of double precision numbers. Their digits are the shortest that read back;
a style says how these are laid out. -/
namespace ResumeTerminal.Decimal

structure Style where
  tie : Tie
  /-- Whole numbers end in `.0`. -/
  keepsPoint : Bool
  /-- Numbers with a leading power of ten in this range have no exponent. -/
  isPositional : Int → Bool

/-- No exponent ever, and nothing after a whole number. -/
def Style.plain : Style := ⟨.up, false, fun _ => true⟩

inductive Double where
  | nan
  | infinite
  | zero
  | finite (number : Binary)

/-- The magnitude stored in a bit pattern: 11 bits of exponent, 52 of fraction. -/
def Double.ofBits (bits : Nat) : Double :=
  let fraction : Nat := bits % Nat.pow 2 52
  let exponent : Nat := bits / Nat.pow 2 52 % Nat.pow 2 11
  if exponent = 2047 then (if fraction = 0 then .infinite else .nan)
  else if exponent = 0 then
    (if fraction = 0 then .zero else .finite ⟨fraction, -1074, false⟩)
  else .finite ⟨Nat.pow 2 52 + fraction, Int.ofNat exponent - 1075, fraction == 0 && 1 < exponent⟩

def withPoint (chars : List Char) : List Char :=
  if chars.contains '.' then chars else chars ++ ['.', '0']

def Style.layout (style : Style) (number : Decimal) : List Char :=
  if style.isPositional number.magnitude then
    if style.keepsPoint then withPoint number.positional else number.positional
  else number.scientific

def Style.text (style : Style) (value : Float) : String :=
  let bits := value.toBits.toNat
  let sign := if bits / Nat.pow 2 63 = 1 then ['-'] else []
  match Double.ofBits bits with
  | .nan => "NaN"
  | .infinite => String.ofList (sign ++ ['i', 'n', 'f'])
  | .zero => String.ofList (sign ++ style.layout ⟨0, 0⟩)
  | .finite number => String.ofList (sign ++ style.layout (shortest style.tie number))

end ResumeTerminal.Decimal
