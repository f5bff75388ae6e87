import ResumeTerminal.Text.Quoted.Table

/-! Texts inside messages, between double quotes and on one line: what cannot be seen
is written by its code point. -/
namespace ResumeTerminal.Text

def hexDigits (n : Nat) : List Char := Nat.toDigits 16 n

/-- The two halfwidth sound marks belong to the character before them, but take a column
of their own. -/
def isSoundMark (c : Char) : Bool := c == '\uff9e' || c == '\uff9f'

/-- Whether a character shows in a row by itself. -/
def hasOwnGlyph (c : Char) : Bool :=
  !unprintableRanges.has c && !ignorableRanges.has c &&
    (!graphemeExtendRanges.has c || isSoundMark c)

def quotedChar (c : Char) : List Char :=
  match c with
  | '"' => ['\\', '"']
  | '\\' => ['\\', '\\']
  | '\n' => ['\\', 'n']
  | '\r' => ['\\', 'r']
  | '\t' => ['\\', 't']
  | '\x00' => ['\\', '0']
  | _ =>
    if (0x20 ≤ c.toNat && c.toNat < 0x7F) || hasOwnGlyph c then [c]
    else ['\\', 'u', '\x7b'] ++ hexDigits c.toNat ++ ['\x7d']

def quoted (text : String) : String :=
  String.ofList ('"' :: text.toList.flatMap quotedChar ++ ['"'])

end ResumeTerminal.Text
