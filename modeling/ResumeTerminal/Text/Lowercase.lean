import ResumeTerminal.Text.Lowercase.Table

/-! Unicode lower case. Every character is mapped on its own, except that a capital
sigma at the end of a word becomes the final form `ς`. -/
namespace ResumeTerminal.Text

/-- Only the dotted capital I becomes two characters. -/
def lowerChar (c : Char) : List Char :=
  if c.toNat < 0x80 then [c.toLower]
  else if c = 'İ' then ['i', '\u0307']
  else
    match caseRuns.find? (·.covers c.toNat) with
    | some run => [Char.ofNat (c.toNat + run.shift).toNat]
    | none => [c]

/-- Whether the nearest character that matters is a cased one. -/
def touchesCased (chars : List Char) : Bool :=
  match chars.dropWhile caseIgnorableRanges.has with
  | c :: _ => casedRanges.has c
  | [] => false

/-- A capital sigma ends a word when a cased letter stands before it and none after it. -/
def lowerChars (before : List Char) : List Char → List Char
  | [] => []
  | 'Σ' :: rest =>
    (if touchesCased before && !touchesCased rest then 'ς' else 'σ')
      :: lowerChars ('Σ' :: before) rest
  | c :: rest => lowerChar c ++ lowerChars (c :: before) rest

def lower (text : String) : String := String.ofList (lowerChars [] text.toList)

/-- Lower case letter by letter, without regard to where words end. -/
def lowerEach (text : String) : String := String.ofList (text.toList.flatMap lowerChar)

end ResumeTerminal.Text
