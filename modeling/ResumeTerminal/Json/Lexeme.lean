import ResumeTerminal.Json.Error
import ResumeTerminal.Text.Basic

/-! The parts of a JSON text that hold no others, but for numbers: blanks, fixed words
and strings. Each is read off the front of the text, leaving the rest. -/
namespace ResumeTerminal.Json

abbrev Reader (α : Type) := List Char → Except Error (α × List Char)

def isSpace (c : Char) : Bool := c == ' ' || c == '\n' || c == '\r' || c == '\t'

def skipSpace (text : List Char) : List Char := text.dropWhile isSpace

/-- Passes the letters of a fixed word. -/
def passWord : List Char → List Char → Except Error (List Char)
  | [], rest => .ok rest
  | _ :: _, [] => .error .endInValue
  | letter :: letters, c :: rest =>
    if c = letter then passWord letters rest else .error .expectedWord

/-- The code unit that four hexadecimal digits name. -/
def codeUnit? (digits : List Char) : Option Nat :=
  if digits.all (Text.isDigit 16) then some (Text.numeralValue 16 digits) else none

/-- What is wrong with a code unit written in fewer than four characters. The bytes
that are left decide whether the text is at its end. -/
def shortEscape (rest : List Char) : Error :=
  if (String.ofList rest).utf8ByteSize < 4 then .endInString else .invalidEscape

def isHighSurrogate (unit : Nat) : Bool := 0xD800 ≤ unit && unit ≤ 0xDBFF

def isLowSurrogate (unit : Nat) : Bool := 0xDC00 ≤ unit && unit ≤ 0xDFFF

def surrogatePair (high low : Nat) : Char :=
  Char.ofNat (0x10000 + (high - 0xD800) * 0x400 + (low - 0xDC00))

def shortEscapes : List (Char × Char) :=
  [('"', '"'), ('\\', '\\'), ('/', '/'), ('b', '\x08'), ('f', '\x0c'), ('n', '\n'), ('r', '\r'),
   ('t', '\t')]

/-- What can be missing after a high surrogate: the text ends, or goes on differently. -/
def brokenPair : List Char → Error
  | [] => .endInString
  | ['\\'] => .endInString
  | '\\' :: 'u' :: rest => shortEscape rest
  | _ => .unfinishedSurrogate

/-- The string that follows an opening quote; `read` holds what came before, reversed. -/
def stringBody (read : List Char) : Reader String
  | [] => .error .endInString
  | '"' :: rest => .ok (String.ofList read.reverse, rest)
  | '\\' :: 'u' :: a :: b :: c :: d :: rest =>
    match codeUnit? [a, b, c, d] with
    | none => .error .invalidEscape
    | some unit =>
      if isLowSurrogate unit then .error .unpairedSurrogate
      else if isHighSurrogate unit then
        match rest with
        | '\\' :: 'u' :: e :: f :: g :: h :: rest =>
          match codeUnit? [e, f, g, h] with
          | none => .error .invalidEscape
          | some low =>
            if isLowSurrogate low then stringBody (surrogatePair unit low :: read) rest
            else .error .unpairedSurrogate
        | rest => .error (brokenPair rest)
      else stringBody (Char.ofNat unit :: read) rest
  | '\\' :: 'u' :: rest => .error (shortEscape rest)
  | '\\' :: c :: rest =>
    match shortEscapes.lookup c with
    | some meant => stringBody (meant :: read) rest
    | none => .error .invalidEscape
  | ['\\'] => .error .endInString
  | c :: rest => if c < ' ' then .error .controlCharacter else stringBody (c :: read) rest

/-- Passes the string that follows an opening quote without asking what it denotes. -/
def passString : List Char → Except Error (List Char)
  | [] => .error .endInString
  | '"' :: rest => .ok rest
  | '\\' :: 'u' :: a :: b :: c :: d :: rest =>
    if (codeUnit? [a, b, c, d]).isSome then passString rest else .error .invalidEscape
  | '\\' :: 'u' :: rest => .error (shortEscape rest)
  | '\\' :: c :: rest =>
    if (shortEscapes.lookup c).isSome then passString rest else .error .invalidEscape
  | ['\\'] => .error .endInString
  | c :: rest => if c < ' ' then .error .controlCharacter else passString rest

end ResumeTerminal.Json
