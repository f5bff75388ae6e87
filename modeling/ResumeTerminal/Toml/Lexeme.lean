import ResumeTerminal.Text.Basic
import ResumeTerminal.Toml.Document

/-! Blanks, comments, strings and keys of a TOML text. A scanner reads its part off the
front of the text and leaves the rest, or finds that the part is not there. -/
namespace ResumeTerminal.Toml

abbrev Scanner (α : Type) := List Char → Option (α × List Char)

def isSpace (c : Char) : Bool := c == ' ' || c == '\t'

def skipSpaces (text : List Char) : List Char := text.dropWhile isSpace

/-- Comments and strings hold no control characters other than the tab. -/
def isPlain (c : Char) : Bool := c == '\t' || (' ' ≤ c && c != '\x7f')

def newline? : List Char → Option (List Char)
  | '\n' :: rest => some rest
  | '\r' :: '\n' :: rest => some rest
  | _ => none

def skipComment : List Char → List Char
  | '#' :: rest => rest.dropWhile isPlain
  | text => text

/-- What may follow on the line when all has been said. -/
def endLine (text : List Char) : Option (List Char) :=
  match skipComment (skipSpaces text) with
  | [] => some []
  | rest => newline? rest

/-- The character that hexadecimal digits name, if there is one. -/
def character? (digits : List Char) : Option Char :=
  let code := Text.numeralValue 16 digits
  if digits.all (Text.isDigit 16) ∧ code.isValidChar then some (Char.ofNat code) else none

def shortEscapes : List (Char × Char) :=
  [('b', '\x08'), ('t', '\t'), ('n', '\n'), ('f', '\x0c'), ('r', '\r'), ('"', '"'), ('\\', '\\')]

/-- Whether a line ends here but for blanks. -/
def atLineEnd (text : List Char) : Bool := (newline? (skipSpaces text)).isSome

/-- The string after its opening quotes; `read` holds what came before, reversed. Over
several lines three quotes close it, and two more before them belong to it. A backslash
at the end of a line sets `joining`, until something visible comes. -/
def basicBody (multiline joining : Bool) (read : List Char) : Scanner String
  | [] => none
  | '"' :: rest =>
    if !multiline then some (String.ofList read.reverse, rest)
    else
      match rest with
      | '"' :: '"' :: '"' :: '"' :: rest => some (String.ofList ('"' :: '"' :: read).reverse, rest)
      | '"' :: '"' :: '"' :: rest => some (String.ofList ('"' :: read).reverse, rest)
      | '"' :: '"' :: rest => some (String.ofList read.reverse, rest)
      | rest => basicBody multiline false ('"' :: read) rest
  | '\\' :: 'u' :: a :: b :: c :: d :: rest => do
    basicBody multiline false ((← character? [a, b, c, d]) :: read) rest
  | '\\' :: 'U' :: a :: b :: c :: d :: e :: f :: g :: h :: rest => do
    basicBody multiline false ((← character? [a, b, c, d, e, f, g, h]) :: read) rest
  | '\\' :: rest =>
    if multiline ∧ atLineEnd rest then basicBody multiline true read rest
    else
      match rest with
      | c :: rest => do basicBody multiline false ((← shortEscapes.lookup c) :: read) rest
      | [] => none
  | '\r' :: '\n' :: rest =>
    if !multiline then none
    else if joining then basicBody multiline true read rest
    else basicBody multiline false ('\n' :: read) rest
  | c :: rest =>
    if joining ∧ (isSpace c ∨ c = '\n') then basicBody multiline true read rest
    else if isPlain c ∨ (multiline ∧ c = '\n') then basicBody multiline false (c :: read) rest
    else none

/-- The same for strings in which a backslash means itself. -/
def literalBody (multiline : Bool) (read : List Char) : Scanner String
  | [] => none
  | '\'' :: rest =>
    if !multiline then some (String.ofList read.reverse, rest)
    else
      match rest with
      | '\'' :: '\'' :: '\'' :: '\'' :: rest =>
        some (String.ofList ('\'' :: '\'' :: read).reverse, rest)
      | '\'' :: '\'' :: '\'' :: rest => some (String.ofList ('\'' :: read).reverse, rest)
      | '\'' :: '\'' :: rest => some (String.ofList read.reverse, rest)
      | rest => literalBody multiline ('\'' :: read) rest
  | '\r' :: '\n' :: rest => if multiline then literalBody multiline ('\n' :: read) rest else none
  | c :: rest =>
    if isPlain c ∨ (multiline ∧ c = '\n') then literalBody multiline (c :: read) rest else none

/-- A line break right after the opening quotes is not part of the string. -/
def dropNewline (text : List Char) : List Char := (newline? text).getD text

def string : Scanner String
  | '"' :: '"' :: '"' :: rest => basicBody true false [] (dropNewline rest)
  | '"' :: rest => basicBody false false [] rest
  | '\'' :: '\'' :: '\'' :: rest => literalBody true [] (dropNewline rest)
  | '\'' :: rest => literalBody false [] rest
  | _ => none

def isKeyChar (c : Char) : Bool := c.isAlphanum || c == '_' || c == '-'

def simpleKey : Scanner String
  | '"' :: rest => basicBody false false [] rest
  | '\'' :: rest => literalBody false [] rest
  | text =>
    let name := text.takeWhile isKeyChar
    if name.isEmpty then none else some (String.ofList name, text.dropWhile isKeyChar)

def keyParts : Nat → Scanner (List String)
  | 0, _ => none
  | turns + 1, text => do
    let (name, rest) ← simpleKey (skipSpaces text)
    match skipSpaces rest with
    | '.' :: rest => do
      let (names, rest) ← keyParts turns rest
      return (name :: names, rest)
    | rest => return ([name], rest)

/-- A key has fewer parts than this, and values are nested less deep. -/
def depthLimit : Nat := 80

/-- A dotted key with the blanks around it. -/
def keyPath (text : List Char) : Option (List String × List Char) := do
  let (names, rest) ← keyParts (text.length + 1) text
  if names.length < depthLimit then return (names, rest) else none

end ResumeTerminal.Toml
