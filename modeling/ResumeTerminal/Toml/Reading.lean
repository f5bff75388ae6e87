import ResumeTerminal.Toml.Numeral

/-! Whole TOML texts: nested values first, then the lines that define keys and open
tables. -/
namespace ResumeTerminal.Toml

/-- Blanks, comments and line breaks, as they may stand inside an array. -/
def skipLayout : Nat → List Char → List Char
  | 0, text => text
  | turns + 1, text =>
    match text with
    | '#' :: _ => skipLayout turns (skipComment text)
    | c :: rest =>
      if isSpace c then skipLayout turns rest
      else
        match newline? (c :: rest) with
        | some rest => skipLayout turns rest
        | none => c :: rest
    | [] => []

/-- All of them: each turn passes at least one character. -/
def skipAllLayout (text : List Char) : List Char := skipLayout text.length text

/-- The items of an array after its bracket; a comma may follow the last one. -/
def arrayItems (value : Scanner Value) : Nat → Scanner (List Value)
  | 0, _ => none
  | turns + 1, text =>
    match skipAllLayout text with
    | ']' :: rest => some ([], rest)
    | text => do
      let (item, rest) ← value text
      match skipAllLayout rest with
      | ']' :: rest => some ([item], rest)
      | ',' :: rest => do
        let (items, rest) ← arrayItems value turns rest
        return (item :: items, rest)
      | _ => none

/-- The definitions in an inline table after its brace, which is on one line and has no
comma at its end. -/
def inlineEntries (value : Scanner Value) : Nat → Entries → Scanner Entries
  | 0, _, _ => none
  | turns + 1, entries, text => do
    let (path, rest) ← keyPath text
    let (item, rest) ← value (skipSpaces (← char? '=' rest))
    let entries ← entries.insertAt path item .inline
    match skipSpaces rest with
    | '\x7d' :: rest => some (entries, rest)
    | ',' :: rest => inlineEntries value turns entries rest
    | _ => none

/-- Reads a value, with `depth` more levels of brackets and braces allowed. -/
def value (depth : Nat) : Scanner Value := fun text =>
  match text with
  | '[' :: rest =>
    match depth with
    | 0 => none
    | depth + 1 => do
      let (items, rest) ← arrayItems (value depth) (rest.length + 1) rest
      return (.array items, rest)
  | '\x7b' :: rest =>
    match depth with
    | 0 => none
    | depth + 1 =>
      match skipSpaces rest with
      | '\x7d' :: rest => some (.table .inline [], rest)
      | rest => do
        let (entries, rest) ← inlineEntries (value depth) (rest.length + 1) [] rest
        return (.table .inline entries, rest)
  | '"' :: _ | '\'' :: _ => (string text).map fun (text, rest) => (.string text, rest)
  | _ => boolean text <|> numeral text

/-- The line that opens a table, after its first bracket. -/
def headerLine (draft : Draft) (text : List Char) : Option (Draft × List Char) :=
  match text with
  | '[' :: rest => do
    let (path, rest) ← keyPath rest
    let rest ← char? ']' (← char? ']' rest)
    return (← draft.header true path, ← endLine rest)
  | rest => do
    let (path, rest) ← keyPath rest
    let rest ← char? ']' rest
    return (← draft.header false path, ← endLine rest)

/-- The line that defines a key. -/
def keyLine (draft : Draft) (text : List Char) : Option (Draft × List Char) := do
  let (path, rest) ← keyPath text
  let (item, rest) ← value (depthLimit - 1) (skipSpaces (← char? '=' rest))
  return (← draft.define path item, ← endLine rest)

/-- Each line passes at least one character, so the length of the text bounds their
number. -/
def lines : Nat → Draft → List Char → Option Draft
  | 0, _, _ => none
  | turns + 1, draft, text =>
    match skipSpaces text with
    | [] => some draft
    | '[' :: rest => do
      let (draft, rest) ← headerLine draft rest
      lines turns draft rest
    | c :: rest =>
      match endLine (c :: rest) with
      | some rest => lines turns draft rest
      | none => do
        let (draft, rest) ← keyLine draft (c :: rest)
        lines turns draft rest

/-- A byte order mark may come first. -/
def dropMark : List Char → List Char
  | '\ufeff' :: rest => rest
  | text => text

/-- The entries of a document, unless the text is not well formed. -/
def read (text : String) : Option Entries :=
  let chars := dropMark text.toList
  (lines (chars.length + 1) {} chars).map (·.entries)

end ResumeTerminal.Toml
