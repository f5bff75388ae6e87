import ResumeTerminal.Json.Skip

/-! Lists and objects, whatever their elements are: where the next one begins, and the
loops that read them all. -/
namespace ResumeTerminal.Json

/-- What is found where an element may begin. -/
inductive Next where
  | closed (rest : List Char)
  | element (rest : List Char)

/-- A comma stands between elements and nowhere else. -/
def nextItem (first : Bool) (text : List Char) : Except Error Next :=
  match skipSpace text with
  | [] => .error .endInList
  | ']' :: rest => .ok (.closed rest)
  | c :: rest =>
    if first then .ok (.element (c :: rest))
    else if c = ',' then
      match skipSpace rest with
      | [] => .error .endInValue
      | ']' :: _ => .error .trailingComma
      | rest => .ok (.element rest)
    else .error .expectedListComma

/-- The closing bracket of a list that has all its elements. -/
def closeList (text : List Char) : Except Error (List Char) :=
  match skipSpace text with
  | [] => .error .endInList
  | ']' :: rest => .ok rest
  | ',' :: rest =>
    match skipSpace rest with
    | ']' :: _ => .error .trailingComma
    | _ => .error .trailingCharacters
  | _ => .error .trailingCharacters

/-- The rest after a member's opening quote, or after the closing brace. -/
def nextMember (first : Bool) (text : List Char) : Except Error Next :=
  match skipSpace text with
  | [] => .error .endInObject
  | '\x7d' :: rest => .ok (.closed rest)
  | c :: rest =>
    if first then
      if c = '"' then .ok (.element rest) else .error .keyNotString
    else if c = ',' then
      match skipSpace rest with
      | [] => .error .endInValue
      | '"' :: rest => .ok (.element rest)
      | '\x7d' :: _ => .error .trailingComma
      | _ => .error .keyNotString
    else .error .expectedObjectComma

variable {σ : Type}

/-- Reads elements up to the closing bracket, each changing the state so far. Every
turn passes a character, so the length of the text bounds their number. -/
def itemLoop (item : σ → Reader σ) : Nat → Bool → σ → Reader σ
  | 0, _, _, _ => .error .endInList
  | turns + 1, first, state, text => do
    match ← nextItem first text with
    | .closed rest => .ok (state, rest)
    | .element rest =>
      let (state, rest) ← item state rest
      itemLoop item turns false state rest

def memberLoop (member : String → σ → Reader σ) : Nat → Bool → σ → Reader σ
  | 0, _, _, _ => .error .endInObject
  | turns + 1, first, state, text => do
    match ← nextMember first text with
    | .closed rest => .ok (state, rest)
    | .element rest =>
      let (key, rest) ← stringBody [] rest
      let (state, rest) ← member key state rest
      memberLoop member turns false state rest

/-- The elements after an opening bracket. -/
def items (item : σ → Reader σ) (start : σ) : Reader σ := fun text =>
  itemLoop item (text.length + 1) true start text

/-- The members after an opening brace. -/
def members (member : String → σ → Reader σ) (start : σ) : Reader σ := fun text =>
  memberLoop member (text.length + 1) true start text

/-- Reads one more element; the elements read so far are in reverse. -/
def listItem {α : Type} (item : Reader α) (read : List α) : Reader (List α) := fun text => do
  let (value, rest) ← item text
  return (value :: read, rest)

end ResumeTerminal.Json
