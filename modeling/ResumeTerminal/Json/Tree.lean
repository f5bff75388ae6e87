import ResumeTerminal.Json.Bracketed

/-! A JSON text as a tree, for values whose form is not known beforehand. Members stay
in their order, and a key may come more than once. -/
namespace ResumeTerminal

inductive Json where
  | null
  | boolean (value : Bool)
  | number (value : Json.Number)
  | text (value : String)
  | array (items : List Json)
  | object (members : List (String × Json))

namespace Json

/-- How many brackets may be open at once. -/
def nestingLimit : Nat := 127

def memberTree (value : Reader Json) (key : String) (read : List (String × Json)) :
    Reader (List (String × Json)) := fun text => do
  let (tree, rest) ← value (← passColon text)
  return ((key, tree) :: read, rest)

/-- Reads any value, with `depth` more brackets allowed to open. -/
def readTree (depth : Nat) : Reader Json := fun text =>
  match skipSpace text with
  | [] => .error .endInValue
  | 'n' :: rest => do return (.null, ← passWord ['u', 'l', 'l'] rest)
  | 't' :: rest => do return (.boolean true, ← passWord ['r', 'u', 'e'] rest)
  | 'f' :: rest => do return (.boolean false, ← passWord ['a', 'l', 's', 'e'] rest)
  | '"' :: rest => do
    let (value, rest) ← stringBody [] rest
    return (.text value, rest)
  | '[' :: rest =>
    match depth with
    | 0 => .error .nestingTooDeep
    | depth + 1 => do
      let (read, rest) ← items (listItem (readTree depth)) [] rest
      return (.array read.reverse, rest)
  | '\x7b' :: rest =>
    match depth with
    | 0 => .error .nestingTooDeep
    | depth + 1 => do
      let (read, rest) ← members (memberTree (readTree depth)) [] rest
      return (.object read.reverse, rest)
  | c :: rest =>
    if c = '-' ∨ isDigit c then do
      let (value, rest) ← readNumber (c :: rest)
      return (.number value, rest)
    else .error .expectedValue

end Json
end ResumeTerminal
