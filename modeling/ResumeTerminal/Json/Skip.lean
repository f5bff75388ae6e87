import ResumeTerminal.Json.Number

/-! Passing over a value that nobody asks for. Open brackets are kept on a stack, so
such a value may be nested to any depth; its strings and numbers need only be well
formed. -/
namespace ResumeTerminal.Json

inductive Bracket where
  | list
  | object
  deriving DecidableEq, Repr

def Bracket.unclosed : Bracket → Error
  | .list => .endInList
  | .object => .endInObject

def Bracket.expectedComma : Bracket → Error
  | .list => .expectedListComma
  | .object => .expectedObjectComma

def Bracket.closing : Bracket → Char
  | .list => ']'
  | .object => '\x7d'

/-- Where a pass stands: before a value, or inside a bracket that may be closed here. A
bracket that has just been opened takes no comma. -/
inductive Place where
  | value (outer : List Bracket)
  | inside (opened : Bool) (bracket : Bracket) (outer : List Bracket)

/-- What follows a value depends on the bracket around it. -/
def Place.after : List Bracket → Option Place
  | [] => none
  | bracket :: outer => some (.inside false bracket outer)

/-- Passes a colon that belongs to the key before it. -/
def passColon (text : List Char) : Except Error (List Char) :=
  match skipSpace text with
  | ':' :: rest => .ok rest
  | [] => .error .endInObject
  | _ => .error .expectedColon

/-- Passes the key that must come first in an element of an object. -/
def passKey (bracket : Bracket) (text : List Char) : Except Error (List Char) :=
  match bracket with
  | .list => .ok text
  | .object =>
    match skipSpace text with
    | '"' :: rest => do passColon (← passString rest)
    | [] => .error .endInObject
    | _ => .error .keyNotString

/-- One step of a pass; no place is left when the value has ended. -/
def Place.step (place : Place) (text : List Char) : Except Error (Option Place × List Char) :=
  match place with
  | .value outer =>
    match skipSpace text with
    | [] => .error .endInValue
    | '[' :: rest => .ok (some (.inside true .list outer), rest)
    | '\x7b' :: rest => .ok (some (.inside true .object outer), rest)
    | 'n' :: rest => do return (after outer, ← passWord ['u', 'l', 'l'] rest)
    | 't' :: rest => do return (after outer, ← passWord ['r', 'u', 'e'] rest)
    | 'f' :: rest => do return (after outer, ← passWord ['a', 'l', 's', 'e'] rest)
    | '"' :: rest => do return (after outer, ← passString rest)
    | '-' :: rest => do return (after outer, ← passNumber rest)
    | c :: rest =>
      if isDigit c then do return (after outer, ← passNumber (c :: rest))
      else .error .expectedValue
  | .inside opened bracket outer =>
    match skipSpace text with
    | [] => .error bracket.unclosed
    | c :: rest =>
      if c = bracket.closing then .ok (after outer, rest)
      else if opened then do
        return (some (.value (bracket :: outer)), ← passKey bracket (c :: rest))
      else if c = ',' then do return (some (.value (bracket :: outer)), ← passKey bracket rest)
      else .error bracket.expectedComma

def Place.run : Nat → Place → List Char → Except Error (List Char)
  | 0, _, _ => .error .endInValue
  | steps + 1, place, text => do
    match ← place.step text with
    | (none, rest) => .ok rest
    | (some next, rest) => next.run steps rest

/-- Every second step at least passes a character, so the steps never run out. -/
def skipValue (text : List Char) : Except Error (List Char) :=
  (Place.value []).run (2 * text.length + 2) text

end ResumeTerminal.Json
