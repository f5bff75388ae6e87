/-! What a TOML text says: values by key, in the order in which the keys were defined.
A table remembers how it came to be, which decides who may still add to it. -/
namespace ResumeTerminal.Toml

inductive Origin where
  /-- The document itself, or a table under a header of its own. -/
  | header
  /-- A table that so far is only named on the way to another header. -/
  | path
  /-- A table opened by a dotted key. -/
  | dotted
  /-- A table between braces, which is complete. -/
  | inline
  deriving DecidableEq, Repr

inductive Value where
  | string (text : String)
  | integer (value : Int)
  | float (value : Float)
  | boolean (value : Bool)
  | datetime
  | array (items : List Value)
  /-- Tables under repeated headers of one name. -/
  | tables (elements : List (List (String × Value)))
  | table (origin : Origin) (entries : List (String × Value))

abbrev Entries := List (String × Value)

def replace (key : String) (value : Value) (entries : Entries) : Entries :=
  entries.map fun entry => if entry.1 = key then (key, value) else entry

/-- Changes the table at a path, opening the tables that are missing on the way. Nothing
leads through a value, or by a dotted key into a table with a header. -/
def Entries.modifyAt (dotted : Bool) (change : Origin → Entries → Option Entries) :
    List String → Origin → Entries → Option Entries
  | [], origin, entries => change origin entries
  | key :: path, _, entries =>
    match entries.lookup key with
    | none => do
      let origin := if dotted then .dotted else .path
      let inner ← modifyAt dotted change path origin []
      return entries ++ [(key, .table origin inner)]
    | some (.table origin inner) =>
      if origin = .inline ∨ (dotted ∧ origin = .header) then none
      else do
        let inner ← modifyAt dotted change path origin inner
        return replace key (.table origin inner) entries
    | some (.tables elements) => do
      let last ← elements.getLast?
      let last ← modifyAt dotted change path .header last
      return replace key (.tables (elements.dropLast ++ [last])) entries
    | some _ => none

/-- A key is defined once, and a dotted one only in a table opened by dotted keys. -/
def define (isDotted : Bool) (key : String) (value : Value) (origin : Origin)
    (entries : Entries) : Option Entries :=
  if isDotted != (origin == .dotted) || (entries.lookup key).isSome then none
  else some (entries ++ [(key, value)])

/-- Defines the key at the end of a dotted path. -/
def Entries.insertAt (path : List String) (value : Value) (origin : Origin)
    (entries : Entries) : Option Entries := do
  let key ← path.getLast?
  let tables := path.dropLast
  entries.modifyAt true (define (!tables.isEmpty) key value) tables origin

/-- A header opens a new table, or one that was only passed through before, which then
takes its place behind the others. -/
def openTable (key : String) (_ : Origin) (entries : Entries) : Option Entries :=
  match entries.lookup key with
  | none => some (entries ++ [(key, .table .header [])])
  | some (.table .path inner) =>
    some (entries.filter (·.1 ≠ key) ++ [(key, .table .header inner)])
  | some _ => none

/-- A doubled header opens one more table of its name. -/
def openElement (key : String) (_ : Origin) (entries : Entries) : Option Entries :=
  match entries.lookup key with
  | none => some (entries ++ [(key, .tables [[]])])
  | some (.tables elements) => some (replace key (.tables (elements ++ [[]])) entries)
  | some _ => none

/-- A document that is being read, and the table that the next key belongs to. -/
structure Draft where
  entries : Entries := []
  current : List String := []

def Draft.header (draft : Draft) (doubled : Bool) (path : List String) : Option Draft := do
  let key ← path.getLast?
  let change := if doubled then openElement key else openTable key
  return ⟨← draft.entries.modifyAt false change path.dropLast .header, path⟩

def Draft.define (draft : Draft) (path : List String) (value : Value) : Option Draft := do
  let entries ← draft.entries.modifyAt false
    (fun origin entries => entries.insertAt path value origin) draft.current .header
  return { draft with entries }

end ResumeTerminal.Toml
