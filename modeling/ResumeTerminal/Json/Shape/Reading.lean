import ResumeTerminal.Json.Shape.FromTree

/-! Reading a value of a shape straight from the text. Only where several shapes are
possible is the value read as a tree first. -/
namespace ResumeTerminal.Json

def recordLabel (name : String) : String := "struct " ++ name

def listLabel (name : String) (fields : Nat) : String :=
  recordLabel name ++ " with " ++ toString fields ++ " elements"

/-- Why a value that does not begin as expected is refused. It is read far enough to
say what it is, and a fault found on the way comes first. -/
def refuse (expected : String) (text : List Char) : Error :=
  let kind (found : Found) : Error := .wrongKind found expected
  let wordOr (letters rest : List Char) (found : Found) : Error :=
    match passWord letters rest with
    | .ok _ => kind found
    | .error e => e
  match skipSpace text with
  | [] => .endInValue
  | 'n' :: rest => wordOr ['u', 'l', 'l'] rest .null
  | 't' :: rest => wordOr ['r', 'u', 'e'] rest (.boolean true)
  | 'f' :: rest => wordOr ['a', 'l', 's', 'e'] rest (.boolean false)
  | '[' :: _ => kind .sequence
  | '\x7b' :: _ => kind .map
  | '"' :: rest =>
    match stringBody [] rest with
    | .ok (value, _) => kind (.text value)
    | .error e => e
  | c :: rest =>
    if c = '-' ∨ isDigit c then
      match readNumber (c :: rest) with
      | .ok (value, _) => kind value.found
      | .error e => e
    else .expectedValue

/-- Opens one more bracket, if so many are allowed. -/
def descend {α : Type} (depth : Nat) (inner : Nat → Except Error α) : Except Error α :=
  match depth with
  | 0 => .error .nestingTooDeep
  | depth + 1 => inner depth

def numeric {α : Type} (expected : String) (convert : Number → Except Error α) : Reader α :=
  fun text =>
    match skipSpace text with
    | [] => .error .endInValue
    | c :: rest =>
      if c = '-' ∨ isDigit c then do
        let (value, rest) ← readNumber (c :: rest)
        return (← convert value, rest)
      else .error (refuse expected (c :: rest))

/-- Reads the value of a field that may be `null`. -/
def nullable {α β : Type} (value : Reader α) (absent : β) (present : α → β) : Reader β :=
  fun text =>
    match skipSpace text with
    | 'n' :: rest => do return (absent, ← passWord ['u', 'l', 'l'] rest)
    | text => do
      let (read, rest) ← value text
      return (present read, rest)

/-- Reads a member of a record after its key. -/
def recordMember {σ : Type} (names : List String) (field : String → σ → Reader σ) (key : String)
    (state : List String × σ) : Reader (List String × σ) := fun text => do
  let (seen, slots) := state
  if isRepeated names seen key then .error (.duplicateField key)
  else
    let (slots, rest) ← field key slots (← passColon text)
    return ((key :: seen, slots), rest)

/-- Reads a member of a map after its key. -/
def mapMember {α : Type} (value : Reader α) (key : String) (map : OrderedMap α) :
    Reader (OrderedMap α) := fun text => do
  let (value, rest) ← value (← passColon text)
  return (map.insert key value, rest)

mutual

/-- Reads a value of a shape from the text, with `depth` more brackets allowed. -/
def Shape.read {α : Type} (shape : Shape α) (depth : Nat) : Reader α :=
  match shape with
  | .text => fun text =>
    match skipSpace text with
    | '"' :: rest => stringBody [] rest
    | text => .error (refuse "a string" text)
  | .integer => numeric "i64" (Number.toInt "i64")
  | .float => numeric "f64" fun value => .ok value.toFloat
  | .list item => fun text =>
    match skipSpace text with
    | '[' :: rest => descend depth fun depth => do
      let (read, rest) ← items (listItem (item.read depth)) [] rest
      return (read.reverse, rest)
    | text => .error (refuse "a sequence" text)
  | .map value => fun text =>
    match skipSpace text with
    | '\x7b' :: rest => descend depth fun depth =>
      members (mapMember (value.read depth)) OrderedMap.empty rest
    | text => .error (refuse "a map with string keys" text)
  | .record name complete fields make => fun text =>
    match skipSpace text with
    | '\x7b' :: rest => descend depth fun depth => do
      let ((_, slots), rest) ←
        members (recordMember fields.names (fields.readMember depth)) ([], fields.absent) rest
      return (make slots, rest)
    | '[' :: rest => descend depth fun depth => do
      let total := fields.names.length
      let missing (given : Nat) : Option Error :=
        if complete then some (.wrongLength given (listLabel name total)) else none
      let (slots, rest) ← fields.readItems depth missing 0 rest
      return (make slots, rest)
    | text => .error (refuse (recordLabel name) text)
  | .choice name options => fun text => do
    let (tree, rest) ← readTree depth text
    match options.ofTree tree with
    | some value => return (value, rest)
    | none => .error (.noVariant name)

/-- Reads the value after a member's colon into its slot, or skips it if no field has
the member's name. -/
def Fields.readMember {σ : Type} (fields : Fields σ) (depth : Nat) (key : String) (slots : σ) :
    Reader σ :=
  match fields with
  | .done => fun text => do return (slots, ← skipValue text)
  | .field name shape absent present others => fun text =>
    if key = name then do
      let (value, rest) ← nullable (shape.read depth) absent present text
      return ((value, slots.2), rest)
    else do
      let (read, rest) ← others.readMember depth key slots.2 text
      return ((slots.1, read), rest)

/-- Reads the elements of a list into the slots in order. `missing` says whether the
list may end after so many. -/
def Fields.readItems {σ : Type} (fields : Fields σ) (depth : Nat)
    (missing : Nat → Option Error) (given : Nat) : Reader σ :=
  match fields with
  | .done => fun text => do return ((), ← closeList text)
  | .field _ shape absent present others => fun text => do
    match ← nextItem (given == 0) text with
    | .closed rest =>
      match missing given with
      | some e => .error e
      | none => return ((absent, others.absent), rest)
    | .element rest =>
      let (value, rest) ← nullable (shape.read depth) absent present rest
      let (read, rest) ← others.readItems depth missing (given + 1) rest
      return ((value, read), rest)

end

/-- Reads a whole text as one value of a shape. -/
def Shape.ofText {α : Type} (shape : Shape α) (text : String) : Except Error α := do
  let (value, rest) ← shape.read nestingLimit text.toList
  if (skipSpace rest).isEmpty then return value else .error .trailingCharacters

end ResumeTerminal.Json
