import ResumeTerminal.Json.Shape.FromTree
import ResumeTerminal.Proofs.Json.Tree

/-! What a JSON value means to a shape: its value, if it has one. Members that a record
does not know mean nothing to it, whatever they are. -/
namespace ResumeTerminal.Json

namespace Source

def text? : Source → Option String
  | .text literal => literal.text?
  | _ => none

def number? : Source → Option Number
  | .number numeral => numeral.number?
  | _ => none

/-- The value of a field that may be `null`. -/
def orNull {α β : Type} (absent : β) (present : α → β) (meaning : Source → Option α) :
    Source → Option β
  | .null => some absent
  | source => (meaning source).map present

end Source

/-- Takes in a member of a record, given the keys before it. -/
def recordStep {σ : Type} (names : List String) (set : String → Source → σ → Option σ)
    (key : String) (state : List String × σ) (source : Source) : Option (List String × σ) :=
  if isRepeated names state.1 key then none
  else (set key source state.2).map (key :: state.1, ·)

mutual

/-- The value that a source has in a shape, with `depth` more brackets allowed. -/
def Shape.ofSource {α : Type} (shape : Shape α) (depth : Nat) (source : Source) : Option α :=
  match shape with
  | .text => source.text?
  | .integer => source.number?.bind fun number => (number.toInt "i64").toOption
  | .float => source.number?.map Number.toFloat
  | .list item => match depth, source with
    | depth + 1, .array items _ => items.mapM fun element => item.ofSource depth element.value
    | _, _ => none
  | .map value => match depth, source with
    | depth + 1, .object members _ =>
      (members.mapM (Member.pair? (value.ofSource depth))).map OrderedMap.ofList
    | _, _ => none
  | .record _ complete fields make => match depth, source with
    | depth + 1, .object members _ =>
      (foldMembers (recordStep fields.names (fields.setFromSource depth)) ([], fields.absent)
        members).map fun state => make state.2
    | depth + 1, .array items _ =>
      if complete ∧ items.length < fields.names.length then none
      else (fields.ofSources depth (items.map Item.value)).map make
    | _, _ => none
  | .choice _ options => (source.tree? depth).bind options.ofTree

def Fields.setFromSource {σ : Type} (fields : Fields σ) (depth : Nat) (key : String)
    (source : Source) (slots : σ) : Option σ :=
  match fields with
  | .done => some slots
  | .field name shape absent present others =>
    if key = name then
      (source.orNull absent present (shape.ofSource depth)).map (·, slots.2)
    else (others.setFromSource depth key source slots.2).map (slots.1, ·)

def Fields.ofSources {σ : Type} (fields : Fields σ) (depth : Nat) (sources : List Source) :
    Option σ :=
  match fields with
  | .done => if sources.isEmpty then some () else none
  | .field _ shape absent present others =>
    match sources with
    | [] => some (absent, others.absent)
    | source :: sources =>
      (source.orNull absent present (shape.ofSource depth)).bind fun value =>
        (others.ofSources depth sources).map (value, ·)

end

end ResumeTerminal.Json
