import ResumeTerminal.Json.Shape

/-! The value of a shape that a tree stands for, if it stands for one. -/
namespace ResumeTerminal.Json

/-- Goes through the members of a record, given the keys before them. -/
def slotsFromMembers {σ : Type} (names : List String) (set : String → Json → σ → Option σ) :
    List String → σ → List (String × Json) → Option σ
  | _, slots, [] => some slots
  | seen, slots, (key, tree) :: members =>
    if isRepeated names seen key then none
    else do slotsFromMembers names set (key :: seen) (← set key tree slots) members

mutual

/-- The value of a shape that a tree stands for. -/
def Shape.ofTree {α : Type} (shape : Shape α) (tree : Json) : Option α :=
  match shape with
  | .text => match tree with
    | .text value => some value
    | _ => none
  | .integer => match tree with
    | .number value => (value.toInt "i64").toOption
    | _ => none
  | .float => match tree with
    | .number value => some value.toFloat
    | _ => none
  | .list item => match tree with
    | .array trees => trees.mapM item.ofTree
    | _ => none
  | .map value => match tree with
    | .object members => do
      let read ← members.mapM fun (key, tree) => (value.ofTree tree).map (key, ·)
      return OrderedMap.ofList read
    | _ => none
  | .record _ complete fields make => match tree with
    | .object members =>
      (slotsFromMembers fields.names fields.setFromTree [] fields.absent members).map make
    | .array trees =>
      if complete ∧ trees.length < fields.names.length then none
      else (fields.ofTrees trees).map make
    | _ => none
  | .choice _ options => options.ofTree tree

def Fields.setFromTree {σ : Type} (fields : Fields σ) (key : String) (tree : Json) (slots : σ) :
    Option σ :=
  match fields with
  | .done => some slots
  | .field name shape absent present others =>
    if key = name then
      match tree with
      | .null => some (absent, slots.2)
      | tree => (shape.ofTree tree).map fun value => (present value, slots.2)
    else (others.setFromTree key tree slots.2).map (slots.1, ·)

def Fields.ofTrees {σ : Type} (fields : Fields σ) (trees : List Json) : Option σ :=
  match fields with
  | .done => if trees.isEmpty then some () else none
  | .field _ shape absent present others =>
    match trees with
    | [] => some (absent, others.absent)
    | .null :: trees => (others.ofTrees trees).map (absent, ·)
    | tree :: trees => do
      let value ← shape.ofTree tree
      return (present value, ← others.ofTrees trees)

def Options.ofTree {α : Type} (options : Options α) (tree : Json) : Option α :=
  match options with
  | .done => none
  | .option shape make others =>
    match shape.ofTree tree with
    | some value => some (make value)
    | none => others.ofTree tree

end

end ResumeTerminal.Json
