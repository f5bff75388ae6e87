import ResumeTerminal.Json.Tree
import ResumeTerminal.OrderedMap

/-! Shapes of JSON values. A shape is data, so that what holds of every shape can be
shown once: records skip members they do not know, take `null` for a missing field, and
may be written as lists of their fields. -/
namespace ResumeTerminal.Json

mutual

inductive Shape : Type → Type 1 where
  | text : Shape String
  | integer : Shape Int
  | float : Shape Float
  | list {α : Type} (item : Shape α) : Shape (List α)
  | map {α : Type} (value : Shape α) : Shape (OrderedMap α)
  /-- Fields by name. A list of them may stop early unless it has to be `complete`. -/
  | record {σ α : Type} (name : String) (complete : Bool) (fields : Fields σ) (make : σ → α) :
      Shape α
  /-- The first option that fits. -/
  | choice {α : Type} (name : String) (options : Options α) : Shape α

/-- The fields of a record, and the slots their values go to. -/
inductive Fields : Type → Type 1 where
  | done : Fields Unit
  | field {α β σ : Type} (name : String) (shape : Shape α) (absent : β) (present : α → β)
      (others : Fields σ) : Fields (β × σ)

inductive Options : Type → Type 1 where
  | done {α : Type} : Options α
  | option {α β : Type} (shape : Shape β) (make : β → α) (others : Options α) : Options α

end

namespace Fields

/-- A field that may be missing. -/
def optional {α σ : Type} (name : String) (shape : Shape α) (others : Fields σ) :
    Fields (Option α × σ) :=
  .field name shape none some others

/-- A field with a value to fall back on. -/
def withDefault {α σ : Type} (name : String) (shape : Shape α) (absent : α)
    (others : Fields σ) : Fields (α × σ) :=
  .field name shape absent id others

def names {σ : Type} : Fields σ → List String
  | .done => []
  | .field name _ _ _ others => name :: others.names

/-- The slots before anything has been read. -/
def absent {σ : Type} : Fields σ → σ
  | .done => ()
  | .field _ _ absent _ others => (absent, others.absent)

end Fields

def Number.toFloat : Number → Float
  | .natural value => Float.ofNat value
  | .negative value => Float.ofInt value
  | .float value => value

/-- Signed integers have 64 bits. -/
def Number.toInt (expected : String) : Number → Except Error Int
  | .natural value =>
    if value < Nat.pow 2 63 then .ok value else .error (.wrongValue (.integer value) expected)
  | .negative value => .ok value
  | .float value => .error (.wrongKind (.float value) expected)

/-- Only the names of fields may not come twice. -/
def isRepeated (names seen : List String) (key : String) : Bool :=
  names.contains key && seen.contains key

end ResumeTerminal.Json
