import ResumeTerminal.Config.Basic
import ResumeTerminal.Text.Quoted
import ResumeTerminal.Decimal.Double
import ResumeTerminal.Toml.Document

/-! The settings as a document gives them: each key is a field of the configuration and
its value has that field's type. -/
namespace ResumeTerminal.Config

/-- Why a well-formed document is not a configuration. -/
inductive Misfit where
  | unknownField (name : String)
  | wrongKind (found : String) (expected : String)
  | negative (value : Int)
  deriving DecidableEq, Repr

/-- Numbers in messages are written out and keep a point. -/
def messageStyle : Decimal.Style := ⟨.up, true, fun _ => true⟩

def describe : Toml.Value → String
  | .string text => s!"string {Text.quoted text}"
  | .integer value => s!"integer `{value}`"
  | .float value => s!"floating point `{messageStyle.text value}`"
  | .boolean value => s!"boolean `{value}`"
  | .array _ | .tables _ => "sequence"
  | .table .. | .datetime => "map"

def wrongKind {α : Type} (value : Toml.Value) (expected : String) : Except Misfit α :=
  .error (.wrongKind (describe value) expected)

def stringOf (expected : String) : Toml.Value → Except Misfit String
  | .string text => .ok text
  | value => wrongKind value expected

def widthOf : Toml.Value → Except Misfit Nat
  | .integer value => if value < 0 then .error (.negative value) else .ok value.toNat
  | value => wrongKind value "usize"

def booleanOf : Toml.Value → Except Misfit Bool
  | .boolean value => .ok value
  | value => wrongKind value "a boolean"

/-- A field's name, and how a value is put there. -/
structure Field where
  name : String
  set : Toml.Value → Config → Except Misfit Config

def fields : List Field :=
  [⟨"profile_path", fun value config => do
      return { config with profilePath := ← stringOf "path string" value }⟩,
   ⟨"prompt", fun value config => do
      return { config with prompt := some (← stringOf "a string" value) }⟩,
   ⟨"resume_pdf", fun value config => do
      return { config with resumePdf := ← stringOf "a string" value }⟩,
   ⟨"resume_file_name", fun value config => do
      return { config with resumeFileName := ← stringOf "a string" value }⟩,
   ⟨"rule_width", fun value config => do
      return { config with ruleWidth := ← widthOf value }⟩,
   ⟨"label_width", fun value config => do
      return { config with labelWidth := ← widthOf value }⟩,
   ⟨"show_suggestions", fun value config => do
      return { config with showSuggestions := ← booleanOf value }⟩]

def Misfit.message : Misfit → String
  | .unknownField name =>
    let known := fields.map fun field => s!"`{field.name}`"
    s!"unknown field `{name}`, expected one of " ++ ", ".intercalate known
  | .wrongKind found expected => s!"invalid type: {found}, expected {expected}"
  | .negative value => s!"invalid value: integer `{value}`, expected usize"

def setField (config : Config) (name : String) (value : Toml.Value) : Except Misfit Config :=
  match fields.find? (·.name == name) with
  | some field => field.set value config
  | none => .error (.unknownField name)

/-- Takes over the entries in their order; the first misfit ends it. -/
def ofEntries (entries : Toml.Entries) : Except Misfit Config :=
  entries.foldlM (fun config (name, value) => config.setField name value) {}

end ResumeTerminal.Config
