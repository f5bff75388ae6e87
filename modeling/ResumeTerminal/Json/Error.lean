import ResumeTerminal.Decimal.Double
import ResumeTerminal.Text.Quoted

/-! Why a JSON text cannot be read: it ends too early, it is not JSON, or it is JSON
of the wrong shape. -/
namespace ResumeTerminal.Json

/-- A value met where a different one was expected. -/
inductive Found where
  | null
  | boolean (value : Bool)
  | integer (value : Int)
  | float (value : Float)
  | text (value : String)
  | sequence
  | map

inductive Error where
  | endInValue
  | endInString
  | endInList
  | endInObject
  | expectedValue
  | expectedWord
  | expectedColon
  | expectedListComma
  | expectedObjectComma
  | invalidEscape
  | unpairedSurrogate
  | unfinishedSurrogate
  | controlCharacter
  | invalidNumber
  | numberOutOfRange
  | keyNotString
  | trailingComma
  | trailingCharacters
  | nestingTooDeep
  | wrongKind (found : Found) (expected : String)
  | wrongValue (found : Found) (expected : String)
  | wrongLength (length : Nat) (expected : String)
  | duplicateField (name : String)
  | noVariant (type : String)

inductive ErrorKind where
  | incomplete
  | malformed
  | mismatch
  deriving DecidableEq, Repr

def Error.kind : Error → ErrorKind
  | .endInValue | .endInString | .endInList | .endInObject => .incomplete
  | .wrongKind .. | .wrongValue .. | .wrongLength .. | .duplicateField _ | .noVariant _ =>
    .mismatch
  | _ => .malformed

/-- Numbers in messages keep a point, and take an exponent when they are long. -/
def messageStyle : Decimal.Style := ⟨.even, true, fun power => -5 ≤ power && power < 16⟩

def Found.describe : Found → String
  | .null => "null"
  | .boolean value => s!"boolean `{value}`"
  | .integer value => s!"integer `{value}`"
  | .float value => s!"floating point `{messageStyle.text value}`"
  | .text value => s!"string {Text.quoted value}"
  | .sequence => "sequence"
  | .map => "map"

def Error.message : Error → String
  | .endInValue => "EOF while parsing a value"
  | .endInString => "EOF while parsing a string"
  | .endInList => "EOF while parsing a list"
  | .endInObject => "EOF while parsing an object"
  | .expectedValue => "expected value"
  | .expectedWord => "expected ident"
  | .expectedColon => "expected `:`"
  | .expectedListComma => "expected `,` or `]`"
  | .expectedObjectComma => "expected `,` or `\x7d`"
  | .invalidEscape => "invalid escape"
  | .unpairedSurrogate => "lone leading surrogate in hex escape"
  | .unfinishedSurrogate => "unexpected end of hex escape"
  | .controlCharacter => "control character (\\u0000-\\u001F) found while parsing a string"
  | .invalidNumber => "invalid number"
  | .numberOutOfRange => "number out of range"
  | .keyNotString => "key must be a string"
  | .trailingComma => "trailing comma"
  | .trailingCharacters => "trailing characters"
  | .nestingTooDeep => "recursion limit exceeded"
  | .wrongKind found expected => s!"invalid type: {found.describe}, expected {expected}"
  | .wrongValue found expected => s!"invalid value: {found.describe}, expected {expected}"
  | .wrongLength length expected => s!"invalid length {length}, expected {expected}"
  | .duplicateField name => s!"duplicate field `{name}`"
  | .noVariant type => s!"data did not match any variant of untagged enum {type}"

end ResumeTerminal.Json
