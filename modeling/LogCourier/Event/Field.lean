import LogCourier.Json.Decoder

/-! Values that an attribute can hold, their text for people, and their wire form. -/

namespace LogCourier

/-- The value of an attribute. -/
inductive Field where
  | text (value : String)
  | int (value : Int64)
  | float (value : Float)
  | bool (value : Bool)
  | null
  deriving DecidableEq

namespace Field

instance : Inhabited Field := ⟨null⟩

/-- An optional value, where absence is null. -/
def ofOption (convert : α → Field) : Option α → Field
  | none => null
  | some value => convert value

/-- A value as it stands in a line for people. -/
def display : Field → String
  | text value => value
  | int value => String.ofList (integerDigits value.toInt)
  | float value => String.ofList (NumberLayout.plain.text value)
  | bool true => "true"
  | bool false => "false"
  | null => "null"

/-- A value on the wire. -/
def json : Field → Json
  | text value => .text value
  | int value => .integer value.toInt
  | float value => .number value
  | bool value => .bool value
  | null => .null

/-- Equality as doubles have it: not-a-number differs from itself, and the two zeros agree. -/
def agrees : Field → Field → Bool
  | float left, float right => left == right
  | left, right => left = right

/-- A number as a value: an integer within 64 signed bits, else a double. -/
def ofNumber : Number → Field
  | .integer value =>
    if Int64.minValue.toInt ≤ value ∧ value ≤ Int64.maxValue.toInt then int (Int64.ofInt value)
    else float (UInt64.ofNat value.toNat).toFloat
  | .real value => float value

/-- Reads a value of any of the kinds; a list or an object is read in full before it is refused. -/
def read (depth : Nat) : Outline → Decoded Field
  | .null => .ok null
  | .bool value => .ok (bool value)
  | .numeral value => value.read.map ofNumber
  | .text value => value.read.map text
  | other => do
    other.readWhole depth
    throw (.mismatch (.noVariant "FieldValue"))

end Field

end LogCourier
