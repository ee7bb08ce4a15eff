import SerialLink.Json.Parser
import SerialLink.Json.Printer
import SerialLink.Text.Blank
import SerialLink.Text.Utf8

/-!
# SerialLink.Payload.Value

The values a caller may send, and the bytes they become.

1. Each value is turned into bytes on its own (`SendValue.normalize`): bytes and
   texts lose the blanks around them, structured values become JSON on one line,
   numbers and truth values become text.
2. The bytes of the values of one send are joined and an ending is added
   (`encode`).
-/

namespace SerialLink

open Text Decimal

/-- A value to send. -/
inductive SendValue where
  | bytes (bs : Bytes)
  | text (s : String)
  | json (v : Json)
  | int (n : Int)
  | uint (n : Nat)
  | float (x : Float)
  | bool (b : Bool)

/-- Why there is no structured value to send. -/
inductive StructureError where
  /-- The text is no JSON. -/
  | notJson
  /-- The name of a member is no string. -/
  | nameNotString
  deriving DecidableEq, Repr

/-- The text of a structure error. -/
def StructureError.message : StructureError → String
  | .notJson => "invalid JSON"
  | .nameNotString => "key must be a string"

namespace SendValue

/-- Floats are written positionally with the fewest digits that read back; below
`1e16` a whole number has the fraction `.0`. -/
def floatLayout : Layout where
  positionalFrom := none
  positionalBelow := none
  fractionBelow := 16
  signedExponent := false
  nan := "nan"
  infinity := "inf"
  tie := .up

/-- The bytes of a value. -/
def normalize : SendValue → Bytes
  | .bytes bs => trimBlankBytes bs
  | .text s => Utf8.encode (trim s.toList)
  | .json v => Utf8.encode v.compact
  | .int n => Utf8.encode (intText n)
  | .uint n => Utf8.encode (digitText n)
  | .float x => Utf8.encode (floatLayout.chars x)
  | .bool true => Utf8.bytes "true"
  | .bool false => Utf8.bytes "false"

/-- The structured value that a JSON text describes. -/
def ofJsonText (s : String) : Except StructureError SendValue :=
  match Json.parse? s.toList with
  | some v => .ok (.json v)
  | none => .error .notJson

end SendValue

/-- What is put around the values of one send. -/
structure SendOptions where
  /-- Stands once behind the last value. -/
  ending : String
  /-- Stands between two values. -/
  joiner : String
  deriving DecidableEq, Repr

/-- Lines of values with a space between them. -/
def SendOptions.default : SendOptions := ⟨"\r\n", " "⟩

instance : Inhabited SendOptions := ⟨.default⟩

/-- The values as one byte string, with the joiner between them. -/
def joined (joiner : Bytes) (values : List SendValue) : Bytes :=
  joiner.intercalate (values.map SendValue.normalize)

/-- The payload of one send. -/
def encode (values : List SendValue) (options : SendOptions) : Bytes :=
  joined (Utf8.bytes options.joiner) values ++ Utf8.bytes options.ending

end SerialLink
