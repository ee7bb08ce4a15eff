import SerialLink.Text.Blank
import SerialLink.Text.Utf8

/-!
# SerialLink.Payload.Expected

What a caller waits for, and how a payload is read as text.
-/

namespace SerialLink

open Text

/-- The response a caller waits for.  Unless `strip` is off, blanks around a payload do
not matter. -/
inductive Expected where
  | bytes (pattern : Bytes) (strip : Bool)
  | text (pattern : String) (strip : Bool)
  deriving DecidableEq, Repr

namespace Expected

/-- The same response, compared without stripping anything. -/
def raw : Expected → Expected
  | .bytes pattern _ => .bytes pattern false
  | .text pattern _ => .text pattern false

/-- The payload is the expected response.  A payload that is not well-formed text is
never an expected text. -/
def accepts (e : Expected) (payload : Bytes) : Bool :=
  match e with
  | .bytes pattern strip => (if strip then trimBlankBytes payload else payload) == pattern
  | .text pattern strip =>
    match Utf8.decode? payload with
    | some cs => (if strip then trim cs else cs) == pattern.toList
    | none => false

end Expected

/-- The text up to the first occurrence of a marker; all of it if the marker is empty
or does not occur. -/
def cutAt (marker : List Char) (cs : List Char) : List Char :=
  if marker.isEmpty then cs
  else match firstAt? marker cs with
    | some i => cs.take i
    | none => cs

/-- A payload as text.  What cannot be decoded is replaced, the text is cut at the
marker if one is given, and blanks around what is left are stripped last. -/
def payloadText (payload : Bytes) (readUntil : Option String) (strip : Bool) : List Char :=
  let cs := Utf8.decodeLossy payload
  let cut := match readUntil with
    | some marker => cutAt marker.toList cs
    | none => cs
  if strip then trim cut else cut

end SerialLink
