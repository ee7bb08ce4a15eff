import SerialLink.Bytes

/-!
# SerialLink.Framing

How inbound bytes are split into frames.

1. Raw framing makes a frame of whatever a read delivered.
2. Delimiter framing ends a frame at the first delimiter.  Bytes behind the last
   delimiter are carried over until more arrive.
3. A frame may have a maximal length, which does not count the delimiter.  When so
   many bytes and a delimiter's length more are there without a delimiter that ends
   such a frame, a frame of the maximal length is split off.

A delimiter without any byte cannot split anything; it frames like raw framing.
-/

namespace SerialLink

/-- How inbound bytes are split into frames.  A maximal length of zero is none; `keep`
says whether a frame keeps its delimiter. -/
inductive FramingConfig where
  | raw
  | delimiter (bytes : Bytes) (maxLength : Nat) (keep : Bool)
  deriving DecidableEq, Repr

instance : Inhabited FramingConfig := ⟨.raw⟩

/-- Lines of up to 4096 bytes, without the line feed that ends them. -/
def FramingConfig.lines : FramingConfig := .delimiter [0x0a] 4096 false

/-- How many bytes a frame and its delimiter may take, if there is a maximal length. -/
def FramingConfig.window : FramingConfig → Nat
  | .raw => 0
  | .delimiter d maxLength _ => if maxLength = 0 then 0 else maxLength + d.length

/-- The window can be counted in a machine word. -/
def FramingConfig.windowFits (c : FramingConfig) : Bool := c.window < UInt64.size

/-- Splits the first frame off bytes that are to be framed by the delimiter `d`.  The
delimiter must lie within the window, if there is a maximal length. -/
def splitDelimited (d : Bytes) (maxLength : Nat) (keep : Bool) (bytes : Bytes) :
    Option (Bytes × Bytes) :=
  let window := if maxLength = 0 then bytes else bytes.take (maxLength + d.length)
  match firstAt? d window with
  | some i =>
    let stop := i + d.length
    some (bytes.take (if keep then stop else i), bytes.drop stop)
  | none =>
    if 0 < maxLength ∧ maxLength + d.length ≤ bytes.length then
      some (bytes.take maxLength, bytes.drop maxLength)
    else none

/-- Splits the first frame off bytes, if they hold a complete one. -/
def FramingConfig.split (c : FramingConfig) (bytes : Bytes) : Option (Bytes × Bytes) :=
  if bytes.isEmpty then none
  else match c with
    | .delimiter (b :: d) maxLength keep => splitDelimited (b :: d) maxLength keep bytes
    | _ => some (bytes, [])

/-- Splits off frames until no complete one is left, at most `fuel` times. -/
def FramingConfig.splitAll (c : FramingConfig) : (fuel : Nat) → Bytes → List Bytes × Bytes
  | 0, bytes => ([], bytes)
  | fuel + 1, bytes =>
    match c.split bytes with
    | none => ([], bytes)
    | some (frame, rest) =>
      let (frames, rest) := c.splitAll fuel rest
      (frame :: frames, rest)

/-- A framing with the bytes it carries over. -/
structure Framer where
  config : FramingConfig
  buffer : Bytes
  deriving DecidableEq, Repr

namespace Framer

/-- A framer that carries nothing over. -/
def create (c : FramingConfig) : Framer := ⟨c, []⟩

/-- Adds bytes and splits off every complete frame.  Each frame takes at least one byte
with it, so there are at most as many as there are bytes. -/
def feed (f : Framer) (data : Bytes) : List Bytes × Framer :=
  let bytes := f.buffer ++ data
  let (frames, rest) := f.config.splitAll bytes.length bytes
  (frames, { f with buffer := rest })

/-- How many bytes are carried over. -/
def pending (f : Framer) : Nat := f.buffer.length

/-- The framer without the bytes it carried over. -/
def reset (f : Framer) : Framer := { f with buffer := [] }

end Framer

end SerialLink
