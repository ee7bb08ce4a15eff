/-!
# SerialLink.IoError

Failures of a device.  A failure is transient if it only means that nothing moved
this time; after any other the device is given up.
-/

namespace SerialLink

/-- Kinds of device failures. -/
inductive IoKind where
  | wouldBlock
  | timedOut
  | interrupted
  | brokenPipe
  | notConnected
  | writeZero
  | unexpectedEof
  | permissionDenied
  | other
  deriving DecidableEq, Repr

/-- The failure only means that nothing moved this time. -/
def IoKind.isTransient : IoKind → Bool
  | .wouldBlock | .timedOut | .interrupted => true
  | _ => false

/-- A failure of a device. -/
structure IoError where
  kind : IoKind
  message : String
  deriving DecidableEq, Repr

/-- The failure only means that nothing moved this time. -/
def IoError.isTransient (e : IoError) : Bool := e.kind.isTransient

end SerialLink
