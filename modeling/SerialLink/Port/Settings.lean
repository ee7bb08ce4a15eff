import SerialLink.Duration

/-!
# SerialLink.Port.Settings

The line settings with which a port is opened.
-/

namespace SerialLink

/-- Bits of a character. -/
inductive DataBits where
  | five
  | six
  | seven
  | eight
  deriving DecidableEq, Repr

/-- Parity checking. -/
inductive Parity where
  | none
  | odd
  | even
  deriving DecidableEq, Repr

/-- Stop bits behind a character. -/
inductive StopBits where
  | one
  | two
  deriving DecidableEq, Repr

/-- Flow control. -/
inductive FlowControl where
  | none
  | software
  | hardware
  deriving DecidableEq, Repr

/-- The baud rate used where none is chosen. -/
def defaultBaudRate : Nat := 115200

/-- A common baud rate of slower devices. -/
def normalBaudRate : Nat := 9600

/-- The line settings of a port.  Without a timeout a read may wait forever. -/
structure PortSettings where
  baudRate : Nat
  timeout : Option Duration
  dataBits : DataBits
  parity : Parity
  stopBits : StopBits
  flowControl : FlowControl
  deriving DecidableEq, Repr

/-- The default rate, a second of timeout, eight data bits, no parity, one stop bit and
no flow control. -/
def PortSettings.default : PortSettings where
  baudRate := defaultBaudRate
  timeout := some (.ofSecs 1)
  dataBits := .eight
  parity := .none
  stopBits := .one
  flowControl := .none

instance : Inhabited PortSettings := ⟨.default⟩

/-- The longest timeout that is handed to a driver. -/
def longestDriverTimeout : Duration := .ofSecs 3600

/-- The timeout handed to a driver: an hour stands for none and for anything longer. -/
def driverTimeout (timeout : Option Duration) : Duration :=
  match timeout with
  | some t => min t longestDriverTimeout
  | none => longestDriverTimeout

end SerialLink
