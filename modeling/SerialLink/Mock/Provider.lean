import SerialLink.Mock.Device
import SerialLink.Port.Info
import SerialLink.Port.Settings

/-!
# SerialLink.Mock.Provider

The simulated devices of a system by the names of their ports.  Opening a port gives
a handle on it; the port must exist, be plugged in and not be open.  Every attempt to
open a port is recorded, whether it succeeds or not.
-/

namespace SerialLink.Mock

open SerialLink

/-- Why a port cannot be opened. -/
inductive OpenFault where
  | noSuchDevice
  | unplugged
  | busy
  deriving DecidableEq, Repr

/-- The text of a fault. -/
def OpenFault.message : OpenFault → String
  | .noSuchDevice => "no such device"
  | .unplugged => "device unplugged"
  | .busy => "device busy"

/-- A port that could not be opened. -/
structure OpenError where
  port : String
  fault : OpenFault
  deriving DecidableEq, Repr

/-- The text of an error. -/
def OpenError.message (e : OpenError) : String :=
  "Failed to open " ++ e.port ++ ": " ++ e.fault.message

/-- The devices by the names of their ports, and the ports that were to be opened, the
latest first. -/
structure Provider where
  devices : List (String × Device)
  attempts : List String
  deriving DecidableEq, Repr

namespace Provider

/-- No devices. -/
def empty : Provider := ⟨[], []⟩

instance : Inhabited Provider := ⟨empty⟩

/-- The device at a port. -/
def device? (p : Provider) (port : String) : Option Device := p.devices.lookup port

/-- The provider with the device at a port changed. -/
def modify (p : Provider) (port : String) (f : Device → Device) : Provider :=
  { p with
    devices := p.devices.map fun (name, d) => if name = port then (name, f d) else (name, d) }

/-- The provider with a device at a port; one that is there stays. -/
def add (p : Provider) (port : String) : Provider :=
  match p.device? port with
  | some _ => p
  | none => { p with devices := p.devices ++ [(port, .fresh)] }

/-- The provider with devices at several ports. -/
def ofPorts (ports : List String) : Provider := ports.foldl add empty

/-- The ports that were to be opened, in order. -/
def openAttempts (p : Provider) : List String := p.attempts.reverse

/-- Why the port cannot be opened now. -/
def openFault? (p : Provider) (port : String) : Option OpenFault :=
  match p.device? port with
  | none => some .noSuchDevice
  | some d =>
    if d.unplugged then some .unplugged
    else if d.isOpen then some .busy
    else none

/-- A device just opened: what it sent before is gone. -/
def opened (settings : PortSettings) (d : Device) : Device :=
  { d with
    isOpen := true, opens := d.opens + 1, timeout := settings.timeout, sent := [],
    writesLeft := d.writeLimit }

/-- Opens a port. -/
def openPort (p : Provider) (port : String) (settings : PortSettings) :
    Except OpenError Handle × Provider :=
  let tried := { p with attempts := port :: p.attempts }
  match p.openFault? port with
  | some fault => (.error ⟨port, fault⟩, tried)
  | none => (.ok ⟨port, settings.baudRate, false⟩, tried.modify port (opened settings))

/-- The ports that are plugged in, by name. -/
def availablePorts (p : Provider) : List PortInfo :=
  let present := (p.devices.filter fun (_, d) => !d.unplugged).map (·.1)
  (present.mergeSort fun a b => a ≤ b).map fun name =>
    { PortInfo.named name with description := "Mock serial port" }

/-! ## handles -/

/-- Does something to the device of a handle that may fail. -/
def through {α : Type} (p : Provider) (h : Handle) (f : Device → Except IoError α × Device) :
    Except IoError α × Provider :=
  match p.device? h.port with
  | some d => ((f d).1, p.modify h.port fun _ => (f d).2)
  | none => (.error deviceGone, p)

/-- Offers a payload through a handle. -/
def write (p : Provider) (h : Handle) (payload : Bytes) : Except IoError Unit × Provider :=
  p.through h fun d => h.write d payload

/-- Reads through a handle. -/
def read (p : Provider) (h : Handle) : Except IoError Bytes × Provider :=
  p.through h h.read

/-- Sets the read timeout through a handle. -/
def setTimeout (p : Provider) (h : Handle) (timeout : Option Duration) :
    Except IoError Unit × Provider :=
  p.through h fun d => h.setTimeout d timeout

/-- Closes a handle; the device is released if it was not closed before. -/
def close (p : Provider) (h : Handle) : Handle × Provider :=
  if h.closed then (h, p)
  else ({ h with closed := true }, p.modify h.port fun d => { d with isOpen := false })

/-- The read timeout of the device of a handle. -/
def timeout (p : Provider) (h : Handle) : Option Duration :=
  (p.device? h.port).bind Device.timeout

end Provider

end SerialLink.Mock
