import SerialLink.Mock.Provider

/-!
# SerialLink.Mock.Bench

A bench of simulated devices, and the things that happen on it.

1. The devices and whoever has them at hand do something (`DeviceAction`); somebody may
   also hold a port open, which nobody else can open meanwhile.
2. Something is done through a handle that is held under a name (`LineAction`).
-/

namespace SerialLink.Mock

open SerialLink

/-- Devices, and the handles that are held under a name. -/
structure Bench where
  provider : Provider
  held : List (String × Handle)
  deriving DecidableEq, Repr

/-- What the devices do and whoever has them at hand, or looks at them. -/
inductive DeviceAction where
  | add (port : String)
  | inject (port : String) (data : Bytes)
  | reply (port : String) (request response : Bytes)
  | echo (port : String) (on : Bool)
  | limit (port : String) (writes : Option Nat)
  | unplug (port : String)
  | replug (port : String)
  | written (port : String)
  | status (port : String)
  | attempts
  | list
  /-- Somebody opens the port and holds the handle under the name of the port. -/
  | hold (port : String)
  /-- Whoever holds the port lets go of it. -/
  | release (port : String)
  deriving DecidableEq, Repr

/-- What is seen of a device. -/
structure DeviceStatus where
  name : String
  isOpen : Bool
  opens : Nat
  timeout : Option Duration
  written : List Bytes
  deriving DecidableEq, Repr

/-- The answer to a device action. -/
inductive DeviceAnswer where
  | done
  | noPort
  | added (port : String)
  | payloads (written : List Bytes)
  | status (s : DeviceStatus)
  | names (ports : List String)
  | ports (present : List PortInfo)
  | openFailed (e : OpenError)
  | released (held : Bool)
  deriving DecidableEq, Repr

/-- What is done through a handle held under a name. -/
inductive LineAction where
  | openPort (port : String) (settings : PortSettings)
  | write (data : Bytes)
  | read
  | close
  | setTimeout (timeout : Option Duration)
  | info
  | release
  deriving DecidableEq, Repr

/-- The answer to a line action. -/
inductive LineAnswer where
  | done
  | noHandle
  | data (bytes : Bytes)
  | info (port : String) (baudRate : Nat) (timeout : Option Duration)
  | released (held : Bool)
  | openFailed (e : OpenError)
  | failed (e : IoError)
  deriving DecidableEq, Repr

namespace Bench

/-- A bench with devices at the given ports, and no handle held. -/
def ofPorts (ports : List String) : Bench := ⟨.ofPorts ports, []⟩

/-- The devices of the bench changed. -/
def withProvider (b : Bench) (p : Provider) : Bench := { b with provider := p }

/-! ## handles -/

/-- The handle held under a name. -/
def handle? (b : Bench) (name : String) : Option Handle := b.held.lookup name

/-- The bench with the handle of a name forgotten. -/
def forget (b : Bench) (name : String) : Bench :=
  { b with held := b.held.filter (·.1 != name) }

/-- The bench with a handle held under a name. -/
def hold (b : Bench) (name : String) (h : Handle) : Bench :=
  { b.forget name with held := (name, h) :: (b.forget name).held }

/-- Lets go of the handle held under a name, which closes it. -/
def release (b : Bench) (name : String) : Bool × Bench :=
  match b.handle? name with
  | some h => (true, (b.forget name).withProvider (b.provider.close h).2)
  | none => (false, b)

/-- Lets go of all handles that are held. -/
def releaseAll (b : Bench) : Bench :=
  b.held.foldl (fun b (name, _) => (b.release name).2) b

/-- Opens a port and holds the handle under a name; one that was held there is let go of
when the new one is open. -/
def openAs (b : Bench) (name port : String) (settings : PortSettings) :
    Except OpenError Unit × Bench :=
  match b.provider.openPort port settings with
  | (.error e, p) => (.error e, b.withProvider p)
  | (.ok h, p) => (.ok (), ((b.withProvider p).release name).2.hold name h)

/-! ## devices -/

/-- What is seen of the device at a port. -/
def status? (b : Bench) (port : String) : Option DeviceStatus :=
  (b.provider.device? port).map fun d => ⟨port, d.isOpen, d.opens, d.timeout, d.written⟩

/-- Changes the device at a port, if there is one. -/
def change (b : Bench) (port : String) (f : Device → Device) : DeviceAnswer × Bench :=
  match b.provider.device? port with
  | some _ => (.done, b.withProvider (b.provider.modify port f))
  | none => (.noPort, b)

/-- Something happens on the side of the devices. -/
def act (b : Bench) : DeviceAction → DeviceAnswer × Bench
  | .add port => (.added port, b.withProvider (b.provider.add port))
  | .inject port data => b.change port (·.inject data)
  | .reply port request response => b.change port (·.addReply request response)
  | .echo port on => b.change port fun d => { d with echo := on }
  | .limit port writes => b.change port (·.limitWrites writes)
  | .unplug port => b.change port fun d => { d with unplugged := true }
  | .replug port => b.change port fun d => { d with unplugged := false }
  | .written port => ((b.provider.device? port).elim .noPort fun d => .payloads d.written, b)
  | .status port => ((b.status? port).elim .noPort .status, b)
  | .attempts => (.names b.provider.openAttempts, b)
  | .list => (.ports b.provider.availablePorts, b)
  | .hold port =>
    let (result, b) := b.openAs port port .default
    (match result with
      | .ok () => .done
      | .error e => .openFailed e, b)
  | .release port => let (held, b) := b.release port; (.released held, b)

/-! ## use -/

/-- Does something with the handle held under a name, if there is one. -/
def through (b : Bench) (name : String) (f : Handle → LineAnswer × Bench) : LineAnswer × Bench :=
  match b.handle? name with
  | some h => f h
  | none => (.noHandle, b)

/-- The answer of something that was done and that may fail. -/
def doneOr : Except IoError Unit → LineAnswer
  | .ok () => .done
  | .error e => .failed e

/-- Something is done through the handle held under a name. -/
def use (b : Bench) (name : String) : LineAction → LineAnswer × Bench
  | .openPort port settings =>
    let (result, b) := b.openAs name port settings
    (match result with
      | .ok () => .done
      | .error e => .openFailed e, b)
  | .write data => b.through name fun h =>
    let (result, p) := b.provider.write h data
    (doneOr result, b.withProvider p)
  | .read => b.through name fun h =>
    let (result, p) := b.provider.read h
    (match result with
      | .ok bytes => .data bytes
      | .error e => .failed e, b.withProvider p)
  | .setTimeout timeout => b.through name fun h =>
    let (result, p) := b.provider.setTimeout h timeout
    (doneOr result, b.withProvider p)
  | .close => b.through name fun h =>
    let (h, p) := b.provider.close h
    (.done, (b.withProvider p).hold name h)
  | .info => b.through name fun h =>
    (.info h.port h.baudRate (b.provider.timeout h), b)
  | .release => let (held, b) := b.release name; (.released held, b)

end Bench

end SerialLink.Mock
