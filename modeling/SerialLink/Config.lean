import SerialLink.Framing
import SerialLink.Port.Settings
import SerialLink.Text.Blank

/-!
# SerialLink.Config

The configuration of a connection, its defaults, and what makes it unusable.
-/

namespace SerialLink

/-- The configuration of a connection.  Spans of time are in milliseconds. -/
structure ConnectionConfig where
  /-- The candidate ports, in the order in which they are tried. -/
  ports : List String
  baudRate : Nat
  /-- How long a caller waits for a response; without it, forever. -/
  timeoutMs : Option Nat
  /-- The least time between two accepted sends; zero is no limit. -/
  sendIntervalMs : Nat
  /-- How many received frames are kept. -/
  queueSize : Nat
  /-- Whether the loop rests between two cycles. -/
  restCpu : Bool
  /-- How long the loop rests if it does. -/
  cycleRestMs : Nat
  /-- How long an opened device is left alone at first. -/
  settleMs : Nat
  /-- The time between two attempts to reconnect. -/
  retryIntervalMs : Nat
  /-- How long a cycle may go on writing. -/
  drainBudgetMs : Nat
  framing : FramingConfig
  dataBits : DataBits
  parity : Parity
  stopBits : StopBits
  flowControl : FlowControl
  deriving DecidableEq, Repr

/-! ## defaults -/

/-- The default time for a response, in milliseconds. -/
def defaultTimeoutMs : Nat := 1000

/-- The default time between two accepted sends, in milliseconds. -/
def defaultSendIntervalMs : Nat := 1000

/-- The default time for a device to settle, in milliseconds. -/
def defaultSettleMs : Nat := 2000

/-- The default time between two attempts to reconnect, in milliseconds. -/
def defaultRetryIntervalMs : Nat := 1000

/-- The default rest between two cycles, in milliseconds. -/
def defaultCycleRestMs : Nat := 10

/-- The default time that a cycle may go on writing, in milliseconds. -/
def defaultDrainBudgetMs : Nat := 500

/-- The usual sizes of a history, from one that keeps only the newest frame. -/
def historySizes : List Nat := [1, 32, 128, 256, 512, 1024]

/-- The default size of a history. -/
def defaultHistorySize : Nat := 256

namespace ConnectionConfig

/-- The default configuration, which lacks the ports. -/
def default : ConnectionConfig where
  ports := []
  baudRate := defaultBaudRate
  timeoutMs := some defaultTimeoutMs
  sendIntervalMs := defaultSendIntervalMs
  queueSize := defaultHistorySize
  restCpu := true
  cycleRestMs := defaultCycleRestMs
  settleMs := defaultSettleMs
  retryIntervalMs := defaultRetryIntervalMs
  drainBudgetMs := defaultDrainBudgetMs
  framing := .raw
  dataBits := .eight
  parity := .none
  stopBits := .one
  flowControl := .none

instance : Inhabited ConnectionConfig := ⟨default⟩

/-- The default configuration over the given candidates. -/
def ofPorts (ports : List String) : ConnectionConfig := { default with ports := ports }

/-! ## settings in use -/

/-- How long a caller waits for a response. -/
def timeout (c : ConnectionConfig) : Option Duration := c.timeoutMs.map .ofMillis

/-- The least time between two accepted sends. -/
def sendInterval (c : ConnectionConfig) : Duration := .ofMillis c.sendIntervalMs

/-- How long the loop rests between two cycles. -/
def cycleRest (c : ConnectionConfig) : Duration :=
  if c.restCpu then .ofMillis c.cycleRestMs else .zero

/-- How long a cycle may go on writing. -/
def drainBudget (c : ConnectionConfig) : Duration := .ofMillis c.drainBudgetMs

/-- The line settings with which a port is opened. -/
def portSettings (c : ConnectionConfig) : PortSettings where
  baudRate := c.baudRate
  timeout := c.timeout
  dataBits := c.dataBits
  parity := c.parity
  stopBits := c.stopBits
  flowControl := c.flowControl

end ConnectionConfig

/-! ## validation -/

/-- Settings that can never work. -/
inductive ConfigFault where
  | noPorts
  | emptyPortName
  | zeroBaudRate
  | zeroQueueSize
  | emptyDelimiter
  deriving DecidableEq, Repr

/-- The text of a fault. -/
def ConfigFault.message : ConfigFault → String
  | .noPorts => "at least one port is required"
  | .emptyPortName => "port names must not be empty"
  | .zeroBaudRate => "baud rate must be positive"
  | .zeroQueueSize => "queue size must be at least 1"
  | .emptyDelimiter => "framing delimiter must not be empty"

/-- Why there is no usable configuration. -/
inductive ConfigError where
  /-- The file cannot be read or written. -/
  | unreadable
  /-- The text does not describe a configuration. -/
  | malformed
  /-- The configuration can never work. -/
  | invalid (fault : ConfigFault)
  deriving DecidableEq, Repr

/-- The text of a configuration error. -/
def ConfigError.message : ConfigError → String
  | .unreadable => "Failed to read config"
  | .malformed => "Failed to parse config"
  | .invalid fault => "Invalid config: " ++ fault.message

/-- Frames are to be ended by a delimiter without any byte. -/
def FramingConfig.lacksDelimiter : FramingConfig → Bool
  | .delimiter [] _ _ => true
  | _ => false

/-- The first fault of a configuration, in the order of its fields. -/
def ConnectionConfig.fault? (c : ConnectionConfig) : Option ConfigFault :=
  if c.ports.isEmpty then some .noPorts
  else if c.ports.any fun name => (Text.trim name.toList).isEmpty then some .emptyPortName
  else if c.baudRate = 0 then some .zeroBaudRate
  else if c.queueSize = 0 then some .zeroQueueSize
  else if c.framing.lacksDelimiter then some .emptyDelimiter
  else none

/-- Rejects a configuration that can never work. -/
def ConnectionConfig.validate (c : ConnectionConfig) : Except ConfigError Unit :=
  match c.fault? with
  | some fault => .error (.invalid fault)
  | none => .ok ()

/-- A configuration that is not rejected has no fault. -/
theorem ConnectionConfig.fault?_of_validate {c : ConnectionConfig} (h : c.validate = .ok ()) :
    c.fault? = none := by
  unfold validate at h
  split at h
  · cases h
  · assumption

/-- It names a delimiter, if it frames by one. -/
theorem ConnectionConfig.lacksDelimiter_of_validate {c : ConnectionConfig}
    (h : c.validate = .ok ()) : c.framing.lacksDelimiter = false := by
  have hnone := fault?_of_validate h
  unfold fault? at hnone
  iterate 4
    split at hnone
    · cases hnone
  split at hnone
  · cases hnone
  next hd => exact Bool.eq_false_iff.mpr hd

end SerialLink
