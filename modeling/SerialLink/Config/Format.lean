import SerialLink.Config
import SerialLink.Json.Parser
import SerialLink.Json.Printer
import SerialLink.Text.Utf8

/-!
# SerialLink.Config.Format

Configurations as JSON.

1. A configuration is written as an object with all its fields in order, indented.
2. It is read from an object with its fields in any order.  A missing field has its
   default, a field that no configuration has is passed over, and a field that
   stands there twice is refused.
3. It is also read from an array of its fields in order; those missing at the end
   have their defaults.
4. A choice is written as its name; it is also read from an object whose only
   member has that name and no value.
5. A framing is an object whose member `type` names it, with the fields that this
   framing needs, all of them; or an array of the same in order.
-/

namespace SerialLink

open Json

/-! ## writing -/

/-- The name of a choice. -/
def DataBits.name : DataBits → String
  | .five => "five"
  | .six => "six"
  | .seven => "seven"
  | .eight => "eight"

/-- The name of a choice. -/
def Parity.name : Parity → String
  | .none => "none"
  | .odd => "odd"
  | .even => "even"

/-- The name of a choice. -/
def StopBits.name : StopBits → String
  | .one => "one"
  | .two => "two"

/-- The name of a choice. -/
def FlowControl.name : FlowControl → String
  | .none => "none"
  | .software => "software"
  | .hardware => "hardware"

/-- A number that may be missing. -/
def Json.ofNat? : Option Nat → Json
  | some n => .int n
  | none => .null

/-- A byte string as an array of numbers. -/
def Json.ofBytes (bs : Bytes) : Json := .arr (bs.map fun b => .int b.toNat)

/-- A span of time as whole seconds and further nanoseconds. -/
def Duration.toJson (d : Duration) : Json :=
  .obj [("secs", .int d.secs), ("nanos", .int d.subsecNanos)]

/-- A framing as JSON. -/
def FramingConfig.toJson : FramingConfig → Json
  | .raw => .obj [("type", .str "raw")]
  | .delimiter d maxLength keep =>
    .obj [("type", .str "delimiter"), ("delimiter", .ofBytes d), ("max_length", .int maxLength),
      ("include_delimiter", .bool keep)]

/-- Line settings as JSON. -/
def PortSettings.toJson (s : PortSettings) : Json :=
  .obj [("baud_rate", .int s.baudRate),
    ("timeout", match s.timeout with
      | some t => t.toJson
      | none => .null),
    ("data_bits", .str s.dataBits.name), ("parity", .str s.parity.name),
    ("stop_bits", .str s.stopBits.name), ("flow_control", .str s.flowControl.name)]

/-- A configuration as JSON. -/
def ConnectionConfig.toJson (c : ConnectionConfig) : Json :=
  .obj [("ports", .arr (c.ports.map .str)), ("baud_rate", .int c.baudRate),
    ("timeout_ms", .ofNat? c.timeoutMs), ("send_interval_ms", .int c.sendIntervalMs),
    ("queue_size", .int c.queueSize), ("rest_cpu", .bool c.restCpu),
    ("cycle_rest_ms", .int c.cycleRestMs), ("settle_ms", .int c.settleMs),
    ("retry_interval_ms", .int c.retryIntervalMs), ("drain_budget_ms", .int c.drainBudgetMs),
    ("framing", c.framing.toJson), ("data_bits", .str c.dataBits.name),
    ("parity", .str c.parity.name), ("stop_bits", .str c.stopBits.name),
    ("flow_control", .str c.flowControl.name)]

/-- The text of a configuration file. -/
def ConnectionConfig.fileText (c : ConnectionConfig) : List Char := c.toJson.pretty

/-- The bytes of a configuration file, if there is a place to write it. -/
def ConnectionConfig.save (c : ConnectionConfig) (writable : Bool) : Except ConfigError Bytes :=
  if writable then .ok (Text.Utf8.encode c.fileText) else .error .unreadable

/-! ## reading values -/

namespace Config

/-- A text. -/
def string? : Tree → Option String
  | .string ps => (text? ps).map String.ofList
  | _ => none

/-- A list of texts. -/
def strings? : Tree → Option (List String)
  | .array ts => ts.mapM string?
  | _ => none

/-- An integer from zero to `most`. -/
def nat? (most : Nat) : Tree → Option Nat
  | .number n => n.natural?.filter (· ≤ most)
  | _ => none

/-- A truth value. -/
def bool? : Tree → Option Bool
  | .bool b => some b
  | _ => none

/-- The largest integer of 32 bits. -/
def maxWord32 : Nat := UInt32.size - 1

/-- The largest integer of 64 bits. -/
def maxWord64 : Nat := UInt64.size - 1

/-- An integer from zero to `most`, or nothing. -/
def optionalNat? (most : Nat) : Tree → Option (Option Nat)
  | .null => some none
  | t => (nat? most t).map some

/-- The choice of a given name. -/
def named? {α : Type} (choices : List (String × α)) (name : Option String) : Option α :=
  name.bind fun n => choices.lookup n

/-- A choice, by its name. -/
def choice? {α : Type} (choices : List (String × α)) : Tree → Option α
  | .object [(ps, .null)] => named? choices ((text? ps).map String.ofList)
  | t => named? choices (string? t)

/-! ## reading framings -/

/-- How deep the values within a framing may nest: they lie two levels down. -/
def framingDepth : Nat := maxDepth - 2

/-- A byte. -/
def byte? : Json → Option UInt8
  | .int (.ofNat n) => if n < 256 then some (UInt8.ofNat n) else none
  | _ => none

/-- The delimiter framing with the given fields. -/
def delimiterFraming? : (delimiter maxLength keep : Json) → Option FramingConfig
  | .arr bytes, .int (.ofNat maxLength), .bool keep =>
    (bytes.mapM byte?).map fun d => .delimiter d maxLength keep
  | _, _, _ => none

/-- The only value of a given name. -/
def only? {α : Type} (name : String) (members : List (String × α)) : Option α :=
  match members.filter (·.1 == name) with
  | [(_, v)] => some v
  | _ => none

/-- Members with their names as text. -/
def memberNames? (members : List (List Piece × Tree)) : Option (List (String × Tree)) :=
  members.mapM fun (ps, t) => (text? ps).map fun cs => (String.ofList cs, t)

/-- The framing of a given kind, with its fields by name. -/
def framingOfFields? (kind : String) (fields : List (String × Json)) : Option FramingConfig :=
  if kind = "raw" then some .raw
  else if kind = "delimiter" then do
    let delimiter ← only? "delimiter" fields
    let maxLength ← only? "max_length" fields
    let keep ← only? "include_delimiter" fields
    delimiterFraming? delimiter maxLength keep
  else none

/-- The framing of a given kind, with its fields in order. -/
def framingOfElements? (kind : String) (fields : List Json) : Option FramingConfig :=
  if kind = "raw" then if fields.isEmpty then some .raw else none
  else if kind = "delimiter" then
    match fields with
    | [delimiter, maxLength, keep] => delimiterFraming? delimiter maxLength keep
    | _ => none
  else none

/-- A framing. -/
def framing? : Tree → Option FramingConfig
  | .object members => do
    let members ← memberNames? members
    let kind ← (only? "type" members).bind string?
    let fields ← (members.filter (·.1 != "type")).mapM fun (name, t) =>
      (t.value? framingDepth).map (name, ·)
    framingOfFields? kind fields
  | .array (kind :: rest) => do
    let kind ← string? kind
    let fields ← rest.mapM (Tree.value? framingDepth)
    framingOfElements? kind fields
  | _ => none

/-! ## reading configurations -/

/-- A field of a configuration: its name, and how a value is put into it. -/
structure Field where
  name : String
  set? : Tree → ConnectionConfig → Option ConnectionConfig

/-- The field of a given name that holds what `read` makes of a value. -/
def Field.of {α : Type} (name : String) (read : Tree → Option α)
    (set : ConnectionConfig → α → ConnectionConfig) : Field :=
  ⟨name, fun t c => (read t).map (set c)⟩

/-- The fields of a configuration, in order. -/
def fields : List Field :=
  [.of "ports" strings? fun c v => { c with ports := v },
   .of "baud_rate" (nat? maxWord32) fun c v => { c with baudRate := v },
   .of "timeout_ms" (optionalNat? maxWord64) fun c v => { c with timeoutMs := v },
   .of "send_interval_ms" (nat? maxWord64) fun c v => { c with sendIntervalMs := v },
   .of "queue_size" (nat? maxWord64) fun c v => { c with queueSize := v },
   .of "rest_cpu" bool? fun c v => { c with restCpu := v },
   .of "cycle_rest_ms" (nat? maxWord64) fun c v => { c with cycleRestMs := v },
   .of "settle_ms" (nat? maxWord64) fun c v => { c with settleMs := v },
   .of "retry_interval_ms" (nat? maxWord64) fun c v => { c with retryIntervalMs := v },
   .of "drain_budget_ms" (nat? maxWord64) fun c v => { c with drainBudgetMs := v },
   .of "framing" framing? fun c v => { c with framing := v },
   .of "data_bits" (choice? ([.five, .six, .seven, .eight].map fun b => (DataBits.name b, b)))
     fun c v => { c with dataBits := v },
   .of "parity" (choice? ([.none, .odd, .even].map fun p => (Parity.name p, p)))
     fun c v => { c with parity := v },
   .of "stop_bits" (choice? ([.one, .two].map fun s => (StopBits.name s, s)))
     fun c v => { c with stopBits := v },
   .of "flow_control"
     (choice? ([.none, .software, .hardware].map fun f => (FlowControl.name f, f)))
     fun c v => { c with flowControl := v }]

/-- Puts values into the fields that have their names; `seen` are the names of the fields
that have a value already. -/
def setMembers? (seen : List String) (c : ConnectionConfig) :
    List (String × Tree) → Option ConnectionConfig
  | [] => some c
  | (name, t) :: rest =>
    match fields.find? (·.name == name) with
    | none => setMembers? seen c rest
    | some field =>
      if seen.contains name then none
      else (field.set? t c).bind fun c => setMembers? (name :: seen) c rest

/-- Puts values into the fields in order. -/
def setElements? (c : ConnectionConfig) : List Field → List Tree → Option ConnectionConfig
  | _, [] => some c
  | [], _ :: _ => none
  | field :: fs, t :: ts => (field.set? t c).bind fun c => setElements? c fs ts

/-- A configuration. -/
def ofTree? : Tree → Option ConnectionConfig
  | .object members => (memberNames? members).bind (setMembers? [] .default)
  | .array elements => setElements? .default fields elements
  | _ => none

end Config

/-- The configuration that a text describes, whether it can work or not. -/
def ConnectionConfig.ofText? (cs : List Char) : Option ConnectionConfig :=
  (Tree.parse? cs).bind Config.ofTree?

/-- The configuration that a file describes, if it is there and can work. -/
def ConnectionConfig.load (file : Option Bytes) : Except ConfigError ConnectionConfig :=
  match file.bind Text.Utf8.decode? with
  | none => .error .unreadable
  | some cs => match ConnectionConfig.ofText? cs with
    | none => .error .malformed
    | some c => match c.fault? with
      | some fault => .error (.invalid fault)
      | none => .ok c

/-- The framing that a text describes. -/
def FramingConfig.ofText? (cs : List Char) : Option FramingConfig :=
  (Tree.parse? cs).bind Config.framing?

end SerialLink
