import SerialLink.Duration
import SerialLink.Transport

/-!
# SerialLink.Mock.Device

A simulated device.  From its own side it can send bytes, answer requests, echo,
limit how much it takes, and be pulled out and put back.  From the other side it is
used through a handle, which may be closed.

1. A write fails if the handle is closed or the device is pulled out, and meets back
   pressure if the writes allowed between two reads are used up.
2. A payload that is taken is recorded; an echoing device then sends it back, and
   the first reply to exactly this request follows.
3. A read fails like a write; it takes all that the device sent and allows the full
   number of writes again.
-/

namespace SerialLink.Mock

open SerialLink

/-- A simulated device. -/
structure Device where
  /-- What it sent and nobody read, in pieces, newest first. -/
  sent : List Bytes
  /-- The payloads it took, newest first. -/
  taken : List Bytes
  /-- Requests and their answers, in the order in which they were added. -/
  replies : List (Bytes × Bytes)
  echo : Bool
  /-- How many writes it takes between two reads. -/
  writeLimit : Option Nat
  /-- How many it still takes before the next read. -/
  writesLeft : Option Nat
  unplugged : Bool
  /-- A handle holds it open. -/
  isOpen : Bool
  /-- How often it was opened. -/
  opens : Nat
  /-- The read timeout set last. -/
  timeout : Option Duration
  deriving DecidableEq, Repr

namespace Device

/-- A device that nobody used. -/
def fresh : Device where
  sent := []
  taken := []
  replies := []
  echo := false
  writeLimit := none
  writesLeft := none
  unplugged := false
  isOpen := false
  opens := 0
  timeout := none

instance : Inhabited Device := ⟨fresh⟩

/-! ## the device's side -/

/-- The device sends bytes. -/
def inject (d : Device) (data : Bytes) : Device := { d with sent := data :: d.sent }

/-- The bytes that wait to be read. -/
def inbound (d : Device) : Bytes := d.sent.reverse.flatten

/-- The payloads it took, oldest first. -/
def written (d : Device) : List Bytes := d.taken.reverse

/-- The device answers a request. -/
def addReply (d : Device) (request response : Bytes) : Device :=
  { d with replies := d.replies ++ [(request, response)] }

/-- The device limits the writes between two reads, beginning now. -/
def limitWrites (d : Device) (limit : Option Nat) : Device :=
  { d with writeLimit := limit, writesLeft := limit }

/-- The answer to a request. -/
def reply? (d : Device) (request : Bytes) : Option Bytes := d.replies.lookup request

/-- The device takes a payload. -/
def take (d : Device) (payload : Bytes) : Device :=
  let echoed := if d.echo then d.inject payload else d
  let answered := match d.reply? payload with
    | some response => echoed.inject response
    | none => echoed
  { answered with taken := payload :: d.taken, writesLeft := d.writesLeft.map (· - 1) }

end Device

/-! ## handles -/

/-- A handle on a port. -/
structure Handle where
  port : String
  baudRate : Nat
  closed : Bool
  deriving DecidableEq, Repr

/-- The handle was closed. -/
def handleClosed : IoError := ⟨.notConnected, "mock port closed"⟩

/-- The device is pulled out. -/
def deviceGone : IoError := ⟨.brokenPipe, "mock device unplugged"⟩

/-- The device takes no more payloads before the next read. -/
def budgetSpent : IoError := ⟨.wouldBlock, "write budget spent"⟩

namespace Handle

/-- Why a device cannot be used through a handle. -/
def fault? (h : Handle) (d : Device) : Option IoError :=
  if h.closed then some handleClosed
  else if d.unplugged then some deviceGone
  else none

/-- Offers a payload to the device. -/
def write (h : Handle) (d : Device) (payload : Bytes) : Except IoError Unit × Device :=
  match h.fault? d with
  | some e => (.error e, d)
  | none => if d.writesLeft = some 0 then (.error budgetSpent, d) else (.ok (), d.take payload)

/-- Takes all that the device sent. -/
def read (h : Handle) (d : Device) : Except IoError Bytes × Device :=
  match h.fault? d with
  | some e => (.error e, d)
  | none => (.ok d.inbound, { d with sent := [], writesLeft := d.writeLimit })

/-- Sets the read timeout of the device. -/
def setTimeout (h : Handle) (d : Device) (timeout : Option Duration) :
    Except IoError Unit × Device :=
  match h.fault? d with
  | some e => (.error e, d)
  | none => (.ok (), { d with timeout := timeout })

end Handle

/-- A handle together with its device. -/
structure Line where
  handle : Handle
  device : Device
  deriving DecidableEq, Repr

instance : Transport Line where
  write l payload := ((l.handle.write l.device payload).1,
    { l with device := (l.handle.write l.device payload).2 })
  read l := ((l.handle.read l.device).1, { l with device := (l.handle.read l.device).2 })

end SerialLink.Mock
