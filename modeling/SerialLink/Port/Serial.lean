import SerialLink.Port.Write
import SerialLink.Transport

/-!
# SerialLink.Port.Serial

A serial port that is open.

1. A payload is written whole (`Writer.writePayload`), or the write fails.
2. A read takes as many bytes as the device reports, or fewer if they do not come in time
   (`Reader.readAvailable`).
3. So a port is laid down by the writers that stand ready for the next payloads and by the
   readers that stand ready for the next reads.  What it took of the payloads is on its wire.
-/

namespace SerialLink

/-! ## reading -/

/-- How a device answers a read: it gives bytes, as far as there is room for them, or it
fails. -/
inductive ReadOutcome where
  | gives (data : Bytes)
  | fails (e : IoError)
  deriving DecidableEq, Repr

/-- How many bytes a device reports, or why it cannot tell, and the outcomes it has ready, one
for each read; after them nothing comes in time. -/
structure Reader where
  available : Except String Nat
  outcomes : List ReadOutcome

/-- The device reported bytes and gave none. -/
def nothingGiven : IoError := ⟨.unexpectedEof, "serial port returned no data"⟩

/-- Reads until there is no more room, or until nothing comes in time. -/
def readUpTo (room : Nat) : List ReadOutcome → Except IoError Bytes
  | [] => .ok []
  | outcome :: outcomes =>
    if room = 0 then .ok []
    else match outcome with
      | .gives data =>
        let data := data.take room
        if data.isEmpty then .error nothingGiven
        else (readUpTo (room - data.length) outcomes).map (data ++ ·)
      | .fails e => if e.kind = .timedOut then .ok [] else .error e

/-- Reads the bytes that a device reports. -/
def Reader.readAvailable (r : Reader) : Except IoError Bytes :=
  match r.available with
  | .error message => .error ⟨.other, message⟩
  | .ok n => readUpTo n r.outcomes

/-! ## ports -/

/-- A serial port.  When its writers are used up it takes every payload, and when its readers are
used up it has nothing to read. -/
structure SerialPort where
  isOpen : Bool
  writers : List Writer
  readers : List Reader
  wire : Bytes

namespace SerialPort

/-- The port was closed. -/
def closed : IoError := ⟨.notConnected, "serial port closed"⟩

/-- The writer that stands ready for the next payload. -/
def writer (p : SerialPort) : Writer := p.writers.headD ⟨[], none⟩

/-- The reader that stands ready for the next read. -/
def reader (p : SerialPort) : Reader := p.readers.headD ⟨.ok 0, []⟩

instance : Transport SerialPort where
  write p payload :=
    if p.isOpen then
      let record := p.writer.writePayload payload
      (record.result, { p with writers := p.writers.tail, wire := p.wire ++ record.taken })
    else (.error closed, p)
  read p :=
    if p.isOpen then (p.reader.readAvailable, { p with readers := p.readers.tail })
    else (.error closed, p)

end SerialPort

end SerialLink
