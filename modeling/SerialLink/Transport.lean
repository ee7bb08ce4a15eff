import SerialLink.Bytes
import SerialLink.IoError

/-!
# SerialLink.Transport

An open device as the loop sees it: it takes whole payloads and gives all the bytes
that it has buffered.  A transient failure of a write means that nothing was taken.

`Scripted` is a device whose answers are laid down beforehand.
-/

namespace SerialLink

/-- An open device. -/
class Transport (δ : Type) where
  /-- Offers a whole payload. -/
  write : δ → Bytes → Except IoError Unit × δ
  /-- Takes all that is buffered, without waiting for more. -/
  read : δ → Except IoError Bytes × δ

/-- A device that answers its next writes and reads as laid down.  When those are used up
it takes every payload and has nothing to read.  It records the payloads it took and
the number of writes. -/
structure Scripted where
  writes : List (Except IoError Unit)
  reads : List (Except IoError Bytes)
  written : List Bytes
  calls : Nat

namespace Scripted

/-- A device with the given answers, before anything was asked of it. -/
def ofAnswers (writes : List (Except IoError Unit)) (reads : List (Except IoError Bytes)) :
    Scripted := ⟨writes, reads, [], 0⟩

instance : Transport Scripted where
  write d payload :=
    match d.writes with
    | .error e :: rest => (.error e, { d with writes := rest, calls := d.calls + 1 })
    | .ok () :: rest =>
      (.ok (), { d with writes := rest, written := d.written ++ [payload], calls := d.calls + 1 })
    | [] => (.ok (), { d with written := d.written ++ [payload], calls := d.calls + 1 })
  read d :=
    match d.reads with
    | answer :: rest => (answer, { d with reads := rest })
    | [] => (.ok [], d)

end Scripted

end SerialLink
