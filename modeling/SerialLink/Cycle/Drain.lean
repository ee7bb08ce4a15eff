import SerialLink.Duration
import SerialLink.Queue.Send
import SerialLink.Transport

/-!
# SerialLink.Cycle.Drain

Draining the send queue into a device.

1. Payloads are offered in the order of the queue, and one leaves the queue only when the
   device has taken it.
2. Draining stops when the queue is empty, when the device pushes back, or when the
   budget of time is spent, but never before the first payload was offered.
3. A failure that is not transient ends it; the payload stays in the queue.
-/

namespace SerialLink

variable {δ : Type} [Transport δ]

/-- What draining came to: how many payloads were written or which failure ended it, with
the queue and the device afterwards. -/
structure Drained (δ : Type) where
  result : Except IoError Nat
  send : SendQueue
  device : δ

/-- Goes on draining when `written` payloads are written.  `elapsed` are the readings of
the time spent, one for each look at it; when they are used up no time has passed. -/
def drainFrom (budget : Duration) :
    (fuel written : Nat) → (elapsed : List Duration) → SendQueue → δ → Drained δ
  | 0, written, _, send, device => ⟨.ok written, send, device⟩
  | fuel + 1, written, elapsed, send, device =>
    match send.pop with
    | .error _ => ⟨.ok written, send, device⟩
    | .ok (payload, rest) =>
      if 0 < written && budget ≤ elapsed.headD .zero then ⟨.ok written, send, device⟩
      else
        match Transport.write device payload with
        | (.ok (), device) =>
          drainFrom budget fuel (written + 1) (if 0 < written then elapsed.tail else elapsed)
            rest device
        | (.error e, device) =>
          ⟨if e.isTransient then .ok written else .error e, send, device⟩

/-- Writes the payloads of the queue in order.  Each takes one step, so there are enough
steps for all of them. -/
def drain (budget : Duration) (elapsed : List Duration) (send : SendQueue) (device : δ) :
    Drained δ :=
  drainFrom budget send.size 0 elapsed send device

end SerialLink
