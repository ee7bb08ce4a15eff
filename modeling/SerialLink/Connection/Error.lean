import SerialLink.Config
import SerialLink.Decimal.Layout
import SerialLink.Queue.Frame

/-!
# SerialLink.Connection.Error

Why an operation of a connection is refused.
-/

namespace SerialLink

/-- Why an operation of a connection is refused. -/
inductive ConnectionError where
  /-- A loop is running already. -/
  | alreadyConnected
  /-- No loop is running. -/
  | notConnected
  /-- None of the candidates could be opened. -/
  | noPortAvailable (tried : List String)
  /-- No candidate could be opened in time. -/
  | reconnectTimeout (elapsed : Duration)
  /-- A number of seconds that is negative, or no number. -/
  | invalidTimeout (secs : Float)
  | config (e : ConfigError)
  | queue (e : QueueError)
  deriving Repr

/-- The text of an error. -/
def ConnectionError.message : ConnectionError → String
  | .alreadyConnected => "Already connected"
  | .notConnected => "Not connected"
  | .noPortAvailable tried => "No port available (tried: " ++ ", ".intercalate tried ++ ")"
  | .reconnectTimeout elapsed => "Reconnect gave up after " ++ elapsed.text
  | .invalidTimeout secs => "Invalid timeout: " ++ Decimal.plain.text secs
  | .config e => "Configuration error: " ++ e.message
  | .queue e => "Queue error: " ++ e.message

end SerialLink
