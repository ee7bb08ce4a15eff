import SerialLink.Config.Format
import SerialLink.Connection.Scene
import SerialLink.Cycle.Samples
import SerialLink.Framing.Words
import SerialLink.Port.Order
import SerialLink.Port.Serial
import SerialLink.Proofs.Framing
import SerialLink.Proofs.Framing.Limit
import SerialLink.Proofs.Framing.Batches
import SerialLink.Proofs.Framing.Grammar
import SerialLink.Proofs.Framing.Words
import SerialLink.Proofs.History
import SerialLink.Proofs.History.Later
import SerialLink.Proofs.Draining
import SerialLink.Proofs.Writing
import SerialLink.Proofs.Tap
import SerialLink.Proofs.Usage
import SerialLink.Proofs.Ports
import SerialLink.Proofs.Ports.Exclusion
import SerialLink.Proofs.Listing
import SerialLink.Proofs.Scenes
import SerialLink.Proofs.LoopRun
import SerialLink.Proofs.LoopRun.Intake
import SerialLink.Proofs.LoopRun.Wire
import SerialLink.Proofs.Search
import SerialLink.Proofs.Interplay
import SerialLink.Proofs.Interplay.Simulation
import SerialLink.Proofs.Interplay.Sending
import SerialLink.Proofs.Interplay.Ending
import SerialLink.Proofs.Interplay.Isolation
import SerialLink.Proofs.Interplay.Scenes
import SerialLink.Proofs.Interplay.Chronicle
import SerialLink.Proofs.Interplay.Vigil
import SerialLink.Proofs.Lifecycle
import SerialLink.Proofs.Search.Settings
import SerialLink.Proofs.Timeout
import SerialLink.Proofs.Ownership
import SerialLink.Proofs.Refusal
import SerialLink.Proofs.Utf8
import SerialLink.Proofs.Json.Tokens
import SerialLink.Proofs.Json
import SerialLink.Proofs.Persistence
import SerialLink.Proofs.Interplay.Reception
import SerialLink.Proofs.Supervision
import SerialLink.Proofs.Interplay.Dispatch
import SerialLink.Proofs.History.Contents
import SerialLink.Proofs.Interplay.Spacing
import SerialLink.Proofs.Search.Passes
import SerialLink.Proofs.Utf8.Pieces
import SerialLink.Proofs.Json.Characters
import SerialLink.Proofs.Json.Compact
import SerialLink.Proofs.Payload.Decoding
import SerialLink.Proofs.Payload.Matching
import SerialLink.Proofs.Payload.Normal
