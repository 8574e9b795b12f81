import VoiceHub.Dict
import VoiceHub.Numeral
import VoiceHub.Definition
import VoiceHub.Slots
import VoiceHub.Grammar
import VoiceHub.Json
import VoiceHub.Json.Reader
import VoiceHub.Intent
import VoiceHub.Payload
import VoiceHub.Clock
import VoiceHub.Journal
import VoiceHub.World
import VoiceHub.Text.Scan
import VoiceHub.Text.Utf8
import VoiceHub.Notifications
import VoiceHub.Backend
import VoiceHub.Publishing
import VoiceHub.Selector
import VoiceHub.Registry
import VoiceHub.Http
import VoiceHub.Hub
import VoiceHub.Routes
import VoiceHub.Session
import VoiceHub.Address
import VoiceHub.Toml.Basic
import VoiceHub.Toml.Number
import VoiceHub.Toml.Reader
import VoiceHub.Config
import VoiceHub.Journal.Filter
import VoiceHub.Program
import VoiceHub.Main
import VoiceHub.Proofs.Text.Pieces
import VoiceHub.Proofs.Slots.Growth
import VoiceHub.Proofs.Slots.Assignment
import VoiceHub.Proofs.Grammar.References
import VoiceHub.Proofs.Grammar.Collision
import VoiceHub.Proofs.Grammar.Extension
import VoiceHub.Proofs.Notifications.Holding
import VoiceHub.Proofs.Dispatch.Isolation
import VoiceHub.Proofs.Session.Deadlines
import VoiceHub.Proofs.Session.Delivery
import VoiceHub.Proofs.Dict
import VoiceHub.Proofs.Registry
import VoiceHub.Proofs.Publishing.Sequence
import VoiceHub.Proofs.Text.Encoding
import VoiceHub.Proofs.World.Pairs
import VoiceHub.Proofs.Hub.Beside
import VoiceHub.Proofs.Hub.Receiving
import VoiceHub.Proofs.Session.Interference
import VoiceHub.Proofs.Numeral
import VoiceHub.Proofs.Grammar.Reading
import VoiceHub.Proofs.Grammar.Unambiguity
import VoiceHub.Proofs.Setup.Builtins
import VoiceHub.Proofs.Setup.Directions
import VoiceHub.Proofs.Setup.Working
import VoiceHub.Proofs.World.Calls
import VoiceHub.Proofs.Dispatch.Confinement
import VoiceHub.Proofs.Hub.Leading
import VoiceHub.Proofs.Hub.Acknowledging
import VoiceHub.Proofs.Session.Speech
import VoiceHub.Proofs.Grammar.Repetition
import VoiceHub.Proofs.Grammar.Layout
import VoiceHub.Proofs.Timer.Duration
import VoiceHub.Proofs.Selector.Selection
import VoiceHub.Proofs.Config.Overrides
import VoiceHub.Proofs.Session.Outputs
import VoiceHub.Proofs.Selector.Naming
import VoiceHub.Proofs.Publishing.Requests
import VoiceHub.Proofs.Json.Grammar
import VoiceHub.Proofs.Json.Tokens
import VoiceHub.Proofs.Json.Values
import VoiceHub.Proofs.Json.Records
import VoiceHub.Proofs.Json.Acceptance
import VoiceHub.Proofs.Json.Artifacts
import VoiceHub.Proofs.Payload.Slots
import VoiceHub.Proofs.Payload.Timers
