import FrameBridge.Target
import FrameBridge.Address.Socket
import FrameBridge.Text.Utf8
import FrameBridge.Config.Basic
import FrameBridge.Config.Decode
import FrameBridge.Config.Validation
import FrameBridge.Http.Header
import FrameBridge.Http.Query
import FrameBridge.Http.Upgrade
import FrameBridge.Http.Uri
import FrameBridge.Http.Response
import FrameBridge.Metrics
import FrameBridge.Relay.Latch
import FrameBridge.Relay.Resolution
import FrameBridge.Relay.Stats
import FrameBridge.Relay.Bridge
import FrameBridge.Relay.Pump
import FrameBridge.Relay.Session
import FrameBridge.Server.Bearer
import FrameBridge.Toml.Moment
import FrameBridge.Toml.Number
import FrameBridge.Toml.Parser
import FrameBridge.Config.Load
import FrameBridge.Config.Reload
import FrameBridge.Decimal.Reading
import FrameBridge.Http.Handshake
import FrameBridge.Http.Route
import FrameBridge.Lifecycle.Shutdown
import FrameBridge.Lifecycle.Startup
import FrameBridge.Logging.Filter
import FrameBridge.Server.Admin
import FrameBridge.Server.Relay
import FrameBridge.Server.Router
import FrameBridge.CommandLine
import FrameBridge.Main
import FrameBridge.Relay.LatchRun
import FrameBridge.Server.Handlers
import FrameBridge.Proofs.Session.Calls
import FrameBridge.Proofs.Session.Moves
import FrameBridge.Proofs.Session.Run
import FrameBridge.Proofs.Session.Upload
import FrameBridge.Proofs.Session.Download
import FrameBridge.Proofs.Session.Integrity
import FrameBridge.Proofs.Counting
import FrameBridge.Proofs.Session.Phases
import FrameBridge.Proofs.Session.Cause
import FrameBridge.Proofs.Session.Delivery
import FrameBridge.Proofs.Session.Attribution
import FrameBridge.Proofs.Session.Settling
import FrameBridge.Proofs.Session.Progress
import FrameBridge.Proofs.Session.Teardown
import FrameBridge.Proofs.Tracker.Operations
import FrameBridge.Proofs.Tracker.Guards
import FrameBridge.Proofs.Relay.Resolution
import FrameBridge.Proofs.Server.Decision
import FrameBridge.Proofs.Server.Run
import FrameBridge.Proofs.Server.Bearer
import FrameBridge.Proofs.Http.Query
import FrameBridge.Proofs.Http.Route
import FrameBridge.Proofs.Config.Validation
import FrameBridge.Proofs.Text.Trim
import FrameBridge.Proofs.Text.Utf8
import FrameBridge.Proofs.Server.AdminAccess
import FrameBridge.Proofs.Tracker.Handlers
import FrameBridge.Proofs.Tracker.Publication
import FrameBridge.Proofs.Text.Split
import FrameBridge.Proofs.Server.Servable
import FrameBridge.Proofs.Server.Restart
import FrameBridge.Proofs.Config.Reload
import FrameBridge.Proofs.Server.Stages
import FrameBridge.Proofs.Server.Reload
import FrameBridge.Proofs.Session.Lifecycle
import FrameBridge.Proofs.Session.Backlog
import FrameBridge.Proofs.Address.Literal
import FrameBridge.Proofs.Target.Grammar
import FrameBridge.Proofs.Target.RoundTrip
import FrameBridge.Proofs.Text.LetterCase
import FrameBridge.Proofs.Address.LetterCase
import FrameBridge.Proofs.Target.LetterCase
import FrameBridge.Proofs.Target.Entries
import FrameBridge.Proofs.Relay.AllowList
import FrameBridge.Proofs.Relay.FixedRemote
import FrameBridge.Proofs.Server.Status
import FrameBridge.Proofs.Pump.Run
import FrameBridge.Proofs.Pump.Upload
import FrameBridge.Proofs.Pump.Download
import FrameBridge.Proofs.Relay.QueryTarget
import FrameBridge.Proofs.Relay.LatchRun
import FrameBridge.Proofs.Tracker.Slots
import FrameBridge.Proofs.Http.Header
import FrameBridge.Proofs.Http.Upgrade
import FrameBridge.Proofs.Server.Authentication
import FrameBridge.Proofs.Lifecycle.Receivers
import FrameBridge.Proofs.Lifecycle.Shutdown
