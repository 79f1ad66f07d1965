import EmbeddedAlerts.Library.Hexadecimal
import EmbeddedAlerts.Library.Text
import EmbeddedAlerts.Library.BinaryFloat
import EmbeddedAlerts.Library.Json
import EmbeddedAlerts.Library.JsonText
import EmbeddedAlerts.Library.Record
import EmbeddedAlerts.Library.Fallible
import EmbeddedAlerts.Library.Ranking
import EmbeddedAlerts.Library.Runs
import EmbeddedAlerts.Library.Progress
import EmbeddedAlerts.Library.Traced
import EmbeddedAlerts.Library.SqlCondition
import EmbeddedAlerts.Library.Noninterference
import EmbeddedAlerts.Library.UniqueKeys
import EmbeddedAlerts.Library.EarlyExit
import EmbeddedAlerts.Library.Broadcast
import EmbeddedAlerts.Library.Assignments
import EmbeddedAlerts.Library.Base64
import EmbeddedAlerts.Library.Python
import EmbeddedAlerts.Library.PosixShell
import EmbeddedAlerts.Library.Url
import EmbeddedAlerts.Library.Subject
import EmbeddedAlerts.Library.Framing
import EmbeddedAlerts.Model.Uuid
import EmbeddedAlerts.Model.Alert
import EmbeddedAlerts.Auth.Boundary
import EmbeddedAlerts.Auth.Specification
import EmbeddedAlerts.Store.Alerts
import EmbeddedAlerts.Store.History
import EmbeddedAlerts.Store.Ownership
import EmbeddedAlerts.Store.Admission
import EmbeddedAlerts.Store.Backends
import EmbeddedAlerts.Transport.Envelope
import EmbeddedAlerts.Transport.Database
import EmbeddedAlerts.Transport.Encoding
import EmbeddedAlerts.Transport.System
import EmbeddedAlerts.Transport.Steps
import EmbeddedAlerts.Transport.Correspondence
import EmbeddedAlerts.Transport.Authenticity
import EmbeddedAlerts.Transport.Acceptance
import EmbeddedAlerts.Transport.Acknowledgement
import EmbeddedAlerts.Transport.Redelivery
import EmbeddedAlerts.Transport.Publication
import EmbeddedAlerts.Transport.Confinement
import EmbeddedAlerts.Transport.Schema
import EmbeddedAlerts.Transport.DeliveryLoop
import EmbeddedAlerts.Transport.Answering
import EmbeddedAlerts.Transport.Publishing
import EmbeddedAlerts.Transport.Draining
import EmbeddedAlerts.Transport.ReplySize
import EmbeddedAlerts.Transport.Tcp
import EmbeddedAlerts.Transport.Agreement
import EmbeddedAlerts.Transport.Decoding
import EmbeddedAlerts.Transport.Deadline
import EmbeddedAlerts.Transport.Progress
import EmbeddedAlerts.Transport.Freshness
import EmbeddedAlerts.Transport.NatsUrl
import EmbeddedAlerts.Transport.Routing
import EmbeddedAlerts.Server.Handlers
import EmbeddedAlerts.Server.Service
import EmbeddedAlerts.Server.Isolation
import EmbeddedAlerts.Server.Stream
import EmbeddedAlerts.Server.Notification
import EmbeddedAlerts.Server.Expiry
import EmbeddedAlerts.Server.BodyLimit
import EmbeddedAlerts.Server.Connections
import EmbeddedAlerts.Server.Http
import EmbeddedAlerts.Server.Submission
import EmbeddedAlerts.Server.DirectRead
import EmbeddedAlerts.Startup.Flags
import EmbeddedAlerts.Startup.Process
import EmbeddedAlerts.Dotenv.Parse
import EmbeddedAlerts.Dotenv.Modes
import EmbeddedAlerts.Dotenv.Entrypoint
import EmbeddedAlerts.Dotenv.Loaders
import EmbeddedAlerts.Dotenv.Intact
import EmbeddedAlerts.Dotenv.Escapes
import EmbeddedAlerts.Dotenv.Evaluation
import EmbeddedAlerts.Startup.Container
import EmbeddedAlerts.Library.Script
import EmbeddedAlerts.Environments.Recipes
import EmbeddedAlerts.Environments.Safety
import EmbeddedAlerts.Environments.Desk
import EmbeddedAlerts.Environments.RoundTrip
import EmbeddedAlerts.Environments.Leftover
