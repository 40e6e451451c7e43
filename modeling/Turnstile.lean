import Turnstile.Cli.Command
import Turnstile.Cli.Flag
import Turnstile.Cli.Format
import Turnstile.Cli.Program
import Turnstile.Clock.Activation
import Turnstile.Clock.Cron
import Turnstile.Clock.Duration
import Turnstile.Clock.Recurrence
import Turnstile.Clock.Timestamp
import Turnstile.Clock.Zone
import Turnstile.Config.Basic
import Turnstile.Config.Load
import Turnstile.Config.Schema
import Turnstile.Config.Snapshot
import Turnstile.Config.Store
import Turnstile.Config.Validate
import Turnstile.Credential.Basic
import Turnstile.Credential.Bearer
import Turnstile.Credential.Match
import Turnstile.Credential.State
import Turnstile.Credential.Verify
import Turnstile.Digest.Sha256
import Turnstile.Encoding.Base64
import Turnstile.Encoding.Json
import Turnstile.Health.Status
import Turnstile.Host.Files
import Turnstile.Host.World
import Turnstile.Http.Header
import Turnstile.Http.Message
import Turnstile.Http.Mux
import Turnstile.Http.Url
import Turnstile.Log.Level
import Turnstile.Log.Record
import Turnstile.Log.Redact
import Turnstile.Main
import Turnstile.Metrics.Collector
import Turnstile.Metrics.Family
import Turnstile.Net.Address
import Turnstile.Number.Arith
import Turnstile.Number.Binary64
import Turnstile.Number.Parse
import Turnstile.Number.Shortest
import Turnstile.Number.Text
import Turnstile.Path.Slash
import Turnstile.Proofs.Cli.Check
import Turnstile.Proofs.Config.Loading
import Turnstile.Proofs.Config.Reload
import Turnstile.Proofs.Config.Settings
import Turnstile.Proofs.Credential.Bearer
import Turnstile.Proofs.Credential.Decisions
import Turnstile.Proofs.Credential.Matching
import Turnstile.Proofs.Credential.Table
import Turnstile.Proofs.Credential.Tiers
import Turnstile.Proofs.Http.Routing
import Turnstile.Proofs.Server.AuthRoutes
import Turnstile.Proofs.Server.Registration
import Turnstile.Proofs.Server.Routes
import Turnstile.Proofs.Service.Metrics
import Turnstile.Secrets.Manager
import Turnstile.Secrets.Provider
import Turnstile.Secrets.Reference
import Turnstile.Server.Handler
import Turnstile.Service.Session
import Turnstile.Settings.Basic
import Turnstile.Text.Blank
import Turnstile.Text.Boolean
import Turnstile.Text.Case
import Turnstile.Text.Hex
import Turnstile.Text.Infix
import Turnstile.Text.Printable
import Turnstile.Text.Quoted
import Turnstile.Text.Utf8
import Turnstile.Value.Basic
import Turnstile.Yaml.Compose
import Turnstile.Yaml.Decode
import Turnstile.Yaml.Parser
import Turnstile.Yaml.Resolve
import Turnstile.Yaml.Scanner
import Turnstile.Yaml.Syntax
import Turnstile.Proofs.Log.Shapes
import Turnstile.Proofs.Log.Lines
import Turnstile.Proofs.Secrets.Lookup
import Turnstile.Proofs.Secrets.References
import Turnstile.Proofs.Config.Resolution
import Turnstile.Proofs.Config.Flattening
import Turnstile.Proofs.Log.Idempotence
import Turnstile.Proofs.Config.Precedence
import Turnstile.Proofs.Config.Validation
import Turnstile.Proofs.Path.Cleaning
import Turnstile.Proofs.Secrets.Confinement
import Turnstile.Server.Chain
import Turnstile.Proofs.Clock.Freshness
import Turnstile.Proofs.Server.RequestIds
