import CrudRoutes.Auth.Principal
import CrudRoutes.Auth.Service
import CrudRoutes.Auth.Token
import CrudRoutes.Catalog
import CrudRoutes.Cli.Actions
import CrudRoutes.Cli.Batch
import CrudRoutes.Cli.Client
import CrudRoutes.Cli.Commands
import CrudRoutes.Cli.Config
import CrudRoutes.Cli.Flags
import CrudRoutes.Cli.Help
import CrudRoutes.Cli.Machine
import CrudRoutes.Cli.Path
import CrudRoutes.Cli.Run
import CrudRoutes.Cli.Simulated
import CrudRoutes.Crypto.Base64
import CrudRoutes.Crypto.Bcrypt
import CrudRoutes.Crypto.Blowfish
import CrudRoutes.Crypto.Hmac
import CrudRoutes.Crypto.Sha2
import CrudRoutes.Decimal.Shortest
import CrudRoutes.Decimal.Text
import CrudRoutes.Entity.Basic
import CrudRoutes.Factory
import CrudRoutes.Fault
import CrudRoutes.Filter
import CrudRoutes.Http.Address
import CrudRoutes.Http.Exchange
import CrudRoutes.Http.Url
import CrudRoutes.Json.Bind
import CrudRoutes.Json.Compact
import CrudRoutes.Json.Read
import CrudRoutes.Json.Write
import CrudRoutes.Main
import CrudRoutes.Manifest.Assemble
import CrudRoutes.Manifest.Basic
import CrudRoutes.Manifest.Default
import CrudRoutes.Metrics
import CrudRoutes.Persist
import CrudRoutes.Pipeline
import CrudRoutes.Registry
import CrudRoutes.Route.Basic
import CrudRoutes.Route.Envelope
import CrudRoutes.Route.Handle
import CrudRoutes.Route.Kind
import CrudRoutes.Route.Naming
import CrudRoutes.Server.Basic
import CrudRoutes.Server.Connection
import CrudRoutes.Server.Gateway
import CrudRoutes.Server.Router
import CrudRoutes.Server.Start
import CrudRoutes.Service
import CrudRoutes.Shape.Basic
import CrudRoutes.Shape.Check
import CrudRoutes.Store.Basic
import CrudRoutes.Store.Memory
import CrudRoutes.Store.Sqlite
import CrudRoutes.Store.Storage
import CrudRoutes.Text.Blank
import CrudRoutes.Text.Case
import CrudRoutes.Text.Category
import CrudRoutes.Text.Dotenv
import CrudRoutes.Text.Number
import CrudRoutes.Text.Quote
import CrudRoutes.Text.Span
import CrudRoutes.Text.Table
import CrudRoutes.Text.Utf8
import CrudRoutes.Time.Basic
import CrudRoutes.Time.Duration
import CrudRoutes.Time.Text
import CrudRoutes.UniqueKey
import CrudRoutes.Value.Basic
import CrudRoutes.Value.Equal
import CrudRoutes.Value.Text
import CrudRoutes.Yaml.Decode
import CrudRoutes.Yaml.Error
import CrudRoutes.Yaml.Event
import CrudRoutes.Yaml.Event.Parse
import CrudRoutes.Yaml.Node
import CrudRoutes.Yaml.Resolve
import CrudRoutes.Yaml.Token
import CrudRoutes.Yaml.Token.Lexer
import CrudRoutes.Yaml.Token.Property
import CrudRoutes.Yaml.Token.Scalar
import CrudRoutes.Yaml.Token.Stream
import CrudRoutes.Proofs.Document
import CrudRoutes.Proofs.Conformance
import CrudRoutes.Proofs.Store.MemoryIndex
import CrudRoutes.Proofs.Store.Rollback
import CrudRoutes.Proofs.Store.SqliteIndex
import CrudRoutes.Proofs.UniqueKeys
import CrudRoutes.Proofs.Store.Selection
import CrudRoutes.Proofs.SoftDelete.Scope
import CrudRoutes.Proofs.SoftDelete.Routes
import CrudRoutes.Proofs.Store.ReadBack
import CrudRoutes.Proofs.Envelope
import CrudRoutes.Proofs.Gate
import CrudRoutes.Proofs.Store.Mirror
import CrudRoutes.Proofs.Transport
import CrudRoutes.Proofs.Session
import CrudRoutes.Proofs.PasswordHash
import CrudRoutes.Proofs.Store.Provenance
import CrudRoutes.Proofs.Store.Persistence
import CrudRoutes.Proofs.BodyFields
import CrudRoutes.Proofs.RouteWrites
import CrudRoutes.Proofs.ManagedFields
import CrudRoutes.Proofs.Registry
import CrudRoutes.Proofs.BatchCreate
import CrudRoutes.Proofs.Store.Faults
import CrudRoutes.Proofs.Deletion
import CrudRoutes.Proofs.BatchUpdate
import CrudRoutes.Proofs.Ownership
import CrudRoutes.Proofs.Store.MirrorCalls
import CrudRoutes.Proofs.StoreEquivalence
import CrudRoutes.Proofs.Validators
import CrudRoutes.Proofs.ValueOrder
import CrudRoutes.Proofs.Pipeline
import CrudRoutes.Proofs.Store.RoundTrip
import CrudRoutes.Proofs.Login
import CrudRoutes.Proofs.WordBoundaries
import CrudRoutes.Proofs.EventRouting
import CrudRoutes.Proofs.Utf8Decode
import CrudRoutes.Proofs.DoubleBits
import CrudRoutes.Proofs.JsonReadBack
import CrudRoutes.Proofs.TokenLifetime
