import BearerTokens.Base32Hex
import BearerTokens.Codec.Basic
import BearerTokens.Codec.Config
import BearerTokens.Failure
import BearerTokens.Hash.Bcrypt
import BearerTokens.Hash.Blowfish
import BearerTokens.Hash.Hmac
import BearerTokens.Hash.Pi
import BearerTokens.Hash.Sha1
import BearerTokens.Hash.Word
import BearerTokens.Http.Body
import BearerTokens.Http.Command
import BearerTokens.Http.Handler
import BearerTokens.Http.Host
import BearerTokens.Http.Query
import BearerTokens.Http.Request
import BearerTokens.Http.Response
import BearerTokens.Http.Route
import BearerTokens.Http.Server
import BearerTokens.Json.Basic
import BearerTokens.Json.Display
import BearerTokens.Json.Encoding
import BearerTokens.Json.Reader
import BearerTokens.Json.Writer
import BearerTokens.Log
import BearerTokens.Number.Binary64
import BearerTokens.Number.Numeral
import BearerTokens.Number.Shortest
import BearerTokens.Proofs.Base32Digits
import BearerTokens.Proofs.CommittedRows
import BearerTokens.Proofs.KeyRoundTrip
import BearerTokens.Proofs.StoreSteps
import BearerTokens.Proofs.TableChanges
import BearerTokens.Request.Create
import BearerTokens.Request.Edit
import BearerTokens.Request.Issue
import BearerTokens.Service.Basic
import BearerTokens.Service.Run
import BearerTokens.Settings.Address
import BearerTokens.Settings.Backend.Basic
import BearerTokens.Settings.Backend.Known
import BearerTokens.Settings.Basic
import BearerTokens.Settings.Connection.Basic
import BearerTokens.Settings.Connection.Options
import BearerTokens.Settings.Connection.Servers
import BearerTokens.Settings.Dotenv
import BearerTokens.Settings.Value
import BearerTokens.Store.Basic
import BearerTokens.Store.Run
import BearerTokens.Store.Statement
import BearerTokens.Supply
import BearerTokens.Tag.Basic
import BearerTokens.Tag.Reader
import BearerTokens.Text.Blank
import BearerTokens.Text.Cased
import BearerTokens.Text.Digit
import BearerTokens.Text.Form
import BearerTokens.Text.Hex
import BearerTokens.Text.Lowercase
import BearerTokens.Text.Percent
import BearerTokens.Text.Printable
import BearerTokens.Text.Quoted
import BearerTokens.Text.Split
import BearerTokens.Text.Uppercase
import BearerTokens.Text.Utf8
import BearerTokens.Text.Wide
import BearerTokens.Text.Word
import BearerTokens.Time.Calendar
import BearerTokens.Time.Reader
import BearerTokens.Time.Timestamp
import BearerTokens.Token.Basic
import BearerTokens.Token.Display
import BearerTokens.Token.Error
import BearerTokens.Token.Secret
import BearerTokens.Token.Tenant
import BearerTokens.Proofs.ServiceSteps
import BearerTokens.Proofs.KeyStanding
import BearerTokens.Proofs.KeyLifecycle
import BearerTokens.Proofs.PairedReplies
import BearerTokens.Proofs.TenantIsolation
import BearerTokens.Proofs.Scripts
import BearerTokens.Proofs.SecretIndifference
import BearerTokens.Proofs.History
import BearerTokens.Proofs.Routing
import BearerTokens.Proofs.Commands
import BearerTokens.Proofs.RequestEffects
import BearerTokens.Proofs.Utf8RoundTrip
import BearerTokens.Proofs.PercentRoundTrip
import BearerTokens.Proofs.Addresses
import BearerTokens.Proofs.TenantReach
import BearerTokens.Proofs.RowOwners
import BearerTokens.Proofs.TimestampOrder
import BearerTokens.Proofs.KeyVerdicts
import BearerTokens.Proofs.KeyAcceptance
import BearerTokens.Proofs.UsableSalts
import BearerTokens.Proofs.Authentication
import BearerTokens.Proofs.Listings
import BearerTokens.Proofs.RevocationNames
import BearerTokens.Proofs.RevocationOrder
import BearerTokens.Proofs.Insertion
import BearerTokens.Proofs.Descriptions
import BearerTokens.Proofs.CreateValidation
import BearerTokens.Proofs.RequestTraces
import BearerTokens.Proofs.RoutePatterns
import BearerTokens.Proofs.CanonicalDigits
import BearerTokens.Proofs.SecretDraws
import BearerTokens.Proofs.IntegrityCodes
import BearerTokens.Proofs.TagSpellings
