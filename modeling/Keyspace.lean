import Keyspace.Configuration.Argument
import Keyspace.Configuration.Operator
import Keyspace.Journal.Setup
import Keyspace.Provider
import Keyspace.Session
import Keyspace.Proofs.Text.Utf8
import Keyspace.Proofs.Text.Percent
import Keyspace.Proofs.Number.Order
import Keyspace.Proofs.Json.RoundTrip
import Keyspace.Proofs.Form
import Keyspace.Proofs.Url.Appending
import Keyspace.Proofs.Node
import Keyspace.Proofs.Memory
import Keyspace.Proofs.Accessor.Address
import Keyspace.Proofs.Accessor.Containment
import Keyspace.Proofs.Accessor.Views
import Keyspace.Proofs.Accessor.Markers
import Keyspace.Proofs.Accessor.KeyValue
import Keyspace.Proofs.Accessor.Listing
import Keyspace.Proofs.Accessor.Replay
import Keyspace.Proofs.PropertySource
import Keyspace.Proofs.Visit
import Keyspace.Proofs.Provider.Building
import Keyspace.Proofs.Provider.Precedence
import Keyspace.Proofs.Provider.Companions
import Keyspace.Proofs.Provider.Holding
import Keyspace.Proofs.Accessor.Lossless
import Keyspace.Proofs.Accessor.Raising
import Keyspace.Proofs.Blanking
import Keyspace.Proofs.Accessor.Discretion
import Keyspace.Proofs.Url.Resolved
import Keyspace.Proofs.Accessor.BasePath
import Keyspace.Proofs.Accessor.Decoding
import Keyspace.Proofs.Accessor.Acceptance
import Keyspace.Proofs.Session
import Keyspace.Proofs.Accessor.BaseUrl
import Keyspace.Proofs.Configuration
import Keyspace.Proofs.Accessor.Metadata
import Keyspace.Proofs.Provider.Failures
import Keyspace.Proofs.Provider.Starting
import Keyspace.Proofs.Provider.FailedSources
import Keyspace.Proofs.Accessor.SingleKey
import Keyspace.Proofs.Number.Range
import Keyspace.Proofs.Timeout
import Keyspace.Proofs.Accessor.ErrorKeys
import Keyspace.Proofs.Url.Rereading
import Keyspace.Proofs.Accessor.Reaching
import Keyspace.Proofs.Accessor.Slashes
import Keyspace.Proofs.Provider.Rearranging
import Keyspace.Proofs.Journal.Delivery
import Keyspace.Proofs.Journal.Succession
import Keyspace.Proofs.Journal.Fallback
import Keyspace.Proofs.Journal.Line
import Keyspace.Proofs.Journal.Telling
