import StorageBroker.Number
import StorageBroker.Number.Decimal
import StorageBroker.Number.Shortest
import StorageBroker.Text
import StorageBroker.Text.Blank
import StorageBroker.Text.Digit
import StorageBroker.Number.IntegerText
import StorageBroker.Number.FloatText
import StorageBroker.Text.Utf8
import StorageBroker.Text.Percent
import StorageBroker.Text.Base64
import StorageBroker.Text.Printable
import StorageBroker.Text.Quoted
import StorageBroker.Calendar
import StorageBroker.ReclaimPolicy
import StorageBroker.Record.Kind
import StorageBroker.Value
import StorageBroker.Malformed
import StorageBroker.Value.Mapping
import StorageBroker.Value.Nesting
import StorageBroker.Value.Written
import StorageBroker.Value.Integer
import StorageBroker.Value.Joined
import StorageBroker.Text.Template
import StorageBroker.Text.Format
import StorageBroker.CallTable
import StorageBroker.Fault.Http
import StorageBroker.Fault
import StorageBroker.Settings.Names
import StorageBroker.Settings.Merge
import StorageBroker.Settings.Check
import StorageBroker.ReclaimPolicy.Check
import StorageBroker.Record
import StorageBroker.Record.Parameters
import StorageBroker.Record.Equality
import StorageBroker.Record.Call
import StorageBroker.Catalog
import StorageBroker.Configuration
import StorageBroker.Json.Encoding
import StorageBroker.Json.Reader
import StorageBroker.Json.Writer
import StorageBroker.Json.Tagged
import StorageBroker.Dialogue
import StorageBroker.Action
import StorageBroker.Storage
import StorageBroker.Wire
import StorageBroker.Retry
import StorageBroker.Completeness
import StorageBroker.Remote
import StorageBroker.Session
import StorageBroker.Rehearsal.Server
import StorageBroker.Rehearsal
import StorageBroker.Rehearsal.Failure
import StorageBroker.Rehearsal.Script
import StorageBroker.Management
import StorageBroker.Management.Bucket
import StorageBroker.Management.Namespace
import StorageBroker.Management.User
import StorageBroker.Management.Export
import StorageBroker.Management.BaseUrl
import StorageBroker.Management.ReplicationGroup
import StorageBroker.Discovery
import StorageBroker.Wipe
import StorageBroker.Broker
import StorageBroker.Broker.Buckets
import StorageBroker.Broker.Users
import StorageBroker.Broker.Namespaces
import StorageBroker.Broker.Wiping
import StorageBroker.Broker.Startup
import StorageBroker.Yaml.Cursor
import StorageBroker.Yaml.Source
import StorageBroker.Yaml.Scalar
import StorageBroker.Yaml.TagMark
import StorageBroker.Yaml.Token
import StorageBroker.Yaml.Numeral
import StorageBroker.Yaml.Timestamp
import StorageBroker.Yaml.Tag
import StorageBroker.Yaml.Graph
import StorageBroker.Yaml.Graph.Reader
import StorageBroker.Yaml.Graph.Merge
import StorageBroker.Yaml.Parts
import StorageBroker.Yaml.Document
import StorageBroker.Broker.File
import StorageBroker.Proofs.Course
import StorageBroker.Proofs.Turns
import StorageBroker.Proofs.Session.Exchange
import StorageBroker.Proofs.Retry
import StorageBroker.Proofs.Session.Delivery
import StorageBroker.Proofs.Outcome
import StorageBroker.Proofs.Session.Standing
import StorageBroker.Proofs.Session.Acceptance
import StorageBroker.Proofs.Management
import StorageBroker.Proofs.Management.Resources
import StorageBroker.Proofs.Management.FailStop
import StorageBroker.Proofs.Broker.Commands
import StorageBroker.Proofs.Wipe
import StorageBroker.Proofs.Broker.Wiping
import StorageBroker.Proofs.Settings
import StorageBroker.Proofs.Broker.Provisioning
import StorageBroker.Proofs.Management.Instance
import StorageBroker.Proofs.Management.Absence
import StorageBroker.Proofs.Broker.Isolation
import StorageBroker.Proofs.Broker.Forced
import StorageBroker.Proofs.Management.Backend
import StorageBroker.Proofs.Management.Retention
import StorageBroker.Proofs.Broker.Retention
import StorageBroker.Proofs.Broker.Survival
import StorageBroker.Proofs.Management.Access
import StorageBroker.Proofs.Broker.Access
import StorageBroker.Proofs.Broker.Life
import StorageBroker.Proofs.Broker.Readiness
import StorageBroker.Proofs.Broker.Bootstrap
import StorageBroker.Proofs.Wipe.Coverage
import StorageBroker.Proofs.Session.Token
import StorageBroker.Proofs.Broker.Preparation
import StorageBroker.Proofs.Broker.Launch
import StorageBroker.Proofs.Session.Steadiness
import StorageBroker.Proofs.Broker.Reading
import StorageBroker.Proofs.Broker.Reporting
import StorageBroker.Proofs.Broker.Failures
import StorageBroker.Proofs.Wipe.Accounting
import StorageBroker.Proofs.Broker.FreshNamespace
import StorageBroker.Proofs.Broker.ObjectEndpoint
import StorageBroker.Proofs.Secrecy
import StorageBroker.Proofs.Management.Sequence
import StorageBroker.Proofs.Settings.Stability
import StorageBroker.Proofs.Broker.Effective
import StorageBroker.Proofs.Broker.Creation
import StorageBroker.Proofs.Broker.QuotaChange
import StorageBroker.Proofs.Broker.Repetition
import StorageBroker.Proofs.Record.RoundTrip
import StorageBroker.Proofs.Broker.QuotaBody
import StorageBroker.Proofs.Settings.Refusal
import StorageBroker.Proofs.Retry.Invocation
import StorageBroker.Proofs.ReclaimPolicy
import StorageBroker.Proofs.Broker.PolicyCheck
import StorageBroker.Proofs.ReclaimPolicy.Forms
import StorageBroker.Proofs.Broker.Rejection
import StorageBroker.Proofs.Record.BucketBody
import StorageBroker.Proofs.Broker.Unstarted
import StorageBroker.Proofs.Configuration
import StorageBroker.Proofs.Settings.Precedence
import StorageBroker.Proofs.Retry.Statuses
import StorageBroker.Proofs.Text.Path
import StorageBroker.Proofs.Broker.Exports
import StorageBroker.Proofs.Text.Segments
import StorageBroker.Proofs.Management.Addresses
import StorageBroker.Proofs.Catalog
