import ExasolClient.Text.Blank
import ExasolClient.Text.Split
import ExasolClient.Text.Quoted
import ExasolClient.Text.Numeral
import ExasolClient.Binary64.Shortest
import ExasolClient.Binary64.Reading
import ExasolClient.Binary64.Scaling
import ExasolClient.Json.Basic
import ExasolClient.Json.Reader
import ExasolClient.Json.Writer
import ExasolClient.Json.Record
import ExasolClient.Fault
import ExasolClient.Row.Columns
import ExasolClient.Row.Cell
import ExasolClient.Row.Basic
import ExasolClient.Config.Duration
import ExasolClient.Config.Basic
import ExasolClient.Config.Dsn
import ExasolClient.Crypto.Bytes
import ExasolClient.Crypto.Base64
import ExasolClient.Crypto.Padding
import ExasolClient.Crypto.HexNumber
import ExasolClient.Crypto.RsaKey
import ExasolClient.Crypto.Der
import ExasolClient.Crypto.Pem
import ExasolClient.Crypto.Password
import ExasolClient.Wire.Attributes
import ExasolClient.Wire.DataType
import ExasolClient.Wire.Payload
import ExasolClient.Wire.Reply
import ExasolClient.Wire.Request
import ExasolClient.Statement.Matrix
import ExasolClient.Statement.Options
import ExasolClient.Statement.Cache
import ExasolClient.Transport
import ExasolClient.Journal
import ExasolClient.Connection.Basic
import ExasolClient.Connection.Exchange
import ExasolClient.Connection.Handshake
import ExasolClient.Connection.Execute
import ExasolClient.Stream.Basic
import ExasolClient.Stream.Producer
import ExasolClient.Connection.Operations
import ExasolClient.Rehearsal.Server
import ExasolClient.Rehearsal.Session
import ExasolClient.Proofs.Exchange.Attempt
import ExasolClient.Proofs.Exchange.Talk
import ExasolClient.Proofs.Statement.Dialogue
import ExasolClient.Proofs.Statement.Messages
import ExasolClient.Proofs.Stream.Turn
import ExasolClient.Proofs.Client.Moves
import ExasolClient.Proofs.Client.Schedule
import ExasolClient.Proofs.Statement.Ledger
import ExasolClient.Proofs.Statement.Servers
import ExasolClient.Proofs.Statement.Transparency
import ExasolClient.Proofs.Stream.Table
import ExasolClient.Proofs.Stream.Delivery
import ExasolClient.Proofs.Statement.Provenance
import ExasolClient.Proofs.Statement.Executions
import ExasolClient.Proofs.Stream.Supply
import ExasolClient.Proofs.Stream.Stages
import ExasolClient.Proofs.Stream.Course
import ExasolClient.Proofs.Stream.Totals
import ExasolClient.Proofs.Stream.Cancellation
import ExasolClient.Proofs.Stream.Release
import ExasolClient.Proofs.Client.Unread
import ExasolClient.Proofs.Exchange.Traffic
import ExasolClient.Proofs.Exchange.Handshake
import ExasolClient.Proofs.Client.Session
import ExasolClient.Proofs.Exchange.Tape
import ExasolClient.Proofs.Client.Recording
import ExasolClient.Proofs.Client.Attributes
import ExasolClient.Proofs.Client.Correlation
import ExasolClient.Proofs.Client.Login
import ExasolClient.Proofs.Client.Refusal
import ExasolClient.Proofs.Client.Standstill
import ExasolClient.Proofs.Client.Cancelled
import ExasolClient.Proofs.Stream.Stranded
import ExasolClient.Proofs.Client.Disconnected
import ExasolClient.Proofs.Stream.Backpressure
import ExasolClient.Proofs.Stream.Positions
import ExasolClient.Proofs.Stream.Paging
import ExasolClient.Proofs.Fault.Wrapping
import ExasolClient.Proofs.Statement.Naming
import ExasolClient.Proofs.Statement.Eviction
import ExasolClient.Proofs.Statement.Bindings
import ExasolClient.Proofs.Config.Address
import ExasolClient.Proofs.Config.Account
import ExasolClient.Proofs.Config.Written
import ExasolClient.Proofs.Config.Disclosure
import ExasolClient.Proofs.Stream.Remainder
import ExasolClient.Proofs.Text.Solid
import ExasolClient.Proofs.Row.Numbers
import ExasolClient.Proofs.Wire.Members
import ExasolClient.Proofs.Wire.RoundTrip
import ExasolClient.Proofs.Wire.Requests
import ExasolClient.Proofs.Wire.Merging
import ExasolClient.Proofs.Row.Lookup
import ExasolClient.Proofs.Crypto.Spelling
import ExasolClient.Proofs.Exchange.Hushed
import ExasolClient.Proofs.Client.Suppression
