import RemoteQuery.Text.Blank
import RemoteQuery.Text.Search
import RemoteQuery.Text.Word
import RemoteQuery.Text.Quoted
import RemoteQuery.Text.Utf8
import RemoteQuery.Number.Integer
import RemoteQuery.Number.Decimal
import RemoteQuery.Number.Binary64
import RemoteQuery.Calendar.Date
import RemoteQuery.Calendar.Time
import RemoteQuery.Calendar.Reading
import RemoteQuery.Json.Basic
import RemoteQuery.Json.Reader
import RemoteQuery.Json.Fields
import RemoteQuery.Column.Family
import RemoteQuery.Column.Basic
import RemoteQuery.Fault
import RemoteQuery.Cell.Value
import RemoteQuery.Cell.Cast
import RemoteQuery.Service.Error
import RemoteQuery.Service.Record
import RemoteQuery.Execution
import RemoteQuery.Calendar.Duration
import RemoteQuery.Config.Basic
import RemoteQuery.Config.Lookup
import RemoteQuery.Retry.MissingObject
import RemoteQuery.World
import RemoteQuery.Retry.Policy
import RemoteQuery.Service.RequestToken
import RemoteQuery.Poller
import RemoteQuery.ResultFile.Record
import RemoteQuery.ResultFile.Reading
import RemoteQuery.Results.Page
import RemoteQuery.Results.Direct
import RemoteQuery.Results.Bulk
import RemoteQuery.Results.Pager
import RemoteQuery.Cursor.Basic
import RemoteQuery.Cursor.Fetch
import RemoteQuery.Rehearsal
import RemoteQuery.Interrupt
import RemoteQuery.Calendar.Epoch
import RemoteQuery.Http.Exchange
import RemoteQuery.Http.Wire
import RemoteQuery.Http.Client
import RemoteQuery.Http.Rehearsal
import RemoteQuery.Store.Web
import RemoteQuery.Store.Local
import RemoteQuery.Proofs.Cursor.Delivery
import RemoteQuery.Proofs.Poller.Cancellation
import RemoteQuery.Proofs.Disturbance.Session
import RemoteQuery.Proofs.Cursor.Operations
import RemoteQuery.Proofs.Lifecycle
import RemoteQuery.Proofs.Cursor.States
import RemoteQuery.Proofs.Poller.Ending
import RemoteQuery.Proofs.CancelOutcomes
import RemoteQuery.Proofs.Cursor.Traffic
import RemoteQuery.Proofs.Cursor.Handle
import RemoteQuery.Proofs.Results.Failure
import RemoteQuery.Proofs.Results.Resumption
import RemoteQuery.Proofs.Cursor.Agreement
import RemoteQuery.Proofs.Twins.Launch
import RemoteQuery.Proofs.Cell.Rendering
import RemoteQuery.Proofs.Cursor.Counts
import RemoteQuery.Proofs.Cursor.Metadata
import RemoteQuery.Proofs.Results.Standstill
import RemoteQuery.Proofs.Results.Restart
import RemoteQuery.Proofs.Results.ReadBack
import RemoteQuery.Proofs.Json.Written
import RemoteQuery.Proofs.Calendar.Instant
import RemoteQuery.Proofs.Json.Fields
import RemoteQuery.Proofs.Records
import RemoteQuery.Proofs.Columns
import RemoteQuery.Proofs.Retry.Announcements
import RemoteQuery.Proofs.Retry.Course
import RemoteQuery.Proofs.Cell.Decimals
import RemoteQuery.Proofs.Cursor.Misfits
import RemoteQuery.Proofs.Poller.Deadline
import RemoteQuery.Proofs.WireTypes
import RemoteQuery.Proofs.Cell.Integers
import RemoteQuery.Proofs.Http.Bodies
import RemoteQuery.Proofs.Http.Complaints
import RemoteQuery.Proofs.Cell.Timestamps
import RemoteQuery.Proofs.Intervals
