import Logbook.Main
import Logbook.Store.Unreliable
import Logbook.Proofs.Store.Order
import Logbook.Proofs.Store.Ledger
import Logbook.Proofs.Number.ReadBack
import Logbook.Proofs.Json.Numeral
import Logbook.Proofs.Json.ReadBack
import Logbook.Proofs.Json.Spelled
import Logbook.Proofs.Row
import Logbook.Proofs.Disk
import Logbook.Proofs.Store.Durable
import Logbook.Proofs.Requests
import Logbook.Proofs.Search.Retrieval
import Logbook.Proofs.Search.Paging
import Logbook.Proofs.Query.ReadBack
import Logbook.Proofs.Intake
import Logbook.Proofs.Store.Failure
import Logbook.Proofs.Json.Prefixed
import Logbook.Proofs.Store.Survival
import Logbook.Proofs.Payload
import Logbook.Proofs.Query.Findable
import Logbook.Proofs.Record.Views
import Logbook.Proofs.Record.Line
import Logbook.Proofs.Command.Bounds
import Logbook.Proofs.Command.Printing
import Logbook.Proofs.Json.Occurrence
import Logbook.Proofs.Query.Join
import Logbook.Proofs.Search.Refinement
import Logbook.Proofs.Store.Holds
import Logbook.Proofs.Feed
import Logbook.Proofs.Search.Unreadable
import Logbook.Proofs.Store.Opening
import Logbook.Proofs.Time.Written
import Logbook.Proofs.Search.Growth
import Logbook.Proofs.Search.Chronology
import Logbook.Proofs.Time.Canonical
import Logbook.Proofs.Query.Select
import Logbook.Query.Layout
import Logbook.Proofs.Query.Alone
import Logbook.Proofs.Query.Layout
import Logbook.Proofs.Query.Tiling
import Logbook.Proofs.Text.Utf8
import Logbook.Proofs.Feed.Decoding
import Logbook.Proofs.Feed.Service
import Logbook.Proofs.Payload.Faithful
import Logbook.Proofs.Text.Sigma
import Logbook.Proofs.Search.Verbatim
import Logbook.Proofs.Upkeep
import Logbook.Proofs.Search.Planning
import Logbook.Proofs.Intake.Batch
import Logbook.Proofs.Search.Facets
import Logbook.Proofs.Number.Whole
import Logbook.Proofs.Payload.Milliseconds
