import SubtitleCoverage.OrderedMap
import SubtitleCoverage.Text.Blank
import SubtitleCoverage.Text.Collation
import SubtitleCoverage.Text.Column
import SubtitleCoverage.Text.Decimal
import SubtitleCoverage.Text.Quoted
import SubtitleCoverage.Text.Utf8
import SubtitleCoverage.Json.Token
import SubtitleCoverage.Json.Reader
import SubtitleCoverage.Json.Record
import SubtitleCoverage.Json.Writer
import SubtitleCoverage.Fault
import SubtitleCoverage.Uuid
import SubtitleCoverage.Language
import SubtitleCoverage.Calendar
import SubtitleCoverage.Clock
import SubtitleCoverage.Timestamp
import SubtitleCoverage.Media.Basic
import SubtitleCoverage.Media.Wire
import SubtitleCoverage.Profile.Basic
import SubtitleCoverage.Profile.Registry
import SubtitleCoverage.Profile.Wire
import SubtitleCoverage.Coverage.Resolution
import SubtitleCoverage.Coverage.Summary
import SubtitleCoverage.Coverage.Wire
import SubtitleCoverage.Listing.Page
import SubtitleCoverage.Listing.Query
import SubtitleCoverage.Listing.SearchBox
import SubtitleCoverage.Listing.Selection
import SubtitleCoverage.Listing.Wire
import SubtitleCoverage.Jobs.Board
import SubtitleCoverage.Jobs.Broadcast
import SubtitleCoverage.Jobs.Bus
import SubtitleCoverage.Jobs.Stream
import SubtitleCoverage.Backend.Call
import SubtitleCoverage.Backend.Wire
import SubtitleCoverage.Library.Notice
import SubtitleCoverage.Report
import SubtitleCoverage.Toml.Lexeme
import SubtitleCoverage.Toml.Reader
import SubtitleCoverage.Config
import SubtitleCoverage.Library.Change
import SubtitleCoverage.Library.Load
import SubtitleCoverage.Library.Description
import SubtitleCoverage.Backend.Memory
import SubtitleCoverage.Http.Address
import SubtitleCoverage.Http.Status
import SubtitleCoverage.Http.Client
import SubtitleCoverage.Http.Subscription
import SubtitleCoverage.Http.Script
import SubtitleCoverage.Backend.Scenario
import SubtitleCoverage.Library.Wire
import SubtitleCoverage.CommandLine.Command
import SubtitleCoverage.CommandLine.Errand
import SubtitleCoverage.CommandLine.Program
import SubtitleCoverage.CommandLine.Rehearsal
import SubtitleCoverage.Http.Message
import SubtitleCoverage.Main
import SubtitleCoverage.Proofs.Coverage.Agreement
import SubtitleCoverage.Proofs.Jobs.Lookup
import SubtitleCoverage.Proofs.Jobs.Consistency
import SubtitleCoverage.Proofs.Jobs.Convergence
import SubtitleCoverage.Proofs.Jobs.Pieces
import SubtitleCoverage.Proofs.Profile.Default
import SubtitleCoverage.Proofs.Profile.Chain
import SubtitleCoverage.Proofs.Profile.ChainEdits
import SubtitleCoverage.Proofs.Profile.Refusals
import SubtitleCoverage.Proofs.Positions
import SubtitleCoverage.Proofs.Coverage.Roles
import SubtitleCoverage.Proofs.Listing.Rank
import SubtitleCoverage.Proofs.Listing.Answer
import SubtitleCoverage.Proofs.Json.Tokens
import SubtitleCoverage.Proofs.Json.Spelling
import SubtitleCoverage.Proofs.Uuid
import SubtitleCoverage.Proofs.Jobs.EventCodec
import SubtitleCoverage.Proofs.Jobs.Lines
import SubtitleCoverage.Proofs.Jobs.Frames
import SubtitleCoverage.Proofs.Jobs.Race
import SubtitleCoverage.Proofs.Backend.Exchanges
import SubtitleCoverage.Proofs.Library.MissingSearch
import SubtitleCoverage.Proofs.Listing.Pages
import SubtitleCoverage.Proofs.Library.Loading
import SubtitleCoverage.Proofs.Library.Operations
import SubtitleCoverage.Proofs.Library.AllPages
import SubtitleCoverage.Proofs.Library.CurrentPage
import SubtitleCoverage.Proofs.Http.Replies
import SubtitleCoverage.Proofs.Library.WholeLibrary
import SubtitleCoverage.Proofs.Library.Changes
import SubtitleCoverage.Proofs.Jobs.Histories
import SubtitleCoverage.Proofs.Jobs.LateEvents
import SubtitleCoverage.Proofs.Jobs.Independence
import SubtitleCoverage.Proofs.Listing.Scopes
import SubtitleCoverage.Proofs.Listing.Selected
import SubtitleCoverage.Proofs.Library.Sharing
import SubtitleCoverage.Proofs.Library.Payloads
import SubtitleCoverage.Proofs.Library.FailedChanges
import SubtitleCoverage.Proofs.Library.FailedLoads
import SubtitleCoverage.Proofs.Library.Inventories
import SubtitleCoverage.Proofs.Coverage.Places
import SubtitleCoverage.Proofs.Coverage.Spelling
import SubtitleCoverage.Proofs.Json.Values
import SubtitleCoverage.Proofs.Timestamp
import SubtitleCoverage.Proofs.Wire
import SubtitleCoverage.Proofs.Jobs.Channel
import SubtitleCoverage.Proofs.Jobs.Settled
import SubtitleCoverage.Proofs.Jobs.Remembered
import SubtitleCoverage.Proofs.Library.Pump
import SubtitleCoverage.Proofs.CommandLine.Errands
import SubtitleCoverage.Proofs.CommandLine.SearchMissing
import SubtitleCoverage.Proofs.Text.LetterCase
import SubtitleCoverage.Proofs.Coverage.Lookup
import SubtitleCoverage.Proofs.Listing.Search
import SubtitleCoverage.Proofs.Library.Toggling
import SubtitleCoverage.Proofs.Library.BulkStatus
import SubtitleCoverage.Proofs.Library.PageWalk
import SubtitleCoverage.Proofs.Listing.Tiling
import SubtitleCoverage.Proofs.Jobs.Expiry
import SubtitleCoverage.Proofs.Listing.SettledEdits
import SubtitleCoverage.Proofs.Library.SettledSearch
import SubtitleCoverage.Proofs.Listing.Reruns
import SubtitleCoverage.Proofs.Language
import SubtitleCoverage.Proofs.Profile.ChainOrder
import SubtitleCoverage.Proofs.Coverage.Removal
import SubtitleCoverage.Proofs.Library.Deletion
