import DialARide.CommandLine.Arguments
import DialARide.CommandLine.Directory
import DialARide.CommandLine.EnvFile
import DialARide.CommandLine.Run
import DialARide.Decimal.Binary
import DialARide.Decimal.Digit
import DialARide.Decimal.Numeral
import DialARide.Decimal.Shortest
import DialARide.Decimal.Text
import DialARide.Duration
import DialARide.Duration.Components
import DialARide.Duration.Text
import DialARide.Duration.Written
import DialARide.Fault
import DialARide.Insertion.Candidates
import DialARide.Insertion.Cost
import DialARide.Insertion.Legs
import DialARide.Insertion.Timing
import DialARide.Json.Document
import DialARide.Json.Error
import DialARide.Json.Number
import DialARide.Json.Reader
import DialARide.Json.Schema
import DialARide.Json.Shape
import DialARide.Location
import DialARide.Main
import DialARide.Proofs.Acceptance
import DialARide.Proofs.Candidates
import DialARide.Proofs.Carries
import DialARide.Proofs.Cheapest
import DialARide.Proofs.Checks
import DialARide.Proofs.Construction
import DialARide.Proofs.Cost
import DialARide.Proofs.Detour
import DialARide.Proofs.Doubles
import DialARide.Proofs.Exact
import DialARide.Proofs.FleetOrder
import DialARide.Proofs.FleetSearch
import DialARide.Proofs.LargerVehicle
import DialARide.Proofs.Listing
import DialARide.Proofs.Load
import DialARide.Proofs.Losses
import DialARide.Proofs.Naming
import DialARide.Proofs.Placement
import DialARide.Proofs.Pricing
import DialARide.Proofs.Punctuality
import DialARide.Proofs.RankOrder
import DialARide.Proofs.Ranking
import DialARide.Proofs.Relaxation
import DialARide.Proofs.Replay
import DialARide.Proofs.Ride
import DialARide.Proofs.Route
import DialARide.Proofs.Scan
import DialARide.Proofs.Schedule
import DialARide.Proofs.Slack
import DialARide.Proofs.Snapshot
import DialARide.Proofs.SnapshotSearch
import DialARide.Proofs.Tables
import DialARide.Proofs.TimeReference
import DialARide.Proofs.Timing
import DialARide.Proofs.Travel
import DialARide.Proofs.Waiting
import DialARide.Request
import DialARide.Scalar
import DialARide.Scalar.Double
import DialARide.Schedule.Entry
import DialARide.Schedule.Slack
import DialARide.Schedule.Waypoint
import DialARide.Search
import DialARide.Search.Result
import DialARide.Search.Settings
import DialARide.Search.SettingsFile
import DialARide.Snapshot
import DialARide.Snapshot.File
import DialARide.Text.Alphanumeric
import DialARide.Text.CharSet
import DialARide.Text.CharWidth
import DialARide.Text.Emoji
import DialARide.Text.Printable
import DialARide.Text.Quoted
import DialARide.Text.Table
import DialARide.Text.Width
import DialARide.Travel.Estimator
import DialARide.Travel.Matrix
import DialARide.Word
