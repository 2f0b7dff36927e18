import MixRounds.Codec.Payload
import MixRounds.Codec.Words
import MixRounds.Command.Arguments
import MixRounds.Command.Help
import MixRounds.Command.LogFilter
import MixRounds.Command.Pattern
import MixRounds.Command.Pattern.Bracket
import MixRounds.Command.Pattern.Escape
import MixRounds.Command.Pattern.Nesting
import MixRounds.Command.Program
import MixRounds.Decimal.Layout
import MixRounds.Decimal.Scan
import MixRounds.Decimal.Shortest
import MixRounds.Fault
import MixRounds.Instant.Basic
import MixRounds.Instant.Calendar
import MixRounds.Instant.Text
import MixRounds.Json.Pretty
import MixRounds.Json.Printer
import MixRounds.Json.Reader
import MixRounds.Json.Value
import MixRounds.Ledger.Row
import MixRounds.Ledger.Signed
import MixRounds.Ledger.UpdateLog
import MixRounds.Live.Apply
import MixRounds.Live.Assemble
import MixRounds.Live.Call
import MixRounds.Live.Channel
import MixRounds.Live.Iterate
import MixRounds.Live.Kill
import MixRounds.Live.Message
import MixRounds.Live.Move
import MixRounds.Live.Settle
import MixRounds.Live.Snapshot
import MixRounds.Live.Start
import MixRounds.Live.Worker
import MixRounds.Live.World
import MixRounds.Main
import MixRounds.Network
import MixRounds.Node.Activity
import MixRounds.Node.Basic
import MixRounds.Node.Handoff
import MixRounds.Node.Latch
import MixRounds.Node.Notification
import MixRounds.Node.Status
import MixRounds.Pool
import MixRounds.Proofs.Codec.Payload
import MixRounds.Proofs.Instant.Calendar
import MixRounds.Proofs.Instant.Text
import MixRounds.Proofs.Json.Reading
import MixRounds.Proofs.Json.Tokens
import MixRounds.Proofs.Ledger.Readers
import MixRounds.Proofs.Live.Absence
import MixRounds.Proofs.Live.Aftermath
import MixRounds.Proofs.Live.Agreement
import MixRounds.Proofs.Live.Annals
import MixRounds.Proofs.Live.Answering
import MixRounds.Proofs.Live.Apply
import MixRounds.Proofs.Live.Balance
import MixRounds.Proofs.Live.Banishment
import MixRounds.Proofs.Live.Books
import MixRounds.Proofs.Live.Broadcasts
import MixRounds.Proofs.Live.Clocks
import MixRounds.Proofs.Live.Conservation
import MixRounds.Proofs.Live.Course
import MixRounds.Proofs.Live.Custody
import MixRounds.Proofs.Live.Deadlines
import MixRounds.Proofs.Live.Delivery
import MixRounds.Proofs.Live.Desk
import MixRounds.Proofs.Live.Dispatch
import MixRounds.Proofs.Live.Draining
import MixRounds.Proofs.Live.Failure
import MixRounds.Proofs.Live.Formation
import MixRounds.Proofs.Live.Frame
import MixRounds.Proofs.Live.Handover
import MixRounds.Proofs.Live.History
import MixRounds.Proofs.Live.Ledger
import MixRounds.Proofs.Live.Locality
import MixRounds.Proofs.Live.Mail
import MixRounds.Proofs.Live.Membership
import MixRounds.Proofs.Live.Outcast
import MixRounds.Proofs.Live.Pacing
import MixRounds.Proofs.Live.Pages
import MixRounds.Proofs.Live.Patience
import MixRounds.Proofs.Live.Perseverance
import MixRounds.Proofs.Live.Picture
import MixRounds.Proofs.Live.Profile
import MixRounds.Proofs.Live.Punctuality
import MixRounds.Proofs.Live.Readiness
import MixRounds.Proofs.Live.Rebuff
import MixRounds.Proofs.Live.Reception
import MixRounds.Proofs.Live.Refusal
import MixRounds.Proofs.Live.Replies
import MixRounds.Proofs.Live.Reservation
import MixRounds.Proofs.Live.Rollback
import MixRounds.Proofs.Live.Roster
import MixRounds.Proofs.Live.Scene
import MixRounds.Proofs.Live.Sending
import MixRounds.Proofs.Live.Shutdown
import MixRounds.Proofs.Live.Standing
import MixRounds.Proofs.Live.Start
import MixRounds.Proofs.Live.Stranding
import MixRounds.Proofs.Live.Straying
import MixRounds.Proofs.Live.Strikes
import MixRounds.Proofs.Live.Teams
import MixRounds.Proofs.Live.Telling
import MixRounds.Proofs.Live.Timers
import MixRounds.Proofs.Live.Timetable
import MixRounds.Proofs.Live.Tracking
import MixRounds.Proofs.Live.Trials
import MixRounds.Proofs.Live.Waiting
import MixRounds.Proofs.Live.Winding
import MixRounds.Proofs.Network
import MixRounds.Proofs.Node.Wakeup
import MixRounds.Proofs.Picking
import MixRounds.Proofs.Pool
import MixRounds.Proofs.Round.Lifecycle
import MixRounds.Proofs.Round.Numbers
import MixRounds.Proofs.Settings.Sufficiency
import MixRounds.Proofs.Sweeping
import MixRounds.Proofs.Table
import MixRounds.Proofs.Team.Cheapest
import MixRounds.Proofs.Team.Enumeration
import MixRounds.Proofs.Team.Relay
import MixRounds.Proofs.Team.Visits
import MixRounds.Region
import MixRounds.Round.Basic
import MixRounds.Round.Id
import MixRounds.Round.Phase
import MixRounds.Round.Record
import MixRounds.Round.Signal
import MixRounds.Settings.Basic
import MixRounds.Settings.File
import MixRounds.Settings.Locate
import MixRounds.Signature.Curve
import MixRounds.Signature.Scheme
import MixRounds.Signature.Sha512
import MixRounds.Simulation.Drive
import MixRounds.Simulation.Script
import MixRounds.Table
import MixRounds.Team.Latency
import MixRounds.Team.Order
import MixRounds.Team.Permutation
import MixRounds.Team.Proto
import MixRounds.Text.Alphanumeric
import MixRounds.Text.Blank
import MixRounds.Text.Hex
import MixRounds.Text.Quoted
import MixRounds.Text.Runs
import MixRounds.Text.Visible
import MixRounds.Yaml.Cursor
import MixRounds.Yaml.Document
import MixRounds.Yaml.Event
import MixRounds.Yaml.Layout
import MixRounds.Yaml.Property
import MixRounds.Yaml.Scalar
import MixRounds.Yaml.Token
import MixRounds.Yaml.Value
