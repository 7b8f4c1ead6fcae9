import LogCourier.Bridge
import LogCourier.Console
import LogCourier.DeliveryError
import LogCourier.Depot.Basic
import LogCourier.Depot.Call
import LogCourier.Depot.Session
import LogCourier.Depot.Step
import LogCourier.Depot.Task
import LogCourier.Depot.World
import LogCourier.Event.Attributes
import LogCourier.Event.Basic
import LogCourier.Event.Failure
import LogCourier.Event.Field
import LogCourier.Event.Submission
import LogCourier.Exchange
import LogCourier.Json.Decoder
import LogCourier.Json.Literal
import LogCourier.Json.Numeral
import LogCourier.Json.Outline
import LogCourier.Json.Value
import LogCourier.Notice
import LogCourier.Number.Digits
import LogCourier.Number.Layout
import LogCourier.Number.Rounding
import LogCourier.Number.Shortest
import LogCourier.Payload.Basic
import LogCourier.Payload.Checksum
import LogCourier.Proofs.Console.Lines
import LogCourier.Proofs.Depot.Accounting
import LogCourier.Proofs.Depot.Aftermath
import LogCourier.Proofs.Depot.Agreement
import LogCourier.Proofs.Depot.Banner
import LogCourier.Proofs.Depot.Bench
import LogCourier.Proofs.Depot.Chronicle
import LogCourier.Proofs.Depot.Complaints
import LogCourier.Proofs.Depot.Containment
import LogCourier.Proofs.Depot.Conversation
import LogCourier.Proofs.Depot.Course
import LogCourier.Proofs.Depot.Custody
import LogCourier.Proofs.Depot.Dates
import LogCourier.Proofs.Depot.Deadlines
import LogCourier.Proofs.Depot.Deed
import LogCourier.Proofs.Depot.Display
import LogCourier.Proofs.Depot.Echo
import LogCourier.Proofs.Depot.Exclusion
import LogCourier.Proofs.Depot.Flushing
import LogCourier.Proofs.Depot.Glossing
import LogCourier.Proofs.Depot.Handover
import LogCourier.Proofs.Depot.Marking
import LogCourier.Proofs.Depot.Onward
import LogCourier.Proofs.Depot.Outcomes
import LogCourier.Proofs.Depot.Pacing
import LogCourier.Proofs.Depot.Post
import LogCourier.Proofs.Depot.Progress
import LogCourier.Proofs.Depot.Ripening
import LogCourier.Proofs.Depot.Sealing
import LogCourier.Proofs.Depot.Serving
import LogCourier.Proofs.Depot.Shutdown
import LogCourier.Proofs.Depot.Silence
import LogCourier.Proofs.Depot.Staffing
import LogCourier.Proofs.Depot.Traffic
import LogCourier.Proofs.Depot.Twins
import LogCourier.Proofs.Depot.Waking
import LogCourier.Proofs.Event.Canonical
import LogCourier.Proofs.Event.Reading
import LogCourier.Proofs.Event.Rearranging
import LogCourier.Proofs.Event.Slots
import LogCourier.Proofs.Event.Wire
import LogCourier.Proofs.Json.Doubles
import LogCourier.Proofs.Json.Grammar
import LogCourier.Proofs.Json.Integers
import LogCourier.Proofs.Json.Literals
import LogCourier.Proofs.Json.Recognition
import LogCourier.Proofs.Json.Scanning
import LogCourier.Proofs.Payload.RoundTrip
import LogCourier.Proofs.Queue.Ages
import LogCourier.Proofs.Queue.Contents
import LogCourier.Proofs.Queue.Mapping
import LogCourier.Proofs.Queue.Sections
import LogCourier.Proofs.Queue.Signal
import LogCourier.Proofs.Queue.Sound
import LogCourier.Proofs.Settings.Diagnosis
import LogCourier.Proofs.Settings.Naming
import LogCourier.Proofs.Settings.Notation
import LogCourier.Proofs.Settings.Precedence
import LogCourier.Proofs.Settings.Restating
import LogCourier.Proofs.Text.ByteOrder
import LogCourier.Proofs.Text.Printable
import LogCourier.Proofs.Text.Trimming
import LogCourier.Proofs.Time.Tenths
import LogCourier.Queue
import LogCourier.Settings.Basic
import LogCourier.Settings.Choice
import LogCourier.Settings.Environment
import LogCourier.Settings.Overflow
import LogCourier.Settings.Resolve
import LogCourier.Severity
import LogCourier.Tally
import LogCourier.Text.Blank
import LogCourier.Text.Case
import LogCourier.Text.Hidden
import LogCourier.Text.Quoted
import LogCourier.Time.Span
import LogCourier.Time.Timestamp
