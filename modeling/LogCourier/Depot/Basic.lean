import LogCourier.Depot.Task
import LogCourier.Payload.Basic
import LogCourier.Queue
import LogCourier.Settings.Basic

/-!
The depot: everything that callers and the courier share.

It also holds what lies outside: the clocks, how calls into foreign code will end, and a journal of
everything that has happened.
-/

namespace LogCourier

/-- What the transport does with one batch before its send ends. -/
structure Reply where
  /-- Records that it hands to the logging facade. -/
  records : List Record
  /-- Messages that it logs directly. -/
  remarks : List (Severity × String)
  /-- Whether it waits until it is let go on. -/
  waits : Bool
  outcome : Outcome
  deriving DecidableEq

namespace Reply

/-- A delivery without anything else. -/
instance : Inhabited Reply := ⟨⟨[], [], false, .ok⟩⟩

end Reply

/-- How calls into foreign code end, in the order of the calls; calls beyond a list succeed. -/
structure Script where
  replies : List Reply
  writes : List Outcome
  flushes : List Outcome
  /-- Why no thread can be had, where none can. -/
  threads : List (Option String) := []
  deriving DecidableEq

namespace Script

/-- Everything succeeds. -/
def smooth : Script := ⟨[], [], [], []⟩

/-- The end of the next send. -/
def nextReply (script : Script) : Script × Reply :=
  ({ script with replies := script.replies.tail }, script.replies.headD default)

/-- The end of the next write to the sink. -/
def nextWrite (script : Script) : Script × Outcome :=
  ({ script with writes := script.writes.tail }, script.writes.headD .ok)

/-- The end of the next flush of the sink. -/
def nextFlush (script : Script) : Script × Outcome :=
  ({ script with flushes := script.flushes.tail }, script.flushes.headD .ok)

/-- Whether the next thread is refused, and why. -/
def nextThread (script : Script) : Script × Option String :=
  ({ script with threads := script.threads.tail }, script.threads.headD none)

end Script

/-- Who has the courier. -/
inductive Holder where
  /-- It is at its desk, not started. -/
  | desk
  | thread
  /-- The caller who stops it has it. -/
  | caller
  /-- It is gone, or there never was one. -/
  | nobody
  deriving DecidableEq, Repr

/-- The state of the courier's thread. -/
inductive Thread where
  | none
  /-- It could not be had. -/
  | refused
  | running
  | exited
  | crashed
  deriving DecidableEq, Repr

/-- Something that happened. -/
inductive Occurrence where
  | submitted (event : Event)
  /-- An event came to the door of the queue. -/
  | arrived (event : Event) (entry : Entry)
  /-- A waiting event had to leave. -/
  | evicted (event : Event)
  /-- An event was turned away, because the courier had been stopped. -/
  | turnedAway (event : Event)
  | sent (batch : List Event) (payload : Payload) (timeout : Span) (sending : Bool)
  /-- A send ended. -/
  | ended (batch : List Event) (outcome : Outcome)
  | shown (event : Event) (outcome : Outcome)
  | sinkFlushed (outcome : Outcome)
  | told (notice : Notice)
  | entered (phase : Phase)
  | closed
  deriving DecidableEq

/-- Everything that callers and the courier share. -/
structure Depot where
  settings : Settings
  /-- What the bridge lets through. -/
  threshold : Threshold
  transportName : String
  sinkName : String
  queue : Queue Event
  tally : Tally
  /-- Whether the banner is still to be shown. -/
  armed : Bool
  phase : Phase
  holder : Holder
  /-- Whether the handle of the courier's thread is at its desk. -/
  handle : Bool
  /-- Whether somebody has the lock of the desk. -/
  locked : Bool
  stopped : Bool
  /-- The orders that wait for the courier. -/
  orders : List Order
  /-- Whether there is still somebody to receive orders and signals. -/
  listening : Bool
  thread : Thread
  /-- The clock that never goes back, in nanoseconds. -/
  now : Nat
  /-- The time of day. -/
  wall : Timestamp
  /-- How often waiting sends have been let go on. -/
  permits : Nat
  script : Script
  /-- What happened, the latest first. -/
  journal : List Occurrence
  deriving DecidableEq

namespace Depot

/-- A depot before anything has happened. Without an endpoint there is no courier, only a banner. -/
def create (settings : Settings) (threshold : Threshold) (transportName sinkName : String)
    (wall : Timestamp) (script : Script) : Depot where
  settings := settings
  threshold := threshold
  transportName := transportName
  sinkName := sinkName
  queue := Queue.create settings.maxBatch settings.overflow
  tally := .zero
  -- Only where nothing is sent there is something to be told.
  armed := !settings.isRemote
  phase := .idle
  -- The courier stays at its desk until somebody starts or stops it.
  holder := if settings.isRemote then .desk else .nobody
  handle := false
  locked := false
  stopped := false
  orders := []
  listening := settings.isRemote
  thread := .none
  now := 0
  wall := wall
  permits := 0
  script := script
  journal := []

/-- The depot with one more entry in its journal. -/
def note (depot : Depot) (occurrence : Occurrence) : Depot :=
  { depot with journal := occurrence :: depot.journal }

/-- The depot with one more of a kind counted. -/
def count (depot : Depot) (counter : Counter) : Depot :=
  { depot with tally := depot.tally.count counter }

/-- The depot after the operator was told something. -/
def tell (depot : Depot) (notice : Notice) : Depot :=
  depot.note (.told notice)

/-- The depot in another phase. -/
def enter (depot : Depot) (phase : Phase) : Depot :=
  { depot with phase := phase }.note (.entered phase)

/-- Whether the courier is at work on its thread, as far as its desk knows. -/
def isRunning (depot : Depot) : Bool :=
  depot.handle && depot.thread = .running

/-- The number of events that wait. -/
def pending (depot : Depot) : Nat :=
  depot.queue.length

end Depot

end LogCourier
