import LogCourier.Bridge
import LogCourier.Notice
import LogCourier.Tally

/-!
Tasks: the uninterruptible steps of which every call and the courier's own work consist.

An agent is whoever acts: a caller, or the courier on a thread of its own. It owns nothing but the
tasks that it still has to do; all else is shared and lives in the depot.
-/

namespace LogCourier

/-- Where the courier stands in its life. -/
inductive Phase where
  /-- Not started. -/
  | idle
  /-- Waiting for something to do. -/
  | waiting
  /-- Taking and sending a batch. -/
  | flushing
  /-- Asked to stop. -/
  | shuttingDown
  /-- Taking and sending the last batch. -/
  | finalFlush
  /-- Done for good. -/
  | stopped
  deriving DecidableEq, Repr

namespace Phase

/-- The name of a phase. -/
def name : Phase → String
  | idle => "Idle"
  | waiting => "Waiting"
  | flushing => "Flushing"
  | shuttingDown => "ShuttingDown"
  | finalFlush => "FinalFlush"
  | stopped => "Stopped"

end Phase

/-- Why a batch is taken before the last one. -/
inductive Trigger where
  /-- The queue asked for it. -/
  | size
  /-- Its time had come. -/
  | timer
  /-- A caller asked for it. -/
  | request
  deriving DecidableEq, Repr

namespace Trigger

/-- What a batch with this trigger counts as, besides being a batch. -/
def counter? : Trigger → Option Counter
  | size => some .sizeFlush
  | timer => some .timerFlush
  | request => none

end Trigger

/-- What a caller asks of the courier on its thread. -/
inductive Order where
  | flush
  /-- To send what is left within a time, and then to leave. -/
  | stop (deadline : Span)
  deriving DecidableEq, Repr

/-- One uninterruptible step. -/
inductive Task where
  /-- Counts and stamps an occurrence. -/
  | submit (submission : Submission)
  /-- Hands a record of the logging facade to the bridge. -/
  | bridge (record : Record)
  /-- Arms the banner. -/
  | arm
  /-- Looks whether the banner is armed. -/
  | checkBanner
  /-- Disarms the banner, and shows it if it was still armed. -/
  | claimBanner
  /-- Shows an event on the console. -/
  | echo (event : Event)
  /-- Looks whether the courier may still be given an event. -/
  | offer (event : Event)
  /-- Puts an event into the queue. -/
  | append (event : Event)
  /-- Asks that the queue be emptied. -/
  | signal
  | count (counter : Counter)
  | tell (notice : Notice)
  | enter (phase : Phase)
  /-- Begins to take a batch. -/
  | flushFor (trigger : Trigger)
  /-- Takes what is waiting. -/
  | drain (trigger : Trigger)
  /-- Hands a batch to the transport. -/
  | send (batch : List Event) (timeout : Span)
  /-- Waits, inside a send, until it is let go on. -/
  | await
  /-- Ends a send. -/
  | settle (wasSending : Bool) (batch : List Event) (outcome : Outcome)
  /-- Shows the events of a batch that could not be delivered. -/
  | fallBack (events : List Event)
  | flushSink
  /-- Begins the last flush. -/
  | finish (deadline : Span)
  /-- Closes the queue and takes what is left. -/
  | closeQueue (timeout : Span)
  /-- Begins to wait for things to do. -/
  | begin
  /-- Waits again, with the next tick of the timer at an instant. -/
  | idle (tick : Nat)
  /-- Reads the clock before a wait. -/
  | schedule (tick : Nat)
  /-- Works out when to wake. -/
  | plan (tick asked : Nat)
  /-- Waits for a signal, an order or the timer. -/
  | select (tick wake : Nat)
  /-- Looks whether the queue is still full. -/
  | checkFull
  /-- Looks whether enough is waiting for the timer to take it. -/
  | checkReady
  /-- Looks whether something has been waiting for long enough. -/
  | checkAge
  /-- Sets the next tick after the timer fired. -/
  | retick (tick : Nat)
  /-- Lets go of the courier's belongings. -/
  | release
  /-- Leaves the thread. -/
  | exit
  | start
  /-- Hands the courier to a thread of its own. -/
  | hire
  | flush
  /-- Passes the order to flush on, or flushes on the spot. -/
  | order
  | unlock
  | stop (timeout : Span)
  /-- Takes the courier, or the handle of its thread, away from its desk. -/
  | takeOver (timeout : Span)
  /-- Orders the courier to stop. -/
  | dismiss (timeout : Span)
  /-- Waits for the courier's thread to end. -/
  | join (since : Nat) (timeout : Span)
  | answer (value : Bool)
  /-- Tells at the end what was lost. -/
  | reportLosses
  deriving DecidableEq

namespace Task

/-- Whether a task is done even when a crash makes an agent give up all others. -/
def isCleanup : Task → Bool
  -- What others wait for must not be left undone.
  | release => true
  | exit => true
  | unlock => true
  | _ => false

end Task

/-- Whoever acts, with the tasks still to do, first things first. -/
structure Agent where
  tasks : List Task
  /-- Whether it is inside a send. -/
  sending : Bool
  /-- What its call answered. -/
  answer : Option Bool
  /-- The crash that made it give up. -/
  crash : Option Crash
  deriving DecidableEq

namespace Agent

/-- An agent with tasks to do. -/
def ofTasks (tasks : List Task) : Agent := ⟨tasks, false, none, none⟩

/-- The agent with tasks to do before all others. -/
def push (agent : Agent) (tasks : List Task) : Agent :=
  { agent with tasks := tasks ++ agent.tasks }

/-- The agent with an answer. -/
def reply (agent : Agent) (value : Bool) : Agent :=
  { agent with answer := some value }

/-- The agent after a crash that nobody caught: only what must be put back is put back. -/
def unwind (agent : Agent) (crash : Crash) : Agent :=
  { agent with tasks := agent.tasks.filter Task.isCleanup, crash := some crash }

/-- The courier on a thread of its own. -/
def courier : Agent := ofTasks [.begin, .release, .exit]

@[simp] theorem courier_tasks : courier.tasks = [.begin, .release, .exit] := rfl

@[simp] theorem courier_sending : courier.sending = false := rfl

@[simp] theorem courier_crash : courier.crash = none := rfl

end Agent

end LogCourier
