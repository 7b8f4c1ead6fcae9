import LogCourier.Depot.Call
import LogCourier.Depot.Step

/-!
Sessions: a depot with one caller at a time, whose calls the courier follows until it rests.

Of all orders in which the steps could come, a session has the one in which the caller acts as long
as it can, then the courier as long as it can, and time goes on only while both have to wait.
-/

namespace LogCourier

namespace Agent

/-- One step; signals come before orders, and orders before the timer. -/
def advance (agent : Agent) (depot : Depot) : Option (Depot × Agent) :=
  (agent.step .signal depot <|> agent.step .order depot) <|> agent.step .timer depot

/-- Acts as long as it can, up to a number of steps. -/
def run : Nat → Agent → Depot → Depot × Agent
  | 0, agent, depot => (depot, agent)
  | fuel + 1, agent, depot =>
    match agent.advance depot with
    | none => (depot, agent)
    | some (depot, agent) => agent.run fuel depot

/-- The deadline at which an agent that waits for a thread gives up. -/
def deadline? (agent : Agent) : Option Nat :=
  match agent.tasks with
  | .join since timeout :: _ => some (since + timeout.nanos)
  | _ => none

/-- The instant at which an agent that waits for things to do is woken by the timer. -/
def wake? (agent : Agent) : Option Nat :=
  match agent.tasks with
  | .select _ wake :: _ => some wake
  | _ => none

end Agent

namespace Depot

/-- More steps than an agent can take before it has to wait. -/
def effort (depot : Depot) (agent : Agent) : Nat :=
  -- What the transport will hand to the bridge can be read off the script.
  let foreseen := depot.script.replies.foldl
    (fun total reply => total + 1 + reply.records.length + reply.remarks.length) 0
  64 * (1 + depot.journal.length + depot.queue.waiting.length + depot.orders.length +
    agent.tasks.length + foreseen)

end Depot

/-- A depot and the courier, between the calls of a single caller. -/
structure Session where
  depot : Depot
  courier : Agent
  deriving DecidableEq

namespace Session

/-- The courier acts until it has to wait. -/
def settle (session : Session) : Session :=
  let (depot, courier) :=
    session.courier.run (session.depot.effort session.courier) session.depot
  ⟨depot, courier⟩

/-- The caller acts until it has to wait, and then the courier. -/
def attempt (session : Session) (caller : Agent) : Session × Agent :=
  let (depot, caller) := caller.run (session.depot.effort caller) session.depot
  ({ session with depot }.settle, caller)

/-- The session with its clock at an instant, unless that has passed. -/
def withClock (session : Session) (instant : Nat) : Session :=
  { session with depot := { session.depot with now := max session.depot.now instant } }

/-- The session at a later instant. -/
def moveTo (session : Session) (instant : Nat) : Session :=
  (session.withClock instant).settle

/-- Time goes on to an instant, and the courier is woken on the way, up to a number of times. -/
def passTo : Nat → Session → Nat → Session
  | 0, session, instant => session.moveTo instant
  | wakes + 1, session, instant =>
    match session.courier.wake? with
    | none => session.moveTo instant
    | some wake =>
      -- The courier is woken at its own instant, and may plan another wake before the end.
      if wake ≤ instant then (session.moveTo wake).passTo wakes instant else session.moveTo instant

/-- Time goes on to an instant. Between two wakes that come to nothing lies a whole interval. -/
def waitUntil (session : Session) (instant : Nat) : Session :=
  let interval := session.depot.settings.publishInterval.nanos
  session.passTo (4 + 2 * ((instant - session.depot.now) / interval)) instant

/-- Time goes on for a span. -/
def sleep (session : Session) (span : Span) : Session :=
  session.waitUntil (session.depot.now + span.nanos)

/-- Time goes on until the timer has taken what is waiting, up to a number of wakes. -/
def passTimer : Nat → Session → Session
  | 0, session => session
  | wakes + 1, session =>
    if session.depot.queue.length = 0 then session
    else
      match session.courier.wake? with
      | none => session
      | some wake =>
        -- A wake may find too little, and then the next one counts.
        let next := session.moveTo wake
        if next.depot.tally.timerFlushes = session.depot.tally.timerFlushes then
          next.passTimer wakes
        else next

/-- Time goes on until the timer has taken what is waiting: by a tick, or else as soon as the oldest
event turns stale. -/
def awaitTimer (session : Session) : Session :=
  session.passTimer 4

/-- A caller does its tasks. Whoever waits for the courier's thread lets it act, and only then lets
time go on. -/
def perform (session : Session) (tasks : List Task) : Session × Agent :=
  let (session, caller) := session.attempt (.ofTasks tasks)
  -- Now the thread may have ended that the caller waits for.
  let (session, caller) := session.attempt caller
  match caller.deadline? with
  | none => (session, caller)
  | some deadline => (session.waitUntil deadline).attempt caller

/-- A whole call. -/
def call (session : Session) (call : Call) : Session × Agent :=
  session.perform (call.tasks session.depot.settings)

/-- Sends that wait are let go on, one for each time. -/
def letGo (session : Session) : Session :=
  { session with depot := { session.depot with permits := session.depot.permits + 1 } }.settle

/-- A session over a fresh depot, with the courier started if the settings say so. -/
def launch (depot : Depot) : Session :=
  let session : Session := ⟨depot, .courier⟩
  if depot.settings.autoStart then (session.call .start).1 else session

end Session

end LogCourier
