import LogCourier.Depot.Basic

/-!
Steps: what each task does to the depot and to the agent whose task it is.

A step either happens as a whole or not at all; an agent whose next task cannot happen yet waits.
Whatever order the steps of several agents come in, this is the only way the depot changes, apart
from the clocks going on and waiting sends being let go on.
-/

namespace LogCourier

/-- What the courier attends to, when it has a choice. -/
inductive Choice where
  | signal | order | timer
  deriving DecidableEq, Repr

/-- The tasks of counting a warning and giving it. -/
def warn (notice : Notice) : List Task :=
  [.count .warning, .tell notice]

namespace Depot

/-- The tasks that follow once an event is stamped. -/
def acceptance (depot : Depot) (event : Event) : List Task :=
  let remote := depot.settings.isRemote
  let echo := depot.settings.echo
  -- Without an endpoint nothing is queued, and what is not echoed either is lost.
  (if remote then [] else [.checkBanner]) ++ (if echo then [.echo event] else []) ++
    (if remote then [.offer event] else if echo then [] else [.count .dropped])

/-- The tasks of a call that has stopped the courier. -/
def conclusion (depot : Depot) : List Task :=
  (if depot.settings.echo then [.flushSink] else []) ++ [.answer true]

/-- The time that the last send may take: less than the one who stops the courier will wait. -/
def lastTimeout (depot : Depot) (deadline : Span) : Span :=
  depot.settings.sendTimeout.min deadline.nineTenths

/-- An event is counted, stamped and passed on. -/
def submit (depot : Depot) (agent : Agent) (submission : Submission) : Depot × Agent :=
  -- It is counted before anything else can become of it.
  let event := submission.event depot.wall depot.settings.origin
  ((depot.count .submitted).note (.submitted event), agent.push (depot.acceptance event))

/-- The banner is disarmed by whoever comes first, and that one shows it. -/
def claimBanner (depot : Depot) (agent : Agent) : Depot × Agent :=
  ({ depot with armed := false },
    if depot.armed then (agent.reply true).push (warn .disabled) else agent.reply false)

/-- An event is shown; a crash of the sink is a failure like others. -/
def echo (depot : Depot) (agent : Agent) (event : Event) : Depot × Agent :=
  let (script, outcome) := depot.script.nextWrite
  ({ depot with script }.note (.shown event outcome),
    match outcome.error? depot.sinkName with
    | none => agent.push [.count .shown]
    | some error => agent.push (warn (.consoleFailed error)))

/-- An event comes to the door of the queue, where another may have to leave for it. -/
def append (depot : Depot) (agent : Agent) (event : Event) : Depot × Agent :=
  let (queue, entry) := depot.queue.push depot.now event
  let arrived := { depot with queue }.note (.arrived event entry)
  -- With a ceiling of nothing there is no oldest one to leave.
  let depot := match entry, depot.queue.waiting with
    | .displacing, oldest :: _ => arrived.note (.evicted oldest)
    | _, _ => arrived
  -- The queue asks as it is left, with the new event in it.
  (depot, agent.push (.count entry.counter :: (if queue.asks entry then [.signal] else [])))

/-- The queue asks to be emptied, if there is somebody to ask. -/
def signal (depot : Depot) : Depot :=
  if depot.listening then { depot with queue := depot.queue.offerSignal } else depot

/-- What is waiting is taken, and sent unless it is nothing. -/
def drain (depot : Depot) (agent : Agent) (trigger : Trigger) : Depot × Agent :=
  let (queue, batch) := depot.queue.drain
  ({ depot with queue },
    -- A flush that finds nothing is not counted.
    if batch.isEmpty then agent
    else agent.push <|
      (trigger.counter?.map Task.count).toList ++ [.send batch depot.settings.sendTimeout])

/-- What is left is taken, and sent unless it is nothing; nothing can follow it. -/
def closeQueue (depot : Depot) (agent : Agent) (timeout : Span) : Depot × Agent :=
  let (queue, batch) := depot.queue.close
  ({ depot with queue }.note .closed,
    if batch.isEmpty then agent else agent.push [.send batch timeout])

/-- A batch goes to the transport, which may log on the way and wait. -/
def send (depot : Depot) (agent : Agent) (batch : List Event) (timeout : Span) : Depot × Agent :=
  let (script, reply) := depot.script.nextReply
  let payload := Payload.encode batch depot.settings.compression
  let remark (pair : Severity × String) := Task.submit (Submission.ofMessage pair.1 pair.2)
  -- Records that arise inside the send are passed over by the bridge.
  let inside := { agent with sending := true }
  let pause : List Task := if reply.waits then [.await] else []
  ({ depot with script }.note (.sent batch payload timeout inside.sending),
    inside.push <|
      reply.records.map Task.bridge ++ reply.remarks.map remark ++ pause ++
        [Task.settle agent.sending batch reply.outcome])

/-- A send has ended; a batch that failed is given up, and shown if it has not been shown before. -/
def settle (depot : Depot) (agent : Agent) (wasSending : Bool) (batch : List Event)
    (outcome : Outcome) : Depot × Agent :=
  -- The mark of sending is put back whatever came of it.
  let agent := { agent with sending := wasSending }
  let depot := depot.note (.ended batch outcome)
  match outcome.error? depot.transportName with
  | none => ({ depot with tally := depot.tally.delivered batch.length }, agent)
  | some error =>
    ({ depot with tally := depot.tally.failed batch.length },
      agent.push <|
        warn (.dropping error batch.length) ++
          (if depot.settings.echo then [] else [.fallBack batch]))

/-- The events of a failed batch are shown one by one until one cannot be shown. -/
def fallBack (depot : Depot) (agent : Agent) : List Event → Depot × Agent
  | [] => (depot, agent.push [.flushSink])
  | event :: rest =>
    let (script, outcome) := depot.script.nextWrite
    ({ depot with script }.note (.shown event outcome),
      match outcome with
      -- A failure ends the showing, and a crash is caught by nobody.
      | .ok => agent.push [.count .shown, .fallBack rest]
      | .failed error => agent.push (warn (.consoleFailed error))
      | .crashed crash => agent.unwind crash)

/-- The sink is flushed. -/
def flushSink (depot : Depot) (agent : Agent) : Depot × Agent :=
  let (script, outcome) := depot.script.nextFlush
  ({ depot with script }.note (.sinkFlushed outcome),
    match outcome with
    | .ok => agent
    | .failed error => agent.push (warn (.consoleFailed error))
    | .crashed crash => agent.unwind crash)

/-- The courier attends to something, if it is there. -/
def select (depot : Depot) (agent : Agent) (tick wake : Nat) : Choice → Option (Depot × Agent)
  | .signal =>
    let (queue, found) := depot.queue.takeSignal
    if found then some ({ depot with queue }, agent.push [.checkFull, .idle tick]) else none
  | .order =>
    match depot.orders with
    | [] => none
    | .flush :: orders =>
      some ({ depot with orders }, agent.push [.flushFor .request, .idle tick])
    | .stop deadline :: orders => some ({ depot with orders }, agent.push [.finish deadline])
  | .timer =>
    if wake ≤ depot.now then some (depot, agent.push [.checkReady, .retick tick]) else none

/-- Whether the timer takes a batch depends on how much is waiting, or else on how long. -/
def checkReady (depot : Depot) (agent : Agent) : Agent :=
  if depot.queue.length = 0 then agent
  else if depot.settings.minBatch ≤ depot.queue.length then agent.push [.flushFor .timer]
  else agent.push [.checkAge]

/-- What the courier had is gone, and with it all that nobody will attend to any more. -/
def release (depot : Depot) : Depot :=
  { depot with
    holder := .nobody
    listening := false
    -- Orders and signals that nobody took are forgotten.
    orders := []
    queue := depot.queue.takeSignal.1 }

/-- The courier is lost with a thread that could not be had. -/
def lose (depot : Depot) (cause : String) : Depot :=
  -- The queue stays open, although nobody will empty it any more.
  ({ (depot.enter .waiting).release with thread := .refused }.enter .stopped).tell (.noThread cause)

/-- The courier is handed to a thread, once. -/
def hire (depot : Depot) (agent : Agent) : Depot × Agent :=
  if !depot.handle && depot.holder = .desk then
    let (script, refusal) := depot.script.nextThread
    match refusal with
    | none =>
      -- The handle stays at the desk until somebody stops the courier.
      ({ depot with script, holder := .thread, handle := true, thread := .running }.enter .waiting,
        agent.reply true)
    | some cause => ({ depot with script }.lose cause, agent.reply false)
  else (depot, agent.reply false)

/-- A flush is ordered from the thread, or done on the spot while the desk stays locked. -/
def order (depot : Depot) (agent : Agent) : Depot × Agent :=
  if depot.handle then
    -- A thread that has ended early hears no order.
    if depot.listening then ({ depot with orders := depot.orders ++ [.flush] }, agent.reply true)
    else (depot, agent.reply false)
  else if depot.holder = .desk then
    -- Until the lock is opened nobody else can take the courier.
    ({ depot with locked := true },
      agent.push [.flushFor .request, .enter .idle, .unlock, .answer true])
  else (depot, agent.reply false)

/-- Whoever stops the courier first takes it away, or the handle of its thread. -/
def takeOver (depot : Depot) (agent : Agent) (timeout : Span) : Depot × Agent :=
  if depot.handle then ({ depot with handle := false }, agent.push [.dismiss timeout])
  else if depot.holder = .desk then
    ({ depot with holder := .caller }, agent.push (.finish timeout :: .release :: depot.conclusion))
  else (depot, agent.push (.enter .stopped :: depot.conclusion))

/-- The order to stop is sent, and then its execution is waited for. -/
def dismiss (depot : Depot) (agent : Agent) (timeout : Span) : Depot × Agent :=
  (if depot.listening then { depot with orders := depot.orders ++ [.stop timeout] }
    else depot.tell .goneEarly,
    agent.push [.join depot.now timeout])

/-- The thread is waited for until it ends, and not beyond the deadline. -/
def join (depot : Depot) (agent : Agent) (since : Nat) (timeout : Span) : Option (Depot × Agent) :=
  match depot.thread with
  | .exited => some (depot, agent.push depot.conclusion)
  | .crashed => some (depot.tell .crashedStopping, agent.reply false)
  -- A thread that still runs is left alone at the deadline.
  | _ =>
    if since + timeout.nanos ≤ depot.now then
      some (depot.tell (.overdue timeout), agent.reply false)
    else none

/-- At the end the operator is told of losses. -/
def reportLosses (depot : Depot) : Depot :=
  if depot.tally.lost = 0 then depot
  else depot.tell (.undelivered depot.tally.lost.toNat depot.tally.lossRate)

/-- What a task does, if it can be done now. The agent has the tasks that come after it. -/
def act (depot : Depot) (agent : Agent) (choice : Choice) : Task → Option (Depot × Agent)
  | .submit submission => some (depot.submit agent submission)
  | .bridge record =>
    some (depot, if record.passes depot.threshold agent.sending then
      agent.push [.submit record.submission] else agent)
  | .arm => some ({ depot with armed := true }, agent)
  | .checkBanner =>
    some (depot, if depot.armed then agent.push [.claimBanner] else agent.reply false)
  | .claimBanner => some (depot.claimBanner agent)
  | .echo event => some (depot.echo agent event)
  | .offer event =>
    some <| if depot.stopped then (depot.note (.turnedAway event), agent.push [.count .dropped])
      else (depot, agent.push [.append event])
  | .append event => some (depot.append agent event)
  | .signal => some (depot.signal, agent)
  | .count counter => some (depot.count counter, agent)
  | .tell notice => some (depot.tell notice, agent)
  | .enter phase => some (depot.enter phase, agent)
  | .flushFor trigger => some (depot.enter .flushing, agent.push [.drain trigger])
  | .drain trigger => some (depot.drain agent trigger)
  | .send batch timeout => some (depot.send agent batch timeout)
  | .await =>
    -- Each time that sends are let go on is for one of them.
    if depot.permits = 0 then none else some ({ depot with permits := depot.permits - 1 }, agent)
  | .settle wasSending batch outcome => some (depot.settle agent wasSending batch outcome)
  | .fallBack events => some (depot.fallBack agent events)
  | .flushSink => some (depot.flushSink agent)
  | .finish deadline =>
    some (depot.enter .shuttingDown, agent.push
      [.enter .finalFlush, .closeQueue (depot.lastTimeout deadline), .enter .stopped])
  | .closeQueue timeout => some (depot.closeQueue agent timeout)
  | .begin =>
    if depot.thread = .running then
      some (depot, agent.push [.idle (depot.now + depot.settings.publishInterval.nanos)])
    else none
  | .idle tick => some (depot.enter .waiting, agent.push [.schedule tick])
  | .schedule tick => some (depot, agent.push [.plan tick depot.now])
  | .plan tick asked =>
    -- The instant was read before the age of the queue, for they are not read at once.
    let wake := depot.queue.nextWake depot.now asked tick depot.settings.publishInterval
    -- What is waited for is a length of time, and it begins only now.
    some (depot, agent.push [.select tick (depot.now + (wake - asked))])
  | .select tick wake => depot.select agent tick wake choice
  | .checkFull => some (depot, if depot.queue.isFull then agent.push [.flushFor .size] else agent)
  | .checkReady => some (depot, depot.checkReady agent)
  | .checkAge =>
    some (depot, if depot.queue.isStale depot.now depot.settings.publishInterval then
      agent.push [.flushFor .timer] else agent)
  | .retick tick =>
    let next := if tick ≤ depot.now then depot.now + depot.settings.publishInterval.nanos else tick
    some (depot, agent.push [.idle next])
  | .release => some (depot.release, agent)
  | .exit =>
    some ({ depot with thread := if agent.crash.isSome then .crashed else .exited }, agent)
  | .start =>
    some (depot, if depot.stopped then agent.reply false else agent.push [.hire])
  -- Whoever needs what is at the desk waits for its lock.
  | .hire => if depot.locked then none else some (depot.hire agent)
  | .flush => some (depot, if depot.stopped then agent.reply false else agent.push [.order])
  | .order => if depot.locked then none else some (depot.order agent)
  | .unlock => some ({ depot with locked := false }, agent)
  | .stop timeout =>
    -- Only the first stop does anything; later ones answer as if they had.
    some ({ depot with stopped := true },
      if depot.stopped then agent.reply true else agent.push [.takeOver timeout])
  | .takeOver timeout => if depot.locked then none else some (depot.takeOver agent timeout)
  | .dismiss timeout => some (depot.dismiss agent timeout)
  | .join since timeout => depot.join agent since timeout
  | .answer value => some (depot, agent.reply value)
  | .reportLosses => some (depot.reportLosses, agent)

end Depot

namespace Agent

/-- The next step of an agent, if it has one and can take it now. -/
def step (agent : Agent) (choice : Choice) (depot : Depot) : Option (Depot × Agent) :=
  match agent.tasks with
  | [] => none
  | task :: rest => depot.act { agent with tasks := rest } choice task

end Agent

end LogCourier
