import LogCourier.Depot.World

/-! Deeds: everything that one step can do, and under which condition it does so. -/

namespace LogCourier

namespace Task

/-- Whether a task belongs to handing in an event, or merely counts or tells something. -/
def isIntake : Task → Bool
  | .submit _ | .bridge _ | .arm | .checkBanner | .claimBanner | .echo _ => true
  | .offer _ | .append _ | .signal | .count _ | .tell _ => true
  | _ => false

/-- Whether a task belongs to taking a batch and delivering it. -/
def isDelivery : Task → Bool
  | .flushFor _ | .drain _ | .send .. | .await | .settle .. | .fallBack _ | .flushSink => true
  | .checkFull | .checkReady | .checkAge => true
  | _ => false

/-- Whether a task decides who has the courier, or what the courier does next. -/
def isDuty (task : Task) : Bool :=
  !task.isIntake && !task.isDelivery

end Task

/-- What a task of handing in an event does. -/
inductive Intake (depot : Depot) (agent : Agent) : Task → Depot → Agent → Prop where
  | submit (submission : Submission) (event : Event)
      (stamped : event = submission.event depot.wall depot.settings.origin) :
      Intake depot agent (.submit submission) ((depot.count .submitted).note (.submitted event))
        (agent.push (depot.acceptance event))
  | bridge (record : Record) (passes : record.passes depot.threshold agent.sending = true) :
      Intake depot agent (.bridge record) depot (agent.push [.submit record.submission])
  | overlook (record : Record) (stays : record.passes depot.threshold agent.sending = false) :
      Intake depot agent (.bridge record) depot agent
  | arm : Intake depot agent .arm { depot with armed := true } agent
  | seeBanner (armed : depot.armed = true) :
      Intake depot agent .checkBanner depot (agent.push [.claimBanner])
  | seeNothing (unarmed : depot.armed = false) :
      Intake depot agent .checkBanner depot (agent.reply false)
  | claim (armed : depot.armed = true) :
      Intake depot agent .claimBanner { depot with armed := false }
        ((agent.reply true).push (warn .disabled))
  | comeLate (unarmed : depot.armed = false) :
      Intake depot agent .claimBanner { depot with armed := false } (agent.reply false)
  | echo (event : Event) (outcome : Outcome) (drawn : depot.script.nextWrite.2 = outcome)
      (worked : outcome.error? depot.sinkName = none) :
      Intake depot agent (.echo event)
        ({ depot with script := depot.script.nextWrite.1 }.note (.shown event outcome))
        (agent.push [.count .shown])
  | echoFails (event : Event) (outcome : Outcome) (error : DeliveryError)
      (drawn : depot.script.nextWrite.2 = outcome)
      (failed : outcome.error? depot.sinkName = some error) :
      Intake depot agent (.echo event)
        ({ depot with script := depot.script.nextWrite.1 }.note (.shown event outcome))
        (agent.push (warn (.consoleFailed error)))
  | turnAway (event : Event) (late : depot.stopped = true) :
      Intake depot agent (.offer event) (depot.note (.turnedAway event))
        (agent.push [.count .dropped])
  | offer (event : Event) (early : depot.stopped = false) :
      Intake depot agent (.offer event) depot (agent.push [.append event])
  | refuseClosed (event : Event) (closed : depot.queue.closed = true) :
      Intake depot agent (.append event) (depot.note (.arrived event .refusedClosed))
        (agent.push [.count .dropped])
  | refuseFull (event : Event) (ceiling : Nat) (closed : depot.queue.closed = false)
      (policy : depot.queue.overflow = .refuseNewest ceiling)
      (full : ceiling ≤ depot.queue.waiting.length) :
      Intake depot agent (.append event) (depot.note (.arrived event .refusedFull))
        (agent.push [.count .dropped, .signal])
  | append (event : Event) (queue : Queue Event) (closed : depot.queue.closed = false)
      (room : ∀ ceiling, depot.queue.overflow.ceiling? = some ceiling →
        depot.queue.waiting.length < ceiling)
      (grown : queue = depot.queue.append depot.now event) :
      Intake depot agent (.append event) ({ depot with queue }.note (.arrived event .appended))
        (agent.push (.count .queued :: (if queue.asks .appended then [.signal] else [])))
  | displace (event oldest : Event) (rest : List Event) (ceiling : Nat) (queue : Queue Event)
      (closed : depot.queue.closed = false)
      (policy : depot.queue.overflow = .evictOldest ceiling)
      (full : ceiling ≤ depot.queue.waiting.length)
      (waiting : depot.queue.waiting = oldest :: rest)
      (shifted : queue = depot.queue.displace depot.now event) :
      Intake depot agent (.append event)
        (({ depot with queue }.note (.arrived event .displacing)).note (.evicted oldest))
        (agent.push (.count .dropped :: (if queue.asks .displacing then [.signal] else [])))
  | displaceNobody (event : Event) (queue : Queue Event) (closed : depot.queue.closed = false)
      (policy : depot.queue.overflow = .evictOldest 0) (empty : depot.queue.waiting = [])
      (shifted : queue = depot.queue.displace depot.now event) :
      Intake depot agent (.append event) ({ depot with queue }.note (.arrived event .displacing))
        (agent.push (.count .dropped :: (if queue.asks .displacing then [.signal] else [])))
  | signal (heard : depot.listening = true) :
      Intake depot agent .signal { depot with queue := depot.queue.offerSignal } agent
  | signalLost (unheard : depot.listening = false) : Intake depot agent .signal depot agent
  | count (counter : Counter) : Intake depot agent (.count counter) (depot.count counter) agent
  | tell (notice : Notice) : Intake depot agent (.tell notice) (depot.tell notice) agent

/-- What a task of taking and delivering a batch does. -/
inductive Delivery (depot : Depot) (agent : Agent) : Task → Depot → Agent → Prop where
  | flushFor (trigger : Trigger) :
      Delivery depot agent (.flushFor trigger) (depot.enter .flushing)
        (agent.push [.drain trigger])
  | drainNothing (trigger : Trigger) (empty : depot.queue.waiting = []) :
      Delivery depot agent (.drain trigger) { depot with queue := depot.queue.drain.1 } agent
  | drain (trigger : Trigger) (occupied : depot.queue.waiting ≠ []) :
      Delivery depot agent (.drain trigger) { depot with queue := depot.queue.drain.1 }
        (agent.push <| (trigger.counter?.map Task.count).toList ++
          [.send depot.queue.waiting depot.settings.sendTimeout])
  | send (batch : List Event) (timeout : Span) (reply : Reply)
      (drawn : depot.script.nextReply.2 = reply) :
      Delivery depot agent (.send batch timeout)
        ({ depot with script := depot.script.nextReply.1 }.note
          (.sent batch (Payload.encode batch depot.settings.compression) timeout true))
        ({ agent with sending := true }.push <|
          reply.records.map Task.bridge ++
            reply.remarks.map (fun remark : Severity × String =>
              Task.submit (Submission.ofMessage remark.1 remark.2)) ++
            (if reply.waits then [Task.await] else []) ++
            [Task.settle agent.sending batch reply.outcome])
  | await (permitted : depot.permits ≠ 0) :
      Delivery depot agent .await { depot with permits := depot.permits - 1 } agent
  | deliver (wasSending : Bool) (batch : List Event) :
      Delivery depot agent (.settle wasSending batch .ok)
        { depot.note (.ended batch .ok) with tally := depot.tally.delivered batch.length }
        { agent with sending := wasSending }
  | giveUp (wasSending : Bool) (batch : List Event) (outcome : Outcome) (error : DeliveryError)
      (failed : outcome.error? depot.transportName = some error) :
      Delivery depot agent (.settle wasSending batch outcome)
        { depot.note (.ended batch outcome) with tally := depot.tally.failed batch.length }
        ({ agent with sending := wasSending }.push <|
          warn (.dropping error batch.length) ++
            (if depot.settings.echo then [] else [Task.fallBack batch]))
  | allShown : Delivery depot agent (.fallBack []) depot (agent.push [.flushSink])
  | show (event : Event) (rest : List Event) (drawn : depot.script.nextWrite.2 = .ok) :
      Delivery depot agent (.fallBack (event :: rest))
        ({ depot with script := depot.script.nextWrite.1 }.note (.shown event .ok))
        (agent.push [.count .shown, .fallBack rest])
  | showFails (event : Event) (rest : List Event) (error : DeliveryError)
      (drawn : depot.script.nextWrite.2 = .failed error) :
      Delivery depot agent (.fallBack (event :: rest))
        ({ depot with script := depot.script.nextWrite.1 }.note (.shown event (.failed error)))
        (agent.push (warn (.consoleFailed error)))
  | showCrashes (event : Event) (rest : List Event) (crash : Crash)
      (drawn : depot.script.nextWrite.2 = .crashed crash) :
      Delivery depot agent (.fallBack (event :: rest))
        ({ depot with script := depot.script.nextWrite.1 }.note (.shown event (.crashed crash)))
        (agent.unwind crash)
  | flushSink (drawn : depot.script.nextFlush.2 = .ok) :
      Delivery depot agent .flushSink
        ({ depot with script := depot.script.nextFlush.1 }.note (.sinkFlushed .ok)) agent
  | flushFails (error : DeliveryError) (drawn : depot.script.nextFlush.2 = .failed error) :
      Delivery depot agent .flushSink
        ({ depot with script := depot.script.nextFlush.1 }.note (.sinkFlushed (.failed error)))
        (agent.push (warn (.consoleFailed error)))
  | flushCrashes (crash : Crash) (drawn : depot.script.nextFlush.2 = .crashed crash) :
      Delivery depot agent .flushSink
        ({ depot with script := depot.script.nextFlush.1 }.note (.sinkFlushed (.crashed crash)))
        (agent.unwind crash)
  | findFull (full : depot.queue.isFull = true) :
      Delivery depot agent .checkFull depot (agent.push [.flushFor .size])
  | findRoom (room : depot.queue.isFull = false) : Delivery depot agent .checkFull depot agent
  | findNothing (empty : depot.queue.length = 0) : Delivery depot agent .checkReady depot agent
  | findEnough (occupied : depot.queue.length ≠ 0)
      (enough : depot.settings.minBatch ≤ depot.queue.length) :
      Delivery depot agent .checkReady depot (agent.push [.flushFor .timer])
  | findFew (occupied : depot.queue.length ≠ 0)
      (few : depot.queue.length < depot.settings.minBatch) :
      Delivery depot agent .checkReady depot (agent.push [.checkAge])
  | findStale (stale : depot.queue.isStale depot.now depot.settings.publishInterval = true) :
      Delivery depot agent .checkAge depot (agent.push [.flushFor .timer])
  | findFresh (fresh : depot.queue.isStale depot.now depot.settings.publishInterval = false) :
      Delivery depot agent .checkAge depot agent

/-- What holds of all records and remarks, of waiting and of the end holds of all that a send leads
to. -/
theorem forall_mem_inside {motive : Task → Prop} (reply : Reply) {last : Task}
    (bridge : ∀ record, motive (.bridge record))
    (submit : ∀ submission, motive (.submit submission)) (await : motive .await)
    (settle : motive last) :
    ∀ new ∈ reply.records.map Task.bridge ++
      reply.remarks.map (fun remark : Severity × String =>
        Task.submit (Submission.ofMessage remark.1 remark.2)) ++
      (if reply.waits then [Task.await] else []) ++ [last], motive new := by
  -- The records come first, then the remarks, and the end comes last.
  intro new member
  simp only [List.mem_append, List.mem_map, List.mem_singleton] at member
  rcases member with ((⟨record, _, rfl⟩ | ⟨remark, _, rfl⟩) | waits) | rfl
  · exact bridge record
  · exact submit _
  · -- Only a reply that waits has something to wait for.
    split at waits
    · rw [List.mem_singleton.mp waits]
      exact await
    · simp at waits
  · exact settle

/-- What a task that decides about the courier does. -/
inductive Duty (depot : Depot) (agent : Agent) : Task → Depot → Agent → Prop where
  | enter (phase : Phase) : Duty depot agent (.enter phase) (depot.enter phase) agent
  | finish (deadline : Span) :
      Duty depot agent (.finish deadline) (depot.enter .shuttingDown)
        (agent.push
          [.enter .finalFlush, .closeQueue (depot.lastTimeout deadline), .enter .stopped])
  | closeEmpty (timeout : Span) (empty : depot.queue.waiting = []) :
      Duty depot agent (.closeQueue timeout)
        ({ depot with queue := depot.queue.close.1 }.note .closed) agent
  | close (timeout : Span) (occupied : depot.queue.waiting ≠ []) :
      Duty depot agent (.closeQueue timeout)
        ({ depot with queue := depot.queue.close.1 }.note .closed)
        (agent.push [.send depot.queue.waiting timeout])
  | begin (running : depot.thread = .running) :
      Duty depot agent .begin depot
        (agent.push [.idle (depot.now + depot.settings.publishInterval.nanos)])
  | idle (tick : Nat) :
      Duty depot agent (.idle tick) (depot.enter .waiting) (agent.push [.schedule tick])
  | schedule (tick : Nat) :
      Duty depot agent (.schedule tick) depot (agent.push [.plan tick depot.now])
  | plan (tick asked wake : Nat)
      (planned : wake = depot.now +
        (depot.queue.nextWake depot.now asked tick depot.settings.publishInterval - asked)) :
      Duty depot agent (.plan tick asked) depot (agent.push [.select tick wake])
  | takeSignal (tick wake : Nat) (signalled : depot.queue.signalled = true) :
      Duty depot agent (.select tick wake) { depot with queue := depot.queue.takeSignal.1 }
        (agent.push [.checkFull, .idle tick])
  | takeFlush (tick wake : Nat) (orders : List Order) (ordered : depot.orders = .flush :: orders) :
      Duty depot agent (.select tick wake) { depot with orders }
        (agent.push [.flushFor .request, .idle tick])
  | takeStop (tick wake : Nat) (deadline : Span) (orders : List Order)
      (ordered : depot.orders = .stop deadline :: orders) :
      Duty depot agent (.select tick wake) { depot with orders } (agent.push [.finish deadline])
  | wake (tick wake : Nat) (due : wake ≤ depot.now) :
      Duty depot agent (.select tick wake) depot (agent.push [.checkReady, .retick tick])
  | retick (tick next : Nat)
      (ticked : next = if tick ≤ depot.now then
        depot.now + depot.settings.publishInterval.nanos else tick) :
      Duty depot agent (.retick tick) depot (agent.push [.idle next])
  | release : Duty depot agent .release depot.release agent
  | exit (thread : Thread)
      (ended : thread = if agent.crash.isSome then Thread.crashed else Thread.exited) :
      Duty depot agent .exit { depot with thread } agent
  | start (early : depot.stopped = false) : Duty depot agent .start depot (agent.push [.hire])
  | startLate (late : depot.stopped = true) : Duty depot agent .start depot (agent.reply false)
  | hire (unlocked : depot.locked = false) (spare : depot.handle = false)
      (ready : depot.holder = .desk) (granted : depot.script.nextThread.2 = none) :
      Duty depot agent .hire
        ({ depot with
            script := depot.script.nextThread.1
            holder := .thread
            handle := true
            thread := .running }.enter .waiting)
        (agent.reply true)
  | hireLost (cause : String) (unlocked : depot.locked = false) (spare : depot.handle = false)
      (ready : depot.holder = .desk) (refused : depot.script.nextThread.2 = some cause) :
      Duty depot agent .hire ({ depot with script := depot.script.nextThread.1 }.lose cause)
        (agent.reply false)
  | hireNobody (unlocked : depot.locked = false)
      (absent : depot.handle = true ∨ depot.holder ≠ .desk) :
      Duty depot agent .hire depot (agent.reply false)
  | flush (early : depot.stopped = false) : Duty depot agent .flush depot (agent.push [.order])
  | flushLate (late : depot.stopped = true) : Duty depot agent .flush depot (agent.reply false)
  | order (unlocked : depot.locked = false) (employed : depot.handle = true)
      (heard : depot.listening = true) :
      Duty depot agent .order { depot with orders := depot.orders ++ [.flush] }
        (agent.reply true)
  | orderLost (unlocked : depot.locked = false) (employed : depot.handle = true)
      (unheard : depot.listening = false) : Duty depot agent .order depot (agent.reply false)
  | lock (unlocked : depot.locked = false) (unemployed : depot.handle = false)
      (ready : depot.holder = .desk) :
      Duty depot agent .order { depot with locked := true }
        (agent.push [.flushFor .request, .enter .idle, .unlock, .answer true])
  | orderNobody (unlocked : depot.locked = false) (unemployed : depot.handle = false)
      (absent : depot.holder ≠ .desk) : Duty depot agent .order depot (agent.reply false)
  | unlock : Duty depot agent .unlock { depot with locked := false } agent
  | stop (timeout : Span) (first : depot.stopped = false) :
      Duty depot agent (.stop timeout) { depot with stopped := true }
        (agent.push [.takeOver timeout])
  | stopAgain (timeout : Span) (late : depot.stopped = true) :
      Duty depot agent (.stop timeout) { depot with stopped := true } (agent.reply true)
  | takeHandle (timeout : Span) (unlocked : depot.locked = false)
      (employed : depot.handle = true) :
      Duty depot agent (.takeOver timeout) { depot with handle := false }
        (agent.push [.dismiss timeout])
  | takeCourier (timeout : Span) (unlocked : depot.locked = false)
      (unemployed : depot.handle = false) (ready : depot.holder = .desk) :
      Duty depot agent (.takeOver timeout) { depot with holder := .caller }
        (agent.push (.finish timeout :: .release :: depot.conclusion))
  | takeNobody (timeout : Span) (unlocked : depot.locked = false)
      (unemployed : depot.handle = false) (absent : depot.holder ≠ .desk) :
      Duty depot agent (.takeOver timeout) depot
        (agent.push (.enter .stopped :: depot.conclusion))
  | dismiss (timeout : Span) (heard : depot.listening = true) :
      Duty depot agent (.dismiss timeout)
        { depot with orders := depot.orders ++ [.stop timeout] }
        (agent.push [.join depot.now timeout])
  | dismissGone (timeout : Span) (unheard : depot.listening = false) :
      Duty depot agent (.dismiss timeout) (depot.tell .goneEarly)
        (agent.push [.join depot.now timeout])
  | join (since : Nat) (timeout : Span) (ended : depot.thread = .exited) :
      Duty depot agent (.join since timeout) depot (agent.push depot.conclusion)
  | joinCrashed (since : Nat) (timeout : Span) (ended : depot.thread = .crashed) :
      Duty depot agent (.join since timeout) (depot.tell .crashedStopping) (agent.reply false)
  | joinOverdue (since : Nat) (timeout : Span) (busy : depot.thread ≠ .exited ∧
      depot.thread ≠ .crashed) (overdue : since + timeout.nanos ≤ depot.now) :
      Duty depot agent (.join since timeout) (depot.tell (.overdue timeout)) (agent.reply false)
  | answer (value : Bool) : Duty depot agent (.answer value) depot (agent.reply value)
  | reportLosses : Duty depot agent .reportLosses depot.reportLosses agent

/-- Everything that one step can do. -/
def Deed (depot : Depot) (agent : Agent) (task : Task) (after : Depot) (next : Agent) : Prop :=
  -- Each task belongs to exactly one of the three kinds.
  Intake depot agent task after next ∨ Delivery depot agent task after next ∨
    Duty depot agent task after next

namespace Deed

/-- An event at the door of the queue is refused, put behind the others, or takes a place. -/
private theorem of_append {depot after : Depot} {agent next : Agent} {event : Event}
    (acted : depot.append agent event = (after, next)) :
    Intake depot agent (.append event) after next := by
  -- What happens depends on the queue being closed, and then on its policy.
  unfold Depot.append Queue.push at acted
  cases closed : depot.queue.closed with
  | true =>
    simp only [closed, if_true, Queue.asks, Entry.counter] at acted
    cases acted
    exact .refuseClosed event closed
  | false =>
    cases policy : depot.queue.overflow with
    | unbounded =>
      simp only [closed, policy, Bool.false_eq_true, if_false, Entry.counter] at acted
      cases acted
      exact .append event _ closed (by simp [policy, Overflow.ceiling?]) rfl
    | evictOldest ceiling =>
      simp only [closed, policy, Bool.false_eq_true, if_false] at acted
      by_cases full : ceiling ≤ depot.queue.waiting.length
      · simp only [full, if_true, Entry.counter] at acted
        cases waiting : depot.queue.waiting with
        | nil =>
          -- Only a ceiling of nothing is reached while nothing waits.
          simp only [waiting, List.length_nil, Nat.le_zero_eq] at full
          subst full
          simp only [waiting] at acted
          cases acted
          exact .displaceNobody event _ closed policy waiting rfl
        | cons oldest rest =>
          simp only [waiting] at acted
          cases acted
          exact .displace event oldest rest ceiling _ closed policy full waiting rfl
      · simp only [full, if_false, Entry.counter] at acted
        cases acted
        refine .append event _ closed ?_ rfl
        intro other same
        simp only [policy, Overflow.ceiling?, Option.some.injEq] at same
        omega
    | refuseNewest ceiling =>
      simp only [closed, policy, Bool.false_eq_true, if_false] at acted
      by_cases full : ceiling ≤ depot.queue.waiting.length
      · simp only [full, if_true, Queue.asks, Entry.counter] at acted
        cases acted
        exact .refuseFull event ceiling closed policy full
      · simp only [full, if_false, Entry.counter] at acted
        cases acted
        refine .append event _ closed ?_ rfl
        intro other same
        simp only [policy, Overflow.ceiling?, Option.some.injEq] at same
        omega

/-- A task of handing in an event does what its kind can do. -/
private theorem of_intake {depot after : Depot} {agent next : Agent} {choice : Choice}
    {task : Task} (kind : task.isIntake = true)
    (acted : depot.act agent choice task = some (after, next)) :
    Intake depot agent task after next := by
  -- One case for each task, and within it one for each branch of its definition.
  cases task <;> simp only [Task.isIntake, Bool.false_eq_true] at kind
  all_goals simp only [Depot.act, Option.some.injEq] at acted
  case submit submission => cases acted; exact .submit submission _ rfl
  case bridge record =>
    cases passes : record.passes depot.threshold agent.sending with
    | true =>
      simp only [passes, if_true] at acted
      cases acted; exact .bridge record passes
    | false =>
      simp only [passes, Bool.false_eq_true, if_false] at acted
      cases acted; exact .overlook record passes
  case arm => cases acted; exact .arm
  case checkBanner =>
    cases armed : depot.armed <;>
      simp only [armed, if_true, Bool.false_eq_true, if_false] at acted <;> cases acted
    · exact .seeNothing armed
    · exact .seeBanner armed
  case claimBanner =>
    unfold Depot.claimBanner at acted
    cases armed : depot.armed <;>
      simp only [armed, if_true, Bool.false_eq_true, if_false] at acted <;> cases acted
    · exact .comeLate armed
    · exact .claim armed
  case echo event =>
    unfold Depot.echo at acted
    cases error : depot.script.nextWrite.2.error? depot.sinkName <;>
      simp only [error] at acted <;> cases acted
    · exact .echo event _ rfl error
    · exact .echoFails event _ _ rfl error
  case offer event =>
    cases stopped : depot.stopped <;>
      simp only [stopped, if_true, Bool.false_eq_true, if_false] at acted <;> cases acted
    · exact .offer event stopped
    · exact .turnAway event stopped
  case append event => exact of_append acted
  case signal =>
    unfold Depot.signal at acted
    cases heard : depot.listening with
    | true => rw [if_pos heard] at acted; cases acted; exact .signal heard
    | false =>
      rw [if_neg (by simp [heard])] at acted
      cases acted; exact .signalLost heard
  case count counter => cases acted; exact .count counter
  case tell notice => cases acted; exact .tell notice

/-- A task of delivering a batch does what its kind can do. -/
private theorem of_delivery {depot after : Depot} {agent next : Agent} {choice : Choice}
    {task : Task} (kind : task.isDelivery = true)
    (acted : depot.act agent choice task = some (after, next)) :
    Delivery depot agent task after next := by
  -- One case for each task, and within it one for each branch of its definition.
  cases task <;> simp only [Task.isDelivery, Bool.false_eq_true] at kind
  all_goals simp only [Depot.act, Option.some.injEq] at acted
  case flushFor trigger => cases acted; exact .flushFor trigger
  case drain trigger =>
    unfold Depot.drain Queue.drain at acted
    cases waiting : depot.queue.waiting <;>
      simp only [waiting, List.isEmpty_nil, List.isEmpty_cons, if_true, Bool.false_eq_true,
        if_false] at acted <;> cases acted
    · exact .drainNothing trigger waiting
    · rw [← waiting]
      exact .drain trigger (by simp [waiting])
  case send batch timeout => cases acted; exact .send batch timeout _ rfl
  case await =>
    by_cases permitted : depot.permits = 0
    · simp [permitted] at acted
    · simp only [permitted, if_false, Option.some.injEq] at acted
      cases acted; exact .await permitted
  case settle wasSending batch outcome =>
    unfold Depot.settle at acted
    cases error : outcome.error? depot.transportName with
    | none =>
      cases outcome <;> simp only [Outcome.error?, reduceCtorEq] at error
      cases acted; exact .deliver wasSending batch
    | some error' =>
      have noted : outcome.error? (depot.note (.ended batch outcome)).transportName =
          some error' := error
      simp only [noted] at acted
      cases acted; exact .giveUp wasSending batch outcome error' error
  case fallBack events =>
    cases events with
    | nil => cases acted; exact .allShown
    | cons event rest =>
      unfold Depot.fallBack at acted
      cases drawn : depot.script.nextWrite.2 <;> simp only [drawn] at acted <;> cases acted
      · exact .show event rest drawn
      · exact .showFails event rest _ drawn
      · exact .showCrashes event rest _ drawn
  case flushSink =>
    unfold Depot.flushSink at acted
    cases drawn : depot.script.nextFlush.2 <;> simp only [drawn] at acted <;> cases acted
    · exact .flushSink drawn
    · exact .flushFails _ drawn
    · exact .flushCrashes _ drawn
  case checkFull =>
    cases full : depot.queue.isFull <;>
      simp only [full, if_true, Bool.false_eq_true, if_false] at acted <;> cases acted
    · exact .findRoom full
    · exact .findFull full
  case checkReady =>
    unfold Depot.checkReady at acted
    by_cases empty : depot.queue.length = 0
    · simp only [empty, if_true] at acted
      cases acted; exact .findNothing empty
    · by_cases enough : depot.settings.minBatch ≤ depot.queue.length
      · simp only [empty, enough, if_true, if_false] at acted
        cases acted; exact .findEnough empty enough
      · simp only [empty, enough, if_false] at acted
        cases acted; exact .findFew empty (by omega)
  case checkAge =>
    cases stale : depot.queue.isStale depot.now depot.settings.publishInterval <;>
      simp only [stale, if_true, Bool.false_eq_true, if_false] at acted <;> cases acted
    · exact .findFresh stale
    · exact .findStale stale

/-- The courier attends to one of the things that are there. -/
private theorem of_select {depot after : Depot} {agent next : Agent} {choice : Choice}
    {tick wake : Nat} (acted : depot.select agent tick wake choice = some (after, next)) :
    Duty depot agent (.select tick wake) after next := by
  -- Each choice needs its own thing to be there.
  cases choice <;> simp only [Depot.select] at acted
  case signal =>
    cases found : depot.queue.signalled <;>
      simp only [Queue.takeSignal, found, if_true, Bool.false_eq_true, if_false, reduceCtorEq,
        Option.some.injEq] at acted
    cases acted; exact .takeSignal tick wake found
  case order =>
    cases orders : depot.orders with
    | nil => simp [orders] at acted
    | cons order rest =>
      cases order <;> simp only [orders, Option.some.injEq] at acted <;> cases acted
      · exact .takeFlush tick wake rest orders
      · exact .takeStop tick wake _ rest orders
  case timer =>
    by_cases due : wake ≤ depot.now
    · simp only [due, if_true, Option.some.injEq] at acted
      cases acted; exact .wake tick wake due
    · simp [due] at acted

/-- Waiting for the thread ends with the thread, or at the deadline. -/
private theorem of_join {depot after : Depot} {agent next : Agent} {since : Nat} {timeout : Span}
    (acted : depot.join agent since timeout = some (after, next)) :
    Duty depot agent (.join since timeout) after next := by
  -- A thread that has not ended is only left alone at the deadline.
  unfold Depot.join at acted
  cases thread : depot.thread <;> simp only [thread] at acted
  case exited => cases acted; exact .join since timeout thread
  case crashed => cases acted; exact .joinCrashed since timeout thread
  all_goals
    by_cases overdue : since + timeout.nanos ≤ depot.now
    · simp only [overdue, if_true, Option.some.injEq] at acted
      cases acted
      exact .joinOverdue since timeout (by simp [thread]) overdue
    · simp [overdue] at acted

/-- A task about the courier does what its kind can do. -/
private theorem of_duty {depot after : Depot} {agent next : Agent} {choice : Choice} {task : Task}
    (kind : task.isDuty = true) (acted : depot.act agent choice task = some (after, next)) :
    Duty depot agent task after next := by
  -- One case for each task, and within it one for each branch of its definition.
  cases task <;>
    simp only [Task.isDuty, Task.isIntake, Task.isDelivery, Bool.not_true, Bool.not_false,
      Bool.and_true, Bool.and_false, Bool.false_eq_true] at kind
  all_goals simp only [Depot.act, Option.some.injEq] at acted
  case enter phase => cases acted; exact .enter phase
  case finish deadline => cases acted; exact .finish deadline
  case closeQueue timeout =>
    unfold Depot.closeQueue Queue.close at acted
    cases waiting : depot.queue.waiting <;>
      simp only [waiting, List.isEmpty_nil, List.isEmpty_cons, if_true, Bool.false_eq_true,
        if_false] at acted <;> cases acted
    · exact .closeEmpty timeout waiting
    · rw [← waiting]
      exact .close timeout (by simp [waiting])
  case begin =>
    by_cases running : depot.thread = .running
    · simp only [running, if_true, Option.some.injEq] at acted
      cases acted; exact .begin running
    · simp [running] at acted
  case idle tick => cases acted; exact .idle tick
  case schedule tick => cases acted; exact .schedule tick
  case plan tick asked => cases acted; exact .plan tick asked _ rfl
  case select tick wake => exact of_select acted
  case retick tick => cases acted; exact .retick tick _ rfl
  case release => cases acted; exact .release
  case exit => cases acted; exact .exit _ rfl
  case start =>
    cases stopped : depot.stopped <;>
      simp only [stopped, if_true, Bool.false_eq_true, if_false] at acted <;> cases acted
    · exact .start stopped
    · exact .startLate stopped
  case hire =>
    cases locked : depot.locked <;>
      simp only [locked, if_true, Bool.false_eq_true, if_false, reduceCtorEq,
        Option.some.injEq] at acted
    unfold Depot.hire at acted
    by_cases ready : depot.handle = false ∧ depot.holder = .desk
    · rw [if_pos (by simp [ready])] at acted
      -- A thread is granted or refused.
      cases drawn : depot.script.nextThread.2 <;> simp only [drawn] at acted <;> cases acted
      · exact .hire locked ready.1 ready.2 drawn
      · exact .hireLost _ locked ready.1 ready.2 drawn
    · have absent : depot.handle = true ∨ depot.holder ≠ .desk := by
        cases handle : depot.handle <;> simp_all
      rw [if_neg (by simpa using ready)] at acted
      cases acted; exact .hireNobody locked absent
  case flush =>
    cases stopped : depot.stopped <;>
      simp only [stopped, if_true, Bool.false_eq_true, if_false] at acted <;> cases acted
    · exact .flush stopped
    · exact .flushLate stopped
  case order =>
    cases locked : depot.locked <;>
      simp only [locked, if_true, Bool.false_eq_true, if_false, reduceCtorEq,
        Option.some.injEq] at acted
    unfold Depot.order at acted
    cases employed : depot.handle with
    | true =>
      rw [if_pos employed] at acted
      cases heard : depot.listening with
      | true => rw [if_pos heard] at acted; cases acted; exact .order locked employed heard
      | false =>
        rw [if_neg (by simp [heard])] at acted
        cases acted; exact .orderLost locked employed heard
    | false =>
      rw [if_neg (by simp [employed])] at acted
      by_cases ready : depot.holder = .desk
      · rw [if_pos ready] at acted; cases acted; exact .lock locked employed ready
      · rw [if_neg ready] at acted; cases acted; exact .orderNobody locked employed ready
  case unlock => cases acted; exact .unlock
  case stop timeout =>
    cases stopped : depot.stopped <;>
      simp only [stopped, if_true, Bool.false_eq_true, if_false] at acted <;> cases acted
    · exact .stop timeout stopped
    · exact .stopAgain timeout stopped
  case takeOver timeout =>
    cases locked : depot.locked <;>
      simp only [locked, if_true, Bool.false_eq_true, if_false, reduceCtorEq,
        Option.some.injEq] at acted
    unfold Depot.takeOver at acted
    cases employed : depot.handle with
    | true => rw [if_pos employed] at acted; cases acted; exact .takeHandle timeout locked employed
    | false =>
      rw [if_neg (by simp [employed])] at acted
      by_cases ready : depot.holder = .desk
      · rw [if_pos ready] at acted; cases acted; exact .takeCourier timeout locked employed ready
      · rw [if_neg ready] at acted; cases acted; exact .takeNobody timeout locked employed ready
  case dismiss timeout =>
    unfold Depot.dismiss at acted
    cases heard : depot.listening with
    | true => rw [if_pos heard] at acted; cases acted; exact .dismiss timeout heard
    | false =>
      rw [if_neg (by simp [heard])] at acted
      cases acted; exact .dismissGone timeout heard
  case join since timeout => exact of_join acted
  case answer value => cases acted; exact .answer value
  case reportLosses => cases acted; exact .reportLosses

/-- Whatever a task does is one of the things that its kind can do. -/
theorem of_act {depot after : Depot} {agent next : Agent} {choice : Choice} {task : Task}
    (acted : depot.act agent choice task = some (after, next)) :
    Deed depot agent task after next := by
  -- The three kinds cover all tasks.
  cases intake : task.isIntake with
  | true => exact .inl (of_intake intake acted)
  | false =>
    cases delivery : task.isDelivery with
    | true => exact .inr (.inl (of_delivery delivery acted))
    | false => exact .inr (.inr (of_duty (by simp [Task.isDuty, intake, delivery]) acted))

end Deed

/-- What holds of all agents still does when one of them has gone on and it holds of that one. -/
theorem forall_mem_replaced {holds : Agent → Prop} {agents later left right : List Agent}
    {before after : Agent} (split : agents = left ++ before :: right)
    (joined : later = left ++ after :: right) (all : ∀ other ∈ agents, holds other)
    (own : holds after) : ∀ other ∈ later, holds other := by
  subst split joined
  -- The others are where they were.
  simp only [List.forall_mem_append, List.forall_mem_cons] at all ⊢
  exact ⟨all.1, own, all.2.2⟩

/-- What holds of all agents still does when one has come for which it holds. -/
theorem forall_mem_joined {holds : Agent → Prop} {agents later : List Agent} {new : Agent}
    (joined : later = agents ++ [new]) (all : ∀ other ∈ agents, holds other) (own : holds new) :
    ∀ other ∈ later, holds other := by
  subst joined
  exact List.forall_mem_append.mpr ⟨all, List.forall_mem_singleton.mpr own⟩

/-- What only the items of a kind have can be gathered from those of that kind. -/
theorem flatMap_filter_of_nil {α β : Type} {kind : α → Bool} {pick : α → List β} {items : List α}
    (none : ∀ item ∈ items, kind item = false → pick item = []) :
    (items.filter kind).flatMap pick = items.flatMap pick := by
  -- Items of other kinds have nothing to be gathered.
  induction items with
  | nil => rfl
  | cons item rest ih =>
    have rest' := ih fun other member => none other (List.mem_cons_of_mem _ member)
    rw [List.filter_cons, List.flatMap_cons, ← rest']
    cases same : kind item with
    | true => rfl
    | false => rw [none item List.mem_cons_self same]; rfl

end LogCourier
