import LogCourier.Proofs.Depot.Dates
import Mathlib.Data.List.Basic
import Mathlib.Logic.Relation

/-!
The bench: all that is left to do, in order, no matter who has it to do.

What lies on it is done by itself, one task after the other. Who has the courier, and how it is told
what to do, has no place there, and neither have dates and clocks.
-/

namespace LogCourier

namespace Occurrence

/-- Whether something that happened only tells of a phase. -/
def isPhase : Occurrence → Bool
  | .entered _ => true
  | _ => false

end Occurrence

/-- What happened, without dates and without the phases of the courier. -/
def bareJournal (journal : List Occurrence) : List Occurrence :=
  (journal.filter (!·.isPhase)).map Occurrence.undated

/-- The queue without dates, and without the wish that it be emptied. -/
def Queue.bare (queue : Queue Event) : Queue Event :=
  { queue.map Event.undated with oldest := none, signalled := false }

/-- How calls of the transport and of the sink end, whether a thread can be had or not. -/
def Script.bare (script : Script) : Script :=
  { script with threads := [] }

/-- The depot without dates and clocks, and without all that tells where the courier is or whether a
thread can be had for it. -/
@[simps] def Depot.bare (depot : Depot) : Depot :=
  { depot with
    queue := depot.queue.bare
    phase := .idle
    holder := .desk
    handle := false
    locked := false
    orders := []
    listening := true
    thread := .none
    now := 0
    wall := default
    permits := 0
    script := depot.script.bare
    journal := bareJournal depot.journal }

namespace Task

/-- Whether a task is done in the same way by whoever does it. -/
def isWork : Task → Bool
  | .submit _ | .bridge _ | .echo _ | .offer _ | .append _ | .count _ | .tell _ => true
  | .drain _ | .send .. | .settle .. | .fallBack _ | .flushSink | .closeQueue _ => true
  | .flush | .stop _ | .reportLosses => true
  | _ => false

/-- What there is to do in the end for a task: records are passed over inside a send, and a batch is
taken however the courier is told to. -/
def labour (settings : Settings) (sending : Bool) : Task → List Task
  | .bridge record => if sending then [] else [.bridge record]
  | .flushFor trigger => [.drain trigger]
  | .order => [.drain .request]
  | .finish deadline => [.closeQueue (settings.sendTimeout.min deadline.nineTenths)]
  | .takeOver deadline | .dismiss deadline =>
    .closeQueue (settings.sendTimeout.min deadline.nineTenths) ::
      (if settings.echo then [.flushSink] else [])
  | .join .. => if settings.echo then [.flushSink] else []
  | task => if task.isWork then [task.undated] else []

end Task

/-- What an agent has to do in the end. -/
def Agent.labour (settings : Settings) (agent : Agent) : List Task :=
  agent.tasks.flatMap (Task.labour settings agent.sending)

/-- What there is to do in the end for an order. -/
def Order.labour (settings : Settings) : Order → List Task
  | .flush => [.drain .request]
  | .stop deadline => [.closeQueue (settings.sendTimeout.min deadline.nineTenths)]

/-- A depot and what is to be done there. -/
structure Bench where
  depot : Depot
  tasks : List Task

namespace Bench

/-- The first task is done. -/
def step (bench : Bench) : Option Bench :=
  match bench.tasks with
  | [] => none
  | task :: rest =>
    (bench.depot.act (.ofTasks []) .signal task).map fun (depot, agent) =>
      ⟨depot.bare, agent.labour depot.settings ++ rest⟩

/-- Where nothing is left, nothing is done. -/
theorem step_eq_none {bench : Bench} (done : bench.tasks = []) : bench.step = none := by
  simp [step, done]

end Bench

namespace Script

variable (script : Script)

/-- Threads are lost once. -/
@[simp] theorem bare_bare : script.bare.bare = script.bare := rfl

/-- Sends end in the same way whether a thread can be had or not. -/
@[simp] theorem nextReply_bare :
    script.bare.nextReply = (script.nextReply.1.bare, script.nextReply.2) := rfl

/-- Writes end in the same way whether a thread can be had or not. -/
@[simp] theorem nextWrite_bare :
    script.bare.nextWrite = (script.nextWrite.1.bare, script.nextWrite.2) := rfl

/-- Flushes end in the same way whether a thread can be had or not. -/
@[simp] theorem nextFlush_bare :
    script.bare.nextFlush = (script.nextFlush.1.bare, script.nextFlush.2) := rfl

end Script

/-- Phases and dates are lost once. -/
@[simp] theorem bareJournal_bareJournal (journal : List Occurrence) :
    bareJournal (bareJournal journal) = bareJournal journal := by
  -- Whether an occurrence tells of a phase does not depend on its date.
  have kinds (occurrence : Occurrence) : occurrence.undated.isPhase = occurrence.isPhase := by
    cases occurrence <;> rfl
  simp [bareJournal, List.filter_map, Function.comp_def, kinds]

namespace Queue

/-- Dates are lost once. -/
@[simp] theorem bare_bare (queue : Queue Event) : queue.bare.bare = queue.bare := by
  simp [bare, map]

/-- What becomes of an event at the door depends neither on its date nor on clocks. -/
theorem push_bare (queue : Queue Event) (now : Nat) (event : Event) :
    (queue.bare.push 0 event.undated).1.bare = (queue.push now event).1.bare ∧
      (queue.bare.push 0 event.undated).2 = (queue.push now event).2 := by
  -- Only a ceiling that is reached makes a difference, and the length has no date.
  unfold push
  cases closed : queue.closed with
  | true => simp [bare, map, closed]
  | false =>
    cases policy : queue.overflow with
    | unbounded => simp [bare, map, closed, policy, append]
    | evictOldest ceiling | refuseNewest ceiling =>
      by_cases full : ceiling ≤ queue.waiting.length <;>
        simp [bare, map, closed, policy, full, append, displace]

end Queue

namespace Depot

variable {depot before after : Depot}

/-- There is nothing to leave out twice. -/
@[simp] theorem bare_bare : depot.bare.bare = depot.bare := by
  simp [bare]

/-- What is the same on the bench stays the same with one more entry in the journal. -/
theorem note_bare (same : after.bare = before.bare) {first second : Occurrence}
    (alike : first.undated = second.undated) :
    (after.note first).bare = (before.note second).bare := by
  -- Whether an occurrence tells of a phase does not depend on its date.
  have kinds : first.isPhase = second.isPhase := by
    have undated (occurrence : Occurrence) : occurrence.undated.isPhase = occurrence.isPhase := by
      cases occurrence <;> rfl
    rw [← undated first, alike, undated second]
  have added (depot : Depot) (occurrence : Occurrence) : (depot.note occurrence).bare =
      { depot.bare with journal := bareJournal [occurrence] ++ depot.bare.journal } := by
    cases phase : occurrence.isPhase <;> simp [bare, note, bareJournal, phase]
  rw [added, added, same]
  cases phase : second.isPhase <;> simp [bareJournal, kinds, phase, alike]

/-- Entering a phase is not seen on the bench. -/
@[simp] theorem enter_bare (depot : Depot) (phase : Phase) :
    (depot.enter phase).bare = depot.bare := by
  simp [bare, enter, note, bareJournal, Occurrence.isPhase]

/-- Counting is the same on the bench. -/
theorem count_bare (depot : Depot) (counter : Counter) :
    (depot.bare.count counter).bare = (depot.count counter).bare := by
  simp [bare, count]

/-- A script that has been read on is the same on the bench, less the threads. -/
theorem redrawn_bare (depot : Depot) (script : Script) :
    ({ depot.bare with script := script.bare } : Depot).bare =
      ({ depot with script } : Depot).bare := by
  simp [bare]

/-- What follows once an event is stamped is the same on the bench. -/
theorem acceptance_bare (depot : Depot) (event : Event) (sending : Bool) :
    (depot.bare.acceptance event.undated).flatMap (Task.labour depot.settings false) =
      (depot.acceptance event).flatMap (Task.labour depot.settings sending) := by
  -- What follows depends on two settings and on nothing else.
  cases remote : depot.settings.isRemote <;> cases echo : depot.settings.echo <;>
    simp [acceptance, remote, echo, Task.labour, Task.isWork, Task.undated]

end Depot

namespace Bench

variable {depot shadow after : Depot} {agent next : Agent} {task : Task} {rest : List Task}

/-- On the bench the first task leads to what it leads to for whoever does it. -/
theorem step_of_act {doer : Agent}
    (acted : depot.bare.act (.ofTasks []) .signal task = some (shadow, doer))
    (same : shadow.bare = after.bare) (kept : after.settings = depot.settings)
    (lists : next.labour depot.settings =
      doer.labour depot.settings ++ agent.labour depot.settings) :
    (Bench.mk depot.bare (task :: (agent.labour depot.settings ++ rest))).step =
      some ⟨after.bare, next.labour depot.settings ++ rest⟩ := by
  -- The bench reads off the settings which of the new tasks are work.
  have settings : shadow.settings = depot.settings :=
    (congrArg Depot.settings same).trans kept
  simp [step, acted, same, settings, lists]

/-- On the bench a task that leads to no others leads to none. -/
theorem step_of_rest
    (acted : depot.bare.act (.ofTasks []) .signal task = some (shadow, .ofTasks []))
    (same : shadow.bare = after.bare) (kept : after.settings = depot.settings) :
    (Bench.mk depot.bare (task :: (agent.labour depot.settings ++ rest))).step =
      some ⟨after.bare, agent.labour depot.settings ++ rest⟩ :=
  step_of_act acted same kept rfl

/-- On the bench a task leads to the tasks that it leads to for whoever does it. -/
theorem step_of_push {drafts tasks : List Task}
    (acted : depot.bare.act (.ofTasks []) .signal task =
      some (shadow, (Agent.ofTasks []).push drafts))
    (same : shadow.bare = after.bare) (kept : after.settings = depot.settings)
    (lists : drafts.flatMap (Task.labour depot.settings false) =
      tasks.flatMap (Task.labour depot.settings agent.sending)) :
    (Bench.mk depot.bare (task :: (agent.labour depot.settings ++ rest))).step =
      some ⟨after.bare, (agent.push tasks).labour depot.settings ++ rest⟩ := by
  refine step_of_act acted same kept ?_
  simp [Agent.labour, Agent.push, Agent.ofTasks, ← lists]

end Bench

section Deeds

variable {depot after : Depot} {agent next : Agent} {choice : Choice} {task : Task}
  {rest : List Task}

/-- Handing in an event is the same on the bench. -/
theorem Intake.bench (deed : Intake depot agent task after next) (work : task.isWork = true)
    (outside : task.isBridge = true → agent.sending = false)
    (inside : ∀ event, task ≠ .append event) :
    (Bench.mk depot.bare (task.undated :: (agent.labour depot.settings ++ rest))).step =
      some ⟨after.bare, next.labour depot.settings ++ rest⟩ := by
  cases deed with
  -- The date is what the bench leaves out, so that the stamp is lost there.
  | submit submission event stamped =>
    subst stamped
    exact Bench.step_of_push rfl (Depot.note_bare (depot.count_bare _) rfl) rfl
      (depot.acceptance_bare (submission.event depot.wall depot.settings.origin) _)
  | bridge record passes =>
    -- Outside a send the bench does not overlook a record either.
    rw [outside rfl] at passes
    have acted : depot.bare.act (.ofTasks []) .signal (.bridge record) =
        some (depot.bare, (Agent.ofTasks []).push [.submit record.submission]) := by
      simp [Depot.act, passes, Agent.ofTasks]
    exact Bench.step_of_push acted Depot.bare_bare rfl rfl
  | overlook record stays =>
    -- Only inside a send a record is overlooked, and on the bench nobody is inside.
    rw [outside rfl] at stays
    have acted : depot.bare.act (.ofTasks []) .signal (.bridge record) =
        some (depot.bare, .ofTasks []) := by
      simp [Depot.act, stays, Agent.ofTasks]
    exact Bench.step_of_rest acted Depot.bare_bare rfl
  -- The same write is drawn from the script that has lost its threads.
  | echo event outcome drawn worked =>
    have acted : depot.bare.act (.ofTasks []) .signal (.echo event.undated) =
        some ({ depot.bare with script := depot.script.nextWrite.1.bare }.note
          (.shown event.undated outcome), (Agent.ofTasks []).push [.count .shown]) := by
      simp [Depot.act, Depot.echo, drawn, worked]
    exact Bench.step_of_push acted (Depot.note_bare (depot.redrawn_bare _) rfl) rfl rfl
  | echoFails event outcome error drawn failed =>
    have acted : depot.bare.act (.ofTasks []) .signal (.echo event.undated) =
        some ({ depot.bare with script := depot.script.nextWrite.1.bare }.note
          (.shown event.undated outcome),
          (Agent.ofTasks []).push (warn (.consoleFailed error))) := by
      simp [Depot.act, Depot.echo, drawn, failed]
    exact Bench.step_of_push acted (Depot.note_bare (depot.redrawn_bare _) rfl) rfl rfl
  -- The queue that is closed is closed on the bench as well.
  | turnAway event late =>
    have acted : depot.bare.act (.ofTasks []) .signal (.offer event.undated) =
        some (depot.bare.note (.turnedAway event.undated),
          (Agent.ofTasks []).push [.count .dropped]) := by
      simp [Depot.act, late]
    exact Bench.step_of_push acted (Depot.note_bare Depot.bare_bare rfl) rfl rfl
  | offer event early =>
    have acted : depot.bare.act (.ofTasks []) .signal (.offer event.undated) =
        some (depot.bare, (Agent.ofTasks []).push [.append event.undated]) := by
      simp [Depot.act, early]
    exact Bench.step_of_push acted Depot.bare_bare rfl rfl
  | count counter => exact Bench.step_of_rest rfl (depot.count_bare counter) rfl
  | tell notice => exact Bench.step_of_rest rfl (Depot.note_bare Depot.bare_bare rfl) rfl
  -- Bringing the event is left out here: what becomes of it depends on the ceiling.
  | refuseClosed event | refuseFull event | append event | displace event | displaceNobody event =>
    exact absurd rfl (inside event)
  | _ => cases work

/-- Bringing an event to the queue is the same on the bench. -/
theorem Depot.append_bench {event : Event} :
    (Bench.mk depot.bare (.append event.undated :: (agent.labour depot.settings ++ rest))).step =
      some ⟨(depot.append agent event).1.bare,
        (depot.append agent event).2.labour depot.settings ++ rest⟩ := by
  -- What becomes of the event is the same, and only the wish to be emptied may differ.
  obtain ⟨queues, entries⟩ := depot.queue.push_bare depot.now event
  have arrived : ({ depot.bare with queue := (depot.queue.bare.push 0 event.undated).1 }.note
      (.arrived event.undated (depot.queue.push depot.now event).2)).bare =
      ({ depot with queue := (depot.queue.push depot.now event).1 }.note
        (.arrived event (depot.queue.push depot.now event).2)).bare :=
    Depot.note_bare (by simp [Depot.bare, queues]) rfl
  have acted : depot.bare.act (.ofTasks []) .signal (.append event.undated) =
      some ((depot.bare.append (.ofTasks []) event.undated).1,
        (depot.bare.append (.ofTasks []) event.undated).2) := rfl
  refine Bench.step_of_act acted ?_ ?_ ?_
  · -- What was evicted is told of, with its date left out.
    simp only [Depot.append, Depot.bare_queue, Depot.bare_now, entries]
    cases entry : (depot.queue.push depot.now event).2 with
    | displacing =>
      rw [entry] at arrived
      have shadowed : depot.queue.bare.waiting = depot.queue.waiting.map Event.undated := rfl
      cases waiting : depot.queue.waiting with
      | nil =>
        simp only [shadowed, waiting, List.map_nil]
        exact arrived
      | cons oldest rest =>
        simp only [shadowed, waiting, List.map_cons]
        exact Depot.note_bare arrived rfl
    | _ =>
      rw [entry] at arrived
      exact arrived
  · -- Bringing an event is a deed like others, and no deed changes the settings.
    have deed : Deed depot agent (.append event) (depot.append agent event).1
        (depot.append agent event).2 := @Deed.of_act _ _ _ _ .signal _ rfl
    exact deed.settings
  · -- The wish to be emptied is a signal, which is not work and is not seen on the bench.
    have silent (wish : Bool) (sending : Bool) :
        (if wish then [Task.signal] else []).flatMap (Task.labour depot.settings sending) = [] := by
      cases wish <;> rfl
    simp only [Depot.append, Depot.bare_queue, Depot.bare_now, entries, Agent.labour, Agent.push,
      Agent.ofTasks, List.append_nil, List.flatMap_append, List.flatMap_cons, silent]
    rfl

/-- Below a task that is not done inside others it does not matter whether a send goes on. -/
theorem BatchlessBelow.labour {task : Task} {rest : List Task}
    (orderly : BatchlessBelow (task :: rest))
    (outer : task.isInner = false) (settings : Settings) (sending : Bool) :
    rest.flatMap (Task.labour settings sending) = rest.flatMap (Task.labour settings false) := by
  -- Only records make a difference, and there are none.
  have bridgeless := orderly.bridgeless outer
  refine List.flatMap_congr fun below member => ?_
  have kind : below.isBridge = false := by
    rw [← bridgeless] at member
    simpa using (List.mem_filter.mp member).2
  cases below <;> first | rfl | cases kind

/-- Taking a batch and delivering it is the same on the bench, as long as the sink does not
crash. -/
theorem Delivery.bench (deed : Delivery depot agent task after next) (work : task.isWork = true)
    (marked : MarkedInside false { agent with tasks := task :: agent.tasks })
    (unharmed : next.crash = none) :
    (Bench.mk depot.bare (task.undated :: (agent.labour depot.settings ++ rest))).step =
      some ⟨after.bare, next.labour depot.settings ++ rest⟩ := by
  -- The end of a send is told in the same words, whatever it adds to the sums.
  have ended {batch : List Event} (outcome : Outcome) (tally : Tally) :
      ({ depot.bare with tally }.note (.ended (batch.map Event.undated) outcome)).bare =
        ({ depot with tally }.note (.ended batch outcome)).bare :=
    Depot.note_bare (by simp [Depot.bare]) (by simp [Occurrence.undated])
  cases deed with
  | drainNothing trigger empty =>
    -- A queue without events is emptied without a batch.
    have acted : depot.bare.act (.ofTasks []) .signal (.drain trigger) =
        some ({ depot.bare with queue := depot.queue.bare.drain.1 }, .ofTasks []) := by
      simp [Depot.act, Depot.drain, Queue.drain, Queue.bare, Queue.map, empty]
    refine Bench.step_of_rest acted ?_ rfl
    simp [Depot.bare, Queue.bare, Queue.map, Queue.drain]
  | drain trigger occupied =>
    -- What waits is taken as one batch, and the bench takes the same one without dates.
    have acted : depot.bare.act (.ofTasks []) .signal (.drain trigger) =
        some ({ depot.bare with queue := depot.queue.bare.drain.1 },
          (Agent.ofTasks []).push <| (trigger.counter?.map Task.count).toList ++
            [.send (depot.queue.waiting.map Event.undated) depot.settings.sendTimeout]) := by
      simp [Depot.act, Depot.drain, Queue.drain, Queue.bare, Queue.map, occupied]
    refine Bench.step_of_push acted ?_ rfl ?_
    · simp [Depot.bare, Queue.bare, Queue.map, Queue.drain]
    · cases trigger <;> simp [Trigger.counter?, Task.labour, Task.isWork, Task.undated]
  | send batch timeout reply drawn =>
    -- The send begins: from now on the caller is inside it, which no task below notices.
    have outside : agent.sending = false := marked.outer rfl rfl
    have below := marked.orderly.labour rfl depot.settings
    have acted : depot.bare.act (.ofTasks []) .signal
        (.send (batch.map Event.undated) timeout) =
        some ({ depot.bare with script := depot.script.nextReply.1.bare }.note
          (.sent (batch.map Event.undated)
            (Payload.encode (batch.map Event.undated) depot.settings.compression) timeout true),
          { Agent.ofTasks [] with sending := true }.push <|
            reply.records.map Task.bridge ++
              reply.remarks.map (fun remark : Severity × String =>
                Task.submit (Submission.ofMessage remark.1 remark.2)) ++
              (if reply.waits then [Task.await] else []) ++
              [Task.settle false (batch.map Event.undated) reply.outcome]) := by
      rw [← drawn]
      rfl
    refine Bench.step_of_act acted (Depot.note_bare (depot.redrawn_bare _) ?_) rfl ?_
    · simp [Occurrence.undated, Payload.encode]
    · simp only [Agent.labour, Agent.push, Agent.ofTasks, List.flatMap_append, List.append_nil,
        outside, below true]
      simp [Task.labour, Task.isWork, Task.undated]
  | deliver wasSending batch =>
    -- The send ends as it began, outside any other, and the mark is taken back.
    have below := marked.orderly.labour rfl depot.settings
    have restored : wasSending = false := marked.restores _ _ _ List.mem_cons_self
    subst restored
    have acted : depot.bare.act (.ofTasks []) .signal
        (.settle false (batch.map Event.undated) .ok) =
        some ({ depot.bare with tally := depot.tally.delivered batch.length }.note
          (.ended (batch.map Event.undated) .ok), .ofTasks []) := by
      simp [Depot.act, Depot.settle, Outcome.error?, Depot.note, Agent.ofTasks]
    refine Bench.step_of_act acted ?_ rfl ?_
    · exact ended .ok _
    · simp only [Agent.labour, Agent.ofTasks, below agent.sending]
      rfl
  | giveUp wasSending batch outcome error failed =>
    -- As above, and what could not be sent is shown if the echo has not done so.
    have below := marked.orderly.labour rfl depot.settings
    have restored : wasSending = false := marked.restores _ _ _ List.mem_cons_self
    subst restored
    have acted : depot.bare.act (.ofTasks []) .signal
        (.settle false (batch.map Event.undated) outcome) =
        some ({ depot.bare with tally := depot.tally.failed batch.length }.note
          (.ended (batch.map Event.undated) outcome),
          (Agent.ofTasks []).push <| warn (.dropping error batch.length) ++
            (if depot.settings.echo then [] else [Task.fallBack (batch.map Event.undated)])) := by
      simp [Depot.act, Depot.settle, failed, Depot.note, Agent.ofTasks]
    refine Bench.step_of_act acted ?_ rfl ?_
    · exact ended outcome _
    · simp only [Agent.labour, Agent.push, Agent.ofTasks, below agent.sending]
      cases depot.settings.echo <;> simp [warn, Task.labour, Task.isWork, Task.undated]
  | allShown => exact Bench.step_of_push rfl Depot.bare_bare rfl rfl
  | «show» event more drawn =>
    -- One event of the batch is shown, and the others are still to be.
    have acted : depot.bare.act (.ofTasks []) .signal
        (.fallBack ((event :: more).map Event.undated)) =
        some ({ depot.bare with script := depot.script.nextWrite.1.bare }.note
          (.shown event.undated .ok),
          (Agent.ofTasks []).push [.count .shown, .fallBack (more.map Event.undated)]) := by
      simp [Depot.act, Depot.fallBack, drawn]
    refine Bench.step_of_push acted (Depot.note_bare (depot.redrawn_bare _) rfl) rfl ?_
    simp [Task.labour, Task.isWork, Task.undated]
  | showFails event more error drawn =>
    -- What is left of the batch is given up with the first write that fails.
    have acted : depot.bare.act (.ofTasks []) .signal
        (.fallBack ((event :: more).map Event.undated)) =
        some ({ depot.bare with script := depot.script.nextWrite.1.bare }.note
          (.shown event.undated (.failed error)),
          (Agent.ofTasks []).push (warn (.consoleFailed error))) := by
      simp [Depot.act, Depot.fallBack, drawn]
    exact Bench.step_of_push acted (Depot.note_bare (depot.redrawn_bare _) rfl) rfl rfl
  | flushSink drawn =>
    have acted : depot.bare.act (.ofTasks []) .signal .flushSink =
        some ({ depot.bare with script := depot.script.nextFlush.1.bare }.note (.sinkFlushed .ok),
          .ofTasks []) := by
      simp [Depot.act, Depot.flushSink, drawn]
    exact Bench.step_of_rest acted (Depot.note_bare (depot.redrawn_bare _) rfl) rfl
  | flushFails error drawn =>
    have acted : depot.bare.act (.ofTasks []) .signal .flushSink =
        some ({ depot.bare with script := depot.script.nextFlush.1.bare }.note
          (.sinkFlushed (.failed error)),
          (Agent.ofTasks []).push (warn (.consoleFailed error))) := by
      simp [Depot.act, Depot.flushSink, drawn]
    exact Bench.step_of_push acted (Depot.note_bare (depot.redrawn_bare _) rfl) rfl rfl
  -- Here the sink has crashed, which was excluded.
  | showCrashes | flushCrashes => simp [Agent.unwind] at unharmed
  | _ => cases work

/-- What a decision does to the queue and to the notices is the same on the bench. -/
theorem Duty.bench (deed : Duty depot agent task after next) (work : task.isWork = true) :
    (Bench.mk depot.bare (task.undated :: (agent.labour depot.settings ++ rest))).step =
      some ⟨after.bare, next.labour depot.settings ++ rest⟩ := by
  cases deed with
  -- Closing leaves nothing to send.
  | closeEmpty timeout empty =>
    have acted : depot.bare.act (.ofTasks []) .signal (.closeQueue timeout) =
        some ({ depot.bare with queue := depot.queue.bare.close.1 }.note .closed, .ofTasks []) := by
      simp [Depot.act, Depot.closeQueue, Queue.close, Queue.bare, Queue.map, empty]
    refine Bench.step_of_rest acted (Depot.note_bare ?_ rfl) rfl
    simp [Depot.bare, Queue.bare, Queue.map, Queue.close]
  | close timeout occupied =>
    -- What waits is sent as a last batch.
    have acted : depot.bare.act (.ofTasks []) .signal (.closeQueue timeout) =
        some ({ depot.bare with queue := depot.queue.bare.close.1 }.note .closed,
          (Agent.ofTasks []).push [.send (depot.queue.waiting.map Event.undated) timeout]) := by
      simp [Depot.act, Depot.closeQueue, Queue.close, Queue.bare, Queue.map, occupied]
    refine Bench.step_of_push acted (Depot.note_bare ?_ rfl) rfl ?_
    · simp [Depot.bare, Queue.bare, Queue.map, Queue.close]
    · simp [Task.labour, Task.isWork, Task.undated]
  | flush early =>
    -- Before the stop the flush is passed on to the desk.
    have acted : depot.bare.act (.ofTasks []) .signal .flush =
        some (depot.bare, (Agent.ofTasks []).push [.order]) := by
      simp [Depot.act, early]
    exact Bench.step_of_push acted Depot.bare_bare rfl rfl
  | flushLate late =>
    -- After the stop it is refused at once.
    have acted : depot.bare.act (.ofTasks []) .signal .flush =
        some (depot.bare, (Agent.ofTasks []).reply false) := by
      simp [Depot.act, late]
    exact Bench.step_of_act acted Depot.bare_bare rfl rfl
  | stop timeout first =>
    -- The stop is asked for first, so that taking over is next.
    have acted : depot.bare.act (.ofTasks []) .signal (.stop timeout) =
        some ({ depot.bare with stopped := true },
          (Agent.ofTasks []).push [.takeOver timeout]) := by
      simp [Depot.act, first]
    refine Bench.step_of_push acted ?_ rfl rfl
    simp [Depot.bare]
  | stopAgain timeout late =>
    -- The stop is asked for again, which is granted at once.
    have acted : depot.bare.act (.ofTasks []) .signal (.stop timeout) =
        some ({ depot.bare with stopped := true }, (Agent.ofTasks []).reply true) := by
      simp [Depot.act, late]
    refine Bench.step_of_act acted ?_ rfl rfl
    simp [Depot.bare]
  | reportLosses =>
    have acted : depot.bare.act (.ofTasks []) .signal .reportLosses =
        some (depot.bare.reportLosses, .ofTasks []) := rfl
    -- There is a word of losses only if there are any, and the sums are the same on the bench.
    by_cases none : depot.tally.lost = 0
    · have same : depot.reportLosses = depot := if_pos none
      have shadow : depot.bare.reportLosses = depot.bare := if_pos none
      rw [shadow] at acted
      rw [same]
      exact Bench.step_of_rest acted Depot.bare_bare rfl
    · have same : depot.reportLosses =
          depot.tell (.undelivered depot.tally.lost.toNat depot.tally.lossRate) := if_neg none
      have shadow : depot.bare.reportLosses =
          depot.bare.tell (.undelivered depot.tally.lost.toNat depot.tally.lossRate) := if_neg none
      rw [shadow] at acted
      rw [same]
      exact Bench.step_of_rest acted (Depot.note_bare Depot.bare_bare rfl) rfl
  | _ => cases work

/-- What is done in the same way by whoever does it is done so on the bench. -/
theorem Depot.act_bench (acted : depot.act agent choice task = some (after, next))
    (work : task.isWork = true) (outside : task.isBridge = true → agent.sending = false)
    (marked : MarkedInside false { agent with tasks := task :: agent.tasks })
    (unharmed : next.crash = none) :
    (Bench.mk depot.bare (task.undated :: (agent.labour depot.settings ++ rest))).step =
      some ⟨after.bare, next.labour depot.settings ++ rest⟩ := by
  -- An event that is brought to the queue is dealt with apart, in one lemma for its four ends.
  by_cases inside : ∃ event, task = .append event
  · obtain ⟨event, rfl⟩ := inside
    cases acted
    exact append_bench
  · rcases Deed.of_act acted with intake | delivery | duty
    · exact intake.bench work outside fun event same => inside ⟨event, same⟩
    · exact delivery.bench work marked unharmed
    · exact duty.bench work

end Deeds

namespace Bench

/-- On a bench nothing happened, or the first task was done. -/
def Goes (bench next : Bench) : Prop :=
  next = bench ∨ bench.step = some next

/-- What a bench comes to, task by task. -/
def Leads : Bench → Bench → Prop :=
  Relation.ReflTransGen fun bench next => bench.step = some next

/-- A bench comes to what it goes on to. -/
theorem Leads.go {first bench next : Bench} (before : first.Leads bench) (goes : bench.Goes next) :
    first.Leads next := by
  -- Nothing happened, or there is one more step at the end.
  rcases goes with rfl | done
  · exact before
  · exact before.tail done

/-- A bench on which nothing is left comes to nothing else. -/
theorem Leads.eq_of_done {bench next : Bench} (leads : bench.Leads next)
    (done : bench.tasks = []) : next = bench := by
  -- The first of any further steps would need a task.
  rcases leads.cases_head with same | ⟨_, step, _⟩
  · exact same.symm
  · simp [step_eq_none done] at step

/-- What a bench comes to in the end is one bench. -/
theorem Leads.unique {first bench other : Bench} (leads : first.Leads bench)
    (leads' : first.Leads other) (done : bench.tasks = []) (done' : other.tasks = []) :
    bench = other := by
  -- Of two ways along the same steps one goes on where the other one ends.
  have right : Relator.RightUnique fun bench next : Bench => bench.step = some next :=
    fun _ _ _ first second => Option.some.inj (first.symm.trans second)
  rcases leads.total_of_right_unique right leads' with onward | onward
  · exact (Leads.eq_of_done onward done).symm
  · exact Leads.eq_of_done onward done'

end Bench

end LogCourier
