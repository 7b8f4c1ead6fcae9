import LogCourier.Proofs.Depot.Custody
import LogCourier.Proofs.Queue.Sound

/-!
Traffic: the way of every event from the one who hands it in to its end.

An event is in the hands of a caller, waits in the queue, travels in a batch, or has come to an end.
Each change of a world moves at most one event, or one batch, by one stage.
-/

namespace LogCourier

/-- No step makes a queue unsound. -/
theorem Deed.sound {depot after : Depot} {agent next : Agent} {task : Task}
    (deed : Deed depot agent task after next) (sound : depot.queue.Sound) :
    after.queue.Sound := by
  -- Every step does to the queue one of the things that keep it sound.
  rcases deed with intake | delivery | duty
  · -- Only entering and the signal touch the queue.
    cases intake with
    | append _ _ closed _ grown => subst grown; exact sound.append closed _ _
    | displace _ _ _ _ _ closed _ _ _ shifted => subst shifted; exact sound.displace closed _ _
    | displaceNobody _ _ closed _ _ shifted => subst shifted; exact sound.displace closed _ _
    | signal => exact sound.resignal _
    | _ => exact sound
  · -- Only taking a batch touches it.
    cases delivery with
    | drainNothing => exact sound.drain
    | drain => exact sound.drain
    | _ => exact sound
  · -- Closing empties it, and the signal is taken or forgotten.
    cases duty with
    | closeEmpty => exact sound.close
    | close => exact sound.close
    | takeSignal => exact sound.resignal _
    | release => exact sound.resignal _
    | hireLost => exact sound.resignal _
    | reportLosses => unfold Depot.reportLosses; split <;> exact sound
    | _ => exact sound

/-- No step changes the policy of the queue. -/
theorem Deed.overflow {depot after : Depot} {agent next : Agent} {task : Task}
    (deed : Deed depot agent task after next) :
    after.queue.overflow = depot.queue.overflow := by
  -- The policy is set when the queue is made.
  rcases deed with intake | delivery | duty
  · -- What enters changes only the items.
    cases intake with
    | append _ _ _ _ grown => subst grown; rfl
    | displace _ _ _ _ _ _ _ _ _ shifted => subst shifted; rfl
    | displaceNobody _ _ _ _ _ shifted => subst shifted; rfl
    | _ => rfl
  · cases delivery <;> rfl
  · cases duty with
    | reportLosses => unfold Depot.reportLosses; split <;> rfl
    | _ => rfl

namespace Occurrence

/-- Whether something that happened belongs to the way of an event. -/
def isTraffic : Occurrence → Bool
  | .submitted _ | .arrived .. | .evicted _ | .turnedAway _ | .sent .. | .ended .. => true
  | _ => false

end Occurrence

/-- What a journal tells of the ways of events, the earliest first. -/
def traffic (journal : List Occurrence) : List Occurrence :=
  -- The journal has the latest first.
  (journal.filter Occurrence.isTraffic).reverse

@[simp] theorem traffic_nil : traffic [] = [] := rfl

@[simp] theorem traffic_cons (occurrence : Occurrence) (journal : List Occurrence) :
    traffic (occurrence :: journal) =
      traffic journal ++ (if occurrence.isTraffic then [occurrence] else []) := by
  -- Either it tells of events, or it is left out.
  unfold traffic
  rw [List.filter_cons]
  split <;> simp [*]

namespace Task

/-- Whether a task has events, or owes a count of them. -/
def isCargo : Task → Bool
  | .offer _ | .append _ | .send .. | .settle .. => true
  | .count .submitted | .count .dropped => true
  | _ => false

/-- Cargo belongs to handing in an event or to a batch. -/
theorem isCargo_of_outermost {task : Task} (outer : task.isInner = false)
    (unbatched : task.isBatch = false) : task.isCargo = false := by
  -- Whatever has an event belongs to handing one in or to a batch.
  cases task <;> first
    | rfl
    | simp [isBatch] at unbatched; done
    | simp [isInner, isIntake] at outer

/-- An errand is not done inside anything else. -/
theorem isInner_of_isErrand {task : Task} (errand : task.isErrand = true) :
    task.isInner = false := by
  cases task <;> first | rfl | cases errand

end Task

/-- The tasks that have events or owe a count of them. -/
def cargo (tasks : List Task) : List Task :=
  tasks.filter Task.isCargo

@[simp] theorem cargo_nil : cargo [] = [] := rfl

@[simp] theorem cargo_cons (task : Task) (rest : List Task) :
    cargo (task :: rest) = if task.isCargo then task :: cargo rest else cargo rest :=
  List.filter_cons

@[simp] theorem cargo_append (upper lower : List Task) :
    cargo (upper ++ lower) = cargo upper ++ cargo lower :=
  List.filter_append ..

/-- Tasks of other kinds do not show in the cargo. -/
theorem cargo_of_none {tasks : List Task} (none : ∀ task ∈ tasks, task.isCargo = false) :
    cargo tasks = [] :=
  List.filter_eq_nil_iff.mpr fun task member => by simp [none task member]

/-- The counts of events agree. -/
structure SameTotals (before after : Tally) : Prop where
  submitted : after.submitted = before.submitted
  dropped : after.dropped = before.dropped
  eventsSent : after.eventsSent = before.eventsSent
  eventsFailed : after.eventsFailed = before.eventsFailed

/-- What a change of the depot does with events, and which cargo it takes and leaves. -/
inductive Move (before after : Depot) : List Task → List Task → Prop where
  /-- Nothing happens to any event. -/
  | still (told : traffic after.journal = traffic before.journal)
      (same : after.queue.waiting = before.queue.waiting)
      (totals : SameTotals before.tally after.tally) : Move before after [] []
  /-- An event is handed in. -/
  | submit (event : Event)
      (told : traffic after.journal = traffic before.journal ++ [.submitted event])
      (same : after.queue.waiting = before.queue.waiting)
      (tally : after.tally = before.tally.count .submitted) :
      Move before after [] [.offer event]
  /-- An event is turned away, because the courier has been stopped. -/
  | turnAway (event : Event) (late : before.stopped = true)
      (told : traffic after.journal = traffic before.journal ++ [.turnedAway event])
      (same : after.queue.waiting = before.queue.waiting) (tally : after.tally = before.tally) :
      Move before after [.offer event] [.count .dropped]
  /-- An event may go to the queue. -/
  | offer (event : Event) (early : before.stopped = false)
      (told : traffic after.journal = traffic before.journal)
      (same : after.queue.waiting = before.queue.waiting) (tally : after.tally = before.tally) :
      Move before after [.offer event] [.append event]
  /-- An event is refused by the queue. -/
  | refuse (event : Event) (entry : Entry)
      (reason : entry = .refusedClosed ∧ before.queue.closed = true ∨
        entry = .refusedFull ∧ before.queue.overflow ≠ .unbounded)
      (told : traffic after.journal = traffic before.journal ++ [.arrived event entry])
      (same : after.queue.waiting = before.queue.waiting) (tally : after.tally = before.tally) :
      Move before after [.append event] [.count .dropped]
  /-- An event enters the queue. -/
  | enter (event : Event) (opened : before.queue.closed = false)
      (told : traffic after.journal = traffic before.journal ++ [.arrived event .appended])
      (longer : after.queue.waiting = before.queue.waiting ++ [event])
      (tally : after.tally = before.tally) : Move before after [.append event] []
  /-- An event enters the queue in the place of the oldest one. -/
  | shift (event oldest : Event) (rest : List Event) (opened : before.queue.closed = false)
      (bounded : before.queue.overflow ≠ .unbounded)
      (told : traffic after.journal =
        traffic before.journal ++ [.arrived event .displacing, .evicted oldest])
      (full : before.queue.waiting = oldest :: rest)
      (moved : after.queue.waiting = rest ++ [event]) (tally : after.tally = before.tally) :
      Move before after [.append event] [.count .dropped]
  /-- All that waits is taken as a batch. -/
  | drain (timeout : Span) (told : traffic after.journal = traffic before.journal)
      (occupied : before.queue.waiting ≠ []) (empty : after.queue.waiting = [])
      (tally : after.tally = before.tally) :
      Move before after [] [.send before.queue.waiting timeout]
  /-- A batch is handed to the transport. -/
  | send (batch : List Event) (timeout : Span) (wasSending : Bool) (outcome : Outcome)
      (told : traffic after.journal = traffic before.journal ++
        [.sent batch (Payload.encode batch before.settings.compression) timeout true])
      (same : after.queue.waiting = before.queue.waiting) (tally : after.tally = before.tally) :
      Move before after [.send batch timeout] [.settle wasSending batch outcome]
  /-- A batch has been delivered. -/
  | deliver (batch : List Event) (wasSending : Bool)
      (told : traffic after.journal = traffic before.journal ++ [.ended batch .ok])
      (same : after.queue.waiting = before.queue.waiting)
      (tally : after.tally = before.tally.delivered batch.length) :
      Move before after [.settle wasSending batch .ok] []
  /-- A batch has been given up. -/
  | fail (batch : List Event) (wasSending : Bool) (outcome : Outcome) (failed : outcome ≠ .ok)
      (told : traffic after.journal = traffic before.journal ++ [.ended batch outcome])
      (same : after.queue.waiting = before.queue.waiting)
      (tally : after.tally = before.tally.failed batch.length) :
      Move before after [.settle wasSending batch outcome] []
  /-- Something that is owed is counted. -/
  | count (counter : Counter) (told : traffic after.journal = traffic before.journal)
      (same : after.queue.waiting = before.queue.waiting)
      (tally : after.tally = before.tally.count counter) : Move before after [.count counter] []

/-- A task moves its own cargo to that of the tasks that take its place; batches are moved only by
whoever has the courier. -/
def Hauls (before after : Depot) (task : Task) (rest left : List Task) : Prop :=
  -- Cargo below the task stays what it is.
  ∃ old new, Move before after old new ∧ cargo (task :: rest) = old ++ cargo rest ∧
    cargo left = new ++ cargo rest ∧
    (task.isErrand = true ∨ ∀ moved ∈ old ++ new, moved.isBatch = false)

/-- What handing in an event does with events. -/
theorem Intake.move {depot after : Depot} {agent next : Agent} {task : Task}
    (deed : Intake depot agent task after next) (remote : depot.settings.isRemote = true)
    (sound : depot.queue.Sound) :
    Hauls depot after task agent.tasks next.tasks := by
  -- Most tasks have no event; each of the others takes its event on.
  cases deed with
  | submit submission event =>
    refine ⟨_, _, .submit event ?_ rfl rfl, rfl, ?_, .inr (by simp [Task.isBatch])⟩
    · simp [Depot.note, Depot.count, Occurrence.isTraffic]
    · -- With an endpoint the event goes to the queue, be it echoed or not.
      cases echo : depot.settings.echo <;>
        simp [Agent.push, Depot.acceptance, remote, echo, Task.isCargo]
  | turnAway event late =>
    exact ⟨_, _, .turnAway event late (by simp [Depot.note, Occurrence.isTraffic]) rfl rfl, rfl,
      by simp [Agent.push, Task.isCargo], .inr (by simp [Task.isBatch])⟩
  | offer event early =>
    exact ⟨_, _, .offer event early rfl rfl rfl, rfl, by simp [Agent.push, Task.isCargo],
      .inr (by simp [Task.isBatch])⟩
  | refuseClosed event closed =>
    exact ⟨_, _, .refuse event _ (.inl ⟨rfl, closed⟩)
      (by simp [Depot.note, Occurrence.isTraffic]) rfl rfl, rfl,
      by simp [Agent.push, Task.isCargo], .inr (by simp [Task.isBatch])⟩
  | refuseFull event ceiling _ policy =>
    exact ⟨_, _, .refuse event _ (.inr ⟨rfl, by simp [policy]⟩)
      (by simp [Depot.note, Occurrence.isTraffic]) rfl rfl, rfl,
      by simp [Agent.push, Task.isCargo], .inr (by simp [Task.isBatch])⟩
  | append event queue closed _ grown =>
    refine ⟨_, _, .enter event closed (by simp [Depot.note, Occurrence.isTraffic])
      (by subst grown; rfl) rfl, rfl, ?_, .inr (by simp [Task.isBatch])⟩
    cases queue.asks .appended <;> simp [Agent.push, Task.isCargo]
  | displace event oldest rest ceiling queue closed policy _ waiting shifted =>
    refine ⟨_, _, .shift event oldest rest closed (by simp [policy])
      (by simp [Depot.note, Occurrence.isTraffic]) waiting
      (by subst shifted; simp [Depot.note, Queue.displace, waiting]) rfl, rfl, ?_,
      .inr (by simp [Task.isBatch])⟩
    cases queue.asks .displacing <;> simp [Agent.push, Task.isCargo]
  -- No ceiling is as low as nothing.
  | displaceNobody _ _ _ policy => exact absurd (sound.roomy 0 (by rw [policy]; rfl)) (by simp)
  | count counter =>
    -- Only these two are counts of events.
    cases counter
    case submitted => exact ⟨_, _, .count _ rfl rfl rfl, rfl, rfl, .inr (by simp [Task.isBatch])⟩
    case dropped => exact ⟨_, _, .count _ rfl rfl rfl, rfl, rfl, .inr (by simp [Task.isBatch])⟩
    all_goals exact ⟨[], [], .still rfl rfl ⟨rfl, rfl, rfl, rfl⟩, rfl, rfl, .inr (by simp)⟩
  | _ =>
    refine ⟨[], [], .still ?_ rfl ⟨rfl, rfl, rfl, rfl⟩, rfl, ?_, .inr (by simp)⟩
    · simp [Depot.note, Depot.tell, Occurrence.isTraffic]
    · simp [Agent.push, Agent.reply, warn, Task.isCargo]

/-- Below a task that is not done inside others there is no cargo. -/
theorem BatchlessBelow.cargo_eq_nil {task : Task} {rest : List Task}
    (orderly : BatchlessBelow (task :: rest))
    (outer : task.isInner = false) : cargo rest = [] := by
  -- What stands below is outermost too, and no batch.
  refine cargo_of_none fun below member => ?_
  have place := ((List.pairwise_cons.mp orderly).1 below member).resolve_left (by simp [outer])
  exact Task.isCargo_of_outermost place.1 place.2

/-- What must be put back after a crash has no cargo. -/
theorem cargo_filter_isCleanup (tasks : List Task) : cargo (tasks.filter Task.isCleanup) = [] := by
  refine cargo_of_none fun task member => ?_
  have kept := (List.mem_filter.mp member).2
  cases task <;> first | rfl | cases kept

/-- What delivering a batch does with events. -/
theorem Delivery.move {depot after : Depot} {agent next : Agent} {task : Task}
    (deed : Delivery depot agent task after next) (orderly : BatchlessBelow (task :: agent.tasks)) :
    Hauls depot after task agent.tasks next.tasks := by
  -- Giving up loses nothing, as there is no cargo then.
  have untouched (told : traffic after.journal = traffic depot.journal)
      (same : after.queue.waiting = depot.queue.waiting)
      (totals : SameTotals depot.tally after.tally) (none : task.isCargo = false)
      (pushed : cargo next.tasks = cargo agent.tasks) :
      Hauls depot after task agent.tasks next.tasks :=
    ⟨[], [], .still told same totals, by simp [none], pushed, .inr (by simp)⟩
  cases deed with
  | drainNothing _ empty => exact untouched rfl empty.symm ⟨rfl, rfl, rfl, rfl⟩ rfl rfl
  | drain trigger occupied =>
    -- Beside the batch there may be a count of the trigger, which owes no event.
    refine ⟨_, _, .drain depot.settings.sendTimeout rfl occupied rfl rfl, rfl, ?_, .inl rfl⟩
    cases trigger <;> simp [Agent.push, Trigger.counter?, Task.isCargo]
  | send batch timeout reply =>
    refine ⟨_, _, .send batch timeout agent.sending reply.outcome ?_ rfl rfl, rfl, ?_, .inl rfl⟩
    · simp [Depot.note, Occurrence.isTraffic]
    · -- What happens inside the send has not been handed in yet.
      have records : cargo (reply.records.map Task.bridge) = [] := by
        refine cargo_of_none fun new member => ?_
        obtain ⟨record, _, rfl⟩ := List.mem_map.mp member
        rfl
      have remarks : cargo (reply.remarks.map fun remark : Severity × String =>
          Task.submit (Submission.ofMessage remark.1 remark.2)) = [] := by
        refine cargo_of_none fun new member => ?_
        obtain ⟨remark, _, rfl⟩ := List.mem_map.mp member
        rfl
      cases reply.waits <;> simp [Agent.push, records, remarks, Task.isCargo]
  | deliver wasSending batch =>
    exact ⟨_, _, .deliver batch wasSending (by simp [Depot.note, Occurrence.isTraffic]) rfl rfl,
      rfl, rfl, .inl rfl⟩
  | giveUp wasSending batch outcome error failed =>
    -- Without a failure nothing is given up.
    have wrong : outcome ≠ .ok := by rintro rfl; simp [Outcome.error?] at failed
    refine ⟨_, _, .fail batch wasSending outcome wrong ?_ rfl rfl, rfl, ?_, .inl rfl⟩
    · simp [Depot.note, Occurrence.isTraffic]
    · cases depot.settings.echo <;> simp [Agent.push, warn, Task.isCargo]
  | showCrashes | flushCrashes =>
    -- The batch was told of before its events are shown.
    refine untouched ?_ rfl ⟨rfl, rfl, rfl, rfl⟩ rfl ?_
    · simp [Depot.note, Occurrence.isTraffic]
    · rw [Agent.unwind, cargo_filter_isCleanup, orderly.cargo_eq_nil rfl]
  | _ =>
    refine untouched ?_ rfl ⟨rfl, rfl, rfl, rfl⟩ rfl ?_
    · simp [Depot.note, Depot.enter, Occurrence.isTraffic]
    · simp [Agent.push, warn, Task.isCargo]

/-- What a decision about the courier does with events. -/
theorem Duty.move {depot after : Depot} {agent next : Agent} {task : Task}
    (deed : Duty depot agent task after next) :
    Hauls depot after task agent.tasks next.tasks := by
  -- Only closing the queue takes events on.
  cases deed with
  | closeEmpty _ empty =>
    refine ⟨[], [], .still ?_ empty.symm ⟨rfl, rfl, rfl, rfl⟩, rfl, rfl, .inr (by simp)⟩
    simp [Depot.note, Occurrence.isTraffic]
  | close timeout occupied =>
    refine ⟨_, _, .drain timeout ?_ occupied rfl rfl, rfl, rfl, .inl rfl⟩
    simp [Depot.note, Occurrence.isTraffic]
  | reportLosses =>
    unfold Depot.reportLosses
    split
    · exact ⟨[], [], .still rfl rfl ⟨rfl, rfl, rfl, rfl⟩, rfl, rfl, .inr (by simp)⟩
    · exact ⟨[], [], .still (by simp [Depot.tell, Depot.note, Occurrence.isTraffic]) rfl
        ⟨rfl, rfl, rfl, rfl⟩, rfl, rfl, .inr (by simp)⟩
  | takeCourier | takeNobody | join =>
    refine ⟨[], [], .still rfl rfl ⟨rfl, rfl, rfl, rfl⟩, rfl, ?_, .inr (by simp)⟩
    unfold Depot.conclusion
    cases depot.settings.echo <;> simp [Agent.push, Task.isCargo]
  | _ =>
    refine ⟨[], [], .still ?_ rfl ⟨rfl, rfl, rfl, rfl⟩, rfl, ?_, .inr (by simp)⟩
    · simp [Depot.note, Depot.tell, Depot.enter, Depot.release, Depot.lose, Occurrence.isTraffic]
    · simp [Agent.push, Agent.reply, Task.isCargo]

/-- What a step does with events. -/
theorem Deed.move {depot after : Depot} {agent next : Agent} {task : Task}
    (deed : Deed depot agent task after next) (remote : depot.settings.isRemote = true)
    (sound : depot.queue.Sound) (orderly : BatchlessBelow (task :: agent.tasks)) :
    Hauls depot after task agent.tasks next.tasks := by
  -- Each kind of step has its own ways to move events.
  rcases deed with intake | delivery | duty
  · exact intake.move remote sound
  · exact delivery.move orderly
  · exact duty.move

/-- What a change of a world does with events, whoever else has cargo. -/
theorem Turn.move {world next : World} (turn : Turn world next) (custody : Custody world)
    (sound : world.depot.queue.Sound) :
    ∃ old new upper lower, Move world.depot next.depot old new ∧
      cargo world.tasks = upper ++ old ++ lower ∧ cargo next.tasks = upper ++ new ++ lower ∧
      ((∃ moved ∈ old ++ new, moved.isBatch = true) →
        ∀ other ∈ upper ++ lower, other.isBatch = false) := by
  -- Beside a batch that is moved there is none, neither below it nor with others.
  cases turn with
  | act left right agent after task split joined deed =>
    have orderly : BatchlessBelow (task :: agent.tasks) :=
      (custody.orderly_of_mem (Custody.agent_mem split)).1
    obtain ⟨old, new, move, took, put, errand⟩ := deed.move custody.remote sound orderly
    refine ⟨old, new, cargo (left.flatMap Agent.tasks),
      cargo agent.tasks ++ cargo (right.flatMap Agent.tasks), move, ?_, ?_, ?_⟩
    · exact World.filter_tasks_of_split split took
    · exact World.filter_tasks_of_split joined put
    · -- Whoever moves a batch runs an errand, and no other agent has a batch meanwhile.
      rintro ⟨moved, among, batch⟩ other member
      rcases errand with errand | none
      · rw [orderly.cargo_eq_nil (Task.isInner_of_isErrand errand), List.nil_append,
          ← cargo_append, ← List.flatMap_append] at member
        obtain ⟨owner, present, has⟩ := List.mem_flatMap.mp (List.mem_filter.mp member).1
        exact custody.alone split errand deed owner present other has
      · simp [none moved among] at batch
  | call call same joined =>
    have after : next.tasks = world.tasks ++ call.tasks world.depot.settings :=
      World.tasks_of_joined joined
    refine ⟨[], [], cargo world.tasks, [], ?_, by simp, ?_, by simp⟩
    · rw [same]
      exact .still rfl rfl ⟨rfl, rfl, rfl, rfl⟩
    · rw [after, cargo_append]
      -- Nobody calls with cargo.
      cases call <;> simp [Call.tasks, Task.isCargo]
  | outside now wall permits elsewhere same =>
    refine ⟨[], [], cargo world.tasks, [], ?_, by simp, by simp [World.tasks, same], by simp⟩
    rw [elsewhere]
    exact .still rfl rfl ⟨rfl, rfl, rfl, rfl⟩

namespace Task

/-- Whether a task belongs to stopping the courier. -/
def isFarewell : Task → Bool
  | .takeOver _ | .dismiss _ | .finish _ | .closeQueue _ => true
  | _ => false

/-- Stopping the courier is decided. -/
theorem isDuty_of_isFarewell {task : Task} (farewell : task.isFarewell = true) :
    task.isDuty = true := by
  cases task <;> first | rfl | cases farewell

end Task

/-- Nobody stops the courier, and nothing is closed, before it is known that the courier stops. -/
structure StopAnnounced (depot : Depot) (tasks : List Task) : Prop where
  tasks : ∀ task ∈ tasks, task.isFarewell = true → depot.stopped = true
  orders : ∀ deadline, .stop deadline ∈ depot.orders → depot.stopped = true
  closed : depot.queue.closed = true → depot.stopped = true

/-- Handing in an event neither orders nor closes anything. -/
theorem Intake.sameOrders {depot after : Depot} {agent next : Agent} {task : Task}
    (deed : Intake depot agent task after next) :
    after.orders = depot.orders ∧ after.queue.closed = depot.queue.closed := by
  -- An event that enters changes only what waits and the signal.
  cases deed with
  | append _ _ _ _ grown => subst grown; exact ⟨rfl, rfl⟩
  | displace _ _ _ _ _ _ _ _ _ shifted => subst shifted; exact ⟨rfl, rfl⟩
  | displaceNobody _ _ _ _ _ shifted => subst shifted; exact ⟨rfl, rfl⟩
  | _ => exact ⟨rfl, rfl⟩

/-- Delivering a batch neither orders nor closes anything. -/
theorem Delivery.sameOrders {depot after : Depot} {agent next : Agent} {task : Task}
    (deed : Delivery depot agent task after next) :
    after.orders = depot.orders ∧ after.queue.closed = depot.queue.closed := by
  cases deed <;> exact ⟨rfl, rfl⟩

/-- What has been announced stays so. -/
theorem Deed.stopped {depot after : Depot} {agent next : Agent} {task : Task}
    (deed : Deed depot agent task after next) (stopped : depot.stopped = true) :
    after.stopped = true := by
  -- Only a call to stop sets it, and nothing takes it back.
  rcases deed with intake | delivery | duty
  · rw [intake.sameCharge.stopped, stopped]
  · rw [delivery.sameCharge.stopped, stopped]
  · cases duty with
    | reportLosses => rw [depot.sameCharge_reportLosses.stopped, stopped]
    -- A stop is what announces it.
    | stop => rfl
    | stopAgain => rfl
    | _ => exact stopped

/-- As long as nothing has been announced, nobody works on the end of the courier. -/
theorem StopAnnounced.none {depot : Depot} {tasks : List Task}
    (announced : StopAnnounced depot tasks)
    (early : depot.stopped = false) : (∀ task ∈ tasks, task.isFarewell = false) ∧
      (∀ deadline, .stop deadline ∉ depot.orders) ∧ depot.queue.closed = false := by
  -- Each of these would have been announced.
  refine ⟨fun task member => ?_, fun deadline member => ?_, ?_⟩
  · -- A task of stopping has been announced.
    refine Bool.eq_false_iff.mpr fun farewell => ?_
    simpa [early] using announced.tasks task member farewell
  · simpa [early] using announced.orders deadline member
  · refine Bool.eq_false_iff.mpr fun closed => ?_
    simpa [early] using announced.closed closed

/-- A decision that is made before anything has been announced either announces the end of the
courier or does not work on it. -/
theorem Duty.announces {depot after : Depot} {agent next : Agent} {task : Task}
    (deed : Duty depot agent task after next) (own : task.isFarewell = false)
    (below : ∀ old ∈ agent.tasks, old.isFarewell = false)
    (unordered : ∀ deadline, .stop deadline ∉ depot.orders) (opened : depot.queue.closed = false) :
    after.stopped = true ∨ (∀ new ∈ next.tasks, new.isFarewell = false) ∧
      (∀ deadline, .stop deadline ∉ after.orders) ∧ after.queue.closed = false := by
  -- Only a call to stop leads to the tasks of stopping.
  cases deed with
  | stop => exact .inl rfl
  | stopAgain => exact .inl rfl
  | finish => cases own
  | closeEmpty => cases own
  | close => cases own
  | takeHandle => cases own
  | takeCourier => cases own
  | takeNobody => cases own
  | dismiss => cases own
  | dismissGone => cases own
  | takeStop _ _ deadline _ ordered => exact absurd (by simp [ordered]) (unordered deadline)
  | takeFlush _ _ rest ordered =>
    -- What is left of the orders was there before.
    refine .inr ⟨?_, fun deadline member => unordered deadline ?_, opened⟩
    · simpa [Agent.push, Task.isFarewell] using below
    · rw [ordered]
      exact List.mem_cons_of_mem _ member
  | order =>
    -- The new order is one to flush.
    refine .inr ⟨below, fun deadline member => unordered deadline ?_, opened⟩
    simpa using member
  -- The orders are forgotten with the courier.
  | release => exact .inr ⟨below, by simp [Depot.release], opened⟩
  | hireLost =>
    refine .inr ⟨below, ?_, opened⟩
    simp [Depot.lose, Depot.tell, Depot.enter, Depot.note, Depot.release]
  | reportLosses =>
    unfold Depot.reportLosses
    split
    · exact .inr ⟨below, unordered, opened⟩
    · exact .inr ⟨below, unordered, opened⟩
  | join =>
    refine .inr ⟨?_, unordered, opened⟩
    unfold Depot.conclusion
    cases depot.settings.echo <;> simpa [Agent.push, Task.isFarewell] using below
  | _ =>
    refine .inr ⟨?_, unordered, opened⟩
    simpa [Agent.push, Agent.reply, Task.isFarewell] using below

/-- Whoever steps announces the end of the courier before working on it. -/
theorem Deed.announced {depot after : Depot} {agent next : Agent} {task : Task}
    (deed : Deed depot agent task after next)
    (announced : StopAnnounced depot (task :: agent.tasks)) : StopAnnounced after next.tasks := by
  -- Once it is announced there is nothing to show, and before that nobody works on it.
  -- It is enough that the step announces, or works on nothing that needs it.
  suffices either : after.stopped = true ∨ (∀ new ∈ next.tasks, new.isFarewell = false) ∧
      (∀ deadline, .stop deadline ∉ after.orders) ∧ after.queue.closed = false by
    rcases either with still | ⟨none, unordered, opened⟩
    · exact ⟨fun _ _ _ => still, fun _ _ => still, fun _ => still⟩
    · refine ⟨fun new member farewell => ?_, fun deadline member => ?_, fun shut => ?_⟩
      · simp [none new member] at farewell
      · exact absurd member (unordered deadline)
      · simp [opened] at shut
  cases early : depot.stopped with
  | true => exact .inl (deed.stopped early)
  | false =>
    obtain ⟨none, unordered, opened⟩ := announced.none early
    have below : ∀ old ∈ agent.tasks, old.isFarewell = false :=
      fun old member => none old (List.mem_cons_of_mem _ member)
    -- Only decisions work on the end of the courier.
    have harmless : ∀ new : Task, new.isDuty = false → new.isFarewell = false := by
      intro new other
      refine Bool.eq_false_iff.mpr fun farewell => ?_
      simp [Task.isDuty_of_isFarewell farewell] at other
    rcases deed with intake | delivery | duty
    · obtain ⟨pushed, same, _, inside⟩ := intake.pushes
      rw [intake.sameOrders.1, intake.sameOrders.2, same]
      refine .inr ⟨fun new member => ?_, unordered, opened⟩
      rcases List.mem_append.mp member with member | member
      · exact harmless new (by simp [Task.isDuty, inside new member])
      · exact below new member
    · rw [delivery.sameOrders.1, delivery.sameOrders.2]
      refine .inr ⟨fun new member => ?_, unordered, opened⟩
      rcases delivery.pushes with ⟨pushed, same, _, _, _, kept⟩ | ⟨crash, rfl⟩
      · rw [same] at member
        rcases List.mem_append.mp member with member | member
        · exact harmless new (kept new member).1
        · exact below new member
      · exact below new (List.mem_filter.mp member).1
    · exact duty.announces (none task List.mem_cons_self) below unordered opened

/-- A turn keeps the queue sound. -/
theorem Turn.sound {world next : World} (turn : Turn world next)
    (sound : world.depot.queue.Sound) : next.depot.queue.Sound :=
  turn.preserves (·.queue.Sound) (fun _ _ _ => sound) fun _ deed => deed.sound sound

/-- A turn keeps the policy of the queue. -/
theorem Turn.overflow {world next : World} (turn : Turn world next) :
    next.depot.queue.overflow = world.depot.queue.overflow :=
  turn.preserves (·.queue.overflow = world.depot.queue.overflow) (fun _ _ _ => rfl)
    fun _ deed => deed.overflow

/-- A turn keeps the settings. -/
theorem Turn.settings {world next : World} (turn : Turn world next) :
    next.depot.settings = world.depot.settings :=
  turn.preserves (·.settings = world.depot.settings) (fun _ _ _ => rfl) fun _ deed => deed.settings

/-- A turn takes back no announcement. -/
theorem Turn.stopped {world next : World} (turn : Turn world next)
    (stopped : world.depot.stopped = true) : next.depot.stopped = true :=
  turn.preserves (·.stopped = true) (fun _ _ _ => stopped) fun _ deed => deed.stopped stopped

/-- In a turn nobody works on the end of the courier before announcing it. -/
theorem Turn.announced {world next : World} (turn : Turn world next)
    (announced : StopAnnounced world.depot world.tasks) : StopAnnounced next.depot next.tasks := by
  -- What others still have to do was announced before.
  cases turn with
  | act left right agent after task split joined deed =>
    have before := World.tasks_of_split split
    have own : StopAnnounced world.depot (task :: agent.tasks) :=
      ⟨fun task member => announced.tasks task
        (by rw [before]; exact List.mem_append_left _ (List.mem_append_right _ member)),
        announced.orders, announced.closed⟩
    obtain ⟨tasks, orders, closed⟩ := deed.announced own
    refine ⟨fun other member farewell => ?_, orders, closed⟩
    -- Whatever others work on was announced before, and stays so.
    have others : other ∈ world.tasks → next.depot.stopped = true :=
      fun among => deed.stopped (announced.tasks other among farewell)
    rw [World.tasks_of_split joined] at member
    rcases List.mem_append.mp member with member | member
    · rcases List.mem_append.mp member with member | member
      · exact others (by rw [before]; exact List.mem_append_left _ (List.mem_append_left _ member))
      · exact tasks other member farewell
    · exact others (by rw [before]; exact List.mem_append_right _ member)
  | call call same joined =>
    have after : next.tasks = world.tasks ++ call.tasks world.depot.settings :=
      World.tasks_of_joined joined
    rw [same, after]
    refine ⟨fun task member farewell => ?_, announced.orders, announced.closed⟩
    rcases List.mem_append.mp member with member | member
    · exact announced.tasks task member farewell
    · -- Nobody calls with the end of the courier already under way.
      have none : ∀ new ∈ call.tasks world.depot.settings, new.isFarewell = false := by
        cases call <;> simp [Call.tasks, Task.isFarewell]
      simp [none task member] at farewell
  | outside now wall permits elsewhere same =>
    have after : next.tasks = world.tasks := by simp [World.tasks, same]
    rw [elsewhere, after]
    exact ⟨announced.tasks, announced.orders, announced.closed⟩

/-- With an endpoint at most one agent has the courier, the queue is sound, and nobody stops the
courier before that is known. -/
structure CoreInvariant (world : World) : Prop where
  custody : Custody world
  sound : world.depot.queue.Sound
  announced : StopAnnounced world.depot world.tasks

namespace CoreInvariant

/-- It holds before anything has happened. -/
theorem initial {settings : Settings} (remote : settings.isRemote = true) (threshold : Threshold)
    (transportName sinkName : String) (wall : Timestamp) (script : Script) :
    CoreInvariant (.initial (.create settings threshold transportName sinkName wall script)) where
  -- Nothing has been stopped, ordered or closed.
  custody := .initial remote threshold transportName sinkName wall script
  sound := .create settings.maxBatch settings.overflow
  announced :=
    ⟨by simp [Task.isFarewell], by simp [Depot.create], by simp [Depot.create, Queue.create]⟩

/-- A change of a world keeps it. -/
theorem step {world next : World} (core : CoreInvariant world)
    (change : World.Step world next) : CoreInvariant next := by
  -- Each part is kept for itself.
  obtain ⟨custody, sound, announced⟩ := core
  have turn := change.turn
  exact ⟨custody.step change, turn.sound sound, turn.announced announced⟩

/-- It holds of every world that comes about from one of which it holds. -/
theorem reachable {start world : World} (core : CoreInvariant start)
    (run : World.Reachable start world) : CoreInvariant world := by
  -- Induction on the run.
  induction run with
  | refl => exact core
  | step _ change ih => exact ih.step change

/-- What holds at first and is kept by every turn of such a world holds of all that comes
about. -/
theorem induction {start world : World} (core : CoreInvariant start) (motive : World → Prop)
    (first : motive start)
    (kept : ∀ {world next : World}, CoreInvariant world → motive world → Turn world next →
      motive next)
    (run : World.Reachable start world) : motive world := by
  -- Induction on the run.
  induction run with
  | refl => exact first
  | step before change ih => exact kept (core.reachable before) ih change.turn

/-- The settings and the policy of the queue remain what they were at first. -/
theorem constant {start world : World}
    (run : World.Reachable start world) : world.depot.settings = start.depot.settings ∧
      world.depot.queue.overflow = start.depot.queue.overflow := by
  -- Change by change.
  induction run with
  | refl => exact ⟨rfl, rfl⟩
  | step before change ih =>
    exact ⟨change.turn.settings.trans ih.1, change.turn.overflow.trans ih.2⟩

end CoreInvariant

end LogCourier
