import LogCourier.Proofs.Depot.Accounting
import LogCourier.Proofs.Depot.Progress
import LogCourier.Proofs.Depot.Sealing

/-!
Waking: the courier never waits beside a full queue without being woken.

Whoever leaves the queue full wishes it to be emptied, and utters the wish later, in a step of its
own. Until the queue has room again, the wish is still to be uttered, it waits to be taken, or the
courier has taken it and is about to take the batch.
-/

namespace LogCourier

/-- The queue is open and full, and there is somebody to empty it. -/
structure QueueCrowded (depot : Depot) : Prop where
  heard : depot.listening = true
  opened : depot.queue.closed = false
  full : depot.queue.isFull = true

namespace Task

/-- Whether a task is what the courier does about a wish that it has taken. -/
def heeds : Task → Bool
  | .checkFull | .flushFor .size | .drain .size => true
  | _ => false

end Task

/-- What the courier does about a wish belongs to taking a batch. -/
theorem Task.isDelivery_of_heeds {task : Task} (heeds : task.heeds = true) :
    task.isDelivery = true := by
  cases task <;> first | rfl | cases heeds

/-- No step changes how many events make a full queue. -/
theorem Deed.maxBatch {depot after : Depot} {agent next : Agent} {task : Task}
    (deed : Deed depot agent task after next) :
    after.queue.maxBatch = depot.queue.maxBatch := by
  -- The size of a batch is set when the queue is made.
  rcases deed with intake | delivery | duty
  · cases intake with
    | append _ _ _ _ grown => subst grown; rfl
    | displace _ _ _ _ _ _ _ _ _ shifted => subst shifted; rfl
    | displaceNobody _ _ _ _ _ shifted => subst shifted; rfl
    | _ => rfl
  · cases delivery <;> rfl
  · cases duty with
    | reportLosses => unfold Depot.reportLosses; split <;> rfl
    | _ => rfl

/-- Whoever leaves the queue full by handing in an event has a wish to utter. -/
theorem Intake.crowded {depot after : Depot} {agent next : Agent} {task : Task}
    (deed : Intake depot agent task after next) (crowded : QueueCrowded after) :
    .signal ∈ next.tasks ∨ after.queue.signalled = true ∨
      QueueCrowded depot ∧ after.queue.signalled = depot.queue.signalled ∧ task ≠ .signal := by
  -- The queue asks by the same measure by which it is full.
  obtain ⟨heard, opened, full⟩ := crowded
  cases deed with
  | append event queue _ _ _ =>
    have asks : queue.asks .appended = true := full
    exact .inl (by simp [Agent.push, asks])
  | displace event oldest rest ceiling queue =>
    have asks : queue.asks .displacing = true := full
    exact .inl (by simp [Agent.push, asks])
  | displaceNobody event queue =>
    have asks : queue.asks .displacing = true := full
    exact .inl (by simp [Agent.push, asks])
  | signal => exact .inr (.inl rfl)
  -- A wish is lost only where nobody would hear it.
  | signalLost unheard => simp [unheard] at heard
  | _ => exact .inr (.inr ⟨⟨heard, opened, full⟩, rfl, by simp⟩)

/-- Delivering a batch takes no wish, and the courier goes on with what it does about one. -/
theorem Delivery.crowded {depot after : Depot} {agent next : Agent} {task : Task}
    (deed : Delivery depot agent task after next) (room : 0 < depot.queue.maxBatch)
    (crowded : QueueCrowded after) :
    QueueCrowded depot ∧ after.queue.signalled = depot.queue.signalled ∧
      (task.heeds = true → ∃ new rest, next.tasks = new :: rest ∧ new.heeds = true) := by
  -- The courier leaves off only once the queue has room.
  obtain ⟨heard, opened, full⟩ := crowded
  cases deed with
  | drainNothing => simp [Queue.drain, Queue.isFull] at full; omega
  | drain => simp [Queue.drain, Queue.isFull] at full; omega
  | findRoom free => simp [free] at full
  | findFull =>
    exact ⟨⟨heard, opened, full⟩, rfl, fun _ => ⟨.flushFor .size, agent.tasks, rfl, rfl⟩⟩
  | flushFor trigger =>
    refine ⟨⟨heard, opened, full⟩, rfl, fun heeds => ⟨.drain trigger, agent.tasks, rfl, ?_⟩⟩
    cases trigger <;> first | rfl | cases heeds
  | _ => exact ⟨⟨heard, opened, full⟩, rfl, fun heeds => by cases heeds⟩

/-- A wish is taken only by whoever then looks at the queue. -/
theorem Duty.crowded {depot after : Depot} {agent next : Agent} {task : Task}
    (deed : Duty depot agent task after next) (crowded : QueueCrowded after) :
    QueueCrowded depot ∧ after.queue.signalled = depot.queue.signalled ∨
      ∃ tick wake rest, task = .select tick wake ∧ next.tasks = .checkFull :: rest := by
  -- What closes the queue, or leaves nobody to empty it, leaves no queue that is crowded.
  obtain ⟨heard, opened, full⟩ := crowded
  cases deed with
  | takeSignal tick wake => exact .inr ⟨tick, wake, _, rfl, rfl⟩
  | closeEmpty => cases opened
  | close => cases opened
  | release => cases heard
  | hireLost => cases heard
  | reportLosses =>
    have same : depot.reportLosses.listening = depot.listening ∧
        depot.reportLosses.queue = depot.queue := by
      unfold Depot.reportLosses
      split <;> exact ⟨rfl, rfl⟩
    rw [same.1] at heard
    rw [same.2] at opened full ⊢
    exact .inl ⟨⟨heard, opened, full⟩, rfl⟩
  | _ => exact .inl ⟨⟨heard, opened, full⟩, rfl⟩

/-- Somebody sees to it that the queue is emptied. -/
inductive Alert (world : World) : Prop where
  /-- A wish waits to be taken. -/
  | signalled (waits : world.depot.queue.signalled = true)
  /-- An agent has its wish still to utter. -/
  | uttering (agent : Agent) (member : agent ∈ world.agents) (wish : .signal ∈ agent.tasks)
  /-- The courier has taken a wish and is about to take the batch. -/
  | heeding (task : Task) (rest : List Task) (first : world.courier.tasks = task :: rest)
      (heeds : task.heeds = true)

/-- A wish that is still to be uttered is not forgotten. -/
theorem Deed.keeps_signal {depot after : Depot} {agent next : Agent} {task : Task}
    (deed : Deed depot agent task after next) (orderly : BatchlessBelow (task :: agent.tasks))
    (wish : .signal ∈ agent.tasks) : .signal ∈ next.tasks := by
  -- Below what can crash there is no wish.
  rcases deed.leaves orderly with ⟨pushed, same⟩ | ⟨_, below⟩
  · simp [same, wish]
  · exact absurd (below .signal wish).1 (by simp [Task.isInner, Task.isIntake])

/-- The queue is full with a batch of the size that was set, at least with one event, and as long as
it is crowded somebody sees to it. -/
structure FullQueueWatched (world : World) : Prop where
  size : world.depot.queue.maxBatch = max world.depot.settings.maxBatch 1
  alert : QueueCrowded world.depot → Alert world

namespace FullQueueWatched

variable {world next : World}

/-- Before anything has happened the queue is empty. -/
theorem initial (settings : Settings) (threshold : Threshold) (transportName sinkName : String)
    (wall : Timestamp) (script : Script) :
    FullQueueWatched
      (.initial (.create settings threshold transportName sinkName wall script)) where
  size := rfl
  alert crowded := by
    -- An empty queue is not crowded.
    have full := crowded.full
    simp [Depot.create, Queue.create, Queue.isFull] at full

/-- An empty queue is not full. -/
theorem room (watched : FullQueueWatched world) : 0 < world.depot.queue.maxBatch := by
  rw [watched.size]
  omega

/-- What an agent does while the queue is crowded leaves somebody who sees to it. -/
theorem act (watched : FullQueueWatched world) (custody : Custody world) {left right : List Agent}
    {agent after : Agent} {task : Task}
    (split : world.agents = left ++ { agent with tasks := task :: agent.tasks } :: right)
    (joined : next.agents = left ++ after :: right)
    (deed : Deed world.depot agent task next.depot after) (crowded : QueueCrowded next.depot) :
    Alert next := by
  -- Whoever saw to it before still does, or has left it to somebody else by this step.
  have orderly : BatchlessBelow (task :: agent.tasks) :=
    (custody.orderly_of_mem (Custody.agent_mem split)).1
  have own : after ∈ next.agents := by simp [joined]
  have keeps (was : QueueCrowded world.depot)
      (same : next.depot.queue.signalled = world.depot.queue.signalled)
      (other : task ≠ .signal)
      (heeded : task.heeds = true → ∃ new rest, after.tasks = new :: rest ∧ new.heeds = true) :
      Alert next := by
    rcases watched.alert was with waits | ⟨owner, member, wish⟩ | ⟨first, rest, tasks, heeds⟩
    · exact .signalled (same.trans waits)
    · rw [split] at member
      rcases List.mem_append.mp member with member | member
      · exact .uttering owner (by simp [joined, member]) wish
      · rcases List.mem_cons.mp member with rfl | member
        · -- The wish of whoever acts stands below.
          have below := (List.mem_cons.mp wish).resolve_left (Ne.symm other)
          exact .uttering after own (deed.keeps_signal orderly below)
        · exact .uttering owner (by simp [joined, member]) wish
    · cases left with
      | nil =>
        -- The courier goes on.
        rw [(List.cons.inj split).1] at tasks
        obtain ⟨rfl, _⟩ := List.cons.inj tasks
        obtain ⟨new, rest, left, heeds'⟩ := heeded heeds
        exact .heeding new rest (by rw [(List.cons.inj joined).1, left]) heeds'
      | cons courier left =>
        have still : next.courier = world.courier := by
          rw [(List.cons.inj joined).1, (List.cons.inj split).1]
        exact .heeding first rest (by rw [still, tasks]) heeds
  rcases deed with intake | delivery | duty
  · rcases intake.crowded crowded with wish | waits | ⟨was, same, other⟩
    · exact .uttering after own wish
    · exact .signalled waits
    · refine keeps was same other fun heeds => ?_
      simpa [Task.isDelivery_of_heeds heeds] using Task.isDelivery_of_isIntake intake.isIntake
  · obtain ⟨was, same, heeded⟩ := delivery.crowded watched.room crowded
    have kind := delivery.isDelivery
    exact keeps was same (by rintro rfl; cases kind) heeded
  · rcases duty.crowded crowded with ⟨was, same⟩ | ⟨tick, wake, rest, rfl, looks⟩
    · have kind := duty.isDuty
      refine keeps was same (by rintro rfl; cases kind) fun heeds => ?_
      simp [Task.isDuty, Task.isDelivery_of_heeds heeds] at kind
    · -- Nobody but the courier waits for wishes.
      cases left with
      | nil => exact .heeding _ rest (by rw [(List.cons.inj joined).1, looks]) rfl
      | cons courier left =>
        have caller : { agent with tasks := .select tick wake :: agent.tasks } ∈ world.callers := by
          simp [(List.cons.inj split).2]
        have course := (custody.callers _ caller).course
        have finite := course.finite (.select tick wake)
          (by simp [Task.isDuty, Task.isIntake, Task.isDelivery])
        cases finite

/-- A turn leaves somebody who sees to a crowded queue. -/
theorem turn (watched : FullQueueWatched world) (custody : Custody world) (turn : Turn world next) :
    FullQueueWatched next := by
  -- What lies outside leaves the queue alone, and so does a call.
  cases turn with
  | act left right agent after task split joined deed =>
    refine ⟨?_, watched.act custody split joined deed⟩
    rw [deed.maxBatch, deed.settings, watched.size]
  | call call same joined =>
    refine ⟨by rw [same, watched.size], fun crowded => ?_⟩
    rw [same] at crowded
    have courier : next.courier = world.courier := (List.cons.inj joined).1
    rcases watched.alert crowded with waits | ⟨owner, member, wish⟩ | ⟨first, rest, tasks, heeds⟩
    · exact .signalled (same ▸ waits)
    · exact .uttering owner (by simp [joined, member]) wish
    · exact .heeding first rest (courier ▸ tasks) heeds
  | outside now wall permits elsewhere same =>
    have queue : next.depot.queue = world.depot.queue := by rw [elsewhere]
    refine ⟨by rw [elsewhere]; exact watched.size, fun crowded => ?_⟩
    have was : QueueCrowded world.depot := by
      rw [elsewhere] at crowded
      exact ⟨crowded.heard, crowded.opened, crowded.full⟩
    have courier : next.courier = world.courier := (List.cons.inj same).1
    rcases watched.alert was with waits | ⟨owner, member, wish⟩ | ⟨first, rest, tasks, heeds⟩
    · exact .signalled (queue ▸ waits)
    · exact .uttering owner (same ▸ member) wish
    · exact .heeding first rest (courier ▸ tasks) heeds

/-- In every world that comes about somebody sees to a crowded queue. -/
theorem reachable {settings : Settings} (remote : settings.isRemote = true)
    {threshold : Threshold} {transportName sinkName : String} {wall : Timestamp}
    {script : Script} {world : World}
    (run : World.Reachable
      (.initial (.create settings threshold transportName sinkName wall script)) world) :
    FullQueueWatched world :=
  (CoreInvariant.initial remote ..).induction FullQueueWatched (initial ..)
    -- Induction on the run, next to the core of the invariant.
    (fun core watched change => watched.turn core.custody change) run

end FullQueueWatched

/-- With the courier to give back for good, an agent has closed the queue, or it is about to do so
with nothing before that could fail. -/
def WillClose (depot : Depot) (tasks : List Task) : Prop :=
  -- The last flush begins with three decisions, and the third one closes the queue.
  .release ∈ tasks → depot.queue.closed = true ∨
    (∃ deadline rest, tasks = .finish deadline :: rest) ∨
    (∃ timeout rest, tasks = .enter .finalFlush :: .closeQueue timeout :: rest) ∨
    ∃ timeout rest, tasks = .closeQueue timeout :: rest

/-- Whoever takes the courier for good begins the last flush at once. -/
theorem Deed.release_of_mem {depot after : Depot} {agent next : Agent} {task : Task}
    (deed : Deed depot agent task after next) (member : .release ∈ next.tasks) :
    .release ∈ agent.tasks ∨ ∃ deadline rest, next.tasks = .finish deadline :: rest := by
  -- Only taking the courier for good leads to giving it back.
  rcases deed with intake | delivery | duty
  · obtain ⟨pushed, same, _, inside⟩ := intake.pushes
    rw [same] at member
    rcases List.mem_append.mp member with member | member
    · cases inside _ member
    · exact .inl member
  · rcases delivery.pushes with ⟨pushed, same, _, _, _, kept⟩ | ⟨crash, rfl⟩
    · rw [same] at member
      rcases List.mem_append.mp member with member | member
      · cases (kept _ member).1
      · exact .inl member
    · exact .inl (List.mem_filter.mp member).1
  · have owed : .release ∈ duties next.tasks := List.mem_filter.mpr ⟨member, rfl⟩
    cases duty with
    | takeCourier timeout => exact .inr ⟨timeout, _, rfl⟩
    | takeNobody | join =>
      have old : .release ∈ duties agent.tasks := by
        simpa [Agent.push, Task.isDuty, Task.isIntake, Task.isDelivery] using owed
      exact .inl (List.mem_filter.mp old).1
    | _ => exact .inl (by simpa [Agent.push, Agent.reply] using member)

/-- A step of whoever has the courier for good leads on to closing the queue. -/
theorem WillClose.after {depot after : Depot} {agent next : Agent} {task : Task}
    (pledged : WillClose depot (task :: agent.tasks)) (deed : Deed depot agent task after next) :
    WillClose after next.tasks := by
  intro member
  rcases deed.release_of_mem member with old | begins
  · rcases pledged (List.mem_cons_of_mem _ old) with closed | ⟨deadline, rest, first⟩ |
      ⟨timeout, rest, first⟩ | ⟨timeout, rest, first⟩
    · exact .inl (deed.closed closed)
    -- The three decisions follow each other.
    · obtain ⟨rfl, _⟩ := List.cons.inj first
      rcases deed with intake | delivery | duty
      · cases intake
      · cases delivery
      · cases duty
        exact .inr (.inr (.inl ⟨_, _, rfl⟩))
    · obtain ⟨rfl, left⟩ := List.cons.inj first
      rcases deed with intake | delivery | duty
      · cases intake
      · cases delivery
      · cases duty
        exact .inr (.inr (.inr ⟨timeout, rest, left⟩))
    · obtain ⟨rfl, _⟩ := List.cons.inj first
      rcases deed with intake | delivery | duty
      · cases intake
      · cases delivery
      · exact .inl (by cases duty <;> rfl)
  · exact .inr (.inl begins)

/-- A thread that has not begun has not begun before either. -/
theorem Deed.thread {depot after : Depot} {agent next : Agent} {task : Task}
    (deed : Deed depot agent task after next) (none : after.thread = .none) :
    depot.thread = .none := by
  -- A thread begins with hiring, whether it can be had or not.
  rcases deed with intake | delivery | duty
  · rw [← intake.sameCharge.thread, none]
  · rw [← delivery.sameCharge.thread, none]
  · cases duty with
    | hire => cases none
    | hireLost => cases none
    | exit thread ended =>
      subst ended
      simp only at none
      -- The thread ends as exited or crashed, and neither is none.
      split at none <;> cases none
    | reportLosses => rw [← depot.sameCharge_reportLosses.thread, none]
    | _ => exact none

/-- Callers close the queue before they give the courier back for good. -/
structure CallersWillClose (world : World) : Prop where
  callers : ∀ caller ∈ world.callers, WillClose world.depot caller.tasks
  returned : world.depot.thread = .none → world.depot.holder = .nobody →
    world.depot.queue.closed = true

namespace CallersWillClose

variable {world next : World}

/-- Before anything has happened nobody has called, and the courier is at its desk. -/
theorem initial {settings : Settings} (remote : settings.isRemote = true) (threshold : Threshold)
    (transportName sinkName : String) (wall : Timestamp) (script : Script) :
    CallersWillClose
      (.initial (.create settings threshold transportName sinkName wall script)) where
  callers := by simp
  returned := by simp [Depot.create, remote]

/-- A turn keeps callers to it. -/
theorem turn (consigned : CallersWillClose world) (custody : Custody world)
    (turn : Turn world next) :
    CallersWillClose next := by
  -- Only a caller can give back a courier that was never on its thread.
  obtain ⟨callers, returned⟩ := consigned
  cases turn with
  | act left right agent after task split joined deed =>
    constructor
    · have still : ∀ caller ∈ world.callers, WillClose next.depot caller.tasks :=
        fun caller member owed => (callers caller member owed).imp_left deed.closed
      cases left with
      | nil =>
        rw [(List.cons.inj joined).2, ← (List.cons.inj split).2]
        exact still
      | cons courier left =>
        have before := (List.cons.inj split).2
        have own := callers { agent with tasks := task :: agent.tasks } (by simp [before])
        exact forall_mem_replaced before (List.cons.inj joined).2 still (own.after deed)
    · intro alone gone
      have alone' := deed.thread alone
      rcases deed.holder with same | ⟨_, held⟩ | ⟨rfl, released⟩
      · exact deed.closed (returned alone' (same ▸ gone))
      · exact absurd gone (held (by simp [Depot.isManned, alone]))
      · cases left with
        | nil =>
          have post := custody.post
          rw [(List.cons.inj split).1] at post
          cases post with
          | desk _ _ _ alone dormant | lent _ _ _ _ alone dormant
          | returned _ _ _ _ alone dormant =>
            exact (Post.asleep (by simp [alone]) dormant deed).elim
          | _ => simp_all
        | cons courier left =>
          have before := (List.cons.inj split).2
          have own := callers { agent with tasks := .release :: agent.tasks } (by simp [before])
          rcases own List.mem_cons_self with closed | ⟨_, _, first⟩ | ⟨_, _, first⟩ | ⟨_, _, first⟩
          · exact deed.closed closed
          -- Before the queue is closed, giving back is not the first task.
          all_goals cases first
  | call call same joined =>
    have begins :
        WillClose world.depot (Agent.ofTasks (call.tasks world.depot.settings)).tasks := by
      intro owed
      cases call <;> simp [Call.tasks, Agent.ofTasks] at owed
    refine ⟨?_, by rw [same]; exact returned⟩
    rw [same]
    exact forall_mem_joined (List.cons.inj joined).2 callers begins
  | outside now wall permits elsewhere same =>
    refine ⟨fun caller member => ?_, by rw [elsewhere]; exact returned⟩
    rw [(List.cons.inj same).2] at member
    rw [elsewhere]
    exact callers caller member

end CallersWillClose

/-- A courier that waits, or that was never started while its queue is open, is there to hear a
wish, and its first task neither heeds one nor stands inside another. -/
theorem CallersWillClose.idle {world : World} (consigned : CallersWillClose world)
    (custody : Custody world)
    (idle : world.courier.isWaiting ∨ world.depot.thread = .none)
    (opened : world.depot.queue.closed = false) :
    world.depot.listening = true ∧ ∃ task rest, world.courier.tasks = task :: rest ∧
      task.heeds = false ∧ task.isInner = false := by
  -- It waits on its thread, or the courier has all of its round before it.
  rcases idle with ⟨tick, wake, rest, waiting⟩ | alone
  · refine ⟨?_, _, rest, waiting, rfl, rfl⟩
    cases custody.post with
    | working _ _ heard => exact heard
    | desk _ _ heard => exact heard
    | lent _ _ _ heard => exact heard
    | returned _ _ _ _ _ dormant | lost _ _ _ _ _ dormant =>
      simp [dormant] at waiting
    | leaving _ _ _ _ bound => simp [bound] at waiting
    | gone _ _ _ _ done => simp [done] at waiting
  · have dormant : world.courier = .courier ∧ world.depot.listening = true := by
      cases custody.post with
      | desk _ _ heard _ dormant => exact ⟨dormant, heard⟩
      | lent _ _ _ heard _ dormant => exact ⟨dormant, heard⟩
      | returned holder =>
        -- Whoever gave it back has closed the queue.
        simp [consigned.returned alone holder] at opened
      | lost _ _ _ _ refused => simp [alone] at refused
      | working _ _ _ running => simp [alone] at running
      | leaving _ _ _ running => simp [alone] at running
      | gone _ _ _ ended => cases crash : world.courier.crash <;> simp [alone, crash] at ended
    exact ⟨dormant.2, .begin, _, by rw [dormant.1]; rfl, rfl, rfl⟩

/-- With an endpoint, whenever the courier waits for something to do or has not been started, and
the queue is open and holds a full batch, the wish to be emptied waits in its slot, or some caller
has come to the queue with an event and has the wish still to utter. -/
theorem full_queue_wakes {settings : Settings} (remote : settings.isRemote = true)
    {threshold : Threshold} {transportName sinkName : String} {wall : Timestamp}
    {script : Script} {world : World}
    (run : World.Reachable
      (.initial (.create settings threshold transportName sinkName wall script)) world)
    (idle : world.courier.isWaiting ∨ world.depot.thread = .none)
    (opened : world.depot.queue.closed = false)
    (full : max settings.maxBatch 1 ≤ world.depot.pending) :
    world.depot.queue.signalled = true ∨ ∃ caller ∈ world.callers, .signal ∈ caller.tasks := by
  -- Somebody sees to the queue, and a courier that waits or was never started does not.
  have start := CoreInvariant.initial remote threshold transportName sinkName wall script
  have custody := (start.reachable run).custody
  have consigned : CallersWillClose world :=
    start.induction CallersWillClose (.initial remote threshold transportName sinkName wall script)
      (fun core consigned turn => consigned.turn core.custody turn) run
  have watched := FullQueueWatched.reachable remote run
  obtain ⟨heard, task, rest, first, unheeding, outer⟩ := consigned.idle custody idle opened
  have size : world.depot.queue.maxBatch ≤ world.depot.queue.length := by
    rw [watched.size, (CoreInvariant.constant run).1]
    exact full
  have crowded : QueueCrowded world.depot := ⟨heard, opened, decide_eq_true size⟩
  rcases watched.alert crowded with waits | ⟨agent, member, wish⟩ | ⟨other, below, tasks, heeds⟩
  · exact .inl waits
  · rcases List.mem_cons.mp member with rfl | member
    · -- Below what the courier does nothing is handed in.
      have orderly := custody.orderly
      rw [first] at orderly wish
      rcases List.mem_cons.mp wish with rfl | wish
      · cases outer
      · have under :=
          ((List.pairwise_cons.mp orderly).1 .signal wish).resolve_left (by simp [outer])
        cases under.1
    · exact .inr ⟨agent, member, wish⟩
  · rw [first] at tasks
    obtain ⟨rfl, _⟩ := List.cons.inj tasks
    simp [unheeding] at heeds

/-- A world in which two events, a full batch, wait for a courier that was never started. -/
def World.filled : World :=
  afterCalls .smooth [.submit default, .submit default]

/-- The wish for a courier that was never started waits in its slot. -/
theorem full_queue_wakes_unstarted :
    World.filled.depot.thread = .none ∧ World.filled.depot.pending = 2 ∧
      (World.filled.depot.queue.signalled = true ∨
        ∃ caller ∈ World.filled.callers, .signal ∈ caller.tasks) :=
  ⟨by decide +kernel, by decide +kernel,
    @full_queue_wakes .plain rfl _ _ _ _ _ _ (World.reachable_afterCalls _ _)
      (.inr (by decide +kernel)) (by decide +kernel) (by decide +kernel)⟩

end LogCourier
