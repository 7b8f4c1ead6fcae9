import LogCourier.Proofs.Depot.Onward
import LogCourier.Proofs.Settings.Restating

/-!
Deadlines: no send is given more time than settings allow, and the last one leaves some of the time
within which the courier is to stop.

A time limit is passed on from task to task, from the call that stops the courier to the send after
the queue is closed. So a step can be judged by what it passes on.
-/

namespace LogCourier

namespace Task

/-- Whether a task carries a time limit, for a send or for the end of the courier. -/
def isTimed : Task → Bool
  | .takeOver _ | .dismiss _ | .finish _ | .closeQueue _ | .send .. => true
  | _ => false

/-- Whether a task gives a send no more time than a bound. -/
def Allows (bound : Span) : Task → Prop
  | .send _ timeout | .closeQueue timeout => timeout.nanos ≤ bound.nanos
  | _ => True

/-- Whether a task keeps to the deadline of a stop, and to the time that this leaves for the last
send once the queue is shut. -/
def Heeds (deadline last : Span) (shut : Bool) : Task → Prop
  | .takeOver limit | .dismiss limit | .finish limit => limit = deadline
  | .closeQueue timeout => timeout = last
  | .send _ timeout => shut = true → timeout = last
  | _ => True

end Task

/-- How a task passes a time limit on to another one. -/
inductive Passes (depot : Depot) : Task → Task → Prop where
  | drain (trigger : Trigger) (occupied : depot.queue.waiting ≠ []) :
      Passes depot (.drain trigger) (.send depot.queue.waiting depot.settings.sendTimeout)
  | stop (deadline : Span) (first : depot.stopped = false) :
      Passes depot (.stop deadline) (.takeOver deadline)
  | dismiss (deadline : Span) : Passes depot (.takeOver deadline) (.dismiss deadline)
  | takeOver (deadline : Span) : Passes depot (.takeOver deadline) (.finish deadline)
  | order (tick wake : Nat) (deadline : Span) (ordered : .stop deadline ∈ depot.orders) :
      Passes depot (.select tick wake) (.finish deadline)
  | finish (deadline : Span) :
      Passes depot (.finish deadline) (.closeQueue (depot.lastTimeout deadline))
  | close (timeout : Span) :
      Passes depot (.closeQueue timeout) (.send depot.queue.waiting timeout)

section Deeds

variable {depot after : Depot} {agent next : Agent} {task : Task}

/-- Tasks with a time limit that the task before them passes on, above the tasks that follow. -/
theorem timed_of_pushed {pushed : List Task}
    (fresh : ∀ new ∈ pushed, new.isTimed = false ∨ Passes depot task new) :
    ∀ new ∈ (agent.push pushed).tasks, new ∈ agent.tasks ∨ new.isTimed = false ∨
      Passes depot task new := by
  -- What stands there was pushed, or stood there before.
  intro new member
  rcases List.mem_append.mp member with member | member
  · exact .inr (fresh new member)
  · exact .inl member

/-- What a call does that has stopped the courier has no time limit. -/
theorem isTimed_of_mem_conclusion (depot : Depot) :
    ∀ new ∈ depot.conclusion, new.isTimed = false := by
  unfold Depot.conclusion
  split <;> simp [Task.isTimed]

/-- Whoever has a time limit after a step had it before, or has it from the task that was done. -/
theorem Deed.passes (deed : Deed depot agent task after next) :
    ∀ new ∈ next.tasks, new ∈ agent.tasks ∨ new.isTimed = false ∨ Passes depot task new := by
  rcases deed with intake | delivery | duty
  · obtain ⟨pushed, same, _, inside⟩ := intake.pushes
    rw [same]
    refine timed_of_pushed fun new member => .inl ?_
    -- Handing in an event takes no time limit.
    have handing := inside new member
    cases new <;> first | rfl | cases handing
  · cases delivery with
    | drain trigger occupied =>
      refine timed_of_pushed fun new member => ?_
      rcases List.mem_append.mp member with counted | last
      · cases trigger <;> simp_all [Trigger.counter?, Task.isTimed]
      · rw [List.mem_singleton.mp last]
        exact .inr (.drain trigger occupied)
    | send _ _ reply =>
      -- What happens inside a send has no limit of its own.
      refine timed_of_pushed (forall_mem_inside reply ?_ ?_ ?_ ?_) <;> simp [Task.isTimed]
    | giveUp =>
      refine timed_of_pushed ?_
      cases depot.settings.echo <;> simp [warn, Task.isTimed]
    | showCrashes => exact fun new member => .inl (List.mem_filter.mp member).1
    | flushCrashes => exact fun new member => .inl (List.mem_filter.mp member).1
    | _ =>
      first
      | exact fun new member => .inl member
      | exact timed_of_pushed (by simp [warn, Task.isTimed])
  · cases duty with
    | finish deadline =>
      exact timed_of_pushed (by simp [Task.isTimed, Passes.finish])
    | close timeout occupied =>
      exact timed_of_pushed (by simp [Passes.close])
    | takeStop tick wake deadline orders ordered =>
      refine timed_of_pushed (List.forall_mem_singleton.mpr (.inr (.order tick wake deadline ?_)))
      simp [ordered]
    | stop timeout first => exact timed_of_pushed (by simp [Passes.stop, first])
    | takeHandle timeout => exact timed_of_pushed (by simp [Passes.dismiss])
    | takeCourier timeout =>
      refine timed_of_pushed (List.forall_mem_cons.mpr ⟨.inr (.takeOver timeout), ?_⟩)
      refine List.forall_mem_cons.mpr ⟨.inl rfl, fun new member => .inl ?_⟩
      exact isTimed_of_mem_conclusion depot new member
    | takeNobody =>
      refine timed_of_pushed (List.forall_mem_cons.mpr ⟨.inl rfl, fun new member => .inl ?_⟩)
      exact isTimed_of_mem_conclusion depot new member
    | join =>
      exact timed_of_pushed fun new member => .inl (isTimed_of_mem_conclusion depot new member)
    | _ =>
      first
      | exact fun new member => .inl member
      | exact timed_of_pushed (by simp [Task.isTimed])

/-- A step gives no order to stop but the one of the call that has the deadline. -/
theorem Deed.ordered (deed : Deed depot agent task after next) {deadline : Span}
    (ordered : .stop deadline ∈ after.orders) :
    .stop deadline ∈ depot.orders ∨ task = .dismiss deadline := by
  rcases deed with intake | delivery | duty
  · exact .inl (intake.sameOrders.1 ▸ ordered)
  · exact .inl (delivery.sameOrders.1 ▸ ordered)
  · cases duty with
    | dismiss timeout => simpa [eq_comm] using ordered
    | dismissGone => exact .inl ordered
    | takeStop _ _ _ orders same =>
      rw [same]
      exact .inl (List.mem_cons_of_mem _ ordered)
    | takeFlush _ _ orders same =>
      rw [same]
      exact .inl (List.mem_cons_of_mem _ ordered)
    | order => exact .inl (by simpa using ordered)
    -- With the courier its orders are gone.
    | release => cases ordered
    | hireLost => cases ordered
    | reportLosses =>
      unfold Depot.reportLosses at ordered
      split at ordered <;> exact .inl ordered
    | _ => exact .inl ordered

/-- What a step writes into the journal is a send only if the task is one, and that the queue is
closed only if the task closes it. -/
theorem Deed.records (deed : Deed depot agent task after next) :
    ∃ news, after.journal = news ++ depot.journal ∧
      (∀ batch payload timeout sending, .sent batch payload timeout sending ∈ news →
        task = .send batch timeout) ∧
      (.closed ∈ news → news = [.closed] ∧ after.queue.closed = true) := by
  -- The send and the two ways to close the queue are the only ones that tell of either.
  rcases deed with intake | delivery | duty
  · cases intake with
    | displace => exact ⟨[_, _], rfl, by simp, by simp⟩
    | _ =>
      first
      | exact ⟨[], rfl, by simp, by simp⟩
      | exact ⟨[_], rfl, by simp, by simp⟩
  · cases delivery with
    | send => exact ⟨[_], rfl, by simp +contextual [eq_comm], by simp⟩
    | _ =>
      first
      | exact ⟨[], rfl, by simp, by simp⟩
      | exact ⟨[_], rfl, by simp, by simp⟩
  · cases duty with
    | closeEmpty => exact ⟨[.closed], rfl, by simp, fun _ => ⟨rfl, rfl⟩⟩
    | close => exact ⟨[.closed], rfl, by simp, fun _ => ⟨rfl, rfl⟩⟩
    | hireLost => exact ⟨[_, _, _], rfl, by simp, by simp⟩
    | reportLosses =>
      unfold Depot.reportLosses
      split
      · exact ⟨[], rfl, by simp, by simp⟩
      · exact ⟨[_], rfl, by simp, by simp⟩
    | _ =>
      first
      | exact ⟨[], rfl, by simp, by simp⟩
      | exact ⟨[_], rfl, by simp, by simp⟩

/-- Only a call to stop the courier announces its end. -/
theorem Deed.stops (deed : Deed depot agent task after next) (stopped : after.stopped = true) :
    depot.stopped = true ∨ ∃ deadline, task = .stop deadline := by
  -- Only a call to stop sets the mark, the first one and all others.
  rcases deed with intake | delivery | duty
  · exact .inl (intake.sameCharge.stopped ▸ stopped)
  · exact .inl (delivery.sameCharge.stopped ▸ stopped)
  · cases duty with
    | stop deadline => exact .inr ⟨deadline, rfl⟩
    | stopAgain deadline => exact .inr ⟨deadline, rfl⟩
    | reportLosses => exact .inl (depot.sameCharge_reportLosses.stopped ▸ stopped)
    | _ => exact .inl stopped

/-- A task that may give a send so much time passes on no more. -/
theorem Passes.allows {new : Task} (passes : Passes depot task new)
    (allowed : task.Allows depot.settings.sendTimeout) : new.Allows depot.settings.sendTimeout := by
  cases passes with
  | drain => exact Nat.le_refl _
  -- What is left for the last send is the shorter of two spans.
  | finish => exact Nat.min_le_left _ _
  | close => exact allowed
  | _ => trivial

/-- A task without a time limit gives no time. -/
theorem Task.allows_of_untimed {bound : Span} (untimed : task.isTimed = false) :
    task.Allows bound := by
  cases task <;> trivial

/-- A task without a time limit keeps to every deadline. -/
theorem Task.heeds_of_untimed {deadline last : Span} {shut : Bool}
    (untimed : task.isTimed = false) : task.Heeds deadline last shut := by
  cases task <;> trivial

/-- Before the courier is stopped no task has a deadline to keep to. -/
theorem Task.heeds_of_not_isFarewell {deadline last : Span} (early : task.isFarewell = false) :
    task.Heeds deadline last false := by
  -- Only a send has a deadline to keep to, and that only once the queue is shut.
  cases task with
  | send => exact fun shut => nomatch shut
  | _ => trivial

/-- A task keeps to the deadline when the queue is shut, unless it has a batch. -/
theorem Task.Heeds.close {deadline last : Span} {shut later : Bool}
    (heeds : task.Heeds deadline last shut)
    (apart : later = true → shut = true ∨ task.isBatch = false) :
    task.Heeds deadline last later := by
  -- The time limit of a send is bound by the deadline only if it has a batch from the last drain.
  cases task with
  | send batch timeout =>
    intro closed
    rcases apart closed with before | plain
    · exact heeds before
    · cases plain
  | _ => exact heeds

/-- What keeps to the deadline passes on the same deadline, and for the last send what it leaves. -/
theorem Passes.heeds {new : Task} {deadline : Span} {later : Bool} (passes : Passes depot task new)
    (heeds : task.Heeds deadline (depot.lastTimeout deadline) depot.queue.closed)
    (stopped : depot.stopped = true)
    (orders : ∀ other, .stop other ∈ depot.orders → other = deadline)
    (shut : depot.queue.closed = true → depot.queue.waiting = [])
    (closes : later = true → depot.queue.closed = true ∨ ∃ timeout, task = .closeQueue timeout) :
    new.Heeds deadline (depot.lastTimeout deadline) later := by
  cases passes with
  | drain _ occupied =>
    -- Nothing waits in a queue that is shut.
    intro closed
    rcases closes closed with before | ⟨_, other⟩
    · exact absurd (shut before) occupied
    · cases other
  | stop _ first => simp [stopped] at first
  | dismiss => exact heeds
  | takeOver => exact heeds
  | order _ _ other ordered => exact orders other ordered
  | finish other => exact congrArg depot.lastTimeout heeds
  | close => exact fun _ => heeds

end Deeds

/-- What is sent after the queue was closed has a given time. -/
def Finishes (last : Span) (journal : List Occurrence) : Prop :=
  ∀ later since batch payload timeout sending, journal = later ++ .closed :: since →
    .sent batch payload timeout sending ∈ later → timeout = last

/-- A journal goes on so if it tells of no other send once the queue is closed. -/
theorem Finishes.append {last : Span} {journal news : List Occurrence}
    (finishes : Finishes last journal)
    (sends : .closed ∈ journal → ∀ batch payload timeout sending,
      .sent batch payload timeout sending ∈ news → timeout = last)
    (closes : .closed ∈ news → news = [.closed]) : Finishes last (news ++ journal) := by
  intro later since batch payload timeout sending whole sent
  -- The queue was closed either before the news or by them.
  rcases List.append_eq_append_iff.mp whole with ⟨more, rfl, rest⟩ | ⟨more, parts, rest⟩
  · rcases List.mem_append.mp sent with sent | sent
    · exact sends (by simp [rest]) _ _ _ _ sent
    · exact finishes _ _ _ _ _ _ rest sent
  · cases more with
    | nil =>
      obtain rfl : news = later := by simpa using parts
      exact sends (by simp [← show _ = journal from rest]) _ _ _ _ sent
    | cons first more =>
      obtain ⟨rfl, -⟩ := List.cons.inj rest
      have alone := closes (by simp [parts])
      rw [alone] at parts
      have none : later = [] := by
        cases later with
        | nil => rfl
        | cons other later => simp at parts
      simp [none] at sent

namespace World

/-- A caller takes the step of stopping the courier within a time, and is the first to do so. -/
inductive StopsWithin (deadline : Span) : World → World → Prop where
  | caller {courier : Agent} {left right : List Agent} {before after : Depot} {agent next : Agent}
      (choice : Choice) (rest : List Task) (begins : agent.tasks = .stop deadline :: rest)
      (first : before.stopped = false) (acted : agent.step choice before = some (after, next)) :
      StopsWithin deadline ⟨before, courier, left ++ agent :: right⟩
        ⟨after, courier, left ++ next :: right⟩

/-- To stop the courier first is one way for a world to go. -/
theorem StopsWithin.step {deadline : Span} {world next : World}
    (stops : StopsWithin deadline world next) : Step world next := by
  cases stops with
  | caller choice _ _ _ acted => exact .caller choice acted

end World

/-- With an endpoint or without: at most one agent has the courier, the queue is sound, and it is
closed once that has been told. -/
structure DeadlineInvariant (world : World) : Prop where
  sole : Custody world ∨ CourierlessWorld world
  sound : world.depot.queue.Sound
  announced : StopAnnounced world.depot world.tasks
  shut : .closed ∈ world.depot.journal → world.depot.queue.closed = true

namespace DeadlineInvariant

variable {world next : World}

/-- It holds before anything has happened. -/
theorem initial (settings : Settings) (threshold : Threshold) (transportName sinkName : String)
    (wall : Timestamp) (script : Script) :
    DeadlineInvariant
      (.initial (.create settings threshold transportName sinkName wall script)) where
  -- Whether there is an endpoint decides who can have the courier.
  sole := by
    cases remote : settings.isRemote with
    | true => exact .inl (.initial remote threshold transportName sinkName wall script)
    | false => exact .inr (.initial remote threshold transportName sinkName wall script)
  sound := .create settings.maxBatch settings.overflow
  announced :=
    ⟨by simp [Task.isFarewell], by simp [Depot.create], by simp [Depot.create, Queue.create]⟩
  shut := by simp [Depot.create]

/-- A change of a world keeps it. -/
theorem step (invariant : DeadlineInvariant world) (change : World.Step world next) :
    DeadlineInvariant next := by
  obtain ⟨sole, sound, announced, shut⟩ := invariant
  have turn := change.turn
  refine ⟨sole.imp (·.step change) (·.turn turn), turn.sound sound, turn.announced announced, ?_⟩
  refine turn.preserves (fun depot => .closed ∈ depot.journal → depot.queue.closed = true)
    (fun _ _ _ => shut) fun _ deed told => ?_
  obtain ⟨news, grown, -, closes⟩ := deed.records
  rw [grown] at told
  -- The queue is closed as the journal is told, and stays closed.
  rcases List.mem_append.mp told with told | told
  · exact (closes told).2
  · exact deed.closed (shut told)

/-- It holds of every world that comes about. -/
theorem reachable {start : World} (invariant : DeadlineInvariant start)
    (run : World.Reachable start world) :
    DeadlineInvariant world := by
  -- Change by change.
  induction run with
  | refl => exact invariant
  | step _ change ih => exact ih.step change

/-- A change after which the courier is to stop, and was not before, is the first stop. -/
theorem stopsWithin (invariant : DeadlineInvariant world) (change : World.Step world next)
    (early : world.depot.stopped = false) (stopped : next.depot.stopped = true) :
    ∃ deadline, world.StopsWithin deadline next := by
  have late (before : world.depot.stopped = true) : False :=
    Bool.false_ne_true (early.symm.trans before)
  cases change with
  | courier choice acted =>
    obtain ⟨task, rest, rfl, deed⟩ := Agent.deed_of_step acted
    rcases deed.stops stopped with before | ⟨deadline, rfl⟩
    · exact (late before).elim
    · -- The courier itself has no call to make.
      rcases invariant.sole with custody | abandoned
      · have round := custody.round
        rw [show duties _ = .stop deadline :: duties rest.tasks from rfl] at round
        cases round with
        | closing last => cases last
      · cases abandoned.courier
  | @caller courier left right before after agent caller choice acted =>
    obtain ⟨task, rest, rfl, deed⟩ := Agent.deed_of_step acted
    rcases deed.stops stopped with before | ⟨deadline, rfl⟩
    · exact (late before).elim
    · exact ⟨deadline, .caller choice rest.tasks rfl early acted⟩
  | call | clock | wall | letGo => exact (late stopped).elim

/-- Every courier that is to stop has been stopped by a first call, with a deadline. -/
theorem exists_stopsWithin {start : World} (invariant : DeadlineInvariant start)
    (early : start.depot.stopped = false) (run : start.Reachable world)
    (stopped : world.depot.stopped = true) :
    ∃ earlier next deadline, start.Reachable earlier ∧ earlier.StopsWithin deadline next ∧
      next.Reachable world := by
  -- The first stop is the change after which it is known.
  induction run with
  | refl => exact absurd (early.symm.trans stopped) Bool.false_ne_true
  | @step world next before change ih =>
    cases known : world.depot.stopped with
    | true =>
      obtain ⟨earlier, through, deadline, run, stops, on⟩ := ih known
      exact ⟨earlier, through, deadline, run, stops, on.step change⟩
    | false =>
      obtain ⟨deadline, stops⟩ := (invariant.reachable before).stopsWithin change known stopped
      exact ⟨world, next, deadline, before, stops, .refl⟩

/-- Whoever closes the queue has no batch besides, and nobody else has one. -/
theorem unbatched {left right : List Agent} {agent after : Agent} {depot : Depot} {timeout : Span}
    (invariant : DeadlineInvariant world)
    (split : world.agents =
      left ++ { agent with tasks := .closeQueue timeout :: agent.tasks } :: right)
    (deed : Deed world.depot agent (.closeQueue timeout) depot after) :
    ∀ other ∈ world.agents, ∀ task ∈ other.tasks, task.isBatch = false := by
  have member := Custody.agent_mem split
  rcases invariant.sole with custody | abandoned
  · have below := (List.pairwise_cons.mp (custody.orderly_of_mem member).1).1
    have others := custody.alone split rfl deed
    rw [split]
    intro other among task has
    rcases List.mem_append.mp among with among | among
    · exact others other (List.mem_append_left _ among) task has
    · rcases List.mem_cons.mp among with rfl | among
      · rcases List.mem_cons.mp has with rfl | has
        · rfl
        · exact ((below task has).resolve_left (by simp [Task.isInner, Task.isIntake])).2
      · exact others other (List.mem_append_right _ among) task has
  · -- Without an endpoint there is nobody to close it.
    rcases List.mem_cons.mp member with own | caller
    · rw [abandoned.courier] at own
      cases own
    · cases abandoned.callers _ caller _ List.mem_cons_self

end DeadlineInvariant

/-- No send has been given more time than the settings allow, and none will be. -/
structure SendsWithinSettings (world : World) : Prop where
  tasks : ∀ agent ∈ world.agents, ∀ task ∈ agent.tasks,
    task.Allows world.depot.settings.sendTimeout
  sent : ∀ batch payload timeout sending,
    .sent batch payload timeout sending ∈ world.depot.journal →
      timeout.nanos ≤ world.depot.settings.sendTimeout.nanos

namespace SendsWithinSettings

variable {world next : World}

/-- Before anything has happened nothing is sent. -/
theorem initial (depot : Depot) (fresh : depot.journal = []) : SendsWithinSettings
    (.initial depot) where
  -- Neither the courier nor the journal has anything to send.
  tasks := by simp [Task.Allows]
  sent := by simp [fresh]

/-- A turn keeps it. -/
theorem turn (moderate : SendsWithinSettings world) (turn : Turn world next) :
    SendsWithinSettings next := by
  constructor
  · rw [turn.settings]
    refine turn.each moderate.tasks (fun agent after task _ allowed deed => ?_)
      fun settings call => ?_
    · intro new member
      rcases deed.passes new member with old | untimed | passes
      · exact allowed new (List.mem_cons_of_mem _ old)
      · exact Task.allows_of_untimed untimed
      · exact passes.allows (allowed task List.mem_cons_self)
    · cases call <;> simp [Call.tasks, Agent.ofTasks, Task.Allows]
  · rw [turn.settings]
    refine turn.preserves (fun depot => ∀ batch payload timeout sending,
      .sent batch payload timeout sending ∈ depot.journal →
        timeout.nanos ≤ world.depot.settings.sendTimeout.nanos) (fun _ _ _ => moderate.sent) ?_
    intro left right agent after task split deed batch payload timeout sending told
    obtain ⟨news, grown, sends, -⟩ := deed.records
    rw [grown] at told
    rcases List.mem_append.mp told with told | told
    · -- Whoever sends has been allowed the time.
      have allowed := moderate.tasks _ (Custody.agent_mem split) task List.mem_cons_self
      rwa [sends _ _ _ _ told] at allowed
    · exact moderate.sent _ _ _ _ told

/-- It holds of every world that comes about. -/
theorem reachable {start : World} (moderate : SendsWithinSettings start)
    (run : World.Reachable start world) : SendsWithinSettings world :=
  run.kept moderate turn

end SendsWithinSettings

/-- The courier is being stopped, or has been, within a deadline. -/
structure EndsWithinDeadline (deadline : Span) (world : World) : Prop where
  stopped : world.depot.stopped = true
  orders : ∀ other, .stop other ∈ world.depot.orders → other = deadline
  tasks : ∀ agent ∈ world.agents, ∀ task ∈ agent.tasks,
    task.Heeds deadline (world.depot.lastTimeout deadline) world.depot.queue.closed
  finishes : Finishes (world.depot.lastTimeout deadline) world.depot.journal

namespace EndsWithinDeadline

variable {deadline : Span} {world next : World}

/-- Whoever stops the courier first does so within its own time. -/
theorem ofStops (invariant : DeadlineInvariant world) (stops : world.StopsWithin deadline next) :
    EndsWithinDeadline deadline next := by
  cases stops with
  | @caller courier left right before after agent caller choice rest begins first acted =>
    obtain ⟨task, below, rfl, deed⟩ := Agent.deed_of_step acted
    obtain ⟨rfl, rfl⟩ := List.cons.inj begins
    obtain ⟨none, unordered, opened⟩ := invariant.announced.none first
    -- Nothing has been stopped or closed before.
    have early : ∀ agent ∈ (courier :: left) ++ { below with
        tasks := .stop deadline :: below.tasks } :: right, ∀ task ∈ agent.tasks,
        task.Heeds deadline (before.lastTimeout deadline) false := by
      intro agent among task has
      exact Task.heeds_of_not_isFarewell (none task (List.mem_flatMap.mpr ⟨agent, among, has⟩))
    have untold : .closed ∉ before.journal := fun told =>
      Bool.false_ne_true (opened.symm.trans (invariant.shut told))
    rcases deed with intake | delivery | duty
    · cases intake
    · cases delivery
    · cases duty with
      | stop =>
        have all : ∀ agent ∈ (courier :: left) ++ below.push [.takeOver deadline] :: right,
            ∀ task ∈ agent.tasks, task.Heeds deadline (before.lastTimeout deadline) false := by
          refine forall_mem_replaced rfl rfl early (List.forall_mem_cons.mpr ⟨rfl, ?_⟩)
          exact fun task has => early { below with tasks := .stop deadline :: below.tasks }
            (by simp) task (List.mem_cons_of_mem _ has)
        refine ⟨rfl, fun other ordered => absurd ordered (unordered other), ?_, ?_⟩
        · rw [← show before.queue.closed = false from opened] at all
          exact all
        · intro later since batch payload timeout sending whole
          exact absurd (by simp [show before.journal = _ from whole]) untold
      | stopAgain _ late => exact absurd (first.symm.trans late) Bool.false_ne_true

/-- A turn keeps it. -/
theorem turn (heeding : EndsWithinDeadline deadline world) (invariant : DeadlineInvariant world)
    (turn : Turn world next) :
    EndsWithinDeadline deadline next := by
  obtain ⟨stopped, orders, tasks, finishes⟩ := heeding
  have last : next.depot.lastTimeout deadline = world.depot.lastTimeout deadline :=
    congrArg (fun settings : Settings => settings.sendTimeout.min deadline.nineTenths) turn.settings
  cases turn with
  | act left right agent after task split joined deed =>
    have acting := tasks _ (Custody.agent_mem split) task List.mem_cons_self
    have kept : ∀ agent ∈ world.agents, ∀ task ∈ agent.tasks,
        task.Heeds deadline (world.depot.lastTimeout deadline) next.depot.queue.closed := by
      intro other among old has
      refine (tasks other among old has).close fun closed => ?_
      rcases deed.closes closed with before | ⟨timeout, rfl⟩
      · exact .inl before
      · -- The batch that is taken as the queue is closed is the only one.
        exact .inr (invariant.unbatched split deed other among old has)
    obtain ⟨news, grown, sends, closes⟩ := deed.records
    refine ⟨deed.stopped stopped, fun other ordered => ?_, ?_, ?_⟩
    · rcases deed.ordered ordered with before | rfl
      · exact orders other before
      · exact acting
    · rw [last]
      refine forall_mem_replaced split joined kept fun new has => ?_
      rcases deed.passes new has with old | untimed | passes
      · exact kept _ (Custody.agent_mem split) new (List.mem_cons_of_mem _ old)
      · exact Task.heeds_of_untimed untimed
      · exact passes.heeds acting stopped orders invariant.sound.shut deed.closes
    · rw [last, grown]
      refine finishes.append (fun told batch payload timeout sending sent => ?_)
        fun told => (closes told).1
      -- It is the task of the send that has the time.
      rw [sends _ _ _ _ sent] at acting
      exact acting (invariant.shut told)
  | call call same joined =>
    refine ⟨same ▸ stopped, same ▸ orders, ?_, same ▸ finishes⟩
    rw [same]
    refine forall_mem_joined joined tasks ?_
    cases call <;> simp [Call.tasks, Agent.ofTasks, Task.Heeds]
  | outside _ _ _ elsewhere same =>
    constructor
    · rw [elsewhere]
      exact stopped
    · rw [elsewhere]
      exact orders
    · rw [elsewhere, same]
      exact tasks
    · rw [elsewhere]
      exact finishes

/-- It holds of every world that comes about from one of which it holds. -/
theorem reachable {start : World} (heeding : EndsWithinDeadline deadline start)
    (invariant : DeadlineInvariant start)
    (run : World.Reachable start world) : EndsWithinDeadline deadline world := by
  -- Change by change; the deadline is heeded in every turn.
  induction run with
  | refl => exact heeding
  | step before change ih => exact ih.turn (invariant.reachable before) change.turn

end EndsWithinDeadline

/-- Limits of time that settings keep: nine tenths of the interval can be told, and no send may take
as long as the interval is. -/
structure Settings.Timed (settings : Settings) : Prop where
  shortest : (Span.ofMillis 10).nanos ≤ settings.publishInterval.nanos
  longest : settings.publishInterval.nanos ≤ (Span.ofSeconds (24 * 60 * 60)).nanos
  told : settings.publishInterval.nineTenths? = some settings.publishInterval.nineTenths
  below : settings.sendTimeout.nanos < settings.publishInterval.nanos

/-- Settings within all limits keep those of time. -/
theorem WithinLimits.timed {settings : Settings} (settled : WithinLimits settings) :
    settings.Timed where
  shortest := settled.shortest
  longest := settled.longest
  told := Span.nineTenths?_eq_some (settled.longest.trans (by decide))
  below := by
    -- Nine tenths to the nearest nanosecond are less than the whole from six nanoseconds on.
    have near := (Span.nineTenths_near settled.longest).1
    have long : 10000000 ≤ settings.publishInterval.nanos := settled.shortest
    have limit := settled.sendTimeout
    omega

/-- Every send so far has been given less time than the interval, and before the courier is stopped
nothing has been closed and nobody works out how long the last send may take. -/
structure SendsTimed (settings : Settings) (world : World) : Prop where
  sends : ∀ batch payload timeout sending,
    .sent batch payload timeout sending ∈ world.depot.journal →
      timeout.nanos ≤ settings.sendTimeout.nanos ∧ timeout.nanos < settings.publishInterval.nanos
  early : world.depot.stopped = false →
    .closed ∉ world.depot.journal ∧ ∀ deadline, .finish deadline ∉ world.tasks

/-- Whoever works out how long the last send may take can do so, and whatever has been sent since
the queue was closed was given nine tenths of the deadline, if that is less than other sends are
given. -/
structure EndTimed (settings : Settings) (deadline : Span) (world : World) : Prop where
  told : ∀ other, .finish other ∈ world.tasks → other.nineTenths? = some other.nineTenths
  last : ∀ later since batch payload timeout sending,
    world.depot.journal = later ++ .closed :: since →
      .sent batch payload timeout sending ∈ later →
        timeout = settings.sendTimeout.min deadline.nineTenths ∧ timeout.nanos ≤ deadline.nanos

/-- Whatever options resolve to, with an endpoint or without, and in whatever order the steps of all
calls come: no send is given as much time as the publish interval, and the send after the queue was
closed no more than the deadline of the stop that came first. Every span of which nine tenths are
taken on the way, up to the longest span there is, has nine tenths that can be told. -/
theorem sends_timed (options : Options) (environment : Environment) (threshold : Threshold)
    (transportName sinkName : String) (wall : Timestamp) (script : Script) :
    let settings := (options.resolve environment).1
    let start : World := .initial (.create settings threshold transportName sinkName wall script)
    settings.Timed ∧
      ((∀ span, options.shutdownTimeout = some span → span.nanos ≤ Span.longest.nanos) →
        settings.shutdownTimeout.nanos ≤ Span.longest.nanos) ∧
      (∀ world, start.Reachable world → SendsTimed settings world ∧
        (world.depot.stopped = true → ∃ earlier next deadline, start.Reachable earlier ∧
          earlier.StopsWithin deadline next ∧ next.Reachable world)) ∧
      ∀ earlier next world deadline, start.Reachable earlier → earlier.StopsWithin deadline next →
        next.Reachable world → deadline.nanos ≤ Span.longest.nanos →
          EndTimed settings deadline world := by
  intro settings start
  have timed : settings.Timed := (settled_resolve options environment).timed
  have invariant : DeadlineInvariant start :=
    .initial settings threshold transportName sinkName wall script
  have constant {world : World} (run : start.Reachable world) :
      world.depot.settings = settings := (CoreInvariant.constant run).1
  refine ⟨timed, fun told => ?_, fun world run => ?_,
    fun earlier next world deadline before stops run told => ?_⟩
  · -- What is not told is five seconds.
    show (options.shutdownTimeout.getD Settings.defaultShutdownTimeout).nanos ≤ _
    cases given : options.shutdownTimeout with
    | none => decide
    | some span => exact told span given
  · refine ⟨?_, invariant.exists_stopsWithin rfl run⟩
    have moderate : SendsWithinSettings world := (SendsWithinSettings.initial _ rfl).reachable run
    have invariant := invariant.reachable run
    constructor
    · intro batch payload timeout sending sent
      have bound := moderate.sent batch payload timeout sending sent
      rw [constant run] at bound
      exact ⟨bound, bound.trans_lt timed.below⟩
    · intro early
      obtain ⟨none, -, opened⟩ := invariant.announced.none early
      refine ⟨fun told => ?_, fun deadline finishing => ?_⟩
      · exact Bool.false_ne_true (opened.symm.trans (invariant.shut told))
      · cases none _ finishing
  · have invariant := invariant.reachable before
    have heeding :=
      (EndsWithinDeadline.ofStops invariant stops).reachable (invariant.step stops.step) run
    have same := constant ((before.step stops.step).trans run)
    constructor
    · intro other finishing
      obtain ⟨agent, among, has⟩ := List.mem_flatMap.mp finishing
      obtain rfl : other = deadline := heeding.tasks agent among _ has
      exact Span.nineTenths?_eq_some told
    · intro later since batch payload timeout sending whole sent
      have last := heeding.finishes later since batch payload timeout sending whole sent
      rw [Depot.lastTimeout, same] at last
      refine ⟨last, ?_⟩
      rw [last]
      exact (Nat.min_le_right _ _).trans deadline.nineTenths_le

namespace World

/-- Whoever calls to stop the courier while it has not been told to is the first to stop it. -/
theorem StopsWithin.ofCall (world : World) (deadline : Span)
    (first : world.depot.stopped = false) :
    StopsWithin deadline (world.called (.stop deadline)) (world.stopping deadline) := by
  -- The call has a single task, and it finds that nobody has stopped the courier.
  refine .caller .signal [] rfl first ?_
  simp [Call.tasks, Agent.ofTasks, Agent.step, Depot.act, first, Agent.push]

end World

/-- Options of which every time is the longest. -/
def Options.patient : Options :=
  .ofSettings [.endpoint "http://localhost:8080", .publishInterval .longest, .sendTimeout .longest,
    .shutdownTimeout .longest, .autoStart false]

namespace World

/-- A world under patient options in which an event waits. -/
def patient : World :=
  (Session.mk (.create (Options.patient.resolve .empty).1 default "transport" "sink" default
    .smooth) .courier).calls [] [.submit default]

/-- A world in which somebody has stopped the patient courier within fifteen nanoseconds. -/
def hurried : World :=
  patient.afterStop ⟨15⟩

end World

/-- The interval is cut to a day, and the event that waited is sent within thirteen nanoseconds. -/
theorem sends_timed_hurried :
    (Options.patient.resolve .empty).1.publishInterval = .ofSeconds 86400 ∧
      (Options.patient.resolve .empty).1.Timed ∧
      (Options.patient.resolve .empty).1.shutdownTimeout.nanos ≤ Span.longest.nanos ∧
      (World.hurried.depot.journal.any fun occurrence =>
        match occurrence with
        | .sent _ _ timeout _ => timeout = ⟨13⟩
        | _ => false) = true ∧
      SendsTimed (Options.patient.resolve .empty).1 World.hurried ∧
      EndTimed (Options.patient.resolve .empty).1 ⟨15⟩ World.hurried := by
  -- The law gives the four parts for these settings, of which two are about all runs.
  obtain ⟨timed, shutdown, sends, ends⟩ :=
    sends_timed Options.patient .empty default "transport" "sink" default .smooth
  have run : World.Reachable _ World.patient :=
    Session.reachable_calls [.submit default] (Session.mk (.create
      (Options.patient.resolve .empty).1 default "transport" "sink" default .smooth) .courier) []
  have called := run.step (.call World.patient (.stop ⟨15⟩))
  have stops := World.StopsWithin.ofCall World.patient ⟨15⟩ (by decide +kernel)
  have on := World.reachable_afterStop World.patient ⟨15⟩
  refine ⟨by decide +kernel, timed, shutdown fun span given => ?_, by decide +kernel,
    (sends _ ((called.step stops.step).trans on)).1, ends _ _ _ _ called stops on (by decide)⟩
  obtain rfl : Span.longest = span := Option.some.inj given
  exact Nat.le_refl _

end LogCourier
