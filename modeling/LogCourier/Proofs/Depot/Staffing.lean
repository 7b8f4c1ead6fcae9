import LogCourier.Proofs.Depot.Bench
import LogCourier.Proofs.Depot.Returning

/-!
Staffing: one call at a time, to a courier without a thread or to one that waits on its thread.

Where the courier is and what is still to be done there go together in few ways, and each step leads
from one of them to another one. On the bench a step is the next task, or nothing.
-/

namespace LogCourier

namespace Task

/-- Whether a task can be done in the middle of a call or of a flush. -/
def isChore : Task → Bool
  | .submit _ | .bridge _ | .echo _ | .offer _ | .append _ | .signal | .count _ | .tell _ => true
  | .enter _ | .flushFor _ | .drain _ | .send .. | .await | .settle .. | .fallBack _ => true
  | .flushSink | .closeQueue _ | .unlock | .answer _ | .reportLosses => true
  | _ => false

/-- What a call will answer once this task is done, if that depends on the task. -/
def promise? (stopped : Bool) : Task → Option Bool
  | .flush => some (!stopped)
  | .start | .hire | .order | .stop _ | .takeOver _ | .dismiss _ | .join .. => some true
  | .answer value => some value
  | _ => none

end Task

/-- What a call will have answered in the end. -/
def Agent.promised (stopped : Bool) (agent : Agent) : Option Bool :=
  agent.tasks.foldl (fun answer task => (task.promise? stopped).or answer) agent.answer

/-- All that tells where the courier is. -/
structure Site where
  stopped : Bool
  handle : Bool
  holder : Holder
  thread : Thread
  listening : Bool
  orders : List Order

/-- Where the courier is. -/
@[simps] def Depot.site (depot : Depot) : Site where
  stopped := depot.stopped
  handle := depot.handle
  holder := depot.holder
  thread := depot.thread
  listening := depot.listening
  orders := depot.orders

section Chores

variable {depot after : Depot} {agent next : Agent} {choice : Choice} {task : Task}
  {rest : List Task}

/-- Tasks that promise nothing leave the answer as it is. -/
theorem promised_of_none {stopped : Bool} {tasks : List Task}
    (none : ∀ task ∈ tasks, task.promise? stopped = none) (answer : Option Bool) :
    tasks.foldl (fun answer task => (task.promise? stopped).or answer) answer = answer := by
  -- Task by task; each of them leaves the answer to those below.
  induction tasks with
  | nil => rfl
  | cons task rest ih =>
    rw [List.foldl_cons, none task List.mem_cons_self, Option.none_or]
    exact ih fun below member => none below (List.mem_cons_of_mem _ member)

/-- New tasks that promise nothing leave the promise of an agent as it is. -/
theorem Agent.promised_of_push {stopped : Bool} {pushed : List Task}
    (tasks : next.tasks = pushed ++ agent.tasks) (answer : next.answer = agent.answer)
    (none : ∀ new ∈ pushed, new.promise? stopped = none) :
    next.promised stopped = agent.promised stopped := by
  -- The promise is read off the new tasks first, and these have none.
  unfold promised
  rw [tasks, List.foldl_append, promised_of_none none, answer]

/-- A first task that promises nothing is no part of the promise of an agent. -/
theorem Agent.promised_of_first {stopped : Bool} (none : task.promise? stopped = none) :
    ({ agent with tasks := task :: agent.tasks } : Agent).promised stopped =
      agent.promised stopped := by
  simp [promised, none]

/-- A first task that promises something is like having it answered. -/
theorem Agent.promised_of_some {stopped value : Bool} (some : task.promise? stopped = some value) :
    ({ agent with tasks := task :: agent.tasks } : Agent).promised stopped =
      (agent.reply value).promised stopped := by
  simp [promised, reply, some]

/-- What concludes a call promises that it was the first one. -/
theorem Agent.promised_push_conclusion (depot : Depot) (agent : Agent) (stopped : Bool) :
    (agent.push depot.conclusion).promised stopped = (agent.reply true).promised stopped := by
  unfold Depot.conclusion
  split <;> simp [promised, push, reply, Task.promise?]

/-- Whether a task can come of a chore: it promises nothing. -/
def Task.isSequel (task : Task) : Bool :=
  task.isChore && (task.promise? false).isNone

/-- What follows once an event is stamped are chores without a promise where there is an endpoint.
-/
theorem Depot.acceptance_sequel {event : Event} (remote : depot.settings.isRemote = true) :
    ∀ new ∈ depot.acceptance event, new.isSequel = true := by
  unfold Depot.acceptance
  cases depot.settings.echo <;> simp [remote, Task.isSequel, Task.isChore, Task.promise?]

/-- Handing in an event leads to chores without a promise. -/
theorem Intake.chores (deed : Intake depot agent task after next) (chore : task.isChore = true)
    (remote : depot.settings.isRemote = true) :
    (∃ pushed, next.tasks = pushed ++ agent.tasks ∧ ∀ new ∈ pushed, new.isSequel = true) ∧
      after.site = depot.site ∧ next.answer = agent.answer := by
  -- A wish to be emptied leads to a signal, which promises nothing.
  have wished (wish : Bool) (counter : Counter) :
      ∀ new ∈ Task.count counter :: (if wish then [Task.signal] else []), new.isSequel = true := by
    cases wish <;> simp [Task.isSequel, Task.isChore, Task.promise?]
  cases deed with
  | submit => exact ⟨⟨_, rfl, Depot.acceptance_sequel remote⟩, rfl, rfl⟩
  | append | displace | displaceNobody => exact ⟨⟨_, rfl, wished _ _⟩, rfl, rfl⟩
  | arm | seeBanner | seeNothing | claim | comeLate => cases chore
  | overlook | signal | signalLost | count | tell => exact ⟨⟨[], rfl, by simp⟩, rfl, rfl⟩
  | _ => exact ⟨⟨_, rfl, by simp [warn, Task.isSequel, Task.isChore, Task.promise?]⟩, rfl, rfl⟩

/-- Delivering a batch leads to chores without a promise. -/
theorem Delivery.chores (deed : Delivery depot agent task after next)
    (chore : task.isChore = true) (returns : depot.script.Returns) :
    (∃ pushed, next.tasks = pushed ++ agent.tasks ∧ ∀ new ∈ pushed, new.isSequel = true) ∧
      after.site = depot.site ∧ next.answer = agent.answer := by
  -- Only a task that flushes or stops promises anything, and a batch leads to neither.
  cases deed with
  | drain trigger =>
    refine ⟨⟨_, rfl, ?_⟩, rfl, rfl⟩
    cases trigger <;> simp [Trigger.counter?, Task.isSequel, Task.isChore, Task.promise?]
  | send _ _ reply =>
    refine ⟨⟨_, rfl, ?_⟩, rfl, rfl⟩
    refine forall_mem_inside reply ?_ ?_ ?_ ?_ <;> simp [Task.isSequel, Task.isChore, Task.promise?]
  | giveUp =>
    refine ⟨⟨_, rfl, ?_⟩, rfl, rfl⟩
    cases depot.settings.echo <;> simp [warn, Task.isSequel, Task.isChore, Task.promise?]
  | showCrashes _ _ crash drawn => exact absurd drawn (returns.nextWrite crash)
  | flushCrashes crash drawn => exact absurd drawn (returns.nextFlush crash)
  | findFull | findRoom | findNothing | findEnough | findFew | findStale | findFresh => cases chore
  | drainNothing | await | deliver | flushSink => exact ⟨⟨[], rfl, by simp⟩, rfl, rfl⟩
  | _ => exact ⟨⟨_, rfl, by simp [warn, Task.isSequel, Task.isChore, Task.promise?]⟩, rfl, rfl⟩

/-- A chore leads to chores, the courier stays where it is, and the promise of the agent is kept. -/
theorem Deed.chores (deed : Deed depot agent task after next) (chore : task.isChore = true)
    (remote : depot.settings.isRemote = true) (returns : depot.script.Returns) :
    (∃ pushed, next.tasks = pushed ++ agent.tasks ∧ ∀ new ∈ pushed, new.isChore = true) ∧
      after.site = depot.site ∧ ∀ stopped, next.promised stopped =
        ({ agent with tasks := task :: agent.tasks } : Agent).promised stopped := by
  -- Apart from answers nothing here makes or breaks a promise.
  have silent {first : Task} (sequel : first.isSequel = true) (stopped : Bool) :
      first.promise? stopped = none := by
    cases first <;> first | rfl | cases sequel
  have kept (sequel : task.isSequel = true)
      (deeds : (∃ pushed, next.tasks = pushed ++ agent.tasks ∧
          ∀ new ∈ pushed, new.isSequel = true) ∧
        after.site = depot.site ∧ next.answer = agent.answer) :
      (∃ pushed, next.tasks = pushed ++ agent.tasks ∧ ∀ new ∈ pushed, new.isChore = true) ∧
        after.site = depot.site ∧ ∀ stopped, next.promised stopped =
          ({ agent with tasks := task :: agent.tasks } : Agent).promised stopped := by
    obtain ⟨⟨pushed, same, each⟩, site, answer⟩ := deeds
    refine ⟨⟨pushed, same, fun new member => (Bool.and_eq_true_iff.mp (each new member)).1⟩, site,
      fun stopped => ?_⟩
    rw [Agent.promised_of_push same answer fun new member => silent (each new member) stopped,
      Agent.promised_of_first (silent sequel stopped)]
  rcases deed with intake | delivery | duty
  · have kind := intake.isIntake
    refine kept ?_ (intake.chores chore remote)
    cases task <;> first | rfl | (cases chore; done) | cases kind
  · have kind := delivery.isDelivery
    refine kept ?_ (delivery.chores chore returns)
    cases task <;> first | rfl | (cases chore; done) | cases kind
  · cases duty with
    | enter | unlock => exact kept rfl ⟨⟨[], rfl, by simp⟩, rfl, rfl⟩
    | closeEmpty => exact kept rfl ⟨⟨[], rfl, by simp⟩, rfl, rfl⟩
    | close =>
      exact kept rfl ⟨⟨_, rfl, by simp [Task.isSequel, Task.isChore, Task.promise?]⟩, rfl, rfl⟩
    | reportLosses =>
      refine kept rfl ⟨⟨[], rfl, by simp⟩, ?_, rfl⟩
      unfold Depot.reportLosses
      split <;> rfl
    | answer value => exact ⟨⟨[], rfl, by simp⟩, rfl, fun _ => rfl⟩
    | _ => cases chore

/-- A wish that the queue be emptied is not seen on the bench. -/
theorem Depot.signal_bare (depot : Depot) : depot.signal.bare = depot.bare := by
  unfold Depot.signal
  split <;> simp [Depot.bare, Queue.bare, Queue.map, Queue.offerSignal]

/-- A wish that has been taken is not seen on the bench either. -/
theorem Depot.takeSignal_bare (depot : Depot) :
    ({ depot with queue := depot.queue.takeSignal.1 } : Depot).bare = depot.bare := by
  simp [Depot.bare, Queue.bare, Queue.map, Queue.takeSignal]

/-- That the courier is gone is not seen on the bench. -/
theorem Depot.release_bare (depot : Depot) : depot.release.bare = depot.bare := by
  simp [Depot.release, Depot.bare, Queue.bare, Queue.map, Queue.takeSignal]

/-- What an agent has to do in the end begins with what its first task comes to. -/
theorem Agent.labour_of_first (settings : Settings) :
    ({ agent with tasks := task :: agent.tasks } : Agent).labour settings =
      task.labour settings agent.sending ++ agent.labour settings := by
  simp [labour]

/-- What an agent has to do in the end begins with what its new tasks come to. -/
@[simp] theorem Agent.labour_push (settings : Settings) (agent : Agent) (tasks : List Task) :
    (agent.push tasks).labour settings =
      tasks.flatMap (Task.labour settings agent.sending) ++ agent.labour settings := by
  simp [labour, push]

/-- What concludes a call comes to a last flush of the sink, if everything is shown. -/
@[simp] theorem Depot.conclusion_labour (depot : Depot) (settings : Settings) (sending : Bool) :
    depot.conclusion.flatMap (Task.labour settings sending) =
      if depot.settings.echo then [.flushSink] else [] := by
  -- Beside the flush there is only the answer.
  unfold Depot.conclusion
  split <;> rfl

/-- A chore, or whatever else is done in the same way by everybody, is the next task on the bench,
or is not seen there. -/
theorem Depot.goes_bench (acted : depot.act agent choice task = some (after, next))
    (kind : task.isWork = true ∨ task.isChore = true)
    (marked : MarkedInside false { agent with tasks := task :: agent.tasks })
    (unharmed : next.crash = none) :
    (Bench.mk depot.bare
      (({ agent with tasks := task :: agent.tasks } : Agent).labour depot.settings ++ rest)).Goes
        ⟨after.bare, next.labour depot.settings ++ rest⟩ := by
  rw [Agent.labour_of_first]
  by_cases work : task.isWork = true ∧ (task.isBridge = true → agent.sending = false)
  · right
    rw [← act_bench acted work.1 work.2 marked unharmed, List.append_assoc]
    have own : task.labour depot.settings agent.sending = [task.undated] := by
      cases task with
      | bridge record => simp [Task.labour, Task.undated, work.2 rfl]
      | _ => first | rfl | cases work.1
    rw [own]
    rfl
  · left
    have stays (same : after.bare = depot.bare) (lists : next.labour depot.settings =
        task.labour depot.settings agent.sending ++ agent.labour depot.settings) :
        Bench.mk after.bare (next.labour depot.settings ++ rest) =
          ⟨depot.bare, task.labour depot.settings agent.sending ++ agent.labour depot.settings ++
            rest⟩ := by
      rw [same, lists]
    cases task with
    | bridge record =>
      -- Inside a send a record is passed over.
      have inside : agent.sending = true := by simpa [Task.isWork, Task.isBridge] using work
      simp only [act, Record.passes, inside, Bool.not_true, Bool.and_false, Bool.false_eq_true,
        if_false, Option.some.injEq, Prod.mk.injEq] at acted
      obtain ⟨rfl, rfl⟩ := acted
      exact stays rfl (by simp [Task.labour, inside])
    | signal =>
      cases acted
      exact stays depot.signal_bare rfl
    | enter phase =>
      cases acted
      exact stays (depot.enter_bare phase) rfl
    | flushFor trigger =>
      cases acted
      exact stays (depot.enter_bare .flushing) rfl
    | await =>
      simp only [act] at acted
      split at acted
      · cases acted
      · cases acted
        exact stays (by simp [bare]) rfl
    | unlock | answer =>
      cases acted
      exact stays (by simp [bare]) rfl
    | _ => first
      | exact absurd ⟨rfl, by simp [Task.isBridge]⟩ work
      | simp [Task.isWork, Task.isChore] at kind

end Chores

/-- All of several tasks are chores. -/
def Chores (tasks : List Task) : Prop :=
  ∀ task ∈ tasks, task.isChore = true

namespace Chores

variable {task : Task} {pushed tasks : List Task}

/-- Where there is nothing to do there are only chores. -/
theorem nil : Chores [] := by
  simp [Chores]

/-- The first of several chores is one. -/
theorem head (chores : Chores (task :: tasks)) : task.isChore = true :=
  chores task List.mem_cons_self

/-- What follows a chore are chores. -/
theorem tail (chores : Chores (task :: tasks)) : Chores tasks :=
  fun below member => chores below (List.mem_cons_of_mem _ member)

/-- Chores before chores are chores. -/
theorem append (first : Chores pushed) (second : Chores tasks) : Chores (pushed ++ tasks) := by
  -- A task of both comes from one of them.
  intro task member
  rcases List.mem_append.mp member with member | member
  · exact first task member
  · exact second task member

/-- What chores promise does not depend on whether the courier has been stopped. -/
theorem promise (chores : Chores tasks) (first second : Bool) (answer : Option Bool) :
    tasks.foldl (fun answer task => (task.promise? first).or answer) answer =
      tasks.foldl (fun answer task => (task.promise? second).or answer) answer := by
  -- Task by task; chores neither flush nor stop, and only these promises depend on the stop.
  induction tasks generalizing answer with
  | nil => rfl
  | cons task rest ih =>
    have same : task.promise? first = task.promise? second := by
      have kind := chores.head
      cases task <;> first | rfl | cases kind
    rw [List.foldl_cons, List.foldl_cons, same]
    exact ih chores.tail _

/-- What concludes a call are chores. -/
theorem conclusion (depot : Depot) : Chores depot.conclusion := by
  unfold Depot.conclusion
  split <;> simp [Chores, Task.isChore]

end Chores

/-- What a caller does who has not asked anything of the courier, or is about to. -/
inductive Asking : List Task → Prop where
  | chores {tasks : List Task} (each : Chores tasks) : Asking tasks
  | flush : Asking [.flush]
  | stop (timeout : Span) {rest : List Task} (each : Chores rest) : Asking (.stop timeout :: rest)

/-- What the courier still has to do while it has nothing to do: it waits, or is about to. -/
inductive Lull : List Task → Prop where
  | begin : Lull [.begin, .release, .exit]
  | idle (tick : Nat) : Lull [.idle tick, .release, .exit]
  | schedule (tick : Nat) : Lull [.schedule tick, .release, .exit]
  | plan (tick asked : Nat) : Lull [.plan tick asked, .release, .exit]
  | select (tick wake : Nat) : Lull [.select tick wake, .release, .exit]
  | check (tick : Nat) : Lull [.checkFull, .idle tick, .release, .exit]

/-- What became of a caller that asked, or of one that had something else to do. -/
inductive Asked (depot after : Depot) (tasks : List Task) : Prop where
  /-- The courier is not needed. -/
  | done (asking : Asking tasks) (same : after.site = depot.site)
  /-- It is to flush. -/
  | flush (early : depot.stopped = false) (left : tasks = [.order]) (same : after.site = depot.site)
  /-- It is to be taken away from its desk. -/
  | stop (early : depot.stopped = false) (timeout : Span) {rest : List Task}
      (left : tasks = .takeOver timeout :: rest) (each : Chores rest)
      (same : after.site = { depot.site with stopped := true })

/-- Once the courier has been stopped it is not needed by anybody who asks. -/
theorem Asked.ofLate {depot later : Depot} {tasks : List Task} (asked : Asked depot later tasks)
    (late : depot.stopped = true) : Asking tasks ∧ later.site = depot.site := by
  -- Both other ways begin before the stop.
  cases asked with
  | done asking same => exact ⟨asking, same⟩
  | flush early | stop early => simp [late] at early

section Steps

variable {depot later : Depot} {agent next : Agent} {choice : Choice} {task : Task}
  {rest : List Task}

/-- Whoever asks for a flush or a stop asks no more once the courier has been stopped. -/
theorem Asking.after (asking : Asking (task :: agent.tasks))
    (deed : Deed depot agent task later next)
    (remote : depot.settings.isRemote = true) (returns : depot.script.Returns) :
    Asked depot later next.tasks ∧ next.promised later.stopped =
      ({ agent with tasks := task :: agent.tasks } : Agent).promised depot.stopped := by
  -- The tasks of whoever asks are chores, or they begin with a flush or a stop.
  generalize whole : task :: agent.tasks = tasks at asking
  cases asking with
  | chores each =>
    subst whole
    obtain ⟨⟨pushed, same, new⟩, site, promise⟩ := deed.chores each.head remote returns
    have stopped : later.stopped = depot.stopped := congrArg Site.stopped site
    refine ⟨.done (.chores ?_) site, by rw [stopped, promise]⟩
    rw [same]
    exact Chores.append new each.tail
  | flush =>
    obtain ⟨rfl, left⟩ := List.cons.inj whole
    have promise (stopped : Bool) (answer : Option Bool) (task : Task) :
        ({ agent with tasks := task :: agent.tasks, answer } : Agent).promised stopped =
          (task.promise? stopped).or answer := by
      simp [Agent.promised, left]
    cases deed.duty rfl with
    | flush early =>
      refine ⟨.flush early (by simp [Agent.push, left]) rfl, ?_⟩
      simp [Agent.push, Agent.promised, left, Task.promise?, early]
    | flushLate late =>
      refine ⟨.done (.chores ?_) rfl, ?_⟩
      · rw [show (agent.reply false).tasks = [] from left]
        exact .nil
      · simp [Agent.reply, Agent.promised, left, Task.promise?, late]
  | stop timeout each =>
    obtain ⟨rfl, rfl⟩ := List.cons.inj whole
    cases deed.duty rfl with
    | stop _ early =>
      refine ⟨.stop early timeout rfl each rfl, ?_⟩
      simpa [Agent.push, Agent.promised, Task.promise?] using each.promise true depot.stopped _
    | stopAgain _ late =>
      refine ⟨.done (.chores each) ?_, ?_⟩
      · simp [Depot.site, late]
      · simp [Agent.reply, Agent.promised, Task.promise?, late]

/-- While the courier has nothing to do it goes on to wait, unless it is given an order. -/
theorem Lull.after (lull : Lull (task :: agent.tasks)) (deed : Deed depot agent task later next)
    (room : depot.queue.length < depot.queue.maxBatch)
    (early : ∀ tick wake, task = .select tick wake → depot.now < wake) :
    (Lull next.tasks ∧ later.site = depot.site ∧ later.bare = depot.bare) ∨
      ∃ tick order orders, depot.orders = order :: orders ∧ later = { depot with orders } ∧
        next.tasks = match order with
          | .flush => [.flushFor .request, .idle tick, .release, .exit]
          | .stop deadline => [.finish deadline, .release, .exit] := by
  generalize whole : task :: agent.tasks = tasks at lull
  cases lull with
  | begin =>
    obtain ⟨rfl, left⟩ := List.cons.inj whole
    cases deed.duty rfl
    exact .inl ⟨by simpa [Agent.push, left] using .idle _, rfl, rfl⟩
  | idle tick =>
    obtain ⟨rfl, left⟩ := List.cons.inj whole
    cases deed.duty rfl
    exact .inl ⟨by simpa [Agent.push, left] using .schedule _, rfl, Depot.enter_bare _ _⟩
  | schedule tick =>
    obtain ⟨rfl, left⟩ := List.cons.inj whole
    cases deed.duty rfl
    exact .inl ⟨by simpa [Agent.push, left] using .plan _ _, rfl, rfl⟩
  | plan tick asked =>
    obtain ⟨rfl, left⟩ := List.cons.inj whole
    cases deed.duty rfl
    exact .inl ⟨by simpa [Agent.push, left] using .select _ _, rfl, rfl⟩
  | select tick wake =>
    obtain ⟨rfl, left⟩ := List.cons.inj whole
    cases deed.duty rfl with
    | takeSignal =>
      exact .inl ⟨by simpa [Agent.push, left] using .check _, rfl, depot.takeSignal_bare⟩
    | takeFlush _ _ orders ordered =>
      exact .inr ⟨tick, .flush, orders, ordered, rfl, by simp [Agent.push, left]⟩
    | takeStop _ _ deadline orders ordered =>
      exact .inr ⟨tick, .stop deadline, orders, ordered, rfl, by simp [Agent.push, left]⟩
    | wake _ _ due =>
      have soon := early tick wake rfl
      omega
  | check tick =>
    -- There is room, for less is waiting than would be a batch.
    obtain ⟨rfl, left⟩ := List.cons.inj whole
    rcases deed with intake | delivery | duty
    · cases intake
    · cases delivery with
      | findFull full =>
        have reached := of_decide_eq_true full
        omega
      | findRoom => exact .inl ⟨by simpa [left] using .idle _, rfl, rfl⟩
    · cases duty

end Steps

/-- What is left to do for the courier, for the orders it has not taken, and for the last caller. -/
def Depot.bench (depot : Depot) (courier caller : Agent) : Bench :=
  ⟨depot.bare, courier.labour depot.settings ++
    depot.orders.flatMap (Order.labour depot.settings) ++ caller.labour depot.settings⟩

section Benches

variable {depot later : Depot} {agent next courier caller : Agent} {choice : Choice} {task : Task}

/-- Nothing is seen on the bench of what only moves things from one to another. -/
theorem Depot.goes_of_same {courier' caller' : Agent} (same : later.bare = depot.bare)
    (lists : courier'.labour depot.settings ++
        later.orders.flatMap (Order.labour depot.settings) ++ caller'.labour depot.settings =
      courier.labour depot.settings ++
        depot.orders.flatMap (Order.labour depot.settings) ++ caller.labour depot.settings) :
    (depot.bench courier caller).Goes (later.bench courier' caller') := by
  -- The settings are seen on the bench, so what is to be done is read in the same way.
  have settings : later.bare.settings = depot.bare.settings := congrArg Depot.settings same
  simp only [bare_settings] at settings
  left
  rw [bench, bench, same, settings, lists]

/-- A courier that waits has nothing to do. -/
theorem Lull.labour (lull : Lull agent.tasks) (settings : Settings) :
    agent.labour settings = [] := by
  -- It waits, or is about to, and neither is work.
  unfold Agent.labour
  generalize agent.tasks = tasks at lull
  cases lull <;> rfl

/-- What can be done where nothing was asked of the courier is seen on the bench. -/
theorem Asking.kind (asking : Asking (task :: agent.tasks)) :
    task.isWork = true ∨ task.isChore = true := by
  -- A flush and a stop are work, and all else that somebody asking has to do are chores.
  generalize whole : task :: agent.tasks = tasks at asking
  cases asking with
  | chores each =>
    subst whole
    exact .inr each.head
  | flush | stop =>
    obtain ⟨rfl, -⟩ := List.cons.inj whole
    exact .inl rfl

/-- What a caller does while the courier has nothing to do goes on on the bench. -/
theorem Depot.goes_caller (acted : depot.act agent choice task = some (later, next))
    (kind : task.isWork = true ∨ task.isChore = true)
    (marked : MarkedInside false { agent with tasks := task :: agent.tasks })
    (unharmed : next.crash = none) (kept : later.settings = depot.settings)
    (none : depot.orders = []) (none' : later.orders = [])
    (rests : courier.labour depot.settings = []) :
    (depot.bench courier { agent with tasks := task :: agent.tasks }).Goes
      (later.bench courier next) := by
  -- Neither the courier nor an order has anything on the bench.
  have goes := @goes_bench depot later agent next choice task [] acted kind marked unharmed
  simp only [List.append_nil] at goes
  simpa only [bench, kept, none, none', rests, List.flatMap_nil, List.nil_append,
    List.append_nil] using goes

/-- What the courier does goes on on the bench, before all that a caller has to do. -/
theorem Depot.goes_courier (acted : depot.act agent choice task = some (later, next))
    (kind : task.isWork = true ∨ task.isChore = true)
    (marked : MarkedInside false { agent with tasks := task :: agent.tasks })
    (unharmed : next.crash = none) (kept : later.settings = depot.settings)
    (same : later.orders = depot.orders) :
    (depot.bench { agent with tasks := task :: agent.tasks } caller).Goes
      (later.bench next caller) := by
  -- What the orders and the caller have to do comes behind.
  have goes := @goes_bench depot later agent next choice task
    (depot.orders.flatMap (Order.labour depot.settings) ++ caller.labour depot.settings)
    acted kind marked unharmed
  simpa only [bench, kept, same, List.append_assoc] using goes

end Benches

end LogCourier
