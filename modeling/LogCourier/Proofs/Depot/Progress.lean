import LogCourier.Proofs.Depot.Post

/-!
Progress: every call comes to its end, whatever others do meanwhile.

A task leads only to tasks of a lower rank, apart from the round of the courier, which always comes
back to where it waits for something to do. Only what lies outside, the lock, the thread or the
deadline can make an agent wait, and only a crash can make it give up.
-/

namespace LogCourier

namespace Task

/-- Whether a task belongs to the round of the courier on its thread. -/
def isRound : Task → Bool
  | .begin | .idle _ | .schedule _ | .plan .. | .select .. | .retick _ => true
  | _ => false

/-- How many kinds of tasks can follow from a task, one from the other. -/
def level : Task → Nat
  | .claimBanner | .echo _ | .append _ | .flushSink | .hire => 1
  | .checkBanner | .offer _ | .fallBack _ | .start | .join .. => 2
  | .submit _ | .settle .. | .dismiss _ => 3
  | .bridge _ => 4
  | .send .. => 5
  | .drain _ | .closeQueue _ => 6
  | .flushFor _ | .finish _ => 7
  | .checkFull | .checkAge | .order | .takeOver _ => 8
  | .checkReady | .flush | .stop _ => 9
  | _ => 0

/-- How often a task can lead to another one of its kind. -/
def size : Task → Nat
  | .fallBack events => events.length
  | _ => 0

/-- A task is nearer to the end than another one. -/
def Below (lower upper : Task) : Prop :=
  -- Only showing the events of a batch leads to a task of its own kind.
  lower.level < upper.level ∨ lower.level = upper.level ∧ lower.size < upper.size

/-- No task can lead nearer to the end for ever. -/
theorem wellFounded_below : WellFounded Below := by
  -- The kind counts first, and the number of events after it.
  refine Subrelation.wf (fun {lower upper} nearer => ?_)
    (InvImage.wf (fun task : Task => (task.level, task.size))
      (Prod.lex Nat.lt_wfRel Nat.lt_wfRel).wf)
  rcases nearer with kind | ⟨same, fewer⟩
  · exact .left _ _ kind
  · simp only [InvImage, same]
    exact .right _ fewer

end Task

/-- An event that is handed in leads nearer to the end. -/
theorem Intake.lower {depot after : Depot} {agent next : Agent} {task : Task}
    (deed : Intake depot agent task after next) :
    ∃ pushed, next.tasks = pushed ++ agent.tasks ∧
      ∀ new ∈ pushed, new.isRound = false ∧ new.Below task := by
  -- Each task of handing in leads to later ones of the same way.
  cases deed with
  | submit _ event =>
    refine ⟨_, rfl, fun new member => ?_⟩
    simp only [Depot.acceptance, List.mem_append] at member
    -- Each part of accepting an event is there or not.
    rcases member with (member | member) | member <;> split at member <;>
      (try split at member) <;>
      simp only [List.mem_singleton, List.not_mem_nil] at member <;> subst member <;>
      exact ⟨rfl, .inl (by simp [Task.level])⟩
  | append _ queue =>
    refine ⟨_, rfl, ?_⟩
    cases queue.asks .appended <;> simp [Task.isRound, Task.Below, Task.level]
  | displace _ _ _ _ queue =>
    refine ⟨_, rfl, ?_⟩
    cases queue.asks .displacing <;> simp [Task.isRound, Task.Below, Task.level]
  | displaceNobody _ queue =>
    refine ⟨_, rfl, ?_⟩
    cases queue.asks .displacing <;> simp [Task.isRound, Task.Below, Task.level]
  | _ =>
    first
    | exact ⟨[], rfl, by simp⟩
    | exact ⟨_, rfl, by simp [warn, Task.isRound, Task.Below, Task.level]⟩

/-- A batch on its way leads nearer to the end, unless a crash makes the agent give up. -/
theorem Delivery.lower {depot after : Depot} {agent next : Agent} {task : Task}
    (deed : Delivery depot agent task after next) (unharmed : next.crash = none) :
    ∃ pushed, next.tasks = pushed ++ agent.tasks ∧
      ∀ new ∈ pushed, new.isRound = false ∧ new.Below task := by
  -- Showing the events of a batch leads to itself, but with one event less.
  cases deed with
  | send _ _ reply =>
    refine ⟨_, rfl, forall_mem_inside reply (fun _ => ?_) (fun _ => ?_) ?_ ?_⟩
    all_goals exact ⟨rfl, .inl (by simp [Task.level])⟩
  | drain trigger =>
    refine ⟨_, rfl, ?_⟩
    cases trigger <;> simp [Trigger.counter?, Task.isRound, Task.Below, Task.level]
  | giveUp =>
    refine ⟨_, rfl, ?_⟩
    split <;> simp [warn, Task.isRound, Task.Below, Task.level]
  -- Here the agent gives up.
  | showCrashes => simp [Agent.unwind] at unharmed
  | flushCrashes => simp [Agent.unwind] at unharmed
  | _ =>
    first
    | exact ⟨[], rfl, by simp⟩
    | exact ⟨_, rfl, by simp [warn, Task.isRound, Task.Below, Task.level, Task.size]⟩

/-- A decision leads nearer to the end, but for the round of the courier. -/
theorem Duty.lower {depot after : Depot} {agent next : Agent} {task : Task}
    (deed : Duty depot agent task after next) (finite : task.isRound = false) :
    ∃ pushed, next.tasks = pushed ++ agent.tasks ∧
      ∀ new ∈ pushed, new.isRound = false ∧ new.Below task := by
  -- Outside the round every decision leads to later ones of its call.
  cases deed
  case takeCourier | takeNobody | join =>
    refine ⟨_, rfl, ?_⟩
    unfold Depot.conclusion
    split <;> simp [Task.isRound, Task.Below, Task.level]
  -- These are the round of the courier.
  case begin | idle | schedule | plan | takeSignal | takeFlush | takeStop | wake | retick =>
    cases finite
  all_goals first
    | exact ⟨[], rfl, by simp⟩
    | exact ⟨_, rfl, by simp [Task.isRound, Task.Below, Task.level]⟩

/-- Every step leads nearer to the end, but for the round of the courier and for giving up. -/
theorem Deed.lower {depot after : Depot} {agent next : Agent} {task : Task}
    (deed : Deed depot agent task after next) (finite : task.isRound = false)
    (unharmed : next.crash = none) :
    ∃ pushed, next.tasks = pushed ++ agent.tasks ∧
      ∀ new ∈ pushed, new.isRound = false ∧ new.Below task := by
  -- Only a decision can lead round again, which is ruled out.
  rcases deed with intake | delivery | duty
  · exact intake.lower
  · exact delivery.lower unharmed
  · exact duty.lower finite

namespace Depot

/-- Whether a task has to wait: for a send to be let go on, for the lock, for the thread to begin or
to end, or for something to do. -/
def hinders (depot : Depot) : Task → Bool
  | .await => depot.permits = 0
  | .hire | .order | .takeOver _ => depot.locked
  | .begin => depot.thread ≠ .running
  | .join since timeout =>
    depot.thread ≠ .exited && depot.thread ≠ .crashed && depot.now < since + timeout.nanos
  | .select _ wake => !depot.queue.signalled && depot.orders.isEmpty && depot.now < wake
  | _ => false

/-- Handing in an event never has to wait. -/
theorem hinders_of_isIntake (depot : Depot) {task : Task} (handing : task.isIntake = true) :
    depot.hinders task = false := by
  -- All that has to be waited for belongs to the courier.
  cases task <;> first | rfl | cases handing

/-- Whatever does not have to wait can be done. -/
theorem exists_act (depot : Depot) (agent : Agent) (task : Task)
    (free : depot.hinders task = false) : ∃ choice, (depot.act agent choice task).isSome := by
  cases task with
  | await => exact ⟨.timer, by simp_all [hinders, act]⟩
  | hire => exact ⟨.timer, by simp_all [hinders, act]⟩
  | order => exact ⟨.timer, by simp_all [hinders, act]⟩
  | takeOver => exact ⟨.timer, by simp_all [hinders, act]⟩
  | begin => exact ⟨.timer, by simp_all [hinders, act]⟩
  | join since timeout =>
    refine ⟨.timer, ?_⟩
    simp only [act, join]
    -- The thread has ended, or the deadline has passed.
    cases thread : depot.thread with
    | exited => rfl
    | crashed => rfl
    | none | refused | running =>
      simp only [hinders, thread, ne_eq, reduceCtorEq, not_false_eq_true, decide_true,
        Bool.true_and, decide_eq_false_iff_not, Nat.not_lt] at free
      simp [free]
  | select tick wake =>
    -- A signal is taken first, then an order, and then the timer.
    cases signalled : depot.queue.signalled with
    | true => exact ⟨.signal, by simp [act, select, Queue.takeSignal, signalled]⟩
    | false =>
      cases orders : depot.orders with
      | nil =>
        simp only [hinders, signalled, orders, Bool.not_false, List.isEmpty_nil, Bool.true_and,
          decide_eq_false_iff_not, Nat.not_lt] at free
        exact ⟨.timer, by simp [act, select, free]⟩
      | cons order rest =>
        refine ⟨.order, ?_⟩
        cases order <;> simp [act, select, orders]
  | _ => exact ⟨.timer, rfl⟩

end Depot

/-- Whether an agent has to wait before its next step. -/
def Agent.waits (agent : Agent) (depot : Depot) : Bool :=
  match agent.tasks with
  | [] => false
  | task :: _ => depot.hinders task

/-- An agent comes to where it should after finitely many steps of its own, whatever others do
meanwhile and as long as no crash makes it give up; until then it is never without a next step. -/
inductive Comes (settings : Settings) (goal : Agent → Prop) : Agent → Prop where
  | there {agent : Agent} (reached : goal agent) : Comes settings goal agent
  | on {agent : Agent}
      (able : ∀ depot, agent.waits depot = false → ∃ choice, (agent.step choice depot).isSome)
      (onward : ∀ choice before after next, before.settings = settings →
        agent.step choice before = some (after, next) → next.crash = none →
          Comes settings goal next) : Comes settings goal agent

/-- What an agent keeps in all its steps but for giving up. -/
def Kept (settings : Settings) (keeps : Agent → Prop) : Prop :=
  ∀ (agent next : Agent) (task : Task) (before after : Depot), before.settings = settings →
    keeps { agent with tasks := task :: agent.tasks } →
      Deed before agent task after next → next.crash = none → keeps next

/-- With tasks of which something holds an agent comes to where it should, if it keeps what else
holds of it. -/
def Leads (settings : Settings) (keeps goal : Agent → Prop) (tasks : List Task) : Prop :=
  ∀ agent : Agent, agent.tasks = tasks → keeps agent → Comes settings goal agent

namespace Leads

variable {settings : Settings} {keeps goal : Agent → Prop} {task : Task} {rest : List Task}

/-- A first task leads on if all it can lead to does so. -/
theorem of_deed
    (onward : ∀ (agent next : Agent) (before after : Depot), before.settings = settings →
      agent.tasks = rest → keeps { agent with tasks := task :: agent.tasks } →
        Deed before agent task after next → next.crash = none → Comes settings goal next) :
    Leads settings keeps goal (task :: rest) := by
  -- A step does the first task, and whatever does not have to wait can be done.
  intro agent tasks holds
  refine .on (fun depot free => ?_) fun choice before after next fixed acted unharmed => ?_
  · simp only [Agent.waits, tasks] at free
    simpa only [Agent.step, tasks] using depot.exists_act _ task free
  · -- The step is one of the first task.
    obtain ⟨first, below, rfl, deed⟩ := Agent.deed_of_step acted
    obtain ⟨rfl, left⟩ := List.cons.inj tasks
    exact onward below next before after fixed left holds deed unharmed

/-- A task that is none of the courier's round leads to whatever the tasks below it lead to. -/
theorem cons (kept : Kept settings keeps) (finite : task.isRound = false)
    (on : Leads settings keeps goal rest) : Leads settings keeps goal (task :: rest) := by
  -- Induction on the rank: all that the task can lead to is nearer to the end.
  induction task using Task.wellFounded_below.induction generalizing rest with
  | _ task nearer =>
    refine of_deed fun agent next before after fixed tasks holds deed unharmed => ?_
    obtain ⟨pushed, left, lower⟩ := deed.lower finite unharmed
    -- One after the other, what was pushed leads to the rest.
    have through : Leads settings keeps goal (pushed ++ rest) := by
      clear left
      induction pushed with
      | nil => exact on
      | cons first others ih =>
        obtain ⟨finite', below⟩ := lower first List.mem_cons_self
        exact nearer first below finite'
          (ih fun new member => lower new (List.mem_cons_of_mem _ member))
    exact through next (tasks ▸ left) (kept _ _ _ _ _ fixed holds deed unharmed)

/-- Tasks that are none of the courier's round lead to whatever the tasks below them lead to. -/
theorem append (kept : Kept settings keeps) {upper : List Task}
    (finite : ∀ task ∈ upper, task.isRound = false) (on : Leads settings keeps goal rest) :
    Leads settings keeps goal (upper ++ rest) := by
  -- The upper tasks are done one after the other.
  induction upper with
  | nil => exact on
  | cons task lower ih =>
    exact (ih fun other member => finite other (List.mem_cons_of_mem _ member)).cons kept
      (finite task List.mem_cons_self)

/-- Without tasks an agent is where it should be, if that can be told from what it keeps. -/
theorem nil (reached : ∀ agent, agent.tasks = [] → keeps agent → goal agent) :
    Leads settings keeps goal [] :=
  fun agent tasks holds => .there (reached agent tasks holds)

end Leads

/-- Whatever an agent does above some tasks, it comes back to them. -/
theorem Comes.back (settings : Settings) {agent : Agent} {upper rest : List Task}
    (tasks : agent.tasks = upper ++ rest) (finite : ∀ task ∈ upper, task.isRound = false) :
    Comes settings (fun done => done.tasks = rest) agent := by
  -- With just the lower tasks it is where it should be.
  have base : Leads settings (fun _ => True) (fun done => done.tasks = rest) rest :=
    fun _ same _ => .there same
  exact base.append (fun _ _ _ _ _ _ _ _ _ => trivial) finite agent tasks trivial

/-- No caller goes the round of the courier. -/
theorem Course.finite {remote : Bool} {control : List Task} (course : Course remote control) :
    ∀ task ∈ control, task.isRound = false := by
  -- The tasks of the round belong to the courier on its thread.
  have coda {coda : List Task} (ends : Coda coda) : ∀ task ∈ coda, task.isRound = false := by
    cases ends <;> simp [Task.isRound]
  cases course with
  | answer ends => simpa [Task.isRound] using coda ends
  | stop _ ends => simpa [Task.isRound] using coda ends
  | takeOver _ ends => simpa [Task.isRound] using coda ends
  | dismiss _ ends => simpa [Task.isRound] using coda ends
  | join _ _ ends => simpa [Task.isRound] using coda ends
  | decline ends => simpa [Task.isRound] using coda ends
  | closing ends last => cases last <;> simpa [Task.isRound] using coda ends
  | _ => simp [Task.isRound]

/-- Whether an agent waits for something to do. -/
def Agent.isWaiting (agent : Agent) : Prop :=
  ∃ tick wake rest, agent.tasks = .select tick wake :: rest

/-- A decision leads on if the tasks that follow from it do so. -/
theorem Leads.of_duty {settings : Settings} {goal : Agent → Prop} {task : Task} {rest : List Task}
    (kind : task.isDuty = true)
    (onward : ∀ (agent next : Agent) (before after : Depot), Duty before agent task after next →
      ∃ new, next.tasks = new :: agent.tasks ∧ Leads settings (fun _ => True) goal (new :: rest)) :
    Leads settings (fun _ => True) goal (task :: rest) := by
  -- A task that is decided is done by a decision.
  refine .of_deed fun agent next before after _ tasks _ deed _ => ?_
  rcases deed with intake | delivery | duty
  · simp [intake.not_isDuty] at kind
  · simp [delivery.not_isDuty] at kind
  · obtain ⟨new, left, on⟩ := onward agent next before after duty
    exact on next (tasks ▸ left) trivial

/-- The courier comes to the end of its tasks, or to where it waits for something to do. -/
theorem Comes.waiting (settings : Settings) (agent : Agent) :
    Comes settings (fun done => done.tasks = [] ∨ done.isWaiting) agent := by
  -- One task of the round leads to the next one, until the courier waits.
  let goal : Agent → Prop := fun done => done.tasks = [] ∨ done.isWaiting
  have select (tick wake : Nat) (rest : List Task) :
      Leads settings (fun _ => True) goal (.select tick wake :: rest) :=
    fun _ tasks _ => .there (.inr ⟨tick, wake, rest, tasks⟩)
  have plan (tick asked : Nat) (rest : List Task) :
      Leads settings (fun _ => True) goal (.plan tick asked :: rest) :=
    .of_duty rfl fun _ _ _ _ deed => by cases deed; exact ⟨_, rfl, select _ _ rest⟩
  have schedule (tick : Nat) (rest : List Task) :
      Leads settings (fun _ => True) goal (.schedule tick :: rest) :=
    .of_duty rfl fun _ _ _ _ deed => by cases deed; exact ⟨_, rfl, plan _ _ rest⟩
  have idle (tick : Nat) (rest : List Task) :
      Leads settings (fun _ => True) goal (.idle tick :: rest) :=
    .of_duty rfl fun _ _ _ _ deed => by cases deed; exact ⟨_, rfl, schedule _ rest⟩
  -- Below the round the tasks are done from the first to the last.
  have all (tasks : List Task) : Leads settings (fun _ => True) goal tasks := by
    induction tasks with
    | nil => exact .nil fun _ none _ => .inl none
    | cons task rest ih =>
      cases task with
      | begin => exact .of_duty rfl fun _ _ _ _ deed => by cases deed; exact ⟨_, rfl, idle _ rest⟩
      | retick => exact .of_duty rfl fun _ _ _ _ deed => by cases deed; exact ⟨_, rfl, idle _ rest⟩
      | idle tick => exact idle tick rest
      | schedule tick => exact schedule tick rest
      | plan tick asked => exact plan tick asked rest
      | select tick wake => exact select tick wake rest
      | _ => exact ih.cons (fun _ _ _ _ _ _ _ _ _ => trivial) rfl
  exact all agent.tasks agent rfl trivial

namespace Task

/-- Whether a task leads to an answer. -/
def answers : Task → Bool
  | .start | .hire | .flush | .order | .stop _ | .takeOver _ | .dismiss _ | .join .. => true
  | .answer _ => true
  | _ => false

end Task

/-- An agent that has answered, or still will. -/
def Agent.willAnswer (agent : Agent) : Prop :=
  agent.answer.isSome = true ∨ ∃ task ∈ agent.tasks, task.answers = true

/-- No step takes an answer back. -/
theorem Deed.answered {depot after : Depot} {agent next : Agent} {task : Task}
    (deed : Deed depot agent task after next) (answered : agent.answer.isSome = true) :
    next.answer.isSome = true := by
  -- An answer is only ever replaced by another one.
  rcases deed with intake | delivery | duty
  · cases intake <;> first | exact answered | rfl
  · cases delivery <;> exact answered
  · cases duty <;> first | exact answered | rfl

/-- Whatever leads to an answer answers, or leads to what does. -/
theorem Duty.willAnswer {depot after : Depot} {agent next : Agent} {task : Task}
    (deed : Duty depot agent task after next) (answers : task.answers = true) :
    next.willAnswer := by
  -- Each decision of a call answers, or pushes the task that does.
  have concludes (depot : Depot) : Task.answer true ∈ depot.conclusion := by
    simp [Depot.conclusion]
  cases deed with
  | start => exact .inr ⟨.hire, by simp [Agent.push], rfl⟩
  | flush => exact .inr ⟨.order, by simp [Agent.push], rfl⟩
  | lock => exact .inr ⟨.answer true, by simp [Agent.push], rfl⟩
  | stop timeout => exact .inr ⟨.takeOver timeout, by simp [Agent.push], rfl⟩
  | takeHandle timeout => exact .inr ⟨.dismiss timeout, by simp [Agent.push], rfl⟩
  | takeCourier => exact .inr ⟨.answer true, by simp [Agent.push, concludes], rfl⟩
  | takeNobody => exact .inr ⟨.answer true, by simp [Agent.push, concludes], rfl⟩
  | dismiss timeout => exact .inr ⟨.join depot.now timeout, by simp [Agent.push], rfl⟩
  | dismissGone timeout => exact .inr ⟨.join depot.now timeout, by simp [Agent.push], rfl⟩
  | join => exact .inr ⟨.answer true, by simp [Agent.push, concludes], rfl⟩
  | startLate | hire | hireLost | hireNobody | flushLate | order | orderLost | orderNobody =>
    exact .inl rfl
  | stopAgain | joinCrashed | joinOverdue | answer => exact .inl rfl
  | _ => cases answers

/-- A step leaves all tasks below it, unless a crash makes the agent give up. -/
theorem Deed.pushes {depot after : Depot} {agent next : Agent} {task : Task}
    (deed : Deed depot agent task after next) (unharmed : next.crash = none) :
    ∃ pushed, next.tasks = pushed ++ agent.tasks := by
  -- Only giving up drops tasks.
  rcases deed with intake | delivery | duty
  · obtain ⟨pushed, left, _⟩ := intake.pushes
    exact ⟨pushed, left⟩
  · rcases delivery.pushes with ⟨pushed, left, _⟩ | ⟨crash, rfl⟩
    · exact ⟨pushed, left⟩
    · simp [Agent.unwind] at unharmed
  · obtain ⟨pushed, left, _⟩ := duty.pushes
    exact ⟨pushed, left⟩

/-- Whoever will answer does so unless a crash makes it give up. -/
theorem kept_willAnswer (settings : Settings) : Kept settings Agent.willAnswer := by
  -- The task that leads to the answer is done now, or it stays below.
  intro agent next task before after _ will deed unharmed
  rcases will with answered | ⟨promise, member, answers⟩
  · exact .inl (deed.answered answered)
  · rcases List.mem_cons.mp member with rfl | below
    · rcases deed with intake | delivery | duty
      · -- Neither handing in nor delivering has a task that answers.
        cases intake <;> cases answers
      · cases delivery <;> cases answers
      · exact duty.willAnswer answers
    · obtain ⟨pushed, left⟩ := deed.pushes unharmed
      exact .inr ⟨promise, by simp [left, below], answers⟩

/-- Whoever will answer comes to the end of its tasks and has answered. -/
theorem Comes.answered (settings : Settings) {agent : Agent} (will : agent.willAnswer)
    (finite : ∀ task ∈ agent.tasks, task.isRound = false) :
    Comes settings (fun done => done.tasks = [] ∧ done.answer.isSome = true) agent := by
  -- Without tasks nothing leads to an answer any more, so it has been given.
  have base : Leads settings Agent.willAnswer
      (fun done => done.tasks = [] ∧ done.answer.isSome = true) [] := by
    refine .nil fun done none will => ⟨none, ?_⟩
    rcases will with answered | ⟨_, member, _⟩
    · exact answered
    · simp [none] at member
  exact base.append (kept_willAnswer settings) finite agent (List.append_nil _).symm will

end LogCourier
