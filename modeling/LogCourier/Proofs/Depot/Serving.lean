import LogCourier.Proofs.Depot.Progress
import LogCourier.Proofs.Depot.Staffing

/-!
Serving: one call at a time is served, by a courier on its thread or by the caller without one.

Where the courier is and what is still to be done go together in few ways, and each step leads from
one of them to another one. On the bench the same is done in both cases, and the same is answered.
-/

namespace LogCourier

/-- What the last caller still has to do, and the order it has given, while the courier waits on its
thread. -/
inductive Attended : Site → List Task → Prop where
  | serving {tasks : List Task} (asking : Asking tasks) :
      Attended ⟨false, true, .thread, .running, true, []⟩ tasks
  | ordering : Attended ⟨false, true, .thread, .running, true, []⟩ [.order]
  | ordered : Attended ⟨false, true, .thread, .running, true, [.flush]⟩ []
  | taking (timeout : Span) {rest : List Task} (each : Chores rest) :
      Attended ⟨true, true, .thread, .running, true, []⟩ (.takeOver timeout :: rest)
  | dismissing (timeout : Span) {rest : List Task} (each : Chores rest) :
      Attended ⟨true, false, .thread, .running, true, []⟩ (.dismiss timeout :: rest)
  | dismissed (deadline timeout : Span) (since : Nat) {rest : List Task} (each : Chores rest) :
      Attended ⟨true, false, .thread, .running, true, [.stop deadline]⟩
        (.join since timeout :: rest)

/-- Where the courier is on its thread, what it still has to do, and what the last caller has. -/
inductive Staffed : Site → List Task → List Task → Prop where
  /-- It is about to be started. -/
  | opening {tasks : List Task} (begins : tasks = [.start] ∨ tasks = [.hire]) :
      Staffed ⟨false, false, .desk, .none, true, []⟩ [.begin, .release, .exit] tasks
  | waiting {site : Site} {work tasks : List Task} (lull : Lull work)
      (attended : Attended site tasks) : Staffed site work tasks
  | flushing {upper work : List Task} (each : Chores upper) (lull : Lull work) :
      Staffed ⟨false, true, .thread, .running, true, []⟩ (upper ++ work) []
  | finishing (deadline timeout : Span) (since : Nat) {rest : List Task} (each : Chores rest) :
      Staffed ⟨true, false, .thread, .running, true, []⟩ [.finish deadline, .release, .exit]
        (.join since timeout :: rest)
  | parting (timeout : Span) (since : Nat) {upper rest : List Task} (last : Chores upper)
      (each : Chores rest) :
      Staffed ⟨true, false, .thread, .running, true, []⟩ (upper ++ [.release, .exit])
        (.join since timeout :: rest)
  | leaving (timeout : Span) (since : Nat) {rest : List Task} (each : Chores rest) :
      Staffed ⟨true, false, .nobody, .running, false, []⟩ [.exit] (.join since timeout :: rest)
  | joining (timeout : Span) (since : Nat) {rest : List Task} (each : Chores rest) :
      Staffed ⟨true, false, .nobody, .exited, false, []⟩ [] (.join since timeout :: rest)
  | gone {tasks : List Task} (asking : Asking tasks) :
      Staffed ⟨true, false, .nobody, .exited, false, []⟩ [] tasks

/-- Where the courier is without a thread, its tasks as they are then, and what the last caller
still has to do. -/
inductive Unstaffed : Site → List Task → List Task → Prop where
  | serving {tasks : List Task} (asking : Asking tasks) :
      Unstaffed ⟨false, false, .desk, .none, true, []⟩ [.begin, .release, .exit] tasks
  | ordering :
      Unstaffed ⟨false, false, .desk, .none, true, []⟩ [.begin, .release, .exit] [.order]
  | taking (timeout : Span) {rest : List Task} (each : Chores rest) :
      Unstaffed ⟨true, false, .desk, .none, true, []⟩ [.begin, .release, .exit]
        (.takeOver timeout :: rest)
  | finishing (deadline : Span) {rest : List Task} (each : Chores rest) :
      Unstaffed ⟨true, false, .caller, .none, true, []⟩ [.begin, .release, .exit]
        (.finish deadline :: .release :: rest)
  | parting {upper rest : List Task} (last : Chores upper) (each : Chores rest) :
      Unstaffed ⟨true, false, .caller, .none, true, []⟩ [.begin, .release, .exit]
        (upper ++ .release :: rest)
  | gone {tasks : List Task} (asking : Asking tasks) :
      Unstaffed ⟨true, false, .nobody, .none, false, []⟩ [.begin, .release, .exit] tasks

/-- A courier that can be asked anything: nothing is left for it, and once it has been stopped it is
gone. -/
structure CourierAvailable (stage : Site → List Task → List Task → Prop) (depot : Depot)
    (courier : Agent) : Prop where
  asks : ∀ tasks, Asking tasks → stage depot.site courier.tasks tasks
  labour : courier.labour depot.settings = []
  orders : depot.orders = []
  gone : depot.stopped = true → depot.holder = .nobody

section Steps

variable {depot later : Depot} {agent next courier caller : Agent} {choice : Choice} {task : Task}

/-- A chore leads to chores, and the courier stays where it is. -/
theorem Deed.goesOn (deed : Deed depot agent task later next) (chore : task.isChore = true)
    (remote : depot.settings.isRemote = true) (returns : depot.script.Returns) :
    (∃ pushed, next.tasks = pushed ++ agent.tasks ∧ Chores pushed) ∧
      later.site = depot.site ∧ next.promised later.stopped =
        ({ agent with tasks := task :: agent.tasks } : Agent).promised depot.stopped := by
  -- What is promised is a matter of what has been stopped, which no chore changes.
  obtain ⟨pushes, same, promise⟩ := deed.chores chore remote returns
  refine ⟨pushes, same, ?_⟩
  rw [promise, show later.stopped = depot.stopped from congrArg Site.stopped same]

/-- A courier that waits goes on to wait, or takes the order that the caller has given. -/
theorem Attended.ofCourier (attended : Attended depot.site caller.tasks)
    (lull : Lull (task :: agent.tasks)) (deed : Deed depot agent task later next)
    (room : depot.queue.length < depot.queue.maxBatch)
    (early : ∀ tick wake, task = .select tick wake → depot.now < wake) :
    Staffed later.site next.tasks caller.tasks ∧ later.stopped = depot.stopped ∧
      (depot.bench { agent with tasks := task :: agent.tasks } caller).Goes
        (later.bench next caller) := by
  -- The bench holds nothing for a courier that waits.
  have idle := @Lull.labour { agent with tasks := task :: agent.tasks } lull depot.settings
  rcases lull.after deed room early with
    ⟨onward, same, bare⟩ | ⟨tick, order, orders, ordered, rfl, left⟩
  · -- It goes on to wait, and the bench has nothing to show for it.
    refine ⟨?_, congrArg Site.stopped same, Depot.goes_of_same bare ?_⟩
    · rw [same]
      exact .waiting onward attended
    · rw [idle, onward.labour, show later.orders = depot.orders from congrArg Site.orders same]
  · -- It takes the order from the list, and the same work now stands among its own tasks.
    refine ⟨?_, rfl, Depot.goes_of_same rfl ?_⟩
    · -- Only two orders can have been given, each of them alone.
      have given : depot.site.orders = order :: orders := ordered
      have here : ({ depot with orders } : Depot).site = { depot.site with orders } := rfl
      rw [here, left]
      generalize depot.site = site at attended given
      generalize caller.tasks = asked at attended
      cases attended with
      | ordered =>
        obtain ⟨rfl, rfl⟩ := List.cons.inj given
        exact @Staffed.flushing [.flushFor .request] _ (by simp [Chores, Task.isChore]) (.idle tick)
      | dismissed deadline timeout since each =>
        obtain ⟨rfl, rfl⟩ := List.cons.inj given
        exact .finishing deadline timeout since each
      | _ => cases given
    · rw [idle, ordered]
      cases order <;> simp [Agent.labour, left, Task.labour, Order.labour, Task.isWork]

/-- The courier on its thread goes on with what it has to do. -/
theorem Staffed.ofCourier (staffed : Staffed depot.site (task :: agent.tasks) caller.tasks)
    (acted : depot.act agent choice task = some (later, next))
    (remote : depot.settings.isRemote = true) (returns : depot.script.Returns)
    (marked : MarkedInside false { agent with tasks := task :: agent.tasks })
    (unharmed : agent.crash = none) (room : depot.queue.length < depot.queue.maxBatch)
    (early : ∀ tick wake, task = .select tick wake → depot.now < wake) :
    Staffed later.site next.tasks caller.tasks ∧ later.stopped = depot.stopped ∧
      (depot.bench { agent with tasks := task :: agent.tasks } caller).Goes
        (later.bench next caller) := by
  have deed := Deed.of_act acted
  -- A chore leads to chores, and on the bench it is the next task.
  have works (chore : task.isChore = true) {site : Site} (place : depot.site = site)
      (stays : ∀ pushed, Chores pushed → Staffed site (pushed ++ agent.tasks) caller.tasks) :
      Staffed later.site next.tasks caller.tasks ∧ later.stopped = depot.stopped ∧
        (depot.bench { agent with tasks := task :: agent.tasks } caller).Goes
          (later.bench next caller) := by
    obtain ⟨⟨pushed, tasks, chores⟩, same, -⟩ := deed.goesOn chore remote returns
    refine ⟨?_, congrArg Site.stopped same, ?_⟩
    · rw [same, place, tasks]
      exact stays pushed chores
    · exact Depot.goes_courier acted (.inr chore) marked ((deed.unharmed returns).trans unharmed)
        deed.settings (congrArg Site.orders same)
  -- The stages are told apart by the place, by the work that is left and by what is asked.
  obtain ⟨site, place⟩ : ∃ site, depot.site = site := ⟨_, rfl⟩
  obtain ⟨work, whole⟩ : ∃ work, task :: agent.tasks = work := ⟨_, rfl⟩
  obtain ⟨asked, asks⟩ : ∃ asked, caller.tasks = asked := ⟨_, rfl⟩
  rw [place, whole, asks] at staffed
  cases staffed with
  | opening begins =>
    -- Before the thread runs there is nothing for it to begin.
    obtain ⟨rfl, -⟩ := List.cons.inj whole
    cases deed.duty rfl with
    | begin running => simp [← Depot.site_thread, place] at running
  | waiting lull attended =>
    subst whole asks place
    exact attended.ofCourier lull deed room early
  | @flushing upper work each lull =>
    cases upper with
    | nil =>
      -- Everything is done, and it waits again.
      subst whole
      refine Attended.ofCourier ?_ lull deed room early
      rw [place, asks]
      exact .serving (.chores .nil)
    | cons first upper =>
      obtain ⟨rfl, left⟩ : task = first ∧ agent.tasks = upper ++ work := List.cons.inj whole
      refine works each.head place fun pushed chores => ?_
      rw [asks, left, ← List.append_assoc]
      exact .flushing (chores.append each.tail) lull
  | finishing deadline timeout since each =>
    -- It has been told to finish, which on the bench is no work and leads to the conclusion.
    obtain ⟨rfl, left⟩ := List.cons.inj whole
    cases deed.duty rfl with
    | finish =>
      refine ⟨?_, rfl, Depot.goes_of_same (depot.enter_bare _) ?_⟩
      · rw [show (depot.enter .shuttingDown).site = depot.site from rfl, place, asks, Agent.push,
          left]
        exact @Staffed.parting _ _ [.enter .finalFlush, .closeQueue _, .enter .stopped] _
          (by simp [Chores, Task.isChore]) each
      · rw [Agent.labour_push, Agent.labour_of_first]
        rfl
  | @parting timeout since upper rest last each =>
    cases upper with
    | nil =>
      -- With the last flush done it lets go of what it has.
      obtain ⟨rfl, left⟩ := List.cons.inj whole
      cases deed.duty rfl with
      | release =>
        have here : depot.release.site =
            { depot.site with holder := .nobody, listening := false, orders := [] } := rfl
        refine ⟨?_, rfl, Depot.goes_of_same depot.release_bare ?_⟩
        · rw [here, place, asks, left]
          exact .leaving timeout since each
        · rw [Agent.labour_of_first, show depot.orders = [] from congrArg Site.orders place]
          rfl
    -- What is left of the last flush are chores.
    | cons first upper =>
      obtain ⟨rfl, left⟩ : task = first ∧ agent.tasks = upper ++ [Task.release, Task.exit] :=
        List.cons.inj whole
      refine works last.head place fun pushed chores => ?_
      rw [asks, left, ← List.append_assoc]
      exact .parting timeout since (chores.append last.tail) each
  | leaving timeout since each =>
    -- Nothing is left but to end the thread, which has not crashed.
    obtain ⟨rfl, left⟩ := List.cons.inj whole
    cases deed.duty rfl with
    | exit thread ended =>
      have here : ({ depot with thread } : Depot).site = { depot.site with thread } := rfl
      simp only [unharmed, Option.isSome_none, Bool.false_eq_true, if_false] at ended
      refine ⟨?_, rfl, Depot.goes_of_same (by simp [Depot.bare]) ?_⟩
      · rw [here, place, asks, left, ended]
        exact .joining timeout since each
      · rw [Agent.labour_of_first]
        rfl
  | joining timeout since each => cases whole
  | gone asking => cases whole

/-- A caller goes on while nobody else has anything to do. -/
theorem Asking.ofCaller (asking : Asking (task :: agent.tasks))
    (acted : depot.act agent choice task = some (later, next))
    (remote : depot.settings.isRemote = true) (returns : depot.script.Returns)
    (marked : MarkedInside false { agent with tasks := task :: agent.tasks })
    (unharmed : agent.crash = none) (alone : depot.orders = [])
    (rests : courier.labour depot.settings = []) :
    Asked depot later next.tasks ∧
      next.promised later.stopped =
        ({ agent with tasks := task :: agent.tasks } : Agent).promised depot.stopped ∧
      (depot.bench courier { agent with tasks := task :: agent.tasks }).Goes
        (later.bench courier next) := by
  -- What has been asked leads on as it does for anybody, as nobody else has anything on the bench.
  have deed := Deed.of_act acted
  obtain ⟨asked, promise⟩ := asking.after deed remote returns
  refine ⟨asked, promise, ?_⟩
  refine Depot.goes_caller acted asking.kind marked ((deed.unharmed returns).trans unharmed)
    deed.settings alone ?_ rests
  -- The orders are those that there were, and there were none.
  rw [← alone]
  cases asked with
  | done _ same | flush _ _ same | stop _ _ _ _ same => exact congrArg Site.orders same

/-- Nobody stops waiting for a thread that runs before the deadline. -/
theorem Deed.overdue {since : Nat} {timeout : Span}
    (deed : Deed depot agent (.join since timeout) later next)
    (running : depot.thread = .running) : since + timeout.nanos ≤ depot.now := by
  -- The thread runs, so that there is only one way left to stop waiting for it.
  cases deed.duty rfl with
  | join _ _ ended | joinCrashed _ _ ended => simp [running] at ended
  | joinOverdue _ _ _ overdue => exact overdue

/-- Whoever calls while the courier waits on its thread gives it orders at most. -/
theorem Attended.ofCaller (attended : Attended depot.site (task :: agent.tasks))
    (lull : Lull courier.tasks) (acted : depot.act agent choice task = some (later, next))
    (remote : depot.settings.isRemote = true) (returns : depot.script.Returns)
    (marked : MarkedInside false { agent with tasks := task :: agent.tasks })
    (unharmed : agent.crash = none)
    (soon : ∀ since timeout, task = .join since timeout → depot.thread = .running →
      depot.now < since + timeout.nanos) :
    Attended later.site next.tasks ∧
      next.promised later.stopped =
        ({ agent with tasks := task :: agent.tasks } : Agent).promised depot.stopped ∧
      (depot.bench courier { agent with tasks := task :: agent.tasks }).Goes
        (later.bench courier next) := by
  have deed := Deed.of_act acted
  have rests := lull.labour depot.settings
  -- The stages are told apart by the place and by what is asked.
  obtain ⟨site, place⟩ : ∃ site, depot.site = site := ⟨_, rfl⟩
  obtain ⟨asked, whole⟩ : ∃ asked, task :: agent.tasks = asked := ⟨_, rfl⟩
  rw [place, whole] at attended
  cases attended with
  | serving asking =>
    subst whole
    obtain ⟨asked, promise, goes⟩ := asking.ofCaller acted remote returns marked unharmed
      (congrArg Site.orders place) rests
    refine ⟨?_, promise, goes⟩
    cases asked with
    -- What is asked is a chore, a flush or a stop, and the last two are dealt with at the desk.
    | done asking same =>
      rw [same, place]
      exact .serving asking
    | flush early left same =>
      rw [same, place, left]
      exact .ordering
    | stop early timeout left each same =>
      rw [same, place, left]
      exact .taking timeout each
  | ordering =>
    obtain ⟨rfl, left⟩ := List.cons.inj whole
    have alone : depot.orders = [] := congrArg Site.orders place
    -- The courier is on its thread, and the order is given to it.
    cases deed.duty rfl with
    | order =>
      have here : ({ depot with orders := depot.orders ++ [.flush] } : Depot).site =
          { depot.site with orders := depot.site.orders ++ [.flush] } := rfl
      refine ⟨?_, (Agent.promised_of_some rfl).symm, Depot.goes_of_same rfl ?_⟩
      · rw [here, place, Agent.reply, left]
        exact .ordered
      · simp [Agent.labour, Agent.reply, left, alone, Order.labour, Task.labour]
    | orderLost _ _ unheard => simp [← Depot.site_listening, place] at unheard
    | lock _ unemployed | orderNobody _ unemployed =>
      simp [← Depot.site_handle, place] at unemployed
  -- Who has given an order has been answered.
  | ordered => cases whole
  | taking timeout each =>
    obtain ⟨rfl, left⟩ := List.cons.inj whole
    -- The courier is told to stop next, and the desk forgets it.
    cases deed.duty rfl with
    | takeHandle =>
      have here : ({ depot with handle := false } : Depot).site =
          { depot.site with handle := false } := rfl
      refine ⟨?_, ?_, Depot.goes_of_same rfl ?_⟩
      · rw [here, place, Agent.push, left]
        exact .dismissing timeout each
      · exact (Agent.promised_of_some rfl).trans (Agent.promised_of_some rfl).symm
      · simp [Agent.labour_of_first, Task.labour]
    | takeCourier _ _ unemployed | takeNobody _ _ unemployed =>
      simp [← Depot.site_handle, place] at unemployed
  | dismissing timeout each =>
    obtain ⟨rfl, left⟩ := List.cons.inj whole
    have alone : depot.orders = [] := congrArg Site.orders place
    -- The stop is ordered, and the caller waits for the thread from now on.
    cases deed.duty rfl with
    | dismiss =>
      have here : ({ depot with orders := depot.orders ++ [.stop timeout] } : Depot).site =
          { depot.site with orders := depot.site.orders ++ [.stop timeout] } := rfl
      refine ⟨?_, ?_, Depot.goes_of_same rfl ?_⟩
      · rw [here, place, Agent.push, left]
        exact .dismissed timeout timeout depot.now each
      · exact (Agent.promised_of_some rfl).trans (Agent.promised_of_some rfl).symm
      · simp [Agent.labour_of_first, alone, rests, Order.labour, Task.labour]
    | dismissGone _ unheard => simp [← Depot.site_listening, place] at unheard
  | dismissed deadline timeout since each =>
    -- The deadline is not past while the thread runs.
    obtain ⟨rfl, -⟩ := List.cons.inj whole
    have running : depot.thread = .running := congrArg Site.thread place
    exact absurd (deed.overdue running) (Nat.not_le.mpr (soon since timeout rfl running))

/-- Whoever calls while the courier is on its thread goes on with what it has to do. -/
theorem Staffed.ofCaller (staffed : Staffed depot.site courier.tasks (task :: agent.tasks))
    (acted : depot.act agent choice task = some (later, next))
    (remote : depot.settings.isRemote = true) (returns : depot.script.Returns)
    (supplies : depot.script.Supplies)
    (marked : MarkedInside false { agent with tasks := task :: agent.tasks })
    (unharmed : agent.crash = none)
    (soon : ∀ since timeout, task = .join since timeout → depot.thread = .running →
      depot.now < since + timeout.nanos) :
    Staffed later.site courier.tasks next.tasks ∧
      next.promised later.stopped =
        ({ agent with tasks := task :: agent.tasks } : Agent).promised depot.stopped ∧
      (depot.bench courier { agent with tasks := task :: agent.tasks }).Goes
        (later.bench courier next) := by
  have deed := Deed.of_act acted
  -- The stages are told apart by the place, by what is asked and by the work of the courier.
  obtain ⟨site, place⟩ : ∃ site, depot.site = site := ⟨_, rfl⟩
  obtain ⟨asked, whole⟩ : ∃ asked, task :: agent.tasks = asked := ⟨_, rfl⟩
  obtain ⟨work, left⟩ : ∃ work, courier.tasks = work := ⟨_, rfl⟩
  rw [place, whole, left] at staffed
  cases staffed with
  | opening begins =>
    -- Whoever starts looks for a courier, and then has a thread.
    rcases begins with rfl | rfl
    · obtain ⟨rfl, last⟩ := List.cons.inj whole
      cases deed.duty rfl with
      | start early =>
        refine ⟨?_, ?_, Depot.goes_of_same rfl (by rw [Agent.labour_push]; rfl)⟩
        · rw [place, left, Agent.push, last]
          exact .opening (.inr rfl)
        · exact (Agent.promised_of_some rfl).trans (Agent.promised_of_some rfl).symm
      | startLate late => simp [← Depot.site_stopped, place] at late
    · obtain ⟨rfl, last⟩ := List.cons.inj whole
      cases deed.duty rfl with
      | hire =>
        -- A thread can be had, since they are supplied.
        refine ⟨?_, (Agent.promised_of_some rfl).symm, Depot.goes_of_same ?_ ?_⟩
        · have here : (({ depot with
              script := depot.script.nextThread.1
              holder := .thread
              handle := true
              thread := .running } : Depot).enter .waiting).site =
                { depot.site with holder := .thread, handle := true, thread := .running } := rfl
          rw [here, place, left, Agent.reply, last]
          exact .waiting .begin (.serving (.chores .nil))
        · rw [Depot.enter_bare]
          simp [Depot.bare, Script.bare, Script.nextThread]
        · simp [Agent.reply, Agent.labour, last, Task.labour, Task.isWork, Depot.enter, Depot.note]
      | hireLost _ _ _ _ refused => simp [supplies.nextThread] at refused
      | hireNobody _ absent =>
        simp [← Depot.site_handle, ← Depot.site_holder, place] at absent
  | waiting lull attended =>
    -- The courier waits, and the caller has the desk to itself.
    subst left whole place
    obtain ⟨attended, promise, goes⟩ :=
      attended.ofCaller lull acted remote returns marked unharmed soon
    exact ⟨.waiting lull attended, promise, goes⟩
  | flushing each lull => cases whole
  | finishing deadline timeout since each | parting timeout since last each
    | leaving timeout since each =>
    -- The thread still runs, so that nobody stops waiting for it before the deadline.
    obtain ⟨rfl, -⟩ := List.cons.inj whole
    have running : depot.thread = .running := congrArg Site.thread place
    exact absurd (deed.overdue running) (Nat.not_le.mpr (soon since timeout rfl running))
  | joining timeout since each =>
    obtain ⟨rfl, last⟩ := List.cons.inj whole
    -- The thread has come to its end without a crash.
    have ended : depot.thread = .exited := congrArg Site.thread place
    cases deed.duty rfl with
    | join =>
      refine ⟨?_, ?_, Depot.goes_of_same rfl ?_⟩
      · rw [place, left, Agent.push, last]
        exact .gone (.chores ((Chores.conclusion depot).append each))
      · rw [Agent.promised_push_conclusion]
        exact (Agent.promised_of_some rfl).symm
      · rw [Agent.labour_push, Agent.labour_of_first, Depot.conclusion_labour]
        rfl
    | joinCrashed _ _ crashed => simp [ended] at crashed
    | joinOverdue _ _ busy => simp [ended] at busy
  | gone asking =>
    -- The thread is gone, and nothing is left to it.
    subst whole
    have rests : courier.labour depot.settings = [] := by simp [Agent.labour, left]
    obtain ⟨asked, promise, goes⟩ := asking.ofCaller acted remote returns marked unharmed
      (congrArg Site.orders place) rests
    obtain ⟨asking, same⟩ := asked.ofLate (congrArg Site.stopped place)
    rw [same, place, left]
    exact ⟨.gone asking, promise, goes⟩

/-- Without a thread the courier has not begun. -/
theorem Unstaffed.dormant {site : Site} {work tasks : List Task}
    (unstaffed : Unstaffed site work tasks) : work = [.begin, .release, .exit] := by
  cases unstaffed <;> rfl

/-- Without a thread the courier does nothing. -/
theorem Unstaffed.asleep (unstaffed : Unstaffed depot.site courier.tasks caller.tasks)
    (choice : Choice) :
    courier.step choice depot = none := by
  -- In every stage without a thread there is no thread to do anything on.
  have alone : depot.thread = .none := by
    generalize place : depot.site = site at unstaffed
    generalize courier.tasks = work at unstaffed
    generalize caller.tasks = tasks at unstaffed
    cases unstaffed <;> exact congrArg Site.thread place
  simp [Agent.step, unstaffed.dormant, Depot.act, alone]

/-- Whoever calls while the courier has no thread goes on with what it has to do. -/
theorem Unstaffed.ofCaller (unstaffed : Unstaffed depot.site courier.tasks (task :: agent.tasks))
    (acted : depot.act agent choice task = some (later, next))
    (remote : depot.settings.isRemote = true) (returns : depot.script.Returns)
    (marked : MarkedInside false { agent with tasks := task :: agent.tasks })
    (unharmed : agent.crash = none) :
    Unstaffed later.site courier.tasks next.tasks ∧
      next.promised later.stopped =
        ({ agent with tasks := task :: agent.tasks } : Agent).promised depot.stopped ∧
      (depot.bench courier { agent with tasks := task :: agent.tasks }).Goes
        (later.bench courier next) := by
  -- The courier has been given no thread, so that all it has on the bench is what the caller does.
  have deed := Deed.of_act acted
  obtain ⟨site, place⟩ : ∃ site, depot.site = site := ⟨_, rfl⟩
  obtain ⟨asked, whole⟩ : ∃ asked, task :: agent.tasks = asked := ⟨_, rfl⟩
  have dormant := unstaffed.dormant
  have rests : courier.labour depot.settings = [] := by
    rw [Agent.labour, dormant]
    rfl
  rw [dormant] at unstaffed ⊢
  rw [place, whole] at unstaffed
  cases unstaffed with
  | serving asking =>
    -- Nobody has asked for the desk yet.
    subst whole
    obtain ⟨asked, promise, goes⟩ := asking.ofCaller acted remote returns marked unharmed
      (congrArg Site.orders place) rests
    refine ⟨?_, promise, goes⟩
    cases asked with
    -- A chore leads to chores.
    | done asking same =>
      rw [same, place]
      exact .serving asking
    -- A flush that is early goes to the desk.
    | flush early left same =>
      rw [same, place, left]
      exact .ordering
    -- A stop that is the first goes to the desk as well, with chores below it.
    | stop early timeout left each same =>
      rw [same, place, left]
      exact .taking timeout each
  | ordering =>
    obtain ⟨rfl, left⟩ := List.cons.inj whole
    cases deed.duty rfl with
    -- The courier is at the desk, so that the caller locks it and flushes itself.
    | lock =>
      refine ⟨?_, ?_, Depot.goes_of_same (by simp [Depot.bare]) ?_⟩
      · rw [show ({ depot with locked := true } : Depot).site = depot.site from rfl, place,
          Agent.push, left]
        exact .serving (.chores (by simp [Chores, Task.isChore]))
      · simp [Agent.promised, Agent.push, Task.promise?, left]
      · rw [Agent.labour_push, Agent.labour_of_first]
        rfl
    -- There is no courier on a thread, and the one at the desk is there.
    | order _ employed | orderLost _ employed => simp [← Depot.site_handle, place] at employed
    | orderNobody _ _ absent => simp [← Depot.site_holder, place] at absent
  | taking timeout each =>
    obtain ⟨rfl, left⟩ := List.cons.inj whole
    cases deed.duty rfl with
    -- The courier is taken from the desk, and the caller is to finish in its place.
    | takeCourier =>
      have here : ({ depot with holder := .caller } : Depot).site =
          { depot.site with holder := .caller } := rfl
      refine ⟨?_, ?_, Depot.goes_of_same (by simp [Depot.bare]) ?_⟩
      · rw [here, place, Agent.push, left]
        exact .finishing timeout ((Chores.conclusion depot).append each)
      · exact (Agent.promised_push_conclusion depot agent depot.stopped).trans
          (Agent.promised_of_some rfl).symm
      · rw [Agent.labour_push, Agent.labour_of_first, List.flatMap_cons, List.flatMap_cons,
          Depot.conclusion_labour]
        rfl
    | takeHandle _ _ employed => simp [← Depot.site_handle, place] at employed
    | takeNobody _ _ _ absent => simp [← Depot.site_holder, place] at absent
  | finishing deadline each =>
    obtain ⟨rfl, left⟩ := List.cons.inj whole
    cases deed.duty rfl with
    -- The last flush is done as the courier would do it, and then the desk is left.
    | finish =>
      refine ⟨?_, rfl, Depot.goes_of_same (depot.enter_bare _) ?_⟩
      · rw [show (depot.enter .shuttingDown).site = depot.site from rfl, place, Agent.push, left]
        exact @Unstaffed.parting [.enter .finalFlush, .closeQueue _, .enter .stopped] _
          (by simp [Chores, Task.isChore]) each
      · rw [Agent.labour_push, Agent.labour_of_first]
        rfl
  | @parting upper rest last each =>
    cases upper with
    -- With the last flush done nobody has the courier any more.
    | nil =>
      obtain ⟨rfl, left⟩ := List.cons.inj whole
      cases deed.duty rfl with
      | release =>
        have here : depot.release.site =
            { depot.site with holder := .nobody, listening := false, orders := [] } := rfl
        refine ⟨?_, rfl, Depot.goes_of_same depot.release_bare ?_⟩
        · rw [here, place, left]
          exact .gone (.chores each)
        · rw [Agent.labour_of_first, show depot.orders = [] from congrArg Site.orders place]
          rfl
    -- What is left of the last flush are chores, which lead to chores.
    | cons first upper =>
      obtain ⟨rfl, left⟩ : task = first ∧ agent.tasks = upper ++ .release :: rest :=
        List.cons.inj whole
      obtain ⟨⟨pushed, tasks, chores⟩, same, promise⟩ := deed.goesOn last.head remote returns
      refine ⟨?_, promise, ?_⟩
      · rw [same, place, tasks, left, ← List.append_assoc]
        exact .parting (chores.append last.tail) each
      · have alone : depot.orders = [] := congrArg Site.orders place
        exact Depot.goes_caller acted (.inr last.head) marked
          ((deed.unharmed returns).trans unharmed) deed.settings alone
          ((congrArg Site.orders same).trans alone) rests
  | gone asking =>
    -- Whatever is asked after the stop is refused at once or is a chore.
    subst whole
    obtain ⟨asked, promise, goes⟩ := asking.ofCaller acted remote returns marked unharmed
      (congrArg Site.orders place) rests
    obtain ⟨asking, same⟩ := asked.ofLate (congrArg Site.stopped place)
    rw [same, place]
    exact ⟨.gone asking, promise, goes⟩

/-- Whoever can do nothing has to wait before its first task. -/
theorem Agent.hindered {tasks : List Task} (left : agent.tasks = task :: tasks)
    (idle : ∀ choice, agent.step choice depot = none) : depot.hinders task = true := by
  -- Some choice would let it go on if it did not have to wait.
  refine (Bool.eq_false_or_eq_true _).resolve_right fun free => ?_
  obtain ⟨choice, able⟩ := depot.exists_act { agent with tasks } task free
  have stuck := idle choice
  simp only [Agent.step, left] at stuck
  simp [stuck] at able

/-- A courier that waits and can do nothing has been given no order. -/
theorem Lull.orders (lull : Lull agent.tasks) (running : depot.thread = .running)
    (idle : ∀ choice, agent.step choice depot = none) : depot.orders = [] := by
  obtain ⟨tasks, left⟩ : ∃ tasks, agent.tasks = tasks := ⟨_, rfl⟩
  rw [left] at lull
  -- Whatever its first task may be, it waits for something to do it.
  have stuck {task : Task} {rest : List Task} (first : tasks = task :: rest) :=
    Agent.hindered (left.trans first) idle
  cases lull with
  | begin => simpa [Depot.hinders, running] using stuck rfl
  -- It waits for orders, with room in the queue and with time left.
  | select tick wake =>
    have empty := stuck rfl
    simp only [Depot.hinders, Bool.and_eq_true, List.isEmpty_iff] at empty
    exact empty.1.2
  | _ => cases stuck rfl

/-- A chore is not waited for once sends are let go on. -/
theorem Depot.hinders_of_isChore (chore : task.isChore = true) (permitted : depot.permits ≠ 0) :
    depot.hinders task = false := by
  -- Only a send has to be let go on.
  cases task with
  | await => simpa [hinders] using permitted
  | _ => first
    | rfl
    | cases chore

/-- Once the courier on its thread can do nothing, and nobody has called, it can be asked
anything. -/
theorem Staffed.available (staffed : Staffed depot.site courier.tasks [])
    (idle : ∀ choice, courier.step choice { depot with permits := depot.permits + 1 } = none) :
    CourierAvailable Staffed depot courier := by
  -- Whatever the courier has to do first, it waits for something to do it.
  have stuck {task : Task} {tasks : List Task} (first : courier.tasks = task :: tasks) :=
    Agent.hindered first idle
  -- A courier that waits has been given no order, and has not been stopped.
  have waits (lull : Lull courier.tasks) (attended : Attended depot.site []) :
      CourierAvailable Staffed depot courier := by
    -- Nobody has called, so that at most a flush has been ordered, and it would be taken.
    generalize place : depot.site = site at attended
    generalize asked : ([] : List Task) = tasks at attended
    cases attended with
    | serving asking =>
      have early : depot.stopped = false := congrArg Site.stopped place
      refine ⟨fun _ asking => ?_, lull.labour _, congrArg Site.orders place, by simp [early]⟩
      rw [place]
      exact .waiting lull (.serving asking)
    | ordered =>
      have none := lull.orders (show { depot with permits := depot.permits + 1 }.thread = .running
        from congrArg Site.thread place) idle
      have some : depot.orders = [.flush] := congrArg Site.orders place
      simp [some] at none
    | _ => cases asked
  generalize place : depot.site = site at staffed
  generalize left : courier.tasks = work at staffed
  generalize asked : ([] : List Task) = tasks at staffed
  cases staffed with
  | opening begins => rcases begins with rfl | rfl <;> cases asked
  | waiting lull attended =>
    subst left asked place
    exact waits lull attended
  -- What is left of a flush are chores, and they are not waited for.
  | @flushing upper work each lull =>
    cases upper with
    | nil =>
      rw [List.nil_append] at left
      refine waits (left ▸ lull) ?_
      rw [place]
      exact .serving (.chores .nil)
    | cons first upper =>
      have waited := stuck left
      rw [Depot.hinders_of_isChore each.head (by simp)] at waited
      cases waited
  | gone =>
    refine ⟨fun _ asking => ?_, by simp [Agent.labour, left], congrArg Site.orders place,
      fun _ => congrArg Site.holder place⟩
    rw [place, left]
    exact .gone asking
  | _ => cases asked

/-- Once nobody has called, a courier without a thread can be asked anything. -/
theorem Unstaffed.available (unstaffed : Unstaffed depot.site courier.tasks []) :
    CourierAvailable Unstaffed depot courier := by
  -- A courier without a thread has nothing on the bench.
  have rests : courier.labour depot.settings = [] := by
    rw [Agent.labour, unstaffed.dormant]
    rfl
  obtain ⟨tasks, asked⟩ : ∃ tasks : List Task, tasks = [] := ⟨_, rfl⟩
  rw [← asked] at unstaffed
  generalize left : courier.tasks = work at unstaffed
  generalize place : depot.site = site at unstaffed
  -- Nobody has called, so that either nothing has been decided or all has been done.
  cases unstaffed with
  | serving =>
    have early : depot.stopped = false := congrArg Site.stopped place
    refine ⟨fun _ asking => ?_, rests, congrArg Site.orders place, by simp [early]⟩
    rw [place, left]
    exact .serving asking
  | gone =>
    refine ⟨fun _ asking => ?_, rests, congrArg Site.orders place, fun _ =>
      congrArg Site.holder place⟩
    rw [place, left]
    exact .gone asking
  | parting => simp at asked
  | _ => cases asked

end Steps

end LogCourier
