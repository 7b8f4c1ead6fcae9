import LogCourier.Proofs.Depot.Aftermath
import LogCourier.Proofs.Depot.Marking
import LogCourier.Proofs.Depot.Waking

/-!
Exclusion: whatever order calls come in, they never get at the courier twice.

Only one of them starts it, only one of them makes the last flush, and until it is given back it is
in one place: at its desk, on its thread, or with the caller who stops it.
-/

namespace LogCourier

namespace Task

/-- Whether a task makes the last flush or leads to it. -/
def isFinale : Task → Bool
  | .takeOver _ | .dismiss _ | .finish _ | .enter .shuttingDown => true
  | _ => false

/-- Whether a task begins the last flush. -/
def isFinish : Task → Bool
  | .finish _ => true
  | _ => false

end Task

/-- Whether an order is to stop. -/
def Order.isStop : Order → Bool
  | .stop _ => true
  | .flush => false

/-- Whether a send ended. -/
def Occurrence.isEnd : Occurrence → Bool
  | .ended .. => true
  | _ => false

namespace Depot

/-- The last flushes that have been ordered or begun. -/
def finales (depot : Depot) : Nat :=
  depot.orders.countP Order.isStop + depot.journal.count (.entered .shuttingDown)

/-- The sends that have begun. -/
def sendsBegun (depot : Depot) : Nat :=
  (traffic depot.journal).countP Occurrence.isSend

/-- The sends that have ended. -/
def sendsEnded (depot : Depot) : Nat :=
  (traffic depot.journal).countP Occurrence.isEnd

end Depot

/-- Concluding a call leads to no last flush. -/
theorem countP_isFinale_conclusion (depot : Depot) :
    depot.conclusion.countP Task.isFinale = 0 := by
  unfold Depot.conclusion
  cases depot.settings.echo <;> rfl

/-- A last flush is decided upon. -/
theorem Task.isDuty_of_isFinale {task : Task} (finale : task.isFinale = true) :
    task.isDuty = true := by
  cases task <;> first | rfl | cases finale

/-- What decides nothing leads to no last flush. -/
theorem countP_isFinale_eq_zero {tasks : List Task} (none : ∀ task ∈ tasks, task.isDuty = false) :
    tasks.countP Task.isFinale = 0 := by
  -- A last flush is a decision.
  apply List.countP_eq_zero.mpr
  intro task member finale
  exact absurd (Task.isDuty_of_isFinale finale) (by simp [none task member])

/-- Handing in an event neither orders nor begins a last flush. -/
theorem Intake.finales {depot after : Depot} {agent next : Agent} {task : Task}
    (deed : Intake depot agent task after next) : after.finales = depot.finales := by
  cases deed <;> simp [Depot.finales, Depot.note, Depot.count, Depot.tell]

/-- Delivering a batch neither orders nor begins a last flush. -/
theorem Delivery.finales {depot after : Depot} {agent next : Agent} {task : Task}
    (deed : Delivery depot agent task after next) : after.finales = depot.finales := by
  cases deed <;> simp [Depot.finales, Depot.note, Depot.enter]

/-- A decision begins only a last flush that was to come, unless it is the first one to stop. -/
theorem Duty.finales {depot after : Depot} {agent next : Agent} {task : Task}
    (deed : Duty depot agent task after next) :
    after.finales + next.tasks.countP Task.isFinale + depot.stopped.toNat ≤
      depot.finales + (task :: agent.tasks).countP Task.isFinale + after.stopped.toNat := by
  -- Each of them is passed on from the caller over the orders to whoever makes it.
  have concluded := countP_isFinale_conclusion depot
  cases deed with
  | enter phase =>
    -- Only the entry into the shutdown is itself one of them.
    cases phase <;> simp [Depot.finales, Depot.enter, Depot.note, Task.isFinale, List.countP_cons]
    omega
  | stop timeout first =>
    simp [Depot.finales, Agent.push, Task.isFinale, List.countP_cons, first]
    omega
  | stopAgain timeout late => simp [Depot.finales, Agent.reply, Task.isFinale, late]
  | takeStop tick wake deadline orders ordered =>
    simp [Depot.finales, Agent.push, Task.isFinale, List.countP_cons, ordered, Order.isStop]
    omega
  | takeFlush tick wake orders ordered =>
    simp [Depot.finales, Agent.push, Task.isFinale, ordered, Order.isStop]
  | release => simp [Depot.finales, Depot.release, Task.isFinale]
  | hireLost =>
    simp [Depot.finales, Depot.lose, Depot.release, Depot.enter, Depot.tell, Depot.note,
      Agent.reply,
      Task.isFinale]
  | reportLosses =>
    unfold Depot.reportLosses
    split <;> simp [Depot.finales, Depot.tell, Depot.note, Task.isFinale]
  | _ =>
    simp [Depot.finales, Depot.enter, Depot.note, Depot.tell, Agent.push, Agent.reply,
      Task.isFinale, List.countP_cons, Order.isStop, concluded]
    try omega

/-- Whatever is done, a last flush begins only if it was to come, or if somebody stops first. -/
theorem Deed.finales {depot after : Depot} {agent next : Agent} {task : Task}
    (deed : Deed depot agent task after next) :
    after.finales + next.tasks.countP Task.isFinale + depot.stopped.toNat ≤
      depot.finales + (task :: agent.tasks).countP Task.isFinale + after.stopped.toNat := by
  -- Handing in and delivering lead to no last flush, and giving up only drops tasks.
  have below : agent.tasks.countP Task.isFinale ≤ (task :: agent.tasks).countP Task.isFinale :=
    (List.sublist_cons_self task agent.tasks).countP_le
  rcases deed with intake | delivery | duty
  · obtain ⟨pushed, same, _, inside⟩ := intake.pushes
    have none : pushed.countP Task.isFinale = 0 :=
      countP_isFinale_eq_zero fun new member => by simp [Task.isDuty, inside new member]
    rw [intake.finales, intake.sameCharge.stopped, same, List.countP_append, none]
    omega
  · rw [delivery.finales, delivery.sameCharge.stopped]
    rcases delivery.pushes with ⟨pushed, same, _, _, _, kept⟩ | ⟨crash, rfl⟩
    · have none : pushed.countP Task.isFinale = 0 :=
        countP_isFinale_eq_zero fun new member => (kept new member).1
      rw [same, List.countP_append, none]
      omega
    · have dropped : (agent.unwind crash).tasks.countP Task.isFinale ≤
          agent.tasks.countP Task.isFinale := List.filter_sublist.countP_le
      omega
  · exact duty.finales

/-- One last flush at most is ordered, made or to come, and none before somebody stops. -/
theorem Turn.finales {world next : World} (turn : Turn world next)
    (once : world.depot.finales + world.tasks.countP Task.isFinale ≤ world.depot.stopped.toNat) :
    next.depot.finales + next.tasks.countP Task.isFinale ≤ next.depot.stopped.toNat := by
  -- A call and what lies outside add none, and a step adds one only together with the stop.
  cases turn with
  | act left right agent after task split joined deed =>
    have step := deed.finales
    rw [World.tasks_of_split split] at once
    rw [World.tasks_of_split joined]
    simp only [List.countP_append] at once ⊢
    omega
  | call call same joined =>
    have none : (call.tasks world.depot.settings).countP Task.isFinale = 0 := by
      cases call <;> rfl
    have after : next.tasks = world.tasks ++ call.tasks world.depot.settings :=
      World.tasks_of_joined joined
    rw [same, after, List.countP_append, none]
    exact once
  | outside now wall permits elsewhere same =>
    have after : next.tasks = world.tasks := by simp [World.tasks, same]
    rw [elsewhere, after]
    exact once

/-- As many sends have begun as have ended or are still to end. -/
theorem Move.sends {before after : Depot} {old new : List Task} (move : Move before after old new) :
    ∃ news, traffic after.journal = traffic before.journal ++ news ∧
      news.countP Occurrence.isSend + old.countP Task.endsSend =
        news.countP Occurrence.isEnd + new.countP Task.endsSend := by
  -- A send begins with its end to come, and ends with it done.
  cases move with
  | still told => exact ⟨[], by simpa using told, rfl⟩
  | submit _ told => exact ⟨_, told, rfl⟩
  | turnAway _ _ told => exact ⟨_, told, rfl⟩
  | offer _ _ told => exact ⟨[], by simpa using told, rfl⟩
  | refuse _ _ _ told => exact ⟨_, told, rfl⟩
  | enter _ _ told => exact ⟨_, told, rfl⟩
  | shift _ _ _ _ _ told => exact ⟨_, told, rfl⟩
  | drain _ told => exact ⟨[], by simpa using told, rfl⟩
  | send _ _ _ _ told => exact ⟨_, told, rfl⟩
  | deliver _ _ told => exact ⟨_, told, rfl⟩
  | fail _ _ _ _ told => exact ⟨_, told, rfl⟩
  | count _ told => exact ⟨[], by simpa using told, rfl⟩

namespace World

/-- The sends that have yet to end. -/
def sending (world : World) : Nat :=
  world.tasks.countP Task.endsSend

/-- Ends of sends are cargo. -/
theorem countP_endsSend_cargo (world : World) :
    (cargo world.tasks).countP Task.endsSend = world.sending := by
  -- Of the tasks that end a send all are cargo.
  rw [sending, cargo, List.countP_filter]
  refine List.countP_congr fun task _ => ?_
  cases task <;> simp [Task.endsSend, Task.isCargo]

end World

/-- A turn leaves every send that has begun ended or in progress. -/
theorem Turn.sends {world next : World} (turn : Turn world next) (core : CoreInvariant world)
    (tracked : world.depot.sendsBegun = world.depot.sendsEnded + world.sending) :
    next.depot.sendsBegun = next.depot.sendsEnded + next.sending := by
  -- The move of the turn says what is told, and which tasks come and go.
  obtain ⟨old, new, upper, lower, move, took, put, _⟩ := turn.move core.custody core.sound
  obtain ⟨news, told, step⟩ := move.sends
  rw [← World.countP_endsSend_cargo, took] at tracked
  rw [← World.countP_endsSend_cargo, put]
  simp only [Depot.sendsBegun, Depot.sendsEnded, told, List.countP_append] at tracked ⊢
  omega

/-- A call to start the courier, and how far it has come. -/
inductive Starting (depot : Depot) (agent : Agent) : Prop where
  | begin (left : agent.tasks = [.start]) (silent : agent.answer = none)
  | hire (left : agent.tasks = [.hire]) (silent : agent.answer = none)
  | refused (done : agent.tasks = []) (answer : agent.answer = some false)
  | started (done : agent.tasks = []) (answer : agent.answer = some true)
      (thread : depot.thread ≠ .none)

namespace Starting

variable {before later : Depot} {agent next : Agent} {task : Task}

/-- A call that has been answered with yes has asked for a thread for the courier. -/
theorem thread (starting : Starting before agent) (answered : agent.answer = some true) :
    before.thread ≠ .none := by
  -- Up to the answer the call is silent, and a refusal answers no.
  cases starting with
  | begin _ silent => simp [silent] at answered
  | hire _ silent => simp [silent] at answered
  | refused _ answer => simp [answer] at answered
  | started _ _ thread => exact thread

/-- Whatever others do, the call has come as far as before. -/
theorem other (starting : Starting before agent)
    (kept : before.thread ≠ .none → later.thread ≠ .none) : Starting later agent := by
  -- Only the last stage says anything of the thread.
  cases starting with
  | begin left silent => exact .begin left silent
  | hire left silent => exact .hire left silent
  | refused done answer => exact .refused done answer
  | started done answer thread => exact .started done answer (kept thread)

/-- A step of the call leads on, and to yes only where the courier was at its desk. -/
theorem after (starting : Starting before { agent with tasks := task :: agent.tasks })
    (deed : Deed before agent task later next) :
    Starting later next ∧ (next.answer = some true → before.holder = .desk) := by
  -- There are only two steps to take.
  cases starting with
  | begin left silent =>
    obtain ⟨rfl, done⟩ := List.cons.inj left
    rcases deed with intake | delivery | duty
    · cases intake
    · cases delivery
    · cases duty with
      | start => exact ⟨.hire (by simp [Agent.push, done]) silent, by simp [Agent.push, silent]⟩
      | startLate => exact ⟨.refused done rfl, by simp [Agent.reply]⟩
  | hire left silent =>
    obtain ⟨rfl, done⟩ := List.cons.inj left
    rcases deed with intake | delivery | duty
    · cases intake
    · cases delivery
    · cases duty with
      | hire _ _ ready =>
        exact ⟨.started done rfl (by simp [Depot.enter, Depot.note]), fun _ => ready⟩
      | hireLost => exact ⟨.refused done rfl, by simp [Agent.reply]⟩
      | hireNobody => exact ⟨.refused done rfl, by simp [Agent.reply]⟩
  | refused done => simp at done
  | started done => simp at done

end Starting

/-- A turn never takes the thread of the courier back. -/
theorem Turn.thread {world next : World} (turn : Turn world next)
    (begun : world.depot.thread ≠ .none) : next.depot.thread ≠ .none :=
  turn.preserves (·.thread ≠ .none) (fun _ _ _ => begun)
    fun _ deed none => begun (deed.thread none)

namespace World

/-- The caller at a place has called to start the courier, and has come to an answer. -/
def Starts (world : World) (place : Nat) (answer : Option Bool) : Prop :=
  ∃ caller, world.callers[place]? = some caller ∧ Starting world.depot caller ∧
    caller.answer = answer

/-- Whoever calls to start the courier has no answer yet. -/
theorem starts_called (world : World) :
    (world.called .start).Starts world.callers.length none :=
  ⟨.ofTasks [.start], by simp [called, Call.tasks], .begin rfl rfl, rfl⟩

/-- A call to start the courier goes on by itself, or changes nothing; in a turn only one of them
gets another answer, and yes only if the courier was at its desk. -/
theorem Starts.turn {world next : World} (turn : Turn world next) :
    ∃ acting : Nat, ∀ place answer, world.Starts place answer →
      ∃ later, next.Starts place later ∧ (later = answer ∨
        place + 1 = acting ∧ (later = some true → world.depot.holder = .desk)) := by
  -- The courier stands before all callers.
  obtain ⟨acting, each⟩ := turn.acting
  refine ⟨acting, ?_⟩
  rintro place answer ⟨caller, there, starting, rfl⟩
  obtain ⟨after, there', rfl | ⟨here, task, rest, rfl, deed⟩⟩ := each (place + 1) caller there
  · exact ⟨_, ⟨after, there', starting.other turn.thread, rfl⟩, .inl rfl⟩
  · obtain ⟨onward, ready⟩ := starting.after deed
    exact ⟨_, ⟨after, there', onward, rfl⟩, .inr ⟨here, ready⟩⟩

/-- A call to start the courier keeps its place, however long it takes. -/
theorem Starts.reachable {world later : World} (run : Reachable world later) {place : Nat}
    {answer : Option Bool} (starts : world.Starts place answer) :
    ∃ now, later.Starts place now := by
  -- Induction on the run.
  induction run with
  | refl => exact ⟨answer, starts⟩
  | step _ change ih =>
    obtain ⟨now, starts⟩ := ih
    obtain ⟨_, each⟩ := Starts.turn change.turn
    obtain ⟨next, starts, _⟩ := each place now starts
    exact ⟨next, starts⟩

/-- Two calls to start the courier of which at most one is answered with yes. -/
def Rivals (world : World) (first second : Nat) : Prop :=
  ∃ one two, world.Starts first one ∧ world.Starts second two ∧
    ¬ (one = some true ∧ two = some true)

/-- In a turn only one of two calls to start gets an answer, and no second one says yes. -/
theorem Rivals.turn {world next : World} (turn : Turn world next) (custody : Custody world)
    {first second : Nat} (apart : first ≠ second) (rivals : world.Rivals first second) :
    next.Rivals first second := by
  -- A yes needs the courier at its desk, and where there has been one it is on its thread.
  obtain ⟨one, two, starts, starts', distinct⟩ := rivals
  obtain ⟨acting, each⟩ := Starts.turn turn
  have exclusive {place : Nat} (yes : world.Starts place (some true)) :
      world.depot.holder ≠ .desk := by
    obtain ⟨_, _, starting, answered⟩ := yes
    intro ready
    exact starting.thread answered (custody.post.of_desk ready).2.2.1
  obtain ⟨one', later, onward⟩ := each first one starts
  obtain ⟨two', later', onward'⟩ := each second two starts'
  refine ⟨one', two', later, later', ?_⟩
  rintro ⟨rfl, rfl⟩
  rcases onward with rfl | ⟨here, ready⟩
  · rcases onward' with rfl | ⟨here', ready'⟩
    · exact distinct ⟨rfl, rfl⟩
    · exact exclusive starts (ready' rfl)
  · rcases onward' with rfl | ⟨here', ready'⟩
    · exact exclusive starts' (ready rfl)
    · omega

/-- Of two calls to start the courier at most one is ever answered with yes. -/
theorem Rivals.reachable {world later : World} (core : CoreInvariant world)
    (run : Reachable world later) {first second : Nat} (apart : first ≠ second)
    (rivals : world.Rivals first second) : later.Rivals first second :=
  core.induction (Rivals · first second) rivals
    (fun core rivals turn => rivals.turn turn core.custody apart) run

/-- A world only ever gains callers. -/
theorem callers_length_le {world later : World} (run : Reachable world later) :
    world.callers.length ≤ later.callers.length := by
  -- A step replaces a caller by another one, and a call adds one.
  induction run with
  | refl => exact Nat.le_refl _
  | step _ change ih =>
    cases change with
    | call => simp; omega
    | caller => simpa using ih
    | _ => exact ih

/-- Of any two calls to start the courier at most one is answered with yes. -/
theorem rivals_of_calls {earlier between later : World} (core : CoreInvariant earlier)
    (first : Reachable (earlier.called .start) between)
    (second : Reachable (between.called .start) later) :
    later.Rivals earlier.callers.length between.callers.length := by
  -- The second one comes without an answer, and behind the first one.
  have reached : Reachable earlier between := (Reachable.refl.step (.call _ _)).trans first
  obtain ⟨answer, starts⟩ := Starts.reachable first earlier.starts_called
  have longer := callers_length_le first
  have apart : earlier.callers.length ≠ between.callers.length := by
    simp [called] at longer
    omega
  have called : Turn between (between.called .start) := (Step.call between .start).turn
  obtain ⟨_, each⟩ := Starts.turn called
  obtain ⟨now, starts, _⟩ := each _ _ starts
  refine Rivals.reachable ((core.reachable reached).step (.call between .start)) second apart ?_
  exact ⟨now, none, starts, between.starts_called, by simp⟩

end World

/-- There is nothing at the desk any more, neither the courier nor a handle of its thread. -/
def Depot.Cleared (depot : Depot) : Prop :=
  depot.handle = false ∧ depot.holder ≠ .desk

/-- A desk that has been cleared stays so, and nobody comes to a thread from it. -/
theorem Deed.cleared {depot after : Depot} {agent next : Agent} {task : Task}
    (deed : Deed depot agent task after next) (cleared : depot.Cleared) :
    after.Cleared ∧ (after.thread = .running → depot.thread = .running) := by
  -- A thread is hired from the desk only.
  obtain ⟨spare, absent⟩ := cleared
  have carry (same : SameCharge depot after) :
      after.Cleared ∧ (after.thread = .running → depot.thread = .running) := by
    refine ⟨⟨?_, ?_⟩, ?_⟩
    · rw [same.handle, spare]
    · rw [same.holder]; exact absent
    · rw [same.thread]; exact id
  rcases deed with intake | delivery | duty
  · exact carry intake.sameCharge
  · exact carry delivery.sameCharge
  · cases duty with
    | hire _ _ ready => exact absurd ready absent
    | hireLost _ _ _ ready => exact absurd ready absent
    | lock _ _ ready => exact absurd ready absent
    | takeCourier _ _ _ ready => exact absurd ready absent
    | takeHandle _ _ employed => simp [spare] at employed
    | release => exact ⟨⟨spare, by simp [Depot.release]⟩, id⟩
    | exit thread ended =>
      refine ⟨⟨spare, absent⟩, fun running => ?_⟩
      subst ended
      simp only at running
      split at running <;> cases running
    | reportLosses => exact carry depot.sameCharge_reportLosses
    | unlock => exact ⟨⟨spare, absent⟩, id⟩
    | stop => exact ⟨⟨spare, absent⟩, id⟩
    | stopAgain => exact ⟨⟨spare, absent⟩, id⟩
    | _ => exact carry (by constructor <;> rfl)

/-- A desk that has been cleared stays so in every turn, and nobody comes to a thread from it. -/
theorem Turn.cleared {world next : World} (turn : Turn world next)
    (cleared : world.depot.Cleared) :
    next.depot.Cleared ∧ (next.depot.thread = .running → world.depot.thread = .running) :=
  turn.preserves
    (fun depot => depot.Cleared ∧ (depot.thread = .running → world.depot.thread = .running))
    (fun _ _ _ => ⟨cleared, id⟩) fun _ deed => deed.cleared cleared

namespace World

/-- The courier comes to its thread. -/
def Hires (world next : World) : Prop :=
  world.depot.thread ≠ .running ∧ next.depot.thread = .running

/-- The caller at a place has yet to clear the desk, or has done so. -/
def Clears (world : World) (place : Nat) : Prop :=
  world.depot.Cleared ∨ ∃ caller timeout rest, world.callers[place]? = some caller ∧
    caller.tasks = .takeOver timeout :: rest

/-- Whoever stops the courier first has yet to clear the desk. -/
theorem StopsFirst.clears {place : Nat} {world next : World}
    (stops : StopsFirst place world next) : next.Clears place := by
  -- The stop leads on to taking over, which clears the desk.
  cases stops with
  | @caller courier left right before after agent caller choice timeout rest begins first acted =>
    obtain ⟨task, below, rfl, deed⟩ := Agent.deed_of_step acted
    obtain ⟨rfl, rfl⟩ := List.cons.inj begins
    rcases deed with intake | delivery | duty
    · cases intake
    · cases delivery
    · cases duty with
      | stop => exact .inr ⟨below.push [.takeOver timeout], timeout, below.tasks, by simp, rfl⟩
      | stopAgain _ late => simp [first] at late

/-- The caller goes on to clear the desk. -/
theorem Clears.turn {world next : World} (turn : Turn world next) (custody : Custody world)
    {place : Nat} (clears : world.Clears place) : next.Clears place := by
  -- It takes the handle, or the courier; without either there was nothing there.
  rcases clears with cleared | ⟨caller, timeout, rest, there, left⟩
  · exact .inl (turn.cleared cleared).1
  · obtain ⟨after, there', rfl | ⟨task, below, rfl, deed⟩⟩ := turn.caller_at_place there
    · exact .inr ⟨after, timeout, rest, there', left⟩
    · obtain ⟨rfl, _⟩ := List.cons.inj left
      left
      rcases deed with intake | delivery | duty
      · cases intake
      · cases delivery
      · generalize next.depot = depot at duty
        cases duty with
        | takeHandle _ _ employed =>
          refine ⟨rfl, fun ready => ?_⟩
          simp [(custody.post.of_desk ready).1] at employed
        | takeCourier _ _ unemployed => exact ⟨unemployed, by simp⟩
        | takeNobody _ _ unemployed absent => exact ⟨unemployed, absent⟩

/-- Once the call that stops the courier first has cleared the desk, it stays cleared. -/
theorem StopsFirst.cleared {place : Nat} {earlier next through : World}
    (core : CoreInvariant earlier) (stops : StopsFirst place earlier next)
    (wait : Reachable next through) {caller : Agent}
    (there : through.callers[place]? = some caller)
    (past : ∀ timeout, .takeOver timeout ∉ caller.tasks) : through.depot.Cleared := by
  have clears := (core.step stops.step).induction (Clears · place) stops.clears
    (fun core clears turn => clears.turn turn core.custody) wait
  rcases clears with cleared | ⟨other, timeout, rest, there', left⟩
  · exact cleared
  · -- The caller at the place would have yet to clear it.
    obtain rfl := Option.some.inj (there.symm.trans there')
    exact absurd (by simp [left]) (past timeout)

end World

namespace Agent

/-- Whether an agent has yet to give the courier back for good. -/
def keeps (agent : Agent) : Bool :=
  agent.tasks.contains .release

end Agent

/-- How many places the courier is in: its desk, its thread, and callers who have taken it. -/
def World.whereabouts (world : World) : Nat :=
  (decide (world.depot.holder = .desk)).toNat +
    (decide (world.depot.thread = .running) && world.courier.keeps).toNat +
      world.callers.countP Agent.keeps

/-- Whoever keeps the courier has it to give back among its decisions. -/
theorem Agent.keeps_iff {agent : Agent} :
    agent.keeps = true ↔ 0 < (duties agent.tasks).count .release := by
  rw [keeps, List.contains_iff_mem, List.count_pos_iff, duties, List.mem_filter]
  exact ⟨fun member => ⟨member, rfl⟩, And.left⟩

/-- Where the courier is to be given back at most once, so many callers keep it. -/
theorem countP_keeps {callers : List Agent}
    (once : (callers.flatMap fun caller => duties caller.tasks).count .release ≤ 1) :
    callers.countP Agent.keeps =
      (callers.flatMap fun caller => duties caller.tasks).count .release := by
  -- Caller by caller: nobody has it to give back twice.
  induction callers with
  | nil => rfl
  | cons caller rest ih =>
    rw [List.flatMap_cons, List.count_append] at once ⊢
    rw [List.countP_cons, ih (by omega)]
    by_cases keeps : caller.keeps = true
    · have some := Agent.keeps_iff.mp keeps
      simp only [keeps, if_true]
      omega
    · have none : ¬ 0 < (duties caller.tasks).count .release := fun some =>
        keeps (Agent.keeps_iff.mpr some)
      simp only [keeps, Bool.false_eq_true, if_false]
      omega

namespace Custody

variable {world : World}

/-- Until it is given back the courier is in exactly one place. -/
theorem whereabouts (custody : Custody world) :
    world.whereabouts = world.depot.listening.toNat := by
  -- Callers keep it exactly while it is lent.
  have lent := custody.loans
  have callers : world.callers.countP Agent.keeps = world.depot.lent := by
    rw [← lent]
    apply countP_keeps
    change world.decisions.count .release ≤ 1
    rw [lent]
    exact Bool.toNat_le _
  unfold World.whereabouts
  rw [callers, Depot.lent]
  cases custody.post with
  | desk holder _ heard thread => simp [holder, heard, thread]
  | working holder _ heard thread upper bound =>
    simp [holder, heard, thread, Agent.keeps, bound]
  | lent holder _ _ heard thread => simp [holder, heard, thread]
  | returned holder _ _ unheard thread | lost holder _ _ unheard thread =>
    simp [holder, unheard, thread]
  | leaving holder _ unheard thread bound =>
    simp [holder, unheard, Agent.keeps, bound]
  | gone holder _ unheard thread done =>
    simp [holder, unheard, Agent.keeps, done]

/-- Only whoever keeps the courier runs its errands, or who has it by the lock of its desk. -/
theorem keeps_of_isErrand (custody : Custody world) {agent : Agent}
    (member : agent ∈ world.agents) {task : Task} (below : task ∈ agent.tasks)
    (errand : task.isErrand = true) :
    agent.keeps = true ∨
      .unlock ∈ agent.tasks ∧ world.depot.locked = true ∧ world.depot.holder = .desk := by
  -- Below the errand the courier is given back, for good or by opening the lock.
  obtain ⟨guard, has, gives⟩ := (custody.orderly_of_mem member).2.guarded below errand
  cases guard with
  | release => exact .inl (by simpa [Agent.keeps] using has)
  | unlock =>
    rcases List.mem_cons.mp member with rfl | member
    · -- The courier on its thread has no lock to open.
      have dormant (same : world.courier = .courier) : world.courier.keeps = true := by
        rw [same]; rfl
      left
      cases custody.post with
      | desk _ _ _ _ same | lent _ _ _ _ _ same | returned _ _ _ _ _ same
      | lost _ _ _ _ _ same => exact dormant same
      | working _ _ _ _ upper bound => simp [Agent.keeps, bound]
      | leaving _ _ _ _ bound => simp [bound] at has
      | gone _ _ _ _ done => simp [done] at has
    · have locked := custody.locked_of_unlock member has
      exact .inr ⟨has, locked, custody.post.holder_of_locked locked⟩
  | _ => cases gives

end Custody

/-- A courier that has been given back never listens again. -/
theorem Deed.listening {depot after : Depot} {agent next : Agent} {task : Task}
    (deed : Deed depot agent task after next) (unheard : depot.listening = false) :
    after.listening = false := by
  -- Only giving the courier back changes whether it listens, and then it does not.
  rcases deed with intake | delivery | duty
  · rw [intake.sameCharge.listening, unheard]
  · rw [delivery.sameCharge.listening, unheard]
  · cases duty with
    | release => rfl
    | hireLost => rfl
    | reportLosses => rw [depot.sameCharge_reportLosses.listening, unheard]
    | _ => exact unheard

/-- No turn brings back a courier that has been given back. -/
theorem Turn.listening {world next : World} (turn : Turn world next)
    (unheard : world.depot.listening = false) : next.depot.listening = false :=
  turn.preserves (·.listening = false) (fun _ _ _ => unheard) fun _ deed => deed.listening unheard

/-- What calls never do to the courier, whatever order they come in. -/
structure Exclusive (start world : World) : Prop where
  /-- At most one send has begun and not ended. -/
  sends : world.depot.sendsBegun = world.depot.sendsEnded + world.sending ∧ world.sending ≤ 1
  /-- Of any two calls to start the courier at most one is answered with yes. -/
  starts : ∀ earlier between, World.Reachable start earlier →
    World.Reachable (earlier.called .start) between →
      World.Reachable (between.called .start) world → ∀ first second,
        world.callers[earlier.callers.length]? = some first →
          world.callers[between.callers.length]? = some second →
            ¬ (first.answer = some true ∧ second.answer = some true)
  /-- The last flush has been begun at most once; if somebody has it to begin, it has not been. -/
  finishes : world.depot.journal.count (.entered .shuttingDown) +
    world.tasks.countP Task.isFinish ≤ 1
  /-- Once the call that stops the courier first has been through the lock of its desk, the courier
  does not come to a thread any more. -/
  spawns : ∀ place earlier next through caller, World.Reachable start earlier →
    World.StopsFirst place earlier next → World.Reachable next through →
      through.callers[place]? = some caller → (∀ timeout, .takeOver timeout ∉ caller.tasks) →
        World.Reachable through world → ∀ after, World.Step world after → ¬ World.Hires world after
  /-- Until it is given back, for good, the courier is at its desk, on its thread, or with one
  caller. -/
  owners : world.whereabouts = world.depot.listening.toNat ∧ (world.depot.listening = false →
    ∀ after, World.Step world after → after.depot.listening = false)
  /-- Only whoever has it runs its errands: for good, or by the lock of its desk. -/
  errands : ∀ agent ∈ world.agents, ∀ task ∈ agent.tasks, task.isErrand = true →
    agent.keeps = true ∨
      .unlock ∈ agent.tasks ∧ world.depot.locked = true ∧ world.depot.holder = .desk

namespace World

/-- The last flush is begun at most once. -/
theorem finishes_le_one {world : World}
    (once : world.depot.finales + world.tasks.countP Task.isFinale ≤ world.depot.stopped.toNat) :
    world.depot.journal.count (.entered .shuttingDown) +
      world.tasks.countP Task.isFinish ≤ 1 := by
  -- Whoever begins it is among those who make it.
  have among : world.tasks.countP Task.isFinish ≤ world.tasks.countP Task.isFinale := by
    apply List.countP_mono_left
    intro task _ finish
    cases task <;> first | rfl | cases finish
  have bound := Bool.toNat_le world.depot.stopped
  unfold Depot.finales at once
  omega

end World

/-- In every world that comes about with an endpoint, whatever order the steps of all calls come in:
at most one send is in progress, at most one call to start is answered with yes, the last flush is
begun at most once, nobody brings the courier to a thread after the call that stops it first has
been through the lock, and until it is given back the courier is in exactly one place. -/
theorem lifecycle_exclusive {settings : Settings} (remote : settings.isRemote = true)
    {threshold : Threshold} {transportName sinkName : String} {wall : Timestamp}
    {script : Script} {world : World}
    (run : World.Reachable
      (.initial (.create settings threshold transportName sinkName wall script)) world) :
    Exclusive (.initial (.create settings threshold transportName sinkName wall script)) world := by
  -- All of it is kept by every turn of a world with the core invariant.
  have start : CoreInvariant
      (.initial (.create settings threshold transportName sinkName wall script)) :=
    .initial remote ..
  have core := start.reachable run
  have custody := core.custody
  have finales := start.induction
    (fun world => world.depot.finales + world.tasks.countP Task.isFinale ≤
      world.depot.stopped.toNat)
    (Nat.le_refl 0) (fun _ once turn => turn.finales once) run
  have tracked := start.induction
    (fun world => world.depot.sendsBegun = world.depot.sendsEnded + world.sending)
    rfl (fun core tracked turn => turn.sends core tracked) run
  refine ⟨⟨tracked, ?_⟩, ?_, World.finishes_le_one finales, ?_, ⟨custody.whereabouts, ?_⟩, ?_⟩
  · -- Whoever has a send to end has a batch.
    refine Nat.le_trans ?_ (EventsAccounted.reachable remote run).single_batch
    apply List.countP_mono_left
    intro task _ ends
    cases task <;> first | rfl | cases ends
  · intro earlier between before first second one two there there' both
    obtain ⟨_, _, ⟨_, same, _, rfl⟩, ⟨_, same', _, rfl⟩, distinct⟩ :=
      World.rivals_of_calls (start.reachable before) first second
    cases there.symm.trans same
    cases there'.symm.trans same'
    exact distinct both
  · intro place earlier next through caller before stops wait there past on after change hires
    have cleared := stops.cleared (start.reachable before) wait there past
    have beyond := start.reachable ((before.step stops.step).trans wait)
    have still := beyond.induction (fun world => world.depot.Cleared) cleared
      (fun _ cleared turn => (turn.cleared cleared).1) on
    exact hires.1 ((change.turn.cleared still).2 hires.2)
  · exact fun unheard after change => change.turn.listening unheard
  · exact fun agent member task below errand => custody.keeps_of_isErrand member below errand

/-- A world in which the courier was started twice and stopped twice. -/
def World.hired : World :=
  afterCalls .smooth
    [.start, .submit default, .start, .flush, .submit default, .stop (.ofSeconds 5),
      .stop (.ofSeconds 5)]

/-- One start and both stops are answered with yes; there were two sends and one last flush. -/
theorem lifecycle_exclusive_hired :
    World.hired.callers.map Agent.answer =
        [some true, none, some false, some true, none, some true, some true] ∧
      World.hired.depot.sendsBegun = 2 ∧
        World.hired.depot.journal.count (.entered .shuttingDown) = 1 ∧
          Exclusive (.initial (.plain .smooth)) World.hired :=
  ⟨by decide +kernel, by decide +kernel, by decide +kernel,
    lifecycle_exclusive rfl (World.reachable_afterCalls _ _)⟩

end LogCourier
