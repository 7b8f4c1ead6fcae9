import LogCourier.Proofs.Depot.Handover
import LogCourier.Proofs.Depot.Sealing

/-!
Shutdown: once the call that stops the courier first has answered that it did, nothing moves again.

That call answers so only after the courier is gone with all sealed, be it that the call itself made
the last flush, or that the thread did and ended.
-/

namespace LogCourier

/-- What holds of all agents holds on, if steps keep it and it holds of whoever calls. -/
theorem Turn.each {world next : World} (turn : Turn world next) {motive : Agent → Prop}
    (all : ∀ agent ∈ world.agents, motive agent)
    (acts : ∀ (agent after : Agent) (task : Task),
      { agent with tasks := task :: agent.tasks } ∈ world.agents →
        motive { agent with tasks := task :: agent.tasks } →
          Deed world.depot agent task next.depot after → motive after)
    (calls : ∀ (settings : Settings) (call : Call), motive (.ofTasks (call.tasks settings))) :
    ∀ agent ∈ next.agents, motive agent := by
  -- Whoever acts is among the agents before, and whoever calls comes last.
  intro other among
  cases turn with
  | act left right agent after task split joined deed =>
    have member := Custody.agent_mem split
    rw [joined] at among
    rcases List.mem_append.mp among with among | among
    · exact all other (by rw [split]; exact List.mem_append_left _ among)
    · rcases List.mem_cons.mp among with rfl | among
      · -- It is the one who acts.
        exact acts _ _ _ member (all _ member) deed
      · refine all other ?_
        rw [split]
        exact List.mem_append_right _ (List.mem_cons_of_mem _ among)
  | call call same joined =>
    rw [joined] at among
    rcases List.mem_append.mp among with among | among
    · exact all other among
    · rw [List.mem_singleton.mp among]
      exact calls _ call
  | outside _ _ _ _ same =>
    rw [same] at among
    exact all other among

/-- Everybody keeps its place in a turn, and at most one of them does its first task. -/
theorem Turn.acting {world next : World} (turn : Turn world next) :
    ∃ acting : Nat, ∀ (place : Nat) (agent : Agent), world.agents[place]? = some agent →
      ∃ after, next.agents[place]? = some after ∧ (after = agent ∨ place = acting ∧
        ∃ (task : Task) (rest : Agent), agent = { rest with tasks := task :: rest.tasks } ∧
          Deed world.depot rest task next.depot after) := by
  -- A step changes the agent at one place, and a call adds one behind all.
  cases turn with
  | act left right rest after task split joined deed =>
    refine ⟨left.length, fun place agent there => ?_⟩
    rw [split] at there
    rw [joined]
    rcases Nat.lt_trichotomy place left.length with before | same | behind
    · rw [List.getElem?_append_left before] at there ⊢
      exact ⟨agent, there, .inl rfl⟩
    · subst same
      simp at there
      exact ⟨after, by simp, .inr ⟨rfl, task, rest, there.symm, deed⟩⟩
    · refine ⟨agent, ?_, .inl rfl⟩
      rw [List.getElem?_append_right (Nat.le_of_lt behind)] at there ⊢
      obtain ⟨distance, rfl⟩ := Nat.exists_eq_add_of_lt behind
      simpa [Nat.add_assoc] using there
  | call call same joined =>
    refine ⟨0, fun place agent there => ⟨agent, ?_, .inl rfl⟩⟩
    rw [joined, List.getElem?_append_left]
    · exact there
    · exact (List.getElem?_eq_some_iff.mp there).1
  | outside _ _ _ _ same =>
    refine ⟨0, fun place agent there => ⟨agent, ?_, .inl rfl⟩⟩
    rw [same]
    exact there

/-- Whoever is at a place stays there, and either rests or does its first task. -/
theorem Turn.at_place {world next : World} (turn : Turn world next) {place : Nat} {agent : Agent}
    (there : world.agents[place]? = some agent) :
    ∃ after, next.agents[place]? = some after ∧ (after = agent ∨ ∃ (task : Task) (rest : Agent),
      agent = { rest with tasks := task :: rest.tasks } ∧
        Deed world.depot rest task next.depot after) := by
  -- Every place is kept in a turn, whoever acts.
  obtain ⟨_, each⟩ := turn.acting
  obtain ⟨after, there', rests | ⟨_, acts⟩⟩ := each place agent there
  · exact ⟨after, there', .inl rests⟩
  · exact ⟨after, there', .inr acts⟩

/-- A caller keeps its place among the callers, and either rests or does its first task. -/
theorem Turn.caller_at_place {world next : World} (turn : Turn world next) {place : Nat}
    {caller : Agent} (there : world.callers[place]? = some caller) :
    ∃ after, next.callers[place]? = some after ∧ (after = caller ∨ ∃ (task : Task) (rest : Agent),
      caller = { rest with tasks := task :: rest.tasks } ∧
        Deed world.depot rest task next.depot after) :=
  -- The courier stands before all callers.
  @Turn.at_place world next turn (place + 1) caller there

namespace Task

/-- Whether a task asks for the banner or begins to stop the courier. -/
def isOpening : Task → Bool
  | .checkBanner | .claimBanner | .stop _ => true
  | _ => false

/-- A task that neither decides anything nor asks for the banner opens nothing. -/
theorem isOpening_of_not_isDuty {task : Task} (other : task.isDuty = false)
    (plain : task.isBanner = false) : task.isOpening = false := by
  cases task <;> first | rfl | (simp [isBanner] at plain; done) | cases other

end Task

/-- With an endpoint nothing that is handed in asks for the banner. -/
theorem Intake.opening {depot after : Depot} {agent next : Agent} {task : Task}
    (deed : Intake depot agent task after next) (remote : depot.settings.isRemote = true)
    (plain : task.isBanner = false) :
    next.answer = agent.answer ∧
      ∃ pushed, next.tasks = pushed ++ agent.tasks ∧ ∀ new ∈ pushed, new.isOpening = false := by
  -- With an endpoint a submission does not ask for the banner.
  cases deed with
  | submit _ event =>
    refine ⟨rfl, _, rfl, ?_⟩
    -- The banner is asked for only without an endpoint.
    cases echo : depot.settings.echo <;>
      simp [Depot.acceptance, remote, echo, Task.isOpening]
  | seeBanner => cases plain
  | seeNothing => cases plain
  | claim => cases plain
  | comeLate => cases plain
  | append _ queue =>
    refine ⟨rfl, _, rfl, ?_⟩
    cases queue.asks .appended <;> simp [Task.isOpening]
  | displace _ _ _ _ queue =>
    refine ⟨rfl, _, rfl, ?_⟩
    cases queue.asks .displacing <;> simp [Task.isOpening]
  | displaceNobody _ queue =>
    refine ⟨rfl, _, rfl, ?_⟩
    cases queue.asks .displacing <;> simp [Task.isOpening]
  | _ =>
    first
    | exact ⟨rfl, [], rfl, by simp⟩
    | exact ⟨rfl, _, rfl, by simp [warn, Task.isOpening]⟩

/-- A decision begins no other stop. -/
theorem Duty.opening {depot after : Depot} {agent next : Agent} {task : Task}
    (deed : Duty depot agent task after next) :
    ∃ pushed, next.tasks = pushed ++ agent.tasks ∧ ∀ new ∈ pushed, new.isOpening = false := by
  -- No decision leads to another stop.
  cases deed
  case takeCourier | takeNobody | join =>
    refine ⟨_, rfl, ?_⟩
    unfold Depot.conclusion
    split <;> simp [Task.isOpening]
  all_goals first
    | exact ⟨[], rfl, by simp⟩
    | exact ⟨_, rfl, by simp [Task.isOpening]⟩

/-- Whatever opens something was there before. -/
theorem Deed.opening {depot after : Depot} {agent next : Agent} {task : Task}
    (deed : Deed depot agent task after next) (remote : depot.settings.isRemote = true)
    (plain : task.isBanner = false) :
    ∀ new ∈ next.tasks, new.isOpening = true → new ∈ agent.tasks := by
  -- What is pushed opens nothing, so it stood below.
  have onto {pushed : List Task} (none : ∀ new ∈ pushed, new.isOpening = false) :
      ∀ new ∈ pushed ++ agent.tasks, new.isOpening = true → new ∈ agent.tasks := by
    intro new member opening
    rcases List.mem_append.mp member with member | member
    · simp [none new member] at opening
    · exact member
  rcases deed with intake | delivery | duty
  · obtain ⟨_, pushed, same, none⟩ := intake.opening remote plain
    rw [same]
    exact onto none
  · rcases delivery.pushes with ⟨pushed, same, _, _, _, kept⟩ | ⟨crash, rfl⟩
    · rw [same]
      exact onto fun new member =>
        Task.isOpening_of_not_isDuty (kept new member).1 (kept new member).2.1
    · -- Giving up only drops tasks.
      exact fun new member _ => (List.mem_filter.mp member).1
  · obtain ⟨pushed, same, none⟩ := duty.opening
    rw [same]
    exact onto none

/-- At most a report follows a stop. -/
theorem coda_of_stop {manned : Bool} {timeout : Span} {control : List Task}
    (way : Course manned (.stop timeout :: control) ∨ Round (.stop timeout :: control)) :
    Coda control := by
  -- Only a call to stop has a stop to decide.
  rcases way with course | round
  · cases course with
    | stop _ ends => exact ends
    | closing _ last => cases last
  · cases round with
    | closing last => cases last

/-- An agent never asks for the banner, and with a stop to begin it has done nothing before. -/
structure NothingBeforeStop (agent : Agent) : Prop where
  plain : ∀ task ∈ agent.tasks, task.isBanner = false
  stop : ∀ timeout, .stop timeout ∈ agent.tasks →
    agent.answer = none ∧ agent.crash = none ∧ ∃ rest, agent.tasks = .stop timeout :: rest

namespace NothingBeforeStop

/-- A step leaves no stop to begin that was not the first task before. -/
theorem after {manned : Bool} {depot after : Depot} {agent next : Agent} {task : Task}
    (fresh : NothingBeforeStop { agent with tasks := task :: agent.tasks })
    (way : Course manned (duties (task :: agent.tasks)) ∨ Round (duties (task :: agent.tasks)))
    (remote : depot.settings.isRemote = true) (deed : Deed depot agent task after next) :
    NothingBeforeStop next := by
  have plain := fresh.plain task List.mem_cons_self
  constructor
  · intro new member
    refine Bool.eq_false_iff.mpr fun banner => ?_
    -- Asking for the banner is one of the openings.
    have opening : new.isOpening = true := by cases new <;> first | rfl | cases banner
    have old := deed.opening remote plain new member opening
    simp [fresh.plain new (List.mem_cons_of_mem _ old)] at banner
  · intro timeout member
    -- The stop would be the first task, and there would be a second one below it.
    have old := deed.opening remote plain _ member rfl
    obtain ⟨_, _, rest, first⟩ := fresh.stop timeout (List.mem_cons_of_mem _ old)
    obtain rfl : task = .stop timeout := (List.cons.inj first).1
    have below : .stop timeout ∈ duties agent.tasks := List.mem_filter.mpr ⟨old, rfl⟩
    rw [duties_cons, if_pos (by rfl)] at way
    have ends := coda_of_stop way
    generalize duties agent.tasks = control at ends below
    cases ends with
    | none => simp at below
    | report => simp at below

/-- Whoever calls has done nothing before. -/
theorem ofCall (settings : Settings) (call : Call) : NothingBeforeStop
    (.ofTasks (call.tasks settings)) where
  plain := by cases call <;> simp [Call.tasks, Agent.ofTasks, Task.isBanner]
  stop timeout member := by
    -- The tasks of a call are all that its caller has, so that nothing has been done before them.
    cases call <;> simp [Call.tasks, Agent.ofTasks] at member ⊢ <;> simp [member]

/-- No agent ever asks for the banner, or has anything behind it that it did before a stop. -/
theorem turn {world next : World} (fresh : ∀ agent ∈ world.agents, NothingBeforeStop agent)
    (custody : Custody world) (turn : Turn world next) :
    ∀ agent ∈ next.agents, NothingBeforeStop agent :=
  turn.each fresh
    -- Only who acts has to be looked at, and it keeps to its way.
    (fun _ _ _ member own deed => own.after (custody.way member) custody.remote deed) ofCall

end NothingBeforeStop

/-- Delivering a batch answers nothing. -/
theorem Delivery.answer {depot after : Depot} {agent next : Agent} {task : Task}
    (deed : Delivery depot agent task after next) : next.answer = agent.answer := by
  cases deed <;> rfl

/-- What a call still has to decide that stops the courier first. -/
inductive Pursuit : List Task → Prop where
  | takeOver (timeout : Span) {coda : List Task} (ends : Coda coda) :
      Pursuit (.takeOver timeout :: coda)
  | dismiss (timeout : Span) {coda : List Task} (ends : Coda coda) :
      Pursuit (.dismiss timeout :: coda)
  | join (since : Nat) (timeout : Span) {coda : List Task} (ends : Coda coda) :
      Pursuit (.join since timeout :: coda)
  | closing {coda tasks : List Task} (ends : Coda coda)
      (last : Closing (.release :: .answer true :: coda) tasks) : Pursuit tasks

namespace Pursuit

/-- After a crash there is at most the courier to give back. -/
theorem unwind {control : List Task} (pursuit : Pursuit control) :
    ∀ task ∈ control.filter Task.isCleanup, task = .release := by
  -- The lock is not taken by whoever stops the courier.
  cases pursuit with
  | takeOver _ ends => cases ends <;> simp [Task.isCleanup]
  | dismiss _ ends => cases ends <;> simp [Task.isCleanup]
  | join _ _ ends => cases ends <;> simp [Task.isCleanup]
  | closing ends last => cases ends <;> cases last <;> simp [Task.isCleanup]

/-- A decision leads on to the answer, and before that to a failure or the end of the courier,
unless it was lost. -/
theorem after {manned : Bool} {depot after : Depot} {agent next : Agent} {task : Task}
    {control : List Task} (pursuit : Pursuit (task :: control))
    (before : duties agent.tasks = control) (deed : Duty depot agent task after next)
    (course : Course manned (duties next.tasks)) :
    (next.answer = agent.answer ∧ Pursuit (duties next.tasks)) ∨
      (next.answer = some false ∧ Coda (duties next.tasks)) ∨
        (task = .release ∧ after = depot.release) ∨
          (depot.thread = .exited ∧ after = depot) ∨ manned = false := by
  -- The last flush ends in giving the courier back, and a thread is waited for to its end.
  have same : ∀ pushed, duties (agent.push pushed).tasks = duties pushed ++ control :=
    fun pushed => by rw [← before]; exact duties_append ..
  cases pursuit with
  | takeOver timeout ends =>
    cases deed with
    | takeHandle =>
      rw [same]
      exact .inl ⟨rfl, .dismiss timeout ends⟩
    | takeCourier =>
      rw [same, duties_cons, duties_cons, duties_conclusion]
      exact .inl ⟨rfl, .closing ends (.finish timeout)⟩
    | takeNobody =>
      -- With an endpoint there is somebody to stop, or was before the courier was lost.
      rw [same, duties_cons, duties_conclusion] at course
      cases course with
      | decline _ courierless => exact .inr (.inr (.inr (.inr courierless)))
      | closing _ last => cases last
  | dismiss timeout ends =>
    cases deed <;>
      (rw [same]; exact .inl ⟨rfl, .join _ timeout ends⟩)
  | join since timeout ends =>
    cases deed with
    | join _ _ ended => exact .inr (.inr (.inr (.inl ⟨ended, rfl⟩)))
    | joinCrashed => exact .inr (.inl ⟨rfl, before ▸ ends⟩)
    | joinOverdue => exact .inr (.inl ⟨rfl, before ▸ ends⟩)
  | @closing coda _ ends last =>
    by_cases finished : Task.release :: Task.answer true :: coda = task :: control
    · cases finished
      cases deed
      exact .inr (.inr (.inl ⟨rfl, rfl⟩))
    · refine .inl ⟨?_, .closing ends (last.after before finished deed)⟩
      cases last with
      | done => exact absurd rfl finished
      | _ => cases deed <;> rfl

end Pursuit

/-- How far the call has come that stops the courier first: the courier is gone with all sealed or
was lost, the call has not answered yet, or it will not answer that it stopped the courier. -/
inductive Contest (depot : Depot) (agent : Agent) : Prop where
  | won (retired : CourierRetired depot)
  | deserted (courierless : depot.isManned = false)
  | going (silent : agent.answer ≠ some true) (unharmed : agent.crash = none)
      (left : Pursuit (duties agent.tasks))
  | lost (silent : agent.answer ≠ some true)
      (left : ∀ task ∈ duties agent.tasks, task = .release ∨ task = .reportLosses)

namespace Contest

/-- A thread that exited left all sealed. -/
theorem retired_of_exited {world : World} (custody : Custody world) (sealing : SealedAtExit world)
    (ended : world.depot.thread = .exited) : CourierRetired world.depot := by
  obtain ⟨holder, unharmed⟩ := custody.post.of_exited ended
  exact sealing.thread (by simp [ended, Thread.hasBegun]) holder unharmed

/-- A step of a call that has not answered leads to the end of the courier first, or to no answer
that it stopped it. -/
theorem of_pursuit {world : World} {depot : Depot} {agent after : Agent} {task : Task}
    (deed : Deed world.depot agent task depot after) (silent : agent.answer ≠ some true)
    (unharmed : agent.crash = none) (pursuit : Pursuit (duties (task :: agent.tasks)))
    (custody : Custody world) (sealing : SealedAtExit world) (plain : task.isBanner = false)
    (sealed : QueueSealed world.depot (duties (task :: agent.tasks)))
    (course : Course depot.isManned (duties after.tasks))
    (retains : CourierRetired world.depot → CourierRetired depot) : Contest depot after := by
  -- Only decisions bring the call on, and giving up leaves it with the courier to give back.
  rcases deed with intake | delivery | duty
  · rw [duties_cons_of_neg intake.not_isDuty, ← intake.duties] at pursuit
    refine .going ?_ ?_ pursuit
    · -- Handing in an event answers nothing and gives nothing up.
      rw [(intake.opening custody.remote plain).1]
      exact silent
    · obtain ⟨_, _, same, _⟩ := intake.pushes
      rw [same]
      exact unharmed
  · rw [duties_cons_of_neg delivery.not_isDuty] at pursuit
    rcases delivery.pushes with ⟨_, same, harm, _, _, kept⟩ | ⟨crash, rfl⟩
    · have left : duties after.tasks = duties agent.tasks := by
        rw [same, duties_append, duties_of_none (fun new member => (kept new member).1),
          List.nil_append]
      rw [← left] at pursuit
      refine .going ?_ ?_ pursuit
      · rw [delivery.answer]
        exact silent
      · rw [harm]
        exact unharmed
    · -- Giving up leaves at most the courier to give back, and no answer.
      refine .lost silent fun task among => .inl ?_
      rw [show duties (agent.unwind crash).tasks = _ from duties_filter_isCleanup _] at among
      exact pursuit.unwind task among
  · rw [duties_cons, if_pos duty.isDuty] at pursuit sealed
    rcases pursuit.after rfl duty course with
      ⟨same, onward⟩ | ⟨failed, ends⟩ | ⟨rfl, released⟩ | ⟨ended, same⟩ | courierless
    · obtain ⟨_, _, harm, _⟩ := duty.pushes
      refine .going ?_ ?_ onward
      · rw [same]
        exact silent
      · rw [harm]
        exact unharmed
    · -- The thread has crashed, or the deadline has passed: the answer is no.
      refine .lost (by simp [failed]) fun task among => .inr ?_
      generalize duties after.tasks = control at ends among
      cases ends with
      | none => simp at among
      | report => simpa using among
    · -- The last flush has closed the queue and entered the last phase before.
      obtain ⟨closed, phase⟩ := sealed.leaving _ rfl
      rw [released]
      exact .won ⟨rfl, closed, phase⟩
    · -- The thread had ended, and so left all sealed.
      exact .won (retains (retired_of_exited custody sealing ended))
    · exact .deserted courierless

/-- A call that will not answer that it stopped the courier only gives it back or reports. -/
theorem of_lost {depot after : Depot} {agent next : Agent} {task : Task}
    (deed : Deed depot agent task after next) (silent : agent.answer ≠ some true)
    (ends : ∀ old ∈ duties (task :: agent.tasks), old = .release ∨ old = .reportLosses)
    (remote : depot.settings.isRemote = true) (plain : task.isBanner = false) :
    Contest after next := by
  -- Neither of the two answers anything or leads to something else to decide.
  rcases deed with intake | delivery | duty
  · rw [duties_cons_of_neg intake.not_isDuty, ← intake.duties] at ends
    refine .lost ?_ ends
    rw [(intake.opening remote plain).1]
    exact silent
  · rw [duties_cons_of_neg delivery.not_isDuty] at ends
    refine .lost ?_ ?_
    · rw [delivery.answer]
      exact silent
    · rcases delivery.duties with same | ⟨_, same⟩
      · rw [same]
        exact ends
      · rw [same]
        exact fun task among => ends task (List.mem_filter.mp among).1
  · rw [duties_cons, if_pos duty.isDuty] at ends
    have below : ∀ old ∈ duties agent.tasks, old = .release ∨ old = .reportLosses :=
      fun old among => ends old (List.mem_cons_of_mem _ among)
    rcases ends task List.mem_cons_self with rfl | rfl
    · cases duty
      exact .lost silent below
    · cases duty
      exact .lost silent below

/-- A step of the call leads to the end of the courier before it leads to the answer. -/
theorem after {world : World} {depot : Depot} {agent after : Agent} {task : Task}
    (contest : Contest world.depot { agent with tasks := task :: agent.tasks })
    (custody : Custody world) (sealing : SealedAtExit world)
    (fresh : ∀ agent ∈ world.agents, NothingBeforeStop agent)
    (member : { agent with tasks := task :: agent.tasks } ∈ world.agents)
    (course : Course depot.isManned (duties after.tasks))
    (retains : CourierRetired world.depot → CourierRetired depot)
    (manned : depot.isManned = true → world.depot.isManned = true)
    (deed : Deed world.depot agent task depot after) : Contest depot after := by
  -- Once won or lost it stays so; until then each decision brings the call on.
  have plain := (fresh _ member).plain task List.mem_cons_self
  cases contest with
  | won retired => exact .won (retains retired)
  | deserted courierless =>
    refine .deserted (Bool.eq_false_iff.mpr fun still => ?_)
    exact absurd (manned still) (by simp [courierless])
  | going silent unharmed pursuit =>
    have sealed := (sealing.agents _ member).sealed unharmed
    exact of_pursuit deed silent unharmed pursuit custody sealing plain sealed course retains
  | lost silent ends => exact of_lost deed silent ends custody.remote plain

/-- Whatever others do, the call has come as far as before. -/
theorem other {before after : Depot} {agent : Agent} (contest : Contest before agent)
    (retains : CourierRetired before → CourierRetired after)
    (manned : after.isManned = true → before.isManned = true) : Contest after agent := by
  -- A retired courier stays retired, a lost one stays lost, and what the caller has itself is its
  -- own.
  cases contest with
  | won retired => exact .won (retains retired)
  | deserted courierless =>
    refine .deserted (Bool.eq_false_iff.mpr fun still => ?_)
    exact absurd (manned still) (by simp [courierless])
  | going silent unharmed left => exact .going silent unharmed left
  | lost silent left => exact .lost silent left

/-- A call that has answered that it stopped the courier has seen the courier gone, unless it was
lost. -/
theorem retired {depot : Depot} {agent : Agent} (contest : Contest depot agent)
    (manned : depot.isManned = true) (answered : agent.answer = some true) :
    CourierRetired depot := by
  -- Without an answer there is nothing to conclude from, and a courier that is there was not lost.
  cases contest with
  | won retired => exact retired
  | deserted courierless => exact absurd manned (by simp [courierless])
  | going silent => exact absurd answered silent
  | lost silent => exact absurd answered silent

end Contest

namespace World

/-- A caller takes the step of stopping the courier, and is the first to do so. -/
inductive StopsFirst : Nat → World → World → Prop where
  | caller {courier : Agent} {left right : List Agent} {before after : Depot} {agent next : Agent}
      (choice : Choice) (timeout : Span) (rest : List Task)
      (begins : agent.tasks = .stop timeout :: rest) (first : before.stopped = false)
      (acted : agent.step choice before = some (after, next)) :
      StopsFirst left.length ⟨before, courier, left ++ agent :: right⟩
        ⟨after, courier, left ++ next :: right⟩

/-- To stop the courier first is one way for a world to go. -/
theorem StopsFirst.step {place : Nat} {world next : World} (stops : StopsFirst place world next) :
    Step world next := by
  cases stops with
  | caller choice _ _ _ _ acted => exact .caller choice acted

/-- The call at a place is the one that stops the courier first. -/
def Contested (place : Nat) (world : World) : Prop :=
  ∃ agent, world.callers[place]? = some agent ∧ Contest world.depot agent

end World

/-- With an endpoint the core invariant holds, the last flush is sealed, whoever has yet to stop the
courier has done nothing before, and the ledger holds. -/
structure ShutdownInvariant (world : World) : Prop where
  core : CoreInvariant world
  sealing : SealedAtExit world
  fresh : ∀ agent ∈ world.agents, NothingBeforeStop agent
  accounted : EventsAccounted world

namespace ShutdownInvariant

variable {world next : World}

/-- It holds before anything has happened. -/
theorem initial {settings : Settings} (remote : settings.isRemote = true) (threshold : Threshold)
    (transportName sinkName : String) (wall : Timestamp) (script : Script) :
    ShutdownInvariant
      (.initial (.create settings threshold transportName sinkName wall script)) where
  -- Only the courier is there, and it has nothing to open.
  core := .initial remote ..
  sealing := .initial _ rfl
  fresh := by
    intro agent member
    obtain rfl : agent = .courier := by simpa using member
    constructor
    · simp [Task.isBanner]
    · simp
  accounted := .initial ..

/-- A change of a world keeps it. -/
theorem step (shutdown : ShutdownInvariant world) (change : World.Step world next) :
    ShutdownInvariant next := by
  obtain ⟨core, sealing, fresh, accounted⟩ := shutdown
  -- The core is kept first, since the others are kept by a turn between two worlds that have it.
  have core' := core.step change
  exact ⟨core', sealing.turn core.custody core'.custody change.turn,
    NothingBeforeStop.turn fresh core.custody change.turn, accounted.turn core change.turn⟩

/-- It holds of every world that comes about from one of which it holds. -/
theorem reachable {start : World} (shutdown : ShutdownInvariant start)
    (run : World.Reachable start world) : ShutdownInvariant world := by
  -- Induction on the run.
  induction run with
  | refl => exact shutdown
  | step _ change ih => exact ih.step change

/-- Whoever stops the courier first has everything before it. -/
theorem contested_of_stopsFirst (shutdown : ShutdownInvariant world) {place : Nat}
    (stops : World.StopsFirst place world next) : next.Contested place := by
  -- The call has done nothing before, and now it has to take over.
  have shutdown' := shutdown.step stops.step
  cases stops with
  | @caller courier left right before after agent caller choice timeout rest begins first acted =>
    have member : agent ∈ (⟨before, courier, left ++ agent :: right⟩ : World).agents := by
      simp [World.agents]
    obtain ⟨silent, unharmed, _⟩ := (shutdown.fresh agent member).stop timeout (by simp [begins])
    have course := (shutdown'.core.custody.callers caller (by simp)).course
    obtain ⟨task, below, rfl, deed⟩ := Agent.deed_of_step acted
    obtain ⟨rfl, rfl⟩ := List.cons.inj begins
    refine ⟨caller, by simp, ?_⟩
    rcases deed with intake | delivery | duty
    · cases intake
    · cases delivery
    · cases duty with
      | stop =>
        refine .going ?_ unharmed ?_
        · simp [Agent.push, silent]
        · -- What it still has to decide begins with taking over.
          have left : duties (below.push [.takeOver timeout]).tasks =
              .takeOver timeout :: duties below.tasks := rfl
          rw [left] at course ⊢
          cases course with
          | takeOver _ ends => exact .takeOver timeout ends
          | closing _ last => cases last
      -- It is the first one to stop.
      | stopAgain _ late => simp [first] at late

/-- Until the call answers that it stopped the courier, the courier is gone. -/
theorem contested_of_turn (shutdown : ShutdownInvariant world) (shutdown' : ShutdownInvariant next)
    {place : Nat}
    (contested : world.Contested place) (turn : Turn world next) : next.Contested place := by
  -- The call either rests, or takes a step along its course.
  obtain ⟨agent, there, contest⟩ := contested
  have custody := shutdown.core.custody
  obtain ⟨after, there', rested | ⟨task, rest, rfl, deed⟩⟩ :=
    turn.caller_at_place there
  · -- What others do cannot bring the courier back.
    subst rested
    exact ⟨after, there', contest.other (turn.retired custody) (turn.manned custody)⟩
  · have member := List.mem_of_getElem? there
    have member' := List.mem_of_getElem? there'
    refine ⟨after, there', contest.after custody shutdown.sealing shutdown.fresh ?_ ?_ ?_ ?_ deed⟩
    · exact List.mem_cons_of_mem _ member
    · exact (shutdown'.core.custody.callers after member').course
    · exact turn.retired custody
    · exact turn.manned custody

/-- Once the first call to stop has answered that it did, the courier is gone with all sealed,
unless it was lost. -/
theorem retired_of_answer (shutdown : ShutdownInvariant world) {place : Nat}
    (stops : World.StopsFirst place world next) {returned : World}
    (wait : World.Reachable next returned) {caller : Agent}
    (there : returned.callers[place]? = some caller) (answered : caller.answer = some true)
    (manned : returned.depot.isManned = true) : CourierRetired returned.depot := by
  -- The call runs ahead of its answer in every world on the way.
  have start := shutdown.step stops.step
  have contested : returned.Contested place := by
    clear there manned
    induction wait with
    | refl => exact shutdown.contested_of_stopsFirst stops
    | step before change ih =>
      have earlier := start.reachable before
      exact earlier.contested_of_turn (earlier.step change) ih change.turn
  obtain ⟨agent, there', contest⟩ := contested
  -- There is only one caller at the place.
  obtain rfl : caller = agent := Option.some.inj (there.symm.trans there')
  exact contest.retired manned answered

end ShutdownInvariant

end LogCourier
