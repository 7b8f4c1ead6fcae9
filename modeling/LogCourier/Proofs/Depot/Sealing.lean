import LogCourier.Proofs.Depot.Traffic

/-!
Sealing: whoever gives the courier back for good has closed the queue and entered the last phase.

The exception is whoever gave up because of a crash. Once the courier is gone with all sealed, it
stays so: without the courier nobody can take a batch or enter another phase.
-/

namespace LogCourier

/-- Below a decision nothing of a batch is left to be done but to flush the sink. -/
def FlushOnlyBelow (tasks : List Task) : Prop :=
  -- So once a decision is the first task, no batch is left that could enter a phase.
  tasks.Pairwise fun above below =>
    above.isDuty = true → below.isDelivery = true → below = .flushSink

/-- Where nothing is decided, nothing stands below a decision. -/
theorem level_of_none {tasks : List Task} (none : ∀ task ∈ tasks, task.isDuty = false) :
    FlushOnlyBelow tasks := by
  -- Nothing is required below a task that decides nothing.
  induction tasks with
  | nil => exact .nil
  | cons task rest ih =>
    refine List.pairwise_cons.mpr ⟨fun _ _ duty => ?_, ih fun below member => none below ?_⟩
    · simp [none task List.mem_cons_self] at duty
    · exact List.mem_cons_of_mem _ member

/-- A decision leads to tasks with nothing of a batch below a decision. -/
theorem Duty.level {depot after : Depot} {agent next : Agent} {task : Task}
    (deed : Duty depot agent task after next) :
    ∃ pushed, next.tasks = pushed ++ agent.tasks ∧ FlushOnlyBelow pushed := by
  -- Where a batch and a decision are pushed together, the decision stands below.
  cases deed
  case takeCourier | takeNobody | join =>
    refine ⟨_, rfl, ?_⟩
    unfold Depot.conclusion
    split <;> simp [FlushOnlyBelow, Task.isDuty, Task.isIntake, Task.isDelivery]
  all_goals first
    | exact ⟨[], rfl, .nil⟩
    | exact ⟨_, rfl, by simp [FlushOnlyBelow, Task.isDuty, Task.isIntake, Task.isDelivery]⟩

/-- A step leaves nothing of a batch below a decision. -/
theorem FlushOnlyBelow.after {depot after : Depot} {agent next : Agent} {task : Task}
    (level : FlushOnlyBelow (task :: agent.tasks)) (deed : Deed depot agent task after next) :
    FlushOnlyBelow next.tasks := by
  -- Only a decision leads to decisions, and below it there was nothing of a batch before.
  obtain ⟨below, rest⟩ := List.pairwise_cons.mp level
  have onto {pushed : List Task} (none : ∀ new ∈ pushed, new.isDuty = false) :
      FlushOnlyBelow (pushed ++ agent.tasks) := by
    refine List.pairwise_append.mpr ⟨level_of_none none, rest, fun new member _ _ duty => ?_⟩
    simp [none new member] at duty
  rcases deed with intake | delivery | duty
  · obtain ⟨pushed, same, _, inside⟩ := intake.pushes
    rw [same]
    exact onto fun new member => by simp [Task.isDuty, inside new member]
  · rcases delivery.pushes with ⟨pushed, same, _, _, _, kept⟩ | ⟨crash, rfl⟩
    · rw [same]
      exact onto fun new member => (kept new member).1
    · exact List.Pairwise.filter _ rest
  · obtain ⟨pushed, same, level'⟩ := duty.level
    rw [same]
    exact List.pairwise_append.mpr
      ⟨level', rest, fun _ _ lower member _ => below lower member duty.isDuty⟩

/-- Whoever is about to give the courier back has closed the queue and entered the last phase. -/
structure QueueSealed (depot : Depot) (control : List Task) : Prop where
  closing : ∀ rest, control = .enter .stopped :: .release :: rest → depot.queue.closed = true
  leaving : ∀ rest, control = .release :: rest →
    depot.queue.closed = true ∧ depot.phase = .stopped

namespace QueueSealed

variable {before after : Depot} {control : List Task}

/-- What closes nothing again and keeps the last phase keeps it sealed. -/
theorem mono (sealed : QueueSealed before control)
    (closed : before.queue.closed = true → after.queue.closed = true)
    (phase : ∀ rest, control = .release :: rest → before.phase = .stopped →
      after.phase = .stopped) : QueueSealed after control where
  closing rest same := closed (sealed.closing rest same)
  -- The phase is asked for only behind the last flush, where it is kept.
  leaving rest same :=
    ⟨closed (sealed.leaving rest same).1, phase rest same (sealed.leaving rest same).2⟩

/-- Nothing is required of whoever has something else to decide first. -/
theorem of_head {task : Task} {rest : List Task} (entering : task ≠ .enter .stopped)
    (releasing : task ≠ .release) : QueueSealed before (task :: rest) where
  closing _ same := absurd (List.cons.inj same).1 entering
  leaving _ same := absurd (List.cons.inj same).1 releasing

/-- Nothing is required of whoever has not to give back the courier. -/
theorem of_not_mem (none : .release ∉ control) : QueueSealed before control where
  closing rest same := by simp [same] at none
  leaving rest same := by simp [same] at none

end QueueSealed

/-- The last flush closes the queue before it enters the last phase. -/
theorem Closing.sealed {depot after : Depot} {agent next : Agent} {task : Task}
    {rest control : List Task} (closing : Closing (.release :: rest) (task :: control))
    (before : duties agent.tasks = control) (unfinished : task ≠ .release)
    (deed : Duty depot agent task after next) (sealed : QueueSealed depot (task :: control)) :
    QueueSealed after (duties next.tasks) := by
  -- The queue is closed one decision before the last phase is entered.
  cases closing with
  | done => exact absurd rfl unfinished
  | finish deadline =>
    cases deed
    simp only [Agent.push, duties_append, before]
    exact .of_head (by simp) (by simp)
  | enter timeout =>
    cases deed
    rw [before]
    exact .of_head (by simp) (by simp)
  | close timeout =>
    -- This is the step that closes the queue.
    have closed : after.queue.closed = true := by cases deed <;> rfl
    have left : duties next.tasks = .enter .stopped :: .release :: rest := by
      cases deed <;> simp [Agent.push, Task.isDuty, Task.isIntake, Task.isDelivery, before]
    rw [left]
    exact ⟨fun _ _ => closed, fun _ same => by simp at same⟩
  | leave =>
    -- The queue was closed before, and now the last phase is entered.
    have closed := sealed.closing rest rfl
    cases deed
    rw [before]
    exact ⟨fun _ same => by simp at same, fun _ _ => ⟨closed, rfl⟩⟩

/-- Giving the courier back is pushed only below the last flush. -/
theorem Duty.release_of_mem {depot after : Depot} {agent next : Agent} {task : Task}
    (deed : Duty depot agent task after next) (member : .release ∈ duties next.tasks) :
    .release ∈ duties agent.tasks ∨
      ∃ deadline rest, duties next.tasks = .finish deadline :: rest := by
  -- Only taking the courier for good leads to giving it back.
  cases deed with
  | takeCourier timeout => exact .inr ⟨timeout, _, rfl⟩
  | _ =>
    left
    simpa [Agent.push, Agent.reply, Task.isDuty, Task.isIntake, Task.isDelivery] using member

/-- A caller with the courier to give back is in its last flush. -/
theorem Course.closing_of_mem {remote : Bool} {task : Task} {control : List Task}
    (course : Course remote (task :: control)) (member : .release ∈ control) :
    task ≠ .release ∧ ∃ rest, Closing (.release :: rest) (task :: control) := by
  -- Of all ways of a caller only the last flush ends in giving back.
  cases course with
  | closing ends last =>
    refine ⟨?_, _, last⟩
    -- Only one loan is given back.
    rintro rfl
    cases last
    cases ends <;> simp at member
  | answer ends => cases ends <;> simp at member
  | stop _ ends => cases ends <;> simp at member
  | takeOver _ ends => cases ends <;> simp at member
  | dismiss _ ends => cases ends <;> simp at member
  | join _ _ ends => cases ends <;> simp at member
  | decline ends => cases ends <;> simp at member
  | _ => simp at member

/-- A decision of a caller keeps the last flush sealed. -/
theorem Course.sealed {remote : Bool} {depot after : Depot} {agent next : Agent} {task : Task}
    {control : List Task} (course : Course remote (task :: control))
    (before : duties agent.tasks = control) (deed : Duty depot agent task after next)
    (sealed : QueueSealed depot (task :: control)) : QueueSealed after (duties next.tasks) := by
  -- Without the courier to give back there is nothing to seal.
  by_cases member : .release ∈ control
  · obtain ⟨unfinished, rest, closing⟩ := course.closing_of_mem member
    exact closing.sealed before unfinished deed sealed
  · by_cases owed : .release ∈ duties next.tasks
    · rcases deed.release_of_mem owed with old | ⟨deadline, rest, first⟩
      · -- What stands below would have stood there before.
        exact absurd (before ▸ old) member
      · rw [first]
        exact .of_head (by simp) (by simp)
    · exact .of_not_mem owed

/-- A decision of the courier on its thread keeps the last flush sealed. -/
theorem Round.sealed {depot after : Depot} {agent next : Agent} {task : Task}
    {control : List Task} (round : Round (task :: control))
    (before : duties agent.tasks = control) (deed : Duty depot agent task after next)
    (sealed : QueueSealed depot (task :: control)) : QueueSealed after (duties next.tasks) := by
  -- Going round leads to going round, or to the beginning of the last flush.
  cases round with
  | closing last =>
    by_cases unfinished : task = .release
    · -- Then the end of the thread is all that is left.
      obtain rfl := unfinished
      cases last
      cases deed
      rw [before]
      exact .of_head (by simp) (by simp)
    · exact last.sealed before unfinished deed sealed
  | exit =>
    cases deed
    rw [before]
    exact .of_not_mem (by simp)
  | begin | idle | schedule | plan | select | retick =>
    cases deed <;>
      (simp only [Agent.push, duties_append, before]; exact .of_head (by simp) (by simp))

/-- A queue that was closed stays closed. -/
theorem Deed.closed {depot after : Depot} {agent next : Agent} {task : Task}
    (deed : Deed depot agent task after next) (closed : depot.queue.closed = true) :
    after.queue.closed = true := by
  -- Only decisions touch it, and they only ever close it.
  rcases deed with intake | delivery | duty
  · rw [intake.sameOrders.2, closed]
  · rw [delivery.sameOrders.2, closed]
  · cases duty with
    | closeEmpty => rfl
    | close => rfl
    | reportLosses => unfold Depot.reportLosses; split <;> exact closed
    | _ => exact closed

/-- Only a task that closes the queue closes it. -/
theorem Deed.closes {depot after : Depot} {agent next : Agent} {task : Task}
    (deed : Deed depot agent task after next) (closed : after.queue.closed = true) :
    depot.queue.closed = true ∨ ∃ timeout, task = .closeQueue timeout := by
  -- Neither handing in nor delivering touches the queue's end.
  rcases deed with intake | delivery | duty
  · exact .inl (intake.sameOrders.2 ▸ closed)
  · exact .inl (delivery.sameOrders.2 ▸ closed)
  · cases duty with
    | closeEmpty timeout => exact .inr ⟨timeout, rfl⟩
    | close timeout => exact .inr ⟨timeout, rfl⟩
    | reportLosses =>
      unfold Depot.reportLosses at closed
      split at closed <;> exact .inl closed
    | _ => exact .inl closed

/-- Handing in an event leaves the phase alone. -/
theorem Intake.phase {depot after : Depot} {agent next : Agent} {task : Task}
    (deed : Intake depot agent task after next) : after.phase = depot.phase := by
  cases deed <;> rfl

/-- Of delivering a batch only its beginning enters a phase. -/
theorem Delivery.phase {depot after : Depot} {agent next : Agent} {task : Task}
    (deed : Delivery depot agent task after next) (other : ∀ trigger, task ≠ .flushFor trigger) :
    after.phase = depot.phase := by
  -- Every other task of a delivery leaves the phase to the decisions.
  cases deed with
  | flushFor trigger => exact absurd rfl (other trigger)
  | _ => rfl

/-- Another phase is entered on an errand, when it is decided, or when a thread is hired. -/
theorem Deed.phase {depot after : Depot} {agent next : Agent} {task : Task}
    (deed : Deed depot agent task after next) :
    after.phase = depot.phase ∨ task.isErrand = true ∨ (∃ phase, task = .enter phase) ∨
      depot.locked = false ∧ depot.holder = .desk := by
  -- Errands enter the phases of a flush and of waiting; hiring a thread needs a free courier.
  rcases deed with intake | delivery | duty
  · exact .inl intake.phase
  · by_cases begins : ∃ trigger, task = .flushFor trigger
    · obtain ⟨trigger, rfl⟩ := begins
      exact .inr (.inl rfl)
    · exact .inl (delivery.phase fun trigger same => begins ⟨trigger, same⟩)
  · cases duty with
    | enter phase => exact .inr (.inr (.inl ⟨phase, rfl⟩))
    | finish => exact .inr (.inl rfl)
    | idle => exact .inr (.inl rfl)
    | hire unlocked _ ready => exact .inr (.inr (.inr ⟨unlocked, ready⟩))
    | hireLost _ unlocked _ ready => exact .inr (.inr (.inr ⟨unlocked, ready⟩))
    | reportLosses => left; unfold Depot.reportLosses; split <;> rfl
    | _ => exact .inl rfl

/-- The courier changes hands only by being taken from its desk, or by being given back; what is
taken from the desk is gone only if it was lost. -/
theorem Deed.holder {depot after : Depot} {agent next : Agent} {task : Task}
    (deed : Deed depot agent task after next) :
    after.holder = depot.holder ∨
      depot.holder = .desk ∧ (after.isManned = true → after.holder ≠ .nobody) ∨
      task = .release ∧ after = depot.release := by
  -- It is taken by hiring a thread or by stopping, and given back by whoever has it.
  rcases deed with intake | delivery | duty
  · exact .inl intake.sameCharge.holder
  · exact .inl delivery.sameCharge.holder
  · cases duty with
    | hire _ _ ready => exact .inr (.inl ⟨ready, by simp [Depot.enter, Depot.note]⟩)
    | hireLost _ _ _ ready =>
      refine .inr (.inl ⟨ready, fun manned => ?_⟩)
      simp [Depot.isManned, Depot.lose, Depot.enter, Depot.tell, Depot.note] at manned
    | takeCourier _ _ _ ready => exact .inr (.inl ⟨ready, by simp⟩)
    | release => exact .inr (.inr ⟨rfl, rfl⟩)
    | reportLosses => exact .inl depot.sameCharge_reportLosses.holder
    | _ => exact .inl rfl

/-- Whoever enters a phase has something to give back, or enters the last one after the courier was
lost. -/
theorem guarded_of_enter {manned : Bool} {phase : Phase} {control : List Task}
    (way : Course manned (.enter phase :: control) ∨ Round (.enter phase :: control)) :
    (∃ guard ∈ control, guard.givesBack = true) ∨ phase = .stopped ∧ manned = false := by
  -- Entering a phase stands above opening the lock or giving back.
  rcases way with course | round
  · cases course with
    -- On the spot the lock is opened after it.
    | inline => exact .inl ⟨.unlock, by simp, rfl⟩
    | closing ends last => cases last <;> exact .inl ⟨.release, by simp, rfl⟩
    | decline _ courierless => exact .inr ⟨rfl, courierless⟩
  · cases round with
    | closing last => cases last <;> exact .inl ⟨.release, by simp, rfl⟩

namespace Custody

variable {world next : World}

/-- The decisions of every agent are along the way of a caller or of the courier. -/
theorem way (custody : Custody world) {agent : Agent} (member : agent ∈ world.agents) :
    Course world.depot.isManned (duties agent.tasks) ∨ Round (duties agent.tasks) := by
  -- The courier has its round, and whoever calls a course.
  rcases List.mem_cons.mp member with rfl | member
  · exact .inr custody.round
  · exact .inl (custody.callers agent member).course

/-- A step that enters another phase is one of whoever has the courier, or takes it; once the
courier was lost it can only be the last phase. -/
theorem phase_of_deed (custody : Custody world) {left right : List Agent} {agent after : Agent}
    {task : Task} {depot : Depot}
    (split : world.agents = left ++ { agent with tasks := task :: agent.tasks } :: right)
    (deed : Deed world.depot agent task depot after) :
    depot.phase = world.depot.phase ∨
      world.depot.Entrusts { agent with tasks := task :: agent.tasks } ∨
        world.depot.locked = false ∧ world.depot.holder = .desk ∨
          depot.phase = .stopped ∧ world.depot.isManned = false := by
  -- An errand has something below it that gives the courier back, and so has a decision to enter.
  have member := agent_mem split
  rcases deed.phase with same | errand | ⟨phase, rfl⟩ | free
  · exact .inl same
  · have guarded := (custody.orderly_of_mem member).2.guarded List.mem_cons_self errand
    exact .inr (.inl (custody.entrusted split guarded deed))
  · rcases guarded_of_enter (custody.way member) with ⟨guard, below, gives⟩ | ⟨rfl, courierless⟩
    · have has : guard ∈ agent.tasks := (List.mem_filter.mp below).1
      exact .inr (.inl (custody.entrusted split ⟨guard, List.mem_cons_of_mem _ has, gives⟩ deed))
    · cases deed.duty rfl with
      | enter => exact .inr (.inr (.inr ⟨rfl, courierless⟩))
  · exact .inr (.inr (.inl free))

/-- While somebody has the courier, nobody else enters another phase. -/
theorem phase_of_other (custody : Custody world) {left right : List Agent} {agent after : Agent}
    {task : Task} {depot : Depot}
    (split : world.agents = left ++ { agent with tasks := task :: agent.tasks } :: right)
    (deed : Deed world.depot agent task depot after) {other : Agent}
    (member : other ∈ left ++ right) (entrusted : world.depot.Entrusts other) :
    depot.phase = world.depot.phase := by
  -- Two agents would be entrusted, or the courier would be free and locked up.
  have among := Custody.other_mem split member
  rcases custody.phase_of_deed split deed with same | own | ⟨unlocked, ready⟩ | ⟨_, courierless⟩
  · exact same
  · -- No two agents are entrusted at once.
    exact absurd entrusted (custody.sole split own member)
  · simp [(custody.taken among entrusted).2 ready] at unlocked
  · -- A courier that was lost is with nobody.
    exact absurd (custody.post.of_lost courierless).1 (custody.taken among entrusted).1

end Custody

/-- After closing the queue the last phase is still to be entered. -/
theorem leave_of_closeQueue {manned : Bool} {timeout : Span} {control : List Task}
    (way : Course manned (.closeQueue timeout :: control) ∨
      Round (.closeQueue timeout :: control)) :
    ∃ rest, control = .enter .stopped :: rest := by
  -- Closing the queue is decided in the last flush only.
  rcases way with course | round
  · cases course with
    | closing _ last => cases last; exact ⟨_, rfl⟩
  · cases round with
    | closing last => cases last; exact ⟨_, rfl⟩

/-- Whoever is about to close the queue has the courier for good. -/
theorem Custody.away_of_closeQueue {world : World} (custody : Custody world)
    {left right : List Agent} {agent after : Agent} {timeout : Span} {depot : Depot}
    (split : world.agents =
      left ++ { agent with tasks := .closeQueue timeout :: agent.tasks } :: right)
    (deed : Deed world.depot agent (.closeQueue timeout) depot after) :
    world.depot.holder = .thread ∨ world.depot.holder = .caller := by
  cases left with
  | nil =>
    -- The courier closes it on its thread.
    have covered := custody.covered
    rw [(List.cons.inj split).1] at covered
    have entrusted := custody.entrusted split (covered.guarded List.mem_cons_self rfl) deed
    rw [← (List.cons.inj split).1] at entrusted
    exact .inl (custody.holder_of_courier entrusted)
  | cons courier left =>
    have member : { agent with tasks := .closeQueue timeout :: agent.tasks } ∈ world.callers := by
      simp [(List.cons.inj split).2]
    -- A caller closes it in the last flush, after which it gives the courier back.
    have course := (custody.callers _ member).course
    change Course _ (.closeQueue timeout :: duties agent.tasks) at course
    have owed : .release ∈ duties agent.tasks := by
      generalize duties agent.tasks = control at course
      cases course with
      | closing _ last => cases last; simp
    have below : .release ∈ agent.tasks := (List.mem_filter.mp owed).1
    exact .inr (custody.holder_of_release member (List.mem_cons_of_mem _ below))

/-- A decision after which the courier is given back leads to nothing of a batch. -/
theorem Duty.calm {manned : Bool} {depot after : Depot} {agent next : Agent} {task guard : Task}
    {rest : List Task} (deed : Duty depot agent task after next)
    (way : Course manned (task :: duties agent.tasks) ∨ Round (task :: duties agent.tasks))
    (below : ∀ old ∈ agent.tasks, old.isDelivery = true → old = .flushSink)
    (gives : guard.givesBack = true) (left : duties next.tasks = guard :: rest) :
    ∀ new ∈ next.tasks, new.isDelivery = true → new = .flushSink := by
  cases deed with
  | close timeout =>
    -- The last batch is sent above entering the last phase.
    obtain ⟨control, entering⟩ := leave_of_closeQueue way
    simp only [Agent.push, duties_append, entering] at left
    obtain rfl := (List.cons.inj left).1
    cases gives
  | takeSignal | takeFlush | wake | lock | takeCourier | takeNobody =>
    obtain rfl := (List.cons.inj left).1
    cases gives
  | join =>
    -- What is next to decide is the answer.
    rw [Agent.push, duties_append, duties_conclusion] at left
    obtain rfl := (List.cons.inj left).1
    cases gives
  | _ => simpa [Agent.push, Agent.reply, Task.isDelivery] using below

/-- An agent has nothing of a batch below its decisions, and its last flush sealed unless it gave
up. -/
structure SealsUnlessCrashed (depot : Depot) (agent : Agent) : Prop where
  level : FlushOnlyBelow agent.tasks
  sealed : agent.crash = none → QueueSealed depot (duties agent.tasks)
  calm : agent.crash = none → ∀ guard rest, guard.givesBack = true →
    duties agent.tasks = guard :: rest →
      ∀ task ∈ agent.tasks, task.isDelivery = true → task = .flushSink

/-- No task belongs to both handing in an event and delivering a batch. -/
theorem Task.isDelivery_of_isIntake {task : Task} (handing : task.isIntake = true) :
    task.isDelivery = false := by
  cases task <;> first | rfl | cases handing

/-- A crash that an agent has given up for is never forgotten. -/
theorem Deed.crash {depot after : Depot} {agent next : Agent} {task : Task}
    (deed : Deed depot agent task after next) (unharmed : next.crash = none) :
    agent.crash = none := by
  -- An agent that gave up keeps its crash, and may only get another one.
  rcases deed with intake | delivery | duty
  · obtain ⟨_, _, same, _⟩ := intake.pushes
    rw [← same, unharmed]
  · rcases delivery.pushes with ⟨_, _, same, _⟩ | ⟨crash, rfl⟩
    · rw [← same, unharmed]
    · -- Giving up leaves a crash.
      simp [Agent.unwind] at unharmed
  · obtain ⟨_, _, same, _⟩ := duty.pushes
    rw [← same, unharmed]

/-- Flushing the sink leads to nothing of a batch. -/
theorem Delivery.flushSink_pushes {depot after : Depot} {agent next : Agent}
    (deed : Delivery depot agent .flushSink after next) (unharmed : next.crash = none) :
    ∃ pushed, next.tasks = pushed ++ agent.tasks ∧ ∀ new ∈ pushed, new.isDelivery = false := by
  -- A failed flush is told of, and telling is no delivery.
  cases deed with
  | flushSink => exact ⟨[], rfl, by simp⟩
  | flushFails => exact ⟨_, rfl, by simp [warn, Task.isDelivery]⟩
  | flushCrashes => simp [Agent.unwind] at unharmed

/-- A step keeps the last flush of an agent sealed, unless it gives up. -/
theorem SealsUnlessCrashed.after {manned : Bool} {depot after : Depot} {agent next : Agent}
    {task : Task}
    (seals : SealsUnlessCrashed depot { agent with tasks := task :: agent.tasks })
    (way : Course manned (duties (task :: agent.tasks)) ∨ Round (duties (task :: agent.tasks)))
    (deed : Deed depot agent task after next) : SealsUnlessCrashed after next := by
  -- What is not decided leaves the decisions as they are, and enters no phase while all is calm.
  obtain ⟨level, sealed, calm⟩ := seals
  refine ⟨level.after deed, fun unharmed => ?_, fun unharmed guard rest gives left => ?_⟩
  · have sealed := sealed (deed.crash unharmed)
    have closed := deed.closed
    have calm := calm (deed.crash unharmed)
    rcases deed with intake | delivery | duty
    · rw [duties_cons_of_neg intake.not_isDuty, ← intake.duties] at sealed
      exact sealed.mono closed fun _ _ phase => intake.phase.trans phase
    · rw [duties_cons_of_neg delivery.not_isDuty] at sealed calm
      rcases delivery.duties with same | ⟨crashed, _⟩
      · rw [same]
        refine sealed.mono closed fun rest left phase => ?_
        -- A flush would be about to begin above giving back, which calm tasks forbid.
        refine (delivery.phase fun trigger begins => ?_).trans phase
        have flush := calm .release rest rfl left task List.mem_cons_self delivery.isDelivery
        simp [begins] at flush
      · simp [unharmed] at crashed
    · -- A decision moves on along the course, or along the round.
      rw [duties_cons, if_pos duty.isDuty] at sealed way
      rcases way with course | round
      · exact course.sealed rfl duty sealed
      · exact round.sealed rfl duty sealed
  · have calm := calm (deed.crash unharmed)
    rcases deed with intake | delivery | duty
    · rw [duties_cons_of_neg intake.not_isDuty, ← intake.duties] at calm
      obtain ⟨pushed, same, _, inside⟩ := intake.pushes
      intro new member delivers
      rw [same] at member
      rcases List.mem_append.mp member with member | member
      · simp [Task.isDelivery_of_isIntake (inside new member)] at delivers
      · exact calm guard rest gives left new (List.mem_cons_of_mem _ member) delivers
    · rw [duties_cons_of_neg delivery.not_isDuty] at calm
      rcases delivery.duties with same | ⟨crashed, _⟩
      · rw [← same] at calm
        -- The only thing of a batch that may be done above is to flush the sink.
        obtain rfl := calm guard rest gives left task List.mem_cons_self delivery.isDelivery
        obtain ⟨pushed, joined, other⟩ := delivery.flushSink_pushes unharmed
        intro new member delivers
        rw [joined] at member
        rcases List.mem_append.mp member with member | member
        · simp [other new member] at delivers
        · exact calm guard rest gives left new (List.mem_cons_of_mem _ member) delivers
      · simp [unharmed] at crashed
    · rw [duties_cons, if_pos duty.isDuty] at way
      -- Level tasks have nothing of a batch below a decision.
      refine duty.calm way (fun old member delivers => ?_) gives left
      exact (List.pairwise_cons.mp level).1 old member duty.isDuty delivers

/-- An agent keeps its last flush sealed while others act, unless another phase is entered before it
gives the courier back. -/
theorem SealsUnlessCrashed.other {before after : Depot} {agent : Agent}
    (seals : SealsUnlessCrashed before agent)
    (closed : before.queue.closed = true → after.queue.closed = true)
    (phase : ∀ rest, duties agent.tasks = .release :: rest → before.phase = .stopped →
      after.phase = .stopped) : SealsUnlessCrashed after agent where
  -- Other agents change neither the tasks nor the crash of this one.
  level := seals.level
  sealed unharmed := (seals.sealed unharmed).mono closed phase
  calm := seals.calm

/-- Whoever calls has nothing to seal. -/
theorem SealsUnlessCrashed.ofCall (depot : Depot) (settings : Settings) (call : Call) :
    SealsUnlessCrashed depot (.ofTasks (call.tasks settings)) where
  -- A call begins with a decision that pushes nothing yet.
  level := by
    cases call <;>
      simp [Call.tasks, Agent.ofTasks, FlushOnlyBelow, Task.isDuty, Task.isIntake, Task.isDelivery]
  sealed _ := .of_not_mem <| by
    cases call <;>
      simp [Call.tasks, Agent.ofTasks, Task.isDuty, Task.isIntake, Task.isDelivery]
  calm _ _ _ _ _ := by
    cases call <;>
      simp [Call.tasks, Agent.ofTasks, Task.isDelivery]

/-- The courier is gone for good, and with it the queue. -/
structure CourierRetired (depot : Depot) : Prop where
  holder : depot.holder = .nobody
  closed : depot.queue.closed = true
  phase : depot.phase = .stopped

/-- All agents seal their last flush unless they gave up, and a thread that ended without a crash
left all sealed. -/
structure SealedAtExit (world : World) : Prop where
  agents : ∀ agent ∈ world.agents, SealsUnlessCrashed world.depot agent
  thread : world.depot.thread.hasBegun = true → world.depot.holder = .nobody →
    world.courier.crash = none → CourierRetired world.depot

namespace SealedAtExit

variable {world next : World}

/-- A step keeps the last flush of all other agents sealed. -/
theorem others (sealing : SealedAtExit world) (custody : Custody world) {left right : List Agent}
    {agent after : Agent} {task : Task} {depot : Depot}
    (split : world.agents = left ++ { agent with tasks := task :: agent.tasks } :: right)
    (deed : Deed world.depot agent task depot after) {other : Agent}
    (member : other ∈ left ++ right) : SealsUnlessCrashed depot other := by
  -- Nobody enters another phase while somebody else has the courier to give back.
  have among := Custody.other_mem split member
  refine (sealing.agents other among).other deed.closed fun rest left phase => ?_
  have has : .release ∈ other.tasks := by
    have decided : .release ∈ duties other.tasks := by simp [left]
    exact (List.mem_filter.mp decided).1
  -- It has the courier to give back, and the dormant courier has to begin first.
  have entrusted : world.depot.Entrusts other := by
    refine ⟨⟨.release, has, rfl⟩, fun dormant => ?_⟩
    simp [dormant, Task.isDuty, Task.isIntake, Task.isDelivery]
      at left
  rw [custody.phase_of_other split deed member entrusted, phase]

/-- A step leaves everything sealed once the courier is gone. -/
theorem retired_of_deed (custody : Custody world) (retired : CourierRetired world.depot)
    {left right : List Agent} {agent after : Agent} {task : Task} {depot : Depot}
    (split : world.agents = left ++ { agent with tasks := task :: agent.tasks } :: right)
    (deed : Deed world.depot agent task depot after) : CourierRetired depot := by
  -- Without the courier nobody enters a phase, and it is not there to be taken.
  obtain ⟨holder, closed, phase⟩ := retired
  refine ⟨?_, deed.closed closed, ?_⟩
  · rcases deed.holder with same | ⟨ready, _⟩ | ⟨_, rfl⟩
    · rw [same, holder]
    · simp [holder] at ready
    · rfl
  · rcases custody.phase_of_deed split deed with same | own | ⟨_, ready⟩ | ⟨last, _⟩
    · rw [same, phase]
    · exact absurd holder (custody.taken (Custody.agent_mem split) own).1
    · simp [holder] at ready
    · exact last

end SealedAtExit

/-- Nothing brings the courier back. -/
theorem Turn.retired {world next : World} (turn : Turn world next) (custody : Custody world)
    (retired : CourierRetired world.depot) : CourierRetired next.depot :=
  turn.preserves CourierRetired (fun _ _ _ => ⟨retired.holder, retired.closed, retired.phase⟩)
    fun split deed => SealedAtExit.retired_of_deed custody retired split deed

/-- The courier is gone from its thread exactly when it has at most to leave the thread. -/
theorem Post.ended_iff {depot : Depot} {courier : Agent} (post : Post depot courier) :
    depot.holder = .nobody ∧ depot.thread.hasBegun = true ↔
      courier.tasks = [.exit] ∨ courier.tasks = [] := by
  -- Before that the courier has yet to give itself back.
  cases post with
  | working holder _ _ _ upper bound => cases upper <;> simp [holder, bound]
  | leaving holder _ _ thread bound => simp [holder, thread, bound, Thread.hasBegun]
  | gone holder _ _ thread done =>
    cases crashed : courier.crash.isSome <;> simp [holder, thread, done, crashed, Thread.hasBegun]
  | desk holder _ _ _ dormant => simp [holder, dormant]
  | lent holder _ _ _ _ dormant => simp [holder, dormant]
  | returned _ _ _ _ thread dormant | lost _ _ _ _ thread dormant =>
    simp [thread, dormant, Thread.hasBegun]

namespace SealedAtExit

variable {world next : World}

/-- Before anything has happened there is nothing to seal. -/
theorem initial (depot : Depot) (alone : depot.thread = .none) : SealedAtExit (.initial depot) where
  -- The courier has all of its round before it.
  agents := by
    intro agent member
    obtain rfl : agent = .courier := by simpa using member
    refine ⟨?_, fun _ => ?_, fun _ _ _ _ _ => ?_⟩
    · simp [FlushOnlyBelow, Task.isDuty, Task.isIntake, Task.isDelivery]
    · exact .of_head (by simp) (by simp)
    · simp [Task.isDelivery]
  thread begun := by simp [alone, Thread.hasBegun] at begun

/-- The courier seals all before it gives itself back on its thread. -/
theorem retired_of_courier (sealing : SealedAtExit world) (custody : Custody world)
    {agent after : Agent} {task : Task} {depot : Depot}
    (own : world.courier = { agent with tasks := task :: agent.tasks })
    (deed : Deed world.depot agent task depot after) (gone : depot.holder = .nobody)
    (unharmed : after.crash = none) : CourierRetired depot := by
  -- At work it has itself, so the step gives it back; otherwise it was gone before.
  have split : world.agents =
      [] ++ { agent with tasks := task :: agent.tasks } :: world.callers := by
    simp [World.agents, own]
  have post := custody.post
  rw [own] at post
  cases post with
  | working holder =>
    rcases deed.holder with same | ⟨ready, _⟩ | ⟨rfl, released⟩
    · simp [same, holder] at gone
    · simp [holder] at ready
    · have seals := sealing.agents _ (Custody.agent_mem split)
      obtain ⟨closed, phase⟩ := (seals.sealed (deed.crash unharmed)).leaving _ rfl
      rw [released]
      exact ⟨rfl, closed, phase⟩
  | leaving holder _ _ thread bound =>
    refine retired_of_deed custody (sealing.thread ?_ holder ?_) split deed
    · simp [thread, Thread.hasBegun]
    · rw [own]
      exact deed.crash unharmed
  | gone _ _ _ _ done => simp at done
  | desk _ _ _ alone dormant | lent _ _ _ _ alone dormant | returned _ _ _ _ alone dormant
  | lost _ _ _ _ alone dormant => exact (Post.asleep (by simp [alone]) dormant deed).elim

/-- A turn keeps the last flush of all agents sealed, and the thread leaves all sealed. -/
theorem turn (sealing : SealedAtExit world) (custody : Custody world) (custody' : Custody next)
    (turn : Turn world next) : SealedAtExit next := by
  -- The thread leaves all sealed by the step of the courier that gives it back.
  cases turn with
  | act left right agent after task split joined deed =>
    have member := Custody.agent_mem split
    constructor
    · intro other among
      rw [joined] at among
      rcases List.mem_append.mp among with among | among
      · exact sealing.others custody split deed (List.mem_append_left _ among)
      · rcases List.mem_cons.mp among with rfl | among
        · exact (sealing.agents _ member).after (custody.way member) deed
        · exact sealing.others custody split deed (List.mem_append_right _ among)
    · intro running gone unharmed
      cases left with
      | nil =>
        rw [(List.cons.inj joined).1] at unharmed
        exact sealing.retired_of_courier custody (List.cons.inj split).1 deed gone unharmed
      | cons courier left =>
        -- A caller acts, so the courier is as it was and had ended before.
        obtain ⟨own, _⟩ := List.cons.inj split
        obtain ⟨own', _⟩ := List.cons.inj joined
        have same : next.courier = world.courier := by rw [own, own']
        have ended := custody'.post.ended_iff.mp ⟨gone, running⟩
        rw [same] at ended unharmed
        obtain ⟨holder, thread⟩ := custody.post.ended_iff.mpr ended
        exact retired_of_deed custody (sealing.thread thread holder unharmed) split deed
  | call call same joined =>
    obtain ⟨agents, thread⟩ := sealing
    constructor
    · intro agent among
      rw [joined] at among
      rw [same]
      rcases List.mem_append.mp among with among | among
      · exact agents agent among
      · rw [List.mem_singleton.mp among]
        exact .ofCall _ _ _
    · rw [same, show next.courier = world.courier from (List.cons.inj joined).1]
      exact thread
  | outside now wall permits elsewhere same =>
    obtain ⟨agents, thread⟩ := sealing
    constructor
    · intro agent among
      rw [same] at among
      rw [elsewhere]
      exact (agents agent among).other id fun _ _ phase => phase
    · rw [elsewhere, show next.courier = world.courier from (List.cons.inj same).1]
      intro running gone unharmed
      obtain ⟨holder, closed, phase⟩ := thread running gone unharmed
      exact ⟨holder, closed, phase⟩

end SealedAtExit

end LogCourier
