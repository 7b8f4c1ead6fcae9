import LogCourier.Proofs.Depot.Custody

/-!
Marking: an agent is marked as sending exactly while it is inside a send.

The mark is set as a send begins and put back as it ends, however it ends. Whoever was marked
before, because its call came from inside another send, is marked afterwards too.
-/

namespace LogCourier

namespace Task

/-- Whether a task is the end of a send. -/
def endsSend : Task → Bool
  | .settle .. => true
  | _ => false

end Task

namespace Agent

/-- Whether an agent is inside a send: the end of one is still before it. -/
def isInside (agent : Agent) : Bool :=
  agent.tasks.any Task.endsSend

/-- What an agent comes to by steps of its own, whatever the depot is at each of them. -/
inductive Becomes (first : Agent) : Agent → Prop where
  | refl : Becomes first first
  | step {agent next : Agent} {choice : Choice} {before after : Depot}
      (earlier : Becomes first agent) (acted : agent.step choice before = some (after, next)) :
      Becomes first next

end Agent

/-- An agent is marked inside a send, and otherwise as it was when it called. -/
structure MarkedInside (outside : Bool) (agent : Agent) : Prop where
  orderly : BatchlessBelow agent.tasks
  mark : agent.sending = (outside || agent.isInside)
  /-- The end of a send puts back what was there before it. -/
  restores : ∀ wasSending batch outcome,
    .settle wasSending batch outcome ∈ agent.tasks → wasSending = outside

/-- Nothing that is handed in begins or ends a send. -/
theorem Intake.sending {depot after : Depot} {agent next : Agent} {task : Task}
    (deed : Intake depot agent task after next) : next.sending = agent.sending := by
  cases deed <;> rfl

/-- No decision about the courier begins or ends a send, or leads to the end of one. -/
theorem Duty.sending {depot after : Depot} {agent next : Agent} {task : Task}
    (deed : Duty depot agent task after next) :
    next.sending = agent.sending ∧ ∃ pushed, next.tasks = pushed ++ agent.tasks ∧
      ∀ new ∈ pushed, new.endsSend = false := by
  -- A call that has stopped the courier may still flush the sink.
  cases deed
  case takeCourier | takeNobody | join =>
    refine ⟨rfl, _, rfl, ?_⟩
    unfold Depot.conclusion
    split <;> simp [Task.endsSend]
  all_goals first
    | exact ⟨rfl, [], rfl, by simp⟩
    | exact ⟨rfl, _, rfl, by simp [Task.endsSend]⟩

/-- Below a task that is not done inside others no send has its end to come. -/
theorem BatchlessBelow.any_endsSend {task : Task} {rest : List Task}
    (orderly : BatchlessBelow (task :: rest))
    (outer : task.isInner = false) : rest.any Task.endsSend = false := by
  -- What stands there has no batch.
  refine List.any_eq_false.mpr fun below member => ?_
  -- The end of a send belongs to a batch.
  have unbatched := (((List.pairwise_cons.mp orderly).1 below member).resolve_left
    (by simp [outer])).2
  cases below <;> first | simp [Task.endsSend]; done | cases unbatched

namespace MarkedInside

variable {outside : Bool} {depot later : Depot} {agent next : Agent} {task : Task}

/-- Before the first step a call has the mark of whoever calls. -/
theorem ofCall (settings : Settings) (call : Call) (outside : Bool) :
    MarkedInside outside { Agent.ofTasks (call.tasks settings) with sending := outside } where
  orderly := by
    -- A call holds no batch, so that nothing of it lies inside a send.
    cases call <;>
      simp [Call.tasks, Agent.ofTasks, BatchlessBelow, Task.isInner, Task.isIntake, Task.isBatch]
  mark := by cases call <;> simp [Call.tasks, Agent.ofTasks, Agent.isInside, Task.endsSend]
  restores := by cases call <;> simp [Call.tasks, Agent.ofTasks]

/-- An agent whose tasks hold no end of a send has the mark with which it called. -/
theorem ofUnended (orderly : BatchlessBelow next.tasks)
    (unended : next.tasks.any Task.endsSend = false)
    (mark : next.sending = outside) : MarkedInside outside next where
  orderly := orderly
  -- Without the end of a send among the tasks nobody is inside one.
  mark := by simp [Agent.isInside, unended, mark]
  restores wasSending batch outcome member := by
    have ends := List.any_eq_false.mp unended _ member
    simp [Task.endsSend] at ends

/-- An agent that is about to begin something outermost has the mark with which it called. -/
theorem outer (marked : MarkedInside outside { agent with tasks := task :: agent.tasks })
    (other : task.isInner = false) (ends : task.endsSend = false) : agent.sending = outside := by
  simpa [Agent.isInside, ends, marked.orderly.any_endsSend other] using marked.mark

/-- A step that neither begins nor ends a send keeps the mark. -/
theorem carry (marked : MarkedInside outside { agent with tasks := task :: agent.tasks })
    (orderly : BatchlessBelow next.tasks) (other : task.endsSend = false)
    (same : next.sending = agent.sending) {pushed : List Task}
    (tasks : next.tasks = pushed ++ agent.tasks)
    (none : ∀ new ∈ pushed, new.endsSend = false) : MarkedInside outside next where
  orderly := orderly
  mark := by
    -- Nothing that is pushed ends a send, so that the mark is read off the tasks below.
    have unended : pushed.any Task.endsSend = false := by simpa using none
    rw [same, Agent.isInside, tasks, List.any_append, unended, Bool.false_or]
    simpa [Agent.isInside, other] using marked.mark
  restores wasSending batch outcome member := by
    rw [tasks] at member
    rcases List.mem_append.mp member with member | member
    · exact absurd (none _ member) (by simp [Task.endsSend])
    · exact marked.restores wasSending batch outcome (List.mem_cons_of_mem _ member)

/-- Whatever an agent does, it is marked exactly inside a send afterwards too. -/
theorem after (marked : MarkedInside outside { agent with tasks := task :: agent.tasks })
    (deed : Deed depot agent task later next) : MarkedInside outside next := by
  -- A send sets the mark, its end puts it back, and a crash comes only outside of sends.
  have orderly := marked.orderly.after deed
  rcases deed with intake | delivery | duty
  · obtain ⟨pushed, same, _, inside⟩ := intake.pushes
    have ends {new : Task} (inner : new.isIntake = true) : new.endsSend = false := by
      cases new <;> first | rfl | cases inner
    exact marked.carry orderly (ends intake.isIntake) intake.sending same
      fun new member => ends (inside new member)
  · have below (other : task.isInner = false) := marked.orderly.any_endsSend other
    have unwound (crash : Crash) (orderly : BatchlessBelow (agent.unwind crash).tasks)
        (other : task.isInner = false) (ends : task.endsSend = false) :
        MarkedInside outside (agent.unwind crash) := by
      refine .ofUnended orderly ?_ (marked.outer other ends)
      refine List.any_eq_false.mpr fun kept member => ?_
      exact List.any_eq_false.mp (below other) kept (List.mem_filter.mp member).1
    cases delivery with
    | send batch timeout reply =>
      have before := marked.outer rfl rfl
      refine ⟨orderly, by simp [Agent.push, Agent.isInside, Task.endsSend], ?_⟩
      intro wasSending ended outcome member
      rcases List.mem_append.mp member with member | member
      · -- The end of this send puts back what was there before it.
        refine forall_mem_inside (motive := fun new => ∀ was batch outcome,
          new = .settle was batch outcome → was = outside) reply ?_ ?_ ?_ ?_ _ member _ _ _ rfl
        · simp
        · simp
        · simp
        · intro was _ _ same
          cases same
          exact before
      · have ends := List.any_eq_false.mp (below rfl) _ member
        simp [Task.endsSend] at ends
    | deliver wasSending batch =>
      exact .ofUnended orderly (below rfl) (marked.restores _ _ _ List.mem_cons_self)
    | giveUp wasSending batch outcome error =>
      refine .ofUnended orderly ?_ (marked.restores _ _ _ List.mem_cons_self)
      rw [Agent.push, List.any_append, below rfl]
      split <;> simp [warn, Task.endsSend]
    | showCrashes _ _ crash => exact unwound crash orderly rfl rfl
    | flushCrashes crash => exact unwound crash orderly rfl rfl
    | drain trigger =>
      exact marked.carry orderly rfl rfl rfl (by
        cases trigger <;> simp [Trigger.counter?, Task.endsSend])
    | _ =>
      first
      | exact marked.carry orderly rfl rfl rfl (by simp [warn, Task.endsSend])
      | exact marked.carry orderly rfl rfl (List.nil_append _).symm (by simp)
  · obtain ⟨same, pushed, tasks, none⟩ := duty.sending
    have ends : task.endsSend = false := by
      have kind := duty.isDuty
      cases task <;> first | rfl | cases kind
    exact marked.carry orderly ends same tasks none

/-- Whoever calls, from inside another send or not, and whatever others do meanwhile, is marked
exactly inside a send, and otherwise as before. -/
theorem becomes {settings : Settings} {call : Call} (becomes :
      { Agent.ofTasks (call.tasks settings) with sending := outside }.Becomes agent) :
    MarkedInside outside agent := by
  -- Induction on the steps of the agent.
  induction becomes with
  | refl => exact .ofCall settings call outside
  | step _ acted ih =>
    obtain ⟨task, rest, rfl, deed⟩ := Agent.deed_of_step acted
    exact ih.after deed

/-- In every world that comes about, everybody is marked exactly inside a send. -/
theorem reachable {depot : Depot} {world : World} (run : World.Reachable (.initial depot) world) :
    ∀ agent ∈ world.agents, MarkedInside false agent := by
  -- Induction on the run: nobody is marked at first, and callers come unmarked.
  induction run with
  | refl =>
    intro agent member
    rw [List.mem_singleton.mp member]
    refine .ofUnended ?_ rfl rfl
    simp [BatchlessBelow, Task.isInner, Task.isIntake, Task.isBatch]
  | step _ change ih =>
    cases change.turn with
    | act left right acting after task split joined deed =>
      have acting := ih { acting with tasks := task :: acting.tasks } (by simp [split])
      exact forall_mem_replaced split joined ih (acting.after deed)
    | call call _ joined => exact forall_mem_joined joined ih (.ofCall _ call false)
    | outside _ _ _ _ same =>
      rw [same]
      exact ih

end MarkedInside

end LogCourier
