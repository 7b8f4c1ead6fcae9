import LogCourier.Proofs.Depot.Marking
import Mathlib.Tactic.Simps.Basic

/-!
Muting: the records that the transport hands to the bridge inside a send can be left out.

A world in which such records arise is matched, change by change, by one in which they never do, and
the other way round. Only the step that passes a record over has no counterpart.
-/

namespace LogCourier

namespace Reply

/-- The reply without its records. -/
def muted (reply : Reply) : Reply :=
  { reply with records := [] }

end Reply

namespace Script

/-- The same ends of all calls, without the records that arise inside sends. -/
def muted (script : Script) : Script :=
  { script with replies := script.replies.map Reply.muted }

/-- Without records the next send ends the same way. -/
theorem nextReply_muted (script : Script) :
    script.muted.nextReply = (script.nextReply.1.muted, script.nextReply.2.muted) := by
  obtain ⟨replies, writes, flushes, threads⟩ := script
  cases replies <;> rfl

/-- Records have nothing to do with threads. -/
theorem nextThread_muted (script : Script) :
    script.muted.nextThread = (script.nextThread.1.muted, script.nextThread.2) :=
  rfl

end Script

namespace Task

/-- Whether a task hands a record to the bridge. -/
def isBridge : Task → Bool
  | .bridge _ => true
  | _ => false

end Task

namespace Agent

/-- The agent without the records that it still has to hand to the bridge inside a send. -/
def muted (agent : Agent) : Agent :=
  { agent with
    tasks := if agent.sending then agent.tasks.filter (!·.isBridge) else agent.tasks }

/-- Outside a send nothing is left out. -/
theorem muted_of_not_sending {agent : Agent} (outside : agent.sending = false) :
    agent.muted = agent := by
  unfold muted
  rw [if_neg (by simp [outside])]

/-- What is not a record is never left out. -/
theorem push_muted (agent : Agent) {tasks : List Task}
    (none : ∀ new ∈ tasks, new.isBridge = false) :
    agent.muted.push tasks = (agent.push tasks).muted := by
  -- The new tasks pass the filter as a whole.
  have kept : tasks.filter (!·.isBridge) = tasks :=
    List.filter_eq_self.mpr fun new member => by simp [none new member]
  cases mark : agent.sending <;> simp [muted, push, mark, kept]

/-- After a crash there are no records left. -/
theorem unwind_muted (agent : Agent) (crash : Crash) :
    agent.muted.unwind crash = (agent.unwind crash).muted := by
  -- No record is among what must be put back.
  have apart (tasks : List Task) :
      (tasks.filter (!·.isBridge)).filter Task.isCleanup = tasks.filter Task.isCleanup := by
    rw [List.filter_filter]
    refine List.filter_congr fun task _ => ?_
    cases task <;> rfl
  have kept (tasks : List Task) :
      (tasks.filter Task.isCleanup).filter (!·.isBridge) = tasks.filter Task.isCleanup := by
    rw [List.filter_filter]
    refine List.filter_congr fun task _ => ?_
    cases task <;> rfl
  cases mark : agent.sending <;> simp only [muted, unwind, mark, if_true, if_false, apart, kept,
    Bool.false_eq_true]

end Agent

namespace Depot

/-- The depot with the records that arise inside sends removed from what lies ahead. -/
@[simps] def muted (depot : Depot) : Depot :=
  { depot with script := depot.script.muted }

end Depot

/-- Below a task that is not done inside others there are no records. -/
theorem BatchlessBelow.bridgeless {task : Task} {rest : List Task}
    (orderly : BatchlessBelow (task :: rest))
    (outer : task.isInner = false) : rest.filter (!·.isBridge) = rest := by
  -- Handing a record to the bridge is done inside something else.
  refine List.filter_eq_self.mpr fun below member => ?_
  have place := (((List.pairwise_cons.mp orderly).1 below member).resolve_left
    (by simp [outer])).1
  cases below <;> first | rfl | cases place

/-- Handing in an event leads to no records. -/
theorem Depot.acceptance_bridgeless {depot : Depot} {event : Event} :
    ∀ new ∈ depot.acceptance event, new.isBridge = false := by
  -- It leads to the banner, the echo and the queue.
  intro new member
  simp only [Depot.acceptance, List.mem_append] at member
  rcases member with (member | member) | member <;> split at member <;>
    (try split at member) <;> simp_all [Task.isBridge]

/-- Concluding a call leads to no records. -/
theorem Depot.conclusion_bridgeless (depot : Depot) :
    ∀ new ∈ depot.conclusion, new.isBridge = false := by
  unfold Depot.conclusion
  split <;> simp [Task.isBridge]

/-- Without the records an event comes to the queue the same way. -/
theorem Depot.append_muted {depot : Depot} {agent : Agent} {event : Event} :
    depot.muted.append agent.muted event =
      ((depot.append agent event).1.muted, (depot.append agent event).2.muted) := by
  -- Which event leaves, if one does, does not depend on what lies ahead.
  simp only [append, muted_queue, muted_now]
  obtain ⟨queue, entry⟩ := depot.queue.push depot.now event
  refine Prod.ext ?_ (agent.push_muted (by split <;> simp [Task.isBridge]))
  cases entry <;> cases depot.queue.waiting <;> rfl

/-- Without the records a send differs only by handing none to the bridge. -/
theorem Depot.send_muted {depot : Depot} {agent : Agent} {batch : List Event} {timeout : Span}
    (bridgeless : agent.tasks.filter (!·.isBridge) = agent.tasks) :
    depot.muted.send agent batch timeout =
      ((depot.send agent batch timeout).1.muted, (depot.send agent batch timeout).2.muted) := by
  -- Of all that follows a send only the records are left out.
  refine Prod.ext ?_ ?_
  · simp only [send, muted_script, Script.nextReply_muted]
    rfl
  · have silent (records : List Record) :
        (records.map Task.bridge).filter (!·.isBridge) = [] := by simp [Task.isBridge]
    have spoken (remarks : List (Severity × String)) :
        (remarks.map fun pair : Severity × String =>
          Task.submit (Submission.ofMessage pair.1 pair.2)).filter (!·.isBridge) =
        remarks.map fun pair => Task.submit (Submission.ofMessage pair.1 pair.2) := by
      refine List.filter_eq_self.mpr fun new member => ?_
      obtain ⟨_, _, rfl⟩ := List.mem_map.mp member
      rfl
    have paused (waits : Bool) : (if waits then [Task.await] else []).filter (!·.isBridge) =
        if waits then [Task.await] else [] := by cases waits <;> rfl
    simp only [send, muted_script, Script.nextReply_muted, Reply.muted, Agent.push, Agent.muted,
      if_true, List.filter_append, silent, spoken, paused, bridgeless, List.map_nil,
      List.nil_append]
    rfl

/-- Without the records a send ends the same way. -/
theorem Depot.settle_muted {depot : Depot} {agent : Agent} {batch : List Event} {outcome : Outcome}
    (bridgeless : agent.tasks.filter (!·.isBridge) = agent.tasks) :
    depot.muted.settle agent.muted false batch outcome =
      ((depot.settle agent false batch outcome).1.muted,
        (depot.settle agent false batch outcome).2.muted) := by
  -- Nothing below the end of a send was left out, and afterwards nothing is.
  have restored : { agent.muted with sending := false } = { agent with sending := false } := by
    cases mark : agent.sending <;> simp [Agent.muted, mark, bridgeless]
  simp only [settle, note, restored, muted_settings, muted_transportName]
  split
  · rfl
  · exact Prod.ext rfl (Agent.muted_of_not_sending rfl).symm

/-- Without the records a batch that failed is shown the same way. -/
theorem Depot.fallBack_muted {depot : Depot} {agent : Agent} {events : List Event} :
    depot.muted.fallBack agent.muted events =
      ((depot.fallBack agent events).1.muted, (depot.fallBack agent events).2.muted) := by
  -- Leaving out records of sends does not touch what the sink will answer.
  cases events with
  | nil => exact Prod.ext rfl (agent.push_muted (by simp [Task.isBridge]))
  | cons event rest =>
    refine Prod.ext rfl ?_
    simp only [fallBack, muted_script, Script.nextWrite, Script.muted]
    split
    · exact agent.push_muted (by simp [Task.isBridge])
    · exact agent.push_muted (by simp [warn, Task.isBridge])
    · exact agent.unwind_muted _

/-- Without the records the sink is flushed the same way. -/
theorem Depot.flushSink_muted {depot : Depot} {agent : Agent} :
    depot.muted.flushSink agent.muted =
      ((depot.flushSink agent).1.muted, (depot.flushSink agent).2.muted) := by
  -- The sink answers as before.
  refine Prod.ext rfl ?_
  simp only [flushSink, muted_script, Script.nextFlush, Script.muted]
  split
  · rfl
  · exact agent.push_muted (by simp [warn, Task.isBridge])
  · exact agent.unwind_muted _

/-- Without the records a task does the same. -/
theorem Depot.act_muted {depot : Depot} {agent : Agent} {choice : Choice} {task : Task}
    (marked : MarkedInside false { agent with tasks := task :: agent.tasks })
    (heard : task.isBridge = true → agent.sending = false) :
    depot.muted.act agent.muted choice task =
      (depot.act agent choice task).map fun result => (result.1.muted, result.2.muted) := by
  -- Most tasks push further ones, of which none is a record.
  have pushed {before after : Depot} {tasks : List Task} (same : after = before.muted)
      (none : ∀ new ∈ tasks, new.isBridge = false) :
      some (after, agent.muted.push tasks) =
        (some (before, agent.push tasks)).map fun result => (result.1.muted, result.2.muted) :=
    congrArg some (Prod.ext same (agent.push_muted none))
  cases task with
  | submit submission => exact pushed rfl acceptance_bridgeless
  | bridge record =>
    rw [Agent.muted_of_not_sending (heard rfl), act, act]
    have kept {other : Agent} (outside : other.sending = false) :
        some (depot.muted, other) =
          (some (depot, other)).map fun result => (result.1.muted, result.2.muted) :=
      congrArg some (Prod.ext rfl (Agent.muted_of_not_sending outside).symm)
    refine kept ?_
    split <;> exact heard rfl
  | claimBanner =>
    simp only [act, claimBanner, muted_armed]
    split
    · exact congrArg some
        (Prod.ext rfl ((agent.reply true).push_muted (by simp [warn, Task.isBridge])))
    · rfl
  | echo event =>
    simp only [act, echo, muted_script, muted_sinkName, Script.muted, Script.nextWrite]
    split
    · exact pushed rfl (by simp [Task.isBridge])
    · exact pushed rfl (by simp [warn, Task.isBridge])
  | append event => exact congrArg some append_muted
  | drain trigger =>
    simp only [act, drain, muted_queue]
    split
    · rfl
    · exact pushed rfl (by cases trigger <;> simp [Trigger.counter?, Task.isBridge])
  | send batch timeout =>
    rw [Agent.muted_of_not_sending (marked.outer rfl rfl)]
    exact congrArg some (send_muted (marked.orderly.bridgeless rfl))
  | settle wasSending batch outcome =>
    have unmarked := marked.restores _ _ _ List.mem_cons_self
    subst unmarked
    exact congrArg some (settle_muted (marked.orderly.bridgeless rfl))
  | fallBack events => exact congrArg some fallBack_muted
  | flushSink => exact congrArg some flushSink_muted
  | select tick wake =>
    cases choice with
    | signal =>
      simp only [act, select, muted_queue]
      split
      · exact pushed rfl (by simp [Task.isBridge])
      · rfl
    | order =>
      simp only [act, select, muted_orders]
      split
      · rfl
      · exact pushed rfl (by simp [Task.isBridge])
      · exact pushed rfl (by simp [Task.isBridge])
    | timer =>
      simp only [act, select, muted_now]
      split
      · exact pushed rfl (by simp [Task.isBridge])
      · rfl
  | takeOver timeout =>
    have concluding := depot.muted.conclusion_bridgeless
    simp only [act, takeOver, muted_locked, muted_handle, muted_holder]
    repeat' split
    · rfl
    · exact pushed rfl (by simp [Task.isBridge])
    · exact pushed rfl (by simpa [Task.isBridge] using concluding)
    · exact pushed rfl (by simpa [Task.isBridge] using concluding)
  | join since timeout =>
    simp only [act, join, muted_thread, muted_now]
    split
    · exact pushed rfl depot.conclusion_bridgeless
    · rfl
    · split <;> rfl
  | flushFor | finish | idle | schedule | plan | retick =>
    exact pushed rfl (by simp [Task.isBridge])
  | reportLosses =>
    simp only [act, reportLosses, muted_tally]
    split <;> rfl
  | hire =>
    simp only [act, hire, muted_locked, muted_handle, muted_holder, muted_script,
      Script.nextThread_muted]
    -- A thread is granted or refused in the same way.
    cases depot.script.nextThread.2 <;> (repeat' split) <;> rfl
  | checkBanner | offer | begin | checkFull | checkAge | start | flush | stop | await | signal
  | closeQueue | checkReady | order | dismiss =>
    simp only [act, signal, closeQueue, checkReady, order, dismiss, muted_armed,
      muted_stopped, muted_thread, muted_queue, muted_now, muted_settings, muted_permits,
      muted_listening, muted_locked, muted_handle, muted_holder]
    repeat' split
    all_goals first
      | rfl
      | exact pushed rfl (by simp [Task.isBridge])
  | _ => rfl

namespace World

/-- The world without the records that arise inside sends. -/
def muted (world : World) : World :=
  ⟨world.depot.muted, world.courier.muted, world.callers.map Agent.muted⟩

end World

/-- The place of one agent among all others. -/
inductive Seat where
  | courier (callers : List Agent)
  | caller (courier : Agent) (left right : List Agent)

namespace Seat

/-- The world with an agent in this place. -/
def world : Seat → Depot → Agent → World
  | .courier callers, depot, agent => ⟨depot, agent, callers⟩
  | .caller other left right, depot, agent => ⟨depot, other, left ++ agent :: right⟩

/-- The place without the records that arise inside sends of the others. -/
def muted : Seat → Seat
  | .courier callers => .courier (callers.map Agent.muted)
  | .caller other left right => .caller other.muted (left.map Agent.muted) (right.map Agent.muted)

/-- Records are left out of the world by leaving them out everywhere. -/
theorem world_muted (seat : Seat) (depot : Depot) (agent : Agent) :
    (seat.world depot agent).muted = seat.muted.world depot.muted agent.muted := by
  -- Agent by agent.
  cases seat <;> simp [world, muted, World.muted]

/-- Whoever has a place in a world without records has it in the world with them. -/
theorem eq_of_world_muted {seat : Seat} {depot : Depot} {agent : Agent} {world : World}
    (silent : world.muted = seat.world depot agent) :
    ∃ (place : Seat) (before : Depot) (actor : Agent), world = place.world before actor ∧
      place.muted = seat ∧ before.muted = depot ∧ actor.muted = agent := by
  obtain ⟨before, first, callers⟩ := world
  -- Muting keeps the list of agents as long as it is, so that a place on one side is one on the
  -- other.
  cases seat with
  | courier others =>
    obtain ⟨rfl, rfl, rfl⟩ := World.mk.inj silent
    exact ⟨.courier callers, before, first, rfl, rfl, rfl, rfl⟩
  | caller other left right =>
    obtain ⟨rfl, rfl, split⟩ := World.mk.inj silent
    obtain ⟨upper, lower, rfl, rfl, tail⟩ := List.map_eq_append_iff.mp split
    obtain ⟨actor, under, rfl, rfl, rfl⟩ := List.map_eq_cons_iff.mp tail
    exact ⟨.caller first upper under, before, actor, rfl, rfl, rfl, rfl⟩

/-- All agents of a world, with one of them in its place. -/
theorem agents_world (seat : Seat) : ∃ left right, ∀ depot agent,
    (seat.world depot agent).agents = left ++ agent :: right := by
  -- The courier stands first, and the callers behind it in their order.
  cases seat with
  | courier callers => exact ⟨[], callers, fun _ _ => rfl⟩
  | caller other left right => exact ⟨other :: left, right, fun _ _ => rfl⟩

end Seat

namespace Agent

/-- What the transport logs directly, if the next step of an agent begins a send. -/
def remarks (agent : Agent) (depot : Depot) : List Submission :=
  match agent.tasks with
  | .send .. :: _ =>
    depot.script.nextReply.2.remarks.map fun remark => Submission.ofMessage remark.1 remark.2
  | _ => []

end Agent

namespace Call

/-- What a call asks to be handed in; a record must be severe enough. -/
def submissions (threshold : Threshold) : Call → List Submission
  | submit submission => [submission]
  | bridge record => if threshold.admits record.severity then [record.submission] else []
  | _ => []

end Call

namespace World

/-- A change of a world, with what is asked to be handed in by it. -/
inductive Change : World → List Submission → World → Prop where
  /-- An agent takes a step. -/
  | act (seat : Seat) {before after : Depot} {agent next : Agent} (choice : Choice)
      (acted : agent.step choice before = some (after, next)) :
      Change (seat.world before agent) (agent.remarks before) (seat.world after next)
  /-- Somebody calls. -/
  | call (world : World) (call : Call) :
      Change world (call.submissions world.depot.threshold)
        { world with callers := world.callers ++ [.ofTasks (call.tasks world.depot.settings)] }
  | clock (world : World) (instant : Nat) (later : world.depot.now ≤ instant) :
      Change world [] { world with depot := { world.depot with now := instant } }
  | wall (world : World) (instant : Timestamp) :
      Change world [] { world with depot := { world.depot with wall := instant } }
  | letGo (world : World) :
      Change world []
        { world with depot := { world.depot with permits := world.depot.permits + 1 } }

/-- The ways in which a world can come about, with what was asked to be handed in meanwhile. -/
inductive History (start : World) : List Submission → World → Prop where
  | refl : History start [] start
  | step {world next : World} {asked more : List Submission} (before : History start asked world)
      (change : Change world more next) : History start (asked ++ more) next

variable {start world next : World} {asked : List Submission}

/-- Each of these changes is a change of the world. -/
theorem Change.toStep (change : Change world asked next) : Step world next := by
  cases change with
  | act seat choice acted =>
    -- The two kinds of places are the two kinds of steps that an agent can take.
    cases seat with
    | courier => exact .courier choice acted
    | caller => exact .caller choice acted
  | call _ call => exact .call _ call
  | clock _ instant later => exact .clock _ instant later
  | wall _ instant => exact .wall _ instant
  | letGo => exact .letGo _

/-- In each change of a world something is asked to be handed in, or nothing. -/
theorem Step.change (step : Step world next) : ∃ asked, Change world asked next := by
  -- The place of whoever acts is read off the step; all else is no agent's doing.
  cases step with
  | @courier callers _ _ _ _ choice acted => exact ⟨_, .act (.courier callers) choice acted⟩
  | @caller courier left right _ _ _ _ choice acted =>
    exact ⟨_, .act (.caller courier left right) choice acted⟩
  | call _ call => exact ⟨_, .call _ call⟩
  | clock _ instant later => exact ⟨_, .clock _ instant later⟩
  | wall _ instant => exact ⟨_, .wall _ instant⟩
  | letGo => exact ⟨_, .letGo _⟩

/-- A world can come about exactly if it has a history. -/
theorem reachable_iff_history : Reachable start world ↔ ∃ asked, History start asked world := by
  -- Change by change, in both directions.
  constructor
  · intro run
    induction run with
    | refl => exact ⟨[], .refl⟩
    | step _ step ih =>
      obtain ⟨asked, history⟩ := ih
      obtain ⟨more, change⟩ := step.change
      exact ⟨_, history.step change⟩
  · rintro ⟨asked, history⟩
    induction history with
    | refl => exact .refl
    | step _ change ih => exact ih.step change.toStep

/-- Whoever is part of a history is marked exactly inside a send. -/
theorem History.marked {depot : Depot} (history : History (.initial depot) asked world) :
    ∀ agent ∈ world.agents, MarkedInside false agent :=
  MarkedInside.reachable (reachable_iff_history.mpr ⟨asked, history⟩)

end World

/-- Whether the next step of an agent is not to be seen without the records: it hands a record to
the bridge inside a send. -/
def Agent.isIdle (agent : Agent) : Bool :=
  agent.sending && (agent.tasks.head?.map Task.isBridge).getD false

namespace Agent

variable {agent next : Agent} {choice : Choice} {before after : Depot}

/-- Handing a record to the bridge inside a send does nothing. -/
theorem step_of_isIdle (idle : agent.isIdle = true)
    (acted : agent.step choice before = some (after, next)) :
    after = before ∧ next.muted = agent.muted ∧ agent.remarks before = [] := by
  -- Inside a send no record passes.
  obtain ⟨tasks, mark, answer, crash⟩ := agent
  obtain ⟨rfl, bridge⟩ := Bool.and_eq_true_iff.mp idle
  cases tasks with
  | nil => cases bridge
  | cons task rest =>
    cases task with
    | bridge record =>
      simp only [step, Depot.act, Record.passes, Bool.not_true, Bool.and_false, Bool.false_eq_true,
        if_false, Option.some.injEq, Prod.mk.injEq] at acted
      obtain ⟨rfl, rfl⟩ := acted
      exact ⟨rfl, by simp [muted, Task.isBridge], rfl⟩
    | _ => cases bridge

/-- Every other step is the same without the records. -/
theorem step_muted (marked : MarkedInside false agent) (busy : agent.isIdle = false) :
    agent.muted.step choice before.muted =
        (agent.step choice before).map (fun result => (result.1.muted, result.2.muted)) ∧
      agent.muted.remarks before.muted = agent.remarks before := by
  -- The first task is not left out.
  obtain ⟨tasks, mark, answer, crash⟩ := agent
  cases tasks with
  | nil => cases mark <;> exact ⟨rfl, rfl⟩
  | cons task rest =>
    have heard : task.isBridge = true → mark = false := by
      intro bridge
      simpa [isIdle, bridge] using busy
    have shown : (⟨task :: rest, mark, answer, crash⟩ : Agent).muted =
        { (⟨rest, mark, answer, crash⟩ : Agent).muted with
          tasks := task :: (⟨rest, mark, answer, crash⟩ : Agent).muted.tasks } := by
      cases mark <;> cases bridge : task.isBridge <;> simp_all [muted]
    rw [shown]
    refine ⟨@Depot.act_muted before ⟨rest, mark, answer, crash⟩ choice task marked heard, ?_⟩
    -- Only a send draws on what lies ahead.
    cases task <;> first
      | rfl
      | simp only [remarks, Depot.muted_script, Script.nextReply_muted, Reply.muted]

end Agent

namespace World

variable {start world next : World} {asked more : List Submission}

/-- A change of a world is one of the world without the records too, or is not to be seen there. -/
theorem Change.muted (marked : ∀ agent ∈ world.agents, MarkedInside false agent)
    (change : Change world more next) :
    next.muted = world.muted ∧ more = [] ∨ Change world.muted more next.muted := by
  -- Nothing but a record that is passed over is not to be seen.
  cases change with
  | @act seat before after agent acting choice acted =>
    obtain ⟨left, right, among⟩ := seat.agents_world
    have own : MarkedInside false agent := marked agent (by simp [among])
    rw [seat.world_muted, seat.world_muted]
    cases idle : agent.isIdle with
    | true =>
      obtain ⟨rfl, same, none⟩ := Agent.step_of_isIdle idle acted
      exact .inl ⟨by rw [same], none⟩
    | false =>
      obtain ⟨acts, same⟩ := @Agent.step_muted agent choice before own idle
      rw [acted] at acts
      exact .inr (same ▸ .act seat.muted choice acts)
  | call _ call =>
    right
    have callers : ({ world with callers :=
        world.callers ++ [.ofTasks (call.tasks world.depot.settings)] } : World).muted =
        { world.muted with callers :=
          world.muted.callers ++ [.ofTasks (call.tasks world.muted.depot.settings)] } := by
      simp [World.muted, Agent.muted, Agent.ofTasks]
    rw [callers]
    exact .call world.muted call
  | clock _ instant later => exact .inr (.clock world.muted instant later)
  | wall _ instant => exact .inr (.wall world.muted instant)
  | letGo => exact .inr (.letGo world.muted)

/-- Every history is one without the records too. -/
theorem History.muted {depot : Depot} (history : History (.initial depot) asked world) :
    History (.initial depot.muted) asked world.muted := by
  -- Change by change.
  induction history with
  | refl => exact .refl
  | step before change ih =>
    rcases change.muted before.marked with ⟨same, rfl⟩ | change
    · rw [same, List.append_nil]
      exact ih
    · exact ih.step change

/-- Whoever has records to hand to the bridge inside a send can get past them. -/
theorem History.skip {seat : Seat} {depot : Depot} :
    ∀ {agent : Agent}, History start asked (seat.world depot agent) →
      ∃ later : Agent, History start asked (seat.world depot later) ∧
        later.isIdle = false ∧ later.muted = agent.muted := by
  -- Induction on the tasks: each record is passed over in a step of its own.
  rintro ⟨tasks, mark, answer, crash⟩ history
  induction tasks with
  | nil => exact ⟨_, history, by simp [Agent.isIdle], rfl⟩
  | cons task rest ih =>
    cases idle : (⟨task :: rest, mark, answer, crash⟩ : Agent).isIdle with
    | false => exact ⟨_, history, idle, rfl⟩
    | true =>
      obtain ⟨rfl, bridge⟩ := Bool.and_eq_true_iff.mp idle
      cases task with
      | bridge record =>
        have acted : (⟨.bridge record :: rest, true, answer, crash⟩ : Agent).step .signal depot =
            some (depot, ⟨rest, true, answer, crash⟩) := by
          simp [Agent.step, Depot.act, Record.passes]
        obtain ⟨_, same, none⟩ := Agent.step_of_isIdle idle acted
        have passed := history.step (.act seat .signal acted)
        rw [none, List.append_nil] at passed
        obtain ⟨later, reached, busy, alike⟩ := ih passed
        exact ⟨later, reached, busy, alike.trans same⟩
      | _ => cases bridge

/-- Every history without the records is one with them, where they have been left out. -/
theorem History.unmuted {depot : Depot} (history : History (.initial depot.muted) asked world) :
    ∃ noisy, History (.initial depot) asked noisy ∧ noisy.muted = world := by
  -- Change by change; whoever acts gets past its records first.
  induction history with
  | refl => exact ⟨_, .refl, rfl⟩
  | step _ change ih =>
    obtain ⟨noisy, history, silent⟩ := ih
    cases change with
    | act seat choice acted =>
      obtain ⟨place, before, actor, rfl, rfl, rfl, rfl⟩ := Seat.eq_of_world_muted silent
      obtain ⟨later, reached, busy, same⟩ := history.skip
      obtain ⟨left, right, among⟩ := place.agents_world
      have own : MarkedInside false later := reached.marked later (by simp [among])
      obtain ⟨acts, alike⟩ := @Agent.step_muted later choice before own busy
      rw [same, acted] at acts
      obtain ⟨⟨after, next⟩, steps, results⟩ := Option.map_eq_some_iff.mp acts.symm
      cases results
      refine ⟨place.world after next, ?_, place.world_muted after next⟩
      rw [← same, alike]
      exact reached.step (.act place choice steps)
    | call _ call =>
      subst silent
      refine ⟨_, history.step (.call noisy call), ?_⟩
      simp [World.muted, Agent.muted, Agent.ofTasks]
    | clock _ instant later =>
      subst silent
      exact ⟨_, history.step (.clock noisy instant later), rfl⟩
    | wall _ instant =>
      subst silent
      exact ⟨_, history.step (.wall noisy instant), rfl⟩
    | letGo =>
      subst silent
      exact ⟨_, history.step (.letGo noisy), rfl⟩

end World

end LogCourier
