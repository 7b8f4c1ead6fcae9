import LogCourier.Proofs.Depot.Glossing
import LogCourier.Proofs.Depot.Returning
import Mathlib.Algebra.GroupWithZero.Nat

/-!
Twins: two runs in which the same is done and only the sends end differently.

A run is told by what is done in it, in order. What only deals with a failure is not told, for its
twin may have nothing of it to do; it is passed over as soon as whoever has it to do acts again.
-/

namespace LogCourier

namespace Script

/-- The transport logs and waits in the same way, call by call, and a thread can be had or not. A
sink that is to show everything takes what it is given in the same way. -/
structure Parallel (echo : Bool) (first second : Script) : Prop where
  replies : ∀ place, (first.replies.getD place default).glossed =
    (second.replies.getD place default).glossed
  writes : echo = true → first.writes = second.writes
  flushes : echo = true → first.flushes = second.flushes
  threads : first.threads = second.threads

/-- What is parallel is the same when glossed over. -/
theorem Parallel.glossed {echo : Bool} {first second : Script}
    (parallel : first.Parallel echo second) : first.glossed echo = second.glossed echo := by
  -- What the sink answers counts only with the echo on.
  unfold Script.glossed
  rw [glossedReplies_eq parallel.replies, parallel.threads]
  cases echo with
  | true => rw [parallel.writes rfl, parallel.flushes rfl]
  | false => rfl

end Script

/-- A sink that is only for what could not be delivered never crashes. -/
def Depot.FallbackUncrashed (depot : Depot) : Prop :=
  depot.settings.echo = false → depot.script.Returns

/-- Nothing makes such a sink crash. -/
theorem Deed.docile {depot after : Depot} {agent next : Agent} {task : Task}
    (deed : Deed depot agent task after next) (docile : depot.FallbackUncrashed) :
    after.FallbackUncrashed := by
  -- The sink crashes for one reason only, and no step changes what lies ahead of it.
  intro silent
  rw [deed.settings] at silent
  exact deed.returns (docile silent)

namespace Task

/-- More than a task and all that comes of it can do about failures. -/
def repairs : Task → Nat
  | .fallBack events => 3 * events.length + 4
  | .flushSink | .echo _ => 3
  | _ => 1

end Task

/-- More than an agent will do about failures before it has nothing else to do. -/
def Agent.repairs (agent : Agent) : Nat :=
  (agent.tasks.map Task.repairs).sum

namespace Depot

variable {depot : Depot} {agent : Agent} {choice : Choice} {task : Task}

/-- What deals with a failure is not seen when glossed over. -/
theorem glossed_note_of_repair {occurrence : Occurrence}
    (repair : occurrence.isRepair depot.settings.echo = true) :
    (depot.note occurrence).glossed = depot.glossed := by
  -- It is left out of the glossed journal.
  rw [glossed_note, glossedJournal_cons_of_repair repair]
  rfl

/-- What a sink does that is only for failures is not seen when glossed over. -/
theorem glossed_draw {script : Script} {occurrence : Occurrence}
    (silent : depot.settings.echo = false) (replies : script.replies = depot.script.replies)
    (threads : script.threads = depot.script.threads) (repair : occurrence.isRepair false = true) :
    ({ depot with script }.note occurrence).glossed = depot.glossed := by
  -- With the echo off neither what the sink answered nor what it is asked next is seen.
  rw [glossed_note_of_repair (by simpa only [silent] using repair)]
  simp [glossed, Script.glossed, silent, replies, threads]

/-- What deals with a failure can be done at once. -/
theorem exists_act_repair (repair : task.isRepair depot.settings.echo = true) (choice : Choice) :
    ∃ after next, depot.act agent choice task = some (after, next) := by
  -- None of these tasks waits for anything.
  cases task <;> first
    | exact ⟨_, _, rfl⟩
    | cases repair

end Depot

/-- What deals with a failure is not seen when glossed over, and there is less of it to do
afterwards. -/
theorem Deed.repairs {depot after : Depot} {agent next : Agent} {task : Task}
    (deed : Deed depot agent task after next) (docile : depot.FallbackUncrashed)
    (repair : task.isRepair depot.settings.echo = true) :
    after.glossed = depot.glossed ∧
      next.glossed depot.settings.echo = agent.glossed depot.settings.echo ∧
        next.repairs < task.repairs + agent.repairs := by
  -- Whoever uses the sink for a failure does so in a depot that does not show everything.
  have silent (kind : task.isRepair depot.settings.echo = !depot.settings.echo) :
      depot.settings.echo = false := by
    simpa using kind.symm.trans repair
  have pushes {tasks : List Task} (repairs : glossedTasks depot.settings.echo tasks = [])
      (fewer : (tasks.map Task.repairs).sum < task.repairs) :
      (agent.push tasks).glossed depot.settings.echo = agent.glossed depot.settings.echo ∧
        (agent.push tasks).repairs < task.repairs + agent.repairs := by
    refine ⟨?_, ?_⟩
    · rw [Agent.glossed_push, repairs]
      rfl
    · simpa [Agent.repairs, Agent.push] using fewer
  rcases deed with intake | delivery | duty
  · cases intake with
    | count counter =>
      refine ⟨?_, rfl, ?_⟩
      · simp [Depot.glossed, Depot.count, Tally.glossed_count_of_repair repair]
      · simp [Task.repairs]
    | tell notice => exact ⟨Depot.glossed_note_of_repair rfl, rfl, by simp [Task.repairs]⟩
    | echo | echoFails =>
      refine ⟨Depot.glossed_draw (silent rfl) rfl rfl rfl, pushes ?_ (by simp [warn, Task.repairs])⟩
      rw [silent rfl]
      rfl
    | _ => cases repair
  · cases delivery with
    | allShown =>
      refine ⟨rfl, pushes ?_ (by simp [Task.repairs])⟩
      rw [silent rfl]
      rfl
    | «show» event rest =>
      refine ⟨Depot.glossed_draw (silent rfl) rfl rfl rfl, pushes ?_ ?_⟩
      · rw [silent rfl]
        rfl
      · simp only [List.map_cons, List.map_nil, List.sum_cons, List.sum_nil, Task.repairs,
          List.length_cons]
        omega
    | showFails =>
      refine ⟨Depot.glossed_draw (silent rfl) rfl rfl rfl, pushes rfl ?_⟩
      simp only [warn, List.map_cons, List.map_nil, List.sum_cons, List.sum_nil, Task.repairs,
        List.length_cons]
      omega
    | flushSink =>
      refine ⟨Depot.glossed_draw (silent rfl) rfl rfl rfl, rfl, ?_⟩
      simp [Task.repairs]
    | flushFails =>
      exact ⟨Depot.glossed_draw (silent rfl) rfl rfl rfl, pushes rfl (by simp [warn, Task.repairs])⟩
    | showCrashes event rest crash drawn =>
      -- The sink does not crash.
      exact absurd drawn ((docile (silent rfl)).nextWrite crash)
    | flushCrashes crash drawn =>
      exact absurd drawn ((docile (silent rfl)).nextFlush crash)
    | _ => cases repair
  · cases duty with
    | reportLosses =>
      refine ⟨?_, rfl, by simp [Task.repairs]⟩
      unfold Depot.reportLosses
      split
      · rfl
      · exact Depot.glossed_note_of_repair rfl
    | _ => cases repair

/-- Something that is done in a run, whatever becomes of the batches. -/
inductive Operation where
  /-- Whoever has a place, the courier at the first one, takes a step. -/
  | act (place : Nat) (choice : Choice)
  | call (call : Call)
  | clock (instant : Nat)
  | letGo
  deriving DecidableEq

/-- The place of one agent, counted from the courier. -/
def Seat.place : Seat → Nat
  | .courier _ => 0
  | .caller _ left _ => left.length + 1

/-- Whether the next step of an agent deals with a failure. -/
def Agent.isRepairing (echo : Bool) (agent : Agent) : Bool :=
  (agent.tasks.head?.map (Task.isRepair echo)).getD false

namespace World

/-- A change of a world, with what is done in it; the time of day is nobody's doing. -/
inductive Operates : World → List Operation → World → Prop where
  /-- An agent takes a step. -/
  | act (seat : Seat) {before after : Depot} {agent next : Agent} (choice : Choice)
      (visible : agent.isRepairing before.settings.echo = false)
      (acted : agent.step choice before = some (after, next)) :
      Operates (seat.world before agent) [.act seat.place choice] (seat.world after next)
  /-- An agent deals with a failure. -/
  | repair (seat : Seat) {before after : Depot} {agent next : Agent} (choice : Choice)
      (hidden : agent.isRepairing before.settings.echo = true)
      (acted : agent.step choice before = some (after, next)) :
      Operates (seat.world before agent) [] (seat.world after next)
  | call (world : World) (call : Call) :
      Operates world [.call call]
        { world with callers := world.callers ++ [.ofTasks (call.tasks world.depot.settings)] }
  | clock (world : World) (instant : Nat) (later : world.depot.now ≤ instant) :
      Operates world [.clock instant] { world with depot := { world.depot with now := instant } }
  | wall (world : World) (instant : Timestamp) :
      Operates world [] { world with depot := { world.depot with wall := instant } }
  | letGo (world : World) :
      Operates world [.letGo]
        { world with depot := { world.depot with permits := world.depot.permits + 1 } }

/-- The ways in which a world can come about, with what is done meanwhile, in order. -/
inductive Trace (start : World) : List Operation → World → Prop where
  | refl : Trace start [] start
  | step {world next : World} {operations more : List Operation}
      (before : Trace start operations world) (change : Operates world more next) :
      Trace start (operations ++ more) next

variable {start world next : World} {operations more : List Operation}

/-- Each of these changes is a change of the world. -/
theorem Operates.toStep (change : Operates world more next) : Step world next := by
  -- A repair is a step as well; it is merely not seen.
  cases change with
  | act seat choice _ acted | repair seat choice _ acted =>
    cases seat with
    | courier => exact .courier choice acted
    | caller => exact .caller choice acted
  | call _ call => exact .call _ call
  | clock _ instant later => exact .clock _ instant later
  | wall _ instant => exact .wall _ instant
  | letGo => exact .letGo _

/-- A step of an agent is something that is done, or deals with a failure. -/
theorem Operates.ofActed (seat : Seat) {before after : Depot} {agent next : Agent}
    {choice : Choice} (acted : agent.step choice before = some (after, next)) :
    ∃ more, Operates (seat.world before agent) more (seat.world after next) := by
  -- Whether it deals with a failure can be told from its first task.
  cases repairing : agent.isRepairing before.settings.echo with
  | true => exact ⟨_, .repair seat choice repairing acted⟩
  | false => exact ⟨_, .act seat choice repairing acted⟩

/-- In each change of a world something is done, or nothing. -/
theorem Step.operates (step : Step world next) : ∃ more, Operates world more next := by
  -- Only the steps of agents may do nothing that is seen.
  cases step with
  | @courier callers _ _ _ _ choice acted => exact Operates.ofActed (.courier callers) acted
  | @caller courier left right _ _ _ _ choice acted =>
    exact Operates.ofActed (.caller courier left right) acted
  | call _ call => exact ⟨_, .call _ call⟩
  | clock _ instant later => exact ⟨_, .clock _ instant later⟩
  | wall _ instant => exact ⟨_, .wall _ instant⟩
  | letGo => exact ⟨_, .letGo _⟩

/-- A world can come about exactly if something can be done by which it does. -/
theorem reachable_iff_trace :
    Reachable start world ↔ ∃ operations, Trace start operations world := by
  -- Change by change, in both directions.
  constructor
  · intro run
    induction run with
    | refl => exact ⟨[], .refl⟩
    | step _ step ih =>
      obtain ⟨operations, trace⟩ := ih
      obtain ⟨more, change⟩ := step.operates
      exact ⟨_, trace.step change⟩
  · rintro ⟨operations, trace⟩
    induction trace with
    | refl => exact .refl
    | step _ change ih => exact ih.step change.toStep

/-- The world without dates, and as if every send had ended well. -/
def glossed (world : World) : World where
  depot := world.depot.glossed
  courier := world.courier.glossed world.depot.settings.echo
  callers := world.callers.map (Agent.glossed world.depot.settings.echo)

end World

namespace Seat

/-- The place without dates, and as if every send had ended well. -/
def glossed (echo : Bool) : Seat → Seat
  | .courier callers => .courier (callers.map (Agent.glossed echo))
  | .caller other left right =>
    .caller (other.glossed echo) (left.map (Agent.glossed echo)) (right.map (Agent.glossed echo))

/-- A world is glossed over at all its places. -/
theorem glossed_world (seat : Seat) (depot : Depot) (agent : Agent) :
    (seat.world depot agent).glossed = (seat.glossed depot.settings.echo).world depot.glossed
      (agent.glossed depot.settings.echo) := by
  cases seat <;> simp [world, glossed, World.glossed]

/-- Nobody loses a place by what is glossed over. -/
@[simp] theorem place_glossed (seat : Seat) (echo : Bool) :
    (seat.glossed echo).place = seat.place := by
  cases seat <;> simp [glossed, place]

/-- There is nothing to gloss over twice. -/
@[simp] theorem glossed_glossed (seat : Seat) (echo : Bool) :
    (seat.glossed echo).glossed echo = seat.glossed echo := by
  cases seat <;> simp [glossed]

end Seat

namespace World

/-- Whoever has a place, and everybody else. -/
def seat? (world : World) : Nat → Option (Seat × Agent)
  | 0 => some (.courier world.callers, world.courier)
  | place + 1 =>
    match world.callers.drop place with
    | [] => none
    | agent :: right => some (.caller world.courier (world.callers.take place) right, agent)

/-- Whoever has a place is found there. -/
theorem seat?_world (seat : Seat) (depot : Depot) (agent : Agent) :
    (seat.world depot agent).seat? seat.place = some (seat, agent) := by
  cases seat <;> simp [Seat.world, Seat.place, seat?]

/-- Whoever is found at a place has it. -/
theorem world_of_seat? {world : World} {place : Nat} {seat : Seat} {agent : Agent}
    (there : world.seat? place = some (seat, agent)) :
    world = seat.world world.depot agent ∧ seat.place = place := by
  -- The courier has the first place, and the callers stand behind it in the order of their calls.
  cases place with
  | zero =>
    cases there
    exact ⟨rfl, rfl⟩
  | succ place =>
    unfold seat? at there
    cases rest : world.callers.drop place with
    | nil => simp [rest] at there
    | cons other right =>
      simp only [rest, Option.some.injEq, Prod.mk.injEq] at there
      obtain ⟨rfl, rfl⟩ := there
      have enough : place < world.callers.length := by
        have longer := congrArg List.length rest
        simp only [List.length_drop, List.length_cons] at longer
        omega
      have whole := List.take_append_drop place world.callers
      rw [rest] at whole
      refine ⟨?_, ?_⟩
      · simp [Seat.world, whole]
      · simp only [Seat.place, List.length_take]
        omega

/-- Whoever has a place has it in what is left of the world. -/
theorem seat?_glossed (world : World) (place : Nat) : world.glossed.seat? place =
    (world.seat? place).map fun (seat, agent) =>
      (seat.glossed world.depot.settings.echo, agent.glossed world.depot.settings.echo) := by
  -- The courier has the first place, and the callers have those that follow, each as before.
  cases place with
  | zero => rfl
  | succ place =>
    unfold seat?
    simp only [glossed, ← List.map_drop, ← List.map_take]
    cases world.callers.drop place <;> rfl

/-- What an operation makes of a world that is glossed over. -/
def perform (world : World) : Operation → Option World
  | .act place choice =>
    (world.seat? place).bind fun (seat, agent) =>
      ((agent.step choice world.depot).map glossedResult).map fun (depot, next) =>
        seat.world depot next
  | .call call =>
    some { world with
      callers := world.callers ++ [(Agent.ofTasks (call.tasks world.depot.settings)).glossed
        world.depot.settings.echo] }
  | .clock instant => some { world with depot := { world.depot with now := instant } }
  | .letGo =>
    some { world with depot := { world.depot with permits := world.depot.permits + 1 } }

end World

namespace Agent

variable {agent next : Agent} {choice : Choice} {before after depot : Depot}

/-- What does not deal with a failure is done the same when glossed over. -/
theorem step_glossed (choice : Choice)
    (visible : agent.isRepairing depot.settings.echo = false) :
    ((agent.glossed depot.settings.echo).step choice depot.glossed).map glossedResult =
      (agent.step choice depot).map glossedResult := by
  -- Only the first task matters, and it is left in what is seen.
  obtain ⟨tasks, mark, answer, crash⟩ := agent
  cases tasks with
  | nil => rfl
  | cons task rest =>
    have shown : task.isRepair depot.settings.echo = false := visible
    simp only [glossed, glossedTasks_cons_of_visible shown]
    exact @Depot.act_glossed depot ⟨rest, mark, answer, crash⟩ choice task shown

/-- Dealing with a failure is not seen when glossed over, and comes to an end. -/
theorem step_repair (docile : before.FallbackUncrashed)
    (hidden : agent.isRepairing before.settings.echo = true)
    (acted : agent.step choice before = some (after, next)) :
    after.glossed = before.glossed ∧
      next.glossed before.settings.echo = agent.glossed before.settings.echo ∧
        next.repairs < agent.repairs := by
  -- A repair is left out of the tasks that are seen, and there is one less to come.
  obtain ⟨task, rest, rfl, deed⟩ := Agent.deed_of_step acted
  have repair : task.isRepair before.settings.echo = true := hidden
  obtain ⟨same, alike, fewer⟩ := deed.repairs docile repair
  refine ⟨same, alike.trans ?_, ?_⟩
  · simp [glossed, glossedTasks_cons_of_repair repair]
  · simpa [repairs] using fewer

/-- Dealing with a failure is always possible. -/
theorem exists_step_repair (hidden : agent.isRepairing before.settings.echo = true)
    (choice : Choice) : ∃ after next, agent.step choice before = some (after, next) := by
  -- Whoever deals with a failure has a task for it.
  obtain ⟨tasks, mark, answer, crash⟩ := agent
  cases tasks with
  | nil => cases hidden
  | cons task rest => exact Depot.exists_act_repair hidden choice

end Agent

namespace World

variable {start world next : World} {operations more : List Operation}

/-- Nothing makes a sink crash. -/
theorem Operates.docile (change : Operates world more next)
    (docile : world.depot.FallbackUncrashed) :
    next.depot.FallbackUncrashed := by
  -- Only an agent can ask the sink for anything.
  cases change with
  | act seat choice _ acted | repair seat choice _ acted =>
    obtain ⟨task, rest, rfl, deed⟩ := Agent.deed_of_step acted
    cases seat <;> exact deed.docile docile
  | _ => exact docile

/-- What deals with a failure is not seen when glossed over, and neither is the time of day. -/
theorem Operates.unseen (change : Operates world [] next) (docile : world.depot.FallbackUncrashed) :
    next.glossed = world.glossed := by
  -- With nothing to be seen there is a repair, or only the time of day.
  cases change with
  | @repair seat before after agent acting choice hidden acted =>
    have docile : before.FallbackUncrashed := by cases seat <;> exact docile
    obtain ⟨same, alike, _⟩ := Agent.step_repair docile hidden acted
    have echoes : after.settings.echo = before.settings.echo := congrArg (·.settings.echo) same
    rw [Seat.glossed_world, Seat.glossed_world, same, echoes, alike]
  | wall => simp [glossed, Depot.glossed]

/-- Whatever is done makes the same of what is left of a world. -/
theorem Operates.perform {operation : Operation} (change : Operates world [operation] next) :
    world.glossed.perform operation = some next.glossed := by
  -- Whoever acts is found at the same place of the glossed world, and takes the same step there.
  cases change with
  | @act seat before after agent acting choice visible acted =>
    obtain ⟨task, rest, rfl, deed⟩ := Agent.deed_of_step acted
    have found := seat?_world (seat.glossed before.settings.echo) before.glossed
      (Agent.glossed before.settings.echo { rest with tasks := task :: rest.tasks })
    have acts := Agent.step_glossed choice visible
    have bound : ((seat.glossed before.settings.echo).world before.glossed
        (Agent.glossed before.settings.echo
          { rest with tasks := task :: rest.tasks })).depot = before.glossed := by
      cases seat <;> rfl
    rw [acted] at acts
    rw [Seat.place_glossed] at found
    rw [Seat.glossed_world, Seat.glossed_world, World.perform, found, Option.bind_some]
    simp only [bound, acts, glossedResult, deed.settings, Option.map_some]
  | call _ call =>
    simp [World.perform, glossed]
  | clock _ instant => simp [World.perform, glossed, Depot.glossed]
  | letGo => simp [World.perform, glossed, Depot.glossed]

/-- In a change of a world one thing is done, or nothing. -/
theorem Operates.one (change : Operates world more next) :
    more = [] ∨ ∃ operation, more = [operation] := by
  cases change <;> simp

/-- What is left of a world is what was done. -/
theorem Trace.perform (trace : Trace start operations world)
    (docile : start.depot.FallbackUncrashed) :
    world.depot.FallbackUncrashed ∧
      operations.foldlM World.perform start.glossed = some world.glossed := by
  -- Change by change.
  induction trace with
  | refl => exact ⟨docile, rfl⟩
  | step before change ih =>
    obtain ⟨docile, performed⟩ := ih
    refine ⟨change.docile docile, ?_⟩
    rw [List.foldlM_append, performed]
    rcases change.one with rfl | ⟨operation, rfl⟩
    · exact congrArg some (change.unseen docile).symm
    · simpa using change.perform

/-- Whoever has failures to deal with can get past them. -/
theorem Trace.skip {seat : Seat} {depot : Depot} {agent : Agent}
    (trace : Trace start operations (seat.world depot agent)) (docile : depot.FallbackUncrashed) :
    ∃ after later, Trace start operations (seat.world after later) ∧
      later.isRepairing after.settings.echo = false ∧ after.glossed = depot.glossed ∧
        later.glossed depot.settings.echo = agent.glossed depot.settings.echo := by
  -- Induction on what there is to do about failures.
  induction bound : agent.repairs using Nat.strong_induction_on generalizing depot agent with
  | _ bound ih =>
    cases repairing : agent.isRepairing depot.settings.echo with
    | false => exact ⟨depot, agent, trace, repairing, rfl, rfl⟩
    | true =>
      obtain ⟨after, next, acted⟩ := Agent.exists_step_repair repairing .signal
      obtain ⟨same, alike, fewer⟩ := Agent.step_repair docile repairing acted
      have echoes : after.settings.echo = depot.settings.echo := congrArg (·.settings.echo) same
      have longer := trace.step (.repair seat .signal repairing acted)
      rw [List.append_nil] at longer
      obtain ⟨task, rest, rfl, deed⟩ := Agent.deed_of_step acted
      obtain ⟨final, later, reached, busy, kept, left⟩ :=
        ih next.repairs (bound ▸ fewer) longer (deed.docile docile) rfl
      rw [echoes] at left
      exact ⟨final, later, reached, busy, kept.trans same, left.trans alike⟩

/-- What is done next in a run can be done next in another one that is the same when glossed over,
once whoever does it has dealt with its failures. -/
theorem Operates.imitate {twin other : World} {operation : Operation}
    (change : Operates world [operation] next) (followed : Trace twin operations other)
    (same : other.glossed = world.glossed) (docile : other.depot.FallbackUncrashed) :
    ∃ ready later, Trace twin operations ready ∧ ready.glossed = other.glossed ∧
      Operates ready [operation] later := by
  cases change with
  | @act seat before after agent acting choice visible acted =>
    -- Whoever acts has the same place in the other world.
    have found := seat?_world (seat.glossed before.settings.echo) before.glossed
      (agent.glossed before.settings.echo)
    rw [← seat.glossed_world, ← same, Seat.place_glossed, seat?_glossed] at found
    obtain ⟨⟨place, actor⟩, there, alike⟩ := Option.map_eq_some_iff.mp found
    obtain ⟨split, placed⟩ := world_of_seat? there
    rw [split] at followed
    obtain ⟨ready, later, reached, busy, kept, left⟩ := followed.skip docile
    obtain ⟨places, actors⟩ := Prod.mk.inj alike
    have depots : other.depot.glossed = before.glossed := by
      rw [seat.glossed_world] at same
      exact (congrArg World.depot same).trans (by cases seat <;> rfl)
    have echoes : ready.settings.echo = other.depot.settings.echo :=
      congrArg (·.settings.echo) kept
    have readied : (place.world ready later).glossed = other.glossed := by
      rw [split, Seat.glossed_world, Seat.glossed_world, kept, echoes, left]
    -- What it does it can do here too.
    have acts := Agent.step_glossed choice visible
    have steps := Agent.step_glossed choice busy
    rw [echoes, left, actors, kept, depots, acts, acted] at steps
    obtain ⟨⟨depot, final⟩, moved, _⟩ := Option.map_eq_some_iff.mp steps.symm
    refine ⟨_, place.world depot final, reached, readied, ?_⟩
    rw [← placed]
    exact .act place choice busy moved
  | call _ call => exact ⟨other, _, followed, rfl, .call other call⟩
  | clock _ instant later =>
    have clocks : other.depot.now = world.depot.now := congrArg (·.depot.now) same
    exact ⟨other, _, followed, rfl, .clock other instant (by omega)⟩
  | letGo => exact ⟨other, _, followed, rfl, .letGo other⟩

/-- Whatever is done in a run can be done in another one that is the same when glossed over. -/
theorem Trace.follow {twin : World} (trace : Trace start operations world)
    (same : twin.glossed = start.glossed) (docile : start.depot.FallbackUncrashed)
    (docileTwin : twin.depot.FallbackUncrashed) :
    ∃ other, Trace twin operations other ∧ other.glossed = world.glossed := by
  -- Change by change.
  induction trace with
  | refl => exact ⟨twin, .refl, same⟩
  | step before change ih =>
    obtain ⟨other, followed, alike⟩ := ih
    rcases change.one with rfl | ⟨operation, rfl⟩
    · have unseen := change.unseen (before.perform docile).1
      exact ⟨other, by rwa [List.append_nil], alike.trans unseen.symm⟩
    · obtain ⟨ready, later, reached, kept, moved⟩ :=
        change.imitate followed alike (followed.perform docileTwin).1
      refine ⟨later, reached.step moved, ?_⟩
      -- The same is done to what is the same when glossed over.
      have performed := moved.perform
      rw [kept, alike, change.perform] at performed
      exact (Option.some.inj performed).symm

end World

/-- What the transport is given, if something is: a payload, here without dates, and a time. -/
def Occurrence.request? : Occurrence → Option (Payload × Span)
  | .sent batch payload timeout _ =>
    some (Payload.encode (batch.map Event.undated) payload.compression, timeout)
  | _ => none

/-- What the transport was given, the latest first. -/
def Depot.requests (depot : Depot) : List (Payload × Span) :=
  depot.journal.filterMap Occurrence.request?

/-- What the transport was given is not glossed over. -/
theorem Depot.requests_glossed (depot : Depot) : depot.glossed.requests = depot.requests := by
  unfold requests
  simp only [glossed_journal, glossedJournal, List.filterMap_map, List.filterMap_filter]
  refine List.filterMap_congr fun occurrence _ => ?_
  -- What deals with a failure is no request.
  cases occurrence <;>
    simp [Occurrence.isRepair, Occurrence.glossed, Occurrence.undated, Occurrence.request?,
      Payload.encode]

namespace World

/-- Two worlds that differ only in what became of the batches. -/
structure Matches (first second : World) : Prop where
  requests : first.depot.requests = second.depot.requests
  waiting : first.depot.queue.waiting.map Event.undated =
    second.depot.queue.waiting.map Event.undated
  pending : first.depot.pending = second.depot.pending
  submitted : first.depot.tally.submitted = second.depot.tally.submitted
  queued : first.depot.tally.queued = second.depot.tally.queued
  dropped : first.depot.tally.dropped = second.depot.tally.dropped
  sizeFlushes : first.depot.tally.sizeFlushes = second.depot.tally.sizeFlushes
  timerFlushes : first.depot.tally.timerFlushes = second.depot.tally.timerFlushes
  batches : first.depot.tally.batchesSent + first.depot.tally.batchesFailed =
    second.depot.tally.batchesSent + second.depot.tally.batchesFailed
  events : first.depot.tally.eventsSent + first.depot.tally.eventsFailed =
    second.depot.tally.eventsSent + second.depot.tally.eventsFailed
  /-- Nothing else that happened differs, without dates: only notices, and what is shown of batches
  that could not be delivered. -/
  journal : glossedJournal first.depot.settings.echo first.depot.journal =
    glossedJournal second.depot.settings.echo second.depot.journal
  /-- The calls have answered the same, or crashed. -/
  answers : first.callers.map (fun caller => (caller.answer, caller.crash)) =
    second.callers.map (fun caller => (caller.answer, caller.crash))
  phase : first.depot.phase = second.depot.phase

/-- Worlds that are the same when glossed over differ only in what became of the batches. -/
theorem matches_of_glossed {first second : World} (same : first.glossed = second.glossed) :
    first.Matches second := by
  -- All that is compared is left in a world that is glossed over.
  have depots : first.depot.glossed = second.depot.glossed := congrArg World.depot same
  have answers (world : World) :
      world.glossed.callers.map (fun caller => (caller.answer, caller.crash)) =
        world.callers.map fun caller => (caller.answer, caller.crash) := by
    simp [glossed, Agent.glossed, Function.comp_def]
  exact {
    requests := by
      rw [← first.depot.requests_glossed, depots, second.depot.requests_glossed]
    waiting := congrArg (·.queue.waiting) depots
    pending := congrArg (·.queue.length) depots
    submitted := congrArg (·.tally.submitted) depots
    queued := congrArg (·.tally.queued) depots
    dropped := congrArg (·.tally.dropped) depots
    sizeFlushes := congrArg (·.tally.sizeFlushes) depots
    timerFlushes := congrArg (·.tally.timerFlushes) depots
    batches := congrArg (·.tally.batchesSent) depots
    events := congrArg (·.tally.eventsSent) depots
    journal := congrArg (·.journal) depots
    answers := by rw [← answers, same, answers]
    phase := congrArg (·.phase) depots }

end World

/-- What becomes of a batch does not spread. Of two depots whose transports log and wait in the same
way, whatever their sends end with, whatever can be done in one can be done in the other. Wherever
the same is done, in the same order, the same payloads are handed over with the same times, the same
events wait and are counted, and the same calls are answered. Only what was sent and what failed is
split in another way, with the notices of it and what is shown of it. A sink that is only for what
failed must not crash. -/
theorem failures_do_not_spread (settings : Settings) (threshold : Threshold)
    (transportName sinkName : String) (wall other : Timestamp) {first second : Script}
    (parallel : first.Parallel settings.echo second)
    (returns : settings.echo = false → first.Returns ∧ second.Returns) :
    let start := World.initial (.create settings threshold transportName sinkName wall first)
    let twin := World.initial (.create settings threshold transportName sinkName other second)
    (∀ world, start.Reachable world ↔ ∃ operations, start.Trace operations world) ∧
      ∀ operations world, start.Trace operations world →
        (∃ like, twin.Trace operations like) ∧
          ∀ like, twin.Trace operations like → world.Matches like := by
  intro start twin
  -- Both begin the same when glossed over, and go on so.
  have docile : start.depot.FallbackUncrashed := fun silent => (returns silent).1
  have docileTwin : twin.depot.FallbackUncrashed := fun silent => (returns silent).2
  have same : twin.glossed = start.glossed := by
    simp [twin, start, World.glossed, Depot.glossed, Depot.create, parallel.glossed]
  refine ⟨fun world => World.reachable_iff_trace, fun operations world trace => ⟨?_, ?_⟩⟩
  · obtain ⟨like, followed, _⟩ := trace.follow same docile docileTwin
    exact ⟨like, followed⟩
  · intro like followed
    have performed := (trace.perform docile).2
    rw [← same, (followed.perform docileTwin).2] at performed
    exact World.matches_of_glossed (Option.some.inj performed).symm

/-- A transport that logs in its first send, and whose first two sends fail. -/
def Script.unlucky : Script :=
  ⟨[⟨[], [(.info, "busy")], false, .failed (.other "rejected")⟩,
    ⟨[], [], false, .crashed .opaqueValue⟩], [], [], []⟩

/-- A transport that logs in its first send, and whose sends end well. -/
def Script.lucky : Script :=
  ⟨[⟨[], [(.info, "busy")], false, .ok⟩], [], [], []⟩

/-- A world in which a batch of one event was rejected, and one of two crashed the transport. -/
def World.unlucky : World :=
  afterCalls .unlucky [.submit default, .flush, .submit default, .flush, .submit default]

/-- After two failures everything has gone as it does where the sends end well. -/
theorem failures_do_not_spread_unlucky :
    World.unlucky.depot.tally.batchesFailed = 2 ∧ World.unlucky.depot.tally.eventsFailed = 3 ∧
      ∃ operations, World.Trace (.initial (.plain .unlucky)) operations .unlucky ∧
        ∃ like, World.Trace (.initial (.plain .lucky)) operations like ∧
          World.Matches .unlucky like := by
  refine ⟨by decide +kernel, by decide +kernel, ?_⟩
  -- The two scripts differ in how the first two sends end.
  have parallel : Script.unlucky.Parallel Settings.plain.echo .lucky := by
    refine ⟨fun place => ?_, by decide, by decide, rfl⟩
    match place with
    | 0 => rfl
    | 1 => rfl
    | place + 2 => rfl
  have law := failures_do_not_spread .plain default "transport" "sink" default default parallel
    fun _ => ⟨by simp [Script.Returns, Script.unlucky], by simp [Script.Returns, Script.lucky]⟩
  obtain ⟨operations, trace⟩ := (law.1 World.unlucky).mp (World.reachable_afterCalls _ _)
  obtain ⟨⟨like, followed⟩, alike⟩ := law.2 operations World.unlucky trace
  exact ⟨operations, trace, like, followed, alike like followed⟩

end LogCourier
