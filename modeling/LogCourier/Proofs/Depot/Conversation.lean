import LogCourier.Proofs.Depot.Aftermath
import LogCourier.Proofs.Depot.Serving

/-!
Conversations: one call after the other, each of which comes to rest before the next one.

Whichever way calls are served, a call that has come to rest has come to the end of what lay on the
bench, and has answered what it had promised.
-/

namespace LogCourier

namespace World

/-- Nothing is about to come of the clock or of the size of the queue. -/
structure Timely (world : World) : Prop where
  /-- Less is waiting than makes a batch. -/
  room : world.depot.pending < world.depot.queue.maxBatch
  /-- The timer is not due to wake the courier. -/
  early : ∀ wake ∈ world.courier.wake?, world.depot.now < wake
  /-- Nobody has come to the end of waiting for a thread that still runs. -/
  soon : world.depot.thread = .running → ∀ caller ∈ world.callers, ∀ deadline ∈ caller.deadline?,
    world.depot.now < deadline

/-- Everybody has been answered, and the courier can do nothing, even if a waiting send were let go
on. -/
structure AtRest (world : World) : Prop where
  answered : ∀ caller ∈ world.callers, caller.tasks = []
  idle : ∀ choice,
    world.courier.step choice { world.depot with permits := world.depot.permits + 1 } = none

/-- What a world comes to while nobody calls, by changes in worlds that are allowed. -/
inductive Proceeds (allowed : World → Prop) (start : World) : World → Prop where
  | refl : Proceeds allowed start start
  | step {world next : World} (before : Proceeds allowed start world) (meets : allowed world)
      (change : Step world next) (nobody : next.callers.length = world.callers.length) :
      Proceeds allowed start next

/-- What the last call has answered. -/
def answer? (world : World) : Option Bool :=
  world.callers.getLast?.bind Agent.answer

end World

/-- All that holds of every world that comes about with an endpoint, with a sink that does not crash
and with a thread whenever one is asked for. -/
structure CrashFreeInvariant (world : World) : Prop where
  shutdown : ShutdownInvariant world
  returns : world.depot.script.Returns
  supplies : world.depot.script.Supplies
  manned : world.depot.isManned = true
  marked : ∀ agent ∈ world.agents, MarkedInside false agent
  unharmed : ∀ agent ∈ world.agents, agent.crash = none
  retired : world.depot.holder = .nobody → CourierRetired world.depot

namespace CrashFreeInvariant

variable {world next : World}

/-- It holds before anything has happened. -/
theorem initial {settings : Settings} (remote : settings.isRemote = true) (threshold : Threshold)
    (transportName sinkName : String) (wall : Timestamp) {script : Script}
    (returns : script.Returns) (supplies : script.Supplies) :
    CrashFreeInvariant
      (.initial (.create settings threshold transportName sinkName wall script)) where
  -- A world in which nobody has acted has no crash and a courier at its desk.
  shutdown := .initial remote ..
  returns := returns
  supplies := supplies
  manned := rfl
  marked := MarkedInside.reachable .refl
  unharmed := by simp
  retired gone := by simp [Depot.create, remote] at gone

/-- Whoever gives the courier back leaves all sealed. -/
theorem retired_of_deed (invariant : CrashFreeInvariant world) {left right : List Agent}
    {agent after : Agent}
    {task : Task} {depot : Depot}
    (split : world.agents = left ++ { agent with tasks := task :: agent.tasks } :: right)
    (deed : Deed world.depot agent task depot after) (manned : depot.isManned = true)
    (gone : depot.holder = .nobody) : CourierRetired depot := by
  have member := Custody.agent_mem split
  rcases deed.holder with same | ⟨_, somebody⟩ | ⟨rfl, released⟩
  · exact SealedAtExit.retired_of_deed invariant.shutdown.core.custody
      (invariant.retired (same.symm.trans gone)) split deed
  · exact absurd gone (somebody manned)
  · -- Before it was given back, the queue had been closed in the last phase.
    have seals := invariant.shutdown.sealing.agents _ member
    obtain ⟨closed, phase⟩ := (seals.sealed (invariant.unharmed _ member)).leaving _ rfl
    rw [released]
    exact ⟨rfl, closed, phase⟩

/-- A change of a world keeps it. -/
theorem step (invariant : CrashFreeInvariant world) (change : World.Step world next) :
    CrashFreeInvariant next := by
  -- Only what an agent does can draw from the script or touch the courier.
  have turn := change.turn
  have returns : next.depot.script.Returns :=
    turn.preserves (·.script.Returns) (fun _ _ _ => invariant.returns)
      fun _ deed => deed.returns invariant.returns
  have supplies : next.depot.script.Supplies :=
    turn.preserves (·.script.Supplies) (fun _ _ _ => invariant.supplies)
      fun _ deed => deed.supplies invariant.supplies
  have manned : next.depot.isManned = true :=
    turn.preserves (·.isManned = true) (fun _ _ _ => invariant.manned)
      fun _ deed => deed.manned invariant.supplies invariant.manned
  refine ⟨invariant.shutdown.step change, returns, supplies, manned, ?_, ?_, ?_⟩
  · exact turn.each invariant.marked (fun _ _ _ _ marked deed => marked.after deed)
      fun _ _ => .ofCall _ _ false
  · exact turn.each invariant.unharmed
      (fun _ _ _ _ unharmed deed => (deed.unharmed invariant.returns).trans unharmed) fun _ _ => rfl
  · exact turn.preserves (fun depot => depot.holder = .nobody → CourierRetired depot)
      (fun _ _ _ gone => ⟨gone, (invariant.retired gone).closed, (invariant.retired gone).phase⟩)
      fun split deed => invariant.retired_of_deed split deed manned

end CrashFreeInvariant

/-- A way to serve calls, by the stages through which they go: each step leads from one stage to
another one, and on the bench it is the next task or nothing. -/
structure Service (allowed : World → Prop) (stage : Site → List Task → List Task → Prop) :
    Prop where
  courier : ∀ {world : World} {agent next caller : Agent} {choice : Choice} {task : Task}
    {later : Depot}, CrashFreeInvariant world → allowed world →
      world.courier = { agent with tasks := task :: agent.tasks } →
      stage world.depot.site world.courier.tasks caller.tasks →
      world.depot.act agent choice task = some (later, next) →
        stage later.site next.tasks caller.tasks ∧ later.stopped = world.depot.stopped ∧
          (world.depot.bench world.courier caller).Goes (later.bench next caller)
  caller : ∀ {world : World} {agent next : Agent} {choice : Choice} {task : Task} {later : Depot},
    CrashFreeInvariant world → allowed world →
    { agent with tasks := task :: agent.tasks } ∈ world.callers →
      stage world.depot.site world.courier.tasks (task :: agent.tasks) →
      world.depot.act agent choice task = some (later, next) →
        stage later.site world.courier.tasks next.tasks ∧
          next.promised later.stopped =
            ({ agent with tasks := task :: agent.tasks } : Agent).promised world.depot.stopped ∧
          (world.depot.bench world.courier { agent with tasks := task :: agent.tasks }).Goes
            (later.bench world.courier next)
  available : ∀ {world : World}, world.AtRest →
    stage world.depot.site world.courier.tasks [] → CourierAvailable stage world.depot world.courier

/-- Calls are served by a courier on its thread, as long as nothing comes of the clock or of the
size of the queue. -/
theorem Staffed.service : Service World.Timely Staffed where
  courier := by
    -- What the courier does on its thread was proved with the clock and the queue as parameters.
    intro world agent next caller choice task later invariant timely own staffed acted
    have among : world.courier ∈ world.agents := List.mem_cons_self
    have unharmed : agent.crash = none := by simpa [own] using invariant.unharmed _ among
    rw [own] at staffed among ⊢
    refine staffed.ofCourier acted invariant.shutdown.core.custody.remote invariant.returns
      (invariant.marked _ among) unharmed timely.room ?_
    rintro tick wake rfl
    exact timely.early wake (by simp [own, Agent.wake?])
  caller := by
    intro world agent next choice task later invariant timely member staffed acted
    have among := List.mem_cons_of_mem world.courier member
    have unharmed := invariant.unharmed _ among
    refine staffed.ofCaller acted invariant.shutdown.core.custody.remote invariant.returns
      invariant.supplies (invariant.marked _ among) unharmed ?_
    rintro since timeout rfl running
    exact timely.soon running _ member _ rfl
  available rest staffed := staffed.available rest.idle

/-- Calls are served without a thread, whatever comes. -/
theorem Unstaffed.service : Service (fun _ => True) Unstaffed where
  courier := by
    -- A courier without a thread takes no step.
    intro world agent next caller choice task later invariant _ own unstaffed acted
    have asleep := unstaffed.asleep choice
    simp [own, Agent.step, acted] at asleep
  caller := by
    intro world agent next choice task later invariant _ member unstaffed acted
    have among := List.mem_cons_of_mem world.courier member
    have unharmed := invariant.unharmed _ among
    exact unstaffed.ofCaller acted invariant.shutdown.core.custody.remote invariant.returns
      (invariant.marked _ among) unharmed
  available _ unstaffed := unstaffed.available

/-- One caller is served, after others that have been answered. -/
structure Serving (stage : Site → List Task → List Task → Prop) (earlier : List Agent)
    (caller : Agent) (world : World) : Prop where
  callers : world.callers = earlier ++ [caller]
  answered : ∀ other ∈ earlier, other.tasks = []
  stage : stage world.depot.site world.courier.tasks caller.tasks

namespace Serving

variable {allowed : World → Prop} {stage : Site → List Task → List Task → Prop}
  {earlier : List Agent} {caller : Agent} {world next : World}

/-- Whoever acts among the callers is the one who is served. -/
theorem acting (serving : Serving stage earlier caller world) {left right : List Agent}
    {agent : Agent} (split : world.callers = left ++ agent :: right) (busy : agent.tasks ≠ []) :
    left = earlier ∧ agent = caller ∧ right = [] := by
  -- All others have been answered.
  rw [serving.callers] at split
  rcases List.eq_nil_or_concat right with rfl | ⟨between, last, rfl⟩
  · obtain ⟨rfl, same⟩ := List.append_inj' split rfl
    exact ⟨rfl, (List.cons.inj same).1.symm, rfl⟩
  · have longer : earlier ++ [caller] = (left ++ agent :: between) ++ [last] := by
      simpa using split
    obtain ⟨rfl, -⟩ := List.append_inj' longer rfl
    exact absurd (serving.answered agent (by simp)) busy

/-- While nobody calls, a change of the world is the next task on the bench or nothing. -/
theorem step (service : Service allowed stage) (serving : Serving stage earlier caller world)
    (invariant : CrashFreeInvariant world) (meets : allowed world) (change : World.Step world next)
    (nobody : next.callers.length = world.callers.length) :
    ∃ caller', Serving stage earlier caller' next ∧
      caller'.promised next.depot.stopped = caller.promised world.depot.stopped ∧
        (world.depot.bench world.courier caller).Goes (next.depot.bench next.courier caller') := by
  -- A step of the courier or of the caller goes on on the bench, and all else leaves it alone.
  cases change with
  | @courier callers before after agent later choice acted =>
    obtain ⟨task, rest, rfl, acts⟩ := Agent.act_of_step acted
    obtain ⟨onward, same, goes⟩ := service.courier invariant meets rfl serving.stage acts
    exact ⟨caller, ⟨serving.callers, serving.answered, onward⟩,
      congrArg (Agent.promised · caller) same, goes⟩
  | @caller courier left right before after agent later choice acted =>
    obtain ⟨task, rest, rfl, acts⟩ := Agent.act_of_step acted
    obtain ⟨rfl, rfl, rfl⟩ := serving.acting rfl (by simp)
    obtain ⟨onward, promise, goes⟩ := service.caller invariant meets (by simp) serving.stage acts
    exact ⟨later, ⟨rfl, serving.answered, onward⟩, promise, goes⟩
  | call _ call => simp at nobody
  | clock | wall | letGo =>
    refine ⟨caller, ⟨serving.callers, serving.answered, serving.stage⟩, rfl, ?_⟩
    exact Depot.goes_of_same (by simp [Depot.bare]) rfl

/-- While nobody calls, what is done is what lay on the bench, and the caller keeps its promise. -/
theorem run (service : Service allowed stage) {start : World}
    (serving : Serving stage earlier caller start) (invariant : CrashFreeInvariant start)
    (proceeds : start.Proceeds allowed world) :
    CrashFreeInvariant world ∧ ∃ caller', Serving stage earlier caller' world ∧
      caller'.promised world.depot.stopped = caller.promised start.depot.stopped ∧
        (start.depot.bench start.courier caller).Leads
          (world.depot.bench world.courier caller') := by
  -- Change by change.
  induction proceeds with
  | refl => exact ⟨invariant, caller, serving, rfl, .refl⟩
  | step _ meets change nobody ih =>
    obtain ⟨invariant, caller', serving, promise, leads⟩ := ih
    obtain ⟨later, serving, promise', goes⟩ := serving.step service invariant meets change nobody
    exact ⟨invariant.step change, later, serving, promise'.trans promise, leads.go goes⟩

end Serving

/-- Everybody has been answered, and the courier can be asked anything. -/
structure AllAnswered (stage : Site → List Task → List Task → Prop) (world : World) : Prop where
  answered : ∀ caller ∈ world.callers, caller.tasks = []
  available : CourierAvailable stage world.depot world.courier

/-- What a call begins with asks something of the courier, or leads to no more than chores. -/
theorem Call.asking (call : Call) (other : call ≠ .start) (settings : Settings) :
    Asking (call.tasks settings) := by
  have none : Chores [] := .nil
  -- Only a start asks for a thread.
  cases call with
  | start => exact absurd rfl other
  | flush => exact .flush
  | stop timeout => exact .stop timeout .nil
  | dispose => exact .stop _ (by simp [Chores, Task.isChore])
  | _ => exact .chores (by simp [Call.tasks, Chores, Task.isChore])

/-- Whoever has just called is served. -/
theorem AllAnswered.called {stage : Site → List Task → List Task → Prop} {world : World}
    (resting : AllAnswered stage world) {call : Call} (other : call ≠ .start) :
    Serving stage world.callers (.ofTasks (call.tasks world.depot.settings))
      (world.called call) where
  callers := rfl
  answered := resting.answered
  stage := resting.available.asks _ (call.asking other _)

/-- What a call does to a bench on which nothing is left. -/
def Depot.called (depot : Depot) (call : Call) : Bench :=
  ⟨depot.bare, (Agent.ofTasks (call.tasks depot.settings)).labour depot.settings⟩

/-- A call that has come to rest has done all that lay on the bench, and has answered what it had
promised. -/
theorem Serving.rest {allowed : World → Prop} {stage : Site → List Task → List Task → Prop}
    (service : Service allowed stage) {earlier : List Agent} {caller : Agent} {world : World}
    (serving : Serving stage earlier caller world) (rest : world.AtRest) :
    AllAnswered stage world ∧ world.depot.bench world.courier caller = ⟨world.depot.bare, []⟩ ∧
      world.answer? = caller.promised world.depot.stopped := by
  -- Everybody has been answered at rest, so that the stage tells what is left to the courier.
  have done : caller.tasks = [] := rest.answered caller (by simp [serving.callers])
  have stage := serving.stage
  rw [done] at stage
  have available := service.available rest stage
  refine ⟨⟨rest.answered, available⟩, ?_, ?_⟩
  · -- The bench holds what is left to the caller and what the courier has been ordered to do.
    have idle : caller.labour world.depot.settings = [] := by simp [Agent.labour, done]
    simp [Depot.bench, available.labour, available.orders, idle]
  · simp [World.answer?, serving.callers, Agent.promised, done]

/-- From rest to rest a call does what it comes to on the bench, whichever way it is served. -/
theorem AllAnswered.exchange {allowed : World → Prop} {stage : Site → List Task → List Task → Prop}
    (service : Service allowed stage) {world rested : World} (resting : AllAnswered stage world)
    (invariant : CrashFreeInvariant world) {call : Call} (other : call ≠ .start)
    (proceeds : (world.called call).Proceeds allowed rested) (rest : rested.AtRest) :
    CrashFreeInvariant rested ∧ AllAnswered stage rested ∧
      (world.depot.called call).Leads ⟨rested.depot.bare, []⟩ ∧
        rested.answer? = (Agent.ofTasks (call.tasks world.depot.settings)).promised
          world.depot.stopped := by
  -- The run keeps what was promised, and tells to what the bench led.
  obtain ⟨invariant, caller, serving, promise, leads⟩ :=
    (resting.called other).run service (invariant.step (.call world call)) proceeds
  obtain ⟨resting', done, answered⟩ := serving.rest service rest
  refine ⟨invariant, resting', ?_, answered.trans promise⟩
  rw [done] at leads
  -- The call itself puts nothing on the bench but its own tasks.
  have start : (world.called call).depot.bench (world.called call).courier
      (.ofTasks (call.tasks world.depot.settings)) = world.depot.called call := by
    simp [Depot.bench, Depot.called, World.called, resting.available.labour,
      resting.available.orders]
  rwa [start] at leads

section Existence

variable {depot : Depot} {caller courier : Agent} {earlier : List Agent} {world : World}

/-- What a world comes to comes to what that comes to. -/
theorem World.Proceeds.trans {allowed : World → Prop} {first middle last : World}
    (before : first.Proceeds allowed middle) (later : middle.Proceeds allowed last) :
    first.Proceeds allowed last := by
  -- Induction on the later run, whose steps are taken after the earlier one.
  induction later with
  | refl => exact before
  | step _ meets change nobody ih => exact ih.step meets change nobody

/-- Whoever asks something of the courier waits for a send to be let go on, or for nothing. -/
theorem Asking.free {task : Task} {rest : List Task} (asking : Asking (task :: rest))
    (permitted : depot.permits ≠ 0) : depot.hinders task = false := by
  -- All that is asked of the courier is a chore, or else answered on the spot.
  cases asking with
  | chores each => exact Depot.hinders_of_isChore each.head permitted
  | flush | stop => rfl

/-- While one caller is served, the desk is not locked unless that caller has it to unlock. -/
theorem Serving.unlocked {stage : Site → List Task → List Task → Prop}
    (serving : Serving stage earlier caller world) (custody : Custody world)
    (none : .unlock ∉ duties caller.tasks) : world.depot.locked = false := by
  -- As many have it to unlock as the desk has locks, and nobody else has anything to do.
  have others : earlier.flatMap (fun other => duties other.tasks) = [] := by
    refine List.flatMap_eq_nil_iff.mpr fun other member => ?_
    rw [serving.answered other member]
    rfl
  have locks := custody.locks
  rw [World.decisions, serving.callers, List.flatMap_append, others] at locks
  simpa [List.count_eq_zero_of_not_mem none] using locks.symm

/-- Without a thread the caller that is served waits for a send to be let go on, or for nothing. -/
theorem Serving.free (serving : Serving Unstaffed earlier caller world)
    (invariant : CrashFreeInvariant world)
    (permitted : world.depot.permits ≠ 0) : caller.waits world.depot = false := by
  -- The caller must not find the desk locked: it has the key itself, or nobody has it.
  have custody := invariant.shutdown.core.custody
  have course := (custody.callers caller (by simp [serving.callers])).course
  have unlocked := serving.unlocked custody
  have stage := serving.stage
  unfold Agent.waits
  cases left : caller.tasks with
  | nil => rfl
  | cons task rest =>
    rw [left] at stage course unlocked
    generalize world.depot.site = site at stage
    generalize world.courier.tasks = work at stage
    generalize whole : task :: rest = tasks at stage
    cases stage with
    | serving asking | gone asking =>
      subst whole
      exact asking.free permitted
    | ordering =>
      -- A courier can only be ordered at a desk that is open, and nobody is there to lock it.
      cases whole
      simpa [Depot.hinders] using unlocked (by decide)
    | taking timeout each =>
      cases whole
      change Course _ (.takeOver timeout :: duties rest) at course
      -- Who is still to take over has nothing to unlock yet.
      have none : .unlock ∉ .takeOver timeout :: duties rest := by
        generalize duties rest = control at course
        cases course with
        | takeOver _ ends => cases ends <;> simp
        | closing _ last => cases last
      simpa [Depot.hinders] using unlocked none
    | finishing =>
      cases whole
      rfl
    | @parting upper _ last =>
      -- What the conclusion leaves above its last task are chores.
      cases upper with
      | nil =>
        cases whole
        rfl
      | cons first upper =>
        cases whole
        exact Depot.hinders_of_isChore last.head permitted

/-- Without a thread every call comes to rest. -/
theorem Serving.ends (serving : Serving Unstaffed earlier caller world)
    (invariant : CrashFreeInvariant world) :
    ∃ rested, world.Proceeds (fun _ => True) rested ∧ rested.AtRest := by
  have member : caller ∈ world.callers := by simp [serving.callers]
  have finite := invariant.shutdown.core.custody.finite member
  have comes := @Comes.back world.depot.settings caller caller.tasks [] (by simp) finite
  generalize fixed : world.depot.settings = settings at comes
  clear member finite
  -- Induction on the steps that are still to come.
  induction comes generalizing world with
  | there reached =>
    refine ⟨world, .refl, ?_, fun choice => ?_⟩
    · simp only [serving.callers, List.forall_mem_append, List.forall_mem_singleton]
      exact ⟨serving.answered, reached⟩
    · exact @Unstaffed.asleep { world.depot with permits := world.depot.permits + 1 } _ _
        serving.stage choice
  | @on caller able _ ih =>
    -- Sends are let go on, and then the caller does its next task.
    obtain ⟨depot, courier, callers⟩ := world
    obtain rfl : callers = earlier ++ [caller] := serving.callers
    have letGo := World.Step.letGo ⟨depot, courier, earlier ++ [caller]⟩
    have ready : Serving Unstaffed earlier caller
        ⟨{ depot with permits := depot.permits + 1 }, courier, earlier ++ [caller]⟩ :=
      ⟨rfl, serving.answered, serving.stage⟩
    obtain ⟨choice, possible⟩ := able _ (ready.free (invariant.step letGo) (by simp))
    obtain ⟨⟨after, next⟩, acted⟩ := Option.isSome_iff_exists.mp possible
    have change := @World.Step.caller courier earlier [] _ _ _ _ choice acted
    obtain ⟨served, further, -, -⟩ :=
      ready.step Unstaffed.service (invariant.step letGo) trivial change (by simp)
    have invariant' := (invariant.step letGo).step change
    obtain rfl : served = next := by simpa using further.callers.symm
    obtain ⟨task, rest, rfl, deed⟩ := Agent.deed_of_step acted
    obtain ⟨rested, proceeds, rest⟩ := ih choice
      { depot with permits := depot.permits + 1 } after served fixed acted
      (invariant'.unharmed served (by simp [World.agents])) further invariant'
      (deed.settings.trans fixed)
    refine ⟨rested, ?_, rest⟩
    exact ((World.Proceeds.refl.step trivial letGo (by simp)).step trivial change (by simp)).trans
      proceeds

end Existence

namespace World

/-- Whether everybody has been answered, and the courier can do nothing even if it is let go on. -/
def isAtRest (world : World) : Bool :=
  world.callers.all (·.tasks.isEmpty) &&
    (world.courier.advance
      { world.depot with permits := world.depot.permits + 1 }).isNone

/-- The last caller does its next task, or else the courier. -/
def advance (world : World) : Option World :=
  match world.callers.reverse with
  | [] => none
  | caller :: others =>
    match caller.advance world.depot with
    | some (depot, next) => some ⟨depot, world.courier, others.reverse ++ [next]⟩
    | none => (world.courier.advance world.depot).map fun (depot, next) =>
        ⟨depot, next, world.callers⟩

instance (world : World) : Decidable world.Timely :=
  decidable_of_iff (world.depot.pending < world.depot.queue.maxBatch ∧
    (∀ wake ∈ world.courier.wake?, world.depot.now < wake) ∧
      (world.depot.thread = .running → ∀ caller ∈ world.callers, ∀ deadline ∈ caller.deadline?,
        world.depot.now < deadline))
    ⟨fun ⟨room, early, soon⟩ => ⟨room, early, soon⟩, fun timely =>
      ⟨timely.room, timely.early, timely.soon⟩⟩

/-- Goes on as long as the world is timely and somebody can do something, up to a number of
steps. -/
def settle : Nat → World → World
  | 0, world => world
  | fuel + 1, world =>
    if world.Timely then
      match world.advance with
      | none => world
      | some next => next.settle fuel
    else world

end World

/-- Whoever does not advance can do nothing. -/
theorem Agent.step_of_not_advance {agent : Agent} {depot : Depot}
    (stuck : agent.advance depot = none) (choice : Choice) : agent.step choice depot = none := by
  -- Who does not advance finds each of the three choices closed.
  simp only [advance, Option.orElse_eq_orElse, Option.orElse_eq_or, Option.or_eq_none_iff] at stuck
  cases choice with
  | signal => exact stuck.1.1
  | order => exact stuck.1.2
  | timer => exact stuck.2

namespace World

variable {world : World}

/-- A world that is found to be at rest is at rest. -/
theorem atRest_of_isAtRest (rest : world.isAtRest = true) : world.AtRest := by
  -- What is tried with one send more let go on is what rest means.
  simp only [isAtRest, Bool.and_eq_true, List.all_eq_true, List.isEmpty_iff,
    Option.isNone_iff_eq_none] at rest
  exact ⟨rest.1, Agent.step_of_not_advance rest.2⟩

/-- Whoever advances takes a step, and nobody calls meanwhile. -/
theorem step_of_advance {next : World} (advanced : world.advance = some next) :
    Step world next ∧ next.callers.length = world.callers.length := by
  obtain ⟨depot, courier, callers⟩ := world
  unfold advance at advanced
  split at advanced
  · cases advanced
  · rename_i caller others last
    -- The last caller is the one whose turn it is; the others stand before it.
    obtain rfl : callers = others.reverse ++ [caller] := by
      simpa using congrArg List.reverse last
    split at advanced
    · rename_i after later acted
      cases advanced
      obtain ⟨choice, acted⟩ := Agent.step_of_advance acted
      exact ⟨@Step.caller courier others.reverse [] _ _ _ _ choice acted, by simp⟩
    · -- The last caller cannot go on, so that it was the courier.
      obtain ⟨⟨after, later⟩, acted, rfl⟩ := Option.map_eq_some_iff.mp advanced
      obtain ⟨choice, acted⟩ := Agent.step_of_advance acted
      exact ⟨.courier choice acted, rfl⟩

/-- Going on in timely worlds is a way to proceed. -/
theorem proceeds_settle (fuel : Nat) (world : World) :
    world.Proceeds Timely (world.settle fuel) := by
  -- Induction on the steps that may still be taken.
  induction fuel generalizing world with
  | zero => exact .refl
  | succ fuel ih =>
    unfold settle
    split
    · rename_i timely
      cases advanced : world.advance with
      | none => exact .refl
      | some next =>
        obtain ⟨change, nobody⟩ := step_of_advance advanced
        exact (Proceeds.refl.step timely change nobody).trans (ih next)
    · exact .refl

end World

end LogCourier
