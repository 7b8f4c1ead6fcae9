import LogCourier.Proofs.Depot.Echo

/-!
Succession: with the echo on, events are shown in the order of the calls that hand them in, as far
as these calls follow one another.

Of two calls at work at once either may come to the sink first. But a call has shown what it handed
in before it returns, so whoever calls after that comes behind it. What follows is about any group
of agents of which none calls while another of them is at work, such as the calls of one thread.
-/

namespace LogCourier

namespace World

/-- What the agents of a group tell on the way of a world, the latest first, where whoever of them
calls does so only after those of them who called before have returned. -/
inductive TellInTurn (group : Nat → Bool) (first : World) : List Occurrence → World → Prop where
  | refl : TellInTurn group first [] first
  /-- The agent at a place takes a step. -/
  | act {told news : List Occurrence} {world next : World} {left right : List Agent}
      {agent after : Agent} (earlier : TellInTurn group first told world) (choice : Choice)
      (split : world.agents = left ++ agent :: right)
      (acted : agent.step choice world.depot = some (next.depot, after))
      (joined : next.agents = left ++ after :: right)
      (grown : next.depot.journal = news ++ world.depot.journal) :
      TellInTurn group first ((if group left.length then news else []) ++ told) next
  /-- Somebody calls, and has a place behind all others. -/
  | call {told : List Occurrence} {world : World} (earlier : TellInTurn group first told world)
      (call : Call)
      (returned : group world.agents.length = true → ∀ place, group place = true →
        ∀ agent, world.agents[place]? = some agent → agent.tasks = []) :
      TellInTurn group first told (world.called call)
  /-- What lies outside changes. -/
  | outside {told : List Occurrence} {world next : World}
      (earlier : TellInTurn group first told world) (change : Step world next)
      (same : next.agents = world.agents) (still : next.depot.journal = world.depot.journal) :
      TellInTurn group first told next

/-- The events that the agents of a group have still to show. -/
def toShowIn (group : Nat → Bool) (world : World) : List Event :=
  world.agents.zipIdx.flatMap fun (agent, place) => if group place then agent.toShow else []

/-- An agent takes a step wherever it stands. -/
theorem Step.ofAgents {world next : World} {left right : List Agent} {agent after : Agent}
    {choice : Choice} (split : world.agents = left ++ agent :: right)
    (acted : agent.step choice world.depot = some (next.depot, after))
    (joined : next.agents = left ++ after :: right) : Step world next := by
  obtain ⟨depot, courier, callers⟩ := world
  obtain ⟨depot', courier', callers'⟩ := next
  -- The courier stands before all callers.
  cases left with
  | nil =>
    obtain ⟨rfl, rfl⟩ := List.cons.inj split
    obtain ⟨rfl, rfl⟩ := List.cons.inj joined
    exact .courier choice acted
  | cons first left =>
    obtain ⟨rfl, rfl⟩ := List.cons.inj split
    obtain ⟨rfl, rfl⟩ := List.cons.inj joined
    exact .caller choice acted

/-- What is told in turn is told of a way that the world can go. -/
theorem TellInTurn.reachable {group : Nat → Bool} {first world : World} {told : List Occurrence}
    (tells : TellInTurn group first told world) : Reachable first world := by
  -- Induction on what was told: each of its changes is one of the world.
  induction tells with
  | refl => exact .refl
  | act _ choice split acted joined _ ih => exact ih.step (.ofAgents split acted joined)
  | call _ call _ ih => exact ih.step (.call _ call)
  | outside _ change _ _ ih => exact ih.step change

end World

/-- Of a group of agents at most one is at work. -/
def OneAtWork (group : Nat → Bool) (agents : List Agent) : Prop :=
  ∀ one two agent other, group one = true → group two = true → agents[one]? = some agent →
    agents[two]? = some other → agent.tasks ≠ [] → other.tasks ≠ [] → one = two

/-- It remains so when something changes at one place only, and no other agent of the group is at
work if that place belongs to it. -/
theorem OneAtWork.changed {group : Nat → Bool} {agents later : List Agent} {place : Nat}
    (alone : OneAtWork group agents)
    (elsewhere : ∀ other, other ≠ place → later[other]? = agents[other]?)
    (idle : group place = true → ∀ other, group other = true → other ≠ place →
      ∀ agent, agents[other]? = some agent → agent.tasks = []) : OneAtWork group later := by
  intro one two agent other inOne inTwo atOne atTwo busy busy'
  -- Whoever is at work beside the place that changed was at work before.
  by_cases first : one = place <;> by_cases second : two = place
  · exact first.trans second.symm
  · subst first
    rw [elsewhere two second] at atTwo
    exact absurd (idle inOne two inTwo second other atTwo) busy'
  · subst second
    rw [elsewhere one first] at atOne
    exact absurd (idle inTwo one inOne first agent atOne) busy
  · rw [elsewhere one first] at atOne
    rw [elsewhere two second] at atTwo
    exact alone one two agent other inOne inTwo atOne atTwo busy busy'

/-- What an agent does changes nothing at the places of others. -/
theorem getElem?_of_replaced {agents later left right : List Agent} {agent after : Agent}
    (split : agents = left ++ agent :: right) (joined : later = left ++ after :: right) :
    ∀ other, other ≠ left.length → later[other]? = agents[other]? := by
  intro other elsewhere
  subst split joined
  -- Behind the place of the agent the two lists are alike again.
  rw [List.getElem?_append, List.getElem?_append]
  split
  · rfl
  · rw [List.getElem?_cons, List.getElem?_cons, if_neg (by omega), if_neg (by omega)]

namespace World

variable {group : Nat → Bool} {world next : World} {left right : List Agent} {agent : Agent}

/-- What a group has to show is what the agent at a place has and what those before and behind it
have. -/
theorem toShowIn_of_split (split : world.agents = left ++ agent :: right) :
    world.toShowIn group =
      (left.zipIdx.flatMap fun (agent, place) => if group place then agent.toShow else []) ++
        ((if group left.length then agent.toShow else []) ++
          (right.zipIdx (left.length + 1)).flatMap fun (agent, place) =>
            if group place then agent.toShow else []) := by
  simp [toShowIn, split, List.zipIdx_append, List.zipIdx_cons]

/-- When nobody else of a group is at work, it has to show what one agent has. -/
theorem toShowIn_of_alone (split : world.agents = left ++ agent :: right)
    (chosen : group left.length = true)
    (idle : ∀ other, group other = true → other ≠ left.length →
      ∀ agent, world.agents[other]? = some agent → agent.tasks = []) :
    world.toShowIn group = agent.toShow := by
  -- Whoever is not at work has nothing to show.
  have silent {other : Agent} {place : Nat} (away : place ≠ left.length)
      (there : world.agents[place]? = some other) :
      (if group place then other.toShow else []) = [] := by
    split
    · rename_i included
      rw [Agent.toShow, idle place included away other there, List.flatMap_nil]
    · rfl
  rw [toShowIn_of_split split, if_pos chosen]
  have before : (left.zipIdx.flatMap fun (agent, place) =>
      if group place then agent.toShow else []) = [] := by
    refine List.flatMap_eq_nil_iff.mpr ?_
    rintro ⟨other, place⟩ member
    have there := List.mem_zipIdx_iff_getElem?.mp member
    have within := (List.getElem?_eq_some_iff.mp there).1
    exact silent (by omega) (by rw [split, List.getElem?_append_left within]; exact there)
  have behind : ((right.zipIdx (left.length + 1)).flatMap fun (agent, place) =>
      if group place then agent.toShow else []) = [] := by
    refine List.flatMap_eq_nil_iff.mpr ?_
    rintro ⟨other, place⟩ member
    obtain ⟨beyond, there⟩ := List.mem_zipIdx_iff_le_and_getElem?_sub.mp member
    refine silent (by omega) ?_
    rw [split, List.getElem?_append_right (by omega), List.getElem?_cons, if_neg (by omega)]
    rwa [show place - left.length - 1 = place - (left.length + 1) by omega]
  rw [before, behind, List.nil_append, List.append_nil]

end World

/-- What a group of agents handed in has been shown in the same order, but for what whoever of them
is at work has still to show. -/
structure ShownInTurn (group : Nat → Bool) (told : List Occurrence) (world : World) : Prop where
  alone : OneAtWork group world.agents
  ordered : submissions told = showings told ++ world.toShowIn group

namespace ShownInTurn

variable {group : Nat → Bool} {told news : List Occurrence} {world next : World}

/-- What an agent does keeps it. -/
theorem act (shown : ShownInTurn group told world)
    (prompt : ∀ agent ∈ world.agents, ShowsBeforeNext agent.tasks)
    (echo : world.depot.settings.echo = true) {left right : List Agent} {agent after : Agent}
    {choice : Choice} (split : world.agents = left ++ agent :: right)
    (acted : agent.step choice world.depot = some (next.depot, after))
    (joined : next.agents = left ++ after :: right)
    (grown : next.depot.journal = news ++ world.depot.journal) :
    ShownInTurn group ((if group left.length then news else []) ++ told) next := by
  have elsewhere := getElem?_of_replaced split joined
  obtain ⟨task, rest, rfl, deed⟩ := Agent.deed_of_step acted
  -- Whoever takes a step is at work, so no other agent of its group is.
  have idle (chosen : group left.length = true) (other : Nat) (included : group other = true)
      (away : other ≠ left.length) (agent : Agent) (there : world.agents[other]? = some agent) :
      agent.tasks = [] := by
    refine Classical.byContradiction fun busy => away ?_
    exact shown.alone other left.length agent { rest with tasks := task :: rest.tasks } included
      chosen there (by simp [split]) busy (List.cons_ne_nil _ _)
  refine ⟨shown.alone.changed elsewhere idle, ?_⟩
  cases chosen : group left.length with
  | false =>
    -- It does not belong to the group, and leaves what the group has to show.
    simpa [World.toShowIn_of_split joined, World.toShowIn_of_split split, chosen] using
      shown.ordered
  | true =>
    -- The group has to show what it had and has to show.
    have had := World.toShowIn_of_alone split chosen (idle chosen)
    have has := World.toShowIn_of_alone joined chosen fun other included away agent there =>
      idle chosen other included away agent (by rwa [← elsewhere other away])
    obtain ⟨tells, told', echoing, _⟩ :=
      deed.echoes echo (prompt { rest with tasks := task :: rest.tasks } (by simp [split]))
    obtain rfl := List.append_cancel_right (grown.symm.trans told')
    have ordered := shown.ordered
    rw [had] at ordered
    rw [has, if_pos rfl]
    exact echoing.keeps ordered

/-- A call keeps it, if nobody else of the group is at work. -/
theorem call (shown : ShownInTurn group told world) (call : Call)
    (returned : group world.agents.length = true → ∀ place, group place = true →
      ∀ agent, world.agents[place]? = some agent → agent.tasks = []) :
    ShownInTurn group told (world.called call) := by
  have joined : (world.called call).agents =
      world.agents ++ [.ofTasks (call.tasks world.depot.settings)] := rfl
  have elsewhere (other : Nat) (away : other ≠ world.agents.length) :
      (world.called call).agents[other]? = world.agents[other]? := by
    rw [joined, List.getElem?_append]
    split
    · rfl
    · rw [List.getElem?_singleton, if_neg (by omega), List.getElem?_eq_none (by omega)]
  constructor
  · exact shown.alone.changed elsewhere fun chosen other included _ =>
      returned chosen other included
  · -- Whoever has just called has nothing to show.
    have none : (Agent.ofTasks (call.tasks world.depot.settings)).toShow = [] := by
      cases call <;> rfl
    rw [World.toShowIn_of_split joined, none]
    simpa [World.toShowIn] using shown.ordered

end ShownInTurn

/-- With the echo on, calls of which each comes after those before it have returned are shown in the
order in which they were made. -/
theorem World.TellInTurn.shown {group : Nat → Bool} {depot : Depot} {told : List Occurrence}
    {world : World} (tells : TellInTurn group (.initial depot) told world)
    (fresh : depot.journal = []) (echo : depot.settings.echo = true) :
    ShownInTurn group told world := by
  induction tells with
  | refl =>
    -- At first there is only the courier, which has nothing to show.
    refine ⟨fun one two _ _ _ _ atOne atTwo _ _ => ?_, by
      simp [toShowIn, initial, agents, Agent.toShow, Task.toShow, submissions, showings, echoed]⟩
    have one' := (List.getElem?_eq_some_iff.mp atOne).1
    have two' := (List.getElem?_eq_some_iff.mp atTwo).1
    simp only [initial, agents, List.length_singleton] at one' two'
    omega
  | act earlier choice split acted joined grown ih =>
    have echoed := ShownOnce.reachable fresh echo earlier.reachable
    have same := (CoreInvariant.constant earlier.reachable).1
    exact ih.act echoed.prompt (by rw [same]; exact echo) split acted joined grown
  | call _ call returned ih => exact ih.call call returned
  | outside _ _ same _ ih =>
    refine ⟨by rw [same]; exact ih.alone, ?_⟩
    have still := ih.ordered
    rwa [toShowIn, ← same] at still

namespace World

/-- The world after the caller at a place has acted alone for some steps. -/
def afterSteps (world : World) (place steps : Nat) : World :=
  match world.callers[place]? with
  | none => world
  | some caller =>
    let (depot, next) := caller.run steps world.depot
    ⟨depot, world.courier, world.callers.set place next⟩

namespace TellInTurn

variable {group : Nat → Bool} {first : World} {told : List Occurrence}

/-- What a caller does alone is told in turn. -/
theorem run (courier : Agent) (left right : List Agent) :
    ∀ (steps : Nat) {told : List Occurrence} (caller : Agent) (depot : Depot),
      TellInTurn group first told ⟨depot, courier, left ++ caller :: right⟩ →
        ∃ news, (caller.run steps depot).1.journal = news ++ depot.journal ∧
          TellInTurn group first ((if group (left.length + 1) then news else []) ++ told)
            ⟨(caller.run steps depot).1, courier, left ++ (caller.run steps depot).2 :: right⟩ := by
  intro steps
  induction steps with
  | zero =>
    intro told caller depot tells
    exact ⟨[], rfl, by simpa [Agent.run] using tells⟩
  | succ steps ih =>
    intro told caller depot tells
    simp only [Agent.run]
    cases advanced : caller.advance depot with
    | none => exact ⟨[], rfl, by simpa using tells⟩
    | some result =>
      -- What the first step tells comes before what all others tell.
      obtain ⟨choice, acted⟩ := Agent.step_of_advance advanced
      obtain ⟨_, _, _, deed⟩ := Agent.deed_of_step acted
      obtain ⟨news, grown⟩ := deed.grown
      have split : (⟨depot, courier, left ++ caller :: right⟩ : World).agents =
          (courier :: left) ++ caller :: right := rfl
      have joined : (⟨result.1, courier, left ++ result.2 :: right⟩ : World).agents =
          (courier :: left) ++ result.2 :: right := rfl
      have one := tells.act choice split acted joined grown
      obtain ⟨later, grown', tells'⟩ := ih result.2 result.1 one
      refine ⟨later ++ news, by rw [grown', grown, List.append_assoc], ?_⟩
      cases chosen : group (left.length + 1) <;> simpa [chosen] using tells'

/-- The steps of a caller are told in turn. -/
theorem afterSteps {world : World} (tells : TellInTurn group first told world)
    (place steps : Nat) :
    ∃ news, (world.afterSteps place steps).depot.journal = news ++ world.depot.journal ∧
      TellInTurn group first ((if group (place + 1) then news else []) ++ told)
        (world.afterSteps place steps) := by
  unfold World.afterSteps
  cases there : world.callers[place]? with
  | none => exact ⟨[], rfl, by simpa using tells⟩
  | some caller =>
    -- The caller stands between those who called before it and those who called after it.
    obtain ⟨within, here⟩ := List.getElem?_eq_some_iff.mp there
    have split : world.callers =
        world.callers.take place ++ caller :: world.callers.drop (place + 1) := by
      rw [← here, List.getElem_cons_drop, List.take_append_drop]
    have stands : (world.callers.take place).length = place := by simp; omega
    have among : TellInTurn group first told
        ⟨world.depot, world.courier,
          world.callers.take place ++ caller :: world.callers.drop (place + 1)⟩ := by
      rwa [← split]
    obtain ⟨news, grown, tells'⟩ := run world.courier _ _ steps caller world.depot among
    refine ⟨news, grown, ?_⟩
    rw [stands] at tells'
    simpa only [List.set_eq_take_append_cons_drop, if_pos within] using tells'

/-- When all callers have returned, whatever another one does is told in turn. -/
theorem another {world : World} (tells : TellInTurn (· != 0) first world.depot.journal world)
    (returned : ∀ caller ∈ world.callers, caller.tasks = []) (call : Call) (place steps : Nat) :
    TellInTurn (· != 0) first ((world.called call).afterSteps place steps).depot.journal
      ((world.called call).afterSteps place steps) := by
  -- All that stands behind the courier has called.
  have idle (place : Nat) (behind : (place != 0) = true) (agent : Agent)
      (there : world.agents[place]? = some agent) : agent.tasks = [] := by
    cases place with
    | zero => cases behind
    | succ place => exact returned agent (List.mem_of_getElem? there)
  obtain ⟨news, grown, tells'⟩ := (tells.call call fun _ => idle).afterSteps place steps
  rw [grown]
  exact tells'

end TellInTurn

end World

end LogCourier
