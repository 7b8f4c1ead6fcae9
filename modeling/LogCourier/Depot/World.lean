import LogCourier.Depot.Session

/-!
Worlds: any number of callers beside the courier, whose steps come in any order.

A world changes only by a step of one agent, by a new call, or by what lies outside. A session is
one of the ways in which a world can go: whatever comes to pass in a session is reachable in worlds.
-/

namespace LogCourier

/-- A depot, the courier, and everybody who has called. -/
structure World where
  depot : Depot
  courier : Agent
  callers : List Agent
  deriving DecidableEq

namespace World

/-- A world in which nobody has acted. -/
def initial (depot : Depot) : World := ⟨depot, .courier, []⟩

@[simp] theorem initial_depot (depot : Depot) : (initial depot).depot = depot := rfl

@[simp] theorem initial_courier (depot : Depot) : (initial depot).courier = .courier := rfl

@[simp] theorem initial_callers (depot : Depot) : (initial depot).callers = [] := rfl

/-- One change of a world. -/
inductive Step : World → World → Prop where
  /-- The courier takes a step. -/
  | courier {callers : List Agent} {before after : Depot} {agent next : Agent} (choice : Choice)
      (acted : agent.step choice before = some (after, next)) :
      Step ⟨before, agent, callers⟩ ⟨after, next, callers⟩
  /-- A caller takes a step. -/
  | caller {courier : Agent} {left right : List Agent} {before after : Depot} {agent next : Agent}
      (choice : Choice) (acted : agent.step choice before = some (after, next)) :
      Step ⟨before, courier, left ++ agent :: right⟩ ⟨after, courier, left ++ next :: right⟩
  /-- Somebody calls. -/
  | call (world : World) (call : Call) :
      Step world
        { world with callers := world.callers ++ [.ofTasks (call.tasks world.depot.settings)] }
  /-- The clock goes on. -/
  | clock (world : World) (instant : Nat) (later : world.depot.now ≤ instant) :
      Step world { world with depot := { world.depot with now := instant } }
  /-- The time of day is another. -/
  | wall (world : World) (instant : Timestamp) :
      Step world { world with depot := { world.depot with wall := instant } }
  /-- A waiting send is let go on. -/
  | letGo (world : World) :
      Step world
        { world with depot := { world.depot with permits := world.depot.permits + 1 } }

/-- The worlds that can come about from a world. -/
inductive Reachable (start : World) : World → Prop where
  | refl : Reachable start start
  | step {world next : World} (before : Reachable start world) (change : Step world next) :
      Reachable start next

namespace Reachable

/-- What can come about from what can come about can come about. -/
theorem trans {start middle world : World} (first : Reachable start middle)
    (second : Reachable middle world) : Reachable start world := by
  -- The second part is replayed change by change.
  induction second with
  | refl => exact first
  | step _ change ih => exact ih.step change

end Reachable

end World

namespace Agent

/-- Whatever an agent attends to first, it takes a step. -/
theorem step_of_advance {agent next : Agent} {before after : Depot}
    (advanced : agent.advance before = some (after, next)) :
    ∃ choice, agent.step choice before = some (after, next) := by
  -- The first of the three choices that is possible is the one that was taken.
  unfold advance at advanced
  cases signal : agent.step .signal before with
  | some result => exact ⟨.signal, by simpa [signal] using advanced⟩
  | none =>
    cases order : agent.step .order before with
    | some result => exact ⟨.order, by simpa [signal, order] using advanced⟩
    | none => exact ⟨.timer, by simpa [signal, order] using advanced⟩

end Agent

namespace World

/-- A run of the courier is a way for the world to go. -/
theorem reachable_courier_run (callers : List Agent) :
    ∀ (fuel : Nat) (agent : Agent) (depot : Depot),
      Reachable ⟨depot, agent, callers⟩
        ⟨(agent.run fuel depot).1, (agent.run fuel depot).2, callers⟩ := by
  -- Each unit of fuel is one step or the end.
  intro fuel
  induction fuel with
  | zero => intro agent depot; exact .refl
  | succ fuel ih =>
    intro agent depot
    simp only [Agent.run]
    cases advanced : agent.advance depot with
    | none => exact .refl
    | some result =>
      obtain ⟨choice, acted⟩ := Agent.step_of_advance advanced
      exact (Reachable.refl.step (.courier choice acted)).trans (ih result.2 result.1)

/-- A run of a caller is a way for the world to go. -/
theorem reachable_caller_run (courier : Agent) (left right : List Agent) :
    ∀ (fuel : Nat) (agent : Agent) (depot : Depot),
      Reachable ⟨depot, courier, left ++ agent :: right⟩
        ⟨(agent.run fuel depot).1, courier, left ++ (agent.run fuel depot).2 :: right⟩ := by
  -- Each unit of fuel is one step or the end.
  intro fuel
  induction fuel with
  | zero => intro agent depot; exact .refl
  | succ fuel ih =>
    intro agent depot
    simp only [Agent.run]
    cases advanced : agent.advance depot with
    | none => exact .refl
    | some result =>
      obtain ⟨choice, acted⟩ := Agent.step_of_advance advanced
      exact (Reachable.refl.step (.caller choice acted)).trans (ih result.2 result.1)

end World

namespace Session

/-- The world of a session, with the callers there have been. -/
def world (session : Session) (callers : List Agent) : World :=
  ⟨session.depot, session.courier, callers⟩

/-- Letting the courier come to rest is a way for the world to go. -/
theorem reachable_settle (session : Session) (callers : List Agent) :
    (session.world callers).Reachable (session.settle.world callers) :=
  World.reachable_courier_run callers _ _ _

/-- An attempt of a caller is a way for the world to go. -/
theorem reachable_attempt (session : Session) (callers : List Agent) (caller : Agent) :
    (session.world (callers ++ [caller])).Reachable
      ((session.attempt caller).1.world (callers ++ [(session.attempt caller).2])) := by
  -- The caller runs first, and then the courier comes to rest.
  unfold attempt
  have acted := World.reachable_caller_run session.courier callers []
    (session.depot.effort caller) caller session.depot
  cases ran : caller.run (session.depot.effort caller) session.depot with
  | mk depot caller =>
    rw [ran] at acted
    exact acted.trans (reachable_settle { session with depot } (callers ++ [caller]))

/-- Letting time go on is a way for the world to go. -/
theorem reachable_moveTo (session : Session) (callers : List Agent) (instant : Nat) :
    (session.world callers).Reachable ((session.moveTo instant).world callers) := by
  -- The clock goes on first, and then the courier comes to rest.
  have ticked : (session.world callers).Reachable ((session.withClock instant).world callers) :=
    .step .refl (.clock (session.world callers) _ (Nat.le_max_left session.depot.now instant))
  exact ticked.trans (reachable_settle (session.withClock instant) callers)

/-- Letting time go on with wakes in between is a way for the world to go. -/
theorem reachable_passTo (callers : List Agent) :
    ∀ (wakes : Nat) (session : Session) (instant : Nat),
      (session.world callers).Reachable ((session.passTo wakes instant).world callers) := by
  -- Each wake moves the clock, and so does the end.
  intro wakes
  induction wakes with
  | zero => intro session instant; exact reachable_moveTo session callers instant
  | succ wakes ih =>
    intro session instant
    simp only [passTo]
    split
    · exact reachable_moveTo session callers instant
    · split
      · exact (reachable_moveTo session callers _).trans (ih _ instant)
      · exact reachable_moveTo session callers instant

/-- Letting time go on to an instant is a way for the world to go. -/
theorem reachable_waitUntil (session : Session) (callers : List Agent) (instant : Nat) :
    (session.world callers).Reachable ((session.waitUntil instant).world callers) :=
  reachable_passTo callers _ session instant

/-- What a caller does with its tasks is a way for the world to go. -/
theorem reachable_perform (session : Session) (callers : List Agent) (tasks : List Task) :
    (session.world (callers ++ [.ofTasks tasks])).Reachable
      ((session.perform tasks).1.world (callers ++ [(session.perform tasks).2])) := by
  -- There are two attempts, and a third one after the deadline of whoever still waits.
  unfold perform
  cases first : session.attempt (.ofTasks tasks) with
  | mk rested caller =>
    have begun := reachable_attempt session callers (.ofTasks tasks)
    rw [first] at begun
    cases second : rested.attempt caller with
    | mk settled waiting =>
      have resumed := reachable_attempt rested callers caller
      rw [second] at resumed
      have both := begun.trans resumed
      cases due : waiting.deadline? with
      | none => simpa only [second, due] using both
      | some deadline =>
        have passed := reachable_waitUntil settled (callers ++ [waiting]) deadline
        have ended := reachable_attempt (settled.waitUntil deadline) callers waiting
        simpa only [second, due] using (both.trans passed).trans ended

/-- A call in a session is a way for the world to go. -/
theorem reachable_call (session : Session) (callers : List Agent) (call : Call) :
    (session.world callers).Reachable
      ((session.call call).1.world (callers ++ [(session.call call).2])) := by
  -- Somebody calls, and then does the tasks of the call.
  have called : (session.world callers).Reachable
      (session.world (callers ++ [.ofTasks (call.tasks session.depot.settings)])) :=
    .step .refl (.call (session.world callers) call)
  exact called.trans (reachable_perform session callers _)

end Session

end LogCourier
