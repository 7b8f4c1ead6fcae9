import LogCourier.Proofs.Depot.Muting
import LogCourier.Proofs.Depot.Traffic
import LogCourier.Proofs.Queue.Ages

/-!
Chronicle: which tasks were done at which instants on the way to a world.

From the chronicle alone it can be told what waits in the queue, and since when each event does.
-/

namespace LogCourier

namespace Queue

variable {α : Type} {queue after : Queue α} {now : Nat} {item : α} {entry : Entry}

/-- The queue after it was used, without the wish to be emptied that may follow. -/
def used (queue : Queue α) : Use α → Queue α
  | .add now item => (queue.push now item).1
  | .drain => queue.drain.1
  | .close => queue.close.1
  | .takeSignal => queue.takeSignal.1

/-- There is only one thing that can become of an item at the door. -/
theorem Pushed.eq_push (pushed : Pushed queue now item after entry) :
    queue.push now item = (after, entry) := by
  unfold push
  cases pushed with
  | refusedClosed closed => simp [closed]
  | displacing opened ceiling policy full => simp [opened, policy, full]
  | refusedFull opened ceiling policy full => simp [opened, policy, full]
  | appended opened room =>
    -- Where there is a ceiling, it has not been reached.
    cases policy : queue.overflow with
    | unbounded => simp [opened]
    | evictOldest ceiling | refuseNewest ceiling =>
      have below := room ceiling (by rw [policy]; rfl)
      have free : ¬ ceiling ≤ queue.waiting.length := by omega
      simp [opened, free]

/-- The signal makes no difference to what becomes of an item at the door. -/
theorem push_takeSignal (queue : Queue α) (now : Nat) (item : α) :
    queue.takeSignal.1.push now item =
      ((queue.push now item).1.takeSignal.1, (queue.push now item).2) := by
  -- The door looks at the same fields of both queues.
  have pushed := queue.pushed_push now item
  refine Pushed.eq_push ?_
  generalize queue.push now item = result at pushed
  obtain ⟨after, entry⟩ := result
  cases pushed with
  | refusedClosed closed => exact .refusedClosed closed
  | appended opened room => exact .appended opened room
  | displacing opened ceiling policy full => exact .displacing opened ceiling policy full
  | refusedFull opened ceiling policy full => exact .refusedFull opened ceiling policy full

/-- The signal makes no difference to what a use does to the rest. -/
theorem used_takeSignal (queue : Queue α) (use : Use α) :
    (queue.takeSignal.1.used use).takeSignal.1 = (queue.used use).takeSignal.1 := by
  -- Adding looks only at what is there and at the limits.
  cases use with
  | add now item => simp only [used, push_takeSignal]; rfl
  | drain | close | takeSignal => rfl

end Queue

/-- A queue in use changes by its use, but for the signal. -/
theorem Usage.use_queue {α : Type} (usage : Usage α) (use : Use α) :
    (usage.use use).queue.takeSignal.1 = (usage.queue.used use).takeSignal.1 := by
  -- In use the queue keeps its signal and forgets it, but nothing else is different.
  cases use with
  | add now item => simp only [Usage.use, Queue.used, Queue.add_eq, Queue.takeSignal]
  | drain | close | takeSignal => rfl

/-- A task that was done, and when. -/
structure Act where
  instant : Nat
  task : Task

/-- How the queue was used by a task that was done, but for the signal. -/
def Act.use? (act : Act) : Option (Use Event) :=
  match act.task with
  | .append event => some (.add act.instant event)
  | .drain _ => some .drain
  | .closeQueue _ => some .close
  | _ => none

/-- How the queue was used in the course of acts, the latest first. -/
def uses (acts : List Act) : List (Use Event) :=
  acts.filterMap Act.use?

/-- The events that wait after acts, each with the instant at which it came, the oldest first. -/
def pendingAfter (settings : Settings) (acts : List Act) : List (Nat × Event) :=
  Use.heldSince settings.maxBatch settings.overflow (uses acts)

/-- Whether, after acts, an event has taken the place of the oldest one since all was last taken. -/
def displacedAfter (settings : Settings) (acts : List Act) : Bool :=
  Use.hasDisplaced settings.maxBatch settings.overflow (uses acts)

/-- What a step does to the queue, but for the signal, can be told from its task. -/
theorem Deed.used {depot after : Depot} {agent next : Agent} {task : Task}
    (deed : Deed depot agent task after next) :
    after.queue.takeSignal.1 =
      ((Act.mk depot.now task).use?.elim depot.queue depot.queue.used).takeSignal.1 := by
  have door {event : Event} {queue : Queue Event} {entry : Entry}
      (pushed : Queue.Pushed depot.queue depot.now event queue entry) :
      queue.takeSignal.1 = (depot.queue.push depot.now event).1.takeSignal.1 := by
    rw [pushed.eq_push]
  -- Only tasks that use the queue change it, apart from the signal.
  rcases deed with intake | delivery | duty
  · cases intake with
    | refuseClosed event closed => exact door (.refusedClosed closed)
    | refuseFull event ceiling opened policy full =>
      exact door (.refusedFull opened ceiling policy full)
    | append event queue opened room grown =>
      subst grown
      exact door (.appended opened room)
    | displace event _ _ ceiling queue opened policy full _ shifted =>
      subst shifted
      exact door (.displacing opened ceiling policy full)
    | displaceNobody event queue opened policy _ shifted =>
      subst shifted
      exact door (.displacing opened 0 policy (Nat.zero_le _))
    | _ => rfl
  · cases delivery <;> rfl
  · cases duty with
    | reportLosses => unfold Depot.reportLosses; split <;> rfl
    | _ => rfl

/-- No step moves the clock. -/
theorem Deed.now {depot after : Depot} {agent next : Agent} {task : Task}
    (deed : Deed depot agent task after next) : after.now = depot.now := by
  -- The clock is read in some steps and set in none.
  rcases deed with intake | delivery | duty
  · cases intake <;> rfl
  · cases delivery <;> rfl
  · cases duty with
    | reportLosses => unfold Depot.reportLosses; split <;> rfl
    | _ => rfl

namespace World

/-- A change of a world, with the task that is done in it, if it is a step of an agent. -/
inductive Performs : World → List Act → World → Prop where
  /-- An agent takes a step. -/
  | act (seat : Seat) {before after : Depot} {agent next : Agent} {task : Task} (choice : Choice)
      (acted : Agent.step { agent with tasks := task :: agent.tasks } choice before =
        some (after, next)) :
      Performs (seat.world before { agent with tasks := task :: agent.tasks })
        [⟨before.now, task⟩] (seat.world after next)
  | call (world : World) (call : Call) :
      Performs world []
        { world with callers := world.callers ++ [.ofTasks (call.tasks world.depot.settings)] }
  | clock (world : World) (instant : Nat) (later : world.depot.now ≤ instant) :
      Performs world [] { world with depot := { world.depot with now := instant } }
  | wall (world : World) (instant : Timestamp) :
      Performs world [] { world with depot := { world.depot with wall := instant } }
  | letGo (world : World) :
      Performs world []
        { world with depot := { world.depot with permits := world.depot.permits + 1 } }

/-- The ways in which a world can come about, with all tasks that were done, the latest first. -/
inductive Chronicle (start : World) : List Act → World → Prop where
  | refl : Chronicle start [] start
  | step {world next : World} {acts more : List Act} (before : Chronicle start acts world)
      (change : Performs world more next) : Chronicle start (more ++ acts) next

variable {start world next : World} {acts more : List Act}

/-- Each of these changes is a change of the world. -/
theorem Performs.toStep (change : Performs world more next) : Step world next := by
  -- A task that is done is a step of whoever does it.
  cases change with
  | act seat choice acted =>
    cases seat with
    | courier => exact .courier choice acted
    | caller => exact .caller choice acted
  | call _ call => exact .call _ call
  | clock _ instant later => exact .clock _ instant later
  | wall _ instant => exact .wall _ instant
  | letGo => exact .letGo _

/-- A step of an agent is that of its first task. -/
theorem Performs.ofActed (seat : Seat) {before after : Depot} {agent next : Agent}
    {choice : Choice} (acted : agent.step choice before = some (after, next)) :
    ∃ more, Performs (seat.world before agent) more (seat.world after next) := by
  -- The agent has a first task, for it takes a step.
  obtain ⟨task, rest, rfl, _⟩ := Agent.act_of_step acted
  exact ⟨_, .act seat choice acted⟩

/-- In each change of a world a task is done, or none. -/
theorem Step.performs (step : Step world next) : ∃ more, Performs world more next := by
  -- The courier and the callers each have a seat of their own.
  cases step with
  | @courier callers _ _ _ _ choice acted => exact Performs.ofActed (.courier callers) acted
  | @caller courier left right _ _ _ _ choice acted =>
    exact Performs.ofActed (.caller courier left right) acted
  | call _ call => exact ⟨_, .call _ call⟩
  | clock _ instant later => exact ⟨_, .clock _ instant later⟩
  | wall _ instant => exact ⟨_, .wall _ instant⟩
  | letGo => exact ⟨_, .letGo _⟩

/-- A world can come about exactly if there is a chronicle of it. -/
theorem reachable_iff_chronicle :
    Reachable start world ↔ ∃ acts, Chronicle start acts world := by
  -- Change by change, in both directions.
  constructor
  · intro run
    induction run with
    | refl => exact ⟨[], .refl⟩
    | step _ step ih =>
      obtain ⟨acts, chronicle⟩ := ih
      obtain ⟨more, change⟩ := step.performs
      exact ⟨_, chronicle.step change⟩
  · rintro ⟨acts, chronicle⟩
    induction chronicle with
    | refl => exact .refl
    | step _ change ih => exact ih.step change.toStep

/-- Whatever has a chronicle can come about. -/
theorem Chronicle.reachable (chronicle : Chronicle start acts world) : Reachable start world :=
  reachable_iff_chronicle.mpr ⟨acts, chronicle⟩

end World

/-- A turn, with the task that is done in it; the clock does not go back. -/
inductive Stroke (world next : World) : List Act → Prop where
  /-- One of the agents does its first task. -/
  | act (left right : List Agent) (agent after : Agent) (task : Task)
      (split : world.agents = left ++ { agent with tasks := task :: agent.tasks } :: right)
      (joined : next.agents = left ++ after :: right)
      (deed : Deed world.depot agent task next.depot after) :
      Stroke world next [⟨world.depot.now, task⟩]
  /-- Somebody calls. -/
  | call (call : Call) (same : next.depot = world.depot)
      (joined : next.agents =
        world.agents ++ [.ofTasks (call.tasks world.depot.settings)]) : Stroke world next []
  /-- What lies outside changes. -/
  | outside (now : Nat) (wall : Timestamp) (permits : Nat) (later : world.depot.now ≤ now)
      (elsewhere : next.depot = { world.depot with now, wall, permits })
      (same : next.agents = world.agents) : Stroke world next []

/-- Every change with its task is such a turn. -/
theorem World.Performs.stroke {world next : World} {more : List Act}
    (change : World.Performs world more next) : Stroke world next more := by
  cases change with
  | act seat choice acted =>
    -- Wherever the agent stands, it does its first task.
    cases seat with
    | courier callers => exact .act [] callers _ _ _ rfl rfl (.of_act acted)
    | caller other left right => exact .act (other :: left) right _ _ _ rfl rfl (.of_act acted)
  | call _ call => exact .call call rfl rfl
  | clock _ instant later => exact .outside _ _ _ later rfl rfl
  | wall => exact .outside _ _ _ (Nat.le_refl _) rfl rfl
  | letGo => exact .outside _ _ _ (Nat.le_refl _) rfl rfl

/-- The clock never goes back. -/
theorem Stroke.now {world next : World} {more : List Act} (stroke : Stroke world next more) :
    world.depot.now ≤ next.depot.now := by
  -- Only what lies outside sets the clock, and it does not set it back.
  cases stroke with
  | act left right agent after task split joined deed => exact Nat.le_of_eq deed.now.symm
  | call call same => exact Nat.le_of_eq (congrArg Depot.now same.symm)
  | outside now wall permits later elsewhere => rw [elsewhere]; exact later

/-- Such a turn is a turn. -/
theorem Stroke.turn {world next : World} {more : List Act} (stroke : Stroke world next more) :
    Turn world next := by
  -- The task that was done is forgotten.
  cases stroke with
  | act left right agent after task split joined deed =>
    exact .act left right agent after task split joined deed
  | call call same joined => exact .call call same joined
  | outside now wall permits _ elsewhere same => exact .outside now wall permits elsewhere same

namespace World.Chronicle

variable {start world : World} {acts : List Act}

/-- What holds at first, and is kept by every turn with what is done in it, holds of every world and
its chronicle. -/
theorem induction (motive : List Act → World → Prop) (first : motive [] start)
    (kept : ∀ {acts more : List Act} {world next : World}, Chronicle start acts world →
      motive acts world → Stroke world next more → motive (more ++ acts) next)
    (chronicle : Chronicle start acts world) : motive acts world := by
  -- Induction on the chronicle.
  induction chronicle with
  | refl => exact first
  | step before change ih => exact kept before ih change.stroke

/-- Every task is done at an instant on the way. -/
theorem instants (chronicle : Chronicle start acts world) :
    start.depot.now ≤ world.depot.now ∧ ∀ act ∈ acts, start.depot.now ≤ act.instant := by
  -- The clock goes on from act to act.
  refine chronicle.induction
    (fun acts world => start.depot.now ≤ world.depot.now ∧
      ∀ act ∈ acts, start.depot.now ≤ act.instant) ⟨Nat.le_refl _, by simp⟩ ?_
  intro acts more world next _ both stroke
  obtain ⟨goes, each⟩ := both
  refine ⟨Nat.le_trans goes stroke.now, ?_⟩
  cases stroke with
  | act => exact List.forall_mem_cons.mpr ⟨goes, each⟩
  | call | outside => exact each

/-- Every task that was done was done in a world with a chronicle of its own. -/
theorem before {later earlier : List Act} {act : Act}
    (chronicle : Chronicle start (later ++ act :: earlier) world) :
    ∃ between next, Chronicle start earlier between ∧ Stroke between next [act] := by
  -- Induction on the chronicle: the task was done in the last change, or before it.
  generalize whole : later ++ act :: earlier = acts at chronicle
  induction chronicle generalizing later with
  | refl => simp at whole
  | @step between next acts more past change ih =>
    have stroke := change.stroke
    cases stroke with
    | act left right agent after task split joined deed =>
      cases later with
      | nil =>
        obtain ⟨rfl, rfl⟩ := List.cons.inj whole
        exact ⟨_, _, past, change.stroke⟩
      | cons latest later => exact ih (List.cons.inj whole).2
    | call => exact ih whole
    | outside => exact ih whole

end World.Chronicle

/-- The chronicle tells what the queue holds, and of instants that never go back. -/
structure ToldByChronicle (settings : Settings) (acts : List Act) (world : World) : Prop where
  same : world.depot.settings = settings
  queue : world.depot.queue.takeSignal.1 =
    (Usage.after settings.maxBatch settings.overflow (uses acts)).queue.takeSignal.1
  timely : Use.Timely world.depot.now (uses acts)

/-- Instants that did not go back until one instant did not until a later one. -/
theorem Use.Timely.mono {α : Type} {uses : List (Use α)} {now later : Nat}
    (timely : Use.Timely now uses) (goes : now ≤ later) : Use.Timely later uses := by
  -- The latest addition came before both.
  induction uses with
  | nil => trivial
  | cons latest earlier ih =>
    cases latest with
    | add instant item => exact ⟨Nat.le_trans timely.1 goes, timely.2⟩
    | drain | close | takeSignal => exact ih timely

namespace ToldByChronicle

variable {settings : Settings} {acts more : List Act} {world next : World}

/-- Before anything has happened there is nothing to tell. -/
theorem initial (settings : Settings) (threshold : Threshold) (transportName sinkName : String)
    (wall : Timestamp) (script : Script) :
    ToldByChronicle settings []
      (.initial (.create settings threshold transportName sinkName wall script)) :=
  -- Nothing has been done, so the queue is the one that was made.
  ⟨rfl, rfl, trivial⟩

/-- A turn is told in the chronicle. -/
theorem stroke (logged : ToldByChronicle settings acts world) (stroke : Stroke world next more) :
    ToldByChronicle settings (more ++ acts) next := by
  obtain ⟨same, queue, timely⟩ := logged
  cases stroke with
  | act left right agent after task split joined deed =>
    refine ⟨deed.settings.trans same, ?_, ?_⟩
    · -- The queue is used by the task as it is told.
      rw [deed.used]
      cases told : (Act.mk world.depot.now task).use? with
      | none => simpa [uses, told] using queue
      | some use =>
        simp only [uses, List.singleton_append, List.filterMap_cons, told, Option.elim_some,
          Usage.after, Usage.use_queue]
        rw [← Queue.used_takeSignal, queue, Queue.used_takeSignal, uses]
    · -- An event comes at the instant of its task.
      rw [deed.now]
      simp only [uses, List.singleton_append, List.filterMap_cons]
      cases task <;> simp only [Act.use?] <;> first
        | exact timely
        | exact ⟨Nat.le_refl _, timely⟩
  | call call still joined =>
    rw [List.nil_append]
    exact ⟨still ▸ same, still ▸ queue, still ▸ timely⟩
  | outside now wall permits later elsewhere =>
    rw [List.nil_append]
    refine ⟨by rw [elsewhere]; exact same, by rw [elsewhere]; exact queue, ?_⟩
    rw [elsewhere]
    exact timely.mono later

/-- It holds of every world and its chronicle. -/
theorem ofChronicle {settings : Settings} {threshold : Threshold}
    {transportName sinkName : String} {wall : Timestamp} {script : Script}
    (chronicle : World.Chronicle
      (.initial (.create settings threshold transportName sinkName wall script)) acts world) :
    ToldByChronicle settings acts world := by
  -- Stroke by stroke.
  exact chronicle.induction (ToldByChronicle settings) (.initial ..) fun _ logged stroke =>
    logged.stroke stroke

/-- What waits can be told from the chronicle. -/
theorem waiting (logged : ToldByChronicle settings acts world) :
    (pendingAfter settings acts).map Prod.snd = world.depot.queue.waiting := by
  have same := congrArg Queue.waiting logged.queue
  exact (Usage.heldSince_snd ..).trans same.symm

/-- As many events wait as the chronicle tells. -/
theorem length (logged : ToldByChronicle settings acts world) :
    (pendingAfter settings acts).length = world.depot.queue.waiting.length := by
  rw [← logged.waiting, List.length_map]

/-- A full queue holds a batch of the size that was set, at least one event. -/
theorem size (logged : ToldByChronicle settings acts world) :
    world.depot.queue.maxBatch = max settings.maxBatch 1 := by
  have same := congrArg Queue.maxBatch logged.queue
  exact same.trans (Usage.Follows.after ..).size

/-- The ceiling at which the oldest event has to leave makes room for a full batch. -/
theorem roomy (logged : ToldByChronicle settings acts world) {ceiling : Nat}
    (policy : world.depot.queue.overflow = .evictOldest ceiling) :
    world.depot.queue.maxBatch ≤ ceiling := by
  -- The ceiling was raised to the size of a batch when the queue was made.
  have follows := Usage.Follows.after settings.maxBatch settings.overflow (uses acts)
  have same := congrArg Queue.overflow logged.queue
  rw [logged.size, ← follows.size]
  exact follows.roomy (same.symm.trans policy)

/-- The one instant that the queue keeps is that of a queue that keeps all of them. -/
theorem dated (logged : ToldByChronicle settings acts world) :
    ∃ queue : Queue (Nat × Event),
      queue.Dated (displacedAfter settings acts) world.depot.now ∧
        queue.waiting = pendingAfter settings acts ∧ queue.oldest = world.depot.queue.oldest ∧
          queue.maxBatch = max settings.maxBatch 1 := by
  -- Both queues were used in the same way, one of them with the instants.
  refine ⟨_, Usage.dated settings.maxBatch settings.overflow (uses acts) _ logged.timely,
    Usage.waiting_stamped .., ?_, (Usage.Follows.after ..).size⟩
  have same := congrArg Queue.oldest logged.queue
  exact (Usage.oldest_stamped ..).trans same.symm

/-- The queue keeps an instant exactly if something waits. -/
theorem unset (logged : ToldByChronicle settings acts world) :
    world.depot.queue.oldest = none ↔ world.depot.queue.waiting = [] := by
  obtain ⟨queue, dated, waiting, oldest, _⟩ := logged.dated
  rw [← oldest, dated.vacant, waiting, ← logged.waiting, List.map_eq_nil_iff]

/-- The instant that the queue keeps is none to come. -/
theorem past (logged : ToldByChronicle settings acts world) {since : Nat}
    (told : world.depot.queue.oldest = some since) : since ≤ world.depot.now := by
  obtain ⟨queue, dated, _, oldest, _⟩ := logged.dated
  exact (dated.since since (oldest.trans told)).1

end ToldByChronicle

end LogCourier
