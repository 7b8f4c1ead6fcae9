import LogCourier.Proofs.Depot.Chronicle

/-!
Ripening: what makes a batch worth taking stays true until it is taken.

Only whoever has the courier takes what waits. Until then events come, and at most the oldest one
leaves, which happens in a queue that holds a full batch.
-/

namespace LogCourier

/-- What becomes of what waits as long as nobody takes it: nothing leaves without something coming,
and the oldest event keeps its instant, unless its place is taken in a full queue. -/
structure Queue.Grows (before after : Queue Event) (displaced : Prop) : Prop where
  size : after.maxBatch = before.maxBatch
  longer : before.waiting.length ≤ after.waiting.length
  aged : before.waiting ≠ [] →
    after.oldest = before.oldest ∨ displaced ∧ before.maxBatch ≤ after.waiting.length

namespace Task

/-- Whether a task is only ever to be done at once. -/
def isUrgent : Task → Bool
  | .flushFor _ | .drain _ | .select .. | .checkReady => true
  | _ => false

/-- Whether a task empties the queue. -/
def empties : Task → Bool
  | .drain _ | .closeQueue _ => true
  | _ => false

/-- Whether a task belongs to the round of the courier, or leads to taking what waits. -/
def isPatrol : Task → Bool
  | .begin | .idle _ | .schedule _ | .plan .. | .select .. | .retick _ => true
  | .checkFull | .checkReady | .checkAge | .flushFor _ | .drain _ => true
  | _ => false

end Task

namespace Depot

/-- Whether an event that comes now takes the place of the oldest one. -/
def Displaces (depot : Depot) (task : Task) : Prop :=
  ∃ event, task = .append event ∧ (depot.queue.push depot.now event).2 = .displacing

/-- There is something for the timer to take at an instant: enough events, or one that has been
waiting for a whole interval. -/
def Ripe (depot : Depot) (instant : Nat) : Prop :=
  depot.queue.waiting ≠ [] ∧
    (depot.settings.minBatch ≤ depot.queue.waiting.length ∨
      ∃ since, depot.queue.oldest = some since ∧
        since + depot.settings.publishInterval.nanos ≤ instant)

/-- What is true whenever a task is to be done that takes a batch for the queue or for the timer. -/
def Warrants (depot : Depot) : Task → Prop
  | .flushFor .size | .drain .size => depot.queue.maxBatch ≤ depot.queue.waiting.length
  | .flushFor .timer | .drain .timer => depot.Ripe depot.now
  | _ => True

end Depot

/-- Unless a task empties the queue, what waits in it only grows. -/
theorem Deed.grows {depot after : Depot} {agent next : Agent} {task : Task}
    (deed : Deed depot agent task after next)
    (roomy : ∀ ceiling, depot.queue.overflow = .evictOldest ceiling →
      depot.queue.maxBatch ≤ ceiling) (keeps : task.empties = false) :
    depot.queue.Grows after.queue (depot.Displaces task) := by
  have still {queue : Queue Event} (size : queue.maxBatch = depot.queue.maxBatch)
      (waiting : queue.waiting = depot.queue.waiting) (oldest : queue.oldest = depot.queue.oldest) :
      depot.queue.Grows queue (depot.Displaces task) :=
    ⟨size, by rw [waiting], fun _ => .inl oldest⟩
  rcases deed with intake | delivery | duty
  · -- An event comes behind the others, or takes the place of the oldest.
    cases intake with
    | append event queue opened room grown =>
      subst grown
      refine ⟨rfl, ?_, fun occupied => .inl ?_⟩
      · simp [Depot.note, Queue.append]
      · simp [Depot.note, Queue.append, occupied]
    | displace event oldest rest ceiling queue opened policy full waiting shifted =>
      subst shifted
      have enough := roomy ceiling policy
      have same : (depot.queue.displace depot.now event).waiting.length =
          depot.queue.waiting.length := by simp [Queue.displace, waiting]
      have displaced : depot.Displaces (.append event) :=
        ⟨event, rfl, by
          rw [(Queue.Pushed.displacing opened ceiling policy full).eq_push]⟩
      refine ⟨rfl, ?_, fun _ => .inr ⟨displaced, ?_⟩⟩
      · simp only [Depot.note, same, Nat.le_refl]
      · simp only [Depot.note, same]
        omega
    | displaceNobody event queue opened policy empty shifted =>
      subst shifted
      refine ⟨rfl, ?_, fun occupied => absurd empty occupied⟩
      simp [Depot.note, empty]
    | _ => exact still rfl rfl rfl
  · cases delivery with
    | drainNothing => cases keeps
    | drain => cases keeps
    | _ => exact still rfl rfl rfl
  · cases duty with
    | closeEmpty => cases keeps
    | close => cases keeps
    | reportLosses => unfold Depot.reportLosses; split <;> exact still rfl rfl rfl
    | _ => exact still rfl rfl rfl

namespace Depot.Ripe

variable {depot after : Depot} {instant later : Nat} {displaced : Prop}

/-- What is ripe stays so as time goes on. -/
theorem mono (ripe : depot.Ripe instant) (goes : instant ≤ later) : depot.Ripe later := by
  obtain ⟨occupied, enough | ⟨since, oldest, stale⟩⟩ := ripe
  · exact ⟨occupied, .inl enough⟩
  · exact ⟨occupied, .inr ⟨since, oldest, by omega⟩⟩

/-- What is ripe stays so as long as nobody takes it. -/
theorem grows (ripe : depot.Ripe instant) (grown : depot.queue.Grows after.queue displaced)
    (same : after.settings = depot.settings)
    (fitting : depot.settings.minBatch ≤ depot.queue.maxBatch) : after.Ripe instant := by
  obtain ⟨occupied, warrant⟩ := ripe
  have longer := grown.longer
  have some : 0 < depot.queue.waiting.length := List.length_pos_iff.mpr occupied
  refine ⟨List.length_pos_iff.mp (by omega), ?_⟩
  rw [same]
  rcases warrant with enough | ⟨since, oldest, stale⟩
  · exact .inl (by omega)
  · -- Where the oldest event has had to leave, a full batch is enough.
    rcases grown.aged occupied with kept | ⟨_, full⟩
    · exact .inr ⟨since, kept.trans oldest, stale⟩
    · exact .inl (by omega)

end Depot.Ripe

/-- What warrants a task stays true as long as nobody takes what waits. -/
theorem Depot.Warrants.grows {depot after : Depot} {task : Task} {displaced : Prop}
    (warrants : depot.Warrants task) (grown : depot.queue.Grows after.queue displaced)
    (same : after.settings = depot.settings) (now : depot.now ≤ after.now)
    (fitting : depot.settings.minBatch ≤ depot.queue.maxBatch) : after.Warrants task := by
  have longer := grown.longer
  have full (enough : depot.queue.maxBatch ≤ depot.queue.waiting.length) :
      after.queue.maxBatch ≤ after.queue.waiting.length := by
    rw [grown.size]
    omega
  have ripe (before : depot.Ripe depot.now) : after.Ripe after.now :=
    (before.grows grown same fitting).mono now
  -- The batch is warranted by its size or by its age.
  cases task with
  | flushFor trigger | drain trigger =>
    cases trigger with
    | size => exact full warrants
    | timer => exact ripe warrants
    | request => trivial
  | _ => trivial

/-- Only a task that is to be done at once has to be warranted. -/
theorem Depot.warrants_of_not_isUrgent {depot : Depot} {task : Task}
    (other : task.isUrgent = false) :
    depot.Warrants task := by
  cases task <;> trivial

/-- How one comes from one task to others of the round, or to taking what waits. -/
inductive Patrol (depot : Depot) (rest : List Task) : Task → Depot → List Task → Prop where
  | begin :
      Patrol depot rest .begin depot
        (.idle (depot.now + depot.settings.publishInterval.nanos) :: rest)
  | idle (tick : Nat) :
      Patrol depot rest (.idle tick) (depot.enter .waiting) (.schedule tick :: rest)
  | schedule (tick : Nat) :
      Patrol depot rest (.schedule tick) depot (.plan tick depot.now :: rest)
  | plan (tick asked wake : Nat)
      (planned : wake = depot.now +
        (depot.queue.nextWake depot.now asked tick depot.settings.publishInterval - asked)) :
      Patrol depot rest (.plan tick asked) depot (.select tick wake :: rest)
  /-- The queue asks to be emptied. -/
  | signal (tick wake : Nat) :
      Patrol depot rest (.select tick wake) { depot with queue := depot.queue.takeSignal.1 }
        (.checkFull :: .idle tick :: rest)
  /-- A flush has been ordered. -/
  | flush (tick wake : Nat) (orders : List Order) :
      Patrol depot rest (.select tick wake) { depot with orders }
        (.flushFor .request :: .idle tick :: rest)
  /-- The timer fires. -/
  | timer (tick wake : Nat) (due : wake ≤ depot.now) :
      Patrol depot rest (.select tick wake) depot (.checkReady :: .retick tick :: rest)
  | retick (tick next : Nat)
      (ticked : next = if tick ≤ depot.now then
        depot.now + depot.settings.publishInterval.nanos else tick) :
      Patrol depot rest (.retick tick) depot (.idle next :: rest)
  /-- The queue is still full. -/
  | full (full : depot.queue.isFull = true) :
      Patrol depot rest .checkFull depot (.flushFor .size :: rest)
  /-- There is enough for the timer. -/
  | enough (occupied : depot.queue.length ≠ 0)
      (enough : depot.settings.minBatch ≤ depot.queue.length) :
      Patrol depot rest .checkReady depot (.flushFor .timer :: rest)
  /-- There is something, but not enough. -/
  | few (occupied : depot.queue.length ≠ 0) (few : depot.queue.length < depot.settings.minBatch) :
      Patrol depot rest .checkReady depot (.checkAge :: rest)
  /-- Something has been waiting for long enough. -/
  | stale (stale : depot.queue.isStale depot.now depot.settings.publishInterval = true) :
      Patrol depot rest .checkAge depot (.flushFor .timer :: rest)
  /-- It has been decided upon. -/
  | decided (trigger : Trigger) :
      Patrol depot rest (.flushFor trigger) (depot.enter .flushing) (.drain trigger :: rest)
  /-- Somebody flushes on the spot. -/
  | lock :
      Patrol depot rest .order { depot with locked := true }
        (.flushFor .request :: .enter .idle :: .unlock :: .answer true :: rest)

/-- A step leads on along the round and to taking what waits in one of these ways, or not at all. -/
theorem Deed.patrol {depot after : Depot} {agent next : Agent} {task : Task}
    (deed : Deed depot agent task after next) :
    (∀ new ∈ next.tasks, new.isPatrol = true → new ∈ agent.tasks) ∨
      Patrol depot agent.tasks task after next.tasks := by
  have onto {pushed : List Task} (left : next.tasks = pushed ++ agent.tasks)
      (none : ∀ new ∈ pushed, new.isPatrol = false) :
      ∀ new ∈ next.tasks, new.isPatrol = true → new ∈ agent.tasks := by
    intro new member patrol
    rw [left] at member
    rcases List.mem_append.mp member with pushed | below
    · simp [none new pushed] at patrol
    · exact below
  rcases deed with intake | delivery | duty
  · -- Handing in an event leads to nothing else.
    obtain ⟨pushed, left, _, inside⟩ := intake.pushes
    refine .inl (onto left fun new member => ?_)
    have handing := inside new member
    cases new <;> first | rfl | cases handing
  · cases delivery with
    | flushFor trigger => exact .inr (.decided trigger)
    | findFull full => exact .inr (.full full)
    | findEnough occupied enough => exact .inr (.enough occupied enough)
    | findFew occupied few => exact .inr (.few occupied few)
    | findStale stale => exact .inr (.stale stale)
    | drain trigger =>
      refine .inl (onto rfl ?_)
      cases trigger <;> simp [Trigger.counter?, Task.isPatrol]
    | send batch timeout reply =>
      exact .inl (onto rfl (forall_mem_inside reply (fun _ => rfl) (fun _ => rfl) rfl rfl))
    | giveUp =>
      refine .inl (onto rfl ?_)
      cases depot.settings.echo <;> simp [warn, Task.isPatrol]
    | showCrashes | flushCrashes => exact .inl fun _ member _ => (List.mem_filter.mp member).1
    | drainNothing | await | deliver | flushSink | findRoom | findNothing | findFresh =>
      exact .inl fun _ member _ => member
    | allShown | «show» | showFails | flushFails =>
      exact .inl (onto rfl (by simp [warn, Task.isPatrol]))
  · cases duty with
    | begin => exact .inr .begin
    | idle tick => exact .inr (.idle tick)
    | schedule tick => exact .inr (.schedule tick)
    | plan tick asked wake planned => exact .inr (.plan tick asked wake planned)
    | takeSignal tick wake => exact .inr (.signal tick wake)
    | takeFlush tick wake orders => exact .inr (.flush tick wake orders)
    | wake tick wake due => exact .inr (.timer tick wake due)
    | retick tick next ticked => exact .inr (.retick tick next ticked)
    | lock => exact .inr .lock
    | takeCourier | takeNobody | join =>
      refine .inl (onto rfl ?_)
      unfold Depot.conclusion
      cases depot.settings.echo <;> simp [Task.isPatrol]
    | _ =>
      first
      | exact .inl fun _ member _ => member
      | exact .inl (onto rfl (by simp [Task.isPatrol]))

namespace Patrol

variable {depot after : Depot} {task new : Task} {rest left below : List Task}

/-- Only the first of the new tasks is one that is to be done at once. -/
theorem first (patrol : Patrol depot rest task after left) :
    ∃ new pushed, left = new :: (pushed ++ rest) ∧ new.isPatrol = true ∧
      ∀ other ∈ pushed, other.isUrgent = false := by
  -- Behind the first one stand waiting, ticks, and what ends a flush on the spot.
  cases patrol with
  | signal tick | flush tick =>
    exact ⟨_, [.idle tick], rfl, rfl, by simp [Task.isUrgent]⟩
  | timer tick => exact ⟨_, [.retick tick], rfl, rfl, by simp [Task.isUrgent]⟩
  | lock =>
    exact ⟨_, [.enter .idle, .unlock, .answer true], rfl, rfl, by simp [Task.isUrgent]⟩
  | _ => exact ⟨_, [], rfl, rfl, by simp⟩

/-- Whatever one comes to take is there for the reason for which it is taken. -/
theorem warrants (patrol : Patrol depot rest task after (new :: below))
    (warrants : depot.Warrants task) (sound : depot.queue.Sound)
    (unset : depot.queue.oldest = none ↔ depot.queue.waiting = [])
    (past : ∀ since, depot.queue.oldest = some since → since ≤ depot.now) :
    after.Warrants new := by
  have tracked := sound.tracked
  cases patrol with
  | full full =>
    have enough : depot.queue.maxBatch ≤ depot.queue.length := by simpa [Queue.isFull] using full
    simp only [Depot.Warrants]
    omega
  | enough occupied enough =>
    exact ⟨List.length_pos_iff.mp (by omega), .inl (by omega)⟩
  | stale stale =>
    -- Only what waits has an age.
    cases oldest : depot.queue.oldest with
    | none => simp [Queue.isStale, Queue.age?, oldest] at stale
    | some since =>
      have before := past since oldest
      have age : depot.settings.publishInterval.nanos ≤ depot.now - since := by
        simpa [Queue.isStale, Queue.age?, oldest] using stale
      refine ⟨fun empty => ?_, .inr ⟨since, oldest, ?_⟩⟩
      · simp [unset.mpr empty] at oldest
      · omega
  | decided trigger =>
    -- What is decided upon is still there when it is begun.
    cases trigger with
    | size => exact warrants
    | timer => exact warrants
    | request => trivial
  | _ => trivial

end Patrol

/-- Whoever steps has at most one task that is to be done at once, and has it first. -/
theorem Deed.urgent {depot after : Depot} {agent next : Agent} {task : Task}
    (deed : Deed depot agent task after next)
    (calm : ∀ below ∈ agent.tasks, below.isUrgent = false) :
    (∀ new ∈ next.tasks, new.isUrgent = false) ∨
      ∃ new below, next.tasks = new :: below ∧
        Patrol depot agent.tasks task after (new :: below) ∧
          ∀ other ∈ below, other.isUrgent = false := by
  rcases deed.patrol with none | patrol
  · -- What stood below is no such task.
    refine .inl fun new member => Bool.eq_false_iff.mpr fun urgent => ?_
    have kind : new.isPatrol = true := by cases new <;> first | rfl | cases urgent
    simp [calm new (none new member kind)] at urgent
  · obtain ⟨new, pushed, left, _, quiet⟩ := patrol.first
    rw [left] at patrol
    refine .inr ⟨new, _, left, patrol, fun other member => ?_⟩
    rcases List.mem_append.mp member with member | member
    · exact quiet other member
    · exact calm other member

namespace Custody

variable {world : World}

/-- While somebody else runs an errand, nobody empties the queue. -/
theorem undisturbed (custody : Custody world) {left right : List Agent} {agent next : Agent}
    {task : Task} {after : Depot}
    (split : world.agents = left ++ { agent with tasks := task :: agent.tasks } :: right)
    (deed : Deed world.depot agent task after next) {other : Agent}
    (member : other ∈ left ++ right) {has : Task} (below : has ∈ other.tasks)
    (errand : has.isErrand = true) (begun : has ≠ .begin) : task.empties = false := by
  refine Bool.eq_false_iff.mpr fun empties => ?_
  -- Emptying the queue is an errand too, and only one agent has the courier.
  have own : task.isErrand = true := by cases task <;> first | rfl | cases empties
  have covered := (custody.orderly_of_mem (agent_mem split)).2
  have entrusted := custody.entrusted split (covered.guarded List.mem_cons_self own) deed
  exact custody.sole split entrusted member
    (custody.entrusts_of_isErrand (other_mem split member) below errand begun)

end Custody

/-- Nobody is about to take a batch for the queue or for the timer without a reason, and what is to
be done at once comes first. -/
structure TakesWithReason (world : World) : Prop where
  first : ∀ agent ∈ world.agents, ∀ task ∈ agent.tasks.tail, task.isUrgent = false
  warrants : ∀ agent ∈ world.agents, ∀ task ∈ agent.tasks, world.depot.Warrants task

namespace TakesWithReason

variable {settings : Settings} {acts more : List Act} {world next : World}

/-- Before anything has happened nobody takes anything. -/
theorem initial (depot : Depot) : TakesWithReason (.initial depot) := by
  constructor <;>
    simp [Task.isUrgent, Depot.Warrants]

/-- A turn leaves a reason for every batch that is about to be taken. -/
theorem stroke (warranted : TakesWithReason world) (core : CoreInvariant world)
    (logged : ToldByChronicle settings acts world) (fitting : settings.minBatch ≤ settings.maxBatch)
    (stroke : Stroke world next more) : TakesWithReason next := by
  obtain ⟨first, warrants⟩ := warranted
  have enough : world.depot.settings.minBatch ≤ world.depot.queue.maxBatch := by
    rw [logged.same, logged.size]
    omega
  cases stroke with
  | act left right agent after task split joined deed =>
    have member := Custody.agent_mem split
    have calm : ∀ below ∈ agent.tasks, below.isUrgent = false := first _ member
    -- Of the agent that acts, only the first task can be one that takes.
    have own : (∀ below ∈ after.tasks.tail, below.isUrgent = false) ∧
        ∀ new ∈ after.tasks, next.depot.Warrants new := by
      rcases deed.urgent calm with none | ⟨new, below, left, patrol, none⟩
      · exact ⟨fun other among => none other (List.mem_of_mem_tail among),
          fun new among => Depot.warrants_of_not_isUrgent (none new among)⟩
      · rw [left]
        refine ⟨none, fun other among => ?_⟩
        rcases List.mem_cons.mp among with rfl | among
        · exact patrol.warrants (warrants _ member task List.mem_cons_self) core.sound
            logged.unset fun since => logged.past
        · exact Depot.warrants_of_not_isUrgent (none other among)
    constructor
    · refine forall_mem_replaced split joined first own.1
    · -- While others are about to take a batch, nobody else takes one.
      have others : ∀ other ∈ left ++ right, ∀ has ∈ other.tasks, next.depot.Warrants has := by
        intro other among has below
        cases urgent : has.isUrgent with
        | false => exact Depot.warrants_of_not_isUrgent urgent
        | true =>
          have errand : has.isErrand = true := by cases has <;> first | rfl | cases urgent
          have keeps := core.custody.undisturbed split deed among below errand
            (by rintro rfl; cases urgent)
          have grown := deed.grows (fun _ => logged.roomy) keeps
          exact (warrants other (Custody.other_mem split among) has below).grows grown
            deed.settings (Nat.le_of_eq deed.now.symm) enough
      rw [joined]
      simp only [List.forall_mem_append, List.forall_mem_cons] at others ⊢
      exact ⟨others.1, own.2, others.2⟩
  | call call same joined =>
    -- Nobody calls with a batch to take.
    have none : ∀ task ∈ call.tasks world.depot.settings, task.isUrgent = false := by
      cases call <;> simp [Call.tasks, Task.isUrgent]
    constructor
    · exact forall_mem_joined joined first fun task among => none task (List.mem_of_mem_tail among)
    · rw [same]
      exact forall_mem_joined joined warrants fun task among =>
        Depot.warrants_of_not_isUrgent (none task among)
  | outside now wall permits later elsewhere same =>
    constructor
    · rw [same]
      exact first
    · rw [same]
      intro agent member task among
      have grown : world.depot.queue.Grows next.depot.queue False := by
        rw [elsewhere]
        exact ⟨rfl, Nat.le_refl _, fun _ => .inl rfl⟩
      exact (warrants agent member task among).grows grown (by rw [elsewhere])
        (by rw [elsewhere]; exact later) enough

/-- It holds of every world that comes about, where the timer asks for no more than a full batch. -/
theorem ofChronicle (remote : settings.isRemote = true)
    (fitting : settings.minBatch ≤ settings.maxBatch) {threshold : Threshold}
    {transportName sinkName : String} {wall : Timestamp} {script : Script}
    (chronicle : World.Chronicle
      (.initial (.create settings threshold transportName sinkName wall script)) acts world) :
    TakesWithReason world := by
  -- Every world on the way keeps the core invariant, with all that its chronicle tells.
  refine chronicle.induction (fun _ world => TakesWithReason world) (initial _) ?_
  intro acts more world next before warranted stroke
  exact warranted.stroke ((CoreInvariant.initial remote ..).reachable before.reachable)
    (.ofChronicle before) fitting stroke

end TakesWithReason

end LogCourier
