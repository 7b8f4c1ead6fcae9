import LogCourier.Proofs.Depot.Flushing

/-!
Pacing: the courier wakes in time for every event, and it never wakes for nothing.

It waits for a tick, or until the oldest event turns stale. Whenever the timer fires it takes a
batch, or else a tick had come and the next one lies a whole interval ahead.
-/

namespace LogCourier

/-- Something was done of which a property holds, given what was done before, and since then a task
was not done. -/
inductive Since (mark : Task) (holds : Act → List Act → Prop) : List Act → Prop where
  | here {act : Act} {earlier : List Act} (true : holds act earlier) :
      Since mark holds (act :: earlier)
  | later {act : Act} {earlier : List Act} (other : act.task ≠ mark)
      (since : Since mark holds earlier) : Since mark holds (act :: earlier)

namespace Act

/-- An act takes a batch for the timer, given what was done before. -/
def TakesBatch (settings : Settings) (act : Act) (earlier : List Act) : Prop :=
  act.task = .drain .timer ∧ pendingAfter settings earlier ≠ []

/-- An act brings an event that takes the place of the oldest one, given what was done before. -/
def Displaces (settings : Settings) (act : Act) (earlier : List Act) : Prop :=
  ∃ event, act.task = .append event ∧
    ((Usage.after settings.maxBatch settings.overflow (uses earlier)).queue.push act.instant
      event).2 = .displacing

/-- An act looks for the age of what waits, after an event has taken the place of the oldest one
since it was looked how much waits. -/
def Overtaken (settings : Settings) (act : Act) (earlier : List Act) : Prop :=
  act.task = .checkAge ∧ Since .checkReady (Act.Displaces settings) earlier

end Act

/-- Whatever takes the place of the oldest event is told by the chronicle. -/
theorem ToldByChronicle.displaces {settings : Settings} {acts : List Act} {world : World}
    {task : Task}
    (logged : ToldByChronicle settings acts world) (displaces : world.depot.Displaces task) :
    Act.Displaces settings ⟨world.depot.now, task⟩ acts := by
  obtain ⟨event, same, entry⟩ := displaces
  refine ⟨event, same, ?_⟩
  -- The two queues differ by the signal at most, and that makes no difference at the door.
  have told := congrArg Prod.snd (Queue.push_takeSignal world.depot.queue world.depot.now event)
  have telling := congrArg Prod.snd (Queue.push_takeSignal
    (Usage.after settings.maxBatch settings.overflow (uses acts)).queue world.depot.now event)
  rw [← logged.queue] at telling
  exact telling.symm.trans (told.trans entry)

namespace Depot

/-- What is true whenever the courier has a task of its round: the next tick is no more than an
interval ahead, and it waits for a tick or until something is there for the timer to take. -/
def Schedules (depot : Depot) : Task → Prop
  | .idle tick | .schedule tick | .retick tick =>
    tick ≤ depot.now + depot.settings.publishInterval.nanos
  | .plan tick asked =>
    asked ≤ depot.now ∧ tick ≤ asked + depot.settings.publishInterval.nanos
  | .select tick wake =>
    tick ≤ depot.now + depot.settings.publishInterval.nanos ∧ (tick ≤ wake ∨ depot.Ripe wake)
  | _ => True

/-- Whatever does not belong to the round is done at any time. -/
theorem schedules_of_not_isPatrol {depot : Depot} {task : Task} (other : task.isPatrol = false) :
    depot.Schedules task := by
  cases task <;> trivial

/-- What is true of the round stays so as time goes on, as long as nobody takes what waits while the
courier waits for it. -/
theorem Schedules.later {depot after : Depot} {task : Task} {displaced : Prop}
    (schedules : depot.Schedules task) (same : after.settings = depot.settings)
    (goes : depot.now ≤ after.now)
    (grown : task.isUrgent = true → depot.queue.Grows after.queue displaced)
    (fitting : depot.settings.minBatch ≤ depot.queue.maxBatch) : after.Schedules task := by
  -- The bounds on the tick only become weaker with time, and the wake depends on the queue as well.
  cases task with
  | idle tick | schedule tick | retick tick =>
    simp only [Schedules, same] at schedules ⊢
    omega
  | plan tick asked =>
    simp only [Schedules, same] at schedules ⊢
    omega
  | select tick wake =>
    obtain ⟨near, waits⟩ := schedules
    -- That a batch is ripe is kept by a queue that only grows.
    refine ⟨?_, waits.imp_right fun ripe => ripe.grows (grown rfl) same fitting⟩
    rw [same]
    omega
  | _ => trivial

end Depot

section

variable {depot after : Depot} {agent next : Agent} {task : Task}

/-- The courier plans to wake at the tick, or as soon as the oldest event turns stale. -/
theorem Depot.schedules_select {tick asked wake : Nat}
    (schedules : depot.Schedules (.plan tick asked))
    (planned : wake = depot.now +
      (depot.queue.nextWake depot.now asked tick depot.settings.publishInterval - asked))
    (unset : depot.queue.oldest = none ↔ depot.queue.waiting = [])
    (past : ∀ since, depot.queue.oldest = some since → since ≤ depot.now) :
    depot.Schedules (.select tick wake) := by
  obtain ⟨before, near⟩ := schedules
  refine ⟨by omega, ?_⟩
  cases oldest : depot.queue.oldest with
  | none =>
    -- Nothing has an age, so the tick is waited for.
    simp only [Queue.nextWake, Queue.age?, oldest, Option.map_none] at planned
    exact .inl (by omega)
  | some since =>
    have came := past since oldest
    have occupied : depot.queue.waiting ≠ [] := fun empty => by
      rw [unset.mpr empty] at oldest
      cases oldest
    simp only [Queue.nextWake, Queue.age?, oldest, Option.map_some] at planned
    split at planned
    · -- Either the tick comes first, or the oldest event is stale at the wake.
      by_cases first : tick ≤ asked + (depot.settings.publishInterval.nanos - (depot.now - since))
      · exact .inl (by omega)
      · exact .inr ⟨occupied, .inr ⟨since, oldest, by omega⟩⟩
    · exact .inr ⟨occupied, .inr ⟨since, oldest, by omega⟩⟩

/-- Whatever a step leads to is scheduled, if the task itself was. -/
theorem Deed.schedules (deed : Deed depot agent task after next) (schedules : depot.Schedules task)
    (unset : depot.queue.oldest = none ↔ depot.queue.waiting = [])
    (past : ∀ since, depot.queue.oldest = some since → since ≤ depot.now) :
    ∀ new ∈ next.tasks, new ∈ agent.tasks ∨ after.Schedules new := by
  intro new member
  rcases deed.patrol with none | patrol
  · cases kind : new.isPatrol with
    | true => exact .inl (none new member kind)
    | false => exact .inr (Depot.schedules_of_not_isPatrol kind)
  · generalize next.tasks = left at patrol member
    have onto {pushed : List Task} (there : new ∈ pushed ++ agent.tasks)
        (new : ∀ new ∈ pushed, after.Schedules new) : _ ∨ after.Schedules _ :=
      (List.mem_append.mp there).symm.imp_right (new _)
    -- One case for each way along the round.
    cases patrol with
    | begin => exact @onto [_] member (by simp [Depot.Schedules])
    | idle tick =>
      exact @onto [_] member (by simpa [Depot.Schedules, Depot.enter, Depot.note] using schedules)
    | schedule tick => exact @onto [_] member (by simpa [Depot.Schedules] using schedules)
    | plan tick asked wake planned =>
      have selects := Depot.schedules_select schedules planned unset past
      exact @onto [_] member (by simpa using selects)
    | signal | flush | timer =>
      exact @onto [_, _] member (by simpa [Depot.Schedules] using schedules.1)
    | retick tick later ticked =>
      refine @onto [_] member ?_
      simp only [Depot.Schedules, List.mem_singleton, forall_eq]
      simp only [Depot.Schedules] at schedules
      split at ticked <;> omega
    | full | enough | few | stale | decided =>
      exact @onto [_] member (by simp [Depot.Schedules])
    | lock => exact @onto [_, _, _, _] member (by simp [Depot.Schedules])

/-- A task of taking a batch does nothing else. -/
theorem Deed.delivery (deed : Deed depot agent task after next) (kind : task.isDelivery = true) :
    Delivery depot agent task after next := by
  -- Neither a submission nor a decision takes batches.
  rcases deed with intake | delivery | duty
  · simp [Task.isDelivery_of_isIntake intake.isIntake] at kind
  · exact delivery
  · have decided := duty.isDuty
    simp [Task.isDuty, kind] at decided

/-- The end of what the timer does is only come to when the timer fires. -/
theorem Deed.retick_of_mem (deed : Deed depot agent task after next) {tick : Nat}
    (member : .retick tick ∈ next.tasks) : .retick tick ∈ agent.tasks ∨
      ∃ wake, task = .select tick wake ∧ wake ≤ depot.now ∧ after = depot ∧
        next.tasks = .checkReady :: .retick tick :: agent.tasks := by
  -- The courier looks at its timer in one place only.
  rcases deed.patrol with none | patrol
  · exact .inl (none _ member rfl)
  · generalize next.tasks = left at patrol member
    cases patrol with
    | timer other wake due =>
      -- The tick is carried on as it was read before the timer fired.
      have either : tick = other ∨ .retick tick ∈ agent.tasks := by simpa using member
      rcases either with rfl | below
      · exact .inr ⟨wake, rfl, due, rfl, rfl⟩
      · exact .inl below
    | _ => exact .inl (by simpa using member)

end

/-- Something has been waiting for a whole interval, and the queue knows. -/
def Depot.Stale (depot : Depot) : Prop :=
  depot.queue.waiting ≠ [] ∧ ∃ since, depot.queue.oldest = some since ∧
    since + depot.settings.publishInterval.nanos ≤ depot.now

/-- What comes of it that the timer has fired, as far as the courier has come with it: the tick is
past, or there is something to take, or it has been taken. Only while the courier looks for it can
what was there be overtaken by new events, of which a full batch waits then. -/
inductive Answers (settings : Settings) (acts : List Act) (depot : Depot) (tick : Nat) :
    List Task → Prop where
  | due {tasks : List Task} (past : tick ≤ depot.now) : Answers settings acts depot tick tasks
  | looking {rest : List Task} (ripe : depot.Ripe depot.now) :
      Answers settings acts depot tick (.checkReady :: .retick tick :: rest)
  | aging {rest : List Task}
      (aged : Since .checkReady (Act.Displaces settings) acts ∧
        depot.queue.maxBatch ≤ depot.queue.waiting.length ∨ depot.Stale) :
      Answers settings acts depot tick (.checkAge :: .retick tick :: rest)
  | decided {rest : List Task} : Answers settings acts depot tick (.flushFor .timer :: rest)
  | begun {rest : List Task} : Answers settings acts depot tick (.drain .timer :: rest)
  | taken {tasks : List Task} (looked : .checkReady ∉ tasks)
      (since : Since .checkReady (Act.TakesBatch settings) acts) :
      Answers settings acts depot tick tasks
  | overtaken {rest : List Task} (since : Since .checkReady (Act.Overtaken settings) acts)
      (full : depot.queue.maxBatch ≤ depot.queue.waiting.length) :
      Answers settings acts depot tick (.retick tick :: rest)

namespace Answers

variable {settings : Settings} {acts : List Act} {depot after : Depot} {tick : Nat}
  {tasks : List Task}

/-- While others act, nothing is lost of it. -/
theorem other (answers : Answers settings acts depot tick tasks) {act : Act}
    (same : after.settings = depot.settings) (goes : depot.now ≤ after.now)
    (elsewhere : act.task ≠ .checkReady)
    (grown : depot.queue.Grows after.queue (act.Displaces settings acts))
    (fitting : depot.settings.minBatch ≤ depot.queue.maxBatch) :
    Answers settings (act :: acts) after tick tasks := by
  have longer := grown.longer
  have still (full : depot.queue.maxBatch ≤ depot.queue.waiting.length) :
      after.queue.maxBatch ≤ after.queue.waiting.length := by
    rw [grown.size]
    omega
  cases answers with
  | due past => exact .due (Nat.le_trans past goes)
  | looking ripe => exact .looking ((ripe.grows grown same fitting).mono goes)
  | aging aged =>
    rcases aged with ⟨displaced, full⟩ | ⟨occupied, since, oldest, stale⟩
    · exact .aging (.inl ⟨.later elsewhere displaced, still full⟩)
    · -- The oldest event keeps its instant, unless its place is taken in a full queue.
      rcases grown.aged occupied with kept | ⟨displaced, full⟩
      · have some := List.length_pos_iff.mpr occupied
        refine .aging (.inr ⟨List.length_pos_iff.mp (by omega), since, kept.trans oldest, ?_⟩)
        rw [same]
        omega
      · exact .aging (.inl ⟨.here displaced, by rw [grown.size]; exact full⟩)
  | decided => exact .decided
  | begun => exact .begun
  | taken looked since => exact .taken looked (.later elsewhere since)
  | overtaken since full => exact .overtaken (.later elsewhere since) (still full)

/-- As time goes on, nothing is lost of it. -/
theorem later (answers : Answers settings acts depot tick tasks)
    (same : after.settings = depot.settings) (goes : depot.now ≤ after.now)
    (queue : after.queue = depot.queue) : Answers settings acts after tick tasks := by
  -- Every way to answer speaks of a moment that is past, or of a queue that has not changed.
  cases answers with
  | due past => exact .due (Nat.le_trans past goes)
  | looking ripe =>
    refine .looking (.mono ?_ goes)
    rw [Depot.Ripe, queue, same]
    exact ripe
  | aging aged =>
    refine .aging (aged.imp (fun displaced => by rw [queue]; exact displaced) ?_)
    rintro ⟨occupied, since, oldest, stale⟩
    exact ⟨by rw [queue]; exact occupied, since, by rw [queue]; exact oldest, by rw [same]; omega⟩
  | decided => exact .decided
  | begun => exact .begun
  | taken looked since => exact .taken looked since
  | overtaken since full => exact .overtaken since (by rw [queue]; exact full)

/-- What the courier does until it ends what the timer does leads on to a batch. -/
theorem own {world : World} {agent next : Agent} {task : Task}
    (answers : Answers settings acts world.depot tick (task :: agent.tasks))
    (deed : Deed world.depot agent task after next) (undecided : task.isDuty = false)
    (calm : ∀ below ∈ agent.tasks, below.isUrgent = false)
    (warrants : world.depot.Warrants task) (sound : world.depot.queue.Sound)
    (logged : ToldByChronicle settings acts world) :
    Answers settings (⟨world.depot.now, task⟩ :: acts) after tick next.tasks := by
  have unlooking : .checkReady ∉ agent.tasks := fun below => by
    simpa [Task.isUrgent] using calm .checkReady below
  have tracked := sound.tracked
  generalize below : agent.tasks = rest at answers
  cases answers with
  | due past => exact .due (by rw [deed.now]; exact past)
  | looking ripe =>
    obtain ⟨occupied, warrant⟩ := ripe
    have some := List.length_pos_iff.mpr occupied
    cases deed.delivery rfl with
    | findNothing empty => omega
    | findEnough => exact .decided
    | findFew _ few =>
      rw [Agent.push, below]
      exact .aging (.inr ⟨occupied, warrant.resolve_left (by omega)⟩)
  | aging aged =>
    cases deed.delivery rfl with
    | findStale => exact .decided
    | findFresh fresh =>
      -- What was stale is not fresh, so an event must have taken its place.
      rcases aged with ⟨displaced, full⟩ | ⟨_, since, oldest, stale⟩
      · rw [below]
        exact .overtaken (.here ⟨rfl, displaced⟩) full
      · have young : world.depot.now - since < world.depot.settings.publishInterval.nanos := by
          simpa [Queue.isStale, Queue.age?, oldest] using fresh
        omega
  | decided =>
    cases deed.delivery rfl
    exact .begun
  | begun =>
    obtain ⟨occupied, _⟩ : world.depot.Ripe world.depot.now := warrants
    cases deed.delivery rfl with
    | drainNothing _ empty => exact absurd empty occupied
    | drain =>
      -- What waits is there, and it is taken.
      rw [← logged.waiting, ne_eq, List.map_eq_nil_iff] at occupied
      refine .taken ?_ (.here ⟨rfl, occupied⟩)
      simpa [Agent.push, Trigger.counter?] using unlooking
  | taken looked since =>
    have elsewhere : task ≠ .checkReady := by
      rintro rfl
      exact looked List.mem_cons_self
    refine .taken (fun member => ?_) (.later elsewhere since)
    rcases deed.patrol with none | patrol
    · exact unlooking (none _ member rfl)
    · -- It is only looked again when the timer fires again.
      generalize next.tasks = left at patrol member
      cases patrol with
      | timer => cases undecided
      | _ => simp [unlooking] at member
  | overtaken => cases undecided

end Answers

/-- While the courier has something to end about the timer, it decides nothing before. -/
theorem Round.undecided {task : Task} {rest : List Task} (round : Round (duties (task :: rest)))
    {tick : Nat} (below : .retick tick ∈ rest) : task.isDuty = false := by
  refine Bool.eq_false_iff.mpr fun duty => ?_
  -- What it ends is a decision too, and the last one but for leaving.
  have owed : .retick tick ∈ duties rest := List.mem_filter.mpr ⟨below, rfl⟩
  rw [duties_cons, if_pos duty] at round
  generalize duties rest = control at round owed
  cases round with
  | closing last => cases last <;> simp at owed
  | _ => simp at owed

/-- The courier is on time with whatever it does on its round. -/
structure RoundOnTime (settings : Settings) (acts : List Act) (world : World) : Prop where
  schedules : ∀ task ∈ world.courier.tasks, world.depot.Schedules task
  answers : ∀ tick, .retick tick ∈ world.courier.tasks →
    Answers settings acts world.depot tick world.courier.tasks

namespace RoundOnTime

variable {settings : Settings} {acts more : List Act} {world next : World}

/-- Before anything has happened the courier has not begun its round. -/
theorem initial (depot : Depot) : RoundOnTime settings [] (.initial depot) := by
  constructor <;> simp [Depot.Schedules]

/-- A step of the courier leaves it on time. -/
theorem courier {agent after : Agent} {task : Task} {callers : List Agent}
    (paced : RoundOnTime settings acts world) (core : CoreInvariant world)
    (logged : ToldByChronicle settings acts world) (warranted : TakesWithReason world)
    (split : world.agents = { agent with tasks := task :: agent.tasks } :: callers)
    (joined : next.agents = after :: callers)
    (deed : Deed world.depot agent task next.depot after)
    (fitting : world.depot.settings.minBatch ≤ world.depot.queue.maxBatch) :
    RoundOnTime settings (⟨world.depot.now, task⟩ :: acts) next := by
  have before : world.courier = { agent with tasks := task :: agent.tasks } :=
    (List.cons.inj split).1
  have behind : next.courier = after := (List.cons.inj joined).1
  have own : { agent with tasks := task :: agent.tasks } ∈ world.agents := by simp [split]
  have calm : ∀ below ∈ agent.tasks, below.isUrgent = false := warranted.first _ own
  obtain ⟨schedules, answers⟩ := paced
  rw [before] at schedules answers
  have scheduled := schedules task List.mem_cons_self
  constructor
  · rw [behind]
    intro new member
    rcases deed.schedules scheduled logged.unset (fun _ => logged.past) new member with below | now
    · -- Nothing below is to be done at once, so it does not depend on what waits.
      have grown : new.isUrgent = true → world.depot.queue.Grows next.depot.queue False :=
        fun urgent => by simp [calm new below] at urgent
      exact (schedules new (List.mem_cons_of_mem _ below)).later deed.settings
        (Nat.le_of_eq deed.now.symm) grown fitting
    · exact now
  · rw [behind]
    intro tick member
    rcases deed.retick_of_mem member with below | ⟨wake, rfl, due, same, left⟩
    · have round := core.custody.round
      rw [before] at round
      exact (answers tick (List.mem_cons_of_mem _ below)).own deed (round.undecided below) calm
        (warranted.warrants _ own task List.mem_cons_self) core.sound logged
    · -- The timer fires at a tick, or when there is something to take.
      rw [left, same]
      obtain ⟨_, past | ripe⟩ := scheduled
      · exact .due (Nat.le_trans past due)
      · exact .looking (ripe.mono due)

/-- A turn leaves the courier on time. -/
theorem stroke (paced : RoundOnTime settings acts world) (core : CoreInvariant world)
    (logged : ToldByChronicle settings acts world) (warranted : TakesWithReason world)
    (unhired : Unhired settings acts world) (fitting : settings.minBatch ≤ settings.maxBatch)
    (stroke : Stroke world next more) : RoundOnTime settings (more ++ acts) next := by
  have enough : world.depot.settings.minBatch ≤ world.depot.queue.maxBatch := by
    rw [logged.same, logged.size]
    omega
  cases stroke with
  | act left right agent after task split joined deed =>
    cases left with
    | nil => exact paced.courier core logged warranted split joined deed enough
    | cons courier left =>
      -- What the courier waits for only grows while a caller acts.
      obtain ⟨schedules, answers⟩ := paced
      have same : courier = world.courier := (List.cons.inj split).1.symm
      have behind : next.courier = world.courier := (List.cons.inj joined).1.trans same
      have grown {has : Task} (below : has ∈ world.courier.tasks) (errand : has.isErrand = true)
          (begun : has ≠ .begin) :
          world.depot.queue.Grows next.depot.queue
            (Act.Displaces settings ⟨world.depot.now, task⟩ acts) := by
        have place : world.courier ∈ courier :: left ++ right := by simp [same]
        have keeps := core.custody.undisturbed split deed place below errand begun
        obtain ⟨size, longer, aged⟩ := deed.grows (fun _ => logged.roomy) keeps
        exact ⟨size, longer, fun occupied =>
          (aged occupied).imp_right fun taken => ⟨logged.displaces taken.1, taken.2⟩⟩
      constructor
      · rw [behind]
        intro has below
        refine (schedules has below).later deed.settings (Nat.le_of_eq deed.now.symm)
          (fun urgent => grown below ?_ ?_) enough
        · cases has <;> first | rfl | cases urgent
        · rintro rfl
          cases urgent
      · rw [behind]
        intro tick below
        refine (answers tick below).other deed.settings (Nat.le_of_eq deed.now.symm) ?_
          (grown below rfl (by simp)) enough
        -- Callers do not look what there is for the timer.
        rintro rfl
        have caller : { agent with tasks := .checkReady :: agent.tasks } ∈ world.callers := by
          simp [(List.cons.inj split).2]
        simpa using unhired.callers _ caller .checkReady List.mem_cons_self rfl
  | call call same joined =>
    have behind : next.courier = world.courier := (List.cons.inj joined).1
    rw [List.nil_append]
    exact ⟨by rw [behind, same]; exact paced.schedules, by rw [behind, same]; exact paced.answers⟩
  | outside now wall permits later elsewhere same =>
    obtain ⟨behind, _⟩ := List.cons.inj same
    have settled : next.depot.settings = world.depot.settings := by rw [elsewhere]
    have queue : next.depot.queue = world.depot.queue := by rw [elsewhere]
    have goes : world.depot.now ≤ next.depot.now := by rw [elsewhere]; exact later
    have grown : world.depot.queue.Grows next.depot.queue False :=
      queue ▸ ⟨rfl, Nat.le_refl _, fun _ => .inl rfl⟩
    have courier : next.courier = world.courier := behind
    rw [List.nil_append]
    constructor
    · rw [courier]
      exact fun has below => (paced.schedules has below).later settled goes (fun _ => grown) enough
    · rw [courier]
      exact fun tick below => (paced.answers tick below).later settled goes queue

/-- It holds of every world that comes about, where the timer asks for no more than a full batch. -/
theorem ofChronicle (remote : settings.isRemote = true)
    (fitting : settings.minBatch ≤ settings.maxBatch) {threshold : Threshold}
    {transportName sinkName : String} {wall : Timestamp} {script : Script}
    (chronicle : World.Chronicle
      (.initial (.create settings threshold transportName sinkName wall script)) acts world) :
    RoundOnTime settings acts world := by
  -- Every world on the way keeps the core invariant, with all that its chronicle tells.
  refine chronicle.induction (RoundOnTime settings) (initial _) ?_
  intro acts more world next before paced stroke
  exact paced.stroke ((CoreInvariant.initial remote ..).reachable before.reachable)
    (.ofChronicle before) (.ofChronicle remote fitting before) (.ofChronicle before) fitting stroke

end RoundOnTime

namespace Depot

/-- The instant at which the courier means to wake, by the clock as it has read it and the queue as
it finds it. -/
def wake (depot : Depot) (tick asked : Nat) : Nat :=
  max asked (depot.queue.nextWake depot.now asked tick depot.settings.publishInterval)

/-- The courier, about to wait, will be awake when an event that came at an instant has been waiting
for a whole interval, or at once: so it means to, and so it will wait from now on. -/
def InTime (depot : Depot) (tick asked instant : Nat) : Prop :=
  depot.wake tick asked ≤ max asked (instant + depot.settings.publishInterval.nanos) ∧
    depot.now + (depot.wake tick asked - asked) ≤
      max depot.now (instant + depot.settings.publishInterval.nanos)

variable {depot : Depot} {tick asked : Nat}

/-- The courier wakes in time for whatever comes from now on. -/
theorem Schedules.ahead (schedules : depot.Schedules (.plan tick asked)) {instant : Nat}
    (later : depot.now ≤ instant) : depot.InTime tick asked instant := by
  -- It never waits for longer than until the tick.
  obtain ⟨before, near⟩ := schedules
  have bound : depot.wake tick asked ≤ max asked tick := by
    unfold wake Queue.nextWake
    cases depot.queue.age? depot.now with
    | none => exact Nat.le_refl _
    | some age => simp only; split <;> omega
  constructor <;> omega

/-- The courier wakes in time for whatever came no earlier than the oldest event, if the queue keeps
the instant of that one. -/
theorem Schedules.behind (schedules : depot.Schedules (.plan tick asked)) {since instant : Nat}
    (oldest : depot.queue.oldest = some since) (past : since ≤ depot.now)
    (later : since ≤ instant) : depot.InTime tick asked instant := by
  -- It never waits for longer than until the oldest event turns stale.
  obtain ⟨before, near⟩ := schedules
  have bound : depot.wake tick asked ≤
      asked + (depot.settings.publishInterval.nanos - (depot.now - since)) := by
    simp only [wake, Queue.nextWake, Queue.age?, oldest, Option.map_some]
    split <;> omega
  constructor <;> omega

end Depot

/-- What the courier has to do with time on its round. -/
structure Punctual (settings : Settings) (acts : List Act) (world : World) : Prop where
  /-- What waits is told by the acts. -/
  waiting : world.depot.queue.waiting = (pendingAfter settings acts).map Prod.snd
  /-- Before it waits, it works out how long. -/
  plans : ∀ tick asked rest, world.courier.tasks = .plan tick asked :: rest →
    ∀ choice after next, world.courier.step choice world.depot = some (after, next) →
      next.tasks =
        .select tick (world.depot.now + (world.depot.wake tick asked - asked)) :: rest
  /-- It will wake in time for every event that waits, if none has been displaced. -/
  behind : ∀ tick asked rest, world.courier.tasks = .plan tick asked :: rest →
    displacedAfter settings acts = false →
      ∀ item ∈ pendingAfter settings acts, world.depot.InTime tick asked item.1
  /-- It will wake in time for every event that comes later. -/
  ahead : ∀ tick asked rest, world.courier.tasks = .plan tick asked :: rest →
    ∀ more later, World.Chronicle world more later → ∀ act ∈ more, ∀ event,
      act.task = .append event → world.depot.InTime tick asked act.instant
  /-- If an event has been displaced, a full batch waits. -/
  crowded : displacedAfter settings acts = true →
    max settings.maxBatch 1 ≤ (pendingAfter settings acts).length
  /-- Since the timer fired it has taken a batch, or else the next tick will lie a whole interval
  ahead, unless an event was displaced while it looked whether there was something to take. -/
  timer : ∀ tick rest, world.courier.tasks = .retick tick :: rest →
    Since .checkReady (Act.TakesBatch settings) acts ∨
      (∀ choice after next, world.courier.step choice world.depot = some (after, next) →
        next.tasks =
          .idle (world.depot.now + world.depot.settings.publishInterval.nanos) :: rest) ∨
      Since .checkReady (Act.Overtaken settings) acts ∧
        max settings.maxBatch 1 ≤ (pendingAfter settings acts).length

/-- Where the timer asks for no more than a full batch, the courier is on time, whatever order the
steps of all calls come in. It means to wake before any event has been waiting for longer than an
interval, be it there already or still to come, unless one has been displaced and a full batch waits
anyway. Whenever the timer fires, the courier takes a batch or sets the next tick a whole interval
ahead; only if an event is displaced between its two looks at the queue it may do neither, and then
too a full batch waits. -/
theorem courier_punctual {settings : Settings} (remote : settings.isRemote = true)
    (fitting : settings.minBatch ≤ settings.maxBatch) {threshold : Threshold}
    {transportName sinkName : String} {wall : Timestamp} {script : Script} {acts : List Act}
    {world : World}
    (chronicle : World.Chronicle
      (.initial (.create settings threshold transportName sinkName wall script)) acts world) :
    Punctual settings acts world := by
  have logged := ToldByChronicle.ofChronicle chronicle
  have paced := RoundOnTime.ofChronicle remote fitting chronicle
  obtain ⟨queue, dated, waiting, oldest, size⟩ := logged.dated
  have planned {tick asked : Nat} {rest : List Task}
      (first : world.courier.tasks = .plan tick asked :: rest) :
      world.depot.Schedules (.plan tick asked) := paced.schedules _ (by simp [first])
  refine ⟨logged.waiting.symm, ?_, ?_, ?_, ?_, ?_⟩
  · intro tick asked rest first choice after next acted
    obtain ⟨task, agent, same, deed⟩ := Agent.deed_of_step acted
    rw [same] at first
    obtain ⟨rfl, rfl⟩ := List.cons.inj first
    cases deed.duty rfl with
    | plan _ _ wake planned =>
      -- Nothing is waited for before the clock was read.
      have shown : wake = world.depot.now + (world.depot.wake tick asked - asked) := by
        unfold Depot.wake
        omega
      rw [shown]
      rfl
  · intro tick asked rest first still item member
    -- The queue keeps the instant of the oldest event, and the others came later.
    have exact := dated.exact still
    have ordered := dated.ordered
    rw [waiting, oldest] at exact
    rw [waiting] at ordered
    cases pending : pendingAfter settings acts with
    | nil => simp [pending] at member
    | cons head rest =>
      rw [pending] at exact ordered member
      refine (planned first).behind exact (logged.past exact) ?_
      rcases List.mem_cons.mp member with rfl | member
      · exact Nat.le_refl _
      · exact (List.pairwise_cons.mp ordered).1 item member
  · intro tick asked rest first more later onward act member _ _
    exact (planned first).ahead (onward.instants.2 act member)
  · intro displaced
    have full := dated.crowded displaced
    rwa [size, waiting] at full
  · intro tick rest first
    have answers := paced.answers tick (by simp [first])
    rw [first] at answers
    cases answers with
    | due past =>
      refine .inr (.inl fun choice after next acted => ?_)
      obtain ⟨task, agent, same, deed⟩ := Agent.deed_of_step acted
      rw [same] at first
      obtain ⟨rfl, rfl⟩ := List.cons.inj first
      cases deed.duty rfl with
      | retick _ next ticked =>
        rw [if_pos past] at ticked
        rw [ticked]
        rfl
    | taken _ since => exact .inl since
    | overtaken since full =>
      rw [logged.size, ← logged.length] at full
      exact .inr (.inr ⟨since, full⟩)

namespace World

/-- The world after somebody has called and acted alone, and then the courier for some steps. -/
def afterCall (world : World) (call : Call) (steps : Nat) : World :=
  let (depot, caller) := (Agent.ofTasks (call.tasks world.depot.settings)).run 20 world.depot
  let (depot, courier) := world.courier.run steps depot
  ⟨depot, courier, world.callers ++ [caller]⟩

/-- A call and some steps of the courier are a way for the world to go. -/
theorem reachable_afterCall (world : World) (call : Call) (steps : Nat) :
    Reachable world (world.afterCall call steps) := by
  -- The call is made, its caller goes as far as it can, and then the courier takes its steps.
  have called : Reachable world (world.called call) := .step .refl (.call world call)
  exact (called.trans (reachable_caller_run world.courier world.callers [] 20 _ world.depot)).trans
    (reachable_courier_run _ steps world.courier _)

/-- A world in which the courier was started and is about to wait, with an event there already. -/
def planning : World :=
  ((initial (.plain .smooth)).afterCall .start 0).afterCall (.submit default) 3

end World

/-- The courier means to wake when the event has been waiting for half a minute. -/
theorem courier_punctual_planning :
    World.planning.courier.tasks = [.plan 30000000000 0, .release, .exit] ∧
      World.planning.depot.pending = 1 ∧
        World.planning.depot.wake 30000000000 0 = 30000000000 ∧
          ∃ acts, World.Chronicle (.initial (.plain .smooth)) acts World.planning ∧
            Punctual .plain acts World.planning := by
  -- Half a minute after the start the first tick is due, and an event is there to wait for.
  obtain ⟨acts, chronicle⟩ := World.reachable_iff_chronicle.mp
    ((World.reachable_afterCall _ .start 0).trans (World.reachable_afterCall _ (.submit default) 3))
  exact ⟨by decide +kernel, by decide +kernel, by decide +kernel, acts, chronicle,
    courier_punctual rfl (by decide) chronicle⟩

/-- A batch that was taken for the timer is one of those that were taken. -/
theorem Since.takings_pos {settings : Settings} {mark : Task} {acts : List Act}
    (since : Since mark (Act.TakesBatch settings) acts) : 0 < takings settings .timer acts := by
  -- Induction on what has been done since, down to the batch itself.
  induction since with
  | here taken =>
    obtain ⟨drains, waits⟩ := taken
    rw [takings, if_pos ⟨drains, waits⟩]
    omega
  | later _ _ ih =>
    rw [takings]
    omega

/-- A depot with a ceiling, whose timer asks for two events at least. -/
def Depot.pressed : Depot :=
  .create { Settings.plain with minBatch := 2, overflow := .evictOldest 2 } default "transport"
    "sink" default .smooth

namespace World

/-- The world at another instant. -/
def atInstant (world : World) (instant : Nat) : World :=
  { world with depot := { world.depot with now := instant } }

/-- The world after the courier has acted alone for some steps. -/
def afterRound (world : World) (steps : Nat) : World :=
  let (depot, courier) := world.courier.run steps world.depot
  ⟨depot, courier, world.callers⟩

/-- A world in which an event has waited for five seconds when the courier is started. -/
def kept : World :=
  (((initial .pressed).afterCall (.submit default) 0).atInstant 5000000000).afterCall .start 20

/-- A world in which this event has waited for half a minute, and the courier has found that it is
only one. -/
def counting : World :=
  (kept.atInstant 30000000000).afterRound 2

/-- A world in which two more events came then, of which the second took the place of the first of
all, before the courier looked how old the oldest is. -/
def overtaken : World :=
  ((counting.afterCall (.submit default) 0).afterCall (.submit default) 0).afterRound 1

/-- It can come about. -/
theorem reachable_overtaken : Reachable (.initial .pressed) overtaken := by
  -- The event is stale when the courier counts what waits, and has been evicted when it asks for
  -- its age.
  have waiting := (reachable_afterCall (.initial .pressed) (.submit default) 0).step
    (.clock _ 5000000000 (by decide +kernel))
  have stale := (waiting.trans (reachable_afterCall _ .start 20)).step
    (.clock _ 30000000000 (by decide +kernel))
  have counting := stale.trans (reachable_courier_run _ 2 _ _)
  have second := counting.trans (reachable_afterCall _ (.submit default) 0)
  have third := second.trans (reachable_afterCall _ (.submit default) 0)
  exact third.trans (reachable_courier_run _ 1 _ _)

end World

/-- The timer has fired, but no batch was taken, and the next tick stays where it was, five seconds
ahead. -/
theorem overtaken_not_punctual :
    Depot.pressed.settings.minBatch ≤ Depot.pressed.settings.maxBatch ∧
      World.overtaken.courier.tasks = [.retick 35000000000, .release, .exit] ∧
      World.overtaken.depot.now = 30000000000 ∧
      ∃ acts, World.Chronicle (.initial .pressed) acts World.overtaken ∧
        ¬ (Since .checkReady (Act.TakesBatch Depot.pressed.settings) acts ∨
          ∀ choice after next,
            World.overtaken.courier.step choice World.overtaken.depot = some (after, next) →
              next.tasks = [.idle (World.overtaken.depot.now +
                World.overtaken.depot.settings.publishInterval.nanos), .release, .exit]) := by
  obtain ⟨acts, chronicle⟩ := World.reachable_iff_chronicle.mp World.reachable_overtaken
  refine ⟨by decide, by decide +kernel, by decide +kernel, acts, chronicle, ?_⟩
  rintro (taken | moved)
  · -- A batch that was taken would have been sent, or would still be in somebody's hands.
    have some := taken.takings_pos
    have bound : takings Depot.pressed.settings .size acts +
        takings Depot.pressed.settings .timer acts ≤
          World.overtaken.depot.sendsEnded + World.overtaken.tasks.countP Task.isBatch :=
      (TakenBatchesTold.ofChronicle rfl chronicle).bound
    have none : World.overtaken.depot.sendsEnded +
        World.overtaken.tasks.countP Task.isBatch = 0 := by decide +kernel
    omega
  · -- The tick is not past, so it is left alone.
    have acted : (World.overtaken.courier.step .timer World.overtaken.depot).map (·.2.tasks) =
        some [.idle 35000000000, .release, .exit] := by decide +kernel
    obtain ⟨⟨after, next⟩, took, tasks⟩ := Option.map_eq_some_iff.mp acted
    have told := (moved .timer after next took).symm.trans tasks
    revert told
    decide +kernel

end LogCourier
