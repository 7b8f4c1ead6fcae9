import LogCourier.Proofs.Depot.Course

/-!
Posts: where the courier is, from its desk over a thread or a caller to the end.

Handing in events and delivering batches leave the courier where it is, and so does its own work on
a thread until it is given back.
-/

namespace LogCourier

namespace Agent

/-- A step of an agent is what its first task does. -/
theorem act_of_step {agent next : Agent} {choice : Choice} {before after : Depot}
    (acted : agent.step choice before = some (after, next)) :
    ∃ (task : Task) (rest : Agent), agent = { rest with tasks := task :: rest.tasks } ∧
      before.act rest choice task = some (after, next) := by
  -- Without tasks there is no step.
  unfold step at acted
  cases tasks : agent.tasks with
  | nil => simp [tasks] at acted
  | cons task rest =>
    simp only [tasks] at acted
    exact ⟨task, { agent with tasks := rest }, by simp [← tasks], acted⟩

/-- A step of an agent is a deed of its first task. -/
theorem deed_of_step {agent next : Agent} {choice : Choice} {before after : Depot}
    (acted : agent.step choice before = some (after, next)) :
    ∃ (task : Task) (rest : Agent), agent = { rest with tasks := task :: rest.tasks } ∧
      Deed before rest task after next := by
  -- What is possible of a task is a deed of it.
  obtain ⟨task, rest, same, acts⟩ := act_of_step acted
  exact ⟨task, rest, same, .of_act acts⟩

end Agent

/-- Two depots agree on who has the courier and who may have it next. -/
structure SameCharge (before after : Depot) : Prop where
  settings : after.settings = before.settings
  holder : after.holder = before.holder
  handle : after.handle = before.handle
  locked : after.locked = before.locked
  stopped : after.stopped = before.stopped
  listening : after.listening = before.listening
  thread : after.thread = before.thread

/-- Handing in an event leaves the courier where it is. -/
theorem Intake.sameCharge {depot after : Depot} {agent next : Agent} {task : Task}
    (deed : Intake depot agent task after next) : SameCharge depot after := by
  -- Only the queue, the tally, the banner, the script and the journal change.
  cases deed <;> constructor <;> rfl

/-- Delivering a batch leaves the courier where it is. -/
theorem Delivery.sameCharge {depot after : Depot} {agent next : Agent} {task : Task}
    (deed : Delivery depot agent task after next) : SameCharge depot after := by
  -- Only the queue, the tally, the phase, the permits, the script and the journal change.
  cases deed <;> constructor <;> rfl

/-- Telling of losses leaves the courier where it is. -/
theorem Depot.sameCharge_reportLosses (depot : Depot) : SameCharge depot depot.reportLosses := by
  unfold Depot.reportLosses
  split <;> constructor <;> rfl

/-- The last flush leaves the courier where it is. -/
theorem Closing.sameCharge {depot after : Depot} {agent next : Agent} {task : Task}
    {rest control : List Task} (closing : Closing rest (task :: control))
    (unfinished : rest ≠ task :: control) (deed : Duty depot agent task after next) :
    SameCharge depot after := by
  -- It changes the phase and the queue.
  cases closing with
  | done => exact absurd rfl unfinished
  | finish => cases deed; constructor <;> rfl
  | enter => cases deed; constructor <;> rfl
  | close => cases deed <;> constructor <;> rfl
  | leave => cases deed; constructor <;> rfl

/-- The courier on its thread stays where it is until it is given back. -/
theorem Round.sameCharge {depot after : Depot} {agent next : Agent} {task : Task}
    {control : List Task} (round : Round (task :: control))
    (deed : Duty depot agent task after next) :
    task = .release ∨ task = .exit ∨ SameCharge depot after := by
  -- Waiting takes signals and orders, and the last flush is that of anybody.
  cases round with
  | closing last =>
    by_cases finished : [Task.release, Task.exit] = task :: control
    · cases finished; exact .inl rfl
    · exact .inr (.inr (last.sameCharge finished deed))
  | exit => exact .inr (.inl rfl)
  | begin => cases deed; exact .inr (.inr (by constructor <;> rfl))
  | idle => cases deed; exact .inr (.inr (by constructor <;> rfl))
  | schedule => cases deed; exact .inr (.inr (by constructor <;> rfl))
  | plan => cases deed; exact .inr (.inr (by constructor <;> rfl))
  | select => cases deed <;> exact .inr (.inr (by constructor <;> rfl))
  | retick => cases deed; exact .inr (.inr (by constructor <;> rfl))

/-- After giving the courier back its thread has only to end. -/
theorem Round.last_of_release {control : List Task} (round : Round (.release :: control)) :
    control = [.exit] := by
  cases round with
  | closing last => cases last; rfl

/-- After the end of the thread there is nothing to decide. -/
theorem Round.last_of_exit {control : List Task} (round : Round (.exit :: control)) :
    control = [] := by
  -- The last tasks of the round end with the thread.
  cases round with
  | closing last => cases last
  | exit => rfl

/-- Only a task of handing in an event does so. -/
theorem Intake.isIntake {depot after : Depot} {agent next : Agent} {task : Task}
    (deed : Intake depot agent task after next) : task.isIntake = true := by
  cases deed <;> rfl

/-- Only a task of delivering a batch does so. -/
theorem Delivery.isDelivery {depot after : Depot} {agent next : Agent} {task : Task}
    (deed : Delivery depot agent task after next) : task.isDelivery = true := by
  cases deed <;> rfl

/-- A decision about the courier belongs to a task of that kind. -/
theorem Duty.isDuty {depot after : Depot} {agent next : Agent} {task : Task}
    (deed : Duty depot agent task after next) : task.isDuty = true := by
  cases deed <;> rfl

/-- Handing in an event is no decision about the courier. -/
theorem Intake.not_isDuty {depot after : Depot} {agent next : Agent} {task : Task}
    (deed : Intake depot agent task after next) : task.isDuty = false := by
  simp [Task.isDuty, deed.isIntake]

/-- Delivering a batch is no decision about the courier. -/
theorem Delivery.not_isDuty {depot after : Depot} {agent next : Agent} {task : Task}
    (deed : Delivery depot agent task after next) : task.isDuty = false := by
  simp [Task.isDuty, deed.isDelivery]

/-- A task that decides something is done by a decision. -/
theorem Deed.duty {depot after : Depot} {agent next : Agent} {task : Task}
    (deed : Deed depot agent task after next) (kind : task.isDuty = true) :
    Duty depot agent task after next := by
  -- Neither handing in an event nor delivering a batch decides anything.
  rcases deed with intake | delivery | duty
  · simp [intake.not_isDuty] at kind
  · simp [delivery.not_isDuty] at kind
  · exact duty

/-- A decision about the courier never changes the settings. -/
theorem Duty.settings {depot after : Depot} {agent next : Agent} {task : Task}
    (deed : Duty depot agent task after next) : after.settings = depot.settings := by
  -- The settings belong to the charge, which reporting leaves alone.
  cases deed
  case reportLosses => exact depot.sameCharge_reportLosses.settings
  all_goals rfl

/-- No step changes the settings. -/
theorem Deed.settings {depot after : Depot} {agent next : Agent} {task : Task}
    (deed : Deed depot agent task after next) : after.settings = depot.settings := by
  -- The settings belong to the charge, which no step of any kind changes.
  rcases deed with intake | delivery | duty
  · exact intake.sameCharge.settings
  · exact delivery.sameCharge.settings
  · exact duty.settings

/-- Whether the courier has not been lost with a thread that could not be had. -/
def Depot.isManned (depot : Depot) : Bool :=
  depot.thread ≠ .refused

/-- Whether a thread has begun to run. -/
def Thread.hasBegun : Thread → Bool
  | .none | .refused => false
  | .running | .exited | .crashed => true

/-- Where the courier is, and what can be told from it. -/
inductive Post (depot : Depot) (courier : Agent) : Prop where
  /-- Nobody has it, unless by the lock of its desk. -/
  | desk (holder : depot.holder = .desk) (spare : depot.handle = false)
      (heard : depot.listening = true) (thread : depot.thread = .none)
      (dormant : courier = .courier)
  /-- It is at work on its thread. -/
  | working (holder : depot.holder = .thread) (unlocked : depot.locked = false)
      (heard : depot.listening = true) (thread : depot.thread = .running) (upper : List Task)
      (bound : courier.tasks = upper ++ [.release, .exit])
  /-- The caller who stops it has it. -/
  | lent (holder : depot.holder = .caller) (spare : depot.handle = false)
      (unlocked : depot.locked = false) (heard : depot.listening = true)
      (thread : depot.thread = .none) (dormant : courier = .courier)
  /-- The caller who stopped it has given it back. -/
  | returned (holder : depot.holder = .nobody) (spare : depot.handle = false)
      (unlocked : depot.locked = false) (unheard : depot.listening = false)
      (thread : depot.thread = .none) (dormant : courier = .courier)
  /-- It was lost with a thread that could not be had. -/
  | lost (holder : depot.holder = .nobody) (spare : depot.handle = false)
      (unlocked : depot.locked = false) (unheard : depot.listening = false)
      (thread : depot.thread = .refused) (dormant : courier = .courier)
  /-- It has been given back on its thread, and the thread has yet to end. -/
  | leaving (holder : depot.holder = .nobody) (unlocked : depot.locked = false)
      (unheard : depot.listening = false) (thread : depot.thread = .running)
      (bound : courier.tasks = [.exit])
  /-- Its thread has ended. -/
  | gone (holder : depot.holder = .nobody) (unlocked : depot.locked = false)
      (unheard : depot.listening = false)
      (thread : depot.thread = if courier.crash.isSome then .crashed else .exited)
      (done : courier.tasks = [])

namespace Post

variable {before after : Depot} {courier : Agent}

/-- Only the courier at its desk can be had by the lock. -/
theorem holder_of_locked (post : Post before courier) (locked : before.locked = true) :
    before.holder = .desk := by
  cases post <;> simp_all

/-- A courier at its desk has never been on a thread. -/
theorem of_desk (post : Post before courier) (ready : before.holder = .desk) :
    before.handle = false ∧ before.listening = true ∧ before.thread = .none ∧
      courier = .courier := by
  cases post <;> simp_all

/-- A courier with a caller has never been on a thread. -/
theorem of_caller (post : Post before courier) (lent : before.holder = .caller) :
    before.handle = false ∧ before.locked = false ∧ before.listening = true ∧
      before.thread = .none ∧ courier = .courier := by
  cases post <;> simp_all

/-- A thread that ended by itself has given the courier back. -/
theorem of_exited (post : Post before courier) (ended : before.thread = .exited) :
    before.holder = .nobody ∧ courier.crash = none := by
  cases post with
  | gone holder _ _ thread =>
    -- After a crash the thread would have ended otherwise.
    cases crash : courier.crash with
    | none => exact ⟨holder, rfl⟩
    | some _ => simp [crash, ended] at thread
  | _ => simp_all

/-- A courier that has been lost is gone for good, and nobody can be told to get it. -/
theorem of_lost (post : Post before courier) (lost : before.isManned = false) :
    before.holder = .nobody ∧ before.handle = false ∧ before.locked = false ∧
      before.listening = false ∧ courier = .courier := by
  have refused : before.thread = .refused := by simpa [Depot.isManned] using lost
  cases post with
  | gone _ _ _ thread =>
    -- A thread that could not be had does not end either.
    cases crash : courier.crash <;> simp [crash, refused] at thread
  | _ => simp_all

/-- A thread crashes only by a crash that makes the courier give up. -/
theorem harmed_of_crashed (post : Post before courier) (ended : before.thread = .crashed) :
    courier.crash ≠ none := by
  -- Only behind the end of its thread the courier can have crashed.
  cases post with
  | gone _ _ _ thread => rintro unharmed; simp [unharmed, ended] at thread
  | _ => simp_all

/-- As long as its thread runs, the courier has something to do. -/
theorem busy (post : Post before courier) (running : before.thread = .running) :
    courier.tasks ≠ [] := by
  cases post with
  | working _ _ _ _ upper bound => simp [bound]
  | leaving _ _ _ _ bound => simp [bound]
  | gone _ _ _ thread =>
    -- The thread has ended in one way or the other.
    cases crash : courier.crash <;> simp [crash, running] at thread
  | _ => simp_all

/-- The courier stays where it is whatever becomes of the lock and the handle, as long as only the
courier at its desk is locked up and no handle comes from nowhere. -/
theorem carry (post : Post before courier) (holder : after.holder = before.holder)
    (listening : after.listening = before.listening) (thread : after.thread = before.thread)
    (handle : after.handle = true → before.handle = true)
    (locked : after.locked = true → before.holder = .desk) : Post after courier := by
  -- Everything else that can be told from its place is the same.
  have spare : before.handle = false → after.handle = false := by
    intro spare; simpa [spare] using handle
  have unlocked : before.holder ≠ .desk → after.locked = false := by
    intro away; simpa [away] using locked
  cases post with
  | desk place free heard alone dormant =>
    exact .desk (holder.trans place) (spare free) (listening.trans heard) (thread.trans alone)
      dormant
  | working place _ heard running upper bound =>
    exact .working (holder.trans place) (unlocked (by simp [place])) (listening.trans heard)
      (thread.trans running) upper bound
  | lent place free _ heard alone dormant =>
    exact .lent (holder.trans place) (spare free) (unlocked (by simp [place]))
      (listening.trans heard) (thread.trans alone) dormant
  | returned place free _ unheard alone dormant =>
    exact .returned (holder.trans place) (spare free) (unlocked (by simp [place]))
      (listening.trans unheard) (thread.trans alone) dormant
  | lost place free _ unheard refused dormant =>
    exact .lost (holder.trans place) (spare free) (unlocked (by simp [place]))
      (listening.trans unheard) (thread.trans refused) dormant
  | leaving place _ unheard running bound =>
    exact .leaving (holder.trans place) (unlocked (by simp [place])) (listening.trans unheard)
      (thread.trans running) bound
  | gone place _ unheard ended done =>
    exact .gone (holder.trans place) (unlocked (by simp [place])) (listening.trans unheard)
      (thread.trans ended) done

/-- The courier is where it was when nothing about it has changed. -/
theorem transfer (post : Post before courier) (same : SameCharge before after) :
    Post after courier :=
  post.carry same.holder same.listening same.thread (fun employed => same.handle ▸ employed)
    fun locked => post.holder_of_locked (same.locked ▸ locked)

/-- A caller takes the courier from its desk only, to a thread or for good. -/
theorem after_caller {agent next : Agent} {task : Task} (post : Post before courier)
    (deed : Duty before agent task after next) (lent : task = .release → before.holder = .caller)
    (inside : task ≠ .exit) : Post after courier := by
  -- All other decisions of a caller leave it where it is.
  have still := fun locked => post.holder_of_locked locked
  cases deed with
  | release =>
    obtain ⟨spare, unlocked, _, alone, dormant⟩ := post.of_caller (lent rfl)
    exact .returned rfl spare unlocked rfl alone dormant
  | exit => exact absurd rfl inside
  | hire unlocked _ ready =>
    obtain ⟨_, heard, _, dormant⟩ := post.of_desk ready
    exact .working rfl unlocked heard rfl [.begin] (by rw [dormant]; rfl)
  | hireLost _ unlocked spare ready =>
    obtain ⟨_, _, _, dormant⟩ := post.of_desk ready
    exact .lost rfl spare unlocked rfl rfl dormant
  | takeCourier _ unlocked _ ready =>
    obtain ⟨spare, heard, alone, dormant⟩ := post.of_desk ready
    exact .lent rfl spare unlocked heard alone dormant
  | lock _ _ ready => exact post.carry rfl rfl rfl id fun _ => ready
  | unlock => exact post.carry rfl rfl rfl id (by simp)
  | takeHandle => exact post.carry rfl rfl rfl (by simp) still
  | reportLosses => exact post.transfer before.sameCharge_reportLosses
  | _ => exact post.carry rfl rfl rfl id still

/-- A courier that has never been on a thread cannot act. -/
theorem asleep {agent next : Agent} {task : Task} (alone : before.thread ≠ .running)
    (dormant : { agent with tasks := task :: agent.tasks } = Agent.courier)
    (deed : Deed before agent task after next) : False := by
  -- Its first task waits for the thread.
  obtain ⟨rfl, -⟩ := List.cons.inj (congrArg Agent.tasks dormant)
  rcases deed with intake | delivery | duty
  · cases intake
  · cases delivery
  · cases duty with
    | begin running => exact absurd running alone

/-- Work on the thread goes on until the courier is given back. -/
theorem after_work {agent next : Agent} {task : Task} {upper : List Task}
    (post : Post before { agent with tasks := task :: agent.tasks })
    (bound : agent.tasks = upper ++ [.release, .exit]) (working : before.holder = .thread)
    (round : Round (duties (task :: agent.tasks))) (deed : Deed before agent task after next) :
    Post after next := by
  -- Giving up skips only what stands above giving back.
  have rest : duties agent.tasks = duties upper ++ [.release, .exit] := by
    rw [bound, duties_append]; rfl
  have onward (same : SameCharge before after) {above : List Task}
      (left : next.tasks = above ++ agent.tasks) : Post after next := by
    cases post.transfer same with
    | working holder unlocked heard running =>
      exact .working holder unlocked heard running (above ++ upper) (by simp [left, bound])
    | _ holder => simp [same.holder, working] at holder
  rcases deed with intake | delivery | duty
  · obtain ⟨pushed, left, _⟩ := intake.pushes
    exact onward intake.sameCharge left
  · rcases delivery.pushes with ⟨pushed, left, _⟩ | ⟨crash, rfl⟩
    · exact onward delivery.sameCharge left
    · cases post.transfer delivery.sameCharge with
      | working holder unlocked heard running =>
        refine .working holder unlocked heard running (upper.filter Task.isCleanup) ?_
        simp [Agent.unwind, bound, Task.isCleanup]
      | _ holder => simp [delivery.sameCharge.holder, working] at holder
  · obtain ⟨pushed, left, _⟩ := duty.pushes
    rw [duties_cons, if_pos duty.isDuty, rest] at round
    rcases round.sameCharge duty with rfl | rfl | same
    · simpa using congrArg List.length round.last_of_release
    · simpa using congrArg List.length round.last_of_exit
    · exact onward same left

/-- The courier itself goes from its work on the thread to the end of the thread. -/
theorem after_courier {agent next : Agent} {task : Task}
    (post : Post before { agent with tasks := task :: agent.tasks })
    (round : Round (duties (task :: agent.tasks))) (deed : Deed before agent task after next) :
    Post after next := by
  -- Before it is on the thread and after the end of the thread there is no step.
  cases post with
  | desk _ _ _ alone dormant | lent _ _ _ _ alone dormant | returned _ _ _ _ alone dormant
  | lost _ _ _ _ alone dormant => exact (asleep (by simp [alone]) dormant deed).elim
  | working place unlocked heard running upper bound =>
    cases upper with
    | nil =>
      obtain ⟨rfl, left⟩ := List.cons.inj bound
      rcases deed with intake | delivery | duty
      · cases intake
      · cases delivery
      · cases duty
        exact .leaving rfl unlocked rfl running left
    | cons _ upper =>
      obtain ⟨rfl, left⟩ := List.cons.inj bound
      exact after_work (.working place unlocked heard running _ bound) left place round deed
  | leaving place unlocked unheard running bound =>
    obtain ⟨rfl, left⟩ := List.cons.inj bound
    rcases deed with intake | delivery | duty
    · cases intake
    · cases delivery
    · cases duty with
      | exit thread ended => exact .gone place unlocked unheard ended left
  | gone _ _ _ _ done => simp at done

end Post

end LogCourier
