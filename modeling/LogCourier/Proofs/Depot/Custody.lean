import LogCourier.Proofs.Depot.Post

/-!
Custody: at any time at most one agent has the courier, and only that one runs its errands.

The courier is at its desk, on its thread, or with the caller who stops it. A caller who flushes on
the spot has it by the lock of the desk.
-/

namespace LogCourier

namespace Task

/-- Whether a task takes the courier away from whoever has it. -/
def takesOver : Task → Bool
  | .takeOver _ => true
  | _ => false

end Task

namespace Depot

/-- One if there is nobody left to take over, and nothing otherwise. -/
def vacancy (depot : Depot) : Nat :=
  (!depot.handle && depot.holder ≠ .desk).toNat

/-- One if a caller has the courier for good, and nothing otherwise. -/
def lent (depot : Depot) : Nat :=
  (decide (depot.holder = .caller)).toNat

end Depot

/-- What changes about the courier agrees with what is owed to it before and after. -/
structure HoldingBalanced (before after : Depot) (owed left : List Task) : Prop where
  locks : left.count .unlock + before.locked.toNat = owed.count .unlock + after.locked.toNat
  loans : left.count .release + before.lent = owed.count .release + after.lent
  takers : after.isManned = true →
    left.countP Task.takesOver + after.vacancy + before.stopped.toNat ≤
      owed.countP Task.takesOver + before.vacancy + after.stopped.toNat

/-- What leaves the courier alone and no task of putting it back undone is balanced. -/
theorem SameCharge.balanced {before after : Depot} {owed left : List Task}
    (same : SameCharge before after) (locks : left.count .unlock = owed.count .unlock)
    (loans : left.count .release = owed.count .release)
    (takers : left.countP Task.takesOver ≤ owed.countP Task.takesOver) :
    HoldingBalanced before after owed left := by
  -- Both sides of each balance stay what they were.
  constructor
  · rw [same.locked, locks]
  · rw [Depot.lent, Depot.lent, same.holder, loans]
  · intro _
    rw [Depot.vacancy, Depot.vacancy, same.holder, same.handle, same.stopped]
    omega

/-- There is at most one vacancy. -/
theorem Depot.vacancy_le_one (depot : Depot) : depot.vacancy ≤ 1 :=
  Bool.toNat_le _

/-- Whatever can be taken over is no vacancy. -/
theorem Depot.vacancy_eq_zero {depot : Depot} :
    depot.vacancy = 0 ↔ depot.handle = true ∨ depot.holder = .desk := by
  unfold Depot.vacancy
  cases depot.handle <;> cases depot.holder <;> simp

/-- A decision that changes something about the courier leads to changing it back. -/
theorem Duty.balanced {depot after : Depot} {agent next : Agent} {task : Task}
    (deed : Duty depot agent task after next) (held : task = .unlock → depot.locked = true)
    (owner : task = .release → depot.holder = .caller) :
    HoldingBalanced depot after (task :: duties agent.tasks) (duties next.tasks) := by
  -- The lock and the loan come with their ends, and only one stop takes over.
  cases deed with
  | hire unlocked spare ready =>
    -- The courier goes to its thread, with a handle for whoever stops it.
    constructor
    · rfl
    · simp [Agent.reply, Depot.enter, Depot.note, Depot.lent, ready]
    · simp [Agent.reply, Depot.enter, Depot.note, Depot.vacancy, ready, Task.takesOver]
  | hireLost cause unlocked spare ready =>
    -- It is gone without a loan, and there is nobody left to take over.
    constructor
    · rfl
    · simp [Agent.reply, Depot.lose, Depot.enter, Depot.tell, Depot.note, Depot.release,
        Depot.lent, ready]
    · intro manned
      simp [Depot.isManned, Depot.lose, Depot.enter, Depot.tell, Depot.note] at manned
  | lock unlocked =>
    -- Locking comes with opening the lock.
    constructor
    · simp [Agent.push, Task.isDuty, Task.isIntake, Task.isDelivery, unlocked]
    · simp [Agent.push, Task.isDuty, Task.isIntake, Task.isDelivery, Depot.lent]
    · simp [Agent.push, Task.isDuty, Task.isIntake, Task.isDelivery, Task.takesOver,
        Depot.vacancy]
  | unlock =>
    constructor
    · simp [held rfl]
    · simp [Depot.lent]
    · simp [Task.takesOver, Depot.vacancy]
  | release =>
    -- A loan ends, and leaves nobody to take over.
    have gone : depot.release.vacancy = depot.vacancy := by
      simp [Depot.release, Depot.vacancy, owner rfl]
    constructor
    · simp [Depot.release]
    · simp [Depot.release, Depot.lent, owner rfl]
    · rw [gone, List.countP_cons_of_neg (by simp [Task.takesOver])]
      exact fun _ => Nat.le_refl _
  | takeHandle timeout _ employed =>
    -- Whoever takes the handle leaves a vacancy, and does not take over any more.
    have filled : depot.vacancy = 0 := Depot.vacancy_eq_zero.mpr (.inl employed)
    have once := Depot.vacancy_le_one { depot with handle := false }
    have one : (Task.takeOver timeout :: duties agent.tasks).countP Task.takesOver =
        (duties agent.tasks).countP Task.takesOver + 1 := List.countP_cons_of_pos rfl
    constructor
    · simp [Agent.push, Task.isDuty, Task.isIntake, Task.isDelivery]
    · simp [Agent.push, Task.isDuty, Task.isIntake, Task.isDelivery, Depot.lent]
    · simp [Agent.push, Task.isDuty, Task.isIntake, Task.isDelivery, Task.takesOver, filled, one,
        once]
  | takeCourier timeout _ _ ready =>
    -- The loan comes with giving back; the desk is left empty.
    have filled : depot.vacancy = 0 := Depot.vacancy_eq_zero.mpr (.inr ready)
    have once := Depot.vacancy_le_one { depot with holder := .caller }
    have one : (Task.takeOver timeout :: duties agent.tasks).countP Task.takesOver =
        (duties agent.tasks).countP Task.takesOver + 1 := List.countP_cons_of_pos rfl
    constructor
    · simp [Agent.push, Task.isDuty, Task.isIntake, Task.isDelivery]
    · simp [Agent.push, Task.isDuty, Task.isIntake, Task.isDelivery, Depot.lent, ready]
    · simp [Agent.push, Task.isDuty, Task.isIntake, Task.isDelivery, Task.takesOver, filled, one,
        once]
  | stop timeout first =>
    -- Only the first stop may take over.
    constructor
    · simp [Agent.push, Task.isDuty, Task.isIntake, Task.isDelivery]
    · simp [Agent.push, Task.isDuty, Task.isIntake, Task.isDelivery, Depot.lent]
    · simp [Agent.push, Task.isDuty, Task.isIntake, Task.isDelivery, Task.takesOver, first,
        Depot.vacancy, List.countP_cons]
      omega
  | stopAgain timeout late =>
    constructor
    · simp [Agent.reply]
    · simp [Agent.reply, Depot.lent]
    · simp [Agent.reply, Task.takesOver, late, Depot.vacancy]
  | reportLosses =>
    exact depot.sameCharge_reportLosses.balanced (by simp) (by simp) (by simp [Task.takesOver])
  | exit =>
    constructor
    · simp
    · simp [Depot.lent]
    · simp [Task.takesOver, Depot.vacancy]
  | _ =>
    -- The others change nothing about the courier.
    refine SameCharge.balanced (by constructor <;> rfl) ?_ ?_ ?_ <;>
      simp [Agent.push, Agent.reply, Task.isDuty, Task.isIntake, Task.isDelivery, Task.takesOver,
        List.countP_cons]

/-- Whatever an agent does about the courier is balanced. -/
theorem Deed.balanced {depot after : Depot} {agent next : Agent} {task : Task}
    (deed : Deed depot agent task after next) (held : task = .unlock → depot.locked = true)
    (owner : task = .release → depot.holder = .caller) :
    HoldingBalanced depot after (duties (task :: agent.tasks)) (duties next.tasks) := by
  -- Giving up leaves the tasks of putting back.
  rcases deed with intake | delivery | duty
  · rw [duties_cons_of_neg intake.not_isDuty, intake.duties]
    exact intake.sameCharge.balanced rfl rfl (Nat.le_refl _)
  · rw [duties_cons_of_neg delivery.not_isDuty]
    rcases delivery.duties with same | ⟨_, same⟩
    · rw [same]
      exact delivery.sameCharge.balanced rfl rfl (Nat.le_refl _)
    · rw [same]
      refine delivery.sameCharge.balanced ?_ ?_ ?_
      · exact List.count_filter rfl
      · exact List.count_filter rfl
      · exact List.Sublist.countP_le List.filter_sublist
  · rw [duties_cons, if_pos duty.isDuty]
    exact duty.balanced held owner

/-- A step of the courier keeps it on its round. -/
theorem Round.afterDeed {depot after : Depot} {agent next : Agent} {task : Task}
    (round : Round (duties (task :: agent.tasks))) (deed : Deed depot agent task after next) :
    Round (duties next.tasks) := by
  -- Only decisions move the courier along its round.
  rcases deed with intake | delivery | duty
  · rw [duties_cons_of_neg intake.not_isDuty] at round
    rw [intake.duties]
    exact round
  · rw [duties_cons_of_neg delivery.not_isDuty] at round
    rcases delivery.duties with same | ⟨_, same⟩
    · rw [same]; exact round
    · -- Giving up on the thread leaves giving back and the end of the thread.
      rw [same]; exact round.unwind
  · rw [duties_cons, if_pos duty.isDuty] at round
    exact round.after rfl duty

/-- What the courier does on its thread is no matter of the desk. -/
theorem Post.unaffected {depot after : Depot} {agent next : Agent} {task : Task}
    (post : Post depot { agent with tasks := task :: agent.tasks })
    (round : Round (duties (task :: agent.tasks))) (deed : Deed depot agent task after next) :
    after.locked = depot.locked ∧ after.lent = depot.lent ∧ after.vacancy = depot.vacancy ∧
      after.stopped = depot.stopped ∧ after.isManned = depot.isManned := by
  -- It is given back from its thread, and then neither at its desk nor with a caller.
  have same (still : SameCharge depot after) : after.locked = depot.locked ∧
      after.lent = depot.lent ∧ after.vacancy = depot.vacancy ∧ after.stopped = depot.stopped ∧
        after.isManned = depot.isManned :=
    ⟨still.locked, by rw [Depot.lent, Depot.lent, still.holder],
      by rw [Depot.vacancy, Depot.vacancy, still.handle, still.holder], still.stopped,
      by rw [Depot.isManned, Depot.isManned, still.thread]⟩
  rcases deed with intake | delivery | duty
  · exact same intake.sameCharge
  · exact same delivery.sameCharge
  · rw [duties_cons, if_pos duty.isDuty] at round
    rcases round.sameCharge duty with rfl | rfl | still
    · cases duty
      cases post with
      | working holder =>
        exact ⟨rfl, by simp [Depot.release, Depot.lent, holder],
          by simp [Depot.release, Depot.vacancy, holder], rfl, rfl⟩
      | leaving _ _ _ _ bound => simp at bound
      | gone _ _ _ _ done => simp at done
      | desk _ _ _ _ dormant | lent _ _ _ _ _ dormant | returned _ _ _ _ _ dormant
      | lost _ _ _ _ _ dormant => simp [Agent.courier, Agent.ofTasks] at dormant
    · -- A thread that ends was one that ran.
      cases duty with
      | exit thread ended =>
        refine ⟨rfl, rfl, rfl, rfl, ?_⟩
        cases post with
        | working _ _ _ running | leaving _ _ _ running =>
          rw [Depot.isManned, Depot.isManned, running, ended]
          split <;> rfl
        | gone _ _ _ _ done => simp at done
        | desk _ _ _ _ dormant | lent _ _ _ _ _ dormant | returned _ _ _ _ _ dormant
        | lost _ _ _ _ _ dormant => simp [Agent.courier, Agent.ofTasks] at dormant
    · exact same still

/-- No step of a caller gets the courier back once it has been lost. -/
theorem Post.still_manned {depot after : Depot} {courier agent next : Agent} {task : Task}
    (post : Post depot courier) (deed : Deed depot agent task after next) (inside : task ≠ .exit)
    (manned : after.isManned = true) : depot.isManned = true := by
  -- Only hiring has a thread begin, and that needs the courier at its desk.
  rcases deed with intake | delivery | duty
  · rwa [Depot.isManned, intake.sameCharge.thread] at manned
  · rwa [Depot.isManned, delivery.sameCharge.thread] at manned
  · cases duty with
    | hire _ _ ready => simp [Depot.isManned, (post.of_desk ready).2.2.1]
    | hireLost _ _ _ ready => simp [Depot.isManned, (post.of_desk ready).2.2.1]
    | exit => exact absurd rfl inside
    | reportLosses => rwa [Depot.isManned, depot.sameCharge_reportLosses.thread] at manned
    | _ => exact manned

/-- The courier is lost only from its desk, and only with a thread that is refused. -/
theorem Deed.loses {depot after : Depot} {agent next : Agent} {task : Task}
    (deed : Deed depot agent task after next) (manned : depot.isManned = true)
    (lost : after.isManned = false) :
    depot.holder = .desk ∧ depot.script.nextThread.2 ≠ none := by
  -- Hiring a thread finds it there, and nothing else has to do with a thread but its end.
  have kept (same : after.thread = depot.thread) :
      depot.holder = .desk ∧ depot.script.nextThread.2 ≠ none := by
    rw [Depot.isManned, same] at lost
    cases manned.symm.trans lost
  rcases deed with intake | delivery | duty
  · exact kept intake.sameCharge.thread
  · exact kept delivery.sameCharge.thread
  · cases duty with
    | hireLost _ _ _ ready refused => exact ⟨ready, by simp [refused]⟩
    | hire => cases lost
    | exit _ ended =>
      simp only [Depot.isManned, ended] at lost
      split at lost <;> cases lost
    | reportLosses => exact kept depot.sameCharge_reportLosses.thread
    | _ => exact kept rfl

/-- The tasks of a caller are along its course, in order and covered. -/
structure CourseKept (manned : Bool) (agent : Agent) : Prop where
  course : Course manned (duties agent.tasks)
  orderly : BatchlessBelow agent.tasks
  covered : ErrandsCovered agent.tasks

/-- Nobody but the courier ends its thread. -/
theorem Course.inside {manned : Bool} {task : Task} {control : List Task}
    (course : Course manned (task :: control)) : task ≠ .exit := by
  -- The thread ends at the end of the round, and that is no course.
  cases course with
  | answer => simp
  | stop => simp
  | closing _ last => cases last <;> simp
  | _ => simp

/-- A step of a caller keeps its tasks along its course, in order and covered. -/
theorem CourseKept.after {depot after : Depot} {agent next : Agent} {task : Task} {manned : Bool}
    (disciplined : CourseKept manned { agent with tasks := task :: agent.tasks })
    (deed : Deed depot agent task after next)
    (somebody : manned = true → ∀ timeout, task = .takeOver timeout →
      depot.handle = true ∨ depot.holder = .desk) : CourseKept manned next := by
  -- Only decisions move a caller along its course.
  obtain ⟨course, orderly, covered⟩ := disciplined
  refine ⟨?_, orderly.after deed, covered.after deed⟩
  change Course manned (duties (task :: agent.tasks)) at course
  rcases deed with intake | delivery | duty
  · rw [duties_cons_of_neg intake.not_isDuty] at course
    rw [intake.duties]
    exact course
  · rw [duties_cons_of_neg delivery.not_isDuty] at course
    rcases delivery.duties with same | ⟨_, same⟩
    · rw [same]; exact course
    · -- Giving up leaves what must be put back, and that is a course too.
      rw [same]; exact course.unwind
  · rw [duties_cons, if_pos duty.isDuty] at course
    exact course.after rfl duty somebody

/-- Whoever keeps to its course still does when the courier is lost. -/
theorem CourseKept.mono {agent : Agent} {manned later : Bool}
    (disciplined : CourseKept manned agent) (fewer : later = true → manned = true) :
    CourseKept later agent :=
  ⟨disciplined.course.mono fewer, disciplined.orderly, disciplined.covered⟩

/-- The tasks of a call are the beginning of a course. -/
theorem CourseKept.ofCall (manned : Bool) (settings : Settings) (call : Call) :
    CourseKept manned (.ofTasks (call.tasks settings)) := by
  -- Every call begins with one task, and a stop for good ends with a report.
  constructor
  · cases call with
    | submit => exact .free
    | bridge => exact .free
    | start => exact .start
    | flush => exact .flush
    | stop timeout => exact .stop timeout .none
    | dispose => exact .stop _ .report
  · cases call <;> simp [Call.tasks, Agent.ofTasks, BatchlessBelow, Task.isInner, Task.isIntake,
      Task.isBatch]
  · cases call <;> exact covered_of_none (by simp [Call.tasks, Agent.ofTasks, Task.isErrand])

namespace World

/-- Everybody who can act: the courier and all callers. -/
def agents (world : World) : List Agent :=
  world.courier :: world.callers

@[simp] theorem initial_agents (depot : Depot) : (initial depot).agents = [.courier] := rfl

/-- What all callers still have to decide. -/
def decisions (world : World) : List Task :=
  world.callers.flatMap fun caller => duties caller.tasks

end World

/-- At most one agent has the courier, and the depot knows who. -/
structure Custody (world : World) : Prop where
  remote : world.depot.settings.isRemote = true
  callers : ∀ caller ∈ world.callers, CourseKept world.depot.isManned caller
  round : Round (duties world.courier.tasks)
  orderly : BatchlessBelow world.courier.tasks
  covered : ErrandsCovered world.courier.tasks
  post : Post world.depot world.courier
  locks : world.decisions.count .unlock = world.depot.locked.toNat
  loans : world.decisions.count .release = world.depot.lent
  takers : world.depot.isManned = true →
    world.decisions.countP Task.takesOver + world.depot.vacancy ≤ world.depot.stopped.toNat

namespace Depot

/-- An agent has the courier: it has something to give back, and if it is the courier itself, its
thread has begun. -/
def Entrusts (depot : Depot) (agent : Agent) : Prop :=
  -- The dormant courier has giving back among its tasks already, but nothing to give back.
  (∃ task ∈ agent.tasks, task.givesBack = true) ∧ (agent = .courier → depot.holder = .thread)

end Depot

/-- What gives the courier back is counted by its two kinds. -/
theorem countP_givesBack (tasks : List Task) :
    tasks.countP Task.givesBack = tasks.count .unlock + tasks.count .release := by
  -- Opening the lock and giving back are all that gives the courier back.
  induction tasks with
  | nil => rfl
  | cons task rest ih =>
    rw [List.countP_cons, List.count_cons, List.count_cons, ih]
    cases task <;> simp [Task.givesBack] <;> omega

/-- Below an errand stands a task that gives the courier back. -/
theorem ErrandsCovered.guarded {tasks : List Task} (covered : ErrandsCovered tasks) {task : Task}
    (member : task ∈ tasks) (errand : task.isErrand = true) :
    ∃ guard ∈ tasks, guard.givesBack = true := by
  -- Induction along the tasks: each one is covered by those below it.
  induction tasks with
  | nil => simp at member
  | cons first rest ih =>
    -- The first task is covered by the rest, and the others among themselves.
    obtain ⟨guarded, below⟩ := covered
    rcases List.mem_cons.mp member with rfl | member
    · obtain ⟨guard, has, gives⟩ := guarded errand
      exact ⟨guard, by simp [has], gives⟩
    · obtain ⟨guard, has, gives⟩ := ih below member
      exact ⟨guard, by simp [has], gives⟩

namespace Custody

/-- Before anything has happened the courier is at its desk. -/
theorem initial {settings : Settings} (remote : settings.isRemote = true) (threshold : Threshold)
    (transportName sinkName : String) (wall : Timestamp) (script : Script) :
    Custody (.initial (.create settings threshold transportName sinkName wall script)) where
  -- The errand of the courier stands above giving it back, and nobody has called.
  remote := remote
  callers := by simp
  round := .begin
  orderly := by simp [BatchlessBelow, Task.isInner, Task.isIntake, Task.isBatch]
  covered := ⟨fun _ => ⟨.release, by simp, rfl⟩, covered_of_none (by simp [Task.isErrand])⟩
  post := .desk (by simp [Depot.create, remote]) rfl remote rfl rfl
  locks := rfl
  loans := by simp [World.decisions, Depot.create, Depot.lent, remote]
  takers _ := by simp [World.decisions, Depot.create, Depot.vacancy, remote]

/-- A step of the courier keeps custody. -/
theorem courier {depot after : Depot} {agent next : Agent} {task : Task} {callers : List Agent}
    (custody : Custody ⟨depot, { agent with tasks := task :: agent.tasks }, callers⟩)
    (deed : Deed depot agent task after next) : Custody ⟨after, next, callers⟩ := by
  -- The lock, the loan and the handle are no matter of the courier on its thread.
  obtain ⟨remote, disciplined, round, orderly, covered, post, locks, loans, takers⟩ := custody
  obtain ⟨locked, lent, vacancy, stopped, manned⟩ := post.unaffected round deed
  constructor
  · rw [← remote]; exact congrArg Settings.isRemote deed.settings
  · rw [manned]; exact disciplined
  · exact round.afterDeed deed
  · exact orderly.after deed
  · exact covered.after deed
  · exact post.after_courier round deed
  · rw [locked]; exact locks
  · rw [lent]; exact loans
  · rw [vacancy, stopped, manned]; exact takers

/-- A step of a caller keeps custody. -/
theorem caller {depot after : Depot} {courier agent next : Agent} {task : Task}
    {left right : List Agent}
    (custody :
      Custody ⟨depot, courier, left ++ { agent with tasks := task :: agent.tasks } :: right⟩)
    (deed : Deed depot agent task after next) :
    Custody ⟨after, courier, left ++ next :: right⟩ := by
  -- What the caller takes and what it owes is counted with what the others owe.
  obtain ⟨remote, disciplined, round, orderly, covered, post, locks, loans, takers⟩ := custody
  have own := disciplined _ (List.mem_append_right _ List.mem_cons_self)
  have others : ∀ caller ∈ left ++ right, CourseKept depot.isManned caller := by
    intro caller member
    refine disciplined caller ?_
    rcases List.mem_append.mp member with member | member
    · simp [member]
    · simp [member]
  simp only [World.decisions, List.flatMap_append, List.flatMap_cons, List.count_append,
    List.countP_append] at locks loans takers
  have held : task = .unlock → depot.locked = true := by
    rintro rfl
    cases locked : depot.locked with
    | true => rfl
    | false => simp [locked, Task.isDuty, Task.isIntake, Task.isDelivery] at locks
  have owner : task = .release → depot.holder = .caller := by
    rintro rfl
    by_cases owner : depot.holder = .caller
    · exact owner
    · simp [Depot.lent, owner, Task.isDuty, Task.isIntake, Task.isDelivery] at loans
  have somebody : depot.isManned = true → ∀ timeout, task = .takeOver timeout →
      depot.handle = true ∨ depot.holder = .desk := by
    rintro manned timeout rfl
    have filled := takers manned
    have once := Bool.toNat_le depot.stopped
    have one : (duties (.takeOver timeout :: agent.tasks)).countP Task.takesOver =
        (duties agent.tasks).countP Task.takesOver + 1 := List.countP_cons_of_pos rfl
    exact Depot.vacancy_eq_zero.mp (by omega)
  obtain ⟨locks', loans', takers'⟩ := deed.balanced held owner
  have manned : after.isManned = true → depot.isManned = true := by
    refine post.still_manned deed ?_
    rintro rfl
    exact own.course.inside rfl
  constructor
  · rw [← remote]; exact congrArg Settings.isRemote deed.settings
  · intro caller member
    rcases List.mem_append.mp member with member | member
    · exact (others caller (by simp [member])).mono manned
    · rcases List.mem_cons.mp member with rfl | member
      · exact (own.after deed somebody).mono manned
      · exact (others caller (by simp [member])).mono manned
  · exact round
  · exact orderly
  · exact covered
  · rcases deed with intake | delivery | duty
    · exact post.transfer intake.sameCharge
    · exact post.transfer delivery.sameCharge
    · have course := own.course
      rw [duties_cons, if_pos duty.isDuty] at course
      exact post.after_caller duty owner course.inside
  · simp only [World.decisions, List.flatMap_append, List.flatMap_cons, List.count_append]
    omega
  · simp only [World.decisions, List.flatMap_append, List.flatMap_cons, List.count_append]
    omega
  · intro still
    have before := takers (manned still)
    have balance := takers' still
    simp only [World.decisions, List.flatMap_append, List.flatMap_cons, List.countP_append]
    omega

/-- A new call keeps custody. -/
theorem called {world : World} (custody : Custody world) (call : Call) :
    Custody { world with
      callers := world.callers ++ [.ofTasks (call.tasks world.depot.settings)] } := by
  -- Nobody calls to put something back.
  obtain ⟨remote, disciplined, round, orderly, covered, post, locks, loans, takers⟩ := custody
  constructor
  · exact remote
  · intro caller member
    rcases List.mem_append.mp member with member | member
    · exact disciplined caller member
    · rw [List.mem_singleton.mp member]
      exact .ofCall _ world.depot.settings call
  · exact round
  · exact orderly
  · exact covered
  · exact post
  all_goals
    cases call <;>
      simpa [World.decisions, List.countP_append, Call.tasks, Agent.ofTasks, Task.isDuty,
        Task.isIntake, Task.isDelivery, Task.takesOver] using ‹_›

/-- What lies outside keeps custody. -/
theorem outside {world : World} {depot : Depot} (custody : Custody world)
    (same : SameCharge world.depot depot) : Custody { world with depot } := by
  -- It does not touch the courier.
  obtain ⟨remote, disciplined, round, orderly, covered, post, locks, loans, takers⟩ := custody
  have manned : depot.isManned = world.depot.isManned := by
    rw [Depot.isManned, Depot.isManned, same.thread]
  constructor
  · rw [← remote]; exact congrArg Settings.isRemote same.settings
  · rw [manned]; exact disciplined
  · exact round
  · exact orderly
  · exact covered
  · exact post.transfer same
  · rw [same.locked]; exact locks
  · rw [Depot.lent, same.holder]; exact loans
  · rw [manned, Depot.vacancy, same.handle, same.holder, same.stopped]; exact takers

/-- A change of a world keeps custody. -/
theorem step {world next : World} (custody : Custody world) (change : World.Step world next) :
    Custody next := by
  -- An agent that acts does its first task.
  cases change with
  | courier choice acted =>
    obtain ⟨task, rest, rfl, deed⟩ := Agent.deed_of_step acted
    exact custody.courier deed
  | caller choice acted =>
    obtain ⟨task, rest, rfl, deed⟩ := Agent.deed_of_step acted
    exact custody.caller deed
  | call _ call => exact custody.called call
  | clock => exact custody.outside (by constructor <;> rfl)
  | wall => exact custody.outside (by constructor <;> rfl)
  | letGo => exact custody.outside (by constructor <;> rfl)

/-- In every world that comes about at most one agent has the courier. -/
theorem reachable {settings : Settings} (remote : settings.isRemote = true)
    {threshold : Threshold} {transportName sinkName : String} {wall : Timestamp}
    {script : Script} {world : World}
    (run : World.Reachable
      (.initial (.create settings threshold transportName sinkName wall script)) world) :
    Custody world := by
  -- Induction on the run.
  induction run with
  | refl => exact initial remote threshold transportName sinkName wall script
  | step _ change ih => exact ih.step change

/-- The callers who owe the courier are as many as the depot knows of, at most one. -/
theorem guards {world : World} (custody : Custody world) :
    world.decisions.countP Task.givesBack = world.depot.locked.toNat + world.depot.lent ∧
      world.decisions.countP Task.givesBack ≤ 1 := by
  -- The courier cannot be both at its desk and with a caller.
  have sum : world.decisions.countP Task.givesBack =
      world.depot.locked.toNat + world.depot.lent := by
    rw [countP_givesBack, custody.locks, custody.loans]
  refine ⟨sum, ?_⟩
  rw [sum]
  -- What is locked is at its desk, and what is lent is not.
  cases locked : world.depot.locked with
  | false => simpa [Depot.lent] using Bool.toNat_le _
  | true => simp [Depot.lent, custody.post.holder_of_locked locked]

/-- A caller with something to give back is counted among those who owe the courier. -/
theorem owes {world : World} {caller : Agent} (member : caller ∈ world.callers)
    (has : ∃ task ∈ caller.tasks, task.givesBack = true) :
    0 < (duties caller.tasks).countP Task.givesBack ∧
      (duties caller.tasks).countP Task.givesBack ≤ world.decisions.countP Task.givesBack := by
  -- What gives the courier back is a decision, so that it is counted with the caller's decisions.
  obtain ⟨guard, below, gives⟩ := has
  refine ⟨List.countP_pos_iff.mpr ⟨guard, List.mem_filter.mpr ⟨below, ?_⟩, gives⟩, ?_⟩
  · cases guard <;> first | rfl | cases gives
  · exact List.Sublist.countP_le (List.sublist_flatten_of_mem (List.mem_map_of_mem member))

/-- The courier has itself only on its thread. -/
theorem holder_of_courier {world : World} (custody : Custody world)
    (entrusted : world.depot.Entrusts world.courier) : world.depot.holder = .thread := by
  -- Wherever else the courier is, it has nothing to give back or has never begun.
  obtain ⟨⟨guard, below, gives⟩, awake⟩ := entrusted
  cases custody.post with
  | working holder => exact holder
  -- The dormant courier is entrusted only on its thread.
  | desk _ _ _ _ dormant => exact awake dormant
  | lent _ _ _ _ _ dormant => exact awake dormant
  | returned _ _ _ _ _ dormant => exact awake dormant
  | lost _ _ _ _ _ dormant => exact awake dormant
  | leaving _ _ _ _ bound =>
    rw [bound, List.mem_singleton] at below
    rw [below] at gives
    cases gives
  | gone _ _ _ _ done => simp [done] at below

/-- A caller has the courier for good, or by the lock of its desk. -/
theorem holder_of_caller {world : World} (custody : Custody world) {caller : Agent}
    (member : caller ∈ world.callers) (has : ∃ task ∈ caller.tasks, task.givesBack = true) :
    world.depot.holder = .caller ∨ world.depot.holder = .desk ∧ world.depot.locked = true := by
  -- The caller is counted among those who owe the courier, by its lock or for good.
  obtain ⟨some, part⟩ := owes member has
  obtain ⟨sum, _⟩ := custody.guards
  cases locked : world.depot.locked with
  | true => exact .inr ⟨custody.post.holder_of_locked locked, rfl⟩
  | false =>
    by_cases lent : world.depot.holder = .caller
    · exact .inl lent
    · -- Otherwise nobody would owe the courier.
      rw [locked, Depot.lent, decide_eq_false lent, Bool.toNat_false] at sum
      omega

/-- Whoever has a lock to open has locked the desk. -/
theorem locked_of_unlock {world : World} (custody : Custody world) {caller : Agent}
    (member : caller ∈ world.callers) (has : .unlock ∈ caller.tasks) :
    world.depot.locked = true := by
  -- As many locks are to be opened as are closed.
  have some : 0 < world.decisions.count .unlock :=
    List.count_pos_iff.mpr (List.mem_flatMap.mpr
      ⟨caller, member, List.mem_filter.mpr ⟨has, rfl⟩⟩)
  rw [custody.locks] at some
  cases opened : world.depot.locked with
  | true => rfl
  | false => simp [opened] at some

/-- A caller who has the courier to give back for good has taken it from its desk. -/
theorem holder_of_release {world : World} (custody : Custody world) {caller : Agent}
    (member : caller ∈ world.callers) (has : .release ∈ caller.tasks) :
    world.depot.holder = .caller := by
  -- As many callers have it to give back as it is lent to.
  have some : 0 < world.decisions.count .release :=
    List.count_pos_iff.mpr (List.mem_flatMap.mpr
      ⟨caller, member, List.mem_filter.mpr ⟨has, rfl⟩⟩)
  rw [custody.loans, Depot.lent] at some
  by_cases lent : world.depot.holder = .caller
  · exact lent
  · simp [lent] at some

/-- While somebody is entrusted with the courier, it is neither free nor gone. -/
theorem taken {world : World} (custody : Custody world) {agent : Agent}
    (member : agent ∈ world.agents) (entrusted : world.depot.Entrusts agent) :
    world.depot.holder ≠ .nobody ∧ (world.depot.holder = .desk → world.depot.locked = true) := by
  -- The courier has itself on its thread, and callers have it locked or for good.
  rcases List.mem_cons.mp member with rfl | member
  · simp [custody.holder_of_courier entrusted]
  · rcases custody.holder_of_caller member entrusted.1 with lent | ⟨ready, locked⟩
    · simp [lent]
    · simp [ready, locked]

/-- Whoever stands between others is there. -/
theorem agent_mem {world : World} {left right : List Agent} {agent : Agent}
    (split : world.agents = left ++ agent :: right) : agent ∈ world.agents := by
  rw [split]
  exact List.mem_append_right left List.mem_cons_self

/-- Whoever stands beside somebody is there. -/
theorem other_mem {world : World} {left right : List Agent} {agent other : Agent}
    (split : world.agents = left ++ agent :: right) (member : other ∈ left ++ right) :
    other ∈ world.agents := by
  -- The agent itself is left out of the two lists.
  rw [split]
  rcases List.mem_append.mp member with member | member <;> simp [member]

/-- At most one agent is entrusted with the courier. -/
theorem sole {world : World} (custody : Custody world) {left right : List Agent} {agent : Agent}
    (split : world.agents = left ++ agent :: right) (entrusted : world.depot.Entrusts agent)
    {other : Agent} (member : other ∈ left ++ right) : ¬ world.depot.Entrusts other := by
  -- Callers have only one thing to give back, and none while the courier is on its thread.
  intro entrusted'
  have parted {caller : Agent} (among : caller ∈ world.callers)
      (has : ∃ task ∈ caller.tasks, task.givesBack = true) : world.depot.holder ≠ .thread := by
    intro working
    rcases custody.holder_of_caller among has with lent | ⟨ready, _⟩
    · simp [working] at lent
    · simp [working] at ready
  cases left with
  | nil =>
    obtain ⟨rfl, callers⟩ := List.cons.inj split
    rw [List.nil_append, ← callers] at member
    -- The courier is on its thread, so no caller has it.
    exact parted member entrusted'.1 (custody.holder_of_courier entrusted)
  | cons courier left =>
    obtain ⟨rfl, callers⟩ := List.cons.inj split
    have own : agent ∈ world.callers := by simp [callers]
    rcases List.mem_cons.mp member with rfl | member
    · -- Here the courier is the other one.
      exact parted own entrusted.1 (custody.holder_of_courier entrusted')
    · -- Two callers would owe more than one courier.
      have once := custody.guards.2
      have parts : world.decisions.countP Task.givesBack =
          (left.flatMap fun caller => duties caller.tasks).countP Task.givesBack +
            ((duties agent.tasks).countP Task.givesBack +
              (right.flatMap fun caller => duties caller.tasks).countP Task.givesBack) := by
        simp [World.decisions, callers, List.countP_append]
      have some := (owes own entrusted.1).1
      have among : other ∈ world.callers := by
        rw [callers]
        rcases List.mem_append.mp member with member | member <;> simp [member]
      have some' := (owes among entrusted'.1).1
      have part : ∀ others : List Agent, other ∈ others →
          (duties other.tasks).countP Task.givesBack ≤
            (others.flatMap fun caller => duties caller.tasks).countP Task.givesBack :=
        fun others within =>
          List.Sublist.countP_le (List.sublist_flatten_of_mem (List.mem_map_of_mem within))
      rcases List.mem_append.mp member with within | within
      · have least := part left within
        omega
      · have least := part right within
        omega

/-- Every agent has its tasks in order and covered. -/
theorem orderly_of_mem {world : World} (custody : Custody world) {agent : Agent}
    (member : agent ∈ world.agents) : BatchlessBelow agent.tasks ∧ ErrandsCovered agent.tasks := by
  -- The courier is one of the agents, and the others are the callers.
  rcases List.mem_cons.mp member with rfl | member
  · exact ⟨custody.orderly, custody.covered⟩
  · exact ⟨(custody.callers agent member).orderly, (custody.callers agent member).covered⟩

/-- Whoever acts and has something to give back is entrusted with the courier. -/
theorem entrusted {world : World} (custody : Custody world) {left right : List Agent}
    {agent next : Agent} {task : Task} {after : Depot}
    (split : world.agents = left ++ { agent with tasks := task :: agent.tasks } :: right)
    (has : ∃ guard ∈ task :: agent.tasks, guard.givesBack = true)
    (deed : Deed world.depot agent task after next) :
    world.depot.Entrusts { agent with tasks := task :: agent.tasks } := by
  -- The courier that has never been on its thread cannot act, and no caller looks like it.
  refine ⟨has, fun dormant => ?_⟩
  cases left with
  | nil =>
    obtain ⟨own, _⟩ := List.cons.inj split
    have post := custody.post
    rw [own] at post
    cases post with
    | working holder => exact holder
    | desk _ _ _ alone => exact (Post.asleep (by simp [alone]) dormant deed).elim
    | lent _ _ _ _ alone => exact (Post.asleep (by simp [alone]) dormant deed).elim
    | returned _ _ _ _ alone => exact (Post.asleep (by simp [alone]) dormant deed).elim
    | lost _ _ _ _ refused => exact (Post.asleep (by simp [refused]) dormant deed).elim
    | leaving _ _ _ _ bound =>
      have tasks : [Task.exit] = Agent.courier.tasks :=
        bound.symm.trans (congrArg Agent.tasks dormant)
      simp at tasks
    | gone _ _ _ _ done => simp at done
  | cons courier left =>
    obtain ⟨_, callers⟩ := List.cons.inj split
    have course := (custody.callers { agent with tasks := task :: agent.tasks } (by
      rw [callers]
      exact List.mem_append_right left List.mem_cons_self)).course
    rw [dormant] at course
    cases course with
    | closing _ last => cases last

/-- Whoever has an errand is entrusted with the courier, unless it is only to begin its round. -/
theorem entrusts_of_isErrand {world : World} (custody : Custody world) {agent : Agent}
    (member : agent ∈ world.agents) {task : Task} (below : task ∈ agent.tasks)
    (errand : task.isErrand = true) (begun : task ≠ .begin) : world.depot.Entrusts agent := by
  -- The courier that has never been on its thread has no other errand.
  refine ⟨(custody.orderly_of_mem member).2.guarded below errand, fun dormant => ?_⟩
  simp only [dormant, Agent.courier, Agent.ofTasks, List.mem_cons, List.not_mem_nil, or_false]
    at below
  rcases below with rfl | rfl | rfl
  · exact absurd rfl begun
  · cases errand
  · cases errand

/-- Whoever has a batch is entrusted with the courier. -/
theorem entrusts_of_isBatch {world : World} (custody : Custody world) {agent : Agent}
    (member : agent ∈ world.agents) {task : Task} (below : task ∈ agent.tasks)
    (batch : task.isBatch = true) : world.depot.Entrusts agent := by
  -- A batch is an errand.
  have errand : task.isErrand = true := by cases task <;> first | rfl | cases batch
  exact custody.entrusts_of_isErrand member below errand (by rintro rfl; cases batch)

/-- Whoever runs an errand does so while nobody else has a batch. -/
theorem alone {world : World} (custody : Custody world) {left right : List Agent}
    {agent next : Agent} {task : Task} {after : Depot}
    (split : world.agents = left ++ { agent with tasks := task :: agent.tasks } :: right)
    (errand : task.isErrand = true) (deed : Deed world.depot agent task after next) :
    ∀ other ∈ left ++ right, ∀ has ∈ other.tasks, has.isBatch = false := by
  -- Whoever had another batch would be entrusted with the courier as well.
  have covered := (custody.orderly_of_mem (agent_mem split)).2
  -- Whoever runs an errand has something below it that gives the courier back.
  have entrusted := custody.entrusted split (covered.guarded List.mem_cons_self errand) deed
  intro other member has below
  refine Bool.eq_false_iff.mpr fun batch => ?_
  have among := other_mem split member
  exact custody.sole split entrusted member (custody.entrusts_of_isBatch among below batch)

end Custody

namespace World

/-- All tasks that are still to be done, by whomever. -/
def tasks (world : World) : List Task :=
  world.agents.flatMap Agent.tasks

@[simp] theorem initial_tasks (depot : Depot) : (initial depot).tasks = Agent.courier.tasks :=
  List.append_nil _

/-- The tasks of one agent stand between those of the others. -/
theorem tasks_of_split {world : World} {left right : List Agent} {agent : Agent}
    (split : world.agents = left ++ agent :: right) :
    world.tasks = left.flatMap Agent.tasks ++ agent.tasks ++ right.flatMap Agent.tasks := by
  simp [tasks, split]

/-- Of the tasks of a kind, those of one agent stand between those of the others. -/
theorem filter_tasks_of_split {kind : Task → Bool} {world : World} {left right : List Agent}
    {agent : Agent} {own below : List Task} (split : world.agents = left ++ agent :: right)
    (parts : agent.tasks.filter kind = own ++ below) :
    world.tasks.filter kind = (left.flatMap Agent.tasks).filter kind ++ own ++
      (below ++ (right.flatMap Agent.tasks).filter kind) := by
  -- The other agents have the same tasks before and after.
  rw [tasks_of_split split, List.filter_append, List.filter_append, parts]
  simp only [List.append_assoc]

/-- The world in which somebody has just called. -/
def called (world : World) (call : Call) : World :=
  { world with callers := world.callers ++ [.ofTasks (call.tasks world.depot.settings)] }

/-- Whoever calls has the tasks of its call behind those of all others. -/
theorem tasks_of_joined {world next : World} {tasks : List Task}
    (joined : next.agents = world.agents ++ [.ofTasks tasks]) :
    next.tasks = world.tasks ++ tasks := by
  simp [World.tasks, joined, Agent.ofTasks]

end World

/-- Nothing that has happened is forgotten. -/
theorem Deed.grown {depot after : Depot} {agent next : Agent} {task : Task}
    (deed : Deed depot agent task after next) : ∃ news, after.journal = news ++ depot.journal := by
  -- Displacing tells of the eviction as well, and losing the thread tells of three things.
  rcases deed with intake | delivery | duty
  · cases intake with
    | displace => exact ⟨[_, _], rfl⟩
    | _ => first | exact ⟨[], rfl⟩ | exact ⟨[_], rfl⟩
  · cases delivery <;> first | exact ⟨[], rfl⟩ | exact ⟨[_], rfl⟩
  · cases duty with
    | hireLost => exact ⟨[_, _, _], rfl⟩
    | reportLosses =>
      unfold Depot.reportLosses
      split
      · exact ⟨[], rfl⟩
      · exact ⟨[_], rfl⟩
    | _ => first | exact ⟨[], rfl⟩ | exact ⟨[_], rfl⟩

/-- A change of a world, seen in its depot and in its agents. -/
inductive Turn (world next : World) : Prop where
  /-- One of the agents does its first task. -/
  | act (left right : List Agent) (agent after : Agent) (task : Task)
      (split : world.agents = left ++ { agent with tasks := task :: agent.tasks } :: right)
      (joined : next.agents = left ++ after :: right)
      (deed : Deed world.depot agent task next.depot after)
  /-- Somebody calls. -/
  | call (call : Call) (same : next.depot = world.depot)
      (joined : next.agents =
        world.agents ++ [.ofTasks (call.tasks world.depot.settings)])
  /-- What lies outside changes. -/
  | outside (now : Nat) (wall : Timestamp) (permits : Nat)
      (elsewhere : next.depot = { world.depot with now, wall, permits })
      (same : next.agents = world.agents)

/-- Every change of a world is a turn. -/
theorem World.Step.turn {world next : World} (change : World.Step world next) :
    Turn world next := by
  -- The courier stands before all callers, and a caller between others.
  cases change with
  | @courier callers _ _ _ _ _ acted =>
    obtain ⟨task, rest, rfl, deed⟩ := Agent.deed_of_step acted
    exact .act [] callers rest _ task rfl rfl deed
  | @caller courier left right _ _ _ _ _ acted =>
    obtain ⟨task, rest, rfl, deed⟩ := Agent.deed_of_step acted
    exact .act (courier :: left) right rest _ task rfl rfl deed
  | call _ call => exact .call call rfl rfl
  | clock => exact .outside _ _ _ rfl rfl
  | wall => exact .outside _ _ _ rfl rfl
  | letGo => exact .outside _ _ _ rfl rfl

/-- What clocks and permits have no part in still holds of the depot after a turn, if it does after
a step of whoever acts. -/
theorem Turn.preserves {world next : World} (turn : Turn world next) (holds : Depot → Prop)
    (held : ∀ now wall permits, holds { world.depot with now, wall, permits })
    (acts : ∀ {left right : List Agent} {agent after : Agent} {task : Task},
      world.agents = left ++ { agent with tasks := task :: agent.tasks } :: right →
        Deed world.depot agent task next.depot after → holds next.depot) : holds next.depot := by
  -- A call leaves the depot as it is, and so its clocks and permits.
  cases turn with
  | act _ _ _ _ _ split _ deed => exact acts split deed
  | call _ same =>
    rw [same]
    exact held world.depot.now world.depot.wall world.depot.permits
  | outside now wall permits elsewhere =>
    rw [elsewhere]
    exact held now wall permits

/-- The courier that was lost stays lost in every step. -/
theorem Custody.manned_of_deed {world : World} (custody : Custody world) {left right : List Agent}
    {agent after : Agent} {task : Task} {depot : Depot}
    (split : world.agents = left ++ { agent with tasks := task :: agent.tasks } :: right)
    (deed : Deed world.depot agent task depot after) (manned : depot.isManned = true) :
    world.depot.isManned = true := by
  -- The courier itself cannot act then, and nobody else can get it back.
  cases left with
  | nil =>
    have round := custody.round
    have post := custody.post
    rw [(List.cons.inj split).1] at round post
    rw [← (post.unaffected round deed).2.2.2.2]
    exact manned
  | cons courier left =>
    refine custody.post.still_manned deed ?_ manned
    rintro rfl
    have among : { agent with tasks := .exit :: agent.tasks } ∈ world.callers := by
      rw [(List.cons.inj split).2]
      exact List.mem_append_right _ List.mem_cons_self
    exact (custody.callers _ among).course.inside rfl

/-- The courier that was lost stays lost. -/
theorem Turn.manned {world next : World} (turn : Turn world next) (custody : Custody world)
    (manned : next.depot.isManned = true) : world.depot.isManned = true :=
  -- Only what an agent does can touch the courier.
  turn.preserves (fun depot => depot.isManned = true → world.depot.isManned = true)
    (fun _ _ _ still => still) (fun split deed => custody.manned_of_deed split deed) manned

/-- What every turn keeps holds of all that comes about from a world of which it holds. -/
theorem World.Reachable.kept {start world : World} (run : World.Reachable start world)
    {motive : World → Prop} (first : motive start)
    (turns : ∀ {before after : World}, motive before → Turn before after → motive after) :
    motive world := by
  -- Induction on the run, whose changes are turns.
  induction run with
  | refl => exact first
  | step _ change ih => exact turns ih change.turn

end LogCourier
