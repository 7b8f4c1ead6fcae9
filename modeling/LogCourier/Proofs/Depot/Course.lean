import LogCourier.Proofs.Depot.Deed

/-!
Courses: which tasks an agent can have before it, and in which order.

Inner tasks stand above all others, a batch stands above everything but them, and whoever has an
errand of the courier gives the courier back afterwards.
-/

namespace LogCourier

namespace Task

/-- Whether a task is done inside another one, whatever that is. -/
def isInner (task : Task) : Bool :=
  task.isIntake || task = .await

/-- The events of a batch that has been taken and not yet been counted. -/
def batch : Task → List Event
  | .send batch _ => batch
  | .settle _ batch _ => batch
  | _ => []

/-- Whether a task has a batch. -/
def isBatch : Task → Bool
  | .send .. | .settle .. => true
  | _ => false

/-- Whether a task is one that only whoever has the courier can have. -/
def isErrand : Task → Bool
  | .flushFor _ | .drain _ | .send .. | .settle .. | .fallBack _ => true
  | .checkFull | .checkReady | .checkAge => true
  | .finish _ | .closeQueue _ | .begin | .idle _ | .schedule _ | .plan .. | .select .. => true
  | .retick _ => true
  | _ => false

/-- Whether a task asks for the banner. -/
def isBanner : Task → Bool
  | .checkBanner | .claimBanner => true
  | _ => false

/-- Whether a task gives the courier back. -/
def givesBack : Task → Bool
  | .unlock | .release => true
  | _ => false

end Task

/-- Below whatever is not done inside another task stand only tasks without a batch. -/
def BatchlessBelow (tasks : List Task) : Prop :=
  -- Inner tasks may stand anywhere above; the others only above what is outermost.
  tasks.Pairwise fun above below =>
    above.isInner = true ∨ below.isInner = false ∧ below.isBatch = false

/-- After every errand the courier is given back. -/
def ErrandsCovered : List Task → Prop
  | [] => True
  | task :: rest =>
    (task.isErrand = true → ∃ guard ∈ rest, guard.givesBack = true) ∧ ErrandsCovered rest

/-- The tasks that decide about the courier, in their order. -/
def duties (tasks : List Task) : List Task :=
  tasks.filter Task.isDuty

/-- What follows the answer of a call that stops the courier. -/
inductive Coda : List Task → Prop where
  | none : Coda []
  | report : Coda [.reportLosses]

/-- The last flush of whoever has the courier, as far as it is still to be done, before a rest. -/
inductive Closing (rest : List Task) : List Task → Prop where
  | finish (deadline : Span) : Closing rest (.finish deadline :: rest)
  | enter (timeout : Span) :
      Closing rest (.enter .finalFlush :: .closeQueue timeout :: .enter .stopped :: rest)
  | close (timeout : Span) : Closing rest (.closeQueue timeout :: .enter .stopped :: rest)
  | leave : Closing rest (.enter .stopped :: rest)
  | done : Closing rest rest

/-- What the courier on its thread still has to decide. -/
inductive Round : List Task → Prop where
  | begin : Round [.begin, .release, .exit]
  | idle (tick : Nat) : Round [.idle tick, .release, .exit]
  | schedule (tick : Nat) : Round [.schedule tick, .release, .exit]
  | plan (tick asked : Nat) : Round [.plan tick asked, .release, .exit]
  | select (tick wake : Nat) : Round [.select tick wake, .release, .exit]
  | retick (tick : Nat) : Round [.retick tick, .release, .exit]
  | closing {tasks : List Task} (last : Closing [.release, .exit] tasks) : Round tasks
  | exit : Round [.exit]
  | gone : Round []

/-- What a caller still has to decide; only a courier that was never there, or was lost with a
thread that could not be had, leaves nobody to stop. -/
inductive Course (manned : Bool) : List Task → Prop where
  | free : Course manned []
  | report : Course manned [.reportLosses]
  | start : Course manned [.start]
  | hire : Course manned [.hire]
  | flush : Course manned [.flush]
  | order : Course manned [.order]
  | inline : Course manned [.enter .idle, .unlock, .answer true]
  | unlock : Course manned [.unlock, .answer true]
  | unwound : Course manned [.unlock]
  | answer {coda : List Task} (ends : Coda coda) : Course manned (.answer true :: coda)
  | stop (timeout : Span) {coda : List Task} (ends : Coda coda) :
      Course manned (.stop timeout :: coda)
  | takeOver (timeout : Span) {coda : List Task} (ends : Coda coda) :
      Course manned (.takeOver timeout :: coda)
  | dismiss (timeout : Span) {coda : List Task} (ends : Coda coda) :
      Course manned (.dismiss timeout :: coda)
  | join (since : Nat) (timeout : Span) {coda : List Task} (ends : Coda coda) :
      Course manned (.join since timeout :: coda)
  | closing {coda tasks : List Task} (ends : Coda coda)
      (last : Closing (.release :: .answer true :: coda) tasks) : Course manned tasks
  | released : Course manned [.release]
  | decline {coda : List Task} (ends : Coda coda) (courierless : manned = false) :
      Course manned (.enter .stopped :: .answer true :: coda)

/-- An event that is handed in leads only to tasks of handing it in. -/
theorem Intake.pushes {depot after : Depot} {agent next : Agent} {task : Task}
    (deed : Intake depot agent task after next) :
    ∃ pushed, next.tasks = pushed ++ agent.tasks ∧ next.crash = agent.crash ∧
      ∀ new ∈ pushed, new.isIntake = true := by
  -- The new tasks can be read off each way, except that echoing and asking are optional.
  cases deed
  case submit =>
    refine ⟨_, rfl, rfl, ?_⟩
    intro new member
    simp only [Depot.acceptance, List.mem_append] at member
    rcases member with (member | member) | member <;> split at member <;>
      (try split at member) <;> simp_all [Task.isIntake]
  case append | displace | displaceNobody =>
    refine ⟨_, rfl, rfl, ?_⟩
    intro new member
    rcases List.mem_cons.mp member with same | member
    · simp [same, Task.isIntake]
    · split at member <;> simp_all [Task.isIntake]
  all_goals first
    | exact ⟨[], rfl, rfl, by simp⟩
    | exact ⟨_, rfl, rfl, by simp [Task.isIntake, warn]⟩

/-- Tasks in order stay so when others are put on top that may stand there. -/
theorem BatchlessBelow.push {pushed rest : List Task} (new : BatchlessBelow pushed)
    (old : BatchlessBelow rest)
    (above : (∀ task ∈ pushed, task.isInner = true) ∨
      ∀ task ∈ rest, task.isInner = false ∧ task.isBatch = false) :
    BatchlessBelow (pushed ++ rest) := by
  -- Either the upper ones may stand on anything, or the lower ones may stand below anything.
  refine List.pairwise_append.mpr ⟨new, old, ?_⟩
  rcases above with inside | outermost
  · exact fun upper member _ _ => Or.inl (inside upper member)
  · exact fun _ _ lower member => Or.inr (outermost lower member)

/-- Inner tasks are in order, whatever they stand on. -/
theorem orderly_of_inner {tasks : List Task} (inside : ∀ task ∈ tasks, task.isInner = true) :
    BatchlessBelow tasks := by
  -- Each of them stands above another one only as an inner task.
  induction tasks with
  | nil => exact .nil
  | cons task rest ih =>
    refine List.pairwise_cons.mpr ⟨fun _ _ => .inl (inside task (by simp)), ?_⟩
    exact ih fun lower member => inside lower (by simp [member])

/-- Tasks that are inner ones but for the last are in order. -/
theorem orderly_concat {inner : List Task} (last : Task)
    (inside : ∀ task ∈ inner, task.isInner = true) : BatchlessBelow (inner ++ [last]) :=
  -- The last one stands below inner tasks only.
  (orderly_of_inner inside).push (List.pairwise_singleton _ _) (.inl inside)

/-- A batch on its way leads only to orderly tasks of its delivery, unless the sink crashes. -/
theorem Delivery.pushes {depot after : Depot} {agent next : Agent} {task : Task}
    (deed : Delivery depot agent task after next) :
    (∃ pushed, next.tasks = pushed ++ agent.tasks ∧ next.crash = agent.crash ∧
      BatchlessBelow pushed ∧ (task.isInner = true → pushed = []) ∧
      ∀ new ∈ pushed, new.isDuty = false ∧ new.isBanner = false ∧
        (new.isErrand = true → task.isErrand = true)) ∨
    ∃ crash, next = agent.unwind crash := by
  -- A send puts what happens inside it above its own end; everything else is a short list.
  cases deed
  case showCrashes crash _ => exact .inr ⟨crash, rfl⟩
  case flushCrashes crash _ => exact .inr ⟨crash, rfl⟩
  case send reply _ =>
    refine .inl ⟨_, rfl, rfl, orderly_concat _ ?_, by simp [Task.isInner, Task.isIntake], ?_⟩
    · intro new member
      simp only [List.mem_append, List.mem_map] at member
      rcases member with (⟨record, _, rfl⟩ | ⟨remark, _, rfl⟩) | member
      · rfl
      · rfl
      · split at member <;> simp_all [Task.isInner]
    · exact forall_mem_inside reply (fun _ => ⟨rfl, rfl, fun _ => rfl⟩)
        (fun _ => ⟨rfl, rfl, fun _ => rfl⟩) ⟨rfl, rfl, fun _ => rfl⟩ ⟨rfl, rfl, fun _ => rfl⟩
  case drain trigger _ =>
    refine .inl ⟨_, rfl, rfl, orderly_concat _ ?_, by simp [Task.isInner, Task.isIntake], ?_⟩
    · cases trigger <;> simp [Trigger.counter?, Task.isInner, Task.isIntake]
    · cases trigger <;>
        simp [Trigger.counter?, Task.isDuty, Task.isIntake, Task.isDelivery, Task.isBanner,
          Task.isErrand]
  case giveUp =>
    refine .inl ⟨_, rfl, rfl, ?_, by simp [Task.isInner, Task.isIntake], ?_⟩
    · split <;> simp [warn, BatchlessBelow, Task.isInner, Task.isIntake]
    · split <;>
        simp [warn, Task.isDuty, Task.isIntake, Task.isDelivery, Task.isBanner, Task.isErrand]
  all_goals
    refine .inl ?_
    first
    | exact ⟨[], rfl, rfl, .nil, fun _ => rfl, by simp⟩
    | exact ⟨_, rfl, rfl, by simp [BatchlessBelow, Task.isInner, Task.isIntake, warn],
        by simp [Task.isInner, Task.isIntake], by
          simp [Task.isDuty, Task.isIntake, Task.isDelivery, Task.isBanner, Task.isErrand, warn]⟩

/-- A decision about the courier leads only to orderly tasks. -/
theorem Duty.pushes {depot after : Depot} {agent next : Agent} {task : Task}
    (deed : Duty depot agent task after next) :
    ∃ pushed, next.tasks = pushed ++ agent.tasks ∧ next.crash = agent.crash ∧
      BatchlessBelow pushed ∧ task.isInner = false := by
  -- None of the new tasks stands above a batch or below an inner task.
  cases deed
  case takeCourier | takeNobody | join =>
    refine ⟨_, rfl, rfl, ?_, rfl⟩
    unfold Depot.conclusion
    split <;> simp [BatchlessBelow, Task.isInner, Task.isIntake, Task.isBatch]
  all_goals first
    | exact ⟨[], rfl, rfl, .nil, rfl⟩
    | exact ⟨_, rfl, rfl, by simp [BatchlessBelow, Task.isInner, Task.isIntake, Task.isBatch], rfl⟩

/-- A step keeps the tasks of an agent in order. -/
theorem BatchlessBelow.after {depot after : Depot} {agent next : Agent} {task : Task}
    (orderly : BatchlessBelow (task :: agent.tasks)) (deed : Deed depot agent task after next) :
    BatchlessBelow next.tasks := by
  -- An inner task leads to inner ones, and below any other task everything is outermost.
  obtain ⟨below, rest⟩ := List.pairwise_cons.mp orderly
  have outermost : task.isInner = false →
      ∀ lower ∈ agent.tasks, lower.isInner = false ∧ lower.isBatch = false :=
    fun outer lower member => (below lower member).resolve_left (by simp [outer])
  rcases deed with intake | delivery | duty
  · obtain ⟨pushed, same, _, inside⟩ := intake.pushes
    have inner : ∀ new ∈ pushed, new.isInner = true :=
      fun new member => by simp [Task.isInner, inside new member]
    rw [same]
    exact (orderly_of_inner inner).push rest (.inl inner)
  · rcases delivery.pushes with ⟨pushed, same, _, ordered, alone, _⟩ | ⟨crash, rfl⟩
    · rw [same]
      cases inner : task.isInner with
      | true => rw [alone inner]; exact rest
      | false => exact ordered.push rest (.inr (outermost inner))
    · exact List.Pairwise.filter _ rest
  · obtain ⟨pushed, same, _, ordered, outer⟩ := duty.pushes
    rw [same]
    exact ordered.push rest (.inr (outermost outer))

/-- A step leaves all tasks below it, unless a crash makes the agent give up; then nothing was being
handed in below, and there was no batch. -/
theorem Deed.leaves {depot after : Depot} {agent next : Agent} {task : Task}
    (deed : Deed depot agent task after next) (orderly : BatchlessBelow (task :: agent.tasks)) :
    (∃ pushed, next.tasks = pushed ++ agent.tasks) ∨
      (∃ crash, next = agent.unwind crash) ∧
        ∀ below ∈ agent.tasks, below.isInner = false ∧ below.isBatch = false := by
  -- Only the sink makes an agent give up, and it is not used inside other tasks.
  have outer (inner : task.isInner = false) :
      ∀ below ∈ agent.tasks, below.isInner = false ∧ below.isBatch = false :=
    fun below member =>
      ((List.pairwise_cons.mp orderly).1 below member).resolve_left (by simp [inner])
  rcases deed with intake | delivery | duty
  · obtain ⟨pushed, same, _⟩ := intake.pushes
    exact .inl ⟨pushed, same⟩
  · cases delivery with
    | showCrashes => exact .inr ⟨⟨_, rfl⟩, outer rfl⟩
    | flushCrashes => exact .inr ⟨⟨_, rfl⟩, outer rfl⟩
    | _ => exact .inl (by first | exact ⟨[], rfl⟩ | exact ⟨_, rfl⟩)
  · obtain ⟨pushed, same, _⟩ := duty.pushes
    exact .inl ⟨pushed, same⟩

/-- Tasks remain covered when others are put on top whose errands are covered by them. -/
theorem ErrandsCovered.push {rest : List Task} (old : ErrandsCovered rest) (pushed : List Task)
    (new : ∀ task ∈ pushed, task.isErrand = true → ∃ guard ∈ rest, guard.givesBack = true) :
    ErrandsCovered (pushed ++ rest) := by
  -- Whatever covers an errand stands in the lower part.
  induction pushed with
  | nil => exact old
  | cons task upper ih =>
    refine ⟨fun errand => ?_, ih fun other member => new other (by simp [member])⟩
    obtain ⟨guard, member, gives⟩ := new task (by simp) errand
    exact ⟨guard, by simp [member], gives⟩

/-- Tasks without an errand are covered. -/
theorem covered_of_none {tasks : List Task} (none : ∀ task ∈ tasks, task.isErrand = false) :
    ErrandsCovered tasks := by
  -- There is nothing to give back.
  have nothing : ErrandsCovered [] := trivial
  have covered := nothing.push tasks
    (fun task member errand => by simp [none task member] at errand)
  simpa using covered

/-- Concluding a call that has stopped the courier takes no errand. -/
theorem isErrand_of_mem_conclusion {depot : Depot} {task : Task}
    (member : task ∈ depot.conclusion) : task.isErrand = false := by
  -- It may flush the sink, and then it answers.
  unfold Depot.conclusion at member
  split at member <;> simp only [List.nil_append, List.cons_append, List.mem_cons,
    List.not_mem_nil, or_false] at member
  · rcases member with rfl | rfl <;> rfl
  · rw [member]; rfl

/-- A step keeps the errands of an agent covered. -/
theorem ErrandsCovered.after {depot after : Depot} {agent next : Agent} {task : Task}
    (covered : ErrandsCovered (task :: agent.tasks)) (deed : Deed depot agent task after next) :
    ErrandsCovered next.tasks := by
  -- Errands come from errands, or with the task that gives the courier back.
  obtain ⟨guarded, rest⟩ := covered
  rcases deed with intake | delivery | duty
  · obtain ⟨pushed, same, _, inside⟩ := intake.pushes
    rw [same]
    refine rest.push _ fun new member errand => ?_
    have inner := inside new member
    cases new <;> simp_all [Task.isIntake, Task.isErrand]
  · rcases delivery.pushes with ⟨pushed, same, _, _, _, kept⟩ | ⟨crash, rfl⟩
    · rw [same]
      exact rest.push _ fun new member errand => guarded ((kept new member).2.2 errand)
    · refine covered_of_none fun kept member => ?_
      have cleanup := (List.mem_filter.mp member).2
      cases kept <;> simp_all [Task.isCleanup, Task.isErrand]
  · cases duty
    case lock =>
      refine ⟨fun _ => ⟨.unlock, by simp, rfl⟩, ?_⟩
      exact rest.push [.enter .idle, .unlock, .answer true] (by simp [Task.isErrand])
    case takeCourier =>
      refine ⟨fun _ => ⟨.release, by simp, rfl⟩, ?_⟩
      refine rest.push (.release :: depot.conclusion) fun new member errand => ?_
      rcases List.mem_cons.mp member with rfl | member
      · simp [Task.isErrand] at errand
      · simp [isErrand_of_mem_conclusion member] at errand
    case takeNobody =>
      refine rest.push (.enter .stopped :: depot.conclusion) fun new member errand => ?_
      rcases List.mem_cons.mp member with rfl | member
      · simp [Task.isErrand] at errand
      · simp [isErrand_of_mem_conclusion member] at errand
    case join =>
      refine rest.push depot.conclusion fun new member errand => ?_
      simp [isErrand_of_mem_conclusion member] at errand
    all_goals first
      | exact rest
      | exact rest.push _ fun _ _ _ => guarded rfl
      | exact rest.push _ (by simp [Task.isErrand])

@[simp] theorem duties_nil : duties [] = [] := rfl

@[simp] theorem duties_cons (task : Task) (rest : List Task) :
    duties (task :: rest) = if task.isDuty then task :: duties rest else duties rest :=
  List.filter_cons

/-- A task of another kind does not show among the duties. -/
theorem duties_cons_of_neg {task : Task} (other : task.isDuty = false) (rest : List Task) :
    duties (task :: rest) = duties rest := by
  rw [duties_cons, if_neg (by simp [other])]

@[simp] theorem duties_append (upper lower : List Task) :
    duties (upper ++ lower) = duties upper ++ duties lower :=
  List.filter_append ..

/-- Tasks of other kinds do not show among the duties. -/
theorem duties_of_none {tasks : List Task} (none : ∀ task ∈ tasks, task.isDuty = false) :
    duties tasks = [] :=
  List.filter_eq_nil_iff.mpr fun task member => by simp [none task member]

/-- A call that has stopped the courier still has to answer, whether it flushes the sink or not. -/
@[simp] theorem duties_conclusion (depot : Depot) : duties depot.conclusion = [.answer true] := by
  unfold Depot.conclusion
  split <;> rfl

/-- What must be put back after a crash can be read off the duties. -/
theorem duties_filter_isCleanup (tasks : List Task) :
    duties (tasks.filter Task.isCleanup) = (duties tasks).filter Task.isCleanup := by
  -- Both filters may come first.
  unfold duties
  rw [List.filter_filter, List.filter_filter]
  exact List.filter_congr fun task _ => Bool.and_comm ..

/-- Handing in an event leaves the duties of an agent alone. -/
theorem Intake.duties {depot after : Depot} {agent next : Agent} {task : Task}
    (deed : Intake depot agent task after next) : duties next.tasks = duties agent.tasks := by
  -- What it leads to is of its own kind.
  obtain ⟨pushed, same, _, inside⟩ := deed.pushes
  have none : ∀ new ∈ pushed, new.isDuty = false :=
    fun new member => by simp [Task.isDuty, inside new member]
  rw [same, duties_append, duties_of_none none, List.nil_append]

/-- Delivering a batch leaves the duties of an agent alone, unless it makes the agent give up. -/
theorem Delivery.duties {depot after : Depot} {agent next : Agent} {task : Task}
    (deed : Delivery depot agent task after next) :
    duties next.tasks = duties agent.tasks ∨
      next.crash.isSome ∧ duties next.tasks = (duties agent.tasks).filter Task.isCleanup := by
  -- What it leads to is no duty; giving up leaves what must be put back.
  rcases deed.pushes with ⟨pushed, same, _, _, _, kept⟩ | ⟨crash, rfl⟩
  · left
    rw [same, duties_append, duties_of_none (fun new member => (kept new member).1),
      List.nil_append]
  · exact .inr ⟨rfl, duties_filter_isCleanup _⟩

/-- After its answer a call that stops the courier has at most losses to report. -/
theorem Course.ofCoda {manned : Bool} {coda : List Task} (ends : Coda coda) :
    Course manned coda := by
  cases ends
  · exact .free
  · exact .report

/-- What a caller can have to decide while there is somebody to stop, it can always have to. -/
theorem Course.mono {manned later : Bool} {control : List Task} (course : Course manned control)
    (fewer : later = true → manned = true) : Course later control := by
  -- Only the way past a courier that is not there asks who there is.
  cases course with
  | decline ends courierless =>
    refine .decline ends (Bool.eq_false_iff.mpr fun still => ?_)
    exact absurd (fewer still) (by simp [courierless])
  | answer ends => exact .answer ends
  | stop timeout ends => exact .stop timeout ends
  | takeOver timeout ends => exact .takeOver timeout ends
  | dismiss timeout ends => exact .dismiss timeout ends
  | join since timeout ends => exact .join since timeout ends
  | closing ends last => exact .closing ends last
  | released => exact .released
  | _ => constructor

/-- A crash leaves a caller with what must be put back. -/
theorem Course.unwind {manned : Bool} {control : List Task} (course : Course manned control) :
    Course manned (control.filter Task.isCleanup) := by
  -- That is the lock, the courier, or nothing.
  cases course
  case inline | unlock | unwound => exact .unwound
  case closing ends last => cases ends <;> cases last <;> exact .released
  case answer ends => cases ends <;> exact .free
  case stop ends => cases ends <;> exact .free
  case takeOver ends => cases ends <;> exact .free
  case dismiss ends => cases ends <;> exact .free
  case join ends => cases ends <;> exact .free
  case released => exact .released
  case decline ends _ => cases ends <;> exact .free
  all_goals exact .free

/-- A crash leaves the courier on its thread with what must be put back. -/
theorem Round.unwind {control : List Task} (round : Round control) :
    Round (control.filter Task.isCleanup) := by
  -- The courier is given back, and then the thread ends.
  cases round
  case closing last => cases last <;> exact .closing .done
  case exit => exact .exit
  case gone => exact .gone
  all_goals exact .closing .done

/-- A decision in the last flush leads on to its end. -/
theorem Closing.after {depot after : Depot} {agent next : Agent} {task : Task}
    {rest control : List Task} (closing : Closing rest (task :: control))
    (before : duties agent.tasks = control) (unfinished : rest ≠ task :: control)
    (deed : Duty depot agent task after next) : Closing rest (duties next.tasks) := by
  -- The decisions of the last flush follow each other without a choice.
  cases closing with
  | done => exact absurd rfl unfinished
  | finish deadline =>
    cases deed
    simpa [Agent.push, Task.isDuty, Task.isIntake, Task.isDelivery, before] using Closing.enter _
  | enter timeout => cases deed; rw [before]; exact .close timeout
  | close timeout =>
    cases deed <;> simpa [Agent.push, Task.isDuty, Task.isDelivery, before] using Closing.leave
  | leave => cases deed; rw [before]; exact .done

/-- A decision of a caller leads on along its course. -/
theorem Course.after {manned : Bool} {depot after : Depot} {agent next : Agent} {task : Task}
    {control : List Task} (course : Course manned (task :: control))
    (before : duties agent.tasks = control) (deed : Duty depot agent task after next)
    (somebody : manned = true → ∀ timeout, task = .takeOver timeout →
      depot.handle = true ∨ depot.holder = .desk) :
    Course manned (duties next.tasks) := by
  -- Each point of a course leads to the next one, or past what is not needed.
  have same : ∀ pushed, duties (agent.push pushed).tasks = duties pushed ++ control :=
    fun pushed => by rw [← before]; exact duties_append ..
  have kept : ∀ value, duties (agent.reply value).tasks = control := fun _ => before
  cases course with
  | report => cases deed; rw [before]; exact .free
  | start =>
    cases deed
    · rw [same]; exact .hire
    · rw [kept]; exact .free
  | hire => cases deed <;> rw [kept] <;> exact .free
  | flush =>
    cases deed
    · rw [same]; exact .order
    · rw [kept]; exact .free
  | order =>
    cases deed
    case lock => rw [same]; exact .inline
    all_goals rw [kept]; exact .free
  | inline => cases deed; rw [before]; exact .unlock
  | unlock => cases deed; rw [before]; exact .answer .none
  | unwound => cases deed; rw [before]; exact .free
  | answer ends => cases deed; rw [kept]; exact .ofCoda ends
  | stop timeout ends =>
    cases deed
    · rw [same]; exact .takeOver timeout ends
    · rw [kept]; exact .ofCoda ends
  | takeOver timeout ends =>
    cases deed
    · rw [same]; exact .dismiss timeout ends
    · rw [same, duties_cons, duties_cons, duties_conclusion]
      exact .closing ends (.finish timeout)
    case takeNobody unemployed absent =>
      rw [same, duties_cons, duties_conclusion]
      refine .decline ends (Bool.eq_false_iff.mpr fun enabled => ?_)
      rcases somebody enabled timeout rfl with employed | ready
      · simp [unemployed] at employed
      · exact absent ready
  | dismiss timeout ends => cases deed <;> rw [same] <;> exact .join _ timeout ends
  | join since timeout ends =>
    cases deed
    · rw [same, duties_conclusion]; exact .answer ends
    all_goals rw [kept]; exact .ofCoda ends
  | @closing coda _ ends last =>
    by_cases finished : Task.release :: Task.answer true :: coda = task :: control
    · cases finished
      cases deed
      rw [show duties agent.tasks = _ from before]
      exact .answer ends
    · exact .closing ends (last.after before finished deed)
  | released => cases deed; rw [before]; exact .free
  | decline ends courierless => cases deed; rw [before]; exact .answer ends

/-- A decision of the courier on its thread leads on along its round. -/
theorem Round.after {depot after : Depot} {agent next : Agent} {task : Task}
    {control : List Task} (round : Round (task :: control))
    (before : duties agent.tasks = control) (deed : Duty depot agent task after next) :
    Round (duties next.tasks) := by
  -- The round goes in a circle until the order to stop.
  have same : ∀ pushed, duties (agent.push pushed).tasks = duties pushed ++ control :=
    fun pushed => by rw [← before]; exact duties_append ..
  cases round with
  | begin => cases deed; rw [same]; exact .idle _
  | idle tick => cases deed; rw [same]; exact .schedule tick
  | schedule tick => cases deed; rw [same]; exact .plan tick _
  | plan tick asked => cases deed; rw [same]; exact .select tick _
  | select tick wake =>
    cases deed <;> rw [same]
    · exact .idle tick
    · exact .idle tick
    · exact .closing (.finish _)
    · exact .retick tick
  | retick tick => cases deed; rw [same]; exact .idle _
  | closing last =>
    by_cases finished : [Task.release, Task.exit] = task :: control
    · cases finished
      cases deed
      rw [show duties agent.tasks = _ from before]
      exact .exit
    · exact .closing (last.after before finished deed)
  | exit => cases deed; rw [before]; exact .gone

end LogCourier
