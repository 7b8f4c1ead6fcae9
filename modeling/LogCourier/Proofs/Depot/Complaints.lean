import LogCourier.Proofs.Depot.Accounting
import LogCourier.Proofs.Depot.Shutdown

/-!
Complaints: every failure of foreign code is counted and told, unless an agent gives up for it.

An agent gives up exactly when the sink crashes where nobody catches it: in a write that shows the
events of a failed batch, or in a flush. A crash of the transport, and of the sink while it echoes,
is a failure like any other.
-/

namespace LogCourier

namespace Notice

/-- Whether the operator is told of a batch that was given up. -/
def isDropping : Notice → Bool
  | .dropping .. => true
  | _ => false

/-- Whether the operator is told that foreign code failed. -/
def isComplaint : Notice → Bool
  | .dropping .. | .consoleFailed _ => true
  | _ => false

end Notice

namespace Occurrence

/-- Whether the sink crashed where nobody catches it; a write is caught when it echoes an event. -/
def isUncaught (echo : Bool) : Occurrence → Bool
  | .shown _ (.crashed _) => !echo
  | .sinkFlushed (.crashed _) => true
  | _ => false

/-- What is to be told of something that happened, if foreign code failed. -/
def complaints (transportName sinkName : String) : Occurrence → List Notice
  | .ended batch outcome =>
    ((outcome.error? transportName).map (Notice.dropping · batch.length)).toList
  | .shown _ outcome | .sinkFlushed outcome =>
    ((outcome.error? sinkName).map Notice.consoleFailed).toList
  | _ => []

/-- What the operator was told of a failure, if anything was told. -/
def toldComplaints : Occurrence → List Notice
  | .told notice => if notice.isComplaint then [notice] else []
  | _ => []

end Occurrence

namespace Depot

/-- Whether the sink has crashed where nobody catches it. -/
def Uncaught (depot : Depot) : Prop :=
  -- The journal tells of every write and of every flush of the sink.
  ∃ occurrence ∈ depot.journal, occurrence.isUncaught depot.settings.echo = true

/-- All failures of foreign code, the latest first. -/
def complaints (depot : Depot) : List Notice :=
  depot.journal.flatMap (Occurrence.complaints depot.transportName depot.sinkName)

/-- All failures that the operator has been told of, the latest first. -/
def toldComplaints (depot : Depot) : List Notice :=
  depot.journal.flatMap Occurrence.toldComplaints

end Depot

namespace Task

/-- The failure that a task is about to tell of. -/
def complaints : Task → List Notice
  | .tell notice => if notice.isComplaint then [notice] else []
  | _ => []

/-- Whether a task counts a warning or tells of a failure. -/
def isAlarm : Task → Bool
  | .count .warning => true
  | .tell notice => notice.isComplaint
  | _ => false

/-- Whether a task is one that agents can have under some settings: with an echo every event is
shown at once, and without it the events of failed batches are. -/
def suits (settings : Settings) : Task → Bool
  | .echo _ => settings.echo
  | .fallBack _ => !settings.echo
  | _ => true

end Task

/-- The tasks that count a warning or tell of a failure. -/
def alarms (tasks : List Task) : List Task :=
  tasks.filter Task.isAlarm

@[simp] theorem alarms_nil : alarms [] = [] := rfl

@[simp] theorem alarms_cons (task : Task) (rest : List Task) :
    alarms (task :: rest) = if task.isAlarm then task :: alarms rest else alarms rest :=
  List.filter_cons

@[simp] theorem alarms_append (upper lower : List Task) :
    alarms (upper ++ lower) = alarms upper ++ alarms lower :=
  List.filter_append ..

/-- Tasks of other kinds do not show among the alarms. -/
theorem alarms_of_none {tasks : List Task} (none : ∀ task ∈ tasks, task.isAlarm = false) :
    alarms tasks = [] :=
  List.filter_eq_nil_iff.mpr fun task member => by simp [none task member]

/-- What a change of the depot does about failures, and which alarms it takes and leaves. -/
inductive Airing (before after : Depot) : List Task → List Task → Prop where
  /-- Nothing fails, and nothing is told. -/
  | still (complaints : after.complaints = before.complaints)
      (told : after.toldComplaints = before.toldComplaints)
      (warnings : after.tally.warnings = before.tally.warnings)
      (batches : after.tally.batchesFailed = before.tally.batchesFailed) :
      Airing before after [] []
  /-- A batch is given up. -/
  | giveUp (error : DeliveryError) (events : Nat)
      (complaints : after.complaints = .dropping error events :: before.complaints)
      (told : after.toldComplaints = before.toldComplaints)
      (warnings : after.tally.warnings = before.tally.warnings)
      (batches : after.tally.batchesFailed = before.tally.batchesFailed + 1) :
      Airing before after [] (warn (.dropping error events))
  /-- The sink fails. -/
  | fail (error : DeliveryError)
      (complaints : after.complaints = .consoleFailed error :: before.complaints)
      (told : after.toldComplaints = before.toldComplaints)
      (warnings : after.tally.warnings = before.tally.warnings)
      (batches : after.tally.batchesFailed = before.tally.batchesFailed) :
      Airing before after [] (warn (.consoleFailed error))
  /-- A warning is counted. -/
  | count (complaints : after.complaints = before.complaints)
      (told : after.toldComplaints = before.toldComplaints)
      (warnings : after.tally.warnings = before.tally.warnings + 1)
      (batches : after.tally.batchesFailed = before.tally.batchesFailed) :
      Airing before after [.count .warning] []
  /-- The operator is told of a failure. -/
  | tell (notice : Notice) (kind : notice.isComplaint = true)
      (complaints : after.complaints = before.complaints)
      (told : after.toldComplaints = notice :: before.toldComplaints)
      (warnings : after.tally.warnings = before.tally.warnings)
      (batches : after.tally.batchesFailed = before.tally.batchesFailed) :
      Airing before after [.tell notice] []

/-- A task takes its own alarm, and leaves those of the tasks that take its place. -/
def Airs (before after : Depot) (task : Task) (rest left : List Task) : Prop :=
  -- What stands below the task is the same before and after.
  ∃ old new, Airing before after old new ∧ alarms (task :: rest) = old ++ alarms rest ∧
    alarms left = new ++ alarms rest

/-- A task that neither fails nor tells anything airs nothing. -/
theorem Airs.still {before after : Depot} {task : Task} {rest left : List Task}
    (complaints : after.complaints = before.complaints)
    (told : after.toldComplaints = before.toldComplaints)
    (warnings : after.tally.warnings = before.tally.warnings)
    (batches : after.tally.batchesFailed = before.tally.batchesFailed)
    (other : task.isAlarm = false) (onto : alarms left = alarms rest) :
    Airs before after task rest left :=
  -- Nothing is added on either side.
  ⟨[], [], .still complaints told warnings batches, by simp [other], onto⟩

/-- What handing in an event does about failures. -/
theorem Intake.airs {depot after : Depot} {agent next : Agent} {task : Task}
    (deed : Intake depot agent task after next) (plain : task.isBanner = false) :
    Airs depot after task agent.tasks next.tasks := by
  -- Only an echo can fail; of the tasks only counting and telling can be alarms.
  cases deed with
  | submit _ event =>
    -- A submission may lead to an echo, but not to an alarm.
    refine .still rfl rfl rfl rfl rfl ?_
    cases remote : depot.settings.isRemote <;> cases echo : depot.settings.echo <;>
      simp [Agent.push, Depot.acceptance, remote, echo, Task.isAlarm]
  | seeBanner => cases plain
  | seeNothing => cases plain
  | claim => cases plain
  | comeLate => cases plain
  | echo event outcome _ worked =>
    -- The sink worked, so there is nothing to tell.
    refine .still ?_ rfl rfl rfl rfl (by simp [Agent.push, Task.isAlarm])
    simp [Depot.complaints, Depot.note, Occurrence.complaints, worked]
  | echoFails event outcome error _ failed =>
    -- A crash while echoing is a failure like any other.
    refine ⟨_, _, .fail error ?_ rfl rfl rfl, rfl, ?_⟩
    · simp [Depot.complaints, Depot.note, Occurrence.complaints, failed]
    · simp [Agent.push, warn, Task.isAlarm, Notice.isComplaint]
  | append _ queue =>
    refine .still rfl rfl rfl rfl rfl ?_
    cases queue.asks .appended <;> simp [Agent.push, Task.isAlarm]
  | displace _ _ _ _ queue =>
    refine .still rfl rfl rfl rfl rfl ?_
    cases queue.asks .displacing <;> simp [Agent.push, Task.isAlarm]
  | displaceNobody _ queue =>
    refine .still rfl rfl rfl rfl rfl ?_
    cases queue.asks .displacing <;> simp [Agent.push, Task.isAlarm]
  | count counter =>
    -- Only a count of warnings is an alarm.
    cases counter
    case warning => exact ⟨_, _, .count rfl rfl rfl rfl, rfl, rfl⟩
    all_goals exact .still rfl rfl rfl rfl rfl rfl
  | tell notice =>
    -- Other notices do not tell of a failure.
    cases kind : notice.isComplaint with
    | true =>
      refine ⟨[.tell notice], [], .tell notice kind rfl ?_ rfl rfl, ?_, rfl⟩
      · simp [Depot.toldComplaints, Depot.tell, Depot.note, Occurrence.toldComplaints, kind]
      · simp [Task.isAlarm, kind]
    | false =>
      refine .still rfl ?_ rfl rfl kind rfl
      simp [Depot.toldComplaints, Depot.tell, Depot.note, Occurrence.toldComplaints, kind]
  | _ =>
    refine .still rfl rfl rfl rfl rfl ?_
    simp [Agent.push, Task.isAlarm]

/-- What delivering a batch does about failures, unless a crash makes the agent give up. -/
theorem Delivery.airs {depot after : Depot} {agent next : Agent} {task : Task}
    (deed : Delivery depot agent task after next) (unharmed : next.crash = none) :
    Airs depot after task agent.tasks next.tasks := by
  -- Each way in which foreign code fails leaves one warning and one notice.
  cases deed with
  | send batch timeout reply =>
    refine .still rfl rfl rfl rfl rfl ?_
    -- What happens inside a send is handed in, and none of it is an alarm.
    rw [Agent.push, alarms_append, alarms_of_none, List.nil_append]
    exact forall_mem_inside reply (fun _ => rfl) (fun _ => rfl) rfl rfl
  | drain trigger =>
    refine .still rfl rfl rfl rfl rfl ?_
    cases trigger <;> simp [Agent.push, Trigger.counter?, Task.isAlarm]
  | giveUp wasSending batch outcome error failed =>
    -- With the batch its number of events is told, whatever the failure was.
    refine ⟨_, _, .giveUp error batch.length ?_ rfl rfl rfl, rfl, ?_⟩
    · simp [Depot.complaints, Depot.note, Occurrence.complaints, failed]
    · cases echo : depot.settings.echo <;>
        simp [Agent.push, warn, Task.isAlarm, Notice.isComplaint]
  | showFails event rest error =>
    refine ⟨_, _, .fail error ?_ rfl rfl rfl, rfl, ?_⟩
    · simp [Depot.complaints, Depot.note, Occurrence.complaints, Outcome.error?]
    · simp [Agent.push, warn, Task.isAlarm, Notice.isComplaint]
  | flushFails error =>
    refine ⟨_, _, .fail error ?_ rfl rfl rfl, rfl, ?_⟩
    · simp [Depot.complaints, Depot.note, Occurrence.complaints, Outcome.error?]
    · simp [Agent.push, warn, Task.isAlarm, Notice.isComplaint]
  -- Here the agent gives up.
  | showCrashes => simp [Agent.unwind] at unharmed
  | flushCrashes => simp [Agent.unwind] at unharmed
  | _ =>
    refine .still rfl rfl rfl rfl rfl ?_
    simp [Agent.push, Task.isAlarm]

/-- A decision about the courier does nothing about failures. -/
theorem Duty.airs {depot after : Depot} {agent next : Agent} {task : Task}
    (deed : Duty depot agent task after next) :
    Airs depot after task agent.tasks next.tasks := by
  -- Notices of other kinds are told on the spot, and they are no complaints.
  cases deed with
  | takeCourier =>
    refine .still rfl rfl rfl rfl rfl ?_
    cases echo : depot.settings.echo <;>
      simp [Agent.push, Depot.conclusion, echo, Task.isAlarm]
  | takeNobody =>
    refine .still rfl rfl rfl rfl rfl ?_
    cases echo : depot.settings.echo <;>
      simp [Agent.push, Depot.conclusion, echo, Task.isAlarm]
  | join =>
    refine .still rfl rfl rfl rfl rfl ?_
    cases echo : depot.settings.echo <;>
      simp [Agent.push, Depot.conclusion, echo, Task.isAlarm]
  | reportLosses =>
    -- The report tells the operator of losses, but not of a failure.
    unfold Depot.reportLosses
    split <;> exact .still rfl rfl rfl rfl rfl rfl
  | _ =>
    refine .still rfl rfl rfl rfl rfl ?_
    simp [Agent.push, Agent.reply, Task.isAlarm]

/-- What a step does about failures, unless a crash makes the agent give up. -/
theorem Deed.airs {depot after : Depot} {agent next : Agent} {task : Task}
    (deed : Deed depot agent task after next) (plain : task.isBanner = false)
    (unharmed : next.crash = none) : Airs depot after task agent.tasks next.tasks := by
  -- The banner is no failure, and is left out by the hypothesis on the task.
  rcases deed with intake | delivery | duty
  · exact intake.airs plain
  · exact delivery.airs unharmed
  · exact duty.airs

/-- The failures that are told of and counted, for a depot and the alarms outside it. -/
structure FailuresReported (depot : Depot) (held : List Task) : Prop where
  complaints : ∀ notice, depot.complaints.count notice =
    depot.toldComplaints.count notice + (held.flatMap Task.complaints).count notice
  warnings : Counts depot.tally.warnings (held.count (.count .warning)) depot.complaints.length
  batches : depot.tally.batchesFailed =
    UInt64.ofNat (depot.complaints.countP Notice.isDropping)

/-- What has happened and is not yet counted is owed. -/
theorem Counts.owe {word : UInt64} {owed total : Nat} (counts : Counts word owed total) :
    Counts word (owed + 1) (total + 1) := by
  obtain ⟨counted, same, sum⟩ := counts
  exact ⟨counted, same, by omega⟩

/-- What is counted is no longer owed. -/
theorem Counts.pay {word : UInt64} {owed total : Nat} (counts : Counts word (owed + 1) total) :
    Counts (word + 1) owed total := by
  obtain ⟨counted, rfl, sum⟩ := counts
  exact ⟨counted + 1, by simp, by omega⟩

/-- Whatever is aired is reported, whatever other alarms there are. -/
theorem FailuresReported.airing {before after : Depot} {old new upper lower : List Task}
    (reported : FailuresReported before (upper ++ old ++ lower))
    (airing : Airing before after old new) :
    FailuresReported after (upper ++ new ++ lower) := by
  -- A failure leaves a warning to count and a notice to tell, and these come one by one.
  obtain ⟨complaints, warnings, batches⟩ := reported
  cases airing with
  | still failed told warned given =>
    refine ⟨fun notice => ?_, ?_, ?_⟩
    · rw [failed, told]
      exact complaints notice
    · rw [failed, warned]
      exact warnings
    · rw [failed, given]
      exact batches
  | giveUp error events failed told warned given =>
    refine ⟨fun notice => ?_, ?_, ?_⟩
    · -- What has failed is about to be told.
      have earlier := complaints notice
      simp [failed, told, warn, Task.complaints, Notice.isComplaint, List.count_cons] at earlier ⊢
      omega
    · rw [failed, warned]
      -- The warning is owed.
      simpa [warn, Nat.add_assoc] using warnings.owe
    · simp [failed, given, batches, List.countP_cons, Notice.isDropping]
  | fail error failed told warned given =>
    refine ⟨fun notice => ?_, ?_, ?_⟩
    · have earlier := complaints notice
      simp [failed, told, warn, Task.complaints, Notice.isComplaint, List.count_cons] at earlier ⊢
      omega
    · rw [failed, warned]
      simpa [warn, Nat.add_assoc] using warnings.owe
    · simp [failed, given, batches, Notice.isDropping]
  | count failed told warned given =>
    refine ⟨fun notice => ?_, ?_, ?_⟩
    · have earlier := complaints notice
      simp [failed, told, Task.complaints] at earlier ⊢
      omega
    · rw [failed, warned]
      -- The warning was owed and is counted now.
      refine Counts.pay ?_
      simpa [Nat.add_assoc] using warnings
    · rw [failed, given]
      exact batches
  | tell notice kind failed told warned given =>
    refine ⟨fun other => ?_, ?_, ?_⟩
    · have earlier := complaints other
      simp [failed, told, Task.complaints, kind, List.count_cons] at earlier ⊢
      omega
    · rw [failed, warned]
      simpa using warnings
    · rw [failed, given]
      exact batches

/-- Whoever has not given up after a turn had not given up before it. -/
theorem Turn.unharmed {world next : World} (turn : Turn world next)
    (unharmed : ∀ agent ∈ next.agents, agent.crash = none) :
    ∀ agent ∈ world.agents, agent.crash = none := by
  -- A step never takes back that an agent gave up, and all others are as before.
  intro other among
  cases turn with
  | act left right agent after task split joined deed =>
    rw [split] at among
    rcases List.mem_append.mp among with among | among
    · exact unharmed other (by rw [joined]; exact List.mem_append_left _ among)
    · rcases List.mem_cons.mp among with rfl | among
      · exact deed.crash (unharmed after (Custody.agent_mem joined))
      · refine unharmed other ?_
        rw [joined]
        exact List.mem_append_right _ (List.mem_cons_of_mem _ among)
  | call _ _ joined => exact unharmed other (by rw [joined]; exact List.mem_append_left _ among)
  | outside _ _ _ _ same => exact unharmed other (by rw [same]; exact among)

/-- As long as nobody gives up, a turn leaves no failure unreported. -/
theorem Turn.reported {world next : World} (turn : Turn world next)
    (fresh : ∀ agent ∈ world.agents, NothingBeforeStop agent)
    (unharmed : ∀ agent ∈ next.agents, agent.crash = none)
    (reported : FailuresReported world.depot (alarms world.tasks)) :
    FailuresReported next.depot (alarms next.tasks) := by
  -- The alarms of one agent change between those of the others.
  cases turn with
  | act left right agent after task split joined deed =>
    have plain := (fresh _ (Custody.agent_mem split)).plain task List.mem_cons_self
    obtain ⟨old, new, airing, took, put⟩ :=
      deed.airs plain (unharmed after (Custody.agent_mem joined))
    -- What others are about to tell stands above or below.
    have before : alarms world.tasks = _ := World.filter_tasks_of_split split took
    have behind : alarms next.tasks = _ := World.filter_tasks_of_split joined put
    rw [before] at reported
    rw [behind]
    exact reported.airing airing
  | call call same joined =>
    have behind : alarms next.tasks = alarms world.tasks := by
      have after : next.tasks = world.tasks ++ call.tasks world.depot.settings :=
        World.tasks_of_joined joined
      rw [after, alarms_append]
      -- Nobody calls to tell of a failure.
      cases call <;> simp [Call.tasks, Task.isAlarm]
    rw [same, behind]
    exact reported
  | outside now wall permits elsewhere same =>
    have behind : next.tasks = world.tasks := by simp [World.tasks, same]
    rw [elsewhere, behind]
    exact ⟨reported.complaints, reported.warnings, reported.batches⟩

/-- An event that is handed in is echoed only if the settings say so. -/
theorem Intake.suits {depot after : Depot} {agent next : Agent} {task : Task}
    (deed : Intake depot agent task after next) :
    ∃ pushed, next.tasks = pushed ++ agent.tasks ∧
      ∀ new ∈ pushed, new.suits depot.settings = true := by
  -- Only a submission leads to an echo, and it looks at the settings for it.
  cases deed with
  | submit _ event =>
    refine ⟨_, rfl, ?_⟩
    cases remote : depot.settings.isRemote <;> cases echo : depot.settings.echo <;>
      simp [Depot.acceptance, remote, echo, Task.suits]
  | append _ queue =>
    refine ⟨_, rfl, ?_⟩
    cases queue.asks .appended <;> simp [Task.suits]
  | displace _ _ _ _ queue =>
    refine ⟨_, rfl, ?_⟩
    cases queue.asks .displacing <;> simp [Task.suits]
  | displaceNobody _ queue =>
    refine ⟨_, rfl, ?_⟩
    cases queue.asks .displacing <;> simp [Task.suits]
  | _ =>
    first
    | exact ⟨[], rfl, by simp⟩
    | exact ⟨_, rfl, by simp [warn, Task.suits]⟩

/-- The events of a failed batch are shown only if they have not been echoed. -/
theorem Delivery.suits {depot after : Depot} {agent next : Agent} {task : Task}
    (deed : Delivery depot agent task after next) (suits : task.suits depot.settings = true) :
    (∃ pushed, next.tasks = pushed ++ agent.tasks ∧
      ∀ new ∈ pushed, new.suits depot.settings = true) ∨ ∃ crash, next = agent.unwind crash := by
  -- Showing the events of a batch begins when it is given up, without an echo.
  cases deed with
  | send _ _ reply =>
    exact .inl ⟨_, rfl, forall_mem_inside reply (fun _ => rfl) (fun _ => rfl) rfl rfl⟩
  | drain trigger =>
    refine .inl ⟨_, rfl, ?_⟩
    cases trigger <;> simp [Trigger.counter?, Task.suits]
  | giveUp =>
    -- Where events are echoed nothing is shown for a second time.
    refine .inl ⟨_, rfl, ?_⟩
    cases echo : depot.settings.echo <;> simp [warn, echo, Task.suits]
  | «show» => exact .inl ⟨_, rfl, by simpa [Task.suits] using suits⟩
  | showCrashes _ _ crash => exact .inr ⟨crash, rfl⟩
  | flushCrashes crash => exact .inr ⟨crash, rfl⟩
  | _ =>
    left
    first
    | exact ⟨[], rfl, by simp⟩
    | exact ⟨_, rfl, by simp [warn, Task.suits]⟩

/-- A decision shows no event. -/
theorem Duty.suits {depot after : Depot} {agent next : Agent} {task : Task}
    (deed : Duty depot agent task after next) :
    ∃ pushed, next.tasks = pushed ++ agent.tasks ∧
      ∀ new ∈ pushed, new.suits depot.settings = true := by
  -- No decision leads to showing anything.
  cases deed
  case takeCourier | takeNobody | join =>
    refine ⟨_, rfl, ?_⟩
    unfold Depot.conclusion
    split <;> simp [Task.suits]
  all_goals first
    | exact ⟨[], rfl, by simp⟩
    | exact ⟨_, rfl, by simp [Task.suits]⟩

/-- A step leads only to tasks that suit the settings. -/
theorem Deed.suits {depot after : Depot} {agent next : Agent} {task : Task}
    (deed : Deed depot agent task after next)
    (suits : ∀ old ∈ task :: agent.tasks, old.suits depot.settings = true) :
    ∀ new ∈ next.tasks, new.suits depot.settings = true := by
  -- The old tasks suit as before, so only the new ones matter.
  have below : ∀ old ∈ agent.tasks, old.suits depot.settings = true :=
    fun old member => suits old (List.mem_cons_of_mem _ member)
  have onto {pushed : List Task} (fits : ∀ new ∈ pushed, new.suits depot.settings = true) :
      ∀ new ∈ pushed ++ agent.tasks, new.suits depot.settings = true := by
    intro new member
    exact (List.mem_append.mp member).elim (fits new) (below new)
  rcases deed with intake | delivery | duty
  · obtain ⟨pushed, same, fits⟩ := intake.suits
    rw [same]
    exact onto fits
  · rcases delivery.suits (suits task List.mem_cons_self) with ⟨pushed, same, fits⟩ | ⟨crash, rfl⟩
    · rw [same]
      exact onto fits
    · -- Giving up only drops tasks.
      exact fun new member => below new (List.mem_filter.mp member).1
  · obtain ⟨pushed, same, fits⟩ := duty.suits
    rw [same]
    exact onto fits

/-- Nobody gives up because of an event that is handed in. -/
theorem Intake.harmless {depot after : Depot} {agent next : Agent} {task : Task}
    (deed : Intake depot agent task after next) (suits : task.suits depot.settings = true) :
    after.Uncaught ↔ depot.Uncaught := by
  -- An echo may crash, but where events are echoed that is caught.
  cases deed with
  | echo event outcome =>
    -- The write echoes an event, since the task suits the settings.
    have echo : depot.settings.echo = true := suits
    cases outcome <;> simp [Depot.Uncaught, Depot.note, Occurrence.isUncaught, echo]
  | echoFails event outcome =>
    have echo : depot.settings.echo = true := suits
    cases outcome <;> simp [Depot.Uncaught, Depot.note, Occurrence.isUncaught, echo]
  | _ => simp [Depot.Uncaught, Depot.note, Depot.tell, Depot.count, Occurrence.isUncaught]

/-- A batch makes its agent give up exactly when the sink crashes. -/
theorem Delivery.harm {depot after : Depot} {agent next : Agent} {task : Task}
    (deed : Delivery depot agent task after next) (suits : task.suits depot.settings = true) :
    (next.crash = agent.crash ∧ (after.Uncaught ↔ depot.Uncaught)) ∨
      (next.crash.isSome = true ∧ after.Uncaught) := by
  -- Events of a batch are shown only without an echo, where nobody catches a crash.
  cases deed with
  | showCrashes event rest crash =>
    -- Showing a batch suits only settings without an echo.
    have echo : depot.settings.echo = false := by simpa [Task.suits] using suits
    exact .inr ⟨rfl, .shown event (.crashed crash), List.mem_cons_self,
      by simp [Depot.note, Occurrence.isUncaught, echo]⟩
  | flushCrashes crash =>
    exact .inr ⟨rfl, .sinkFlushed (.crashed crash), List.mem_cons_self, rfl⟩
  | _ =>
    exact .inl ⟨rfl, by simp [Depot.Uncaught, Depot.note, Depot.enter, Occurrence.isUncaught]⟩

/-- Nobody gives up because of a decision. -/
theorem Duty.harmless {depot after : Depot} {agent next : Agent} {task : Task}
    (deed : Duty depot agent task after next) : after.Uncaught ↔ depot.Uncaught := by
  -- A decision runs no foreign code.
  cases deed with
  | reportLosses =>
    unfold Depot.reportLosses
    split <;> simp [Depot.Uncaught, Depot.note, Depot.tell, Occurrence.isUncaught]
  | _ =>
    simp [Depot.Uncaught, Depot.note, Depot.tell, Depot.enter, Depot.release, Depot.lose,
      Occurrence.isUncaught]

/-- A step makes an agent give up exactly when the sink crashes where nobody catches it. -/
theorem Deed.harm {depot after : Depot} {agent next : Agent} {task : Task}
    (deed : Deed depot agent task after next) (suits : task.suits depot.settings = true) :
    (next.crash = agent.crash ∧ (after.Uncaught ↔ depot.Uncaught)) ∨
      (next.crash.isSome = true ∧ after.Uncaught) := by
  -- Only delivering a batch can make an agent give up.
  rcases deed with intake | delivery | duty
  · obtain ⟨_, _, same, _⟩ := intake.pushes
    exact .inl ⟨same, intake.harmless suits⟩
  · exact delivery.harm suits
  · obtain ⟨_, _, same, _⟩ := duty.pushes
    exact .inl ⟨same, duty.harmless⟩

/-- All tasks suit the settings, and somebody has given up exactly when the sink has crashed where
nobody catches it. -/
structure CrashesExposed (world : World) : Prop where
  suits : ∀ agent ∈ world.agents, ∀ task ∈ agent.tasks, task.suits world.depot.settings = true
  harm : (∃ agent ∈ world.agents, agent.crash.isSome = true) ↔ world.depot.Uncaught

namespace CrashesExposed

/-- Before anything has happened nobody has given up. -/
theorem initial (settings : Settings) (threshold : Threshold) (transportName sinkName : String)
    (wall : Timestamp) (script : Script) :
    CrashesExposed (.initial (.create settings threshold transportName sinkName wall script)) where
  suits := by
    -- The courier's first task is to begin, which fails in no way.
    simp [Task.suits]
  harm := by simp [Depot.Uncaught, Depot.create]

/-- A turn leaves it so. -/
theorem turn {world next : World} (exposed : CrashesExposed world) (turn : Turn world next) :
    CrashesExposed next := by
  -- The step of one agent makes the difference for it and for the journal alike.
  obtain ⟨suits, harm⟩ := exposed
  constructor
  · rw [turn.settings]
    refine turn.each suits (fun agent after task _ own deed => deed.suits own) ?_
    intro settings call
    cases call <;> simp [Call.tasks, Agent.ofTasks, Task.suits]
  · cases turn with
    | act left right agent after task split joined deed =>
      have own := suits _ (Custody.agent_mem split) task List.mem_cons_self
      rw [split] at harm
      rw [joined]
      rcases deed.harm own with ⟨same, steady⟩ | ⟨crashed, uncaught⟩
      · -- The agent has given up as much as before, and so have the others.
        rw [steady, ← harm]
        simp only [List.mem_append, List.mem_cons, or_and_right, exists_or, exists_eq_left, same]
      · -- The agent has given up, and the journal tells why.
        exact iff_of_true ⟨after, by simp, crashed⟩ uncaught
    | call call same joined =>
      rw [joined, same, ← harm]
      simp [Agent.ofTasks]
    | outside now wall permits elsewhere same =>
      rw [same, elsewhere]
      exact harm

/-- Nobody has given up exactly when every crash has been caught. -/
theorem unharmed_iff {world : World} (exposed : CrashesExposed world) :
    (∀ agent ∈ world.agents, agent.crash = none) ↔ ¬ world.depot.Uncaught := by
  rw [← exposed.harm]
  simp

end CrashesExposed

end LogCourier
