import LogCourier.Proofs.Depot.Complaints

/-!
Outcomes: every answer of foreign code is counted once, and so is the banner.

A count may come later than the answer that it tells of, and a warning before the banner is shown.
What is still outstanding then are tasks of the agent that asked.
-/

namespace LogCourier

namespace Occurrence

/-- Whether foreign code answered, or the banner was shown. -/
def isResult : Occurrence → Bool
  | .ended .. | .shown .. | .sinkFlushed _ => true
  | .told .disabled => true
  | _ => false

/-- Whether the sink took an event. -/
def isShown : Occurrence → Bool
  | .shown _ .ok => true
  | _ => false

/-- Whether a send ended well. -/
def isDelivered : Occurrence → Bool
  | .ended _ .ok => true
  | _ => false

/-- Whether a send failed or crashed. -/
def isGivenUp : Occurrence → Bool
  | .ended _ (.failed _) | .ended _ (.crashed _) => true
  | _ => false

/-- Whether the sink failed, or crashed while it echoed an event. -/
def isSinkFailure (echo : Bool) : Occurrence → Bool
  | .shown _ (.failed _) | .sinkFlushed (.failed _) => true
  | .shown _ (.crashed _) => echo
  | _ => false

end Occurrence

namespace Task

/-- Whether a task still has to count an answer or a warning, to show the banner, or to arm it. -/
def isOutstanding : Task → Bool
  | .count .shown | .count .warning => true
  | .tell .disabled | .arm => true
  | _ => false

end Task

/-- The tasks in which something is outstanding. -/
def outstanding (tasks : List Task) : List Task :=
  tasks.filter Task.isOutstanding

@[simp] theorem outstanding_nil : outstanding [] = [] := rfl

@[simp] theorem outstanding_cons (task : Task) (rest : List Task) :
    outstanding (task :: rest) =
      if task.isOutstanding then task :: outstanding rest else outstanding rest :=
  List.filter_cons

@[simp] theorem outstanding_append (upper lower : List Task) :
    outstanding (upper ++ lower) = outstanding upper ++ outstanding lower :=
  List.filter_append ..

/-- In tasks of other kinds nothing is outstanding. -/
theorem outstanding_of_none {tasks : List Task}
    (none : ∀ task ∈ tasks, task.isOutstanding = false) : outstanding tasks = [] :=
  List.filter_eq_nil_iff.mpr fun task member => by simp [none task member]

/-- The tally with nothing in it but what foreign code answered and the warnings. -/
def Tally.outcomes (tally : Tally) : Tally :=
  { tally with submitted := 0, queued := 0, dropped := 0, sizeFlushes := 0, timerFlushes := 0 }

/-- What foreign code answered, and whether the banner was shown, the latest first. -/
def Depot.results (depot : Depot) : List Occurrence :=
  depot.journal.filter Occurrence.isResult

/-- What a change of the depot does about answers, and what is outstanding before and after it. -/
inductive Scoring (before after : Depot) : List Task → List Task → Prop where
  /-- Nobody answers, and nothing is counted. -/
  | still (told : after.results = before.results)
      (counts : after.tally.outcomes = before.tally.outcomes)
      (banner : after.armed = before.armed) : Scoring before after [] []
  /-- The sink takes an event. -/
  | taken (event : Event) (told : after.results = .shown event .ok :: before.results)
      (counts : after.tally.outcomes = before.tally.outcomes)
      (banner : after.armed = before.armed) : Scoring before after [] [.count .shown]
  /-- The sink is flushed, which nobody counts. -/
  | flushed (told : after.results = .sinkFlushed .ok :: before.results)
      (counts : after.tally.outcomes = before.tally.outcomes)
      (banner : after.armed = before.armed) : Scoring before after [] []
  /-- The sink fails, or crashes where that is caught. -/
  | fail (answer : Occurrence) (failure : answer.isSinkFailure before.settings.echo = true)
      (told : after.results = answer :: before.results)
      (counts : after.tally.outcomes = before.tally.outcomes)
      (banner : after.armed = before.armed) : Scoring before after [] [.count .warning]
  /-- The sink crashes where nobody catches it, and nobody counts it. -/
  | crash (answer : Occurrence) (uncaught : answer.isUncaught before.settings.echo = true)
      (told : after.results = answer :: before.results)
      (counts : after.tally.outcomes = before.tally.outcomes)
      (banner : after.armed = before.armed) : Scoring before after [] []
  /-- A send ends well. -/
  | deliver (batch : List Event) (told : after.results = .ended batch .ok :: before.results)
      (counts : after.tally.outcomes = before.tally.outcomes.delivered batch.length)
      (banner : after.armed = before.armed) : Scoring before after [] []
  /-- A send fails or crashes. -/
  | giveUp (batch : List Event) (outcome : Outcome) (failed : outcome ≠ .ok)
      (told : after.results = .ended batch outcome :: before.results)
      (counts : after.tally.outcomes = before.tally.outcomes.failed batch.length)
      (banner : after.armed = before.armed) : Scoring before after [] [.count .warning]
  /-- What was outstanding is counted. -/
  | count (counter : Counter) (told : after.results = before.results)
      (counts : after.tally.outcomes = before.tally.outcomes.count counter)
      (banner : after.armed = before.armed) : Scoring before after [.count counter] []
  /-- The banner is disarmed by whoever will show it. -/
  | claim (armed : before.armed = true) (told : after.results = before.results)
      (counts : after.tally.outcomes = before.tally.outcomes)
      (banner : after.armed = false) :
      Scoring before after [] [.count .warning, .tell .disabled]
  /-- The banner is shown. -/
  | announce (told : after.results = .told .disabled :: before.results)
      (counts : after.tally.outcomes = before.tally.outcomes)
      (banner : after.armed = before.armed) : Scoring before after [.tell .disabled] []

/-- A task settles what was outstanding in it, and leaves what is outstanding then. -/
def Scores (before after : Depot) (task : Task) (rest left : List Task) : Prop :=
  -- What stands below the task is the same before and after.
  ∃ old new, Scoring before after old new ∧ outstanding (task :: rest) = old ++ outstanding rest ∧
    outstanding left = new ++ outstanding rest

/-- A task that asks no foreign code and counts nothing scores nothing. -/
theorem Scores.still {before after : Depot} {task : Task} {rest left : List Task}
    (told : after.results = before.results)
    (counts : after.tally.outcomes = before.tally.outcomes) (banner : after.armed = before.armed)
    (other : task.isOutstanding = false) (onto : outstanding left = outstanding rest) :
    Scores before after task rest left :=
  -- Nothing is told or counted, so nothing becomes outstanding.
  ⟨[], [], .still told counts banner, by simp [other], onto⟩

/-- A task that asks foreign code leaves what is to be counted of the answer. -/
theorem Scores.answered {before after : Depot} {task : Task} {rest left new : List Task}
    (scoring : Scoring before after [] new) (other : task.isOutstanding = false)
    (onto : outstanding left = new ++ outstanding rest) : Scores before after task rest left :=
  ⟨[], new, scoring, by simp [other], onto⟩

/-- Handing in an event may have it shown, which is counted or warned of, and may show the
banner. -/
theorem Intake.scores {depot after : Depot} {agent next : Agent} {task : Task}
    (deed : Intake depot agent task after next) (suits : task.suits depot.settings = true)
    (unarming : task ≠ .arm) : Scores depot after task agent.tasks next.tasks := by
  -- Only an echo asks foreign code; of the banner there is one claim and one show.
  cases deed with
  | submit _ event =>
    -- A submission leads to asking, but not to counting.
    refine .still rfl rfl rfl rfl ?_
    cases remote : depot.settings.isRemote <;> cases echo : depot.settings.echo <;>
      simp [Agent.push, Depot.acceptance, remote, echo, Task.isOutstanding]
  | arm => exact absurd rfl unarming
  | claim armed =>
    exact .answered (.claim armed rfl rfl rfl) rfl rfl
  | comeLate unarmed =>
    -- The banner stays as it was, for others have claimed it.
    exact .still rfl rfl unarmed.symm rfl rfl
  | echo event outcome _ worked =>
    -- Only a success is no failure.
    obtain rfl : outcome = .ok := by cases outcome <;> first | rfl | cases worked
    exact .answered (.taken event rfl rfl rfl) rfl rfl
  | echoFails event outcome error _ failed =>
    have echo : depot.settings.echo = true := suits
    -- A crash while echoing is a failure like any other.
    have failure : (Occurrence.shown event outcome).isSinkFailure depot.settings.echo = true := by
      cases outcome with
      | ok => cases failed
      | failed => rfl
      | crashed => exact echo
    exact .answered (.fail _ failure rfl rfl rfl) rfl rfl
  | append _ queue =>
    refine .still rfl rfl rfl rfl ?_
    cases queue.asks .appended <;> simp [Agent.push, Task.isOutstanding]
  | displace _ _ _ _ queue =>
    refine .still rfl rfl rfl rfl ?_
    cases queue.asks .displacing <;> simp [Agent.push, Task.isOutstanding]
  | displaceNobody _ queue =>
    refine .still rfl rfl rfl rfl ?_
    cases queue.asks .displacing <;> simp [Agent.push, Task.isOutstanding]
  | count counter =>
    -- Counts of other kinds are none of the outcomes.
    cases counter
    case shown => exact ⟨_, _, .count .shown rfl rfl rfl, rfl, rfl⟩
    case warning => exact ⟨_, _, .count .warning rfl rfl rfl, rfl, rfl⟩
    all_goals exact .still rfl rfl rfl rfl rfl
  | tell notice =>
    -- Other notices are none of the results.
    cases notice
    case disabled => exact ⟨_, _, .announce rfl rfl rfl, rfl, rfl⟩
    all_goals exact .still rfl rfl rfl rfl rfl
  | _ =>
    refine .still rfl rfl rfl rfl ?_
    simp [Agent.push, Agent.reply, Task.isOutstanding]

/-- Delivering a batch has it sent, and perhaps shown; whatever comes of it is counted or warned of,
unless a crash makes the agent give up. -/
theorem Delivery.scores {depot after : Depot} {agent next : Agent} {task : Task}
    (deed : Delivery depot agent task after next) (suits : task.suits depot.settings = true)
    (orderly : BatchlessBelow (task :: agent.tasks)) :
    Scores depot after task agent.tasks next.tasks := by
  -- An agent that gives up has nothing outstanding, for that would stand above what it does.
  have unwound (outer : task.isInner = false) (crash : Crash) :
      outstanding (agent.unwind crash).tasks = outstanding agent.tasks := by
    have none : ∀ below ∈ agent.tasks, below.isOutstanding = false := by
      intro below member
      have outermost := ((List.pairwise_cons.mp orderly).1 below member).resolve_left
        (by simp [outer])
      cases below <;> first | rfl | simp [Task.isInner, Task.isIntake] at outermost
    rw [outstanding_of_none none]
    exact outstanding_of_none fun kept member => none kept (List.mem_filter.mp member).1
  cases deed with
  | send batch timeout reply =>
    refine .still rfl rfl rfl rfl ?_
    -- What happens inside a send is handed in, and it has not happened yet.
    rw [Agent.push, outstanding_append, outstanding_of_none, List.nil_append]
    exact forall_mem_inside reply (fun _ => rfl) (fun _ => rfl) rfl rfl
  | drain trigger =>
    refine .still rfl rfl rfl rfl ?_
    cases trigger <;> simp [Agent.push, Trigger.counter?, Task.isOutstanding]
  | deliver wasSending batch => exact .answered (.deliver batch rfl rfl rfl) rfl rfl
  | giveUp wasSending batch outcome error failed =>
    have other : outcome ≠ .ok := by rintro rfl; cases failed
    refine .answered (.giveUp batch outcome other rfl rfl rfl) rfl ?_
    cases echo : depot.settings.echo <;> simp [Agent.push, warn, Task.isOutstanding]
  | «show» event rest => exact .answered (.taken event rfl rfl rfl) rfl rfl
  | showFails event rest error =>
    exact .answered (.fail (.shown event (.failed error)) rfl rfl rfl rfl) rfl rfl
  | showCrashes event rest crash =>
    -- Events of a batch are shown only without an echo, where nobody catches a crash.
    have echo : depot.settings.echo = false := by simpa [Task.suits] using suits
    refine .answered (.crash (.shown event (.crashed crash)) ?_ rfl rfl rfl) rfl (unwound rfl crash)
    simp [Occurrence.isUncaught, echo]
  | flushSink => exact .answered (.flushed rfl rfl rfl) rfl rfl
  | flushFails error =>
    exact .answered (.fail (.sinkFlushed (.failed error)) rfl rfl rfl rfl) rfl rfl
  | flushCrashes crash =>
    exact .answered (.crash (.sinkFlushed (.crashed crash)) rfl rfl rfl rfl) rfl (unwound rfl crash)
  | _ =>
    refine .still rfl rfl rfl rfl ?_
    simp [Agent.push, Task.isOutstanding]

/-- A decision about the courier asks no foreign code and counts nothing. -/
theorem Duty.scores {depot after : Depot} {agent next : Agent} {task : Task}
    (deed : Duty depot agent task after next) :
    Scores depot after task agent.tasks next.tasks := by
  -- The operator may be told of something else than the banner.
  cases deed with
  | takeCourier =>
    refine .still rfl rfl rfl rfl ?_
    cases echo : depot.settings.echo <;>
      simp [Agent.push, Depot.conclusion, echo, Task.isOutstanding]
  | takeNobody =>
    refine .still rfl rfl rfl rfl ?_
    cases echo : depot.settings.echo <;>
      simp [Agent.push, Depot.conclusion, echo, Task.isOutstanding]
  | join =>
    refine .still rfl rfl rfl rfl ?_
    cases echo : depot.settings.echo <;>
      simp [Agent.push, Depot.conclusion, echo, Task.isOutstanding]
  | reportLosses =>
    unfold Depot.reportLosses
    split <;> exact .still rfl rfl rfl rfl rfl
  | _ =>
    refine .still rfl rfl rfl rfl ?_
    simp [Agent.push, Agent.reply, Task.isOutstanding]

/-- A step scores what foreign code answers in it, and what it counts. -/
theorem Deed.scores {depot after : Depot} {agent next : Agent} {task : Task}
    (deed : Deed depot agent task after next) (suits : task.suits depot.settings = true)
    (orderly : BatchlessBelow (task :: agent.tasks)) (unarming : task ≠ .arm) :
    Scores depot after task agent.tasks next.tasks := by
  -- Each kind of step asks foreign code in its own ways.
  rcases deed with intake | delivery | duty
  · exact intake.scores suits unarming
  · exact delivery.scores suits orderly
  · exact duty.scores

/-- What a change of the depot adds to the answers, to the counts and to what is outstanding. -/
structure OutcomesRecorded (before after : Depot) (old new : List Task)
    (answers : List Occurrence) :
    Prop where
  told : after.results = answers ++ before.results
  shown : ∃ more, after.tally.shown = before.tally.shown + UInt64.ofNat more ∧
    more + new.count (.count .shown) =
      old.count (.count .shown) + answers.countP Occurrence.isShown
  batchesSent : after.tally.batchesSent =
    before.tally.batchesSent + UInt64.ofNat (answers.countP Occurrence.isDelivered)
  eventsSent : after.tally.eventsSent =
    before.tally.eventsSent + UInt64.ofNat (answers.flatMap Occurrence.deliveredEvents).length
  batchesFailed : after.tally.batchesFailed =
    before.tally.batchesFailed + UInt64.ofNat (answers.countP Occurrence.isGivenUp)
  eventsFailed : after.tally.eventsFailed =
    before.tally.eventsFailed + UInt64.ofNat (answers.flatMap Occurrence.failedEvents).length
  warnings : ∃ more, after.tally.warnings = before.tally.warnings + UInt64.ofNat more ∧
    more + new.count (.count .warning) + old.count (.tell .disabled) =
      old.count (.count .warning) + new.count (.tell .disabled) +
        answers.count (.told .disabled) + answers.countP Occurrence.isGivenUp +
          answers.countP (Occurrence.isSinkFailure before.settings.echo)
  banner : answers.count (.told .disabled) + new.count (.tell .disabled) +
    after.armed.toNat ≤ old.count (.tell .disabled) + before.armed.toNat
  unarming : .arm ∉ new

/-- What the outcomes of a tally are can be read off it. -/
theorem Tally.of_outcomes {tally other : Tally} (same : tally.outcomes = other) :
    tally.shown = other.shown ∧ tally.batchesSent = other.batchesSent ∧
      tally.eventsSent = other.eventsSent ∧ tally.batchesFailed = other.batchesFailed ∧
        tally.eventsFailed = other.eventsFailed ∧ tally.warnings = other.warnings := by
  -- The outcomes are a part of the tally.
  subst same
  exact ⟨rfl, rfl, rfl, rfl, rfl, rfl⟩

/-- What no count of sends, of shown events or of banners tells of. -/
structure Occurrence.Unrecorded (answer : Occurrence) : Prop where
  shown : answer.isShown = false
  delivered : answer.isDelivered = false
  deliveredEvents : answer.deliveredEvents = []
  givenUp : answer.isGivenUp = false
  failedEvents : answer.failedEvents = []
  banner : answer ≠ .told .disabled

/-- Where the sink failed or crashed, nothing was sent or shown. -/
theorem Occurrence.unrecorded {answer : Occurrence} {echo : Bool}
    (bad : answer.isSinkFailure echo = true ∨ answer.isUncaught echo = true) :
    answer.Unrecorded := by
  -- Only what the sink was asked can have failed there.
  cases answer with
  | shown _ outcome =>
    cases outcome with
    | ok => simp [isSinkFailure, isUncaught] at bad
    | _ => exact ⟨rfl, rfl, rfl, rfl, rfl, by simp⟩
  | sinkFlushed => exact ⟨rfl, rfl, rfl, rfl, rfl, by simp⟩
  | _ => simp [isSinkFailure, isUncaught] at bad

/-- A crash that nobody catches is no failure. -/
theorem Occurrence.isSinkFailure_of_isUncaught {answer : Occurrence} {echo : Bool}
    (uncaught : answer.isUncaught echo = true) : answer.isSinkFailure echo = false := by
  -- A write and a flush that crash uncaught are not counted among the failures.
  cases answer with
  | shown _ outcome => cases outcome <;> simp_all [isSinkFailure, isUncaught]
  | sinkFlushed outcome => cases outcome <;> simp_all [isSinkFailure, isUncaught]
  | _ => rfl

/-- Every score is recorded. -/
theorem Scoring.recorded {before after : Depot} {old new : List Task}
    (scoring : Scoring before after old new) :
    ∃ answers, OutcomesRecorded before after old new answers := by
  -- Each answer is counted at once, or leaves its count outstanding.
  cases scoring with
  | still told counts banner =>
    obtain ⟨shown, sent, events, failed, lost, warnings⟩ := Tally.of_outcomes counts
    refine ⟨[], by simpa using told, ⟨0, ?_, rfl⟩, ?_, ?_, ?_, ?_, ⟨0, ?_, rfl⟩, ?_, by simp⟩
    all_goals simp [shown, sent, events, failed, lost, warnings, banner, Tally.outcomes]
  | taken event told counts banner =>
    -- The count of the event is outstanding.
    obtain ⟨shown, sent, events, failed, lost, warnings⟩ := Tally.of_outcomes counts
    refine ⟨[.shown event .ok], told, ⟨0, ?_, rfl⟩, ?_, ?_, ?_, ?_, ⟨0, ?_, rfl⟩, ?_, by simp⟩
    all_goals simp [shown, sent, events, failed, lost, warnings, banner, Tally.outcomes,
      Occurrence.isDelivered, Occurrence.isGivenUp]
  | flushed told counts banner =>
    obtain ⟨shown, sent, events, failed, lost, warnings⟩ := Tally.of_outcomes counts
    refine ⟨[.sinkFlushed .ok], told, ⟨0, ?_, rfl⟩, ?_, ?_, ?_, ?_, ⟨0, ?_, rfl⟩, ?_, by simp⟩
    all_goals simp [shown, sent, events, failed, lost, warnings, banner, Tally.outcomes,
      Occurrence.isDelivered, Occurrence.isGivenUp]
  | fail answer failure told counts banner =>
    -- The warning of the failure is outstanding.
    obtain ⟨shown, sent, events, failed, lost, warnings⟩ := Tally.of_outcomes counts
    have unrecorded := Occurrence.unrecorded (.inl failure)
    refine ⟨[answer], told, ⟨0, ?_, ?_⟩, ?_, ?_, ?_, ?_, ⟨0, ?_, ?_⟩, ?_, by simp⟩
    all_goals simp [-Occurrence.deliveredEvents, -Occurrence.failedEvents, shown, sent, events,
      failed, lost, warnings, banner, Tally.outcomes, failure, unrecorded.shown,
      unrecorded.delivered, unrecorded.deliveredEvents, unrecorded.givenUp,
      unrecorded.failedEvents, unrecorded.banner]
  | crash answer uncaught told counts banner =>
    obtain ⟨shown, sent, events, failed, lost, warnings⟩ := Tally.of_outcomes counts
    have unrecorded := Occurrence.unrecorded (.inr uncaught)
    have uncounted := Occurrence.isSinkFailure_of_isUncaught uncaught
    refine ⟨[answer], told, ⟨0, ?_, ?_⟩, ?_, ?_, ?_, ?_, ⟨0, ?_, ?_⟩, ?_, by simp⟩
    all_goals simp [-Occurrence.deliveredEvents, -Occurrence.failedEvents, shown, sent, events,
      failed, lost, warnings, banner, Tally.outcomes, uncounted, unrecorded.shown,
      unrecorded.delivered, unrecorded.deliveredEvents, unrecorded.givenUp, unrecorded.failedEvents,
      unrecorded.banner]
  | deliver batch told counts banner =>
    -- The batch and its events are counted at once.
    obtain ⟨shown, sent, events, failed, lost, warnings⟩ := Tally.of_outcomes counts
    refine ⟨[.ended batch .ok], told, ⟨0, ?_, rfl⟩, ?_, ?_, ?_, ?_, ⟨0, ?_, rfl⟩, ?_, by simp⟩
    all_goals simp [shown, sent, events, failed, lost, warnings, banner, Tally.outcomes,
      Tally.delivered, Occurrence.isDelivered, Occurrence.isGivenUp]
  | giveUp batch outcome other told counts banner =>
    obtain ⟨shown, sent, events, failed, lost, warnings⟩ := Tally.of_outcomes counts
    -- The batch is counted at once, and its warning is outstanding.
    refine ⟨[.ended batch outcome], told, ⟨0, ?_, ?_⟩, ?_, ?_, ?_, ?_, ⟨0, ?_, ?_⟩, ?_, by simp⟩
    all_goals
      cases outcome with
      | ok => exact absurd rfl other
      | _ =>
        simp [shown, sent, events, failed, lost, warnings, banner, Tally.outcomes, Tally.failed,
          Occurrence.isShown, Occurrence.isDelivered, Occurrence.isGivenUp,
          Occurrence.isSinkFailure]
  | count counter told counts banner =>
    -- What was outstanding is in the counts now.
    obtain ⟨shown, sent, events, failed, lost, warnings⟩ := Tally.of_outcomes counts
    refine ⟨[], by simpa using told, ?_, ?_, ?_, ?_, ?_, ?_, ?_, by simp⟩
    · cases counter
      case shown => exact ⟨1, by simp [shown, Tally.count, Tally.outcomes], rfl⟩
      all_goals exact ⟨0, by simp [shown, Tally.count, Tally.outcomes], rfl⟩
    · cases counter <;> simp [sent, Tally.count, Tally.outcomes]
    · cases counter <;> simp [events, Tally.count, Tally.outcomes]
    · cases counter <;> simp [failed, Tally.count, Tally.outcomes]
    · cases counter <;> simp [lost, Tally.count, Tally.outcomes]
    · cases counter
      case warning => exact ⟨1, by simp [warnings, Tally.count, Tally.outcomes], rfl⟩
      all_goals exact ⟨0, by simp [warnings, Tally.count, Tally.outcomes], rfl⟩
    · simp [banner]
  | claim armed told counts banner =>
    -- One warning more is outstanding, and so is the banner.
    obtain ⟨shown, sent, events, failed, lost, warnings⟩ := Tally.of_outcomes counts
    refine ⟨[], by simpa using told, ⟨0, ?_, rfl⟩, ?_, ?_, ?_, ?_, ⟨0, ?_, rfl⟩, ?_, by simp⟩
    all_goals simp [shown, sent, events, failed, lost, warnings, armed, banner, Tally.outcomes]
  | announce told counts banner =>
    obtain ⟨shown, sent, events, failed, lost, warnings⟩ := Tally.of_outcomes counts
    refine ⟨[.told .disabled], told, ⟨0, ?_, rfl⟩, ?_, ?_, ?_, ?_, ⟨0, ?_, rfl⟩, ?_, by simp⟩
    all_goals simp [shown, sent, events, failed, lost, warnings, banner, Tally.outcomes,
      Occurrence.isDelivered, Occurrence.isGivenUp]

/-- The counts of outcomes, for a depot and what is outstanding outside it. -/
structure OutcomesScored (depot : Depot) (held : List Task) : Prop where
  shown : Counts depot.tally.shown (held.count (.count .shown))
    (depot.results.countP Occurrence.isShown)
  batchesSent : depot.tally.batchesSent =
    UInt64.ofNat (depot.results.countP Occurrence.isDelivered)
  eventsSent : depot.tally.eventsSent =
    UInt64.ofNat (depot.results.flatMap Occurrence.deliveredEvents).length
  batchesFailed : depot.tally.batchesFailed =
    UInt64.ofNat (depot.results.countP Occurrence.isGivenUp)
  eventsFailed : depot.tally.eventsFailed =
    UInt64.ofNat (depot.results.flatMap Occurrence.failedEvents).length
  /-- A banner that is still to be shown is warned of already. -/
  warnings : Counts depot.tally.warnings (held.count (.count .warning))
    (depot.results.count (.told .disabled) + held.count (.tell .disabled) +
      depot.results.countP Occurrence.isGivenUp +
        depot.results.countP (Occurrence.isSinkFailure depot.settings.echo))
  /-- There is one banner at most: armed, about to be shown, or shown. -/
  banner : depot.results.count (.told .disabled) + held.count (.tell .disabled) +
    depot.armed.toNat ≤ 1
  unarming : .arm ∉ held

/-- Whatever is scored is counted, whatever else is outstanding. -/
theorem OutcomesScored.scoring {before after : Depot} {old new upper lower : List Task}
    (scored : OutcomesScored before (upper ++ old ++ lower))
    (scoring : Scoring before after old new)
    (same : after.settings = before.settings) : OutcomesScored after (upper ++ new ++ lower) := by
  -- What is recorded of the change is added to what was counted before.
  obtain ⟨answers, recorded⟩ := scoring.recorded
  constructor
  · obtain ⟨more, word, sum⟩ := recorded.shown
    rw [word, recorded.told, List.countP_append, Nat.add_comm (answers.countP _)]
    refine scored.shown.grow ?_
    simp only [List.count_append]
    omega
  · rw [recorded.batchesSent, scored.batchesSent, recorded.told, List.countP_append, Nat.add_comm,
      UInt64.ofNat_add]
  · rw [recorded.eventsSent, scored.eventsSent, recorded.told, List.flatMap_append,
      List.length_append, Nat.add_comm, UInt64.ofNat_add]
  · rw [recorded.batchesFailed, scored.batchesFailed, recorded.told, List.countP_append,
      Nat.add_comm, UInt64.ofNat_add]
  · rw [recorded.eventsFailed, scored.eventsFailed, recorded.told, List.flatMap_append,
      List.length_append, Nat.add_comm, UInt64.ofNat_add]
  · -- The banner goes from outstanding to shown, and is warned of all the while.
    obtain ⟨counted, counts, total⟩ := scored.warnings
    obtain ⟨more, word, sum⟩ := recorded.warnings
    refine ⟨counted + more, by rw [word, counts, UInt64.ofNat_add], ?_⟩
    simp only [recorded.told, same, List.countP_append, List.count_append] at total ⊢
    omega
  · have once := scored.banner
    have moved := recorded.banner
    simp only [recorded.told, List.count_append] at once ⊢
    omega
  · have none := scored.unarming
    simp only [List.mem_append, not_or] at none ⊢
    exact ⟨⟨none.1.1, recorded.unarming⟩, none.2⟩

/-- A turn scores what one agent settles and leaves, and what is outstanding of the others stays. -/
theorem Turn.scoring {world next : World} (turn : Turn world next)
    (suits : ∀ agent ∈ world.agents, ∀ task ∈ agent.tasks, task.suits world.depot.settings = true)
    (orderly : ∀ agent ∈ world.agents, BatchlessBelow agent.tasks)
    (unarming : .arm ∉ outstanding world.tasks) :
    ∃ upper old new lower, outstanding world.tasks = upper ++ old ++ lower ∧
      outstanding next.tasks = upper ++ new ++ lower ∧ Scoring world.depot next.depot old new := by
  -- What is outstanding of one agent changes between that of the others.
  cases turn with
  | act left right agent after task split joined deed =>
    have member := Custody.agent_mem split
    have other : task ≠ .arm := by
      -- Arming the banner would be outstanding.
      rintro rfl
      refine unarming (List.mem_filter.mpr ⟨?_, rfl⟩)
      rw [World.tasks_of_split split]
      simp
    obtain ⟨old, new, scoring, took, put⟩ :=
      deed.scores (suits _ member task List.mem_cons_self) (orderly _ member) other
    exact ⟨_, old, new, _, World.filter_tasks_of_split split took,
      World.filter_tasks_of_split joined put, scoring⟩
  | call call same joined =>
    have behind : outstanding next.tasks = outstanding world.tasks := by
      have after : next.tasks = world.tasks ++ call.tasks world.depot.settings :=
        World.tasks_of_joined joined
      rw [after, outstanding_append]
      -- Whoever calls has asked nothing yet.
      cases call <;> simp [Call.tasks, Task.isOutstanding]
    refine ⟨outstanding world.tasks, [], [], [], by simp, by simp [behind], ?_⟩
    rw [same]
    exact .still rfl rfl rfl
  | outside now wall permits elsewhere same =>
    have behind : next.tasks = world.tasks := by simp [World.tasks, same]
    refine ⟨outstanding world.tasks, [], [], [], by simp, by simp [behind], ?_⟩
    rw [elsewhere]
    exact .still rfl rfl rfl

/-- A turn keeps the counts of outcomes, whoever acts in it. -/
theorem Turn.scored {world next : World} (turn : Turn world next)
    (suits : ∀ agent ∈ world.agents, ∀ task ∈ agent.tasks, task.suits world.depot.settings = true)
    (orderly : ∀ agent ∈ world.agents, BatchlessBelow agent.tasks)
    (scored : OutcomesScored world.depot (outstanding world.tasks)) :
    OutcomesScored next.depot (outstanding next.tasks) := by
  -- The turn takes tasks of one agent and puts others in their place.
  obtain ⟨upper, old, new, lower, before, behind, scoring⟩ :=
    turn.scoring suits orderly scored.unarming
  rw [before] at scored
  rw [behind]
  exact scored.scoring scoring turn.settings

/-- All tasks suit the settings and stand in order, and the counts of outcomes are kept. -/
structure OutcomesTallied (world : World) : Prop where
  exposed : CrashesExposed world
  orderly : ∀ agent ∈ world.agents, BatchlessBelow agent.tasks
  scored : OutcomesScored world.depot (outstanding world.tasks)

namespace OutcomesTallied

/-- Before anything has happened nothing is counted, and at most the banner is armed. -/
theorem initial (settings : Settings) (threshold : Threshold) (transportName sinkName : String)
    (wall : Timestamp) (script : Script) :
    OutcomesTallied (.initial (.create settings threshold transportName sinkName wall script)) where
  exposed := .initial ..
  orderly := by simp [BatchlessBelow, Task.isInner, Task.isIntake, Task.isBatch]
  scored :=
    { shown := ⟨0, rfl, rfl⟩
      batchesSent := rfl
      eventsSent := rfl
      batchesFailed := rfl
      eventsFailed := rfl
      warnings := ⟨0, rfl, rfl⟩
      banner := by
        -- With an endpoint there is no banner.
        cases remote : settings.isRemote <;>
          simp [Depot.create, Depot.results, Task.isOutstanding, remote]
      unarming := by
        simp [Task.isOutstanding] }

/-- A turn leaves it so. -/
theorem turn {world next : World} (tallied : OutcomesTallied world) (turn : Turn world next) :
    OutcomesTallied next := by
  obtain ⟨exposed, orderly, scored⟩ := tallied
  refine ⟨exposed.turn turn, ?_, turn.scored exposed.suits orderly scored⟩
  refine turn.each orderly (fun agent after task _ own deed => own.after deed) ?_
  -- A call begins with a task on its own, or with two that have no batch.
  intro settings call
  cases call <;> simp [Call.tasks, Agent.ofTasks, BatchlessBelow, Task.isInner, Task.isIntake,
    Task.isBatch]

/-- It holds of every world that comes about from one of which it holds. -/
theorem reachable {start world : World} (tallied : OutcomesTallied start)
    (run : World.Reachable start world) : OutcomesTallied world :=
  run.kept tallied turn

end OutcomesTallied

namespace Depot

variable (depot : Depot)

/-- Answers of any kind can be counted in the whole journal. -/
theorem countP_results {kind : Occurrence → Bool}
    (answers : ∀ occurrence, kind occurrence = true → occurrence.isResult = true) :
    depot.results.countP kind = depot.journal.countP kind := by
  -- What is no answer is left out of the count on both sides.
  rw [results, List.countP_filter]
  refine List.countP_congr fun occurrence _ => ?_
  rw [Bool.and_eq_true]
  exact ⟨fun both => both.1, fun own => ⟨own, answers occurrence own⟩⟩

/-- What only answers tell of can be gathered from the whole journal. -/
theorem flatMap_results {α : Type} {pick : Occurrence → List α}
    (answers : ∀ occurrence, occurrence.isResult = false → pick occurrence = []) :
    depot.results.flatMap pick = depot.journal.flatMap pick :=
  flatMap_filter_of_nil fun occurrence _ => answers occurrence

end Depot

/-- What counts up to a number and owes nothing is that number. -/
theorem Counts.exact {word : UInt64} {total : Nat} (counts : Counts word 0 total) :
    word = UInt64.ofNat total := by
  obtain ⟨counted, rfl, rfl⟩ := counts
  rfl

namespace OutcomesScored

variable {depot : Depot}

/-- When nothing is outstanding, the counts of sends tell what the journal tells of them. -/
theorem sends (scored : OutcomesScored depot []) :
    depot.tally.batchesSent = UInt64.ofNat (depot.journal.countP Occurrence.isDelivered) ∧
      depot.tally.eventsSent =
        UInt64.ofNat (depot.journal.flatMap Occurrence.deliveredEvents).length ∧
      depot.tally.batchesFailed = UInt64.ofNat (depot.journal.countP Occurrence.isGivenUp) ∧
      depot.tally.eventsFailed =
        UInt64.ofNat (depot.journal.flatMap Occurrence.failedEvents).length := by
  -- The end of a send is a result, whatever it is.
  refine ⟨?_, ?_, ?_, ?_⟩
  · rw [scored.batchesSent, depot.countP_results]
    rintro occurrence kind
    cases occurrence <;> first | rfl | cases kind
  · rw [scored.eventsSent, depot.flatMap_results]
    rintro occurrence other
    cases occurrence <;> first | rfl | cases other
  · rw [scored.batchesFailed, depot.countP_results]
    rintro occurrence kind
    cases occurrence <;> first | rfl | cases kind
  · rw [scored.eventsFailed, depot.flatMap_results]
    rintro occurrence other
    cases occurrence <;> first | rfl | cases other

/-- When nothing is outstanding, as many events are counted as the sink took. -/
theorem taken (scored : OutcomesScored depot []) :
    depot.tally.shown = UInt64.ofNat (depot.journal.countP Occurrence.isShown) := by
  -- The word is exact when nothing is left to count.
  rw [scored.shown.exact, depot.countP_results]
  rintro occurrence kind
  cases occurrence <;> first | rfl | cases kind

/-- When nothing is outstanding, there was a warning for the banner, if it was shown, for each batch
given up and for each failure of the sink. -/
theorem warned (scored : OutcomesScored depot []) :
    depot.tally.warnings =
      (if .told .disabled ∈ depot.journal then 1 else 0) + depot.tally.batchesFailed +
        UInt64.ofNat
          (depot.journal.countP (Occurrence.isSinkFailure depot.settings.echo)) := by
  have failures : depot.results.countP (Occurrence.isSinkFailure depot.settings.echo) =
      depot.journal.countP (Occurrence.isSinkFailure depot.settings.echo) := by
    refine depot.countP_results fun occurrence kind => ?_
    cases occurrence <;> first | rfl | cases kind
  -- The banner is a result, and there is one at most.
  have once : depot.results.count (.told .disabled) =
      if .told .disabled ∈ depot.journal then 1 else 0 := by
    have few := scored.banner
    have counted : depot.results.count (.told .disabled) =
        depot.journal.count (.told .disabled) := List.count_filter rfl
    split
    · next member =>
      have positive := List.count_pos_iff.mpr member
      omega
    · next absent => rw [counted, List.count_eq_zero.mpr absent]
  have word := scored.warnings.exact
  rw [failures, once, List.count_nil, Nat.add_zero, UInt64.ofNat_add, UInt64.ofNat_add,
    ← scored.batchesFailed] at word
  rw [word]
  split <;> rfl

end OutcomesScored

/-- Under any settings the counts of outcomes are exact whenever nothing is outstanding: they tell
how many events the sink took, how many sends ended well and how many did not, with the events in
them, and how often the operator was warned, which is once for the banner, once for each batch
given up and once for each failure of the sink. A crash of the sink that nobody catches is counted
by nobody, and leaves all other counts exact. -/
theorem outcomes_counted {settings : Settings} {threshold : Threshold}
    {transportName sinkName : String} {wall : Timestamp} {script : Script} {world : World}
    (run : World.Reachable
      (.initial (.create settings threshold transportName sinkName wall script)) world)
    (settled : ∀ task ∈ world.tasks, task.isOutstanding = false) :
    world.depot.tally.shown = UInt64.ofNat (world.depot.journal.countP Occurrence.isShown) ∧
      (world.depot.tally.batchesSent =
          UInt64.ofNat (world.depot.journal.countP Occurrence.isDelivered) ∧
        world.depot.tally.eventsSent =
          UInt64.ofNat (world.depot.journal.flatMap Occurrence.deliveredEvents).length ∧
        world.depot.tally.batchesFailed =
          UInt64.ofNat (world.depot.journal.countP Occurrence.isGivenUp) ∧
        world.depot.tally.eventsFailed =
          UInt64.ofNat (world.depot.journal.flatMap Occurrence.failedEvents).length) ∧
      world.depot.tally.warnings =
        (if .told .disabled ∈ world.depot.journal then 1 else 0) +
          world.depot.tally.batchesFailed +
            UInt64.ofNat
              (world.depot.journal.countP (Occurrence.isSinkFailure settings.echo)) := by
  -- Every turn keeps the counts, but for what is outstanding, and that is nothing.
  have tallied :=
    (OutcomesTallied.initial settings threshold transportName sinkName wall script).reachable run
  have scored := tallied.scored
  rw [outstanding_of_none settled] at scored
  have warned := scored.warned
  rw [(CoreInvariant.constant run).1] at warned
  exact ⟨scored.taken, scored.sends, warned⟩

/-- A script in which sends and the sink go well, fail and crash in turn. -/
def Script.fitful : Script :=
  ⟨[default, ⟨[], [], false, .failed (.other "rejected")⟩,
      ⟨[], [], false, .crashed (.text "boom")⟩],
    [.ok, .failed (.other "closed")], [.failed (.other "closed")], []⟩

/-- A world in which three batches were sent, of which two were given up and shown. -/
def World.fitful : World :=
  afterCalls .fitful [.submit default, .flush, .submit default, .flush, .submit default, .flush]

/-- Settings without an endpoint, under which events are echoed. -/
def Settings.unconnected : Settings :=
  { Settings.plain with endpoint := none, echo := true }

/-- A world without an endpoint, in which the sink crashed at the first of two events. -/
def World.unconnected : World :=
  (Session.mk
      (.create .unconnected default "transport" "sink" default
        ⟨[], [.crashed .opaqueValue], [], []⟩)
      .courier).calls [] [.submit default, .submit default]

/-- Two batches given up and two failures of the sink make four warnings; the banner and the crash
of an echo make two. -/
theorem outcomes_counted_fitful :
    (World.fitful.depot.tally.warnings = 4 ∧
      World.fitful.depot.tally.warnings =
        (if .told .disabled ∈ World.fitful.depot.journal then 1 else 0) +
          World.fitful.depot.tally.batchesFailed +
            UInt64.ofNat (World.fitful.depot.journal.countP (Occurrence.isSinkFailure false))) ∧
      World.unconnected.depot.tally.warnings = 2 ∧
        World.unconnected.depot.tally.warnings =
          (if .told .disabled ∈ World.unconnected.depot.journal then 1 else 0) +
            World.unconnected.depot.tally.batchesFailed +
              UInt64.ofNat
                (World.unconnected.depot.journal.countP (Occurrence.isSinkFailure true)) :=
  -- Neither world has anything outstanding.
  ⟨⟨by decide +kernel,
      (outcomes_counted (World.reachable_afterCalls _ _) (by decide +kernel)).2.2⟩,
    by decide +kernel,
    (outcomes_counted (Session.reachable_calls _ ⟨_, _⟩ []) (by decide +kernel)).2.2⟩

end LogCourier
