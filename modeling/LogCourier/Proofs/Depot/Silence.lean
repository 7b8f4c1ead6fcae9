import LogCourier.Proofs.Depot.Accounting
import LogCourier.Proofs.Depot.Muting

/-!
Silence: a send is not followed by what it logs through the bridge.

Records that arise inside a send change nothing, and everything else that is asked to be handed in
is handed in once: what a caller hands to the bridge, and what the transport logs directly.
-/

namespace LogCourier

namespace Task

/-- What a task asks to be handed in: a record only if it passes. -/
def submissions (threshold : Threshold) (sending : Bool) : Task → List Submission
  | .submit submission => [submission]
  | .bridge record => if record.passes threshold sending then [record.submission] else []
  | _ => []

/-- What belongs to a batch or decides about the courier asks for nothing. -/
theorem submissions_of_not_isIntake {task : Task} (other : task.isIntake = false)
    (threshold : Threshold) (sending : Bool) : task.submissions threshold sending = [] := by
  cases task <;> first | rfl | cases other

end Task

/-- What an agent has been asked to hand in and has not handed in yet. -/
def Agent.owed (agent : Agent) (threshold : Threshold) : List Submission :=
  agent.tasks.flatMap (Task.submissions threshold agent.sending)

/-- What has been asked to be handed in and has not been handed in yet. -/
def World.owed (world : World) : List Submission :=
  world.agents.flatMap fun agent => agent.owed world.depot.threshold

/-- The event without its time. -/
def Event.undated (event : Event) : Event :=
  { event with timestamp := default }

/-- The event that a submission becomes, without its time. -/
def Submission.undated (submission : Submission) (origin : Origin) : Event :=
  submission.event default origin

/-- No step changes what the bridge lets through. -/
theorem Deed.threshold {depot after : Depot} {agent next : Agent} {task : Task}
    (deed : Deed depot agent task after next) : after.threshold = depot.threshold := by
  -- Only reporting losses has to be looked into, as it may tell a notice or not.
  rcases deed with intake | delivery | duty
  · cases intake <;> rfl
  · cases delivery <;> rfl
  · cases duty with
    | reportLosses => unfold Depot.reportLosses; split <;> rfl
    | _ => rfl

/-- What was asked for has been handed in, or is still to be handed in. -/
def HandsIn (before after : Depot) (asked owed : List Submission) : Prop :=
  ∃ news, after.submittedEvents = before.submittedEvents ++ news ∧
    asked.map (·.undated before.settings.origin) =
      news.map Event.undated ++ owed.map (·.undated before.settings.origin)

/-- Where nothing is handed in, everything is still to be handed in. -/
theorem HandsIn.nothing {before after : Depot} {asked owed : List Submission}
    (same : after.submittedEvents = before.submittedEvents) (kept : asked = owed) :
    HandsIn before after asked owed :=
  ⟨[], by simp [same], by simp [kept]⟩

/-- What follows once an event is stamped asks for nothing. -/
theorem Depot.acceptance_submissions {depot : Depot} {event : Event} {threshold : Threshold}
    {sending : Bool} :
    (depot.acceptance event).flatMap (Task.submissions threshold sending) = [] := by
  -- The event is offered, shown or counted, and none of these hands in another.
  unfold Depot.acceptance
  cases depot.settings.isRemote <;> cases depot.settings.echo <;> rfl

/-- An occurrence is handed in once. -/
theorem Intake.handsIn {depot after : Depot} {agent next : Agent} {task : Task}
    (deed : Intake depot agent task after next) :
    HandsIn depot after
      (task.submissions depot.threshold agent.sending ++ agent.owed depot.threshold)
      (next.owed depot.threshold) := by
  -- A record becomes a submission, and a submission an event.
  cases deed with
  | submit submission event stamped =>
    refine ⟨[event], ?_, ?_⟩
    · simp [Depot.submittedEvents, Depot.note, Depot.count, Occurrence.isTraffic]
    · subst stamped
      simp [Task.submissions, Agent.owed, Agent.push, Depot.acceptance_submissions,
        Submission.undated, Submission.event, Event.undated]
  | bridge record passes =>
    refine .nothing rfl ?_
    simp [Task.submissions, passes, Agent.owed, Agent.push]
  | overlook record stays =>
    refine .nothing rfl ?_
    simp [Task.submissions, stays]
  | append event queue =>
    refine .nothing ?_ ?_
    · simp [Depot.submittedEvents, Depot.note, Occurrence.isTraffic]
    · cases queue.asks .appended <;> simp [Task.submissions, Agent.owed, Agent.push]
  | displace event oldest rest ceiling queue =>
    refine .nothing ?_ ?_
    · simp [Depot.submittedEvents, Depot.note, Occurrence.isTraffic]
    · cases queue.asks .displacing <;> simp [Task.submissions, Agent.owed, Agent.push]
  | displaceNobody event queue =>
    refine .nothing ?_ ?_
    · simp [Depot.submittedEvents, Depot.note, Occurrence.isTraffic]
    · cases queue.asks .displacing <;> simp [Task.submissions, Agent.owed, Agent.push]
  | _ =>
    refine .nothing ?_ ?_
    · simp [Depot.submittedEvents, Depot.note, Depot.tell, Depot.count, Occurrence.isTraffic]
    · simp [Task.submissions, Agent.owed, Agent.push, Agent.reply, warn]

/-- Below a task that is not done inside others there is nothing to be handed in. -/
theorem BatchlessBelow.unowed {task : Task} {rest : List Task}
    (orderly : BatchlessBelow (task :: rest))
    (outer : task.isInner = false) (threshold : Threshold) (sending : Bool) :
    rest.flatMap (Task.submissions threshold sending) = [] := by
  -- Handing in is done inside something else.
  refine List.flatMap_eq_nil_iff.mpr fun below member => ?_
  have place := (((List.pairwise_cons.mp orderly).1 below member).resolve_left
    (by simp [outer])).1
  cases below <;> first | rfl | cases place

/-- What must be put back after a crash asks for nothing. -/
theorem submissions_filter_isCleanup (tasks : List Task) (threshold : Threshold) (sending : Bool) :
    (tasks.filter Task.isCleanup).flatMap (Task.submissions threshold sending) = [] := by
  refine List.flatMap_eq_nil_iff.mpr fun task member => ?_
  -- What is put back is a lock, a thread or the courier.
  have kept := (List.mem_filter.mp member).2
  cases task <;> first | rfl | cases kept

/-- Delivering a batch hands in nothing; what the transport logs meanwhile is still to be handed
in. -/
theorem Delivery.handsIn {depot after : Depot} {agent next : Agent} {task : Task}
    (deed : Delivery depot agent task after next) (orderly : BatchlessBelow (task :: agent.tasks)) :
    HandsIn depot after
      (({ agent with tasks := task :: agent.tasks } : Agent).remarks depot ++
        agent.owed depot.threshold)
      (next.owed depot.threshold) := by
  -- Where the mark of sending changes, or a crash makes the agent give up, nothing is owed below.
  have below (other : task.isInner = false) (sending : Bool) :=
    orderly.unowed other depot.threshold sending
  cases deed with
  | send batch timeout reply drawn =>
    refine .nothing ?_ ?_
    · simp [Depot.submittedEvents, Depot.note, Occurrence.isTraffic]
    · -- Of what happens inside the send only the remarks are handed in, for no record passes.
      have silent : (reply.records.map Task.bridge).flatMap
          (Task.submissions depot.threshold true) = [] := by
        simp [List.flatMap_map, Task.submissions, Record.passes]
      have paused : (if reply.waits then [Task.await] else []).flatMap
          (Task.submissions depot.threshold true) = [] := by
        cases reply.waits <;> rfl
      have spoken : (reply.remarks.map fun remark : Severity × String =>
          Task.submit (Submission.ofMessage remark.1 remark.2)).flatMap
            (Task.submissions depot.threshold true) =
          reply.remarks.map fun remark => Submission.ofMessage remark.1 remark.2 := by
        rw [List.flatMap_map, List.map_eq_flatMap]
        rfl
      simp only [Agent.remarks, Agent.owed, Agent.push, List.flatMap_append, below rfl, silent,
        paused, spoken, drawn]
      simp [Task.submissions]
  | deliver wasSending batch =>
    refine .nothing ?_ ?_
    · simp [Depot.submittedEvents, Depot.note, Occurrence.isTraffic]
    · simp [Agent.remarks, Agent.owed, below rfl]
  | giveUp wasSending batch outcome error =>
    refine .nothing ?_ ?_
    · simp [Depot.submittedEvents, Depot.note, Occurrence.isTraffic]
    · simp only [Agent.remarks, Agent.owed, Agent.push, List.flatMap_append, below rfl]
      cases depot.settings.echo <;> rfl
  | showCrashes | flushCrashes =>
    refine .nothing ?_ ?_
    · simp [Depot.submittedEvents, Depot.note, Occurrence.isTraffic]
    · simp [Agent.remarks, Agent.owed, Agent.unwind, below rfl, submissions_filter_isCleanup]
  | drain trigger =>
    refine .nothing rfl ?_
    cases trigger <;> rfl
  | _ =>
    refine .nothing ?_ ?_
    · simp [Depot.submittedEvents, Depot.note, Depot.enter, Occurrence.isTraffic]
    · simp [Agent.remarks, Task.submissions, Agent.owed, Agent.push, warn]

/-- Deciding about the courier hands in nothing. -/
theorem Duty.handsIn {depot after : Depot} {agent next : Agent} {task : Task}
    (deed : Duty depot agent task after next) :
    HandsIn depot after (agent.owed depot.threshold) (next.owed depot.threshold) := by
  -- What is pushed decides about the courier or flushes the sink.
  have concluded :
      depot.conclusion.flatMap (Task.submissions depot.threshold agent.sending) = [] := by
    unfold Depot.conclusion
    cases depot.settings.echo <;> rfl
  cases deed with
  | reportLosses =>
    refine .nothing ?_ rfl
    unfold Depot.reportLosses
    split <;> simp [Depot.submittedEvents, Depot.tell, Depot.note, Occurrence.isTraffic]
  | _ =>
    refine .nothing ?_ ?_
    · simp [Depot.submittedEvents, Depot.note, Depot.tell, Depot.release, Depot.enter,
        Depot.lose, Occurrence.isTraffic]
    · simp [Task.submissions, Agent.owed, Agent.push, Agent.reply, concluded]

/-- Whatever is asked for in a step is handed in then, or is still to be handed in. -/
theorem Deed.handsIn {depot after : Depot} {agent next : Agent} {task : Task}
    (deed : Deed depot agent task after next) (orderly : BatchlessBelow (task :: agent.tasks)) :
    HandsIn depot after
      (({ agent with tasks := task :: agent.tasks } : Agent).remarks depot ++
        ({ agent with tasks := task :: agent.tasks } : Agent).owed depot.threshold)
      (next.owed after.threshold) := by
  -- Only a task of handing in asks for something itself.
  have other (apart : task.isIntake = false) :
      ({ agent with tasks := task :: agent.tasks } : Agent).owed depot.threshold =
        agent.owed depot.threshold := by
    simp [Agent.owed, Task.submissions_of_not_isIntake apart]
  rw [deed.threshold]
  rcases deed with intake | delivery | duty
  · have unsaid : ({ agent with tasks := task :: agent.tasks } : Agent).remarks depot = [] := by
      have kind := intake.isIntake
      cases task <;> first | rfl | cases kind
    rw [unsaid]
    exact intake.handsIn
  · have kind := delivery.isDelivery
    rw [other (by cases task <;> first | rfl | cases kind)]
    exact delivery.handsIn orderly
  · have kind := duty.isDuty
    have unsaid : ({ agent with tasks := task :: agent.tasks } : Agent).remarks depot = [] := by
      cases task <;> first | rfl | cases kind
    rw [other (by cases task <;> first | rfl | cases kind), unsaid]
    exact duty.handsIn

namespace World

variable {start world next : World} {asked more : List Submission}

/-- What the agents owe is what one of them owes and what the others do. -/
theorem owed_of_split {left right : List Agent} {agent : Agent}
    (split : world.agents = left ++ agent :: right) :
    world.owed = left.flatMap (Agent.owed · world.depot.threshold) ++
      agent.owed world.depot.threshold ++
        right.flatMap (Agent.owed · world.depot.threshold) := by
  -- Of the agents only one is named.
  simp [owed, split]

/-- Everything that was asked for has been handed in once, or is still to be handed in. -/
structure RequestsAnswered (depot : Depot) (asked : List Submission) (world : World) : Prop where
  settings : world.depot.settings = depot.settings
  once : (asked.map (·.undated depot.settings.origin)).Perm
    (world.depot.submittedEvents.map Event.undated ++
      world.owed.map (·.undated depot.settings.origin))

/-- Before anything has happened nothing was asked for. -/
theorem RequestsAnswered.initial {depot : Depot} (fresh : depot.journal = []) :
    RequestsAnswered depot [] (.initial depot) where
  settings := rfl
  -- The courier owes nothing before its thread runs.
  once := by simp [Depot.submittedEvents, fresh, World.owed, Agent.owed, Task.submissions]

/-- A change of a world leaves everything answered. -/
theorem RequestsAnswered.after {depot : Depot} (answered : RequestsAnswered depot asked world)
    (marked : ∀ agent ∈ world.agents, MarkedInside false agent) (change : Change world more next) :
    RequestsAnswered depot (asked ++ more) next := by
  obtain ⟨settings, once⟩ := answered
  cases change with
  | @act seat before after agent acting choice acted =>
    -- What the others owe stays as it is, and each event is counted on both sides.
    obtain ⟨left, right, among⟩ := seat.agents_world
    have own : MarkedInside false agent := marked agent (by simp [among])
    obtain ⟨task, rest, rfl, deed⟩ := Agent.deed_of_step acted
    have bound : (seat.world before { rest with tasks := task :: rest.tasks }).depot = before := by
      cases seat <;> rfl
    have reached : (seat.world after acting).depot = after := by cases seat <;> rfl
    rw [bound] at settings
    obtain ⟨news, grown, same⟩ := deed.handsIn own.orderly
    refine ⟨by rw [reached, deed.settings, settings], List.perm_iff_count.mpr fun event => ?_⟩
    have earlier := List.perm_iff_count.mp once event
    have here := congrArg (List.count event) same
    rw [owed_of_split (among _ _), bound] at earlier
    rw [owed_of_split (among _ _), reached, grown, deed.threshold]
    simp only [settings, deed.threshold, List.map_append, List.count_append] at earlier here ⊢
    omega
  | call _ call =>
    refine ⟨settings, ?_⟩
    have new : (Agent.ofTasks (call.tasks world.depot.settings)).owed world.depot.threshold =
        call.submissions world.depot.threshold := by
      -- Whoever calls is not inside a send.
      cases call <;> simp [Agent.owed, Agent.ofTasks, Call.tasks, Call.submissions,
        Task.submissions, Record.passes]
    have owes : ({ world with callers :=
        world.callers ++ [.ofTasks (call.tasks world.depot.settings)] } : World).owed =
        world.owed ++ call.submissions world.depot.threshold := by
      simp [World.owed, World.agents, new]
    rw [owes, List.map_append, List.map_append, ← List.append_assoc]
    exact once.append_right _
  | clock => exact ⟨settings, by rwa [List.append_nil]⟩
  | wall => exact ⟨settings, by rwa [List.append_nil]⟩
  | letGo => exact ⟨settings, by rwa [List.append_nil]⟩

/-- Whatever was asked for on the way to a world is answered there. -/
theorem History.answered {depot : Depot} (fresh : depot.journal = [])
    (history : History (.initial depot) asked world) : RequestsAnswered depot asked world := by
  -- Change by change.
  induction history with
  | refl => exact .initial fresh
  | step before change ih => exact ih.after before.marked change

end World

/-- What can be told of a world from outside. -/
structure Observation where
  /-- What happened: payloads, writes to the sink, notices, and everything else. -/
  journal : List Occurrence
  tally : Tally
  queue : Queue Event
  /-- What the calls answered, and which of them crashed. -/
  answers : List (Option Bool × Option Crash)
  deriving DecidableEq

/-- What can be told of this world from outside. -/
def World.observation (world : World) : Observation :=
  ⟨world.depot.journal, world.depot.tally, world.depot.queue,
    world.callers.map fun caller => (caller.answer, caller.crash)⟩

/-- Records that arise inside sends cannot be told from outside. -/
theorem World.observation_muted (world : World) : world.muted.observation = world.observation := by
  simp [observation, muted, Depot.muted, Agent.muted]

/-- Records that the transport hands to the bridge inside a send change nothing: what can be told of
a run, and what is asked for in it, is the same as in a run without them, and the other way round.
An agent is marked exactly inside a send, even if its call comes from inside another one. Whatever
else is asked for, a record that a caller hands to the bridge or a message that the transport logs
directly, is handed in exactly once. -/
theorem silent_inside_sends (settings : Settings) (threshold : Threshold)
    (transportName sinkName : String) (wall : Timestamp) (script : Script) :
    let start := World.initial (.create settings threshold transportName sinkName wall script)
    let quiet := World.initial (.create settings threshold transportName sinkName wall script.muted)
    (∀ world, World.Reachable start world ↔ ∃ asked, World.History start asked world) ∧
      (∀ asked world, World.History start asked world →
        (∃ silent, World.History quiet asked silent ∧ silent.observation = world.observation) ∧
          (∀ agent ∈ world.agents, agent.sending = agent.isInside) ∧
            (asked.map (·.undated settings.origin)).Perm
              (world.depot.submittedEvents.map Event.undated ++
                world.owed.map (·.undated settings.origin))) ∧
        (∀ asked silent, World.History quiet asked silent →
          ∃ world, World.History start asked world ∧ world.observation = silent.observation) ∧
          ∀ outside call agent,
            { Agent.ofTasks (Call.tasks settings call) with sending := outside }.Becomes agent →
              agent.sending = (outside || agent.isInside) := by
  -- The worlds that match are those in which the records are left out.
  intro start quiet
  have same : quiet = .initial (Depot.muted start.depot) := rfl
  refine ⟨fun world => World.reachable_iff_history, fun asked world history => ⟨?_, ?_, ?_⟩,
    fun asked silent history => ?_, fun outside call agent becomes => ?_⟩
  · exact ⟨world.muted, history.muted, world.observation_muted⟩
  · exact fun agent member => by simpa using (history.marked agent member).mark
  · exact (history.answered rfl).once
  · rw [same] at history
    obtain ⟨noisy, reached, rfl⟩ := history.unmuted
    exact ⟨noisy, reached, noisy.observation_muted.symm⟩
  · exact (MarkedInside.becomes becomes).mark

/-- What the transport does in a send that crashes: it hands a record to the bridge and logs a
message. -/
def Reply.chatty : Reply :=
  ⟨[⟨.error, "net", none, none, none, "retrying"⟩], [(.info, "busy")], false, .crashed .opaqueValue⟩

/-- A world in which an event and a record were handed in and then sent, and the transport crashed
after logging. -/
def World.chatty : World :=
  afterCalls ⟨[.chatty], [], [], []⟩
    [.submit default, .bridge ⟨.error, "app", none, none, none, "failing"⟩, .flush]

/-- The record that the transport hands to the bridge is not among the three events handed in, and
the world looks the same without it. -/
theorem silent_inside_sends_chatty :
    World.chatty.depot.tally.submitted = 3 ∧
      ∃ asked silent, World.History
        (.initial (.create .plain default "transport" "sink" default
          (Script.muted ⟨[.chatty], [], [], []⟩))) asked silent ∧
        silent.observation = World.chatty.observation := by
  refine ⟨by decide +kernel, ?_⟩
  -- Both directions of the law: the run is a history, and without its records it looks the same.
  have law := silent_inside_sends .plain default "transport" "sink" default ⟨[.chatty], [], [], []⟩
  obtain ⟨asked, history⟩ := (law.1 World.chatty).mp (World.reachable_afterCalls _ _)
  exact ⟨asked, (law.2.1 asked World.chatty history).1⟩

end LogCourier
