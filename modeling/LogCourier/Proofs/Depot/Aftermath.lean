import LogCourier.Proofs.Depot.Progress
import LogCourier.Proofs.Depot.Shutdown

/-!
Aftermath: once the courier is gone with all sealed, events are only handed in and lost.

Nobody has a batch any more, nobody can take one, and whoever still brings an event to the queue
finds it closed.
-/

namespace LogCourier

/-- When nobody has the courier, nobody has a batch. -/
theorem Custody.unbatched {world : World} (custody : Custody world)
    (gone : world.depot.holder = .nobody) : ∀ task ∈ world.tasks, task.isBatch = false := by
  -- Whoever had one would be entrusted with the courier.
  intro task member
  refine Bool.eq_false_iff.mpr fun batch => ?_
  obtain ⟨agent, among, below⟩ := List.mem_flatMap.mp member
  exact (custody.taken among (custody.entrusts_of_isBatch among below batch)).1 gone

/-- When nobody has the courier, no event is on its way in a batch. -/
theorem Custody.inFlight_eq_nil {world : World} (custody : Custody world)
    (gone : world.depot.holder = .nobody) : world.inFlight = [] := by
  -- Only a task with a batch has events on their way.
  refine List.flatMap_eq_nil_iff.mpr fun task member => ?_
  have unbatched := custody.unbatched gone task member
  cases task <;> first | rfl | cases unbatched

namespace Occurrence

/-- Whether something can still happen to an event when the courier is gone. -/
def isLate : Occurrence → Bool
  | .submitted _ | .turnedAway _ => true
  | .arrived _ .refusedFull | .arrived _ .refusedClosed => true
  | _ => false

/-- Whether a batch was handed to the transport. -/
def isSend : Occurrence → Bool
  | .sent .. => true
  | _ => false

end Occurrence

/-- All that has been handed to the transport, the earliest first. -/
def Depot.sends (depot : Depot) : List Occurrence :=
  (traffic depot.journal).filter Occurrence.isSend

/-- Behind a closed queue a move without a batch only hands in an event or loses it. -/
theorem Move.late {before after : Depot} {old new : List Task} (move : Move before after old new)
    (closed : before.queue.closed = true) (empty : before.queue.waiting = [])
    (none : ∀ task ∈ old, task.isBatch = false) :
    ∃ news, traffic after.journal = traffic before.journal ++ news ∧
      ∀ occurrence ∈ news, occurrence.isLate = true := by
  -- Entering needs an open queue, taking a batch a queue with something in it.
  cases move with
  | still told => exact ⟨[], by simpa using told, by simp⟩
  | submit event told => exact ⟨_, told, by simp [Occurrence.isLate]⟩
  | turnAway event _ told => exact ⟨_, told, by simp [Occurrence.isLate]⟩
  | offer _ _ told => exact ⟨[], by simpa using told, by simp⟩
  | refuse event entry reason told =>
    refine ⟨_, told, ?_⟩
    -- Here the event is lost, for either reason.
    rcases reason with ⟨rfl, _⟩ | ⟨rfl, _⟩ <;> simp [Occurrence.isLate]
  -- The queue is closed.
  | enter _ opened => simp [closed] at opened
  | shift _ _ _ opened => simp [closed] at opened
  -- There is nothing to take.
  | drain _ _ occupied => exact absurd empty occupied
  -- What moves a batch is a task that has one.
  | send batch timeout => cases none (.send batch timeout) List.mem_cons_self
  | deliver batch wasSending => cases none (.settle wasSending batch .ok) List.mem_cons_self
  | fail batch wasSending outcome =>
    cases none (.settle wasSending batch outcome) List.mem_cons_self
  | count _ told => exact ⟨[], by simpa using told, by simp⟩

/-- Since the courier has gone, nothing has happened to any event but to be handed in and lost. -/
structure OnlyLosses (returned world : World) : Prop where
  retired : CourierRetired world.depot
  since : ∃ news, traffic world.depot.journal = traffic returned.depot.journal ++ news ∧
    ∀ occurrence ∈ news, occurrence.isLate = true

namespace OnlyLosses

variable {returned world next : World}

/-- A turn leaves it so. -/
theorem turn (quiet : OnlyLosses returned world) (core : CoreInvariant world)
    (turn : Turn world next) :
    OnlyLosses returned next := by
  -- Nobody has a batch, so the move of the turn is none of a batch.
  obtain ⟨retired, news, told, late⟩ := quiet
  obtain ⟨custody, sound, _⟩ := core
  obtain ⟨old, new, upper, lower, move, took, _, _⟩ := turn.move custody sound
  have none : ∀ task ∈ old, task.isBatch = false := by
    intro task member
    have among : task ∈ cargo world.tasks := by
      rw [took]
      exact List.mem_append_left _ (List.mem_append_right _ member)
    exact custody.unbatched retired.holder task (List.mem_filter.mp among).1
  -- What the turn tells of comes behind all that was told before.
  obtain ⟨more, told', late'⟩ := move.late retired.closed (sound.shut retired.closed) none
  refine ⟨turn.retired custody retired, news ++ more, ?_, fun occurrence member => ?_⟩
  · rw [told', told, List.append_assoc]
  · rcases List.mem_append.mp member with member | member
    · exact late occurrence member
    · exact late' occurrence member

/-- It remains so for ever. -/
theorem reachable (core : CoreInvariant returned) (retired : CourierRetired returned.depot)
    (on : World.Reachable returned world) : OnlyLosses returned world :=
  core.induction (OnlyLosses returned) ⟨retired, [], by simp, by simp⟩
    (fun core quiet turn => quiet.turn core turn) on

/-- Nothing that can still happen shows in what only batches and the queue have. -/
theorem flatMap_eq {α : Type} {pick : Occurrence → List α} (quiet : OnlyLosses returned world)
    (none : ∀ occurrence, occurrence.isLate = true → pick occurrence = []) :
    (traffic world.depot.journal).flatMap pick = (traffic returned.depot.journal).flatMap pick := by
  obtain ⟨_, news, told, late⟩ := quiet
  -- Only losses have been added, and the choice passes over them.
  have nothing : news.flatMap pick = [] :=
    List.flatMap_eq_nil_iff.mpr fun occurrence member => none occurrence (late occurrence member)
  rw [told, List.flatMap_append, nothing, List.append_nil]

/-- No send begins any more. -/
theorem sends (quiet : OnlyLosses returned world) : world.depot.sends = returned.depot.sends := by
  -- What can still happen is no send.
  obtain ⟨_, news, told, late⟩ := quiet
  have nothing : news.filter Occurrence.isSend = [] := by
    refine List.filter_eq_nil_iff.mpr fun occurrence member send => ?_
    have kind := late occurrence member
    -- A send is none of what can still happen.
    cases occurrence <;> first | (cases send; done) | cases kind
  rw [Depot.sends, told, List.filter_append, nothing, List.append_nil, Depot.sends]

/-- Nothing is delivered any more. -/
theorem delivered (quiet : OnlyLosses returned world) :
    world.depot.deliveredEvents = returned.depot.deliveredEvents :=
  quiet.flatMap_eq fun occurrence late => by
    cases occurrence <;> first | rfl | cases late

/-- Nothing is given up with its batch any more. -/
theorem failed (quiet : OnlyLosses returned world) :
    world.depot.failedEvents = returned.depot.failedEvents :=
  quiet.flatMap_eq fun occurrence late => by
    cases occurrence <;> first | rfl | cases late

/-- Whatever was handed in before is still what was handed in first. -/
theorem submitted (quiet : OnlyLosses returned world) :
    ∃ news, world.depot.submittedEvents = returned.depot.submittedEvents ++ news := by
  -- What was told before stands at the end of the journal, and at the front of what was handed in.
  obtain ⟨_, news, told, _⟩ := quiet
  exact ⟨news.flatMap Occurrence.submittedEvents, by
    rw [Depot.submittedEvents, told, List.flatMap_append, Depot.submittedEvents]⟩

end OnlyLosses

/-- No task of a caller belongs to the round of the courier. -/
theorem Custody.finite {world : World} (custody : Custody world) {caller : Agent}
    (member : caller ∈ world.callers) : ∀ task ∈ caller.tasks, task.isRound = false := by
  -- A task of the round is decided, and no caller decides it.
  intro task below
  refine Bool.eq_false_iff.mpr fun round => ?_
  have decided : task.isDuty = true := by cases task <;> first | rfl | cases round
  have course := (custody.callers caller member).course
  simp [course.finite task (List.mem_filter.mpr ⟨below, decided⟩)] at round

/-- Whoever only hands in events neither waits nor gives up. -/
theorem Agent.undisturbed {agent : Agent} (handing : ∀ task ∈ agent.tasks, task.isIntake = true)
    (depot : Depot) : agent.waits depot = false ∧ ∀ choice after next,
      agent.step choice depot = some (after, next) → next.crash = agent.crash := by
  -- Only delivering a batch has somebody give up, and only other tasks have somebody wait.
  constructor
  · unfold Agent.waits
    cases tasks : agent.tasks with
    | nil => rfl
    | cons task rest => exact depot.hinders_of_isIntake (handing task (by simp [tasks]))
  · intro choice after next acted
    obtain ⟨task, rest, rfl, deed⟩ := Agent.deed_of_step acted
    have own := handing task List.mem_cons_self
    rcases deed with intake | delivery | duty
    · obtain ⟨_, _, same, _⟩ := intake.pushes
      exact same
    · have delivers := delivery.isDelivery
      simp [Task.isDelivery_of_isIntake own] at delivers
    · have decides := duty.isDuty
      simp [Task.isDuty, own] at decides

/-- What holds in a world that came about after the courier was gone with all sealed. -/
structure Concluded (returned later : World) : Prop where
  phase : later.depot.phase = .stopped
  closed : later.depot.queue.closed = true
  empty : later.depot.queue.waiting = [] ∧ later.depot.pending = 0
  /-- Nothing has been handed to the transport since, and nobody has anything to hand to it. -/
  sends : later.depot.sends = returned.depot.sends ∧ ∀ task ∈ later.tasks, task.isBatch = false
  /-- Whoever calls to start or to flush can answer at once, and answers no. -/
  denials : ∀ call, call = .start ∨ call = .flush →
    ∀ further, World.Reachable (later.called call) further →
      ∃ agent, further.callers[later.callers.length]? = some agent ∧
        (agent = (Agent.ofTasks []).reply false ∨
          ∀ choice, agent.step choice further.depot =
            some (further.depot, (Agent.ofTasks []).reply false))
  /-- Whoever is about to bring an event to the queue can do so at once, and loses it. -/
  losses : ∀ agent ∈ later.agents, ∀ event rest,
    agent.tasks = .offer event :: rest ∨ agent.tasks = .append event :: rest →
      ∀ choice, ∃ after, agent.step choice later.depot =
          some (after, { agent with tasks := .count .dropped :: rest }) ∧
        after.lostEvents = later.depot.lostEvents ++ [event] ∧ after.queue = later.depot.queue
  /-- Every call comes to its end, and whoever only hands in events neither waits on the way nor
  gives up. -/
  ends : ∀ caller ∈ later.callers,
    Comes later.depot.settings (fun done => done.tasks = []) caller ∧
      ((∀ task ∈ caller.tasks, task.isIntake = true) → caller.waits later.depot = false ∧
        ∀ choice after next, caller.step choice later.depot = some (after, next) →
          next.crash = caller.crash)
  /-- Whatever was in somebody's hands, or has been handed in since, is either still in somebody's
  hands or has been lost, and its loss is counted but for what is still owed. -/
  since : ∃ news, later.depot.submittedEvents = returned.depot.submittedEvents ++ news ∧
    (later.inHand ++ later.depot.lostEvents).Perm
      (returned.inHand ++ returned.depot.lostEvents ++ news) ∧
    Counts later.depot.tally.dropped (later.tasks.count (.count .dropped))
      later.depot.lostEvents.length
  counts : (∀ task ∈ later.tasks, task.isHalfDone = false) →
    later.depot.tally.submitted =
      later.depot.tally.eventsSent + later.depot.tally.eventsFailed + later.depot.tally.dropped

/-- Once the courier has been told to stop, a call to start or to flush only answers no. -/
theorem Deed.denied {depot after : Depot} {agent next : Agent} {task : Task}
    (deed : Deed depot agent task after next) (stopped : depot.stopped = true)
    (kind : task = .start ∨ task = .flush) : next = agent.reply false := by
  -- Neither task has another way than to answer no.
  rcases kind with rfl | rfl
  · rcases deed with intake | delivery | duty
    · cases intake
    · cases delivery
    · cases duty with
      | start early => simp [stopped] at early
      | startLate => rfl
  · rcases deed with intake | delivery | duty
    · cases intake
    · cases delivery
    · cases duty with
      | flush early => simp [stopped] at early
      | flushLate => rfl

/-- A call to start or to flush that comes after the end has not begun yet, or has answered no. -/
theorem World.denied {world : World} (stopped : world.depot.stopped = true) {call : Call}
    {task : Task} (only : call.tasks world.depot.settings = [task])
    (kind : task = .start ∨ task = .flush) {further : World}
    (on : World.Reachable (world.called call) further) :
    further.depot.stopped = true ∧
      ∃ agent, further.callers[world.callers.length]? = some agent ∧
        (agent = (Agent.ofTasks []).reply false ∨ agent = .ofTasks [task]) := by
  -- The only task of the call is done once, and the courier stays stopped.
  induction on with
  | refl =>
    refine ⟨stopped, .ofTasks [task], ?_, .inr rfl⟩
    simp [World.called, only]
  | step before change ih =>
    obtain ⟨stopped, agent, there, state⟩ := ih
    have turn := change.turn
    refine ⟨turn.stopped stopped, ?_⟩
    -- The caller rests, or does the first of its tasks.
    obtain ⟨after, there', rested | ⟨first, rest, same, deed⟩⟩ :=
      turn.caller_at_place there
    · subst rested
      exact ⟨after, there', state⟩
    · refine ⟨after, there', .inl ?_⟩
      -- Without a task there is nothing to do, and with one there is only that one.
      rcases state with done | fresh
      · simp [done, Agent.ofTasks, Agent.reply] at same
      · rw [fresh] at same
        obtain ⟨rfl, none⟩ := List.cons.inj (congrArg Agent.tasks same)
        rw [deed.denied stopped kind]
        -- The step leaves the caller with its answer only.
        have nothing : rest = .ofTasks [] := by
          cases rest
          simpa [Agent.ofTasks, eq_comm] using same
        rw [nothing]

/-- Whoever calls to start or to flush after the end can answer at once, and answers no. -/
theorem World.answers_no {world : World} (stopped : world.depot.stopped = true) {call : Call}
    (kind : call = .start ∨ call = .flush) {further : World}
    (on : World.Reachable (world.called call) further) :
    ∃ agent, further.callers[world.callers.length]? = some agent ∧
      (agent = (Agent.ofTasks []).reply false ∨
        ∀ choice, agent.step choice further.depot =
          some (further.depot, (Agent.ofTasks []).reply false)) := by
  -- Each of the two calls has a single task, which needs nothing but to know of the end.
  have only : ∃ task, call.tasks world.depot.settings = [task] ∧
      (task = .start ∨ task = .flush) := by
    rcases kind with rfl | rfl
    · exact ⟨.start, rfl, .inl rfl⟩
    · exact ⟨.flush, rfl, .inr rfl⟩
  obtain ⟨task, only, kind⟩ := only
  obtain ⟨stopped, agent, there, state⟩ := World.denied stopped only kind on
  refine ⟨agent, there, state.imp_right fun fresh choice => ?_⟩
  rcases kind with rfl | rfl <;>
    simp [fresh, Agent.ofTasks, Agent.step, Depot.act, stopped]

/-- Whoever brings an event to a closed queue loses it. -/
theorem Depot.append_closed (depot : Depot) (agent : Agent) (event : Event)
    (closed : depot.queue.closed = true) :
    depot.append agent event =
      (depot.note (.arrived event .refusedClosed), agent.push [.count .dropped]) := by
  -- The queue refuses it, which wakes nobody and is counted at once.
  simp [Depot.append, Queue.push, Queue.asks, Entry.counter, closed]

/-- Behind the end of the courier an event that is about to enter the queue is lost at once. -/
theorem Depot.loses {depot : Depot} (stopped : depot.stopped = true)
    (closed : depot.queue.closed = true) {agent : Agent} {event : Event} {rest : List Task}
    (bringing : agent.tasks = .offer event :: rest ∨ agent.tasks = .append event :: rest)
    (choice : Choice) :
    ∃ after, agent.step choice depot =
        some (after, { agent with tasks := .count .dropped :: rest }) ∧
      after.lostEvents = depot.lostEvents ++ [event] ∧ after.queue = depot.queue := by
  -- At the door it is turned away, and at the queue it is refused.
  rcases bringing with offering | appending
  · -- The courier has been stopped, so the event does not come to the queue.
    refine ⟨depot.note (.turnedAway event), ?_, ?_, rfl⟩
    · simp [Agent.step, offering, Depot.act, stopped, Agent.push]
    · simp [Depot.lostEvents, Depot.note, Occurrence.isTraffic]
  · -- It came that far before the stop, but the queue was closed since.
    refine ⟨depot.note (.arrived event .refusedClosed), ?_, ?_, rfl⟩
    · simp [Agent.step, appending, Depot.act, Depot.append_closed, closed, Agent.push]
    · simp [Depot.lostEvents, Depot.note, Occurrence.isTraffic]

namespace ShutdownInvariant

variable {returned later : World}

/-- After the end of the courier every event is in somebody's hands or has come to an end. -/
theorem perm_of_retired (shutdown : ShutdownInvariant later)
    (retired : CourierRetired later.depot) :
    later.depot.submittedEvents.Perm
      (later.inHand ++ later.depot.lostEvents ++ later.depot.deliveredEvents ++
        later.depot.failedEvents) := by
  -- Nothing waits in a closed queue, and nobody has a batch.
  obtain ⟨custody, sound, _⟩ := shutdown.core
  have flight := custody.inFlight_eq_nil retired.holder
  simpa [sound.shut retired.closed, flight] using shutdown.accounted.perm

/-- What is owed to the counts is part of the cargo. -/
theorem dropped_counts (shutdown : ShutdownInvariant later) :
    Counts later.depot.tally.dropped (later.tasks.count (.count .dropped))
      later.depot.lostEvents.length := by
  -- Counts are cargo, so that the ledger has them all.
  have counts := shutdown.accounted.ledger.dropped
  rwa [cargo, List.count_filter rfl] at counts

/-- When the courier is gone with all sealed, everything is concluded from then on. -/
theorem concluded (shutdown : ShutdownInvariant returned) (retired : CourierRetired returned.depot)
    (on : World.Reachable returned later) : Concluded returned later := by
  -- All that is told of the depot itself follows from the courier being gone for good.
  have shutdown' := shutdown.reachable on
  obtain ⟨custody, sound, announced⟩ := shutdown'.core
  have quiet := OnlyLosses.reachable shutdown.core retired on
  obtain ⟨holder, closed, phase⟩ := quiet.retired
  have stopped := announced.closed closed
  have waiting := sound.shut closed
  have pending : later.depot.pending = 0 := by
    rw [Depot.pending, sound.tracked, waiting]
    rfl
  constructor
  · exact phase
  · exact closed
  · exact ⟨waiting, pending⟩
  · exact ⟨quiet.sends, custody.unbatched holder⟩
  · exact fun call kind further on => World.answers_no stopped kind on
  · exact fun agent _ event rest bringing choice => Depot.loses stopped closed bringing choice
  · exact fun caller member => ⟨.back _ (List.append_nil _).symm (custody.finite member),
      fun handing => Agent.undisturbed handing later.depot⟩
  · -- Nothing is delivered or given up any more, so what comes in is in hand or lost.
    obtain ⟨news, grown⟩ := quiet.submitted
    refine ⟨news, grown, List.perm_iff_count.mpr fun event => ?_, shutdown'.dropped_counts⟩
    have before := (shutdown.perm_of_retired retired).count_eq event
    have after := (shutdown'.perm_of_retired quiet.retired).count_eq event
    rw [grown, quiet.delivered, quiet.failed] at after
    simp only [List.count_append] at before after ⊢
    omega
  · intro settled
    -- Nothing waits, and nothing is on its way.
    have counts := shutdown'.accounted.counts settled sound
    have flight := custody.inFlight_eq_nil holder
    simpa [pending, flight] using counts

end ShutdownInvariant

/-- The queue is open while the courier is at its desk, and for ever once it has been lost. -/
structure OpenUnlessTaken (depot : Depot) : Prop where
  desk : depot.holder = .desk → depot.queue.closed = false
  lost : depot.isManned = false → depot.queue.closed = false

namespace OpenUnlessTaken

/-- It is so in every depot that is opened. -/
theorem create (settings : Settings) (threshold : Threshold) (transportName sinkName : String)
    (wall : Timestamp) (script : Script) :
    OpenUnlessTaken (.create settings threshold transportName sinkName wall script) :=
  ⟨fun _ => rfl, fun _ => rfl⟩

/-- A turn leaves it so. -/
theorem turn {world next : World} (unclosed : OpenUnlessTaken world.depot)
    (custody : Custody world) (turn : Turn world next) : OpenUnlessTaken next.depot := by
  refine turn.preserves OpenUnlessTaken (fun _ _ _ => ⟨unclosed.desk, unclosed.lost⟩) ?_
  intro left right agent after task split deed
  -- Whoever closes the queue has the courier for good.
  have still (opened : world.depot.queue.closed = false)
      (home : world.depot.holder = .desk ∨ world.depot.holder = .nobody) :
      next.depot.queue.closed = false := by
    refine Bool.eq_false_iff.mpr fun shut => ?_
    rcases deed.closes shut with closed | ⟨timeout, rfl⟩
    · simp [opened] at closed
    · rcases custody.away_of_closeQueue split deed with away | away <;> simp [away] at home
  constructor
  · intro ready
    rcases deed.holder with same | ⟨before, _⟩ | ⟨_, released⟩
    · have before := same.symm.trans ready
      exact still (unclosed.desk before) (.inl before)
    · exact still (unclosed.desk before) (.inl before)
    · simp [released, Depot.release] at ready
  · intro lost
    cases manned : world.depot.isManned with
    -- It is lost now, from its desk, or it was lost before.
    | true =>
      have before := (deed.loses manned lost).1
      exact still (unclosed.desk before) (.inl before)
    | false => exact still (unclosed.lost manned) (.inr (custody.post.of_lost manned).1)

/-- It is so in whatever comes about. -/
theorem reachable {world later : World} (core : CoreInvariant world)
    (unclosed : OpenUnlessTaken world.depot) (on : World.Reachable world later) :
    OpenUnlessTaken later.depot :=
  -- A step closes the queue only for whoever takes the courier.
  core.induction (fun world => OpenUnlessTaken world.depot) unclosed
    (fun core unclosed change => unclosed.turn core.custody change) on

end OpenUnlessTaken

/-- A courier that was lost is lost for ever. -/
theorem CoreInvariant.lost {world later : World} (core : CoreInvariant world)
    (on : World.Reachable world later) (lost : world.depot.isManned = false) :
    later.depot.isManned = false := by
  refine core.induction (·.depot.isManned = false) lost (fun core lost turn => ?_) on
  -- Nobody mans it again, for a courier that is manned after a turn was manned before it.
  refine Bool.eq_false_iff.mpr fun manned => ?_
  rw [turn.manned core.custody manned] at lost
  cases lost

/-- With an endpoint, as soon as the first call to stop has answered that it stopped the courier,
and for ever after, the courier is in its last phase and the queue is closed and empty; nothing is
handed to the transport; whoever calls to start or to flush is told no; whatever is still on its way
to the queue, or is handed in later, is lost, and every call comes to its end; and the counts of
events sent, given up and lost make up the events handed in. It is so exactly when the courier has
not been lost to a start for which no thread could be had: then nobody closes the queue. -/
theorem shutdown_final {settings : Settings} (remote : settings.isRemote = true)
    {threshold : Threshold} {transportName sinkName : String} {wall : Timestamp}
    {script : Script} {world next returned later : World}
    (run : World.Reachable
      (.initial (.create settings threshold transportName sinkName wall script)) world)
    {place : Nat} (stops : World.StopsFirst place world next)
    (wait : World.Reachable next returned) {caller : Agent}
    (there : returned.callers[place]? = some caller) (answered : caller.answer = some true)
    (on : World.Reachable returned later) :
    Concluded returned later ↔ returned.depot.isManned = true := by
  have initial := ShutdownInvariant.initial remote threshold transportName sinkName wall script
  have shutdown := initial.reachable run
  have shutdown' := (shutdown.step stops.step).reachable wait
  constructor
  · -- A courier that was lost stays so, and behind it the queue stays open.
    intro concluded
    refine eq_true_of_ne_false fun lost => ?_
    have unclosed := (OpenUnlessTaken.create settings threshold transportName sinkName wall
      script).reachable initial.core (((run.step stops.step).trans wait).trans on)
    have opened := unclosed.lost (shutdown'.core.lost on lost)
    rw [concluded.closed] at opened
    cases opened
  · -- The courier was gone before the answer, and nothing brings it back.
    intro manned
    exact shutdown'.concluded (shutdown.retired_of_answer stops wait there answered manned) on

namespace World

/-- The world in which somebody has just stopped the courier, and has yet to take over. -/
def stopping (world : World) (timeout : Span) : World :=
  ⟨{ world.depot with stopped := true }, world.courier,
    world.callers ++ [.ofTasks [.takeOver timeout]]⟩

/-- Whoever calls to stop the courier while it has not been told to is the first to stop it. -/
theorem StopsFirst.ofCall (world : World) (timeout : Span) (first : world.depot.stopped = false) :
    StopsFirst world.callers.length (world.called (.stop timeout)) (world.stopping timeout) := by
  refine .caller .signal timeout [] rfl first ?_
  simp [Call.tasks, Agent.ofTasks, Agent.step, Depot.act, first, Agent.push]

/-- The world after somebody has stopped a courier without a thread. -/
def afterStop (world : World) (timeout : Span) : World :=
  let (depot, caller) :=
    (Agent.ofTasks [.takeOver timeout]).run 20 { world.depot with stopped := true }
  ⟨depot, world.courier, world.callers ++ [caller]⟩

/-- The rest of a stop is a way for the world to go. -/
theorem reachable_afterStop (world : World) (timeout : Span) :
    Reachable (world.stopping timeout) (world.afterStop timeout) :=
  reachable_caller_run world.courier world.callers [] 20 (.ofTasks [.takeOver timeout])
    { world.depot with stopped := true }

/-- A world in which somebody has stopped the courier while an event was waiting. -/
def dismissed : World :=
  (afterCalls .smooth [.submit default]).afterStop (.ofSeconds 5)

/-- A world in which somebody has handed in an event after the courier was stopped. -/
def forsaken : World :=
  (Session.mk dismissed.depot dismissed.courier).calls dismissed.callers [.submit default]

end World

/-- The event that waited was sent before the stop was answered, and the later one is lost. -/
theorem shutdown_final_forsaken :
    World.dismissed.depot.sends.length = 1 ∧
      World.forsaken.depot.sends = World.dismissed.depot.sends ∧
        World.forsaken.depot.tally.dropped = 1 ∧
          Concluded World.dismissed World.forsaken := by
  -- The first call stops a courier that was never started, so it makes the last flush itself.
  have concluded : Concluded World.dismissed World.forsaken :=
    (shutdown_final rfl
      ((World.reachable_afterCalls .smooth [.submit default]).step (.call _ (.stop (.ofSeconds 5))))
      (.ofCall _ _ (by decide +kernel)) (World.reachable_afterStop _ _)
      (show World.dismissed.callers[1]? = some ⟨[], false, some true, none⟩ by decide +kernel) rfl
      (Session.reachable_calls [.submit default] ⟨World.dismissed.depot, World.dismissed.courier⟩
        _)).mpr (by decide +kernel)
  exact ⟨by decide +kernel, concluded.sends.1, by decide +kernel, concluded⟩

/-- No thread can be had at first; all else succeeds. -/
def Script.threadless : Script :=
  ⟨[], [], [], [some "Resource temporarily unavailable (os error 11)"]⟩

namespace World

/-- A world in which the courier was lost for want of a thread before an event was handed in. -/
def deserted : World :=
  afterCalls .threadless [.start, .submit default]

/-- A world in which somebody has stopped the courier after it was lost. -/
def stranded : World :=
  deserted.afterStop (.ofSeconds 5)

end World

/-- The first stop answers that it stopped the courier, but the event waits in an open queue. -/
theorem stranded_not_concluded :
    World.Reachable (.initial (.plain .threadless)) (World.deserted.called (.stop (.ofSeconds 5))) ∧
      World.StopsFirst 2 (World.deserted.called (.stop (.ofSeconds 5)))
        (World.deserted.stopping (.ofSeconds 5)) ∧
      World.Reachable (World.deserted.stopping (.ofSeconds 5)) World.stranded ∧
      World.stranded.callers.map (·.answer) = [some false, none, some true] ∧
      World.stranded.depot.phase = .stopped ∧ World.stranded.depot.queue.closed = false ∧
      World.stranded.depot.pending = 1 ∧ World.stranded.depot.tally.submitted = 1 ∧
      World.stranded.depot.tally.dropped = 0 ∧ ¬ Concluded World.stranded World.stranded := by
  have two : World.deserted.callers.length = 2 := by decide +kernel
  have opened : World.stranded.depot.queue.closed = false := by decide +kernel
  refine ⟨(World.reachable_afterCalls _ _).step (.call _ _),
    two ▸ .ofCall _ _ (by decide +kernel), World.reachable_afterStop _ _, by decide +kernel,
    by decide +kernel, opened, by decide +kernel, by decide +kernel, by decide +kernel,
    fun concluded => ?_⟩
  -- Were all concluded, the queue would be closed.
  rw [concluded.closed] at opened
  cases opened

end LogCourier
