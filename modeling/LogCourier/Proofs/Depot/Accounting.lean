import LogCourier.Proofs.Depot.Traffic

/-!
Accounting: every event that is handed in is in exactly one place, and the counts say so.

An event is in the hands of a caller, waits, travels in a batch, is lost, or was in a batch that was
delivered or given up. The counts follow these places, apart from what is still owed.
-/

namespace LogCourier

namespace Occurrence

/-- The event that was handed in, if one was. -/
@[simp] def submittedEvents : Occurrence → List Event
  | .submitted event => [event]
  | _ => []

/-- The event that was lost before it came into a batch, if one was. -/
@[simp] def lostEvents : Occurrence → List Event
  | .turnedAway event => [event]
  | .arrived event .refusedFull => [event]
  | .arrived event .refusedClosed => [event]
  | .evicted event => [event]
  | _ => []

/-- The events that were delivered, if any were. -/
@[simp] def deliveredEvents : Occurrence → List Event
  | .ended batch .ok => batch
  | _ => []

/-- The events that were given up with their batch, if any were. -/
@[simp] def failedEvents : Occurrence → List Event
  | .ended batch (.failed _) => batch
  | .ended batch (.crashed _) => batch
  | _ => []

end Occurrence

namespace Depot

/-- All events that have been handed in. -/
def submittedEvents (depot : Depot) : List Event :=
  (traffic depot.journal).flatMap Occurrence.submittedEvents

/-- All events that were lost before they came into a batch. -/
def lostEvents (depot : Depot) : List Event :=
  (traffic depot.journal).flatMap Occurrence.lostEvents

/-- All events that have been delivered. -/
def deliveredEvents (depot : Depot) : List Event :=
  (traffic depot.journal).flatMap Occurrence.deliveredEvents

/-- All events that were given up with their batch. -/
def failedEvents (depot : Depot) : List Event :=
  (traffic depot.journal).flatMap Occurrence.failedEvents

end Depot

namespace Task

/-- The event that a task is about to bring to the queue. -/
@[simp] def inHand : Task → List Event
  | .offer event => [event]
  | .append event => [event]
  | _ => []

/-- Whether a task belongs to a submission that is not yet accounted for. -/
def isHalfDone : Task → Bool
  | .offer _ | .append _ => true
  | .count .submitted | .count .dropped => true
  | _ => false

end Task

/-- A word counts up to a number, but for what is still owed. -/
def Counts (word : UInt64) (owed total : Nat) : Prop :=
  -- What is owed is not in the word yet, and the word wraps around.
  ∃ counted, word = UInt64.ofNat counted ∧ counted + owed = total

/-- More is counted, or owed, as the total grows. -/
theorem Counts.grow {word : UInt64} {owed total more owed' grown : Nat}
    (counts : Counts word owed total) (sum : more + owed' = owed + grown) :
    Counts (word + UInt64.ofNat more) owed' (total + grown) := by
  -- Words count modulo their size, and the true numbers add up.
  obtain ⟨counted, rfl, total⟩ := counts
  exact ⟨counted + more, by simp, by omega⟩

/-- What a change of the depot tells of events agrees with where they are and what is counted. -/
structure EventsBooked (before after : Depot) (old new : List Task) (news : List Occurrence) :
    Prop where
  told : traffic after.journal = traffic before.journal ++ news
  /-- Every event goes from one place to another. -/
  places : ∀ event, (news.flatMap Occurrence.submittedEvents).count event +
      (old.flatMap Task.inHand).count event + before.queue.waiting.count event +
        (old.flatMap Task.batch).count event =
    (new.flatMap Task.inHand).count event + after.queue.waiting.count event +
      (new.flatMap Task.batch).count event + (news.flatMap Occurrence.lostEvents).count event +
        (news.flatMap Occurrence.deliveredEvents).count event +
          (news.flatMap Occurrence.failedEvents).count event
  submitted : ∃ more, after.tally.submitted = before.tally.submitted + UInt64.ofNat more ∧
    more + new.count (.count .submitted) =
      old.count (.count .submitted) + (news.flatMap Occurrence.submittedEvents).length
  dropped : ∃ more, after.tally.dropped = before.tally.dropped + UInt64.ofNat more ∧
    more + new.count (.count .dropped) =
      old.count (.count .dropped) + (news.flatMap Occurrence.lostEvents).length
  sent : after.tally.eventsSent =
    before.tally.eventsSent + UInt64.ofNat (news.flatMap Occurrence.deliveredEvents).length
  failed : after.tally.eventsFailed =
    before.tally.eventsFailed + UInt64.ofNat (news.flatMap Occurrence.failedEvents).length

/-- Every move is booked. -/
theorem Move.booked {before after : Depot} {old new : List Task}
    (move : Move before after old new) : ∃ news, EventsBooked before after old new news := by
  -- Each move tells of its event or its batch once, and counts it once or leaves the count owed.
  cases move with
  | still told same totals =>
    -- Nothing is told, counted or moved.
    obtain ⟨submitted, dropped, sent, failed⟩ := totals
    exact ⟨[], by simpa using told, by simp [same], ⟨0, by simp [submitted], rfl⟩,
      ⟨0, by simp [dropped], rfl⟩, by simp [sent], by simp [failed]⟩
  | submit event told same tally =>
    -- The event comes into somebody's hands, and is counted at once.
    refine ⟨_, told, fun other => ?_, ⟨1, ?_, rfl⟩, ⟨0, ?_, rfl⟩, ?_, ?_⟩
    · simp [same, Task.batch]
    all_goals simp [tally, Tally.count]
  | turnAway event late told same tally =>
    -- From here on the loss is told, and its count is owed.
    refine ⟨_, told, fun other => ?_, ⟨0, ?_, rfl⟩, ⟨0, ?_, rfl⟩, ?_, ?_⟩
    · simp [same, Task.batch]
      omega
    all_goals simp [tally]
  | offer event early told same tally =>
    refine ⟨[], by simpa using told, fun other => ?_, ⟨0, ?_, rfl⟩, ⟨0, ?_, rfl⟩, ?_, ?_⟩
    · simp [same, Task.batch]
    all_goals simp [tally]
  | refuse event entry reason told same tally =>
    -- Refused by a closed queue or by a full one, the event is lost in the same way.
    rcases reason with ⟨rfl, _⟩ | ⟨rfl, _⟩
    all_goals
      refine ⟨_, told, fun other => ?_, ⟨0, ?_, rfl⟩, ⟨0, ?_, rfl⟩, ?_, ?_⟩
      · simp [same, Task.batch]
        omega
      all_goals simp [tally]
  | enter event opened told longer tally =>
    refine ⟨_, told, fun other => ?_, ⟨0, ?_, rfl⟩, ⟨0, ?_, rfl⟩, ?_, ?_⟩
    · simp [longer, Task.batch]
      omega
    all_goals simp [tally]
  | shift event oldest rest opened bounded told full moved tally =>
    -- The oldest event is lost for the new one.
    refine ⟨_, told, fun other => ?_, ⟨0, ?_, rfl⟩, ⟨0, ?_, rfl⟩, ?_, ?_⟩
    · simp [full, moved, Task.batch, List.count_cons]
      omega
    all_goals simp [tally]
  | drain timeout told occupied empty tally =>
    -- All that waits comes into a batch.
    refine ⟨[], by simpa using told, fun other => ?_, ⟨0, ?_, rfl⟩, ⟨0, ?_, rfl⟩, ?_, ?_⟩
    · simp [empty, Task.batch]
    all_goals simp [tally]
  | send batch timeout wasSending outcome told same tally =>
    refine ⟨_, told, fun other => ?_, ⟨0, ?_, rfl⟩, ⟨0, ?_, rfl⟩, ?_, ?_⟩
    · simp [same, Task.batch]
    all_goals simp [tally]
  | deliver batch wasSending told same tally =>
    refine ⟨_, told, fun other => ?_, ⟨0, ?_, rfl⟩, ⟨0, ?_, rfl⟩, ?_, ?_⟩
    · simp [same, Task.batch]
    all_goals simp [tally, Tally.delivered]
  | fail batch wasSending outcome failed told same tally =>
    -- Only a failure ends here; it makes no difference which one.
    cases outcome with
    | ok => exact absurd rfl failed
    | _ =>
      refine ⟨_, told, fun other => ?_, ⟨0, ?_, rfl⟩, ⟨0, ?_, rfl⟩, ?_, ?_⟩
      · simp [same, Task.batch]
      all_goals simp [tally, Tally.failed]
  | count counter told same tally =>
    -- A count of submissions or of losses pays what was owed, and others owe nothing.
    refine ⟨[], by simpa using told, by simp [same, Task.batch], ?_, ?_, ?_, ?_⟩
    · cases counter
      case submitted => exact ⟨1, by simp [tally, Tally.count], rfl⟩
      all_goals exact ⟨0, by simp [tally, Tally.count], rfl⟩
    · cases counter
      case dropped => exact ⟨1, by simp [tally, Tally.count], rfl⟩
      all_goals exact ⟨0, by simp [tally, Tally.count], rfl⟩
    all_goals cases counter <;> simp [tally, Tally.count]

/-- The places of all events and the counts of them, for a depot and the cargo outside it. -/
structure Ledger (depot : Depot) (held : List Task) : Prop where
  places : ∀ event, depot.submittedEvents.count event =
    (held.flatMap Task.inHand).count event + depot.queue.waiting.count event +
      (held.flatMap Task.batch).count event + depot.lostEvents.count event +
        depot.deliveredEvents.count event + depot.failedEvents.count event
  submitted : Counts depot.tally.submitted (held.count (.count .submitted))
    depot.submittedEvents.length
  dropped : Counts depot.tally.dropped (held.count (.count .dropped)) depot.lostEvents.length
  sent : depot.tally.eventsSent = UInt64.ofNat depot.deliveredEvents.length
  failed : depot.tally.eventsFailed = UInt64.ofNat depot.failedEvents.length

/-- A move of events keeps the ledger, whatever other cargo there is. -/
theorem Ledger.move {before after : Depot} {old new upper lower : List Task}
    (ledger : Ledger before (upper ++ old ++ lower)) (move : Move before after old new) :
    Ledger after (upper ++ new ++ lower) := by
  -- What is booked of the move is added to what was in the ledger.
  obtain ⟨places, submitted, dropped, sent, failed⟩ := ledger
  obtain ⟨news, booked⟩ := move.booked
  have submitted' : after.submittedEvents =
      before.submittedEvents ++ news.flatMap Occurrence.submittedEvents := by
    simp [Depot.submittedEvents, booked.told]
  have lost' : after.lostEvents = before.lostEvents ++ news.flatMap Occurrence.lostEvents := by
    simp [Depot.lostEvents, booked.told]
  have delivered' : after.deliveredEvents =
      before.deliveredEvents ++ news.flatMap Occurrence.deliveredEvents := by
    simp [Depot.deliveredEvents, booked.told]
  have failed' : after.failedEvents =
      before.failedEvents ++ news.flatMap Occurrence.failedEvents := by
    simp [Depot.failedEvents, booked.told]
  -- Event by event, what was in the ledger and what is booked add up.
  constructor
  · intro event
    have earlier := places event
    have moved := booked.places event
    simp only [submitted', lost', delivered', failed', List.flatMap_append, List.count_append]
      at earlier ⊢
    omega
  · obtain ⟨more, word, sum⟩ := booked.submitted
    -- What is booked goes from the debt to the word, or from the event to the debt.
    rw [word, submitted', List.length_append]
    refine submitted.grow ?_
    simp only [List.count_append]
    omega
  · obtain ⟨more, word, sum⟩ := booked.dropped
    rw [word, lost', List.length_append]
    refine dropped.grow ?_
    simp only [List.count_append]
    omega
  · rw [booked.sent, sent, delivered', List.length_append, UInt64.ofNat_add]
  · rw [booked.failed, failed, failed', List.length_append, UInt64.ofNat_add]

/-- Where a batch is moved there is no other, so there are never two. -/
theorem Move.single {before after : Depot} {old new upper lower : List Task}
    (move : Move before after old new)
    (alone : (∃ moved ∈ old ++ new, moved.isBatch = true) →
      ∀ other ∈ upper ++ lower, other.isBatch = false)
    (single : (upper ++ old ++ lower).countP Task.isBatch ≤ 1) :
    (upper ++ new ++ lower).countP Task.isBatch ≤ 1 := by
  -- A move leaves at most one task, so only the others could be too many.
  have short : new.length ≤ 1 := by cases move <;> simp
  have few : new.countP Task.isBatch ≤ new.length := List.countP_le_length
  simp only [List.countP_append] at single ⊢
  by_cases moved : ∃ moved ∈ old ++ new, moved.isBatch = true
  · -- Whoever moves a batch leaves at most one, and there is no other.
    have none := alone moved
    have above : upper.countP Task.isBatch = 0 :=
      List.countP_eq_zero.mpr fun other member => by simp [none other (by simp [member])]
    have below : lower.countP Task.isBatch = 0 :=
      List.countP_eq_zero.mpr fun other member => by simp [none other (by simp [member])]
    omega
  · -- Otherwise the move leaves none, and there were few before.
    have unbatched : new.countP Task.isBatch = 0 :=
      List.countP_eq_zero.mpr fun task member batch => moved ⟨task, by simp [member], batch⟩
    omega

/-- What only cargo has can be gathered from the cargo. -/
theorem flatMap_cargo {α : Type} {pick : Task → List α}
    (none : ∀ task : Task, task.isCargo = false → pick task = []) (tasks : List Task) :
    (cargo tasks).flatMap pick = tasks.flatMap pick :=
  flatMap_filter_of_nil fun task _ => none task

/-- Batches are cargo. -/
theorem countP_isBatch_cargo (tasks : List Task) :
    (cargo tasks).countP Task.isBatch = tasks.countP Task.isBatch := by
  -- What is a batch is cargo, so that filtering leaves it in place.
  rw [cargo, List.countP_filter]
  refine List.countP_congr fun task _ => ?_
  cases task <;> simp [Task.isBatch, Task.isCargo]

namespace World

/-- The events that callers are about to bring to the queue. -/
def inHand (world : World) : List Event :=
  world.tasks.flatMap Task.inHand

/-- The events in a batch that has been taken and is not yet counted. -/
def inFlight (world : World) : List Event :=
  world.tasks.flatMap Task.batch

end World

/-- The ledger of a world holds, and it has at most one batch. -/
structure EventsAccounted (world : World) : Prop where
  ledger : Ledger world.depot (cargo world.tasks)
  single : (cargo world.tasks).countP Task.isBatch ≤ 1

namespace EventsAccounted

/-- Before anything has happened there is nothing to account for. -/
theorem initial (settings : Settings) (threshold : Threshold) (transportName sinkName : String)
    (wall : Timestamp) (script : Script) :
    EventsAccounted (.initial (.create settings threshold transportName sinkName wall script)) where
  ledger := ⟨fun _ => rfl, ⟨0, rfl, rfl⟩, ⟨0, rfl, rfl⟩, rfl, rfl⟩
  -- The courier begins with nothing in its hands.
  single := by simp [Task.isCargo]

/-- A turn keeps a world accounted for. -/
theorem turn {world next : World} (accounted : EventsAccounted world) (core : CoreInvariant world)
    (turn : Turn world next) : EventsAccounted next := by
  -- The cargo of all agents is that of the move, between what the move leaves alone.
  obtain ⟨ledger, single⟩ := accounted
  obtain ⟨old, new, upper, lower, move, took, put, alone⟩ :=
    turn.move core.custody core.sound
  rw [took] at ledger single
  constructor
  · rw [put]
    -- The ledger holds for the whole world, whoever acts in it.
    exact ledger.move move
  · rw [put]
    exact move.single alone single

/-- Every world that comes about is accounted for. -/
theorem reachable {settings : Settings} (remote : settings.isRemote = true)
    {threshold : Threshold} {transportName sinkName : String} {wall : Timestamp}
    {script : Script} {world : World}
    (run : World.Reachable
      (.initial (.create settings threshold transportName sinkName wall script)) world) :
    EventsAccounted world :=
  -- Induction on the run, next to the core of the invariant.
  (CoreInvariant.initial remote ..).induction EventsAccounted (initial ..)
    (fun core accounted change => accounted.turn core change) run

variable {world : World}

/-- Every event that was handed in is in exactly one place. -/
theorem perm (accounted : EventsAccounted world) :
    world.depot.submittedEvents.Perm
      (world.inHand ++ world.depot.queue.waiting ++ world.inFlight ++ world.depot.lostEvents ++
        world.depot.deliveredEvents ++ world.depot.failedEvents) := by
  -- Every event is as often among the places as it was handed in.
  refine List.perm_iff_count.mpr fun event => ?_
  -- Events are in hand or on their way only as cargo.
  have hand : (cargo world.tasks).flatMap Task.inHand = world.inHand :=
    flatMap_cargo (fun task other => by cases task <;> first | rfl | cases other) _
  have flight : (cargo world.tasks).flatMap Task.batch = world.inFlight :=
    flatMap_cargo (fun task other => by cases task <;> first | rfl | cases other) _
  have places := accounted.ledger.places event
  rw [hand, flight] at places
  simp only [List.count_append]
  exact places

/-- There is at most one batch on its way. -/
theorem single_batch (accounted : EventsAccounted world) : world.tasks.countP Task.isBatch ≤ 1 := by
  rw [← countP_isBatch_cargo]
  exact accounted.single

/-- The counts add up, unless a submission is half done. -/
theorem counts (accounted : EventsAccounted world)
    (settled : ∀ task ∈ world.tasks, task.isHalfDone = false) (sound : world.depot.queue.Sound) :
    world.depot.tally.submitted =
      world.depot.tally.eventsSent + world.depot.tally.eventsFailed + world.depot.tally.dropped +
        UInt64.ofNat world.depot.pending + UInt64.ofNat world.inFlight.length := by
  -- Then nothing is owed, nobody has an event in hand, and the places can be counted.
  -- A submission is half done as long as a count is owed or an event is in hand.
  have unowed : ∀ counter, (Task.count counter).isHalfDone = true →
      (cargo world.tasks).count (.count counter) = 0 := by
    intro counter half
    refine List.count_eq_zero.mpr fun member => ?_
    simp [settled _ (List.mem_filter.mp member).1] at half
  have empty : world.inHand = [] := by
    refine List.flatMap_eq_nil_iff.mpr fun task member => ?_
    have whole := settled task member
    cases task <;> first | rfl | cases whole
  obtain ⟨submitted, submittedWord, submittedSum⟩ := accounted.ledger.submitted
  obtain ⟨dropped, droppedWord, droppedSum⟩ := accounted.ledger.dropped
  rw [unowed _ rfl] at submittedSum droppedSum
  -- The lengths of the places make up that of what was handed in.
  have total : submitted = world.depot.deliveredEvents.length + world.depot.failedEvents.length +
      dropped + world.depot.queue.waiting.length + world.inFlight.length := by
    have lengths := accounted.perm.length_eq
    simp only [empty, List.length_append, List.length_nil] at lengths
    omega
  rw [submittedWord, droppedWord, accounted.ledger.sent, accounted.ledger.failed, Depot.pending,
    sound.tracked, total]
  simp only [UInt64.ofNat_add]

end EventsAccounted

/-- With an endpoint every event that was handed in is, at any time, in exactly one place: in
somebody's hands, waiting, in the only batch on its way, lost, delivered or given up. Unless a
submission is half done, the counts say the same. -/
theorem events_accounted_for {settings : Settings} (remote : settings.isRemote = true)
    {threshold : Threshold} {transportName sinkName : String} {wall : Timestamp}
    {script : Script} {world : World}
    (run : World.Reachable
      (.initial (.create settings threshold transportName sinkName wall script)) world) :
    world.depot.submittedEvents.Perm
        (world.inHand ++ world.depot.queue.waiting ++ world.inFlight ++ world.depot.lostEvents ++
          world.depot.deliveredEvents ++ world.depot.failedEvents) ∧
      world.tasks.countP Task.isBatch ≤ 1 ∧
      ((∀ task ∈ world.tasks, task.isHalfDone = false) →
        world.depot.tally.submitted =
          world.depot.tally.eventsSent + world.depot.tally.eventsFailed +
            world.depot.tally.dropped + UInt64.ofNat world.depot.pending +
              UInt64.ofNat world.inFlight.length) := by
  -- The ledger is kept by every turn.
  have accounted := EventsAccounted.reachable remote run
  have core :=
    (CoreInvariant.initial remote threshold transportName sinkName wall script).reachable run
  exact ⟨accounted.perm, accounted.single_batch,
    fun settled => accounted.counts settled core.sound⟩

/-- Settings with an endpoint under which nothing happens by itself. -/
def Settings.plain : Settings where
  endpoint := some "http://localhost:8080"
  origin := .unknown
  publishInterval := .ofSeconds 30
  minBatch := 1
  maxBatch := 2
  sendTimeout := .ofSeconds 20
  compression := .none
  echo := false
  lineFormat := .text
  overflow := .unbounded
  autoStart := false
  shutdownTimeout := .ofSeconds 5

/-- A depot with an endpoint whose foreign code follows a script. -/
def Depot.plain (script : Script) : Depot :=
  .create .plain default "transport" "sink" default script

namespace Session

/-- A session over a fresh depot in which somebody makes several calls, and those who did. -/
def calls (session : Session) (callers : List Agent) : List Call → World
  | [] => session.world callers
  | call :: rest =>
    (session.call call).1.calls (callers ++ [(session.call call).2]) rest

/-- Several calls in a session are a way for the world to go. -/
theorem reachable_calls (calls : List Call) :
    ∀ (session : Session) (callers : List Agent),
      (session.world callers).Reachable (session.calls callers calls) := by
  -- The calls are made one after the other.
  induction calls with
  | nil => intro session callers; exact .refl
  | cons call rest ih =>
    -- Each call joins those who have called before.
    intro session callers
    rw [Session.calls]
    exact (reachable_call session callers call).trans (ih _ _)

end Session

namespace World

/-- The world after several calls, one after the other, to a courier under a script. -/
def afterCalls (script : Script) (calls : List Call) : World :=
  (Session.mk (.plain script) .courier).calls [] calls

/-- Calls are a way for the world to go. -/
theorem reachable_afterCalls (script : Script) (calls : List Call) :
    World.Reachable (.initial (.plain script)) (afterCalls script calls) :=
  Session.reachable_calls calls ⟨.plain script, .courier⟩ []

/-- A world in which a batch was rejected, and the transport logged meanwhile. -/
def rejected : World :=
  afterCalls ⟨[⟨[], [(.info, "busy")], false, .failed (.other "rejected")⟩], [], [], []⟩
    [.submit default, .flush]

end World

/-- After a rejected batch the counts add up to two events: one given up and one that waits. -/
theorem events_accounted_for_rejected :
    World.rejected.depot.tally.submitted = 2 ∧
      World.rejected.depot.tally.submitted =
        World.rejected.depot.tally.eventsSent + World.rejected.depot.tally.eventsFailed +
          World.rejected.depot.tally.dropped + UInt64.ofNat World.rejected.depot.pending +
            UInt64.ofNat World.rejected.inFlight.length :=
  ⟨by decide +kernel,
    (events_accounted_for rfl (World.reachable_afterCalls _ _)).2.2 (by decide +kernel)⟩

end LogCourier
