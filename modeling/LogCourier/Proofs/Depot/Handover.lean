import LogCourier.Proofs.Depot.Accounting

/-!
Handover: events reach the transport once each, in the order in which they entered the queue.

The queue is a line: events enter at its end, and leave at its front into a batch or, when they are
evicted, for good. What has been handed over is what has left the front and was not evicted.
-/

namespace LogCourier

/-- A list consists of two others that keep their order. -/
inductive Interleaving {α : Type} : List α → List α → List α → Prop where
  | nil : Interleaving [] [] []
  | left (item : α) {left right whole : List α} (rest : Interleaving left right whole) :
      Interleaving (item :: left) right (item :: whole)
  | right (item : α) {left right whole : List α} (rest : Interleaving left right whole) :
      Interleaving left (item :: right) (item :: whole)

namespace Interleaving

variable {α : Type} {left right whole : List α}

/-- More of the first list may follow the whole. -/
theorem append_left (parts : Interleaving left right whole) (more : List α) :
    Interleaving (left ++ more) right (whole ++ more) := by
  -- Induction along the whole: what is added comes after all of it.
  induction parts with
  | nil =>
    induction more with
    | nil => exact .nil
    | cons item _ ih => exact .left item ih
  | left item _ ih => exact .left item ih
  | right item _ ih => exact .right item ih

/-- More of the second list may follow the whole. -/
theorem append_right (parts : Interleaving left right whole) (more : List α) :
    Interleaving left (right ++ more) (whole ++ more) := by
  -- Induction along the whole: what is added comes after all of it.
  induction parts with
  | nil =>
    induction more with
    | nil => exact .nil
    | cons item _ ih => exact .right item ih
  | left item _ ih => exact .left item ih
  | right item _ ih => exact .right item ih

/-- The whole has exactly the items of the two. -/
theorem perm (parts : Interleaving left right whole) : whole.Perm (left ++ right) := by
  -- Induction on the way the two are put together.
  induction parts with
  | nil => exact .nil
  | left item _ ih => exact ih.cons item
  | right item _ ih => exact (ih.cons item).trans List.perm_middle.symm

end Interleaving

namespace Occurrence

/-- The event that entered the queue, if one did. -/
@[simp] def admittedEvents : Occurrence → List Event
  | .arrived event .appended => [event]
  | .arrived event .displacing => [event]
  | _ => []

/-- The event that was evicted from the queue, if one was. -/
@[simp] def evictedEvents : Occurrence → List Event
  | .evicted event => [event]
  | _ => []

/-- The event that never entered the queue, if one did not. -/
@[simp] def rejectedEvents : Occurrence → List Event
  | .turnedAway event => [event]
  | .arrived event .refusedFull => [event]
  | .arrived event .refusedClosed => [event]
  | _ => []

/-- The events that were handed to the transport, if any were. -/
@[simp] def handedEvents : Occurrence → List Event
  | .sent batch .. => batch
  | _ => []

end Occurrence

namespace Depot

/-- All events that have entered the queue, in the order in which they did. -/
def admittedEvents (depot : Depot) : List Event :=
  (traffic depot.journal).flatMap Occurrence.admittedEvents

/-- All events that have been evicted from the queue. -/
def evictedEvents (depot : Depot) : List Event :=
  (traffic depot.journal).flatMap Occurrence.evictedEvents

/-- All events that were turned away or refused before they entered the queue. -/
def rejectedEvents (depot : Depot) : List Event :=
  (traffic depot.journal).flatMap Occurrence.rejectedEvents

/-- The events of all batches that have been handed to the transport, batch by batch. -/
def handedEvents (depot : Depot) : List Event :=
  (traffic depot.journal).flatMap Occurrence.handedEvents

end Depot

namespace Task

/-- The events of a batch that has been taken and not yet been handed to the transport. -/
@[simp] def unsent : Task → List Event
  | .send batch _ => batch
  | _ => []

end Task

/-- The order of the line, for a depot and the cargo outside it. -/
structure LineOrdered (depot : Depot) (held : List Task) : Prop where
  /-- What has left the front of the line was taken for a batch, or evicted. -/
  line : ∃ front, depot.admittedEvents = front ++ depot.queue.waiting ∧
    Interleaving (depot.handedEvents ++ held.flatMap Task.unsent) depot.evictedEvents front
  /-- Every event that was handed in is in somebody's hands, was rejected or entered the line. -/
  entrance : ∀ event, depot.submittedEvents.count event =
    (held.flatMap Task.inHand).count event + depot.rejectedEvents.count event +
      depot.admittedEvents.count event
  payloads : ∀ batch payload timeout sending,
    Occurrence.sent batch payload timeout sending ∈ traffic depot.journal →
      payload = Payload.encode batch depot.settings.compression
  /-- Without a ceiling nothing is lost before the courier is stopped. -/
  patient : depot.queue.overflow = .unbounded → depot.stopped = false →
    depot.rejectedEvents = [] ∧ depot.evictedEvents = []

section

variable {before after : Depot} {old new upper lower : List Task}

/-- A batch is moved only where nobody has another one that is unsent. -/
theorem unsent_eq_nil {tasks : List Task} (none : ∀ other ∈ tasks, other.isBatch = false) :
    tasks.flatMap Task.unsent = [] := by
  -- Only a batch has events that are unsent.
  refine List.flatMap_eq_nil_iff.mpr fun task member => ?_
  have unbatched := none task member
  cases task <;> first | rfl | cases unbatched

/-- A move of events keeps the order of the line. -/
theorem Move.line (move : Move before after old new)
    (alone : (∃ moved ∈ old ++ new, moved.isBatch = true) →
      ∀ other ∈ upper ++ lower, other.isBatch = false)
    (line : ∃ front, before.admittedEvents = front ++ before.queue.waiting ∧
      Interleaving (before.handedEvents ++ (upper ++ old ++ lower).flatMap Task.unsent)
        before.evictedEvents front) :
    ∃ front, after.admittedEvents = front ++ after.queue.waiting ∧
      Interleaving (after.handedEvents ++ (upper ++ new ++ lower).flatMap Task.unsent)
        after.evictedEvents front := by
  -- Events enter at the end, leave at the front, and go on to the transport only from there.
  obtain ⟨front, admitted, parts⟩ := line
  unfold Depot.admittedEvents Depot.handedEvents Depot.evictedEvents at *
  cases move with
  | enter event opened told longer =>
    -- The line grows at its end.
    refine ⟨front, ?_, ?_⟩
    · simp [told, longer, admitted]
    · simpa [told] using parts
  | shift event oldest rest opened bounded told full moved =>
    -- The oldest event leaves the front, and counts among the evicted ones.
    refine ⟨front ++ [oldest], ?_, ?_⟩
    · simp [told, moved, admitted, full]
    · simpa [told] using parts.append_right [oldest]
  | drain timeout told occupied empty =>
    -- All that waits leaves the front, and follows what was handed over before.
    have none := alone ⟨.send before.queue.waiting timeout, by simp, rfl⟩
    have above := unsent_eq_nil fun other member => none other (List.mem_append_left _ member)
    have below := unsent_eq_nil fun other member => none other (List.mem_append_right _ member)
    refine ⟨front ++ before.queue.waiting, ?_, ?_⟩
    · simp [told, empty, admitted]
    · simpa [told, above, below] using parts.append_left before.queue.waiting
  | send batch timeout wasSending outcome told same =>
    -- What was unsent is handed over now, so the two together stay the same.
    have none := alone ⟨.send batch timeout, by simp, rfl⟩
    have above := unsent_eq_nil fun other member => none other (List.mem_append_left _ member)
    have below := unsent_eq_nil fun other member => none other (List.mem_append_right _ member)
    refine ⟨front, ?_, ?_⟩
    · simp [told, same, admitted]
    · simpa [told, above, below] using parts
  | refuse event entry reason told same =>
    -- What is refused never comes into the line.
    refine ⟨front, ?_, ?_⟩
    · rcases reason with ⟨rfl, _⟩ | ⟨rfl, _⟩ <;> simp [told, same, admitted]
    · simpa [told] using parts
  | still told same | submit _ told same | turnAway _ _ told same | offer _ _ told same
    | deliver _ _ told same | fail _ _ _ _ told same | count _ told same =>
    refine ⟨front, ?_, ?_⟩
    · simp [told, same, admitted]
    · simpa [told] using parts

/-- A move takes an event to the entrance, or through it, or turns it back there. -/
theorem Move.entrance (move : Move before after old new) (event : Event)
    (entrance : before.submittedEvents.count event =
      ((upper ++ old ++ lower).flatMap Task.inHand).count event +
        before.rejectedEvents.count event + before.admittedEvents.count event) :
    after.submittedEvents.count event =
      ((upper ++ new ++ lower).flatMap Task.inHand).count event +
        after.rejectedEvents.count event + after.admittedEvents.count event := by
  -- Only handing in, turning away, refusing and entering tell of the entrance.
  unfold Depot.submittedEvents Depot.rejectedEvents Depot.admittedEvents at *
  cases move with
  | refuse _ entry reason told =>
    -- The event was in somebody's hands, and is rejected for either reason.
    rcases reason with ⟨rfl, _⟩ | ⟨rfl, _⟩
    all_goals
      simp [told, List.count_cons] at entrance ⊢
      omega
  | enter _ _ told | shift _ _ _ _ _ told | submit _ told | turnAway _ _ told =>
    simp [told, List.count_cons] at entrance ⊢
    omega
  | still told | count _ told | offer _ _ told | drain _ told | send _ _ _ _ told
    | deliver _ _ told | fail _ _ _ _ told => simpa [told] using entrance

/-- A move hands over nothing but the payload of its batch. -/
theorem Move.payloads (move : Move before after old new) {settings : Settings}
    (same : before.settings = settings)
    (payloads : ∀ batch payload timeout sending,
      Occurrence.sent batch payload timeout sending ∈ traffic before.journal →
        payload = Payload.encode batch settings.compression) :
    ∀ batch payload timeout sending,
      Occurrence.sent batch payload timeout sending ∈ traffic after.journal →
        payload = Payload.encode batch settings.compression := by
  -- Only a send tells of a payload, and it encodes its own batch.
  intro batch payload timeout sending member
  have earlier := payloads batch payload timeout sending
  cases move with
  | send other _ _ _ told =>
    simp only [told, List.mem_append, List.mem_singleton, Occurrence.sent.injEq] at member
    rcases member with member | ⟨rfl, rfl, _⟩
    · exact earlier member
    · rw [same]
  | still told | count _ told | submit _ told | turnAway _ _ told | offer _ _ told
    | refuse _ _ _ told | enter _ _ told | shift _ _ _ _ _ told | drain _ told | deliver _ _ told
    | fail _ _ _ _ told =>
    refine earlier ?_
    simpa [told] using member

/-- Without a ceiling a move loses nothing before the courier is stopped. -/
theorem Move.patient (move : Move before after old new)
    (overflow : before.queue.overflow = .unbounded) (early : before.stopped = false)
    (opened : before.queue.closed = false)
    (none : before.rejectedEvents = [] ∧ before.evictedEvents = []) :
    after.rejectedEvents = [] ∧ after.evictedEvents = [] := by
  -- An event is lost by a stop, by a closed queue or by a ceiling.
  unfold Depot.rejectedEvents Depot.evictedEvents at *
  cases move with
  | turnAway _ late => simp [early] at late
  | refuse _ _ reason =>
    rcases reason with ⟨_, closed⟩ | ⟨_, bounded⟩
    · simp [opened] at closed
    · exact absurd overflow bounded
  | shift _ _ _ _ bounded => exact absurd overflow bounded
  | still told | count _ told | submit _ told | offer _ _ told | enter _ _ told | drain _ told
    | send _ _ _ _ told | deliver _ _ told | fail _ _ _ _ told => simpa [told] using none

end

namespace LineOrdered

/-- Before anything has happened the line is empty. -/
theorem initial (settings : Settings) (threshold : Threshold) (transportName sinkName : String)
    (wall : Timestamp) (script : Script) :
    LineOrdered (.create settings threshold transportName sinkName wall script) [] where
  line := ⟨[], rfl, .nil⟩
  entrance _ := rfl
  payloads := by simp [Depot.create]
  patient _ _ := ⟨rfl, rfl⟩

/-- A turn keeps the order of the line. -/
theorem turn {world next : World} (lined : LineOrdered world.depot (cargo world.tasks))
    (core : CoreInvariant world) (turn : Turn world next) :
    LineOrdered next.depot (cargo next.tasks) := by
  -- Before the stop the queue is open, for nothing is closed without announcing it.
  obtain ⟨line, entrance, payloads, patient⟩ := lined
  obtain ⟨old, new, upper, lower, move, took, put, alone⟩ :=
    turn.move core.custody core.sound
  rw [took] at line entrance
  rw [put]
  constructor
  · exact move.line alone line
  · exact fun event => move.entrance event (entrance event)
  · rw [turn.settings]
    exact move.payloads rfl payloads
  · intro overflow early
    rw [turn.overflow] at overflow
    -- A stop is not taken back, so there was none before.
    have earlier : world.depot.stopped = false := by
      refine Bool.eq_false_iff.mpr fun stopped => ?_
      simp [turn.stopped stopped] at early
    have opened : world.depot.queue.closed = false := by
      refine Bool.eq_false_iff.mpr fun closed => ?_
      simp [core.announced.closed closed] at earlier
    exact move.patient overflow earlier opened (patient overflow earlier)

end LineOrdered

namespace World

/-- The events of the batch that has been taken and not yet been handed to the transport. -/
def unsent (world : World) : List Event :=
  world.tasks.flatMap Task.unsent

end World

/-- With an endpoint the events that were handed to the transport, those of the only batch that is
about to be, and those that wait are, one after the other, exactly the events that entered the queue
and were not evicted, in the order in which they entered. With them, every event that was handed in
is in exactly one place. Without a ceiling and before the courier is stopped none is missing. -/
theorem handed_over_in_order {settings : Settings} (remote : settings.isRemote = true)
    {threshold : Threshold} {transportName sinkName : String} {wall : Timestamp}
    {script : Script} {world : World}
    (run : World.Reachable
      (.initial (.create settings threshold transportName sinkName wall script)) world) :
    Interleaving (world.depot.handedEvents ++ world.unsent ++ world.depot.queue.waiting)
        world.depot.evictedEvents world.depot.admittedEvents ∧
      world.depot.submittedEvents.Perm
        (world.inHand ++ world.depot.rejectedEvents ++
          (world.depot.handedEvents ++ world.unsent ++ world.depot.queue.waiting ++
            world.depot.evictedEvents)) ∧
      world.tasks.countP Task.isBatch ≤ 1 ∧
      (∀ batch payload timeout sending,
        Occurrence.sent batch payload timeout sending ∈ world.depot.journal →
          payload = Payload.encode batch settings.compression) ∧
      (settings.overflow = .unbounded → world.depot.stopped = false →
        world.depot.rejectedEvents = [] ∧ world.depot.evictedEvents = []) := by
  -- The order of the line is kept by every turn.
  have start := CoreInvariant.initial remote threshold transportName sinkName wall script
  obtain ⟨same, policy⟩ := CoreInvariant.constant run
  have lined : LineOrdered world.depot (cargo world.tasks) :=
    start.induction (fun world => LineOrdered world.depot (cargo world.tasks))
      (LineOrdered.initial settings threshold transportName sinkName wall script)
      (fun core lined turn => lined.turn core turn) run
  obtain ⟨⟨front, admitted, parts⟩, entrance, payloads, patient⟩ := lined
  have hand : (cargo world.tasks).flatMap Task.inHand = world.inHand :=
    flatMap_cargo (fun task other => by cases task <;> first | rfl | cases other) _
  have unsent : (cargo world.tasks).flatMap Task.unsent = world.unsent :=
    flatMap_cargo (fun task other => by cases task <;> first | rfl | cases other) _
  have line : Interleaving (world.depot.handedEvents ++ world.unsent ++ world.depot.queue.waiting)
      world.depot.evictedEvents world.depot.admittedEvents := by
    rw [admitted, ← unsent]
    exact parts.append_left world.depot.queue.waiting
  refine ⟨line, ?_, (EventsAccounted.reachable remote run).single_batch, ?_, ?_⟩
  · refine List.Perm.trans (List.perm_iff_count.mpr fun event => ?_) (line.perm.append_left _)
    rw [entrance event, hand, List.count_append, List.count_append]
  · intro batch payload timeout sending member
    rw [payloads batch payload timeout sending, same]
    · rfl
    · exact List.mem_reverse.mpr (List.mem_filter.mpr ⟨member, rfl⟩)
  · intro unbounded
    refine patient ?_
    rw [policy]
    simp [Depot.create, Queue.create, unbounded, Overflow.raisedTo]

/-- A rejected batch stays handed over, and what the transport logged meanwhile waits behind it. -/
theorem handed_over_in_order_rejected :
    World.rejected.depot.handedEvents.length = 1 ∧
      World.rejected.depot.queue.waiting.length = 1 ∧
      Interleaving
        (World.rejected.depot.handedEvents ++ World.rejected.unsent ++
          World.rejected.depot.queue.waiting)
        World.rejected.depot.evictedEvents World.rejected.depot.admittedEvents :=
  ⟨by decide +kernel, by decide +kernel,
    (handed_over_in_order rfl (World.reachable_afterCalls _ _)).1⟩

end LogCourier
