/-! Counts of what became of events and batches, in words that wrap around. -/

namespace LogCourier

/-- What is counted one at a time. -/
inductive Counter where
  /-- An event was handed in. -/
  | submitted
  /-- An event was put into the queue. -/
  | queued
  /-- An event was given up before it reached a batch. -/
  | dropped
  /-- An event was shown on the console. -/
  | shown
  /-- A batch was taken because the queue was full. -/
  | sizeFlush
  /-- A batch was taken because its time had come. -/
  | timerFlush
  /-- The operator was warned. -/
  | warning
  deriving DecidableEq, Repr

/-- The counts of a courier. -/
structure Tally where
  submitted : UInt64
  queued : UInt64
  dropped : UInt64
  shown : UInt64
  batchesSent : UInt64
  eventsSent : UInt64
  batchesFailed : UInt64
  eventsFailed : UInt64
  sizeFlushes : UInt64
  timerFlushes : UInt64
  warnings : UInt64
  deriving DecidableEq, Repr

namespace Tally

/-- Nothing counted yet. -/
def zero : Tally := ⟨0, 0, 0, 0, 0, 0, 0, 0, 0, 0, 0⟩

instance : Inhabited Tally := ⟨zero⟩

/-- The count of one kind. -/
def get (tally : Tally) : Counter → UInt64
  | .submitted => tally.submitted
  | .queued => tally.queued
  | .dropped => tally.dropped
  | .shown => tally.shown
  | .sizeFlush => tally.sizeFlushes
  | .timerFlush => tally.timerFlushes
  | .warning => tally.warnings

/-- The tally with one more of a kind. -/
def count (tally : Tally) : Counter → Tally
  | .submitted => { tally with submitted := tally.submitted + 1 }
  | .queued => { tally with queued := tally.queued + 1 }
  | .dropped => { tally with dropped := tally.dropped + 1 }
  | .shown => { tally with shown := tally.shown + 1 }
  | .sizeFlush => { tally with sizeFlushes := tally.sizeFlushes + 1 }
  | .timerFlush => { tally with timerFlushes := tally.timerFlushes + 1 }
  | .warning => { tally with warnings := tally.warnings + 1 }

/-- Counting changes the count of its own kind by one and no other. -/
theorem get_count (tally : Tally) (counter other : Counter) :
    (tally.count counter).get other = tally.get other + (if other = counter then 1 else 0) := by
  cases counter <;> cases other <;> simp [count, get]

/-- The tally after a batch was delivered. -/
def delivered (tally : Tally) (events : Nat) : Tally :=
  { tally with
    batchesSent := tally.batchesSent + 1
    eventsSent := tally.eventsSent + UInt64.ofNat events }

/-- The tally after a batch was given up. -/
def failed (tally : Tally) (events : Nat) : Tally :=
  { tally with
    batchesFailed := tally.batchesFailed + 1
    eventsFailed := tally.eventsFailed + UInt64.ofNat events }

/-- The number of events that will never arrive. -/
def lost (tally : Tally) : UInt64 :=
  tally.dropped + tally.eventsFailed

/-- The share of events that were lost among those sent or lost, in percent. -/
def lossRate (tally : Tally) : Float :=
  let lost := tally.lost.toFloat
  let total := tally.eventsSent.toFloat + lost
  -- Where nothing was sent or lost there is no share to speak of.
  if total == 0 then 0 else lost / total * 100

end Tally

end LogCourier
