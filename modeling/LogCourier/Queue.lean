import LogCourier.Settings.Overflow
import LogCourier.Tally
import LogCourier.Time.Span

/-!
The queue between those who log and the courier who ships.

Items wait in the order of their arrival. The number of waiting items is kept beside them, because
it is read without taking the lock; one slot holds the wish that the queue be emptied. Instants are
counted in nanoseconds on a clock that never goes back.
-/

namespace LogCourier

/-- Items that wait to be taken as one batch. -/
structure Queue (α : Type) where
  maxBatch : Nat
  overflow : Overflow
  waiting : List α
  length : Nat
  oldest : Option Nat
  closed : Bool
  signalled : Bool
  deriving DecidableEq

/-- What became of an item at the door of a queue. -/
inductive Entry where
  /-- It waits behind the others. -/
  | appended
  /-- It waits, and the oldest had to leave for it. -/
  | displacing
  /-- It was refused at the ceiling. -/
  | refusedFull
  /-- It was refused because the queue is closed. -/
  | refusedClosed
  deriving DecidableEq, Repr

namespace Entry

/-- What an addition counts as; one item more and one less is a loss. -/
def counter : Entry → Counter
  | appended => .queued
  | displacing => .dropped
  | refusedFull => .dropped
  | refusedClosed => .dropped

end Entry

namespace Queue

/-- An open queue for batches of at least one item, with a ceiling that leaves room for a batch. -/
def create (maxBatch : Nat) (overflow : Overflow) : Queue α :=
  let maxBatch := max maxBatch 1
  ⟨maxBatch, overflow.raisedTo maxBatch, [], 0, none, false, false⟩

/-- An item behind all others; the age of the queue counts from the first one. -/
def append (queue : Queue α) (now : Nat) (item : α) : Queue α :=
  -- An empty queue begins to age with this item.
  let waiting := queue.waiting ++ [item]
  { queue with
    waiting
    length := waiting.length
    oldest := if queue.waiting.isEmpty then some now else queue.oldest }

/-- An item behind all others but the oldest, which leaves; the age starts anew. -/
def displace (queue : Queue α) (now : Nat) (item : α) : Queue α :=
  let waiting := queue.waiting.tail ++ [item]
  { queue with waiting, length := waiting.length, oldest := some now }

/-- The part of an addition that happens under the lock. -/
def push (queue : Queue α) (now : Nat) (item : α) : Queue α × Entry :=
  -- The ceiling is looked at before the item comes, so it is never passed.
  if queue.closed then (queue, .refusedClosed)
  else
    match queue.overflow with
    | .unbounded => (queue.append now item, .appended)
    | .evictOldest ceiling =>
      if ceiling ≤ queue.waiting.length then (queue.displace now item, .displacing)
      else (queue.append now item, .appended)
    | .refuseNewest ceiling =>
      if ceiling ≤ queue.waiting.length then (queue, .refusedFull)
      else (queue.append now item, .appended)

/-- Whether an addition is followed by the wish to be emptied, with the queue as it was left. -/
def asks (queue : Queue α) : Entry → Bool
  | .appended => queue.maxBatch ≤ queue.length
  | .displacing => queue.maxBatch ≤ queue.length
  | .refusedFull => true
  | .refusedClosed => false

/-- The wish to be emptied; one that is waiting already is enough. -/
def offerSignal (queue : Queue α) : Queue α :=
  { queue with signalled := true }

/-- Takes the wish to be emptied, if there is one. -/
def takeSignal (queue : Queue α) : Queue α × Bool :=
  ({ queue with signalled := false }, queue.signalled)

/-- Takes all that waits. -/
def drain (queue : Queue α) : Queue α × List α :=
  ({ queue with waiting := [], length := 0, oldest := none }, queue.waiting)

/-- Takes all that waits and refuses what comes later. -/
def close (queue : Queue α) : Queue α × List α :=
  ({ queue with waiting := [], length := 0, oldest := none, closed := true }, queue.waiting)

/-- Whether enough is waiting for a batch of the largest size. -/
def isFull (queue : Queue α) : Bool :=
  queue.maxBatch ≤ queue.length

/-- How long the oldest item has been waiting. -/
def age? (queue : Queue α) (now : Nat) : Option Span :=
  queue.oldest.map fun since => ⟨now - since⟩

/-- Whether something has been waiting for a whole interval. -/
def isStale (queue : Queue α) (now : Nat) (interval : Span) : Bool :=
  (queue.age? now).any fun age => interval.nanos ≤ age.nanos

/-- Whether the timer may take a batch: enough is waiting, or something for long enough. -/
def isReady (queue : Queue α) (now least : Nat) (interval : Span) : Bool :=
  queue.length ≠ 0 && (least ≤ queue.length || queue.isStale now interval)

/-- When to look next, asked at an instant that is not later than the reading of the age: at a tick,
or when the oldest item turns stale, if that is earlier. -/
def nextWake (queue : Queue α) (now asked tick : Nat) (interval : Span) : Nat :=
  match queue.age? now with
  | some age =>
    -- What is stale already is to be taken at once.
    if age.nanos < interval.nanos then min tick (asked + (interval.nanos - age.nanos)) else asked
  | none => tick

end Queue

/-- What an addition amounts to for the one who adds. -/
inductive Admission where
  | queued
  /-- Queued, and the queue asks to be emptied. -/
  | filling
  /-- Queued in place of the oldest. -/
  | displacing
  | refused
  deriving DecidableEq, Repr

namespace Queue

/-- A whole addition: the locked part, and then the wish to be emptied. -/
def add (queue : Queue α) (now : Nat) (item : α) : Queue α × Admission :=
  match queue.push now item with
  | (next, .appended) =>
    -- The wish is uttered outside the lock, by whoever added the item.
    if next.asks .appended then (next.offerSignal, .filling) else (next, .queued)
  | (next, .displacing) =>
    (if next.asks .displacing then next.offerSignal else next, .displacing)
  | (next, .refusedFull) => (next.offerSignal, .refused)
  | (next, .refusedClosed) => (next, .refused)

/-- Several additions one after another, and what each amounts to. -/
def addAll (queue : Queue α) (now : Nat) (items : List α) : Queue α × List Admission :=
  items.foldl
    (fun (held, admissions) item =>
      let (next, admission) := held.add now item
      (next, admissions ++ [admission]))
    (queue, [])

end Queue

end LogCourier
