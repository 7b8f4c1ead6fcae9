import LogCourier.Proofs.Queue.Sound

/-!
Mapping: whatever waits in a queue can be changed item by item without a difference to what the
queue does.
-/

namespace LogCourier

namespace Queue

variable {α β : Type} {queue : Queue α} {f : α → β} {now : Nat} {item : α}

/-- The queue with every item that waits changed. -/
def map (f : α → β) (queue : Queue α) : Queue β where
  maxBatch := queue.maxBatch
  overflow := queue.overflow
  waiting := queue.waiting.map f
  length := queue.length
  oldest := queue.oldest
  closed := queue.closed
  signalled := queue.signalled

/-- An item comes behind all others, whatever they are. -/
theorem append_map : (queue.map f).append now (f item) = (queue.append now item).map f := by
  simp [append, map]

/-- An item takes the place of the oldest, whatever that is. -/
theorem displace_map : (queue.map f).displace now (f item) = (queue.displace now item).map f := by
  simp [displace, map]

/-- What becomes of an item at the door does not depend on what it is. -/
theorem push_map : (queue.map f).push now (f item) =
    ((queue.push now item).1.map f, (queue.push now item).2) := by
  have closed : (queue.map f).closed = queue.closed := rfl
  have policy : (queue.map f).overflow = queue.overflow := rfl
  have waiting : (queue.map f).waiting.length = queue.waiting.length := by simp [map]
  unfold push
  rw [closed, policy, waiting, append_map, displace_map]
  -- The same branch is taken on both sides.
  cases queue.closed with
  | true => rfl
  | false =>
    cases queue.overflow with
    | unbounded => rfl
    | evictOldest ceiling | refuseNewest ceiling =>
      by_cases full : ceiling ≤ queue.waiting.length <;> simp [full]

/-- Whether the queue is full does not depend on what waits. -/
@[simp] theorem isFull_map : (queue.map f).isFull = queue.isFull := rfl

/-- Whether something has been waiting for long does not depend on what waits. -/
@[simp] theorem isStale_map (interval : Span) :
    (queue.map f).isStale now interval = queue.isStale now interval := rfl

/-- All that waits is taken, whatever it is. -/
theorem drain_map : (queue.map f).drain = (queue.drain.1.map f, queue.drain.2.map f) := rfl

/-- All that waits is taken at the end, whatever it is. -/
theorem close_map : (queue.map f).close = (queue.close.1.map f, queue.close.2.map f) := rfl

/-- A whole addition does the same, whatever is added. -/
theorem add_map : ((queue.map f).add now (f item)).1 = (queue.add now item).1.map f := by
  -- What the queue asks for afterwards depends on its length.
  rw [add_eq, add_eq, push_map]
  cases (queue.push now item).2 <;> rfl

end Queue

end LogCourier
