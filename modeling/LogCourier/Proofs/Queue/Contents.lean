import LogCourier.Proofs.Queue.Sound
import Mathlib.Data.List.DropRight

/-!
Contents: what waits in a queue after any use of it, what was taken from it, and its counts.

What waits depends only on the items that have come since all was last taken: all of them, the last
ones, or the first ones, as far as the policy of the queue has room for them.
-/

namespace LogCourier

/-- A way to use a queue. -/
inductive Use (α : Type) where
  /-- An item is added at an instant. -/
  | add (now : Nat) (item : α)
  | drain
  | close
  /-- The wish to be emptied is taken, if there is one. -/
  | takeSignal

/-- A queue in use, with the counts of what came to it and the batches that were taken from it, the
earliest first. -/
structure Usage (α : Type) where
  queue : Queue α
  tally : Tally
  batches : List (List α)

namespace Usage

/-- A queue that has just been made. -/
def create (maxBatch : Nat) (overflow : Overflow) : Usage α :=
  ⟨.create maxBatch overflow, .zero, []⟩

/-- The queue is used once; what becomes of an item at its door is counted. -/
def use (usage : Usage α) : Use α → Usage α
  | .add now item =>
    { usage with
      queue := (usage.queue.add now item).1
      tally := usage.tally.count (usage.queue.push now item).2.counter }
  | .drain =>
    { usage with
      queue := usage.queue.drain.1
      batches := usage.batches ++ [usage.queue.drain.2] }
  | .close =>
    { usage with
      queue := usage.queue.close.1
      batches := usage.batches ++ [usage.queue.close.2] }
  | .takeSignal => { usage with queue := usage.queue.takeSignal.1 }

/-- What several uses have made of a new queue, the latest of them first. -/
def after (maxBatch : Nat) (overflow : Overflow) : List (Use α) → Usage α
  | [] => create maxBatch overflow
  | latest :: earlier => (after maxBatch overflow earlier).use latest

end Usage

namespace Overflow

/-- The number of items that a queue for batches of a size holds at most, where a policy sets a
ceiling. -/
def capacity (maxBatch ceiling : Nat) : Nat :=
  max (max ceiling maxBatch) 1

/-- What stays of items that came one after another and were not taken. -/
def kept (maxBatch : Nat) : Overflow → List α → List α
  | unbounded, items => items
  | evictOldest ceiling, items => items.rtake (capacity maxBatch ceiling)
  | refuseNewest ceiling, items => items.take (capacity maxBatch ceiling)

/-- Whether one more item would be too many for the number of items that wait. -/
def isReached (maxBatch waiting : Nat) : Overflow → Bool
  | unbounded => false
  | evictOldest ceiling => capacity maxBatch ceiling ≤ waiting
  | refuseNewest ceiling => capacity maxBatch ceiling ≤ waiting

end Overflow

namespace Use

/-- Whether a queue has been closed. -/
def hasClosed : List (Use α) → Bool
  | [] => false
  | .close :: _ => true
  | _ :: earlier => hasClosed earlier

/-- The items that have come since all was last taken, the earliest first. -/
def sinceTaken : List (Use α) → List α
  | [] => []
  | .add _ item :: earlier => sinceTaken earlier ++ [item]
  | .drain :: _ => []
  | .close :: _ => []
  | .takeSignal :: earlier => sinceTaken earlier

/-- The items that wait: none once the queue was closed, and else what its policy keeps of those
that have come since all was last taken. -/
def held (maxBatch : Nat) (overflow : Overflow) (uses : List (Use α)) : List α :=
  if hasClosed uses then [] else overflow.kept maxBatch (sinceTaken uses)

/-- What waits after an addition. -/
theorem held_add (maxBatch : Nat) (overflow : Overflow) (uses : List (Use α)) (now : Nat)
    (item : α) : held maxBatch overflow (.add now item :: uses) =
      if hasClosed uses then [] else overflow.kept maxBatch (sinceTaken uses ++ [item]) :=
  rfl

/-- The batches that have been taken, the earliest first: each time all that waited. -/
def taken (maxBatch : Nat) (overflow : Overflow) : List (Use α) → List (List α)
  | [] => []
  | .add _ _ :: earlier => taken maxBatch overflow earlier
  | .drain :: earlier => taken maxBatch overflow earlier ++ [held maxBatch overflow earlier]
  | .close :: earlier => taken maxBatch overflow earlier ++ [held maxBatch overflow earlier]
  | .takeSignal :: earlier => taken maxBatch overflow earlier

/-- The number of additions. -/
def additions : List (Use α) → Nat
  | [] => 0
  | .add _ _ :: earlier => additions earlier + 1
  | _ :: earlier => additions earlier

/-- The number of additions at which an item was lost, because the queue had been closed or its
ceiling had been reached. -/
def losses (maxBatch : Nat) (overflow : Overflow) : List (Use α) → Nat
  | [] => 0
  | .add _ _ :: earlier =>
    losses maxBatch overflow earlier +
      if hasClosed earlier || overflow.isReached maxBatch (held maxBatch overflow earlier).length
      then 1 else 0
  | _ :: earlier => losses maxBatch overflow earlier

end Use

namespace Overflow

variable {α : Type} {maxBatch ceiling : Nat} {items : List α}

/-- There is always room for an item. -/
theorem capacity_pos (maxBatch ceiling : Nat) : 0 < capacity maxBatch ceiling := by
  unfold capacity
  omega

/-- A ceiling is reached unless fewer items wait than every ceiling of the raised policy allows. -/
theorem isReached_eq_false_iff {overflow : Overflow} {waiting : Nat} :
    overflow.isReached maxBatch waiting = false ↔
      ∀ ceiling, (overflow.raisedTo (max maxBatch 1)).ceiling? = some ceiling →
        waiting < ceiling := by
  cases overflow with
  | unbounded => simp [isReached, raisedTo, ceiling?]
  | _ ceiling =>
    -- There is one ceiling, and raising it in two steps is raising it to the capacity.
    simp only [isReached, raisedTo, ceiling?, decide_eq_false_iff_not, Option.some.injEq,
      forall_eq']
    unfold capacity
    omega

/-- A policy that leaves room for a batch of at least one item has the capacity as its ceiling. -/
theorem raisedTo_eq (maxBatch : Nat) (overflow : Overflow) :
    overflow.raisedTo (max maxBatch 1) =
      match overflow with
      | unbounded => unbounded
      | evictOldest ceiling => evictOldest (capacity maxBatch ceiling)
      | refuseNewest ceiling => refuseNewest (capacity maxBatch ceiling) := by
  -- Raising twice is raising once to the greater of the two.
  cases overflow <;> simp [raisedTo, capacity, Nat.max_assoc]

/-- An item for which there is room stays behind those that are kept. -/
theorem kept_concat {overflow : Overflow} (item : α)
    (room : overflow.isReached maxBatch (overflow.kept maxBatch items).length = false) :
    overflow.kept maxBatch (items ++ [item]) = overflow.kept maxBatch items ++ [item] := by
  cases overflow with
  | unbounded => rfl
  | evictOldest ceiling =>
    -- Fewer are kept than may be, so all of them are, and with the new one still all.
    simp only [isReached, kept, List.rtake, List.length_drop, decide_eq_false_iff_not] at room
    have few : items.length + 1 ≤ capacity maxBatch ceiling := by omega
    have none : items.length - capacity maxBatch ceiling = 0 := by omega
    have none' : items.length + 1 - capacity maxBatch ceiling = 0 := by omega
    simp [kept, List.rtake, none, none']
  | refuseNewest ceiling =>
    simp only [isReached, kept, List.length_take, decide_eq_false_iff_not] at room
    have few : items.length + 1 ≤ capacity maxBatch ceiling := by omega
    rw [kept, kept, List.take_of_length_le (by simpa using few),
      List.take_of_length_le (by omega)]

/-- Where the oldest item leaves for a new one, the last ones are kept. -/
theorem kept_concat_evictOldest (item : α)
    (full : capacity maxBatch ceiling ≤ ((evictOldest ceiling).kept maxBatch items).length) :
    (evictOldest ceiling).kept maxBatch (items ++ [item]) =
      ((evictOldest ceiling).kept maxBatch items).tail ++ [item] := by
  simp only [kept, List.rtake, List.length_drop] at full ⊢
  -- One more item has come, so one more is left out at the front.
  have more : (items ++ [item]).length - capacity maxBatch ceiling =
      items.length - capacity maxBatch ceiling + 1 := by
    rw [List.length_append, List.length_singleton]
    omega
  have within : items.length - capacity maxBatch ceiling + 1 ≤ items.length := by
    have room := capacity_pos maxBatch ceiling
    omega
  rw [more, List.drop_append_of_le_length within, List.tail_drop]

/-- Where a new item is refused, the first ones are kept. -/
theorem kept_concat_refuseNewest (item : α)
    (full : capacity maxBatch ceiling ≤ ((refuseNewest ceiling).kept maxBatch items).length) :
    (refuseNewest ceiling).kept maxBatch (items ++ [item]) =
      (refuseNewest ceiling).kept maxBatch items := by
  simp only [kept, List.length_take] at full ⊢
  -- The first ones are as many as may be, and the new one is not among them.
  exact List.take_append_of_le_length (by omega)

end Overflow

/-- A queue in use is what its history says. -/
structure Usage.Follows (maxBatch : Nat) (overflow : Overflow) (uses : List (Use α))
    (usage : Usage α) : Prop where
  sound : usage.queue.Sound
  size : usage.queue.maxBatch = max maxBatch 1
  policy : usage.queue.overflow = overflow.raisedTo (max maxBatch 1)
  closed : usage.queue.closed = Use.hasClosed uses
  waiting : usage.queue.waiting = Use.held maxBatch overflow uses
  batches : usage.batches = Use.taken maxBatch overflow uses
  queued : usage.tally.queued =
    UInt64.ofNat (usage.batches.flatten.length + usage.queue.waiting.length)
  dropped : usage.tally.dropped = UInt64.ofNat (Use.losses maxBatch overflow uses)
  sum : usage.tally.queued + usage.tally.dropped = UInt64.ofNat (Use.additions uses)

namespace Usage.Follows

variable {α : Type} {maxBatch : Nat} {overflow : Overflow} {uses : List (Use α)} {usage : Usage α}

/-- A new queue follows the empty history. -/
theorem create (maxBatch : Nat) (overflow : Overflow) :
    Follows maxBatch overflow [] (Usage.create maxBatch overflow : Usage α) where
  sound := .create maxBatch overflow
  size := rfl
  policy := rfl
  closed := rfl
  waiting := by cases overflow <;> simp [Usage.create, Queue.create, Use.held, Use.hasClosed,
    Use.sinceTaken, Overflow.kept]
  batches := rfl
  queued := rfl
  dropped := rfl
  sum := rfl

/-- An addition is followed if it leaves what the history says, and counts a loss exactly if the
history has one there. -/
private theorem added (follows : Follows maxBatch overflow uses usage) (now : Nat) (item : α)
    (lost : Bool) {queue : Queue α} {entry : Entry} (sound : queue.Sound)
    (size : queue.maxBatch = usage.queue.maxBatch)
    (policy : queue.overflow = usage.queue.overflow)
    (closed : queue.closed = usage.queue.closed)
    (waiting : queue.waiting = Use.held maxBatch overflow (.add now item :: uses))
    (longer : queue.waiting.length = usage.queue.waiting.length + if lost then 0 else 1)
    (told : (Use.hasClosed uses ||
      overflow.isReached maxBatch (Use.held maxBatch overflow uses).length) = lost)
    (counted : entry.counter = if lost then Counter.dropped else Counter.queued) :
    Follows maxBatch overflow (.add now item :: uses)
      { usage with queue, tally := usage.tally.count entry.counter } := by
  have queued := follows.queued
  have dropped := follows.dropped
  have sum := follows.sum
  refine ⟨sound, size.trans follows.size, policy.trans follows.policy,
    closed.trans follows.closed, waiting, follows.batches, ?_, ?_, ?_⟩
  all_goals
    simp only [counted, longer, Use.losses, Use.additions, told]
    cases lost
  -- Without a loss one more item waits, and it is counted as queued.
  · simp only [Bool.false_eq_true, if_false, Tally.count, queued, UInt64.ofNat_add,
      UInt64.add_assoc]
    rfl
  · -- With one, what waits is as much as before.
    exact queued
  · exact dropped
  · -- It is counted as a loss.
    simp only [if_true, Tally.count, dropped, UInt64.ofNat_add]
    rfl
  · simp only [Bool.false_eq_true, if_false, Tally.count, UInt64.ofNat_add, ← sum]
    rw [UInt64.add_assoc, UInt64.add_comm 1, ← UInt64.add_assoc]
    rfl
  · simp only [if_true, Tally.count, UInt64.ofNat_add, ← sum, UInt64.add_assoc]
    rfl

/-- An addition does what the history says. -/
theorem add (follows : Follows maxBatch overflow uses usage) (now : Nat) (item : α) :
    Follows maxBatch overflow (.add now item :: uses) (usage.use (.add now item)) := by
  have pushed := usage.queue.pushed_push now item
  have sound := follows.sound.pushed pushed
  simp only [Usage.use, Queue.add_eq]
  generalize usage.queue.push now item = result at pushed sound
  obtain ⟨queue, entry⟩ := result
  -- The wish that may follow concerns only the signal.
  generalize (queue.signalled || queue.asks entry) = signalled
  have sound := sound.resignal signalled
  have closed := follows.closed
  have waiting := follows.waiting
  have history := Use.held_add maxBatch overflow uses now item
  cases known : Use.hasClosed uses with
  | true =>
    -- Nothing waits in a closed queue, before or after, and the item is lost.
    rw [known] at closed
    simp only [known, if_true] at history
    cases pushed with
    | refusedClosed =>
      exact follows.added now item true sound rfl rfl rfl
        ((follows.sound.shut closed).trans history.symm) rfl (by simp [known]) rfl
    | appended opened => simp [closed] at opened
    | displacing opened => simp [closed] at opened
    | refusedFull opened => simp [closed] at opened
  | false =>
    -- An open queue holds what is kept of the items, and so it does with one more of them.
    rw [known] at closed
    simp only [known, Bool.false_eq_true, if_false] at history
    have kept : usage.queue.waiting = overflow.kept maxBatch (Use.sinceTaken uses) := by
      rw [waiting, Use.held, known, if_neg Bool.false_ne_true]
    cases pushed with
    | refusedClosed shut => simp [closed] at shut
    | appended opened room =>
      have below : overflow.isReached maxBatch usage.queue.waiting.length = false :=
        Overflow.isReached_eq_false_iff.mpr (follows.policy ▸ room)
      refine follows.added now item false sound rfl rfl rfl ?_ ?_ ?_ rfl
      · rw [history, Overflow.kept_concat item (kept ▸ below), ← kept]
      · simp
      · rw [known, ← waiting, below]
        rfl
    | displacing opened ceiling policy full =>
      -- The ceiling is that of the history, so the oldest item is the one that is kept no more.
      rw [follows.policy, Overflow.raisedTo_eq] at policy
      cases overflow <;> cases policy
      next lower =>
        have room := Overflow.capacity_pos maxBatch lower
        refine follows.added now item true sound rfl rfl rfl ?_ ?_ ?_ rfl
        · rw [history, Overflow.kept_concat_evictOldest item (kept ▸ full), ← kept]
        · -- One item leaves and one comes.
          simp only [List.length_append, List.length_tail, List.length_singleton, if_true]
          omega
        · rw [known, ← waiting]
          simpa [Overflow.isReached] using full
    | refusedFull opened ceiling policy full =>
      -- The first items are kept, and the new one is not among them.
      rw [follows.policy, Overflow.raisedTo_eq] at policy
      cases overflow <;> cases policy
      refine follows.added now item true sound rfl rfl rfl ?_ rfl ?_ rfl
      · rw [history, Overflow.kept_concat_refuseNewest item (kept ▸ full), ← kept]
      · rw [known, ← waiting]
        simpa [Overflow.isReached] using full

/-- Taking all that waits empties the queue, and the batch is what the history says. -/
theorem drain (follows : Follows maxBatch overflow uses usage) :
    Follows maxBatch overflow (.drain :: uses) (usage.use .drain) where
  sound := follows.sound.drain
  size := follows.size
  policy := follows.policy
  closed := follows.closed
  waiting := by
    -- Nothing has come since.
    cases closed : Use.hasClosed uses <;> cases overflow <;>
      simp [Usage.use, Queue.drain, Use.held, Use.hasClosed, Use.sinceTaken, Overflow.kept, closed,
        List.rtake]
  batches := by
    simp [Usage.use, Queue.drain, Use.taken, follows.batches, follows.waiting]
  queued := by
    -- What waited has gone into the last batch.
    simp [Usage.use, Queue.drain, follows.queued]
  dropped := follows.dropped
  sum := follows.sum

/-- Closing does the same, and afterwards nothing waits any more. -/
theorem close (follows : Follows maxBatch overflow uses usage) :
    Follows maxBatch overflow (.close :: uses) (usage.use .close) where
  sound := follows.sound.close
  size := follows.size
  policy := follows.policy
  closed := rfl
  waiting := rfl
  batches := by
    -- What waited is the last batch.
    simp [Usage.use, Queue.close, Use.taken, follows.batches, follows.waiting]
  queued := by
    simp [Usage.use, Queue.close, follows.queued]
  dropped := follows.dropped
  sum := follows.sum

/-- Taking the wish to be emptied leaves all else. -/
theorem takeSignal (follows : Follows maxBatch overflow uses usage) :
    Follows maxBatch overflow (.takeSignal :: uses) (usage.use .takeSignal) where
  sound := follows.sound.resignal _
  size := follows.size
  policy := follows.policy
  closed := follows.closed
  waiting := follows.waiting
  batches := follows.batches
  queued := follows.queued
  dropped := follows.dropped
  sum := follows.sum

/-- A queue in use always follows its history. -/
theorem after (maxBatch : Nat) (overflow : Overflow) (uses : List (Use α)) :
    Follows maxBatch overflow uses (Usage.after maxBatch overflow uses) := by
  -- Induction on the history, one use after another.
  induction uses with
  | nil => exact .create maxBatch overflow
  | cons latest earlier ih =>
    cases latest with
    | add now item => exact ih.add now item
    | drain => exact ih.drain
    | close => exact ih.close
    | takeSignal => exact ih.takeSignal

end Usage.Follows

/-- However a new queue has been used, what waits is what its policy keeps of the items that have
come since all was last taken, all of them, the last ones or the first ones, and nothing once it was
closed; every batch was what waited then. As many items are counted as queued as were taken or wait,
and as lost as came to a closed queue or to one that had reached its ceiling, and every addition is
counted once. -/
theorem Usage.contents_determined (maxBatch : Nat) (overflow : Overflow) (uses : List (Use α)) :
    let usage := Usage.after maxBatch overflow uses
    usage.queue.waiting =
        (if Use.hasClosed uses then [] else overflow.kept maxBatch (Use.sinceTaken uses)) ∧
      usage.queue.drain.2 = usage.queue.waiting ∧ usage.queue.close.2 = usage.queue.waiting ∧
      usage.batches = Use.taken maxBatch overflow uses ∧
      usage.tally.queued =
        UInt64.ofNat (usage.batches.flatten.length + usage.queue.waiting.length) ∧
      usage.tally.dropped = UInt64.ofNat (Use.losses maxBatch overflow uses) ∧
      usage.tally.queued + usage.tally.dropped = UInt64.ofNat (Use.additions uses) := by
  -- All of it is kept by every use.
  have follows := Usage.Follows.after maxBatch overflow uses
  exact ⟨follows.waiting, rfl, rfl, follows.batches, follows.queued, follows.dropped, follows.sum⟩

/-- Five items with room for three: the last three stay. -/
example : Use.held 2 (.evictOldest 3) ([4, 3, 2, 1, 0].map (.add 0)) = [2, 3, 4] := by decide

end LogCourier
