import LogCourier.Proofs.Queue.Contents

/-!
The signal of a queue: it is there exactly if the queue was filled since the signal was last taken.

Taking what waits, and closing, leave the signal as it is, and a closed queue never asks for
anything.
-/

namespace LogCourier

namespace Use

variable {α : Type} {maxBatch : Nat} {overflow : Overflow}

/-- Whether an item has come to the open queue since the signal was last taken, and has found or
left enough waiting for a batch of the largest size. -/
def Filled (maxBatch : Nat) (overflow : Overflow) (uses : List (Use α)) : Prop :=
  -- What was done with the queue since is told in `recent`, the latest first.
  ∃ recent now item earlier, uses = recent ++ .add now item :: earlier ∧
    .takeSignal ∉ recent ∧ hasClosed earlier = false ∧
      maxBatch ≤ (Usage.after maxBatch overflow (.add now item :: earlier)).queue.length

/-- A queue was filled by its latest use, or before that unless this took the signal. -/
theorem filled_cons {latest : Use α} {earlier : List (Use α)} :
    Filled maxBatch overflow (latest :: earlier) ↔
      (latest ≠ .takeSignal ∧ Filled maxBatch overflow earlier) ∨
        ∃ now item, latest = .add now item ∧ hasClosed earlier = false ∧
          maxBatch ≤ (Usage.after maxBatch overflow (.add now item :: earlier)).queue.length := by
  constructor
  · rintro ⟨recent, now, item, before, split, untaken, opened, enough⟩
    cases recent with
    | nil =>
      -- The latest use is the addition itself.
      obtain ⟨rfl, rfl⟩ := List.cons.inj split
      exact .inr ⟨now, item, rfl, opened, enough⟩
    | cons first recent =>
      obtain ⟨rfl, rfl⟩ := List.cons.inj split
      simp only [List.mem_cons, not_or] at untaken
      exact .inl ⟨fun same => untaken.1 same.symm,
        recent, now, item, before, rfl, untaken.2, opened, enough⟩
  · rintro (⟨other, recent, now, item, before, rfl, untaken, opened, enough⟩ |
      ⟨now, item, rfl, opened, enough⟩)
    · -- One more use that is not the taking of the signal comes on top.
      refine ⟨latest :: recent, now, item, before, rfl, ?_, opened, enough⟩
      simp only [List.mem_cons, not_or]
      exact ⟨fun same => other same.symm, untaken⟩
    · exact ⟨[], now, item, earlier, rfl, by simp, opened, enough⟩

end Use

namespace Usage.Follows

variable {α : Type} {maxBatch : Nat} {overflow : Overflow} {uses : List (Use α)} {usage : Usage α}

/-- After an addition the signal is there if it was there before, or if the queue is open and enough
waits for a batch. -/
theorem signalled_add (follows : Follows maxBatch overflow uses usage) (now : Nat) (item : α) :
    (usage.use (.add now item)).queue.signalled = true ↔
      usage.queue.signalled = true ∨
        Use.hasClosed uses = false ∧
          maxBatch ≤ (usage.use (.add now item)).queue.length := by
  have pushed := usage.queue.pushed_push now item
  simp only [Usage.use, Queue.add_eq]
  generalize usage.queue.push now item = result at pushed
  obtain ⟨queue, entry⟩ := result
  have closed := follows.closed
  have size := follows.size
  -- Where something waits, a batch of at least one item asks for no more than any batch.
  have enough (others : Nat) : max maxBatch 1 ≤ others + 1 ↔ maxBatch ≤ others + 1 := by omega
  cases pushed with
  | refusedClosed shut =>
    -- A closed queue asks for nothing.
    simp [Queue.asks, ← closed, shut]
  | appended opened =>
    simp [Queue.asks, ← closed, opened, size, enough]
  | displacing opened =>
    simp [Queue.asks, ← closed, opened, size, enough]
  | refusedFull opened ceiling policy full =>
    -- The ceiling leaves room for a batch.
    rw [follows.policy, Overflow.raisedTo_eq] at policy
    cases overflow <;> cases policy
    have crowded : maxBatch ≤ usage.queue.length := by
      rw [follows.sound.tracked]
      unfold Overflow.capacity at full
      omega
    simp [Queue.asks, ← closed, opened, crowded]

end Usage.Follows

/-- However a new queue has been used, its signal is there exactly if, since it was last taken, an
item has come to the open queue and has found or left enough for a batch of the largest size; there
is never a second one, and nothing that comes to a closed queue makes a difference. -/
theorem Usage.signal_exact (maxBatch : Nat) (overflow : Overflow) (uses : List (Use α)) :
    let usage := Usage.after maxBatch overflow uses
    (usage.queue.takeSignal.2 = true ↔ Use.Filled maxBatch overflow uses) ∧
      (usage.use .takeSignal).queue.takeSignal.2 = false ∧
      ∀ now item, ((usage.use .close).use (.add now item)).queue.takeSignal.2 =
        usage.queue.takeSignal.2 := by
  refine ⟨?_, rfl, fun now item => ?_⟩
  · -- Induction on the history: only additions and taking the signal change it.
    change (Usage.after maxBatch overflow uses).queue.signalled = true ↔ _
    induction uses with
    | nil =>
      refine iff_of_false Bool.false_ne_true ?_
      rintro ⟨recent, now, item, earlier, split, _⟩
      simp at split
    | cons latest earlier ih =>
      rw [Use.filled_cons, ← ih]
      cases latest with
      | add now item =>
        have follows := Follows.after maxBatch overflow earlier
        simp only [Usage.after]
        rw [follows.signalled_add now item]
        simp
      | drain => simp [Usage.after, Usage.use, Queue.drain]
      | close => simp [Usage.after, Usage.use, Queue.close]
      | takeSignal => simp [Usage.after, Usage.use, Queue.takeSignal]
  · -- The item is turned away, and nobody is asked for anything.
    have follows := (Follows.after maxBatch overflow uses).close
    rw [Bool.eq_iff_iff]
    change (_ : Bool) = true ↔ (Usage.after maxBatch overflow uses).queue.signalled = true
    exact (follows.signalled_add now item).trans (by simp [Use.hasClosed, Usage.use, Queue.close])

end LogCourier
