import LogCourier.Proofs.Queue.Sound

/-!
Sections: what anyone does with a queue in one go, and what holds of the queue after each of them.

The number of waiting items, the instant of the oldest and the limits are kept beside the items.
They agree with them after every section, whoever comes to the lock, so that what is read without
the lock can be relied on.
-/

namespace LogCourier

/-- What is done with a queue in one go: a part under the lock, or a word about the signal. -/
inductive Section (α : Type) where
  /-- The locked part of an addition at an instant. -/
  | push (now : Nat) (item : α)
  | drain
  | close
  /-- The wish that may follow the locked part of an addition, when others have been there since. -/
  | offerSignal
  | takeSignal

namespace Queue

/-- The queue after one section. -/
def pass (queue : Queue α) : Section α → Queue α
  | .push now item => (queue.push now item).1
  | .drain => queue.drain.1
  | .close => queue.close.1
  | .offerSignal => queue.offerSignal
  | .takeSignal => queue.takeSignal.1

/-- The queue after sections of any number of callers, in the order in which they come about. -/
def passAll (queue : Queue α) (sections : List (Section α)) : Queue α :=
  sections.foldl pass queue

/-- A whole addition is its locked part, with the wish to be emptied after it or without. -/
theorem add_passAll (queue : Queue α) (now : Nat) (item : α) :
    (queue.add now item).1 = queue.passAll [.push now item] ∨
      (queue.add now item).1 = queue.passAll [.push now item, .offerSignal] := by
  -- Whether the wish is uttered is known once the locked part is over.
  rw [add_eq]
  cases asked : (queue.push now item).1.asks (queue.push now item).2 with
  | false =>
    left
    simp [passAll, pass]
  | true =>
    right
    simp [passAll, pass, offerSignal]

/-- What is kept beside the items agrees with them, and the limits leave room for a batch. -/
structure Consistent (queue : Queue α) : Prop extends queue.Sound where
  dated : queue.oldest.isSome = true ↔ queue.waiting ≠ []
  sized : 1 ≤ queue.maxBatch
  limited : ∀ ceiling, queue.overflow.ceiling? = some ceiling →
    queue.maxBatch ≤ ceiling ∧ queue.waiting.length ≤ ceiling

namespace Consistent

variable {α : Type} {queue : Queue α}

/-- A new queue is consistent, whatever limits it is asked to keep. -/
theorem create (maxBatch : Nat) (overflow : Overflow) :
    (Queue.create maxBatch overflow : Queue α).Consistent where
  toSound := .create maxBatch overflow
  dated := by simp [Queue.create]
  sized := Nat.le_max_right maxBatch 1
  limited := by
    -- A ceiling that is set is raised to the size of a batch.
    intro ceiling policy
    cases overflow with
    | unbounded => cases policy
    | evictOldest lower | refuseNewest lower =>
      simp only [Queue.create, Overflow.raisedTo, Overflow.ceiling?, Option.some.injEq] at policy
      simp only [Queue.create, List.length_nil]
      omega

/-- One item more keeps an open queue consistent where there is room for it. -/
theorem append (consistent : queue.Consistent) (opened : queue.closed = false)
    (room : ∀ ceiling, queue.overflow.ceiling? = some ceiling → queue.waiting.length < ceiling)
    (now : Nat) (item : α) : (queue.append now item).Consistent where
  toSound := consistent.toSound.append opened now item
  dated := by
    -- The first item brings its instant, and the others find one.
    have before := consistent.dated
    by_cases empty : queue.waiting = []
    · simp [Queue.append, empty]
    · simp [Queue.append, empty, before]
  sized := consistent.sized
  limited := by
    intro ceiling policy
    have least := (consistent.limited ceiling policy).1
    have below := room ceiling policy
    refine ⟨least, ?_⟩
    simp only [Queue.append, List.length_append, List.length_singleton]
    omega

/-- An item in the place of the oldest keeps an open queue with a ceiling consistent. -/
theorem displace (consistent : queue.Consistent) (opened : queue.closed = false) (now : Nat)
    (item : α) : (queue.displace now item).Consistent where
  toSound := consistent.toSound.displace opened now item
  dated := by simp [Queue.displace]
  sized := consistent.sized
  limited := by
    -- One item comes, and one leaves unless there was none.
    intro ceiling policy
    obtain ⟨least, within⟩ := consistent.limited ceiling policy
    have sized := consistent.sized
    refine ⟨least, ?_⟩
    simp only [Queue.displace, List.length_append, List.length_tail, List.length_singleton]
    omega

/-- Where nothing waits any more, nothing is older either. -/
theorem emptied (consistent : queue.Consistent) (closed : Bool) :
    ({ queue with waiting := [], length := 0, oldest := none, closed } : Queue α).Consistent where
  tracked := rfl
  roomy := consistent.roomy
  shut _ := rfl
  dated := by simp
  sized := consistent.sized
  limited ceiling policy := ⟨(consistent.limited ceiling policy).1, Nat.zero_le ceiling⟩

/-- The signal has no part in it. -/
theorem resignal (consistent : queue.Consistent) (signalled : Bool) :
    ({ queue with signalled } : Queue α).Consistent :=
  ⟨consistent.toSound.resignal signalled, consistent.dated, consistent.sized, consistent.limited⟩

/-- The locked part of an addition keeps a queue consistent, however it ends. -/
theorem push (consistent : queue.Consistent) (now : Nat) (item : α) :
    (queue.push now item).1.Consistent := by
  have pushed := queue.pushed_push now item
  generalize queue.push now item = result at pushed
  obtain ⟨after, entry⟩ := result
  -- A queue that refuses the item is left as it was.
  cases pushed with
  | refusedClosed => exact consistent
  | appended opened room => exact consistent.append opened room now item
  | displacing opened => exact consistent.displace opened now item
  | refusedFull => exact consistent

/-- Every section keeps a queue consistent. -/
theorem pass (consistent : queue.Consistent) (turn : Section α) :
    (queue.pass turn).Consistent := by
  -- Emptying and closing leave the same queue but for the flag, and signals touch nothing else.
  cases turn with
  | push now item => exact consistent.push now item
  | drain => exact consistent.emptied queue.closed
  | close => exact consistent.emptied true
  | offerSignal => exact consistent.resignal true
  | takeSignal => exact consistent.resignal false

/-- Any run of sections keeps a queue consistent. -/
theorem passAll (consistent : queue.Consistent) (sections : List (Section α)) :
    (queue.passAll sections).Consistent := by
  -- Induction on the run, one section after another.
  induction sections generalizing queue with
  | nil => exact consistent
  | cons turn rest ih => exact ih (consistent.pass turn)

end Consistent

/-- What no section changes about a queue: its limits, and that it is closed. -/
structure Lasts (before after : Queue α) : Prop where
  maxBatch : after.maxBatch = before.maxBatch
  overflow : after.overflow = before.overflow
  closed : before.closed = true → after.closed = true

namespace Lasts

variable {α : Type}

/-- One section changes neither the limits nor that a queue is closed. -/
theorem pass (queue : Queue α) (turn : Section α) : Lasts queue (queue.pass turn) := by
  -- Only a push has something to change, and it keeps the limits at every door.
  cases turn with
  | push now item =>
    have pushed := queue.pushed_push now item
    simp only [Queue.pass]
    generalize queue.push now item = result at pushed
    obtain ⟨after, entry⟩ := result
    cases pushed <;> exact ⟨rfl, rfl, id⟩
  | drain => exact ⟨rfl, rfl, id⟩
  | close => exact ⟨rfl, rfl, fun _ => rfl⟩
  | offerSignal => exact ⟨rfl, rfl, id⟩
  | takeSignal => exact ⟨rfl, rfl, id⟩

/-- Nor does any run of sections. -/
theorem passAll (queue : Queue α) (sections : List (Section α)) :
    Lasts queue (queue.passAll sections) := by
  -- Induction on the run: what one section leaves is left by those behind it.
  induction sections generalizing queue with
  | nil => exact ⟨rfl, rfl, id⟩
  | cons turn rest ih =>
    have first := pass queue turn
    have others := ih (queue.pass turn)
    exact ⟨others.maxBatch.trans first.maxBatch, others.overflow.trans first.overflow,
      fun closed => others.closed (first.closed closed)⟩

end Lasts

/-- An item that is refused leaves no trace in the queue but for the wish to be emptied. -/
theorem add_refused {queue : Queue α} {now : Nat} {item : α}
    (refused : (queue.add now item).2 = .refused) :
    (queue.push now item).1 = queue ∧
      ∃ signalled, (queue.add now item).1 = { queue with signalled } := by
  -- It was turned away at the ceiling or at a closed door, and in neither case let in.
  have same : (queue.push now item).1 = queue := by
    have pushed := queue.pushed_push now item
    unfold add at refused
    generalize queue.push now item = result at pushed refused
    obtain ⟨after, entry⟩ := result
    cases entry with
    | appended =>
      dsimp only at refused
      split at refused <;> cases refused
    | displacing => cases refused
    | refusedFull =>
      cases pushed
      rfl
    | refusedClosed =>
      cases pushed
      rfl
  refine ⟨same, queue.signalled || queue.asks (queue.push now item).2, ?_⟩
  rw [add_eq, same]

/-- However sections of any number of callers follow each other on a new queue, after each of them
the kept number is that of the items that wait, an instant is kept exactly if something waits, and a
closed queue is empty and stays so; a batch has room for an item, and under a ceiling no more items
wait than the raised ceiling says, which has room for a batch. A whole addition is one section or
two, and one that is refused changes none of it. -/
theorem representation_kept (maxBatch : Nat) (overflow : Overflow) (sections : List (Section α)) :
    let queue := (create maxBatch overflow : Queue α).passAll sections
    queue.length = queue.waiting.length ∧
      (queue.oldest.isSome = true ↔ queue.waiting ≠ []) ∧
      (queue.closed = true → queue.waiting = [] ∧
        ∀ later, (queue.passAll later).closed = true ∧ (queue.passAll later).waiting = []) ∧
      1 ≤ queue.maxBatch ∧ queue.maxBatch = max maxBatch 1 ∧
      queue.overflow = overflow.raisedTo queue.maxBatch ∧
      (∀ ceiling, queue.overflow.ceiling? = some ceiling →
        queue.waiting.length ≤ ceiling ∧ queue.maxBatch ≤ ceiling) ∧
      ∀ now item,
        ((queue.add now item).1 = queue.passAll [.push now item] ∨
          (queue.add now item).1 = queue.passAll [.push now item, .offerSignal]) ∧
        ((queue.add now item).2 = .refused → (queue.push now item).1 = queue ∧
          ∃ signalled, (queue.add now item).1 = { queue with signalled }) := by
  intro queue
  have consistent : queue.Consistent := (Consistent.create maxBatch overflow).passAll sections
  have lasts : Lasts (create maxBatch overflow) queue := .passAll _ sections
  refine ⟨consistent.tracked, consistent.dated, fun closed => ⟨consistent.shut closed, ?_⟩,
    consistent.sized, lasts.maxBatch, ?_, ?_,
    fun now item => ⟨queue.add_passAll now item, add_refused⟩⟩
  · -- What comes later finds it closed, and leaves it consistent.
    intro later
    have shut := (Lasts.passAll queue later).closed closed
    exact ⟨shut, (consistent.passAll later).shut shut⟩
  · rw [lasts.overflow, lasts.maxBatch]
    rfl
  · intro ceiling policy
    exact (consistent.limited ceiling policy).symm

end Queue

end LogCourier
