import LogCourier.Queue

/-!
Soundness of queues: the length that is kept beside the items is theirs, and a closed queue is
empty.

Every way to use a queue leaves it sound, so what is read without the lock agrees with what waits.
-/

namespace LogCourier

namespace Queue

/-- An addition is its locked part, with the wish to be emptied if that asks for it. -/
theorem add_eq (queue : Queue α) (now : Nat) (item : α) :
    (queue.add now item).1 =
      { (queue.push now item).1 with
        signalled := (queue.push now item).1.signalled ||
          (queue.push now item).1.asks (queue.push now item).2 } := by
  unfold add
  split
  -- One case for each way in which the locked part can end.
  · next next pushed =>
    rw [pushed]
    cases next.asks .appended <;> simp [offerSignal]
  · next next pushed =>
    rw [pushed]
    cases next.asks .displacing <;> simp [offerSignal]
  · next next pushed => simp [pushed, asks, offerSignal]
  · next next pushed => simp [pushed, asks]

/-- What can become of an item at the door of a queue, and under which condition. -/
inductive Pushed (queue : Queue α) (now : Nat) (item : α) : Queue α → Entry → Prop where
  | refusedClosed (closed : queue.closed = true) : Pushed queue now item queue .refusedClosed
  | appended (opened : queue.closed = false)
      (room : ∀ ceiling, queue.overflow.ceiling? = some ceiling →
        queue.waiting.length < ceiling) :
      Pushed queue now item (queue.append now item) .appended
  | displacing (opened : queue.closed = false) (ceiling : Nat)
      (policy : queue.overflow = .evictOldest ceiling)
      (full : ceiling ≤ queue.waiting.length) :
      Pushed queue now item (queue.displace now item) .displacing
  | refusedFull (opened : queue.closed = false) (ceiling : Nat)
      (policy : queue.overflow = .refuseNewest ceiling)
      (full : ceiling ≤ queue.waiting.length) :
      Pushed queue now item queue .refusedFull

/-- An item at the door of a queue is refused, put behind the others, or takes a place. -/
theorem pushed_push (queue : Queue α) (now : Nat) (item : α) :
    Pushed queue now item (queue.push now item).1 (queue.push now item).2 := by
  unfold push
  cases closed : queue.closed with
  | true => exact .refusedClosed closed
  | false =>
    simp only [Bool.false_eq_true, if_false]
    -- Only a ceiling that has been reached keeps an item from joining the others.
    cases policy : queue.overflow with
    | unbounded => exact .appended closed (by simp [policy, Overflow.ceiling?])
    | evictOldest ceiling =>
      by_cases full : ceiling ≤ queue.waiting.length
      · simp only [full, if_true]
        exact .displacing closed ceiling policy full
      · simp only [full, if_false]
        refine .appended closed fun other same => ?_
        simp only [policy, Overflow.ceiling?, Option.some.injEq] at same
        omega
    | refuseNewest ceiling =>
      by_cases full : ceiling ≤ queue.waiting.length
      · simp only [full, if_true]
        exact .refusedFull closed ceiling policy full
      · simp only [full, if_false]
        refine .appended closed fun other same => ?_
        simp only [policy, Overflow.ceiling?, Option.some.injEq] at same
        omega

/-- What holds of a queue whatever has been done with it. -/
structure Sound (queue : Queue α) : Prop where
  tracked : queue.length = queue.waiting.length
  roomy : ∀ ceiling, queue.overflow.ceiling? = some ceiling → 0 < ceiling
  shut : queue.closed = true → queue.waiting = []

namespace Sound

variable {α : Type} {queue : Queue α}

/-- A new queue is sound. -/
theorem create (maxBatch : Nat) (overflow : Overflow) :
    (Queue.create maxBatch overflow : Queue α).Sound where
  tracked := rfl
  roomy := by
    -- A ceiling that is set is raised above nothing.
    intro ceiling policy
    cases overflow <;> simp only [Queue.create, Overflow.raisedTo, Overflow.ceiling?, reduceCtorEq,
      Option.some.injEq] at policy <;> omega
  shut := by simp [Queue.create]

/-- An open queue stays sound with one more item. -/
theorem append (sound : queue.Sound) (opened : queue.closed = false) (now : Nat) (item : α) :
    (queue.append now item).Sound where
  tracked := rfl
  roomy := sound.roomy
  shut := by simp [Queue.append, opened]

/-- An open queue stays sound with one item in the place of another. -/
theorem displace (sound : queue.Sound) (opened : queue.closed = false) (now : Nat) (item : α) :
    (queue.displace now item).Sound where
  tracked := rfl
  roomy := sound.roomy
  shut := by simp [Queue.displace, opened]

/-- A queue stays sound when all is taken. -/
theorem drain (sound : queue.Sound) : queue.drain.1.Sound where
  tracked := rfl
  roomy := sound.roomy
  shut _ := rfl

/-- A queue stays sound when it is closed. -/
theorem close (sound : queue.Sound) : queue.close.1.Sound where
  tracked := rfl
  roomy := sound.roomy
  shut _ := rfl

/-- A queue stays sound whatever becomes of its signal. -/
theorem resignal (sound : queue.Sound) (signalled : Bool) :
    ({ queue with signalled } : Queue α).Sound :=
  ⟨sound.tracked, sound.roomy, sound.shut⟩

/-- Whatever becomes of an item at the door of a sound queue, it stays sound. -/
theorem pushed {after : Queue α} {now : Nat} {item : α} {entry : Entry} (sound : queue.Sound)
    (pushed : Pushed queue now item after entry) : after.Sound := by
  -- A queue that refuses an item is left as it was.
  cases pushed with
  | refusedClosed => exact sound
  | appended opened => exact sound.append opened now item
  | displacing opened => exact sound.displace opened now item
  | refusedFull => exact sound

end Sound

end Queue

end LogCourier
