import LogCourier.Proofs.Queue.Contents
import LogCourier.Proofs.Queue.Mapping

/-!
Ages: one instant for all items tells as much of their ages as the timer has to know.

A queue keeps the instant of its oldest item only, and a wrong one once an item has taken the place
of the oldest. From then on it holds a full batch until all is taken, so the age does not count.
-/

namespace LogCourier

namespace Use

variable {α : Type}

/-- The use, with the instant of an addition kept beside its item. -/
def stamped : Use α → Use (Nat × α)
  | .add now item => .add now (now, item)
  | .drain => .drain
  | .close => .close
  | .takeSignal => .takeSignal

/-- The items that wait, each with the instant at which it came, the oldest first. -/
def heldSince (maxBatch : Nat) (overflow : Overflow) (uses : List (Use α)) : List (Nat × α) :=
  held maxBatch overflow (uses.map stamped)

/-- No addition came after an instant, and none came before an earlier one. -/
def Timely : Nat → List (Use α) → Prop
  | _, [] => True
  | now, .add instant _ :: earlier => instant ≤ now ∧ Timely instant earlier
  | now, _ :: earlier => Timely now earlier

/-- Whether an item has taken the place of the oldest one since all was last taken. -/
def hasDisplaced (maxBatch : Nat) (overflow : Overflow) : List (Use α) → Bool
  | [] => false
  | .add now item :: earlier =>
    hasDisplaced maxBatch overflow earlier ||
      ((Usage.after maxBatch overflow earlier).queue.push now item).2 = .displacing
  | .drain :: _ => false
  | .close :: _ => false
  | .takeSignal :: earlier => hasDisplaced maxBatch overflow earlier

end Use

/-- Whether items are ready for the timer, each of them with the instant at which it came, the
oldest first: there are enough of them, or the oldest has been waiting for a whole interval. -/
def isReadySince (now least : Nat) (interval : Span) : List (Nat × α) → Bool
  | [] => false
  | (since, _) :: rest => least ≤ rest.length + 1 || since + interval.nanos ≤ now

/-- What the one instant of a queue tells of the instants beside its items. -/
structure Queue.Dated (queue : Queue (Nat × α)) (displaced : Bool) (now : Nat) : Prop where
  ordered : queue.waiting.Pairwise fun older newer => older.1 ≤ newer.1
  past : ∀ item ∈ queue.waiting, item.1 ≤ now
  vacant : queue.oldest = none ↔ queue.waiting = []
  since : ∀ since, queue.oldest = some since →
    since ≤ now ∧ ∀ item ∈ queue.waiting.head?, item.1 ≤ since
  exact : displaced = false → queue.oldest = queue.waiting.head?.map Prod.fst
  crowded : displaced = true → queue.maxBatch ≤ queue.waiting.length

namespace Queue.Dated

variable {α : Type} {queue : Queue (Nat × α)} {displaced : Bool} {now : Nat}

/-- Where nothing waits and no instant is kept there is nothing to tell. -/
theorem ofEmpty (empty : queue.waiting = []) (unset : queue.oldest = none) (now : Nat) :
    queue.Dated false now where
  ordered := by simp [empty]
  past := by simp [empty]
  vacant := by simp [empty, unset]
  since := by simp [unset]
  exact _ := by simp [empty, unset]
  crowded := by simp

/-- Time goes on, and nothing else changes. -/
theorem mono {later : Nat} (dated : queue.Dated displaced now) (goes : now ≤ later) :
    queue.Dated displaced later where
  ordered := dated.ordered
  past := by
    -- What was past stays past.
    intro item member
    have before := dated.past item member
    omega
  vacant := dated.vacant
  since := by
    intro since told
    have before := dated.since since told
    exact ⟨by omega, before.2⟩
  exact := dated.exact
  crowded := dated.crowded

/-- Whatever becomes of the wish to be emptied, the instants remain. -/
theorem resignal (dated : queue.Dated displaced now) (signalled : Bool) :
    Dated { queue with signalled } displaced now :=
  ⟨dated.ordered, dated.past, dated.vacant, dated.since, dated.exact, dated.crowded⟩

/-- An item that comes now is the youngest, whatever has left before. -/
theorem ordered_concat {older : List (Nat × α)} (item : α)
    (ordered : older.Pairwise fun older newer => older.1 ≤ newer.1)
    (past : ∀ other ∈ older, other.1 ≤ now) :
    (older ++ [(now, item)]).Pairwise (fun older newer => older.1 ≤ newer.1) ∧
      ∀ other ∈ older ++ [(now, item)], other.1 ≤ now := by
  constructor
  · refine List.pairwise_append.mpr ⟨ordered, List.pairwise_singleton _ _, ?_⟩
    -- The only newer one is the item that comes.
    intro other member newer among
    rw [List.mem_singleton.mp among]
    exact past other member
  · intro other member
    rcases List.mem_append.mp member with member | member
    · exact past other member
    · rw [List.mem_singleton.mp member]

/-- With one more item behind the others the oldest one is the same, unless it is the first. -/
theorem append (dated : queue.Dated displaced now) (item : α) :
    (queue.append now (now, item)).Dated displaced now := by
  obtain ⟨ordered, past⟩ := ordered_concat item dated.ordered dated.past
  cases waiting : queue.waiting with
  | nil =>
    -- The instant is that of the item, and a queue in which nothing waits was not crowded.
    refine ⟨ordered, past, ?_, ?_, ?_, ?_⟩
    · simp [Queue.append, waiting]
    · simp [Queue.append, waiting]
    · simp [Queue.append, waiting]
    · intro was
      have crowded := dated.crowded was
      simp only [Queue.append, List.length_append, List.length_singleton]
      omega
  | cons first rest =>
    -- The oldest item is still the oldest, with the instant that was kept for it.
    have kept : (queue.append now (now, item)).oldest = queue.oldest := by
      simp [Queue.append, waiting]
    have head : (queue.append now (now, item)).waiting.head? = queue.waiting.head? := by
      simp [Queue.append, waiting]
    refine ⟨ordered, past, ?_, ?_, ?_, ?_⟩
    · rw [kept, dated.vacant]
      simp [Queue.append, waiting]
    · rw [kept, head]
      exact dated.since
    · rw [kept, head]
      exact dated.exact
    · intro was
      have crowded := dated.crowded was
      simp only [Queue.append, List.length_append, List.length_singleton]
      omega

/-- Where an item takes the place of the oldest, at least a full batch waits. -/
theorem displace (dated : queue.Dated displaced now) (item : α)
    (full : queue.maxBatch ≤ queue.waiting.length) :
    (queue.displace now (now, item)).Dated true now := by
  -- Whoever is the oldest then has come before the instant that is kept.
  obtain ⟨ordered, past⟩ := ordered_concat item (dated.ordered.sublist (List.tail_sublist _))
    fun other member => dated.past other (List.mem_of_mem_tail member)
  refine ⟨ordered, past, by simp [Queue.displace], ?_, by simp, ?_⟩
  · intro since told
    obtain rfl := Option.some.inj told
    exact ⟨Nat.le_refl _, fun oldest first => past oldest (List.mem_of_head? first)⟩
  · intro _
    simp only [Queue.displace, List.length_append, List.length_tail, List.length_singleton]
    omega

/-- Whatever becomes of an item at the door, the instant tells what it should; the ceiling at which
the oldest item has to leave makes room for a full batch. -/
theorem pushed {after : Queue (Nat × α)} {entry : Entry} {item : α}
    (dated : queue.Dated displaced now)
    (room : ∀ ceiling, queue.overflow = .evictOldest ceiling → queue.maxBatch ≤ ceiling)
    (pushed : Pushed queue now (now, item) after entry) :
    after.Dated (displaced || entry = .displacing) now := by
  -- A queue that refuses the item is left as it was.
  cases pushed with
  | refusedClosed => rw [decide_eq_false (by simp), Bool.or_false]; exact dated
  | refusedFull => rw [decide_eq_false (by simp), Bool.or_false]; exact dated
  | appended => rw [decide_eq_false (by simp), Bool.or_false]; exact dated.append item
  | displacing opened ceiling policy full =>
    have enough := room ceiling policy
    rw [decide_eq_true rfl, Bool.or_true]
    exact dated.displace item (by omega)

end Queue.Dated

namespace Usage

variable {α : Type} {maxBatch : Nat} {overflow : Overflow} {uses : List (Use α)}

/-- The instants beside the items make no difference to what a queue does. -/
theorem after_stamped (maxBatch : Nat) (overflow : Overflow) (uses : List (Use α)) :
    (after maxBatch overflow (uses.map Use.stamped)).queue.map Prod.snd =
      (after maxBatch overflow uses).queue := by
  -- Induction on the history: every use does the same to both.
  induction uses with
  | nil => rfl
  | cons latest earlier ih =>
    simp only [List.map_cons, after]
    cases latest with
    | add now item =>
      simp only [use, ← ih]
      exact Queue.add_map.symm
    | drain => simp only [use, ← ih, Queue.drain_map, Use.stamped]
    | close => simp only [use, ← ih, Queue.close_map, Use.stamped]
    | takeSignal =>
      simp only [use, ← ih, Use.stamped]
      rfl

/-- Beside their instants wait the items that the history says. -/
theorem waiting_stamped (maxBatch : Nat) (overflow : Overflow) (uses : List (Use α)) :
    (after maxBatch overflow (uses.map Use.stamped)).queue.waiting =
      Use.heldSince maxBatch overflow uses :=
  (Follows.after maxBatch overflow _).waiting

/-- What waits beside its instants is what waits. -/
theorem heldSince_snd (maxBatch : Nat) (overflow : Overflow) (uses : List (Use α)) :
    (Use.heldSince maxBatch overflow uses).map Prod.snd =
      (after maxBatch overflow uses).queue.waiting := by
  -- Stamps are laid beside the items and change none of them.
  rw [← after_stamped, ← waiting_stamped]
  rfl

/-- The one instant is the same with and without the instants beside the items. -/
theorem oldest_stamped (maxBatch : Nat) (overflow : Overflow) (uses : List (Use α)) :
    (after maxBatch overflow (uses.map Use.stamped)).queue.oldest =
      (after maxBatch overflow uses).queue.oldest :=
  congrArg Queue.oldest (after_stamped maxBatch overflow uses)

/-- The ceiling at which the oldest item of a queue has to leave makes room for a full batch. -/
theorem Follows.roomy {usage : Usage α} (follows : Follows maxBatch overflow uses usage)
    {ceiling : Nat} (policy : usage.queue.overflow = .evictOldest ceiling) :
    usage.queue.maxBatch ≤ ceiling := by
  -- The size is fixed, and the ceiling was raised to it when the queue was made.
  rw [follows.size]
  rw [follows.policy] at policy
  cases overflow <;> simp only [Overflow.raisedTo, reduceCtorEq, Overflow.evictOldest.injEq]
    at policy
  omega

/-- However a queue has been used while time went on, its one instant tells what it should. -/
theorem dated (maxBatch : Nat) (overflow : Overflow) :
    ∀ (uses : List (Use α)) (now : Nat), Use.Timely now uses →
      (after maxBatch overflow (uses.map Use.stamped)).queue.Dated
        (Use.hasDisplaced maxBatch overflow uses) now := by
  -- Induction on the history; only additions put instants beside items.
  intro uses
  induction uses with
  | nil => intro now _; exact .ofEmpty rfl rfl now
  | cons latest earlier ih =>
    intro now timely
    cases latest with
    | drain => exact .ofEmpty rfl rfl now
    | close => exact .ofEmpty rfl rfl now
    | takeSignal => exact (ih now timely).resignal _
    | add instant item =>
      obtain ⟨goes, timely⟩ := timely
      have dated := ih instant timely
      have follows := Follows.after maxBatch overflow (earlier.map Use.stamped)
      -- Both queues let the item in, or refuse it, in the same way.
      have same : ((after maxBatch overflow earlier).queue.push instant item).2 =
          ((after maxBatch overflow (earlier.map Use.stamped)).queue.push instant
            (instant, item)).2 := by
        rw [← after_stamped]
        exact congrArg Prod.snd (@Queue.push_map _ _ _ Prod.snd instant (instant, item))
      have pushed := (after maxBatch overflow (earlier.map Use.stamped)).queue.pushed_push instant
        (instant, item)
      simp only [List.map_cons, Use.stamped, after, use, Use.hasDisplaced, same, Queue.add_eq]
      exact ((dated.pushed (fun _ => follows.roomy) pushed).resignal _).mono goes

end Usage

/-- However a new queue has been used while time went on, it is ready for the timer exactly if the
items that wait are, judged by the instant at which each of them came; the timer asks for no more
than a full batch. With the instant of the oldest item in the place of the one that it keeps, the
queue would give the same answer. -/
theorem Usage.isReady_exact (maxBatch : Nat) (overflow : Overflow) (uses : List (Use α))
    {now least : Nat} (interval : Span) (timely : Use.Timely now uses)
    (fitting : least ≤ max maxBatch 1) :
    let queue := (Usage.after maxBatch overflow uses).queue
    let pending := Use.heldSince maxBatch overflow uses
    pending.map Prod.snd = queue.waiting ∧
      pending.Pairwise (fun older newer => older.1 ≤ newer.1) ∧
      queue.isReady now least interval = isReadySince now least interval pending ∧
      ({ queue with oldest := pending.head?.map Prod.fst } : Queue α).isReady now least interval =
        queue.isReady now least interval := by
  intro queue pending
  have same : pending.map Prod.snd = queue.waiting := heldSince_snd maxBatch overflow uses
  -- The queue does what it would do with the instants beside its items.
  have dated := Usage.dated maxBatch overflow uses now timely
  have stamps : (Usage.after maxBatch overflow (uses.map Use.stamped)).queue.waiting = pending :=
    waiting_stamped maxBatch overflow uses
  have follows := Usage.Follows.after maxBatch overflow uses
  have length : queue.length = pending.length := by
    rw [follows.sound.tracked, ← same, List.length_map]
  refine ⟨same, stamps ▸ dated.ordered, ?_⟩
  cases displaced : Use.hasDisplaced maxBatch overflow uses with
  | true =>
    -- A full batch waits, and it is enough whatever the ages are.
    have crowded : max maxBatch 1 ≤ pending.length := by
      have full := dated.crowded displaced
      rwa [(Usage.Follows.after maxBatch overflow _).size, stamps] at full
    have occupied : queue.length ≠ 0 := by omega
    have enough : least ≤ queue.length := by omega
    constructor
    · cases waiting : pending with
      | nil => simp [length, waiting] at occupied
      | cons first rest =>
        have enough' : least ≤ rest.length + 1 := by simpa [length, waiting] using enough
        simp [Queue.isReady, occupied, enough, isReadySince, enough']
    · simp [Queue.isReady, occupied, enough]
  | false =>
    -- The instant that is kept is that of the oldest item.
    have oldest : queue.oldest = pending.head?.map Prod.fst := by
      rw [← stamps, ← dated.exact displaced, oldest_stamped]
    rw [← oldest]
    refine ⟨?_, rfl⟩
    have past := dated.past
    rw [stamps] at past
    cases waiting : pending with
    | nil => simp [Queue.isReady, isReadySince, length, waiting]
    | cons first rest =>
      -- An age of at least an interval is an instant at least an interval ago.
      have came := past first (by simp [waiting])
      have aged : interval.nanos ≤ now - first.1 ↔ first.1 + interval.nanos ≤ now := by omega
      simp [Queue.isReady, Queue.isStale, Queue.age?, isReadySince, length, oldest, waiting, aged]

/-- What may be done with a queue for one item in which the oldest of two has to leave. -/
def Use.crowding : List (Use Nat) :=
  [.add 9 2, .add 5 1, .add 0 0]

/-- The oldest item has left, and the next one has been waiting for long enough. -/
theorem Usage.isReady_exact_displaced :
    Use.heldSince 1 (.evictOldest 2) Use.crowding = [(5, 1), (9, 2)] ∧
      (Usage.after 1 (.evictOldest 2) Use.crowding).queue.oldest = some 9 ∧
      (Usage.after 1 (.evictOldest 2) Use.crowding).queue.isReady 9 1 ⟨4⟩ =
        isReadySince 9 1 ⟨4⟩ [(5, 1), (9, 2)] :=
  ⟨by decide, by decide,
    (Usage.isReady_exact 1 (.evictOldest 2) Use.crowding ⟨4⟩ (by simp [Use.crowding, Use.Timely])
      -- At the ceiling the eviction comes with an event of another instant.
      (by decide)).2.2.1⟩

/-- A timer that asks for more than a full batch could tell the difference. -/
example : (Usage.after 1 (.evictOldest 2) Use.crowding).queue.isReady 9 3 ⟨4⟩ ≠
    isReadySince 9 3 ⟨4⟩ (Use.heldSince 1 (.evictOldest 2) Use.crowding) := by decide

end LogCourier
