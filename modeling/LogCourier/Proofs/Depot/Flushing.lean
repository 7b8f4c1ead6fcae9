import LogCourier.Proofs.Depot.Exclusion
import LogCourier.Proofs.Depot.Outcomes
import LogCourier.Proofs.Depot.Ripening

/-!
Flushing: what a batch that is taken for the queue or for the timer may be.

It is never empty, it is there for the reason for which it is taken, and it is counted once. Until
its send has ended it is the only one on its way.
-/

namespace LogCourier

/-- How many batches were taken with a trigger in the course of acts, the latest first. -/
def takings (settings : Settings) (trigger : Trigger) : List Act → Nat
  | [] => 0
  | act :: earlier =>
    -- Where nothing waits no batch is taken.
    takings settings trigger earlier +
      if act.task = .drain trigger ∧ pendingAfter settings earlier ≠ [] then 1 else 0

/-- What a trigger counts as is none of the other counts. -/
theorem Trigger.apart {trigger : Trigger} {counter : Counter}
    (counts : trigger.counter? = some counter) :
    counter ≠ .submitted ∧ counter ≠ .queued ∧ counter ≠ .dropped ∧ counter ≠ .shown ∧
      counter ≠ .warning := by
  -- Each of the three counts is told apart from the others by its name.
  cases trigger <;> cases counts <;> simp

section

variable {depot after : Depot} {agent next : Agent} {task : Task} {trigger : Trigger}
  {counter : Counter}

/-- Batches with a trigger are counted by the tasks of counting them, and by no others. -/
theorem Deed.tally_trigger (deed : Deed depot agent task after next)
    (counts : trigger.counter? = some counter) :
    after.tally.get counter =
      depot.tally.get counter + UInt64.ofNat (if task = .count counter then 1 else 0) := by
  -- The other counts are kept beside these.
  have apart := (Trigger.apart counts).1
  rcases deed with intake | delivery | duty
  · cases intake with
    | submit => simp [Depot.note, Depot.count, Tally.get_count, apart]
    | count other =>
      by_cases same : other = counter
      · simp [Depot.count, Tally.get_count, same]
      · simp [Depot.count, Tally.get_count, same, Ne.symm same]
    | _ => simp [Depot.note, Depot.tell]
  · cases delivery with
    | deliver | giveUp =>
      -- The end of a send is counted among the batches, whatever they were taken for.
      cases trigger <;> cases counts <;> simp [Tally.get, Tally.delivered, Tally.failed]
    | _ => simp [Depot.note, Depot.enter]
  · cases duty with
    | reportLosses => unfold Depot.reportLosses; split <;> simp [Depot.tell, Depot.note]
    | _ => simp [Depot.note, Depot.enter, Depot.tell, Depot.release, Depot.lose]

/-- Whoever takes a batch with a trigger has it to count, and nobody else comes to count one. -/
theorem Deed.count_trigger (deed : Deed depot agent task after next)
    (orderly : BatchlessBelow (task :: agent.tasks)) (counts : trigger.counter? = some counter) :
    next.tasks.count (.count counter) = agent.tasks.count (.count counter) +
      if task = .drain trigger ∧ depot.queue.waiting ≠ [] then 1 else 0 := by
  obtain ⟨submitted, queued, dropped, shown, warning⟩ := Trigger.apart counts
  have onto {pushed : List Task} (left : next.tasks = pushed ++ agent.tasks)
      (none : .count counter ∉ pushed) (other : ∀ trigger, task ≠ .drain trigger) :
      next.tasks.count (.count counter) = agent.tasks.count (.count counter) +
        if task = .drain trigger ∧ depot.queue.waiting ≠ [] then 1 else 0 := by
    rw [left, List.count_append, List.count_eq_zero.mpr none, if_neg fun both => other _ both.1]
    omega
  -- Above what a crash leaves there is nothing to count.
  have unwound (crash : Crash) (outer : task.isInner = false) (left : next = agent.unwind crash)
      (other : ∀ trigger, task ≠ .drain trigger) :
      next.tasks.count (.count counter) = agent.tasks.count (.count counter) +
        if task = .drain trigger ∧ depot.queue.waiting ≠ [] then 1 else 0 := by
    have none : .count counter ∉ agent.tasks := by
      intro below
      have place := ((List.pairwise_cons.mp orderly).1 _ below).resolve_left (by simp [outer])
      cases place.1
    have dropped : .count counter ∉ next.tasks := by
      rw [left]
      exact fun kept => none (List.mem_filter.mp kept).1
    rw [List.count_eq_zero.mpr none, List.count_eq_zero.mpr dropped,
      if_neg fun both => other _ both.1]
  rcases deed with intake | delivery | duty
  · cases intake with
    | submit =>
      refine onto rfl ?_ (by simp)
      unfold Depot.acceptance
      cases depot.settings.isRemote <;> cases depot.settings.echo <;> simp [dropped]
    | append _ queue =>
      refine onto rfl ?_ (by simp)
      cases queue.asks .appended <;> simp [queued]
    | displace _ _ _ _ queue =>
      refine onto rfl ?_ (by simp)
      cases queue.asks .displacing <;> simp [dropped]
    | displaceNobody _ queue =>
      refine onto rfl ?_ (by simp)
      cases queue.asks .displacing <;> simp [dropped]
    | claim => exact onto rfl (by simp [warn, warning]) (by simp)
    | echo => exact onto rfl (by simp [shown]) (by simp)
    | echoFails => exact onto rfl (by simp [warn, warning]) (by simp)
    | turnAway => exact onto rfl (by simp [dropped]) (by simp)
    | refuseClosed => exact onto rfl (by simp [dropped]) (by simp)
    | refuseFull => exact onto rfl (by simp [dropped]) (by simp)
    | bridge | seeBanner | offer => exact onto rfl (by simp) (by simp)
    | _ => exact @onto [] rfl (by simp) (by simp)
  · cases delivery with
    | drainNothing _ empty => simp [empty]
    | drain taken occupied =>
      -- The count of the trigger stands above the batch.
      by_cases same : taken = trigger
      · simp [Agent.push, same, counts, occupied]
      · have other : taken.counter? ≠ some counter := by
          cases taken <;> cases trigger <;> cases counts <;> simp_all [Trigger.counter?]
        cases own : taken.counter? <;> simp_all [Agent.push]
    | send batch timeout reply =>
      have none := @forall_mem_inside (fun new => new ≠ .count counter) reply
        (.settle agent.sending batch reply.outcome) (by simp) (by simp) (by simp) (by simp)
      exact onto rfl (fun member => none _ member rfl) (by simp)
    | giveUp =>
      refine onto rfl ?_ (by simp)
      cases depot.settings.echo <;> simp [warn, warning]
    | showCrashes _ _ crash => exact unwound crash rfl rfl (by simp)
    | flushCrashes crash => exact unwound crash rfl rfl (by simp)
    | «show» => exact onto rfl (by simp [shown]) (by simp)
    | showFails | flushFails => exact onto rfl (by simp [warn, warning]) (by simp)
    | flushFor | allShown | findFull | findEnough | findFew | findStale =>
      exact onto rfl (by simp) (by simp)
    | _ => exact @onto [] rfl (by simp) (by simp)
  · cases duty with
    | takeCourier | takeNobody | join =>
      refine onto rfl ?_ (by simp)
      unfold Depot.conclusion
      cases depot.settings.echo <;> simp
    | _ =>
      first
      | exact @onto [] rfl (by simp) (by simp)
      | exact onto rfl (by simp) (by simp)

/-- Whoever only flushes on request does nothing else of the round. -/
theorem Deed.requests (deed : Deed depot agent task after next)
    (requests : ∀ old ∈ task :: agent.tasks, old.isPatrol = true →
      old = .flushFor .request ∨ old = .drain .request) :
    ∀ new ∈ next.tasks, new.isPatrol = true → new = .flushFor .request ∨ new = .drain .request := by
  have below (old : Task) (member : old ∈ agent.tasks) :=
    requests old (List.mem_cons_of_mem _ member)
  have own := requests task List.mem_cons_self
  rcases deed.patrol with none | patrol
  · exact fun new member kind => below new (none new member kind) kind
  · generalize next.tasks = left at patrol
    -- A flush on the spot is decided upon, or begun.
    cases patrol with
    | decided trigger =>
      have request : trigger = .request := by simpa using own rfl
      simpa [request] using below
    | lock => simpa [Task.isPatrol] using below
    | _ => simp [Task.isPatrol] at own

end

section

variable {settings : Settings} {threshold : Threshold} {transportName sinkName : String}
  {wall : Timestamp} {script : Script} {acts : List Act} {world : World}

/-- What a task takes is told by the chronicle. -/
theorem ToldByChronicle.takings_cons (logged : ToldByChronicle settings acts world)
    (trigger : Trigger)
    (instant : Nat) (task : Task) :
    takings settings trigger (⟨instant, task⟩ :: acts) = takings settings trigger acts +
      if task = .drain trigger ∧ world.depot.queue.waiting ≠ [] then 1 else 0 := by
  -- The queue and the chronicle have the same events waiting.
  rw [takings, ← logged.waiting]
  simp only [ne_eq, List.map_eq_nil_iff]

/-- As many batches are counted for a trigger, or about to be, as were taken with it. -/
theorem takings_counted {trigger : Trigger} {counter : Counter}
    (counts : trigger.counter? = some counter)
    (chronicle : World.Chronicle
      (.initial (.create settings threshold transportName sinkName wall script)) acts world) :
    Counts (world.depot.tally.get counter) (world.tasks.count (.count counter))
      (takings settings trigger acts) := by
  -- Every world on the way has the tasks of its agents in order.
  refine chronicle.induction
    (fun acts world => Counts (world.depot.tally.get counter) (world.tasks.count (.count counter))
      (takings settings trigger acts)) ⟨0, ?_, ?_⟩ ?_
  · cases counter <;> rfl
  · simp [takings]
  · intro acts more world next before counted stroke
    have logged := ToldByChronicle.ofChronicle before
    cases stroke with
    | act left right agent after task split joined deed =>
      have tallied :=
        (OutcomesTallied.initial settings threshold transportName sinkName wall script).reachable
          before.reachable
      have orderly := tallied.orderly _ (Custody.agent_mem split)
      have step := deed.count_trigger orderly counts
      rw [List.singleton_append, logged.takings_cons, deed.tally_trigger counts]
      refine counted.grow ?_
      rw [World.tasks_of_split split, World.tasks_of_split joined]
      simp only [List.count_append, List.count_cons, step]
      -- The task of counting is done, or a task of counting comes, or neither.
      by_cases own : task = .count counter
      · simp [own]
        omega
      · simp [own]
        omega
    | call call same joined =>
      have after : next.tasks = world.tasks ++ call.tasks world.depot.settings :=
        World.tasks_of_joined joined
      have none : (call.tasks world.depot.settings).count (.count counter) = 0 := by
        cases call <;> simp [Call.tasks]
      rw [List.nil_append, same, after, List.count_append, none]
      exact counted
    | outside now wall permits later elsewhere same =>
      have after : next.tasks = world.tasks := by simp [World.tasks, same]
      rw [List.nil_append, elsewhere, after]
      exact counted

end

/-- Callers take no batch for the queue or for the timer, and as long as the courier has never been
on a thread of its own nobody does. -/
structure Unhired (settings : Settings) (acts : List Act) (world : World) : Prop where
  callers : ∀ caller ∈ world.callers, ∀ task ∈ caller.tasks, task.isPatrol = true →
    task = .flushFor .request ∨ task = .drain .request
  dormant : world.depot.thread = .none → world.courier = .courier
  none : world.depot.thread = .none → ∀ trigger : Trigger, trigger.counter?.isSome = true →
    takings settings trigger acts = 0

namespace Unhired

variable {settings : Settings} {acts more : List Act} {world next : World}

/-- Before anything has happened nobody has called. -/
theorem initial (depot : Depot) : Unhired settings [] (.initial depot) :=
  ⟨by simp, fun _ => rfl, fun _ _ _ => rfl⟩

/-- A turn leaves it so. -/
theorem stroke (unhired : Unhired settings acts world) (stroke : Stroke world next more) :
    Unhired settings (more ++ acts) next := by
  obtain ⟨callers, dormant, none⟩ := unhired
  cases stroke with
  | act left right agent after task split joined deed =>
    cases left with
    | nil =>
      -- The courier that has never been on a thread cannot do anything.
      have asleep : next.depot.thread ≠ .none := fun alone =>
        Post.asleep (by simp [deed.thread alone])
          ((List.cons.inj split).1.symm.trans (dormant (deed.thread alone))) deed
      refine ⟨?_, fun alone => absurd alone asleep, fun alone => absurd alone asleep⟩
      rw [(List.cons.inj joined).2, ← (List.cons.inj split).2]
      exact callers
    | cons courier left =>
      have before := (List.cons.inj split).2
      have own := callers { agent with tasks := task :: agent.tasks } (by simp [before])
      have still : next.courier = world.courier := by
        rw [(List.cons.inj joined).1, (List.cons.inj split).1]
      refine ⟨?_, fun alone => ?_, fun alone trigger counts => ?_⟩
      · exact forall_mem_replaced before (List.cons.inj joined).2 callers (deed.requests own)
      · rw [still]
        exact dormant (deed.thread alone)
      · -- A caller takes nothing with such a trigger.
        have other : task ≠ .drain trigger := by
          rintro rfl
          have request : trigger = .request := by
            simpa using own (.drain trigger) List.mem_cons_self rfl
          simp [request, Trigger.counter?] at counts
        rw [List.singleton_append, takings, if_neg fun both => other both.1]
        exact none (deed.thread alone) trigger counts
  | call call same joined =>
    have begins : ∀ task ∈ call.tasks world.depot.settings, task.isPatrol = true →
        task = .flushFor .request ∨ task = .drain .request := by
      cases call <;> simp [Call.tasks, Task.isPatrol]
    have courier : next.courier = world.courier := (List.cons.inj joined).1
    rw [List.nil_append]
    refine ⟨forall_mem_joined (List.cons.inj joined).2 callers begins, ?_, ?_⟩
    · rw [same, courier]
      exact dormant
    · rw [same]
      exact none
  | outside now wall permits later elsewhere same =>
    obtain ⟨courier, others⟩ := List.cons.inj same
    rw [List.nil_append]
    refine ⟨by rw [others]; exact callers, ?_, ?_⟩
    · rw [elsewhere, courier]
      exact dormant
    · rw [elsewhere]
      exact none

/-- It holds of every world and its chronicle. -/
theorem ofChronicle {depot : Depot} (chronicle : World.Chronicle (.initial depot) acts world) :
    Unhired settings acts world :=
  chronicle.induction (Unhired settings) (.initial depot) fun _ unhired stroke =>
    unhired.stroke stroke

end Unhired

/-- No batch that was taken is empty. -/
structure NoBatchEmpty (depot : Depot) (held : List Task) : Prop where
  held : ∀ task ∈ held, task.isBatch = true → task.batch ≠ []
  sent : ∀ batch payload timeout sending,
    Occurrence.sent batch payload timeout sending ∈ traffic depot.journal → batch ≠ []

section

variable {before after : Depot} {old new upper lower : List Task}

/-- A move of events packs no empty batch. -/
theorem NoBatchEmpty.move (laden : NoBatchEmpty before (upper ++ old ++ lower))
    (move : Move before after old new) :
    NoBatchEmpty after (upper ++ new ++ lower) := by
  obtain ⟨held, sent⟩ := laden
  -- A batch is packed only where something waits, and otherwise handed on as it is.
  have packed : ∀ task ∈ new, task.isBatch = true → task.batch ≠ [] := by
    intro task member batch
    cases move with
    | drain _ _ occupied =>
      rw [List.mem_singleton.mp member]
      exact occupied
    | send events timeout =>
      rw [List.mem_singleton.mp member]
      exact held (.send events timeout) (by simp) rfl
    | still | enter | deliver | fail | count => cases member
    | submit | turnAway | offer | refuse | shift =>
      rw [List.mem_singleton.mp member] at batch
      cases batch
  constructor
  · intro task member batch
    rcases List.mem_append.mp member with member | below
    · rcases List.mem_append.mp member with above | own
      · exact held task (by simp [above]) batch
      · exact packed task own batch
    · exact held task (by simp [below]) batch
  · intro batch payload timeout sending member
    have earlier := sent batch payload timeout sending
    cases move with
    | send other span _ _ told =>
      simp only [told, List.mem_append, List.mem_singleton, Occurrence.sent.injEq] at member
      rcases member with member | ⟨rfl, _⟩
      · exact earlier member
      · exact held (.send batch span) (by simp) rfl
    | still told | count _ told | submit _ told | turnAway _ _ told | offer _ _ told
      | refuse _ _ _ told | enter _ _ told | shift _ _ _ _ _ told | drain _ told
      | deliver _ _ told | fail _ _ _ _ told =>
      refine earlier ?_
      simpa [told] using member

/-- All that waits is taken for a batch, and a batch goes on until its send has ended. -/
theorem Move.packs (move : Move before after old new) :
    ∃ news, traffic after.journal = traffic before.journal ++ news ∧
      old.countP Task.isBatch +
          (if before.queue.waiting ≠ [] ∧ after.queue.waiting = [] then 1 else 0) ≤
        news.countP Occurrence.isEnd + new.countP Task.isBatch := by
  -- Only what takes a batch leaves nothing waiting where something did.
  have stays (same : after.queue.waiting = before.queue.waiting) :
      ¬ (before.queue.waiting ≠ [] ∧ after.queue.waiting = []) := by
    rw [same]
    exact fun both => both.1 both.2
  cases move with
  | still told same =>
    exact ⟨[], by simpa using told, by rw [if_neg (stays same)]; exact Nat.le_refl _⟩
  | offer _ _ told same =>
    exact ⟨[], by simpa using told, by rw [if_neg (stays same)]; exact Nat.le_refl _⟩
  | count _ told same =>
    exact ⟨[], by simpa using told, by rw [if_neg (stays same)]; exact Nat.le_refl _⟩
  | submit _ told same | turnAway _ _ told same | refuse _ _ _ told same
    | send _ _ _ _ told same | deliver _ _ told same | fail _ _ _ _ told same =>
    exact ⟨_, told, by rw [if_neg (stays same)]; exact Nat.le_refl _⟩
  | enter _ _ told longer =>
    exact ⟨_, told, by rw [if_neg (by simp [longer])]; exact Nat.le_refl _⟩
  | shift _ _ _ _ _ told _ moved =>
    exact ⟨_, told, by rw [if_neg (by simp [moved])]; exact Nat.le_refl _⟩
  | drain _ told occupied empty =>
    exact ⟨[], by simpa using told, by rw [if_pos ⟨occupied, empty⟩]; exact Nat.le_refl _⟩

end

/-- Whoever takes what waits leaves nothing. -/
theorem Deed.drains {depot after : Depot} {agent next : Agent} {trigger : Trigger}
    (deed : Deed depot agent (.drain trigger) after next) : after.queue.waiting = [] := by
  rcases deed with intake | delivery | duty
  · -- Only a delivery takes what waits, and each way to do so empties the queue.
    cases intake
  · cases delivery <;> rfl
  · cases duty

/-- No batch is empty, and every batch that was taken for the queue or for the timer has ended, or
is on its way. -/
structure TakenBatchesTold (settings : Settings) (acts : List Act) (world : World) : Prop where
  laden : NoBatchEmpty world.depot (cargo world.tasks)
  bound : takings settings .size acts + takings settings .timer acts ≤
    world.depot.sendsEnded + world.tasks.countP Task.isBatch

namespace TakenBatchesTold

variable {settings : Settings} {acts more : List Act} {world next : World}

/-- Before anything has happened nothing was taken. -/
theorem initial (threshold : Threshold) (transportName sinkName : String) (wall : Timestamp)
    (script : Script) :
    TakenBatchesTold settings []
      (.initial (.create settings threshold transportName sinkName wall script)) where
  laden := by
    -- There is no courier's task that takes anything, and no batch.
    constructor <;>
      simp [Depot.create, Task.isCargo]
  bound := Nat.zero_le _

/-- A turn leaves it so. -/
theorem stroke (packed : TakenBatchesTold settings acts world) (core : CoreInvariant world)
    (logged : ToldByChronicle settings acts world) (stroke : Stroke world next more) :
    TakenBatchesTold settings (more ++ acts) next := by
  obtain ⟨laden, bound⟩ := packed
  obtain ⟨old, new, upper, lower, move, took, put, _⟩ :=
    stroke.turn.move core.custody core.sound
  constructor
  · rw [put]
    rw [took] at laden
    exact laden.move move
  · obtain ⟨news, told, step⟩ := move.packs
    -- At most one batch is taken in a turn, and only where all that waited is gone then.
    have taken : takings settings .size (more ++ acts) + takings settings .timer (more ++ acts) ≤
        takings settings .size acts + takings settings .timer acts +
          if world.depot.queue.waiting ≠ [] ∧ next.depot.queue.waiting = [] then 1 else 0 := by
      cases stroke with
      | act left right agent after task split joined deed =>
        rw [List.singleton_append, logged.takings_cons, logged.takings_cons]
        by_cases drains : ∃ trigger, task = .drain trigger
        · obtain ⟨trigger, rfl⟩ := drains
          cases trigger <;> simp [deed.drains] <;> omega
        · have none (trigger : Trigger) : task ≠ .drain trigger := fun same => drains ⟨_, same⟩
          simp [none]
      | call | outside => exact Nat.le_add_right _ _
    rw [← countP_isBatch_cargo, put]
    rw [← countP_isBatch_cargo, took] at bound
    simp only [Depot.sendsEnded, told, List.countP_append] at bound ⊢
    omega

/-- It holds of every world and its chronicle. -/
theorem ofChronicle (remote : settings.isRemote = true) {threshold : Threshold}
    {transportName sinkName : String} {wall : Timestamp} {script : Script}
    (chronicle : World.Chronicle
      (.initial (.create settings threshold transportName sinkName wall script)) acts world) :
    TakenBatchesTold settings acts world := by
  -- Every world on the way keeps the core invariant, with all that its chronicle tells.
  refine chronicle.induction (TakenBatchesTold settings) (initial ..) ?_
  intro acts more world next before packed stroke
  exact packed.stroke ((CoreInvariant.initial remote ..).reachable before.reachable)
    (.ofChronicle before) stroke

end TakenBatchesTold

/-- The sends that have ended are those that ended well and those that did not. -/
theorem Depot.sendsEnded_eq (depot : Depot) :
    depot.sendsEnded = depot.journal.countP Occurrence.isDelivered +
      depot.journal.countP Occurrence.isGivenUp := by
  rw [sendsEnded, traffic, List.countP_reverse, List.countP_filter]
  -- Induction on the journal: an end is of the one kind or of the other.
  induction depot.journal with
  | nil => rfl
  | cons latest earlier ih =>
    simp only [List.countP_cons, ih]
    cases latest with
    | ended batch outcome =>
      cases outcome <;>
        simp [Occurrence.isEnd, Occurrence.isTraffic, Occurrence.isDelivered,
          Occurrence.isGivenUp] <;> omega
    | _ => simp [Occurrence.isEnd, Occurrence.isDelivered, Occurrence.isGivenUp]

section

variable {settings : Settings} {threshold : Threshold} {transportName sinkName : String}
  {wall : Timestamp} {script : Script} {acts : List Act} {world : World}

/-- Every task that was done was warranted when it was done. -/
theorem warranted_before (remote : settings.isRemote = true)
    (fitting : settings.minBatch ≤ settings.maxBatch)
    (chronicle : World.Chronicle
      (.initial (.create settings threshold transportName sinkName wall script)) acts world)
    {later earlier : List Act} {instant : Nat} {task : Task}
    (past : acts = later ++ ⟨instant, task⟩ :: earlier) :
    ∃ between, ToldByChronicle settings earlier between ∧ between.depot.now = instant ∧
      between.depot.Warrants task := by
  subst past
  -- The chronicle has a world at each of its acts, in which the invariant held.
  obtain ⟨between, next, before, stroke⟩ := chronicle.before
  cases stroke with
  | act left right agent after task split joined deed =>
    have warranted := TakesWithReason.ofChronicle remote fitting before
    exact ⟨between, .ofChronicle before, rfl,
      warranted.warrants _ (Custody.agent_mem split) task List.mem_cons_self⟩

/-- Where the timer may take what waits, enough waits or some event has been waiting for a whole
interval. -/
theorem ToldByChronicle.ripe (logged : ToldByChronicle settings acts world) {instant : Nat}
    (ripe : world.depot.Ripe instant) :
    pendingAfter settings acts ≠ [] ∧
      (settings.minBatch ≤ (pendingAfter settings acts).length ∨
        ∃ item ∈ pendingAfter settings acts,
          item.1 + settings.publishInterval.nanos ≤ instant) := by
  obtain ⟨occupied, warrant⟩ := ripe
  rw [logged.same, ← logged.length] at warrant
  rw [← logged.waiting, ne_eq, List.map_eq_nil_iff] at occupied
  refine ⟨occupied, warrant.imp_right ?_⟩
  -- The oldest event came no later than the instant that the queue keeps.
  rintro ⟨since, oldest, stale⟩
  obtain ⟨queue, dated, waiting, kept, _⟩ := logged.dated
  have first := (dated.since since (kept.trans oldest)).2
  rw [waiting] at first
  obtain ⟨item, rest, pending⟩ := List.exists_cons_of_ne_nil occupied
  have before := first item (by simp [pending])
  exact ⟨item, by simp [pending], by omega⟩

end

/-- What holds of all batches that were taken in the course of acts. -/
structure Worthwhile (settings : Settings) (acts : List Act) (world : World) : Prop where
  /-- No batch that was handed to the transport is empty. -/
  sent : ∀ batch payload timeout sending,
    Occurrence.sent batch payload timeout sending ∈ world.depot.journal → batch ≠ []
  /-- What waits, and would be taken now, is told by the acts. -/
  waiting : world.depot.queue.waiting = (pendingAfter settings acts).map Prod.snd
  /-- What was taken for the queue was a full batch. -/
  size : ∀ later instant earlier, acts = later ++ ⟨instant, .drain .size⟩ :: earlier →
    max settings.maxBatch 1 ≤ (pendingAfter settings earlier).length
  /-- What was taken for the timer was enough for it, or had waited for a whole interval. -/
  timer : ∀ later instant earlier, acts = later ++ ⟨instant, .drain .timer⟩ :: earlier →
    pendingAfter settings earlier ≠ [] ∧
      (settings.minBatch ≤ (pendingAfter settings earlier).length ∨
        ∃ item ∈ pendingAfter settings earlier,
          item.1 + settings.publishInterval.nanos ≤ instant)
  /-- These batches are counted, once each, unless that is still to be done. -/
  sizes : Counts world.depot.tally.sizeFlushes (world.tasks.count (.count .sizeFlush))
    (takings settings .size acts)
  timers : Counts world.depot.tally.timerFlushes (world.tasks.count (.count .timerFlush))
    (takings settings .timer acts)
  batchesSent : world.depot.tally.batchesSent =
    UInt64.ofNat (world.depot.journal.countP Occurrence.isDelivered)
  batchesFailed : world.depot.tally.batchesFailed =
    UInt64.ofNat (world.depot.journal.countP Occurrence.isGivenUp)
  /-- They are among those whose send has ended and the one on its way. -/
  among : takings settings .size acts + takings settings .timer acts ≤
    world.depot.journal.countP Occurrence.isDelivered +
      world.depot.journal.countP Occurrence.isGivenUp + world.tasks.countP Task.isBatch
  single : world.tasks.countP Task.isBatch ≤ 1

/-- As long as the counts of sends have not wrapped around, the counts of batches for the queue and
for the timer do not exceed them by more than the batch on its way. -/
theorem Worthwhile.words {settings : Settings} {acts : List Act} {world : World}
    (worthwhile : Worthwhile settings acts world)
    (unwrapped : world.depot.journal.countP Occurrence.isDelivered +
      world.depot.journal.countP Occurrence.isGivenUp + 1 < UInt64.size) :
    world.depot.tally.sizeFlushes.toNat + world.depot.tally.timerFlushes.toNat ≤
      world.depot.tally.batchesSent.toNat + world.depot.tally.batchesFailed.toNat +
        world.tasks.countP Task.isBatch := by
  -- None of the words is too short for what it counts.
  have whole {count : Nat} (short : count < UInt64.size) : (UInt64.ofNat count).toNat = count :=
    UInt64.toNat_ofNat_of_lt' short
  obtain ⟨sizes, sizeWord, sizeSum⟩ := worthwhile.sizes
  obtain ⟨timers, timerWord, timerSum⟩ := worthwhile.timers
  have among := worthwhile.among
  have single := worthwhile.single
  rw [sizeWord, timerWord, worthwhile.batchesSent, worthwhile.batchesFailed,
    whole (by omega), whole (by omega), whole (by omega), whole (by omega)]
  omega

/-- Where the timer asks for no more than a full batch, whatever order the steps of all calls and of
the courier come in: no batch is empty, what is taken for the queue is a full batch, and what is
taken for the timer is enough for it or has waited for a whole interval. The counts of these batches
do not exceed those of sends by more than the batch on its way, and they stay zero as long as the
courier has never been on a thread of its own. -/
theorem batches_worthwhile {settings : Settings}
    (fitting : settings.minBatch ≤ settings.maxBatch) {threshold : Threshold}
    {transportName sinkName : String} {wall : Timestamp} {script : Script} {acts : List Act}
    {world : World}
    (chronicle : World.Chronicle
      (.initial (.create settings threshold transportName sinkName wall script)) acts world) :
    (settings.isRemote = true → Worthwhile settings acts world ∧
      (world.depot.journal.countP Occurrence.isDelivered +
          world.depot.journal.countP Occurrence.isGivenUp + 1 < UInt64.size →
        world.depot.tally.sizeFlushes.toNat + world.depot.tally.timerFlushes.toNat ≤
          world.depot.tally.batchesSent.toNat + world.depot.tally.batchesFailed.toNat +
            world.tasks.countP Task.isBatch)) ∧
      (world.depot.thread = .none →
        world.depot.tally.sizeFlushes = 0 ∧ world.depot.tally.timerFlushes = 0) := by
  have sizes := @takings_counted _ _ _ _ _ _ _ _ .size .sizeFlush rfl chronicle
  have timers := @takings_counted _ _ _ _ _ _ _ _ .timer .timerFlush rfl chronicle
  constructor
  · intro remote
    have logged := ToldByChronicle.ofChronicle chronicle
    have packed := TakenBatchesTold.ofChronicle remote chronicle
    have tallied := (OutcomesTallied.initial settings threshold transportName sinkName wall
      script).reachable chronicle.reachable
    have worthwhile : Worthwhile settings acts world := by
      refine ⟨?_, logged.waiting.symm, ?_, ?_, sizes, timers, ?_, ?_, ?_, ?_⟩
      · intro batch payload timeout sending member
        exact packed.laden.sent batch payload timeout sending
          (List.mem_reverse.mpr (List.mem_filter.mpr ⟨member, rfl⟩))
      · intro later instant earlier past
        -- The queue was full when the batch was taken.
        obtain ⟨between, told, _, full⟩ := warranted_before remote fitting chronicle past
        rw [told.length, ← told.size]
        exact full
      · intro later instant earlier past
        obtain ⟨between, told, now, ripe⟩ := warranted_before remote fitting chronicle past
        rw [← now]
        exact told.ripe ripe
      · rw [tallied.scored.batchesSent, Depot.countP_results]
        rintro occurrence kind
        cases occurrence <;> first | rfl | cases kind
      · rw [tallied.scored.batchesFailed, Depot.countP_results]
        rintro occurrence kind
        cases occurrence <;> first | rfl | cases kind
      · rw [← Depot.sendsEnded_eq]
        exact packed.bound
      · exact (EventsAccounted.reachable remote chronicle.reachable).single_batch
    exact ⟨worthwhile, worthwhile.words⟩
  · intro alone
    -- Nothing was taken, so nothing is counted.
    have unhired : Unhired settings acts world :=
      .ofChronicle chronicle
    rw [unhired.none alone .size rfl] at sizes
    rw [unhired.none alone .timer rfl] at timers
    obtain ⟨counted, word, sum⟩ := sizes
    obtain ⟨counted', word', sum'⟩ := timers
    obtain rfl : counted = 0 := by omega
    obtain rfl : counted' = 0 := by omega
    exact ⟨word, word'⟩

/-- The world after several calls to a courier, after which nobody calls for a while. -/
def World.afterPause (calls : List Call) (pause : Span) : World :=
  let world := afterCalls .smooth calls
  ((Session.mk world.depot world.courier).sleep pause).world world.callers

/-- Calls and a pause are a way for the world to go. -/
theorem World.reachable_afterPause (calls : List Call) (pause : Span) :
    World.Reachable (.initial (.plain .smooth)) (afterPause calls pause) :=
  (reachable_afterCalls .smooth calls).trans
    (Session.reachable_waitUntil ⟨_, _⟩ (afterCalls .smooth calls).callers _)

/-- A world in which a full batch was taken, and later an event that had waited for an interval. -/
def World.punctual : World :=
  afterPause [.start, .submit default, .submit default, .submit default] (.ofSeconds 30)

/-- One batch was taken for the queue and one for the timer, and both were sent. -/
theorem batches_worthwhile_punctual :
    Settings.plain.minBatch ≤ Settings.plain.maxBatch ∧
      World.punctual.depot.tally.sizeFlushes = 1 ∧ World.punctual.depot.tally.timerFlushes = 1 ∧
        World.punctual.depot.tally.batchesSent = 2 ∧
          ∃ acts, World.Chronicle (.initial (.plain .smooth)) acts World.punctual ∧
            Worthwhile .plain acts World.punctual := by
  -- The run is one of those that the law speaks of, as its chronicle tells.
  obtain ⟨acts, chronicle⟩ :=
    World.reachable_iff_chronicle.mp (World.reachable_afterPause _ _)
  exact ⟨by decide, by decide +kernel, by decide +kernel, by decide +kernel, acts, chronicle,
    ((batches_worthwhile (by decide) chronicle).1 rfl).1⟩

end LogCourier
