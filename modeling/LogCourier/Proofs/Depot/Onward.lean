import LogCourier.Proofs.Depot.Exclusion
import LogCourier.Proofs.Depot.Phases

/-!
Onward: whatever order the steps of all calls come in, the courier never goes back.

With an endpoint only one agent at a time has the courier, so nobody enters a phase behind its back.
Without one there is nothing but the last phase, and only the first call to stop comes to it.
-/

namespace LogCourier

/-- The courier comes to its thread only as it begins to wait. -/
theorem Deed.hires {depot after : Depot} {agent next : Agent} {task : Task}
    (deed : Deed depot agent task after next) (away : depot.holder ≠ .thread)
    (arrived : after.holder = .thread) : after.phase = .waiting := by
  -- Of all steps only those of starting, taking and releasing change who has the courier.
  rcases deed with intake | delivery | duty
  · exact absurd (intake.sameCharge.holder ▸ arrived) away
  · exact absurd (delivery.sameCharge.holder ▸ arrived) away
  · cases duty with
    | hire => rfl
    | hireLost => cases arrived
    | takeCourier => cases arrived
    | release => cases arrived
    | reportLosses => exact absurd (depot.sameCharge_reportLosses.holder ▸ arrived) away
    | _ => exact absurd arrived away

/-- Whoever gave up because of a crash has only to put back what must be put back. -/
def Agent.OnlyCleanup (agent : Agent) : Prop :=
  agent.crash ≠ none → ∀ task ∈ agent.tasks, task.isCleanup = true

/-- A step leaves whoever gave up with nothing else to do. -/
theorem Agent.OnlyCleanup.after {depot after : Depot} {agent next : Agent} {task : Task}
    (resigned : Agent.OnlyCleanup { agent with tasks := task :: agent.tasks })
    (deed : Deed depot agent task after next) : next.OnlyCleanup := by
  intro harmed
  by_cases unharmed : agent.crash = none
  · -- It gives up in this step, or not at all.
    rcases deed with intake | delivery | duty
    · obtain ⟨_, _, same, _⟩ := intake.pushes
      exact absurd (same.trans unharmed) harmed
    · rcases delivery.pushes with ⟨_, _, same, _⟩ | ⟨crash, rfl⟩
      · exact absurd (same.trans unharmed) harmed
      · exact fun new member => (List.mem_filter.mp member).2
    · obtain ⟨_, _, same, _⟩ := duty.pushes
      exact absurd (same.trans unharmed) harmed
  · -- What is put back leads to nothing else.
    have cleanup := resigned unharmed
    have below : ∀ new ∈ agent.tasks, new.isCleanup = true :=
      fun new member => cleanup new (List.mem_cons_of_mem _ member)
    have first := cleanup task List.mem_cons_self
    rcases deed with intake | delivery | duty
    · cases intake <;> cases first
    · cases delivery <;> cases first
    · cases duty with
      | release => exact below
      | exit => exact below
      | unlock => exact below
      | _ => cases first

/-- The thread of the courier begins only as it is hired, and ends only by itself. -/
theorem Deed.running {depot after : Depot} {agent next : Agent} {task : Task}
    (deed : Deed depot agent task after next) (manned : after.isManned = true) :
    after.thread = depot.thread ∨ task = .exit ∨
      task = .hire ∧ after.thread = .running ∧ after.phases = depot.phases ++ [.waiting] := by
  -- Only decisions change the thread, and hiring is the one that makes it run.
  rcases deed with intake | delivery | duty
  · exact .inl intake.sameCharge.thread
  · exact .inl delivery.sameCharge.thread
  · cases duty with
    | hire =>
      refine .inr (.inr ⟨rfl, rfl, ?_⟩)
      simp [Depot.phases, Depot.enter, Depot.note, Occurrence.phase?]
    | hireLost => simp [Depot.isManned, Depot.lose, Depot.enter, Depot.tell, Depot.note] at manned
    | exit => exact .inr (.inl rfl)
    | reportLosses => exact .inl depot.sameCharge_reportLosses.thread
    | _ => exact .inl rfl

/-- The courier has lived along the rules, and whoever has it is in step with its phase. -/
structure PhasesFollowed (world : World) : Prop where
  lived : Lived true world.depot.phase world.depot.phases
  desk : world.depot.holder = .desk → world.depot.phase.isOpen = true
  started : .waiting ∈ world.depot.phases ↔ world.depot.thread ≠ .none
  closed : world.depot.phase = .stopped → world.depot.queue.closed = true
  resigned : ∀ agent ∈ world.agents, agent.OnlyCleanup
  inStep : ∀ agent ∈ world.agents, world.depot.Entrusts agent →
    InStepWithPhase world.depot.phase agent.tasks

namespace PhasesFollowed

variable {world next : World}

/-- Whoever enters a phase without hiring the courier has it. -/
theorem entrusts {left right : List Agent} {agent after : Agent} {task : Task} {depot : Depot}
    {phase : Phase} (custody : Custody world)
    (split : world.agents = left ++ { agent with tasks := task :: agent.tasks } :: right)
    (deed : Deed world.depot agent task depot after) (manned : depot.isManned = true)
    (entering : Entering world.depot task phase) (other : task ≠ .hire) :
    world.depot.Entrusts { agent with tasks := task :: agent.tasks } := by
  have member := Custody.agent_mem split
  have covered := (custody.orderly_of_mem member).2
  have way := custody.way member
  refine custody.entrusted split ?_ deed
  cases entering with
  | enter phase =>
    -- Only once the courier was lost is a phase entered without it.
    rcases guarded_of_enter way with ⟨guard, below, gives⟩ | ⟨_, courierless⟩
    · exact ⟨guard, List.mem_cons_of_mem _ (List.mem_filter.mp below).1, gives⟩
    · simp [custody.manned_of_deed split deed manned] at courierless
  | hire => exact absurd rfl other
  | flush | finish | idle => exact covered.guarded List.mem_cons_self rfl

/-- Only the courier on its thread waits again, and only callers rest after a flush. -/
theorem caller_of_idle {agent : Agent} {left right : List Agent} (custody : Custody world)
    (split : world.agents = left ++ { agent with tasks := .enter .idle :: agent.tasks } :: right) :
    world.depot.holder = .desk := by
  -- The round of the courier has no such entry, and a caller has one only below the lock.
  cases left with
  | nil =>
    have round := custody.round
    rw [(List.cons.inj split).1] at round
    change Round (.enter .idle :: duties agent.tasks) at round
    generalize duties agent.tasks = control at round
    cases round with
    | closing last => cases last
  | cons courier left =>
    have member : { agent with tasks := .enter .idle :: agent.tasks } ∈ world.callers := by
      simp [(List.cons.inj split).2]
    have course := (custody.callers _ member).course
    change Course _ (.enter .idle :: duties agent.tasks) at course
    have has : .unlock ∈ duties agent.tasks := by
      generalize duties agent.tasks = control at course
      cases course with
      | inline => simp
      | closing _ last => cases last
    refine custody.post.holder_of_locked (custody.locked_of_unlock member ?_)
    exact List.mem_cons_of_mem _ (List.mem_filter.mp has).1

/-- A phase that is entered follows the phases before by one of the rules. -/
theorem enter {left right : List Agent} {agent after : Agent} {task : Task} {depot : Depot}
    {phase : Phase} (onward : PhasesFollowed world) (custody : Custody world)
    (sealing : SealedAtExit world)
    (split : world.agents = left ++ { agent with tasks := task :: agent.tasks } :: right)
    (deed : Deed world.depot agent task depot after) (manned : depot.isManned = true)
    (entering : Entering world.depot task phase) :
    Lived true phase (world.depot.phases ++ [phase]) := by
  -- Whoever enters it knows the phase before, from what is left to be decided.
  have member := Custody.agent_mem split
  have lived := onward.lived
  by_cases hiring : task = .hire
  · subst hiring
    cases entering with
    | hire _ ready => exact .wait lived (onward.desk ready)
  · have entrusted := entrusts custody split deed manned entering hiring
    have inStep := onward.inStep _ member entrusted
    cases entering with
    | flush trigger =>
      obtain ⟨decision, rest, decided, ahead⟩ := inStep.opens _ List.mem_cons_self rfl
      exact .flush lived (Task.isOpen_of_isAhead (inStep.due decision rest decided) ahead)
    | finish deadline => exact .shutDown lived (inStep.due _ _ rfl)
    | idle tick => exact .wait lived (inStep.due _ _ rfl)
    | hire => exact absurd rfl hiring
    | enter =>
      have due := inStep.due (.enter phase) (duties agent.tasks) rfl
      cases phase with
      | idle =>
        -- The flush on the spot has begun before.
        have flushing : world.depot.phase = .flushing := by
          rcases inStep.idle (duties agent.tasks) rfl with ⟨trigger, below⟩ | flushing
          · have below := (List.mem_cons.mp below).resolve_left (by simp)
            have level := (sealing.agents _ member).level
            cases level.calm rfl _ below rfl
          · exact flushing
        rw [flushing] at lived
        have unstarted := (custody.post.of_desk (caller_of_idle custody split)).2.2.1
        exact .idle lived fun waited => onward.started.mp waited unstarted
      | finalFlush =>
        rw [show world.depot.phase = .shuttingDown by simpa [Task.isDue] using due] at lived
        exact .flushLast lived
      | stopped =>
        rw [show world.depot.phase = .finalFlush by simpa [Task.isDue] using due] at lived
        exact .stop lived
      -- No other phase is entered by itself.
      | waiting | flushing | shuttingDown =>
        have way := custody.way member
        change Course _ (.enter _ :: duties agent.tasks) ∨ Round (.enter _ :: duties agent.tasks)
          at way
        generalize duties agent.tasks = control at way
        rcases way with course | round
        · cases course with
          | closing _ last => cases last
        · cases round with
          | closing last => cases last

/-- Whoever has the courier while it is at its desk makes a flush on the spot. -/
theorem onTheSpot {left right : List Agent} {agent : Agent} (custody : Custody world)
    (split : world.agents = left ++ agent :: right) (entrusted : world.depot.Entrusts agent)
    (ready : world.depot.holder = .desk) :
    duties agent.tasks = [.enter .idle, .unlock, .answer true] ∨
      duties agent.tasks = [.unlock, .answer true] ∨ duties agent.tasks = [.unlock] := by
  cases left with
  | nil =>
    -- The courier has itself only on its thread.
    obtain ⟨rfl, _⟩ := List.cons.inj split
    simp [custody.holder_of_courier entrusted] at ready
  | cons courier left =>
    have member : agent ∈ world.callers := by simp [(List.cons.inj split).2]
    have course := (custody.callers _ member).course
    obtain ⟨guard, below, gives⟩ := entrusted.1
    have decided : guard ∈ duties agent.tasks :=
      List.mem_filter.mpr ⟨below, Task.isDuty_of_givesBack gives⟩
    have here : .release ∉ duties agent.tasks := fun has => by
      simp [custody.holder_of_release member (List.mem_filter.mp has).1] at ready
    generalize duties agent.tasks = control at course decided here
    cases course with
    | inline => exact .inl rfl
    | unlock => exact .inr (.inl rfl)
    | unwound => exact .inr (.inr rfl)
    | closing ends last => cases last <;> simp at here
    | released => simp at here
    -- The others have nothing to give back.
    | answer ends | stop _ ends | takeOver _ ends | dismiss _ ends | join _ _ ends =>
      cases ends <;> simp at decided <;> rcases decided with rfl | rfl <;> cases gives
    | decline ends =>
      cases ends <;> simp at decided <;> rcases decided with rfl | rfl | rfl <;> cases gives
    | free => simp at decided
    | _ => simp at decided; subst decided; cases gives

/-- While the courier is at its desk, all is open. -/
theorem rests {left right : List Agent} {agent after : Agent} {task : Task} {depot : Depot}
    (onward : PhasesFollowed world) (custody : Custody world)
    (split : world.agents = left ++ { agent with tasks := task :: agent.tasks } :: right)
    (deed : Deed world.depot agent task depot after) (manned : depot.isManned = true)
    (ready : depot.holder = .desk) : depot.phase.isOpen = true := by
  -- It was there before, so only a flush on the spot can have entered a phase.
  have stayed : world.depot.holder = .desk := by
    rcases deed.holder with same | ⟨earlier, _⟩ | ⟨_, rfl⟩
    · rw [← same, ready]
    · exact earlier
    · cases ready
  rcases deed.entering manned with ⟨same, _⟩ | ⟨phase, entering, same, told⟩
  · rw [same]
    exact onward.desk stayed
  · by_cases hiring : task = .hire
    · -- Whoever hires the courier takes it away from its desk.
      subst hiring
      rcases deed with intake | delivery | duty
      · cases intake
      · cases delivery
      · cases duty with
        | hire => cases ready
        | hireLost => cases ready
        | hireNobody => simp at told
    · have entrusted := entrusts custody split deed manned entering hiring
      have spot := onTheSpot custody split entrusted stayed
      rw [same]
      cases entering with
      | flush => rfl
      | enter =>
        rw [show duties _ = .enter phase :: duties agent.tasks from rfl] at spot
        obtain ⟨rfl, _⟩ : phase = .idle ∧ duties agent.tasks = [.unlock, .answer true] := by
          simpa using spot
        rfl
      | finish => simp [Task.isDuty, Task.isIntake, Task.isDelivery] at spot
      | idle => simp [Task.isDuty, Task.isIntake, Task.isDelivery] at spot
      | hire => exact absurd rfl hiring

/-- Whoever has to decide what no caller has is the courier on its thread. -/
theorem hired {left right : List Agent} {agent after : Agent} {task : Task} {depot : Depot}
    (custody : Custody world)
    (split : world.agents = left ++ { agent with tasks := task :: agent.tasks } :: right)
    (deed : Deed world.depot agent task depot after)
    (own : ¬ Course world.depot.isManned (duties (task :: agent.tasks))) :
    world.depot.thread = .running := by
  -- The courier at rest cannot act, and every caller is on its course.
  cases left with
  | nil =>
    have post := custody.post
    rw [(List.cons.inj split).1] at post
    cases post with
    | working _ _ _ thread => exact thread
    | leaving _ _ _ thread => exact thread
    | gone _ _ _ _ done => simp at done
    | desk _ _ _ alone dormant | lent _ _ _ _ alone dormant | returned _ _ _ _ alone dormant
    | lost _ _ _ _ alone dormant => exact (Post.asleep (by simp [alone]) dormant deed).elim
  | cons courier left =>
    have member : { agent with tasks := task :: agent.tasks } ∈ world.callers := by
      simp [(List.cons.inj split).2]
    exact absurd (custody.callers _ member).course own

/-- The courier has waited exactly if it has been hired. -/
theorem waits {left right : List Agent} {agent after : Agent} {task : Task} {depot : Depot}
    (onward : PhasesFollowed world) (custody : Custody world)
    (split : world.agents = left ++ { agent with tasks := task :: agent.tasks } :: right)
    (deed : Deed world.depot agent task depot after) (manned : depot.isManned = true) :
    .waiting ∈ depot.phases ↔ depot.thread ≠ .none := by
  have started := onward.started
  -- It waits again only on its thread.
  have again {task : Task} {agent : Agent} {depot : Depot} {after : Agent}
      (split : world.agents = left ++ { agent with tasks := task :: agent.tasks } :: right)
      (deed : Deed world.depot agent task depot after)
      (own : ¬ Course world.depot.isManned (duties (task :: agent.tasks))) :
      depot.thread ≠ .none := by
    intro none
    have alone := deed.thread none
    simp [hired custody split deed own] at alone
  constructor
  · intro waited none
    have alone := deed.thread none
    rcases deed.entering manned with ⟨_, told⟩ | ⟨phase, entering, _, told⟩
    · exact started.mp (told ▸ waited) alone
    · rw [told] at waited
      rcases List.mem_append.mp waited with waited | waited
      · exact started.mp waited alone
      · obtain rfl := List.mem_singleton.mp waited
        cases entering with
        | enter =>
          refine again split deed (fun course => ?_) none
          change Course _ (.enter .waiting :: duties agent.tasks) at course
          generalize duties agent.tasks = control at course
          cases course with
          | closing _ last => cases last
        | idle tick =>
          refine again split deed (fun course => ?_) none
          change Course _ (.idle tick :: duties agent.tasks) at course
          generalize duties agent.tasks = control at course
          cases course with
          | closing _ last => cases last
        | hire =>
          rcases deed with intake | delivery | duty
          · cases intake
          · cases delivery
          · cases duty with
            | hire => cases none
            | hireLost => cases none
            | hireNobody => simp at told
  · intro begun
    have grown : ∀ phase ∈ world.depot.phases, phase ∈ depot.phases := by
      intro phase member
      rcases deed.entering manned with ⟨_, told⟩ | ⟨_, _, _, told⟩ <;> rw [told]
      · exact member
      · exact List.mem_append_left _ member
    rcases deed.running manned with same | rfl | ⟨_, _, told⟩
    · exact grown _ (started.mpr (same ▸ begun))
    · refine grown _ (started.mpr ?_)
      rw [hired custody split deed fun course => course.inside rfl]
      simp
    · simp [told]

/-- The last phase is entered only after the queue has been closed. -/
theorem shut {left right : List Agent} {agent after : Agent} {task : Task} {depot : Depot}
    (onward : PhasesFollowed world) (custody : Custody world) (sealing : SealedAtExit world)
    (split : world.agents = left ++ { agent with tasks := task :: agent.tasks } :: right)
    (deed : Deed world.depot agent task depot after) (manned : depot.isManned = true)
    (ended : depot.phase = .stopped) : depot.queue.closed = true := by
  have member := Custody.agent_mem split
  rcases deed.entering manned with ⟨same, _⟩ | ⟨phase, entering, same, _⟩
  · exact deed.closed (onward.closed (same ▸ ended))
  · obtain rfl := same.symm.trans ended
    cases entering with
    | enter =>
      -- Whoever gave up enters no phase, and whoever did not has closed the queue before.
      have unharmed : agent.crash = none := by
        cases harmed : agent.crash with
        | none => rfl
        | some crash =>
          have cleanup := onward.resigned _ member (by simp [harmed]) _ List.mem_cons_self
          cases cleanup
      have sealed := (sealing.agents _ member).sealed unharmed
      have way := custody.way member
      rw [custody.manned_of_deed split deed manned] at way
      change Course true (.enter .stopped :: duties agent.tasks) ∨
        Round (.enter .stopped :: duties agent.tasks) at way
      refine deed.closed ?_
      change QueueSealed world.depot (.enter .stopped :: duties agent.tasks) at sealed
      generalize duties agent.tasks = control at way sealed
      rcases way with course | round
      · cases course with
        | closing _ last => cases last; exact sealed.closing _ rfl
        | decline _ disabled => cases disabled
      · cases round with
        | closing last => cases last; exact sealed.closing _ rfl

/-- Every agent that has the courier is in step with the phase after a step. -/
theorem act {left right : List Agent} {agent after : Agent} {task : Task}
    (onward : PhasesFollowed world)
    (custody : Custody world) (sealing : SealedAtExit world)
    (split : world.agents = left ++ { agent with tasks := task :: agent.tasks } :: right)
    (joined : next.agents = left ++ after :: right)
    (deed : Deed world.depot agent task next.depot after) (manned : next.depot.isManned = true) :
    PhasesFollowed next := by
  have member := Custody.agent_mem split
  have level := (sealing.agents _ member).level
  refine ⟨?_, onward.rests custody split deed manned, onward.waits custody split deed manned,
    onward.shut custody sealing split deed manned, ?_, ?_⟩
  · rcases deed.entering manned with ⟨same, told⟩ | ⟨phase, entering, same, told⟩
    · rw [same, told]
      exact onward.lived
    · rw [same, told]
      exact onward.enter custody sealing split deed manned entering
  · exact forall_mem_replaced split joined onward.resigned
      ((onward.resigned _ member).after deed)
  · have others : ∀ other ∈ left ++ right, next.depot.Entrusts other →
        InStepWithPhase next.depot.phase other.tasks := by
      intro other among entrusted'
      have there := Custody.other_mem split among
      by_cases entrusted : world.depot.Entrusts other
      · -- Nobody else enters another phase.
        rw [custody.phase_of_other split deed among entrusted]
        exact onward.inStep other there entrusted
      · -- The courier has just been hired, and has all of its round before it.
        have hired : other = .courier ∧ world.depot.holder ≠ .thread := by
          by_cases dormant : other = .courier
          · exact ⟨dormant, fun thread => entrusted ⟨entrusted'.1, fun _ => thread⟩⟩
          · exact absurd ⟨entrusted'.1, fun same => absurd same dormant⟩ entrusted
        obtain ⟨rfl, away⟩ := hired
        rw [deed.hires away (entrusted'.2 rfl)]
        apply InStepWithPhase.ofCalm
        · intro decision rest decided
          cases decided
          exact ⟨rfl, by simp⟩
        · simp [Task.isDelivery]
    intro other among entrusted'
    rw [joined] at among
    rcases List.mem_append.mp among with among | among
    · exact others other (List.mem_append_left _ among) entrusted'
    · rcases List.mem_cons.mp among with rfl | among
      · by_cases guarded : ∃ guard ∈ task :: agent.tasks, guard.givesBack = true
        · have entrusted := custody.entrusted split guarded deed
          have way := custody.way member
          rw [custody.manned_of_deed split deed manned] at way
          exact (onward.inStep _ member entrusted).after level way guarded deed
        · have none : ∀ guard ∈ task :: agent.tasks, guard.givesBack = false :=
            fun guard below => Bool.eq_false_iff.mpr fun gives => guarded ⟨guard, below, gives⟩
          obtain ⟨ready, taken⟩ := InStepWithPhase.ofTaken level none deed entrusted'.1
          exact taken (onward.desk ready)
      · exact others other (List.mem_append_right _ among) entrusted'

/-- Before anything has happened the courier is idle at its desk. -/
theorem initial {settings : Settings} (remote : settings.isRemote = true) (threshold : Threshold)
    (transportName sinkName : String) (wall : Timestamp) (script : Script) :
    PhasesFollowed (.initial (.create settings threshold transportName sinkName wall script)) where
  -- The courier has done nothing and nobody else has acted.
  lived := .new
  desk _ := rfl
  started := by simp [Depot.create, Depot.phases]
  closed ended := by cases ended
  resigned := by
    intro agent member
    obtain rfl : agent = .courier := by simpa using member
    exact fun harmed => absurd rfl harmed
  inStep := by
    intro agent member entrusted
    obtain rfl : agent = .courier := by simpa using member
    have thread := entrusted.2 rfl
    simp [Depot.create, remote] at thread

/-- A turn keeps it, unless the courier is lost. -/
theorem turn (onward : PhasesFollowed world) (custody : Custody world)
    (sealing : SealedAtExit world)
    (turn : Turn world next) (manned : next.depot.isManned = true) : PhasesFollowed next := by
  cases turn with
  | act left right agent after task split joined deed =>
    exact onward.act custody sealing split joined deed manned
  | call call same joined =>
    obtain ⟨lived, desk, started, closed, resigned, inStep⟩ := onward
    refine ⟨by rw [same]; exact lived, by rw [same]; exact desk, by rw [same]; exact started,
      by rw [same]; exact closed,
      forall_mem_joined joined resigned fun harmed => absurd rfl harmed, ?_⟩
    rw [joined, same]
    intro agent among entrusted
    rcases List.mem_append.mp among with among | among
    · exact inStep agent among entrusted
    · -- Whoever calls has nothing to give back.
      obtain rfl := List.mem_singleton.mp among
      obtain ⟨guard, below, gives⟩ := entrusted.1
      have none : ∀ task ∈ call.tasks world.depot.settings, task.givesBack = false := by
        cases call <;> simp [Call.tasks, Task.givesBack]
      simp [none guard below] at gives
  | outside now wall permits elsewhere same =>
    obtain ⟨lived, desk, started, closed, resigned, inStep⟩ := onward
    refine ⟨by rw [elsewhere]; exact lived, by rw [elsewhere]; exact desk,
      by rw [elsewhere]; exact started, by rw [elsewhere]; exact closed,
      by rw [same]; exact resigned, ?_⟩
    rw [elsewhere, same]
    exact inStep

/-- Once the last phase has been entered, nobody has a batch. -/
theorem unbatched (onward : PhasesFollowed world) (custody : Custody world)
    (ended : world.depot.phase = .stopped) : ∀ task ∈ world.tasks, task.isBatch = false := by
  -- Whoever had one would have the courier, and would have come to the end without it.
  intro task member
  refine Bool.eq_false_iff.mpr fun batch => ?_
  obtain ⟨agent, among, below⟩ := List.mem_flatMap.mp member
  have entrusted := custody.entrusts_of_isBatch among below batch
  have delivers : task.isDelivery = true := by cases task <;> first | rfl | cases batch
  obtain rfl := (onward.inStep agent among entrusted).calm ended task below delivers
  cases batch

end PhasesFollowed

/-- Whoever closes the queue has what waited in it to send, unless it was nothing. -/
theorem Deed.parting {depot after : Depot} {agent next : Agent} {task : Task}
    (deed : Deed depot agent task after next) (opened : depot.queue.closed = false)
    (closed : after.queue.closed = true) :
    depot.queue.waiting = [] ∨ ∃ timeout, .send depot.queue.waiting timeout ∈ next.tasks := by
  -- Whoever leaves the queue open has not closed it.
  have unmoved (same : after.queue.closed = depot.queue.closed) : False := by
    simp [same, opened] at closed
  rcases deed with intake | delivery | duty
  · exact (unmoved intake.sameOrders.2).elim
  · exact (unmoved delivery.sameOrders.2).elim
  · cases duty with
    | closeEmpty _ empty => exact .inl empty
    | close timeout => exact .inr ⟨timeout, List.mem_cons_self⟩
    | reportLosses =>
      refine (unmoved ?_).elim
      unfold Depot.reportLosses
      split <;> rfl
    | _ => exact (unmoved rfl).elim

/-- Whoever has a batch to send sends it, or has it still. -/
theorem Deed.sends {depot after : Depot} {agent next : Agent} {task : Task}
    (deed : Deed depot agent task after next) (orderly : BatchlessBelow (task :: agent.tasks))
    {batch : List Event} {timeout : Span} (has : .send batch timeout ∈ task :: agent.tasks) :
    .send batch timeout ∈ next.tasks ∨ after.journal =
      .sent batch (Payload.encode batch depot.settings.compression) timeout true ::
        depot.journal := by
  rcases List.mem_cons.mp has with rfl | below
  · rcases deed with intake | delivery | duty
    · cases intake
    · cases delivery
      exact .inr rfl
    · cases duty
  · left
    rcases deed.leaves orderly with ⟨pushed, joined⟩ | ⟨_, none⟩
    · rw [joined]
      exact List.mem_append_right _ below
    · -- Nobody gives up with a batch to send.
      cases (none _ below).2

namespace World

/-- A batch is still to be sent, or has been sent since an earlier time. -/
def Parts (since : List Occurrence) (batch : List Event) (world : World) : Prop :=
  ∃ news, world.depot.journal = news ++ since ∧
    ((∃ timeout, .send batch timeout ∈ world.tasks) ∨ ∃ timeout,
      .sent batch (Payload.encode batch world.depot.settings.compression) timeout true ∈ news)

/-- A turn leaves the batch to be sent, or sends it. -/
theorem Parts.turn {since : List Occurrence} {batch : List Event} {world next : World}
    (parts : world.Parts since batch) (custody : Custody world) (turn : Turn world next) :
    next.Parts since batch := by
  obtain ⟨news, told, state⟩ := parts
  have settings := turn.settings
  cases turn with
  | act left right agent after task split joined deed =>
    obtain ⟨more, grown⟩ := deed.grown
    refine ⟨more ++ news, by rw [grown, told, List.append_assoc], ?_⟩
    rcases state with ⟨timeout, has⟩ | ⟨timeout, sent⟩
    · rw [World.tasks_of_split split] at has
      rw [World.tasks_of_split joined]
      rcases List.mem_append.mp has with has | has
      · rcases List.mem_append.mp has with has | has
        · exact .inl ⟨timeout, by simp [has]⟩
        · -- It is the one who acts that has it.
          have orderly := (custody.orderly_of_mem (Custody.agent_mem split)).1
          rcases deed.sends orderly has with kept | sent
          · exact .inl ⟨timeout, by simp [kept]⟩
          · refine .inr ⟨timeout, List.mem_append_left _ ?_⟩
            rw [settings]
            have same : more = [.sent batch
                (Payload.encode batch world.depot.settings.compression) timeout true] :=
              List.append_cancel_right (grown.symm.trans sent)
            simp [same]
      · exact .inl ⟨timeout, by simp [has]⟩
    · refine .inr ⟨timeout, List.mem_append_right _ ?_⟩
      rw [settings]
      exact sent
  | call call same joined =>
    rw [Parts, same]
    refine ⟨news, told, ?_⟩
    rcases state with ⟨timeout, has⟩ | sent
    · refine .inl ⟨timeout, ?_⟩
      unfold World.tasks at has ⊢
      rw [joined, List.flatMap_append]
      exact List.mem_append_left _ has
    · exact .inr sent
  | outside now wall permits elsewhere same =>
    rw [Parts, elsewhere]
    refine ⟨news, told, ?_⟩
    unfold World.tasks at state ⊢
    rw [same]
    exact state

end World

namespace Task

/-- Whether a task can come up without an endpoint. -/
def needsNoCourier : Task → Bool
  | .submit _ | .bridge _ | .arm | .checkBanner | .claimBanner | .echo _ => true
  | .offer _ | .append _ | .signal | .count _ | .tell _ | .flushSink => true
  | .start | .hire | .flush | .order | .stop _ | .takeOver _ => true
  | .enter .stopped | .answer _ | .reportLosses => true
  | _ => false

/-- Whether a task enters the last phase without an endpoint, or leads to it. -/
def isRetreat : Task → Bool
  | .takeOver _ | .enter _ => true
  | _ => false

/-- Handing in an event can come up, and leads to no phase. -/
theorem unmanned_of_isIntake {task : Task} (handing : task.isIntake = true) :
    task.needsNoCourier = true ∧ task.isRetreat = false := by
  cases task <;> first | exact ⟨rfl, rfl⟩ | cases handing

end Task

/-- Without an endpoint nobody has the courier, and it has entered no phase but the last one. -/
structure Courierless (depot : Depot) : Prop where
  disabled : depot.settings.isRemote = false
  holder : depot.holder = .nobody
  handle : depot.handle = false
  thread : depot.thread = .none
  phases : (depot.phase = .idle ∧ depot.phases = []) ∨
    (depot.phase = .stopped ∧ depot.phases = [.stopped])

namespace Courierless

variable {before later : Depot} {agent next : Agent} {task : Task}

/-- What leaves the courier and the phase alone leaves nobody with the courier. -/
theorem keep (courierless : Courierless before) (same : SameCharge before later)
    (phase : later.phase = before.phase) (phases : later.phases = before.phases) :
    Courierless later where
  -- All these fields but the phase belong to the charge.
  disabled := by rw [same.settings]; exact courierless.disabled
  holder := same.holder.trans courierless.holder
  handle := same.handle.trans courierless.handle
  thread := same.thread.trans courierless.thread
  phases := by rw [phase, phases]; exact courierless.phases

/-- Concluding a call can come up, and leads to no phase. -/
theorem conclusion (depot : Depot) : (∀ task ∈ depot.conclusion, task.needsNoCourier = true) ∧
    depot.conclusion.countP Task.isRetreat = 0 := by
  unfold Depot.conclusion
  cases depot.settings.echo <;> exact ⟨by simp [Task.needsNoCourier], rfl⟩

/-- A decision leads only to what can come up, and to the last phase once for the first stop. -/
theorem duty (courierless : Courierless before) (kind : task.needsNoCourier = true)
    (once : before.phases.length + (task :: agent.tasks).countP Task.isRetreat ≤
      before.stopped.toNat)
    (deed : Duty before agent task later next) :
    Courierless later ∧
      (∃ pushed, next.tasks = pushed ++ agent.tasks ∧ ∀ new ∈ pushed, new.needsNoCourier = true) ∧
        later.phases.length + next.tasks.countP Task.isRetreat + before.stopped.toNat ≤
          before.phases.length + (task :: agent.tasks).countP Task.isRetreat +
            later.stopped.toNat := by
  have still (same : SameCharge before later) (phase : later.phase = before.phase)
      (phases : later.phases = before.phases) (pushed : List Task)
      (joined : next.tasks = pushed ++ agent.tasks)
      (new : ∀ new ∈ pushed, new.needsNoCourier = true)
      (count : pushed.countP Task.isRetreat + agent.tasks.countP Task.isRetreat ≤
        (task :: agent.tasks).countP Task.isRetreat) :
      Courierless later ∧
        (∃ pushed, next.tasks = pushed ++ agent.tasks ∧ ∀ new ∈ pushed, new.needsNoCourier = true) ∧
          later.phases.length + next.tasks.countP Task.isRetreat + before.stopped.toNat ≤
            before.phases.length + (task :: agent.tasks).countP Task.isRetreat +
              later.stopped.toNat := by
    refine ⟨courierless.keep same phase phases, ⟨pushed, joined, new⟩, ?_⟩
    rw [phases, joined, same.stopped, List.countP_append]
    omega
  cases deed with
  | enter phase =>
    -- There was no phase before, for only the first stop comes to this one.
    cases phase <;> first | (cases kind; done) | skip
    rw [List.countP_cons_of_pos rfl] at once
    have bound := Bool.toNat_le before.stopped
    have none : before.phases = [] := List.eq_nil_of_length_eq_zero (by omega)
    have told : (before.enter .stopped).phases = [.stopped] := by
      have entered : (before.enter .stopped).phases = before.phases ++ [.stopped] := by
        simp [Depot.phases, Depot.enter, Depot.note, Occurrence.phase?]
      rw [entered, none, List.nil_append]
    refine ⟨⟨courierless.disabled, courierless.holder, courierless.handle, courierless.thread,
      .inr ⟨rfl, told⟩⟩, ⟨[], rfl, by simp⟩, ?_⟩
    rw [told, none, List.countP_cons_of_pos rfl]
    simp only [List.length_nil, List.length_cons, Depot.enter, Depot.note]
    omega
  | takeNobody =>
    obtain ⟨usual, none⟩ := conclusion before
    refine still ⟨rfl, rfl, rfl, rfl, rfl, rfl, rfl⟩ rfl rfl _ rfl ?_ ?_
    · simpa [Task.needsNoCourier] using usual
    · rw [List.countP_cons_of_pos rfl, List.countP_cons_of_pos rfl, none]
      omega
  | stop timeout first =>
    refine ⟨⟨courierless.disabled, courierless.holder, courierless.handle, courierless.thread,
      courierless.phases⟩, ⟨_, rfl, by simp [Task.needsNoCourier]⟩, ?_⟩
    simp only [Agent.push, List.cons_append, List.nil_append, Task.isRetreat, List.countP_cons,
      if_true, Bool.false_eq_true, if_false, first, Bool.toNat_false, Bool.toNat_true, Depot.phases]
    omega
  | stopAgain timeout late =>
    refine ⟨⟨courierless.disabled, courierless.holder, courierless.handle, courierless.thread,
      courierless.phases⟩, ⟨[], rfl, by simp⟩, ?_⟩
    simp [Agent.reply, Task.isRetreat, late, Depot.phases]
  | reportLosses =>
    have told : before.reportLosses.phases = before.phases ∧
        before.reportLosses.phase = before.phase := by
      unfold Depot.reportLosses
      split <;> exact ⟨by simp [Depot.phases, Depot.tell, Depot.note, Occurrence.phase?], rfl⟩
    exact still before.sameCharge_reportLosses told.2 told.1 [] rfl (by simp)
      (by simp [Task.isRetreat])
  -- Hiring, locking and ordering need a courier that is not there.
  | hire _ _ ready => simp [courierless.holder] at ready
  | hireLost _ _ _ ready => simp [courierless.holder] at ready
  | lock _ _ ready => simp [courierless.holder] at ready
  | takeCourier _ _ _ ready => simp [courierless.holder] at ready
  | takeHandle _ _ employed => simp [courierless.handle] at employed
  | order _ employed => simp [courierless.handle] at employed
  | orderLost _ employed => simp [courierless.handle] at employed
  | start | flush =>
    exact still ⟨rfl, rfl, rfl, rfl, rfl, rfl, rfl⟩ rfl rfl _ rfl (by simp [Task.needsNoCourier])
      (by simp [Task.isRetreat])
  | startLate | hireNobody | flushLate | orderNobody | answer =>
    exact still ⟨rfl, rfl, rfl, rfl, rfl, rfl, rfl⟩ rfl rfl [] rfl (by simp)
      (by simp [Task.isRetreat])
  | _ => cases kind

/-- Whatever can come up leads to what can come up, and to the last phase once. -/
theorem after (courierless : Courierless before)
    (kind : ∀ old ∈ task :: agent.tasks, old.needsNoCourier = true)
    (once : before.phases.length + (task :: agent.tasks).countP Task.isRetreat ≤
      before.stopped.toNat)
    (deed : Deed before agent task later next) :
    Courierless later ∧ (∀ new ∈ next.tasks, new.needsNoCourier = true) ∧
      later.phases.length + next.tasks.countP Task.isRetreat + before.stopped.toNat ≤
        before.phases.length + (task :: agent.tasks).countP Task.isRetreat +
          later.stopped.toNat := by
  have below : ∀ old ∈ agent.tasks, old.needsNoCourier = true :=
    fun old member => kind old (List.mem_cons_of_mem _ member)
  have first := kind task List.mem_cons_self
  have fewer : agent.tasks.countP Task.isRetreat ≤ (task :: agent.tasks).countP Task.isRetreat :=
    (List.sublist_cons_self task agent.tasks).countP_le
  -- What is handed in or told of enters no phase.
  have untold (same : SameCharge before later) (phase : later.phase = before.phase)
      (phases : later.phases = before.phases) (pushed : List Task)
      (joined : next.tasks = pushed ++ agent.tasks)
      (handing : ∀ new ∈ pushed, new.isIntake = true) :
      Courierless later ∧ (∀ new ∈ next.tasks, new.needsNoCourier = true) ∧
        later.phases.length + next.tasks.countP Task.isRetreat + before.stopped.toNat ≤
          before.phases.length + (task :: agent.tasks).countP Task.isRetreat +
            later.stopped.toNat := by
    have none : pushed.countP Task.isRetreat = 0 :=
      List.countP_eq_zero.mpr fun new member retreats => by
        simp [(Task.unmanned_of_isIntake (handing new member)).2] at retreats
    refine ⟨courierless.keep same phase phases, ?_, ?_⟩
    · rw [joined]
      exact List.forall_mem_append.mpr
        ⟨fun new member => (Task.unmanned_of_isIntake (handing new member)).1, below⟩
    · rw [phases, joined, same.stopped, List.countP_append, none]
      omega
  rcases deed with intake | delivery | duty
  · obtain ⟨pushed, joined, _, inside⟩ := intake.pushes
    have told : later.phases = before.phases := by
      have here : later.isManned = true := by
        simp [Depot.isManned, intake.sameCharge.thread, courierless.thread]
      rcases Deed.entering (.inl intake) here with ⟨_, told⟩ | ⟨_, entering, _⟩
      · exact told
      · cases entering <;> cases intake
    exact untold intake.sameCharge intake.phase told pushed joined inside
  · cases delivery with
    | flushSink =>
      exact untold ⟨rfl, rfl, rfl, rfl, rfl, rfl, rfl⟩ rfl
        (by simp [Depot.phases, Depot.note, Occurrence.phase?]) [] rfl (by simp)
    | flushFails =>
      exact untold ⟨rfl, rfl, rfl, rfl, rfl, rfl, rfl⟩ rfl
        (by simp [Depot.phases, Depot.note, Occurrence.phase?]) _ rfl
        (by simp [warn, Task.isIntake])
    | flushCrashes crash =>
      refine ⟨courierless.keep ⟨rfl, rfl, rfl, rfl, rfl, rfl, rfl⟩ rfl
        (by simp [Depot.phases, Depot.note, Occurrence.phase?]),
        fun new member => below new (List.mem_filter.mp member).1, ?_⟩
      have dropped : (agent.unwind crash).tasks.countP Task.isRetreat ≤
          agent.tasks.countP Task.isRetreat := List.filter_sublist.countP_le
      simp only [Depot.phases, Depot.note, List.reverse_cons, List.filterMap_append,
        List.length_append, List.filterMap_cons, Occurrence.phase?, List.filterMap_nil,
        List.length_nil]
      omega
    | _ => cases first
  · obtain ⟨remains, ⟨pushed, joined, new⟩, counts⟩ := courierless.duty first once duty
    refine ⟨remains, ?_, counts⟩
    rw [joined]
    exact List.forall_mem_append.mpr ⟨new, below⟩

end Courierless

/-- Without an endpoint all callers have only what can come up, and the courier never begins. -/
structure CourierlessWorld (world : World) : Prop where
  depot : Courierless world.depot
  courier : world.courier = .courier
  callers : ∀ caller ∈ world.callers, ∀ task ∈ caller.tasks, task.needsNoCourier = true
  once : world.depot.phases.length + world.tasks.countP Task.isRetreat ≤ world.depot.stopped.toNat

namespace CourierlessWorld

variable {world next : World}

/-- Before anything has happened nobody has called. -/
theorem initial {settings : Settings} (disabled : settings.isRemote = false)
    (threshold : Threshold) (transportName sinkName : String) (wall : Timestamp)
    (script : Script) :
    CourierlessWorld
      (.initial (.create settings threshold transportName sinkName wall script)) where
  depot := ⟨disabled, by simp [Depot.create, disabled], rfl, rfl, .inl ⟨rfl, rfl⟩⟩
  courier := rfl
  callers := by simp
  once := Nat.le_refl 0

/-- A turn keeps it. -/
theorem turn (abandoned : CourierlessWorld world) (turn : Turn world next) :
    CourierlessWorld next := by
  obtain ⟨depot, courier, callers, once⟩ := abandoned
  cases turn with
  | act left right agent after task split joined deed =>
    cases left with
    | nil =>
      -- The courier waits for a thread that is never there.
      have own := (List.cons.inj split).1
      rw [courier] at own
      exact (Post.asleep (by simp [depot.thread]) own.symm deed).elim
    | cons other left =>
      obtain ⟨first, split'⟩ := List.cons.inj split
      obtain ⟨first', joined'⟩ := List.cons.inj joined
      have kind := callers { agent with tasks := task :: agent.tasks } (by simp [split'])
      rw [World.tasks_of_split split] at once
      simp only [List.countP_append] at once
      obtain ⟨remains, new, counts⟩ := depot.after kind (by omega) deed
      refine ⟨remains, first'.trans (first.symm.trans courier),
        forall_mem_replaced split' joined' callers new, ?_⟩
      rw [World.tasks_of_split joined]
      simp only [List.countP_append]
      omega
  | call call same joined =>
    refine ⟨by rw [same]; exact depot, (List.cons.inj joined).1.trans courier,
      forall_mem_joined (List.cons.inj joined).2 callers ?_, ?_⟩
    · cases call <;> simp [Call.tasks, Agent.ofTasks, Task.needsNoCourier]
    · have none : (call.tasks world.depot.settings).countP Task.isRetreat = 0 := by
        cases call <;> rfl
      have tasks : next.tasks = world.tasks ++ call.tasks world.depot.settings :=
        World.tasks_of_joined joined
      rw [same, tasks, List.countP_append, none]
      exact once
  | outside now wall permits elsewhere same =>
    have tasks : next.tasks = world.tasks := by simp [World.tasks, same]
    refine ⟨?_, (List.cons.inj same).1.trans courier, ?_, ?_⟩
    · rw [elsewhere]
      exact ⟨depot.disabled, depot.holder, depot.handle, depot.thread, depot.phases⟩
    · rw [(List.cons.inj same).2]
      exact callers
    · rw [elsewhere, tasks]
      exact once

/-- It holds of every world that comes about without an endpoint. -/
theorem reachable {start : World} (abandoned : CourierlessWorld start)
    (run : World.Reachable start world) : CourierlessWorld world :=
  run.kept abandoned turn

/-- Without an endpoint there is at most the last phase. -/
theorem lived (abandoned : CourierlessWorld world) :
    Lived false world.depot.phase world.depot.phases := by
  -- It was entered by whoever stopped, or not at all.
  rcases abandoned.depot.phases with ⟨phase, phases⟩ | ⟨phase, phases⟩ <;> rw [phase, phases]
  · exact .new
  · exact .decline rfl

end CourierlessWorld

/-- The courier has never gone back, in the phases that it has entered. -/
structure Forward (world : World) : Prop where
  /-- It is in the phase that was entered last, and idle before. -/
  current : world.depot.phase = world.depot.phases.getLast?.getD .idle
  /-- Once it shuts down only the last flush follows and then the end, each at most once. -/
  shutdown : ∀ before after, world.depot.phases = before ++ .shuttingDown :: after →
    after <+: [.finalFlush, .stopped]
  /-- Nothing follows the end. -/
  absorbing : ∀ before after, world.depot.phases = before ++ .stopped :: after → after = []
  /-- It is idle again only right after a flush, and only before it has waited. -/
  idle : ∀ before after, world.depot.phases = before ++ .idle :: after →
    before.getLast? = some .flushing ∧ .waiting ∉ before
  /-- It has waited exactly if it has been started. -/
  started : .waiting ∈ world.depot.phases ↔ world.depot.thread ≠ .none

/-- Phases along the rules never go back. -/
theorem Lived.forward {remote : Bool} {world : World}
    (lived : Lived remote world.depot.phase world.depot.phases)
    (started : .waiting ∈ world.depot.phases ↔ world.depot.thread ≠ .none) : Forward world where
  -- Each part is a law of the phases that can have been entered, read off in the journal.
  current := lived.current.symm
  shutdown before after split := by
    rcases lived.after_shuttingDown before after split with ⟨_, rfl⟩ | ⟨_, rfl⟩ | ⟨_, rfl⟩
    · exact List.nil_prefix
    · exact ⟨[.stopped], rfl⟩
    · exact List.prefix_refl _
  absorbing before after split := (lived.after_stopped before after split).2
  idle := lived.before_idle
  started := started

/-- The courier has come to the last phase only with everything handed over. -/
structure Delivered (start world : World) : Prop where
  /-- The queue is closed and empty, nobody has a batch, and whatever entered the queue and was not
  evicted has been handed to the transport in its order. -/
  shut : world.depot.queue.closed = true ∧ world.depot.queue.waiting = [] ∧
    (∀ task ∈ world.tasks, task.isBatch = false) ∧
      Interleaving world.depot.handedEvents world.depot.evictedEvents world.depot.admittedEvents
  /-- What waited when the queue was closed has been handed to the transport since, in one batch. -/
  offered : ∀ earlier next, World.Reachable start earlier → World.Step earlier next →
    earlier.depot.queue.closed = false → next.depot.queue.closed = true →
      World.Reachable next world → earlier.depot.queue.waiting = [] ∨
        ∃ news timeout, world.depot.journal = news ++ next.depot.journal ∧
          .sent earlier.depot.queue.waiting (Payload.encode earlier.depot.queue.waiting
            world.depot.settings.compression) timeout true ∈ news

namespace PhasesFollowed

/-- It holds of every world that comes about with an endpoint, unless the courier was lost. -/
theorem reachable {start world : World} (onward : PhasesFollowed start)
    (shutdown : ShutdownInvariant start)
    (run : World.Reachable start world) (manned : world.depot.isManned = true) :
    PhasesFollowed world := by
  -- The courier was not lost earlier either.
  induction run with
  | refl => exact onward
  | step before change ih =>
    have earlier := shutdown.reachable before
    have custody := earlier.core.custody
    exact (ih (change.turn.manned custody manned)).turn custody earlier.sealing change.turn manned

/-- Whoever closes the queue sends what waited in it before the last phase is entered. -/
theorem offered {earlier next world : World} (core : CoreInvariant earlier)
    (change : World.Step earlier next) (opened : earlier.depot.queue.closed = false)
    (closed : next.depot.queue.closed = true) (run : World.Reachable next world)
    (unbatched : ∀ task ∈ world.tasks, task.isBatch = false) :
    earlier.depot.queue.waiting = [] ∨
      ∃ news timeout, world.depot.journal = news ++ next.depot.journal ∧
        .sent earlier.depot.queue.waiting (Payload.encode earlier.depot.queue.waiting
          world.depot.settings.compression) timeout true ∈ news := by
  have parted : earlier.depot.queue.waiting = [] ∨
      next.Parts next.depot.journal earlier.depot.queue.waiting := by
    cases change.turn with
    | act left right agent after task split joined deed =>
      rcases deed.parting opened closed with empty | ⟨timeout, has⟩
      · exact .inl empty
      · refine .inr ⟨[], rfl, .inl ⟨timeout, ?_⟩⟩
        rw [World.tasks_of_split joined]
        simp [has]
    | call _ same =>
      rw [same, opened] at closed
      cases closed
    | outside _ _ _ elsewhere =>
      rw [elsewhere, opened] at closed
      cases closed
  refine parted.imp_right fun parts => ?_
  obtain ⟨news, told, ⟨timeout, has⟩ | ⟨timeout, sent⟩⟩ := (core.step change).induction
    (World.Parts next.depot.journal earlier.depot.queue.waiting) parts
    (fun core parts turn => parts.turn core.custody turn) run
  · -- Nobody has a batch any more.
    cases unbatched _ has
  · exact ⟨news, timeout, told, sent⟩

end PhasesFollowed

/-- In every world that comes about, with an endpoint or without, and whatever order the steps of
all calls come in, as long as no thread was refused the courier has never gone back: after the
beginning of its shutdown come only the last flush and the end, nothing comes after the end, and it
is idle again only after a flush on the spot before it was started. With an endpoint it has come to
the end only after the queue was closed and all that was left in it was handed to the transport. -/
theorem phases_forward {settings : Settings} {threshold : Threshold}
    {transportName sinkName : String} {wall : Timestamp} {script : Script} {world : World}
    (run : World.Reachable
      (.initial (.create settings threshold transportName sinkName wall script)) world)
    (manned : world.depot.isManned = true) :
    Forward world ∧ (settings.isRemote = true → .stopped ∈ world.depot.phases →
      Delivered (.initial (.create settings threshold transportName sinkName wall script))
        world) := by
  cases remote : settings.isRemote with
  | false =>
    have abandoned :=
      (CourierlessWorld.initial remote threshold transportName sinkName wall script).reachable
      run
    refine ⟨abandoned.lived.forward ?_, by simp⟩
    -- Nobody ever starts it.
    rcases abandoned.depot.phases with ⟨_, phases⟩ | ⟨_, phases⟩ <;>
      simp [phases, abandoned.depot.thread]
  | true =>
    have start := ShutdownInvariant.initial remote threshold transportName sinkName wall script
    have shutdown := start.reachable run
    have onward :=
      (PhasesFollowed.initial remote threshold transportName sinkName wall script).reachable
      start run manned
    refine ⟨onward.lived.forward onward.started, fun _ ended => ?_⟩
    obtain ⟨before, after, split⟩ := List.append_of_mem ended
    have stopped := (onward.lived.after_stopped before after split).1
    have closed := onward.closed stopped
    have unbatched := onward.unbatched shutdown.core.custody stopped
    have empty := shutdown.core.sound.shut closed
    refine ⟨⟨closed, empty, unbatched, ?_⟩, fun earlier next before change opened closed later =>
      PhasesFollowed.offered (start.reachable before).core change opened closed later unbatched⟩
    -- The line has left the queue, and nothing of it is on its way.
    have lined : LineOrdered world.depot (cargo world.tasks) :=
      start.core.induction (fun world => LineOrdered world.depot (cargo world.tasks))
        (LineOrdered.initial settings threshold transportName sinkName wall script)
        (fun core lined turn => lined.turn core turn) run
    obtain ⟨front, admitted, parts⟩ := lined.line
    have unsent : (cargo world.tasks).flatMap Task.unsent = [] :=
      unsent_eq_nil fun task member => unbatched task (List.mem_filter.mp member).1
    rw [admitted, empty, List.append_nil]
    rwa [unsent, List.append_nil] at parts

/-- A world in which the courier made a flush on the spot, was started and was then stopped. -/
def World.retired : World :=
  afterCalls .smooth
    [.submit default, .flush, .start, .submit default, .stop (.ofSeconds 5)]

/-- The courier was idle again after the flush on the spot, and never after it was started. -/
theorem phases_forward_retired :
    World.retired.depot.phases =
        [.flushing, .idle, .waiting, .waiting, .shuttingDown, .finalFlush, .stopped] ∧
      Forward World.retired ∧ Delivered (.initial (.plain .smooth)) World.retired :=
  -- Somebody flushed on the spot before the courier was started and stopped.
  ⟨by decide +kernel, (phases_forward (World.reachable_afterCalls _ _) (by decide +kernel)).1,
    (phases_forward (World.reachable_afterCalls _ _) (by decide +kernel)).2 rfl
      (by decide +kernel)⟩

end LogCourier
