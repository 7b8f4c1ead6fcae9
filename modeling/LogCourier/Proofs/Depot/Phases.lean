import LogCourier.Proofs.Depot.Sealing

/-!
Phases: the phases that the courier enters form a language, with a rule for each phase.

Whoever enters one has the courier, and can tell the phase before from what is left to be decided.
-/

namespace LogCourier

/-- Whether the courier may still be asked for something in a phase. -/
def Phase.isOpen : Phase → Bool
  | .idle | .waiting | .flushing => true
  | .shuttingDown | .finalFlush | .stopped => false

namespace Occurrence

/-- The phase that was entered, if one was. -/
def phase? : Occurrence → Option Phase
  | .entered phase => some phase
  | _ => none

end Occurrence

/-- All phases that have been entered, in their order. -/
def Depot.phases (depot : Depot) : List Phase :=
  depot.journal.reverse.filterMap Occurrence.phase?

/-- The phases that can have been entered before the courier came to the last of them. -/
inductive Lived (remote : Bool) : Phase → List Phase → Prop where
  | new : Lived remote .idle []
  | wait {phase : Phase} {phases : List Phase} (lived : Lived remote phase phases)
      (opened : phase.isOpen = true) : Lived remote .waiting (phases ++ [.waiting])
  | flush {phase : Phase} {phases : List Phase} (lived : Lived remote phase phases)
      (opened : phase.isOpen = true) : Lived remote .flushing (phases ++ [.flushing])
  /-- Only a flush on the spot ends so, and there is none once the courier has been started. -/
  | idle {phases : List Phase} (lived : Lived remote .flushing phases)
      (early : .waiting ∉ phases) : Lived remote .idle (phases ++ [.idle])
  | shutDown {phase : Phase} {phases : List Phase} (lived : Lived remote phase phases)
      (opened : phase.isOpen = true) : Lived remote .shuttingDown (phases ++ [.shuttingDown])
  | flushLast {phases : List Phase} (lived : Lived remote .shuttingDown phases) :
      Lived remote .finalFlush (phases ++ [.finalFlush])
  | stop {phases : List Phase} (lived : Lived remote .finalFlush phases) :
      Lived remote .stopped (phases ++ [.stopped])
  /-- Without an endpoint there is nothing to be done before. -/
  | decline (disabled : remote = false) : Lived remote .stopped [.stopped]

/-- Something stands in a list with one more item: it is the new item, or it stood there before. -/
theorem eq_or_exists_of_concat {α : Type} {items before after : List α} {last item : α}
    (split : items ++ [last] = before ++ item :: after) :
    (after = [] ∧ last = item ∧ items = before) ∨
      ∃ rest, after = rest ++ [last] ∧ items = before ++ item :: rest := by
  -- The last item of the whole is the last one of what comes after, if there is any.
  rcases List.eq_nil_or_concat after with rfl | ⟨rest, final, rfl⟩
  · obtain ⟨rfl, same⟩ := List.append_inj' split rfl
    exact .inl ⟨rfl, (List.cons.inj same).1, rfl⟩
  · right
    have joined : items ++ [last] = (before ++ item :: rest) ++ [final] := by simp [split]
    obtain ⟨rfl, same⟩ := List.append_inj' joined rfl
    exact ⟨rest, by simp [(List.cons.inj same).1], rfl⟩

namespace Lived

variable {remote : Bool} {phase : Phase} {phases : List Phase}

/-- The courier is in the phase that was entered last. -/
theorem current (lived : Lived remote phase phases) : phases.getLast?.getD .idle = phase := by
  cases lived <;> simp

/-- After the beginning of the shutdown come the last flush and the end, in this order. -/
theorem after_shuttingDown (lived : Lived remote phase phases) :
    ∀ before after, phases = before ++ .shuttingDown :: after →
      (phase = .shuttingDown ∧ after = []) ∨ (phase = .finalFlush ∧ after = [.finalFlush]) ∨
        (phase = .stopped ∧ after = [.finalFlush, .stopped]) := by
  -- Induction along the phases: each one is the beginning itself, or follows one that came after.
  induction lived with
  | new => simp
  | wait _ opened ih | flush _ opened ih | shutDown _ opened ih =>
    intro before after split
    rcases eq_or_exists_of_concat split with ⟨rfl, same, -⟩ | ⟨rest, -, earlier⟩
    · simp_all
    · -- Nothing opens the courier again.
      rcases ih before rest earlier with ⟨rfl, -⟩ | ⟨rfl, -⟩ | ⟨rfl, -⟩ <;> cases opened
  | idle _ _ ih =>
    intro before after split
    rcases eq_or_exists_of_concat split with ⟨-, same, -⟩ | ⟨rest, -, earlier⟩
    · cases same
    · rcases ih before rest earlier with ⟨same, -⟩ | ⟨same, -⟩ | ⟨same, -⟩ <;> cases same
  | flushLast _ ih =>
    intro before after split
    rcases eq_or_exists_of_concat split with ⟨-, same, -⟩ | ⟨rest, rfl, earlier⟩
    · cases same
    · rcases ih before rest earlier with ⟨-, rfl⟩ | ⟨same, -⟩ | ⟨same, -⟩
      · exact .inr (.inl ⟨rfl, rfl⟩)
      · cases same
      · cases same
  | stop _ ih =>
    intro before after split
    rcases eq_or_exists_of_concat split with ⟨-, same, -⟩ | ⟨rest, rfl, earlier⟩
    · cases same
    · rcases ih before rest earlier with ⟨same, -⟩ | ⟨-, rfl⟩ | ⟨same, -⟩
      · cases same
      · exact .inr (.inr ⟨rfl, rfl⟩)
      · cases same
  | decline =>
    intro before after split
    cases before <;> simp at split

/-- Nothing comes after the end. -/
theorem after_stopped (lived : Lived remote phase phases) :
    ∀ before after, phases = before ++ .stopped :: after → phase = .stopped ∧ after = [] := by
  -- Induction along the phases: no rule leads on from the end.
  induction lived with
  | new => simp
  | wait _ opened ih | flush _ opened ih | shutDown _ opened ih =>
    intro before after split
    rcases eq_or_exists_of_concat split with ⟨-, same, -⟩ | ⟨rest, -, earlier⟩
    · cases same
    · obtain ⟨rfl, -⟩ := ih before rest earlier
      cases opened
  | idle _ _ ih | flushLast _ ih =>
    intro before after split
    rcases eq_or_exists_of_concat split with ⟨-, same, -⟩ | ⟨rest, -, earlier⟩
    · cases same
    · cases (ih before rest earlier).1
  | stop _ ih =>
    intro before after split
    rcases eq_or_exists_of_concat split with ⟨rfl, -, -⟩ | ⟨rest, -, earlier⟩
    · exact ⟨rfl, rfl⟩
    · cases (ih before rest earlier).1
  | decline =>
    intro before after split
    cases before with
    | nil => exact ⟨rfl, (List.cons.inj split).2.symm⟩
    | cons => simp at split

/-- The courier is idle again only right after a flush, and never once it has waited. -/
theorem before_idle (lived : Lived remote phase phases) :
    ∀ before after, phases = before ++ .idle :: after →
      before.getLast? = some .flushing ∧ .waiting ∉ before := by
  -- Induction along the phases: only one rule leads there.
  induction lived with
  | new => simp
  | wait _ _ ih | flush _ _ ih | shutDown _ _ ih | flushLast _ ih | stop _ ih =>
    intro before after split
    rcases eq_or_exists_of_concat split with ⟨-, same, -⟩ | ⟨rest, -, earlier⟩
    · cases same
    · exact ih before rest earlier
  | idle lived early ih =>
    intro before after split
    rcases eq_or_exists_of_concat split with ⟨-, -, rfl⟩ | ⟨rest, -, earlier⟩
    · refine ⟨?_, early⟩
      -- The courier is flushing, and so it has entered that phase last.
      have flushing := lived.current
      cases last : List.getLast? _ with
      | none => simp [last] at flushing
      | some phase => simpa [last] using flushing
    · exact ih before rest earlier
  | decline =>
    intro before after split
    cases before <;> simp at split

end Lived

/-- Which phase a task enters, if it enters one. -/
inductive Entering (depot : Depot) : Task → Phase → Prop where
  | flush (trigger : Trigger) : Entering depot (.flushFor trigger) .flushing
  | enter (phase : Phase) : Entering depot (.enter phase) phase
  | finish (deadline : Span) : Entering depot (.finish deadline) .shuttingDown
  | idle (tick : Nat) : Entering depot (.idle tick) .waiting
  | hire (unlocked : depot.locked = false) (ready : depot.holder = .desk) :
      Entering depot .hire .waiting

/-- A step leaves the phase alone, or tells of the one that it enters, unless the courier is lost
by it. -/
theorem Deed.entering {depot after : Depot} {agent next : Agent} {task : Task}
    (deed : Deed depot agent task after next) (manned : after.isManned = true) :
    (after.phase = depot.phase ∧ after.phases = depot.phases) ∨
      ∃ phase, Entering depot task phase ∧ after.phase = phase ∧
        after.phases = depot.phases ++ [phase] := by
  -- Only entering a phase is told of it.
  have entered (phase : Phase) (depot : Depot) :
      (depot.enter phase).phases = depot.phases ++ [phase] := by
    simp [Depot.phases, Depot.enter, Depot.note, Occurrence.phase?]
  rcases deed with intake | delivery | duty
  · left
    cases intake <;>
      exact ⟨rfl, by simp [Depot.phases, Depot.note, Depot.count, Depot.tell, Occurrence.phase?]⟩
  · cases delivery with
    | flushFor trigger => exact .inr ⟨_, .flush trigger, rfl, entered _ _⟩
    | _ => exact .inl ⟨rfl, by simp [Depot.phases, Depot.note, Occurrence.phase?]⟩
  · cases duty with
    | enter phase => exact .inr ⟨_, .enter phase, rfl, entered _ _⟩
    | finish deadline => exact .inr ⟨_, .finish deadline, rfl, entered _ _⟩
    | idle tick => exact .inr ⟨_, .idle tick, rfl, entered _ _⟩
    | hire unlocked _ ready => exact .inr ⟨_, .hire unlocked ready, rfl, entered _ _⟩
    | hireLost => simp [Depot.isManned, Depot.lose, Depot.enter, Depot.tell, Depot.note] at manned
    | reportLosses =>
      left
      unfold Depot.reportLosses
      split <;> exact ⟨rfl, by simp [Depot.phases, Depot.tell, Depot.note, Occurrence.phase?]⟩
    | _ =>
      exact .inl ⟨rfl, by
        simp [Depot.phases, Depot.tell, Depot.note, Depot.release, Occurrence.phase?]⟩

namespace Task

/-- Whether a task may come to take a batch that is not the last one. -/
def opens : Task → Bool
  | .flushFor _ | .checkFull | .checkReady | .checkAge => true
  | _ => false

/-- Whether a decision is one that may stand below taking a batch that is not the last one. -/
def isAhead : Task → Bool
  | .enter .idle | .idle _ | .retick _ => true
  | _ => false

/-- Whether a phase is one in which whoever has the courier can come to a decision. -/
def isDue (phase : Phase) : Task → Bool
  | .enter .finalFlush => phase = .shuttingDown
  | .closeQueue _ | .enter .stopped => phase = .finalFlush
  | .enter .idle | .unlock | .finish _ => phase.isOpen
  | .begin | .idle _ | .schedule _ | .plan .. | .select .. | .retick _ => phase.isOpen
  | _ => true

end Task

/-- What whoever has the courier has to decide next agrees with the phase. -/
structure InStepWithPhase (phase : Phase) (tasks : List Task) : Prop where
  due : ∀ decision rest, duties tasks = decision :: rest → decision.isDue phase = true
  opens : ∀ task ∈ tasks, task.opens = true →
    ∃ decision rest, duties tasks = decision :: rest ∧ decision.isAhead = true
  idle : ∀ rest, duties tasks = .enter .idle :: rest →
    (∃ trigger, .flushFor trigger ∈ tasks) ∨ phase = .flushing
  calm : phase = .stopped → ∀ task ∈ tasks, task.isDelivery = true → task = .flushSink

/-- Where a batch may be taken that is not the last one, nothing has been decided for good. -/
theorem Task.isOpen_of_isAhead {decision : Task} {phase : Phase} (due : decision.isDue phase = true)
    (ahead : decision.isAhead = true) : phase.isOpen = true := by
  -- Of the entries only the one into idleness is ahead, and it is due only in an open phase.
  cases decision with
  | enter other => cases other <;> first | exact due | cases ahead
  | idle => exact due
  | retick => exact due
  | _ => cases ahead

/-- Giving the courier back is decided. -/
theorem Task.isDuty_of_givesBack {task : Task} (gives : task.givesBack = true) :
    task.isDuty = true := by
  cases task <;> first | rfl | cases gives

/-- Handing in an event takes no batch. -/
theorem Task.opens_of_isIntake {task : Task} (handing : task.isIntake = true) :
    task.opens = false := by
  cases task <;> first | rfl | cases handing

/-- Of a batch that is taken, only its delivery is left below a decision: to flush the sink. -/
theorem FlushOnlyBelow.calm {task : Task} {rest : List Task} (level : FlushOnlyBelow (task :: rest))
    (duty : task.isDuty = true) :
    ∀ below ∈ rest, below.isDelivery = true → below = .flushSink :=
  fun below member => (List.pairwise_cons.mp level).1 below member duty

/-- Only taking the courier from its desk, under lock or for good, leads to giving it back. -/
theorem Duty.guards {depot after : Depot} {agent next : Agent} {task guard : Task}
    (deed : Duty depot agent task after next) (member : guard ∈ next.tasks)
    (gives : guard.givesBack = true) :
    guard ∈ agent.tasks ∨ (task = .order ∨ ∃ timeout, task = .takeOver timeout) ∧
      depot.handle = false ∧ depot.holder = .desk := by
  -- There are two ways to give the courier back.
  have kind : guard = .release ∨ guard = .unlock := by
    cases guard <;> first | exact .inl rfl | exact .inr rfl | cases gives
  cases deed with
  | lock _ spare ready => exact .inr ⟨.inl rfl, spare, ready⟩
  | takeCourier timeout _ spare ready => exact .inr ⟨.inr ⟨timeout, rfl⟩, spare, ready⟩
  | takeNobody | join =>
    -- What concludes a stop flushes the sink and answers, and gives nothing back.
    left
    cases echo : depot.settings.echo <;>
      rcases kind with rfl | rfl <;> simpa [Agent.push, Depot.conclusion, echo] using member
  | _ => left; rcases kind with rfl | rfl <;> simpa [Agent.push, Agent.reply] using member

/-- Delivering a batch leads to taking another one only from looking whether to. -/
theorem Delivery.opens {depot after : Depot} {agent next : Agent} {task : Task}
    (deed : Delivery depot agent task after next) :
    ∀ new ∈ next.tasks, new.opens = true → new ∈ agent.tasks ∨ task.opens = true := by
  intro new member opens
  -- What opens a flush must be old if nothing that is added opens one.
  have below {pushed : List Task} (joined : next.tasks = pushed ++ agent.tasks)
      (none : ∀ new ∈ pushed, new.opens = false) : new ∈ agent.tasks ∨ task.opens = true := by
    rw [joined] at member
    rcases List.mem_append.mp member with member | member
    · simp [none new member] at opens
    · exact .inl member
  cases deed with
  -- Looking whether to take a batch leads to nothing that does not look or take.
  | flushFor | findFull | findRoom | findNothing | findEnough | findFew | findStale | findFresh =>
    exact .inr rfl
  | drain trigger =>
    refine below rfl ?_
    -- Counting what asked for the batch opens no other.
    cases trigger <;> simp [Trigger.counter?, Task.opens]
  | send _ _ reply =>
    exact below rfl (forall_mem_inside reply (fun _ => rfl) (fun _ => rfl) rfl rfl)
  | giveUp =>
    refine below rfl ?_
    cases depot.settings.echo <;> simp [warn, Task.opens]
  -- Unwinding takes tasks away and adds none.
  | showCrashes | flushCrashes => exact .inl (List.mem_filter.mp member).1
  | drainNothing | await | deliver | flushSink => exact .inl member
  | allShown | «show» | showFails | flushFails => exact below rfl (by simp [warn, Task.opens])

namespace InStepWithPhase

variable {phase : Phase}

/-- What is handed in above leaves the decisions as they are. -/
theorem intake {before after : Depot} {agent next : Agent} {task : Task}
    (inStep : InStepWithPhase phase (task :: agent.tasks))
    (deed : Intake before agent task after next) :
    InStepWithPhase phase next.tasks := by
  obtain ⟨due, opens, idle, calm⟩ := inStep
  obtain ⟨pushed, joined, _, inside⟩ := deed.pushes
  have same : duties next.tasks = duties (task :: agent.tasks) := by
    rw [deed.duties, duties_cons_of_neg deed.not_isDuty]
  -- Whatever is no task of handing in stood below.
  have below : ∀ new ∈ next.tasks, new.isIntake = false → new ∈ agent.tasks := by
    intro new member other
    rw [joined] at member
    rcases List.mem_append.mp member with member | member
    · simp [inside new member] at other
    · exact member
  rw [← same] at due opens idle
  refine ⟨due, fun new member opening => ?_, fun rest decided => ?_,
    fun ended new member delivers => ?_⟩
  · have other : new.isIntake = false := by
      refine Bool.eq_false_iff.mpr fun handing => ?_
      simp [Task.opens_of_isIntake handing] at opening
    exact opens new (List.mem_cons_of_mem _ (below new member other)) opening
  · rcases idle rest decided with ⟨trigger, member⟩ | flushing
    · rcases List.mem_cons.mp member with rfl | member
      · cases deed
      · refine .inl ⟨trigger, ?_⟩
        rw [joined]
        exact List.mem_append_right _ member
    · exact .inr flushing
  · have other : new.isIntake = false := by
      refine Bool.eq_false_iff.mpr fun handing => ?_
      simp [Task.isDelivery_of_isIntake handing] at delivers
    exact calm ended new (List.mem_cons_of_mem _ (below new member other)) delivers

/-- Where nothing opens a flush, only the next decision has to agree with the phase. -/
theorem ofNone {tasks : List Task}
    (due : ∀ decision rest, duties tasks = decision :: rest →
      decision.isDue phase = true ∧ decision ≠ .enter .idle)
    (none : ∀ task ∈ tasks, task.opens = false)
    (calm : phase = .stopped → ∀ task ∈ tasks, task.isDelivery = true → task = .flushSink) :
    InStepWithPhase phase tasks where
  -- There is nothing left to open, and nothing to enter idleness from.
  due decision rest same := (due decision rest same).1
  opens task member opening := by simp [none task member] at opening
  idle rest same := absurd rfl (due _ rest same).2
  calm := calm

/-- A crash leaves whoever has the courier with what must be put back. -/
theorem unwind {tasks : List Task} {control : List Task}
    (way : Course true control ∨ Round control)
    (due : ∀ decision rest, control = decision :: rest → decision.isDue phase = true)
    (before : duties tasks = control) : InStepWithPhase phase (tasks.filter Task.isCleanup) := by
  -- Only the lock makes a difference, and it is opened after a flush on the spot.
  have kind : ∀ task ∈ tasks.filter Task.isCleanup,
      task.opens = false ∧ task.isDelivery = false := by
    intro task member
    have cleanup := (List.mem_filter.mp member).2
    cases task <;> first | exact ⟨rfl, rfl⟩ | cases cleanup
  apply ofNone
  · rw [duties_filter_isCleanup, before]
    intro decision rest left
    rcases way with course | round
    · cases course with
      | inline => cases left; exact ⟨due (.enter .idle) _ rfl, by simp⟩
      | unlock => cases left; exact ⟨due _ _ rfl, by simp⟩
      | unwound => cases left; exact ⟨due _ _ rfl, by simp⟩
      | closing ends last => cases ends <;> cases last <;> cases left <;> exact ⟨rfl, by simp⟩
      | released => cases left; exact ⟨rfl, by simp⟩
      | answer ends => cases ends <;> cases left
      | stop _ ends => cases ends <;> cases left
      | takeOver _ ends => cases ends <;> cases left
      | dismiss _ ends => cases ends <;> cases left
      | join _ _ ends => cases ends <;> cases left
      | decline ends => cases ends <;> cases left
      | _ => cases left
    · cases round with
      | closing last => cases last <;> cases left <;> exact ⟨rfl, by simp⟩
      | gone => cases left
      | _ => cases left; exact ⟨rfl, by simp⟩
  · exact fun task member => (kind task member).1
  · intro _ task member delivers
    simp [(kind task member).2] at delivers

/-- Delivering a batch leaves the decisions as they are, and begins only while all is open. -/
theorem delivery {before after : Depot} {agent next : Agent} {task : Task}
    (inStep : InStepWithPhase before.phase (task :: agent.tasks))
    (way : Course true (duties (task :: agent.tasks)) ∨ Round (duties (task :: agent.tasks)))
    (deed : Delivery before agent task after next) : InStepWithPhase after.phase next.tasks := by
  obtain ⟨due, opens, idle, calm⟩ := inStep
  have same : duties (task :: agent.tasks) = duties agent.tasks :=
    duties_cons_of_neg deed.not_isDuty _
  rw [same] at due opens idle way
  by_cases begins : ∃ trigger, task = .flushFor trigger
  · -- What stands below is one of the decisions that belong to an open phase.
    obtain ⟨trigger, rfl⟩ := begins
    obtain ⟨decision, rest, decided, ahead⟩ := opens _ List.mem_cons_self rfl
    cases deed
    refine ⟨fun other rest' decided' => ?_, fun new member opening => ?_, fun _ _ => .inr rfl,
      fun ended => by cases ended⟩
    · obtain ⟨rfl, rfl⟩ := List.cons.inj (decided.symm.trans decided')
      cases decision with
      | enter phase => cases phase <;> first | rfl | cases ahead
      | _ => first | rfl | cases ahead
    · exact ⟨decision, rest, decided, ahead⟩
  · have unmoved : after.phase = before.phase :=
      deed.phase fun trigger same => begins ⟨trigger, same⟩
    rw [unmoved]
    have opening := deed.opens
    rcases deed.pushes with ⟨pushed, joined, _, _, _, kept⟩ | ⟨crash, rfl⟩
    · have left : duties next.tasks = duties agent.tasks := by
        rw [joined, duties_append, duties_of_none (fun new member => (kept new member).1),
          List.nil_append]
      refine ⟨?_, fun new member opens' => ?_, fun rest decided => ?_, fun ended => ?_⟩
      · rw [left]
        exact due
      · rw [left]
        rcases opening new member opens' with old | here
        · exact opens new (List.mem_cons_of_mem _ old) opens'
        · exact opens task List.mem_cons_self here
      · rw [left] at decided
        rcases idle rest decided with ⟨trigger, member⟩ | flushing
        · rcases List.mem_cons.mp member with rfl | member
          · exact absurd ⟨trigger, rfl⟩ begins
          · refine .inl ⟨trigger, ?_⟩
            rw [joined]
            exact List.mem_append_right _ member
        · exact .inr flushing
      · -- At the end nothing of a batch is left but to flush the sink.
        obtain rfl := calm ended task List.mem_cons_self deed.isDelivery
        have below : ∀ new ∈ agent.tasks, new.isDelivery = true → new = .flushSink :=
          fun new member => calm ended new (List.mem_cons_of_mem _ member)
        cases deed with
        | flushSink => exact below
        | flushFails => simpa [Agent.push, warn, Task.isDelivery] using below
        | flushCrashes => exact fun new member => below new (List.mem_filter.mp member).1
    · exact unwind way due rfl

/-- Nothing opens a flush where all that is left of a batch is to flush the sink. -/
theorem ofCalm {tasks : List Task}
    (due : ∀ decision rest, duties tasks = decision :: rest →
      decision.isDue phase = true ∧ decision ≠ .enter .idle)
    (calm : ∀ task ∈ tasks, task.isDelivery = true → task = .flushSink) :
    InStepWithPhase phase tasks := by
  -- What opens a flush delivers, and so does nothing but a flush of the sink here.
  refine ofNone due (fun task member => ?_) fun _ => calm
  refine Bool.eq_false_iff.mpr fun opening => ?_
  have delivers : task.isDelivery = true := by cases task <;> first | rfl | cases opening
  obtain rfl := calm task member delivers
  cases opening

/-- Where all that is left of a batch is to flush the sink, only what is next to decide matters. -/
theorem ofNext {tasks rest : List Task} {decision : Task} (left : duties tasks = decision :: rest)
    (due : decision.isDue phase = true) (other : decision ≠ .enter .idle)
    (calm : ∀ task ∈ tasks, task.isDelivery = true → task = .flushSink) :
    InStepWithPhase phase tasks := by
  -- There is only one next decision, the first one.
  refine ofCalm (fun first below decided => ?_) calm
  rw [left] at decided
  cases decided
  exact ⟨due, other⟩

/-- A decision of the last flush leads on to the next one, each in its own phase. -/
theorem closing {before after : Depot} {agent next : Agent} {task : Task} {rest : List Task}
    (last : Closing (.release :: rest) (task :: duties agent.tasks))
    (inStep : InStepWithPhase before.phase (task :: agent.tasks))
    (level : FlushOnlyBelow (task :: agent.tasks))
    (further : ∀ decision below, rest = decision :: below → decision.isDue before.phase = true ∧
      decision ≠ .enter .idle)
    (deed : Duty before agent task after next) : InStepWithPhase after.phase next.tasks := by
  -- Below a decision nothing of a batch is left but a flush of the sink.
  have calm := level.calm deed.isDuty
  have due := inStep.due task (duties agent.tasks) (by rw [duties_cons, if_pos deed.isDuty])
  generalize left : duties agent.tasks = control at last
  cases last with
  | finish deadline =>
    -- The decisions of the last flush stand in their order, and the first of them is due.
    cases deed
    refine ofNext rfl rfl (by simp) ?_
    simpa [Agent.push, Task.isDelivery] using calm
  | enter timeout =>
    cases deed
    exact ofNext left rfl (by simp) calm
  | close timeout =>
    -- The queue is closed within the last flush, which may send one more batch.
    have flushing : before.phase = .finalFlush := by simpa [Task.isDue] using due
    have same : after.phase = .finalFlush := by cases deed <;> exact flushing
    -- The batch is sent above the decision that comes next.
    have decided : duties next.tasks = .enter .stopped :: .release :: rest := by
      cases deed <;> simp [Agent.push, Task.isDuty, Task.isIntake, Task.isDelivery, left]
    apply ofNone
    · rw [decided, same]
      intro decision below decided
      cases decided
      exact ⟨rfl, by simp⟩
    · -- The last batch is sent, and no further one is looked for.
      intro new member
      refine Bool.eq_false_iff.mpr fun opening => ?_
      have old : new ∈ agent.tasks := by
        cases deed with
        | closeEmpty => exact member
        | close =>
          rcases List.mem_cons.mp member with rfl | member
          · cases opening
          · exact member
      have delivers : new.isDelivery = true := by cases new <;> first | rfl | cases opening
      obtain rfl := calm new old delivers
      cases opening
    · simp [same]
  | leave =>
    cases deed
    exact ofNext left rfl (by simp) calm
  | done =>
    cases deed
    -- What comes next is what follows the release.
    apply ofCalm
    · rw [left]
      exact further
    · exact calm

/-- A decision of a caller who has the courier agrees with the phase, and so does the next one. -/
theorem course {before after : Depot} {agent next : Agent} {task : Task}
    (course : Course true (task :: duties agent.tasks))
    (inStep : InStepWithPhase before.phase (task :: agent.tasks))
    (level : FlushOnlyBelow (task :: agent.tasks))
    (guarded : ∃ guard ∈ task :: duties agent.tasks, guard.givesBack = true)
    (deed : Duty before agent task after next) : InStepWithPhase after.phase next.tasks := by
  have calm := level.calm deed.isDuty
  have due := inStep.due task (duties agent.tasks) (by rw [duties_cons, if_pos deed.isDuty])
  generalize left : duties agent.tasks = control at course guarded
  cases course with
  | inline =>
    cases deed
    exact ofNext left rfl (by simp) calm
  | unlock =>
    cases deed
    exact ofNext left rfl (by simp) calm
  | unwound =>
    cases deed
    apply ofCalm
    · simp [left]
    · exact calm
  | released =>
    cases deed
    apply ofCalm
    · simp [left]
    · exact calm
  | closing ends last =>
    subst left
    refine closing last inStep level (fun decision below decided => ?_) deed
    cases decided
    exact ⟨rfl, by simp⟩
  -- The others have nothing to give back.
  | answer ends => cases ends <;> simp [Task.givesBack] at guarded
  | stop _ ends => cases ends <;> simp [Task.givesBack] at guarded
  | takeOver _ ends => cases ends <;> simp [Task.givesBack] at guarded
  | dismiss _ ends => cases ends <;> simp [Task.givesBack] at guarded
  | join _ _ ends => cases ends <;> simp [Task.givesBack] at guarded
  | decline _ disabled => cases disabled
  | _ => simp [Task.givesBack] at guarded

/-- What may take a batch is put on top of a decision that may stand below it. -/
theorem above {first decision : Task} {rest : List Task}
    (inStep : InStepWithPhase phase (decision :: rest))
    (kind : first.isDuty = false) (duty : decision.isDuty = true)
    (ahead : decision.isAhead = true) (opened : phase.isOpen = true)
    (other : decision ≠ .enter .idle) : InStepWithPhase phase (first :: decision :: rest) := by
  -- The new task decides nothing, so that the next decision is the old one.
  have same : duties (first :: decision :: rest) = decision :: duties rest := by
    rw [duties_cons_of_neg kind, duties_cons, if_pos duty]
  refine ⟨fun next below decided => ?_, fun _ _ _ => ⟨decision, duties rest, same, ahead⟩,
    fun below decided => ?_, fun ended => ?_⟩
  · rw [duties_cons_of_neg kind] at decided
    exact inStep.due next below decided
  · exact absurd (List.cons.inj (same.symm.trans decided)).1 other
  · rw [ended] at opened
    cases opened

/-- A decision of the courier on its thread agrees with the phase, and so does the next one. -/
theorem round {before after : Depot} {agent next : Agent} {task : Task}
    (round : Round (task :: duties agent.tasks))
    (inStep : InStepWithPhase before.phase (task :: agent.tasks))
    (level : FlushOnlyBelow (task :: agent.tasks))
    (deed : Duty before agent task after next) : InStepWithPhase after.phase next.tasks := by
  have calm := level.calm deed.isDuty
  have due := inStep.due task (duties agent.tasks) (by rw [duties_cons, if_pos deed.isDuty])
  -- A decision is pushed on top of those that are left.
  have onto (decision : Task) (duty : decision.isDuty = true)
      (next : decision.isDue after.phase = true) (other : decision ≠ .enter .idle) :
      InStepWithPhase after.phase (decision :: agent.tasks) := by
    have kind : decision.isDelivery = false := by
      cases decision <;> first | rfl | cases duty
    refine ofNext (by rw [duties_cons, if_pos duty]) next other fun new member delivers => ?_
    rcases List.mem_cons.mp member with rfl | member
    · simp [kind] at delivers
    · exact calm new member delivers
  generalize left : duties agent.tasks = control at round
  cases round with
  | begin => cases deed; exact onto _ rfl due (by simp)
  | idle tick => cases deed; exact onto _ rfl rfl (by simp)
  | schedule tick => cases deed; exact onto _ rfl due (by simp)
  | plan tick asked => cases deed; exact onto _ rfl due (by simp)
  | select tick wake =>
    cases deed with
    | takeSignal => exact (onto (.idle tick) rfl due (by simp)).above rfl rfl rfl due (by simp)
    | takeFlush => exact (onto (.idle tick) rfl due (by simp)).above rfl rfl rfl due (by simp)
    | takeStop => exact onto _ rfl due (by simp)
    | wake => exact (onto (.retick tick) rfl due (by simp)).above rfl rfl rfl due (by simp)
  | retick tick => cases deed; exact onto _ rfl due (by simp)
  | closing last =>
    subst left
    refine closing last inStep level (fun decision below decided => ?_) deed
    cases decided
    exact ⟨rfl, by simp⟩
  | exit =>
    cases deed
    apply ofCalm
    · simp [left]
    · exact calm

/-- A step of whoever has the courier keeps it in step with the phase. -/
theorem after {before after : Depot} {agent next : Agent} {task : Task}
    (inStep : InStepWithPhase before.phase (task :: agent.tasks))
    (level : FlushOnlyBelow (task :: agent.tasks))
    (way : Course true (duties (task :: agent.tasks)) ∨ Round (duties (task :: agent.tasks)))
    (guarded : ∃ guard ∈ task :: agent.tasks, guard.givesBack = true)
    (deed : Deed before agent task after next) : InStepWithPhase after.phase next.tasks := by
  rcases deed with intake | delivery | duty
  · rw [intake.phase]
    exact inStep.intake intake
  · exact inStep.delivery way delivery
  · have decided : duties (task :: agent.tasks) = task :: duties agent.tasks := by
      rw [duties_cons, if_pos duty.isDuty]
    rw [decided] at way
    rcases way with course | round
    · refine inStep.course course level ?_ duty
      -- What gives the courier back is among the decisions.
      obtain ⟨guard, member, gives⟩ := guarded
      refine ⟨guard, ?_, gives⟩
      rw [← decided]
      exact List.mem_filter.mpr ⟨member, Task.isDuty_of_givesBack gives⟩
    · exact inStep.round round level duty

/-- Whoever comes to have the courier takes it from its desk, and is abreast of an open phase. -/
theorem ofTaken {before after : Depot} {agent next : Agent} {task : Task}
    (level : FlushOnlyBelow (task :: agent.tasks))
    (none : ∀ guard ∈ task :: agent.tasks, guard.givesBack = false)
    (deed : Deed before agent task after next)
    (guarded : ∃ guard ∈ next.tasks, guard.givesBack = true) :
    before.holder = .desk ∧
      (before.phase.isOpen = true → InStepWithPhase after.phase next.tasks) := by
  obtain ⟨guard, member, gives⟩ := guarded
  have old : guard ∉ agent.tasks := by
    intro below
    simp [none guard (List.mem_cons_of_mem _ below)] at gives
  rcases deed with intake | delivery | duty
  · obtain ⟨pushed, joined, _, inside⟩ := intake.pushes
    rw [joined] at member
    rcases List.mem_append.mp member with member | member
    · have decides := Task.isDuty_of_givesBack gives
      simp [Task.isDuty, inside guard member] at decides
    · exact absurd member old
  · rcases delivery.pushes with ⟨pushed, joined, _, _, _, kept⟩ | ⟨crash, rfl⟩
    · rw [joined] at member
      rcases List.mem_append.mp member with member | member
      · have decides := Task.isDuty_of_givesBack gives
        simp [(kept guard member).1] at decides
      · exact absurd member old
    · exact absurd (List.mem_filter.mp member).1 old
  · -- Without the courier at its desk there is nothing to take.
    have calm := level.calm duty.isDuty
    obtain ⟨kind, spare, ready⟩ := (duty.guards member gives).resolve_left old
    refine ⟨ready, fun opened => ?_⟩
    cases duty with
    | lock =>
      refine ⟨fun decision below decided => ?_, fun _ _ _ => ⟨.enter .idle, _, rfl, rfl⟩,
        fun _ _ => .inl ⟨.request, List.mem_cons_self⟩, fun ended => ?_⟩
      · cases decided
        exact opened
      · rw [show before.phase = .stopped from ended] at opened
        cases opened
    | takeCourier timeout =>
      refine ofNext rfl opened (by simp) ?_
      -- Of a batch there may be only the sink to flush in the end.
      cases echo : before.settings.echo <;>
        simpa [Agent.push, Depot.conclusion, echo, Task.isDelivery] using calm
    | order _ employed => simp [spare] at employed
    | orderLost _ employed => simp [spare] at employed
    | takeHandle _ _ employed => simp [spare] at employed
    | orderNobody _ _ absent => exact absurd ready absent
    | takeNobody _ _ _ absent => exact absurd ready absent
    | _ => simp at kind

end InStepWithPhase

end LogCourier
