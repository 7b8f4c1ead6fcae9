import LogCourier.Proofs.Depot.Succession

/-!
Display: what is brought to the sink, with the echo on and off.

With the echo off only the batches that could not be delivered are shown, one after another, each as
far as the sink takes its events. Without an endpoint there are no batches, and nothing is shown.
-/

namespace LogCourier

namespace Occurrence

/-- Whether a batch could not be delivered, or something was brought to the sink. -/
def isFallback : Occurrence → Bool
  | .ended _ (.failed _) | .ended _ (.crashed _) => true
  | .shown .. | .sinkFlushed _ => true
  | _ => false

end Occurrence

/-- What a journal tells of batches that could not be delivered and of the sink, the earliest
first. -/
def fallbacks (journal : List Occurrence) : List Occurrence :=
  (journal.filter Occurrence.isFallback).reverse

@[simp] theorem fallbacks_append (news journal : List Occurrence) :
    fallbacks (news ++ journal) = fallbacks journal ++ fallbacks news := by
  simp [fallbacks]

/-- What is told of the sink when the events of a batch are shown one by one: the first that fails
ends the showing, and otherwise the sink is flushed after the last one. -/
inductive Shown : List Event → List Occurrence → Prop where
  | flushed (outcome : Outcome) : Shown [] [.sinkFlushed outcome]
  | next (event : Event) {events : List Event} {told : List Occurrence} (rest : Shown events told) :
      Shown (event :: events) (.shown event .ok :: told)
  | stopped (event : Event) (events : List Event) {outcome : Outcome} (failed : outcome ≠ .ok) :
      Shown (event :: events) [.shown event outcome]

/-- What is told of batches that could not be delivered, each of them shown after it has failed. -/
inductive Fallbacks : List Occurrence → Prop where
  | none : Fallbacks []
  | batch {before told : List Occurrence} {batch : List Event} {outcome : Outcome}
      (earlier : Fallbacks before) (failed : outcome ≠ .ok) (shown : Shown batch told) :
      Fallbacks (before ++ .ended batch outcome :: told)

/-- What is told while the last batch may still be being shown, with the task that goes on with
it. -/
inductive Ongoing : List Occurrence → List Task → Prop where
  | rest {told : List Occurrence} (done : Fallbacks told) : Ongoing told []
  | showing {before : List Occurrence} {outcome : Outcome} (earlier : Fallbacks before)
      (failed : outcome ≠ .ok) (shown left : List Event) :
      Ongoing (before ++ .ended (shown ++ left) outcome :: shown.map (.shown · .ok))
        [.fallBack left]
  | flushing {before : List Occurrence} {outcome : Outcome} (earlier : Fallbacks before)
      (failed : outcome ≠ .ok) (batch : List Event) :
      Ongoing (before ++ .ended batch outcome :: batch.map (.shown · .ok)) [.flushSink]

/-- Events that could be shown come before whatever ends the showing. -/
theorem Shown.after {events : List Event} {told : List Occurrence} (shown : List Event)
    (ends : Shown events told) : Shown (shown ++ events) (shown.map (.shown · .ok) ++ told) := by
  -- Each event that the sink took is one more step before the end.
  induction shown with
  | nil => exact ends
  | cons event _ ih => exact .next event ih

/-- What a step of an agent tells of a batch that could not be delivered, and how far it had and has
come with showing it. -/
inductive Falls : List Occurrence → List Task → List Task → Prop where
  | fail {batch : List Event} {outcome : Outcome} (failed : outcome ≠ .ok) :
      Falls [.ended batch outcome] [] [.fallBack batch]
  | next (event : Event) (events : List Event) :
      Falls [.shown event .ok] [.fallBack (event :: events)] [.fallBack events]
  | stop (event : Event) (events : List Event) {outcome : Outcome} (failed : outcome ≠ .ok) :
      Falls [.shown event outcome] [.fallBack (event :: events)] []
  | allShown : Falls [] [.fallBack []] [.flushSink]
  | flush (outcome : Outcome) : Falls [.sinkFlushed outcome] [.flushSink] []

/-- The showing of batches goes on as it should. -/
theorem Ongoing.after {told news : List Occurrence} {old new : List Task}
    (ongoing : Ongoing told old) (falls : Falls news old new) : Ongoing (told ++ news) new := by
  -- What goes on with the last batch says how much of it has been shown.
  cases falls with
  | fail failed =>
    cases ongoing with
    | rest done => exact .showing done failed [] _
  | next event events =>
    cases ongoing with
    | showing earlier failed shown =>
      simpa using Ongoing.showing earlier failed (shown ++ [event]) events
  | stop event events ending =>
    cases ongoing with
    | showing earlier failed shown =>
      have ended := (Shown.stopped event events ending).after shown
      simpa using Ongoing.rest (earlier.batch failed ended)
  | allShown =>
    cases ongoing with
    | showing earlier failed shown => simpa using Ongoing.flushing earlier failed shown
  | flush outcome =>
    cases ongoing with
    | flushing earlier failed batch =>
      simpa using Ongoing.rest (earlier.batch failed ((Shown.flushed outcome).after batch))

namespace Task

/-- Whether a task goes on with showing a batch that could not be delivered. -/
def isShowing : Task → Bool
  | .fallBack _ | .flushSink => true
  | _ => false

/-- Showing a batch is not done inside anything else. -/
theorem isInner_of_isShowing {task : Task} (shows : task.isShowing = true) :
    task.isInner = false := by
  cases task <;> first | rfl | cases shows

end Task

/-- Only inner tasks stand above the showing of a batch, and below it the courier is given back. -/
def ShowingsScreened : List Task → Prop
  | [] => True
  | task :: rest =>
    (task.isInner = false → ∀ below ∈ rest, below.isShowing = false) ∧
      (task.isShowing = true → ∃ guard ∈ rest, guard.givesBack = true) ∧ ShowingsScreened rest

/-- With the echo off an agent shows nothing but a batch, and that as it should. -/
structure ShowsOnlyBatches (tasks : List Task) : Prop where
  screened : ShowingsScreened tasks
  unechoed : tasks.flatMap Task.toShow = []

/-- Nothing is shown where there is nothing to show. -/
theorem screened_of_none {tasks : List Task} (none : ∀ task ∈ tasks, task.isShowing = false) :
    ShowingsScreened tasks := by
  -- Nothing shows a batch, so nothing has to be shielded.
  induction tasks with
  | nil => trivial
  | cons task rest ih =>
    refine ⟨fun _ below member => none below (List.mem_cons_of_mem _ member), fun shows => ?_,
      ih fun lower member => none lower (List.mem_cons_of_mem _ member)⟩
    rw [none task List.mem_cons_self] at shows
    cases shows

/-- Inner tasks may stand above the showing of a batch. -/
theorem ShowingsScreened.push {pushed rest : List Task} (screened : ShowingsScreened rest)
    (inner : ∀ new ∈ pushed, new.isInner = true) : ShowingsScreened (pushed ++ rest) := by
  -- An inner task neither shows a batch nor is an outermost one.
  induction pushed with
  | nil => exact screened
  | cons new pushed ih =>
    have own := inner new List.mem_cons_self
    refine ⟨fun outer => ?_, fun shows => ?_, ih fun other member => inner other (by simp [member])⟩
    · simp [own] at outer
    · simp [Task.isInner_of_isShowing shows] at own

/-- With the echo off a step tells nothing of the sink, or goes on with showing a batch; whoever
does so has to give the courier back. -/
def FallsBack (before after : Depot) (old new : List Task) : Prop :=
  ShowsOnlyBatches new ∧ ∃ news, after.journal = news ++ before.journal ∧
    (fallbacks news = [] ∧ new.filter Task.isShowing = old.filter Task.isShowing ∨
      (∃ guard ∈ old, guard.givesBack = true) ∧
        Falls (fallbacks news) (old.filter Task.isShowing) (new.filter Task.isShowing))

/-- A task that neither shows a batch nor leads to showing one leaves what is to be shown. -/
theorem FallsBack.still {before after : Depot} {task : Task} {rest : List Task}
    (pushed : List Task) (reserved : ShowsOnlyBatches (task :: rest))
    (calm : task.isShowing = false)
    (news : List Occurrence) (grown : after.journal = news ++ before.journal)
    (told : fallbacks news = [])
    (none : ∀ new ∈ pushed, new.isShowing = false ∧ new.toShow = [])
    (above : task.isInner = false ∨ ∀ new ∈ pushed, new.isInner = true) :
    FallsBack before after (task :: rest) (pushed ++ rest) := by
  obtain ⟨⟨outer, _, screened⟩, unechoed⟩ := reserved
  -- What is pushed shows nothing, so the showings are those from before.
  have silent : pushed.flatMap Task.toShow = [] :=
    List.flatMap_eq_nil_iff.mpr fun new member => (none new member).2
  have unshown : pushed.filter Task.isShowing = [] :=
    List.filter_eq_nil_iff.mpr fun new member => by simp [(none new member).1]
  rw [List.flatMap_cons, List.append_eq_nil_iff] at unechoed
  refine ⟨⟨?_, by simp [silent, unechoed.2]⟩, news, grown, .inl ⟨told, by simp [unshown, calm]⟩⟩
  rcases above with first | inner
  · -- Below an outermost task nothing is to be shown.
    refine screened_of_none fun new member => ?_
    rcases List.mem_append.mp member with member | member
    · exact (none new member).1
    · exact outer first new member
  · exact screened.push inner

/-- With the echo off, handing in an event leaves the sink alone. -/
theorem Intake.fallsBack {depot after : Depot} {agent next : Agent} {task : Task}
    (deed : Intake depot agent task after next) (unechoing : depot.settings.echo = false)
    (reserved : ShowsOnlyBatches (task :: agent.tasks)) :
    FallsBack depot after (task :: agent.tasks) next.tasks := by
  -- No echo is among its tasks, and none comes with an event.
  have unechoed : task.toShow = [] := by
    have none := reserved.unechoed
    rw [List.flatMap_cons, List.append_eq_nil_iff] at none
    exact none.1
  have small {new : Task} (inner : new.isIntake = true) (silent : new.toShow = []) :
      (new.isShowing = false ∧ new.toShow = []) ∧ new.isInner = true := by
    refine ⟨⟨?_, silent⟩, by simp [Task.isInner, inner]⟩
    cases new <;> first | rfl | cases inner
  have still (pushed : List Task) (news : List Occurrence)
      (grown : after.journal = news ++ depot.journal) (told : fallbacks news = [])
      (tasks : next.tasks = pushed ++ agent.tasks)
      (none : ∀ new ∈ pushed, new.isIntake = true ∧ new.toShow = []) :
      FallsBack depot after (task :: agent.tasks) next.tasks := by
    rw [tasks]
    exact .still pushed reserved (small deed.isIntake unechoed).1.1 news grown told
      (fun new member => (small (none new member).1 (none new member).2).1)
      (.inr fun new member => (small (none new member).1 (none new member).2).2)
  cases deed with
  | echo | echoFails => cases unechoed
  | submit submission event =>
    refine still (depot.acceptance event) [_] rfl rfl rfl ?_
    unfold Depot.acceptance
    cases depot.settings.isRemote <;> simp [unechoing, Task.isIntake, Task.toShow]
  | displace event oldest =>
    refine still _ [_, _] rfl rfl rfl ?_
    split <;> simp [Task.isIntake, Task.toShow]
  | append | displaceNobody =>
    refine still _ [_] rfl rfl rfl ?_
    split <;> simp [Task.isIntake, Task.toShow]
  | _ =>
    first
    | exact still _ [] rfl rfl rfl (by simp [warn, Task.isIntake, Task.toShow])
    | exact still _ [_] rfl rfl rfl (by simp [Task.isIntake, Task.toShow])
    | exact still [] [] rfl rfl rfl (by simp)
    | exact still [] [_] rfl rfl rfl (by simp)

/-- Below an outermost task nothing is to be shown. -/
theorem ShowsOnlyBatches.below {task : Task} {rest : List Task}
    (reserved : ShowsOnlyBatches (task :: rest))
    (outer : task.isInner = false) :
    rest.filter Task.isShowing = [] ∧ rest.flatMap Task.toShow = [] := by
  -- The task may be inside others itself, but nothing below it is to be shown.
  have unechoed := reserved.unechoed
  rw [List.flatMap_cons, List.append_eq_nil_iff] at unechoed
  exact ⟨List.filter_eq_nil_iff.mpr fun below member => by
    simp [reserved.screened.1 outer below member], unechoed.2⟩

/-- An outermost task above the giving back of the courier takes the showing of a batch further. -/
theorem FallsBack.further {before after : Depot} {task : Task} {rest : List Task}
    (reserved : ShowsOnlyBatches (task :: rest)) (outer : task.isInner = false)
    (guarded : ∃ guard ∈ rest, guard.givesBack = true) (upper : List Task) (left : Option Task)
    (news : List Occurrence) (grown : after.journal = news ++ before.journal)
    (falls : Falls (fallbacks news) ([task].filter Task.isShowing) left.toList)
    (inner : ∀ new ∈ upper, new.isInner = true ∧ new.toShow = [])
    (shows : ∀ new, left = some new → new.isShowing = true) :
    FallsBack before after (task :: rest) (upper ++ (left.toList ++ rest)) := by
  -- Below an outermost task nothing is shown, so what is shown is its own.
  obtain ⟨unshown, unechoed⟩ := reserved.below outer
  have silent : upper.flatMap Task.toShow = [] :=
    List.flatMap_eq_nil_iff.mpr fun new member => (inner new member).2
  have calm : upper.filter Task.isShowing = [] := by
    refine List.filter_eq_nil_iff.mpr fun new member shows => ?_
    have own := (inner new member).1
    simp [Task.isInner_of_isShowing shows] at own
  obtain ⟨guard, member, gives⟩ := guarded
  have had : (task :: rest).filter Task.isShowing = [task].filter Task.isShowing := by
    rw [← List.singleton_append, List.filter_append, unshown, List.append_nil]
  refine ⟨⟨ShowingsScreened.push ?_ fun new member => (inner new member).1, ?_⟩, news, grown,
    .inr ⟨⟨guard, by simp [member], gives⟩, ?_⟩⟩
  · cases left with
    | none => exact reserved.screened.2.2
    | some new =>
      exact ⟨fun _ below member => by simpa using List.filter_eq_nil_iff.mp unshown below member,
        fun _ => ⟨guard, member, gives⟩, reserved.screened.2.2⟩
  · cases left with
    | none => simp [silent, unechoed]
    | some new =>
      have unechoing : new.toShow = [] := by
        have kind := shows new rfl
        cases new <;> first | rfl | cases kind
      simp [silent, unechoed, unechoing]
  · have has : (upper ++ (left.toList ++ rest)).filter Task.isShowing = left.toList := by
      cases left with
      | none => simp [calm, unshown]
      | some new => simp [calm, unshown, shows new rfl]
    rw [had, has]
    exact falls

/-- A crash of the sink ends the showing of a batch. -/
theorem FallsBack.unwound {before after : Depot} {task : Task} {agent : Agent} (crash : Crash)
    (reserved : ShowsOnlyBatches (task :: agent.tasks)) (outer : task.isInner = false)
    (guarded : ∃ guard ∈ agent.tasks, guard.givesBack = true) (news : List Occurrence)
    (grown : after.journal = news ++ before.journal)
    (falls : Falls (fallbacks news) ([task].filter Task.isShowing) []) :
    FallsBack before after (task :: agent.tasks) (agent.unwind crash).tasks := by
  -- What must be put back after a crash shows nothing.
  obtain ⟨unshown, _⟩ := reserved.below outer
  obtain ⟨guard, member, gives⟩ := guarded
  have calm : ∀ kept ∈ (agent.unwind crash).tasks, kept.isShowing = false ∧ kept.toShow = [] := by
    intro kept member
    have cleanup := (List.mem_filter.mp member).2
    cases kept <;> first | exact ⟨rfl, rfl⟩ | cases cleanup
  have has : (agent.unwind crash).tasks.filter Task.isShowing = [] :=
    List.filter_eq_nil_iff.mpr fun kept member => by simp [(calm kept member).1]
  have had : (task :: agent.tasks).filter Task.isShowing = [task].filter Task.isShowing := by
    rw [← List.singleton_append, List.filter_append, unshown, List.append_nil]
  refine ⟨⟨screened_of_none fun kept member => (calm kept member).1,
    List.flatMap_eq_nil_iff.mpr fun kept member => (calm kept member).2⟩, news, grown,
    .inr ⟨⟨guard, by simp [member], gives⟩, ?_⟩⟩
  rw [had, has]
  exact falls

/-- With the echo off, delivering a batch shows it if it cannot be delivered. -/
theorem Delivery.fallsBack {depot after : Depot} {agent next : Agent} {task : Task}
    (deed : Delivery depot agent task after next) (unechoing : depot.settings.echo = false)
    (reserved : ShowsOnlyBatches (task :: agent.tasks))
    (covered : ErrandsCovered (task :: agent.tasks)) :
    FallsBack depot after (task :: agent.tasks) next.tasks := by
  have shield (shows : task.isShowing = true) := reserved.screened.2.1 shows
  -- A batch that fails begins a showing, and the tasks of the showing take it further.
  cases deed with
  | giveUp wasSending batch outcome error failed =>
    have harm : outcome ≠ .ok := by
      rintro rfl
      cases failed
    have told : fallbacks [.ended batch outcome] = [.ended batch outcome] := by
      cases outcome <;> first | rfl | exact absurd rfl harm
    rw [if_neg (by simp [unechoing])]
    refine .further reserved rfl (covered.1 rfl) (warn _) (some (.fallBack batch)) [_] rfl ?_ ?_ ?_
    · rw [told]
      exact .fail harm
    · simp [warn, Task.isInner, Task.isIntake, Task.toShow]
    · simp [Task.isShowing]
  | allShown =>
    exact .further reserved rfl (shield rfl) [] (some .flushSink) [] rfl .allShown (by simp)
      (by simp [Task.isShowing])
  | showFails event rest error =>
    exact .further reserved rfl (shield rfl) (warn _) none [_] rfl
      (.stop event rest (by simp)) (by simp [warn, Task.isInner, Task.isIntake, Task.toShow])
      (by simp)
  | showCrashes event rest crash =>
    exact .unwound crash reserved rfl (shield rfl) [_] rfl (.stop event rest (by simp))
  | flushSink =>
    exact .further reserved rfl (shield rfl) [] none [_] rfl (.flush .ok) (by simp) (by simp)
  | flushFails error =>
    exact .further reserved rfl (shield rfl) (warn _) none [_] rfl (.flush _)
      (by simp [warn, Task.isInner, Task.isIntake, Task.toShow]) (by simp)
  | flushCrashes crash =>
    exact .unwound crash reserved rfl (shield rfl) [_] rfl (.flush _)
  | send batch timeout reply =>
    refine .still _ reserved rfl [_] rfl rfl ?_ (.inl rfl)
    exact forall_mem_inside reply (fun _ => ⟨rfl, rfl⟩) (fun _ => ⟨rfl, rfl⟩) ⟨rfl, rfl⟩ ⟨rfl, rfl⟩
  | drain trigger =>
    refine .still _ reserved rfl [] rfl rfl ?_ (.inl rfl)
    cases trigger <;> simp [Trigger.counter?, Task.isShowing, Task.toShow]
  | await => exact .still [] reserved rfl [] rfl rfl (by simp) (.inr (by simp))
  | deliver | drainNothing | findRoom | findNothing | findFresh =>
    first
    | exact .still [] reserved rfl [] rfl rfl (by simp) (.inl rfl)
    | exact .still [] reserved rfl [_] rfl rfl (by simp) (.inl rfl)
  | _ =>
    first
    | exact .still _ reserved rfl [] rfl rfl (by simp [Task.isShowing, Task.toShow]) (.inl rfl)
    | exact .still _ reserved rfl [_] rfl rfl (by simp [Task.isShowing, Task.toShow]) (.inl rfl)
    | exact .further reserved rfl (shield rfl) [.count .shown] (some (.fallBack _)) [_] rfl
        (.next _ _) (by simp [Task.isInner, Task.isIntake, Task.toShow]) (by simp [Task.isShowing])

/-- With the echo off, deciding about the courier leaves the sink alone. -/
theorem Duty.fallsBack {depot after : Depot} {agent next : Agent} {task : Task}
    (deed : Duty depot agent task after next) (unechoing : depot.settings.echo = false)
    (reserved : ShowsOnlyBatches (task :: agent.tasks)) :
    FallsBack depot after (task :: agent.tasks) next.tasks := by
  -- A call that has stopped the courier does not flush the sink.
  have concluded : depot.conclusion = [.answer true] := by simp [Depot.conclusion, unechoing]
  have calm : task.isShowing = false ∧ task.isInner = false := by
    have kind := deed.isDuty
    cases task <;> first | exact ⟨rfl, rfl⟩ | cases kind
  have still (pushed : List Task) (news : List Occurrence)
      (grown : after.journal = news ++ depot.journal) (told : fallbacks news = [])
      (tasks : next.tasks = pushed ++ agent.tasks)
      (none : ∀ new ∈ pushed, new.isShowing = false ∧ new.toShow = []) :
      FallsBack depot after (task :: agent.tasks) next.tasks := by
    rw [tasks]
    exact .still pushed reserved calm.1 news grown told none (.inl calm.2)
  cases deed with
  | takeCourier | takeNobody | join =>
    exact still _ [] rfl rfl rfl (by simp [concluded, Task.isShowing, Task.toShow])
  | reportLosses =>
    have tells : ∃ news, depot.reportLosses.journal = news ++ depot.journal ∧
        fallbacks news = [] := by
      unfold Depot.reportLosses
      split
      · exact ⟨[], rfl, rfl⟩
      · exact ⟨[_], rfl, rfl⟩
    obtain ⟨news, grown, told⟩ := tells
    exact still [] news grown told rfl (by simp)
  | hireLost => exact still [] [_, _, _] rfl rfl rfl (by simp)
  | _ =>
    first
    | exact still _ [] rfl rfl rfl (by simp [Task.isShowing, Task.toShow])
    | exact still _ [_] rfl rfl rfl (by simp [Task.isShowing, Task.toShow])
    | exact still [] [] rfl rfl rfl (by simp)
    | exact still [] [_] rfl rfl rfl (by simp)

/-- With the echo off, a step goes on with showing a batch, or leaves the sink alone. -/
theorem Deed.fallsBack {depot after : Depot} {agent next : Agent} {task : Task}
    (deed : Deed depot agent task after next) (unechoing : depot.settings.echo = false)
    (reserved : ShowsOnlyBatches (task :: agent.tasks))
    (covered : ErrandsCovered (task :: agent.tasks)) :
    FallsBack depot after (task :: agent.tasks) next.tasks := by
  -- With the echo off only a delivery comes near the sink.
  rcases deed with intake | delivery | duty
  · exact intake.fallsBack unechoing reserved
  · exact delivery.fallsBack unechoing reserved covered
  · exact duty.fallsBack unechoing reserved

/-- Whoever goes on with showing a batch has the courier to give back. -/
theorem ShowingsScreened.guarded {tasks : List Task} (screened : ShowingsScreened tasks)
    (shows : tasks.filter Task.isShowing ≠ []) : ∃ guard ∈ tasks, guard.givesBack = true := by
  -- It is below the showing.
  induction tasks with
  | nil => exact absurd rfl shows
  | cons task rest ih =>
    obtain ⟨_, shield, screened⟩ := screened
    by_cases own : task.isShowing = true
    · obtain ⟨guard, member, gives⟩ := shield own
      exact ⟨guard, by simp [member], gives⟩
    · rw [List.filter_cons_of_neg own] at shows
      obtain ⟨guard, member, gives⟩ := ih screened shows
      exact ⟨guard, by simp [member], gives⟩

namespace World

/-- What goes on with showing a batch that could not be delivered. -/
def showing (world : World) : List Task :=
  world.tasks.filter Task.isShowing

end World

/-- With the echo off and an endpoint, batches that cannot be delivered are shown one after
another. -/
structure BatchesShown (world : World) : Prop where
  reserved : ∀ agent ∈ world.agents, ShowsOnlyBatches agent.tasks
  ongoing : Ongoing (fallbacks world.depot.journal) world.showing

namespace BatchesShown

variable {world next : World}

/-- Before anything has happened nothing is shown. -/
theorem initial {depot : Depot} (fresh : depot.journal = []) : BatchesShown (.initial depot) := by
  -- The courier only waits for its thread.
  have dormant : ShowsOnlyBatches Agent.courier.tasks :=
    ⟨screened_of_none (by simp [Task.isShowing]), rfl⟩
  refine ⟨fun agent member => ?_, ?_⟩
  · rw [List.mem_singleton.mp member]
    exact dormant
  · have none : (World.initial depot).showing = [] := rfl
    have untold : fallbacks (World.initial depot).depot.journal = [] := by
      simp [fresh, fallbacks]
    rw [none, untold]
    exact .rest .none

/-- What an agent does keeps it. -/
theorem act (old : BatchesShown world) (custody : Custody world)
    (unechoing : world.depot.settings.echo = false) {left right : List Agent}
    {agent after : Agent} {task : Task}
    (split : world.agents = left ++ { agent with tasks := task :: agent.tasks } :: right)
    (joined : next.agents = left ++ after :: right)
    (deed : Deed world.depot agent task next.depot after) : BatchesShown next := by
  -- Whoever goes on with a batch has the courier, and nobody else has a batch to go on with.
  obtain ⟨reserved, ongoing⟩ := old
  have own := Custody.agent_mem split
  obtain ⟨rest, news, grown, further⟩ :=
    deed.fallsBack unechoing (reserved _ own) (custody.orderly_of_mem own).2
  have before : world.showing = (left.flatMap Agent.tasks).filter Task.isShowing ++
      (task :: agent.tasks).filter Task.isShowing ++
        (right.flatMap Agent.tasks).filter Task.isShowing := by
    rw [World.showing, World.tasks_of_split split, List.filter_append, List.filter_append]
  have later : next.showing = (left.flatMap Agent.tasks).filter Task.isShowing ++
      after.tasks.filter Task.isShowing ++
        (right.flatMap Agent.tasks).filter Task.isShowing := by
    rw [World.showing, World.tasks_of_split joined, List.filter_append, List.filter_append]
  refine ⟨forall_mem_replaced split joined reserved rest, ?_⟩
  · rw [later, grown, fallbacks_append]
    rw [before] at ongoing
    rcases further with ⟨untold, same⟩ | ⟨guarded, falls⟩
    · rw [untold, same, List.append_nil]
      exact ongoing
    · have entrusted := custody.entrusted split guarded deed
      -- Whoever else were showing a batch would have the courier too.
      have others (part : List Agent) (among : ∀ other ∈ part, other ∈ left ++ right) :
          (part.flatMap Agent.tasks).filter Task.isShowing = [] := by
        refine List.filter_eq_nil_iff.mpr fun shown member shows => ?_
        obtain ⟨other, place, has⟩ := List.mem_flatMap.mp member
        have there := reserved other (Custody.other_mem split (among other place))
        have some : other.tasks.filter Task.isShowing ≠ [] := fun none =>
          List.filter_eq_nil_iff.mp none shown has shows
        refine custody.sole split entrusted (among other place) ⟨there.screened.guarded some, ?_⟩
        rintro rfl
        exact absurd rfl some
      rw [others left fun other member => List.mem_append_left _ member,
        others right fun other member => List.mem_append_right _ member] at ongoing ⊢
      simpa using ongoing.after (by simpa using falls)

/-- A turn keeps it. -/
theorem turn (old : BatchesShown world) (custody : Custody world)
    (unechoing : world.depot.settings.echo = false) (turn : Turn world next) :
    BatchesShown next := by
  cases turn with
  | act left right agent after task split joined deed =>
    exact old.act custody unechoing split joined deed
  | call call same joined =>
    obtain ⟨reserved, ongoing⟩ := old
    -- A call leads to work, and shows nothing itself.
    have calm : ∀ task ∈ call.tasks world.depot.settings,
        task.isShowing = false ∧ task.toShow = [] := by
      cases call <;> simp [Call.tasks, Task.isShowing, Task.toShow]
    have new : ShowsOnlyBatches (Agent.ofTasks (call.tasks world.depot.settings)).tasks :=
      ⟨screened_of_none fun task member => (calm task member).1,
        List.flatMap_eq_nil_iff.mpr fun task member => (calm task member).2⟩
    -- A new caller has nothing to show, so that what is shown is what was shown.
    have still : next.showing = world.showing := by
      have none : (call.tasks world.depot.settings).filter Task.isShowing = [] :=
        List.filter_eq_nil_iff.mpr fun task member => by simp [(calm task member).1]
      simp [World.showing, World.tasks, joined, Agent.ofTasks, none]
    exact ⟨forall_mem_joined joined reserved new, by rw [same, still]; exact ongoing⟩
  | outside now wall permits elsewhere same =>
    obtain ⟨reserved, ongoing⟩ := old
    have still : next.showing = world.showing := by simp [World.showing, World.tasks, same]
    exact ⟨by rw [same]; exact reserved, by rw [elsewhere, still]; exact ongoing⟩

/-- It holds of every world that comes about with an endpoint and with the echo off. -/
theorem reachable {settings : Settings} (remote : settings.isRemote = true)
    (unechoing : settings.echo = false) {threshold : Threshold}
    {transportName sinkName : String} {wall : Timestamp} {script : Script}
    (run : World.Reachable
      (.initial (.create settings threshold transportName sinkName wall script)) world) :
    BatchesShown world := by
  -- Induction on the run; at most one agent has the courier all along.
  induction run with
  | refl => exact .initial rfl
  | step before change ih =>
    have same := (CoreInvariant.constant before).1
    exact ih.turn (Custody.reachable remote before) (by rw [same]; exact unechoing) change.turn

end BatchesShown

namespace Task

/-- Whether a task can come up without an endpoint and with the echo off. -/
def sparesSink : Task → Bool
  | .submit _ | .bridge _ | .arm | .checkBanner | .claimBanner => true
  | .offer _ | .append _ | .signal | .count _ | .tell _ => true
  | .start | .hire | .flush | .order | .stop _ | .takeOver _ => true
  | .enter _ | .answer _ | .reportLosses => true
  | _ => false

/-- Whatever belongs to handing in an event and is not an echo can come up. -/
theorem sparesSink_of_isIntake {task : Task} (inner : task.isIntake = true)
    (unechoed : task.toShow = []) : task.sparesSink = true := by
  -- Echoes are the only ones of these that show something.
  cases task <;> first
    | rfl
    | simp [isIntake] at inner; done
    | simp [toShow] at unechoed

/-- No batch can come up. -/
theorem not_isDelivery_of_sparesSink {task : Task} (forlorn : task.sparesSink = true) :
    task.isDelivery = false := by
  cases task <;> first | rfl | cases forlorn

end Task

/-- Without an endpoint nobody has the courier, and nobody can take it. -/
structure CourierAbsent (depot : Depot) : Prop where
  disabled : depot.settings.isRemote = false
  unechoing : depot.settings.echo = false
  holder : depot.holder = .nobody
  handle : depot.handle = false
  thread : depot.thread = .none

/-- Without an endpoint callers come to nothing that would need the courier. -/
theorem Duty.forlorn {depot after : Depot} {agent next : Agent} {task : Task}
    (deed : Duty depot agent task after next) (deserted : CourierAbsent depot)
    (forlorn : task.sparesSink = true) :
    CourierAbsent after ∧ ∃ pushed, next.tasks = pushed ++ agent.tasks ∧
      ∀ new ∈ pushed, new.sparesSink = true := by
  have concluded : depot.conclusion = [.answer true] := by
    simp [Depot.conclusion, deserted.unechoing]
  -- Hiring, locking and ordering need a courier that is not there.
  obtain ⟨disabled, unechoing, holder, handle, thread⟩ := deserted
  cases deed with
  | hire _ _ ready => simp [holder] at ready
  | hireLost _ _ _ ready => simp [holder] at ready
  | lock _ _ ready => simp [holder] at ready
  | takeCourier _ _ _ ready => simp [holder] at ready
  | takeHandle _ _ employed => simp [handle] at employed
  | order _ employed => simp [handle] at employed
  | orderLost _ employed => simp [handle] at employed
  | takeNobody =>
    exact ⟨⟨disabled, unechoing, holder, handle, thread⟩, _, rfl, by
      simp [concluded, Task.sparesSink]⟩
  | reportLosses =>
    refine ⟨?_, [], rfl, by simp⟩
    unfold Depot.reportLosses
    split <;> exact ⟨disabled, unechoing, holder, handle, thread⟩
  | start | flush | stop =>
    exact ⟨⟨disabled, unechoing, holder, handle, thread⟩, _, rfl, by simp [Task.sparesSink]⟩
  | enter | startLate | hireNobody | flushLate | orderNobody | stopAgain | answer =>
    exact ⟨⟨disabled, unechoing, holder, handle, thread⟩, [], rfl, by simp⟩
  | _ => cases forlorn

/-- Without an endpoint and with the echo off callers have nothing to do that touches the sink, and
the courier never begins. -/
structure SinkUntouched (world : World) : Prop where
  deserted : CourierAbsent world.depot
  courier : world.courier = .courier
  forlorn : ∀ caller ∈ world.callers, ∀ task ∈ caller.tasks, task.sparesSink = true
  silent : fallbacks world.depot.journal = []

namespace SinkUntouched

variable {world next : World}

/-- Tasks that spare the sink show nothing. -/
theorem reserved {tasks : List Task} (forlorn : ∀ task ∈ tasks, task.sparesSink = true) :
    ShowsOnlyBatches tasks ∧ ErrandsCovered tasks ∧ ¬ ∃ guard ∈ tasks, guard.givesBack = true := by
  -- Each of these tasks is neither shown, nor an errand, nor a decision about the courier.
  have kind {task : Task} (forlorn : task.sparesSink = true) :
      task.isShowing = false ∧ task.toShow = [] ∧ task.isErrand = false ∧
        task.givesBack = false := by
    cases task <;> first | exact ⟨rfl, rfl, rfl, rfl⟩ | cases forlorn
  refine ⟨⟨screened_of_none fun task member => (kind (forlorn task member)).1,
    List.flatMap_eq_nil_iff.mpr fun task member => (kind (forlorn task member)).2.1⟩,
    covered_of_none fun task member => (kind (forlorn task member)).2.2.1, ?_⟩
  rintro ⟨guard, member, gives⟩
  simp [(kind (forlorn guard member)).2.2.2] at gives

/-- What a caller does keeps it. -/
theorem act (untouched : SinkUntouched world) {left right : List Agent} {agent after : Agent}
    {task : Task}
    (split : world.callers = left ++ { agent with tasks := task :: agent.tasks } :: right)
    (joined : next.callers = left ++ after :: right) (same : next.courier = world.courier)
    (deed : Deed world.depot agent task next.depot after) : SinkUntouched next := by
  obtain ⟨deserted, courier, forlorn, silent⟩ := untouched
  -- Of the three kinds of deeds, delivering a batch cannot come up.
  have own : ∀ other ∈ task :: agent.tasks, other.sparesSink = true :=
    forlorn { agent with tasks := task :: agent.tasks } (by simp [split])
  obtain ⟨reserved, covered, unguarded⟩ := reserved own
  have first := own task List.mem_cons_self
  obtain ⟨calm, news, grown, ⟨untold, _⟩ | ⟨guarded, _⟩⟩ :=
    deed.fallsBack deserted.unechoing reserved covered
  · have led : CourierAbsent next.depot ∧ ∃ pushed, after.tasks = pushed ++ agent.tasks ∧
        ∀ new ∈ pushed, new.sparesSink = true := by
      rcases deed with intake | delivery | duty
      · obtain ⟨settings, holder, handle, _, _, _, thread⟩ := intake.sameCharge
        obtain ⟨pushed, tasks, _, inside⟩ := intake.pushes
        refine ⟨⟨by rw [settings]; exact deserted.disabled,
          by rw [settings]; exact deserted.unechoing, holder.trans deserted.holder,
          handle.trans deserted.handle, thread.trans deserted.thread⟩, pushed, tasks,
          fun new member => ?_⟩
        have inner := inside new member
        have unechoed := List.flatMap_eq_nil_iff.mp calm.unechoed new (by simp [tasks, member])
        exact Task.sparesSink_of_isIntake inner unechoed
      · have kind := delivery.isDelivery
        simp [Task.not_isDelivery_of_sparesSink first] at kind
      · exact duty.forlorn deserted first
    obtain ⟨remains, pushed, tasks, none⟩ := led
    refine ⟨remains, same.trans courier, forall_mem_replaced split joined forlorn ?_, by
      rw [grown, fallbacks_append, untold, silent]; rfl⟩
    rw [tasks]
    exact List.forall_mem_append.mpr
      ⟨none, fun other among => own other (List.mem_cons_of_mem _ among)⟩
  · exact absurd guarded unguarded

/-- Before anything has happened nobody has called. -/
theorem initial {settings : Settings} (disabled : settings.isRemote = false)
    (unechoing : settings.echo = false) (threshold : Threshold)
    (transportName sinkName : String) (wall : Timestamp) (script : Script) :
    SinkUntouched (.initial (.create settings threshold transportName sinkName wall script)) where
  -- Without an endpoint and without an echo nobody is employed.
  deserted := ⟨disabled, unechoing, by simp [Depot.create, disabled], rfl, rfl⟩
  courier := rfl
  forlorn := by simp
  silent := rfl

/-- A change of the world keeps it. -/
theorem turn (untouched : SinkUntouched world) (turn : Turn world next) : SinkUntouched next := by
  cases turn with
  | act left right agent after task split joined deed =>
    cases left with
    | nil =>
      -- The courier waits for a thread that is never there.
      have own := (List.cons.inj split).1
      rw [untouched.courier] at own
      exact (Post.asleep (by simp [untouched.deserted.thread]) own.symm deed).elim
    | cons courier left =>
      have first := (List.cons.inj split).1
      refine untouched.act (List.cons.inj split).2 (List.cons.inj joined).2 ?_ deed
      rw [(List.cons.inj joined).1, first]
  | call call same joined =>
    obtain ⟨deserted, courier, forlorn, silent⟩ := untouched
    have callers := (List.cons.inj joined).2
    refine ⟨by rw [same]; exact deserted, (List.cons.inj joined).1.trans courier,
      forall_mem_joined callers forlorn ?_, by rw [same]; exact silent⟩
    cases call <;> simp [Call.tasks, Agent.ofTasks, Task.sparesSink]
  | outside now wall permits elsewhere same =>
    obtain ⟨⟨disabled, unechoing, holder, handle, thread⟩, courier, forlorn, silent⟩ := untouched
    refine ⟨?_, (List.cons.inj same).1.trans courier, ?_, ?_⟩
    · rw [elsewhere]
      exact ⟨disabled, unechoing, holder, handle, thread⟩
    · rw [(List.cons.inj same).2]
      exact forlorn
    · rw [elsewhere]
      exact silent

/-- It holds of every world that comes about without an endpoint and with the echo off. -/
theorem reachable {settings : Settings} (disabled : settings.isRemote = false)
    (unechoing : settings.echo = false) {threshold : Threshold}
    {transportName sinkName : String} {wall : Timestamp} {script : Script}
    (run : World.Reachable
      (.initial (.create settings threshold transportName sinkName wall script)) world) :
    SinkUntouched world :=
  -- Induction on the run.
  run.kept (initial disabled unechoing threshold transportName sinkName wall script) turn

end SinkUntouched

/-- With the echo on, every event that was handed in has been brought to the sink once, or is still
to be brought there: each agent brings its own in the order in which it hands them in, calls that
follow one another bring theirs in the order in which they were made, and all come in this order
unless one is handed in while another is still to be shown. With the echo off, each batch that
cannot be delivered is shown after it has failed, event by event, up to the first that the sink does
not take; the sink is flushed exactly if it takes them all. Without an endpoint nothing is. -/
theorem displayed_once {settings : Settings} {threshold : Threshold}
    {transportName sinkName : String} {wall : Timestamp} {script : Script} {world : World}
    (run : World.Reachable
      (.initial (.create settings threshold transportName sinkName wall script)) world) :
    (settings.echo = true →
      (submissions world.depot.journal).Perm (showings world.depot.journal ++ world.toShow) ∧
        (Unbroken world.depot.journal →
          submissions world.depot.journal = showings world.depot.journal ++ world.toShow) ∧
        (∀ first agent told,
            (first = .courier ∨ ∃ call : Call, first = .ofTasks (call.tasks settings)) →
              Agent.Does settings first told agent →
                submissions told = showings told ++ agent.toShow) ∧
          ∀ group told,
            World.TellInTurn group
                (.initial (.create settings threshold transportName sinkName wall script)) told
                world →
              submissions told = showings told ++ world.toShowIn group) ∧
      (settings.echo = false → settings.isRemote = true →
        Ongoing (fallbacks world.depot.journal) world.showing) ∧
        (settings.echo = false → settings.isRemote = false →
          fallbacks world.depot.journal = []) := by
  -- Each of the three settings has an invariant of its own.
  refine ⟨fun echo => ?_, fun unechoing remote => ?_, fun unechoing disabled => ?_⟩
  · have echoed : ShownOnce world := .reachable rfl echo run
    refine ⟨echoed.once, fun unbroken => (echoed.ordered unbroken).1, ?_,
      fun group told tells => (tells.shown rfl echo).ordered⟩
    rintro first agent told origin does
    have begins : first.toShow = [] ∧ ShowsBeforeNext first.tasks := by
      rcases origin with rfl | ⟨call, rfl⟩
      · exact ⟨rfl, .ofNone rfl (by simp [Task.isFallBack])⟩
      · have none : (call.tasks settings).flatMap Task.toShow = [] := by cases call <;> rfl
        refine ⟨none, .ofNone none ?_⟩
        cases call <;> simp [Agent.ofTasks, Call.tasks, Task.isFallBack]
    exact (does.echoes echo begins.2 begins.1).2
  · exact (BatchesShown.reachable remote unechoing run).ongoing
  · exact (SinkUntouched.reachable disabled unechoing run).silent

/-- A depot with an endpoint that echoes what is handed in. -/
def Depot.echoing : Depot :=
  .create { Settings.plain with echo := true } default "transport" "sink" default .smooth

/-- A call to hand in a message. -/
def Call.remark (message : String) : Call :=
  .submit (.ofMessage .info message)

namespace World

/-- A world in which somebody has handed in a message. -/
def spoken : World :=
  ((initial .echoing).called (.remark "first")).afterSteps 0 20

/-- A world in which somebody has handed in a message after another call had returned. -/
def followed : World :=
  (spoken.called (.remark "second")).afterSteps 1 20

/-- A world in which two have called at once, and the second has overtaken the first between
handing in and showing. -/
def crossed : World :=
  (((((initial .echoing).called (.remark "first")).called (.remark "second")).afterSteps 0
    1).afterSteps 1 20).afterSteps 0 20

end World

/-- A batch that was rejected has been shown: one event that the sink took, and then it was flushed.
With the echo on, the events of two calls that followed one another were shown in this order. -/
theorem displayed_once_rejected :
    (fallbacks World.rejected.depot.journal).length = 3 ∧
      Ongoing (fallbacks World.rejected.depot.journal) World.rejected.showing ∧
      (submissions World.followed.depot.journal).map Event.message = ["first", "second"] ∧
      World.followed.toShowIn (· != 0) = [] ∧
      submissions World.followed.depot.journal =
        showings World.followed.depot.journal ++ World.followed.toShowIn (· != 0) := by
  -- Two calls that follow one another, each with twenty steps in which it comes to its end.
  have tells : World.TellInTurn (· != 0) (.initial .echoing) World.followed.depot.journal
      World.followed := by
    have nothing : World.TellInTurn (· != 0) (.initial .echoing)
        (World.initial .echoing).depot.journal (.initial .echoing) := .refl
    have once := nothing.another (by decide) (.remark "first") 0 20
    exact once.another (by decide +kernel) (.remark "second") 1 20
  exact ⟨by decide +kernel, (displayed_once (World.reachable_afterCalls _ _)).2.1 rfl rfl,
    by decide +kernel, by decide +kernel,
    ((displayed_once tells.reachable).1 rfl).2.2.2 (· != 0) _ tells⟩

/-- Two calls at work at once: the event that was handed in first is shown last. -/
theorem crossed_not_ordered :
    Depot.echoing.settings.echo = true ∧
      World.Reachable (.initial .echoing) World.crossed ∧
      (∀ caller ∈ World.crossed.callers, caller.tasks = []) ∧
      (submissions World.crossed.depot.journal).map Event.message = ["first", "second"] ∧
      (showings World.crossed.depot.journal).map Event.message = ["second", "first"] ∧
      submissions World.crossed.depot.journal ≠ showings World.crossed.depot.journal := by
  -- Nothing needs to be told in turn of a group without members.
  have none (world : World) (call : Call)
      (tells : World.TellInTurn (fun _ => false) (.initial .echoing) [] world) :
      World.TellInTurn (fun _ => false) (.initial .echoing) [] (world.called call) :=
    tells.call call (by simp)
  have called := none _ (.remark "second") (none _ (.remark "first") .refl)
  obtain ⟨_, _, handedIn⟩ := called.afterSteps 0 1
  obtain ⟨_, _, overtaken⟩ := handedIn.afterSteps 1 20
  obtain ⟨_, _, ended⟩ := overtaken.afterSteps 0 20
  exact ⟨rfl, ended.reachable, by decide +kernel, by decide +kernel, by decide +kernel,
    by decide +kernel⟩

end LogCourier
