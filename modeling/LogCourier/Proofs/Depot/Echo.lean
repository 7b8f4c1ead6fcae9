import LogCourier.Proofs.Depot.Accounting
import LogCourier.Proofs.Depot.Marking
import Mathlib.Data.List.Chain

/-!
Echo: with the echo on, every event that is handed in is shown once, in the order of handing in.

An agent shows its event before it hands in another one, and no batch is ever shown. Where nobody
hands in an event while another is still to be shown, this is the order of all events.
-/

namespace LogCourier

namespace Occurrence

/-- The event that was brought to the sink, if one was, whatever came of it. -/
@[simp] def shownEvents : Occurrence → List Event
  | .shown event _ => [event]
  | _ => []

/-- Whether an event was handed in. -/
def isSubmission : Occurrence → Bool
  | .submitted _ => true
  | _ => false

/-- Whether an event was handed in or brought to the sink. -/
def isEchoed : Occurrence → Bool
  | .submitted _ | .shown .. => true
  | _ => false

end Occurrence

/-- What a journal tells of events that were handed in or brought to the sink, the latest first. -/
def echoed (journal : List Occurrence) : List Occurrence :=
  journal.filter Occurrence.isEchoed

/-- The events that a journal tells were handed in, the earliest first. -/
def submissions (journal : List Occurrence) : List Event :=
  (echoed journal).reverse.flatMap Occurrence.submittedEvents

/-- The events that a journal tells were brought to the sink, the earliest first. -/
def showings (journal : List Occurrence) : List Event :=
  (echoed journal).reverse.flatMap Occurrence.shownEvents

@[simp] theorem echoed_append (news journal : List Occurrence) :
    echoed (news ++ journal) = echoed news ++ echoed journal :=
  List.filter_append ..

@[simp] theorem submissions_append (news journal : List Occurrence) :
    submissions (news ++ journal) = submissions journal ++ submissions news := by
  simp [submissions]

@[simp] theorem showings_append (news journal : List Occurrence) :
    showings (news ++ journal) = showings journal ++ showings news := by
  simp [showings]

namespace Task

/-- The event that a task is about to show. -/
def toShow : Task → List Event
  | .echo event => [event]
  | _ => []

/-- Whether a task is about the banner, or merely counts or tells something. -/
def isMinor : Task → Bool
  | .checkBanner | .claimBanner | .count _ | .tell _ => true
  | _ => false

/-- Whether a task shows a batch that could not be delivered. -/
def isFallBack : Task → Bool
  | .fallBack _ => true
  | _ => false

end Task

/-- Only minor tasks stand above an event to be shown, and no batch is to be shown. -/
structure ShowsBeforeNext (tasks : List Task) : Prop where
  echoes : tasks.Pairwise fun above below => above.isMinor = true ∨ below.toShow = []
  unfallen : ∀ task ∈ tasks, task.isFallBack = false

namespace ShowsBeforeNext

variable {tasks rest : List Task} {task : Task}

/-- Below anything else there is no event to be shown. -/
theorem below (prompt : ShowsBeforeNext (task :: rest)) (major : task.isMinor = false) :
    rest.flatMap Task.toShow = [] :=
  List.flatMap_eq_nil_iff.mpr fun lower member =>
    ((List.pairwise_cons.mp prompt.echoes).1 lower member).resolve_left (by simp [major])

/-- Without an event to be shown there is nothing above one. -/
theorem ofNone (none : tasks.flatMap Task.toShow = [])
    (unfallen : ∀ task ∈ tasks, task.isFallBack = false) : ShowsBeforeNext tasks where
  -- Any two tasks are apart when the lower one shows nothing.
  echoes := List.pairwise_of_forall_mem_list fun _ _ below member =>
    .inr (List.flatMap_eq_nil_iff.mp none below member)
  unfallen := unfallen

/-- What is left when the first task is done. -/
theorem tail (prompt : ShowsBeforeNext (task :: rest)) : ShowsBeforeNext rest where
  echoes := (List.pairwise_cons.mp prompt.echoes).2
  unfallen lower member := prompt.unfallen lower (List.mem_cons_of_mem _ member)

/-- Minor tasks may stand above anything. -/
theorem push {pushed : List Task} (prompt : ShowsBeforeNext rest)
    (minor : ∀ new ∈ pushed, new.isMinor = true) : ShowsBeforeNext (pushed ++ rest) where
  -- What is pushed shows nothing, so that the order below it stays as it was.
  echoes := by
    refine List.pairwise_append.mpr
      ⟨?_, prompt.echoes, fun upper member _ _ => .inl (minor upper member)⟩
    exact List.pairwise_of_forall_mem_list fun upper member _ _ => .inl (minor upper member)
  unfallen new member := by
    rcases List.mem_append.mp member with member | member
    · have kind := minor new member
      cases new <;> first | rfl | cases kind
    · exact prompt.unfallen new member

end ShowsBeforeNext

/-- What is told by a step of an agent, and what it had and has to show. -/
inductive Echoing (news : List Occurrence) : List Event → List Event → Prop where
  /-- Nothing is handed in or shown. -/
  | still (events : List Event) (told : echoed news = []) : Echoing news events events
  /-- An event is handed in while no other is to be shown. -/
  | submit (event : Event) (told : echoed news = [.submitted event]) : Echoing news [] [event]
  /-- The event is shown. -/
  | display (event : Event) (outcome : Outcome) (told : echoed news = [.shown event outcome]) :
      Echoing news [event] []

/-- With the echo on a step hands in an event, shows it, or neither. -/
def Echoes (before after : Depot) (old new : List Task) : Prop :=
  ∃ news, after.journal = news ++ before.journal ∧
    Echoing news (old.flatMap Task.toShow) (new.flatMap Task.toShow) ∧ ShowsBeforeNext new

/-- A task that is not minor and leads to nothing to be shown leaves nothing to be shown. -/
theorem Echoes.major {before after : Depot} {task : Task} {rest : List Task} (pushed : List Task)
    (prompt : ShowsBeforeNext (task :: rest)) (major : task.isMinor = false)
    (unshown : task.toShow = [])
    (news : List Occurrence) (grown : after.journal = news ++ before.journal)
    (told : echoed news = [])
    (none : ∀ new ∈ pushed, new.toShow = [] ∧ new.isFallBack = false) :
    Echoes before after (task :: rest) (pushed ++ rest) := by
  -- Nothing is to be shown below, and nothing is above.
  have below := prompt.below major
  have above : pushed.flatMap Task.toShow = [] :=
    List.flatMap_eq_nil_iff.mpr fun new member => (none new member).1
  refine ⟨news, grown, ?_, .ofNone (by simp [above, below]) fun new member => ?_⟩
  · rw [List.flatMap_cons, List.flatMap_append, unshown, above, below]
    exact .still [] told
  · rcases List.mem_append.mp member with member | member
    · exact (none new member).2
    · exact prompt.unfallen new (List.mem_cons_of_mem _ member)

/-- A minor task leaves what is to be shown. -/
theorem Echoes.minor {before after : Depot} {task : Task} {rest : List Task} (pushed : List Task)
    (prompt : ShowsBeforeNext (task :: rest)) (minor : task.isMinor = true)
    (news : List Occurrence) (grown : after.journal = news ++ before.journal)
    (told : echoed news = [])
    (none : ∀ new ∈ pushed, new.isMinor = true) :
    Echoes before after (task :: rest) (pushed ++ rest) := by
  -- Minor tasks come and go above an event that is still to be shown.
  have unshown {new : Task} (minor : new.isMinor = true) : new.toShow = [] := by
    cases new <;> first | rfl | cases minor
  have above : pushed.flatMap Task.toShow = [] :=
    List.flatMap_eq_nil_iff.mpr fun new member => unshown (none new member)
  refine ⟨news, grown, ?_, prompt.tail.push none⟩
  rw [List.flatMap_cons, List.flatMap_append, unshown minor, above]
  exact .still _ told

/-- An event that is to be shown is shown, whatever comes of it. -/
theorem Echoes.display {before after : Depot} {event : Event} {outcome : Outcome}
    {rest : List Task} (pushed : List Task) (prompt : ShowsBeforeNext (.echo event :: rest))
    (grown : after.journal = .shown event outcome :: before.journal)
    (none : ∀ new ∈ pushed, new.isMinor = true) :
    Echoes before after (.echo event :: rest) (pushed ++ rest) := by
  -- The event was the only one to be shown.
  have below := prompt.below rfl
  have above : pushed.flatMap Task.toShow = [] := by
    refine List.flatMap_eq_nil_iff.mpr fun new member => ?_
    have minor := none new member
    cases new <;> first | rfl | cases minor
  refine ⟨[.shown event outcome], grown, ?_, prompt.tail.push none⟩
  rw [List.flatMap_cons, List.flatMap_append, below, above]
  exact .display event outcome rfl

/-- With the echo on, an event that is handed in is then to be shown, and one that is shown is to be
shown no more. -/
theorem Intake.echoes {depot after : Depot} {agent next : Agent} {task : Task}
    (deed : Intake depot agent task after next) (echo : depot.settings.echo = true)
    (prompt : ShowsBeforeNext (task :: agent.tasks)) :
    Echoes depot after (task :: agent.tasks) next.tasks := by
  cases deed with
  -- Only handing in an event and showing one are told of.
  | submit submission event =>
    have below := prompt.below rfl
    have accepted : (depot.acceptance event).flatMap Task.toShow = [event] ∧
        (depot.acceptance event).Pairwise
          (fun above below => above.isMinor = true ∨ below.toShow = []) ∧
        ∀ new ∈ depot.acceptance event, new.isFallBack = false := by
      -- What concerns the banner comes before the showing, and the queue after it.
      unfold Depot.acceptance
      cases depot.settings.isRemote <;>
        simp [echo, Task.toShow, Task.isMinor, Task.isFallBack]
    obtain ⟨shows, ordered, unfallen⟩ := accepted
    refine ⟨[.submitted event], rfl, ?_, ?_, fun new member => ?_⟩
    · rw [Agent.push, List.flatMap_cons, List.flatMap_append, shows, below]
      exact .submit event rfl
    · refine List.pairwise_append.mpr ⟨ordered, prompt.tail.echoes, fun _ _ lower member => ?_⟩
      exact .inr (List.flatMap_eq_nil_iff.mp below lower member)
    · rcases List.mem_append.mp member with member | member
      · exact unfallen new member
      · exact prompt.tail.unfallen new member
  | echo event outcome => exact .display _ prompt rfl (by simp [Task.isMinor])
  | echoFails event outcome error => exact .display _ prompt rfl (by simp [warn, Task.isMinor])
  | seeBanner | claim => exact .minor _ prompt rfl [] rfl rfl (by simp [warn, Task.isMinor])
  | seeNothing | comeLate | count => exact .minor [] prompt rfl [] rfl rfl (by simp)
  | tell notice => exact .minor [] prompt rfl [.told notice] rfl rfl (by simp)
  | displace event oldest =>
    refine .major _ prompt rfl rfl [.evicted oldest, .arrived event .displacing] rfl rfl ?_
    split <;> simp [Task.toShow, Task.isFallBack]
  | append | displaceNobody =>
    refine .major _ prompt rfl rfl [_] rfl rfl ?_
    split <;> simp [Task.toShow, Task.isFallBack]
  | _ =>
    first
    | exact .major _ prompt rfl rfl [] rfl rfl (by simp [Task.toShow, Task.isFallBack])
    | exact .major _ prompt rfl rfl [_] rfl rfl (by simp [Task.toShow, Task.isFallBack])
    | exact .major [] prompt rfl rfl [] rfl rfl (by simp [Task.toShow, Task.isFallBack])

/-- With the echo on, delivering a batch shows nothing. -/
theorem Delivery.echoes {depot after : Depot} {agent next : Agent} {task : Task}
    (deed : Delivery depot agent task after next) (echo : depot.settings.echo = true)
    (prompt : ShowsBeforeNext (task :: agent.tasks)) :
    Echoes depot after (task :: agent.tasks) next.tasks := by
  -- A batch that could not be delivered is not shown.
  have fallen {events : List Event} (same : task = .fallBack events) : False := by
    have unfallen := prompt.unfallen task List.mem_cons_self
    rw [same] at unfallen
    cases unfallen
  cases deed with
  | send batch timeout reply =>
    refine .major _ prompt rfl rfl [_] rfl rfl ?_
    exact forall_mem_inside reply (fun _ => ⟨rfl, rfl⟩) (fun _ => ⟨rfl, rfl⟩) ⟨rfl, rfl⟩ ⟨rfl, rfl⟩
  | giveUp wasSending batch outcome error =>
    refine .major _ prompt rfl rfl [_] rfl rfl ?_
    rw [if_pos echo]
    simp [warn, Task.toShow, Task.isFallBack]
  | flushCrashes crash =>
    -- There is nothing to be shown below, and so there is not afterwards.
    have below := prompt.below rfl
    have none : (agent.unwind crash).tasks.flatMap Task.toShow = [] :=
      List.flatMap_eq_nil_iff.mpr fun kept member =>
        List.flatMap_eq_nil_iff.mp below kept (List.mem_filter.mp member).1
    refine ⟨[.sinkFlushed (.crashed crash)], rfl, ?_, .ofNone none fun kept member => ?_⟩
    · rw [List.flatMap_cons, below, none]
      exact .still [] rfl
    · exact prompt.tail.unfallen kept (List.mem_filter.mp member).1
  | drain trigger =>
    refine .major _ prompt rfl rfl [] rfl rfl ?_
    cases trigger <;> simp [Trigger.counter?, Task.toShow, Task.isFallBack]
  | _ =>
    first
    | exact (fallen rfl).elim
    | exact .major _ prompt rfl rfl [] rfl rfl (by simp [Task.toShow, Task.isFallBack])
    | exact .major _ prompt rfl rfl [_] rfl rfl (by simp [warn, Task.toShow, Task.isFallBack])
    | exact .major [] prompt rfl rfl [] rfl rfl (by simp)
    | exact .major [] prompt rfl rfl [_] rfl rfl (by simp)

/-- Deciding about the courier shows nothing. -/
theorem Duty.echoes {depot after : Depot} {agent next : Agent} {task : Task}
    (deed : Duty depot agent task after next) (prompt : ShowsBeforeNext (task :: agent.tasks)) :
    Echoes depot after (task :: agent.tasks) next.tasks := by
  -- What concludes a stop flushes the sink and answers, and shows nothing.
  have concluded : ∀ new ∈ depot.conclusion, new.toShow = [] ∧ new.isFallBack = false := by
    unfold Depot.conclusion
    split <;> simp [Task.toShow, Task.isFallBack]
  cases deed with
  | takeCourier | takeNobody | join =>
    exact .major _ prompt rfl rfl [] rfl rfl
      (by simpa [Task.toShow, Task.isFallBack] using concluded)
  | reportLosses =>
    unfold Depot.reportLosses
    split
    · exact .major [] prompt rfl rfl [] rfl rfl (by simp)
    · exact .major [] prompt rfl rfl [_] rfl rfl (by simp)
  | hire =>
    exact .major [] prompt rfl rfl [_] rfl rfl (by simp)
  | hireLost =>
    exact .major [] prompt rfl rfl [_, _, _] rfl rfl (by simp)
  | _ =>
    first
    | exact .major _ prompt rfl rfl [] rfl rfl (by simp [Task.toShow, Task.isFallBack])
    | exact .major _ prompt rfl rfl [_] rfl rfl (by simp [Task.toShow, Task.isFallBack])
    | exact .major [] prompt rfl rfl [] rfl rfl (by simp)
    | exact .major [] prompt rfl rfl [_] rfl rfl (by simp)

/-- With the echo on a step hands in an event, shows it, or neither. -/
theorem Deed.echoes {depot after : Depot} {agent next : Agent} {task : Task}
    (deed : Deed depot agent task after next) (echo : depot.settings.echo = true)
    (prompt : ShowsBeforeNext (task :: agent.tasks)) :
    Echoes depot after (task :: agent.tasks) next.tasks := by
  -- Only an intake shows something while the echo is on.
  rcases deed with intake | delivery | duty
  · exact intake.echoes echo prompt
  · exact delivery.echoes echo prompt
  · exact duty.echoes prompt

namespace Agent

/-- The events that an agent has still to show. -/
def toShow (agent : Agent) : List Event :=
  agent.tasks.flatMap Task.toShow

/-- What an agent comes to by steps of its own, among whatever others do, with what its own steps
tell, the latest first. -/
inductive Does (settings : Settings) (first : Agent) : List Occurrence → Agent → Prop where
  | refl : Does settings first [] first
  | step {told news : List Occurrence} {agent next : Agent} {choice : Choice}
      {before after : Depot} (earlier : Does settings first told agent)
      (same : before.settings = settings) (acted : agent.step choice before = some (after, next))
      (grown : after.journal = news ++ before.journal) : Does settings first (news ++ told) next

end Agent

/-- What was handed in has been shown in the same order, but for what is still to be shown. -/
theorem Echoing.keeps {news told : List Occurrence} {old new : List Event}
    (echoing : Echoing news old new) (before : submissions told = showings told ++ old) :
    submissions (news ++ told) = showings (news ++ told) ++ new := by
  -- An event is handed in only while no other is to be shown.
  rw [submissions_append, showings_append, before]
  cases echoing with
  | still events same => simp [submissions, showings, same]
  | submit event same => simp [submissions, showings, same]
  | display event outcome same => simp [submissions, showings, same]

/-- Every event that was handed in has been shown, or is still to be shown by one of several. -/
theorem Echoing.perm {news told : List Occurrence} {old new : List Event}
    (echoing : Echoing news old new) (left right : List Event)
    (before : (submissions told).Perm (showings told ++ (left ++ (old ++ right)))) :
    (submissions (news ++ told)).Perm (showings (news ++ told) ++ (left ++ (new ++ right))) := by
  -- Counting each event on both sides.
  refine List.perm_iff_count.mpr fun event => ?_
  have counts := List.perm_iff_count.mp before event
  revert counts
  cases echoing with
  | still events none => simp [submissions, showings, none]
  | submit event submitted =>
    simp only [submissions, showings, echoed_append, submitted, List.count_append]
    simp
    omega
  | display event outcome displayed =>
    simp only [submissions, showings, echoed_append, displayed, List.count_append]
    simp
    omega

/-- With the echo on, whatever others do, an agent shows its own events once each, in the order in
which it hands them in. -/
theorem Agent.Does.echoes {settings : Settings} (echo : settings.echo = true) {first agent : Agent}
    {told : List Occurrence} (prompt : ShowsBeforeNext first.tasks) (none : first.toShow = [])
    (does : Agent.Does settings first told agent) :
    ShowsBeforeNext agent.tasks ∧ submissions told = showings told ++ agent.toShow := by
  -- Induction on the steps of the agent.
  induction does with
  | refl => exact ⟨prompt, by rw [none]; rfl⟩
  | step _ same acted grown ih =>
    obtain ⟨task, rest, rfl, deed⟩ := Agent.deed_of_step acted
    obtain ⟨news, tells, echoing, after⟩ := deed.echoes (by rw [same]; exact echo) ih.1
    rw [List.append_cancel_right (grown.symm.trans tells)]
    exact ⟨after, echoing.keeps ih.2⟩

/-- No event is handed in while another one is still to be shown. -/
def Unbroken (journal : List Occurrence) : Prop :=
  -- The latest comes first.
  (echoed journal).IsChain fun later earlier =>
    later.isSubmission = true → earlier.isSubmission = false

/-- The order is kept unless an event is handed in while another is still to be shown. -/
theorem Echoing.ordered {news told : List Occurrence} {old new : List Event}
    (echoing : Echoing news old new) (left right : List Event) (unbroken : Unbroken (news ++ told))
    (before : Unbroken told → submissions told = showings told ++ (left ++ (old ++ right)) ∧
      (left ++ (old ++ right) = [] ∨ ∃ event, left ++ (old ++ right) = [event] ∧
        (echoed told).head? = some (.submitted event))) :
    submissions (news ++ told) = showings (news ++ told) ++ (left ++ (new ++ right)) ∧
      (left ++ (new ++ right) = [] ∨ ∃ event, left ++ (new ++ right) = [event] ∧
        (echoed (news ++ told)).head? = some (.submitted event)) := by
  rw [Unbroken, echoed_append] at unbroken
  -- What is told now comes right after what was told last.
  rw [submissions_append, showings_append, echoed_append]
  cases echoing with
  | still events none =>
    rw [none, List.nil_append] at unbroken
    simpa [submissions, showings, none] using before unbroken
  | submit event submitted =>
    -- What was told before is a showing, so nothing was to be shown.
    rw [submitted, List.singleton_append] at unbroken
    obtain ⟨same, none | ⟨other, _, latest⟩⟩ := before unbroken.tail
    · simp only [List.nil_append, List.append_eq_nil_iff] at none
      obtain ⟨none, none'⟩ := none
      rw [same, none, none', submitted]
      simp [submissions, showings, submitted]
    · obtain ⟨_, earlier⟩ := List.head?_eq_some_iff.mp latest
      rw [earlier] at unbroken
      cases (List.isChain_cons_cons.mp unbroken).1 rfl
  | display event outcome displayed =>
    -- Only this event was to be shown.
    rw [displayed, List.singleton_append] at unbroken
    obtain ⟨same, none | ⟨other, one, _⟩⟩ := before unbroken.tail
    · simp at none
    · have alone := congrArg List.length one
      simp only [List.length_append, List.length_singleton] at alone
      have none : left = [] := List.eq_nil_of_length_eq_zero (by omega)
      have none' : right = [] := List.eq_nil_of_length_eq_zero (by omega)
      rw [same, none, none']
      simp [submissions, showings, displayed]

namespace World

/-- The events that are still to be shown, by whomever. -/
def toShow (world : World) : List Event :=
  world.agents.flatMap Agent.toShow

end World

/-- Every event that was handed in has been shown, or is to be shown by one agent. -/
structure ShownOnce (world : World) : Prop where
  prompt : ∀ agent ∈ world.agents, ShowsBeforeNext agent.tasks
  once : (submissions world.depot.journal).Perm (showings world.depot.journal ++ world.toShow)
  /-- Unless events were handed in while others were still to be shown, the order is the same. -/
  ordered : Unbroken world.depot.journal →
    submissions world.depot.journal = showings world.depot.journal ++ world.toShow ∧
      (world.toShow = [] ∨ ∃ event, world.toShow = [event] ∧
        (echoed world.depot.journal).head? = some (.submitted event))

namespace ShownOnce

variable {world next : World}

/-- Before anything has happened there is nothing to show. -/
theorem initial {depot : Depot} (fresh : depot.journal = []) : ShownOnce (.initial depot) := by
  have none : (World.initial depot).toShow = [] := rfl
  -- The courier only waits for its thread.
  have courier : ShowsBeforeNext Agent.courier.tasks :=
    .ofNone rfl (by simp [Task.isFallBack])
  refine ⟨fun agent member => ?_, ?_, fun _ => ?_⟩
  · rw [List.mem_singleton.mp member]
    exact courier
  · rw [none]
    simp [fresh, submissions, showings, echoed]
  · rw [none]
    simp [fresh, submissions, showings, echoed]

/-- What an agent does keeps it. -/
theorem act (old : ShownOnce world) (echo : world.depot.settings.echo = true)
    {left right : List Agent}
    {agent after : Agent} {task : Task}
    (split : world.agents = left ++ { agent with tasks := task :: agent.tasks } :: right)
    (joined : next.agents = left ++ after :: right)
    (deed : Deed world.depot agent task next.depot after) : ShownOnce next := by
  obtain ⟨prompt, once, ordered⟩ := old
  have own := prompt { agent with tasks := task :: agent.tasks } (by simp [split])
  -- The others have what they had, so that what the agent has done decides.
  obtain ⟨news, grown, echoing, promptly⟩ := deed.echoes echo own
  have before : world.toShow = left.flatMap Agent.toShow ++
      ((task :: agent.tasks).flatMap Task.toShow ++ right.flatMap Agent.toShow) := by
    simp [World.toShow, split, Agent.toShow]
  have later : next.toShow = left.flatMap Agent.toShow ++
      (after.tasks.flatMap Task.toShow ++ right.flatMap Agent.toShow) := by
    simp [World.toShow, joined, Agent.toShow]
  rw [before] at once ordered
  refine ⟨forall_mem_replaced split joined prompt promptly, ?_, ?_⟩
  · rw [later, grown]
    exact echoing.perm _ _ once
  · -- In order it is only as long as nobody else comes between a submission and its echo.
    intro unbroken
    rw [grown] at unbroken
    rw [later, grown]
    exact echoing.ordered _ _ unbroken ordered

/-- A turn keeps it. -/
theorem turn (old : ShownOnce world) (echo : world.depot.settings.echo = true)
    (turn : Turn world next) : ShownOnce next := by
  cases turn with
  | act left right agent after task split joined deed => exact old.act echo split joined deed
  | call call same joined =>
    obtain ⟨prompt, once, ordered⟩ := old
    -- A call only names what it will submit.
    have new : (Agent.ofTasks (call.tasks world.depot.settings)).toShow = [] ∧
        ShowsBeforeNext (Agent.ofTasks (call.tasks world.depot.settings)).tasks := by
      have none : (call.tasks world.depot.settings).flatMap Task.toShow = [] := by
        cases call <;> rfl
      refine ⟨none, .ofNone none ?_⟩
      cases call <;> simp [Agent.ofTasks, Call.tasks, Task.isFallBack]
    -- What is to be shown is what was to be shown.
    have still : next.toShow = world.toShow := by simp [World.toShow, joined, new.1]
    exact ⟨forall_mem_joined joined prompt new.2, by rw [same, still]; exact once,
      by rw [same, still]; exact ordered⟩
  | outside now wall permits elsewhere same =>
    obtain ⟨prompt, once, ordered⟩ := old
    -- Whatever happens outside, the tasks stay as they are.
    have still : next.toShow = world.toShow := by simp [World.toShow, same]
    exact ⟨by rw [same]; exact prompt, by rw [elsewhere, still]; exact once,
      by rw [elsewhere, still]; exact ordered⟩

/-- With the echo on, it holds of every world that comes about. -/
theorem reachable {depot : Depot} (fresh : depot.journal = []) (echo : depot.settings.echo = true)
    (run : World.Reachable (.initial depot) world) : ShownOnce world := by
  -- Induction on the run; the settings stay what they are.
  induction run with
  | refl => exact .initial fresh
  | step before change ih =>
    have same := (CoreInvariant.constant before).1
    exact ih.turn (by rw [same]; exact echo) change.turn

end ShownOnce

end LogCourier
