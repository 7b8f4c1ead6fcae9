import LogCourier.Proofs.Depot.Aftermath
import LogCourier.Proofs.Depot.Complaints
import LogCourier.Proofs.Depot.Progress

/-!
Containment: crashes of foreign code stay without consequences as long as somebody catches them.

Nobody catches a crash of the sink while the events of a failed batch are shown, or while it is
flushed. Exactly when that has never happened has nobody given up, and then everything goes on.
-/

namespace LogCourier

/-- A decision after which the lock is opened has entered the phase of rest. -/
theorem Course.unlocking {remote : Bool} {depot after : Depot} {agent next : Agent} {task : Task}
    {control rest : List Task} (course : Course remote (task :: control))
    (before : duties agent.tasks = control) (deed : Duty depot agent task after next)
    (left : duties next.tasks = .unlock :: rest) :
    rest = [.answer true] ∧ after.phase = .idle := by
  -- Of all decisions only entering the phase of rest has opening the lock next below it.
  have same : ∀ pushed, duties (agent.push pushed).tasks = duties pushed ++ control :=
    fun pushed => by rw [← before]; exact duties_append ..
  have kept : ∀ value, duties (agent.reply value).tasks = control := fun _ => before
  cases course with
  | report => cases deed; simp [before] at left
  | start => cases deed <;> simp [same, kept, Task.isDuty, Task.isIntake, Task.isDelivery] at left
  | hire => cases deed <;> simp [kept] at left
  | flush => cases deed <;> simp [same, kept, Task.isDuty, Task.isIntake, Task.isDelivery] at left
  | order => cases deed <;> simp [same, kept, Task.isDuty, Task.isIntake, Task.isDelivery] at left
  -- Here the lock is next, and the phase of rest has just been entered.
  | inline => cases deed; simp [before] at left; exact ⟨left.symm, rfl⟩
  -- The lock has been opened, and only the answer is left.
  | unlock => cases deed; simp [before] at left
  | unwound => cases deed; simp [before] at left
  | answer ends => cases deed; cases ends <;> simp [kept] at left
  | stop timeout ends => cases deed <;> cases ends <;>
      simp [same, kept, Task.isDuty, Task.isIntake, Task.isDelivery] at left
  | takeOver timeout ends => cases deed <;> cases ends <;>
      simp [same, Task.isDuty, Task.isIntake, Task.isDelivery] at left
  | dismiss timeout ends => cases deed <;>
      simp [same, Task.isDuty, Task.isIntake, Task.isDelivery] at left
  | join since timeout ends => cases deed <;> cases ends <;> simp [same, kept] at left
  | @closing coda _ ends last =>
    -- The last flush never has the lock.
    by_cases finished : Task.release :: Task.answer true :: coda = task :: control
    · cases finished
      cases deed
      simp [before] at left
    · have onward := last.after before finished deed
      rw [left] at onward
      cases onward
  | released => cases deed; simp [before] at left
  | decline ends _ => cases deed; simp [before] at left

/-- Whoever is about to open the lock has entered the phase of rest, unless it gave up. -/
def RestsBeforeRelease (depot : Depot) (agent : Agent) : Prop :=
  -- After a crash the phase is left as it was, and the lock is opened all the same.
  agent.crash = none → ∀ rest, duties agent.tasks = .unlock :: rest →
    rest = [.answer true] ∧ depot.phase = .idle

/-- A step of an agent leaves the phase of rest as long as it is about to open the lock. -/
theorem RestsBeforeRelease.after {manned : Bool} {depot after : Depot} {agent next : Agent}
    {task : Task}
    (rested : RestsBeforeRelease depot { agent with tasks := task :: agent.tasks })
    (seals : SealsUnlessCrashed depot { agent with tasks := task :: agent.tasks })
    (way : Course manned (duties (task :: agent.tasks)) ∨ Round (duties (task :: agent.tasks)))
    (deed : Deed depot agent task after next) : RestsBeforeRelease after next := by
  -- What is not decided leaves the decisions and, while all is calm, the phase.
  intro unharmed rest left
  have rested := rested (deed.crash unharmed) rest
  have calm := seals.calm (deed.crash unharmed) .unlock rest rfl
  rcases deed with intake | delivery | duty
  · rw [duties_cons_of_neg intake.not_isDuty, ← intake.duties] at rested
    rw [intake.phase]
    exact rested left
  · rw [duties_cons_of_neg delivery.not_isDuty] at rested calm
    rcases delivery.duties with same | ⟨crashed, _⟩
    · rw [same] at left
      rw [delivery.phase fun trigger begins => ?_]
      · exact rested left
      · -- A batch would begin another phase, but only the sink is left to be flushed.
        have flush := calm left task List.mem_cons_self delivery.isDelivery
        simp [begins] at flush
    · simp [unharmed] at crashed
  · rw [duties_cons, if_pos duty.isDuty] at way
    rcases way with course | round
    · exact course.unlocking rfl duty left
    · -- The courier on its thread never has the lock.
      have onward := round.after rfl duty
      rw [left] at onward
      cases onward with
      | closing last => cases last

/-- Every agent about to open the lock has entered the phase of rest, and a turn leaves it so. -/
theorem Turn.rested {world next : World} (turn : Turn world next) (custody : Custody world)
    (sealing : SealedAtExit world)
    (rested : ∀ agent ∈ world.agents, RestsBeforeRelease world.depot agent) :
    ∀ agent ∈ next.agents, RestsBeforeRelease next.depot agent := by
  -- Whoever has the lock has the courier, so nobody else enters a phase.
  intro other among
  cases turn with
  | act left right agent after task split joined deed =>
    -- Others are entrusted with the courier, and so the phase stays as it is.
    have aside (member : other ∈ left ++ right) : RestsBeforeRelease next.depot other := by
      intro unharmed rest opening
      have there := Custody.other_mem split member
      -- Opening the lock gives the courier back, and the dormant courier has no lock.
      have has : .unlock ∈ other.tasks := by
        have decided : .unlock ∈ duties other.tasks := by simp [opening]
        exact (List.mem_filter.mp decided).1
      have entrusted : world.depot.Entrusts other := by
        refine ⟨⟨.unlock, has, rfl⟩, fun dormant => ?_⟩
        simp [dormant] at has
      rw [custody.phase_of_other split deed member entrusted]
      exact rested other there unharmed rest opening
    rw [joined] at among
    rcases List.mem_append.mp among with among | among
    · exact aside (List.mem_append_left _ among)
    · rcases List.mem_cons.mp among with rfl | among
      · have member := Custody.agent_mem split
        exact (rested _ member).after (sealing.agents _ member) (custody.way member) deed
      · exact aside (List.mem_append_right _ among)
  | call call same joined =>
    rw [joined] at among
    rw [same]
    rcases List.mem_append.mp among with among | among
    · exact rested other among
    · rw [List.mem_singleton.mp among]
      intro _ rest opening
      -- Nobody calls to open the lock.
      cases call <;>
        simp [Call.tasks, Agent.ofTasks, Task.isDuty, Task.isIntake, Task.isDelivery] at opening
  | outside now wall permits elsewhere same =>
    rw [same] at among
    rw [elsewhere]
    exact rested other among

/-- What a caller who flushes on the spot still has to decide, or that it has answered. -/
inductive OnTheSpot (agent : Agent) : Prop where
  | entering (left : duties agent.tasks = [.enter .idle, .unlock, .answer true])
  | unlocking (left : duties agent.tasks = [.unlock, .answer true])
  | answering (left : duties agent.tasks = [.answer true])
  | answered (left : duties agent.tasks = []) (value : agent.answer = some true)

/-- With an endpoint a caller who flushes on the spot goes on to its answer. -/
theorem kept_onTheSpot {settings : Settings} (remote : settings.isRemote = true) :
    Kept settings fun agent =>
      (∀ task ∈ agent.tasks, task.isBanner = false) ∧ OnTheSpot agent := by
  -- The decisions are made one after the other, and nothing else touches them.
  rintro agent next task before after rfl ⟨plain, spot⟩ deed unharmed
  have own := plain task List.mem_cons_self
  refine ⟨fun new member => ?_, ?_⟩
  · refine Bool.eq_false_iff.mpr fun banner => ?_
    -- Nothing asks for the banner that was not there before.
    have opening : new.isOpening = true := by cases new <;> first | rfl | cases banner
    have old := deed.opening remote own new member opening
    simp [plain new (List.mem_cons_of_mem _ old)] at banner
  · have onward (same : duties next.tasks = duties agent.tasks)
        (answer : next.answer = agent.answer) (other : task.isDuty = false) : OnTheSpot next := by
      -- As long as nothing is decided, the same decisions are left.
      have control : duties (task :: agent.tasks) = duties next.tasks := by
        rw [duties_cons_of_neg other, same]
      cases spot with
      | entering left => exact .entering (control ▸ left)
      | unlocking left => exact .unlocking (control ▸ left)
      | answering left => exact .answering (control ▸ left)
      | answered left value => exact .answered (control ▸ left) (answer.trans value)
    rcases deed with intake | delivery | duty
    · exact onward intake.duties (intake.opening remote own).1 intake.not_isDuty
    · rcases delivery.duties with same | ⟨crashed, _⟩
      · exact onward same delivery.answer delivery.not_isDuty
      · -- The step would have made the caller give up.
        simp [unharmed] at crashed
    · have first : duties (task :: agent.tasks) = task :: duties agent.tasks := by
        rw [duties_cons, if_pos duty.isDuty]
      cases spot with
      | entering left =>
        obtain ⟨rfl, below⟩ := List.cons.inj (first.symm.trans left)
        cases duty
        exact .unlocking below
      | unlocking left =>
        obtain ⟨rfl, below⟩ := List.cons.inj (first.symm.trans left)
        cases duty
        exact .answering below
      | answering left =>
        obtain ⟨rfl, below⟩ := List.cons.inj (first.symm.trans left)
        cases duty
        exact .answered below rfl
      | answered left => simpa using first.symm.trans left

/-- With an endpoint a caller who flushes on the spot answers that it did. -/
theorem Comes.onTheSpot {settings : Settings} (remote : settings.isRemote = true) {agent : Agent}
    (plain : ∀ task ∈ agent.tasks, task.isBanner = false) (spot : OnTheSpot agent)
    (finite : ∀ task ∈ agent.tasks, task.isRound = false) :
    Comes settings (fun done => done.tasks = [] ∧ done.answer = some true) agent := by
  -- Without tasks there is nothing to decide, so the answer has been given.
  have base : Leads settings
      (fun agent => (∀ task ∈ agent.tasks, task.isBanner = false) ∧ OnTheSpot agent)
      (fun done => done.tasks = [] ∧ done.answer = some true) [] := by
    refine .nil fun done none ⟨_, spot⟩ => ⟨none, ?_⟩
    cases spot with
    | answered _ value => exact value
    | _ left => simp [none] at left
  exact base.append (kept_onTheSpot remote) finite agent (List.append_nil _).symm ⟨plain, spot⟩

namespace Call

/-- Whether a call is one that is answered. -/
def isAnswered : Call → Bool
  | .start | .flush | .stop _ | .dispose => true
  | .submit _ | .bridge _ => false

end Call

/-- Whoever has called for an answer has it or will have it, unless a crash makes the caller give
up. -/
theorem World.willAnswer {world further : World} (call : Call)
    (on : World.Reachable (world.called call) further) :
    ∃ caller, further.callers[world.callers.length]? = some caller ∧
      (call.isAnswered = true → caller.crash = none → caller.willAnswer) := by
  -- The caller stays at its place, and a step of its own leads to the answer.
  induction on with
  | refl =>
    -- Whoever has just called has the task that leads to the answer.
    refine ⟨.ofTasks (call.tasks world.depot.settings), by simp [World.called], ?_⟩
    intro answered _
    right
    cases call with
    | submit => cases answered
    | bridge => cases answered
    | start => exact ⟨.start, List.mem_cons_self, rfl⟩
    | flush => exact ⟨.flush, List.mem_cons_self, rfl⟩
    | stop timeout => exact ⟨.stop timeout, List.mem_cons_self, rfl⟩
    | dispose => exact ⟨.stop _, List.mem_cons_self, rfl⟩
  | step before change ih =>
    obtain ⟨caller, there, will⟩ := ih
    obtain ⟨after, there', rested | ⟨task, rest, rfl, deed⟩⟩ :=
      change.turn.caller_at_place there
    · -- Others do nothing to the caller.
      subst rested
      exact ⟨after, there', will⟩
    · refine ⟨after, there', fun answered unharmed => ?_⟩
      exact kept_willAnswer _ rest after task _ _ rfl (will answered (deed.crash unharmed)) deed
        unharmed

/-- With an endpoint: somebody has given up exactly when the sink has crashed where nobody catches
it, and otherwise the courier rests before it is given back and all failures are told of. -/
structure CrashInvariant (world : World) : Prop where
  shutdown : ShutdownInvariant world
  exposed : CrashesExposed world
  rested : ∀ agent ∈ world.agents, RestsBeforeRelease world.depot agent
  reported : (∀ agent ∈ world.agents, agent.crash = none) →
    FailuresReported world.depot (alarms world.tasks)

namespace CrashInvariant

variable {world next : World}

/-- It holds before anything has happened. -/
theorem initial {settings : Settings} (remote : settings.isRemote = true) (threshold : Threshold)
    (transportName sinkName : String) (wall : Timestamp) (script : Script) :
    CrashInvariant (.initial (.create settings threshold transportName sinkName wall script)) where
  -- Nobody but the courier is there, and it has yet to begin.
  shutdown := .initial remote ..
  exposed := .initial ..
  rested := by
    intro agent member _ rest opening
    obtain rfl : agent = .courier := by simpa using member
    simp [Task.isDuty, Task.isIntake, Task.isDelivery] at opening
  reported _ := ⟨fun _ => rfl, ⟨0, rfl, rfl⟩, rfl⟩

/-- A change of a world keeps it. -/
theorem step (invariant : CrashInvariant world) (change : World.Step world next) :
    CrashInvariant next := by
  -- What has been reported matters only while nobody has given up, now or before.
  obtain ⟨shutdown, exposed, rested, reported⟩ := invariant
  have turn := change.turn
  refine ⟨shutdown.step change, exposed.turn turn, ?_, fun unharmed => ?_⟩
  · exact turn.rested shutdown.core.custody shutdown.sealing rested
  · exact turn.reported shutdown.fresh unharmed (reported (turn.unharmed unharmed))

/-- It holds of every world that comes about from one of which it holds. -/
theorem reachable {start : World} (invariant : CrashInvariant start)
    (run : World.Reachable start world) : CrashInvariant world := by
  induction run with
  | refl => exact invariant
  | step _ change ih => exact ih.step change

end CrashInvariant

/-- The failures that agents are about to tell of. -/
def World.untold (world : World) : List Notice :=
  world.tasks.flatMap Task.complaints

/-- Every crash of foreign code has been contained. -/
structure Contained (world : World) : Prop where
  /-- Nobody has been made to give up. -/
  unharmed : ∀ agent ∈ world.agents, agent.crash = none
  /-- Whoever takes a batch, or makes the last flush, comes back to what is to be done after it. -/
  returns : ∀ agent ∈ world.agents, ∀ task rest, agent.tasks = task :: rest →
    (∃ trigger, task = .flushFor trigger) ∨ (∃ deadline, task = .finish deadline) →
      Comes world.depot.settings (fun done => done.tasks = rest) agent
  /-- As long as the thread runs, the courier has something to do on it, and it comes to the end or
  to where it waits for more. -/
  alive : world.depot.thread = .running → world.courier.tasks ≠ [] ∧
    Comes world.depot.settings (fun done => done.tasks = [] ∨ done.isWaiting) world.courier
  /-- Where the courier waits it can take the next order to flush. -/
  serves : ∀ tick wake rest orders, world.courier.tasks = .select tick wake :: rest →
    world.depot.orders = .flush :: orders →
      world.courier.step .order world.depot = some ({ world.depot with orders },
        { world.courier with tasks := .flushFor .request :: .idle tick :: rest })
  /-- The thread does not crash, and when it has ended, the last phase has been entered. -/
  ended : world.depot.thread ≠ .crashed ∧
    (world.depot.thread = .exited → world.depot.phase = .stopped)
  /-- A caller who flushes on the spot answers that it did, and has entered the phase of rest
  before it opens the lock. -/
  inline : ∀ caller ∈ world.callers, .unlock ∈ caller.tasks →
    Comes world.depot.settings (fun done => done.tasks = [] ∧ done.answer = some true) caller ∧
      ∀ rest, caller.tasks = .unlock :: rest → world.depot.phase = .idle
  /-- Whoever calls comes to the end of the call, with an answer if there is one to give. -/
  calls : ∀ call further, World.Reachable (world.called call) further →
    ∃ caller, further.callers[world.callers.length]? = some caller ∧
      Comes further.depot.settings (fun done => done.tasks = []) caller ∧
        (call.isAnswered = true → caller.crash = none →
          Comes further.depot.settings (fun done => done.tasks = [] ∧ done.answer.isSome = true)
            caller)
  /-- Every failure, be it a crash, has been told of or is about to be, and is counted as a warning
  but for what is still owed; every batch that was given up is counted, and so are its events. -/
  reported : world.depot.complaints.Perm (world.depot.toldComplaints ++ world.untold) ∧
    Counts world.depot.tally.warnings (world.tasks.count (.count .warning))
      world.depot.complaints.length ∧
    world.depot.tally.batchesFailed =
      UInt64.ofNat (world.depot.complaints.countP Notice.isDropping) ∧
    world.depot.tally.eventsFailed = UInt64.ofNat world.depot.failedEvents.length

/-- What only alarms tell of can be gathered from the alarms. -/
theorem flatMap_alarms (tasks : List Task) :
    (alarms tasks).flatMap Task.complaints = tasks.flatMap Task.complaints := by
  refine flatMap_filter_of_nil fun task _ other => ?_
  -- Among the tasks only those that tell of a failure have a complaint.
  cases task with
  | tell notice => simp [Task.complaints, show notice.isComplaint = false from other]
  | _ => rfl

namespace CrashInvariant

variable {world : World}

/-- Without a crash the courier leaves its thread with all sealed. -/
theorem ended (invariant : CrashInvariant world)
    (unharmed : ∀ agent ∈ world.agents, agent.crash = none) :
    world.depot.thread ≠ .crashed ∧
      (world.depot.thread = .exited → world.depot.phase = .stopped) := by
  obtain ⟨⟨custody, _, _⟩, sealing, _, _⟩ := invariant.shutdown
  refine ⟨fun crashed => ?_, fun exited => ?_⟩
  · -- The thread crashes only with the courier.
    exact custody.post.harmed_of_crashed crashed (unharmed world.courier List.mem_cons_self)
  · exact (Contest.retired_of_exited custody sealing exited).phase

/-- Whoever has the lock and has not given up flushes on the spot. -/
theorem onTheSpot (invariant : CrashInvariant world) {caller : Agent}
    (member : caller ∈ world.callers)
    (unharmed : caller.crash = none) (locks : .unlock ∈ caller.tasks) : OnTheSpot caller := by
  -- Only three ways of a caller have the lock, and one of them is left by a crash.
  have course := (invariant.shutdown.core.custody.callers caller member).course
  have rested := invariant.rested caller (List.mem_cons_of_mem _ member) unharmed
  have decided : .unlock ∈ duties caller.tasks := List.mem_filter.mpr ⟨locks, rfl⟩
  generalize same : duties caller.tasks = control at course rested decided
  cases course with
  | inline => exact .entering same
  | unlock => exact .unlocking same
  -- The lock is opened without an answer only after a crash.
  | unwound => cases (rested [] rfl).1
  | answer ends => cases ends <;> simp at decided
  | stop _ ends => cases ends <;> simp at decided
  | takeOver _ ends => cases ends <;> simp at decided
  | dismiss _ ends => cases ends <;> simp at decided
  | join _ _ ends => cases ends <;> simp at decided
  | decline ends => cases ends <;> simp at decided
  | closing ends last => cases ends <;> cases last <;> simp at decided
  | _ => simp at decided

/-- As long as nobody has given up, everything is contained. -/
theorem contained (invariant : CrashInvariant world)
    (unharmed : ∀ agent ∈ world.agents, agent.crash = none) : Contained world := by
  -- What may go on comes from the course of each agent, and the rest from the journal.
  obtain ⟨complaints, warnings, batches⟩ := invariant.reported unharmed
  have custody := invariant.shutdown.core.custody
  constructor
  · exact unharmed
  · intro agent _ task rest tasks kind
    -- What is to be done first is none of the round, so the agent comes back from it.
    refine .back _ (show agent.tasks = [task] ++ rest from tasks) fun first member => ?_
    rw [List.mem_singleton.mp member]
    rcases kind with ⟨_, rfl⟩ | ⟨_, rfl⟩ <;> rfl
  · exact fun running => ⟨custody.post.busy running, .waiting _ _⟩
  · intro tick wake rest orders tasks ordered
    -- An order that has come in is taken whatever else there is.
    simp [Agent.step, tasks, Depot.act, Depot.select, ordered, Agent.push]
  · exact invariant.ended unharmed
  · intro caller member locks
    -- The caller has the decisions of a flush on the spot before it.
    have among : caller ∈ world.agents := List.mem_cons_of_mem _ member
    have spot := invariant.onTheSpot member (unharmed caller among) locks
    refine ⟨.onTheSpot custody.remote (invariant.shutdown.fresh caller among).plain spot
      (custody.finite member), fun rest tasks => ?_⟩
    refine (invariant.rested caller among (unharmed caller among) (duties rest) ?_).2
    simp [tasks, Task.isDuty, Task.isIntake, Task.isDelivery]
  · intro call further on
    -- Whatever happens after the call, the caller stays along its course.
    have custody' := ((invariant.step (.call _ call)).reachable on).shutdown.core.custody
    obtain ⟨caller, there, will⟩ := World.willAnswer call on
    have finite := custody'.finite (List.mem_of_getElem? there)
    refine ⟨caller, there, ?_, fun answered unharmed => ?_⟩
    · exact .back _ (List.append_nil _).symm finite
    · exact .answered _ (will answered unharmed) finite
  · refine ⟨List.perm_iff_count.mpr fun notice => ?_, ?_, batches,
      invariant.shutdown.accounted.ledger.failed⟩
    · rw [List.count_append, World.untold, ← flatMap_alarms]
      exact complaints notice
    · rwa [alarms, List.count_filter rfl] at warnings

end CrashInvariant

/-- With an endpoint every crash of foreign code is contained exactly as long as the sink has not
crashed while the events of a failed batch were shown, or while it was flushed. -/
theorem contained_iff {settings : Settings} (remote : settings.isRemote = true)
    {threshold : Threshold} {transportName sinkName : String} {wall : Timestamp}
    {script : Script} {world : World}
    (run : World.Reachable
      (.initial (.create settings threshold transportName sinkName wall script)) world) :
    Contained world ↔ ¬ world.depot.Uncaught := by
  -- Somebody has given up exactly when there was such a crash.
  have invariant := (CrashInvariant.initial remote threshold transportName sinkName wall
    script).reachable run
  rw [← invariant.exposed.unharmed_iff]
  exact ⟨Contained.unharmed, invariant.contained⟩

namespace World

/-- A world in which the transport has crashed in a flush on the spot. -/
def startled : World :=
  afterCalls ⟨[⟨[], [], false, .crashed (.text "boom")⟩], [], [], []⟩ [.submit default, .flush]

end World

/-- A crash of the transport is contained, and the flush answers that it happened. -/
theorem contained_iff_startled :
    World.startled.callers.map Agent.answer = [none, some true] ∧
      World.startled.depot.phase = .idle ∧ Contained World.startled := by
  -- The transport has crashed, but the sink never has.
  refine ⟨by decide +kernel, by decide +kernel,
    (contained_iff rfl (World.reachable_afterCalls _ _)).mpr ?_⟩
  rintro ⟨occurrence, member, uncaught⟩
  -- The journal can be gone through.
  have caught : ∀ occurrence ∈ World.startled.depot.journal,
      occurrence.isUncaught World.startled.depot.settings.echo = false := by decide +kernel
  exact Bool.false_ne_true ((caught occurrence member).symm.trans uncaught)

/-- The transport rejects a batch, and then the sink crashes. -/
def Script.spoiling : Script :=
  ⟨[⟨[], [], false, .failed (.other "rejected")⟩], [.crashed (.text "boom")], [], []⟩

/-- A world in which the sink has crashed while the events of a rejected batch were shown. -/
def World.spoiled : World :=
  afterCalls .spoiling [.submit default, .flush]

/-- A crash of the sink while it shows a rejected batch is not contained: the flush never answers,
and the courier does not come to rest. -/
theorem spoiled_not_contained :
    World.Reachable (.initial (.plain .spoiling)) World.spoiled ∧
      World.spoiled.callers.map Agent.tasks = [[], []] ∧
        World.spoiled.callers.map Agent.answer = [none, none] ∧
          World.spoiled.depot.phase = .flushing ∧ ¬ Contained World.spoiled := by
  refine ⟨World.reachable_afterCalls _ _, by decide +kernel, by decide +kernel,
    by decide +kernel, fun contained => ?_⟩
  -- The caller who flushed has given up.
  have harmed : ¬ ∀ agent ∈ World.spoiled.agents, agent.crash = none := by decide +kernel
  exact harmed contained.unharmed

end LogCourier
