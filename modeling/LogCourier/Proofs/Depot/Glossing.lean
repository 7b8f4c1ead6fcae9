import LogCourier.Proofs.Depot.Dates
import Mathlib.Data.List.DropRight

/-!
Glossing over: what became of the batches can be left out of a world.

What is left is a world in which every send ended well and nothing has a date. A step of the world
is a step of what is left of it, or only deals with a failure and is not seen there.
-/

namespace LogCourier

namespace Reply

/-- The reply, if it had ended well. -/
def glossed (reply : Reply) : Reply :=
  { reply with outcome := .ok }

/-- A reply that ended well has nothing to gloss over. -/
@[simp] theorem glossed_glossed (reply : Reply) : reply.glossed.glossed = reply.glossed := rfl

/-- An idle reply ends well. -/
@[simp] theorem glossed_default : (default : Reply).glossed = default := rfl

end Reply

namespace Task

/-- Whether a task only deals with what failed: it warns, or it shows what could not be delivered.
The console is for nothing else, unless it is to show everything. -/
def isRepair (echo : Bool) : Task → Bool
  | .count .warning | .tell _ | .reportLosses => true
  | .count .shown | .echo _ | .fallBack _ | .flushSink => !echo
  | _ => false

/-- The task without dates, and with sends that ended well. -/
def glossed (task : Task) : Task :=
  match task.undated with
  | .settle wasSending batch _ => .settle wasSending batch .ok
  | other => other

/-- There is nothing to gloss over twice. -/
@[simp] theorem glossed_glossed (task : Task) : task.glossed.glossed = task.glossed := by
  cases task <;> simp [glossed, undated]

/-- What deals with a failure does so without dates too. -/
@[simp] theorem isRepair_glossed (echo : Bool) (task : Task) :
    task.glossed.isRepair echo = task.isRepair echo := by
  cases task <;> rfl

/-- What must be put back must be put back without dates too. -/
@[simp] theorem isCleanup_glossed (task : Task) : task.glossed.isCleanup = task.isCleanup := by
  cases task <;> rfl

/-- What must be put back after a crash does not deal with a failure. -/
theorem isRepair_of_isCleanup {task : Task} (cleanup : task.isCleanup = true) (echo : Bool) :
    task.isRepair echo = false := by
  cases task <;> first | rfl | cases cleanup

end Task

/-- Tasks without dates, and without those that deal with failures. -/
def glossedTasks (echo : Bool) (tasks : List Task) : List Task :=
  (tasks.filter (!·.isRepair echo)).map Task.glossed

section Tasks

variable {echo : Bool} {task : Task} {tasks : List Task}

/-- What deals with a failure is left out. -/
theorem glossedTasks_cons_of_repair (repair : task.isRepair echo = true) :
    glossedTasks echo (task :: tasks) = glossedTasks echo tasks := by
  simp [glossedTasks, repair]

/-- What does not deal with a failure stays. -/
theorem glossedTasks_cons_of_visible (visible : task.isRepair echo = false) :
    glossedTasks echo (task :: tasks) = task.glossed :: glossedTasks echo tasks := by
  simp [glossedTasks, visible]

/-- Tasks are glossed over one by one. -/
@[simp] theorem glossedTasks_append (first second : List Task) :
    glossedTasks echo (first ++ second) = glossedTasks echo first ++ glossedTasks echo second := by
  simp [glossedTasks]

/-- There is nothing to gloss over twice. -/
@[simp] theorem glossedTasks_glossedTasks :
    glossedTasks echo (glossedTasks echo tasks) = glossedTasks echo tasks := by
  simp [glossedTasks, List.filter_map, Function.comp_def]

/-- What must be put back after a crash is the same without the failures. -/
theorem filter_isCleanup_glossedTasks :
    (glossedTasks echo tasks).filter Task.isCleanup =
      glossedTasks echo (tasks.filter Task.isCleanup) := by
  -- Task by task; only what deals with a failure makes a difference, and it is not put back.
  induction tasks with
  | nil => rfl
  | cons task rest ih =>
    cases cleanup : task.isCleanup with
    | true =>
      have visible := Task.isRepair_of_isCleanup cleanup echo
      rw [List.filter_cons_of_pos cleanup, glossedTasks_cons_of_visible visible,
        glossedTasks_cons_of_visible visible, List.filter_cons_of_pos (by simpa using cleanup), ih]
    | false =>
      rw [List.filter_cons_of_neg (by simp [cleanup])]
      cases repair : task.isRepair echo with
      | true => rw [glossedTasks_cons_of_repair repair, ih]
      | false =>
        rw [glossedTasks_cons_of_visible repair, List.filter_cons_of_neg (by simp [cleanup]), ih]

end Tasks

namespace Script

/-- The replies, if they had ended well, without idle ones at the end. -/
def glossedReplies (replies : List Reply) : List Reply :=
  (replies.map Reply.glossed).rdropWhile (· = default)

/-- What lies ahead, if every send ended well. The sink matters only if it is to show everything,
and threads are had or refused as before. -/
def glossed (echo : Bool) (script : Script) : Script where
  replies := glossedReplies script.replies
  writes := if echo then script.writes else []
  flushes := if echo then script.flushes else []
  threads := script.threads

section Replies

variable {replies rest : List Reply} {reply : Reply}

/-- A reply stays unless it is an idle one at the end. -/
theorem glossedReplies_cons : glossedReplies (reply :: rest) =
    if glossedReplies rest = [] ∧ reply.glossed = default then []
    else reply.glossed :: glossedReplies rest := by
  -- Idle replies are dropped from the end, so this one is the last to be looked at.
  unfold glossedReplies
  rw [List.map_cons, List.rdropWhile, List.reverse_cons, List.dropWhile_append]
  by_cases idle : (List.dropWhile (· = default) (rest.map Reply.glossed).reverse) = []
  · by_cases last : reply.glossed = default <;> simp [idle, List.rdropWhile, last]
  · simp [idle, List.rdropWhile]

/-- What comes after the first reply is the same without the outcomes. -/
theorem tail_glossedReplies : (glossedReplies replies).tail = glossedReplies replies.tail := by
  -- Only an idle reply with none but idle ones behind it is cut off, and then both sides are empty.
  cases replies with
  | nil => rfl
  | cons reply rest =>
    rw [glossedReplies_cons]
    split
    · next idle => simp [idle.1]
    · rfl

/-- The first reply is the same without its outcome, if there is one or not. -/
theorem headD_glossedReplies :
    (glossedReplies replies).headD default = (replies.headD default).glossed := by
  -- A reply that is cut off was the default one, and so is what stands for it.
  cases replies with
  | nil => rfl
  | cons reply rest =>
    rw [glossedReplies_cons]
    split
    · next idle => exact idle.2.symm
    · rfl

/-- Replies that differ in their outcomes alone are the same without them. -/
theorem glossedReplies_eq {first : List Reply} :
    ∀ {second : List Reply},
      (∀ place, (first.getD place default).glossed = (second.getD place default).glossed) →
        glossedReplies first = glossedReplies second := by
  -- Induction on both lists; where one has ended, the other one has nothing but idle replies.
  induction first with
  | nil =>
    intro second
    induction second with
    | nil => intro _; rfl
    | cons reply rest ih =>
      intro alike
      have idle := ih fun place => by simpa using alike (place + 1)
      have head : reply.glossed = default := by simpa using (alike 0).symm
      rw [glossedReplies_cons, if_pos ⟨idle.symm, head⟩]
      rfl
  | cons reply rest ih =>
    intro second alike
    cases second with
    | nil =>
      have idle : glossedReplies rest = glossedReplies [] :=
        ih fun place => by simpa using alike (place + 1)
      have head : reply.glossed = default := by simpa using alike 0
      rw [glossedReplies_cons, if_pos ⟨idle, head⟩]
      rfl
    | cons other others =>
      have tails := ih fun place => by simpa using alike (place + 1)
      have heads : reply.glossed = other.glossed := by simpa using alike 0
      rw [glossedReplies_cons, glossedReplies_cons, tails, heads]

/-- There is nothing to gloss over twice. -/
@[simp] theorem glossedReplies_glossedReplies :
    glossedReplies (glossedReplies replies) = glossedReplies replies := by
  -- Idle replies are dropped once, for all have ended well by then.
  have well : (glossedReplies replies).map Reply.glossed = glossedReplies replies := by
    refine List.map_congr_left (g := id) (fun reply member => ?_) |>.trans (List.map_id _)
    obtain ⟨_, _, rfl⟩ := List.mem_map.mp ((List.rdropWhile_prefix _ _).subset member)
    rfl
  rw [glossedReplies, well]
  exact List.rdropWhile_idempotent _ _

end Replies

variable {echo : Bool} {script : Script}

/-- There is nothing to gloss over twice. -/
@[simp] theorem glossed_glossed : (script.glossed echo).glossed echo = script.glossed echo := by
  cases echo <;> simp [glossed]

/-- The next send is the same but for its outcome. -/
theorem nextReply_glossed : (script.glossed echo).nextReply =
    (script.nextReply.1.glossed echo, script.nextReply.2.glossed) := by
  simp only [nextReply, glossed, tail_glossedReplies, headD_glossedReplies]

/-- The next thread is the same. -/
theorem nextThread_glossed : (script.glossed echo).nextThread =
    (script.nextThread.1.glossed echo, script.nextThread.2) :=
  rfl

end Script

namespace Occurrence

/-- Whether something that happened only deals with what failed. -/
def isRepair (echo : Bool) : Occurrence → Bool
  | .told _ => true
  | .shown .. | .sinkFlushed _ => !echo
  | _ => false

/-- What happened, without dates and as if every send had ended well. -/
def glossed (occurrence : Occurrence) : Occurrence :=
  match occurrence.undated with
  | .ended batch _ => .ended batch .ok
  | other => other

/-- There is nothing to gloss over twice. -/
@[simp] theorem glossed_glossed (occurrence : Occurrence) :
    occurrence.glossed.glossed = occurrence.glossed := by
  cases occurrence <;> simp [glossed, undated, Payload.encode]

/-- What deals with a failure does so without dates too. -/
@[simp] theorem isRepair_glossed (echo : Bool) (occurrence : Occurrence) :
    occurrence.glossed.isRepair echo = occurrence.isRepair echo := by
  cases occurrence <;> rfl

end Occurrence

/-- What happened, without what deals with failures. -/
def glossedJournal (echo : Bool) (journal : List Occurrence) : List Occurrence :=
  (journal.filter (!·.isRepair echo)).map Occurrence.glossed

section Journal

variable {echo : Bool} {occurrence : Occurrence} {journal : List Occurrence}

/-- What deals with a failure is left out. -/
theorem glossedJournal_cons_of_repair (repair : occurrence.isRepair echo = true) :
    glossedJournal echo (occurrence :: journal) = glossedJournal echo journal := by
  simp [glossedJournal, repair]

/-- There is nothing to gloss over twice. -/
@[simp] theorem glossedJournal_glossedJournal :
    glossedJournal echo (glossedJournal echo journal) = glossedJournal echo journal := by
  simp [glossedJournal, List.filter_map, Function.comp_def]

end Journal

namespace Tally

/-- The counts as if every send had ended well. What was shown matters only if everything is. -/
def glossed (echo : Bool) (tally : Tally) : Tally :=
  { tally with
    shown := if echo then tally.shown else 0
    batchesSent := tally.batchesSent + tally.batchesFailed
    eventsSent := tally.eventsSent + tally.eventsFailed
    batchesFailed := 0
    eventsFailed := 0
    warnings := 0 }

variable {echo : Bool} {tally : Tally}

/-- There is nothing to gloss over twice. -/
@[simp] theorem glossed_glossed : (tally.glossed echo).glossed echo = tally.glossed echo := by
  cases echo <;> simp [glossed]

/-- What is counted without a failure is counted all the same. -/
theorem count_glossed (counter : Counter) :
    ((tally.glossed echo).count counter).glossed echo = (tally.count counter).glossed echo := by
  cases echo <;> cases counter <;> simp [glossed, count]

/-- What deals with a failure is not counted. -/
theorem glossed_count_of_repair {counter : Counter}
    (repair : (Task.count counter).isRepair echo = true) :
    (tally.count counter).glossed echo = tally.glossed echo := by
  cases echo <;> cases counter <;> first | rfl | cases repair

/-- A batch that was delivered is counted all the same. -/
theorem delivered_glossed (events : Nat) :
    ((tally.glossed echo).delivered events).glossed echo =
      (tally.delivered events).glossed echo := by
  -- One more among those that were delivered is one more in all.
  cases echo <;> simp [glossed, delivered] <;> grind

/-- A batch that was given up is counted as if it had been delivered. -/
theorem failed_glossed (events : Nat) :
    ((tally.glossed echo).delivered events).glossed echo =
      (tally.failed events).glossed echo := by
  cases echo <;> simp [glossed, delivered, failed, UInt64.add_assoc]

end Tally

namespace Depot

/-- The depot without dates, and as if every send had ended well. -/
@[simps] def glossed (depot : Depot) : Depot :=
  { depot with
    wall := default
    queue := depot.queue.map Event.undated
    tally := depot.tally.glossed depot.settings.echo
    script := depot.script.glossed depot.settings.echo
    journal := glossedJournal depot.settings.echo depot.journal }

end Depot

namespace Agent

/-- The agent without dates, and without what it still has to do about failures. -/
def glossed (echo : Bool) (agent : Agent) : Agent :=
  { agent with tasks := glossedTasks echo agent.tasks }

variable {echo : Bool} {agent : Agent} {tasks : List Task}

/-- There is nothing to gloss over twice. -/
@[simp] theorem glossed_glossed : (agent.glossed echo).glossed echo = agent.glossed echo := by
  simp [glossed]

@[simp] theorem glossed_sending : (agent.glossed echo).sending = agent.sending := rfl

@[simp] theorem glossed_crash : (agent.glossed echo).crash = agent.crash := rfl

/-- What an agent answers is not glossed over. -/
@[simp] theorem glossed_reply (value : Bool) :
    (agent.reply value).glossed echo = (agent.glossed echo).reply value := rfl

/-- New tasks are glossed over like old ones. -/
@[simp] theorem glossed_push :
    (agent.push tasks).glossed echo = (agent.glossed echo).push (glossedTasks echo tasks) := by
  simp [glossed, push]

/-- After a crash the same must be put back. -/
@[simp] theorem glossed_unwind (crash : Crash) :
    (agent.unwind crash).glossed echo = (agent.glossed echo).unwind crash := by
  simp [glossed, unwind, filter_isCleanup_glossedTasks]

end Agent

/-- What comes of a step, without dates and as if every send had ended well. -/
def glossedResult (result : Depot × Agent) : Depot × Agent :=
  (result.1.glossed, result.2.glossed result.1.settings.echo)

namespace Depot

variable {depot before after : Depot} {agent : Agent} {choice : Choice} {task : Task}

/-- There is nothing to gloss over twice. -/
@[simp] theorem glossed_glossed : depot.glossed.glossed = depot.glossed := by
  simp [glossed, Queue.map]

/-- Whatever happens is added to what is left of the journal. -/
theorem glossed_note (occurrence : Occurrence) : (depot.note occurrence).glossed =
    { depot.glossed with
      journal := glossedJournal depot.settings.echo [occurrence] ++ depot.glossed.journal } := by
  -- Either the occurrence is left out of the glossed journal, or it stands first in it.
  simp [glossed, note, glossedJournal, List.filter_cons]
  split <;> simp

/-- What is the same when glossed over stays the same with one more entry in the journal. -/
theorem note_glossed (same : after.glossed = before.glossed) {first second : Occurrence}
    (alike : first.glossed = second.glossed) :
    (after.note first).glossed = (before.note second).glossed := by
  -- Whether an occurrence is left out does not depend on what is glossed over in it.
  have echoes : after.settings.echo = before.settings.echo := congrArg (·.settings.echo) same
  have kinds (echo : Bool) : first.isRepair echo = second.isRepair echo := by
    rw [← first.isRepair_glossed, alike, second.isRepair_glossed]
  rw [glossed_note, glossed_note, same, echoes]
  cases repair : second.isRepair before.settings.echo <;>
    simp [glossedJournal, kinds, repair, alike]

/-- Entering a phase is the same when glossed over. -/
theorem enter_glossed (phase : Phase) :
    (depot.glossed.enter phase).glossed = (depot.enter phase).glossed := by
  refine note_glossed ?_ rfl
  simp [glossed, Queue.map]

/-- Counting is the same when glossed over. -/
theorem count_glossed (counter : Counter) :
    (depot.glossed.count counter).glossed = (depot.count counter).glossed := by
  simp [glossed, count, Queue.map, Tally.count_glossed]

/-- What follows once an event is stamped is the same when glossed over. -/
theorem acceptance_glossed (depot : Depot) (event : Event) :
    glossedTasks depot.settings.echo (depot.glossed.acceptance event.undated) =
      glossedTasks depot.settings.echo (depot.acceptance event) := by
  -- Neither the endpoint nor the echo depends on the date of the event.
  cases remote : depot.settings.isRemote <;> cases echo : depot.settings.echo <;>
    simp [acceptance, remote, echo, glossedTasks, Task.isRepair, Task.glossed, Task.undated]

section Results

variable {echo : Bool} {first second : Agent}

/-- Results are the same when glossed over if the depots and the agents are. -/
theorem glossedResult_eq (echo : Bool) (same : after.glossed = before.glossed)
    (kept : before.settings.echo = echo) (alike : first.glossed echo = second.glossed echo) :
    glossedResult (after, first) = glossedResult (before, second) := by
  -- The settings can be read off a depot that is glossed over.
  have settings : after.settings = before.settings := congrArg (·.settings) same
  simp only [glossedResult, same, settings, kept, alike]

/-- An agent that only rests is the same when glossed over. -/
theorem glossedResult_rest (same : after.glossed = before.glossed)
    (kept : before.settings.echo = echo) :
    glossedResult (after, agent.glossed echo) = glossedResult (before, agent) :=
  glossedResult_eq echo same kept (by simp)

/-- An agent that answers is the same when glossed over. -/
theorem glossedResult_reply (same : after.glossed = before.glossed)
    (kept : before.settings.echo = echo) (value : Bool) :
    glossedResult (after, (agent.glossed echo).reply value) =
      glossedResult (before, agent.reply value) :=
  glossedResult_eq echo same kept (by simp)

/-- An agent with new tasks is the same when glossed over if the tasks are. -/
theorem glossedResult_push {first second : List Task} (same : after.glossed = before.glossed)
    (kept : before.settings.echo = echo)
    (lists : glossedTasks echo first = glossedTasks echo second) :
    glossedResult (after, (agent.glossed echo).push first) =
      glossedResult (before, agent.push second) :=
  glossedResult_eq echo same kept (by simp [lists])

end Results

/-- Showing an event of a depot that shows everything is the same when glossed over. -/
theorem echo_glossed {event : Event} (shows : depot.settings.echo = true) :
    glossedResult (depot.glossed.echo (agent.glossed depot.settings.echo) event.undated) =
      glossedResult (depot.echo agent event) := by
  -- The sink takes the event as it would with its date.
  have writes : depot.glossed.script.nextWrite =
      (depot.script.nextWrite.1.glossed depot.settings.echo, depot.script.nextWrite.2) := by
    simp [Script.nextWrite, Script.glossed, shows]
  have same : ({ depot.glossed with
        script := depot.script.nextWrite.1.glossed depot.settings.echo }.note
          (.shown event.undated depot.script.nextWrite.2)).glossed =
      ({ depot with script := depot.script.nextWrite.1 }.note
        (.shown event depot.script.nextWrite.2)).glossed :=
    note_glossed (by simp [glossed, Queue.map]) rfl
  simp only [echo, writes]
  cases failed : depot.script.nextWrite.2.error? depot.sinkName with
  | none =>
    simp only [glossed_sinkName, failed]
    exact glossedResult_push same rfl rfl
  | some error =>
    simp only [glossed_sinkName, failed]
    exact glossedResult_push same rfl rfl

/-- An event comes to the queue the same when glossed over. -/
theorem append_glossed {event : Event} :
    glossedResult (depot.glossed.append (agent.glossed depot.settings.echo) event.undated) =
      glossedResult (depot.append agent event) := by
  -- What becomes of it does not depend on the dates, and neither does which event leaves.
  have pushed : (depot.queue.map Event.undated).push depot.now event.undated =
      ((depot.queue.push depot.now event).1.map Event.undated,
        (depot.queue.push depot.now event).2) := Queue.push_map
  simp only [append, glossed_queue, glossed_now, pushed]
  cases became : depot.queue.push depot.now event with
  | mk queue entry =>
  have arrived : ({ depot.glossed with queue := queue.map Event.undated }.note
      (.arrived event.undated entry)).glossed =
      ({ depot with queue }.note (.arrived event entry)).glossed :=
    note_glossed (by simp [glossed, Queue.map]) rfl
  cases entry with
  | displacing =>
    cases waiting : depot.queue.waiting with
    | nil =>
      simp only [Queue.map, waiting, List.map_nil]
      exact glossedResult_push arrived rfl rfl
    | cons oldest rest =>
      simp only [Queue.map, waiting, List.map_cons]
      exact glossedResult_push (note_glossed arrived rfl) rfl rfl
  | _ => exact glossedResult_push arrived rfl rfl

/-- What waits is taken the same when glossed over. -/
theorem drain_glossed {trigger : Trigger} :
    glossedResult (depot.glossed.drain (agent.glossed depot.settings.echo) trigger) =
      glossedResult (depot.drain agent trigger) := by
  -- With nothing waiting there is no batch, and otherwise the same events are taken.
  cases waiting : depot.queue.waiting with
  | nil =>
    simp only [drain, glossed_queue, Queue.drain, Queue.map, waiting]
    refine glossedResult_rest ?_ rfl
    simp [glossed, Queue.map]
  | cons oldest rest =>
    simp only [drain, glossed_queue, Queue.drain, Queue.map, waiting]
    refine glossedResult_push ?_ rfl ?_
    · simp [glossed, Queue.map]
    · cases trigger <;>
        simp [glossedTasks, Task.isRepair, Task.glossed, Task.undated, Trigger.counter?]

/-- What is left is taken the same when glossed over. -/
theorem closeQueue_glossed {timeout : Span} :
    glossedResult (depot.glossed.closeQueue (agent.glossed depot.settings.echo) timeout) =
      glossedResult (depot.closeQueue agent timeout) := by
  -- An empty queue is only closed, and otherwise the same events make up the last batch.
  cases waiting : depot.queue.waiting with
  | nil =>
    simp only [closeQueue, glossed_queue, Queue.close, Queue.map, waiting]
    refine glossedResult_rest (note_glossed ?_ rfl) rfl
    simp [glossed, Queue.map]
  | cons oldest rest =>
    simp only [closeQueue, glossed_queue, Queue.close, Queue.map, waiting]
    refine glossedResult_push (note_glossed ?_ rfl) rfl ?_
    · simp [glossed, Queue.map]
    · simp [glossedTasks, Task.isRepair, Task.glossed, Task.undated]

/-- What follows a send is the same when glossed over. -/
theorem replied_glossed {echo mark : Bool} {batch : List Event} {reply : Reply} :
    ({ agent.glossed echo with sending := true }.push <|
      reply.glossed.records.map Task.bridge ++
        reply.glossed.remarks.map (fun pair : Severity × String =>
          Task.submit (Submission.ofMessage pair.1 pair.2)) ++
        (if reply.glossed.waits then [Task.await] else []) ++
        [Task.settle mark (batch.map Event.undated) reply.glossed.outcome]).glossed echo =
    ({ agent with sending := true }.push <|
      reply.records.map Task.bridge ++
        reply.remarks.map (fun pair : Severity × String =>
          Task.submit (Submission.ofMessage pair.1 pair.2)) ++
        (if reply.waits then [Task.await] else []) ++
        [Task.settle mark batch reply.outcome]).glossed echo := by
  -- Only the end of the send depends on what is glossed over.
  have ends (outcome : Outcome) : glossedTasks echo [.settle mark batch outcome] =
      [.settle mark (batch.map Event.undated) .ok] := rfl
  have glossedEnds (outcome : Outcome) :
      glossedTasks echo [.settle mark (batch.map Event.undated) outcome] =
        [.settle mark (batch.map Event.undated) .ok] := by
    simp [glossedTasks, Task.isRepair, Task.glossed, Task.undated]
  simp only [Agent.glossed, Agent.push, glossedTasks_append, glossedTasks_glossedTasks, ends,
    glossedEnds, Reply.glossed]
  rfl

/-- A send begins the same when glossed over. -/
theorem send_glossed {batch : List Event} {timeout : Span} :
    glossedResult (depot.glossed.send (agent.glossed depot.settings.echo)
        (batch.map Event.undated) timeout) =
      glossedResult (depot.send agent batch timeout) := by
  -- The transport logs and waits as it would, and the end of the send is not looked at yet.
  simp only [send, glossed_script, Script.nextReply_glossed]
  refine glossedResult_eq depot.settings.echo (note_glossed ?_ ?_) rfl replied_glossed
  · simp [glossed, Queue.map]
  · simp [Occurrence.glossed, Occurrence.undated, Payload.encode]

/-- A send ends the same when glossed over, however it ends. -/
theorem settle_glossed {wasSending : Bool} {batch : List Event} {outcome : Outcome} :
    glossedResult (depot.glossed.settle (agent.glossed depot.settings.echo) wasSending
        (batch.map Event.undated) .ok) =
      glossedResult (depot.settle agent wasSending batch outcome) := by
  have ended : depot.glossed.settle (agent.glossed depot.settings.echo) wasSending
      (batch.map Event.undated) .ok =
      ({ depot.glossed with tally := depot.glossed.tally.delivered batch.length }.note
        (.ended (batch.map Event.undated) .ok),
        { agent.glossed depot.settings.echo with sending := wasSending }) := by
    simp [settle, Outcome.error?, note]
  -- Of a failure nothing stays but the batch that is counted.
  cases failed : outcome.error? depot.transportName with
  | none =>
    have delivers : depot.settle agent wasSending batch outcome =
        ({ depot with tally := depot.tally.delivered batch.length }.note (.ended batch outcome),
          { agent with sending := wasSending }) := by
      simp [settle, failed, note]
    rw [ended, delivers]
    refine glossedResult_eq depot.settings.echo (note_glossed ?_ ?_) rfl ?_
    · simp [glossed, Queue.map, Tally.delivered_glossed]
    · simp [Occurrence.glossed, Occurrence.undated]
    · simp [Agent.glossed]
  | some error =>
    have fails : depot.settle agent wasSending batch outcome =
        ({ depot with tally := depot.tally.failed batch.length }.note (.ended batch outcome),
          { agent with sending := wasSending }.push <|
            warn (.dropping error batch.length) ++
              (if depot.settings.echo then [] else [Task.fallBack batch])) := by
      simp [settle, failed, note]
      rfl
    have lists : glossedTasks depot.settings.echo
        (warn (.dropping error batch.length) ++
          (if depot.settings.echo then [] else [Task.fallBack batch])) = [] := by
      cases echo : depot.settings.echo <;> rfl
    rw [ended, fails]
    refine glossedResult_eq depot.settings.echo (note_glossed ?_ ?_) rfl ?_
    · simp [glossed, Queue.map, Tally.failed_glossed]
    · simp [Occurrence.glossed, Occurrence.undated]
    · rw [Agent.glossed_push, lists]
      simp [Agent.glossed, Agent.push]

/-- Showing what could not be delivered is the same when glossed over, if everything is shown. -/
theorem fallBack_glossed {events : List Event} (shows : depot.settings.echo = true) :
    glossedResult (depot.glossed.fallBack (agent.glossed depot.settings.echo)
        (events.map Event.undated)) = glossedResult (depot.fallBack agent events) := by
  cases events with
  | nil => exact glossedResult_push glossed_glossed rfl rfl
  | cons event rest =>
    -- The sink is asked for every event, so its next answer is the same on both sides.
    have drawn : depot.glossed.script.nextWrite =
        (depot.script.nextWrite.1.glossed true, depot.script.nextWrite.2) := by
      simp [shows, Script.nextWrite, Script.glossed]
    have same : ({ depot.glossed with script := depot.script.nextWrite.1.glossed true }.note
        (.shown event.undated depot.script.nextWrite.2)).glossed =
        ({ depot with script := depot.script.nextWrite.1 }.note
          (.shown event depot.script.nextWrite.2)).glossed :=
      note_glossed (by simp [glossed, Queue.map, shows]) rfl
    simp only [List.map_cons, fallBack, drawn]
    cases outcome : depot.script.nextWrite.2 with
    | ok =>
      rw [outcome] at same
      refine glossedResult_push same rfl ?_
      simp [shows, glossedTasks, Task.isRepair, Task.glossed, Task.undated]
    | failed error =>
      rw [outcome] at same
      exact glossedResult_push same rfl rfl
    | crashed crash =>
      rw [outcome] at same
      exact glossedResult_eq depot.settings.echo same rfl (by simp)

/-- Flushing the sink is the same when glossed over, if everything is shown. -/
theorem flushSink_glossed (shows : depot.settings.echo = true) :
    glossedResult (depot.glossed.flushSink (agent.glossed depot.settings.echo)) =
      glossedResult (depot.flushSink agent) := by
  -- The sink is asked on both sides, so its next answer is the same.
  have drawn : depot.glossed.script.nextFlush =
      (depot.script.nextFlush.1.glossed true, depot.script.nextFlush.2) := by
    simp [shows, Script.nextFlush, Script.glossed]
  have same : ({ depot.glossed with script := depot.script.nextFlush.1.glossed true }.note
      (.sinkFlushed depot.script.nextFlush.2)).glossed =
      ({ depot with script := depot.script.nextFlush.1 }.note
        (.sinkFlushed depot.script.nextFlush.2)).glossed :=
    note_glossed (by simp [glossed, Queue.map, shows]) rfl
  simp only [flushSink, drawn]
  cases outcome : depot.script.nextFlush.2 with
  | ok =>
    rw [outcome] at same
    exact glossedResult_rest same rfl
  | failed error =>
    rw [outcome] at same
    exact glossedResult_push same rfl rfl
  | crashed crash =>
    rw [outcome] at same
    exact glossedResult_eq depot.settings.echo same rfl (by simp)

/-- What the courier attends to is the same when glossed over. -/
theorem select_glossed {tick wake : Nat} :
    (depot.glossed.select (agent.glossed depot.settings.echo) tick wake choice).map glossedResult =
      (depot.select agent tick wake choice).map glossedResult := by
  -- Signals, orders and the clock are the same on both sides.
  cases choice with
  | signal =>
    cases signalled : depot.queue.signalled with
    | true =>
      simp only [select, glossed_queue, Queue.map, Queue.takeSignal, signalled, if_true]
      exact congrArg some (glossedResult_push (by simp [glossed, Queue.map]) rfl rfl)
    | false => simp [select, Queue.map, Queue.takeSignal, signalled]
  | order =>
    cases orders : depot.orders with
    | nil => simp [select, orders]
    | cons order rest =>
      have same : ({ depot.glossed with orders := rest } : Depot).glossed =
          ({ depot with orders := rest } : Depot).glossed := by
        simp [glossed, Queue.map]
      cases order <;> simp only [select, glossed_orders, orders] <;>
        exact congrArg some (glossedResult_push same rfl rfl)
  | timer =>
    by_cases due : wake ≤ depot.now
    · simp only [select, glossed_now, due, if_true]
      exact congrArg some (glossedResult_push glossed_glossed rfl rfl)
    · simp [select, due]

/-- What is the same when glossed over stays the same when the courier is lost. -/
theorem lose_glossed (same : after.glossed = before.glossed) (cause : String) :
    (after.lose cause).glossed = (before.lose cause).glossed := by
  -- Between the two phases the courier is gone, with orders and signals.
  have waiting : (after.enter .waiting).glossed = (before.enter .waiting).glossed :=
    note_glossed (congrArg (fun depot => { depot with phase := .waiting }) same) rfl
  have gone : ({ (after.enter .waiting).release with thread := .refused } : Depot).glossed =
      ({ (before.enter .waiting).release with thread := .refused } : Depot).glossed :=
    congrArg (fun depot => ({ depot.release with thread := .refused } : Depot)) waiting
  exact note_glossed
    (note_glossed (congrArg (fun depot => { depot with phase := .stopped }) gone) rfl) rfl

/-- Hiring is the same when glossed over. -/
theorem hire_glossed : glossedResult (depot.glossed.hire (agent.glossed depot.settings.echo)) =
    glossedResult (depot.hire agent) := by
  simp only [hire, glossed_handle, glossed_holder, glossed_script, Script.nextThread_glossed]
  split
  · -- A thread is granted or refused in the same way.
    cases depot.script.nextThread.2 with
    | none =>
      apply glossedResult_reply
      · apply note_glossed _ rfl
        simp [glossed, Queue.map]
      · rfl
    | some cause =>
      have same : ({ depot.glossed with
          script := depot.script.nextThread.1.glossed depot.settings.echo } : Depot).glossed =
          ({ depot with script := depot.script.nextThread.1 } : Depot).glossed := by
        simp [glossed, Queue.map]
      exact glossedResult_reply (lose_glossed same cause) rfl false
  · exact glossedResult_reply glossed_glossed rfl false

/-- An order to flush is the same when glossed over. -/
theorem order_glossed : glossedResult (depot.glossed.order (agent.glossed depot.settings.echo)) =
    glossedResult (depot.order agent) := by
  -- Who has the courier, and whether anybody listens to orders, is not glossed over.
  simp only [order, glossed_handle, glossed_holder, glossed_listening, glossed_orders]
  repeat' split
  · apply glossedResult_reply
    · simp [glossed, Queue.map]
    · rfl
  · exact glossedResult_reply glossed_glossed rfl false
  · refine glossedResult_push ?_ rfl rfl
    simp [glossed, Queue.map]
  · exact glossedResult_reply glossed_glossed rfl false

/-- Taking the courier over is the same when glossed over. -/
theorem takeOver_glossed {timeout : Span} :
    glossedResult (depot.glossed.takeOver (agent.glossed depot.settings.echo) timeout) =
      glossedResult (depot.takeOver agent timeout) := by
  -- Who has the courier is not glossed over.
  simp only [takeOver, glossed_handle, glossed_holder]
  repeat' split
  · refine glossedResult_push ?_ rfl rfl
    simp [glossed, Queue.map]
  · refine glossedResult_push ?_ rfl rfl
    simp [glossed, Queue.map]
  · exact glossedResult_push glossed_glossed rfl rfl

/-- Dismissing the courier is the same when glossed over. -/
theorem dismiss_glossed {timeout : Span} :
    glossedResult (depot.glossed.dismiss (agent.glossed depot.settings.echo) timeout) =
      glossedResult (depot.dismiss agent timeout) := by
  -- Whether anybody listens to orders is not glossed over.
  simp only [dismiss, glossed_listening, glossed_orders]
  split
  · refine glossedResult_push ?_ rfl rfl
    simp [glossed, Queue.map]
  · exact glossedResult_push (note_glossed glossed_glossed rfl) rfl rfl

/-- Waiting for the thread is the same when glossed over. -/
theorem join_glossed {since : Nat} {timeout : Span} :
    (depot.glossed.join (agent.glossed depot.settings.echo) since timeout).map glossedResult =
      (depot.join agent since timeout).map glossedResult := by
  -- Neither the thread nor the clock is glossed over.
  simp only [join, glossed_thread, glossed_now]
  split
  · exact congrArg some (glossedResult_push glossed_glossed rfl rfl)
  · exact congrArg some (glossedResult_reply (note_glossed glossed_glossed rfl) rfl false)
  · split
    · exact congrArg some (glossedResult_reply (note_glossed glossed_glossed rfl) rfl false)
    · rfl

/-- What does not deal with a failure does the same when glossed over. -/
theorem act_glossed (visible : task.isRepair depot.settings.echo = false) :
    (depot.glossed.act (agent.glossed depot.settings.echo) choice task.glossed).map glossedResult =
      (depot.act agent choice task).map glossedResult := by
  -- A console that is looked at shows everything.
  have shows (kind : task.isRepair depot.settings.echo = !depot.settings.echo) :
      depot.settings.echo = true := by
    simpa using kind.symm.trans visible
  have rests {before after : Depot} (same : after.glossed = before.glossed)
      (kept : before.settings = depot.settings) :
      (some (after, agent.glossed depot.settings.echo)).map glossedResult =
        (some (before, agent)).map glossedResult :=
    congrArg some (glossedResult_rest same (by rw [kept]))
  have pushes {before after : Depot} (same : after.glossed = before.glossed)
      (kept : before.settings = depot.settings) (tasks : List Task) :
      (some (after, (agent.glossed depot.settings.echo).push tasks)).map glossedResult =
        (some (before, agent.push tasks)).map glossedResult :=
    congrArg some (glossedResult_push same (by rw [kept]) rfl)
  have replies (value : Bool) :
      (some (depot.glossed, (agent.glossed depot.settings.echo).reply value)).map glossedResult =
        (some (depot, agent.reply value)).map glossedResult :=
    congrArg some (glossedResult_reply glossed_glossed rfl value)
  cases task with
  | submit submission =>
    exact congrArg some (glossedResult_push (note_glossed (count_glossed _) rfl) rfl
      (acceptance_glossed depot (submission.event depot.wall depot.settings.origin)))
  | bridge record =>
    simp only [act, Task.glossed, Task.undated, glossed_threshold, Agent.glossed_sending]
    split
    · exact pushes glossed_glossed rfl _
    · exact rests glossed_glossed rfl
  | echo event => exact congrArg some (echo_glossed (shows rfl))
  | append event => exact congrArg some append_glossed
  | drain trigger => exact congrArg some drain_glossed
  | closeQueue timeout => exact congrArg some closeQueue_glossed
  | send batch timeout => exact congrArg some send_glossed
  | settle wasSending batch outcome => exact congrArg some settle_glossed
  | fallBack events => exact congrArg some (fallBack_glossed (shows rfl))
  | flushSink => exact congrArg some (flushSink_glossed (shows rfl))
  | select tick wake => exact select_glossed
  | join since timeout => exact join_glossed
  | takeOver timeout =>
    simp only [act, Task.glossed, Task.undated, glossed_locked]
    split
    · rfl
    · exact congrArg some takeOver_glossed
  | hire =>
    simp only [act, Task.glossed, Task.undated, glossed_locked]
    split
    · rfl
    · exact congrArg some hire_glossed
  | order =>
    simp only [act, Task.glossed, Task.undated, glossed_locked]
    split
    · rfl
    · exact congrArg some order_glossed
  | dismiss timeout => exact congrArg some dismiss_glossed
  | claimBanner =>
    have same : ({ depot.glossed with armed := false } : Depot).glossed =
        ({ depot with armed := false } : Depot).glossed := by
      simp [glossed, Queue.map]
    simp only [act, Task.glossed, Task.undated, claimBanner, glossed_armed]
    split
    · exact congrArg some (glossedResult_eq depot.settings.echo same rfl (by simp))
    · exact congrArg some (glossedResult_eq depot.settings.echo same rfl (by simp))
  | offer event =>
    simp only [act, Task.glossed, Task.undated, glossed_stopped]
    split
    · apply congrArg some
      exact glossedResult_push (note_glossed glossed_glossed rfl) rfl rfl
    · apply congrArg some
      exact glossedResult_push glossed_glossed rfl rfl
  | await =>
    simp only [act, Task.glossed, Task.undated, glossed_permits]
    split
    · rfl
    · exact rests (by simp [glossed, Queue.map]) rfl
  | signal =>
    simp only [act, Task.glossed, Task.undated, signal, glossed_listening]
    split
    · exact rests (by simp [glossed, Queue.map, Queue.offerSignal]) rfl
    · exact rests glossed_glossed rfl
  | begin =>
    simp only [act, Task.glossed, Task.undated, glossed_thread, glossed_now, glossed_settings]
    split
    · exact pushes glossed_glossed rfl _
    · rfl
  | checkReady =>
    simp only [act, Task.glossed, Task.undated, checkReady, glossed_queue, glossed_settings,
      Queue.map]
    split
    · exact rests glossed_glossed rfl
    · split
      · exact pushes glossed_glossed rfl _
      · exact pushes glossed_glossed rfl _
  | stop timeout =>
    have same : ({ depot.glossed with stopped := true } : Depot).glossed =
        ({ depot with stopped := true } : Depot).glossed := by
      simp [glossed, Queue.map]
    simp only [act, Task.glossed, Task.undated, glossed_stopped]
    split
    · apply congrArg some
      apply glossedResult_reply same
      rfl
    · exact pushes same rfl _
  | exit =>
    simp only [act, Task.glossed, Task.undated, Agent.glossed_crash]
    have same (thread : Thread) : ({ depot.glossed with thread } : Depot).glossed =
        ({ depot with thread } : Depot).glossed := by
      simp [glossed, Queue.map]
    exact rests (same _) rfl
  | checkBanner | start | flush =>
    simp only [act, Task.glossed, Task.undated, glossed_armed, glossed_stopped]
    split
    · first
      | exact pushes glossed_glossed rfl _
      | exact replies _
    · first
      | exact pushes glossed_glossed rfl _
      | exact replies _
  | checkFull | checkAge =>
    simp only [act, Task.glossed, Task.undated, glossed_queue, glossed_now, glossed_settings,
      Queue.isFull_map, Queue.isStale_map]
    split
    · exact pushes glossed_glossed rfl _
    · exact rests glossed_glossed rfl
  | count counter => exact rests (count_glossed counter) rfl
  | enter phase => exact rests (enter_glossed phase) rfl
  | flushFor trigger => exact pushes (enter_glossed _) rfl _
  | finish deadline => exact pushes (enter_glossed _) rfl _
  | idle tick => exact pushes (enter_glossed _) rfl _
  | schedule | plan | retick => exact pushes glossed_glossed rfl _
  | arm | unlock => exact rests (by simp [glossed, Queue.map]) rfl
  | release => exact rests (by simp [glossed, Depot.release, Queue.map, Queue.takeSignal]) rfl
  | answer value => exact replies value
  | tell | reportLosses => cases visible

end Depot

end LogCourier
