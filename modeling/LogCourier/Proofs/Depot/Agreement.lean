import LogCourier.Proofs.Depot.Conversation
import LogCourier.Proofs.Depot.Twins

/-!
Agreement: a courier does the same on its thread as without one.

It is asked the same, one call after the other, and each call comes to rest. Then the same is handed
over, shown, counted and answered after every call.
-/

namespace LogCourier

namespace Occurrence

/-- Whether something that happened is seen on the console: by way of the sink, or as a notice. -/
def isConsole : Occurrence → Bool
  | .shown .. | .sinkFlushed _ | .told _ => true
  | _ => false

end Occurrence

/-- What was seen on the console, without dates, the latest first. -/
def Depot.console (depot : Depot) : List Occurrence :=
  (depot.journal.filter Occurrence.isConsole).map Occurrence.undated

/-- What can be seen once a call has come to rest. -/
structure Report where
  /-- All payloads that were handed to the transport, without dates, with the times for them. -/
  requests : List (Payload × Span)
  console : List Occurrence
  tally : Tally
  pending : Nat
  /-- What the call has answered, if it answers anything. -/
  answer : Option Bool
  deriving DecidableEq

namespace World

/-- What can be seen of a world, and of the last call in it. -/
def report (world : World) : Report where
  requests := world.depot.requests
  console := world.depot.console
  tally := world.depot.tally
  pending := world.depot.pending
  answer := world.answer?

/-- Calls one after the other, none of them to start the courier, with what could be seen once each
had come to rest by changes in worlds that are allowed. -/
inductive Converses (allowed : World → Prop) (start : World) :
    List (Call × Report) → World → Prop where
  | nil : Converses allowed start [] start
  | call {exchanges : List (Call × Report)} {world rested : World}
      (before : Converses allowed start exchanges world) (call : Call) (other : call ≠ .start)
      (proceeds : (world.called call).Proceeds allowed rested) (rest : rested.AtRest) :
      Converses allowed start (exchanges ++ [(call, rested.report)]) rested

end World

/-- What the transport was given is seen on the bench. -/
theorem Depot.requests_bare (depot : Depot) : depot.bare.requests = depot.requests := by
  simp only [requests, bare_journal, bareJournal, List.filterMap_map, List.filterMap_filter]
  refine List.filterMap_congr fun occurrence _ => ?_
  -- A phase is no request.
  cases occurrence <;>
    simp [Occurrence.isPhase, Occurrence.undated, Occurrence.request?, Payload.encode]

/-- What the console shows is seen on the bench. -/
theorem Depot.console_bare (depot : Depot) : depot.bare.console = depot.console := by
  -- Entries into a phase are no matter of the console.
  have kinds (occurrence : Occurrence) : (occurrence.undated.isConsole && !occurrence.isPhase) =
      occurrence.isConsole := by
    cases occurrence <;> rfl
  simp [console, bareJournal, List.filter_map, Function.comp_def, kinds]

/-- What is the same on the bench, with the same answer, looks the same. -/
theorem World.report_eq {first second : World} (same : first.depot.bare = second.depot.bare)
    (answer : first.answer? = second.answer?) : first.report = second.report := by
  -- All that is reported but the answer is left on the bench.
  have tally : first.depot.bare.tally = second.depot.bare.tally := congrArg Depot.tally same
  have pending : first.depot.bare.queue.length = second.depot.bare.queue.length :=
    congrArg (·.queue.length) same
  unfold report
  rw [← first.depot.requests_bare, ← first.depot.console_bare, same, answer,
    second.depot.requests_bare, second.depot.console_bare]
  congr 1

/-- What a call comes to can be told from the bench. -/
theorem Depot.called_bare (depot : Depot) (call : Call) :
    depot.bare.called call = depot.called call := by
  simp [called]

namespace World.Converses

variable {allowed allowed' : World → Prop} {stage stage' : Site → List Task → List Task → Prop}
  {start start' world world' : World} {exchanges exchanges' : List (Call × Report)}

/-- Between calls nothing has crashed, and everything is at rest. -/
theorem rests (service : Service allowed stage) (invariant : CrashFreeInvariant start)
    (resting : AllAnswered stage start) (converses : start.Converses allowed exchanges world) :
    CrashFreeInvariant world ∧ AllAnswered stage world := by
  -- Call by call.
  induction converses with
  | nil => exact ⟨invariant, resting⟩
  | call _ call other proceeds rest ih =>
    obtain ⟨invariant, resting, -⟩ := ih.2.exchange service ih.1 other proceeds rest
    exact ⟨invariant, resting⟩

/-- Whichever two ways calls are served, they agree. -/
theorem agree (service : Service allowed stage) (service' : Service allowed' stage')
    (invariant : CrashFreeInvariant start) (invariant' : CrashFreeInvariant start')
    (resting : AllAnswered stage start)
    (resting' : AllAnswered stage' start') (same : start.depot.bare = start'.depot.bare)
    (converses : start.Converses allowed exchanges world)
    (converses' : start'.Converses allowed' exchanges' world')
    (calls : exchanges.map Prod.fst = exchanges'.map Prod.fst) :
    exchanges = exchanges' ∧ world.depot.bare = world'.depot.bare := by
  -- Call by call, from rest to rest.
  induction converses generalizing exchanges' world' with
  | nil =>
    cases converses' with
    | nil => exact ⟨rfl, same⟩
    | call => simp at calls
  | @call _ earlier rested before call other proceeds rest ih =>
    cases converses' with
    | nil => simp at calls
    | @call _ earlier' _ before' call' other' proceeds' rest' =>
      rw [List.map_append, List.map_append] at calls
      obtain ⟨firsts, last⟩ := List.append_inj' calls rfl
      obtain rfl : call = call' := (List.cons.inj last).1
      obtain ⟨rfl, same⟩ := ih before' firsts
      obtain ⟨invariant, resting⟩ := before.rests service invariant resting
      obtain ⟨invariant', resting'⟩ := before'.rests service' invariant' resting'
      obtain ⟨-, -, leads, answer⟩ := resting.exchange service invariant other proceeds rest
      obtain ⟨-, -, leads', answer'⟩ := resting'.exchange service' invariant' other proceeds' rest'
      -- Both come to the end of one bench, and both have promised the same.
      have settings : earlier.depot.settings = earlier'.depot.settings := by
        simpa using congrArg Depot.settings same
      have stopped : earlier.depot.stopped = earlier'.depot.stopped := by
        simpa using congrArg Depot.stopped same
      rw [settings, stopped, ← answer'] at answer
      rw [← Depot.called_bare, same, Depot.called_bare] at leads
      have bare := congrArg Bench.depot (leads.unique leads' rfl rfl)
      exact ⟨by rw [World.report_eq bare answer], bare⟩

end World.Converses

/-- Whether a call stops the courier. -/
def Call.stops : Call → Bool
  | .stop _ | .dispose => true
  | _ => false

namespace Bench

/-- The courier has been stopped, or is still to be stopped. -/
def Stops (bench : Bench) : Prop :=
  (∃ timeout, .stop timeout ∈ bench.tasks) ∨ bench.depot.stopped = true

/-- A task that stops the courier is done at some time, and for good. -/
theorem Stops.step {bench next : Bench} (stops : bench.Stops) (step : bench.step = some next) :
    next.Stops := by
  obtain ⟨depot, tasks⟩ := bench
  cases tasks with
  | nil => simp [Bench.step] at step
  -- The task that stops is the first one, or stands below it.
  | cons task rest =>
    obtain ⟨⟨later, agent⟩, acted, rfl⟩ := Option.map_eq_some_iff.mp step
    have deed := Deed.of_act acted
    rcases stops with ⟨timeout, member⟩ | stopped
    · rcases List.mem_cons.mp member with rfl | below
      · right
        cases deed.duty rfl <;> rfl
      · exact .inl ⟨timeout, List.mem_append_right _ below⟩
    · exact .inr (deed.stopped stopped)

/-- Where nothing is left, what was to be stopped has been. -/
theorem Stops.leads {bench next : Bench} (stops : bench.Stops) (leads : bench.Leads next)
    (done : next.tasks = []) : next.depot.stopped = true := by
  -- Step by step on the bench.
  have onward : next.Stops := by
    clear done
    induction leads with
    | refl => exact stops
    | tail _ step ih => exact ih.step step
  rcases onward with ⟨timeout, member⟩ | stopped
  · simp [done] at member
  · exact stopped

end Bench

/-- Whoever has been called to stop has been stopped. -/
theorem World.Converses.stopped {allowed : World → Prop}
    {stage : Site → List Task → List Task → Prop} {start world : World}
    {exchanges : List (Call × Report)} (service : Service allowed stage)
    (invariant : CrashFreeInvariant start)
    (resting : AllAnswered stage start) (converses : start.Converses allowed exchanges world)
    (stops : ∃ exchange ∈ exchanges, exchange.1.stops = true) : world.depot.stopped = true := by
  -- Call by call; the last one may be the one that stops.
  induction converses with
  | nil => simp at stops
  | @call _ earlier rested before call other proceeds rest ih =>
    obtain ⟨invariant, resting⟩ := before.rests service invariant resting
    obtain ⟨-, -, leads, -⟩ := resting.exchange service invariant other proceeds rest
    refine Bench.Stops.leads ?_ leads rfl
    obtain ⟨exchange, member, stops⟩ := stops
    rcases List.mem_append.mp member with member | member
    · exact .inr (ih ⟨exchange, member, stops⟩)
    · obtain rfl := List.mem_singleton.mp member
      left
      cases call with
      | stop timeout => exact ⟨timeout, List.mem_cons_self⟩
      | dispose => exact ⟨_, List.mem_cons_self⟩
      | _ => cases stops

/-- Whoever has been called to stop is gone, in the last phase, once everything is at rest. -/
theorem World.Converses.phase {allowed : World → Prop}
    {stage : Site → List Task → List Task → Prop} {start world : World}
    {exchanges : List (Call × Report)} (service : Service allowed stage)
    (invariant : CrashFreeInvariant start)
    (resting : AllAnswered stage start) (converses : start.Converses allowed exchanges world)
    (stops : ∃ exchange ∈ exchanges, exchange.1.stops = true) :
    world.depot.phase = .stopped := by
  -- At rest a courier that was stopped is gone, and it went with all sealed.
  obtain ⟨invariant', resting'⟩ := converses.rests service invariant resting
  have stopped := converses.stopped service invariant resting stops
  exact (invariant'.retired (resting'.available.gone stopped)).phase

section Start

variable {settings : Settings} (remote : settings.isRemote = true) (threshold : Threshold)
  (transportName sinkName : String) (wall : Timestamp) {script : Script}

include remote in
/-- Before anything has happened the courier is at its desk. -/
theorem Depot.site_create :
    (Depot.create settings threshold transportName sinkName wall script).site =
      ⟨false, false, .desk, .none, true, []⟩ := by
  simp [site, create, remote]

include remote in
/-- Before anything has happened a courier without a thread can be asked anything. -/
theorem AllAnswered.initial : AllAnswered Unstaffed
    (.initial (.create settings threshold transportName sinkName wall script)) where
  answered := by simp
  available := by
    -- The courier is at its desk, and nobody has called.
    refine ⟨fun _ asking => ?_, rfl, rfl, by simp [Depot.create]⟩
    rw [World.initial, Depot.site_create remote]
    exact .serving asking

include remote in
/-- A courier that has been started can be asked anything, and nothing else has happened. -/
theorem Staffed.started (returns : script.Returns) (supplies : script.Supplies) {started : World}
    (proceeds : ((World.initial (.create settings threshold transportName sinkName wall
      script)).called .start).Proceeds World.Timely started) (rest : started.AtRest) :
    CrashFreeInvariant started ∧ AllAnswered Staffed started ∧ started.answer? = some true ∧
      started.depot.bare =
        (Depot.create settings threshold transportName sinkName wall script).bare := by
  -- The call to start is served by a courier that is about to begin.
  have serving : Serving Staffed [] (.ofTasks [.start]) ((World.initial
      (.create settings threshold transportName sinkName wall script)).called .start) := by
    refine ⟨rfl, by simp, ?_⟩
    have opening : Staffed (Depot.create settings threshold transportName sinkName wall script).site
        [.begin, .release, .exit] [.start] := by
      rw [Depot.site_create remote]
      exact .opening (.inl rfl)
    exact opening
  have invariant := (CrashFreeInvariant.initial remote threshold transportName sinkName wall returns
    supplies).step
    (.call _ .start)
  obtain ⟨invariant, caller, serving, promise, leads⟩ := serving.run service invariant proceeds
  obtain ⟨resting, done, answered⟩ := serving.rest service rest
  refine ⟨invariant, resting, answered.trans promise, ?_⟩
  rw [done] at leads
  exact congrArg Bench.depot (leads.eq_of_done rfl)

end Start

/-- Without a thread every call is answered, one after the other. -/
theorem World.Converses.exists_alone {start : World} (invariant : CrashFreeInvariant start)
    (resting : AllAnswered Unstaffed start) (calls : List Call)
    (others : ∀ call ∈ calls, call ≠ .start) :
    ∃ exchanges world, start.Converses (fun _ => True) exchanges world ∧
      exchanges.map Prod.fst = calls := by
  -- The calls are made one after the other, and each comes to an end.
  induction calls using List.reverseRecOn with
  | nil => exact ⟨[], start, .nil, rfl⟩
  | append_singleton calls call ih =>
    obtain ⟨exchanges, world, converses, same⟩ := ih fun other member =>
      others other (List.mem_append_left _ member)
    have other := others call (List.mem_append_right _ List.mem_cons_self)
    obtain ⟨invariant, resting⟩ := converses.rests Unstaffed.service invariant resting
    obtain ⟨rested, proceeds, rest⟩ :=
      (resting.called other).ends (invariant.step (.call world call))
    exact ⟨_, rested, converses.call call other proceeds rest, by simp [same]⟩

/-- A courier without a thread and one on its thread agree. Without a thread, any calls can be made
one after the other, each of which comes to rest, also those made after the courier was stopped. A
courier that is started first, with a thread that can be had, answers yes to that. As long as less
waits than makes a batch, the timer is not due, and the thread ends before whoever waits for it
gives up, the same calls make it hand over the same payloads with the same times, show and tell the
same on the console, count the same, leave as many events waiting and answer the same after every
call. Both end up stopped. -/
theorem inline_agrees_with_threaded {settings : Settings} (remote : settings.isRemote = true)
    (threshold : Threshold) (transportName sinkName : String) (wall other : Timestamp)
    {script : Script} (returns : script.Returns) (supplies : script.Supplies) :
    let alone := World.initial (.create settings threshold transportName sinkName wall script)
    let fresh := World.initial (.create settings threshold transportName sinkName other script)
    (∀ calls : List Call, (∀ call ∈ calls, call ≠ .start) →
      ∃ exchanges world, alone.Converses (fun _ => True) exchanges world ∧
        exchanges.map Prod.fst = calls) ∧
    ∀ started, (fresh.called .start).Proceeds World.Timely started → started.AtRest →
      started.answer? = some true ∧
      ∀ exchanges inline, alone.Converses (fun _ => True) exchanges inline →
        ∀ exchanges' threaded, started.Converses World.Timely exchanges' threaded →
          exchanges.map Prod.fst = exchanges'.map Prod.fst →
            exchanges = exchanges' ∧ ((∃ exchange ∈ exchanges, exchange.1.stops = true) →
              inline.depot.phase = .stopped ∧ threaded.depot.phase = .stopped) := by
  intro alone fresh
  have invariant : CrashFreeInvariant alone :=
    .initial remote threshold transportName sinkName wall returns supplies
  have resting : AllAnswered Unstaffed alone :=
    .initial remote threshold transportName sinkName wall
  refine ⟨World.Converses.exists_alone invariant resting, fun started proceeds rest => ?_⟩
  obtain ⟨invariant', resting', answer, bare⟩ :=
    Staffed.started remote threshold transportName sinkName other returns supplies proceeds rest
  refine ⟨answer, fun exchanges inline converses exchanges' threaded converses' calls => ?_⟩
  -- Nothing but the time of day tells the two at the start.
  have same : alone.depot.bare = started.depot.bare := bare.symm ▸ rfl
  obtain ⟨rfl, _⟩ := converses.agree Unstaffed.service Staffed.service invariant invariant' resting
    resting' same converses' calls
  refine ⟨rfl, fun stops => ⟨?_, ?_⟩⟩
  · exact converses.phase Unstaffed.service invariant resting stops
  · exact converses'.phase Staffed.service invariant' resting' stops

namespace World

/-- One call after the other, as long as each comes to rest within a number of steps. -/
def converse (fuel : Nat) : List Call → List (Call × Report) → World →
    Option (List (Call × Report) × World)
  | [], exchanges, world => some (exchanges, world)
  | call :: calls, exchanges, world =>
    let rested := (world.called call).settle fuel
    if call ≠ .start ∧ rested.isAtRest then
      rested.converse fuel calls (exchanges ++ [(call, rested.report)])
    else none

variable {start world : World}

/-- Calls that are made like this are a conversation. -/
theorem converses_of_converse {fuel : Nat} {calls : List Call}
    {exchanges exchanges' : List (Call × Report)} {last : World}
    (before : start.Converses Timely exchanges world)
    (conversed : world.converse fuel calls exchanges = some (exchanges', last)) :
    start.Converses Timely exchanges' last ∧
      exchanges'.map Prod.fst = exchanges.map Prod.fst ++ calls := by
  -- Each call settles before the next one is made.
  induction calls generalizing world exchanges with
  | nil =>
    cases conversed
    exact ⟨before, by simp⟩
  | cons call calls ih =>
    simp only [converse] at conversed
    split at conversed
    · rename_i rested
      obtain ⟨converses, same⟩ := ih (before.call call rested.1 (proceeds_settle fuel _)
        (atRest_of_isAtRest rested.2)) conversed
      exact ⟨converses, by simpa using same⟩
    · cases conversed

end World

/-- A transport that logs in its first send and then crashes, and that rejects the second batch,
with a sink that fails at first. -/
def Script.moody : Script :=
  ⟨[⟨[], [(.info, "busy")], false, .crashed (.text "boom")⟩,
    ⟨[], [], false, .failed (.other "rejected")⟩], [.failed (.other "full")], [], []⟩

/-- A world in which the courier was started under such a script, and has come to rest. -/
def World.readied : World :=
  ((World.initial (.plain .moody)).called .start).settle 64

/-- Calls before the courier is stopped and afterwards. -/
def Call.mixed : List Call :=
  [.submit default, .flush, .flush, .submit default, .stop (.ofSeconds 5), .submit default, .flush,
    .dispose]

/-- Through a crash, an event that the transport logged, a rejected batch and a sink that fails both
couriers go on in the same way, until both are stopped and even later. -/
theorem inline_agrees_with_threaded_moody :
    ∃ exchanges inline threaded,
      (World.initial (.plain .moody)).Converses (fun _ => True) exchanges inline ∧
        World.readied.Converses World.Timely exchanges threaded ∧
        exchanges.map Prod.fst = Call.mixed ∧
        exchanges.map (·.2.answer) = [none, some true, some true, none, some true, none, some false,
          some true] ∧
        inline.depot.phase = .stopped ∧ threaded.depot.phase = .stopped ∧
        threaded.depot.thread = .exited ∧ threaded.depot.tally.batchesFailed = 2 ∧
        threaded.depot.tally.batchesSent = 1 := by
  -- The threaded conversation is run as a whole, and the other one exists by the theorem.
  have ran : ((World.readied.converse 64 Call.mixed []).map fun conversation =>
      (conversation.1.map (·.2.answer), conversation.2.depot.thread,
        conversation.2.depot.tally.batchesFailed, conversation.2.depot.tally.batchesSent)) =
      some ([none, some true, some true, none, some true, none, some false, some true], .exited,
        2, 1) := by
    decide +kernel
  obtain ⟨⟨exchanges', threaded⟩, conversed, seen⟩ := Option.map_eq_some_iff.mp ran
  simp only [Prod.mk.injEq] at seen
  obtain ⟨answers, thread, failed, delivered⟩ := seen
  obtain ⟨converses', calls'⟩ := World.converses_of_converse .nil conversed
  obtain ⟨exist, agree⟩ := @inline_agrees_with_threaded .plain rfl default "transport" "sink"
    default default .moody (by simp [Script.Returns, Script.moody])
    (by simp [Script.Supplies, Script.moody])
  obtain ⟨exchanges, inline, converses, calls⟩ := exist Call.mixed (by decide)
  obtain ⟨-, agree⟩ := agree World.readied (World.proceeds_settle 64 _)
    (World.atRest_of_isAtRest (by decide +kernel))
  obtain ⟨rfl, ends⟩ := agree exchanges inline converses exchanges' threaded converses'
    (calls.trans calls'.symm)
  obtain ⟨inlineEnd, threadedEnd⟩ := ends (by
    have member : Call.dispose ∈ exchanges.map Prod.fst := by rw [calls]; decide
    obtain ⟨exchange, among, same⟩ := List.mem_map.mp member
    exact ⟨exchange, among, by rw [same]; rfl⟩)
  exact ⟨exchanges, inline, threaded, converses, converses', calls, answers, inlineEnd, threadedEnd,
    thread, failed, delivered⟩

end LogCourier
