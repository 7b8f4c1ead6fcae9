import LogCourier.Proofs.Depot.Custody

/-!
Returning: where no call to the sink crashes, nobody ever gives up.

A crash of the transport is caught where it happens, and so is one while an event is shown at once.
Where no thread is refused, the courier is never lost.
-/

namespace LogCourier

namespace Script

/-- No call to the sink crashes. -/
def Returns (script : Script) : Prop :=
  ∀ outcome ∈ script.writes ++ script.flushes, ∀ crash, outcome ≠ .crashed crash

namespace Returns

variable {script : Script}

/-- The first of several outcomes, or of none, is no crash if none of them is. -/
theorem head {outcomes : List Outcome}
    (each : ∀ outcome ∈ outcomes, ∀ crash, outcome ≠ .crashed crash) (crash : Crash) :
    outcomes.headD .ok ≠ .crashed crash := by
  -- Where no outcome is left, the call succeeds.
  cases outcomes with
  | nil => simp
  | cons outcome rest => exact each outcome List.mem_cons_self crash

/-- The next write to the sink does not crash. -/
theorem nextWrite (returns : script.Returns) (crash : Crash) :
    script.nextWrite.2 ≠ .crashed crash :=
  head (fun outcome member => returns outcome (List.mem_append_left _ member)) crash

/-- The next flush of the sink does not crash. -/
theorem nextFlush (returns : script.Returns) (crash : Crash) :
    script.nextFlush.2 ≠ .crashed crash :=
  head (fun outcome member => returns outcome (List.mem_append_right _ member)) crash

/-- What is left of calls that do not crash does not crash. -/
theorem mono {later : Script} (returns : script.Returns)
    (writes : ∀ outcome ∈ later.writes, outcome ∈ script.writes)
    (flushes : ∀ outcome ∈ later.flushes, outcome ∈ script.flushes) : later.Returns := by
  -- The outcomes that are left were among those of the script.
  intro outcome member
  rcases List.mem_append.mp member with write | flush
  · exact returns outcome (List.mem_append_left _ (writes outcome write))
  · exact returns outcome (List.mem_append_right _ (flushes outcome flush))

end Returns

/-- A thread can be had whenever one is asked for. -/
def Supplies (script : Script) : Prop :=
  ∀ refusal ∈ script.threads, refusal = none

/-- The next thread is not refused. -/
theorem Supplies.nextThread {script : Script} (supplies : script.Supplies) :
    script.nextThread.2 = none := by
  unfold Script.nextThread
  -- Where no refusal is left, a thread can be had.
  cases drawn : script.threads with
  | nil => rfl
  | cons refusal rest => exact supplies refusal (by simp [drawn])

end Script

/-- Nothing makes a sink crash that did not before. -/
theorem Deed.returns {depot after : Depot} {agent next : Agent} {task : Task}
    (deed : Deed depot agent task after next) (returns : depot.script.Returns) :
    after.script.Returns := by
  -- What lies ahead only gets shorter.
  rcases deed with intake | delivery | duty
  · cases intake with
    | echo | echoFails => exact returns.mono (fun _ => List.mem_of_mem_tail) (fun _ => id)
    | _ => exact returns
  · cases delivery with
    | send => exact returns.mono (fun _ => id) (fun _ => id)
    | «show» | showFails | showCrashes =>
      exact returns.mono (fun _ => List.mem_of_mem_tail) (fun _ => id)
    | flushSink | flushFails | flushCrashes =>
      exact returns.mono (fun _ => id) (fun _ => List.mem_of_mem_tail)
    | _ => exact returns
  · cases duty with
    | reportLosses =>
      unfold Depot.reportLosses
      split <;> exact returns
    | _ => exact returns

/-- Nothing refuses a thread where none was refused before. -/
theorem Deed.supplies {depot after : Depot} {agent next : Agent} {task : Task}
    (deed : Deed depot agent task after next) (supplies : depot.script.Supplies) :
    after.script.Supplies := by
  -- Only hiring asks for a thread.
  have fewer : ∀ refusal ∈ depot.script.nextThread.1.threads, refusal = none :=
    fun refusal member => supplies refusal (List.mem_of_mem_tail member)
  rcases deed with intake | delivery | duty
  · cases intake <;> exact supplies
  · cases delivery <;> exact supplies
  · cases duty with
    | hire | hireLost => exact fewer
    | reportLosses =>
      unfold Depot.reportLosses
      split <;> exact supplies
    | _ => exact supplies

/-- Where a thread can be had the courier is not lost. -/
theorem Deed.manned {depot after : Depot} {agent next : Agent} {task : Task}
    (deed : Deed depot agent task after next) (supplies : depot.script.Supplies)
    (manned : depot.isManned = true) : after.isManned = true := by
  -- It could be lost only with a thread that is refused.
  refine eq_true_of_ne_false fun lost => ?_
  exact (deed.loses manned lost).2 supplies.nextThread

/-- Nobody gives up where the sink does not crash. -/
theorem Deed.unharmed {depot after : Depot} {agent next : Agent} {task : Task}
    (deed : Deed depot agent task after next) (returns : depot.script.Returns) :
    next.crash = agent.crash := by
  -- Only the sink makes anybody give up, and here it returns.
  rcases deed with intake | delivery | duty
  · obtain ⟨_, _, same, _⟩ := intake.pushes
    exact same
  · cases delivery with
    | showCrashes _ _ crash drawn => exact absurd drawn (returns.nextWrite crash)
    | flushCrashes crash drawn => exact absurd drawn (returns.nextFlush crash)
    | _ => rfl
  · obtain ⟨_, _, same, _⟩ := duty.pushes
    exact same

end LogCourier
