import LogCourier.Proofs.Depot.Onward
import LogCourier.Proofs.Depot.Outcomes

/-!
The banner: whoever asks for it, and in whatever order, one of them shows it for each time it is
armed.

Asking takes two steps, a look whether the banner is armed and a claim that disarms it. Others may
ask or arm it in between.
-/

namespace LogCourier

/-- How far somebody has come who asks for the banner. -/
inductive Inquiry : Agent → Prop where
  | looks : Inquiry (.ofTasks [.checkBanner])
  | claims : Inquiry (.ofTasks [.claimBanner])
  /-- The banner is this one's to show. -/
  | warns : Inquiry ⟨warn .disabled, false, some true, none⟩
  | tells : Inquiry ⟨[.tell .disabled], false, some true, none⟩
  | won : Inquiry ⟨[], false, some true, none⟩
  | lost : Inquiry ⟨[], false, some false, none⟩

/-- The number of those to whom it was answered that the banner is theirs to show. -/
def winners (askers : List Agent) : Nat :=
  askers.countP fun asker => asker.answer = some true

/-- How often something is still to be done by those who ask. -/
def owing (task : Task) (askers : List Agent) : Nat :=
  (askers.flatMap Agent.tasks).count task

@[simp] theorem winners_append (left right : List Agent) :
    winners (left ++ right) = winners left + winners right :=
  List.countP_append

@[simp] theorem owing_append (task : Task) (left right : List Agent) :
    owing task (left ++ right) = owing task left + owing task right := by
  simp [owing]

/-- When everybody is done, nothing is still to be done. -/
theorem owing_of_done {askers : List Agent} (task : Task)
    (done : ∀ asker ∈ askers, asker.tasks = []) : owing task askers = 0 := by
  rw [owing, List.flatMap_eq_nil_iff.mpr done, List.count_nil]

/-- A depot, and everybody who asks it for the banner. -/
structure Crowd where
  depot : Depot
  askers : List Agent

/-- The crowds that can come about from a depot, when the banner is armed a number of times. -/
inductive Crowd.Run (start : Depot) : Nat → Crowd → Prop where
  | begin : Run start 0 ⟨start, []⟩
  /-- One more asks. -/
  | ask {arms : Nat} {depot : Depot} {askers : List Agent}
      (before : Run start arms ⟨depot, askers⟩) :
      Run start arms ⟨depot, askers ++ [.ofTasks [.checkBanner]]⟩
  /-- Somebody arms the banner. -/
  | arm {arms : Nat} {depot after : Depot} {askers : List Agent} {done : Agent} (choice : Choice)
      (before : Run start arms ⟨depot, askers⟩)
      (acted : (Agent.ofTasks [.arm]).step choice depot = some (after, done)) :
      Run start (arms + 1) ⟨after, askers⟩
  /-- One of those who ask takes a step. -/
  | act {arms : Nat} {depot after : Depot} {left right : List Agent} {agent next : Agent}
      (choice : Choice) (before : Run start arms ⟨depot, left ++ [agent] ++ right⟩)
      (acted : agent.step choice depot = some (after, next)) :
      Run start arms ⟨after, left ++ [next] ++ right⟩

/-- What one step of an inquiry does to the banner, to the count of warnings and to the journal. -/
structure Inquires (depot after : Depot) (agent next : Agent) : Prop where
  inquiry : Inquiry next
  /-- Whoever is answered that the banner is theirs has disarmed it. -/
  banner : winners [next] + after.armed.toNat = winners [agent] + depot.armed.toNat
  /-- As long as the banner is armed nobody is answered. -/
  silent : after.armed = true → depot.armed = true ∧ next.answer = agent.answer
  warned : ∃ more, after.tally.warnings = depot.tally.warnings + UInt64.ofNat more ∧
    more + owing (.count .warning) [next] + winners [agent] =
      owing (.count .warning) [agent] + winners [next]
  told : after.journal.count (.told .disabled) + owing (.tell .disabled) [next] + winners [agent] =
    depot.journal.count (.told .disabled) + owing (.tell .disabled) [agent] + winners [next]

/-- Whoever asks comes further by a step. -/
theorem Inquiry.inquires {depot after : Depot} {agent next : Agent} {choice : Choice}
    (inquiry : Inquiry agent) (acted : agent.step choice depot = some (after, next)) :
    Inquires depot after agent next := by
  -- The look and the claim depend on the banner, and nothing else does.
  cases inquiry with
  | looks =>
    cases armed : depot.armed with
    | true =>
      simp only [Agent.step, Agent.ofTasks, Depot.act, armed, if_true] at acted
      cases acted
      exact ⟨.claims, rfl, fun _ => ⟨armed, rfl⟩, ⟨0, by simp, rfl⟩, rfl⟩
    | false =>
      simp only [Agent.step, Agent.ofTasks, Depot.act, armed, Bool.false_eq_true, if_false] at acted
      cases acted
      exact ⟨.lost, rfl, by simp [armed], ⟨0, by simp, rfl⟩, rfl⟩
  | claims =>
    simp only [Agent.step, Agent.ofTasks, Depot.act, Depot.claimBanner] at acted
    cases armed : depot.armed with
    | true =>
      simp only [armed, if_true] at acted
      cases acted
      exact ⟨.warns, by simp [armed, winners, Agent.ofTasks, Agent.push, Agent.reply], by simp,
        ⟨0, by simp, rfl⟩, rfl⟩
    | false =>
      -- Others have claimed the banner since the look.
      simp only [armed, Bool.false_eq_true, if_false] at acted
      cases acted
      exact ⟨.lost, by simp [armed, winners, Agent.ofTasks, Agent.reply], by simp,
        ⟨0, by simp, rfl⟩, rfl⟩
  | warns =>
    simp only [Agent.step, warn, Depot.act] at acted
    cases acted
    exact ⟨.tells, rfl, fun armed => ⟨armed, rfl⟩, ⟨1, rfl, rfl⟩, rfl⟩
  | tells =>
    simp only [Agent.step, Depot.act] at acted
    cases acted
    refine ⟨.won, rfl, fun armed => ⟨armed, rfl⟩, ⟨0, by simp [Depot.tell, Depot.note], rfl⟩, ?_⟩
    simp [Depot.tell, Depot.note, owing, winners]
  | won => cases acted
  | lost => cases acted

namespace Crowd

/-- There is a winner for each time that the banner was armed and claimed, and each warns once. -/
structure WinnersWarn (start : Depot) (arms : Nat) (crowd : Crowd) : Prop where
  inquiries : ∀ asker ∈ crowd.askers, Inquiry asker
  few : winners crowd.askers + crowd.depot.armed.toNat ≤ start.armed.toNat + arms
  /-- Only arming it again while it is armed can be in vain. -/
  exact : arms = 0 → winners crowd.askers + crowd.depot.armed.toNat = start.armed.toNat
  silent : arms = 0 → crowd.depot.armed = true → ∀ asker ∈ crowd.askers, asker.answer = none
  warned : ∃ counted, crowd.depot.tally.warnings = start.tally.warnings + UInt64.ofNat counted ∧
    counted + owing (.count .warning) crowd.askers = winners crowd.askers
  told : crowd.depot.journal.count (.told .disabled) + owing (.tell .disabled) crowd.askers =
    start.journal.count (.told .disabled) + winners crowd.askers

namespace WinnersWarn

variable {start depot after : Depot} {arms : Nat} {askers left right : List Agent}

/-- Whoever begins to ask has won nothing yet. -/
theorem ask (fair : WinnersWarn start arms ⟨depot, askers⟩) :
    WinnersWarn start arms ⟨depot, askers ++ [.ofTasks [.checkBanner]]⟩ := by
  obtain ⟨inquiries, few, exact, silent, ⟨counted, warnings, owed⟩, told⟩ := fair
  -- Whoever has only come adds nothing to any of the sums.
  have nothing : winners [.ofTasks [.checkBanner]] = 0 := rfl
  have unwarned : owing (.count .warning) [.ofTasks [.checkBanner]] = 0 := rfl
  have untold : owing (.tell .disabled) [.ofTasks [.checkBanner]] = 0 := rfl
  refine ⟨List.forall_mem_append.mpr ⟨inquiries, List.forall_mem_singleton.mpr .looks⟩, ?_, ?_,
    fun once armed => List.forall_mem_append.mpr
      ⟨silent once armed, List.forall_mem_singleton.mpr rfl⟩, ⟨counted, warnings, ?_⟩, ?_⟩
  all_goals simpa only [winners_append, owing_append, nothing, unwarned, untold, Nat.add_zero]

/-- Arming the banner makes room for one winner more. -/
theorem arm {done : Agent} {choice : Choice} (fair : WinnersWarn start arms ⟨depot, askers⟩)
    (acted : (Agent.ofTasks [.arm]).step choice depot = some (after, done)) :
    WinnersWarn start (arms + 1) ⟨after, askers⟩ := by
  obtain ⟨inquiries, few, exact, silent, warned, told⟩ := fair
  cases acted
  refine ⟨inquiries, ?_, by simp, by simp, warned, told⟩
  -- It may have been armed already, and then it makes room for nobody.
  have less := Nat.zero_le depot.armed.toNat
  simp only [Bool.toNat_true] at few ⊢
  omega

/-- A step of one who asks keeps it fair. -/
theorem act {agent next : Agent} {choice : Choice}
    (fair : WinnersWarn start arms ⟨depot, left ++ [agent] ++ right⟩)
    (acted : agent.step choice depot = some (after, next)) :
    WinnersWarn start arms ⟨after, left ++ [next] ++ right⟩ := by
  obtain ⟨inquiries, few, exact, silent, ⟨counted, warnings, owed⟩, told⟩ := fair
  simp only [List.forall_mem_append, List.forall_mem_singleton] at inquiries silent
  obtain ⟨⟨before, own⟩, behind⟩ := inquiries
  obtain ⟨inquiry, banner, kept, ⟨more, word, warned⟩, shown⟩ := own.inquires acted
  -- All the others add to the sums what they did before.
  simp only [winners_append, owing_append] at few exact owed told
  refine ⟨?_, ?_, fun once => ?_, fun once armed => ?_, ⟨counted + more, ?_, ?_⟩, ?_⟩
  · simp only [List.forall_mem_append, List.forall_mem_singleton]
    exact ⟨⟨before, inquiry⟩, behind⟩
  · simp only [winners_append]
    omega
  · have same := exact once
    simp only [winners_append]
    omega
  · -- Had anybody claimed the banner it would not be armed.
    obtain ⟨armed', unanswered⟩ := kept armed
    obtain ⟨⟨before, own⟩, behind⟩ := silent once armed'
    simp only [List.forall_mem_append, List.forall_mem_singleton]
    exact ⟨⟨before, unanswered.trans own⟩, behind⟩
  · rw [word, warnings, UInt64.ofNat_add, UInt64.add_assoc]
  · simp only [winners_append, owing_append]
    omega
  · simp only [winners_append, owing_append]
    omega

end WinnersWarn

/-- Every crowd that comes about is fair. -/
theorem Run.fair {start : Depot} {arms : Nat} {crowd : Crowd} (run : Run start arms crowd) :
    WinnersWarn start arms crowd := by
  -- Induction on the run: each kind of change has its own lemma.
  induction run with
  | begin =>
    exact ⟨by simp, Nat.le_of_eq (by simp [winners]), by simp [winners], by simp,
      ⟨0, by simp, rfl⟩, rfl⟩
  | ask _ ih => exact ih.ask
  | arm _ _ acted ih => exact ih.arm acted
  | act _ _ acted ih => exact ih.act acted

/-- One of a crowd has won, all others have not, and the banner was shown once. -/
structure OneWinner (start : Depot) (crowd : Crowd) : Prop where
  winner : winners crowd.askers = 1
  answered : ∀ asker ∈ crowd.askers, asker.answer ≠ none
  warnings : crowd.depot.tally.warnings = start.tally.warnings + 1
  told : crowd.depot.journal.count (.told .disabled) = start.journal.count (.told .disabled) + 1
  disarmed : crowd.depot.armed = false

/-- Once everybody who asked is done, a banner that was armed once has been shown once. -/
theorem Run.served {start : Depot} {crowd : Crowd} (run : Run start 0 crowd)
    (armed : start.armed = true) (asked : crowd.askers ≠ [])
    (done : ∀ asker ∈ crowd.askers, asker.tasks = []) : OneWinner start crowd := by
  obtain ⟨inquiries, _, exact, silent, ⟨counted, warnings, owed⟩, told⟩ := run.fair
  have answered : ∀ asker ∈ crowd.askers, asker.answer ≠ none := by
    intro asker member
    have idle := done asker member
    cases inquiries asker member <;> first | exact Option.some_ne_none _ | cases idle
  -- An armed banner would have left somebody without an answer.
  have disarmed : crowd.depot.armed = false := by
    obtain ⟨asker, member⟩ := List.exists_mem_of_ne_nil _ asked
    exact Bool.eq_false_iff.mpr fun still => answered asker member (silent rfl still asker member)
  have winner : winners crowd.askers = 1 := by simpa [disarmed, armed] using exact rfl
  rw [owing_of_done _ done, Nat.add_zero, winner] at owed told
  exact ⟨winner, answered, by rw [warnings, owed]; rfl, told, disarmed⟩

end Crowd

/-- No score makes or loses a banner: it is armed, about to be shown, or has been shown. -/
theorem Scoring.banner {before after : Depot} {old new : List Task}
    (scoring : Scoring before after old new) :
    after.results.count (.told .disabled) + new.count (.tell .disabled) + after.armed.toNat =
      before.results.count (.told .disabled) + old.count (.tell .disabled) +
        before.armed.toNat := by
  -- A claim moves it on, and so does the show; the other answers are none of its business.
  cases scoring with
  | fail answer failure told _ banner =>
    simp [told, banner, (Occurrence.unrecorded (.inl failure)).banner]
  | crash answer uncaught told _ banner =>
    simp [told, banner, (Occurrence.unrecorded (.inr uncaught)).banner]
  | claim armed told _ banner => simp [told, banner, armed]
  | announce told _ banner => simp [told, banner, Nat.add_right_comm]
  | still told _ banner | taken _ told _ banner | flushed told _ banner
    | deliver _ told _ banner | giveUp _ _ _ told _ banner | count _ told _ banner =>
    simp [told, banner]

/-- Whatever is scored, nobody arms the banner. -/
theorem Scoring.armed {before after : Depot} {old new : List Task}
    (scoring : Scoring before after old new) (armed : after.armed = true) :
    before.armed = true := by
  -- Only the submission that claims the banner touches the flag, and it disarms it.
  cases scoring with
  | claim _ _ _ banner => rw [banner] at armed; cases armed
  | still _ _ banner | taken _ _ _ banner | flushed _ _ banner | fail _ _ _ _ banner
    | crash _ _ _ _ banner | deliver _ _ _ banner | giveUp _ _ _ _ _ banner
    | count _ _ _ banner | announce _ _ banner =>
    rwa [← banner]

section Deeds

variable {depot after : Depot} {agent next : Agent} {task : Task}

/-- Only a submission is told of as such, and it leads to what is to be done with its event. -/
theorem Deed.submits (deed : Deed depot agent task after next) {event : Event}
    (submitted : .submitted event ∈ after.journal) :
    .submitted event ∈ depot.journal ∨ next.tasks = depot.acceptance event ++ agent.tasks := by
  -- All other tasks write down something else, or nothing.
  rcases deed with intake | delivery | duty
  · cases intake with
    | submit _ other =>
      rcases List.mem_cons.mp submitted with same | earlier
      · cases same
        exact .inr rfl
      · exact .inl earlier
    | _ => exact .inl (by simpa [Depot.note, Depot.tell, Depot.count] using submitted)
  · cases delivery <;> exact .inl (by simpa [Depot.note, Depot.enter] using submitted)
  · cases duty with
    | reportLosses =>
      refine .inl ?_
      unfold Depot.reportLosses at submitted
      split at submitted <;> simpa [Depot.tell, Depot.note] using submitted
    | _ =>
      exact .inl (by
        simpa [Depot.note, Depot.enter, Depot.tell, Depot.release, Depot.lose] using submitted)

/-- As long as the banner is armed, whoever asks for it goes on to ask. -/
theorem Deed.asks (deed : Deed depot agent task after next)
    (orderly : BatchlessBelow (task :: agent.tasks)) (armed : after.armed = true)
    (before : depot.armed = true) {banner : Task} (kind : banner.isBanner = true)
    (asked : banner ∈ task :: agent.tasks) : ∃ new ∈ next.tasks, new.isBanner = true := by
  rcases List.mem_cons.mp asked with rfl | below
  · -- A look at an armed banner leads to a claim, and a claim leaves nothing armed.
    cases banner <;> simp only [Task.isBanner, Bool.false_eq_true] at kind
    case checkBanner =>
      rcases deed with intake | delivery | duty
      · cases intake with
        | seeBanner => exact ⟨.claimBanner, by simp [Agent.push], rfl⟩
        | seeNothing unarmed => rw [before] at unarmed; cases unarmed
      · cases delivery
      · cases duty
    case claimBanner =>
      rcases deed with intake | delivery | duty
      · cases intake <;> cases armed
      · cases delivery
      · cases duty
  · -- Nothing is handed in below a task at which an agent may give up.
    rcases deed.leaves orderly with ⟨pushed, left⟩ | ⟨_, outer⟩
    · exact ⟨banner, by simp [left, below], kind⟩
    · have inner : banner.isInner = true := by cases banner <;> first | rfl | cases kind
      rw [(outer banner below).1] at inner
      cases inner

end Deeds

/-- Whoever submitted anything while the banner is armed is still asking for it. -/
def World.Greeted (world : World) : Prop :=
  ∀ event, .submitted event ∈ world.depot.journal → world.depot.armed = true →
    ∃ task ∈ world.tasks, task.isBanner = true

/-- A turn keeps it, when there is no endpoint. -/
theorem Turn.greeted {world next : World} (turn : Turn world next) (tallied : OutcomesTallied world)
    (disabled : world.depot.settings.isRemote = false) (greeted : world.Greeted) :
    next.Greeted := by
  intro event submitted armed
  obtain ⟨_, _, _, _, _, _, scoring⟩ :=
    turn.scoring tallied.exposed.suits tallied.orderly tallied.scored.unarming
  -- The banner was armed before, so that whoever had submitted anything was asking.
  have before := scoring.armed armed
  cases turn with
  | act left right agent after task split joined deed =>
    have own : (∃ new ∈ after.tasks, new.isBanner = true) →
        ∃ new ∈ next.tasks, new.isBanner = true := by
      rintro ⟨new, member, kind⟩
      exact ⟨new, by rw [World.tasks_of_split joined]; simp [member], kind⟩
    rcases deed.submits submitted with earlier | accepted
    · obtain ⟨banner, member, kind⟩ := greeted event earlier before
      rw [World.tasks_of_split split] at member
      simp only [List.mem_append] at member
      rcases member with (above | acting) | below
      · exact ⟨banner, by rw [World.tasks_of_split joined]; simp [above], kind⟩
      · exact own (deed.asks (tallied.orderly _ (Custody.agent_mem split)) armed before kind acting)
      · exact ⟨banner, by rw [World.tasks_of_split joined]; simp [below], kind⟩
    · -- Without an endpoint every submission asks first.
      exact own ⟨.checkBanner, by simp [accepted, Depot.acceptance, disabled], rfl⟩
  | call call same joined =>
    rw [same] at submitted
    obtain ⟨banner, member, kind⟩ := greeted event submitted before
    exact ⟨banner, by rw [World.tasks_of_joined joined]; exact List.mem_append_left _ member, kind⟩
  | outside now wall permits elsewhere same =>
    rw [elsewhere] at submitted
    simpa [World.tasks, same] using greeted event submitted before

/-- There is one banner without an endpoint, and none with one. -/
structure OneBanner (world : World) : Prop where
  tallied : OutcomesTallied world
  once : world.depot.results.count (.told .disabled) +
    (outstanding world.tasks).count (.tell .disabled) + world.depot.armed.toNat =
      (!world.depot.settings.isRemote).toNat
  greeted : world.depot.settings.isRemote = false → world.Greeted

namespace OneBanner

/-- Before anything has happened the banner is armed unless there is an endpoint. -/
theorem initial (settings : Settings) (threshold : Threshold) (transportName sinkName : String)
    (wall : Timestamp) (script : Script) :
    OneBanner (.initial (.create settings threshold transportName sinkName wall script)) where
  tallied := .initial ..
  -- There is nothing outstanding but the courier's beginning.
  once := by simp [Depot.create, Depot.results, Task.isOutstanding]
  greeted _ event submitted := by simp [Depot.create] at submitted

/-- A turn leaves it so. -/
theorem turn {world next : World} (bannered : OneBanner world) (turn : Turn world next) :
    OneBanner next := by
  obtain ⟨tallied, once, greeted⟩ := bannered
  refine ⟨tallied.turn turn, ?_, fun disabled =>
    turn.greeted tallied (turn.settings ▸ disabled) (greeted (turn.settings ▸ disabled))⟩
  -- What one agent settles or leaves is scored, and the others have what they had.
  obtain ⟨upper, old, new, lower, before, behind, scoring⟩ :=
    turn.scoring tallied.exposed.suits tallied.orderly tallied.scored.unarming
  have kept := scoring.banner
  rw [before] at once
  rw [behind, turn.settings, ← once]
  simp only [List.count_append]
  omega

/-- It holds of every world that comes about from one of which it holds. -/
theorem reachable {start world : World} (bannered : OneBanner start)
    (run : World.Reachable start world) : OneBanner world :=
  run.kept bannered turn

/-- What was told of the banner stands in the journal. -/
theorem told {world : World} (bannered : OneBanner world) :
    world.depot.journal.count (.told .disabled) +
      (outstanding world.tasks).count (.tell .disabled) + world.depot.armed.toNat =
        (!world.depot.settings.isRemote).toNat := by
  -- The results are that part of the journal in which the banner is told.
  have same : world.depot.results.count (.told .disabled) =
      world.depot.journal.count (.told .disabled) := List.count_filter rfl
  rw [← same]
  exact bannered.once

end OneBanner

/-- However many ask for the banner, and in whatever order their looks and claims come, no more of
them win it than it was armed times. When it was armed once and everybody who asked is done, one of
them has won it and all others have not, one warning was counted, the banner was shown once, and it
is not armed any more. Hence in every world that comes about with an endpoint it is never shown, and
without one at most once, and once if anything was submitted and all calls are done. -/
theorem banner_shown_once :
    (∀ (start : Depot) (arms : Nat) (crowd : Crowd), Crowd.Run start arms crowd →
        winners crowd.askers ≤ start.armed.toNat + arms) ∧
      (∀ (start : Depot) (crowd : Crowd), start.armed = true → Crowd.Run start 0 crowd →
        crowd.askers ≠ [] → (∀ asker ∈ crowd.askers, asker.tasks = []) → crowd.OneWinner start) ∧
      ∀ (settings : Settings) (threshold : Threshold) (transportName sinkName : String)
          (wall : Timestamp) (script : Script) (world : World),
        World.Reachable
            (.initial (.create settings threshold transportName sinkName wall script)) world →
          (settings.isRemote = true → .told .disabled ∉ world.depot.journal) ∧
          (settings.isRemote = false →
            world.depot.journal.count (.told .disabled) ≤ 1 ∧
            ((∃ event, .submitted event ∈ world.depot.journal) →
              (∀ caller ∈ world.callers, caller.tasks = []) →
                world.depot.journal.count (.told .disabled) = 1)) := by
  refine ⟨fun start arms crowd run => ?_, fun start crowd armed run asked done =>
    run.served armed asked done, fun settings threshold transportName sinkName wall script world
      run => ?_⟩
  · have few := run.fair.few
    omega
  have bannered :=
    (OneBanner.initial settings threshold transportName sinkName wall script).reachable run
  have told := bannered.told
  have same : world.depot.settings = settings := (CoreInvariant.constant run).1
  rw [same] at told
  refine ⟨fun remote => ?_, fun disabled => ⟨?_, fun ⟨event, submitted⟩ done => ?_⟩⟩
  · rw [remote, Bool.not_true, Bool.toNat_false] at told
    exact List.count_eq_zero.mp (by omega)
  · rw [disabled, Bool.not_false, Bool.toNat_true] at told
    omega
  · -- The courier never begins, so nobody is left who could still ask for it or show it.
    have abandoned :=
      (CourierlessWorld.initial disabled threshold transportName sinkName wall script).reachable run
    have left : world.tasks = Agent.courier.tasks := by
      rw [World.tasks, World.agents, List.flatMap_cons, abandoned.courier,
        List.flatMap_eq_nil_iff.mpr done, List.append_nil]
    have disarmed : world.depot.armed = false := by
      refine Bool.eq_false_iff.mpr fun armed => ?_
      obtain ⟨task, member, kind⟩ :=
        bannered.greeted (by rw [same, disabled]) event submitted armed
      rw [left] at member
      simp only [Agent.courier, Agent.ofTasks, List.mem_cons, List.not_mem_nil, or_false] at member
      rcases member with rfl | rfl | rfl <;> cases kind
    simpa [disabled, disarmed, left, Task.isOutstanding] using told

/-- A depot without an endpoint, in which the banner is armed. -/
def Depot.unconnected : Depot :=
  .create .unconnected default "transport" "sink" default .smooth

/-- Two who both looked before either of them claimed the banner. -/
def Crowd.pair : Crowd :=
  ⟨(({ Depot.unconnected with armed := false } : Depot).count .warning).tell .disabled,
    [⟨[], false, some true, none⟩, ⟨[], false, some false, none⟩]⟩

/-- They come about. -/
theorem Crowd.run_pair : Run .unconnected 0 .pair := by
  -- Both look; one claims the banner and the other comes late; the first one warns and shows it.
  have asked : Run .unconnected 0
      ⟨.unconnected, [.ofTasks [.checkBanner], .ofTasks [.checkBanner]]⟩ := .ask (.ask .begin)
  have one : Run .unconnected 0
      ⟨.unconnected, [.ofTasks [.claimBanner], .ofTasks [.checkBanner]]⟩ :=
    @Run.act _ _ _ _ [] [_] _ _ .signal asked rfl
  have both : Run .unconnected 0
      ⟨.unconnected, [.ofTasks [.claimBanner], .ofTasks [.claimBanner]]⟩ :=
    @Run.act _ _ _ _ [_] [] _ _ .signal one rfl
  have won : Run .unconnected 0
      ⟨{ Depot.unconnected with armed := false },
        [⟨warn .disabled, false, some true, none⟩, .ofTasks [.claimBanner]]⟩ :=
    @Run.act _ _ _ _ [] [_] _ _ .signal both rfl
  have lost : Run .unconnected 0
      ⟨{ Depot.unconnected with armed := false },
        [⟨warn .disabled, false, some true, none⟩, ⟨[], false, some false, none⟩]⟩ :=
    @Run.act _ _ _ _ [_] [] _ _ .signal won rfl
  have warned : Run .unconnected 0
      ⟨({ Depot.unconnected with armed := false } : Depot).count .warning,
        [⟨[.tell .disabled], false, some true, none⟩, ⟨[], false, some false, none⟩]⟩ :=
    @Run.act _ _ _ _ [] [_] _ _ .signal lost rfl
  exact @Run.act _ _ _ _ [] [_] _ _ .signal warned rfl

/-- The first of the two won; the banner was shown at the first of two submissions without an
endpoint, and with one at none of three. -/
theorem banner_shown_once_pair :
    (winners Crowd.pair.askers ≤ 1 ∧ Crowd.pair.OneWinner .unconnected) ∧
      World.unconnected.depot.journal.count (.told .disabled) = 1 ∧
        .told .disabled ∉ World.fitful.depot.journal := by
  -- Both claims of the law are used: on askers that race, and on worlds with and without an
  -- endpoint.
  obtain ⟨few, served, worlds⟩ := banner_shown_once
  refine ⟨⟨few _ _ _ Crowd.run_pair, served _ _ rfl Crowd.run_pair (by simp [Crowd.pair])
    (by simp [Crowd.pair])⟩, ?_, ?_⟩
  · exact ((worlds _ _ _ _ _ _ _ (Session.reachable_calls _ ⟨_, _⟩ [])).2 rfl).2
      ⟨Submission.event default default Settings.unconnected.origin, by decide +kernel⟩
      (by decide +kernel)
  · exact (worlds _ _ _ _ _ _ _ (World.reachable_afterCalls _ _)).1 rfl

end LogCourier
