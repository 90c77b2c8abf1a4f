import Seer.Watch.ActiveSet
import Seer.Watch.Latches

/-!
# The delay of the no-endpoints alarm

The alarm is deferred, so that a short failure of the endpoints stays quiet. The main loop
counts the seconds of one outage and starts again after every good round. The loop that
waits for a moniker counts its own rounds instead, whatever the endpoints did, so that
after a long wait a single bad round raises the alarm. Both loops run here on nominal
time: a second for each round of the first, two for each round of the main loop.
-/
namespace Seer.Watch

open Seer.Lib

/-- The no-nodes flag at one tick, with the seconds since `watch` began. -/
structure Sample where
  time : Int
  /-- Taken by the loop that waits for a moniker. -/
  waiting : Bool
  unreachable : Bool
  deriving DecidableEq

/-- The watched chain with the time of its loop and all samples, the newest first. -/
structure Timeline where
  watched : Watched := .start
  clock : Int := 0
  samples : List Sample := []

section Runs
variable (config : Config) (chain : ChainConfig)

def timedStep (line : Timeline) (event : Refreshing) : Timeline :=
  let watched := (refreshingStep config chain line.watched event).1
  match event with
  | .tick reads =>
    if line.watched.state.waiting then
      if watched.state.waiting then
        { watched := watched
          clock := line.clock + 1
          samples := ⟨line.clock + 1, true, reads.unreachable⟩ :: line.samples }
      -- The round that finds a moniker leaves the loop at once and looks at no endpoint.
      else { line with watched := watched }
    else
      { watched := watched
        clock := line.clock + 2
        samples := ⟨line.clock + 2, false, reads.unreachable⟩ :: line.samples }
  | .refresh _ _ => { line with watched := watched }
  | .block _ => { line with watched := watched }

def timedRun (events : List Refreshing) : Timeline :=
  events.foldl (timedStep config chain) {}

/-- The tick emits a trigger of the alarm. -/
def Triggers (line : Timeline) (reads : Seen) : Prop :=
  true ∈ edges .noServers (refreshingStep config chain line.watched (.tick reads)).2

/-- The endpoints failed at every tick of the last half of the configured minutes. -/
def Delayed (line : Timeline) : Prop :=
  ∀ sample ∈ line.samples, line.clock - 30 * config.nodeDownMin ≤ sample.time →
    sample.unreachable = true

/-- Every trigger of the run comes after such an outage. -/
def AllDelayed (events : List Refreshing) : Prop :=
  ∀ (earlier : List Refreshing) (reads : Seen) (later : List Refreshing),
    events = earlier ++ .tick reads :: later →
    Triggers config chain (timedRun config chain earlier) reads →
    Delayed config (timedRun config chain (earlier ++ [.tick reads]))

/-- In the first loop no endpoint failure came after the configured minutes, or the
endpoints failed from half of them on until they were over. -/
def StartupSteady (samples : List Sample) : Prop :=
  chain.alerts.alertIfNoServers = true →
    (∀ sample ∈ samples, sample.waiting = true → 60 * config.nodeDownMin < sample.time →
      sample.unreachable = false) ∨
    (∀ sample ∈ samples, sample.waiting = true → 30 * config.nodeDownMin < sample.time →
      sample.time ≤ 60 * config.nodeDownMin + 1 → sample.unreachable = true)

theorem timedRun_concat (events : List Refreshing) (event : Refreshing) :
    timedRun config chain (events ++ [event]) =
      timedStep config chain (timedRun config chain events) event := by
  simp [timedRun]

end Runs

section Rounds
variable (config : Config) (chain : ChainConfig) {line : Timeline} (reads : Seen) {info : ValInfo}

/-- What the first loop asks before it raises the alarm. -/
def waitRaises (servers : Servers) (unreachable : Bool) : Bool :=
  chain.alerts.alertIfNoServers && !servers.noNodes && unreachable &&
    decide (servers.noNodesSec ≥ wrap64 (60 * config.nodeDownMin))

/-- A round of the first loop. -/
theorem timedStep_wait (known : line.watched.monitoring.valInfo = some info)
    (waiting : line.watched.state.waiting = true) (blank : info.moniker = "not connected") :
    let servers := line.watched.state.servers
    let raises := waitRaises config chain servers reads.unreachable
    timedStep config chain line (.tick reads) =
      { watched := { line.watched with state := { line.watched.state with servers :=
          { noNodes := servers.noNodes || raises, noNodesSec := servers.noNodesSec + 1 } } }
        clock := line.clock + 1
        samples := ⟨line.clock + 1, true, reads.unreachable⟩ :: line.samples } ∧
    (Triggers config chain line reads ↔ raises = true) := by
  intro servers raises
  constructor
  · simp [timedStep, refreshingStep, snapshotSeen, tick, waitTick, waitServers, known, waiting,
      blank, servers, raises, waitRaises]
  · unfold Triggers
    simp only [refreshingStep, snapshotSeen, tick, waitTick, waitServers, known, waiting, blank,
      if_true, Option.all_some, beq_self_eq_true]
    rw [← waitRaises]
    cases given : raises with
    | true =>
      rw [if_pos given]
      simp [edges_singleton, noServersAlert]
    | false =>
      rw [if_neg (Bool.eq_false_iff.mp given)]
      simp

/-- The round that leaves the first loop. -/
theorem timedStep_leave (known : line.watched.monitoring.valInfo = some info)
    (waiting : line.watched.state.waiting = true) (connected : info.moniker ≠ "not connected") :
    timedStep config chain line (.tick reads) =
      { line with watched := { line.watched with state := { line.watched.state with
          waiting := false
          servers := { line.watched.state.servers with noNodesSec := 0 } } } } ∧
    ¬ Triggers config chain line reads := by
  constructor
  · simp [timedStep, refreshingStep, snapshotSeen, tick, waitTick, waitServers, known, waiting,
      connected]
  · simp [Triggers, refreshingStep, snapshotSeen, tick, waitTick, waitServers, known, waiting,
      connected]

/-- Of the checks of a main tick only the first has edges of this alarm. -/
theorem edges_mainTick_noServers (state : State) {seen : Seen} (known : seen.valInfo = some info) :
    edges .noServers (mainTick config chain state seen).2 =
      edges .noServers
        (watchServers config chain state.servers info.valcons seen.unreachable).2 := by
  have nodes := edges_watchNodes config chain state.nodeAlarms 0 seen.nodes .noServers
  rw [Latch.alarm] at nodes
  simp only [mainTick, known, edges_append, nodes]
  rw [edges_foreign (alarm_checkStalledAlert chain _ _ _) (by decide),
    edges_foreign (alarm_watchInactive chain _ _ _) (by decide),
    edges_foreign (alarm_watchConsecutive chain _ _ _) (by decide),
    edges_foreign (alarm_checkPercentageAlert chain _ _) (by decide)]
  simp

/-- A round of the main loop. -/
theorem timedStep_main (known : line.watched.monitoring.valInfo = some info)
    (main : line.watched.state.waiting = false) :
    let checked :=
      watchServers config chain line.watched.state.servers info.valcons reads.unreachable
    (∃ state : State, state.waiting = false ∧ state.servers = checked.1 ∧
      timedStep config chain line (.tick reads) =
        { watched := { line.watched with state := state }
          clock := line.clock + 2
          samples := ⟨line.clock + 2, false, reads.unreachable⟩ :: line.samples }) ∧
    (Triggers config chain line reads ↔ true ∈ edges .noServers checked.2) := by
  intro checked
  have current : (snapshotSeen line.watched.monitoring reads).valInfo = some info := known
  constructor
  · refine ⟨(mainTick config chain line.watched.state
      (snapshotSeen line.watched.monitoring reads)).1, ?_, ?_, ?_⟩
    · simp [mainTick, snapshotSeen, known, main]
    · simp [mainTick, snapshotSeen, known, checked]
    · simp [timedStep, refreshingStep, tick, main]
  · unfold Triggers
    simp only [refreshingStep, tick, main, Bool.false_eq_true, if_false]
    rw [edges_mainTick_noServers config chain line.watched.state current]
    rfl

end Rounds

/-- While the first loop runs its counter is the time, and the alarm is raised after the
first failure past the configured minutes. -/
structure WaitInv (config : Config) (chain : ChainConfig) (line : Timeline) : Prop where
  counted : line.watched.state.servers.noNodesSec = line.clock
  started : 0 ≤ line.clock
  first : ∀ sample ∈ line.samples, sample.waiting = true
  complete : ∀ time, 0 < time → time ≤ line.clock → ∃ sample ∈ line.samples, sample.time = time
  raised : line.watched.state.servers.noNodes = true ↔ chain.alerts.alertIfNoServers = true ∧
    ∃ sample ∈ line.samples, 60 * config.nodeDownMin < sample.time ∧ sample.unreachable = true

/-- In the main loop the counter is the length of the outage in progress. -/
structure MainInv (line : Timeline) : Prop where
  outage : ∀ sample ∈ line.samples,
    line.clock - line.watched.state.servers.noNodesSec < sample.time → sample.unreachable = true
  counted : 0 ≤ line.watched.state.servers.noNodesSec
  idle : line.watched.state.servers.noNodes = true → line.watched.state.servers.noNodesSec = 0

structure DelayInv (config : Config) (chain : ChainConfig) (line : Timeline) : Prop where
  published : ∃ info, line.watched.monitoring.valInfo = some info
  past : ∀ sample ∈ line.samples, sample.time ≤ line.clock
  waiting : line.watched.state.waiting = true → WaitInv config chain line
  main : line.watched.state.waiting = false → MainInv line

section Invariants
variable {config : Config} {chain : ChainConfig} {line : Timeline}

/-- A round that takes some time leaves all samples in the past. -/
theorem past_cons {samples : List Sample} {clock round : Int} (passes : 0 ≤ round)
    (past : ∀ sample ∈ samples, sample.time ≤ clock) (waiting unreachable : Bool) :
    ∀ sample ∈ (⟨clock + round, waiting, unreachable⟩ : Sample) :: samples,
      sample.time ≤ clock + round := by
  intro sample member
  rcases List.mem_cons.mp member with rfl | old
  · exact Int.le_refl _
  · exact Int.le_trans (past sample old) (Int.le_add_of_nonneg_right passes)

/-- A round of the main loop lengthens the outage or ends it. -/
theorem MainInv.step (inv : MainInv line) (past : ∀ sample ∈ line.samples, sample.time ≤ line.clock)
    {state : State} {valcons : String} {unreachable : Bool}
    (checked : state.servers =
      (watchServers config chain line.watched.state.servers valcons unreachable).1) :
    MainInv { watched := { line.watched with state := state }
              clock := line.clock + 2
              samples := ⟨line.clock + 2, false, unreachable⟩ :: line.samples } := by
  obtain ⟨outage, counted, idle⟩ := inv
  -- With the counter at zero no sample is recent enough to matter.
  have ended : state.servers.noNodesSec = 0 → MainInv
      { watched := { line.watched with state := state }
        clock := line.clock + 2
        samples := ⟨line.clock + 2, false, unreachable⟩ :: line.samples } := by
    intro zero
    refine ⟨?_, by simp [zero], fun _ => zero⟩
    intro sample member recent
    simp only [zero, List.mem_cons] at recent member
    rcases member with rfl | old
    · simp at recent
    · have := past sample old
      omega
  unfold watchServers at checked
  split at checked
  next failing =>
    simp only [Bool.and_eq_true] at failing
    dsimp only at checked
    split at checked
    · refine ⟨?_, by simp only [checked]; omega, by simp [checked]⟩
      intro sample member recent
      simp only [checked, List.mem_cons] at recent member
      rcases member with rfl | old
      · exact failing.2
      · exact outage sample old (by omega)
    · exact ended (by simp [checked])
  next =>
    split at checked
    next recovering =>
      have raised : line.watched.state.servers.noNodes = true := by simp_all
      exact ended (by simp [checked, idle raised])
    next => exact ended (by simp [checked])

variable (positive : 1 ≤ config.nodeDownMin) (small : 60 * config.nodeDownMin < 2 ^ 63)
include positive small

theorem waitRaises_iff (inv : WaitInv config chain line) (unreachable : Bool) :
    waitRaises config chain line.watched.state.servers unreachable = true ↔
      chain.alerts.alertIfNoServers = true ∧ line.watched.state.servers.noNodes = false ∧
        unreachable = true ∧ 60 * config.nodeDownMin ≤ line.clock := by
  simp only [waitRaises, Bool.and_eq_true, Bool.not_eq_true', decide_eq_true_eq, ge_iff_le,
    wrap64_of_bounds (show 0 ≤ 60 * config.nodeDownMin by omega) small, inv.counted, and_assoc]

/-- A round of the first loop counts and keeps its sample, and raises the alarm when the
sample is the first failure past the minutes. -/
theorem WaitInv.step (inv : WaitInv config chain line) (unreachable : Bool) :
    let servers := line.watched.state.servers
    let raises := waitRaises config chain servers unreachable
    WaitInv config chain
      { watched := { line.watched with state := { line.watched.state with servers :=
          { noNodes := servers.noNodes || raises, noNodesSec := servers.noNodesSec + 1 } } }
        clock := line.clock + 1
        samples := ⟨line.clock + 1, true, unreachable⟩ :: line.samples } := by
  intro servers raises
  have raising := waitRaises_iff positive small inv unreachable
  obtain ⟨counted, started, first, complete, raised⟩ := inv
  refine ⟨by simp [servers, counted], by simp only; omega, ?_, ?_, ?_⟩
  · intro sample member
    rcases List.mem_cons.mp member with rfl | old
    · rfl
    · exact first sample old
  · intro time since until_
    by_cases now : time = line.clock + 1
    · exact ⟨_, List.mem_cons_self, now.symm⟩
    · obtain ⟨sample, old, taken⟩ := complete time since (by simp only at until_; omega)
      exact ⟨sample, List.mem_cons_of_mem _ old, taken⟩
  · simp only [Bool.or_eq_true, List.mem_cons, exists_eq_or_imp]
    rw [show raises = true ↔ _ from raising]
    cases before : servers.noNodes with
    | true =>
      obtain ⟨switch, failure⟩ := raised.mp before
      simp [switch, failure]
    | false =>
      -- Not raised yet: with the switch on, no failure past the minutes is among the old samples.
      have quiet : chain.alerts.alertIfNoServers = true → ¬ ∃ sample ∈ line.samples,
          60 * config.nodeDownMin < sample.time ∧ sample.unreachable = true := by
        intro switch failure
        have := raised.mpr ⟨switch, failure⟩
        simp_all [servers]
      constructor
      · rintro (wrong | ⟨switch, -, failing, late⟩)
        · cases wrong
        · exact ⟨switch, .inl ⟨by omega, failing⟩⟩
      · rintro ⟨switch, ⟨late, failing⟩ | failure⟩
        · exact .inr ⟨switch, rfl, failing, by omega⟩
        · exact absurd failure (quiet switch)

theorem DelayInv.step (inv : DelayInv config chain line) (event : Refreshing) :
    DelayInv config chain (timedStep config chain line event) := by
  obtain ⟨published, past, waiting, main⟩ := inv
  cases event with
  | refresh first next =>
    exact ⟨⟨next, rfl⟩, past, fun w => { waiting w with }, fun m => { main m with }⟩
  | block now => exact ⟨published, past, fun w => { waiting w with }, fun m => { main m with }⟩
  | tick reads =>
    obtain ⟨info, known⟩ := published
    cases mode : line.watched.state.waiting with
    | false =>
      obtain ⟨⟨state, still, checked, next⟩, -⟩ := timedStep_main config chain reads known mode
      rw [next]
      refine ⟨⟨info, known⟩, past_cons (by decide) past _ _, ?_, ?_⟩
      · intro wrong
        simp [still] at wrong
      · exact fun _ => (main mode).step past checked
    | true =>
      have inv := waiting mode
      by_cases blank : info.moniker = "not connected"
      · rw [(timedStep_wait config chain reads known mode blank).1]
        refine ⟨⟨info, known⟩, past_cons (by decide) past _ _,
          fun _ => inv.step positive small reads.unreachable, ?_⟩
        intro wrong
        simp [mode] at wrong
      · rw [(timedStep_leave config chain reads known mode blank).1]
        refine ⟨⟨info, known⟩, past, by simp, fun _ => ⟨?_, Int.le_refl 0, fun _ => rfl⟩⟩
        intro sample member recent
        have := past sample member
        simp only at recent
        omega

theorem DelayInv.run (events : List Refreshing) :
    DelayInv config chain (timedRun config chain events) := by
  induction events using List.reverseRecOn with
  | nil =>
    refine ⟨⟨_, rfl⟩, by simp [timedRun], fun _ => ⟨rfl, Int.le_refl 0, ?_, ?_, ?_⟩, ?_⟩
    · simp [timedRun]
    · intro time since until_
      simp only [timedRun, List.foldl_nil] at until_
      omega
    · simp [timedRun, Watched.start]
    · intro wrong
      cases wrong
  | append_singleton earlier last ih =>
    rw [timedRun_concat]
    exact ih.step positive small last

end Invariants

section Delay
variable {config : Config} {chain : ChainConfig}

/-- No sample is forgotten. -/
theorem samples_subset (earlier later : List Refreshing) :
    (timedRun config chain earlier).samples ⊆
      (timedRun config chain (earlier ++ later)).samples := by
  induction later using List.reverseRecOn with
  | nil => simp
  | append_singleton later last ih =>
    rw [← List.append_assoc, timedRun_concat]
    refine List.Subset.trans ih ?_
    generalize timedRun config chain (earlier ++ later) = line
    cases last with
    | refresh first next => exact List.Subset.refl _
    | block now => exact List.Subset.refl _
    | tick reads =>
      unfold timedStep
      dsimp only
      split_ifs
      · exact List.subset_cons_self _ _
      · exact List.Subset.refl _
      · exact List.subset_cons_self _ _

theorem StartupSteady.subset {samples more : List Sample} (sub : samples ⊆ more)
    (steady : StartupSteady config chain more) : StartupSteady config chain samples := by
  intro switch
  rcases steady switch with quiet | failing
  · exact .inl fun sample member => quiet sample (sub member)
  · exact .inr fun sample member => failing sample (sub member)

variable (positive : 1 ≤ config.nodeDownMin) (small : 60 * config.nodeDownMin < 2 ^ 63)
include positive small

/-- A trigger of the main loop comes after an outage of the whole delay. -/
theorem delayed_main {line : Timeline} (inv : DelayInv config chain line) {reads : Seen}
    (main : line.watched.state.waiting = false) (triggers : Triggers config chain line reads) :
    Delayed config (timedStep config chain line (.tick reads)) := by
  obtain ⟨info, known⟩ := inv.published
  obtain ⟨outage, -, -⟩ := inv.main main
  obtain ⟨⟨state, -, -, next⟩, trigger⟩ := timedStep_main config chain reads known main
  have edge := trigger.mp triggers
  unfold watchServers at edge
  rw [wrap64_of_bounds (show 0 ≤ 30 * config.nodeDownMin by omega) (by omega)] at edge
  split at edge
  next failing =>
    simp only [Bool.and_eq_true] at failing
    dsimp only at edge
    split at edge
    · simp at edge
    next late =>
      rw [next]
      intro sample member recent
      rcases List.mem_cons.mp member with rfl | old
      · exact failing.2
      · exact outage sample old (by simp only at recent; omega)
  next =>
    split at edge
    · simp [edges_singleton, noServersAlert] at edge
    · simp at edge

/-- What a trigger of the first loop says about the samples before it. -/
theorem trigger_wait {line : Timeline} (inv : DelayInv config chain line) {reads : Seen}
    (waiting : line.watched.state.waiting = true) {info : ValInfo}
    (known : line.watched.monitoring.valInfo = some info) (blank : info.moniker = "not connected") :
    Triggers config chain line reads ↔
      chain.alerts.alertIfNoServers = true ∧ reads.unreachable = true ∧
        60 * config.nodeDownMin ≤ line.clock ∧
        ∀ sample ∈ line.samples, 60 * config.nodeDownMin < sample.time →
          sample.unreachable = false := by
  have wait := inv.waiting waiting
  rw [(timedStep_wait config chain reads known waiting blank).2,
    waitRaises_iff positive small wait]
  have raised := wait.raised
  constructor
  · rintro ⟨switch, lowered, failing, late⟩
    refine ⟨switch, failing, late, ?_⟩
    intro sample member past
    by_contra bad
    have := raised.mpr ⟨switch, sample, member, past, by simpa using bad⟩
    simp [lowered] at this
  · rintro ⟨switch, failing, late, quiet⟩
    refine ⟨switch, ?_, failing, late⟩
    by_contra up
    obtain ⟨-, sample, member, past, bad⟩ := raised.mp (by simpa using up)
    simp [quiet sample member past] at bad

/-- A trigger that comes later than it could have comes after a good round at each second
past the minutes. -/
theorem WaitInv.good_round {line : Timeline} (wait : WaitInv config chain line)
    (quiet : ∀ sample ∈ line.samples, 60 * config.nodeDownMin < sample.time →
      sample.unreachable = false)
    {time : Int} (past : 60 * config.nodeDownMin < time) (reached : time ≤ line.clock) :
    ∃ sample ∈ line.samples, sample.time = time ∧ sample.unreachable = false := by
  obtain ⟨sample, member, taken⟩ := wait.complete time (by omega) reached
  exact ⟨sample, member, taken, quiet sample member (taken ▸ past)⟩

/-- A trigger of the first loop comes after the whole delay exactly if the loop was steady. -/
theorem delayed_wait_iff {line : Timeline} (inv : DelayInv config chain line) {reads : Seen}
    (waiting : line.watched.state.waiting = true) (triggers : Triggers config chain line reads) :
    Delayed config (timedStep config chain line (.tick reads)) ↔
      StartupSteady config chain (timedStep config chain line (.tick reads)).samples := by
  obtain ⟨info, known⟩ := inv.published
  by_cases blank : info.moniker = "not connected"
  · obtain ⟨switch, failing, late, quiet⟩ :=
      (trigger_wait positive small inv waiting known blank).mp triggers
    have wait := inv.waiting waiting
    have after := wait.step positive small reads.unreachable
    rw [(timedStep_wait config chain reads known waiting blank).1]
    simp only [Delayed, StartupSteady, switch, forall_const]
    constructor
    · intro delayed
      right
      -- Had the trigger come later, the round before it would have been a good one.
      have soon : line.clock = 60 * config.nodeDownMin := by
        by_contra later
        obtain ⟨sample, member, taken, good⟩ :=
          wait.good_round positive small quiet (by omega) (Int.le_refl _)
        have bad := delayed sample (List.mem_cons_of_mem _ member) (by omega)
        simp [good] at bad
      intro sample member _ since _
      exact delayed sample member (by omega)
    · rintro (never | failed)
      · have := never _ List.mem_cons_self rfl (by simp only; omega)
        simp [failing] at this
      · have soon : line.clock = 60 * config.nodeDownMin := by
          by_contra later
          obtain ⟨sample, member, taken, good⟩ :=
            wait.good_round positive small quiet (Int.lt_succ _) (by omega)
          have bad := failed sample (List.mem_cons_of_mem _ member) (wait.first sample member)
            (by omega) (by omega)
          simp [good] at bad
        intro sample member since
        have upper := past_cons (by decide) inv.past true reads.unreachable sample member
        exact failed sample member (after.first sample member) (by omega) (by omega)
  · exact absurd triggers (timedStep_leave config chain reads known waiting blank).2

/-- A round that raises no early alarm keeps the first loop steady. -/
theorem StartupSteady.step {line : Timeline} (inv : DelayInv config chain line)
    (steady : StartupSteady config chain line.samples) {reads : Seen}
    (delayed : Triggers config chain line reads →
      Delayed config (timedStep config chain line (.tick reads))) :
    StartupSteady config chain (timedStep config chain line (.tick reads)).samples := by
  obtain ⟨info, known⟩ := inv.published
  cases waiting : line.watched.state.waiting with
  | false =>
    -- The samples of the main loop do not count.
    obtain ⟨⟨state, -, -, next⟩, -⟩ := timedStep_main config chain reads known waiting
    rw [next]
    intro switch
    simpa using steady switch
  | true =>
    by_cases blank : info.moniker = "not connected"
    · by_cases triggers : Triggers config chain line reads
      · exact (delayed_wait_iff positive small inv waiting triggers).mp (delayed triggers)
      · rw [trigger_wait positive small inv waiting known blank] at triggers
        rw [(timedStep_wait config chain reads known waiting blank).1]
        intro switch
        by_cases quiet : ∀ sample ∈ line.samples, 60 * config.nodeDownMin < sample.time →
            sample.unreachable = false
        · left
          intro sample member _ late
          rcases List.mem_cons.mp member with rfl | old
          · by_contra bad
            exact triggers ⟨switch, by simpa using bad, by simp only at late; omega, quiet⟩
          · exact quiet sample old late
        · -- An older failure came past the minutes, so this round is past them as well.
          push Not at quiet
          obtain ⟨older, there, late, bad⟩ := quiet
          have before := inv.past older there
          have wait := inv.waiting waiting
          rcases steady switch with never | failed
          · exact absurd (never older there (wait.first older there) late) bad
          · right
            intro sample member first since until_
            rcases List.mem_cons.mp member with rfl | old
            · simp only at until_
              omega
            · exact failed sample old first since until_
    · rw [(timedStep_leave config chain reads known waiting blank).1]
      exact steady

end Delay

theorem AllDelayed.init {config : Config} {chain : ChainConfig} {events more : List Refreshing}
    (all : AllDelayed config chain (events ++ more)) : AllDelayed config chain events := by
  intro earlier reads later split triggers
  exact all earlier reads (later ++ more) (by simp [split]) triggers

/-- For every run of `watch` from the start of the process: every trigger comes after a
whole outage if and only if the endpoints were steady in the first loop. -/
theorem noServers_delayed_iff (config : Config) (chain : ChainConfig) (events : List Refreshing)
    (positive : 1 ≤ config.nodeDownMin) (small : 60 * config.nodeDownMin < 2 ^ 63) :
    AllDelayed config chain events ↔
      StartupSteady config chain (timedRun config chain events).samples := by
  constructor
  · intro all
    induction events using List.reverseRecOn with
    | nil => exact fun _ => .inl (by simp [timedRun])
    | append_singleton earlier last ih =>
      have steady := ih all.init
      have inv : DelayInv config chain (timedRun config chain earlier) :=
        .run positive small earlier
      rw [timedRun_concat]
      cases last with
      | refresh first next => exact steady
      | block now => exact steady
      | tick reads =>
        apply steady.step positive small inv
        intro triggers
        rw [← timedRun_concat]
        exact all earlier reads [] rfl triggers
  · intro steady earlier reads later split triggers
    have inv : DelayInv config chain (timedRun config chain earlier) := .run positive small earlier
    rw [timedRun_concat]
    cases waiting : (timedRun config chain earlier).watched.state.waiting with
    | false => exact delayed_main positive small inv waiting triggers
    | true =>
      apply (delayed_wait_iff positive small inv waiting triggers).mpr
      rw [← timedRun_concat]
      apply steady.subset
      rw [split, show earlier ++ .tick reads :: later = earlier ++ [.tick reads] ++ later by simp]
      exact samples_subset _ later

def noServersChain : ChainConfig :=
  { chainId := "osmosis-1", alerts := { alertIfNoServers := true } }

/-- A round in which the endpoints work or fail. -/
def endpointRound (unreachable : Bool) : Refreshing :=
  .tick { quietReads with unreachable := unreachable }

/-- The endpoints fail from the start. -/
theorem noServers_delayed_outage :
    let events := List.replicate 61 (endpointRound true)
    Triggers { nodeDownMin := 1 } noServersChain
      (timedRun { nodeDownMin := 1 } noServersChain (List.replicate 60 (endpointRound true)))
      { quietReads with unreachable := true } ∧
    AllDelayed { nodeDownMin := 1 } noServersChain events := by
  refine ⟨by unfold Triggers; decide +kernel, ?_⟩
  apply (noServers_delayed_iff _ _ _ (by decide) (by decide)).mpr
  exact fun _ => .inr (by decide +kernel)

/-- The validator's moniker is not known for a minute while its endpoints work. Then the
first bad round raises the alarm, a second after a good one. -/
theorem noServers_single_bad_round :
    let earlier := List.replicate 60 (endpointRound false)
    let bad : Seen := { quietReads with unreachable := true }
    let line := timedRun { nodeDownMin := 1 } noServersChain (earlier ++ [.tick bad])
    Triggers { nodeDownMin := 1 } noServersChain
      (timedRun { nodeDownMin := 1 } noServersChain earlier) bad ∧
    ¬ Delayed { nodeDownMin := 1 } line ∧
    line.clock = 61 ∧ ⟨60, true, false⟩ ∈ line.samples := by
  refine ⟨by unfold Triggers; decide +kernel, ?_, by decide +kernel, by decide +kernel⟩
  unfold Delayed
  decide +kernel

end Seer.Watch
