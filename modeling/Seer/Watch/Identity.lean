import Seer.Watch.Latches

/-!
# The identity of a resolution

A resolution is rendered from the validator data at hand when it is emitted, not from
what its trigger was rendered from. It names the same incident as long as that data
stays the same, which the loop that waits for a moniker breaks: its no-endpoints
trigger goes out before the consensus address is known.
-/
namespace Seer.Watch

open Seer.Lib

def Latch.message (chain : ChainConfig) (moniker : String) : Latch → String
  | .stalled => stalledMessage chain
  | .noServers => noServersMessage chain
  | .consecutive => consecutiveMessage chain moniker
  | .percentage => percentageMessage chain moniker

/-- The validator data of a snapshot, when there is one. -/
def Shows (seen : Option ValInfo) (moniker valcons : String) : Prop :=
  ∀ info, seen = some info → info.moniker = moniker ∧ info.valcons = valcons

/-- The condition on one event in the state it meets: the main loop sees one moniker
and one consensus address, and the waiting loop raises no alarm without that address. -/
def Steady (config : Config) (chain : ChainConfig) (moniker valcons : String) (state : State) :
    Event → Prop
  | .block _ => True
  | .tick seen =>
    if state.waiting then
      chain.alerts.alertIfNoServers = true → state.servers.noNodes = false → seen.unreachable = true →
        state.servers.noNodesSec ≥ wrap64 (60 * config.nodeDownMin) → valconsOf seen.valInfo = valcons
    else
      Shows seen.valInfo moniker valcons ∧ valconsOf seen.stalledInfo = valcons ∧
        Shows seen.percentInfo moniker valcons

/-- Every event of the run meets the condition in the state it finds. -/
def SteadyRun (config : Config) (chain : ChainConfig) (moniker valcons : String)
    (events : List Event) : Prop :=
  ∀ earlier event later, events = earlier ++ event :: later →
    Steady config chain moniker valcons (run config chain earlier).1 event

def lastTrigger (alarm : Alarm) (emitted : List Emission) : Option Emission :=
  (emitted.filter fun emission => emission.alarm == alarm && !emission.resolved).getLast?

section Rendering
variable {config : Config} {chain : ChainConfig} {moniker valcons : String}

/-- One text and one key for each latched alarm. -/
theorem steady_rendering {state : State} {seen : Seen} {emission : Emission}
    (steady : Steady config chain moniker valcons state (.tick seen))
    (emits : Emits config chain state seen emission) (latch : Latch)
    (own : emission.alarm = latch.alarm) :
    emission.message = latch.message chain moniker ∧ emission.id = latch.alarm.key chain.nodes valcons := by
  simp only [Steady] at steady
  cases emits with
  | waitServers waiting enabled lowered unreachable late =>
    rw [if_pos waiting] at steady
    cases latch <;> cases own
    exact ⟨rfl, steady enabled lowered unreachable late⟩
  | servers main found =>
    rw [main] at steady
    cases latch <;> cases own
    exact ⟨rfl, (steady.1 _ found).2⟩
  | stalled main =>
    rw [main] at steady
    cases latch <;> cases own
    exact ⟨rfl, steady.2.1⟩
  | inactive => cases latch <;> cases own
  | consecutive main found =>
    rw [main] at steady
    cases latch <;> cases own
    obtain ⟨rfl, rfl⟩ := steady.1 _ found
    exact ⟨rfl, rfl⟩
  | percentage main found read =>
    rw [main] at steady
    cases latch <;> cases own
    obtain ⟨rfl, rfl⟩ := steady.2.2 _ read
    exact ⟨rfl, rfl⟩
  | nodeDown => cases latch <;> cases own

theorem steadyRun_rendering {events : List Event} {emission : Emission}
    (steady : SteadyRun config chain moniker valcons events)
    (member : emission ∈ (run config chain events).2) (latch : Latch)
    (own : emission.alarm = latch.alarm) :
    emission.message = latch.message chain moniker ∧ emission.id = latch.alarm.key chain.nodes valcons := by
  obtain ⟨earlier, seen, later, split, emits⟩ := emits_of_mem_run member
  exact steady_rendering (steady earlier (.tick seen) later split) emits latch own

end Rendering

theorem mem_edges_true {alarm : Alarm} {emitted : List Emission} (opened : true ∈ edges alarm emitted) :
    ∃ trigger, lastTrigger alarm emitted = some trigger := by
  obtain ⟨emission, member, kind⟩ := List.mem_map.mp opened
  obtain ⟨listed, own⟩ := List.mem_filter.mp member
  have kept : emission ∈ emitted.filter fun emission =>
      emission.alarm == alarm && !emission.resolved :=
    List.mem_filter.mpr ⟨listed, by simpa [kind] using own⟩
  exact ⟨_, List.getLast?_eq_getLast_of_ne_nil (List.ne_nil_of_mem kept)⟩

theorem lastTrigger_spec {alarm : Alarm} {emitted : List Emission} {trigger : Emission}
    (found : lastTrigger alarm emitted = some trigger) :
    trigger ∈ emitted ∧ trigger.alarm = alarm ∧ trigger.resolved = false := by
  have member := List.mem_of_getLast? found
  obtain ⟨listed, kind⟩ := List.mem_filter.mp member
  simp only [Bool.and_eq_true, beq_iff_eq, Bool.not_eq_true'] at kind
  exact ⟨listed, kind⟩

/-- In every run that keeps to one moniker and one consensus address, a resolution of a
latched alarm has the text and the dedup key of the last trigger before it. -/
theorem resolution_matches_trigger (config : Config) (chain : ChainConfig)
    (moniker valcons : String) (events : List Event)
    (steady : SteadyRun config chain moniker valcons events)
    (earlier later : List Emission) (resolution : Emission)
    (emitted : (run config chain events).2 = earlier ++ resolution :: later)
    (latch : Latch) (own : resolution.alarm = latch.alarm) (closing : resolution.resolved = true) :
    ∃ trigger, lastTrigger latch.alarm earlier = some trigger ∧
      trigger.message = resolution.message ∧ trigger.id = resolution.id := by
  have moves := (run_alternating config chain events latch).1
  rw [emitted, edges_append] at moves
  have edge : edges latch.alarm (resolution :: later) = false :: edges latch.alarm later := by
    simp [edges, own, closing]
  rw [edge] at moves
  -- A latched alarm resolves only after it was raised, so there is a trigger before.
  obtain ⟨trigger, found⟩ := mem_edges_true moves.opened_before
  obtain ⟨listed, kind, -⟩ := lastTrigger_spec found
  have triggered : trigger ∈ (run config chain events).2 := by simp [emitted, listed]
  have closed : resolution ∈ (run config chain events).2 := by simp [emitted]
  have before := steadyRun_rendering steady triggered latch kind
  have after := steadyRun_rendering steady closed latch own
  exact ⟨trigger, found, before.1.trans after.1.symm, before.2.trans after.2.symm⟩

/-- A tick that reads the same validator data in all its snapshots. -/
def seenWith (info : Option ValInfo) (unreachable : Bool) (missed : Nat) : Seen :=
  { valInfo := info
    unreachable := unreachable
    now := ⟨unixEpoch, Int.le_refl _⟩
    stalledInfo := info
    missed := missed
    percentInfo := info }

theorem steadyRun_of_seenWith (config : Config) (chain : ChainConfig) (info : ValInfo)
    (events : List Event)
    (fixed : ∀ event ∈ events, ∃ unreachable missed,
      event = .tick (seenWith (some info) unreachable missed)) :
    SteadyRun config chain info.moniker info.valcons events := by
  rintro earlier event later rfl
  obtain ⟨unreachable, missed, rfl⟩ := fixed event (by simp)
  have shows : Shows (some info) info.moniker info.valcons := by
    rintro _ ⟨⟩
    exact ⟨rfl, rfl⟩
  simp only [Steady]
  split
  · intro _ _ _ _
    rfl
  · exact ⟨shows, rfl, shows⟩

def validator : ValInfo := { moniker := "NosNode", bonded := true, valcons := "osmovalcons1" }

/-- Three missed blocks and a recovery. -/
def missedBlocks : List Event :=
  [.tick (seenWith (some validator) false 0), .tick (seenWith (some validator) false 3),
    .tick (seenWith (some validator) false 0)]

def missedChain : ChainConfig :=
  { chainId := "osmosis-1", alerts := { consecutiveAlerts := true, consecutiveMissed := 3 } }

theorem resolution_matches_missed_blocks :
    ∃ trigger, lastTrigger .consecutive [consecutiveAlert missedChain validator false] =
        some trigger ∧
      trigger.message = "NosNode has missed 3 blocks on osmosis-1" ∧
      trigger.id = "osmovalcons1consecutive" :=
  resolution_matches_trigger {} missedChain "NosNode" "osmovalcons1" missedBlocks
    (steadyRun_of_seenWith {} missedChain validator missedBlocks (by simp [missedBlocks]))
    [consecutiveAlert missedChain validator false] [] (consecutiveAlert missedChain validator true)
    (by decide +kernel) .consecutive rfl rfl

/-- No endpoint works for the first three minutes of the process, then one does. -/
def lateStart : List Event :=
  List.replicate 181 (.tick (seenWith none true 0)) ++
    [.tick (seenWith (some validator) true 0), .tick (seenWith (some validator) false 0)]

/-- The trigger goes out without the consensus address, the resolution with it. -/
theorem late_start_resolution_renamed :
    let chain : ChainConfig := { chainId := "osmosis-1", alerts := { alertIfNoServers := true } }
    let emitted := (run { nodeDownMin := 3 } chain lateStart).2
    emitted.map (fun emission => (emission.alarm, emission.resolved, emission.id)) =
      [(.noServers, false, ""), (.noServers, true, "osmovalcons1")] := by
  decide +kernel

end Seer.Watch
