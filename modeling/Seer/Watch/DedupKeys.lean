import Mathlib.Data.Rat.Cast.Order
import Seer.Alert.Worker
import Seer.Watch.Latches

/-!
# The dedup keys of different alarms

PagerDuty closes the incident whose dedup key a resolution carries. Two alarms of a
chain are told apart there exactly when their keys differ, and the keys are fixed by
the settings and the consensus address: the stalled and the no-endpoints alarm share
the bare address, and a node's URL stands for every node that has it.
-/
namespace Seer.Watch

open Seer.Lib

/-- A tick that finds validator data with one consensus address in every snapshot, and
the chain's nodes in whatever state. -/
structure FixedValcons (chain : ChainConfig) (valcons : String) (seen : Seen) : Prop where
  valInfo : ∃ info, seen.valInfo = some info ∧ info.valcons = valcons
  stalledInfo : ∃ info, seen.stalledInfo = some info ∧ info.valcons = valcons
  percentInfo : ∃ info, seen.percentInfo = some info ∧ info.valcons = valcons
  nodes : nodeSettings (seen.nodes.map Prod.fst) = nodeSettings chain.nodes

/-- The dedup key of the PagerDuty event for an emission. -/
def dedupKey (config : Config) (name : String) (chain : ChainConfig) (emission : Emission) :
    String :=
  (Alert.buildPagerDutyEvent (Alert.alert config name chain emission.message emission.severity
    emission.resolved (some emission.id))).dedupKey

section Emitted
variable {config : Config} {chain : ChainConfig} {valcons : String}

theorem missedAlarm_enabled (config : Config) (chain : ChainConfig) (events : List Event)
    (raised : (run config chain events).1.missedAlarm = true) :
    chain.alerts.consecutiveAlerts = true := by
  have opened := (run_alternating config chain events .consecutive).2.trans raised
  -- The flag was raised by a trigger, and a trigger checks the setting.
  obtain ⟨trigger, member, kind⟩ := List.mem_map.mp (mem_of_opened opened)
  obtain ⟨listed, own⟩ := List.mem_filter.mp member
  obtain ⟨_, seen, _, _, emits⟩ := emits_of_mem_run listed
  cases emits with
  | consecutive _ _ resolved enabled =>
    rcases enabled with switch | ⟨rfl, -⟩
    · exact switch
    · cases kind
  | _ => cases own

theorem emits_key {state : State} {seen : Seen} {emission : Emission}
    (fixed : FixedValcons chain valcons seen) (emits : Emits config chain state seen emission) :
    emission.id = emission.alarm.key chain.nodes valcons := by
  obtain ⟨info, found, rfl⟩ := fixed.valInfo
  cases emits with
  | waitServers => simp [noServersAlert, Alarm.key, valconsOf, found]
  | servers _ same =>
    rw [found] at same
    cases same
    rfl
  | stalled =>
    obtain ⟨other, read, same⟩ := fixed.stalledInfo
    simp [stalledAlert, Alarm.key, valconsOf, read, same]
  | inactive _ same =>
    rw [found] at same
    cases same
    rfl
  | consecutive _ same =>
    rw [found] at same
    cases same
    rfl
  | percentage _ _ read =>
    obtain ⟨other, present, same⟩ := fixed.percentInfo
    rw [read] at present
    cases present
    rw [← same]
    rfl
  | nodeDown _ _ listed =>
    obtain ⟨own, here, url, -⟩ := get_of_nodeSettings fixed.nodes listed
    simp [nodeDownAlert, Alarm.key, here, url]

theorem emits_enabled {state : State} {seen : Seen} {emission : Emission}
    (fixed : FixedValcons chain valcons seen)
    (missed : state.missedAlarm = true → chain.alerts.consecutiveAlerts = true)
    (emits : Emits config chain state seen emission) : Enabled chain emission.alarm := by
  cases emits with
  | waitServers _ enabled => exact enabled
  | servers _ _ enabled => exact enabled
  | stalled _ _ enabled => exact enabled
  | inactive _ _ enabled => exact enabled
  | consecutive _ _ _ enabled => exact enabled.elim id fun raised => missed raised.2
  | percentage _ _ _ enabled => exact enabled
  | nodeDown _ _ listed enabled =>
    obtain ⟨own, here, -, switch⟩ := get_of_nodeSettings fixed.nodes listed
    exact ⟨own, here, switch.trans enabled⟩

/-- With one consensus address, an emitted alert carries the key of an enabled alarm. -/
theorem fixed_run_emission {events : List Event} {emission : Emission}
    (fixed : ∀ seen, .tick seen ∈ events → FixedValcons chain valcons seen)
    (member : emission ∈ (run config chain events).2) :
    Enabled chain emission.alarm ∧ emission.id = emission.alarm.key chain.nodes valcons := by
  obtain ⟨earlier, seen, later, rfl, emits⟩ := emits_of_mem_run member
  have here := fixed seen (by simp)
  exact ⟨emits_enabled here (missedAlarm_enabled config chain earlier) emits, emits_key here emits⟩

end Emitted

/-! ## A run in which everything goes wrong -/

section Outage
variable (config : Config) (chain : ChainConfig) (valcons : String)

/-- Unbonded, and with more misses than any threshold. -/
def failing : ValInfo :=
  { moniker := "NosNode", valcons := valcons, missed := chain.alerts.window.natAbs + 1, window := 1 }

/-- Longer after the epoch than any threshold. -/
def muchLater : Instant := ⟨unixEpoch + 2 ^ 64, by decide⟩

def downNode (node : NodeConfig) : NodeConfig :=
  { node with down := true, wasDown := false, downSince := unixEpoch }

/-- A tick that finds every condition in force. -/
def outage : Seen :=
  { valInfo := some (failing chain valcons)
    lastValInfo := some { failing chain valcons with bonded := true }
    unreachable := true
    now := muchLater
    stalledInfo := some (failing chain valcons)
    missed := chain.alerts.consecutiveMissed.toNat
    percentInfo := some (failing chain valcons)
    nodes := chain.nodes.map fun node => (downNode node, muchLater) }

theorem outage_fixed : FixedValcons chain valcons (outage chain valcons) where
  valInfo := ⟨_, rfl, rfl⟩
  stalledInfo := ⟨_, rfl, rfl⟩
  percentInfo := ⟨_, rfl, rfl⟩
  nodes := by simp [outage, nodeSettings, downNode, Function.comp_def]

def upNode (node : NodeConfig) : NodeConfig := { node with down := false, wasDown := true }

/-- A tick that finds all nodes up again. -/
def recovery : Seen :=
  { outage chain valcons with nodes := chain.nodes.map fun node => (upNode node, muchLater) }

theorem recovery_fixed : FixedValcons chain valcons (recovery chain valcons) where
  valInfo := ⟨_, rfl, rfl⟩
  stalledInfo := ⟨_, rfl, rfl⟩
  percentInfo := ⟨_, rfl, rfl⟩
  nodes := by simp [recovery, nodeSettings, upNode, Function.comp_def]

/-- The loop after a block at the epoch, once it has the moniker. -/
def started : State := { waiting := false, alertState := { lastBlockTime := unixEpoch } }

/-- A block at the epoch, then nothing but failures. -/
def outageRun (ticks : Nat) : List Event :=
  [.block unixEpoch, .tick (outage chain valcons)] ++
    List.replicate ticks (.tick (outage chain valcons))

theorem run_outageRun (ticks : Nat) :
    run config chain (outageRun chain valcons ticks) =
      runFrom config chain started (List.replicate ticks (.tick (outage chain valcons))) := by
  rw [run, outageRun, runFrom_append]
  simp [runFrom, step, tick, waitTick, waitServers, outage, failing, recordFinalBlock, started]

theorem stale_started : stale chain started.alertState muchLater = true := by
  have bound := (minutes_bounds (-chain.alerts.stalled)).1
  have later : unixEpoch < unixEpoch + 2 ^ 64 + minutes (-chain.alerts.stalled) := by
    unfold Time Duration at *
    omega
  exact Bool.and_eq_true_iff.mpr ⟨by decide, decide_eq_true later⟩

theorem percentMissed_failing : percentMissed (failing chain valcons) > chain.alerts.window := by
  have integers : chain.alerts.window < 100 * ((chain.alerts.window.natAbs : Int) + 1) := by omega
  have rationals : (chain.alerts.window : Rat) <
      ((100 * ((chain.alerts.window.natAbs : Int) + 1) : Int) : Rat) := by
    exact_mod_cast integers
  simpa [percentMissed, failing] using rationals

/-- Nodes of one URL raise their alarm only once, but every node has its own recovery. -/
theorem watchNodes_recovery {nodes : List NodeConfig} {node : NodeConfig} {index : Nat}
    (listed : nodes[index]? = some node) (switch : node.alertIfDown = true)
    (nodeAlarms : String → Bool) (start : Nat) :
    ∃ emission ∈ (watchNodes config chain nodeAlarms start
      (nodes.map fun node => (upNode node, muchLater))).2,
      emission.alarm = .nodeDown (start + index) := by
  induction nodes generalizing nodeAlarms start index with
  | nil => cases listed
  | cons first later ih =>
    cases index with
    | zero =>
      cases listed
      have recovers : nodeAction config (nodeAlarms node.url) (upNode node) muchLater = .recover := by
        simp [nodeAction, upNode, switch]
      refine ⟨nodeDownAlert config chain start (upNode node) true, List.mem_append_left _ ?_, rfl⟩
      rw [watchNode, show (upNode node).url = node.url from rfl, recovers]
      exact List.mem_singleton.mpr rfl
    | succ index =>
      obtain ⟨emission, member, own⟩ :=
        ih listed (watchNode config chain nodeAlarms start (upNode first) muchLater).1 (start + 1)
      refine ⟨emission, List.mem_append_right _ member, own.trans ?_⟩
      rw [Nat.add_assoc, Nat.add_comm 1]

theorem recovery_emits (state : State) (index : Nat) (enabled : Enabled chain (.nodeDown index)) :
    ∃ emission ∈ (mainTick config chain state (recovery chain valcons)).2,
      emission.alarm = .nodeDown index := by
  obtain ⟨node, listed, switch⟩ := enabled
  obtain ⟨emission, member, own⟩ :=
    watchNodes_recovery config chain listed switch state.nodeAlarms 0
  exact ⟨emission, List.mem_append_right _ member, own.trans (by rw [Nat.zero_add])⟩

/-- The first main tick raises every other alarm, except the one that has a delay. -/
theorem outage_emits (alarm : Alarm) (enabled : Enabled chain alarm) (other : alarm ≠ .noServers)
    (chainWide : ∀ index, alarm ≠ .nodeDown index) :
    ∃ emission ∈ (mainTick config chain started (outage chain valcons)).2,
      emission.alarm = alarm := by
  simp only [mainTick, outage, List.mem_append]
  cases alarm with
  | stalled =>
    refine ⟨stalledAlert chain (some (failing chain valcons)) false, ?_, rfl⟩
    have raised : checkStalledAlert chain started.alertState muchLater
        (some (failing chain valcons)) =
          ({ started.alertState with lastBlockAlarm := true },
            [stalledAlert chain (some (failing chain valcons)) false]) := by
      have enabled : chain.alerts.stalledAlerts = true := enabled
      rw [checkStalledAlert, enabled, stale_started]
      rfl
    simp [raised]
  | noServers => exact absurd rfl other
  | inactive =>
    refine ⟨inactiveAlert (failing chain valcons) jailedReason false, ?_, rfl⟩
    have enabled : chain.alerts.alertIfInactive = true := enabled
    simp [watchInactive, enabled, failing, started]
  | consecutive =>
    refine ⟨consecutiveAlert chain (failing chain valcons) false, ?_, rfl⟩
    have enabled : chain.alerts.consecutiveAlerts = true := enabled
    simp [watchConsecutive, enabled, started]
  | percentage =>
    refine ⟨percentageAlert chain (failing chain valcons) false, ?_, rfl⟩
    have enabled : chain.alerts.percentageAlerts = true := enabled
    have window : (failing chain valcons).window ≠ 0 := by simp [failing]
    simp [checkPercentageAlert, enabled, started, percentMissed_failing, window,
      checkStalledAlert_percentageAlarm]
  | nodeDown index => exact absurd rfl (chainWide index)

/-- A tick past the delay raises the alarm. -/
theorem servers_outage_late (enabled : chain.alerts.alertIfNoServers = true) (state : State)
    (main : state.waiting = false) (lowered : state.servers.noNodes = false)
    (late : ¬ state.servers.noNodesSec + 2 ≤ wrap64 (30 * config.nodeDownMin)) :
    ∃ ticks, ∃ emission ∈ (runFrom config chain state
      (List.replicate ticks (.tick (outage chain valcons)))).2, emission.alarm = .noServers := by
  refine ⟨1, noServersAlert chain valcons false, ?_, rfl⟩
  simp [runFrom, step, tick, main, mainTick, outage, watchServers, enabled, lowered, late, failing]

/-- The no-endpoints alarm goes off after enough ticks. -/
theorem servers_outage (enabled : chain.alerts.alertIfNoServers = true) (delay : Nat)
    (state : State) (main : state.waiting = false) (lowered : state.servers.noNodes = false)
    (close : wrap64 (30 * config.nodeDownMin) - state.servers.noNodesSec ≤ 2 * delay) :
    ∃ ticks, ∃ emission ∈ (runFrom config chain state
      (List.replicate ticks (.tick (outage chain valcons)))).2, emission.alarm = .noServers := by
  induction delay generalizing state with
  | zero =>
    have late : ¬ state.servers.noNodesSec + 2 ≤ wrap64 (30 * config.nodeDownMin) := by omega
    exact servers_outage_late config chain valcons enabled state main lowered late
  | succ delay ih =>
    by_cases within : state.servers.noNodesSec + 2 ≤ wrap64 (30 * config.nodeDownMin)
    · -- Not yet: the next tick starts two seconds closer.
      have after : (tick config chain state (outage chain valcons)).1.waiting = false ∧
          (tick config chain state (outage chain valcons)).1.servers =
            { noNodes := false, noNodesSec := state.servers.noNodesSec + 2 } := by
        simp [tick, main, mainTick, outage, watchServers, enabled, lowered, within]
      obtain ⟨ticks, emission, member, own⟩ := ih (tick config chain state (outage chain valcons)).1
        after.1 (by rw [after.2]) (by rw [after.2]; dsimp only; omega)
      exact ⟨ticks + 1, emission, List.mem_append_right _ member, own⟩
    · exact servers_outage_late config chain valcons enabled state main lowered within

theorem waiting_mainTick (state : State) (seen : Seen) :
    (mainTick config chain state seen).1.waiting = state.waiting := by
  unfold mainTick
  cases seen.valInfo <;> rfl

/-- The main loop is not left again. -/
theorem waiting_outageRun (ticks : Nat) :
    (run config chain (outageRun chain valcons ticks)).1.waiting = false := by
  rw [run_outageRun]
  have kept : ∀ state : State, state.waiting = false →
      (runFrom config chain state
        (List.replicate ticks (.tick (outage chain valcons)))).1.waiting = false := by
    intro state main
    induction ticks generalizing state with
    | zero => exact main
    | succ ticks ih =>
      refine ih _ ?_
      change (tick config chain state (outage chain valcons)).1.waiting = false
      rw [tick_main config chain main]
      exact (waiting_mainTick config chain state _).trans main
  exact kept started rfl

/-- A long outage and a recovery, after which every enabled alarm was emitted. -/
theorem outage_emits_all :
    ∃ ticks, ∀ alarm, Enabled chain alarm →
      ∃ emission ∈ (run config chain
        (outageRun chain valcons ticks ++ [.tick (recovery chain valcons)])).2,
        emission.alarm = alarm := by
  obtain ⟨ticks, servers⟩ : ∃ ticks, Enabled chain .noServers →
      ∃ emission ∈ (run config chain (outageRun chain valcons (ticks + 1))).2,
        emission.alarm = .noServers := by
    by_cases enabled : chain.alerts.alertIfNoServers = true
    · obtain ⟨ticks, emission, member, own⟩ := servers_outage config chain valcons enabled
        (wrap64 (30 * config.nodeDownMin)).toNat started rfl rfl (by simp only [started]; omega)
      cases ticks with
      | zero => simp [runFrom] at member
      | succ ticks => exact ⟨ticks, fun _ => ⟨emission, by rwa [run_outageRun], own⟩⟩
    · exact ⟨0, fun switch => absurd switch enabled⟩
  refine ⟨ticks + 1, fun alarm enabled => ?_⟩
  rw [run_concat]
  -- Everything but the node alarms comes up before the recovery.
  suffices listed : (∃ index, alarm = .nodeDown index) ∨
      ∃ emission ∈ (run config chain (outageRun chain valcons (ticks + 1))).2,
        emission.alarm = alarm by
    rcases listed with ⟨index, rfl⟩ | ⟨emission, member, own⟩
    · obtain ⟨emission, member, own⟩ := recovery_emits config chain valcons
        (run config chain (outageRun chain valcons (ticks + 1))).1 index enabled
      refine ⟨emission, List.mem_append_right _ ?_, own⟩
      rwa [step, tick_main config chain (waiting_outageRun config chain valcons _)]
    · exact ⟨emission, List.mem_append_left _ member, own⟩
  by_cases delayed : alarm = .noServers
  · obtain rfl := delayed
    exact .inr (servers enabled)
  · by_cases node : ∃ index, alarm = .nodeDown index
    · exact .inl node
    · obtain ⟨emission, member, own⟩ := outage_emits config chain valcons alarm enabled delayed
        fun index same => node ⟨index, same⟩
      refine .inr ⟨emission, ?_, own⟩
      rw [run_outageRun, List.replicate_succ]
      exact List.mem_append_left _ member

end Outage

/-! ## The condition -/

/-- The URLs of the nodes with the node-down alert. -/
def watchedUrls (nodes : List NodeConfig) : List String :=
  (nodes.filter (·.alertIfDown)).map (·.url)

/-- The settings, the watched URLs and the consensus address leave no two alarms one key. -/
structure KeysApart (chain : ChainConfig) (valcons : String) : Prop where
  /-- Both of these use the bare address. -/
  bare : ¬ (chain.alerts.stalledAlerts = true ∧ chain.alerts.alertIfNoServers = true)
  /-- No two watched nodes have one URL. -/
  urls : (watchedUrls chain.nodes).Nodup
  address : chain.alerts.stalledAlerts = true ∨ chain.alerts.alertIfNoServers = true →
    valcons ∉ watchedUrls chain.nodes
  jailed : chain.alerts.alertIfInactive = true → valcons ++ "jailed" ∉ watchedUrls chain.nodes
  consecutive : chain.alerts.consecutiveAlerts = true →
    valcons ++ "consecutive" ∉ watchedUrls chain.nodes
  percent : chain.alerts.percentageAlerts = true → valcons ++ "percent" ∉ watchedUrls chain.nodes

instance (chain : ChainConfig) (valcons : String) : Decidable (KeysApart chain valcons) :=
  decidable_of_iff
    (¬ (chain.alerts.stalledAlerts = true ∧ chain.alerts.alertIfNoServers = true) ∧
      (watchedUrls chain.nodes).Nodup ∧
      (chain.alerts.stalledAlerts = true ∨ chain.alerts.alertIfNoServers = true →
        valcons ∉ watchedUrls chain.nodes) ∧
      (chain.alerts.alertIfInactive = true → valcons ++ "jailed" ∉ watchedUrls chain.nodes) ∧
      (chain.alerts.consecutiveAlerts = true →
        valcons ++ "consecutive" ∉ watchedUrls chain.nodes) ∧
      (chain.alerts.percentageAlerts = true → valcons ++ "percent" ∉ watchedUrls chain.nodes))
    ⟨fun ⟨bare, urls, address, jailed, consecutive, percent⟩ =>
        ⟨bare, urls, address, jailed, consecutive, percent⟩,
      fun ⟨bare, urls, address, jailed, consecutive, percent⟩ =>
        ⟨bare, urls, address, jailed, consecutive, percent⟩⟩

section Keys
variable {chain : ChainConfig} {valcons : String}

/-- An enabled node alarm has a watched URL as its key. -/
theorem key_nodeDown (valcons : String) {index : Nat} (enabled : Enabled chain (.nodeDown index)) :
    ∃ node, chain.nodes[index]? = some node ∧ node.alertIfDown = true ∧
      (Alarm.nodeDown index).key chain.nodes valcons = node.url := by
  obtain ⟨node, listed, switch⟩ := enabled
  exact ⟨node, listed, switch, by simp [Alarm.key, listed]⟩

theorem mem_watchedUrls {index : Nat} {node : NodeConfig} (listed : chain.nodes[index]? = some node)
    (switch : node.alertIfDown = true) : node.url ∈ watchedUrls chain.nodes :=
  List.mem_map_of_mem (List.mem_filter.mpr ⟨List.mem_of_getElem? listed, switch⟩)

/-- Every watched URL is the key of an enabled node alarm. -/
theorem nodeDown_of_watched (valcons : String) {url : String} (watched : url ∈ watchedUrls chain.nodes) :
    ∃ index, Enabled chain (.nodeDown index) ∧
      (Alarm.nodeDown index).key chain.nodes valcons = url := by
  obtain ⟨node, member, rfl⟩ := List.mem_map.mp watched
  obtain ⟨listed, switch⟩ := List.mem_filter.mp member
  obtain ⟨index, here⟩ := List.mem_iff_getElem?.mp listed
  exact ⟨index, ⟨node, here, switch⟩, by simp [Alarm.key, here]⟩

/-- Different URLs, place by place. -/
theorem nodup_watchedUrls (nodes : List NodeConfig) :
    (watchedUrls nodes).Nodup ↔
      nodes.Pairwise fun first second =>
        first.alertIfDown = true → second.alertIfDown = true → first.url ≠ second.url := by
  rw [watchedUrls, List.Nodup, List.pairwise_map, List.pairwise_filter]

/-- What an alarm puts behind the consensus address. -/
def Alarm.suffix : Alarm → String
  | .inactive => "jailed"
  | .consecutive => "consecutive"
  | .percentage => "percent"
  | _ => ""

theorem key_eq_suffix {alarm : Alarm} (nodes : List NodeConfig)
    (chainWide : ∀ index, alarm ≠ .nodeDown index) :
    alarm.key nodes valcons = valcons ++ alarm.suffix := by
  cases alarm with
  | nodeDown index => exact absurd rfl (chainWide index)
  | _ => simp [Alarm.key, Alarm.suffix]

/-- An alarm of the whole chain does not have the key of a node's. -/
theorem KeysApart.not_watched (apart : KeysApart chain valcons) {alarm : Alarm}
    (enabled : Enabled chain alarm) (chainWide : ∀ index, alarm ≠ .nodeDown index) :
    alarm.key chain.nodes valcons ∉ watchedUrls chain.nodes := by
  cases alarm with
  | stalled => exact apart.address (.inl enabled)
  | noServers => exact apart.address (.inr enabled)
  | inactive => exact apart.jailed enabled
  | consecutive => exact apart.consecutive enabled
  | percentage => exact apart.percent enabled
  | nodeDown index => exact absurd rfl (chainWide index)

/-- Only the two alarms without a suffix have the same. -/
theorem suffix_inj {first second : Alarm} (firstWide : ∀ index, first ≠ .nodeDown index)
    (secondWide : ∀ index, second ≠ .nodeDown index) (same : first.suffix = second.suffix) :
    first = second ∨ (first = .stalled ∧ second = .noServers) ∨
      first = .noServers ∧ second = .stalled := by
  cases first <;> cases second <;> simp_all [Alarm.suffix]

theorem KeysApart.same_suffix (apart : KeysApart chain valcons) {first second : Alarm}
    (firstEnabled : Enabled chain first) (secondEnabled : Enabled chain second)
    (firstWide : ∀ index, first ≠ .nodeDown index) (secondWide : ∀ index, second ≠ .nodeDown index)
    (same : first.suffix = second.suffix) : first = second := by
  rcases suffix_inj firstWide secondWide same with rfl | ⟨rfl, rfl⟩ | ⟨rfl, rfl⟩
  · rfl
  · exact absurd ⟨firstEnabled, secondEnabled⟩ apart.bare
  · exact absurd ⟨secondEnabled, firstEnabled⟩ apart.bare

/-- Two watched nodes with one URL are one node. -/
theorem KeysApart.same_node (apart : KeysApart chain valcons) {first second : Nat}
    (firstEnabled : Enabled chain (.nodeDown first)) (secondEnabled : Enabled chain (.nodeDown second))
    (same : (Alarm.nodeDown first).key chain.nodes valcons =
      (Alarm.nodeDown second).key chain.nodes valcons) : first = second := by
  obtain ⟨one, oneListed, oneSwitch, oneKey⟩ := key_nodeDown valcons firstEnabled
  obtain ⟨two, twoListed, twoSwitch, twoKey⟩ := key_nodeDown valcons secondEnabled
  have url : one.url = two.url := by rw [← oneKey, ← twoKey, same]
  obtain ⟨oneBound, rfl⟩ := List.getElem?_eq_some_iff.mp oneListed
  obtain ⟨twoBound, rfl⟩ := List.getElem?_eq_some_iff.mp twoListed
  have pairs := List.pairwise_iff_getElem.mp ((nodup_watchedUrls chain.nodes).mp apart.urls)
  rcases Nat.lt_trichotomy first second with before | rfl | behind
  · exact absurd url (pairs first second oneBound twoBound before oneSwitch twoSwitch)
  · rfl
  · exact absurd url.symm (pairs second first twoBound oneBound behind twoSwitch oneSwitch)

/-- Under the condition a key belongs to one enabled alarm. -/
theorem KeysApart.inj (apart : KeysApart chain valcons) {first second : Alarm}
    (firstEnabled : Enabled chain first) (secondEnabled : Enabled chain second)
    (same : first.key chain.nodes valcons = second.key chain.nodes valcons) : first = second := by
  by_cases firstNode : ∃ index, first = .nodeDown index
  · obtain ⟨one, rfl⟩ := firstNode
    by_cases secondNode : ∃ index, second = .nodeDown index
    · obtain ⟨two, rfl⟩ := secondNode
      rw [apart.same_node firstEnabled secondEnabled same]
    · obtain ⟨node, listed, switch, key⟩ := key_nodeDown valcons firstEnabled
      have watched := mem_watchedUrls listed switch
      rw [← key, same] at watched
      exact absurd watched
        (apart.not_watched secondEnabled fun index here => secondNode ⟨index, here⟩)
  · have firstWide : ∀ index, first ≠ .nodeDown index := fun index here => firstNode ⟨index, here⟩
    by_cases secondNode : ∃ index, second = .nodeDown index
    · obtain ⟨two, rfl⟩ := secondNode
      obtain ⟨node, listed, switch, key⟩ := key_nodeDown valcons secondEnabled
      have watched := mem_watchedUrls listed switch
      rw [← key, ← same] at watched
      exact absurd watched (apart.not_watched firstEnabled firstWide)
    · have secondWide : ∀ index, second ≠ .nodeDown index := fun index here =>
        secondNode ⟨index, here⟩
      rw [key_eq_suffix _ firstWide, key_eq_suffix _ secondWide, String.append_right_inj] at same
      exact apart.same_suffix firstEnabled secondEnabled firstWide secondWide same

/-- The condition is what it takes that a key belongs to one enabled alarm. -/
theorem keysApart_of_inj
    (inj : ∀ first second, Enabled chain first → Enabled chain second →
      first.key chain.nodes valcons = second.key chain.nodes valcons → first = second) :
    KeysApart chain valcons := by
  have free : ∀ alarm, Enabled chain alarm → (∀ index, alarm ≠ .nodeDown index) →
      alarm.key chain.nodes valcons ∉ watchedUrls chain.nodes := by
    intro alarm enabled chainWide watched
    obtain ⟨index, node, key⟩ := nodeDown_of_watched valcons watched
    exact chainWide index (inj _ _ enabled node key.symm)
  refine ⟨?_, ?_, ?_, fun on => free .inactive on (by simp), fun on => free .consecutive on (by simp),
    fun on => free .percentage on (by simp)⟩
  · rintro ⟨stalled, servers⟩
    cases inj .stalled .noServers stalled servers rfl
  · rw [nodup_watchedUrls, List.pairwise_iff_getElem]
    intro one two oneBound twoBound before oneSwitch twoSwitch url
    have same := inj (.nodeDown one) (.nodeDown two)
      ⟨_, List.getElem?_eq_getElem oneBound, oneSwitch⟩
      ⟨_, List.getElem?_eq_getElem twoBound, twoSwitch⟩
      (by simp [Alarm.key, List.getElem?_eq_getElem oneBound, List.getElem?_eq_getElem twoBound, url])
    cases same
    exact absurd before (Nat.lt_irrefl _)
  · rintro (stalled | servers)
    · exact free .stalled stalled (by simp)
    · exact free .noServers servers (by simp)

end Keys

/-- Different alarms of a chain, of different kinds or of different nodes, have different dedup
keys in every run with one consensus address if and only if the settings, the watched URLs and
the address keep their keys apart. -/
theorem dedup_keys_apart_iff (config : Config) (name : String) (chain : ChainConfig)
    (valcons : String) :
    (∀ events, (∀ seen, .tick seen ∈ events → FixedValcons chain valcons seen) →
      ∀ first ∈ (run config chain events).2, ∀ second ∈ (run config chain events).2,
        first.alarm ≠ second.alarm →
        dedupKey config name chain first ≠ dedupKey config name chain second) ↔
    KeysApart chain valcons := by
  constructor
  · intro apart
    obtain ⟨ticks, emitsAll⟩ := outage_emits_all config chain valcons
    have fixed : ∀ seen,
        .tick seen ∈ outageRun chain valcons ticks ++ [.tick (recovery chain valcons)] →
        FixedValcons chain valcons seen := by
      intro seen member
      have same : (seen = outage chain valcons ∨ ¬ ticks = 0 ∧ seen = outage chain valcons) ∨
          seen = recovery chain valcons := by
        simpa [outageRun, or_assoc] using member
      rcases same with (rfl | ⟨-, rfl⟩) | rfl
      · exact outage_fixed chain valcons
      · exact outage_fixed chain valcons
      · exact recovery_fixed chain valcons
    refine keysApart_of_inj fun first second firstEnabled secondEnabled same => ?_
    obtain ⟨one, oneMember, rfl⟩ := emitsAll first firstEnabled
    obtain ⟨two, twoMember, rfl⟩ := emitsAll second secondEnabled
    rw [← (fixed_run_emission fixed oneMember).2, ← (fixed_run_emission fixed twoMember).2] at same
    by_contra different
    exact apart _ fixed one oneMember two twoMember different same
  · intro apart events fixed first firstMember second secondMember different same
    obtain ⟨firstEnabled, firstKey⟩ := fixed_run_emission fixed firstMember
    obtain ⟨secondEnabled, secondKey⟩ := fixed_run_emission fixed secondMember
    change first.id = second.id at same
    rw [firstKey, secondKey] at same
    exact different (apart.inj firstEnabled secondEnabled same)

/-- A chain with both of the alarms that use the bare consensus address. -/
def sharedKeyChain : ChainConfig :=
  { chainId := "osmosis-1", alerts := { stalled := 10, stalledAlerts := true, alertIfNoServers := true } }

/-- The endpoints fail and the chain stalls; when an endpoint answers again, the
resolution of the one alarm carries the dedup key of the other, which is still open. -/
theorem stalled_shares_dedup_key :
    let emitted := (run { nodeDownMin := 3 } sharedKeyChain
      (outageRun sharedKeyChain "osmovalcons1" 46 ++
        [.tick { outage sharedKeyChain "osmovalcons1" with unreachable := false }])).2
    emitted.map (fun emission => (emission.alarm, emission.resolved,
        dedupKey { nodeDownMin := 3 } "osmosis" sharedKeyChain emission)) =
      [(.stalled, false, "osmovalcons1"), (.noServers, false, "osmovalcons1"),
        (.noServers, true, "osmovalcons1")] := by
  decide +kernel

end Seer.Watch
