import Mathlib.Data.List.Induction
import Seer.Watch.Tick

/-!
# What a step of the loop can emit

One inversion for all emission sites: which alert was rendered, from which of the
values read at the tick, and which setting allowed it.
-/
namespace Seer.Watch

/-- The alerts that a tick in a given state can emit. -/
inductive Emits (config : Config) (chain : ChainConfig) (state : State) (seen : Seen) :
    Emission → Prop where
  | waitServers (waiting : state.waiting = true) (enabled : chain.alerts.alertIfNoServers = true)
      (lowered : state.servers.noNodes = false) (unreachable : seen.unreachable = true)
      (late : state.servers.noNodesSec ≥ wrap64 (60 * config.nodeDownMin)) :
      Emits config chain state seen (noServersAlert chain (valconsOf seen.valInfo) false)
  | servers {info : ValInfo} (main : state.waiting = false) (found : seen.valInfo = some info)
      (enabled : chain.alerts.alertIfNoServers = true) (resolved : Bool) :
      Emits config chain state seen (noServersAlert chain info.valcons resolved)
  | stalled (main : state.waiting = false) (found : seen.valInfo.isSome = true)
      (enabled : chain.alerts.stalledAlerts = true) (resolved : Bool) :
      Emits config chain state seen (stalledAlert chain seen.stalledInfo resolved)
  | inactive {info : ValInfo} (main : state.waiting = false) (found : seen.valInfo = some info)
      (enabled : chain.alerts.alertIfInactive = true) {reason : String}
      (reasoned : reason = state.inactive ∨ reason = tombstonedReason) (resolved : Bool) :
      Emits config chain state seen (inactiveAlert info reason resolved)
  | consecutive {info : ValInfo} (main : state.waiting = false) (found : seen.valInfo = some info)
      (resolved : Bool)
      (enabled : chain.alerts.consecutiveAlerts = true ∨
        (resolved = true ∧ state.missedAlarm = true)) :
      Emits config chain state seen (consecutiveAlert chain info resolved)
  | percentage {info : ValInfo} (main : state.waiting = false)
      (found : seen.valInfo.isSome = true) (read : seen.percentInfo = some info)
      (enabled : chain.alerts.percentageAlerts = true) (resolved : Bool) :
      Emits config chain state seen (percentageAlert chain info resolved)
  | nodeDown {index : Nat} {node : NodeConfig × Instant} (main : state.waiting = false)
      (found : seen.valInfo.isSome = true) (listed : seen.nodes[index]? = some node)
      (enabled : node.1.alertIfDown = true) (resolved : Bool) :
      Emits config chain state seen (nodeDownAlert config chain index node.1 resolved)

/-- A node seen at a tick is the chain's node at the same place. -/
theorem get_of_nodeSettings {chain : ChainConfig} {nodes : List (NodeConfig × Instant)}
    (same : nodeSettings (nodes.map Prod.fst) = nodeSettings chain.nodes) {index : Nat}
    {node : NodeConfig × Instant} (listed : nodes[index]? = some node) :
    ∃ own, chain.nodes[index]? = some own ∧ own.url = node.1.url ∧
      own.alertIfDown = node.1.alertIfDown := by
  have setting : (nodeSettings chain.nodes)[index]? = some (node.1.url, node.1.alertIfDown) := by
    rw [← same]
    simp [nodeSettings, listed]
  simp only [nodeSettings, List.getElem?_map, Option.map_eq_some_iff] at setting
  obtain ⟨own, member, pair⟩ := setting
  obtain ⟨url, switch⟩ := Prod.mk.inj pair
  exact ⟨own, member, url, switch⟩

section Parts
variable {config : Config} {chain : ChainConfig} {emission : Emission}

theorem mem_watchServers {servers : Servers} {valcons : String} {unreachable : Bool}
    (member : emission ∈ (watchServers config chain servers valcons unreachable).2) :
    chain.alerts.alertIfNoServers = true ∧
      ∃ resolved, emission = noServersAlert chain valcons resolved := by
  unfold watchServers at member
  split at member
  next raising =>
    dsimp only at member
    split at member
    · simp at member
    · exact ⟨by simp_all, false, by simpa using member⟩
  next =>
    split at member
    next clearing => exact ⟨by simp_all, true, by simpa using member⟩
    next => simp at member

theorem mem_waitServers {servers : Servers} {seen : Option ValInfo} {unreachable : Bool}
    (member : emission ∈ (waitServers config chain servers seen unreachable).2.2) :
    emission = noServersAlert chain (valconsOf seen) false ∧
      chain.alerts.alertIfNoServers = true ∧ servers.noNodes = false ∧ unreachable = true ∧
      servers.noNodesSec ≥ wrap64 (60 * config.nodeDownMin) := by
  unfold waitServers at member
  split at member
  · dsimp only at member
    split at member
    next raised =>
      simp only [Bool.and_eq_true, Bool.not_eq_true', decide_eq_true_eq] at raised
      obtain ⟨⟨⟨enabled, lowered⟩, unreachable⟩, late⟩ := raised
      exact ⟨List.mem_singleton.mp member, enabled, lowered, unreachable, late⟩
    next => simp at member
  · simp at member

theorem mem_checkStalledAlert {alertState : AlertState} {now : Time} {seen : Option ValInfo}
    (member : emission ∈ (checkStalledAlert chain alertState now seen).2) :
    chain.alerts.stalledAlerts = true ∧
      ∃ resolved, emission = stalledAlert chain seen resolved := by
  unfold checkStalledAlert at member
  split at member
  next raising => exact ⟨by simp_all, false, by simpa using member⟩
  next =>
    split at member
    next clearing => exact ⟨by simp_all, true, by simpa using member⟩
    next => simp at member

theorem mem_watchInactive {inactive : String} {info : ValInfo} {last : Option ValInfo}
    (member : emission ∈ (watchInactive chain inactive info last).2) :
    chain.alerts.alertIfInactive = true ∧ ∃ reason resolved,
      (reason = inactive ∨ reason = tombstonedReason) ∧
      emission = inactiveAlert info reason resolved := by
  unfold watchInactive at member
  cases last with
  | none => simp at member
  | some last =>
    dsimp only at member
    split at member
    next changed =>
      have enabled : chain.alerts.alertIfInactive = true := by simp_all
      split at member
      -- A tombstoning overwrites the reason for good, so both texts can occur.
      · refine ⟨enabled, _, false, ?_, by simpa using member⟩
        cases info.tombstoned <;> simp
      · split at member
        · exact ⟨enabled, _, true, .inl rfl, by simpa using member⟩
        · simp at member
    next => simp at member

theorem mem_watchConsecutive {missedAlarm : Bool} {info : ValInfo} {missed : Nat}
    (member : emission ∈ (watchConsecutive chain missedAlarm info missed).2) :
    ∃ resolved, (chain.alerts.consecutiveAlerts = true ∨ (resolved = true ∧ missedAlarm = true)) ∧
      emission = consecutiveAlert chain info resolved := by
  unfold watchConsecutive at member
  split at member
  next raising => exact ⟨false, .inl (by simp_all), by simpa using member⟩
  next =>
    split at member
    next clearing => exact ⟨true, .inr ⟨rfl, by simp_all⟩, by simpa using member⟩
    next => simp at member

theorem mem_checkPercentageAlert {percentageAlarm : Bool} {seen : Option ValInfo}
    (member : emission ∈ (checkPercentageAlert chain percentageAlarm seen).2) :
    chain.alerts.percentageAlerts = true ∧
      ∃ info resolved, seen = some info ∧ emission = percentageAlert chain info resolved := by
  unfold checkPercentageAlert at member
  cases seen with
  | none => simp at member
  | some info =>
    dsimp only at member
    split at member
    · simp at member
    next checked =>
      have enabled : chain.alerts.percentageAlerts = true := by simp_all
      split at member
      · exact ⟨enabled, info, false, rfl, by simpa using member⟩
      · split at member
        · exact ⟨enabled, info, true, rfl, by simpa using member⟩
        · simp at member

theorem mem_watchNode {nodeAlarms : String → Bool} {index : Nat} {node : NodeConfig} {now : Time}
    (member : emission ∈ (watchNode config chain nodeAlarms index node now).2) :
    node.alertIfDown = true ∧
      ∃ resolved, emission = nodeDownAlert config chain index node resolved := by
  unfold watchNode at member
  rcases nodeAction_cases config (nodeAlarms node.url) node now with
    ⟨action, switch, -⟩ | ⟨action, switch, -⟩ | ⟨action, -⟩
  · rw [action] at member
    exact ⟨switch, false, by simpa using member⟩
  · rw [action] at member
    exact ⟨switch, true, by simpa using member⟩
  · rw [action] at member
    simp at member

theorem mem_watchNodes {nodeAlarms : String → Bool} {start : Nat}
    {nodes : List (NodeConfig × Instant)}
    (member : emission ∈ (watchNodes config chain nodeAlarms start nodes).2) :
    ∃ index node, nodes[index]? = some node ∧ node.1.alertIfDown = true ∧
      ∃ resolved, emission = nodeDownAlert config chain (start + index) node.1 resolved := by
  induction nodes generalizing nodeAlarms start with
  | nil => simp [watchNodes] at member
  | cons first later ih =>
    rcases List.mem_append.mp member with here | rest
    · exact ⟨0, first, rfl, mem_watchNode here⟩
    · obtain ⟨index, node, listed, switch, resolved, rfl⟩ := ih rest
      exact ⟨index + 1, node, listed, switch, resolved, by rw [Nat.add_assoc, Nat.add_comm 1]⟩

theorem mem_mainTick {state : State} {seen : Seen} (main : state.waiting = false)
    (member : emission ∈ (mainTick config chain state seen).2) :
    Emits config chain state seen emission := by
  unfold mainTick at member
  cases found : seen.valInfo with
  | none => simp [found] at member
  | some info =>
    rw [found] at member
    simp only [List.mem_append] at member
    have some : seen.valInfo.isSome = true := by simp [found]
    rcases member with ((((servers | stalled) | inactive) | consecutive) | percentage) | nodes
    · obtain ⟨enabled, resolved, rfl⟩ := mem_watchServers servers
      exact .servers main found enabled resolved
    · obtain ⟨enabled, resolved, rfl⟩ := mem_checkStalledAlert stalled
      exact .stalled main some enabled resolved
    · obtain ⟨enabled, reason, resolved, reasoned, rfl⟩ := mem_watchInactive inactive
      exact .inactive main found enabled reasoned resolved
    · obtain ⟨resolved, enabled, rfl⟩ := mem_watchConsecutive consecutive
      exact .consecutive main found resolved enabled
    · obtain ⟨enabled, read, resolved, present, rfl⟩ := mem_checkPercentageAlert percentage
      exact .percentage main some present enabled resolved
    · obtain ⟨index, node, listed, enabled, resolved, rfl⟩ := mem_watchNodes nodes
      rw [Nat.zero_add]
      exact .nodeDown main some listed enabled resolved

theorem emits_of_mem_tick {state : State} {seen : Seen}
    (member : emission ∈ (tick config chain state seen).2) :
    Emits config chain state seen emission := by
  unfold tick at member
  split at member
  next waiting =>
    obtain ⟨rfl, enabled, lowered, unreachable, late⟩ := mem_waitServers member
    exact .waitServers waiting enabled lowered unreachable late
  next main => exact mem_mainTick (by simpa using main) member

/-- Everything a run emitted was emitted by one of its ticks. -/
theorem emits_of_mem_run {events : List Event} (member : emission ∈ (run config chain events).2) :
    ∃ earlier seen later, events = earlier ++ .tick seen :: later ∧
      Emits config chain (run config chain earlier).1 seen emission := by
  -- From the last event backwards: the emitting tick needs the state before it.
  induction events using List.reverseRecOn with
  | nil => simp [run, runFrom] at member
  | append_singleton events event ih =>
    rw [run_concat, List.mem_append] at member
    rcases member with old | new
    · obtain ⟨earlier, seen, later, split, emits⟩ := ih old
      exact ⟨earlier, seen, later ++ [event], by simp [split], emits⟩
    · cases event with
      | tick seen => exact ⟨events, seen, [], rfl, emits_of_mem_tick new⟩
      | block now => simp [step] at new

end Parts

end Seer.Watch
