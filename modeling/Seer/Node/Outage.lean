import Mathlib.Data.List.Induction
import Seer.Lib.Concurrent
import Seer.Node.Health
import Seer.State.Snapshot
import Seer.Watch.Tick

/-!
# The node-down alarm over restarts

One node with the alert setting, written by probes, by endpoint selection and by
restarts, and watched by the loop. `wasDown` means that the loop owes a resolution; it
is also set on a node that is restored as down, and it survives a relapse, and in both
cases the loop takes a long outage for one it has reported.
-/
namespace Seer.Node

open Seer.Lib Seer.Watch

/-- The node, the loop's variables for it, and all its alerts over all runs. -/
structure Outage where
  /-- The node's place in the chain's list. -/
  index : Nat
  node : NodeConfig
  nodeAlarms : String → Bool := fun _ => false
  /-- The copy of the node's state that the loop has taken and not yet acted on. -/
  reading : Option (NodeConfig × Instant) := none
  log : List Emission := []

inductive OutageStep where
  | probeFailed (message : String) (now : Instant)
  | probeSyncing
  | selectionFailed (message : String) (syncing : Bool) (now : Instant)
  | probePassed
  /-- A watch tick reads the node ... -/
  | read (now : Instant)
  /-- ... and acts on what it read; other steps may come between. -/
  | act
  /-- A clean restart: the state is saved and loaded by a new process. -/
  | restart

section Steps
variable (config : Config) (chain : ChainConfig)

/-- The node as a new process reads it from the configuration file. -/
def configured (node : NodeConfig) : NodeConfig :=
  { url := node.url, alertIfDown := node.alertIfDown }

/-- The same node after the saved state is applied. -/
def restarted (node : NodeConfig) : NodeConfig :=
  State.restoreNode (State.downTimes [node]) (configured node)

def outageStep (outage : Outage) : OutageStep → Outage
  | .probeFailed message now =>
    { outage with node := markUnhealthy chain.name message now outage.node }
  | .probeSyncing => { outage with node := markSyncing outage.node }
  | .selectionFailed message syncing now =>
    { outage with node := markDown message syncing now outage.node }
  | .probePassed => { outage with node := markHealthy outage.node }
  | .read now =>
    -- The loop is sequential: it reads again only after it has acted.
    if outage.reading.isNone then { outage with reading := some (outage.node, now) } else outage
  | .act =>
    match outage.reading with
    | none => outage
    | some (seen, now) =>
      let watched := watchNode config chain outage.nodeAlarms outage.index seen now
      let recovered := nodeAction config (outage.nodeAlarms seen.url) seen now == .recover
      { index := outage.index
        node := if recovered then { outage.node with wasDown := false } else outage.node
        nodeAlarms := watched.1
        reading := none
        log := outage.log ++ watched.2 }
  | .restart => { index := outage.index, node := restarted outage.node, log := outage.log }

/-- The last alert about the node is a trigger. -/
def unresolved (log : List Emission) : Bool :=
  (log.getLast?.map (!·.resolved)).getD false

/-- The condition on one step in the state it meets: a node that goes down while a
resolution is owed, or is down at a restart, has an unresolved trigger. -/
def Meets (outage : Outage) : OutageStep → Prop
  | .probeFailed _ _ => outage.node.down = false → outage.node.wasDown = true →
      unresolved outage.log = true
  | .selectionFailed _ _ _ => outage.node.down = false → outage.node.wasDown = true →
      unresolved outage.log = true
  | .restart => outage.node.down = true → unresolved outage.log = true
  | .probeSyncing => True
  | .probePassed => True
  | .read _ => True
  | .act => True

def outageRun (outage : Outage) (steps : List OutageStep) : Outage :=
  steps.foldl (outageStep config chain) outage

end Steps

/-- What holds between the steps of such a run. -/
structure OutageInv (outage : Outage) : Prop where
  switch : outage.node.alertIfDown = true
  /-- A down node for which the loop owes a resolution was reported. -/
  owed : outage.node.down = true → outage.node.wasDown = true → unresolved outage.log = true
  raised : outage.nodeAlarms outage.node.url = true → unresolved outage.log = true
  reading : ∀ seen now, outage.reading = some (seen, now) →
    seen.url = outage.node.url ∧ seen.alertIfDown = true ∧
      (seen.down = true → seen.wasDown = true → unresolved outage.log = true)

/-- What the probes and endpoint selection can do to the node: its identity stays, and
it is down while a resolution is owed only if it was before or goes down now. -/
structure Written (before after : NodeConfig) : Prop where
  url : after.url = before.url
  switch : after.alertIfDown = before.alertIfDown
  owed : after.down = true → after.wasDown = true → before.wasDown = true

theorem written_markUnhealthy (name message : String) (now : Instant) (node : NodeConfig) :
    Written node (markUnhealthy name message now node) := by
  unfold markUnhealthy
  constructor <;> grind

theorem written_markDown (message : String) (syncing : Bool) (now : Instant)
    (node : NodeConfig) : Written node (markDown message syncing now node) := by
  unfold markDown
  constructor <;> grind

theorem written_markHealthy (node : NodeConfig) : Written node (markHealthy node) := by
  unfold markHealthy
  constructor <;> grind

/-- A write that leaves a down node with a resolution owed needs a reported outage. -/
theorem OutageInv.write {outage : Outage} (inv : OutageInv outage) {node : NodeConfig}
    (written : Written outage.node node)
    (reported : outage.node.down = false → node.down = true → outage.node.wasDown = true →
      unresolved outage.log = true) :
    OutageInv { outage with node := node } where
  switch := written.switch.trans inv.switch
  owed := by
    intro down owed
    have before := written.owed down owed
    -- Either the node was down already, or this write turned it down.
    by_cases was : outage.node.down = true
    · exact inv.owed was before
    · exact reported (by simpa using was) down before
  raised := by
    intro raised
    rw [written.url] at raised
    exact inv.raised raised
  reading := by
    intro seen now read
    rw [written.url]
    exact inv.reading seen now read

theorem down_of_restarted {node : NodeConfig} (down : (restarted node).down = true) :
    node.down = true := by
  by_contra up
  have none : State.downTimes [node] = ∅ := by simp [State.downTimes, up]
  simp [restarted, State.restoreNode, configured, none] at down

theorem downTimes_concat (nodes : List NodeConfig) (last : NodeConfig) (url : String) :
    (State.downTimes (nodes ++ [last]))[url]? =
      if last.down = true ∧ last.url = url then some last.downSince
      else (State.downTimes nodes)[url]? := by
  simp only [State.downTimes, List.foldl_append, List.foldl_cons, List.foldl_nil]
  split
  next down => simp [Lib.Table.get_insert, down]
  next up => simp [up]

/-- A saved time is that of a node with the URL that is down. -/
theorem downTimes_source {url : String} {since : Time} (nodes : List NodeConfig)
    (listed : (State.downTimes nodes)[url]? = some since) :
    ∃ node ∈ nodes, node.url = url ∧ node.down = true ∧ node.downSince = since := by
  -- From the end, since a repeated URL keeps the time of its last node.
  induction nodes using List.reverseRecOn with
  | nil => simp [State.downTimes] at listed
  | append_singleton nodes last ih =>
    rw [downTimes_concat] at listed
    split at listed
    next here => exact ⟨last, by simp, here.2, here.1, Option.some.inj listed⟩
    next =>
      obtain ⟨node, earlier, rest⟩ := ih listed
      exact ⟨node, List.mem_append_left _ earlier, rest⟩

theorem downTimes_absent {url : String} (nodes : List NodeConfig)
    (absent : url ∉ nodes.map (·.url)) : (State.downTimes nodes)[url]? = none := by
  induction nodes using List.reverseRecOn with
  | nil => simp [State.downTimes]
  | append_singleton nodes last ih =>
    simp only [List.map_append, List.mem_append, not_or] at absent
    have other : last.url ≠ url := by
      intro same
      exact absent.2 (by simp [same])
    simp [downTimes_concat, other, ih absent.1]

/-- With different URLs each node finds its own time in the map of its chain. -/
theorem downTimes_lookup (nodes : List NodeConfig) (distinct : (nodes.map (·.url)).Nodup)
    (node : NodeConfig) (listed : node ∈ nodes) :
    (State.downTimes nodes)[node.url]? = if node.down then some node.downSince else none := by
  induction nodes using List.reverseRecOn with
  | nil => simp at listed
  | append_singleton nodes last ih =>
    rw [List.map_append, List.nodup_append] at distinct
    obtain ⟨before, -, apart⟩ := distinct
    rw [downTimes_concat]
    rcases List.mem_append.mp listed with earlier | here
    · have other : last.url ≠ node.url :=
        (apart node.url (List.mem_map_of_mem earlier) last.url (by simp)).symm
      simp [other, ih before earlier]
    · obtain rfl := List.mem_singleton.mp here
      -- The earlier nodes have other URLs, so they have left nothing under this one.
      have mine : node.url ∉ nodes.map (·.url) := fun there => apart _ there node.url (by simp) rfl
      simp [downTimes_absent nodes mine]

/-- Saving the configuration and restoring it into a new process applies the chain's saved
times to each of its nodes. -/
theorem restoreNodes_saved (config : Config) (name : String) (chain fresh : ChainConfig)
    (present : config.chains[name]? = some chain)
    (nodesDown : Table String (Table String Time))
    (saved : (State.snapshotSavedState config).nodesDown = some nodesDown) :
    (State.restoreNodes nodesDown name { fresh with nodes := chain.nodes.map configured }).nodes =
      chain.nodes.map fun node =>
        State.restoreNode (State.downTimes chain.nodes) (configured node) := by
  have entry : nodesDown[name]? =
      if chain.nodes.any (·.down) then some (State.downTimes chain.nodes) else none := by
    simp only [State.snapshotSavedState, Option.some.injEq] at saved
    rw [← saved, Std.ExtTreeMap.getElem?_filterMap', present]
    rfl
  simp only [State.restoreNodes, entry]
  split
  next times stored =>
    split at stored
    · cases stored
      rw [List.map_map]
      rfl
    · cases stored
  next none =>
    -- No node of the chain is down, so there is no entry and nothing to apply.
    have up : ∀ url : String, (State.downTimes chain.nodes)[url]? = .none := by
      intro url
      cases listed : (State.downTimes chain.nodes)[url]? with
      | none => rfl
      | some since =>
        obtain ⟨node, member, -, down, -⟩ := downTimes_source chain.nodes listed
        have any : chain.nodes.any (·.down) = true := List.any_eq_true.mpr ⟨node, member, down⟩
        simp [any] at none
    refine List.map_congr_left fun node _ => ?_
    simp [State.restoreNode, up]

/-- Saving the configuration and restoring it into a new process restarts every node of
a chain whose nodes have different URLs. -/
theorem restoreNodes_snapshot (config : Config) (name : String) (chain fresh : ChainConfig)
    (present : config.chains[name]? = some chain) (distinct : (chain.nodes.map (·.url)).Nodup)
    (nodesDown : Table String (Table String Time))
    (saved : (State.snapshotSavedState config).nodesDown = some nodesDown) :
    (State.restoreNodes nodesDown name { fresh with nodes := chain.nodes.map configured }).nodes =
      chain.nodes.map restarted := by
  rw [restoreNodes_saved config name chain fresh present nodesDown saved]
  refine List.map_congr_left fun node listed => ?_
  have alone := downTimes_lookup [node] (by simp) node (by simp)
  simp [restarted, State.restoreNode, configured, alone,
    downTimes_lookup chain.nodes distinct node listed]

theorem restarted_identity (node : NodeConfig) :
    (restarted node).url = node.url ∧ (restarted node).alertIfDown = node.alertIfDown := by
  unfold restarted State.restoreNode configured
  grind

/-- The new process has no readings and no raised alarms. -/
theorem OutageInv.restart {outage : Outage} (inv : OutageInv outage)
    (meets : Meets outage .restart) :
    OutageInv { index := outage.index, node := restarted outage.node, log := outage.log } where
  switch := (restarted_identity _).2.trans inv.switch
  owed := by
    intro down _
    exact meets (down_of_restarted down)
  raised := by
    intro raised
    simp at raised
  reading := by
    intro seen now read
    simp at read

theorem OutageInv.read {outage : Outage} (inv : OutageInv outage) (now : Instant) :
    OutageInv { outage with reading := some (outage.node, now) } where
  switch := inv.switch
  owed := inv.owed
  raised := inv.raised
  reading := by
    intro seen later read
    obtain ⟨rfl, -⟩ := Prod.mk.inj (Option.some.inj read)
    exact ⟨rfl, inv.switch, inv.owed⟩

theorem unresolved_concat (log : List Emission) (last : Emission) :
    unresolved (log ++ [last]) = !last.resolved := by
  simp [unresolved]

section Acts
variable (config : Config) (chain : ChainConfig)

/-- One action of the loop: it keeps the invariant, and after it a long outage that it
has read is reported. -/
theorem OutageInv.act {outage : Outage} (inv : OutageInv outage) :
    OutageInv (outageStep config chain outage .act) ∧
      ∀ seen now, outage.reading = some (seen, now) → longDown config seen now = true →
        unresolved (outageStep config chain outage .act).log = true := by
  cases read : outage.reading with
  | none => simpa [outageStep, read] using inv
  | some pair =>
    obtain ⟨seen, now⟩ := pair
    obtain ⟨url, switch, owed⟩ := inv.reading seen now read
    simp only [outageStep, read, watchNode, url]
    rcases nodeAction_cases config (outage.nodeAlarms outage.node.url) seen now with
      ⟨action, -⟩ | ⟨action, -, up, -⟩ | ⟨action, raised, -⟩
    -- A trigger is now the last alert, whatever the node has done since.
    · have last : unresolved
          (outage.log ++ [nodeDownAlert config chain outage.index seen false]) = true :=
        unresolved_concat _ _
      simp only [action]
      refine ⟨⟨inv.switch, fun _ _ => last, fun _ => last, ?_⟩, fun _ _ _ _ => last⟩
      intro _ _ none
      simp at none
    -- A resolution: nothing is owed and nothing is raised any more.
    · simp only [action]
      refine ⟨⟨inv.switch, ?_, ?_, ?_⟩, ?_⟩
      · intro _ owes
        simp at owes
      · intro still
        simp at still
      · intro _ _ none
        simp at none
      · intro other later same long
        obtain ⟨rfl, -⟩ := Prod.mk.inj (Option.some.inj same)
        simp [longDown, up] at long
    · simp only [action, List.append_nil]
      refine ⟨⟨inv.switch, inv.owed, inv.raised, ?_⟩, ?_⟩
      · intro _ _ none
        simp at none
      · intro other later same long
        obtain ⟨rfl, rfl⟩ := Prod.mk.inj (Option.some.inj same)
        -- Nothing is done for a long outage only if it is raised or taken for reported.
        by_cases was : seen.wasDown = true
        · have down : seen.down = true := by
            simp only [longDown, Bool.and_eq_true] at long
            exact long.1.1
          exact owed down was
        · exact inv.raised (raised switch (by simpa using was) long)

/-- Every step that meets the condition keeps the invariant. -/
theorem OutageInv.step {outage : Outage} (inv : OutageInv outage) (next : OutageStep)
    (meets : Meets outage next) : OutageInv (outageStep config chain outage next) := by
  cases next with
  | probeFailed message now =>
    exact inv.write (written_markUnhealthy _ _ _ _) fun up _ owed => meets up owed
  | probeSyncing =>
    refine inv.write ⟨rfl, rfl, fun _ owed => owed⟩ ?_
    intro up down
    simp [markSyncing, up] at down
  | selectionFailed message syncing now =>
    exact inv.write (written_markDown _ _ _ _) fun up _ owed => meets up owed
  | probePassed =>
    refine inv.write (written_markHealthy _) ?_
    intro _ down
    simp [markHealthy] at down
  | read now =>
    simp only [outageStep]
    split
    · exact inv.read now
    · exact inv
  | act => exact (inv.act config chain).1
  | restart => exact inv.restart meets

theorem OutageInv.run {outage : Outage} (inv : OutageInv outage) (steps : List OutageStep)
    (meets : Meeting (outageStep config chain) Meets outage steps) :
    OutageInv (outageRun config chain outage steps) :=
  meets.invariant (fun _ next kept met => kept.step config chain next met) inv

end Acts

/-- A node of the configuration that has never been down. -/
def freshOutage (index : Nat) (url : String) : Outage :=
  { index := index, node := { url := url, alertIfDown := true } }

theorem freshOutage_inv (index : Nat) (url : String) : OutageInv (freshOutage index url) where
  switch := rfl
  owed := by
    intro down
    simp [freshOutage] at down
  raised := by
    intro raised
    simp [freshOutage] at raised
  reading := by
    intro _ _ read
    simp [freshOutage] at read

/-- In every run whose steps meet the condition, after every tick that has read a node
which is down for longer than the threshold, the last node-down alert is a trigger. -/
theorem long_outage_reported (config : Config) (chain : ChainConfig) (index : Nat) (url : String)
    (steps : List OutageStep)
    (meets : Meeting (outageStep config chain) Meets (freshOutage index url) steps)
    (seen : NodeConfig) (now : Instant)
    (read : (outageRun config chain (freshOutage index url) steps).reading = some (seen, now))
    (long : longDown config seen now = true) :
    unresolved (outageStep config chain
      (outageRun config chain (freshOutage index url) steps) .act).log = true := by
  have inv := (freshOutage_inv index url).run config chain steps meets
  exact (inv.act config chain).2 seen now read long

instance (outage : Outage) (next : OutageStep) : Decidable (Meets outage next) := by
  cases next <;> (unfold Meets; infer_instance)

def threeMinutes : Config := { nodeDownMin := 3, nodeDownSeverity := "critical" }

def osmosis : ChainConfig := { name := "osmosis", chainId := "osmosis-1" }

/-- The clock so many minutes after the first probe. -/
def atMinute (count : Nat) : Instant :=
  Instant.after ⟨unixEpoch, Int.le_refl _⟩ (60 * 10 ^ 9 * count)

/-- A reported outage that goes on over a restart. -/
def reportedOutage : List OutageStep :=
  [.probeFailed "down" (atMinute 0), .read (atMinute 4), .act, .restart,
    .selectionFailed "down" false (atMinute 5)]

/-- The node of the run just before its last reading. -/
def reportedNode : NodeConfig :=
  (outageRun threeMinutes osmosis (freshOutage 0 "http://127.0.0.1") reportedOutage).node

theorem long_outage_reported_over_restart :
    longDown threeMinutes reportedNode (atMinute 6) = true ∧
    unresolved (outageStep threeMinutes osmosis (outageRun threeMinutes osmosis
      (freshOutage 0 "http://127.0.0.1") (reportedOutage ++ [.read (atMinute 6)])) .act).log = true :=
  ⟨by decide +kernel,
    long_outage_reported threeMinutes osmosis 0 "http://127.0.0.1" _ (by decide +kernel)
      reportedNode (atMinute 6) (by decide +kernel) (by decide +kernel)⟩

/-- A restart within the first three minutes of an outage. -/
def earlyRestart : Outage :=
  outageRun threeMinutes osmosis (freshOutage 0 "http://127.0.0.1")
    [.probeFailed "down" (atMinute 0), .restart]

/-- An outage that begins again before the loop has seen the node up. -/
def earlyRelapse : Outage :=
  outageRun threeMinutes osmosis (freshOutage 0 "http://127.0.0.1")
    [.probeFailed "down" (atMinute 0), .probePassed, .probeFailed "down" (atMinute 2)]

/-- Both times the loop reads a node that has been down for about an hour, and no trigger
was ever sent. -/
theorem restart_and_relapse_unreported :
    (longDown threeMinutes earlyRestart.node (atMinute 60) = true ∧
      (outageRun threeMinutes osmosis earlyRestart [.read (atMinute 60), .act]).log = []) ∧
    longDown threeMinutes earlyRelapse.node (atMinute 60) = true ∧
      (outageRun threeMinutes osmosis earlyRelapse [.read (atMinute 60), .act]).log = [] := by
  decide +kernel

end Seer.Node
