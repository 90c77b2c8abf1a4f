import Seer.Lib.Concurrent
import Seer.Node.Outage

/-!
# Since when a node is down

The time of an outage has three writers. `markDown` of endpoint selection sets it whenever
the node goes down, a failed probe does so only for a node with the alert setting, and a
passed probe leaves the Unix epoch, which the readers do not take for the zero time. Next to
each node the model keeps when its flag really went from up to down.
-/
namespace Seer.Node

open Seer.Lib

/-- A node and when its `down` flag last went from false to true. -/
structure Tracked where
  node : NodeConfig
  changed : Option Time := none

/-- The node after a write at a time. -/
def Tracked.write (tracked : Tracked) (now : Time) (node : NodeConfig) : Tracked :=
  { node := node
    changed := if !tracked.node.down && node.down then some now else tracked.changed }

/-- One critical section for one node of a chain, or a restart of the process. -/
inductive DownStep where
  | probeFailed (index : Nat) (message : String) (now : Instant)
  | probeSyncing (index : Nat) (now : Instant)
  | selectionFailed (index : Nat) (message : String) (syncing : Bool) (now : Instant)
  | probePassed (index : Nat) (now : Instant)
  /-- The state is saved and loaded by a new process. -/
  | restart (now : Instant)

/-- The nodes of a chain after one step. -/
def downStep (chainName : String) (nodes : List Tracked) : DownStep → List Tracked
  | .probeFailed index message now =>
    nodes.modify index fun tracked =>
      tracked.write now (markUnhealthy chainName message now tracked.node)
  | .probeSyncing index now =>
    nodes.modify index fun tracked => tracked.write now (markSyncing tracked.node)
  | .selectionFailed index message syncing now =>
    nodes.modify index fun tracked => tracked.write now (markDown message syncing now tracked.node)
  | .probePassed index now =>
    nodes.modify index fun tracked => tracked.write now (markHealthy tracked.node)
  | .restart now =>
    let saved := State.downTimes (nodes.map (·.node))
    nodes.map fun tracked =>
      tracked.write now (State.restoreNode saved (configured tracked.node))

def downRun (chainName : String) (nodes : List Tracked) (steps : List DownStep) : List Tracked :=
  steps.foldl (downStep chainName) nodes

/-- The nodes of a chain as the configuration has them. -/
def freshNodes (nodes : List NodeConfig) : List Tracked :=
  nodes.map fun node => { node := configured node }

/-- What `watch` emits for the node as `tenderduty_endpoint_down_seconds`, as a duration. -/
def endpointDownSeconds (node : NodeConfig) (now : Time) : Option Duration :=
  if node.down && !node.downSince.isZero then some (now.sub node.downSince) else none

/-- The step of a restart is what saving the configuration and loading it into a new
process does to the chain's nodes. -/
theorem downStep_restart_nodes (config : Config) (name : String) (chain fresh : ChainConfig)
    (present : config.chains[name]? = some chain) (nodesDown : Table String (Table String Time))
    (saved : (State.snapshotSavedState config).nodesDown = some nodesDown) (nodes : List Tracked)
    (same : nodes.map (·.node) = chain.nodes) (chainName : String) (now : Instant) :
    (downStep chainName nodes (.restart now)).map (·.node) =
      (State.restoreNodes nodesDown name
        { fresh with nodes := chain.nodes.map configured }).nodes := by
  rw [restoreNodes_saved config name chain fresh present nodesDown saved, ← same]
  simp [downStep, Tracked.write]

/-! ## The condition -/

/-- A failed probe takes a node without the alert setting down only while it has the zero
time, and a restart finds nodes with one URL in one state. -/
def TimesKept (nodes : List Tracked) : DownStep → Prop
  | .probeFailed index _ _ => ∀ tracked ∈ nodes[index]?, tracked.node.down = false →
      tracked.node.alertIfDown = false → tracked.node.downSince.isZero = true
  | .restart _ => ∀ tracked ∈ nodes, ∀ other ∈ nodes, tracked.node.url = other.node.url →
      other.node.down = true → other.node.downSince.isZero = false →
        tracked.node.down = true ∧ tracked.node.downSince = other.node.downSince
  | .probeSyncing _ _ => True
  | .selectionFailed _ _ _ _ => True
  | .probePassed _ _ => True

instance (nodes : List Tracked) (next : DownStep) : Decidable (TimesKept nodes next) := by
  cases next <;> (unfold TimesKept; infer_instance)

/-- A time other than zero is that of the change. -/
def Tracked.Dated (tracked : Tracked) : Prop :=
  tracked.node.down = true → tracked.node.downSince.isZero = false →
    tracked.changed = some tracked.node.downSince

section Writes
variable {tracked : Tracked}

/-- A write that leaves the flag and the time. -/
theorem Tracked.Dated.same (dated : tracked.Dated) {node : NodeConfig} (now : Time)
    (down : node.down = tracked.node.down) (since : node.downSince = tracked.node.downSince) :
    (tracked.write now node).Dated := by
  intro isDown nonzero
  have was : tracked.node.down = true := down.symm.trans isDown
  simp only [write, was, since, Bool.not_true, Bool.false_and] at nonzero ⊢
  exact dated was nonzero

theorem Tracked.Dated.markUnhealthy (dated : tracked.Dated) (name message : String)
    (now : Instant)
    (kept : tracked.node.down = false → tracked.node.alertIfDown = false →
      tracked.node.downSince.isZero = true) :
    (tracked.write now (Node.markUnhealthy name message now tracked.node)).Dated := by
  cases was : tracked.node.down with
  | true =>
    exact dated.same now (by simp [Node.markUnhealthy, was]) (by simp [Node.markUnhealthy, was])
  | false =>
    intro _ nonzero
    cases alert : tracked.node.alertIfDown with
    | true => simp [write, Node.markUnhealthy, was, alert]
    | false =>
      -- The node went down without a time, so a time it has would be an older one.
      simp [write, Node.markUnhealthy, was, alert, kept was alert] at nonzero

theorem Tracked.Dated.markDown (dated : tracked.Dated) (message : String) (syncing : Bool)
    (now : Instant) :
    (tracked.write now (Node.markDown message syncing now tracked.node)).Dated := by
  cases was : tracked.node.down with
  | true => exact dated.same now (by simp [Node.markDown, was]) (by simp [Node.markDown, was])
  | false =>
    intro _ _
    simp [write, Node.markDown, was]

theorem Tracked.dated_markHealthy (now : Time) :
    (tracked.write now (Node.markHealthy tracked.node)).Dated := by
  intro down
  simp [write, Node.markHealthy] at down

end Writes

/-- Every node of the chain is dated. -/
def AllDated (nodes : List Tracked) : Prop := ∀ tracked ∈ nodes, tracked.Dated

section Steps
variable {nodes : List Tracked}

theorem AllDated.modify (dated : AllDated nodes) (index : Nat) (change : Tracked → Tracked)
    (keeps : ∀ tracked ∈ nodes[index]?, tracked.Dated → (change tracked).Dated) :
    AllDated (nodes.modify index change) := by
  intro tracked member
  obtain ⟨position, found⟩ := List.mem_iff_getElem?.mp member
  rw [List.getElem?_modify] at found
  obtain ⟨old, present, rfl⟩ := Option.map_eq_some_iff.mp found
  have before := dated old (List.mem_of_getElem? present)
  split
  next here => exact keeps old (by rw [here, present]; rfl) before
  next => exact before

/-- A restart brings a node back as down with the time that was saved for its URL. -/
theorem AllDated.restart (dated : AllDated nodes) (now : Instant)
    (kept : TimesKept nodes (.restart now)) (chainName : String) :
    AllDated (downStep chainName nodes (.restart now)) := by
  intro after member
  obtain ⟨tracked, listed, rfl⟩ := List.mem_map.mp member
  intro down nonzero
  cases saved : (State.downTimes (nodes.map (·.node)))[tracked.node.url]? with
  | none => simp [Tracked.write, State.restoreNode, configured, saved] at down
  | some since =>
    by_cases zero : since.isZero = true
    · simp [Tracked.write, State.restoreNode, configured, saved, zero] at down
    · obtain ⟨node, source, url, wasDown, time⟩ := downTimes_source _ saved
      obtain ⟨other, otherListed, rfl⟩ := List.mem_map.mp source
      have same := kept tracked listed other otherListed url.symm wasDown
        (by simpa [time] using zero)
      have date := dated tracked listed same.1 (by simpa [same.2, time] using zero)
      -- It was down before, so the restart is no change of the flag.
      simp [Tracked.write, State.restoreNode, configured, saved, zero, same.1, date, same.2, time]

theorem AllDated.step (dated : AllDated nodes) (chainName : String) (next : DownStep)
    (kept : TimesKept nodes next) : AllDated (downStep chainName nodes next) := by
  cases next with
  | probeFailed index message now =>
    exact dated.modify index _ fun tracked here before =>
      before.markUnhealthy chainName message now (kept tracked here)
  | probeSyncing index now =>
    exact dated.modify index _ fun tracked _ before => before.same now rfl rfl
  | selectionFailed index message syncing now =>
    exact dated.modify index _ fun tracked _ before => before.markDown message syncing now
  | probePassed index now =>
    exact dated.modify index _ fun tracked _ _ => Tracked.dated_markHealthy now
  | restart now => exact dated.restart now kept chainName

end Steps

theorem freshNodes_dated (nodes : List NodeConfig) : AllDated (freshNodes nodes) := by
  intro tracked member
  obtain ⟨node, -, rfl⟩ := List.mem_map.mp member
  intro down
  simp [configured] at down

/-- In every run whose steps meet the condition, a node that is down with a time other than
zero has been down since then, and `watch` never emits more than the real duration. -/
theorem down_since_last_change (chainName : String) (configuration : List NodeConfig)
    (steps : List DownStep)
    (meets : Meeting (downStep chainName) TimesKept (freshNodes configuration) steps)
    (tracked : Tracked) (member : tracked ∈ downRun chainName (freshNodes configuration) steps) :
    (tracked.node.down = true → tracked.node.downSince.isZero = false →
      tracked.changed = some tracked.node.downSince) ∧
    ∀ now value, endpointDownSeconds tracked.node now = some value →
      ∃ since, tracked.changed = some since ∧ value ≤ now.sub since := by
  have dated : tracked.Dated :=
    meets.invariant (fun _ next dated kept => AllDated.step dated chainName next kept)
      (freshNodes_dated configuration) tracked member
  refine ⟨dated, fun now value emitted => ?_⟩
  unfold endpointDownSeconds at emitted
  split at emitted
  next shown =>
    simp only [Bool.and_eq_true, Bool.not_eq_true'] at shown
    exact ⟨tracked.node.downSince, dated shown.1 shown.2,
      Int.le_of_eq (Option.some.inj emitted).symm⟩
  next => cases emitted

/-- Two nodes, only the second with the alert setting. -/
def quietAndLoud : List NodeConfig :=
  [{ url := "http://quiet" }, { url := "http://loud", alertIfDown := true }]

/-- Both fail, pass and fail again, the first one at endpoint selection; then a restart. -/
def datedOutages : List DownStep :=
  [.probeFailed 0 "down" (atMinute 0), .probeFailed 1 "down" (atMinute 0),
    .probePassed 0 (atMinute 1), .probePassed 1 (atMinute 1),
    .selectionFailed 0 "down" false (atMinute 5), .probeFailed 1 "down" (atMinute 6),
    .restart (atMinute 7)]

theorem down_since_last_change_over_restart :
    let after := downRun "osmosis" (freshNodes quietAndLoud) datedOutages
    after.map (·.changed) = [some (atMinute 5).val, some (atMinute 6).val] ∧
    ∀ tracked ∈ after, tracked.node.down = true → tracked.node.downSince.isZero = false →
      tracked.changed = some tracked.node.downSince :=
  ⟨by decide +kernel, fun tracked member =>
    (down_since_last_change "osmosis" quietAndLoud datedOutages (by decide +kernel) tracked
      member).1⟩

/-- A node without the alert setting passes a probe and fails the next one, 55 years after
the epoch. -/
def quietRelapse : List Tracked :=
  downRun "osmosis" (freshNodes [{ url := "http://quiet" }])
    [.probePassed 0 (atMinute 29000000), .probeFailed 0 "down" (atMinute 29000001)]

/-- A minute later it is down since the epoch, and so long is what `watch` emits. -/
theorem quiet_relapse_down_since_epoch :
    quietRelapse.map (fun tracked => (tracked.node.down, tracked.node.downSince)) =
      [(true, unixEpoch)] ∧
    quietRelapse.map (·.changed) = [some (atMinute 29000001).val] ∧
    quietRelapse.map (fun tracked => endpointDownSeconds tracked.node (atMinute 29000002)) =
      [some (29000002 * minute)] := by
  decide +kernel

end Seer.Node
