import Seer.Node.Outage
import Seer.Node.Shutdown

/-!
# Which nodes a checkpoint lists as down

A node that is up when `cancel` is called can be marked down afterwards: by a try that
fails for a reason of its own, and by one that the cancellation ended. The invariant says
of every node that is down since then why it is, and is kept by every step but a mark of
the second kind.
-/
namespace Seer.Node

open Seer.Lib
open Seer.Runtime (Process Action Durable)

/-! ## What a checkpoint may contain -/

/-- A node that is down was down in `old`, or one of its tries failed after the
cancellation for a reason of its own. -/
def Explained (old chains : Table String ChainConfig) (failures : List Failure) : Prop :=
  ∀ name index node, nodeAt chains name index = some node →
    ∃ before, nodeAt old name index = some before ∧ before.url = node.url ∧
      (node.down = true → before.down = true ∨ ⟨name, index, true⟩ ∈ failures)

/-- The same for every entry of a saved state. -/
def Accounted (old : Table String ChainConfig) (failures : List Failure) (saved : SavedState) :
    Prop :=
  ∀ (nodesDown : Table String (Table String Time)) (name : String) (times : Table String Time)
    (url : String) (since : Time), saved.nodesDown = some nodesDown →
    nodesDown[name]? = some times → times[url]? = some since →
    ∃ index before, nodeAt old name index = some before ∧ before.url = url ∧
      (before.down = true ∨ ⟨name, index, true⟩ ∈ failures)

/-- A checkpoint lists only nodes that were down when `cancel` was called or whose tries
failed for a reason of their own. -/
def NoInventedOutage (monitored : Monitored) : Prop :=
  ∀ saved, checkpointed monitored.runtime.body = some saved →
    ∃ old, monitored.atCancel = some old ∧ Accounted old monitored.failures saved

section Nodes
variable {old chains : Table String ChainConfig} {failures : List Failure}

theorem nodeAt_updateNode (chains : Table String ChainConfig) (name other : String)
    (index i : Nat) (change : NodeConfig → NodeConfig) :
    nodeAt (updateNode chains name index change) other i =
      if other = name ∧ i = index then (nodeAt chains name index).map change
      else nodeAt chains other i := by
  unfold updateNode
  cases present : chains[name]? with
  | none =>
    by_cases here : other = name ∧ i = index
    · simp [here, nodeAt, present]
    · simp [here]
  | some chain =>
    by_cases named : other = name
    · subst named
      by_cases here : i = index
      · simp [nodeAt, present, here]
      · have elsewhere : index ≠ i := fun same => here same.symm
        simp [nodeAt, present, here, elsewhere]
    · simp [nodeAt, Table.get_insert, named, Ne.symm named]

theorem Explained.refl : Explained old old failures := by
  intro name index node found
  exact ⟨node, found, rfl, fun down => .inl down⟩

theorem Explained.mono {more : List Failure} (explained : Explained old chains failures)
    (sub : failures ⊆ more) : Explained old chains more := by
  intro name index node found
  obtain ⟨before, was, url, why⟩ := explained name index node found
  exact ⟨before, was, url, fun down => (why down).imp_right fun member => sub member⟩

theorem Accounted.mono {saved : SavedState} {more : List Failure}
    (accounted : Accounted old failures saved) (sub : failures ⊆ more) :
    Accounted old more saved := by
  intro nodesDown name times url since stored entry listed
  obtain ⟨index, before, was, same, why⟩ := accounted nodesDown name times url since stored entry listed
  exact ⟨index, before, was, same, why.imp_right fun member => sub member⟩

/-- Changing one node keeps the explanation if the change brings a node down only with a
failure to blame. -/
theorem Explained.updateNode (explained : Explained old chains failures) (name : String)
    (index : Nat) (change : NodeConfig → NodeConfig)
    (sound : ∀ node, nodeAt chains name index = some node → (change node).url = node.url ∧
      ((change node).down = true → node.down = true ∨ ⟨name, index, true⟩ ∈ failures)) :
    Explained old (updateNode chains name index change) failures := by
  intro other i node found
  rw [nodeAt_updateNode] at found
  split at found
  next here =>
    obtain ⟨rfl, rfl⟩ := here
    obtain ⟨previous, present, rfl⟩ := Option.map_eq_some_iff.mp found
    obtain ⟨url, down⟩ := sound previous present
    obtain ⟨before, was, same, why⟩ := explained _ _ previous present
    refine ⟨before, was, same.trans url.symm, fun isDown => ?_⟩
    rcases down isDown with already | blamed
    · exact why already
    · exact .inr blamed
  next => exact explained other i node found

/-- A write that keeps every URL and flag keeps the explanation. -/
theorem Explained.insert (explained : Explained old chains failures) {name : String}
    {chain : ChainConfig} (same : chains[name]?.map downFlags = some (downFlags chain)) :
    Explained old (chains.insert name chain) failures := by
  intro other i node found
  by_cases named : other = name
  · subst named
    -- The node at this position before the write has the same URL and flag.
    obtain ⟨previous, present, flags⟩ := Option.map_eq_some_iff.mp same
    have here : chain.nodes[i]? = some node := by simpa [nodeAt] using found
    have pair : (downFlags previous)[i]? = some (node.url, node.down) := by
      rw [flags, downFlags, List.getElem?_map, here]
      rfl
    rw [downFlags, List.getElem?_map] at pair
    obtain ⟨earlier, listed, parts⟩ := Option.map_eq_some_iff.mp pair
    obtain ⟨url, down⟩ := Prod.mk.inj parts
    obtain ⟨before, was, origin, why⟩ := explained other i earlier (by simp [nodeAt, present, listed])
    exact ⟨before, was, origin.trans url, fun isDown => why (down.trans isDown)⟩
  · apply explained other i node
    simpa [nodeAt, Table.get_insert, Ne.symm named] using found

/-- An entry of the saved times is a node that is down. -/
theorem downTimes_entry {url : String} {since : Time} (nodes : List NodeConfig)
    (listed : (State.downTimes nodes)[url]? = some since) :
    ∃ (index : Nat) (node : NodeConfig), nodes[index]? = some node ∧ node.url = url ∧
      node.down = true := by
  obtain ⟨node, member, same, down, -⟩ := downTimes_source nodes listed
  obtain ⟨index, found⟩ := List.mem_iff_getElem?.mp member
  exact ⟨index, node, found, same, down⟩

theorem Explained.accounted {durable : Durable} (config : Config)
    (explained : Explained old durable.chains failures) :
    Accounted old failures (durable.saved config) := by
  intro nodesDown name times url since stored entry listed
  simp only [Durable.saved, State.snapshotSavedState, Option.some.injEq] at stored
  rw [← stored, Std.ExtTreeMap.getElem?_filterMap', Option.bind_eq_some_iff] at entry
  obtain ⟨chain, present, kept⟩ := entry
  split at kept
  -- A chain has an entry only if one of its nodes is down.
  · cases kept
    obtain ⟨index, node, found, rfl, down⟩ := downTimes_entry chain.nodes listed
    obtain ⟨before, was, same, why⟩ := explained name index node (by simp [nodeAt, present, found])
    exact ⟨index, before, was, same, why down⟩
  · cases kept

end Nodes

/-! ## The condition -/

/-- A try that the cancellation ended is for a node that is down already. -/
def meets (monitored : Monitored) : ShutdownStep → Bool
  | .markProbe name index _ =>
    match monitored.probe name index with
    | some (.answered .cancelled) => (nodeAt monitored.chains name index).all (·.down)
    | _ => true
  | .selected who name (.mark _) =>
    match (monitored.work name).place who with
    | .selecting (.answered index _ .cancelled) =>
      (nodeAt monitored.chains name index).all (·.down)
    | _ => true
  | _ => true

structure ShutdownInv (monitored : Monitored) : Prop where
  recorded : monitored.atCancel.isSome = cancelled monitored.runtime.body
  kept : ∀ old, monitored.atCancel = some old →
    Explained old monitored.chains monitored.failures
  saved : NoInventedOutage monitored

section Invariant
variable {config : Config} {starts : Monitor → String → Nat} {monitored : Monitored}

/-- A write by a monitor changes the chains or, if the monitor has returned, nothing. -/
theorem monitorWrite_effect (runtime : Process) (m : Nat) (chains : Table String ChainConfig) :
    (Runtime.monitorWrite runtime m chains).body = runtime.body ∧
      ((Runtime.monitorWrite runtime m chains).durable.chains = chains ∨
        (Runtime.monitorWrite runtime m chains).durable.chains = runtime.durable.chains) := by
  unfold Runtime.monitorWrite
  split
  · exact ⟨rfl, .inl rfl⟩
  · exact ⟨rfl, .inr rfl⟩

theorem monitorReturn_effect (runtime : Process) (m : Nat) :
    (Runtime.monitorReturn runtime m).body = runtime.body ∧
      (Runtime.monitorReturn runtime m).durable = runtime.durable := by
  unfold Runtime.monitorReturn
  split
  · exact ⟨rfl, rfl⟩
  · exact ⟨rfl, rfl⟩

/-- The invariant after a step that leaves the shutdown where it is. -/
theorem ShutdownInv.carry (inv : ShutdownInv monitored) {next : Monitored}
    (body : next.runtime.body = monitored.runtime.body)
    (atCancel : next.atCancel = monitored.atCancel)
    (failures : monitored.failures ⊆ next.failures)
    (chains : ∀ old, monitored.atCancel = some old → Explained old next.chains next.failures) :
    ShutdownInv next where
  recorded := by rw [atCancel, body]; exact inv.recorded
  kept := by rw [atCancel]; exact chains
  saved := by
    intro saved stored
    rw [body] at stored
    obtain ⟨old, was, accounted⟩ := inv.saved saved stored
    exact ⟨old, atCancel.trans was, accounted.mono failures⟩

theorem ShutdownInv.work (inv : ShutdownInv monitored) (work : String → Work) :
    ShutdownInv { monitored with work := work } :=
  inv.carry rfl rfl (List.Subset.refl _) inv.kept

theorem ShutdownInv.setWork (inv : ShutdownInv monitored) (name : String) (work : Work) :
    ShutdownInv (monitored.setWork name work) :=
  inv.work _

theorem ShutdownInv.setProbe (inv : ShutdownInv monitored) (name : String) (index : Nat)
    (probe : Probe) : ShutdownInv (monitored.setProbe name index probe) :=
  inv.work _

theorem ShutdownInv.setPlace (inv : ShutdownInv monitored) (who : Monitor) (name : String)
    (place : Place) : ShutdownInv (monitored.setPlace who name place) :=
  inv.work _

theorem ShutdownInv.leave (inv : ShutdownInv monitored) (m : Nat) :
    ShutdownInv (monitored.leave m) := by
  obtain ⟨body, durable⟩ := monitorReturn_effect monitored.runtime m
  refine inv.carry body rfl (List.Subset.refl _) fun old was => ?_
  rw [Monitored.leave, Monitored.chains, durable]
  exact inv.kept old was

theorem ShutdownInv.write (inv : ShutdownInv monitored) (m : Nat)
    {chains : Table String ChainConfig}
    (explained : ∀ old, Explained old monitored.chains monitored.failures →
      Explained old chains monitored.failures) :
    ShutdownInv { monitored with runtime := Runtime.monitorWrite monitored.runtime m chains } := by
  obtain ⟨body, written | refused⟩ := monitorWrite_effect monitored.runtime m chains
  · refine inv.carry body rfl (List.Subset.refl _) fun old was => ?_
    rw [Monitored.chains, written]
    exact explained old (inv.kept old was)
  · refine inv.carry body rfl (List.Subset.refl _) fun old was => ?_
    rw [Monitored.chains, refused]
    exact inv.kept old was

/-- Blaming a node before it is marked. -/
theorem ShutdownInv.blame (inv : ShutdownInv monitored) (failure : Failure) :
    ShutdownInv { monitored with failures := monitored.failures ++ [failure] } :=
  have more : monitored.failures ⊆ monitored.failures ++ [failure] :=
    List.subset_append_left _ _
  inv.carry rfl rfl more fun old was => (inv.kept old was).mono more

/-- A mark keeps the invariant if it keeps the URL and brings a node down only with a
failure to blame. -/
theorem ShutdownInv.mark (inv : ShutdownInv monitored) (m : Nat) (name : String) (index : Nat)
    (change : NodeConfig → NodeConfig) (blamed : Bool)
    (url : ∀ node, (change node).url = node.url)
    (sound : ∀ node, nodeAt monitored.chains name index = some node →
      (change node).down = true → node.down = true ∨ blamed = true) :
    ShutdownInv (monitored.mark m name index change blamed) := by
  cases blamed with
  | false =>
    -- Nothing to blame, so the node was down before the mark.
    refine inv.write m fun old explained => explained.updateNode name index change ?_
    intro node present
    refine ⟨url node, fun down => .inl ?_⟩
    rcases sound node present down with already | blamed
    · exact already
    · cases blamed
  | true =>
    have blame := inv.blame ⟨name, index, cancelled monitored.runtime.body⟩
    cases was : monitored.atCancel with
    | none =>
      -- Nothing is claimed of the chains before the cancellation.
      have body := (monitorWrite_effect monitored.runtime m
        (updateNode monitored.chains name index change)).1
      refine inv.carry body rfl (List.subset_append_left _ _) fun old now => ?_
      rw [was] at now
      cases now
    | some old =>
      have late : cancelled monitored.runtime.body = true := by
        rw [← inv.recorded, was]
        rfl
      -- The failure is noted first; then the mark has it to blame.
      rw [Monitored.mark, late]
      rw [late] at blame
      refine blame.write m fun _ explained => explained.updateNode name index change ?_
      intro node _
      exact ⟨url node, fun _ => .inr (by simp)⟩

/-! ### The runtime's own steps -/

/-- What an action of the runtime that is not a monitor's write does to the chains and to
the shutdown. -/
structure Advances (config : Config) (runtime next : Process) : Prop where
  chains : next.durable.chains = runtime.durable.chains
  stays : cancelled runtime.body = true → cancelled next.body = true
  saved : ∀ saved, checkpointed next.body = some saved → checkpointed runtime.body = some saved ∨
    cancelled runtime.body = true ∧ saved = runtime.durable.saved config

theorem Advances.same {runtime next : Process}
    (chains : next.durable.chains = runtime.durable.chains) (body : next.body = runtime.body) :
    Advances config runtime next where
  chains := chains
  stays := by rw [body]; exact id
  saved := by rw [body]; exact fun _ stored => .inl stored

/-- To a place of the body that holds no saved state. -/
theorem Advances.move {runtime next : Process}
    (chains : next.durable.chains = runtime.durable.chains)
    (stays : cancelled runtime.body = true → cancelled next.body = true)
    (nothing : checkpointed next.body = none) : Advances config runtime next where
  chains := chains
  stays := stays
  saved := by rw [nothing]; exact fun _ stored => nomatch stored

theorem advanceShutdown_advances (runtime : Process) :
    Advances config runtime (Runtime.advanceShutdown config runtime) := by
  unfold Runtime.advanceShutdown
  cases here : runtime.body with
  | stopIngress => exact .move rfl (by simp [here, cancelled]) rfl
  | cancel => exact .move rfl (by simp [here, cancelled]) rfl
  | waitMonitors =>
    dsimp only
    split
    · exact .move rfl (fun _ => rfl) rfl
    · exact .same rfl rfl
  | waitIngress =>
    dsimp only
    split
    · exact .move rfl (fun _ => rfl) rfl
    · exact .same rfl rfl
  | close =>
    dsimp only
    split
    · exact .same rfl here.symm
    · exact .move rfl (fun _ => rfl) rfl
  | waitWorker =>
    dsimp only
    split
    · exact .move rfl (fun _ => rfl) rfl
    · exact .same rfl rfl
  | snapshot =>
    -- The snapshot is the only step that brings a saved state.
    refine ⟨rfl, fun _ => rfl, fun saved stored => .inr ⟨by rw [here]; rfl, ?_⟩⟩
    exact (Option.some.inj stored).symm
  | idle => exact .same rfl rfl
  | checkpoint saved => exact .same rfl rfl
  | finished outcome => exact .same rfl rfl

theorem giveUp_advances (runtime : Process) :
    Advances config runtime (Runtime.giveUp runtime) := by
  unfold Runtime.giveUp
  split
  · split
    · exact .move rfl (fun _ => rfl) rfl
    · exact .move rfl (fun _ => rfl) rfl
    · exact .move rfl (fun _ => rfl) rfl
    · exact .same rfl rfl
  · exact .same rfl rfl

theorem runCheckpoint_advances (runtime : Process) (error : Option String) :
    Advances config runtime (Runtime.runCheckpoint runtime error) := by
  unfold Runtime.runCheckpoint
  split
  next saved here =>
    refine ⟨rfl, fun _ => rfl, fun other stored => .inl ?_⟩
    rw [here]
    exact stored
  next => exact .same rfl rfl

theorem callShutdown_advances (runtime : Process) :
    Advances config runtime (Runtime.callShutdown runtime) := by
  unfold Runtime.callShutdown
  cases here : runtime.body with
  | idle => exact .move rfl (by simp [here, cancelled]) rfl
  | _ => exact .same rfl here.symm

theorem runtime_advances {action : Action} (runtime : Process)
    (allowed : outside config starts action = true) :
    Advances config runtime (Runtime.step config runtime action) := by
  unfold Runtime.step
  split
  · exact .same rfl rfl
  · cases action with
    | begin call =>
      dsimp only [Runtime.beginAlertIngress]
      split <;> exact .same rfl rfl
    | send i =>
      dsimp only [Runtime.sendAlert]
      split
      · split
        · exact .same rfl rfl
        · split <;> exact .same rfl rfl
      · exact .same rfl rfl
    | record i now =>
      dsimp only [Runtime.recordAlert]
      split <;> exact .same rfl rfl
    | finish i =>
      dsimp only [Runtime.finishAlertIngress]
      split <;> exact .same rfl rfl
    | receive =>
      dsimp only [Runtime.receiveAlert]
      split
      · exact .same rfl rfl
      · split <;> exact .same rfl rfl
      · exact .same rfl rfl
    | deliver network reserveAt completeAt order =>
      dsimp only [Runtime.finishDelivery]
      split <;> exact .same rfl rfl
    -- Writes of the monitors are steps of their own.
    | monitorWrite m chains => cases allowed
    | monitorReturn m =>
      obtain ⟨body, durable⟩ := monitorReturn_effect runtime m
      exact .same (congrArg Durable.chains durable) body
    | callShutdown => exact callShutdown_advances runtime
    | advance => exact advanceShutdown_advances runtime
    | expire =>
      dsimp only [Runtime.expireDrain]
      split <;> exact .same rfl rfl
    | giveUp => exact giveUp_advances runtime
    | checkpoint error => exact runCheckpoint_advances runtime error
    | returnShutdown k =>
      dsimp only [Runtime.returnShutdown]
      split <;> exact .same rfl rfl

theorem ShutdownInv.runtimeStep (inv : ShutdownInv monitored) (action : Action) :
    ShutdownInv (runtimeStep config starts monitored action) := by
  unfold Node.runtimeStep
  split
  next allowed =>
    have moved := runtime_advances monitored.runtime allowed
    have recorded := inv.recorded
    cases before : cancelled monitored.runtime.body with
    | true =>
      -- The chains at the cancellation are recorded and stay so.
      rw [before] at recorded
      refine ⟨?_, ?_, ?_⟩
      · simpa [moved.stays before] using recorded
      · intro old was
        rw [Monitored.chains, moved.chains]
        exact inv.kept old (by simpa using was)
      · intro saved stored
        obtain ⟨old, was⟩ := Option.isSome_iff_exists.mp recorded
        refine ⟨old, by simpa using was, ?_⟩
        rcases moved.saved saved stored with already | ⟨_, rfl⟩
        · obtain ⟨same, again, accounted⟩ := inv.saved saved already
          rw [was] at again
          cases again
          exact accounted
        · exact (inv.kept old was).accounted config
    | false =>
      -- No state can have been saved before the cancellation.
      have unset : monitored.atCancel = none := by simpa [before] using recorded
      have nothing : ∀ saved, checkpointed (Runtime.step config monitored.runtime action).body ≠
          some saved := by
        intro saved stored
        rcases moved.saved saved stored with already | ⟨late, _⟩
        · obtain ⟨old, was, _⟩ := inv.saved saved already
          rw [unset] at was
          cases was
        · rw [before] at late
          cases late
      refine ⟨?_, ?_, fun saved stored => absurd stored (nothing saved)⟩
      · cases after : cancelled (Runtime.step config monitored.runtime action).body <;>
          simp [unset, after]
      · -- If this step is the cancellation, the chains are those it records.
        intro old was
        have here : old = monitored.chains := by
          cases after : cancelled (Runtime.step config monitored.runtime action).body <;>
            simp_all
        rw [Monitored.chains, moved.chains, here]
        exact .refl
  next => exact inv

/-! ### The monitors' steps -/

@[simp] theorem markUnhealthy_url (name message : String) (now : Instant) (node : NodeConfig) :
    (markUnhealthy name message now node).url = node.url := by
  unfold markUnhealthy
  dsimp only
  split
  · split <;> rfl
  · rfl

@[simp] theorem markDown_url (message : String) (syncing : Bool) (now : Instant)
    (node : NodeConfig) : (markDown message syncing now node).url = node.url := by
  unfold markDown
  dsimp only
  split <;> rfl

@[simp] theorem markHealthy_url (node : NodeConfig) : (markHealthy node).url = node.url := by
  unfold markHealthy
  dsimp only
  split <;> rfl

theorem probeChange_url (chainId name : String) (now : Instant) (answer : Answer)
    (node : NodeConfig) : (probeChange chainId name now answer node).url = node.url := by
  cases answer with
  | failed err => simp [probeChange]
  | cancelled => simp [probeChange]
  | status network catchingUp =>
    by_cases network = chainId
    · cases catchingUp <;> simp_all [probeChange, markSyncing]
    · simp_all [probeChange]

/-- A probe that brings its node down has failed for a reason of its own, or was
cancelled. -/
theorem probeChange_blamed {chainId name : String} {now : Instant} {answer : Answer}
    {node : NodeConfig} (own : answer ≠ .cancelled)
    (down : (probeChange chainId name now answer node).down = true) :
    answer.blamed chainId = true := by
  by_contra passed
  rw [Answer.status_of_not_blamed own passed] at down
  simp [probeChange, markHealthy] at down

theorem ShutdownInv.otherWrite (inv : ShutdownInv monitored) (m : Nat) (name : String)
    (chain : ChainConfig) : ShutdownInv (otherWrite monitored m name chain) := by
  unfold Node.otherWrite
  split
  next same => exact inv.write m fun _ explained => explained.insert same
  next => exact inv

theorem ShutdownInv.openProbe (inv : ShutdownInv monitored) (name : String) (index : Nat)
    (err : Option String) (now : Instant) :
    ShutdownInv (openProbe starts monitored name index err now) := by
  unfold Node.openProbe
  split
  · exact inv.setProbe name index .calling
  · exact (inv.setProbe name index .done).mark _ name index _ true (by simp) fun _ _ _ => .inr rfl
  · exact inv

theorem ShutdownInv.markProbe (inv : ShutdownInv monitored) (name : String) (index : Nat)
    (now : Instant) (allowed : meets monitored (.markProbe name index now) = true) :
    ShutdownInv (markProbe starts monitored name index now) := by
  unfold Node.markProbe
  split
  next answer chain asked present =>
    refine (inv.setProbe name index .done).mark _ name index _ _ (probeChange_url _ _ _ _) ?_
    intro node found down
    by_cases own : answer = .cancelled
    -- This is where the condition is needed.
    · subst own
      simp only [meets, asked] at allowed
      have here : nodeAt monitored.chains name index = some node := found
      rw [here] at allowed
      exact .inl allowed
    · exact .inr (probeChange_blamed own down)
  next => exact inv

/-- A step of `newRpc` keeps the invariant if its mark has a failure to blame or is for a node
that is down already. -/
theorem ShutdownInv.effect (inv : ShutdownInv monitored) (who : Monitor) {name : String}
    {chain : ChainConfig} (present : monitored.chains[name]? = some chain) (effect : Effect)
    (sound : ∀ index message syncing now blamed,
      effect = .markDown index message syncing now blamed → blamed = true ∨
        ∀ node, nodeAt monitored.chains name index = some node → node.down = true) :
    ShutdownInv (monitored.effect starts who name chain effect) := by
  cases effect with
  | nothing => exact inv
  | markDown index message syncing now blamed =>
    refine inv.mark _ name index _ blamed (by simp) fun node found _ => ?_
    rcases sound index message syncing now blamed rfl with own | already
    · exact .inr own
    · exact .inl (already node found)
  | setClient => exact inv
  | setNoNodes noNodes =>
    refine inv.write _ fun _ explained => explained.insert ?_
    rw [present]
    rfl

theorem RpcStep.eq_mark_of_under {body : Runtime.Body} {step : RpcStep} {now : Instant}
    (same : step.under body = some (.mark now)) : step = .mark now := by
  cases step with
  | answer reply => simp [RpcStep.under] at same
  | _ => exact Option.some.inj same

theorem ShutdownInv.stepSelected (inv : ShutdownInv monitored) (who : Monitor) (name : String)
    (step : RpcStep) (allowed : meets monitored (.selected who name step) = true) :
    ShutdownInv (stepSelected starts monitored who name step) := by
  unfold Node.stepSelected
  split
  next call chain taken placed present same =>
    split
    next next effect steps =>
      refine (inv.setPlace who name _).effect who present effect ?_
      rintro index message syncing now blamed rfl
      rcases rpcStep_blamed steps with own | ⟨anyWorking, rfl, rfl⟩
      · exact .inl own
      · -- The condition is needed here too: `newRpc` marks a cancelled try like a failed one.
        cases RpcStep.eq_mark_of_under same
        simp only [meets, placed] at allowed
        refine .inr fun node found => ?_
        have here : nodeAt monitored.chains name index = some node := found
        rw [here] at allowed
        exact allowed
    next => exact inv
  next => exact inv

theorem ShutdownInv.step (inv : ShutdownInv monitored) (next : ShutdownStep)
    (allowed : meets monitored next = true) :
    ShutdownInv (shutdownStep config starts monitored next) := by
  unfold shutdownStep
  split
  · exact inv
  · cases next with
    | runtime action => exact inv.runtimeStep action
    | other m name chain => exact inv.otherWrite m name chain
    | tick name =>
      dsimp only [tick]
      split
      · exact inv.setWork name _
      · exact inv
    | openProbe name index err now => exact inv.openProbe name index err now
    | answerProbe name index reply =>
      dsimp only [answerProbe]
      split
      · exact inv.setProbe name index _
      · exact inv
    | markProbe name index now => exact inv.markProbe name index now allowed
    | join name =>
      dsimp only [join]
      split
      · split
        · split
          · exact (inv.setWork name _).leave _
          · exact (inv.setWork name _).setPlace _ name _
        · exact inv
      · exact inv
    | clear name =>
      dsimp only [clear]
      split
      · exact inv.setPlace _ name _
      · exact inv
    | skip who name =>
      dsimp only [skip]
      split
      · exact inv.setPlace _ name _
      · exact inv
    | select who name =>
      dsimp only [select]
      split
      · exact inv.setPlace who name _
      · exact inv
    | selected who name step => exact inv.stepSelected who name step allowed
    | leave who name =>
      dsimp only [leaveLoop]
      split
      · exact inv.leave _
      · exact inv

end Invariant

theorem startMonitored_inv (config : Config) (monitors : Nat) :
    ShutdownInv (startMonitored config monitors) where
  recorded := rfl
  kept := fun _ was => nomatch was
  saved := fun _ stored => nomatch stored

/-- In every run in which each try that the cancellation ended is for a node that is down
already when it is marked, the checkpoint invents no outage. -/
theorem shutdown_invents_no_outage (config : Config) (starts : Monitor → String → Nat)
    (monitors : Nat) (steps : List ShutdownStep)
    (allowed : Meeting (shutdownStep config starts) (meets · · = true)
      (startMonitored config monitors) steps) :
    NoInventedOutage (shutdownRun config starts monitors steps) := by
  have inv := allowed.invariant (fun _ next kept met => kept.step next met)
    (startMonitored_inv config monitors)
  exact inv.saved

/-- One chain with one node. -/
def oneNode (node : NodeConfig) : Config :=
  { chains := (∅ : Table String ChainConfig).insert "osmosis"
      { name := "osmosis", chainId := "osmosis-1", nodes := [node] } }

/-- `watch`, `monitorHealth` and `monitorChain` are started in this order. -/
def startOrder : Monitor → String → Nat
  | .health, _ => 1
  | .chain, _ => 2

/-- A probe waits for its answer when `cancel` is called. Then everything drains and the
checkpoint is written. -/
def cancelledProbe : List ShutdownStep :=
  let now : Instant := ⟨unixEpoch, Int.le_refl _⟩
  [.tick "osmosis", .openProbe "osmosis" 0 none now, .runtime .callShutdown, .runtime .advance,
    .runtime .advance, .answerProbe "osmosis" 0 none, .markProbe "osmosis" 0 now, .join "osmosis",
    .leave .chain "osmosis", .runtime (.monitorReturn 0), .runtime .advance, .runtime .advance,
    .runtime .advance, .runtime .receive, .runtime .advance, .runtime .advance,
    .runtime (.checkpoint none)]

/-- The checkpoint's entry for a node. -/
def listed (monitored : Monitored) (name url : String) : Option Time :=
  (checkpointed monitored.runtime.body).bind fun saved =>
    saved.nodesDown.bind fun nodesDown => nodesDown[name]?.bind (·[url]?)

theorem NoInventedOutage.of_listed {monitored : Monitored} {name url : String} {since : Time}
    (honest : NoInventedOutage monitored) (entry : listed monitored name url = some since) :
    ∃ old index before, monitored.atCancel = some old ∧ nodeAt old name index = some before ∧
      (before.down = true ∨ ⟨name, index, true⟩ ∈ monitored.failures) := by
  unfold listed at entry
  simp only [Option.bind_eq_some_iff] at entry
  obtain ⟨saved, stored, nodesDown, saves, times, found, time⟩ := entry
  obtain ⟨old, was, accounted⟩ := honest saved stored
  obtain ⟨index, before, present, _, why⟩ := accounted nodesDown name times url since saves found time
  exact ⟨old, index, before, was, present, why⟩

/-- The condition is met when the probe was for a node that is down, and the checkpoint
keeps the time it went down. -/
theorem shutdown_keeps_known_outage :
    let monitored := shutdownRun (oneNode { url := "http://a", down := true, downSince := 5 })
      startOrder 3 cancelledProbe
    listed monitored "osmosis" "http://a" = some 5 ∧ NoInventedOutage monitored :=
  ⟨by decide +kernel, shutdown_invents_no_outage _ startOrder 3 cancelledProbe (by decide +kernel)⟩

/-- The node was up when `cancel` was called and nothing failed, but the probe that the
cancellation ended marks it down, and the checkpoint lists it. -/
theorem cancelled_probe_invents_outage :
    let monitored := shutdownRun (oneNode { url := "http://a", alertIfDown := true }) startOrder 3
      cancelledProbe
    listed monitored "osmosis" "http://a" = some unixEpoch ∧ monitored.failures = [] ∧
      ¬ NoInventedOutage monitored := by
  intro monitored
  have entry : listed monitored "osmosis" "http://a" = some unixEpoch := by decide +kernel
  have nothing : monitored.failures = [] := by decide +kernel
  have up : monitored.atCancel.bind (fun old => old["osmosis"]?.map downFlags) =
      some [("http://a", false)] := by decide +kernel
  refine ⟨entry, nothing, fun honest => ?_⟩
  obtain ⟨old, index, before, was, present, down | failed⟩ := honest.of_listed entry
  · rw [was, Option.bind_some] at up
    obtain ⟨chain, found, flags⟩ := Option.map_eq_some_iff.mp up
    have here : chain.nodes[index]? = some before := by simpa [nodeAt, found] using present
    have flag : (downFlags chain)[index]? = some (before.url, before.down) := by
      rw [downFlags, List.getElem?_map, here]
      rfl
    rw [flags, down] at flag
    have member := List.mem_of_getElem? flag
    simp at member
  · rw [nothing] at failed
    cases failed

end Seer.Node
