import Seer.Lib.Concurrent
import Seer.Node.RpcCall
import Seer.Runtime.Validate
import Seer.State.Snapshot

/-!
# The flag for a chain without nodes

`noNodes` is meant to say that every node of the chain is down. Two loops write it next to
the node flags, each write in a critical section of its own: a passed probe of
`monitorHealth` takes its node up and then clears the flag, and a call of `newRpc` that
finds no endpoint sets it from what it saw of the nodes one after the other. The flag is
right as long as no probe finishes behind the back of a call that has gone past its node.

A step that its goroutine cannot take now leaves the state as it is, so a list of steps is
any interleaving.
-/
namespace Seer.Node

open Seer.Lib

/-- Where the goroutine that probes a node is, by what it does next. -/
inductive Prober where
  | asking
  /-- It has marked the node unhealthy and will mark it as catching up. -/
  | syncing
  /-- It has marked the node healthy and will clear `noNodes`. -/
  | passed
  | done
  deriving DecidableEq

/-- A chain, the probes of the tick that `monitorHealth` handles, and the calls of `newRpc`
by the two monitors. -/
structure Endpoints where
  chain : ChainConfig
  client : Bool := false
  round : Option (List Prober) := none
  /-- `monitorHealth` has found no client and will call `newRpc`. -/
  due : Bool := false
  call : Monitor → Option RpcCall := fun _ => none

inductive EndpointStep where
  | tick
  | probe (index : Nat) (reply : Probed Unit) (now : Instant)
  | probeSyncing (index : Nat)
  | probeClear (index : Nat)
  | join
  | select (who : Monitor)
  /-- A call of `newRpc` goes on. -/
  | rpc (who : Monitor) (step : RpcStep)

section Steps
variable (endpoints : Endpoints)

def Endpoints.prober (index : Nat) : Option Prober := endpoints.round.bind (·[index]?)

def Endpoints.setProber (index : Nat) (prober : Prober) : Endpoints :=
  { endpoints with round := endpoints.round.map (·.set index prober) }

def Endpoints.setCall (who : Monitor) (call : Option RpcCall) : Endpoints :=
  { endpoints with call := fun other => if other = who then call else endpoints.call other }

/-- `updateNodeState`. -/
def Endpoints.update (index : Nat) (change : NodeConfig → NodeConfig) : Endpoints :=
  { endpoints with
    chain := { endpoints.chain with nodes := endpoints.chain.nodes.modify index change } }

/-- `setNoNodes`. -/
def Endpoints.setNoNodes (noNodes : Bool) : Endpoints :=
  { endpoints with chain := { endpoints.chain with noNodes := noNodes } }

/-- The ticker fires while `monitorHealth` waits for it. -/
def startRound : Endpoints :=
  match endpoints.round, endpoints.due, endpoints.call .health with
  | none, false, none =>
    { endpoints with round := some (List.replicate endpoints.chain.nodes.length .asking) }
  | _, _, _ => endpoints

/-- The first update of a probe. The probe does not parse the URL itself: opening the
client fails on one that cannot be parsed. -/
def probeNode (index : Nat) (reply : Probed Unit) (now : Instant) : Endpoints :=
  let unhealthy (message : String) (next : Prober) : Endpoints :=
    (endpoints.update index (markUnhealthy endpoints.chain.name message now)).setProber index next
  match endpoints.prober index with
  | some .asking =>
    match reply with
    | .unparsable err => unhealthy err .done
    | .unopened err => unhealthy err .done
    | .noStatus _ _ => unhealthy "down" .done
    | .status _ network catchingUp =>
      if network ≠ endpoints.chain.chainId then unhealthy "on the wrong network" .done
      else if catchingUp then unhealthy "not synced" .syncing
      else (endpoints.update index markHealthy).setProber index .passed
  | _ => endpoints

def probeSyncing (index : Nat) : Endpoints :=
  match endpoints.prober index with
  | some .syncing => (endpoints.update index markSyncing).setProber index .done
  | _ => endpoints

def probeClear (index : Nat) : Endpoints :=
  match endpoints.prober index with
  | some .passed => (endpoints.setNoNodes false).setProber index .done
  | _ => endpoints

/-- `probes.Wait()`, and whether there is a client. -/
def joinRound : Endpoints :=
  match endpoints.round with
  | some probers =>
    if probers.all (· == .done) then { endpoints with round := none, due := !endpoints.client }
    else endpoints
  | none => endpoints

/-- `newRpc` is called and takes `rpcMux`. -/
def selectRpc (who : Monitor) : Endpoints :=
  match endpoints.call .health, endpoints.call .chain with
  | none, none =>
    match who, endpoints.due with
    | .health, true => { endpoints.setCall who (some (.surveying 0 false)) with due := false }
    | .health, false => endpoints
    | .chain, _ => endpoints.setCall who (some (.surveying 0 false))
  | _, _ => endpoints

def stepRpc (who : Monitor) (step : RpcStep) : Endpoints :=
  match (endpoints.call who).bind (rpcStep endpoints.chain · step) with
  | some (next, effect) =>
    { endpoints.setCall who next with
      chain := effect.apply endpoints.chain
      client := endpoints.client || effect.takesClient }
  | none => endpoints

def endpointStep : EndpointStep → Endpoints
  | .tick => startRound endpoints
  | .probe index reply now => probeNode endpoints index reply now
  | .probeSyncing index => probeSyncing endpoints index
  | .probeClear index => probeClear endpoints index
  | .join => joinRound endpoints
  | .select who => selectRpc endpoints who
  | .rpc who step => stepRpc endpoints who step

end Steps

def endpointRun (chain : ChainConfig) (steps : List EndpointStep) : Endpoints :=
  steps.foldl endpointStep { chain := chain }

/-- No probe and no call of `newRpc` is in progress. -/
def Endpoints.atRest (endpoints : Endpoints) : Bool :=
  endpoints.round.all (·.all (· == .done)) &&
    (endpoints.call .health).isNone && (endpoints.call .chain).isNone

/-! ## The condition -/

/-- The call has skipped or marked the node, and may still set `noNodes`. -/
def RpcCall.past (index : Nat) : RpcCall → Bool
  | .surveying _ _ => false
  | .looking next _ => decide (index < next)
  | .opening next _ => decide (index < next)
  | .calling next _ => decide (index < next)
  | .answered next _ _ => decide (index < next)
  | .fallingBack => true
  | .adopting => false
  | .givingUp => true

/-- A call of `newRpc` in progress has gone past the node. -/
def Endpoints.overtaken (endpoints : Endpoints) (index : Nat) : Bool :=
  (endpoints.call .health).any (·.past index) || (endpoints.call .chain).any (·.past index)

/-- A probe that clears the flag behind a call which has gone past its node finds the node
down again. -/
def ClearsInTime (endpoints : Endpoints) : EndpointStep → Prop
  | .probeClear index => endpoints.prober index = some .passed → endpoints.overtaken index = true →
      endpoints.chain.nodes[index]?.all (·.down) = true
  | _ => True

instance (endpoints : Endpoints) (next : EndpointStep) :
    Decidable (ClearsInTime endpoints next) := by
  cases next <;> (unfold ClearsInTime; infer_instance)

/-! ## What the flag stands for -/

/-- The flag, or a call that may still set it, stands for the node being down. -/
def Endpoints.claimed (endpoints : Endpoints) (index : Nat) : Prop :=
  endpoints.chain.noNodes = true ∨ endpoints.overtaken index = true

/-- Such a node is down, or its probe is about to clear the flag. -/
def FlagInv (endpoints : Endpoints) : Prop :=
  ∀ index node, endpoints.chain.nodes[index]? = some node → endpoints.claimed index →
    node.down = true ∨ endpoints.prober index = some .passed

section Parts
variable {endpoints : Endpoints}

@[simp] theorem prober_update (index other : Nat) (change : NodeConfig → NodeConfig) :
    (endpoints.update index change).prober other = endpoints.prober other := rfl

@[simp] theorem claimed_update (index other : Nat) (change : NodeConfig → NodeConfig) :
    (endpoints.update index change).claimed other = endpoints.claimed other := rfl

@[simp] theorem claimed_setProber (index other : Nat) (prober : Prober) :
    (endpoints.setProber index prober).claimed other = endpoints.claimed other := rfl

@[simp] theorem nodes_setProber (index : Nat) (prober : Prober) :
    (endpoints.setProber index prober).chain = endpoints.chain := rfl

theorem prober_setProber_other {index other : Nat} (apart : index ≠ other) (prober : Prober) :
    (endpoints.setProber index prober).prober other = endpoints.prober other := by
  unfold Endpoints.prober Endpoints.setProber
  cases endpoints.round with
  | none => rfl
  | some probers => simp [apart]

theorem prober_setProber_self {index : Nat} {old : Prober}
    (here : endpoints.prober index = some old) (prober : Prober) :
    (endpoints.setProber index prober).prober index = some prober := by
  unfold Endpoints.prober Endpoints.setProber at *
  cases round : endpoints.round with
  | none => simp [round] at here
  | some probers =>
    rw [round, Option.bind_some] at here
    have bound := (List.getElem?_eq_some_iff.mp here).1
    simp [bound]

theorem overtaken_setCall {who : Monitor} {call : Option RpcCall} {index : Nat}
    (past : (endpoints.setCall who call).overtaken index = true) :
    call.any (·.past index) = true ∨ endpoints.overtaken index = true := by
  unfold Endpoints.overtaken Endpoints.setCall at *
  cases who <;> simp_all <;> grind

/-- A call that was there counts. -/
theorem overtaken_of_call {who : Monitor} {call : RpcCall} {index : Nat}
    (here : endpoints.call who = some call) (past : call.past index = true) :
    endpoints.overtaken index = true := by
  unfold Endpoints.overtaken
  cases who <;> simp [here, past]

/-- Going on to the next node is going past this one. -/
theorem past_looking_succ {index place : Nat} {anyWorking : Bool}
    (past : (some (RpcCall.looking (place + 1) anyWorking)).any (·.past index) = true) :
    index < place ∨ index = place :=
  Nat.lt_succ_iff_lt_or_eq.mp (of_decide_eq_true past)

/-- A step goes past a node that it has read as down or marks. -/
theorem rpcStep_past {chain : ChainConfig} {call : RpcCall} {step : RpcStep}
    {next : Option RpcCall} {effect : Effect}
    (taken : rpcStep chain call step = some (next, effect)) {index : Nat} {node : NodeConfig}
    (listed : chain.nodes[index]? = some node) (past : next.any (·.past index) = true) :
    call.past index = true ∨ node.down = true ∨
      ∃ message syncing now blamed, effect = .markDown index message syncing now blamed := by
  cases moves_of_rpcStep taken with
  | surveys => cases past
  | begins => simp [RpcCall.past] at past
  | skips place anyWorking present down =>
    rcases past_looking_succ past with earlier | rfl
    · exact .inl (decide_eq_true earlier)
    · -- Skipped: the flag is read as down at this very step.
      rw [listed] at present
      cases present
      exact .inr (.inl down)
  | tries => exact .inl past
  | exhausts place anyWorking next absent =>
    have inside := (List.getElem?_eq_some_iff.mp listed).1
    have outside := List.getElem?_eq_none_iff.mp absent
    exact .inl (decide_eq_true (Nat.lt_of_lt_of_le inside outside))
  | opens => exact .inl past
  | answers => exact .inl past
  | connects => cases past
  | marksUnopened place anyWorking opening message syncing now =>
    rcases past_looking_succ past with earlier | rfl
    · exact .inl (decide_eq_true earlier)
    · exact .inr (.inr ⟨message, syncing, now, true, rfl⟩)
  | marksAnswered place anyWorking answer message syncing now own =>
    rcases past_looking_succ past with earlier | rfl
    · exact .inl (decide_eq_true earlier)
    · exact .inr (.inr ⟨message, syncing, now, _, rfl⟩)
  | fails => exact .inl rfl
  | adopts => cases past
  | givesUp => exact .inl rfl

/-- A change of a node that does not take it up keeps the invariant. -/
theorem FlagInv.update (inv : FlagInv endpoints) (index : Nat) (change : NodeConfig → NodeConfig)
    (keeps : ∀ node, node.down = true → (change node).down = true) :
    FlagInv (endpoints.update index change) := by
  intro other node found claimed
  unfold Endpoints.update at found
  rw [List.getElem?_modify] at found
  obtain ⟨old, present, rfl⟩ := Option.map_eq_some_iff.mp found
  rcases inv other old present claimed with down | passed
  · left
    split
    · exact keeps old down
    · exact down
  · exact .inr passed

/-- A probe that was not about to clear the flag goes on. -/
theorem FlagInv.setProber (inv : FlagInv endpoints) {index : Nat} {old : Prober}
    (here : endpoints.prober index = some old) (other : old ≠ .passed) (prober : Prober) :
    FlagInv (endpoints.setProber index prober) := by
  intro at_ node found claimed
  rcases inv at_ node found claimed with down | passed
  · exact .inl down
  · have apart : index ≠ at_ := by
      rintro rfl
      rw [here] at passed
      exact other (Option.some.inj passed)
    exact .inr (by rw [prober_setProber_other apart, passed])

/-- A call goes on; what it newly stands for is down. -/
theorem FlagInv.setCall (inv : FlagInv endpoints) (who : Monitor) (call : Option RpcCall)
    (sound : ∀ index node, endpoints.chain.nodes[index]? = some node →
      call.any (·.past index) = true → endpoints.overtaken index = true ∨ node.down = true) :
    FlagInv (endpoints.setCall who call) := by
  intro index node found claimed
  rcases claimed with flag | past
  · exact inv index node found (.inl flag)
  · rcases overtaken_setCall past with new | old
    · rcases sound index node found new with already | down
      · exact inv index node found (.inr already)
      · exact .inl down
    · exact inv index node found (.inr old)

end Parts

/-! ## The steps -/

section Invariant
variable {endpoints : Endpoints}

theorem markUnhealthy_down (name message : String) (now : Instant) (node : NodeConfig) :
    (markUnhealthy name message now node).down = true := by
  unfold markUnhealthy
  dsimp only
  split
  · split <;> rfl
  next down => simpa using down

theorem markDown_down (message : String) (syncing : Bool) (now : Instant) (node : NodeConfig) :
    (markDown message syncing now node).down = true := by
  unfold markDown
  dsimp only
  split
  · rfl
  next down => simpa using down

/-- The node before the effect of a step, which takes no node up. -/
theorem node_of_effect {chain : ChainConfig} {effect : Effect} {index : Nat} {node : NodeConfig}
    (found : (effect.apply chain).nodes[index]? = some node) :
    ∃ old, chain.nodes[index]? = some old ∧ (old.down = true → node.down = true) := by
  cases effect with
  | nothing | setClient | setNoNodes => exact ⟨node, found, id⟩
  | markDown at_ message syncing now blamed =>
    simp only [Effect.apply, List.getElem?_modify] at found
    obtain ⟨old, listed, rfl⟩ := Option.map_eq_some_iff.mp found
    refine ⟨old, listed, fun down => ?_⟩
    split
    · exact markDown_down message syncing now old
    · exact down

theorem FlagInv.startRound (inv : FlagInv endpoints) : FlagInv (startRound endpoints) := by
  unfold Node.startRound
  split
  next none _ _ =>
    intro index node found claimed
    rcases inv index node found claimed with down | passed
    · exact .inl down
    · simp [Endpoints.prober, none] at passed
  next => exact inv

theorem FlagInv.unhealthy (inv : FlagInv endpoints) {index : Nat}
    (here : endpoints.prober index = some .asking) (message : String) (now : Instant)
    (next : Prober) :
    FlagInv ((endpoints.update index (markUnhealthy endpoints.chain.name message now)).setProber
      index next) :=
  (inv.update index _ fun _ _ => markUnhealthy_down _ _ _ _).setProber here (by decide) next

/-- A passed probe takes its node up; from here on it owes the clearing of the flag. -/
theorem FlagInv.healthy (inv : FlagInv endpoints) {index : Nat}
    (here : endpoints.prober index = some .asking) :
    FlagInv ((endpoints.update index markHealthy).setProber index .passed) := by
  intro other node found claimed
  by_cases same : index = other
  · subst same
    exact .inr (prober_setProber_self here _)
  · have kept : endpoints.chain.nodes[other]? = some node := by
      simpa [Endpoints.update, List.getElem?_modify, same] using found
    rw [prober_setProber_other same]
    exact inv other node kept claimed

theorem FlagInv.probeNode (inv : FlagInv endpoints) (index : Nat) (reply : Probed Unit)
    (now : Instant) : FlagInv (probeNode endpoints index reply now) := by
  unfold Node.probeNode
  dsimp only
  split
  next here =>
    split
    · exact inv.unhealthy here _ now .done
    · exact inv.unhealthy here _ now .done
    · exact inv.unhealthy here _ now .done
    · split
      · exact inv.unhealthy here _ now .done
      · split
        · exact inv.unhealthy here _ now .syncing
        · exact inv.healthy here
  next => exact inv

theorem FlagInv.probeSyncing (inv : FlagInv endpoints) (index : Nat) :
    FlagInv (probeSyncing endpoints index) := by
  unfold Node.probeSyncing
  split
  next here =>
    exact (inv.update index markSyncing fun _ down => down).setProber here (by decide) .done
  next => exact inv

/-- The step at which the flag can go wrong: the probe no longer vouches for its node, and
only the flag is cleared, not what a call has seen. -/
theorem FlagInv.probeClear (inv : FlagInv endpoints) (index : Nat)
    (meets : ClearsInTime endpoints (.probeClear index)) :
    FlagInv (probeClear endpoints index) := by
  unfold Node.probeClear
  split
  next here =>
    intro other node found claimed
    have past : endpoints.overtaken other = true := by
      rcases claimed with flag | past
      · cases flag
      · exact past
    by_cases same : index = other
    · subst same
      have down := meets here past
      have present : endpoints.chain.nodes[index]? = some node := found
      rw [present] at down
      exact .inl down
    · rw [prober_setProber_other same]
      exact inv other node found (.inr past)
  next => exact inv

theorem FlagInv.joinRound (inv : FlagInv endpoints) : FlagInv (joinRound endpoints) := by
  unfold Node.joinRound
  split
  next probers round =>
    split
    next finished =>
      intro index node found claimed
      rcases inv index node found claimed with down | passed
      · exact .inl down
      · rw [Endpoints.prober, round, Option.bind_some] at passed
        have done := List.all_eq_true.mp finished _ (List.mem_of_getElem? passed)
        simp at done
    next => exact inv
  next => exact inv

theorem FlagInv.selectRpc (inv : FlagInv endpoints) (who : Monitor) :
    FlagInv (selectRpc endpoints who) := by
  have begins := inv.setCall who (some (.surveying 0 false)) (by simp [RpcCall.past])
  unfold Node.selectRpc
  split
  · split
    · exact begins
    · exact inv
    · exact begins
  · exact inv

/-- What a step does to the chain: a mark takes no node up, and the flag is set by a call that
has gone past every node. -/
theorem FlagInv.effect (inv : FlagInv endpoints) {who : Monitor} {call : RpcCall} {step : RpcStep}
    {next : Option RpcCall} {effect : Effect} (here : endpoints.call who = some call)
    (taken : rpcStep endpoints.chain call step = some (next, effect)) :
    FlagInv { endpoints with chain := effect.apply endpoints.chain } := by
  cases effect with
  | nothing => exact inv
  | setClient => exact inv
  | markDown index message syncing now blamed =>
    exact inv.update index _ fun _ _ => markDown_down message syncing now _
  | setNoNodes noNodes =>
    intro index node found claimed
    refine inv index node found ?_
    rcases claimed with flag | past
    · have flag : noNodes = true := flag
      subst flag
      exact .inr (overtaken_of_call here (by rw [rpcStep_setNoNodes taken]; rfl))
    · exact .inr past

theorem FlagInv.stepRpc (inv : FlagInv endpoints) (who : Monitor) (step : RpcStep) :
    FlagInv (stepRpc endpoints who step) := by
  unfold Node.stepRpc
  split
  next next effect taken =>
    obtain ⟨call, here, taken⟩ := Option.bind_eq_some_iff.mp taken
    refine (inv.effect here taken).setCall who next fun index node found past => ?_
    -- The node before the effect; it is down afterwards if it was or if it is marked.
    obtain ⟨old, listed, kept⟩ := node_of_effect found
    rcases rpcStep_past taken listed past with already | down | ⟨message, syncing, now, blamed, rfl⟩
    · exact .inl (overtaken_of_call here already)
    · exact .inr (kept down)
    · simp only [Effect.apply, List.getElem?_modify_eq, listed] at found
      cases found
      exact .inr (markDown_down message syncing now old)
  next => exact inv

theorem FlagInv.step (inv : FlagInv endpoints) (next : EndpointStep)
    (meets : ClearsInTime endpoints next) : FlagInv (endpointStep endpoints next) := by
  cases next with
  | tick => exact inv.startRound
  | probe index reply now => exact inv.probeNode index reply now
  | probeSyncing index => exact inv.probeSyncing index
  | probeClear index => exact inv.probeClear index meets
  | join => exact inv.joinRound
  | select who => exact inv.selectRpc who
  | rpc who step => exact inv.stepRpc who step

end Invariant

/-! ## From the start of the process -/

theorem restoreNodes_all_down {nodesDown : Table String (Table String Time)} {name : String}
    {chain : ChainConfig} (fresh : chain.noNodes = false)
    (flag : (State.restoreNodes nodesDown name chain).noNodes = true) :
    ∀ node ∈ (State.restoreNodes nodesDown name chain).nodes, node.down = true := by
  by_cases all : (State.restoreNodes nodesDown name chain).nodes.countP (·.down) =
      (State.restoreNodes nodesDown name chain).nodes.length
  · exact List.countP_eq_length.mp all
  · have kept : (State.restoreNodes nodesDown name chain).noNodes = chain.noNodes := if_neg all
    rw [kept, fresh] at flag
    cases flag

/-- A restored chain has the flag only if all its nodes were restored as down. -/
theorem restored_all_down {config : Config} {saved : SavedState} {now : Time} {name : String}
    {chain : ChainConfig}
    (fresh : ∀ (name : String) (chain : ChainConfig), config.chains[name]? = some chain →
      chain.noNodes = false)
    (present : (State.restoreSavedState config saved now).chains[name]? = some chain)
    (flag : chain.noNodes = true) : ∀ node ∈ chain.nodes, node.down = true := by
  have blocks : ∀ configured : ChainConfig,
      (State.restoreBlocks saved.blocks name configured).noNodes = configured.noNodes := by
    intro configured
    unfold State.restoreBlocks
    split <;> rfl
  unfold State.restoreSavedState at present
  dsimp only at present
  split at present
  · rw [Std.ExtTreeMap.getElem?_map] at present
    obtain ⟨configured, found, rfl⟩ := Option.map_eq_some_iff.mp present
    rw [blocks, fresh name configured found] at flag
    cases flag
  next nodesDown _ =>
    rw [Std.ExtTreeMap.getElem?_map, Std.ExtTreeMap.getElem?_map, Option.map_map] at present
    obtain ⟨configured, found, rfl⟩ := Option.map_eq_some_iff.mp present
    exact restoreNodes_all_down ((blocks configured).trans (fresh name configured found)) flag

theorem startup_flagInv {chain : ChainConfig}
    (right : chain.noNodes = true → ∀ node ∈ chain.nodes, node.down = true) :
    FlagInv { chain := chain } := by
  intro index node found claimed
  rcases claimed with flag | past
  · exact .inl (right flag node (List.mem_of_getElem? found))
  · simp [Endpoints.overtaken] at past

/-- From the state after startup, in every interleaving in which no probe clears the flag
behind a call of `newRpc` that has gone past its node, unless the node is down again:
whenever no probe and no call is in progress, `noNodes` means that every node is down. -/
theorem noNodes_all_down (config : Config) (saved : SavedState) (now : Instant) (listen : String)
    (parses : Bool) (order : List String)
    (range : order.Perm (State.restoreSavedState config saved now).chains.keys)
    (fresh : ∀ (name : String) (chain : ChainConfig), config.chains[name]? = some chain →
      chain.noNodes = false)
    (name : String) (chain : ChainConfig)
    (started : (Runtime.validateConfig listen parses order
      (State.restoreSavedState config saved now)).config.chains[name]? = some chain)
    (steps : List EndpointStep)
    (meets : Meeting endpointStep ClearsInTime { chain := chain } steps)
    (rest : (endpointRun chain steps).atRest = true)
    (flag : (endpointRun chain steps).chain.noNodes = true) :
    ∀ node ∈ (endpointRun chain steps).chain.nodes, node.down = true := by
  rw [Runtime.lookup_validateConfig _ _ _ _ range] at started
  obtain ⟨restored, present, rfl⟩ := Option.map_eq_some_iff.mp started
  -- Validation leaves the nodes and the flag as they were restored.
  have right := restored_all_down fresh present
  have start : FlagInv
      { chain := Runtime.validateChain (State.restoreSavedState config saved now) name restored } :=
    startup_flagInv right
  have inv : FlagInv (endpointRun _ steps) :=
    meets.invariant (fun _ next inv meets => inv.step next meets) start
  intro node listed
  obtain ⟨index, found⟩ := List.mem_iff_getElem?.mp listed
  rcases inv index node found (.inl flag) with down | passed
  · exact down
  · -- A probe that has yet to clear the flag is in progress.
    obtain ⟨probers, round, there⟩ := Option.bind_eq_some_iff.mp passed
    simp only [Endpoints.atRest, round, Bool.and_eq_true, Option.all_some] at rest
    have done := List.all_eq_true.mp rest.1.1 _ (List.mem_of_getElem? there)
    simp at done

/-- One chain with one node. -/
def singleNode : Config :=
  { chains := (∅ : Table String ChainConfig).insert "osmosis"
      { name := "osmosis", chainId := "osmosis-1", nodes := [{ url := "http://a" }] } }

/-- The chain once the process has started on it without a state file. -/
def startedNode : ChainConfig :=
  ((Runtime.validateConfig "" true ["osmosis"]
    (State.restoreSavedState singleNode {} unixEpoch)).config.chains["osmosis"]?).getD {}

/-- `monitorChain` calls `newRpc`, which tries the node and fails while the node's probe
fails too. -/
def bothFail : List EndpointStep :=
  let now : Instant := ⟨unixEpoch, Int.le_refl _⟩
  [.select .chain, .rpc .chain .survey, .rpc .chain .survey, .rpc .chain .look, .tick,
    .rpc .chain (.open .opened now), .probe 0 (.noStatus () "timeout") now,
    .rpc .chain (.answer (.failed "timeout")), .rpc .chain (.mark now), .rpc .chain .look, .join,
    .rpc .chain .finish]

theorem noNodes_all_down_failures :
    (endpointRun startedNode bothFail).chain.noNodes = true ∧
    ∀ node ∈ (endpointRun startedNode bothFail).chain.nodes, node.down = true :=
  ⟨by decide +kernel,
    noNodes_all_down singleNode {} ⟨unixEpoch, Int.le_refl _⟩ "" true ["osmosis"]
      (by decide +kernel) (by
        intro name chain found
        simp only [singleNode, Table.get_insert] at found
        split at found
        · cases found
          rfl
        · simp at found) "osmosis" startedNode (by decide +kernel) bothFail
      (by decide +kernel) (by decide +kernel) (by decide +kernel)⟩

/-- `newRpc` fails on the only node; before it sets the flag, a probe finds the node
healthy and is done. -/
def healthyBehind : List EndpointStep :=
  let now : Instant := ⟨unixEpoch, Int.le_refl _⟩
  [.select .chain, .rpc .chain .survey, .rpc .chain .survey, .rpc .chain .look,
    .rpc .chain (.open .opened now), .rpc .chain (.answer (.failed "timeout")),
    .rpc .chain (.mark now), .rpc .chain .look,
    .tick, .probe 0 (.status () "osmosis-1" false) now, .probeClear 0, .join, .rpc .chain .finish]

/-- Nothing is in progress, the flag is set, and the node is up. -/
theorem healthy_node_flagged_away :
    let endpoints := endpointRun startedNode healthyBehind
    endpoints.atRest = true ∧ endpoints.chain.noNodes = true ∧
      endpoints.chain.nodes.map (·.down) = [false] := by
  decide +kernel

end Seer.Node
