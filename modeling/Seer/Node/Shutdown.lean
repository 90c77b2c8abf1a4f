import Seer.Node.RpcCall
import Seer.Runtime.Lifecycle

/-!
# Probes and endpoint selection across a shutdown

The health and chain monitors of every chain, run next to the steps of `shutdown`: the
goroutine of each node's probe, and the calls of `newRpc`, which `monitorHealth` and
`monitorChain` make under `rpcMux`. A step that its goroutine cannot take now leaves the
state as it is, so a list of steps is any interleaving.

Of what the goroutines do, the marks that the checkpoint reads are followed. The client in
use is not, and a probe that clears `noNodes` is one more write of a monitor.
-/
namespace Seer.Node

open Seer.Lib
open Seer.Runtime (Process Body Action Durable)

/-- The goroutine that probes one node. -/
inductive Probe where
  | opening
  | calling
  | answered (answer : Answer)
  | done

/-- A monitor's place in its loop; `cleared` has found the context not cancelled. -/
inductive Place where
  | resting
  | cleared
  | selecting (call : RpcCall)

/-- What the two monitors of a chain are doing; `round` is a tick being handled. -/
structure Work where
  round : Option (List Probe) := none
  place : Monitor → Place := fun _ => .resting

/-- A try that failed for a reason of its own, and whether the context was cancelled by
the time the node was marked. -/
structure Failure where
  name : String
  index : Nat
  late : Bool
  deriving DecidableEq

/-- The runtime, the work of its monitors, and what is remembered of the run: the chains
as they were when `cancel` was called, and the failures. -/
structure Monitored where
  runtime : Process
  work : String → Work := fun _ => {}
  atCancel : Option (Table String ChainConfig) := none
  failures : List Failure := []

/-- `cancel` has been called. -/
def cancelled : Body → Bool
  | .idle => false
  | .stopIngress => false
  -- `.cancel` is the step that is about to make the call.
  | .cancel => false
  | _ => true

/-- The state handed to the checkpoint. -/
def checkpointed : Body → Option SavedState
  | .checkpoint saved => some saved
  | .finished (.stored saved _) => some saved
  | _ => none

def nodeAt (chains : Table String ChainConfig) (name : String) (index : Nat) : Option NodeConfig :=
  chains[name]?.bind (·.nodes[index]?)

/-- `updateNodeState`. -/
def updateNode (chains : Table String ChainConfig) (name : String) (index : Nat)
    (change : NodeConfig → NodeConfig) : Table String ChainConfig :=
  match chains[name]? with
  | some chain => chains.insert name { chain with nodes := chain.nodes.modify index change }
  | none => chains

/-! ## Steps -/

section Parts
variable (monitored : Monitored)

def Monitored.chains : Table String ChainConfig := monitored.runtime.durable.chains

def Monitored.setWork (name : String) (work : Work) : Monitored :=
  { monitored with work := fun other => if other = name then work else monitored.work other }

def Monitored.probe (name : String) (index : Nat) : Option Probe :=
  (monitored.work name).round.bind (·[index]?)

def Monitored.setProbe (name : String) (index : Nat) (probe : Probe) : Monitored :=
  let work := monitored.work name
  monitored.setWork name { work with round := work.round.map (·.set index probe) }

def Monitored.setPlace (who : Monitor) (name : String) (place : Place) : Monitored :=
  let work := monitored.work name
  monitored.setWork name
    { work with place := fun other => if other = who then place else work.place other }

/-- A monitor marks a node; `blamed` if the try failed for a reason of its own. -/
def Monitored.mark (m : Nat) (name : String) (index : Nat) (change : NodeConfig → NodeConfig)
    (blamed : Bool) : Monitored :=
  { monitored with
    runtime := Runtime.monitorWrite monitored.runtime m
      (updateNode monitored.chains name index change)
    failures := if blamed then
      monitored.failures ++ [⟨name, index, cancelled monitored.runtime.body⟩]
      else monitored.failures }

/-- A monitor's function returns. -/
def Monitored.leave (m : Nat) : Monitored :=
  { monitored with runtime := Runtime.monitorReturn monitored.runtime m }

/-- Once the context is cancelled a call returns an error, of whatever reason; before, it
returns when there is an answer. -/
def answerWith (body : Body) (reply : Option Answer) : Option Answer :=
  match cancelled body, reply with
  -- The endpoint may fail on its own at the same time; an answer comes too late.
  | true, some (.failed err) => some (.failed err)
  | true, _ => some .cancelled
  | false, some .cancelled => none
  | false, reply => reply

/-- A step of `newRpc` under the context: a call of `Status` returns as the context has it. -/
def RpcStep.under (body : Body) : RpcStep → Option RpcStep
  | .answer reply => (answerWith body (some reply)).map .answer
  | step => some step

end Parts

/-- The change that a probe's answer makes. -/
def probeChange (chainId name : String) (now : Instant) : Answer → NodeConfig → NodeConfig
  | .failed _ => markUnhealthy name "down" now
  -- The source does not ask why `Status` failed.
  | .cancelled => markUnhealthy name "down" now
  | .status network catchingUp =>
    if network ≠ chainId then markUnhealthy name "on the wrong network" now
    else if catchingUp then fun node => markSyncing (markUnhealthy name "not synced" now node)
    else markHealthy

inductive ShutdownStep where
  /-- Any other goroutine: alert calls, the worker, `shutdown` and its callers. -/
  | runtime (action : Action)
  /-- Another monitor writes a chain; none of them changes which nodes are down. -/
  | other (m : Nat) (name : String) (chain : ChainConfig)
  | tick (name : String)
  | openProbe (name : String) (index : Nat) (err : Option String) (now : Instant)
  | answerProbe (name : String) (index : Nat) (reply : Option Answer)
  | markProbe (name : String) (index : Nat) (now : Instant)
  | join (name : String)
  | clear (name : String)
  | skip (who : Monitor) (name : String)
  | select (who : Monitor) (name : String)
  | selected (who : Monitor) (name : String) (step : RpcStep)
  | leave (who : Monitor) (name : String)

section System
variable (config : Config) (starts : Monitor → String → Nat) (monitored : Monitored)

def running (who : Monitor) (name : String) : Bool :=
  monitored.runtime.monitors[starts who name]? == some true

/-- The actions of the runtime that are not those of a monitor described here. -/
def outside : Action → Bool
  | .monitorWrite _ _ => false
  | .monitorReturn m => config.chains.keys.all fun name =>
      starts .health name != m && starts .chain name != m
  | _ => true

def runtimeStep (action : Action) : Monitored :=
  if outside config starts action then
    let next := Runtime.step config monitored.runtime action
    { monitored with
      runtime := next
      atCancel := if !cancelled monitored.runtime.body && cancelled next.body
        then some monitored.chains else monitored.atCancel }
  else monitored

/-- The URL and the flag that the checkpoint reads, of every node. -/
def downFlags (chain : ChainConfig) : List (String × Bool) :=
  chain.nodes.map fun node => (node.url, node.down)

def otherWrite (m : Nat) (name : String) (chain : ChainConfig) : Monitored :=
  if monitored.chains[name]?.map downFlags = some (downFlags chain) then
    { monitored with
      runtime := Runtime.monitorWrite monitored.runtime m (monitored.chains.insert name chain) }
  else monitored

/-- The ticker fires. Go's `select` may choose it even when the context is done. -/
def tick (name : String) : Monitored :=
  let work := monitored.work name
  match running starts monitored .health name, work.round, work.place .health,
    monitored.chains[name]? with
  | true, none, .resting, some chain =>
    monitored.setWork name
      { work with round := some (List.replicate chain.nodes.length .opening) }
  | _, _, _, _ => monitored

def openProbe (name : String) (index : Nat) (err : Option String) (now : Instant) : Monitored :=
  match monitored.probe name index, err with
  | some .opening, none => monitored.setProbe name index .calling
  | some .opening, some err =>
    (monitored.setProbe name index .done).mark (starts .health name) name index
      (markUnhealthy name err now) true
  | _, _ => monitored

def answerProbe (name : String) (index : Nat) (reply : Option Answer) : Monitored :=
  match monitored.probe name index, answerWith monitored.runtime.body reply with
  | some .calling, some answer => monitored.setProbe name index (.answered answer)
  | _, _ => monitored

def markProbe (name : String) (index : Nat) (now : Instant) : Monitored :=
  match monitored.probe name index, monitored.chains[name]? with
  | some (.answered answer), some chain =>
    (monitored.setProbe name index .done).mark (starts .health name) name index
      (probeChange chain.chainId name now answer) (answer.blamed chain.chainId)
  | _, _ => monitored

def Probe.isDone : Probe → Bool
  | .done => true
  | _ => false

/-- `probes.Wait()` and the look at the context after it. -/
def join (name : String) : Monitored :=
  let work := monitored.work name
  match work.round with
  | some probes =>
    if probes.all (·.isDone) then
      let joined := monitored.setWork name { work with round := none }
      -- On a cancelled context the function returns; otherwise it may call `newRpc`.
      if cancelled monitored.runtime.body then joined.leave (starts .health name)
      else joined.setPlace .health name .cleared
    else monitored
  | none => monitored

/-- The condition of `monitorChain`'s loop. -/
def clear (name : String) : Monitored :=
  match running starts monitored .chain name, (monitored.work name).place .chain,
    cancelled monitored.runtime.body with
  | true, .resting, false => monitored.setPlace .chain name .cleared
  | _, _, _ => monitored

/-- `monitorHealth` has a client. -/
def skip (who : Monitor) (name : String) : Monitored :=
  match who, (monitored.work name).place who with
  | .health, .cleared => monitored.setPlace who name .resting
  | _, _ => monitored

def Place.selects : Place → Bool
  | .selecting _ => true
  | _ => false

/-- `newRpc` is called and takes `rpcMux`. -/
def select (who : Monitor) (name : String) : Monitored :=
  let work := monitored.work name
  match work.place who, (work.place .health).selects || (work.place .chain).selects with
  | .cleared, false => monitored.setPlace who name (.selecting (.surveying 0 false))
  | _, _ => monitored

def Monitored.effect (who : Monitor) (name : String) (chain : ChainConfig) : Effect → Monitored
  | .nothing => monitored
  | .markDown index message syncing now blamed =>
    monitored.mark (starts who name) name index (Node.markDown message syncing now) blamed
  | .setClient => monitored
  | .setNoNodes noNodes =>
    { monitored with
      runtime := Runtime.monitorWrite monitored.runtime (starts who name)
        (monitored.chains.insert name { chain with noNodes := noNodes }) }

/-- A call of `newRpc` goes on. -/
def stepSelected (who : Monitor) (name : String) (step : RpcStep) : Monitored :=
  match (monitored.work name).place who, monitored.chains[name]?,
    step.under monitored.runtime.body with
  | .selecting call, some chain, some step =>
    match rpcStep chain call step with
    | some (next, effect) =>
      (monitored.setPlace who name (next.elim .resting .selecting)).effect starts who name chain
        effect
    | none => monitored
  | _, _, _ => monitored

/-- A monitor between two rounds sees that the context is done. -/
def leaveLoop (who : Monitor) (name : String) : Monitored :=
  let work := monitored.work name
  match work.place who, who == .health && work.round.isSome, cancelled monitored.runtime.body with
  -- Not while a round of probes is under way.
  | .resting, false, true => monitored.leave (starts who name)
  | _, _, _ => monitored

def shutdownStep (next : ShutdownStep) : Monitored :=
  if monitored.runtime.panicked then monitored
  else match next with
    | .runtime action => runtimeStep config starts monitored action
    | .other m name chain => otherWrite monitored m name chain
    | .tick name => tick starts monitored name
    | .openProbe name index err now => openProbe starts monitored name index err now
    | .answerProbe name index reply => answerProbe monitored name index reply
    | .markProbe name index now => markProbe starts monitored name index now
    | .join name => join starts monitored name
    | .clear name => clear starts monitored name
    | .skip who name => skip monitored who name
    | .select who name => select monitored who name
    | .selected who name step => stepSelected starts monitored who name step
    | .leave who name => leaveLoop starts monitored who name

end System

def startMonitored (config : Config) (monitors : Nat) : Monitored :=
  { runtime := Runtime.newRuntime config monitors }

def shutdownRun (config : Config) (starts : Monitor → String → Nat) (monitors : Nat)
    (steps : List ShutdownStep) : Monitored :=
  steps.foldl (shutdownStep config starts) (startMonitored config monitors)

/-! ## The runtime inside

The monitors take their steps as actions of the runtime, so what is known of its shutdown
holds here too. -/

/-- The runtime stays or takes one action. -/
def Acts (config : Config) (runtime next : Process) : Prop :=
  next = runtime ∨ ∃ action, next = Runtime.step config runtime action

section Acts
variable {config : Config} {starts : Monitor → String → Nat} {monitored : Monitored}

theorem acts_write (alive : monitored.runtime.panicked = false) (m : Nat)
    (chains : Table String ChainConfig) :
    Acts config monitored.runtime (Runtime.monitorWrite monitored.runtime m chains) :=
  .inr ⟨.monitorWrite m chains, by simp [Runtime.step, alive]⟩

theorem acts_return (alive : monitored.runtime.panicked = false) (m : Nat) :
    Acts config monitored.runtime (Runtime.monitorReturn monitored.runtime m) :=
  .inr ⟨.monitorReturn m, by simp [Runtime.step, alive]⟩

theorem acts_effect (alive : monitored.runtime.panicked = false) (who : Monitor) (name : String)
    (chain : ChainConfig) (effect : Effect) :
    Acts config monitored.runtime (monitored.effect starts who name chain effect).runtime := by
  cases effect with
  | nothing => exact .inl rfl
  | markDown index message syncing now blamed => exact acts_write alive _ _
  | setClient => exact .inl rfl
  | setNoNodes noNodes => exact acts_write alive _ _

theorem shutdownStep_acts (next : ShutdownStep) :
    Acts config monitored.runtime (shutdownStep config starts monitored next).runtime := by
  unfold shutdownStep
  split
  · exact .inl rfl
  next running =>
    have alive : monitored.runtime.panicked = false := by simpa using running
    cases next with
    | runtime action =>
      dsimp only [runtimeStep]
      split
      · exact .inr ⟨action, rfl⟩
      · exact .inl rfl
    | other m name chain =>
      dsimp only [otherWrite]
      split
      · exact acts_write alive _ _
      · exact .inl rfl
    | openProbe name index err now =>
      dsimp only [openProbe]
      split
      · exact .inl rfl
      · exact acts_write alive _ _
      · exact .inl rfl
    | markProbe name index now =>
      dsimp only [markProbe]
      split
      · exact acts_write alive _ _
      · exact .inl rfl
    | join name =>
      dsimp only [join]
      split
      · split
        · split
          · exact acts_return alive _
          · exact .inl rfl
        · exact .inl rfl
      · exact .inl rfl
    | selected who name step =>
      dsimp only [stepSelected]
      split
      · split
        · apply acts_effect
          exact alive
        · exact .inl rfl
      · exact .inl rfl
    | leave who name =>
      dsimp only [leaveLoop]
      split
      · exact acts_return alive _
      · exact .inl rfl
    -- The others only move a goroutine of the monitors.
    | tick name => dsimp only [tick]; split <;> exact .inl rfl
    | answerProbe name index reply => dsimp only [answerProbe]; split <;> exact .inl rfl
    | clear name => dsimp only [clear]; split <;> exact .inl rfl
    | skip who name => dsimp only [skip]; split <;> exact .inl rfl
    | select who name => dsimp only [select]; split <;> exact .inl rfl

end Acts

/-- The runtime of every run here is one of the runtime's own runs. -/
theorem shutdownRun_runtime (config : Config) (starts : Monitor → String → Nat) (monitors : Nat)
    (steps : List ShutdownStep) :
    ∃ actions, (shutdownRun config starts monitors steps).runtime =
      Runtime.run config monitors actions := by
  have follows : ∀ (monitored : Monitored) (actions : List Action),
      monitored.runtime = Runtime.run config monitors actions →
      ∃ more, (steps.foldl (shutdownStep config starts) monitored).runtime =
        Runtime.run config monitors more := by
    -- The actions so far are an argument: each step adds at most one at their end.
    induction steps with
    | nil => exact fun _ actions same => ⟨actions, same⟩
    | cons next later ih =>
      intro monitored actions same
      rcases shutdownStep_acts next with stays | ⟨action, acts⟩
      · exact ih _ actions (stays.trans same)
      · refine ih _ (actions ++ [action]) ?_
        rw [acts, same]
        simp [Runtime.run]
  exact follows (startMonitored config monitors) [] rfl

end Seer.Node
