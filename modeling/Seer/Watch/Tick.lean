import Mathlib.Data.Rat.Defs
import Mathlib.Logic.Function.Basic
import Seer.Watch.Messages

/-!
# The watch loop of one chain

Every value that `watch` reads while other goroutines run is an input of the tick, so
a statement about every list of ticks covers every interleaving with them. The two
loops of the source are one state machine: `waiting` is the loop that waits for a
moniker, left for good once one is seen.
-/
namespace Seer.Watch

/-- A call of `td.alert`, tagged with the alarm whose code made it. -/
structure Emission where
  alarm : Alarm
  message : String
  severity : String
  resolved : Bool
  id : String
  deriving DecidableEq, Repr

def valconsOf (seen : Option ValInfo) : String :=
  match seen with
  | some info => info.valcons
  | none => ""

section Stalled
variable (chain : ChainConfig)

def stalledAlert (seen : Option ValInfo) (resolved : Bool) : Emission :=
  { alarm := .stalled
    message := stalledMessage chain
    severity := if resolved then "info" else "critical"
    resolved := resolved
    id := valconsOf seen }

/-- The last final block is older than the threshold. -/
def stale (state : AlertState) (now : Time) : Bool :=
  !state.lastBlockTime.isZero && decide (state.lastBlockTime < now + minutes (-chain.alerts.stalled))

def checkStalledAlert (state : AlertState) (now : Time) (seen : Option ValInfo) :
    AlertState × List Emission :=
  if chain.alerts.stalledAlerts && !state.lastBlockAlarm && stale chain state now then
    ({ state with lastBlockAlarm := true }, [stalledAlert chain seen false])
  else if chain.alerts.stalledAlerts && state.lastBlockAlarm && state.stalledResolutionPending then
    ({ state with lastBlockAlarm := false, stalledResolutionPending := false },
      [stalledAlert chain seen true])
  else (state, [])

/-- Called by the websocket worker; an open alarm now waits for its resolution. -/
def recordFinalBlock (state : AlertState) (now : Time) : AlertState × Time :=
  ({ state with
      lastBlockTime := now
      stalledResolutionPending := state.lastBlockAlarm || state.stalledResolutionPending },
    state.lastBlockTime)

end Stalled

section Percentage
variable (chain : ChainConfig)

def percentageAlert (info : ValInfo) (resolved : Bool) : Emission :=
  { alarm := .percentage
    message := percentageMessage chain info.moniker
    severity := if resolved then "info" else chain.alerts.percentagePriority
    resolved := resolved
    id := info.valcons ++ "percent" }

def percentMissed (info : ValInfo) : Rat := 100 * info.missed / info.window

def checkPercentageAlert (percentageAlarm : Bool) (seen : Option ValInfo) :
    Bool × List Emission :=
  match seen with
  | none => (percentageAlarm, [])
  | some info =>
    if !chain.alerts.percentageAlerts || info.window == 0 then (percentageAlarm, [])
    else if !percentageAlarm && decide (percentMissed info > chain.alerts.window) then
      (true, [percentageAlert chain info false])
    else if percentageAlarm && decide (percentMissed info < chain.alerts.window) then
      (false, [percentageAlert chain info true])
    else (percentageAlarm, [])

end Percentage

section NoServers
variable (config : Config) (chain : ChainConfig)

def noServersAlert (valcons : String) (resolved : Bool) : Emission :=
  { alarm := .noServers
    message := noServersMessage chain
    severity := "critical"
    resolved := resolved
    id := valcons }

/-- The two variables of the no-endpoints alarm. -/
structure Servers where
  noNodes : Bool := false
  noNodesSec : Int := 0
  deriving DecidableEq

/-- The switch of the main loop; `unreachable` is the chain's no-nodes flag. -/
def watchServers (servers : Servers) (valcons : String) (unreachable : Bool) :
    Servers × List Emission :=
  if chain.alerts.alertIfNoServers && !servers.noNodes && unreachable then
    -- Two seconds a round; the limit is half of the configured minutes.
    let waited := servers.noNodesSec + 2
    if waited ≤ wrap64 (30 * config.nodeDownMin) then
      ({ noNodesSec := waited, noNodes := false }, [])
    else ({ noNodesSec := 0, noNodes := true }, [noServersAlert chain valcons false])
  else if chain.alerts.alertIfNoServers && servers.noNodes && !unreachable then
    ({ servers with noNodes := false }, [noServersAlert chain valcons true])
  else ({ servers with noNodesSec := 0 }, [])

/-- One round of the loop that waits for a moniker; it is left with `false`. -/
def waitServers (servers : Servers) (seen : Option ValInfo) (unreachable : Bool) :
    Bool × Servers × List Emission :=
  if seen.all fun info => info.moniker == "not connected" then
    -- One second a round; here the limit is the configured minutes.
    let raise := chain.alerts.alertIfNoServers && !servers.noNodes && unreachable &&
      decide (servers.noNodesSec ≥ wrap64 (60 * config.nodeDownMin))
    (true, { noNodes := servers.noNodes || raise, noNodesSec := servers.noNodesSec + 1 },
      if raise then [noServersAlert chain (valconsOf seen) false] else [])
  else (false, { servers with noNodesSec := 0 }, [])

end NoServers

section Inactive
variable (chain : ChainConfig)

def inactiveAlert (info : ValInfo) (reason : String) (resolved : Bool) : Emission :=
  { alarm := .inactive
    message := inactiveMessage info.moniker reason
    severity := if resolved then "info" else "critical"
    resolved := resolved
    id := info.valcons ++ "jailed" }

/-- Alerts on a change of the bonded flag between the last two refreshes. The reason
stays at its tombstone text once that was seen. -/
def watchInactive (inactive : String) (info : ValInfo) (last : Option ValInfo) :
    String × List Emission :=
  match last with
  | none => (inactive, [])
  | some last =>
    if chain.alerts.alertIfInactive && last.bonded != info.bonded && last.moniker == info.moniker then
      if !info.bonded && last.bonded then
        let reason := if info.tombstoned then tombstonedReason else inactive
        (reason, [inactiveAlert info reason false])
      else if info.bonded && !last.bonded then
        (inactive, [inactiveAlert info inactive true])
      else (inactive, [])
    else (inactive, [])

end Inactive

section Consecutive
variable (chain : ChainConfig)

def consecutiveAlert (info : ValInfo) (resolved : Bool) : Emission :=
  { alarm := .consecutive
    message := consecutiveMessage chain info.moniker
    severity := if resolved then "info" else chain.alerts.consecutivePriority
    resolved := resolved
    id := info.valcons ++ "consecutive" }

/-- `missed` is the consecutive-miss counter read at this tick. -/
def watchConsecutive (missedAlarm : Bool) (info : ValInfo) (missed : Nat) :
    Bool × List Emission :=
  if !missedAlarm && chain.alerts.consecutiveAlerts &&
      decide ((missed : Int) ≥ chain.alerts.consecutiveMissed) then
    (true, [consecutiveAlert chain info false])
  -- The resolution does not ask whether the alert is still switched on.
  else if missedAlarm && decide ((missed : Int) < chain.alerts.consecutiveMissed) then
    (false, [consecutiveAlert chain info true])
  else (missedAlarm, [])

end Consecutive

section NodeDown
variable (config : Config) (chain : ChainConfig)

def nodeDownAlert (index : Nat) (node : NodeConfig) (resolved : Bool) : Emission :=
  { alarm := .nodeDown index
    message := nodeDownMessage config chain node.url
    severity := if resolved then "info" else config.nodeDownSeverity
    resolved := resolved
    id := node.url }

/-- The node has been down for longer than the configured time. -/
def longDown (node : NodeConfig) (now : Time) : Bool :=
  node.down && !node.downSince.isZero && decide (now.sub node.downSince > minutes config.nodeDownMin)

/-- What the loop does about one node, from the copy of the node's state it took. -/
inductive NodeAction where
  | raise
  | recover
  | nothing
  deriving DecidableEq, Repr

def nodeAction (raised : Bool) (node : NodeConfig) (now : Time) : NodeAction :=
  if node.alertIfDown && !node.wasDown && longDown config node now then
    -- Down for long and raised already: the source goes on to the next node.
    if raised then .nothing else .raise
  else if node.alertIfDown && !node.down && node.wasDown then .recover
  else .nothing

/-- When each action is taken. -/
theorem nodeAction_cases (raised : Bool) (node : NodeConfig) (now : Time) :
    (nodeAction config raised node now = .raise ∧ node.alertIfDown = true ∧
      node.wasDown = false ∧ longDown config node now = true ∧ raised = false) ∨
    (nodeAction config raised node now = .recover ∧ node.alertIfDown = true ∧
      node.down = false ∧ node.wasDown = true) ∨
    (nodeAction config raised node now = .nothing ∧
      (node.alertIfDown = true → node.wasDown = false → longDown config node now = true →
        raised = true) ∧
      (node.alertIfDown = true → node.down = false → node.wasDown = false)) := by
  unfold nodeAction
  split
  next due =>
    simp only [Bool.and_eq_true, Bool.not_eq_true'] at due
    split
    next already =>
      refine .inr (.inr ⟨rfl, fun _ _ _ => already, fun _ _ => due.1.2⟩)
    next fresh => exact .inl ⟨rfl, due.1.1, due.1.2, due.2, by simpa using fresh⟩
  next notDue =>
    split
    next back =>
      simp only [Bool.and_eq_true, Bool.not_eq_true'] at back
      exact .inr (.inl ⟨rfl, back.1.1, back.1.2, back.2⟩)
    next =>
      refine .inr (.inr ⟨rfl, ?_, ?_⟩)
      · intro switch fresh long
        simp [switch, fresh, long] at notDue
      · intro switch up
        simp_all

/-- `nodeAlarms` remembers the URLs with a raised alarm, so nodes of one URL share an entry. -/
def watchNode (nodeAlarms : String → Bool) (index : Nat) (node : NodeConfig) (now : Time) :
    (String → Bool) × List Emission :=
  match nodeAction config (nodeAlarms node.url) node now with
  | .raise =>
    (Function.update nodeAlarms node.url true, [nodeDownAlert config chain index node false])
  | .recover =>
    (Function.update nodeAlarms node.url false, [nodeDownAlert config chain index node true])
  | .nothing => (nodeAlarms, [])

/-- The nodes from a place in the list on. -/
def watchNodes (nodeAlarms : String → Bool) (index : Nat) : List (NodeConfig × Instant) →
    (String → Bool) × List Emission
  | [] => (nodeAlarms, [])
  | (node, now) :: later =>
    let first := watchNode config chain nodeAlarms index node now
    let rest := watchNodes first.1 (index + 1) later
    (rest.1, first.2 ++ rest.2)

end NodeDown

/-- The local variables of `watch` and the chain's alert state. -/
structure State where
  waiting : Bool := true
  servers : Servers := {}
  alertState : AlertState := {}
  inactive : String := jailedReason
  missedAlarm : Bool := false
  nodeAlarms : String → Bool := fun _ => false

/-- The values one tick reads, in the order of the source. -/
structure Seen where
  valInfo : Option ValInfo := none
  lastValInfo : Option ValInfo := none
  unreachable : Bool := false
  now : Instant
  /-- The snapshot that `checkStalledAlert` takes for its dedup key. -/
  stalledInfo : Option ValInfo := none
  missed : Nat := 0
  percentInfo : Option ValInfo := none
  nodes : List (NodeConfig × Instant) := []

section Tick
variable (config : Config) (chain : ChainConfig)

/-- The checks run one after the other, each on its own variables. -/
def mainTick (state : State) (seen : Seen) : State × List Emission :=
  match seen.valInfo with
  -- Without validator data the loop waits for its next round.
  | none => (state, [])
  | some info =>
    let servers := watchServers config chain state.servers info.valcons seen.unreachable
    let stalled := checkStalledAlert chain state.alertState seen.now seen.stalledInfo
    let inactive := watchInactive chain state.inactive info seen.lastValInfo
    let consecutive := watchConsecutive chain state.missedAlarm info seen.missed
    let percentage := checkPercentageAlert chain stalled.1.percentageAlarm seen.percentInfo
    let nodes := watchNodes config chain state.nodeAlarms 0 seen.nodes
    ({ waiting := state.waiting
       servers := servers.1
       alertState := { stalled.1 with percentageAlarm := percentage.1 }
       inactive := inactive.1
       missedAlarm := consecutive.1
       nodeAlarms := nodes.1 },
      servers.2 ++ stalled.2 ++ inactive.2 ++ consecutive.2 ++ percentage.2 ++ nodes.2)

def waitTick (state : State) (seen : Seen) : State × List Emission :=
  let (waiting, servers, emitted) :=
    waitServers config chain state.servers seen.valInfo seen.unreachable
  ({ state with waiting := waiting, servers := servers }, emitted)

def tick (state : State) (seen : Seen) : State × List Emission :=
  if state.waiting then waitTick config chain state seen else mainTick config chain state seen

theorem tick_main {state : State} (main : state.waiting = false) (seen : Seen) :
    tick config chain state seen = mainTick config chain state seen := by
  simp [tick, main]

/-- What happens to the watch loop: its own ticks and the websocket worker's blocks. -/
inductive Event where
  | tick (seen : Seen)
  | block (now : Time)

def step (state : State) : Event → State × List Emission
  | .tick seen => tick config chain state seen
  | .block now => ({ state with alertState := (recordFinalBlock state.alertState now).1 }, [])

/-- The events in order, with everything emitted, oldest first. -/
def runFrom (state : State) : List Event → State × List Emission
  | [] => (state, [])
  | event :: later =>
    let (next, emitted) := step config chain state event
    let (last, more) := runFrom next later
    (last, emitted ++ more)

/-- A run of `watch` from its start. -/
def run (events : List Event) : State × List Emission := runFrom config chain {} events

theorem runFrom_append (state : State) (earlier later : List Event) :
    runFrom config chain state (earlier ++ later) =
      let before := runFrom config chain state earlier
      let after := runFrom config chain before.1 later
      (after.1, before.2 ++ after.2) := by
  induction earlier generalizing state with
  | nil => rfl
  | cons event rest ih => simp [runFrom, ih]

theorem run_concat (events : List Event) (event : Event) :
    run config chain (events ++ [event]) =
      ((step config chain (run config chain events).1 event).1,
        (run config chain events).2 ++ (step config chain (run config chain events).1 event).2) := by
  simp [run, runFrom_append, runFrom]

end Tick

end Seer.Watch
