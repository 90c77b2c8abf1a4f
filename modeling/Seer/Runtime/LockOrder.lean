import Seer.Lib.Locks

/-!
# The locks of the process

Every goroutine of the process takes its locks through a small number of functions. Here
each of them is the list of what it locks, unlocks and calls out for, by the branches it
can take; a call is a request to a node or a service, or a send to a channel. Locks nest in
two ways only: the RPC lock of a chain around the others, and the durable-state lock around
the lock of the alarm cache. There is one cache: `loadConfig` binds the configuration's to
the durable state and makes it the package's, before any goroutine runs.

The model leaves out `localStateMux`, which stands in for the durable-state lock of a chain
that is not bound to a configuration, and the dashboard's own lock, which nothing else takes.
-/
namespace Seer.Runtime.LockOrder

open Seer.Lib.Locks

inductive Mutex where
  | rpc (chain : String)
  | monitoring (chain : String)
  | alertState (chain : String)
  | connection (chain : String)
  | state
  | notify
  | chains
  | ingress
  | path
  | altValopers
  | prom
  deriving DecidableEq

namespace Mutex

def rank : Mutex → Nat
  | .rpc _ => 0
  | .state => 1
  | _ => 2

def isRpc : Mutex → Bool
  | .rpc _ => true
  | _ => false

/-- Endpoint selection and refresh hold the RPC lock over their requests, and a connection is
closed under its lock. -/
def around : Mutex → Bool
  | .rpc _ => true
  | .connection _ => true
  | _ => false

end Mutex

/-- What a function does to the locks. -/
abbrev Locking : Type := List (Act Mutex)

/-! ## Sections without a lock inside -/

def monitoringSnapshot (chain : String) : Locking := rlocked (.monitoring chain) []
def setRPCClient (chain : String) : Locking := locked (.monitoring chain) []
def publishValidatorInfo (chain : String) : Locking := locked (.monitoring chain) []
def setNoNodes : Locking := locked .state []
def noNodesState : Locking := rlocked .state []
def recordBlockResult : Locking := locked .state []
def blockResultsSnapshot : Locking := rlocked .state []
def updateNodeState : Locking := locked .state []
def nodeState : Locking := rlocked .state []
def recordFinalBlock (chain : String) : Locking := locked (.alertState chain) []
def lastFinalBlockTime (chain : String) : Locking := locked (.alertState chain) []
def beginAlertIngress : Locking := locked .ingress []
def stopAlertIngress : Locking := locked .ingress []
def getCount : Locking := rlocked .notify []
def getAlarms : Locking := rlocked .notify []
def reserveDelivery : Locking := locked .notify []
def getRegistryUrl : Locking := locked .path []
def getAltPrefix : Locking := rlocked .altValopers []
def setStat : Locking := rlocked .prom []
def storeConnection (chain : String) : Locking := locked (.connection chain) []

/-! ## Functions that nest or call -/

/-- What a method of the cache does between `lockDurableState` and its return. -/
def lockDurableState (body : Locking) : Locking := locked .state body

def clearNoBlocks : Locking := lockDurableState (locked .notify [])
def recordDashboardAlarm : Locking := lockDurableState (locked .notify [])
def completeDelivery : Locking := lockDurableState (locked .notify [])
def snapshotSavedState : Locking := rlocked .state (rlocked .notify [])
def closeWebSocket (chain : String) : Locking := locked (.connection chain) [.call]
def refreshRegistry : Locking := [.call] ++ locked .path []

/-- `emitStat` with `mkUpdate`. -/
def emitStat (chain : String) : Locking := monitoringSnapshot chain ++ [.call]

def alert (accepting : Bool) : Locking :=
  beginAlertIngress ++
    if accepting then rlocked .chains [] ++ [.call] ++ recordDashboardAlarm else []

/-- One of the four sinks. -/
def deliver (reserved : Bool) : Locking :=
  reserveDelivery ++ if reserved then [.call] ++ completeDelivery else []

/-- How `newRpc` leaves an endpoint behind: whether it read that it is down, and whether it
tried it in vain. -/
structure Visit where
  checked : Bool
  failed : Bool

def Visit.locking (visit : Visit) : Locking :=
  (if visit.checked then nodeState else []) ++
    if visit.failed then [.call] ++ updateNodeState else []

inductive Selection where
  | node (checked : Bool)
  | fallback
  | nothing (askedRegistry dashboard : Bool)

def Selection.locking (chain : String) : Selection → Locking
  | .node checked =>
    (if checked then nodeState else []) ++ ([.call] ++ setRPCClient chain ++ setNoNodes)
  | .fallback => getRegistryUrl ++ [.call] ++ setRPCClient chain ++ setNoNodes ++ [.call]
  | .nothing askedRegistry dashboard =>
    (if askedRegistry then getRegistryUrl ++ [.call] else []) ++ setNoNodes ++ getCount ++
      if dashboard then monitoringSnapshot chain ++ blockResultsSnapshot ++ [.call] else []

/-- `newRpc`, with the number of endpoints it looks at before one that is up. -/
def newRpc (chain : String) (looks : Nat) (visits : List Visit) (selection : Selection) : Locking :=
  locked (.rpc chain)
    ((List.replicate looks nodeState).flatten ++ (visits.map Visit.locking).flatten ++
      selection.locking chain)

/-- How far `GetValInfo` gets. -/
inductive Refresh where
  | noClient
  | noValidator
  | noPrefix
  /-- The signing info, and the slashing parameters if they are not known yet. -/
  | noSigning (alternative params : Bool)
  | published (alternative params : Bool) (stats : Nat)

def Refresh.locking (chain : String) : Refresh → Locking
  | .noClient => []
  | .noValidator => [.call]
  | .noPrefix => [.call] ++ getAltPrefix
  | .noSigning alternative params =>
    [.call] ++ (if alternative then getAltPrefix else []) ++ [.call] ++ if params then [.call] else []
  | .published alternative params stats =>
    [.call] ++ (if alternative then getAltPrefix else []) ++ [.call] ++
      (if params then [.call] else []) ++ publishValidatorInfo chain ++
      (List.replicate stats (emitStat chain)).flatten

def getValInfo (chain : String) (refresh : Refresh) : Locking :=
  locked (.rpc chain) (monitoringSnapshot chain ++ refresh.locking chain)

/-- A health probe: its request, its updates of the node, and what a healthy one adds. -/
def probe (chain : String) (updates : Nat) (healthy stat : Bool) : Locking :=
  [.call] ++ (List.replicate updates updateNodeState).flatten ++
    (if healthy then setNoNodes else []) ++ if stat then emitStat chain else []

/-- `checkStalledAlert`; it clears the alarm only with a resolution. -/
def checkStalledAlert (chain : String) (changed accepting resolved : Bool) : Locking :=
  locked (.alertState chain) [] ++
    if changed then
      monitoringSnapshot chain ++ alert accepting ++ if resolved then clearNoBlocks else []
    else []

def checkPercentageAlert (chain : String) (changed accepting : Bool) : Locking :=
  monitoringSnapshot chain ++ locked (.alertState chain) [] ++
    if changed then alert accepting ++ getCount else []

inductive Operation where
  | newRpc (chain : String) (looks : Nat) (visits : List Visit) (selection : Selection)
  | getValInfo (chain : String) (refresh : Refresh)
  | probe (chain : String) (updates : Nat) (healthy stat : Bool)
  | checkStalledAlert (chain : String) (changed accepting resolved : Bool)
  | checkPercentageAlert (chain : String) (changed accepting : Bool)
  | alert (accepting : Bool)
  | deliver (reserved : Bool)
  | monitoringSnapshot (chain : String)
  | noNodesState
  | nodeState
  | updateNodeState
  | recordBlockResult
  | recordFinalBlock (chain : String)
  | lastFinalBlockTime (chain : String)
  | getAlarms
  | getCount
  | emitStat (chain : String)
  | setStat
  | storeConnection (chain : String)
  | closeWebSocket (chain : String)
  | stopAlertIngress
  | snapshotSavedState
  | refreshRegistry
  /-- Anything else that can block. -/
  | call

def Operation.locking : Operation → Locking
  | .newRpc chain looks visits selection => LockOrder.newRpc chain looks visits selection
  | .getValInfo chain refresh => LockOrder.getValInfo chain refresh
  | .probe chain updates healthy stat => LockOrder.probe chain updates healthy stat
  | .checkStalledAlert chain changed accepting resolved =>
    LockOrder.checkStalledAlert chain changed accepting resolved
  | .checkPercentageAlert chain changed accepting =>
    LockOrder.checkPercentageAlert chain changed accepting
  | .alert accepting => LockOrder.alert accepting
  | .deliver reserved => LockOrder.deliver reserved
  | .monitoringSnapshot chain => LockOrder.monitoringSnapshot chain
  | .noNodesState => LockOrder.noNodesState
  | .nodeState => LockOrder.nodeState
  | .updateNodeState => LockOrder.updateNodeState
  | .recordBlockResult => LockOrder.recordBlockResult
  | .recordFinalBlock chain => LockOrder.recordFinalBlock chain
  | .lastFinalBlockTime chain => LockOrder.lastFinalBlockTime chain
  | .getAlarms => LockOrder.getAlarms
  | .getCount => LockOrder.getCount
  | .emitStat chain => LockOrder.emitStat chain
  | .setStat => LockOrder.setStat
  | .storeConnection chain => LockOrder.storeConnection chain
  | .closeWebSocket chain => LockOrder.closeWebSocket chain
  | .stopAlertIngress => LockOrder.stopAlertIngress
  | .snapshotSavedState => LockOrder.snapshotSavedState
  | .refreshRegistry => LockOrder.refreshRegistry
  | .call => [.call]

/-! ## Every function respects the order -/

section Order

/-- The locks are taken in their order and calls are made under the RPC lock at most. -/
abbrev Orderly (floor : Nat) (locking : Locking) : Prop :=
  Balanced Mutex.rank Mutex.around floor true locking

theorem rank_pos {mutex : Mutex} (other : mutex.isRpc = false) : 1 ≤ mutex.rank := by
  cases mutex with
  | rpc chain => cases other
  | _ => simp [Mutex.rank]

/-- A section without a lock inside; it may itself be inside the RPC lock. -/
theorem orderly_locked {mutex : Mutex} (other : mutex.isRpc = false) :
    Orderly 1 (locked mutex []) :=
  .locked (rank_pos other) (fun none : false = true => nomatch none) balanced_nil

theorem orderly_rlocked {mutex : Mutex} (other : mutex.isRpc = false) :
    Orderly 1 (rlocked mutex []) :=
  .rlocked (rank_pos other) (fun none : false = true => nomatch none) balanced_nil

/-- The durable-state lock around the one of the cache. -/
theorem orderly_lockDurableState : Orderly 1 (lockDurableState (locked .notify [])) := by
  refine .locked (Nat.le_refl _) (fun none : false = true => nomatch none) ?_
  exact .locked (Nat.le_refl _) (fun none : false = true => nomatch none) balanced_nil

theorem orderly_snapshotSavedState : Orderly 1 snapshotSavedState := by
  refine .rlocked (Nat.le_refl _) (fun none : false = true => nomatch none) ?_
  exact .rlocked (Nat.le_refl _) (fun none : false = true => nomatch none) balanced_nil

theorem orderly_closeWebSocket (chain : String) : Orderly 1 (closeWebSocket chain) :=
  .locked (rank_pos rfl) (fun _ : true = true => ⟨rfl, rfl⟩) balanced_call

theorem orderly_emitStat (chain : String) : Orderly 1 (emitStat chain) :=
  (orderly_rlocked rfl).append balanced_call

theorem orderly_replicate {locking : Locking} (orderly : Orderly 1 locking) (count : Nat) :
    Orderly 1 (List.replicate count locking).flatten :=
  .flatten fun _ member => List.eq_of_mem_replicate member ▸ orderly

theorem orderly_alert (accepting : Bool) : Orderly 1 (alert accepting) := by
  refine (orderly_locked rfl).append (.ite accepting ?_)
  exact ((orderly_rlocked rfl).append balanced_call).append orderly_lockDurableState

theorem orderly_visit (visit : Visit) : Orderly 1 visit.locking := by
  refine (Balanced.ite _ (orderly_rlocked rfl)).append (.ite _ ?_)
  exact balanced_call.append (orderly_locked rfl)

theorem orderly_selection (chain : String) (selection : Selection) :
    Orderly 1 (selection.locking chain) := by
  cases selection with
  | node checked =>
    refine (Balanced.ite checked (orderly_rlocked rfl)).append ?_
    exact (balanced_call.append (orderly_locked rfl)).append (orderly_locked rfl)
  | fallback =>
    refine Balanced.append ?_ balanced_call
    exact (((orderly_locked rfl).append balanced_call).append (orderly_locked rfl)).append
      (orderly_locked rfl)
  | nothing askedRegistry dashboard =>
    refine Balanced.append (.append (.append (.ite askedRegistry ?_) (orderly_locked rfl))
      (orderly_rlocked rfl)) (.ite dashboard ?_)
    · exact (orderly_locked rfl).append balanced_call
    · exact ((orderly_rlocked rfl).append (orderly_rlocked rfl)).append balanced_call

theorem orderly_refresh (chain : String) (refresh : Refresh) : Orderly 1 (refresh.locking chain) := by
  -- The queries, with the look-up of an alternative prefix between them.
  have queries : ∀ alternative params : Bool,
      Orderly 1 ([.call] ++ (if alternative then getAltPrefix else []) ++ [.call] ++
        if params then [.call] else []) := by
    intro alternative params
    refine Balanced.append ?_ (.ite params balanced_call)
    exact (balanced_call.append (.ite alternative (orderly_rlocked rfl))).append balanced_call
  cases refresh with
  | noClient => exact balanced_nil
  | noValidator => exact balanced_call
  | noPrefix => exact balanced_call.append (orderly_rlocked rfl)
  | noSigning alternative params => exact queries alternative params
  | published alternative params stats =>
    refine ((queries alternative params).append (orderly_locked rfl)).append ?_
    exact orderly_replicate (orderly_emitStat chain) stats

/-- A section of the RPC lock of a chain. -/
theorem orderly_rpc {chain : String} {body : Locking} (orderly : Orderly 1 body) :
    Orderly 0 (locked (.rpc chain) body) :=
  .locked (Nat.zero_le _) (fun _ : true = true => ⟨rfl, rfl⟩) orderly

theorem orderly_newRpc (chain : String) (looks : Nat) (visits : List Visit) (selection : Selection) :
    Orderly 0 (newRpc chain looks visits selection) := by
  refine orderly_rpc (.append (.append ?_ (.flatten ?_)) (orderly_selection chain selection))
  · exact orderly_replicate (orderly_rlocked rfl) looks
  · intro locking member
    obtain ⟨visit, -, rfl⟩ := List.mem_map.mp member
    exact orderly_visit visit

theorem orderly_getValInfo (chain : String) (refresh : Refresh) :
    Orderly 0 (getValInfo chain refresh) :=
  orderly_rpc ((orderly_rlocked rfl).append (orderly_refresh chain refresh))

theorem orderly_probe (chain : String) (updates : Nat) (healthy stat : Bool) :
    Orderly 1 (probe chain updates healthy stat) := by
  refine .append (.append (balanced_call.append ?_) (.ite healthy (orderly_locked rfl)))
    (.ite stat (orderly_emitStat chain))
  exact orderly_replicate (orderly_locked rfl) updates

theorem orderly_checkStalledAlert (chain : String) (changed accepting resolved : Bool) :
    Orderly 1 (checkStalledAlert chain changed accepting resolved) := by
  refine (orderly_locked rfl).append (.ite changed ?_)
  exact ((orderly_rlocked rfl).append (orderly_alert accepting)).append
    (.ite resolved orderly_lockDurableState)

theorem orderly_checkPercentageAlert (chain : String) (changed accepting : Bool) :
    Orderly 1 (checkPercentageAlert chain changed accepting) := by
  refine ((orderly_rlocked rfl).append (orderly_locked rfl)).append (.ite changed ?_)
  exact (orderly_alert accepting).append (orderly_rlocked rfl)

theorem orderly_operation (operation : Operation) : Orderly 0 operation.locking := by
  cases operation with
  | newRpc chain looks visits selection => exact orderly_newRpc chain looks visits selection
  | getValInfo chain refresh => exact orderly_getValInfo chain refresh
  | probe chain updates healthy stat =>
    exact (orderly_probe chain updates healthy stat).mono (Nat.zero_le _)
  | checkStalledAlert chain changed accepting resolved =>
    exact (orderly_checkStalledAlert chain changed accepting resolved).mono (Nat.zero_le _)
  | checkPercentageAlert chain changed accepting =>
    exact (orderly_checkPercentageAlert chain changed accepting).mono (Nat.zero_le _)
  | alert accepting => exact (orderly_alert accepting).mono (Nat.zero_le _)
  | deliver reserved =>
    refine ((orderly_locked rfl).append (.ite reserved ?_)).mono (Nat.zero_le _)
    exact balanced_call.append orderly_lockDurableState
  | emitStat chain => exact (orderly_emitStat chain).mono (Nat.zero_le _)
  | closeWebSocket chain => exact (orderly_closeWebSocket chain).mono (Nat.zero_le _)
  | snapshotSavedState => exact orderly_snapshotSavedState.mono (Nat.zero_le _)
  | refreshRegistry => exact (balanced_call.append (orderly_locked rfl)).mono (Nat.zero_le 1)
  | call => exact balanced_call
  | monitoringSnapshot | noNodesState | nodeState | getAlarms | getCount | setStat =>
    exact (orderly_rlocked rfl).mono (Nat.zero_le _)
  | updateNodeState | recordBlockResult | recordFinalBlock | lastFinalBlockTime | storeConnection
  | stopAlertIngress => exact (orderly_locked rfl).mono (Nat.zero_le _)

end Order

/-! ## The whole process -/

/-- A goroutine that carries out the operations one after the other. -/
def goroutine (operations : List Operation) : Thread Mutex :=
  { program := (operations.map Operation.locking).flatten }

theorem sound_goroutine (operations : List Operation) :
    (goroutine operations).Sound Mutex.rank Mutex.around := by
  have orderly : Orderly 0 (operations.map Operation.locking).flatten := by
    refine .flatten fun locking member => ?_
    obtain ⟨operation, -, rfl⟩ := List.mem_map.mp member
    exact orderly_operation operation
  exact .start orderly.ranked

/-- Any number of goroutines, each with any operations, under any schedule: the run ends
after a bounded number of steps, until then one of them can go on, and none of them calls
out while it holds another lock than the RPC lock or the lock of a connection. -/
theorem no_lock_deadlock (goroutines : List (List Operation)) {schedule : List Nat}
    {last : List (Thread Mutex)}
    (runs : Seer.Lib.Machine.run step (goroutines.map goroutine) schedule = some last) :
    schedule.length ≤ work (goroutines.map goroutine) ∧
      ((∀ thread ∈ last, thread.program = []) ∨ ∃ index, (step last index).isSome = true) ∧
      ∀ thread ∈ last, ∀ rest, thread.program = .call :: rest →
        ∀ mutex ∈ thread.writes ++ thread.reads,
          ∃ chain, mutex = .rpc chain ∨ mutex = .connection chain := by
  have sound : ∀ thread ∈ goroutines.map goroutine, thread.Sound Mutex.rank Mutex.around := by
    intro thread member
    obtain ⟨operations, -, rfl⟩ := List.mem_map.mp member
    exact sound_goroutine operations
  obtain ⟨bounded, moves⟩ := completes sound runs
  refine ⟨bounded, moves, fun thread member rest calls mutex held => ?_⟩
  have around := (sound_run sound runs thread member).held_around calls mutex held
  cases mutex with
  | rpc chain => exact ⟨chain, .inl rfl⟩
  | connection chain => exact ⟨chain, .inr rfl⟩
  | _ => cases around

/-- An alert that waits for a snapshot to give the durable-state lock back. -/
theorem no_lock_deadlock_alert_and_snapshot :
    ∃ last, Seer.Lib.Machine.run step
        ([[.alert true], [.snapshotSavedState]].map goroutine) [0, 1, 0, 0, 0, 0, 0, 0] = some last ∧
      last.map (·.announced) = [true, false] ∧ last.map (·.reads) = [[], [.state]] ∧
      ∃ index, (step last index).isSome = true := by
  have runs : Seer.Lib.Machine.run step
      ([[.alert true], [.snapshotSavedState]].map goroutine) [0, 1, 0, 0, 0, 0, 0, 0] = some _ := rfl
  have free := (no_lock_deadlock _ runs).2.1
  refine ⟨_, runs, rfl, rfl, free.resolve_left fun done => ?_⟩
  cases done _ List.mem_cons_self

end Seer.Runtime.LockOrder
