import Seer.Alert.Worker
import Seer.State.Snapshot

/-!
# The runtime and its shutdown

Every goroutine that takes part in a shutdown, one action for each of its atomic
steps: calls of `Config.alert` (any number of producers), the notification worker, the
monitors, and the callers of `shutdown`, of which the first runs the body of the
`sync.Once`. An action that its goroutine cannot take now leaves the runtime as it is,
so a list of actions is any interleaving. What happened is kept in a trace.
-/
namespace Seer.Runtime

open Seer.Lib Seer.Alert

/-- One call of `Config.alert`, with the chain it finds under the name. -/
structure AlertCall where
  chainName : String
  chain : ChainConfig
  message : String
  severity : String
  resolved : Bool
  id : Option String

def AlertCall.msg (config : Config) (call : AlertCall) : AlertMsg :=
  alert config call.chainName call.chain call.message call.severity call.resolved call.id

/-- How far a call of `Config.alert` has come. -/
inductive Call where
  | refused
  | begun (call : AlertCall)
  | sent (call : AlertCall)
  | recorded (call : AlertCall) (now : Instant)
  | finished (call : AlertCall) (now : Instant)

/-- Between `beginAlertIngress` and `finishAlertIngress`. -/
def Call.inside : Call → Bool
  | .begun _ => true
  | .sent _ => true
  | .recorded _ _ => true
  | .refused => false
  | .finished _ _ => false

inductive NotificationWorker where
  | idle
  | delivering (call : Nat) (msg : AlertMsg)
  | exited

/-- How the body of the shutdown ended. -/
inductive Outcome where
  | quiesceTimedOut
  | drainTimedOut
  | stored (saved : SavedState) (error : Option String)

/-- The value of `shutdownErr`. -/
def Outcome.shutdownErr : Outcome → Option String
  | .quiesceTimedOut => some
      "shutdown drain timed out while quiescing monitoring and alert ingress: context deadline exceeded"
  | .drainTimedOut => some
      "shutdown drain timed out while draining accepted notifications: context deadline exceeded"
  | .stored _ error => error.map ("save durable state: " ++ ·)

/-- The next step of the function that the `sync.Once` runs. -/
inductive Body where
  | idle
  | stopIngress
  | cancel
  | waitMonitors
  | waitIngress
  | close
  | waitWorker
  | snapshot
  | checkpoint (saved : SavedState)
  | finished (outcome : Outcome)

inductive Caller where
  | inside
  | returned (result : Option String)

/-! ## What is recorded -/

inductive CallEvent where
  | began (call : AlertCall)
  | sent (msg : AlertMsg)
  | recorded (call : AlertCall) (now : Instant)
  | finished

inductive BodyEvent where
  | ingressStopped
  | closed
  | timedOut
  | snapshot (saved : SavedState)
  | checkpoint (saved : SavedState) (error : Option String)

inductive Event where
  | call (i : Nat) (event : CallEvent)
  | delivered (i : Nat) (delivery : Delivery)
  | monitorWrote (m : Nat) (chains : Table String ChainConfig)
  | monitorReturned (m : Nat)
  | shutdown (event : BodyEvent)
  | returned (k : Nat) (result : Option String)

/-- The state that a checkpoint saves. -/
structure Durable where
  chains : Table String ChainConfig
  cache : AlarmCache

structure Process where
  durable : Durable
  accepting : Bool := true
  ingressWG : Nat := 0
  calls : List Call := []
  /-- The contents of `alertChan`, oldest first, each with the call that sent it. -/
  alertChan : List (Nat × AlertMsg) := []
  closed : Bool := false
  worker : NotificationWorker := .idle
  notificationsWG : Nat := 1
  /-- Which monitors are still running. -/
  monitors : List Bool
  monitorsWG : Nat
  body : Body := .idle
  /-- The drain context's deadline has passed. -/
  expired : Bool := false
  callers : List Caller := []
  /-- A send on a closed channel, or a second close. -/
  panicked : Bool := false
  trace : List Event := []

/-- `notificationQueueCapacity`. -/
def notificationQueueCapacity : Nat := 64

/-- After `newRuntimeLifecycle`, `startNotificationWorker` and `startMonitor` for each of
the monitors. -/
def newRuntime (config : Config) (monitors : Nat) : Process :=
  { durable := { chains := config.chains, cache := config.alarms }
    monitors := List.replicate monitors true
    monitorsWG := monitors }

section Calls
variable (config : Config) (runtime : Process)

/-- A new call of `Config.alert` runs `beginAlertIngress`. -/
def beginAlertIngress (call : AlertCall) : Process :=
  if runtime.accepting then
    { runtime with
      ingressWG := runtime.ingressWG + 1
      calls := runtime.calls ++ [.begun call]
      trace := runtime.trace ++ [.call runtime.calls.length (.began call)] }
  else { runtime with calls := runtime.calls ++ [.refused] }

/-- `c.alertChan <- a`: blocks while the channel is full, panics on a closed one. -/
def sendAlert (i : Nat) : Process :=
  match runtime.calls[i]? with
  | some (.begun call) =>
    if runtime.closed then { runtime with panicked := true }
    else if runtime.alertChan.length < notificationQueueCapacity then
      { runtime with
        calls := runtime.calls.set i (.sent call)
        alertChan := runtime.alertChan ++ [(i, call.msg config)]
        trace := runtime.trace ++ [.call i (.sent (call.msg config))] }
    else runtime
  | _ => runtime

def recordAlert (i : Nat) (now : Instant) : Process :=
  match runtime.calls[i]? with
  | some (.sent call) =>
    { runtime with
      calls := runtime.calls.set i (.recorded call now)
      durable := { runtime.durable with
        cache := recordDashboardAlarm runtime.durable.cache now call.chainName call.message
          call.resolved }
      trace := runtime.trace ++ [.call i (.recorded call now)] }
  | _ => runtime

def finishAlertIngress (i : Nat) : Process :=
  match runtime.calls[i]? with
  | some (.recorded call now) =>
    { runtime with
      ingressWG := runtime.ingressWG - 1
      calls := runtime.calls.set i (.finished call now)
      trace := runtime.trace ++ [.call i .finished] }
  | _ => runtime

end Calls

section Workers
variable (runtime : Process)

/-- The worker's range loop: it takes the oldest alert, and ends on a closed channel
that is empty. -/
def receiveAlert : Process :=
  match runtime.worker, runtime.alertChan with
  | .idle, (i, msg) :: later =>
    { runtime with worker := .delivering i msg, alertChan := later }
  | .idle, [] =>
    if runtime.closed then
      { runtime with worker := .exited, notificationsWG := runtime.notificationsWG - 1 }
    else runtime
  | _, _ => runtime

/-- The delivery ends. Its writes to the cache are to other maps than the dashboard's,
so it makes no difference when they happen between `receiveAlert` and this step. -/
def finishDelivery (network : Network) (reserveAt completeAt : NotifyDest → Instant)
    (order : List NotifyDest) : Process :=
  match runtime.worker with
  | .delivering i msg =>
    let delivery : Delivery :=
      { msg := msg, network := network, reserveAt := reserveAt, completeAt := completeAt,
        order := order }
    { runtime with
      worker := .idle
      durable := { runtime.durable with
        cache := (deliverAlert runtime.durable.cache delivery).cache }
      trace := runtime.trace ++ [.delivered i delivery] }
  | _ => runtime

/-- A running monitor changes the durable state of the chains. -/
def monitorWrite (m : Nat) (chains : Table String ChainConfig) : Process :=
  match runtime.monitors[m]? with
  | some true =>
    { runtime with
      durable := { runtime.durable with chains := chains }
      trace := runtime.trace ++ [.monitorWrote m chains] }
  | _ => runtime

/-- A monitor's function returns, whether it was cancelled or not. -/
def monitorReturn (m : Nat) : Process :=
  match runtime.monitors[m]? with
  | some true =>
    { runtime with
      monitors := runtime.monitors.set m false
      monitorsWG := runtime.monitorsWG - 1
      trace := runtime.trace ++ [.monitorReturned m] }
  | _ => runtime

end Workers

section Shutdown
variable (config : Config) (runtime : Process)

/-- `shutdownOnce.Do`: the first caller starts the body. -/
def Body.once : Body → Body
  | .idle => .stopIngress
  | other => other

/-- A new call of `shutdown`. -/
def callShutdown : Process :=
  { runtime with body := runtime.body.once, callers := runtime.callers ++ [.inside] }

def Durable.saved (durable : Durable) : SavedState :=
  State.snapshotSavedState { config with chains := durable.chains, alarms := durable.cache }

/-- The next step of the body, if it is not blocked. The two `waitForGroups` calls wait
for their groups one after the other. -/
def advanceShutdown : Process :=
  match runtime.body with
  | .stopIngress =>
    { runtime with
      accepting := false
      body := .cancel
      trace := runtime.trace ++ [.shutdown .ingressStopped] }
  -- Cancelling and closing the websockets only asks the monitors to return.
  | .cancel => { runtime with body := .waitMonitors }
  | .waitMonitors =>
    if runtime.monitorsWG = 0 then { runtime with body := .waitIngress } else runtime
  | .waitIngress =>
    if runtime.ingressWG = 0 then { runtime with body := .close } else runtime
  | .close =>
    -- Not a wait: `close` runs even if the deadline passed after the first group.
    if runtime.closed then { runtime with panicked := true }
    else
      { runtime with
        closed := true
        body := .waitWorker
        trace := runtime.trace ++ [.shutdown .closed] }
  | .waitWorker =>
    if runtime.notificationsWG = 0 then { runtime with body := .snapshot } else runtime
  | .snapshot =>
    { runtime with
      body := .checkpoint (runtime.durable.saved config)
      trace := runtime.trace ++ [.shutdown (.snapshot (runtime.durable.saved config))] }
  | .idle => runtime
  | .checkpoint _ => runtime
  | .finished _ => runtime

/-- The deadline of the drain context, which both waits share. -/
def expireDrain : Process :=
  match runtime.body with
  | .waitMonitors => { runtime with expired := true }
  | .waitIngress => { runtime with expired := true }
  | .close => { runtime with expired := true }
  | .waitWorker => { runtime with expired := true }
  | _ => runtime

/-- `waitForGroups` returns the context's error. -/
def giveUp : Process :=
  let ended (outcome : Outcome) : Process :=
    { runtime with
      body := .finished outcome
      trace := runtime.trace ++ [.shutdown .timedOut] }
  if runtime.expired then
    match runtime.body with
    | .waitMonitors => ended .quiesceTimedOut
    | .waitIngress => ended .quiesceTimedOut
    | .waitWorker => ended .drainTimedOut
    | _ => runtime
  else runtime

/-- `checkpoint` runs, and returns an error or none. -/
def runCheckpoint (error : Option String) : Process :=
  match runtime.body with
  | .checkpoint saved =>
    { runtime with
      body := .finished (.stored saved error)
      trace := runtime.trace ++ [.shutdown (.checkpoint saved error)] }
  | _ => runtime

/-- A caller returns from `shutdown` once the body has ended. -/
def returnShutdown (k : Nat) : Process :=
  match runtime.callers[k]?, runtime.body with
  | some .inside, .finished outcome =>
    { runtime with
      callers := runtime.callers.set k (.returned outcome.shutdownErr)
      trace := runtime.trace ++ [.returned k outcome.shutdownErr] }
  | _, _ => runtime

end Shutdown

inductive Action where
  | begin (call : AlertCall)
  | send (i : Nat)
  | record (i : Nat) (now : Instant)
  | finish (i : Nat)
  | receive
  | deliver (network : Network) (reserveAt completeAt : NotifyDest → Instant)
      (order : List NotifyDest)
  | monitorWrite (m : Nat) (chains : Table String ChainConfig)
  | monitorReturn (m : Nat)
  | callShutdown
  | advance
  | expire
  | giveUp
  | checkpoint (error : Option String)
  | returnShutdown (k : Nat)

/-- A panic ends the process. -/
def step (config : Config) (runtime : Process) (action : Action) : Process :=
  if runtime.panicked then runtime
  else match action with
    | .begin call => beginAlertIngress runtime call
    | .send i => sendAlert config runtime i
    | .record i now => recordAlert runtime i now
    | .finish i => finishAlertIngress runtime i
    | .receive => receiveAlert runtime
    | .deliver network reserveAt completeAt order =>
      finishDelivery runtime network reserveAt completeAt order
    | .monitorWrite m chains => monitorWrite runtime m chains
    | .monitorReturn m => monitorReturn runtime m
    | .callShutdown => callShutdown runtime
    | .advance => advanceShutdown config runtime
    | .expire => expireDrain runtime
    | .giveUp => giveUp runtime
    | .checkpoint error => runCheckpoint runtime error
    | .returnShutdown k => returnShutdown runtime k

def run (config : Config) (monitors : Nat) (actions : List Action) : Process :=
  actions.foldl (step config) (newRuntime config monitors)

end Seer.Runtime
