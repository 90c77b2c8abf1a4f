import Mathlib.Data.List.Induction
import Seer.Lib.Concurrent
import Seer.Runtime.Lifecycle

/-!
# The shutdown barrier

Each goroutine's part of the trace is a function of how far it has come (`history`), so
what happened once, twice or never is read off the goroutine's state. What relates
different goroutines is a condition on the events before an event (`Lawful`), which
the counters of the wait groups give when the event occurs.
-/
namespace Seer.Runtime

open Seer.Lib Seer.Alert

/-! ## Reading a trace -/

def Event.ofCall (i : Nat) : Event → Option CallEvent
  | .call j event => if j = i then some event else none
  | _ => none

def Event.ofBody : Event → Option BodyEvent
  | .shutdown event => some event
  | _ => none

def Event.asSent : Event → Option (Nat × AlertMsg)
  | .call i (.sent msg) => some (i, msg)
  | _ => none

def Event.asDelivered : Event → Option (Nat × AlertMsg)
  | .delivered i delivery => some (i, delivery.msg)
  | _ => none

/-- The events of one call of `Config.alert`. -/
def ofCall (i : Nat) (trace : List Event) : List CallEvent := trace.filterMap (Event.ofCall i)

/-- The events of the shutdown's body. -/
def ofBody (trace : List Event) : List BodyEvent := trace.filterMap Event.ofBody

/-- The alerts put on the channel, in order. -/
def sentOf (trace : List Event) : List (Nat × AlertMsg) := trace.filterMap Event.asSent

/-- The alerts delivered, in order. -/
def deliveredOf (trace : List Event) : List (Nat × AlertMsg) := trace.filterMap Event.asDelivered

def Event.apply (durable : Durable) : Event → Durable
  | .call _ (.recorded made now) =>
    { durable with
      cache := recordDashboardAlarm durable.cache now made.chainName made.message made.resolved }
  | .delivered _ delivery =>
    { durable with cache := (deliverAlert durable.cache delivery).cache }
  | .monitorWrote _ chains => { durable with chains := chains }
  | _ => durable

/-- The durable state that the events of a trace lead to. -/
def replay (config : Config) (trace : List Event) : Durable :=
  trace.foldl Event.apply { chains := config.chains, cache := config.alarms }

/-- Everything accepted so far is done: each accepted call has run to its end, once,
its alert was delivered once and in queue order, and every monitor has returned. -/
structure Drained (config : Config) (monitors : Nat) (trace : List Event) : Prop where
  inOrder : deliveredOf trace = sentOf trace
  once : ∀ i call, .call i (.began call) ∈ trace →
    (deliveredOf trace).filter (·.1 == i) = [(i, call.msg config)]
  recorded : ∀ i call, .call i (.began call) ∈ trace →
    ∃ now, ofCall i trace = [.began call, .sent (call.msg config), .recorded call now, .finished]
  returned : ∀ m < monitors, .monitorReturned m ∈ trace

/-- What holds of the events before an event, when it occurs. -/
def Lawful (config : Config) (monitors : Nat) (before : List Event) : Event → Prop
  | .call _ (.began _) => .shutdown .ingressStopped ∉ before
  | .call _ (.sent _) => .shutdown .closed ∉ before
  | .shutdown (.snapshot saved) =>
    Drained config monitors before ∧ saved = (replay config before).saved config
  | _ => True

/-! ## The events of a goroutine from its state -/

def Call.history (config : Config) : Call → List CallEvent
  | .refused => []
  | .begun call => [.began call]
  | .sent call => [.began call, .sent (call.msg config)]
  | .recorded call now => [.began call, .sent (call.msg config), .recorded call now]
  | .finished call now => [.began call, .sent (call.msg config), .recorded call now, .finished]

/-- A call that has not been made has no events. -/
def callHistory (config : Config) (calls : List Call) (i : Nat) : List CallEvent :=
  (calls[i]?.map (Call.history config)).getD []

def Body.history : Body → List BodyEvent
  | .idle => []
  | .stopIngress => []
  | .cancel => [.ingressStopped]
  | .waitMonitors => [.ingressStopped]
  | .waitIngress => [.ingressStopped]
  | .close => [.ingressStopped]
  | .waitWorker => [.ingressStopped, .closed]
  | .snapshot => [.ingressStopped, .closed]
  | .checkpoint saved => [.ingressStopped, .closed, .snapshot saved]
  | .finished .quiesceTimedOut => [.ingressStopped, .timedOut]
  | .finished .drainTimedOut => [.ingressStopped, .closed, .timedOut]
  | .finished (.stored saved error) =>
    [.ingressStopped, .closed, .snapshot saved, .checkpoint saved error]

/-- The alert that the worker has taken off the channel and not delivered. -/
def NotificationWorker.held : NotificationWorker → List (Nat × AlertMsg)
  | .delivering i msg => [(i, msg)]
  | .idle => []
  | .exited => []

/-! ## What the body has waited for -/

def Body.stopped : Body → Bool
  | .idle => false
  | .stopIngress => false
  | _ => true

def Body.pastMonitors : Body → Bool
  | .waitIngress => true
  | .close => true
  | .waitWorker => true
  | .snapshot => true
  | .checkpoint _ => true
  | _ => false

def Body.pastIngress : Body → Bool
  | .close => true
  | .waitWorker => true
  | .snapshot => true
  | .checkpoint _ => true
  | .finished .drainTimedOut => true
  | .finished (.stored _ _) => true
  | _ => false

/-- The body has closed the channel. -/
def Body.closes : Body → Bool
  | .waitWorker => true
  | .snapshot => true
  | .checkpoint _ => true
  | .finished .drainTimedOut => true
  | .finished (.stored _ _) => true
  | _ => false

def Body.pastWorker : Body → Bool
  | .snapshot => true
  | .checkpoint _ => true
  | _ => false

/-- The flags and counters agree with how far the body of the shutdown has come. -/
structure Phased (runtime : Process) : Prop where
  alive : runtime.panicked = false
  accepting : runtime.accepting = !runtime.body.stopped
  closed : runtime.closed = runtime.body.closes
  monitors : runtime.body.pastMonitors = true → runtime.monitorsWG = 0
  ingress : runtime.body.pastIngress = true → runtime.ingressWG = 0
  worker : runtime.body.pastWorker = true → runtime.notificationsWG = 0

/-- The counters count. -/
structure Grouped (size : Nat) (runtime : Process) : Prop where
  ingress : Counts runtime.ingressWG Call.inside runtime.calls
  monitors : Counts runtime.monitorsWG id runtime.monitors
  size : runtime.monitors.length = size
  worker : runtime.notificationsWG = 0 → runtime.worker = .exited
  exited : runtime.worker = .exited → runtime.closed = true ∧ runtime.alertChan = []

/-- The trace tells what the goroutines have done. -/
structure Told (config : Config) (runtime : Process) : Prop where
  calls : ∀ i, ofCall i runtime.trace = callHistory config runtime.calls i
  body : ofBody runtime.trace = runtime.body.history
  order : sentOf runtime.trace =
    deliveredOf runtime.trace ++ runtime.worker.held ++ runtime.alertChan
  returned : ∀ m, runtime.monitors[m]? = some false → .monitorReturned m ∈ runtime.trace
  results : ∀ k result, .returned k result ∈ runtime.trace →
    ∃ outcome, runtime.body = .finished outcome ∧ result = outcome.shutdownErr
  durable : runtime.durable = replay config runtime.trace

structure Inv (config : Config) (size : Nat) (runtime : Process) : Prop where
  phased : Phased runtime
  grouped : Grouped size runtime
  told : Told config runtime
  lawful : Guarded (Lawful config size) runtime.trace

/-! ## One more event -/

section Concat
variable (trace : List Event) (event : Event)

theorem ofCall_concat (i : Nat) :
    ofCall i (trace ++ [event]) = ofCall i trace ++ (event.ofCall i).toList := by
  cases part : event.ofCall i <;> simp [ofCall, part]

theorem ofBody_concat : ofBody (trace ++ [event]) = ofBody trace ++ event.ofBody.toList := by
  cases part : event.ofBody <;> simp [ofBody, part]

theorem sentOf_concat : sentOf (trace ++ [event]) = sentOf trace ++ event.asSent.toList := by
  cases part : event.asSent <;> simp [sentOf, part]

theorem deliveredOf_concat :
    deliveredOf (trace ++ [event]) = deliveredOf trace ++ event.asDelivered.toList := by
  cases part : event.asDelivered <;> simp [deliveredOf, part]

theorem replay_concat (config : Config) :
    replay config (trace ++ [event]) = event.apply (replay config trace) := by
  simp [replay]

end Concat

theorem callHistory_append (config : Config) (calls : List Call) (new : Call) (i : Nat) :
    callHistory config (calls ++ [new]) i =
      callHistory config calls i ++ if calls.length = i then new.history config else [] := by
  unfold callHistory
  rcases Nat.lt_trichotomy i calls.length with earlier | rfl | later
  · simp [List.getElem?_append_left earlier, Nat.ne_of_gt earlier]
  · simp
  · have outside : (calls ++ [new])[i]? = none := by
      rw [List.getElem?_eq_none_iff, List.length_append, List.length_singleton]
      exact later
    have before : calls[i]? = none := List.getElem?_eq_none_iff.mpr (Nat.le_of_lt later)
    simp only [outside, before, Option.map_none, Option.getD_none, if_neg (Nat.ne_of_lt later),
      List.append_nil]

/-- A call goes on by one event. -/
theorem callHistory_set {config : Config} {calls : List Call} {j : Nat} {old new : Call}
    (event : CallEvent) (here : calls[j]? = some old)
    (goes : new.history config = old.history config ++ [event]) (i : Nat) :
    callHistory config (calls.set j new) i =
      callHistory config calls i ++ if j = i then [event] else [] := by
  unfold callHistory
  by_cases same : j = i
  · subst same
    have bound := (List.getElem?_eq_some_iff.mp here).1
    simp only [List.getElem?_set_self bound, Option.map_some, Option.getD_some, here, goes, if_true]
  · simp [List.getElem?_set_ne same, same]

/-- The trace stays true when it goes on by one event and the goroutines go on as the
event says. -/
theorem Told.concat {config : Config} {runtime next : Process} (told : Told config runtime)
    (event : Event) (trace : next.trace = runtime.trace ++ [event])
    (calls : ∀ i, callHistory config next.calls i =
      callHistory config runtime.calls i ++ (event.ofCall i).toList)
    (body : next.body.history = runtime.body.history ++ event.ofBody.toList)
    (ended : ∀ outcome, runtime.body = .finished outcome → next.body = .finished outcome)
    (order : runtime.worker.held ++ runtime.alertChan ++ event.asSent.toList =
      event.asDelivered.toList ++ next.worker.held ++ next.alertChan)
    (returned : ∀ m, next.monitors[m]? = some false →
      runtime.monitors[m]? = some false ∨ event = .monitorReturned m)
    (results : ∀ k result, event = .returned k result →
      ∃ outcome, next.body = .finished outcome ∧ result = outcome.shutdownErr)
    (durable : next.durable = event.apply runtime.durable) : Told config next where
  calls i := by rw [trace, ofCall_concat, told.calls, calls]
  body := by rw [trace, ofBody_concat, told.body, body]
  order := by
    rw [trace, sentOf_concat, deliveredOf_concat, told.order, List.append_assoc,
      List.append_assoc, ← List.append_assoc runtime.worker.held, order]
    simp only [List.append_assoc]
  returned m out := by
    rw [trace, List.mem_append, List.mem_singleton]
    rcases returned m out with before | rfl
    · exact .inl (told.returned m before)
    · exact .inr rfl
  results k result there := by
    rw [trace, List.mem_append, List.mem_singleton] at there
    rcases there with before | now
    · obtain ⟨outcome, finished, same⟩ := told.results k result before
      exact ⟨outcome, ended outcome finished, same⟩
    · exact results k result now.symm
  durable := by rw [trace, replay_concat, ← told.durable, durable]

theorem mem_ofBody_iff {trace : List Event} {event : BodyEvent} :
    event ∈ ofBody trace ↔ .shutdown event ∈ trace := by
  constructor
  · intro there
    obtain ⟨origin, listed, same⟩ := List.mem_filterMap.mp there
    cases origin with
    | shutdown other =>
      obtain rfl : other = event := Option.some.inj same
      exact listed
    | _ => cases same
  · intro there
    exact List.mem_filterMap.mpr ⟨_, there, rfl⟩

section Calls
variable {config : Config} {size : Nat} {runtime : Process}

theorem Inv.beginAlertIngress (inv : Inv config size runtime) (call : AlertCall) :
    Inv config size (Runtime.beginAlertIngress runtime call) := by
  obtain ⟨phased, grouped, told, lawful⟩ := inv
  unfold Runtime.beginAlertIngress
  split
  next accepting =>
    -- The body has not come to `stopAlertIngress`, so it has told nothing yet.
    have early : runtime.body.stopped = false := by
      simpa [phased.accepting] using accepting
    refine ⟨{ phased with ingress := ?_ }, { grouped with ingress := grouped.ingress.add rfl },
      told.concat _ rfl ?_ (by simp [Event.ofBody]) (fun _ => id) (by simp [Event.asSent, Event.asDelivered])
        (fun _ => .inl) (by simp) rfl, lawful.concat ?_⟩
    · intro past
      cases body : runtime.body <;> simp_all [Body.stopped, Body.pastIngress]
    · intro i
      rw [callHistory_append]
      by_cases same : runtime.calls.length = i <;> simp [Event.ofCall, Call.history, same]
    · intro stopped
      have there := mem_ofBody_iff.mpr stopped
      rw [told.body] at there
      cases body : runtime.body <;> simp_all [Body.stopped, Body.history]
  next =>
    refine ⟨{ phased with }, { grouped with ingress := grouped.ingress.skip rfl },
      { told with calls := ?_ }, lawful⟩
    intro i
    rw [told.calls, callHistory_append]
    simp [Call.history]

/-- A call inside keeps the counter up, so the channel is not closed. -/
theorem Inv.open_of_inside (inv : Inv config size runtime) {i : Nat} {call : Call}
    (here : runtime.calls[i]? = some call) (inside : call.inside = true) :
    runtime.closed = false := by
  by_contra closed
  have closes : runtime.body.closes = true := by
    rw [← inv.phased.closed]
    simpa using closed
  have past : runtime.body.pastIngress = true := by
    cases body : runtime.body with
    | finished outcome => cases outcome <;> simp_all [Body.closes, Body.pastIngress]
    | _ => simp_all [Body.closes, Body.pastIngress]
  have counts := inv.grouped.ingress
  rw [inv.phased.ingress past] at counts
  have outside := counts.idle_of_zero here
  simp [inside] at outside

theorem Inv.sendAlert (inv : Inv config size runtime) (i : Nat) :
    Inv config size (Runtime.sendAlert config runtime i) := by
  unfold Runtime.sendAlert
  split
  next call here =>
    have opened := inv.open_of_inside here rfl
    rw [if_neg (by simp [opened])]
    obtain ⟨phased, grouped, told, lawful⟩ := inv
    split
    · refine ⟨{ phased with },
        { grouped with ingress := grouped.ingress.keep here rfl, exited := ?_ },
        told.concat _ rfl ?_ (by simp [Event.ofBody]) (fun _ => id) ?_ (fun _ => .inl) (by simp) rfl,
        lawful.concat ?_⟩
      · intro exited
        simp [(grouped.exited exited).1] at opened
      · intro j
        rw [callHistory_set (.sent (call.msg config)) here rfl]
        by_cases same : i = j <;> simp [Event.ofCall, same]
      · simp [Event.asSent, Event.asDelivered]
      · intro closed
        have there := mem_ofBody_iff.mpr closed
        rw [phased.closed] at opened
        rw [told.body] at there
        cases body : runtime.body with
        | finished outcome => cases outcome <;> simp_all [Body.closes, Body.history]
        | _ => simp_all [Body.closes, Body.history]
    · exact ⟨phased, grouped, told, lawful⟩
  next => exact inv

theorem Inv.recordAlert (inv : Inv config size runtime) (i : Nat) (now : Instant) :
    Inv config size (Runtime.recordAlert runtime i now) := by
  unfold Runtime.recordAlert
  split
  next call here =>
    obtain ⟨phased, grouped, told, lawful⟩ := inv
    refine ⟨{ phased with }, { grouped with ingress := grouped.ingress.keep here rfl },
      told.concat _ rfl ?_ (by simp [Event.ofBody]) (fun _ => id)
        (by simp [Event.asSent, Event.asDelivered]) (fun _ => .inl) (by simp) rfl,
      lawful.concat trivial⟩
    intro j
    rw [callHistory_set (.recorded call now) here rfl]
    by_cases same : i = j <;> simp [Event.ofCall, same]
  next => exact inv

theorem Inv.finishAlertIngress (inv : Inv config size runtime) (i : Nat) :
    Inv config size (Runtime.finishAlertIngress runtime i) := by
  unfold Runtime.finishAlertIngress
  split
  next call now here =>
    obtain ⟨phased, grouped, told, lawful⟩ := inv
    refine ⟨{ phased with ingress := ?_ },
      { grouped with ingress := grouped.ingress.done here rfl rfl },
      told.concat _ rfl ?_ (by simp [Event.ofBody]) (fun _ => id)
        (by simp [Event.asSent, Event.asDelivered]) (fun _ => .inl) (by simp) rfl,
      lawful.concat trivial⟩
    · intro past
      simp [phased.ingress past]
    · intro j
      rw [callHistory_set .finished here rfl]
      by_cases same : i = j <;> simp [Event.ofCall, same]
  next => exact inv

end Calls

section Workers
variable {config : Config} {size : Nat} {runtime : Process}

theorem Inv.receiveAlert (inv : Inv config size runtime) :
    Inv config size (Runtime.receiveAlert runtime) := by
  unfold Runtime.receiveAlert
  have idleCounts : runtime.worker = .idle → runtime.notificationsWG ≠ 0 := by
    intro idle none
    simp [inv.grouped.worker none] at idle
  split
  next i msg later idle waiting =>
    obtain ⟨phased, grouped, told, lawful⟩ := inv
    refine ⟨{ phased with }, { grouped with worker := ?_, exited := ?_ },
      { told with order := ?_ }, lawful⟩
    · intro none
      exact absurd none (idleCounts idle)
    · intro exited
      cases exited
    · simpa [NotificationWorker.held, idle, waiting] using told.order
  next idle empty =>
    split
    next closed =>
      obtain ⟨phased, grouped, told, lawful⟩ := inv
      refine ⟨{ phased with worker := ?_ },
        { grouped with worker := fun _ => rfl, exited := fun _ => ⟨closed, empty⟩ },
        { told with order := ?_ }, lawful⟩
      · intro past
        exact absurd (phased.worker past) (idleCounts idle)
      · simpa [NotificationWorker.held, idle] using told.order
    next => exact inv
  next => exact inv

theorem Inv.finishDelivery (inv : Inv config size runtime) (network : Network)
    (reserveAt completeAt : NotifyDest → Instant) (order : List NotifyDest) :
    Inv config size (Runtime.finishDelivery runtime network reserveAt completeAt order) := by
  unfold Runtime.finishDelivery
  split
  next i msg delivering =>
    obtain ⟨phased, grouped, told, lawful⟩ := inv
    refine ⟨{ phased with }, { grouped with worker := ?_, exited := ?_ },
      told.concat _ rfl (by simp [Event.ofCall]) (by simp [Event.ofBody]) (fun _ => id) ?_
        (fun _ => .inl) (by simp) rfl, lawful.concat trivial⟩
    · intro none
      simp [grouped.worker none] at delivering
    · intro exited
      cases exited
    · simp [Event.asSent, Event.asDelivered, NotificationWorker.held, delivering]
  next => exact inv

theorem Inv.monitorWrite (inv : Inv config size runtime) (m : Nat)
    (chains : Table String ChainConfig) :
    Inv config size (Runtime.monitorWrite runtime m chains) := by
  unfold Runtime.monitorWrite
  split
  next =>
    obtain ⟨phased, grouped, told, lawful⟩ := inv
    exact ⟨{ phased with }, { grouped with },
      told.concat _ rfl (by simp [Event.ofCall]) (by simp [Event.ofBody]) (fun _ => id)
        (by simp [Event.asSent, Event.asDelivered]) (fun _ => .inl) (by simp) rfl,
      lawful.concat trivial⟩
  next => exact inv

theorem Inv.monitorReturn (inv : Inv config size runtime) (m : Nat) :
    Inv config size (Runtime.monitorReturn runtime m) := by
  unfold Runtime.monitorReturn
  split
  next here =>
    obtain ⟨phased, grouped, told, lawful⟩ := inv
    refine ⟨{ phased with monitors := ?_ },
      { grouped with monitors := grouped.monitors.done here rfl rfl, size := ?_ },
      told.concat _ rfl (by simp [Event.ofCall]) (by simp [Event.ofBody]) (fun _ => id)
        (by simp [Event.asSent, Event.asDelivered]) ?_ (by simp) rfl,
      lawful.concat trivial⟩
    · intro past
      simp [phased.monitors past]
    · simpa using grouped.size
    · intro other out
      by_cases same : m = other
      · exact .inr (by rw [same])
      · exact .inl (by simpa [List.getElem?_set_ne same] using out)
  next => exact inv

end Workers

/-! ## The snapshot -/

/-- The alerts that one call put on the channel, from the call's own events. -/
theorem filter_sentOf (trace : List Event) (i : Nat) :
    (sentOf trace).filter (·.1 == i) =
      (ofCall i trace).filterMap fun
        | .sent msg => some (i, msg)
        | _ => none := by
  induction trace using List.reverseRecOn with
  | nil => rfl
  | append_singleton trace event ih =>
    rw [sentOf_concat, ofCall_concat, List.filter_append, List.filterMap_append, ih]
    congr 1
    cases event with
    | call j made =>
      by_cases same : j = i <;> cases made <;> simp [Event.asSent, Event.ofCall, same]
    | _ => rfl

section Shutdown
variable {config : Config} {size : Nat} {runtime : Process}

/-- An accepted call has ended when its wait group is down to zero. -/
theorem Inv.call_finished (inv : Inv config size runtime) (quiet : runtime.ingressWG = 0)
    {i : Nat} {call : AlertCall} (began : .call i (.began call) ∈ runtime.trace) :
    ∃ now, ofCall i runtime.trace =
      [.began call, .sent (call.msg config), .recorded call now, .finished] := by
  have mine : CallEvent.began call ∈ ofCall i runtime.trace :=
    List.mem_filterMap.mpr ⟨_, began, by simp [Event.ofCall]⟩
  rw [inv.told.calls] at mine ⊢
  cases here : runtime.calls[i]? with
  | none => simp [callHistory, here] at mine
  | some made =>
    -- The call has begun and none is inside, which leaves the finished state only.
    have counts := inv.grouped.ingress
    rw [quiet] at counts
    have outside := counts.idle_of_zero here
    simp only [callHistory, here, Option.map_some, Option.getD_some] at mine ⊢
    cases made with
    | finished other now =>
      obtain rfl : call = other := by simpa [Call.history] using mine
      exact ⟨now, rfl⟩
    | refused => simp [Call.history] at mine
    | _ => simp [Call.inside] at outside

/-- When the body comes to the snapshot, everything accepted is done. -/
theorem Inv.drained (inv : Inv config size runtime) (here : runtime.body = .snapshot) :
    Drained config size runtime.trace := by
  have quiet : runtime.ingressWG = 0 := inv.phased.ingress (by simp [here, Body.pastIngress])
  have idle : runtime.monitorsWG = 0 := inv.phased.monitors (by simp [here, Body.pastMonitors])
  have exited : runtime.worker = .exited :=
    inv.grouped.worker (inv.phased.worker (by simp [here, Body.pastWorker]))
  have inOrder : deliveredOf runtime.trace = sentOf runtime.trace := by
    have order := inv.told.order
    rw [(inv.grouped.exited exited).2, exited] at order
    simpa [NotificationWorker.held] using order.symm
  refine ⟨inOrder, ?_, fun i call began => inv.call_finished quiet began, ?_⟩
  -- What was delivered for a call is what it sent, and it sent once.
  · intro i call began
    obtain ⟨now, events⟩ := inv.call_finished quiet began
    rw [inOrder, filter_sentOf, events]
    rfl
  · intro m small
    have counts := inv.grouped.monitors
    rw [idle] at counts
    have bound : m < runtime.monitors.length := by rwa [inv.grouped.size]
    have there := List.getElem?_eq_getElem bound
    have stopped := counts.idle_of_zero there
    apply inv.told.returned m
    simpa [there] using stopped

/-- The body goes on to `next` without an event. -/
theorem Told.goes (told : Told config runtime) {next : Body}
    (same : next.history = runtime.body.history)
    (ended : ∀ outcome, runtime.body = .finished outcome → next = .finished outcome) :
    Told config { runtime with body := next } := by
  refine { told with body := told.body.trans same.symm, results := ?_ }
  intro k result there
  obtain ⟨outcome, finished, value⟩ := told.results k result there
  exact ⟨outcome, ended outcome finished, value⟩

/-- The body goes on to `next` with an event. -/
theorem Told.tells (told : Told config runtime) {next : Body} (event : BodyEvent)
    (more : next.history = runtime.body.history ++ [event])
    (running : ∀ outcome, runtime.body ≠ .finished outcome) :
    Told config { runtime with body := next, trace := runtime.trace ++ [.shutdown event] } :=
  told.concat _ rfl (by simp [Event.ofCall]) more (fun outcome ended => absurd ended (running outcome))
    (by simp [Event.asSent, Event.asDelivered]) (fun _ => .inl) (by simp) rfl

theorem Inv.callShutdown (inv : Inv config size runtime) :
    Inv config size (Runtime.callShutdown runtime) := by
  obtain ⟨phased, grouped, told, lawful⟩ := inv
  have history : runtime.body.once.history = runtime.body.history := by cases runtime.body <;> rfl
  have ended : ∀ outcome, runtime.body = .finished outcome →
      runtime.body.once = .finished outcome := by
    intro outcome finished
    rw [finished]
    rfl
  refine ⟨?_, { grouped with }, { told.goes history ended with }, lawful⟩
  obtain ⟨alive, accepting, closed, monitors, ingress, worker⟩ := phased
  unfold Runtime.callShutdown
  cases body : runtime.body <;> rw [body] at accepting closed monitors ingress worker <;>
    exact ⟨alive, accepting, closed, monitors, ingress, worker⟩

theorem Inv.advanceShutdown (inv : Inv config size runtime) :
    Inv config size (Runtime.advanceShutdown config runtime) := by
  have unchanged := inv
  obtain ⟨phased, grouped, told, lawful⟩ := inv
  obtain ⟨alive, accepting, closed, monitors, ingress, worker⟩ := phased
  unfold Runtime.advanceShutdown
  cases body : runtime.body <;> rw [body] at accepting closed monitors ingress worker
  case stopIngress =>
    exact ⟨⟨alive, rfl, closed, monitors, ingress, worker⟩, { grouped with },
      { told.tells .ingressStopped (by rw [body]; rfl) (by simp [body]) with }, lawful.concat trivial⟩
  case cancel =>
    exact ⟨⟨alive, accepting, closed, monitors, ingress, worker⟩, { grouped with },
      told.goes (by rw [body]; rfl) (by simp [body]), lawful⟩
  case waitMonitors =>
    dsimp only
    split
    next zero =>
      exact ⟨⟨alive, accepting, closed, fun _ => zero, ingress, worker⟩, { grouped with },
        told.goes (by rw [body]; rfl) (by simp [body]), lawful⟩
    next => exact unchanged
  case waitIngress =>
    dsimp only
    split
    next zero =>
      exact ⟨⟨alive, accepting, closed, monitors, fun _ => zero, worker⟩, { grouped with },
        told.goes (by rw [body]; rfl) (by simp [body]), lawful⟩
    next => exact unchanged
  case close =>
    dsimp only
    rw [if_neg (by simpa [Body.closes] using closed)]
    exact ⟨⟨alive, accepting, rfl, monitors, ingress, worker⟩,
      { grouped with exited := fun exited => ⟨rfl, (grouped.exited exited).2⟩ },
      { told.tells .closed (by rw [body]; rfl) (by simp [body]) with }, lawful.concat trivial⟩
  case waitWorker =>
    dsimp only
    split
    next zero =>
      exact ⟨⟨alive, accepting, closed, monitors, ingress, fun _ => zero⟩, { grouped with },
        told.goes (by rw [body]; rfl) (by simp [body]), lawful⟩
    next => exact unchanged
  case snapshot =>
    refine ⟨⟨alive, accepting, closed, monitors, ingress, worker⟩, { grouped with },
      told.tells (.snapshot (runtime.durable.saved config)) (by rw [body]; rfl) (by simp [body]),
      lawful.concat ⟨unchanged.drained body, ?_⟩⟩
    rw [told.durable]
  all_goals exact unchanged

theorem Inv.expireDrain (inv : Inv config size runtime) :
    Inv config size (Runtime.expireDrain runtime) := by
  have expires : Inv config size { runtime with expired := true } :=
    ⟨{ inv.phased with }, { inv.grouped with }, { inv.told with }, inv.lawful⟩
  unfold Runtime.expireDrain
  split
  all_goals first | exact expires | exact inv

theorem Inv.giveUp (inv : Inv config size runtime) : Inv config size (Runtime.giveUp runtime) := by
  have unchanged := inv
  obtain ⟨phased, grouped, told, lawful⟩ := inv
  obtain ⟨alive, accepting, closed, monitors, ingress, worker⟩ := phased
  unfold Runtime.giveUp
  split
  next =>
    cases body : runtime.body <;> rw [body] at accepting closed monitors ingress worker
    -- The first wait fails before the channel is closed, the second one after.
    case waitMonitors | waitIngress =>
      exact ⟨⟨alive, accepting, closed, nofun, nofun, nofun⟩, { grouped with },
        told.tells .timedOut (by rw [body]; rfl) (by simp [body]), lawful.concat trivial⟩
    case waitWorker =>
      exact ⟨⟨alive, accepting, closed, nofun, ingress, nofun⟩, { grouped with },
        told.tells .timedOut (by rw [body]; rfl) (by simp [body]), lawful.concat trivial⟩
    all_goals exact unchanged
  next => exact unchanged

theorem Inv.runCheckpoint (inv : Inv config size runtime) (error : Option String) :
    Inv config size (Runtime.runCheckpoint runtime error) := by
  unfold Runtime.runCheckpoint
  split
  next saved body =>
    obtain ⟨phased, grouped, told, lawful⟩ := inv
    obtain ⟨alive, accepting, closed, monitors, ingress, worker⟩ := phased
    rw [body] at accepting closed ingress
    exact ⟨⟨alive, accepting, closed, nofun, ingress, nofun⟩, { grouped with },
      told.tells (.checkpoint saved error) (by rw [body]; rfl) (by simp [body]),
      lawful.concat trivial⟩
  next => exact inv

theorem Inv.returnShutdown (inv : Inv config size runtime) (k : Nat) :
    Inv config size (Runtime.returnShutdown runtime k) := by
  unfold Runtime.returnShutdown
  split
  next outcome inside finished =>
    obtain ⟨phased, grouped, told, lawful⟩ := inv
    refine ⟨{ phased with }, { grouped with },
      told.concat _ rfl (by simp [Event.ofCall]) (by simp [Event.ofBody]) (fun _ => id)
        (by simp [Event.asSent, Event.asDelivered]) (fun _ => .inl) ?_ rfl, lawful.concat trivial⟩
    rintro other result same
    obtain ⟨-, rfl⟩ := Event.returned.inj same
    exact ⟨outcome, finished, rfl⟩
  next => exact inv

end Shutdown

/-! ## Every run -/

section Runs
variable (config : Config) (monitors : Nat)

theorem newRuntime_inv : Inv config monitors (newRuntime config monitors) where
  phased := ⟨rfl, rfl, rfl, nofun, nofun, nofun⟩
  grouped :=
    { ingress := rfl
      monitors := by simp [newRuntime, Counts, List.countP_replicate]
      size := by simp [newRuntime]
      worker := nofun
      exited := nofun }
  told :=
    { calls := fun _ => rfl
      body := rfl
      order := rfl
      returned := by
        intro m out
        simp [newRuntime, List.getElem?_replicate] at out
      results := by
        intro k result there
        simp [newRuntime] at there
      durable := rfl }
  lawful := guarded_nil

variable {config monitors}

theorem Inv.step {runtime : Process} (inv : Inv config monitors runtime) (action : Action) :
    Inv config monitors (Runtime.step config runtime action) := by
  unfold Runtime.step
  rw [if_neg (by simp [inv.phased.alive])]
  cases action with
  | begin call => exact inv.beginAlertIngress call
  | send i => exact inv.sendAlert i
  | record i now => exact inv.recordAlert i now
  | finish i => exact inv.finishAlertIngress i
  | receive => exact inv.receiveAlert
  | deliver network reserveAt completeAt order =>
    exact inv.finishDelivery network reserveAt completeAt order
  | monitorWrite m chains => exact inv.monitorWrite m chains
  | monitorReturn m => exact inv.monitorReturn m
  | callShutdown => exact inv.callShutdown
  | advance => exact inv.advanceShutdown
  | expire => exact inv.expireDrain
  | giveUp => exact inv.giveUp
  | checkpoint error => exact inv.runCheckpoint error
  | returnShutdown k => exact inv.returnShutdown k

variable (config monitors)

theorem run_inv (actions : List Action) : Inv config monitors (run config monitors actions) := by
  induction actions using List.reverseRecOn with
  | nil => exact newRuntime_inv config monitors
  | append_singleton actions action ih =>
    simp only [run, List.foldl_append, List.foldl_cons, List.foldl_nil] at ih ⊢
    exact ih.step action

end Runs

theorem ofBody_split (before after : List Event) (event : BodyEvent) :
    ofBody (before ++ .shutdown event :: after) = ofBody before ++ event :: ofBody after := by
  simp [ofBody, Event.ofBody]

/-- The body closes the channel at most once. -/
theorem Body.closed_once {body : Body} {before after : List BodyEvent}
    (split : body.history = before ++ .closed :: after) : .closed ∉ after := by
  cases body with
  | finished outcome =>
    cases outcome <;> simp [Body.history, List.cons_eq_append_iff] at split <;> simp [split]
  | _ => simp_all [Body.history, List.cons_eq_append_iff]

/-- Only one way leads to a checkpoint. -/
theorem Body.checkpoint_last {body : Body} {before after : List BodyEvent} {saved : SavedState}
    {error : Option String} (split : body.history = before ++ .checkpoint saved error :: after) :
    before = [.ingressStopped, .closed, .snapshot saved] ∧ after = [] := by
  cases body with
  | finished outcome =>
    cases outcome <;> simp [Body.history, List.cons_eq_append_iff] at split
    obtain ⟨rfl, ⟨rfl, -⟩, rfl⟩ := split
    exact ⟨rfl, rfl⟩
  | _ => simp [Body.history, List.cons_eq_append_iff] at split

/-- The snapshot comes after the stop and the close. -/
theorem Body.snapshot_third {body : Body} {before after : List BodyEvent} {saved : SavedState}
    (split : body.history = before ++ .snapshot saved :: after) :
    before = [.ingressStopped, .closed] := by
  cases body with
  | finished outcome =>
    cases outcome <;> simp [Body.history, List.cons_eq_append_iff] at split
    exact split.1
  | checkpoint other =>
    simp [Body.history, List.cons_eq_append_iff] at split
    exact split.1
  | _ => simp [Body.history, List.cons_eq_append_iff] at split

section Barrier
variable {config : Config} {monitors : Nat} {runtime : Process}

theorem Inv.no_send_after_close (inv : Inv config monitors runtime) {before after : List Event}
    (split : runtime.trace = before ++ .shutdown .closed :: after) :
    .shutdown .closed ∉ after ∧ ∀ i msg, .call i (.sent msg) ∉ after := by
  constructor
  · intro again
    have told := inv.told.body
    rw [split, ofBody_split] at told
    exact Body.closed_once told.symm (mem_ofBody_iff.mpr again)
  · intro i msg sent
    obtain ⟨middle, later, rfl⟩ := List.append_of_mem sent
    have first := inv.lawful (before ++ .shutdown .closed :: middle) (.call i (.sent msg)) later
      (by simpa using split)
    exact first (by simp)

/-- An alert accepted at any time was accepted before the snapshot. -/
theorem Inv.began_before_snapshot (inv : Inv config monitors runtime) {early late : List Event}
    {saved : SavedState} (split : runtime.trace = early ++ .shutdown (.snapshot saved) :: late)
    {i : Nat} {call : AlertCall} (began : .call i (.began call) ∈ runtime.trace) :
    .call i (.began call) ∈ early := by
  have stopped : .shutdown .ingressStopped ∈ early := by
    have told := inv.told.body
    rw [split, ofBody_split] at told
    exact mem_ofBody_iff.mp (by simp [Body.snapshot_third told.symm])
  rw [split, List.mem_append, List.mem_cons] at began
  rcases began with before | same | after
  · exact before
  · cases same
  -- A call accepted later would have begun after the ingress was stopped.
  · obtain ⟨middle, later, rfl⟩ := List.append_of_mem after
    have first := inv.lawful (early ++ .shutdown (.snapshot saved) :: middle)
      (.call i (.began call)) later (by simpa using split)
    exact absurd (List.mem_append_left _ stopped) first

end Barrier

/-- In every interleaving nothing is sent on the closed channel, which is closed at most
once; a checkpoint saves the state after everything accepted was done; there is at most
one, none if a wait timed out; and all callers of `shutdown` get one result. -/
theorem shutdown_barrier (config : Config) (monitors : Nat) (actions : List Action) :
    let trace := (run config monitors actions).trace
    (run config monitors actions).panicked = false ∧
    (∀ before after, trace = before ++ .shutdown .closed :: after →
      .shutdown .closed ∉ after ∧ ∀ i msg, .call i (.sent msg) ∉ after) ∧
    (∀ before after saved error,
      trace = before ++ .shutdown (.checkpoint saved error) :: after →
      (∃ early late, before = early ++ .shutdown (.snapshot saved) :: late ∧
        saved = (replay config early).saved config ∧ Drained config monitors early ∧
        ∀ i call, .call i (.began call) ∈ trace → .call i (.began call) ∈ early) ∧
      .shutdown .timedOut ∉ trace ∧
      ∀ other result, .shutdown (.checkpoint other result) ∉ before ++ after) ∧
    ∀ k l result other, .returned k result ∈ trace → .returned l other ∈ trace →
      result = other := by
  have inv := run_inv config monitors actions
  refine ⟨inv.phased.alive, fun _ _ => inv.no_send_after_close, ?_, ?_⟩
  · intro before after saved error split
    have told := inv.told.body
    rw [split, ofBody_split] at told
    obtain ⟨first, last⟩ := Body.checkpoint_last told.symm
    -- The snapshot is the body's event right before the checkpoint.
    have taken : .shutdown (.snapshot saved) ∈ before := mem_ofBody_iff.mp (by simp [first])
    obtain ⟨early, late, rfl⟩ := List.append_of_mem taken
    have whole : (run config monitors actions).trace = early ++ .shutdown (.snapshot saved) ::
        (late ++ .shutdown (.checkpoint saved error) :: after) := by
      simpa using split
    obtain ⟨drained, same⟩ := inv.lawful early _ _ whole
    refine ⟨⟨early, late, rfl, same, drained, fun i call => inv.began_before_snapshot whole⟩, ?_, ?_⟩
    · intro timedOut
      have there := mem_ofBody_iff.mpr timedOut
      rw [split, ofBody_split, first, last] at there
      simp at there
    · intro other result there
      have again := mem_ofBody_iff.mpr there
      rw [ofBody, List.filterMap_append, ← ofBody, ← ofBody, first, last] at again
      simp at again
  · intro k l result other mine yours
    obtain ⟨outcome, ended, rfl⟩ := inv.told.results k result mine
    obtain ⟨same, again, rfl⟩ := inv.told.results l other yours
    rw [ended] at again
    rw [Body.finished.inj again]

/-- One alert is accepted before the shutdown and sent after it has begun; the monitor
returns, the worker drains the channel, and two callers wait for the end. -/
def orderlyShutdown : List Action :=
  let call : AlertCall :=
    { chainName := "osmosis", chain := {}, message := "stalled", severity := "critical",
      resolved := false, id := none }
  let now : Instant := ⟨unixEpoch, Int.le_refl _⟩
  [.begin call, .callShutdown, .advance, .begin call, .callShutdown, .send 0, .record 0 now,
    .finish 0, .monitorReturn 0, .advance, .advance, .advance, .advance, .receive,
    .deliver {} (fun _ => now) (fun _ => now) [], .receive, .advance, .advance, .checkpoint none,
    .returnShutdown 1, .returnShutdown 0]

example :
    let trace := (run {} 1 orderlyShutdown).trace
    (deliveredOf trace).map (·.1) = [0] ∧ (ofBody trace).length = 4 ∧ trace.length = 12 := by
  decide +kernel

end Seer.Runtime
