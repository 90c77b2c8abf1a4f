import Seer.Alert.Protocol
import Seer.Alert.Worker

/-!
# What the worker does, one message at a time

For one destination and one message the worker is a two-state automaton: a trigger
is sent while the message is closed, a resolution while it is open, and an accepted
request moves the state. PagerDuty has in addition the times of accepted triggers.
`worker_refines` ties the automaton to the worker over the whole cache.
-/
namespace Seer.Alert

open Seer.Lib

/-- A message at a destination: whether a trigger is open, and when the last trigger
of each chain was accepted (kept for PagerDuty only). -/
@[ext] structure KeyState where
  opened : Bool := false
  accepted : String → Option Time := fun _ => none

/-- The last accepted trigger, if any, is less than five minutes old. -/
def recent (accepted : Option Time) (now : Time) : Bool :=
  accepted.any fun time => decide (time > now - 5 * minute)

/-- Whether a sink sends an alert, given the state of the alert's message. -/
def sends (dest : NotifyDest) (key : KeyState) (now : Time) (msg : AlertMsg) : Bool :=
  enabledAt msg dest && (msg.resolved == key.opened) &&
    !(dest == .pd && !msg.resolved && recent (key.accepted msg.chain) now)

/-- The state after an accepted request. -/
def KeyState.accept (key : KeyState) (dest : NotifyDest) (now : Time) (msg : AlertMsg) : KeyState :=
  { opened := !msg.resolved
    accepted :=
      if dest == .pd && !msg.resolved then Function.update key.accepted msg.chain (some now)
      else key.accepted }

/-- A delivery, seen by its own message at one destination. -/
def keyStep (dest : NotifyDest) (key : KeyState) (delivery : Delivery) : KeyState × List Request :=
  if sends dest key (delivery.reserveAt dest) delivery.msg then
    let attempted := attemptAt delivery.msg delivery.network dest
    (if attempted.accepted then key.accept dest (delivery.completeAt dest) delivery.msg else key,
      attempted.requests)
  else (key, [])

/-- A disabled sink does nothing. -/
theorem keyStep_disabled {dest : NotifyDest} {delivery : Delivery} (key : KeyState)
    (disabled : enabledAt delivery.msg dest = false) : keyStep dest key delivery = (key, []) := by
  simp [keyStep, sends, disabled]

/-- What the cache holds for a message at a destination. -/
def view (cache : AlarmCache) (dest : NotifyDest) (message : String) : KeyState :=
  { opened := (sent cache dest)[message]?.isSome
    accepted := fun chain =>
      if dest == .pd then cache.flappingAlarms[chain]?.bind (·[message]?) else none }

/-- The cache between two alerts: nothing is in flight and every open message has a
real time. -/
structure Quiet (cache : AlarmCache) (dest : NotifyDest) : Prop where
  idle : cache.inFlight dest = ∅
  nonzero : ∀ message : String, (sent cache dest)[message]? ≠ some 0

theorem quiet_newAlarmCache (dest : NotifyDest) : Quiet newAlarmCache dest where
  idle := rfl
  nonzero message := by cases dest <;> simp [sent, newAlarmCache]

theorem view_newAlarmCache (dest : NotifyDest) (message : String) :
    view newAlarmCache dest message = {} := by
  cases dest <;> simp [view, sent, newAlarmCache]

section SameAt
variable {left right : AlarmCache} {dest : NotifyDest}

theorem SameAt.view (same : SameAt dest left right) (message : String) :
    Alert.view left dest message = Alert.view right dest message := by
  ext1
  · simp only [Alert.view, same.opened]
  · funext chain
    by_cases paging : dest = .pd
    · simp only [Alert.view, same.accepted paging]
    · simp [Alert.view, beq_false_of_ne paging]

theorem SameAt.quiet (same : SameAt dest left right) (quiet : Quiet right dest) :
    Quiet left dest where
  idle := same.flying.trans quiet.idle
  nonzero := by simpa only [same.opened] using quiet.nonzero

end SameAt

section Reservation
variable {cache : AlarmCache} {dest : NotifyDest}

/-- A chain whose triggers were accepted for other messages only does not hold this
one back: the absent time is year 1. -/
theorem flapping_eq_recent (cache : AlarmCache) (now : Instant) (msg : AlertMsg) :
    flapping cache now msg = recent ((view cache .pd msg.message).accepted msg.chain) now := by
  have late : ¬ (now.val - 5 * minute < 0) := by
    have epoch : unixEpoch ≤ now.val := now.property
    have room : 5 * minute ≤ unixEpoch := by decide
    exact Int.not_lt.mpr (Int.sub_nonneg_of_le (Int.le_trans room epoch))
  simp only [flapping, recent, view]
  cases cache.flappingAlarms[msg.chain]? with
  | none => simp
  | some accepted =>
    cases found : accepted[msg.message]? with
    -- The source indexes the map without a presence check and compares the zero time.
    | none => simpa [timeAt, found] using late
    | some time => simp [timeAt, found]

/-- Between alerts a reservation is granted exactly when the automaton sends. -/
theorem reserveDelivery_granted (quiet : Quiet cache dest) (now : Instant) (msg : AlertMsg)
    (enabled : enabledAt msg dest = true) :
    (reserveDelivery cache now msg dest).1 = sends dest (view cache dest msg.message) now msg := by
  have idle : msg.message ∉ cache.inFlight dest := by simp [quiet.idle]
  have closed := timeAt_isZero _ msg.message (quiet.nonzero msg.message)
  have steady : (dest == .pd && !msg.resolved && flapping cache now msg) =
      (dest == .pd && !msg.resolved && recent ((view cache dest msg.message).accepted msg.chain) now) := by
    by_cases paging : dest = .pd
    · rw [paging, flapping_eq_recent]
    · rw [beq_false_of_ne paging, Bool.false_and, Bool.false_and, Bool.false_and]
  simp only [sends, enabled, Bool.true_and, ← steady, reserveDelivery, if_neg idle, closed,
    Bool.not_not]
  have opened : (view cache dest msg.message).opened = (sent cache dest)[msg.message]?.isSome := rfl
  rw [opened]
  -- Only a trigger for a closed message gets as far as the flapping check.
  cases msg.resolved <;> cases (sent cache dest)[msg.message]?.isSome
  case false.false => cases dest <;> cases flapping cache now msg <;> rfl
  all_goals simp

/-- A granted reservation changes the flight table only. -/
theorem reserveDelivery_view (now : Instant) (msg : AlertMsg) (message : String) :
    view (reserveDelivery cache now msg dest).2 dest message = view cache dest message := by
  rcases reserveDelivery_cases cache now msg dest with refused | ⟨granted, -⟩
  · rw [refused]
  · rw [granted]
    simp [view]

theorem lookup_recordFlapping (times : Table String (Table String Time)) (now : Time)
    (msg : AlertMsg) (chain message : String) :
    (recordFlapping times now msg)[chain]?.bind (·[message]?) =
      if chain = msg.chain ∧ msg.message = message then some now
      else times[chain]?.bind (·[message]?) := by
  rw [recordFlapping, Table.get_insert]
  by_cases own : chain = msg.chain
  · subst own
    rw [if_pos rfl, Option.bind_some, Table.get_insert]
    cases times[msg.chain]? <;> simp
  · simp [own, Ne.symm own]

theorem view_completeDelivery (now : Instant) (msg : AlertMsg) (accepted : Bool)
    (message : String) :
    view (completeDelivery cache now msg dest accepted) dest message =
      if accepted = true ∧ msg.message = message then
        (view cache dest message).accept dest now msg
      else view cache dest message := by
  by_cases own : accepted = true ∧ msg.message = message
  · obtain ⟨rfl, rfl⟩ := own
    rw [if_pos ⟨rfl, rfl⟩]
    ext1
    · cases resolved : msg.resolved <;>
        simp [view, lookup_completeDelivery, KeyState.accept, resolved]
    · funext chain
      cases resolved : msg.resolved <;> cases dest <;>
        simp [view, flappingAlarms_completeDelivery, KeyState.accept, resolved,
          lookup_recordFlapping, Function.update_apply]
  · rw [if_neg own]
    ext1
    · simp [view, lookup_completeDelivery, own]
    · funext chain
      simp only [view, flappingAlarms_completeDelivery]
      split
      · split
        next opening =>
          rw [lookup_recordFlapping, if_neg fun same => own ⟨opening.1, same.2⟩]
        next => rfl
      · rfl

end Reservation

theorem quiet_alone {cache : AlarmCache} {dest : NotifyDest} (quiet : Quiet cache dest)
    (delivery : Delivery) : Quiet (alone cache delivery dest).cache dest := by
  refine ⟨by rw [alone, inFlight_notify, quiet.idle], ?_⟩
  cases enabled : enabledAt delivery.msg dest with
  | false =>
    rw [alone, notify_disabled _ _ _ _ _ _ enabled]
    exact quiet.nonzero
  | true =>
    rcases reserveDelivery_cases cache (delivery.reserveAt dest) delivery.msg dest with
      refused | ⟨granted, -⟩
    · rw [alone, notify_refused _ _ _ _ _ _ enabled (by rw [refused]), refused]
      exact quiet.nonzero
    · rw [alone, notify_granted _ _ _ _ _ _ enabled (by rw [granted]), granted]
      intro message
      dsimp only
      rw [lookup_completeDelivery]
      split
      · split
        · simp
        · simpa using (delivery.completeAt dest).ne_zero
      · simpa using quiet.nonzero message

/-- A sink call made alone follows the automaton. -/
theorem alone_refines {cache : AlarmCache} {dest : NotifyDest} (quiet : Quiet cache dest)
    (delivery : Delivery) (message : String) :
    let step := keyStep dest (view cache dest delivery.msg.message) delivery
    (alone cache delivery dest).attempted.requests = step.2 ∧
    view (alone cache delivery dest).cache dest message =
      if delivery.msg.message = message then step.1 else view cache dest message := by
  intro step
  cases enabled : enabledAt delivery.msg dest with
  | false =>
    have silent : step = (view cache dest delivery.msg.message, []) := by
      simp [step, keyStep, sends, enabled]
    rw [alone, notify_disabled _ _ _ _ _ _ enabled, silent]
    refine ⟨rfl, ?_⟩
    split
    next own => rw [own]
    next => rfl
  | true =>
    have decision := reserveDelivery_granted quiet (delivery.reserveAt dest) delivery.msg enabled
    cases sending : sends dest (view cache dest delivery.msg.message) (delivery.reserveAt dest)
        delivery.msg with
    | false =>
      have silent : step = (view cache dest delivery.msg.message, []) := by
        simp [step, keyStep, sending]
      rw [alone, notify_refused _ _ _ _ _ _ enabled (decision.trans sending), silent]
      refine ⟨rfl, ?_⟩
      dsimp only
      rw [reserveDelivery_view]
      split
      next own => rw [own]
      next => rfl
    | true =>
      rw [alone, notify_granted _ _ _ _ _ _ enabled (decision.trans sending)]
      dsimp only
      rw [view_completeDelivery, reserveDelivery_view]
      simp only [step, keyStep, sending, if_true, true_and]
      by_cases own : delivery.msg.message = message
      · subst own
        simp
      · simp [own]

theorem quiet_deliverAlert {cache : AlarmCache} {dest : NotifyDest} (quiet : Quiet cache dest)
    (delivery : Delivery) : Quiet (deliverAlert cache delivery).cache dest :=
  (deliverAlert_alone cache delivery dest).1.quiet (quiet_alone quiet delivery)

/-- So does a sink call among the others of one alert. -/
theorem deliverAlert_refines {cache : AlarmCache} {dest : NotifyDest} (quiet : Quiet cache dest)
    (delivery : Delivery) (message : String) :
    let step := keyStep dest (view cache dest delivery.msg.message) delivery
    (deliverAlert cache delivery).requests dest = step.2 ∧
    view (deliverAlert cache delivery).cache dest message =
      if delivery.msg.message = message then step.1 else view cache dest message := by
  obtain ⟨same, requests⟩ := deliverAlert_alone cache delivery dest
  obtain ⟨made, moved⟩ := alone_refines quiet delivery message
  exact ⟨requests.trans made, (same.view message).trans moved⟩

/-! ## The whole destination -/

/-- A destination as the automata of its messages, with the requests made so far. -/
@[ext] structure Board where
  keys : String → KeyState := fun _ => {}
  requests : List (AlertMsg × Request) := []

def boardStep (dest : NotifyDest) (board : Board) (delivery : Delivery) : Board :=
  let step := keyStep dest (board.keys delivery.msg.message) delivery
  { keys := Function.update board.keys delivery.msg.message step.1
    requests := board.requests ++ step.2.map fun request => (delivery.msg, request) }

def boardOf (worker : Worker) (dest : NotifyDest) : Board :=
  { keys := view worker.cache dest, requests := worker.requests dest }

theorem mem_sent_iff (worker : Worker) (dest : NotifyDest) (message : String) :
    message ∈ sent worker.cache dest ↔ ((boardOf worker dest).keys message).opened = true :=
  Std.ExtTreeMap.mem_iff_isSome_getElem?

theorem boardOf_workerStep {worker : Worker} {dest : NotifyDest}
    (quiet : Quiet worker.cache dest) (delivery : Delivery) :
    boardOf (workerStep worker delivery) dest = boardStep dest (boardOf worker dest) delivery := by
  ext1
  · funext message
    have moved := (deliverAlert_refines quiet delivery message).2
    simp only [boardOf, boardStep, workerStep, moved, Function.update_apply, eq_comm]
  · have made := (deliverAlert_refines quiet delivery delivery.msg.message).1
    simp only [boardOf, boardStep, workerStep, made]

/-- At each destination the worker behaves as the automata of its messages, over every
queue, from every cache with nothing in flight. -/
theorem worker_refines {cache : AlarmCache} {dest : NotifyDest} (quiet : Quiet cache dest)
    (queue : List Delivery) :
    boardOf (notificationWorker cache queue) dest =
      queue.foldl (boardStep dest) { keys := view cache dest } := by
  -- Over every worker, since the requests made so far grow along the queue.
  suffices run : ∀ worker : Worker, Quiet worker.cache dest →
      boardOf (queue.foldl workerStep worker) dest =
        queue.foldl (boardStep dest) (boardOf worker dest) from
    run { cache := cache } quiet
  clear quiet
  induction queue with
  | nil => intro worker quiet; rfl
  | cons delivery later ih =>
    intro worker quiet
    rw [List.foldl_cons, List.foldl_cons, ← boardOf_workerStep quiet]
    exact ih _ (quiet_deliverAlert quiet delivery)

end Seer.Alert
