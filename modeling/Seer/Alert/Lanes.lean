import Seer.Alert.Automaton

/-!
# Four independent lanes

The specification of the fan-out: a destination is a fold of a two-state automaton for
each message over the alerts that enable it. `leg` keeps of a delivery what concerns one
destination, so the fold cannot look at another destination's flags, answers or clock, nor
at the order in which the critical sections ran.
-/
namespace Seer.Alert

open Seer.Lib

/-- The flag of an alert for a destination. -/
def flagged (dest : NotifyDest) (msg : AlertMsg) : Bool :=
  match dest with
  | .pd => msg.pd
  | .di => msg.disc
  | .tg => msg.tg
  | .slk => msg.slk

/-- The remote answers with those of the other destinations replaced by the default. -/
def answersFor (dest : NotifyDest) (network : Network) : Network :=
  match dest with
  | .pd => { pagerDuty := network.pagerDuty }
  | .di => { discord := network.discord }
  | .tg => { telegram := network.telegram }
  | .slk => { slack := network.slack }

/-- What a delivery is to one destination. -/
def leg (dest : NotifyDest) (delivery : Delivery) : Delivery :=
  { msg := { delivery.msg with
      pd := dest == .pd && delivery.msg.pd
      disc := dest == .di && delivery.msg.disc
      tg := dest == .tg && delivery.msg.tg
      slk := dest == .slk && delivery.msg.slk }
    network := answersFor dest delivery.network
    reserveAt := fun _ => delivery.reserveAt dest
    completeAt := fun _ => delivery.completeAt dest }

def legs (dest : NotifyDest) (queue : List Delivery) : List Delivery :=
  (queue.filter (fun delivery => flagged dest delivery.msg)).map (leg dest)

/-! ## The specification -/

/-- A message at a destination: the time of its open trigger, and the time of the last
accepted trigger for each chain. -/
@[ext] structure Slot where
  since : Option Time := none
  accepted : String → Option Time := fun _ => none

/-- An entry with the zero time counts as none, as in the source. -/
def Slot.opened (slot : Slot) : Bool := slot.since.any fun time => !time.isZero

/-- PagerDuty's two extra rules. -/
def Slot.heldBack (slot : Slot) (now : Time) (msg : AlertMsg) : Bool :=
  msg.key == exampleKey || (!msg.resolved && recent (slot.accepted msg.chain) now)

/-- A trigger is attempted when closed, a resolution when open. -/
def Slot.attempts (slot : Slot) (dest : NotifyDest) (now : Time) (msg : AlertMsg) : Bool :=
  (if msg.resolved then slot.opened else !slot.opened) && !(dest == .pd && slot.heldBack now msg)

def Slot.accept (slot : Slot) (dest : NotifyDest) (now : Time) (msg : AlertMsg) : Slot :=
  if msg.resolved then { slot with since := none }
  else
    { since := some now
      -- Only PagerDuty keeps the times of accepted triggers, per chain.
      accepted :=
        if dest == .pd then Function.update slot.accepted msg.chain (some now)
        else slot.accepted }

def slotStep (dest : NotifyDest) (slot : Slot) (delivery : Delivery) : Slot × List Request :=
  if slot.attempts dest (delivery.reserveAt dest) delivery.msg then
    let attempted := attemptAt delivery.msg delivery.network dest
    (if attempted.accepted then slot.accept dest (delivery.completeAt dest) delivery.msg else slot,
      attempted.requests)
  else (slot, [])

/-- A destination: its messages and the requests made so far, oldest first. -/
@[ext] structure Lane where
  slots : String → Slot
  requests : List Request := []

def laneStep (dest : NotifyDest) (lane : Lane) (delivery : Delivery) : Lane :=
  let step := slotStep dest (lane.slots delivery.msg.message) delivery
  { slots := Function.update lane.slots delivery.msg.message step.1
    requests := lane.requests ++ step.2 }

/-! ## A leg is enough -/

section Leg
variable (dest : NotifyDest) (delivery : Delivery)

/-- The retry loop reads the alert through the event it builds. -/
theorem pagerDutyAttempts_congr (left right : AlertMsg)
    (same : buildPagerDutyEvent left = buildPagerDutyEvent right) (results : List PagerDutyResult) :
    pagerDutyAttempts left results = pagerDutyAttempts right results := by
  induction results with
  | nil => rfl
  | cons result later ih => cases result <;> simp only [pagerDutyAttempts, same, ih]

theorem attemptAt_leg :
    attemptAt (leg dest delivery).msg (leg dest delivery).network dest =
      attemptAt delivery.msg delivery.network dest := by
  cases dest with
  | pd => exact pagerDutyAttempts_congr (leg .pd delivery).msg delivery.msg rfl _
  | di => rfl
  | tg => rfl
  | slk => rfl

theorem laneStep_leg (lane : Lane) :
    laneStep dest lane (leg dest delivery) = laneStep dest lane delivery := by
  have step : ∀ slot : Slot, slotStep dest slot (leg dest delivery) = slotStep dest slot delivery := by
    intro slot
    unfold slotStep
    rw [attemptAt_leg]
    rfl
  unfold laneStep
  rw [step]
  rfl

end Leg

/-! ## The cache as lanes -/

/-- The entries of the cache for a message at a destination. -/
def slotOf (cache : AlarmCache) (dest : NotifyDest) (message : String) : Slot :=
  { since := (sent cache dest)[message]?
    accepted := (view cache dest message).accepted }

theorem SameAt.slotOf {left right : AlarmCache} {dest : NotifyDest} (same : SameAt dest left right)
    (message : String) : Alert.slotOf left dest message = Alert.slotOf right dest message := by
  have times := congrArg KeyState.accepted (same.view message)
  simp only [Alert.slotOf, same.opened, times]

section Idle
variable {cache : AlarmCache} {dest : NotifyDest}

theorem slotOf_opened (cache : AlarmCache) (dest : NotifyDest) (message : String) :
    (slotOf cache dest message).opened = !(timeAt (sent cache dest) message).isZero := by
  unfold Slot.opened slotOf timeAt
  cases (sent cache dest)[message]? with
  | none => rfl
  | some time => rfl

/-- With nothing in flight the sink tries exactly when the automaton does. -/
theorem reserveDelivery_attempts (idle : cache.inFlight dest = ∅) (now : Instant) (msg : AlertMsg)
    (flag : flagged dest msg = true) :
    (enabledAt msg dest && (reserveDelivery cache now msg dest).1) =
      (slotOf cache dest msg.message).attempts dest now msg := by
  have free : msg.message ∉ cache.inFlight dest := by simp [idle]
  rw [reserveDelivery, if_neg free, Slot.attempts, slotOf_opened]
  by_cases paging : dest = .pd
  -- PagerDuty's flag also asks for the key, and its reservation for the flapping time.
  · subst paging
    have key : enabledAt msg .pd = !(msg.key == exampleKey) := by
      have paged : msg.pd = true := flag
      simp [enabledAt, paged, bne]
    have held : (slotOf cache .pd msg.message).heldBack now msg =
        (msg.key == exampleKey || (!msg.resolved && flapping cache now msg)) := by
      rw [flapping_eq_recent]
      rfl
    rw [key, held]
    -- What is left is a truth table.
    cases msg.resolved <;> cases (timeAt (sent cache .pd) msg.message).isZero <;>
      cases flapping cache now msg <;> cases msg.key == exampleKey <;> rfl
  · have enabled : enabledAt msg dest = true := by
      cases dest with
      | pd => exact absurd rfl paging
      | di => exact flag
      | tg => exact flag
      | slk => exact flag
    rw [enabled, beq_false_of_ne paging]
    cases msg.resolved <;> cases (timeAt (sent cache dest) msg.message).isZero <;> rfl

theorem slotOf_reserveDelivery (now : Instant) (msg : AlertMsg) (message : String) :
    slotOf (reserveDelivery cache now msg dest).2 dest message = slotOf cache dest message := by
  have times := congrArg KeyState.accepted (@reserveDelivery_view cache dest now msg message)
  rcases reserveDelivery_cases cache now msg dest with refused | ⟨granted, -⟩
  · rw [refused]
  · rw [granted] at times ⊢
    simp only [slotOf, times, sent_setInFlight]

theorem slotOf_completeDelivery (now : Instant) (msg : AlertMsg) (accepted : Bool)
    (message : String) :
    slotOf (completeDelivery cache now msg dest accepted) dest message =
      if accepted = true ∧ msg.message = message then
        (slotOf cache dest message).accept dest now msg
      else slotOf cache dest message := by
  have entry := lookup_completeDelivery cache now msg dest accepted dest message
  have times := congrArg KeyState.accepted
    (@view_completeDelivery cache dest now msg accepted message)
  by_cases own : accepted = true ∧ msg.message = message
  · rw [if_pos own] at times ⊢
    rw [if_pos ⟨own.1, rfl, own.2⟩] at entry
    ext1
    · rw [slotOf, entry]
      cases resolved : msg.resolved <;> simp [Slot.accept, resolved]
    · rw [slotOf, times]
      cases resolved : msg.resolved <;> cases dest <;>
        simp [Slot.accept, KeyState.accept, slotOf, resolved]
  · rw [if_neg own] at times ⊢
    rw [if_neg fun same => own ⟨same.1, same.2.2⟩] at entry
    ext1
    · exact entry
    · exact times

/-- A sink call made alone on an idle destination is a step of the automaton, and leaves
the destination idle. -/
theorem alone_slots (idle : cache.inFlight dest = ∅) (delivery : Delivery)
    (flag : flagged dest delivery.msg = true) (message : String) :
    let step := slotStep dest (slotOf cache dest delivery.msg.message) delivery
    (alone cache delivery dest).attempted.requests = step.2 ∧
    slotOf (alone cache delivery dest).cache dest message =
      if delivery.msg.message = message then step.1 else slotOf cache dest message := by
  intro step
  have decision := reserveDelivery_attempts idle (delivery.reserveAt dest) delivery.msg flag
  cases tries : (slotOf cache dest delivery.msg.message).attempts dest (delivery.reserveAt dest)
      delivery.msg with
  | false =>
    -- The sink is off or the reservation refused: neither changes the slot.
    have silent : step = (slotOf cache dest delivery.msg.message, []) := by
      simp [step, slotStep, tries]
    have unchanged : ∀ after : AlarmCache, slotOf after dest message = slotOf cache dest message →
        slotOf after dest message = if delivery.msg.message = message then step.1
          else slotOf cache dest message := by
      intro after same
      rw [same, silent]
      split
      next own => rw [own]
      next => rfl
    rw [tries] at decision
    cases enabled : enabledAt delivery.msg dest with
    | false =>
      rw [alone, notify_disabled _ _ _ _ _ _ enabled]
      exact ⟨by rw [silent], unchanged _ rfl⟩
    | true =>
      rw [enabled, Bool.true_and] at decision
      rw [alone, notify_refused _ _ _ _ _ _ enabled decision]
      exact ⟨by rw [silent], unchanged _ (slotOf_reserveDelivery _ _ _)⟩
  | true =>
    -- Reserved, attempted and completed; only the completion can change the slot.
    rw [tries, Bool.and_eq_true] at decision
    rw [alone, notify_granted _ _ _ _ _ _ decision.1 decision.2]
    dsimp only
    rw [slotOf_completeDelivery, slotOf_reserveDelivery]
    simp only [step, slotStep, tries, if_true]
    by_cases own : delivery.msg.message = message
    · subst own
      simp
    · simp [own]

/-- Without the destination's flag the sink returns at once. -/
theorem alone_unflagged (cache : AlarmCache) (delivery : Delivery)
    (off : flagged dest delivery.msg = false) : alone cache delivery dest = { cache := cache } := by
  apply notify_disabled
  cases dest with
  | pd =>
    have paged : delivery.msg.pd = false := off
    simp [enabledAt, paged]
  | di => exact off
  | tg => exact off
  | slk => exact off

theorem idle_alone (idle : cache.inFlight dest = ∅) (delivery : Delivery) :
    (alone cache delivery dest).cache.inFlight dest = ∅ := by
  rw [alone, inFlight_notify, idle]

end Idle

/-! ## Whole queues -/

def laneOf (worker : Worker) (dest : NotifyDest) : Lane :=
  { slots := slotOf worker.cache dest, requests := (worker.requests dest).map Prod.snd }

section Worker
variable {worker : Worker} {dest : NotifyDest}

theorem idle_workerStep (idle : worker.cache.inFlight dest = ∅) (delivery : Delivery) :
    (workerStep worker delivery).cache.inFlight dest = ∅ :=
  (deliverAlert_alone worker.cache delivery dest).1.flying.trans (idle_alone idle delivery)

/-- One alert moves a destination by one step of its automaton, or not at all. -/
theorem laneOf_workerStep (idle : worker.cache.inFlight dest = ∅) (delivery : Delivery) :
    laneOf (workerStep worker delivery) dest =
      if flagged dest delivery.msg then laneStep dest (laneOf worker dest) delivery
      else laneOf worker dest := by
  obtain ⟨same, requests⟩ := deliverAlert_alone worker.cache delivery dest
  have made : (laneOf (workerStep worker delivery) dest).requests =
      (laneOf worker dest).requests ++ (alone worker.cache delivery dest).attempted.requests := by
    simp [laneOf, workerStep, requests, Function.comp_def]
  cases flag : flagged dest delivery.msg with
  | false =>
    rw [alone_unflagged _ _ flag] at made same
    rw [if_neg (by simp)]
    ext1
    · funext message
      exact same.slotOf message
    · simpa using made
  | true =>
    have moves := alone_slots idle delivery flag
    rw [if_pos rfl]
    ext1
    · funext message
      have moved := (same.slotOf message).trans (moves message).2
      simp only [laneOf, laneStep, workerStep, Function.update_apply, moved, eq_comm]
    · rw [made, (moves "").1]
      rfl

/-- By induction on the queue, the destination being idle between two alerts. -/
theorem laneOf_run (idle : worker.cache.inFlight dest = ∅) (queue : List Delivery) :
    laneOf (queue.foldl workerStep worker) dest =
      (legs dest queue).foldl (laneStep dest) (laneOf worker dest) := by
  induction queue generalizing worker with
  | nil => rfl
  | cons delivery later ih =>
    rw [List.foldl_cons, ih (idle_workerStep idle delivery), laneOf_workerStep idle]
    cases flag : flagged dest delivery.msg with
    | false => simp [legs, flag]
    | true => simp [legs, flag, laneStep_leg]

end Worker

/-- A cache as the worker finds it at the start: reservations do not outlive a process. -/
def atStart (cache : AlarmCache) : AlarmCache := { cache with inFlight := fun _ => ∅ }

/-- The requests made at a destination and its Sent map are those of the destination's own
automata, folded over the alerts that enable it; so they are the same for all queues that
give the destination the same legs, whatever the other destinations see. -/
theorem fanOut_refines_lanes (cache : AlarmCache) (queue : List Delivery) (dest : NotifyDest) :
    let worker := notificationWorker (atStart cache) queue
    let lane := (legs dest queue).foldl (laneStep dest) { slots := slotOf cache dest }
    (worker.requests dest).map Prod.snd = lane.requests ∧
    (∀ message : String, (sent worker.cache dest)[message]? = (lane.slots message).since) ∧
    ∀ other : List Delivery, legs dest other = legs dest queue →
      ((notificationWorker (atStart cache) other).requests dest).map Prod.snd =
        (worker.requests dest).map Prod.snd ∧
      sent (notificationWorker (atStart cache) other).cache dest = sent worker.cache dest := by
  have refines : ∀ queue : List Delivery, laneOf (notificationWorker (atStart cache) queue) dest =
      (legs dest queue).foldl (laneStep dest) { slots := slotOf cache dest } :=
    fun queue => laneOf_run rfl queue
  refine ⟨congrArg Lane.requests (refines queue), ?_, ?_⟩
  · intro message
    exact congrArg (fun lane => (lane.slots message).since) (refines queue)
  · intro other same
    have agree : laneOf (notificationWorker (atStart cache) other) dest =
        laneOf (notificationWorker (atStart cache) queue) dest := by
      rw [refines, refines, same]
    refine ⟨congrArg Lane.requests agree, ?_⟩
    -- A Sent map is determined by its entries, which the lane has.
    apply Std.ExtTreeMap.ext_getElem?
    intro message
    exact congrArg (fun lane => (lane.slots message).since) agree

end Seer.Alert
