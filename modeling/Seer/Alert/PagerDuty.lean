import Seer.Alert.Automaton
import Seer.Watch.Messages

/-!
# PagerDuty and the five-minute guard

The watch loop emits one alert per edge of a condition. A re-trigger within five
minutes of the last accepted trigger is dropped by the flapping guard and never
emitted again, so the incident stays closed although the condition holds.
-/
namespace Seer.Alert

open Seer.Lib

/-- The edges of one PagerDuty alarm in queue order, every request being accepted. -/
structure PagedEdges (queue : List Delivery) (chain message key : String) : Prop where
  alarm : ∀ delivery ∈ queue, delivery.msg.chain = chain ∧ delivery.msg.message = message ∧
    delivery.msg.pd = true ∧ delivery.msg.key = key
  accepted : ∀ delivery ∈ queue,
    (attemptAt delivery.msg delivery.network .pd).accepted = true
  alternating : Alternating (queue.map fun delivery => !delivery.msg.resolved)

/-- Whether the guard drops a trigger, given the last accepted one. -/
def heldBack (accepted : Option Time) (delivery : Delivery) : Bool :=
  recent accepted (delivery.reserveAt .pd)

/-- When the last trigger that the guard let through was accepted. -/
def lastAccepted (queue : List Delivery) : Option Time :=
  queue.foldl (fun accepted delivery =>
    if !delivery.msg.resolved && !heldBack accepted delivery then
      some (delivery.completeAt .pd).val
    else accepted) none

/-- The alarm's automaton after a queue of its own edges. -/
def pagedKey (queue : List Delivery) : KeyState :=
  queue.foldl (fun key delivery => (keyStep .pd key delivery).1) {}

theorem keys_run (queue : List Delivery) (message : String)
    (own : ∀ delivery ∈ queue, delivery.msg.message = message) (board : Board) :
    (queue.foldl (boardStep .pd) board).keys message =
      queue.foldl (fun key delivery => (keyStep .pd key delivery).1) (board.keys message) := by
  induction queue generalizing board with
  | nil => rfl
  | cons delivery later ih =>
    have here : delivery.msg.message = message := own delivery List.mem_cons_self
    rw [List.foldl_cons, List.foldl_cons,
      ih fun other member => own other (List.mem_cons_of_mem _ member)]
    simp [boardStep, here]

theorem PagedEdges.earlier {earlier : List Delivery} {last : Delivery} {chain message key : String}
    (edges : PagedEdges (earlier ++ [last]) chain message key) :
    PagedEdges earlier chain message key where
  alarm delivery member := edges.alarm delivery (List.mem_append_left _ member)
  accepted delivery member := edges.accepted delivery (List.mem_append_left _ member)
  alternating := by
    have whole := edges.alternating
    rw [List.map_append, List.map_singleton, alternating_concat] at whole
    exact whole.1

/-- Two triggers never follow each other. -/
theorem PagedEdges.not_repeated {front : List Delivery} {final last : Delivery}
    {chain message key : String} (edges : PagedEdges (front ++ [final] ++ [last]) chain message key)
    (before : final.msg.resolved = false) (after : last.msg.resolved = false) : False := by
  have whole := edges.alternating
  rw [List.map_append, List.map_singleton, alternating_concat, List.map_append,
    List.map_singleton, opened_concat, before, after] at whole
  exact whole.2 rfl

@[simp] theorem pagedKey_concat (earlier : List Delivery) (last : Delivery) :
    pagedKey (earlier ++ [last]) = (keyStep .pd (pagedKey earlier) last).1 := by
  simp [pagedKey]

@[simp] theorem lastAccepted_concat (earlier : List Delivery) (last : Delivery) :
    lastAccepted (earlier ++ [last]) =
      if !last.msg.resolved && !heldBack (lastAccepted earlier) last then
        some (last.completeAt .pd).val
      else lastAccepted earlier := by
  simp [lastAccepted]

/-- The last edge is a trigger that the guard let through. -/
def EndsOpen (queue : List Delivery) : Prop :=
  ∃ earlier last, queue = earlier ++ [last] ∧ last.msg.resolved = false ∧
    heldBack (lastAccepted earlier) last = false

theorem endsOpen_concat (earlier : List Delivery) (last : Delivery) :
    EndsOpen (earlier ++ [last]) ↔
      last.msg.resolved = false ∧ heldBack (lastAccepted earlier) last = false := by
  constructor
  · rintro ⟨front, final, same, trigger, through⟩
    obtain ⟨rfl, single⟩ := List.append_inj' same rfl
    obtain rfl := List.head_eq_of_cons_eq single
    exact ⟨trigger, through⟩
  · rintro ⟨trigger, through⟩
    exact ⟨earlier, last, rfl, trigger, through⟩

/-- What the guard and the Sent map know after the edges: the last accepted trigger,
and an open message exactly after a trigger that was let through. -/
theorem pagedKey_spec (queue : List Delivery) (chain message key : String)
    (edges : PagedEdges queue chain message key) (real : key ≠ exampleKey) :
    (pagedKey queue).accepted chain = lastAccepted queue ∧
    ((pagedKey queue).opened = true ↔ EndsOpen queue) := by
  induction queue using List.reverseRecOn with
  | nil => simp [pagedKey, lastAccepted, EndsOpen]
  | append_singleton earlier last ih =>
    obtain ⟨recorded, opened⟩ := ih edges.earlier
    obtain ⟨rfl, -, paged, rfl⟩ := edges.alarm last (by simp)
    have enabled : enabledAt last.msg .pd = true := by simp [enabledAt, paged, real]
    have accepted := edges.accepted last (by simp)
    rw [pagedKey_concat, lastAccepted_concat, endsOpen_concat]
    cases resolved : last.msg.resolved with
    | true =>
      -- A resolution closes an open message and is dropped otherwise.
      cases state : (pagedKey earlier).opened <;>
        simp [keyStep, sends, enabled, resolved, state, accepted, KeyState.accept, recorded]
    | false =>
      -- A trigger follows a resolution, so the message is closed and only the guard decides.
      have closed : (pagedKey earlier).opened = false := by
        by_contra still
        obtain ⟨front, final, rfl, trigger, -⟩ := opened.mp (by simpa using still)
        exact edges.not_repeated trigger resolved
      have guard : recent (lastAccepted earlier) (last.reserveAt .pd) =
        heldBack (lastAccepted earlier) last := rfl
      cases held : heldBack (lastAccepted earlier) last <;>
        simp [keyStep, sends, enabled, resolved, closed, accepted, KeyState.accept, recorded, guard,
          held]

/-- The example key never leaves the process. -/
theorem pagedKey_example (queue : List Delivery) (chain message key : String)
    (edges : PagedEdges queue chain message key) (unreal : key = exampleKey) :
    pagedKey queue = {} := by
  induction queue using List.reverseRecOn with
  | nil => rfl
  | append_singleton earlier last ih =>
    have own := (edges.alarm last (by simp)).2.2.2
    rw [pagedKey_concat, ih edges.earlier, keyStep_disabled _ (by simp [enabledAt, own, unreal])]

/-- With every request accepted, PagerDuty has an open incident after the edges exactly
when the last one is a trigger that is not held back by the guard, and the routing key
is a real one. -/
theorem pagerduty_agrees_iff (queue : List Delivery) (chain message key : String)
    (edges : PagedEdges queue chain message key) :
    message ∈ sent (notificationWorker newAlarmCache queue).cache .pd ↔
      key ≠ exampleKey ∧ EndsOpen queue := by
  have fresh : view newAlarmCache .pd = fun _ => {} := funext (view_newAlarmCache .pd)
  rw [mem_sent_iff, worker_refines (quiet_newAlarmCache .pd), fresh,
    keys_run queue message fun delivery member => (edges.alarm delivery member).2.1]
  change (pagedKey queue).opened = true ↔ _
  by_cases real : key = exampleKey
  · simp [pagedKey_example queue chain message key edges real, real]
  · rw [(pagedKey_spec queue chain message key edges real).2]
    simp [real]

/-- A chain paged for three missed blocks in a row. -/
def pagedChain : ChainConfig :=
  { chainId := "osmosis-1"
    alerts := { consecutiveAlerts := true, consecutiveMissed := 3
                pagerduty := { enabled := true, apiKey := "key" } } }

/-- An edge of its consecutive-miss alarm, some minutes after the epoch. -/
def missedEdge (resolved : Bool) (after : Nat) : Delivery :=
  let now : Instant := ⟨unixEpoch + after * minute,
    Int.le_add_of_nonneg_right (Int.mul_nonneg (Int.natCast_nonneg after) (by decide))⟩
  { msg := alert { pagerduty := { enabled := true } } "osmosis" pagedChain
      (Watch.consecutiveMessage pagedChain "NosNode") "critical" resolved (some "consecutive")
    reserveAt := fun _ => now
    completeAt := fun _ => now }

/-- Missed blocks, a recovery and missed blocks again within two minutes: the last
trigger is dropped. -/
theorem pagerduty_flap_left_closed :
    let queue := [missedEdge false 0, missedEdge true 1, missedEdge false 2]
    PagedEdges queue "osmosis" "NosNode has missed 3 blocks on osmosis-1" "key" ∧
    "NosNode has missed 3 blocks on osmosis-1" ∉
      sent (notificationWorker newAlarmCache queue).cache .pd :=
  ⟨⟨by decide +kernel, by decide +kernel, by decide⟩, by decide +kernel⟩

/-- With ten minutes between the edges the incident is open again. -/
theorem pagerduty_agrees_slow_flap :
    "NosNode has missed 3 blocks on osmosis-1" ∈ sent (notificationWorker newAlarmCache
      [missedEdge false 0, missedEdge true 10, missedEdge false 20]).cache .pd :=
  (pagerduty_agrees_iff _ "osmosis" _ "key"
    ⟨by decide +kernel, by decide +kernel, by decide⟩).mpr
    ⟨by decide, [missedEdge false 0, missedEdge true 10], missedEdge false 20, rfl, rfl,
      by decide +kernel⟩

end Seer.Alert
