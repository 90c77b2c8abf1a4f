import Seer.Alert.Worker
import Seer.State.Snapshot
import Seer.Watch.Tick

/-!
# A chain over many runs of the process

The watch loop of one chain together with the alarm cache, the alert queue, the
notification worker and clean restarts. Every request is accepted; the clock never
runs backwards, which the lengths of time between the steps express.
-/
namespace Seer.Watch

open Seer.Alert Seer.Lib

/-- The process as far as one chain's alarms go. -/
structure Host where
  cache : AlarmCache := newAlarmCache
  watch : State := {}
  /-- On the alert channel, oldest first. -/
  queue : List Emission := []
  accepting : Bool := true
  clock : Instant := ⟨unixEpoch, Int.le_refl _⟩

inductive HostStep where
  /-- A tick of the watch loop, reading the given values at the new time. -/
  | tick (elapsed : Nat) (reads : Seen)
  /-- A final block, recorded with the time the websocket worker read before. -/
  | block (time : Time)
  /-- The worker delivers the oldest queued alert. -/
  | deliver (reserveAt completeAt : NotifyDest → Instant) (order : List NotifyDest)
  /-- The worker delivers an alert of another source. -/
  | foreign (delivery : Delivery)
  /-- The shutdown stops taking alerts. -/
  | stop
  /-- The drained process writes its state, exits, and a new one loads it. -/
  | restart (elapsed : Nat)

section Steps
variable (config : Config) (name : String) (chain : ChainConfig)

/-- The cache after one alert: `Config.alert` records it unless the shutdown has begun, and
`checkStalledAlert` clears the stalled alarms after a resolution in any case. -/
def recordEmission (accepting : Bool) (now : Instant) (cache : AlarmCache) (emission : Emission) :
    AlarmCache :=
  let cache := if accepting then
      recordDashboardAlarm cache now name emission.message emission.resolved
    else cache
  if emission.alarm == .stalled && emission.resolved then clearNoBlocks cache name else cache

def emissionDelivery (emission : Emission) (reserveAt completeAt : NotifyDest → Instant)
    (order : List NotifyDest) : Delivery :=
  { msg := alert config name chain emission.message emission.severity emission.resolved
      (some emission.id)
    reserveAt := reserveAt
    completeAt := completeAt
    order := order }

/-- The alarm cache of a process that loads what the last one saved. -/
def restoredCache (cache : AlarmCache) (now : Time) : AlarmCache :=
  (State.restoreSavedState { config with alarms := newAlarmCache }
    (State.snapshotSavedState { config with alarms := cache }) now).alarms

/-- What a tick reads, at the time the step takes it to. -/
def Host.sees (host : Host) (elapsed : Nat) (reads : Seen) : Seen :=
  { reads with now := host.clock.after elapsed }

def hostStep (host : Host) : HostStep → Host
  | .tick elapsed reads =>
    let now := host.clock.after elapsed
    let ticked := tick config chain host.watch (host.sees elapsed reads)
    { cache := ticked.2.foldl (recordEmission name host.accepting now) host.cache
      watch := ticked.1
      -- Once the shutdown has begun, nothing is queued any more.
      queue := host.queue ++ if host.accepting then ticked.2 else []
      accepting := host.accepting
      clock := now }
  | .block time =>
    { host with watch := (step config chain host.watch (.block time)).1 }
  | .deliver reserveAt completeAt order =>
    match host.queue with
    | [] => host
    | emission :: later =>
      let delivery := emissionDelivery config name chain emission reserveAt completeAt order
      { host with cache := (deliverAlert host.cache delivery).cache, queue := later }
  | .foreign delivery => { host with cache := (deliverAlert host.cache delivery).cache }
  | .stop => { host with accepting := false }
  | .restart elapsed =>
    -- A clean shutdown writes its checkpoint only when the queue is drained.
    if !host.accepting && host.queue.isEmpty then
      let now := host.clock.after elapsed
      { cache := restoredCache config host.cache now, clock := now }
    else host

/-- The state after a history, from a first start without a state file. -/
def history (steps : List HostStep) : Host := steps.foldl (hostStep config name chain) {}

end Steps

/-! ## What the steps leave alone -/

section Frames
variable (name : String) (accepting : Bool) (now : Instant) (cache : AlarmCache)

theorem sent_clearNoBlocks : sent (clearNoBlocks cache name) = sent cache := by
  unfold clearNoBlocks
  cases cache.allAlarms[name]? with
  | none => rfl
  | some chainAlarms => simp

theorem inFlight_clearNoBlocks : (clearNoBlocks cache name).inFlight = cache.inFlight := by
  unfold clearNoBlocks
  cases cache.allAlarms[name]? <;> rfl

theorem sent_recordEmission (emission : Emission) :
    sent (recordEmission name accepting now cache emission) = sent cache := by
  have recorded : sent (if accepting then
      recordDashboardAlarm cache now name emission.message emission.resolved else cache) =
        sent cache := by
    cases accepting <;> simp [recordDashboardAlarm]
  unfold recordEmission
  dsimp only
  split
  · rw [sent_clearNoBlocks, recorded]
  · exact recorded

theorem inFlight_recordEmission (emission : Emission) :
    (recordEmission name accepting now cache emission).inFlight = cache.inFlight := by
  have recorded : (if accepting then
      recordDashboardAlarm cache now name emission.message emission.resolved else cache).inFlight =
        cache.inFlight := by
    cases accepting <;> rfl
  unfold recordEmission
  dsimp only
  split
  · rw [inFlight_clearNoBlocks, recorded]
  · exact recorded

theorem sent_recordEmissions (emitted : List Emission) :
    sent (emitted.foldl (recordEmission name accepting now) cache) = sent cache := by
  induction emitted generalizing cache with
  | nil => rfl
  | cons emission later ih => rw [List.foldl_cons, ih, sent_recordEmission]

theorem inFlight_recordEmissions (emitted : List Emission) :
    (emitted.foldl (recordEmission name accepting now) cache).inFlight = cache.inFlight := by
  induction emitted generalizing cache with
  | nil => rfl
  | cons emission later ih => rw [List.foldl_cons, ih, inFlight_recordEmission]

end Frames

/-- A restored Sent map holds nothing that was not saved. -/
theorem lookup_restoredCache (config : Config) (cache : AlarmCache) (now : Time)
    (dest : NotifyDest) (message : String) :
    (sent (restoredCache config cache now) dest)[message]? =
      (sent cache dest)[message]?.filter fun time =>
        decide (¬ now.sub time ≥ State.staleHours * State.hour) := by
  cases dest <;> exact Table.get_filter _ _ _

end Seer.Watch
