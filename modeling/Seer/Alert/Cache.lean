import Mathlib.Logic.Function.Basic
import Seer.Types

/-!
# The alarm cache

Every method runs under `notifyMux`, so each is one step. `reserveDelivery` and
`completeDelivery` are the two ends of a delivery attempt; the network call
between them holds no lock.
-/
namespace Seer.Alert

open Seer.Lib

/-- `sentMapLocked`: the map of accepted, unresolved triggers of a destination. -/
def sent (cache : AlarmCache) : NotifyDest → Table String Time
  | .pd => cache.sentPdAlarms
  | .tg => cache.sentTgAlarms
  | .di => cache.sentDiAlarms
  | .slk => cache.sentSlkAlarms

def setSent (cache : AlarmCache) (dest : NotifyDest) (alarms : Table String Time) : AlarmCache :=
  match dest with
  | .pd => { cache with sentPdAlarms := alarms }
  | .tg => { cache with sentTgAlarms := alarms }
  | .di => { cache with sentDiAlarms := alarms }
  | .slk => { cache with sentSlkAlarms := alarms }

def setInFlight (cache : AlarmCache) (dest : NotifyDest) (messages : Table String Unit) :
    AlarmCache :=
  { cache with inFlight := Function.update cache.inFlight dest messages }

def setFlapping (cache : AlarmCache) (times : Table String (Table String Time)) : AlarmCache :=
  { cache with flappingAlarms := times }

def setAllAlarms (cache : AlarmCache) (alarms : Table String (Table String Time)) : AlarmCache :=
  { cache with allAlarms := alarms }

/-- Indexing a Go map of times: an absent key reads as the zero time. -/
def timeAt (times : Table String Time) (key : String) : Time := times[key]?.getD 0

/-- The flapping guard: a trigger of this chain and message was accepted less than
five minutes before `now`. -/
def flapping (cache : AlarmCache) (now : Time) (msg : AlertMsg) : Bool :=
  match cache.flappingAlarms[msg.chain]? with
  | some accepted => decide (timeAt accepted msg.message > now - 5 * minute)
  | none => false

def reserveDelivery (cache : AlarmCache) (now : Instant) (msg : AlertMsg) (dest : NotifyDest) :
    Bool × AlarmCache :=
  if msg.message ∈ cache.inFlight dest then (false, cache)
  else if msg.resolved && (timeAt (sent cache dest) msg.message).isZero then (false, cache)
  else if !msg.resolved && !(timeAt (sent cache dest) msg.message).isZero then (false, cache)
  else if dest == .pd && !msg.resolved && flapping cache now msg then (false, cache)
  else (true, setInFlight cache dest ((cache.inFlight dest).insert msg.message ()))

/-- Remembers an accepted PagerDuty trigger for the flapping guard. -/
def recordFlapping (flappingAlarms : Table String (Table String Time)) (now : Time)
    (msg : AlertMsg) : Table String (Table String Time) :=
  flappingAlarms.insert msg.chain
    ((flappingAlarms[msg.chain]?.getD ∅).insert msg.message now)

def completeDelivery (cache : AlarmCache) (now : Instant) (msg : AlertMsg) (dest : NotifyDest)
    (accepted : Bool) : AlarmCache :=
  let cache := setInFlight cache dest ((cache.inFlight dest).erase msg.message)
  if !accepted then cache
  else if msg.resolved then setSent cache dest ((sent cache dest).erase msg.message)
  else
    let cache := setSent cache dest ((sent cache dest).insert msg.message now)
    if dest == .pd then setFlapping cache (recordFlapping cache.flappingAlarms now msg)
    else cache

def recordDashboardAlarm (cache : AlarmCache) (now : Instant) (chainName message : String)
    (resolved : Bool) : AlarmCache :=
  let chainAlarms := cache.allAlarms[chainName]?.getD ∅
  let chainAlarms :=
    if resolved then chainAlarms.erase message else chainAlarms.insert message now
  setAllAlarms cache (cache.allAlarms.insert chainName chainAlarms)

/-- `clearNoBlocks`: drops the stalled alarms of a chain from the dashboard. -/
def clearNoBlocks (cache : AlarmCache) (chain : String) : AlarmCache :=
  match cache.allAlarms[chain]? with
  | none => cache
  | some chainAlarms =>
    let kept := chainAlarms.filter fun alarm _ =>
      !"stalled: have not seen a new block on".isPrefixOf alarm
    setAllAlarms cache (cache.allAlarms.insert chain kept)

def getCount (cache : AlarmCache) (chain : String) : Nat :=
  match cache.allAlarms[chain]? with
  | none => 0
  | some chainAlarms => chainAlarms.size

section Lenses
variable (cache : AlarmCache) (dest other : NotifyDest) (alarms : Table String Time)

theorem sent_setSent : sent (setSent cache dest alarms) other =
    if other = dest then alarms else sent cache other := by
  cases dest <;> cases other <;> rfl

@[simp] theorem inFlight_setSent : (setSent cache dest alarms).inFlight = cache.inFlight := by
  cases dest <;> rfl

@[simp] theorem flappingAlarms_setSent :
    (setSent cache dest alarms).flappingAlarms = cache.flappingAlarms := by
  cases dest <;> rfl

@[simp] theorem allAlarms_setSent : (setSent cache dest alarms).allAlarms = cache.allAlarms := by
  cases dest <;> rfl

@[simp] theorem sent_setInFlight (messages : Table String Unit) :
    sent (setInFlight cache dest messages) = sent cache := by
  funext other
  cases other <;> rfl

@[simp] theorem inFlight_setInFlight (messages : Table String Unit) :
    (setInFlight cache dest messages).inFlight = Function.update cache.inFlight dest messages :=
  rfl

@[simp] theorem flappingAlarms_setInFlight (messages : Table String Unit) :
    (setInFlight cache dest messages).flappingAlarms = cache.flappingAlarms := rfl

@[simp] theorem sent_setFlapping (times : Table String (Table String Time)) :
    sent (setFlapping cache times) = sent cache := by
  funext other
  cases other <;> rfl

@[simp] theorem inFlight_setFlapping (times : Table String (Table String Time)) :
    (setFlapping cache times).inFlight = cache.inFlight := rfl

@[simp] theorem sent_setAllAlarms (all : Table String (Table String Time)) :
    sent (setAllAlarms cache all) = sent cache := by
  funext other
  cases other <;> rfl

end Lenses

section Specifications
variable (cache : AlarmCache) (now : Instant) (msg : AlertMsg) (dest : NotifyDest)

/-- A reservation is refused without effect, or granted to a message that is not in
flight, is open exactly when it is a resolution, and is not held back as flapping. -/
theorem reserveDelivery_cases :
    reserveDelivery cache now msg dest = (false, cache) ∨
    (reserveDelivery cache now msg dest =
        (true, setInFlight cache dest ((cache.inFlight dest).insert msg.message ())) ∧
      msg.message ∉ cache.inFlight dest ∧
      msg.resolved = !(timeAt (sent cache dest) msg.message).isZero ∧
      (dest = .pd → msg.resolved = false → flapping cache now msg = false)) := by
  unfold reserveDelivery
  split
  · exact .inl rfl
  next free =>
    split
    · exact .inl rfl
    next closing =>
      split
      · exact .inl rfl
      next opening =>
        split
        · exact .inl rfl
        next steady =>
          refine .inr ⟨rfl, free, ?_, ?_⟩
          -- The two `IsZero` branches of the source refuse opposite cases.
          · cases resolved : msg.resolved <;> simp_all
          · rintro rfl resolved
            simpa [resolved] using steady

/-- Which entries of the Sent maps a completion leaves, and which it changes. -/
theorem sent_completeDelivery (accepted : Bool) (other : NotifyDest) :
    sent (completeDelivery cache now msg dest accepted) other =
      if accepted = true ∧ other = dest then
        if msg.resolved then (sent cache dest).erase msg.message
        else (sent cache dest).insert msg.message now
      else sent cache other := by
  cases accepted with
  | false => simp [completeDelivery]
  | true =>
    simp only [completeDelivery, Bool.not_true, Bool.false_eq_true, if_false, true_and]
    split
    · simp [sent_setSent]
    · split <;> simp [sent_setSent]

/-- An accepted completion opens or closes its own entry; all others stay. -/
theorem lookup_completeDelivery (accepted : Bool) (other : NotifyDest) (message : String) :
    (sent (completeDelivery cache now msg dest accepted) other)[message]? =
      if accepted = true ∧ other = dest ∧ msg.message = message then
        if msg.resolved then none else some now.val
      else (sent cache other)[message]? := by
  rw [sent_completeDelivery]
  by_cases at_dest : accepted = true ∧ other = dest
  · obtain ⟨rfl, rfl⟩ := at_dest
    cases msg.resolved <;> simp [Table.get_insert, Table.get_erase]
  · rw [if_neg at_dest, if_neg]
    rintro ⟨committed, same, -⟩
    exact at_dest ⟨committed, same⟩

theorem allAlarms_reserveDelivery :
    (reserveDelivery cache now msg dest).2.allAlarms = cache.allAlarms := by
  rcases reserveDelivery_cases cache now msg dest with refused | ⟨granted, -⟩
  · rw [refused]
  · rw [granted]
    rfl

theorem allAlarms_completeDelivery (accepted : Bool) :
    (completeDelivery cache now msg dest accepted).allAlarms = cache.allAlarms := by
  unfold completeDelivery
  dsimp only
  split
  · rfl
  · split
    · exact allAlarms_setSent _ _ _
    · split
      · exact allAlarms_setSent _ _ _
      · exact allAlarms_setSent _ _ _

@[simp] theorem inFlight_completeDelivery (accepted : Bool) :
    (completeDelivery cache now msg dest accepted).inFlight =
      Function.update cache.inFlight dest ((cache.inFlight dest).erase msg.message) := by
  unfold completeDelivery
  dsimp only
  split
  · rfl
  · split
    · simp
    · split <;> simp

/-- The completion of a granted reservation releases it. -/
theorem inFlight_released (free : msg.message ∉ cache.inFlight dest) (accepted : Bool) :
    (completeDelivery (setInFlight cache dest ((cache.inFlight dest).insert msg.message ())) now msg
      dest accepted).inFlight = cache.inFlight := by
  have released : ((cache.inFlight dest).insert msg.message ()).erase msg.message =
      cache.inFlight dest := Table.erase_insert (Std.ExtTreeMap.getElem?_eq_none free) ()
  simp [released]

end Specifications

end Seer.Alert
