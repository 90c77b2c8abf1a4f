import Seer.Alert.Cache
import Seer.Lib.Alternation

/-!
# Concurrent delivery attempts

Any number of callers reserve a delivery, talk to the network without a lock and
complete it. A schedule is the order in which their critical sections run, so a
property of every schedule is a property of every interleaving.
-/
namespace Seer.Alert

open Seer.Lib

/-- A delivery of one alert to one destination. -/
structure Attempt where
  msg : AlertMsg
  dest : NotifyDest
  deriving DecidableEq

def Attempt.isFor (attempt : Attempt) (dest : NotifyDest) (message : String) : Bool :=
  attempt.dest == dest && attempt.msg.message == message

/-- The cache, the granted attempts that have not completed, and the accepted
completions so far, oldest first. -/
structure Deliveries where
  cache : AlarmCache
  granted : List Attempt := []
  accepted : List Attempt := []

/-- One critical section. `complete` names the granted attempt by its position. -/
inductive DeliveryStep where
  | reserve (attempt : Attempt) (now : Instant)
  | complete (index : Nat) (accepted : Bool) (now : Instant)

def deliveryStep (state : Deliveries) : DeliveryStep → Deliveries
  | .reserve attempt now =>
    match reserveDelivery state.cache now attempt.msg attempt.dest with
    | (true, cache) => { state with cache := cache, granted := state.granted ++ [attempt] }
    | (false, cache) => { state with cache := cache }
  | .complete index accepted now =>
    match state.granted[index]? with
    | none => state
    | some attempt =>
      { cache := completeDelivery state.cache now attempt.msg attempt.dest accepted
        granted := state.granted.eraseIdx index
        accepted := if accepted then state.accepted ++ [attempt] else state.accepted }

/-- The state after a schedule, from an empty cache. -/
def runDeliveries (schedule : List DeliveryStep) : Deliveries :=
  schedule.foldl deliveryStep { cache := newAlarmCache }

/-- The attempts of one destination and message, oldest first, `true` for a trigger. -/
def edgesFor (attempts : List Attempt) (dest : NotifyDest) (message : String) : List Bool :=
  (attempts.filter (·.isFor dest message)).map (!·.msg.resolved)

def countFor (attempts : List Attempt) (dest : NotifyDest) (message : String) : Nat :=
  attempts.countP (·.isFor dest message)

/-- What holds of each destination and message between critical sections. -/
structure KeyInv (state : Deliveries) (dest : NotifyDest) (message : String) : Prop where
  reserved : countFor state.granted dest message =
    if message ∈ state.cache.inFlight dest then 1 else 0
  alternating : Alternating (edgesFor state.accepted dest message)
  nonzero : (sent state.cache dest)[message]? ≠ some 0
  recorded : (sent state.cache dest)[message]?.isSome =
    Opened (edgesFor state.accepted dest message)
  /-- A granted attempt still has the kind that the state calls for. -/
  kind : ∀ attempt ∈ state.granted, attempt.isFor dest message = true →
    attempt.msg.resolved = Opened (edgesFor state.accepted dest message)

theorem isFor_iff (attempt : Attempt) (dest : NotifyDest) (message : String) :
    attempt.isFor dest message = true ↔ attempt.dest = dest ∧ attempt.msg.message = message := by
  simp [Attempt.isFor]

theorem timeAt_isZero (times : Table String Time) (key : String) (nonzero : times[key]? ≠ some 0) :
    (timeAt times key).isZero = !times[key]?.isSome := by
  cases found : times[key]? with
  | none => simp [timeAt, found, Time.isZero]
  | some time =>
    have positive : time ≠ 0 := by
      intro zero
      exact nonzero (by rw [found, zero])
    simp [timeAt, found, Time.isZero, positive]

theorem keyInv_start (dest : NotifyDest) (message : String) :
    KeyInv { cache := newAlarmCache } dest message where
  reserved := by simp [countFor, newAlarmCache]
  alternating := alternating_nil
  nonzero := by cases dest <;> simp [sent, newAlarmCache]
  recorded := by cases dest <;> simp [sent, newAlarmCache, edgesFor]
  kind := by simp

/-- A step that keeps the key's data keeps its invariant. -/
theorem KeyInv.frame {state after : Deliveries} {dest : NotifyDest} {message : String}
    (inv : KeyInv state dest message)
    (flying : message ∈ after.cache.inFlight dest ↔ message ∈ state.cache.inFlight dest)
    (recorded : (sent after.cache dest)[message]? = (sent state.cache dest)[message]?)
    (accepted : edgesFor after.accepted dest message = edgesFor state.accepted dest message)
    (granted : after.granted.filter (·.isFor dest message) =
      state.granted.filter (·.isFor dest message)) : KeyInv after dest message where
  reserved := by
    have reserved := inv.reserved
    simp only [countFor, List.countP_eq_length_filter, granted, flying] at reserved ⊢
    exact reserved
  alternating := accepted ▸ inv.alternating
  nonzero := recorded ▸ inv.nonzero
  recorded := by rw [recorded, accepted, inv.recorded]
  kind attempt member own := by
    rw [accepted]
    have kept : attempt ∈ state.granted.filter (·.isFor dest message) :=
      granted ▸ List.mem_filter.mpr ⟨member, own⟩
    exact inv.kind attempt (List.mem_filter.mp kept).1 own

/-- Another key's entry of the flight table does not matter. -/
private theorem mem_inFlight_other {cache : AlarmCache} {attempt : Attempt} {dest : NotifyDest}
    {message : String} (other : ¬ attempt.isFor dest message = true)
    {messages : Table String Unit}
    (same : ∀ key, attempt.msg.message ≠ key →
      (key ∈ messages ↔ key ∈ cache.inFlight attempt.dest)) :
    message ∈ Function.update cache.inFlight attempt.dest messages dest ↔
      message ∈ cache.inFlight dest := by
  by_cases at_dest : attempt.dest = dest
  · subst at_dest
    rw [Function.update_self]
    exact same message fun equal => other ((isFor_iff _ _ _).mpr ⟨rfl, equal⟩)
  · rw [Function.update_of_ne (Ne.symm at_dest)]

/-- Granting an attempt: it enters the flight table and nothing else moves. -/
theorem keyInv_reserve {state : Deliveries} {dest : NotifyDest} {message : String}
    (inv : KeyInv state dest message) (attempt : Attempt) (now : Instant) :
    KeyInv (deliveryStep state (.reserve attempt now)) dest message := by
  rcases reserveDelivery_cases state.cache now attempt.msg attempt.dest with
    refused | ⟨granted, free, kind, -⟩
  · simp only [deliveryStep, refused]
    exact inv
  · simp only [deliveryStep, granted]
    by_cases own : attempt.isFor dest message = true
    · obtain ⟨rfl, rfl⟩ := (isFor_iff _ _ _).mp own
      have none := inv.reserved
      simp only [free, if_false, countFor] at none
      refine ⟨?_, inv.alternating, by simpa using inv.nonzero, by simpa using inv.recorded, ?_⟩
      · simp [countFor, List.countP_append, none, own]
      · intro other member mine
        rcases List.mem_append.mp member with old | new
        · exact inv.kind other old mine
        · rw [List.mem_singleton.mp new, kind, timeAt_isZero _ _ inv.nonzero, inv.recorded,
            Bool.not_not]
    · apply inv.frame
      · exact mem_inFlight_other own fun key different => by
          simp [Std.ExtTreeMap.mem_insert, different]
      · simp
      · rfl
      · simp [List.filter_append, own]

private theorem eraseIdx_split {α : Type} {xs : List α} {index : Nat} {x : α}
    (found : xs[index]? = some x) :
    ∃ before after, xs = before ++ x :: after ∧ xs.eraseIdx index = before ++ after := by
  obtain ⟨bound, rfl⟩ := List.getElem?_eq_some_iff.mp found
  refine ⟨xs.take index, xs.drop (index + 1), ?_, List.eraseIdx_eq_take_drop_succ xs index⟩
  rw [List.getElem_cons_drop, List.take_append_drop]

/-- Completing an attempt: it leaves the flight table, and only an accepted one moves
the Sent map, to the state its kind stands for. -/
theorem keyInv_complete {state : Deliveries} {dest : NotifyDest} {message : String}
    (inv : KeyInv state dest message) (index : Nat) (accepted : Bool) (now : Instant) :
    KeyInv (deliveryStep state (.complete index accepted now)) dest message := by
  simp only [deliveryStep]
  cases found : state.granted[index]? with
  | none => exact inv
  | some attempt =>
    obtain ⟨before, after, whole, erased⟩ := eraseIdx_split found
    rw [erased]
    have member : attempt ∈ state.granted := whole ▸ by simp
    by_cases own : attempt.isFor dest message = true
    · obtain ⟨rfl, rfl⟩ := (isFor_iff _ _ _).mp own
      have kind := inv.kind attempt member own
      -- The attempt was the only one of its key, so none is left.
      have counted := inv.reserved
      have rest : countFor (before ++ after) attempt.dest attempt.msg.message = 0 := by
        simp only [whole, countFor, List.countP_append, List.countP_cons, own, if_true] at counted ⊢
        split at counted <;> omega
      refine ⟨by simp [rest], ?_, ?_, ?_, ?_⟩
      · cases accepted with
        | false => exact inv.alternating
        | true =>
          simp only [if_true, edgesFor, List.filter_append, List.filter_cons, own, List.filter_nil,
            List.map_append, List.map_cons, List.map_nil]
          exact inv.alternating.concat (by rw [kind])
      · rw [lookup_completeDelivery]
        split
        · split
          · simp
          · simpa using now.ne_zero
        · exact inv.nonzero
      · rw [lookup_completeDelivery]
        cases accepted with
        | false => simpa using inv.recorded
        | true =>
          simp only [and_self, if_true, edgesFor, List.filter_append, List.filter_cons, own,
            List.filter_nil, List.map_append, List.map_cons, List.map_nil, opened_concat]
          cases attempt.msg.resolved <;> rfl
      · intro other found mine
        have absent := List.countP_eq_zero.mp rest other found
        exact absurd mine absent
    · apply inv.frame
      · rw [inFlight_completeDelivery]
        exact mem_inFlight_other own fun key different => by
          simp [Std.ExtTreeMap.mem_erase, different]
      · rw [lookup_completeDelivery, if_neg]
        rintro ⟨-, rfl, rfl⟩
        exact own ((isFor_iff _ _ _).mpr ⟨rfl, rfl⟩)
      · cases accepted <;> simp [edgesFor, List.filter_append, own]
      · simp [whole, List.filter_append, own]

theorem keyInv_run (schedule : List DeliveryStep) (dest : NotifyDest) (message : String) :
    KeyInv (runDeliveries schedule) dest message := by
  unfold runDeliveries
  induction schedule using List.reverseRecOn with
  | nil => exact keyInv_start dest message
  | append_singleton earlier step ih =>
    rw [List.foldl_append, List.foldl_cons, List.foldl_nil]
    cases step with
    | reserve attempt now => exact keyInv_reserve ih attempt now
    | complete index accepted now => exact keyInv_complete ih index accepted now

/-- Under every schedule, for every destination and message: at most one granted
attempt is in flight, the accepted completions alternate from a trigger on, and the
Sent map holds the message exactly when the last of them was a trigger. -/
theorem delivery_protocol_safe (schedule : List DeliveryStep) (dest : NotifyDest)
    (message : String) :
    let state := runDeliveries schedule
    countFor state.granted dest message ≤ 1 ∧
    Alternating (edgesFor state.accepted dest message) ∧
    (message ∈ sent state.cache dest ↔ (edgesFor state.accepted dest message).getLast? = some true) := by
  intro state
  have inv : KeyInv state dest message := keyInv_run schedule dest message
  refine ⟨?_, inv.alternating, ?_⟩
  · rw [inv.reserved]
    split <;> omega
  · rw [Std.ExtTreeMap.mem_iff_isSome_getElem?, inv.recorded, Opened, List.getLastD_eq_getLast?]
    cases (edgesFor state.accepted dest message).getLast? <;> simp

end Seer.Alert
