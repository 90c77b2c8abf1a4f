import Seer.Alert.Sinks

/-!
# The notification worker

`Config.alert` builds an alert for a chain and puts it on the queue. One worker takes
the alerts in queue order and hands each to the four sinks, which run concurrently
and are waited for before the next alert. The critical sections of the four sinks
interleave freely; for any one destination the outcome is that of a sink call made
alone (`deliverAlert_alone`).
-/
namespace Seer.Alert

open Seer.Lib

/-- The message that `Config.alert` queues. `id` is the caller's dedup key, the
validator address when there is none. -/
def alert (config : Config) (chainName : String) (chain : ChainConfig) (message severity : String)
    (resolved : Bool) (id : Option String) : AlertMsg :=
  { pd := config.pagerduty.enabled && chain.alerts.pagerduty.enabled
    disc := config.discord.enabled && chain.alerts.discord.enabled
    tg := config.telegram.enabled && chain.alerts.telegram.enabled
    slk := config.slack.enabled && chain.alerts.slack.enabled
    severity := severity
    resolved := resolved
    chain := chainName
    message := message
    uniqueId := id.getD chain.valAddress
    key := chain.alerts.pagerduty.apiKey
    tgChannel := chain.alerts.telegram.channel
    tgKey := chain.alerts.telegram.apiKey
    tgMentions := " ".intercalate chain.alerts.telegram.mentions
    discHook := chain.alerts.discord.webhook
    discMentions := " ".intercalate chain.alerts.discord.mentions
    slkHook := chain.alerts.slack.webhook }

/-- Whether a chain's alerts go to a destination at all. -/
def reaches (config : Config) (chain : ChainConfig) (dest : NotifyDest) : Bool :=
  enabledAt (alert config "" chain "" "" false none) dest

theorem enabledAt_alert (config : Config) (name : String) (chain : ChainConfig)
    (message severity : String) (resolved : Bool) (id : Option String) (dest : NotifyDest) :
    enabledAt (alert config name chain message severity resolved id) dest =
      reaches config chain dest := by
  cases dest <;> rfl

/-- A queued alert and what its delivery meets: the remote answers, each sink's clock
readings, and the order in which the sinks' critical sections run. -/
structure Delivery where
  msg : AlertMsg
  network : Network := {}
  reserveAt : NotifyDest → Instant
  completeAt : NotifyDest → Instant
  order : List NotifyDest := []

/-- Where a sink stands within one call of `deliverAlert`. -/
inductive Phase where
  | waiting
  | reserved
  | finished
  deriving DecidableEq, Repr

/-- The state shared by the four sinks of one call of `deliverAlert`. -/
structure FanOut where
  cache : AlarmCache
  phase : NotifyDest → Phase := fun _ => .waiting
  requests : NotifyDest → List Request := fun _ => []

/-- The next critical section of one sink. -/
def sinkStep (delivery : Delivery) (state : FanOut) (dest : NotifyDest) : FanOut :=
  match state.phase dest with
  | .waiting =>
    if !enabledAt delivery.msg dest then
      { state with phase := Function.update state.phase dest .finished }
    else match reserveDelivery state.cache (delivery.reserveAt dest) delivery.msg dest with
      | (false, cache) =>
        { state with cache := cache, phase := Function.update state.phase dest .finished }
      | (true, cache) =>
        { state with cache := cache, phase := Function.update state.phase dest .reserved }
  | .reserved =>
    -- The requests go out with no lock held; the deferred completion takes it again.
    let attempted := attemptAt delivery.msg delivery.network dest
    { cache := completeDelivery state.cache (delivery.completeAt dest) delivery.msg dest
        attempted.accepted
      phase := Function.update state.phase dest .finished
      requests := Function.update state.requests dest attempted.requests }
  | .finished => state

/-- The order of the deliveries in the source, each with two critical sections. -/
def remainingSteps : List NotifyDest :=
  [.pd, .pd, .di, .di, .tg, .tg, .slk, .slk]

/-- Starts the four sinks and waits for all of them: after the steps of the given
order, what is still to do is done. -/
def deliverAlert (cache : AlarmCache) (delivery : Delivery) : FanOut :=
  (delivery.order ++ remainingSteps).foldl (sinkStep delivery) { cache := cache }

/-- The worker's cache and the requests made so far at each destination, oldest first,
each with the alert it was made for. -/
structure Worker where
  cache : AlarmCache
  requests : NotifyDest → List (AlertMsg × Request) := fun _ => []

def workerStep (worker : Worker) (delivery : Delivery) : Worker :=
  let done := deliverAlert worker.cache delivery
  { cache := done.cache
    requests := fun dest =>
      worker.requests dest ++ (done.requests dest).map fun request => (delivery.msg, request) }

def notificationWorker (cache : AlarmCache) (queue : List Delivery) : Worker :=
  queue.foldl workerStep { cache := cache }

/-! ## One destination at a time -/

/-- Two caches agree on everything a destination's sink reads or writes. -/
structure SameAt (dest : NotifyDest) (left right : AlarmCache) : Prop where
  opened : sent left dest = sent right dest
  flying : left.inFlight dest = right.inFlight dest
  accepted : dest = .pd → left.flappingAlarms = right.flappingAlarms

namespace SameAt

variable {dest other : NotifyDest} {left right third : AlarmCache}

theorem refl (dest : NotifyDest) (cache : AlarmCache) : SameAt dest cache cache :=
  ⟨rfl, rfl, fun _ => rfl⟩

theorem trans (first : SameAt dest left right) (second : SameAt dest right third) :
    SameAt dest left third :=
  ⟨first.opened.trans second.opened, first.flying.trans second.flying,
    fun paging => (first.accepted paging).trans (second.accepted paging)⟩

theorem setInFlight (same : SameAt dest left right) (messages : Table String Unit) :
    SameAt dest (Alert.setInFlight left dest messages) (Alert.setInFlight right dest messages) where
  opened := by simpa using same.opened
  flying := by simp
  accepted paging := by simpa using same.accepted paging

/-- The decision of a reservation, and its effect, depend on the destination's part. -/
theorem reserveDelivery (same : SameAt dest left right) (now : Instant) (msg : AlertMsg) :
    (Alert.reserveDelivery left now msg dest).1 = (Alert.reserveDelivery right now msg dest).1 ∧
    SameAt dest (Alert.reserveDelivery left now msg dest).2
      (Alert.reserveDelivery right now msg dest).2 := by
  -- Only the PagerDuty sink reads the flapping times, and `SameAt` covers them there.
  have steady : (dest == .pd && !msg.resolved && flapping left now msg) =
      (dest == .pd && !msg.resolved && flapping right now msg) := by
    by_cases paging : dest = .pd
    · simp only [flapping, same.accepted paging]
    · rw [beq_false_of_ne paging, Bool.false_and, Bool.false_and, Bool.false_and]
  unfold Alert.reserveDelivery
  rw [same.opened, same.flying, steady]
  split
  · exact ⟨rfl, same⟩
  · split
    · exact ⟨rfl, same⟩
    · split
      · exact ⟨rfl, same⟩
      · split
        · exact ⟨rfl, same⟩
        · exact ⟨rfl, same.setInFlight _⟩

end SameAt

theorem flappingAlarms_completeDelivery (cache : AlarmCache) (now : Instant) (msg : AlertMsg)
    (dest : NotifyDest) (accepted : Bool) :
    (completeDelivery cache now msg dest accepted).flappingAlarms =
      if accepted = true ∧ msg.resolved = false ∧ dest = .pd then
        recordFlapping cache.flappingAlarms now msg
      else cache.flappingAlarms := by
  cases accepted <;> cases resolved : msg.resolved <;> cases dest <;>
    simp [completeDelivery, resolved, setFlapping]

theorem SameAt.completeDelivery {dest : NotifyDest} {left right : AlarmCache}
    (same : SameAt dest left right) (now : Instant) (msg : AlertMsg) (accepted : Bool) :
    SameAt dest (Alert.completeDelivery left now msg dest accepted)
      (Alert.completeDelivery right now msg dest accepted) where
  opened := by rw [sent_completeDelivery, sent_completeDelivery, same.opened]
  flying := by simp [same.flying]
  accepted paging := by
    rw [flappingAlarms_completeDelivery, flappingAlarms_completeDelivery, same.accepted paging]

section Frame
variable (cache : AlarmCache) (now : Instant) (msg : AlertMsg) {dest other : NotifyDest}

/-- A reservation at one destination is invisible at the others. -/
theorem sameAt_reserveDelivery (elsewhere : other ≠ dest) :
    SameAt other (reserveDelivery cache now msg dest).2 cache := by
  rcases reserveDelivery_cases cache now msg dest with refused | ⟨granted, -⟩
  · rw [refused]
    exact .refl other cache
  · rw [granted]
    exact ⟨by simp, by simp [elsewhere], fun _ => rfl⟩

/-- So is a completion; only the PagerDuty sink touches the flapping times. -/
theorem sameAt_completeDelivery (accepted : Bool) (elsewhere : other ≠ dest) :
    SameAt other (completeDelivery cache now msg dest accepted) cache where
  opened := by simp [sent_completeDelivery, elsewhere]
  flying := by simp [elsewhere]
  accepted := by
    rintro rfl
    rw [flappingAlarms_completeDelivery, if_neg]
    rintro ⟨-, -, same⟩
    exact elsewhere same.symm

end Frame

/-- Deliveries leave the dashboard's map to `recordDashboardAlarm`. -/
theorem allAlarms_deliverAlert (cache : AlarmCache) (delivery : Delivery) :
    (deliverAlert cache delivery).cache.allAlarms = cache.allAlarms := by
  have step : ∀ state dest, (sinkStep delivery state dest).cache.allAlarms =
      state.cache.allAlarms := by
    intro state dest
    unfold sinkStep
    cases state.phase dest with
    | waiting =>
      dsimp only
      have kept := allAlarms_reserveDelivery state.cache (delivery.reserveAt dest) delivery.msg dest
      split
      · rfl
      · split
        next reservation => rwa [reservation] at kept
        next reservation => rwa [reservation] at kept
    | reserved => exact allAlarms_completeDelivery _ _ _ _ _
    | finished => rfl
  have run : ∀ (steps : List NotifyDest) (state : FanOut),
      (steps.foldl (sinkStep delivery) state).cache.allAlarms = state.cache.allAlarms := by
    intro steps
    induction steps with
    | nil => intro state; rfl
    | cons dest later ih => intro state; rw [List.foldl_cons, ih, step]
  exact run _ { cache := cache }

/-- The sink call for one destination of a delivery, with no other sink running. -/
def alone (cache : AlarmCache) (delivery : Delivery) (dest : NotifyDest) : Notified :=
  notify cache (delivery.reserveAt dest) (delivery.completeAt dest) delivery.network delivery.msg
    dest

/-- How far a sink is along its call made alone, whatever the others did meanwhile. -/
def SinkInv (cache : AlarmCache) (delivery : Delivery) (dest : NotifyDest) (state : FanOut) : Prop :=
  let reservation := reserveDelivery cache (delivery.reserveAt dest) delivery.msg dest
  match state.phase dest with
  | .waiting => SameAt dest state.cache cache ∧ state.requests dest = []
  | .reserved => enabledAt delivery.msg dest = true ∧ reservation.1 = true ∧
      SameAt dest state.cache reservation.2 ∧ state.requests dest = []
  | .finished => SameAt dest state.cache (alone cache delivery dest).cache ∧
      state.requests dest = (alone cache delivery dest).attempted.requests

section Alone
variable {cache : AlarmCache} {delivery : Delivery} {dest other : NotifyDest} {state : FanOut}

/-- A step of another sink changes nothing that this one sees. -/
theorem sinkStep_other (delivery : Delivery) (state : FanOut) (elsewhere : dest ≠ other) :
    let after := sinkStep delivery state other
    after.phase dest = state.phase dest ∧ after.requests dest = state.requests dest ∧
      SameAt dest after.cache state.cache := by
  dsimp only [sinkStep]
  cases state.phase other with
  | waiting =>
    dsimp only
    split
    · exact ⟨by simp [elsewhere], rfl, .refl dest _⟩
    · have frame := sameAt_reserveDelivery state.cache (delivery.reserveAt other) delivery.msg elsewhere
      split
      next reservation => exact ⟨by simp [elsewhere], rfl, by simpa [reservation] using frame⟩
      next reservation => exact ⟨by simp [elsewhere], rfl, by simpa [reservation] using frame⟩
  | reserved =>
    exact ⟨by simp [elsewhere], by simp [elsewhere],
      sameAt_completeDelivery state.cache _ delivery.msg _ elsewhere⟩
  | finished => exact ⟨rfl, rfl, .refl dest _⟩

theorem SinkInv.elsewhere (inv : SinkInv cache delivery dest state) (apart : dest ≠ other) :
    SinkInv cache delivery dest (sinkStep delivery state other) := by
  obtain ⟨phase, requests, same⟩ := sinkStep_other delivery state apart
  unfold SinkInv at inv ⊢
  rw [phase, requests]
  dsimp only at inv ⊢
  cases at_phase : state.phase dest with
  | waiting =>
    rw [at_phase] at inv
    exact ⟨same.trans inv.1, inv.2⟩
  | reserved =>
    rw [at_phase] at inv
    exact ⟨inv.1, inv.2.1, same.trans inv.2.2.1, inv.2.2.2⟩
  | finished =>
    rw [at_phase] at inv
    exact ⟨same.trans inv.1, inv.2⟩

/-- The sink's own step brings it forward along the call made alone. -/
theorem SinkInv.own (inv : SinkInv cache delivery dest state) :
    SinkInv cache delivery dest (sinkStep delivery state dest) := by
  unfold SinkInv at inv
  unfold sinkStep
  dsimp only at inv ⊢
  cases at_phase : state.phase dest with
  | waiting =>
    -- The shared cache may have moved since the call started, but not where this
    -- sink looks: its reservation is decided as it would be alone.
    rw [at_phase] at inv
    obtain ⟨same, requests⟩ := inv
    obtain ⟨decision, after⟩ := same.reserveDelivery (delivery.reserveAt dest) delivery.msg
    dsimp only
    split
    next disabled =>
      have disabled : enabledAt delivery.msg dest = false := by simpa using disabled
      simpa [SinkInv, alone, notify_disabled _ _ _ _ _ _ disabled] using ⟨same, requests⟩
    next enabled =>
      have enabled : enabledAt delivery.msg dest = true := by simpa using enabled
      split
      next refused =>
        rw [refused] at decision after
        have result := notify_refused cache _ (delivery.completeAt dest) delivery.network _ _
          enabled decision.symm
        simpa [SinkInv, alone, result] using ⟨after, requests⟩
      next granted =>
        rw [granted] at decision after
        simpa [SinkInv] using ⟨enabled, decision.symm, after, requests⟩
  | reserved =>
    rw [at_phase] at inv
    obtain ⟨enabled, granted, same, requests⟩ := inv
    have result := notify_granted cache _ (delivery.completeAt dest) delivery.network _ _
      enabled granted
    have after := same.completeDelivery (delivery.completeAt dest) delivery.msg
      (attemptAt delivery.msg delivery.network dest).accepted
    simpa [SinkInv, alone, result] using after
  | finished =>
    simpa [SinkInv, at_phase] using inv

theorem SinkInv.run (inv : SinkInv cache delivery dest state) (steps : List NotifyDest) :
    SinkInv cache delivery dest (steps.foldl (sinkStep delivery) state) := by
  induction steps generalizing state with
  | nil => exact inv
  | cons step later ih =>
    by_cases here : dest = step
    · subst here
      exact ih inv.own
    · exact ih (inv.elsewhere here)

/-- The critical sections a sink has at most before it. -/
def Phase.left : Phase → Nat
  | .waiting => 2
  | .reserved => 1
  | .finished => 0

theorem left_sinkStep (delivery : Delivery) (dest : NotifyDest) (state : FanOut) :
    ((sinkStep delivery state dest).phase dest).left ≤ (state.phase dest).left - 1 := by
  unfold sinkStep
  cases at_phase : state.phase dest with
  | waiting =>
    dsimp only
    split
    · simp [Phase.left]
    · split <;> simp [Phase.left]
  | reserved => simp [Phase.left]
  | finished => simp [Phase.left, at_phase]

/-- Every step of a sink counts towards its end. -/
theorem left_run (steps : List NotifyDest) (state : FanOut) :
    ((steps.foldl (sinkStep delivery) state).phase dest).left ≤
      (state.phase dest).left - steps.count dest := by
  induction steps generalizing state with
  | nil => simp
  | cons step later ih =>
    rw [List.foldl_cons]
    apply Nat.le_trans (ih _)
    by_cases here : step = dest
    · subst here
      have progress := left_sinkStep delivery step state
      rw [List.count_cons_self]
      omega
    · rw [List.count_cons_of_ne here, (sinkStep_other delivery state (Ne.symm here)).1]

end Alone

/-- Whatever the order of the critical sections, each destination ends up as after its
sink's call made alone, with the same requests. -/
theorem deliverAlert_alone (cache : AlarmCache) (delivery : Delivery) (dest : NotifyDest) :
    SameAt dest (deliverAlert cache delivery).cache (alone cache delivery dest).cache ∧
    (deliverAlert cache delivery).requests dest =
      (alone cache delivery dest).attempted.requests := by
  have start : SinkInv cache delivery dest { cache := cache } := ⟨.refl dest cache, rfl⟩
  have inv := start.run (delivery.order ++ remainingSteps)
  -- Two steps finish any sink, and the wait group leaves at least two to each.
  have steps : 2 ≤ (delivery.order ++ remainingSteps).count dest := by
    have tail : remainingSteps.count dest = 2 := by cases dest <;> decide
    rw [List.count_append, tail]
    omega
  have done : ((deliverAlert cache delivery).phase dest) = .finished := by
    have bound : ((deliverAlert cache delivery).phase dest).left ≤ 2 - _ :=
      left_run (delivery.order ++ remainingSteps) { cache := cache }
    cases at_phase : (deliverAlert cache delivery).phase dest with
    | waiting => simp only [at_phase, Phase.left] at bound; omega
    | reserved => simp only [at_phase, Phase.left] at bound; omega
    | finished => rfl
  unfold SinkInv at inv
  rw [← deliverAlert, done] at inv
  exact inv

end Seer.Alert
