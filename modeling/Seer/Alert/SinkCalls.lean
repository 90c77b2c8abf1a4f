import Seer.Alert.Worker

/-!
# Sink calls as programs

The four sinks with their exits in program order: the variable `accepted` that the
deferred `completeDelivery` reads, every attempt and every outcome observed. `notify` only
says what such a call comes to; here the order of its events is kept.
-/
namespace Seer.Alert

open Seer.Lib

/-- What one attempt met: for a webhook also the status it accepts. -/
inductive Answer where
  | http (wanted : Nat) (result : HttpResult)
  | telegram (result : TelegramResult)
  | pagerDuty (result : PagerDutyResult)
  deriving DecidableEq

/-- What an attempt comes to. A refusal of the remote side is a rejection, all other
failures are transport errors. -/
def Answer.outcome : Answer → Observed
  | .http _ .marshalFailed => .transportError
  | .http _ .requestFailed => .transportError
  | .http _ .transportFailed => .transportError
  | .http wanted (.status code) => if code = wanted then .accepted else .rejected
  | .telegram (.botFailed api) => if api then .rejected else .transportError
  | .telegram (.sendFailed api) => if api then .rejected else .transportError
  | .telegram .ok => .accepted
  | .pagerDuty (.failed api) => if api then .rejected else .transportError
  | .pagerDuty .ok => .accepted

inductive SinkEvent where
  | attempt (answer : Answer)
  | observe (outcome : Observed)
  deriving DecidableEq

/-- The variables of a running sink. -/
structure Running where
  accepted : Bool := false
  events : List SinkEvent := []

/-- The part of a sink between reservation and return. -/
abbrev Sink := ExceptT NotifyError (StateM Running)

namespace Sink

def emit (event : SinkEvent) : Sink Unit :=
  modify fun running => { running with events := running.events ++ [event] }

def attempt (answer : Answer) : Sink Unit := emit (.attempt answer)

def observeAccepted : Sink Unit := emit (.observe .accepted)

def accept : Sink Unit := do
  modify fun running => { running with accepted := true }
  observeAccepted

/-- `return s.observeError(destination, err)`. -/
def fail (error : NotifyError) : Sink Unit := do
  emit (.observe (observeError error))
  throw error

end Sink

open Sink

def webhookBody (destination : String) (wanted : Nat) (result : HttpResult) : Sink Unit := do
  attempt (.http wanted result)
  match result with
  | .marshalFailed => fail (.transport destination)
  | .requestFailed => fail (.transport destination)
  | .transportFailed => fail (.transport destination)
  -- Discord answers 204 and Slack 200; any other status is a refusal.
  | .status code => if code ≠ wanted then fail (.http destination code) else accept

def telegramBody (result : TelegramResult) : Sink Unit := do
  attempt (.telegram result)
  match result with
  | .botFailed api => fail (classifyTelegramError api)
  | .sendFailed api => fail (classifyTelegramError api)
  | .ok => accept

/-- The retry loop: `lastErr` is returned when no attempt is left. -/
def pagerDutyBody (lastErr : Option NotifyError) : List PagerDutyResult → Sink Unit
  | [] => match lastErr with
    | some error => throw error
    | none => pure ()
  | result :: later => do
    attempt (.pagerDuty result)
    match result with
    | .ok => accept
    | .failed api =>
      -- Observed at once and returned only if the loop ends here.
      let error := classifyPagerDutyError api
      emit (.observe (observeError error))
      pagerDutyBody (some error) later

def sinkBody (network : Network) : NotifyDest → Sink Unit
  | .pd => pagerDutyBody none [network.pagerDuty.1, network.pagerDuty.2]
  | .di => webhookBody "discord" 204 network.discord
  | .tg => telegramBody network.telegram
  | .slk => webhookBody "slack" 200 network.slack

/-- Runs a sink's body: the error it returns, if any, and its variables at that point. -/
def Sink.exec (body : Sink Unit) (running : Running) : Option NotifyError × Running :=
  match body.run.run running with
  | (.error error, after) => (some error, after)
  | (.ok (), after) => (none, after)

structure Called where
  cache : AlarmCache
  events : List SinkEvent := []
  err : Option NotifyError := none

/-- A whole sink call. The completion is deferred, so it sees the last value of `accepted`. -/
def sinkCall (cache : AlarmCache) (reserveAt completeAt : Instant) (network : Network)
    (msg : AlertMsg) (dest : NotifyDest) : Called :=
  if !enabledAt msg dest then { cache := cache }
  else match reserveDelivery cache reserveAt msg dest with
    | (false, cache) => { cache := cache }
    | (true, cache) =>
      let (err, running) := (sinkBody network dest).exec {}
      { cache := completeDelivery cache completeAt msg dest running.accepted
        events := running.events
        err := err }

section Exec
variable (running : Running)

theorem exec_attempt (answer : Answer) (rest : Sink Unit) :
    (do attempt answer; rest).exec running =
      rest.exec { running with events := running.events ++ [.attempt answer] } := rfl

theorem exec_emit (event : SinkEvent) (rest : Sink Unit) :
    (do emit event; rest).exec running =
      rest.exec { running with events := running.events ++ [event] } := rfl

theorem exec_accept : accept.exec running =
    (none, { accepted := true, events := running.events ++ [.observe .accepted] }) := rfl

theorem exec_fail (error : NotifyError) : (fail error).exec running =
    (some error, { running with events := running.events ++ [.observe (observeError error)] }) :=
  rfl

end Exec

/-! ## The bodies report what they meet -/

/-- An attempt and then its outcome. -/
def report (answer : Answer) : List SinkEvent := [.attempt answer, .observe answer.outcome]

/-- At most so many failed attempts, each reported, and a last one that decides: it is
accepted if and only if the variable says so, and if and only if no error is returned. -/
def Reported (retries : Nat) (earlier : List SinkEvent) (err : Option NotifyError)
    (running : Running) : Prop :=
  ∃ failed last, running.events = earlier ++ (failed ++ [last]).flatMap report ∧
    failed.length ≤ retries ∧ (∀ answer ∈ failed, answer.outcome ≠ .accepted) ∧
    (last.outcome = .accepted ↔ running.accepted = true) ∧
    (err = none ↔ running.accepted = true)

section Reports
variable {retries : Nat} {earlier : List SinkEvent} {answer : Answer}

/-- After an attempt that is accepted. -/
theorem reported_accept (accepted : answer.outcome = .accepted) :
    let done := accept.exec { events := earlier ++ [.attempt answer] }
    Reported retries earlier done.1 done.2 := by
  refine ⟨[], answer, ?_, by simp, by simp, ?_, ?_⟩
  · simp [exec_accept, report, accepted]
  · simp [exec_accept, accepted]
  · simp [exec_accept]

/-- After an attempt whose failure is the one the returned error stands for. -/
theorem reported_fail {error : NotifyError} (outcome : answer.outcome = observeError error) :
    let done := (fail error).exec { events := earlier ++ [.attempt answer] }
    Reported retries earlier done.1 done.2 := by
  have failed : observeError error ≠ .accepted := by cases error <;> simp [observeError]
  refine ⟨[], answer, ?_, by simp, by simp, ?_, ?_⟩
  · simp [exec_fail, report, outcome]
  · simp [exec_fail, outcome, failed]
  · simp [exec_fail]

/-- A failed attempt before a body that reports. -/
theorem Reported.retry {err : Option NotifyError} {running : Running}
    (reported : Reported retries (earlier ++ report answer) err running)
    (failure : answer.outcome ≠ .accepted) : Reported (retries + 1) earlier err running := by
  obtain ⟨failed, last, events, few, failures, accepted, returned⟩ := reported
  refine ⟨answer :: failed, last, ?_, ?_, ?_, accepted, returned⟩
  · simpa [report] using events
  · simpa using few
  · intro other there
    rcases List.mem_cons.mp there with rfl | later
    · exact failure
    · exact failures other later

variable (earlier)

theorem webhookBody_reported (destination : String) (wanted : Nat) (result : HttpResult) :
    let done := (webhookBody destination wanted result).exec { events := earlier }
    Reported 0 earlier done.1 done.2 := by
  dsimp only [webhookBody]
  rw [exec_attempt]
  -- One attempt, and each exit of the function is a failure or the acceptance.
  cases result with
  | marshalFailed => exact reported_fail rfl
  | requestFailed => exact reported_fail rfl
  | transportFailed => exact reported_fail rfl
  | status code =>
    dsimp only
    split
    next other => exact reported_fail (by simp [Answer.outcome, other, observeError])
    next same => exact reported_accept (by simpa [Answer.outcome] using same)

theorem telegramBody_reported (result : TelegramResult) :
    let done := (telegramBody result).exec { events := earlier }
    Reported 0 earlier done.1 done.2 := by
  dsimp only [telegramBody]
  rw [exec_attempt]
  cases result with
  | botFailed api => exact reported_fail (by cases api <;> rfl)
  | sendFailed api => exact reported_fail (by cases api <;> rfl)
  | ok => exact reported_accept rfl

theorem pagerDutyOutcome (api : Bool) :
    (Answer.pagerDuty (.failed api)).outcome = observeError (classifyPagerDutyError api) := by
  cases api <;> rfl

/-- The loop makes one attempt after another until one is accepted or none is left. -/
theorem pagerDutyBody_reported (lastErr : Option NotifyError) (result : PagerDutyResult)
    (later : List PagerDutyResult) :
    let done := (pagerDutyBody lastErr (result :: later)).exec { events := earlier }
    Reported later.length earlier done.1 done.2 := by
  -- On the answers still to come; what was reported so far is generalised with them.
  induction later generalizing earlier lastErr result with
  | nil =>
    cases result with
    | ok => exact reported_accept rfl
    | failed api => exact reported_fail (pagerDutyOutcome api)
  | cons next later ih =>
    cases result with
    | ok => exact reported_accept rfl
    | failed api =>
      dsimp only
      rw [pagerDutyBody, exec_attempt, exec_emit]
      have failure : (Answer.pagerDuty (.failed api)).outcome ≠ .accepted := by
        cases api <;> simp [Answer.outcome]
      -- The rest of the loop starts with this attempt already reported.
      have rest := ih (earlier ++ report (.pagerDuty (.failed api)))
        (some (classifyPagerDutyError api)) next
      exact Reported.retry (by simpa [report, pagerDutyOutcome] using rest) failure

theorem sinkBody_reported (network : Network) (dest : NotifyDest) :
    let done := (sinkBody network dest).exec {}
    Reported (if dest = .pd then 1 else 0) [] done.1 done.2 := by
  cases dest with
  | pd => exact pagerDutyBody_reported [] none network.pagerDuty.1 [network.pagerDuty.2]
  | tg => exact telegramBody_reported [] network.telegram
  | di => exact webhookBody_reported [] "discord" 204 network.discord
  | slk => exact webhookBody_reported [] "slack" 200 network.slack

end Reports

/-! ## The calls made alone -/

def SinkEvent.observed : SinkEvent → Option Observed
  | .attempt _ => none
  | .observe outcome => some outcome

/-- A body and `attemptAt` come to the same. -/
theorem sinkBody_attemptAt (msg : AlertMsg) (network : Network) (dest : NotifyDest) :
    let done := (sinkBody network dest).exec {}
    let attempted := attemptAt msg network dest
    done.1 = attempted.err ∧ done.2.accepted = attempted.accepted ∧
      done.2.events.filterMap SinkEvent.observed = attempted.observed := by
  -- Discord and Slack share the argument.
  have webhook : ∀ destination wanted request result,
      let done := (webhookBody destination wanted result).exec {}
      let attempted := httpAttempt destination wanted request result
      done.1 = attempted.err ∧ done.2.accepted = attempted.accepted ∧
        done.2.events.filterMap SinkEvent.observed = attempted.observed := by
    intro destination wanted request result
    cases result with
    | marshalFailed | requestFailed | transportFailed => exact ⟨rfl, rfl, rfl⟩
    | status code =>
      dsimp only [webhookBody, httpAttempt]
      rw [exec_attempt]
      dsimp only
      split
      · exact ⟨rfl, rfl, rfl⟩
      · exact ⟨rfl, rfl, rfl⟩
  cases dest with
  | di => exact webhook ..
  | slk => exact webhook ..
  | tg => cases result : network.telegram <;> simp only [sinkBody, attemptAt, result] <;>
      exact ⟨rfl, rfl, rfl⟩
  | pd =>
    rcases answers : network.pagerDuty with ⟨_ | _, _ | _⟩ <;>
      simp only [sinkBody, attemptAt, answers] <;> exact ⟨rfl, rfl, rfl⟩

section Calls
variable (cache : AlarmCache) (reserveAt completeAt : Instant) (network : Network) (msg : AlertMsg)
  (dest : NotifyDest)

/-- A call is refused without effect, or is a reservation, the body and a completion. -/
theorem sinkCall_cases :
    sinkCall cache reserveAt completeAt network msg dest = { cache := cache } ∨
    ((reserveDelivery cache reserveAt msg dest =
        (true, setInFlight cache dest ((cache.inFlight dest).insert msg.message ())) ∧
      msg.message ∉ cache.inFlight dest ∧
      msg.resolved = !(timeAt (sent cache dest) msg.message).isZero) ∧
    sinkCall cache reserveAt completeAt network msg dest =
      let done := (sinkBody network dest).exec {}
      { cache := completeDelivery (reserveDelivery cache reserveAt msg dest).2 completeAt msg dest
          done.2.accepted
        events := done.2.events
        err := done.1 }) := by
  unfold sinkCall
  split
  · exact .inl rfl
  · rcases reserveDelivery_cases cache reserveAt msg dest with refused | ⟨granted, free, edge, -⟩
    · rw [refused]
      exact .inl rfl
    · rw [granted]
      exact .inr ⟨⟨rfl, free, edge⟩, rfl⟩

/-- Seen from outside, the program is the sink call that `notify` describes. -/
theorem sinkCall_notify :
    let done := sinkCall cache reserveAt completeAt network msg dest
    let notified := notify cache reserveAt completeAt network msg dest
    done.cache = notified.cache ∧ done.err = notified.attempted.err ∧
      done.events.filterMap SinkEvent.observed = notified.attempted.observed := by
  obtain ⟨err, accepted, observed⟩ := sinkBody_attemptAt msg network dest
  dsimp only [sinkCall, notify]
  rw [← accepted]
  split
  · exact ⟨rfl, rfl, rfl⟩
  · rcases reserveDelivery cache reserveAt msg dest with ⟨_ | _, after⟩
    · exact ⟨rfl, rfl, rfl⟩
    · exact ⟨rfl, err, observed⟩

/-- An accepted edge is one that the Sent map has to be changed for. -/
theorem accepted_changes (edge : msg.resolved = !(timeAt (sent cache dest) msg.message).isZero) :
    (if msg.resolved then (sent cache dest).erase msg.message
      else (sent cache dest).insert msg.message completeAt) ≠ sent cache dest := by
  intro same
  have entry : timeAt _ msg.message = timeAt (sent cache dest) msg.message :=
    congrArg (timeAt · msg.message) same
  cases resolved : msg.resolved with
  | true =>
    have absent : timeAt (sent cache dest) msg.message = 0 := by
      simpa [resolved, timeAt] using entry.symm
    simp [resolved, absent, Time.isZero] at edge
  | false =>
    have present : timeAt (sent cache dest) msg.message = completeAt.val := by
      simpa [resolved, timeAt] using entry.symm
    simp [resolved, present, Time.isZero, completeAt.ne_zero] at edge

end Calls

/-- The law of a sink call, for every message, cache and network. Either it makes no
attempt and has no effect, or every attempt is followed by its outcome, only the last can
be accepted, and the call returns no error if and only if it was accepted, if and only if
the destination's Sent map has changed, by this message alone. A failure leaves the Sent
maps and the flapping times as they were, and no reservation is left behind. -/
theorem sink_call_atomic (cache : AlarmCache) (reserveAt completeAt : Instant) (network : Network)
    (msg : AlertMsg) (dest : NotifyDest) :
    let done := sinkCall cache reserveAt completeAt network msg dest
    (done.events = [] ∧ done.err = none ∧ done.cache = cache) ∨
    ∃ failed last,
      done.events = (failed ++ [last]).flatMap report ∧
      failed.length ≤ (if dest = .pd then 1 else 0) ∧
      (∀ answer ∈ failed, answer.outcome ≠ .accepted) ∧
      (done.err = none ↔ last.outcome = .accepted) ∧
      (last.outcome = .accepted ↔ sent done.cache dest ≠ sent cache dest) ∧
      (last.outcome = .accepted → sent done.cache dest =
        if msg.resolved then (sent cache dest).erase msg.message
        else (sent cache dest).insert msg.message completeAt) ∧
      (∀ other, other ≠ dest → sent done.cache other = sent cache other) ∧
      (last.outcome ≠ .accepted →
        sent done.cache = sent cache ∧ done.cache.flappingAlarms = cache.flappingAlarms) ∧
      done.cache.inFlight = cache.inFlight := by
  dsimp only
  rcases sinkCall_cases cache reserveAt completeAt network msg dest with
    refused | ⟨⟨granted, free, edge⟩, result⟩
  · rw [refused]
    exact .inl ⟨rfl, rfl, rfl⟩
  · obtain ⟨failed, last, events, few, failures, accepted, returned⟩ :=
      sinkBody_reported network dest
    rw [result, granted]
    -- The Sent maps of the completed cache, once and for all destinations.
    have after := sent_completeDelivery
      (setInFlight cache dest ((cache.inFlight dest).insert msg.message ())) completeAt msg dest
      ((sinkBody network dest).exec {}).2.accepted
    simp only [sent_setInFlight, ← accepted] at after
    refine .inr ⟨failed, last, by simpa using events, few, failures, returned.trans accepted.symm,
      ?_, ?_, ?_, ?_, inFlight_released _ _ _ _ free _⟩
    · constructor
      · intro success
        rw [after, if_pos ⟨success, rfl⟩]
        exact accepted_changes cache completeAt msg dest edge
      · intro changed
        by_contra failure
        rw [after, if_neg fun both => failure both.1] at changed
        exact changed rfl
    · intro success
      rw [after, if_pos ⟨success, rfl⟩]
    · intro other elsewhere
      rw [after, if_neg fun both => elsewhere both.2]
    · intro failure
      constructor
      · funext other
        rw [after, if_neg fun both => failure both.1]
      · rw [flappingAlarms_completeDelivery, if_neg fun all => failure (accepted.mpr all.1)]
        rfl

end Seer.Alert
