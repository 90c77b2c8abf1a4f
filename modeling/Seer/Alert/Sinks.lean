import Seer.Alert.Cache

/-!
# The four notification sinks

Each sink checks its flag, reserves the delivery, tries the remote service and
completes the reservation on every exit. What the remote side answers is an input.
-/
namespace Seer.Alert

def brandName : String := "NosNode🔮"

structure Attachment where
  text : String := ""
  color : String := ""
  title : String := ""
  titleLink : String := ""
  deriving DecidableEq

structure SlackMessage where
  text : String
  attachments : List Attachment
  deriving DecidableEq

def buildSlackMessage (msg : AlertMsg) : SlackMessage :=
  let title := fun marker =>
    brandName ++ " " ++ marker ++ " " ++ msg.chain ++ " " ++ msg.slkMentions
  if msg.resolved then
    { text := "OK: " ++ msg.message
      attachments := [{ title := title "💜 Resolved: ", color := "good" }] }
  else
    { text := msg.message
      attachments := [{ title := title "🚨 ALERT: ", color := "danger" }] }

structure DiscordEmbed where
  title : String := ""
  url : String := ""
  description : String
  color : Nat := 0
  deriving DecidableEq

structure DiscordMessage where
  username : String
  avatarUrl : String := ""
  content : String
  embeds : List DiscordEmbed
  deriving DecidableEq

/-- The marker in front of Discord and Telegram texts. -/
def alertMarker (msg : AlertMsg) : String :=
  if msg.resolved then "💜 Resolved: " else "🚨 ALERT: "

def buildDiscordMessage (msg : AlertMsg) : DiscordMessage :=
  { username := brandName
    content := alertMarker msg ++ msg.chain
    embeds := [{ description := msg.message }] }

def buildTelegramText (msg : AlertMsg) : String :=
  brandName ++ " " ++ msg.chain ++ ": " ++ alertMarker msg ++ " - " ++ msg.message

structure V2Payload where
  summary : String
  source : String
  severity : String
  deriving DecidableEq

structure V2Event where
  routingKey : String
  action : String
  dedupKey : String
  payload : V2Payload
  deriving DecidableEq

def buildPagerDutyEvent (msg : AlertMsg) : V2Event :=
  { routingKey := msg.key
    action := if msg.resolved then "resolve" else "trigger"
    dedupKey := msg.uniqueId
    payload := { summary := brandName ++ ": " ++ msg.message
                 source := msg.uniqueId
                 severity := msg.severity } }

/-- What a sink sends out. -/
inductive Request where
  | slack (hook : String) (body : SlackMessage)
  | discord (hook : String) (body : DiscordMessage)
  | telegramBot (token : String)
  | telegram (token channel text : String)
  | pagerDuty (event : V2Event)
  deriving DecidableEq

inductive NotifyError where
  | transport (destination : String)
  | api (destination : String)
  | http (destination : String) (status : Nat)
  deriving DecidableEq, Repr

def NotifyError.message : NotifyError → String
  | .transport destination => destination ++ " notification transport failed"
  | .api destination => destination ++ " notification rejected by remote API"
  | .http destination status =>
    destination ++ " notification rejected with HTTP status " ++ toString status

/-- The outcome label counted for one attempt. -/
inductive Observed where
  | accepted
  | rejected
  | transportError
  deriving DecidableEq, Repr

/-- `observeError`: only a transport error is not a rejection. -/
def observeError : NotifyError → Observed
  | .transport _ => .transportError
  | .api _ => .rejected
  | .http _ _ => .rejected

/-- A webhook post as the sink sees it. -/
inductive HttpResult where
  | marshalFailed
  | requestFailed
  | transportFailed
  | status (code : Nat)
  deriving DecidableEq, Repr

/-- A Telegram send: opening the bot or sending may fail, with an API error or another. -/
inductive TelegramResult where
  | botFailed (api : Bool)
  | sendFailed (api : Bool)
  | ok
  deriving DecidableEq, Repr

/-- One call of the PagerDuty client. -/
inductive PagerDutyResult where
  | failed (api : Bool)
  | ok
  deriving DecidableEq, Repr

/-- What a sink did between reservation and completion. -/
structure Attempted where
  requests : List Request := []
  observed : List Observed := []
  accepted : Bool := false
  err : Option NotifyError := none

def Attempted.success (requests : List Request) : Attempted :=
  { requests := requests, observed := [.accepted], accepted := true }

def Attempted.failure (requests : List Request) (error : NotifyError) : Attempted :=
  { requests := requests, observed := [observeError error], err := some error }

/-- The shared body of the two webhook sinks, `wanted` being the accepting status.
Nothing is sent when the body or the request cannot be built. -/
def httpAttempt (destination : String) (wanted : Nat) (request : Request) : HttpResult → Attempted
  | .marshalFailed => .failure [] (.transport destination)
  | .requestFailed => .failure [] (.transport destination)
  | .transportFailed => .failure [request] (.transport destination)
  | .status code =>
    if code ≠ wanted then .failure [request] (.http destination code) else .success [request]

def slackAttempt (msg : AlertMsg) : HttpResult → Attempted :=
  httpAttempt "slack" 200 (.slack msg.slkHook (buildSlackMessage msg))

def discordAttempt (msg : AlertMsg) : HttpResult → Attempted :=
  httpAttempt "discord" 204 (.discord msg.discHook (buildDiscordMessage msg))

def classifyTelegramError (api : Bool) : NotifyError :=
  if api then .api "telegram" else .transport "telegram"

def telegramAttempt (msg : AlertMsg) (result : TelegramResult) : Attempted :=
  let opening := Request.telegramBot msg.tgKey
  let sending := Request.telegram msg.tgKey msg.tgChannel (buildTelegramText msg)
  match result with
  | .botFailed api => .failure [opening] (classifyTelegramError api)
  | .sendFailed api => .failure [opening, sending] (classifyTelegramError api)
  | .ok => .success [opening, sending]

def classifyPagerDutyError (api : Bool) : NotifyError :=
  if api then .api "pagerduty" else .transport "pagerduty"

/-- The retry loop of `notifyPagerduty`, over the answers to its two attempts. -/
def pagerDutyAttempts (msg : AlertMsg) : List PagerDutyResult → Attempted
  | [] => {}
  | .ok :: _ => .success [.pagerDuty (buildPagerDutyEvent msg)]
  | .failed api :: later =>
    let failed := Attempted.failure [.pagerDuty (buildPagerDutyEvent msg)]
      (classifyPagerDutyError api)
    if later.isEmpty then failed
    else
      let retried := pagerDutyAttempts msg later
      { retried with
        requests := failed.requests ++ retried.requests
        observed := failed.observed ++ retried.observed }

/-- The remote side's answers to one alert. -/
structure Network where
  pagerDuty : PagerDutyResult × PagerDutyResult := (.ok, .ok)
  discord : HttpResult := .status 204
  telegram : TelegramResult := .ok
  slack : HttpResult := .status 200
  deriving DecidableEq

def attemptAt (msg : AlertMsg) (network : Network) : NotifyDest → Attempted
  | .pd => pagerDutyAttempts msg [network.pagerDuty.1, network.pagerDuty.2]
  | .di => discordAttempt msg network.discord
  | .tg => telegramAttempt msg network.telegram
  | .slk => slackAttempt msg network.slack

/-- With every remote side accepting, each sink sends and is accepted. -/
theorem attemptAt_default (msg : AlertMsg) (dest : NotifyDest) :
    (attemptAt msg {} dest).accepted = true ∧ (attemptAt msg {} dest).requests ≠ [] := by
  cases dest <;> simp [attemptAt, pagerDutyAttempts, discordAttempt, telegramAttempt, slackAttempt,
    httpAttempt, Attempted.success]

/-- The key of the example configuration, never sent to PagerDuty. -/
def exampleKey : String := "aaaaaaaaaaaabbbbbbbbbbbbbcccccccccccc"

/-- The checks a sink makes before it asks for a reservation. -/
def enabledAt (msg : AlertMsg) : NotifyDest → Bool
  | .pd => msg.pd && msg.key != exampleKey
  | .di => msg.disc
  | .tg => msg.tg
  | .slk => msg.slk

/-- The result of one sink call. -/
structure Notified where
  cache : AlarmCache
  attempted : Attempted := {}

/-- A sink call that no other call overlaps. -/
def notify (cache : AlarmCache) (reserveAt completeAt : Instant) (network : Network)
    (msg : AlertMsg) (dest : NotifyDest) : Notified :=
  if !enabledAt msg dest then { cache := cache }
  else match reserveDelivery cache reserveAt msg dest with
    | (false, cache) => { cache := cache }
    | (true, cache) =>
      let attempted := attemptAt msg network dest
      { cache := completeDelivery cache completeAt msg dest attempted.accepted
        attempted := attempted }

section Outcomes
variable (cache : AlarmCache) (reserveAt completeAt : Instant) (network : Network) (msg : AlertMsg)
  (dest : NotifyDest)

theorem notify_disabled (disabled : enabledAt msg dest = false) :
    notify cache reserveAt completeAt network msg dest = { cache := cache } := by
  simp [notify, disabled]

theorem notify_refused (enabled : enabledAt msg dest = true)
    (refused : (reserveDelivery cache reserveAt msg dest).1 = false) :
    notify cache reserveAt completeAt network msg dest =
      { cache := (reserveDelivery cache reserveAt msg dest).2 } := by
  unfold notify
  generalize reserveDelivery cache reserveAt msg dest = reservation at refused ⊢
  obtain ⟨decision, after⟩ := reservation
  obtain rfl : decision = false := refused
  simp [enabled]

theorem notify_granted (enabled : enabledAt msg dest = true)
    (granted : (reserveDelivery cache reserveAt msg dest).1 = true) :
    notify cache reserveAt completeAt network msg dest =
      { cache := completeDelivery (reserveDelivery cache reserveAt msg dest).2 completeAt msg dest
          (attemptAt msg network dest).accepted
        attempted := attemptAt msg network dest } := by
  unfold notify
  generalize reserveDelivery cache reserveAt msg dest = reservation at granted ⊢
  obtain ⟨decision, after⟩ := reservation
  obtain rfl : decision = true := granted
  simp [enabled]

/-- A sink gives its reservation back on every exit. -/
theorem inFlight_notify :
    (notify cache reserveAt completeAt network msg dest).cache.inFlight = cache.inFlight := by
  cases enabled : enabledAt msg dest with
  | false => rw [notify_disabled _ _ _ _ _ _ enabled]
  | true =>
    rcases reserveDelivery_cases cache reserveAt msg dest with refused | ⟨granted, free, -⟩
    · rw [notify_refused _ _ _ _ _ _ enabled (by rw [refused]), refused]
    · rw [notify_granted _ _ _ _ _ _ enabled (by rw [granted]), granted]
      exact inFlight_released _ _ _ _ free _

end Outcomes

def notifyPagerduty (cache : AlarmCache) (reserveAt completeAt : Instant) (network : Network)
    (msg : AlertMsg) : Notified :=
  notify cache reserveAt completeAt network msg .pd

def notifyDiscord (cache : AlarmCache) (reserveAt completeAt : Instant) (network : Network)
    (msg : AlertMsg) : Notified :=
  notify cache reserveAt completeAt network msg .di

def notifyTg (cache : AlarmCache) (reserveAt completeAt : Instant) (network : Network)
    (msg : AlertMsg) : Notified :=
  notify cache reserveAt completeAt network msg .tg

def notifySlack (cache : AlarmCache) (reserveAt completeAt : Instant) (network : Network)
    (msg : AlertMsg) : Notified :=
  notify cache reserveAt completeAt network msg .slk

end Seer.Alert
