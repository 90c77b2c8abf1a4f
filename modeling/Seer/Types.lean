import Seer.Go
import Seer.Lib.Table

/-!
# Configuration and run-time records

Fields keep the source's names. Mutexes, network handles and channels are left
out: the steps of the model say which of them exclude each other.
-/
namespace Seer

open Seer.Lib

structure PDConfig where
  enabled : Bool := false
  apiKey : String := ""
  defaultSeverity : String := ""
  deriving DecidableEq

structure DiscordConfig where
  enabled : Bool := false
  webhook : String := ""
  mentions : List String := []
  deriving DecidableEq

structure TeleConfig where
  enabled : Bool := false
  apiKey : String := ""
  channel : String := ""
  mentions : List String := []
  deriving DecidableEq

structure SlackConfig where
  enabled : Bool := false
  webhook : String := ""
  mentions : List String := []
  deriving DecidableEq

/-- Which alerts a chain raises and where they go. -/
structure AlertConfig where
  stalled : Int := 0
  stalledAlerts : Bool := false
  consecutiveMissed : Int := 0
  consecutivePriority : String := ""
  consecutiveAlerts : Bool := false
  /-- Percentage of the slashing window. -/
  window : Int := 0
  percentagePriority : String := ""
  percentageAlerts : Bool := false
  alertIfInactive : Bool := false
  alertIfNoServers : Bool := false
  pagerdutyAlerts : Bool := false
  discordAlerts : Bool := false
  telegramAlerts : Bool := false
  pagerduty : PDConfig := {}
  discord : DiscordConfig := {}
  telegram : TeleConfig := {}
  slack : SlackConfig := {}
  deriving DecidableEq

/-- Validator data of one refresh. -/
structure ValInfo where
  moniker : String := ""
  bonded : Bool := false
  jailed : Bool := false
  tombstoned : Bool := false
  missed : Int := 0
  window : Int := 0
  conspub : List UInt8 := []
  valcons : String := ""
  deriving DecidableEq

/-- A configured RPC endpoint with its health flags. -/
structure NodeConfig where
  url : String
  alertIfDown : Bool := false
  down : Bool := false
  wasDown : Bool := false
  syncing : Bool := false
  lastMsg : String := ""
  downSince : Time := 0
  deriving DecidableEq

/-- The fields guarded by `alertStateMux`. -/
structure AlertState where
  lastBlockTime : Time := 0
  lastBlockAlarm : Bool := false
  stalledResolutionPending : Bool := false
  percentageAlarm : Bool := false
  deriving DecidableEq

/-- The validator snapshots guarded by `monitoringMux`. -/
structure Monitoring where
  valInfo : Option ValInfo := none
  lastValInfo : Option ValInfo := none
  deriving DecidableEq

/-- A monitored validator: its settings and its run-time state. -/
structure ChainConfig where
  name : String := ""
  chainId : String := ""
  valAddress : String := ""
  alerts : AlertConfig := {}
  publicFallback : Bool := false
  nodes : List NodeConfig := []
  noNodes : Bool := false
  blocksResults : List Int := []
  monitoring : Monitoring := {}
  alertState : AlertState := {}
  /-- Consecutive missed blocks, a float counter in the source. -/
  statConsecutiveMiss : Nat := 0
  deriving DecidableEq

/-- The four notification destinations. -/
inductive NotifyDest where
  | pd
  | tg
  | di
  | slk
  deriving DecidableEq, Repr

/-- One alert on its way to the destinations. -/
structure AlertMsg where
  pd : Bool := false
  disc : Bool := false
  tg : Bool := false
  slk : Bool := false
  severity : String := ""
  resolved : Bool := false
  chain : String := ""
  message : String := ""
  uniqueId : String := ""
  key : String := ""
  tgChannel : String := ""
  tgKey : String := ""
  tgMentions : String := ""
  discHook : String := ""
  discMentions : String := ""
  slkHook : String := ""
  slkMentions : String := ""
  deriving DecidableEq

/-- `alarmCache`. A nil Go map reads as empty and is made on first use, so nil and
empty maps are one value here; `SavedAlarms` keeps them apart where it matters. -/
structure AlarmCache where
  sentPdAlarms : Table String Time := ∅
  sentTgAlarms : Table String Time := ∅
  sentDiAlarms : Table String Time := ∅
  sentSlkAlarms : Table String Time := ∅
  allAlarms : Table String (Table String Time) := ∅
  flappingAlarms : Table String (Table String Time) := ∅
  /-- Messages with a delivery attempt under way. -/
  inFlight : NotifyDest → Table String Unit := fun _ => ∅

def newAlarmCache : AlarmCache := {}

/-- Global settings, the monitored chains and the alarm cache. -/
structure Config where
  enableDash : Bool := false
  hideLogs : Bool := false
  nodeDownMin : Int := 0
  nodeDownSeverity : String := ""
  prom : Bool := false
  pagerduty : PDConfig := {}
  discord : DiscordConfig := {}
  telegram : TeleConfig := {}
  slack : SlackConfig := {}
  chains : Table String ChainConfig := ∅
  alarms : AlarmCache := {}

/-- `dash.ChainStatus`: a chain's line on the dashboard. -/
structure ChainStatus where
  msgType : String := "status"
  name : String
  chainId : String
  moniker : String
  bonded : Bool
  jailed : Bool
  tombstoned : Bool
  missed : Int
  window : Int
  nodes : Nat
  healthyNodes : Nat := 0
  activeAlerts : Nat := 0
  height : Int := 0
  lastError : String := ""
  blocks : List Int
  deriving DecidableEq

/-- The exported maps of `alarmCache`, as the state file holds them (`none` is nil). -/
structure SavedAlarms where
  sentPdAlarms : Option (Table String Time) := none
  sentTgAlarms : Option (Table String Time) := none
  sentDiAlarms : Option (Table String Time) := none
  sentSlkAlarms : Option (Table String Time) := none
  allAlarms : Option (Table String (Table String Time)) := none
  deriving DecidableEq

structure SavedState where
  alarms : Option SavedAlarms := none
  blocks : Option (Table String (List Int)) := none
  nodesDown : Option (Table String (Table String Time)) := none
  deriving DecidableEq

end Seer
