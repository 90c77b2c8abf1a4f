import Seer.State.BlockHistory

/-!
# The websocket aggregator

Two handlers turn the events of the websocket into status updates and send them to one
aggregator. It keeps the highest status seen since the last block, records it as the
result of the next block, counts it and publishes the chain's line on the dashboard. What
the aggregator reads of the rest of the process is an input of each round.
-/
namespace Seer.Ws

open Seer.Lib

/-- The possible end states of a block, in ascending order. -/
inductive StatusType where
  | missed
  | prevote
  | precommit
  | signed
  | proposed
  deriving DecidableEq, Repr

def StatusType.value : StatusType → Int
  | .missed => 0
  | .prevote => 1
  | .precommit => 2
  | .signed => 3
  | .proposed => 4

structure StatusUpdate where
  height : Int
  status : StatusType := .missed
  final : Bool := false
  deriving DecidableEq, Repr

structure BlockEvent where
  height : Int
  proposerAddress : String
  validatorAddresses : List String

structure VoteEvent where
  type : Int
  height : Int
  validatorAddress : String

def voteTypePrevote : Int := 1
def voteTypePrecommit : Int := 2
def voteTypeProposal : Int := 32

def classifyBlockEvent (event : BlockEvent) (validatorAddress : String) : StatusUpdate :=
  { height := event.height
    status := if event.proposerAddress = validatorAddress then .proposed
      else if validatorAddress ∈ event.validatorAddresses then .signed
      else .missed
    final := true }

/-- Votes of other validators are dropped; an unknown type keeps the zero status. -/
def classifyVoteEvent (event : VoteEvent) (validatorAddress : String) : Option StatusUpdate :=
  if event.validatorAddress ≠ validatorAddress then none
  else some
    { height := event.height
      status := if event.type = voteTypePrevote then .prevote
        else if event.type = voteTypePrecommit then .precommit
        else if event.type = voteTypeProposal then .proposed
        else .missed }

/-- The chain's counters, floats in the source. -/
structure Counters where
  totalSigns : Nat := 0
  totalProps : Nat := 0
  totalMiss : Nat := 0
  prevoteMiss : Nat := 0
  precommitMiss : Nat := 0
  consecutiveMiss : Nat := 0
  deriving DecidableEq, Repr

/-- The switch over the final state; -1 counts as nothing. -/
def Counters.tally (counters : Counters) (signState : Int) : Counters :=
  if signState = StatusType.missed.value then
    { counters with
      totalMiss := counters.totalMiss + 1
      consecutiveMiss := counters.consecutiveMiss + 1 }
  else if signState = StatusType.precommit.value then
    { counters with
      precommitMiss := counters.precommitMiss + 1
      totalMiss := counters.totalMiss + 1
      consecutiveMiss := counters.consecutiveMiss + 1 }
  else if signState = StatusType.prevote.value then
    { counters with
      prevoteMiss := counters.prevoteMiss + 1
      totalMiss := counters.totalMiss + 1
      consecutiveMiss := counters.consecutiveMiss + 1 }
  else if signState = StatusType.signed.value then
    { counters with totalSigns := counters.totalSigns + 1, consecutiveMiss := 0 }
  else if signState = StatusType.proposed.value then
    { counters with
      totalProps := counters.totalProps + 1
      totalSigns := counters.totalSigns + 1
      consecutiveMiss := 0 }
  else counters

/-- `getAlarms`, ranging over the chain's alarms in the given order. -/
def getAlarms (hideLogs : Bool) (cache : AlarmCache) (chain : String) (order : List String) : String :=
  if hideLogs then ""
  else match cache.allAlarms[chain]? with
    | none => ""
    | some alarms =>
      (order.filter (· ∈ alarms)).foldl (fun result message => result ++ "🚨 " ++ message ++ "\n") ""

/-- What the aggregator reads for one update besides the update itself. -/
structure Readings where
  valInfo : Option ValInfo
  now : Instant
  /-- `time.Now().UTC().String()`. -/
  stamp : String := ""
  /-- The cache when the alarms are listed, and the order of the listing. -/
  listed : AlarmCache := {}
  order : List String := []
  nodes : List NodeConfig := []
  /-- The cache when the alarms are counted. -/
  counted : AlarmCache := {}

/-- The aggregator's variable and the fields of the chain that it writes. -/
structure Aggregator where
  chain : ChainConfig
  signState : Int := -1
  lastBlockNum : Int := 0
  lastError : String := ""
  activeAlerts : Nat := 0
  counters : Counters := {}

/-- What a round sends out. -/
structure Published where
  statuses : List ChainStatus := []
  /-- The arguments of `l`. -/
  logs : List String := []
  deriving DecidableEq

/-- The highest status seen; votes count only for a bonded validator. -/
def raised (signState : Int) (status : StatusType) (bonded : Bool) : Int :=
  if status.value > signState ∧ bonded = true then status.value else signState

/-- `fmt.Sprintf("🧊 %-12s block %d", ...)`. -/
def blockLog (chainId : String) (height : Int) : String :=
  "🧊 " ++ chainId ++ "".pushn ' ' (12 - chainId.length) ++ " block " ++ toString height

def missedWarning (moniker chainId : String) (height : Int) : String :=
  "❌ warning      " ++ moniker ++ " missed block " ++ toString height ++ " on " ++ chainId

/-- The lines about nodes that are down. -/
def nodeLines (hideLogs : Bool) (nodes : List NodeConfig) : String :=
  nodes.foldl (fun info node =>
    if node.down && !hideLogs then info ++ "\n - " ++ node.lastMsg else info) ""

def validatorLine (valInfo : ValInfo) : String :=
  if valInfo.tombstoned then "- validator is tombstoned\n"
  else if valInfo.jailed then "- validator is jailed\n"
  else ""

section Rounds
variable (config : Config)

/-- The rest of a round after a final update, with the highest status already raised. -/
def finishBlock (agg : Aggregator) (height : Int) (valInfo : ValInfo) (readings : Readings) :
    Aggregator × Published :=
  let missed := agg.signState < StatusType.signed.value ∧ valInfo.bonded = true
  let warn := missedWarning valInfo.moniker agg.chain.chainId height
  let alarms := getAlarms config.hideLogs readings.listed agg.chain.name readings.order
  let (chain, blocks) := State.recordBlockResult agg.chain agg.signState
  let info := if missed then alarms ++ warn ++ "\n" else alarms
  let activeAlerts := Alert.getCount readings.counted agg.chain.name
  let counters := agg.counters.tally agg.signState
  let status : ChainStatus :=
    { name := agg.chain.name
      chainId := agg.chain.chainId
      moniker := valInfo.moniker
      bonded := valInfo.bonded
      jailed := valInfo.jailed
      tombstoned := valInfo.tombstoned
      missed := valInfo.missed
      window := valInfo.window
      nodes := readings.nodes.length
      healthyNodes := readings.nodes.countP (!·.down)
      activeAlerts := activeAlerts
      height := height
      lastError := info ++ nodeLines config.hideLogs readings.nodes ++ validatorLine valInfo
      blocks := blocks }
  ({ agg with
      chain := { chain with
        alertState := (Watch.recordFinalBlock chain.alertState readings.now).1
        statConsecutiveMiss := counters.consecutiveMiss }
      signState := -1
      lastBlockNum := height
      lastError := if missed then readings.stamp ++ " " ++ info else agg.lastError
      activeAlerts := activeAlerts
      counters := counters },
    { statuses := if config.enableDash then [status] else []
      logs := if missed then [warn] else [] })

/-- One update from the result channel. -/
def aggregate (agg : Aggregator) (update : StatusUpdate) (readings : Readings) :
    Aggregator × Published :=
  match readings.valInfo with
  | none => (agg, {})
  | some valInfo =>
    -- The height of the update is not compared with that of the block in progress.
    let agg := { agg with signState := raised agg.signState update.status valInfo.bonded }
    if !update.final then (agg, {})
    else
      let (after, published) := finishBlock config agg update.height valInfo readings
      let logs := if update.height % 20 = 0 then [blockLog agg.chain.chainId update.height] else []
      (after, { published with logs := logs ++ published.logs })

end Rounds

end Seer.Ws
