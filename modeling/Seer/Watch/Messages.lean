import Seer.Types

/-!
# The texts and dedup keys of the alarms

Every alert is rendered anew from the current settings and validator data; the
trigger and the resolution of an alarm use the same formats.
-/
namespace Seer.Watch

/-- The alarms a chain can raise; a node-down alarm belongs to one node, by its place in the
chain's list. -/
inductive Alarm where
  | stalled
  | noServers
  | inactive
  | consecutive
  | percentage
  | nodeDown (index : Nat)
  deriving DecidableEq, Repr

def stalledMessage (chain : ChainConfig) : String :=
  "stalled: have not seen a new block on " ++ chain.chainId ++ " in " ++
    toString chain.alerts.stalled ++ " minutes"

def noServersMessage (chain : ChainConfig) : String :=
  "no RPC endpoints are working for " ++ chain.chainId

def jailedReason : String := "jailed"

def tombstonedReason : String := "☠️ tombstoned 🪦"

def inactiveMessage (moniker reason : String) : String :=
  moniker ++ " is no longer active: validator is " ++ reason

def consecutiveMessage (chain : ChainConfig) (moniker : String) : String :=
  moniker ++ " has missed " ++ toString chain.alerts.consecutiveMissed ++ " blocks on " ++
    chain.chainId

def percentageMessage (chain : ChainConfig) (moniker : String) : String :=
  moniker ++ " has missed > " ++ toString chain.alerts.window ++
    "% of the slashing window's blocks on " ++ chain.chainId

def nodeDownMessage (config : Config) (chain : ChainConfig) (url : String) : String :=
  "Severity: " ++ config.nodeDownSeverity ++ "\nRPC node " ++ url ++ " has been down for > " ++
    toString config.nodeDownMin ++ " minutes on " ++ chain.chainId

/-- The dedup key of an alarm: the validator's consensus address, with a suffix for some
alarms, or the node's URL. -/
def Alarm.key (nodes : List NodeConfig) (valcons : String) : Alarm → String
  | .stalled => valcons
  | .noServers => valcons
  | .inactive => valcons ++ "jailed"
  | .consecutive => valcons ++ "consecutive"
  | .percentage => valcons ++ "percent"
  | .nodeDown index => (nodes[index]?.map (·.url)).getD ""

/-- The alarms that the settings of a chain switch on. -/
def Enabled (chain : ChainConfig) : Alarm → Prop
  | .stalled => chain.alerts.stalledAlerts = true
  | .noServers => chain.alerts.alertIfNoServers = true
  | .inactive => chain.alerts.alertIfInactive = true
  | .consecutive => chain.alerts.consecutiveAlerts = true
  | .percentage => chain.alerts.percentageAlerts = true
  | .nodeDown index => ∃ node, chain.nodes[index]? = some node ∧ node.alertIfDown = true

/-- The settings of the nodes, which no tick changes. -/
def nodeSettings (nodes : List NodeConfig) : List (String × Bool) :=
  nodes.map fun node => (node.url, node.alertIfDown)

end Seer.Watch
