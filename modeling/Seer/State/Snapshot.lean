import Seer.Types

/-! Taking a durable snapshot of the configuration, and restoring one at start. -/
namespace Seer.State

open Seer.Lib

def staleHours : Int := 24

def hour : Duration := 60 * minute

/-- `clearStale`: alarms of at least `staleHours` hours are dropped. -/
def clearStale (now : Time) (alarms : Table String Time) : Table String Time :=
  alarms.filter fun _ sent => decide (¬ now.sub sent ≥ staleHours * hour)

/-- `cloneAlarmState`: the maps that are written out, never nil. -/
def cloneAlarmState (source : AlarmCache) : SavedAlarms where
  sentPdAlarms := some source.sentPdAlarms
  sentTgAlarms := some source.sentTgAlarms
  sentDiAlarms := some source.sentDiAlarms
  sentSlkAlarms := some source.sentSlkAlarms
  allAlarms := some source.allAlarms

/-- The `nodes_down` entry of one chain; a repeated URL keeps its last node's time. -/
def downTimes (nodes : List NodeConfig) : Table String Time :=
  nodes.foldl (fun times node =>
    if node.down then times.insert node.url node.downSince else times) ∅

def snapshotSavedState (config : Config) : SavedState where
  alarms := some (cloneAlarmState config.alarms)
  blocks := some (config.chains.map fun _ chain => chain.blocksResults)
  nodesDown := some (config.chains.filterMap fun _ chain =>
    if chain.nodes.any (·.down) then some (downTimes chain.nodes) else none)

/-- A node found in the saved map comes back as down and as having been down. -/
def restoreNode (saved : Table String Time) (node : NodeConfig) : NodeConfig :=
  match saved[node.url]? with
  | some downSince =>
    if downSince.isZero then node
    else { node with down := true, wasDown := true, downSince := downSince }
  | none => node

def restoreNodes (nodesDown : Table String (Table String Time)) (name : String)
    (chain : ChainConfig) : ChainConfig :=
  let nodes := match nodesDown[name]? with
    | some saved => chain.nodes.map (restoreNode saved)
    | none => chain.nodes
  { chain with
    nodes := nodes
    noNodes := if nodes.countP (·.down) = nodes.length then true else chain.noNodes }

def restoreBlocks (blocks : Option (Table String (List Int))) (name : String)
    (chain : ChainConfig) : ChainConfig :=
  match blocks.bind (·[name]?) with
  | some results => { chain with blocksResults := results }
  | none => chain

/-- A saved map replaces the cache's after the stale filter; a nil one leaves it. -/
def restoreAlarms (now : Time) (cache : AlarmCache) (saved : SavedAlarms) : AlarmCache :=
  { cache with
    sentTgAlarms := (saved.sentTgAlarms.map (clearStale now)).getD cache.sentTgAlarms
    sentPdAlarms := (saved.sentPdAlarms.map (clearStale now)).getD cache.sentPdAlarms
    sentDiAlarms := (saved.sentDiAlarms.map (clearStale now)).getD cache.sentDiAlarms
    sentSlkAlarms := (saved.sentSlkAlarms.map (clearStale now)).getD cache.sentSlkAlarms
    allAlarms := (saved.allAlarms.map fun all => all.map fun _ chainAlarms =>
      clearStale now chainAlarms).getD cache.allAlarms }

def restoreSavedState (config : Config) (saved : SavedState) (now : Time) : Config :=
  let chains := config.chains.map (restoreBlocks saved.blocks)
  let alarms := match saved.alarms with
    | some savedAlarms => restoreAlarms now config.alarms savedAlarms
    | none => config.alarms
  match saved.nodesDown with
  | none => { config with chains := chains, alarms := alarms }
  | some nodesDown =>
    { config with chains := chains.map (restoreNodes nodesDown), alarms := alarms }

end Seer.State
