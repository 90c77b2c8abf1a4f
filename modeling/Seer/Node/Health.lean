import Seer.Types

/-!
# The health flags of a node

Three places write them, each in one critical section of the durable-state lock: a
failed probe and a passed probe of `monitorHealth`, and a failed try of `newRpc`.
-/
namespace Seer.Node

/-- `fmt.Sprintf("%-12s node %s is %s", ...)`. -/
def unhealthyMessage (chainName url message : String) : String :=
  chainName ++ "".pushn ' ' (12 - chainName.length) ++ " node " ++ url ++ " is " ++ message

/-- `markUnhealthy`: only a node with the alert setting gets a time. -/
def markUnhealthy (chainName message : String) (now : Instant) (node : NodeConfig) : NodeConfig :=
  let node := { node with lastMsg := unhealthyMessage chainName node.url message }
  if !node.down then
    if node.alertIfDown then { node with down := true, downSince := now.val }
    else { node with down := true }
  else node

/-- The extra update of a probe that finds the node catching up. -/
def markSyncing (node : NodeConfig) : NodeConfig := { node with syncing := true }

/-- `markDown` of endpoint selection. -/
def markDown (message : String) (syncing : Bool) (now : Instant) (node : NodeConfig) : NodeConfig :=
  let node :=
    if !node.down then { node with down := true, downSince := now.val } else node
  { node with syncing := syncing, lastMsg := message }

/-- The update of a passed probe; the time becomes the Unix epoch, not the zero time. -/
def markHealthy (node : NodeConfig) : NodeConfig :=
  let node := if node.down then { node with lastMsg := "", wasDown := true } else node
  { node with down := false, syncing := false, downSince := unixEpoch }

end Seer.Node
