import Seer.Lib.Crash
import Seer.Lib.Table
import Seer.Lib.Range
import Seer.Lib.Alternation
import Seer.Lib.Concurrent
import Seer.Lib.Padding
import Seer.Lib.Base64
import Seer.Lib.Machine
import Seer.Lib.Locks
import Seer.Lib.Replay
import Seer.Lib.Text
import Seer.Lib.Regex
import Seer.Lib.Flags
import Seer.Lib.Strconv
import Seer.Lib.Lag
import Seer.Go
import Seer.Types
import Seer.State.Document
import Seer.State.Text
import Seer.State.Snapshot
import Seer.State.Checkpoint
import Seer.State.CheckpointSafety
import Seer.State.RoundTrip
import Seer.State.BlockHistory
import Seer.Alert.Cache
import Seer.Alert.Protocol
import Seer.Alert.Sinks
import Seer.Alert.Worker
import Seer.Alert.Automaton
import Seer.Alert.ChainIsolation
import Seer.Alert.PagerDuty
import Seer.Alert.Lanes
import Seer.Alert.SinkCalls
import Seer.Alert.Mentions
import Seer.Watch.Messages
import Seer.Watch.Tick
import Seer.Watch.Emits
import Seer.Watch.Latches
import Seer.Watch.Thresholds
import Seer.Watch.Identity
import Seer.Watch.DedupKeys
import Seer.Watch.ActiveSet
import Seer.Watch.Host
import Seer.Watch.Restarts
import Seer.Watch.Handshake
import Seer.Watch.NoServersDelay
import Seer.Node.Health
import Seer.Node.Outage
import Seer.Node.Selection
import Seer.Node.RpcCall
import Seer.Node.Fallback
import Seer.Node.Shutdown
import Seer.Node.ShutdownSafety
import Seer.Node.NoNodes
import Seer.Node.DownSince
import Seer.Runtime.Lifecycle
import Seer.Runtime.Barrier
import Seer.Runtime.Validate
import Seer.Runtime.Load
import Seer.Runtime.ChainFiles
import Seer.Runtime.Boot
import Seer.Runtime.Warnings
import Seer.Runtime.LockOrder
import Seer.Ws.Aggregator
import Seer.Ws.Attribution
import Seer.Ws.Counters
import Seer.Ws.HideLogs
import Seer.Ws.Session
import Seer.Ws.SessionEnd
import Seer.Ws.Delivery
import Seer.Ws.Wire
import Seer.Ws.Watchdog
import Seer.Validator.Refresh
import Seer.Dash.Redaction
import Seer.Dash.Server
import Seer.Encryption
import Seer.ConfigFile
import Seer.Metrics
import Seer.Pipeline
import Seer.Cli
