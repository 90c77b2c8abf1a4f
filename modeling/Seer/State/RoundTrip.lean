import Seer.Alert.Cache
import Seer.Node.Outage
import Seer.State.CheckpointSafety

/-!
# The round trip of a restart

A checkpoint can succeed from every directory, and one that returned nil is what the next
process loads. Restored into a fresh configuration it gives back the block results, the
alarms that are not stale, and the nodes that were down.
-/
namespace Seer.State

open Seer.Lib Seer.Lib.Crash

section Success
variable (codec : StateCodec) (state : SavedState)

/-- An operation that does not fail. -/
private theorem ok_may (op : FileOp) {post : op.Answer → Disk → Prop} {disk : Disk}
    (holds : post (handleFile codec state op .ok disk).1 (handleFile codec state op .ok disk).2) :
    May (handleFile codec state) post (Prog.perform op) disk :=
  May.perform Outcome.ok holds

private theorem orReturn_may {α : Type} {between : Disk → Prop} {post : α → Disk → Prop}
    {step : FileProg (Option GoError)} {fail : GoError → α} {rest : FileProg α} {disk : Disk}
    (first : May (handleFile codec state) (fun answer after => answer = none ∧ between after) step disk)
    (second : ∀ after, between after → May (handleFile codec state) post rest after) :
    May (handleFile codec state) post (orReturn step fail rest) disk := by
  refine May.bind (first.mono ?_)
  rintro answer after ⟨rfl, held⟩
  exact second after held

/-- The temporary file is there. -/
def Present (temporary : Nat) (disk : Disk) : Prop :=
  ∃ content, disk.directory.temps[temporary]? = some content

/-- Operations on an open temporary file succeed and leave it there. -/
private theorem quiet_may {temporary : Nat} {disk : Disk} (present : Present temporary disk)
    (op : FileProg (Option GoError))
    (quiet : op = chmod temporary ∨ op = syncFile temporary ∨ op = closeFile temporary) :
    May (handleFile codec state) (fun answer after => answer = none ∧ Present temporary after)
      op disk := by
  rcases quiet with rfl | rfl | rfl
  · exact ok_may codec state (.chmod temporary) ⟨rfl, present⟩
  · exact ok_may codec state (.sync temporary) ⟨rfl, present⟩
  · exact ok_may codec state (.close temporary) ⟨rfl, present⟩

private theorem writeFile_may {temporary : Nat} {disk : Disk} (present : Present temporary disk)
    (data : Bytes) :
    May (handleFile codec state) (fun answer after => answer = none ∧ Present temporary after)
      (writeFile temporary data) disk := by
  obtain ⟨content, held⟩ := present
  refine ok_may codec state (.write temporary data) ?_
  simp only [handleFile, held]
  exact ⟨trivial, content ++ data, by simp [Disk.leave, Disk.setTemps]⟩

private theorem bufferedFlush_may {temporary : Nat} {disk : Disk} (present : Present temporary disk)
    (waiting : Bytes) :
    May (handleFile codec state) (fun answer after => answer = none ∧ Present temporary after)
      (bufferedFlush temporary waiting) disk := by
  cases waiting with
  | nil => exact May.pure ⟨rfl, present⟩
  | cons byte rest => exact writeFile_may codec state present (byte :: rest)

/-- The rename moves the temporary file away. -/
private theorem rename_may {temporary : Nat} {disk : Disk} (present : Present temporary disk)
    (target : Target) :
    May (handleFile codec state)
      (fun answer after => answer = none ∧ temporary ∉ after.directory.temps)
      (rename temporary target) disk := by
  obtain ⟨content, held⟩ := present
  refine ok_may codec state (.rename temporary target) ?_
  simp only [handleFile, held]
  refine ⟨trivial, ?_⟩
  cases target <;> simp [Disk.install, Disk.leave, Disk.setTemps]

/-- A writer can fill the temporary file. -/
def MayWrite (write : Nat → FileProg (Except GoError Bytes)) : Prop :=
  ∀ temporary disk, Present temporary disk → May (handleFile codec state)
    (fun answer after => (∃ waiting, answer = .ok waiting) ∧ Present temporary after)
    (write temporary) disk

private theorem bufferedWrite_may {temporary : Nat} {disk : Disk} (present : Present temporary disk)
    (data : Bytes) :
    May (handleFile codec state)
      (fun answer after => (∃ waiting, answer = .ok (data.length, waiting)) ∧ Present temporary after)
      (bufferedWrite temporary data) disk := by
  unfold bufferedWrite
  split
  · refine May.bind ((writeFile_may codec state present data).mono ?_)
    rintro answer after ⟨rfl, held⟩
    exact May.pure ⟨⟨[], rfl⟩, held⟩
  · exact May.pure ⟨⟨data, rfl⟩, present⟩

theorem writeBytes_may (data : Bytes) : MayWrite codec state (writeBytes data) := by
  intro temporary disk present
  refine May.bind ((bufferedWrite_may codec state present data).mono ?_)
  rintro answer after ⟨⟨waiting, rfl⟩, held⟩
  simp only [ne_eq, not_true_eq_false, if_false]
  exact May.pure ⟨⟨waiting, rfl⟩, held⟩

theorem writeJSON_may {document : StateDocument} {data : Bytes}
    (encoded : codec.encode document = .ok data) : MayWrite codec state (writeJSON document) := by
  intro temporary disk present
  refine May.bind (ok_may codec state (.encodeJSON document) ?_)
  simp only [handleFile, encoded]
  refine May.bind ((bufferedWrite_may codec state present data).mono ?_)
  rintro answer after ⟨⟨waiting, rfl⟩, held⟩
  exact May.pure ⟨⟨waiting, rfl⟩, held⟩

private theorem replaceBody_may {write : Nat → FileProg (Except GoError Bytes)}
    (writes : MayWrite codec state write) (directory : String) (target : Target) {temporary : Nat}
    {disk : Disk} (present : Present temporary disk) :
    May (handleFile codec state)
      (fun answer after => answer = (none, true) ∧ temporary ∉ after.directory.temps)
      (replaceBody directory target temporary write) disk := by
  -- The steps in program order; the file stays there until the rename takes it away.
  refine orReturn_may codec state (quiet_may codec state present _ (.inl rfl)) fun opened held => ?_
  refine May.bind ((writes temporary opened held).mono ?_)
  rintro answer filled ⟨⟨waiting, rfl⟩, held⟩
  refine orReturn_may codec state (bufferedFlush_may codec state held waiting) fun _ held => ?_
  refine orReturn_may codec state (quiet_may codec state held _ (.inr (.inl rfl))) fun _ held => ?_
  refine orReturn_may codec state (quiet_may codec state held _ (.inr (.inr rfl))) fun _ held => ?_
  refine orReturn_may codec state (rename_may codec state held target) fun renamed gone => ?_
  have synced : May (handleFile codec state)
      (fun answer after => answer = none ∧ temporary ∉ after.directory.temps) syncDirectory renamed :=
    ok_may codec state .syncDirectory ⟨rfl, gone⟩
  refine orReturn_may codec state synced fun _ gone => ?_
  exact May.pure ⟨rfl, gone⟩

/-- The deferred removal finds no file and passes the success on. -/
private theorem replaceCleanup_may {temporary : Nat} {disk : Disk}
    (gone : temporary ∉ disk.directory.temps) :
    May (handleFile codec state) (fun answer _ => answer = none)
      (replaceCleanup temporary none true) disk := by
  refine May.bind (ok_may codec state (.remove temporary) ?_)
  simp only [handleFile, gone, if_false]
  exact May.pure rfl

theorem atomicReplace_may {write : Nat → FileProg (Except GoError Bytes)}
    (writes : MayWrite codec state write) (directory : String) (target : Target) (disk : Disk) :
    May (handleFile codec state) (fun answer _ => answer = none)
      (atomicReplace directory target write) disk := by
  refine May.bind (ok_may codec state (.createTemp target) ?_)
  have present : Present (freshTemp disk.directory.temps)
      (disk.leave (freshTemp disk.directory.temps) (some [])) :=
    ⟨[], by simp [Disk.leave, Disk.setTemps]⟩
  refine May.bind ((replaceBody_may codec state writes directory target present).mono ?_)
  rintro answer after ⟨rfl, gone⟩
  exact replaceCleanup_may codec state gone

private theorem replacePrimary_may {data : Bytes}
    (encoded : codec.encode (document state) = .ok data) (directory : String) (disk : Disk) :
    May (handleFile codec state) (fun answer _ => answer = none)
      (replacePrimary directory state) disk := by
  refine May.bind ((atomicReplace_may codec state (writeJSON_may codec state encoded) directory
    .primary disk).mono ?_)
  rintro answer after rfl
  exact May.pure rfl

/-- From every directory a checkpoint can return nil: it does when no operation fails. -/
theorem writeState_may {data : Bytes} (encoded : codec.encode (document state) = .ok data)
    (directory : String) (disk : Disk) :
    May (handleFile codec state) (fun answer _ => answer = none)
      (writeStateAtomicWithOps codec directory state) disk := by
  refine May.bind (ok_may codec state (.readFile .primary) ?_)
  simp only [handleFile, Directory.readFile, Directory.file]
  -- Only a primary file that decodes is copied to the backup first.
  cases disk.directory.primary with
  | none => exact replacePrimary_may codec state encoded directory disk
  | some current =>
    dsimp only
    split
    · refine orReturn_may codec state ((atomicReplace_may codec state (writeBytes_may codec state
        current) directory .backup disk).mono fun _ _ none => ⟨none, trivial⟩) ?_
      exact fun after _ => replacePrimary_may codec state encoded directory after
    · exact replacePrimary_may codec state encoded directory disk

end Success

/-- A checkpoint that returned nil is what is loaded next. -/
theorem loadState_written {codec : StateCodec} {state : SavedState}
    (lossless : codec.RoundTrips state) (durable : state.alarms.isSome) {directory statePath : String}
    {initial : Directory} {after : Disk}
    (written : Returns (handleFile codec state) (writeStateAtomicWithOps codec directory state)
      (Disk.start initial) none after) :
    loadState codec statePath after.directory =
      .ok (state, { source := statePath, version := 1 }) := by
  -- The postcondition of the crash-safety proof, read at the end of a completed run.
  have start : CheckpointInv codec initial [] (Disk.start initial) := .start
  obtain ⟨data, encoded, present⟩ :=
    (writeState_guards codec directory state start).returned written rfl
  exact loadState_primary codec statePath present (decodeState_encoded codec lossless durable encoded)

/-! ## Restoring into a fresh configuration -/

/-- The alarms less than 24 hours old. -/
def recentAlarms (now : Time) (alarms : Table String Time) : Table String Time :=
  alarms.filter fun _ sent => decide (now - sent < 24 * hour)

/-- The age is compared after saturation, which no age near 24 hours meets. -/
theorem clearStale_eq (now : Time) (alarms : Table String Time) :
    clearStale now alarms = recentAlarms now alarms := by
  have same : ∀ sent : Time, (¬ now.sub sent ≥ staleHours * hour) ↔ now - sent < 24 * hour := by
    intro sent
    unfold Time.sub staleHours hour minute second Time Duration
    omega
  unfold clearStale recentAlarms
  simp only [same]

/-- A node as a restart leaves it: down since the same time if that is known, else fresh. -/
def restartedNode (node : NodeConfig) : NodeConfig :=
  if node.down = true ∧ node.downSince ≠ 0 then
    { Node.configured node with down := true, wasDown := true, downSince := node.downSince }
  else Node.configured node

theorem restarted_eq (node : NodeConfig) : Node.restarted node = restartedNode node := by
  have entry := Node.downTimes_lookup [node] (by simp) node (by simp)
  unfold Node.restarted restoreNode restartedNode
  simp only [Node.configured, entry]
  cases down : node.down with
  | false => simp
  | true => by_cases zero : node.downSince = 0 <;> simp [zero, Time.isZero]

/-- A configuration just read, with the chains and nodes of `config`. -/
def FreshFor (config fresh : Config) : Prop :=
  ∀ name : String, (fresh.chains[name]?).map (fun chain => (chain.nodes, chain.noNodes)) =
    (config.chains[name]?).map fun chain => (chain.nodes.map Node.configured, false)

section Restored
variable {config fresh : Config} (now : Time)

theorem sent_restored (dest : NotifyDest) :
    Alert.sent (restoreSavedState fresh (snapshotSavedState config) now).alarms dest =
      recentAlarms now (Alert.sent config.alarms dest) := by
  cases dest <;> exact clearStale_eq now _

theorem allAlarms_restored (name : String) :
    (restoreSavedState fresh (snapshotSavedState config) now).alarms.allAlarms[name]? =
      (config.alarms.allAlarms[name]?).map (recentAlarms now) := by
  simp [restoreSavedState, snapshotSavedState, restoreAlarms, cloneAlarmState, clearStale_eq]

/-- The chain found under a name after the restore is the fresh one, restored. -/
theorem lookup_restored (name : String) :
    (restoreSavedState fresh (snapshotSavedState config) now).chains[name]? =
      (fresh.chains[name]?).map fun chain => restoreNodes
        (config.chains.filterMap fun _ chain =>
          if chain.nodes.any (·.down) then some (downTimes chain.nodes) else none) name
        (restoreBlocks (some (config.chains.map fun _ chain => chain.blocksResults)) name chain) := by
  simp [restoreSavedState, snapshotSavedState]

/-- The number of down nodes is compared with the number of nodes. -/
theorem noNodes_restoreNodes (nodesDown : Table String (Table String Time)) (name : String)
    {chain : ChainConfig} (unset : chain.noNodes = false) :
    (restoreNodes nodesDown name chain).noNodes = true ↔
      ∀ node ∈ (restoreNodes nodesDown name chain).nodes, node.down = true := by
  simp only [restoreNodes, unset]
  rw [← List.countP_eq_length]
  split <;> simp_all

theorem chain_restored (same : FreshFor config fresh) {name : String} {chain : ChainConfig}
    (present : config.chains[name]? = some chain) (distinct : (chain.nodes.map (·.url)).Nodup) :
    ∃ restored, (restoreSavedState fresh (snapshotSavedState config) now).chains[name]? =
        some restored ∧
      restored.blocksResults = chain.blocksResults ∧
      restored.nodes = chain.nodes.map restartedNode ∧
      (restored.noNodes = true ↔ ∀ node ∈ restored.nodes, node.down = true) := by
  have entry := same name
  rw [present] at entry
  obtain ⟨read, found, parts⟩ := Option.map_eq_some_iff.mp entry
  obtain ⟨nodes, noNodes⟩ := Prod.mk.inj parts
  have blocks : restoreBlocks (some (config.chains.map fun _ chain => chain.blocksResults)) name read =
      { read with blocksResults := chain.blocksResults, nodes := chain.nodes.map Node.configured } := by
    simp [restoreBlocks, present, ← nodes]
  -- The restore does the blocks first and then the nodes, which come from the same chain.
  refine ⟨_, by rw [lookup_restored, found, Option.map_some], ?_⟩
  rw [blocks]
  refine ⟨rfl, ?_, noNodes_restoreNodes _ name noNodes⟩
  rw [← funext restarted_eq]
  exact Node.restoreNodes_snapshot config name chain { read with blocksResults := chain.blocksResults }
    present distinct _ rfl

end Restored

/-- For every configuration whose chains have nodes with different URLs, from every
directory: a checkpoint can return nil, and after one that did, the state loads and a
fresh configuration restored from it has the block results, the alarms less than 24 hours
old, and exactly the nodes that were down since a known time, down since then. -/
theorem restart_round_trip (codec : StateCodec) (directory statePath : String) (initial : Directory)
    (config fresh : Config) (now : Time)
    (distinct : ∀ (name : String) (chain : ChainConfig), config.chains[name]? = some chain →
      (chain.nodes.map (·.url)).Nodup)
    (same : FreshFor config fresh) (lossless : codec.RoundTrips (snapshotSavedState config)) :
    let saved := snapshotSavedState config
    let written := Returns (handleFile codec saved) (writeStateAtomicWithOps codec directory saved)
      (Disk.start initial) none
    (∃ after, written after) ∧ ∀ after, written after → ∃ loaded info,
      loadState codec statePath after.directory = .ok (loaded, info) ∧
      let restored := restoreSavedState fresh loaded now
      (∀ (name : String) (chain : ChainConfig), config.chains[name]? = some chain →
        ∃ back : ChainConfig, restored.chains[name]? = some back ∧
        back.blocksResults = chain.blocksResults ∧
        back.nodes = chain.nodes.map restartedNode ∧
        (back.noNodes = true ↔ ∀ node ∈ back.nodes, node.down = true)) ∧
      (∀ dest, Alert.sent restored.alarms dest = recentAlarms now (Alert.sent config.alarms dest)) ∧
      ∀ name : String, restored.alarms.allAlarms[name]? =
        (config.alarms.allAlarms[name]?).map (recentAlarms now) := by
  dsimp only
  constructor
  · obtain ⟨data, encoded, -⟩ := lossless.encoded
    obtain ⟨result, after, returns, rfl⟩ :=
      writeState_may codec (snapshotSavedState config) encoded directory (Disk.start initial)
    exact ⟨after, returns⟩
  · intro after written
    refine ⟨_, _, loadState_written lossless rfl written, ?_, sent_restored now,
      allAlarms_restored now⟩
    intro name chain present
    exact chain_restored now same present (distinct name chain present)

/-- A configuration with one chain. -/
def oneChain (chain : ChainConfig) : Config :=
  { chains := (∅ : Table String ChainConfig).insert "osmosis" chain }

def outageNodes : List NodeConfig :=
  [{ url := "tcp://a", down := true, downSince := unixEpoch }, { url := "tcp://b" }]

def outageAlarms : AlarmCache :=
  { sentTgAlarms := (∅ : Table String Time).insert "missed" (unixEpoch + hour) }

def outageConfig : Config :=
  { oneChain { blocksResults := [3, 0], nodes := outageNodes } with alarms := outageAlarms }

theorem restart_round_trip_outage :
    let saved := snapshotSavedState outageConfig
    let codec := stateCodec saved
    ∃ after loaded info,
      Returns (handleFile codec saved) (writeStateAtomicWithOps codec "." saved)
        (Disk.start { primary := none, backup := none }) none after ∧
      loadState codec "state.json" after.directory = .ok (loaded, info) ∧
      ∃ back : ChainConfig,
        (restoreSavedState (oneChain { nodes := outageNodes.map Node.configured }) loaded
          (unixEpoch + 24 * hour)).chains["osmosis"]? = some back ∧
        back.nodes.map (·.down) = [true, false] := by
  intro saved codec
  have unique : ∀ (name : String) (chain : ChainConfig), outageConfig.chains[name]? = some chain →
      (chain.nodes.map (·.url)).Nodup := by
    intro name chain present
    rw [outageConfig, oneChain, Table.get_insert] at present
    split at present
    · cases present
      decide
    · simp at present
  have fresh : FreshFor outageConfig (oneChain { nodes := outageNodes.map Node.configured }) := by
    intro name
    simp only [outageConfig, oneChain, Table.get_insert]
    split <;> rfl
  obtain ⟨⟨after, written⟩, loads⟩ := restart_round_trip codec "." "state.json"
    { primary := none, backup := none } outageConfig _ (unixEpoch + 24 * hour) unique fresh
    (stateCodec_roundTrips saved)
  obtain ⟨loaded, info, result, chains, -⟩ := loads after written
  obtain ⟨back, found, -, nodes, -⟩ := chains "osmosis" _ (Table.get_insert_self _ _ _)
  refine ⟨after, loaded, info, written, result, back, found, ?_⟩
  rw [nodes]
  decide

end Seer.State
