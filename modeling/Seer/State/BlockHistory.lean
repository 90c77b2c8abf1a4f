import Seer.Runtime.Validate
import Seer.State.RoundTrip

/-!
# The block history of a chain, over restarts

The results of the last blocks are kept in a list whose length nothing checks: it is
filled once, shifted for every block, written to the checkpoint and read back. Over any
sequence of processes it is shown to be the first 512 of all results, newest first, padded
with -1.
-/
namespace Seer.State

open Seer.Lib Seer.Lib.Crash Seer.Runtime

/-- `recordBlockResult`: the new result in front, the oldest dropped. Returns a copy. -/
def recordBlockResult (chain : ChainConfig) (result : Int) : ChainConfig × List Int :=
  let blocks := if chain.blocksResults.length = 0 then [result]
    else result :: chain.blocksResults.dropLast
  ({ chain with blocksResults := blocks }, blocks)

theorem head_recordBlockResult (chain : ChainConfig) (result : Int) :
    (recordBlockResult chain result).1.blocksResults.head? = some result := by
  simp only [recordBlockResult]
  split <;> rfl

/-- The latest results, newest first, with -1 for the blocks that there were not. -/
def window (history : List Int) : List Int :=
  (history ++ List.replicate showBLocks (-1)).take showBLocks

theorem length_window (history : List Int) : (window history).length = showBLocks := by
  simp [window]

theorem window_nil : window [] = List.replicate showBLocks (-1) := by
  simp [window]

/-- The shift that reuses the current length is the window of one result more. -/
theorem recordBlockResult_window {chain : ChainConfig} {history : List Int}
    (blocks : chain.blocksResults = window history) (result : Int) :
    (recordBlockResult chain result).2 = window (result :: history) := by
  -- Dropping the last of 512 leaves the first 511 of the padded history.
  have shifted : (window history).dropLast =
      (history ++ List.replicate showBLocks (-1)).take (showBLocks - 1) := by
    rw [List.dropLast_eq_take, length_window, window, List.take_take]
    simp
  have filled : (window history).length ≠ 0 := by simp [length_window, showBLocks]
  simp only [recordBlockResult, blocks, if_neg filled, shifted]
  rfl

/-- The runs of a site that has no state file at first, as far as one chain goes: its
files, its configuration while a process is running, and all results recorded so far,
newest first. -/
inductive BlockHistory (codec : StateCodec) (statePath directory name : String) :
    Directory → Option Config → List Int → Prop where
  | noState (temps : Table Nat Bytes) :
      BlockHistory codec statePath directory name
        { primary := none, backup := none, temps := temps } none []
  /-- `loadConfig` and `validateConfig`; a configuration just read has no results. -/
  | start {files : Directory} {history : List Int} {saved : SavedState} {info : StateLoadInfo}
      (stopped : BlockHistory codec statePath directory name files none history)
      (read : Config) (configured : historyOf read name = some [])
      (loaded : loadState codec statePath files = .ok (saved, info)) (now : Time)
      (listen : String) (parses : Bool) (order : List String) (visited : name ∈ order) :
      BlockHistory codec statePath directory name files
        (some (validateConfig listen parses order (restoreSavedState read saved now)).config) history
  | record {files : Directory} {config : Config} {history : List Int} {chain : ChainConfig}
      (running : BlockHistory codec statePath directory name files (some config) history)
      (present : config.chains[name]? = some chain) (result : Int) :
      BlockHistory codec statePath directory name files
        (some { config with
          chains := config.chains.insert name (recordBlockResult chain result).1 })
        (result :: history)
  /-- Whatever else the process does. -/
  | change {files : Directory} {config changed : Config} {history : List Int}
      (running : BlockHistory codec statePath directory name files (some config) history)
      (kept : historyOf changed name = historyOf config name) :
      BlockHistory codec statePath directory name files (some changed) history
  /-- A checkpoint that returns nil ends the process. -/
  | stop {files : Directory} {config : Config} {history : List Int} {after : Disk}
      (running : BlockHistory codec statePath directory name files (some config) history)
      (lossless : codec.RoundTrips (snapshotSavedState config))
      (written : Returns (handleFile codec (snapshotSavedState config))
        (writeStateAtomicWithOps codec directory (snapshotSavedState config))
        (Disk.start files) none after) :
      BlockHistory codec statePath directory name after.directory none history

/-- A loaded state has the window, or nothing if there were no results. -/
def Keeps (saved : SavedState) (name : String) (history : List Int) : Prop :=
  match saved.blocks.bind (·[name]?) with
  | some blocks => blocks = window history
  | none => history = []

theorem historyOf_restored (read : Config) (saved : SavedState) (now : Time) (name : String) :
    historyOf (restoreSavedState read saved now) name =
      (historyOf read name).map fun old => (saved.blocks.bind (·[name]?)).getD old := by
  have blocks : ∀ chain, (restoreBlocks saved.blocks name chain).blocksResults =
      (saved.blocks.bind (·[name]?)).getD chain.blocksResults := by
    intro chain
    unfold restoreBlocks
    split
    next found => simp [found]
    next found => simp [found]
  unfold restoreSavedState historyOf
  cases saved.nodesDown with
  | none => simp [Function.comp_def, blocks]
  | some nodesDown =>
    have same : ∀ chain, (restoreNodes nodesDown name chain).blocksResults = chain.blocksResults :=
      fun _ => rfl
    simp [Function.comp_def, blocks, same]

/-- What holds at every point: a running process has the window, the files keep it. -/
def HistoryInv (codec : StateCodec) (statePath name : String) (files : Directory) :
    Option Config → List Int → Prop
  | some config, history => historyOf config name = some (window history)
  | none, history => ∃ saved info,
      loadState codec statePath files = .ok (saved, info) ∧ Keeps saved name history

section Runs
variable {codec : StateCodec} {statePath directory name : String}

theorem fillBlocks_kept {saved : SavedState} {history : List Int} (keeps : Keeps saved name history) :
    fillBlocks ((saved.blocks.bind (·[name]?)).getD []) = window history := by
  unfold Keeps at keeps
  split at keeps
  next blocks found =>
    have filled : (window history).isEmpty = false := by
      rw [List.isEmpty_eq_false_iff, ← List.length_pos_iff, length_window]
      decide
    simp [found, keeps, fillBlocks, filled]
  next found => simp [found, keeps, fillBlocks, window_nil]

theorem keeps_snapshot {config : Config} {history : List Int}
    (running : historyOf config name = some (window history)) :
    Keeps (snapshotSavedState config) name history := by
  obtain ⟨chain, present, blocks⟩ := Option.map_eq_some_iff.mp running
  simp [Keeps, snapshotSavedState, present, blocks]

theorem BlockHistory.inv {files : Directory} {config : Option Config} {history : List Int}
    (reached : BlockHistory codec statePath directory name files config history) :
    HistoryInv codec statePath name files config history := by
  -- One case for each thing that can happen at the site.
  induction reached with
  | noState temps => exact ⟨{}, {}, rfl, rfl⟩
  | @start files history saved info stopped read configured loaded now listen parses order visited ih =>
    -- What is loaded is what the last checkpoint keeps; the fill is for a missing entry.
    obtain ⟨kept, _, found, keeps⟩ := ih
    obtain rfl : kept = saved := by
      rw [found] at loaded
      cases loaded
      rfl
    simp only [HistoryInv, historyOf_validateConfig, visited, if_true, historyOf_restored,
      configured, Option.map_some, fillBlocks_kept keeps]
  | @record files config history chain running present result ih =>
    obtain ⟨same, known, blocks⟩ := Option.map_eq_some_iff.mp ih
    obtain rfl : same = chain := Option.some.inj (known.symm.trans present)
    simpa [HistoryInv, historyOf, recordBlockResult] using recordBlockResult_window blocks result
  | change running kept ih => exact kept.trans ih
  | stop running lossless written ih =>
    exact ⟨_, _, loadState_written lossless rfl written, keeps_snapshot ih⟩

end Runs

/-- Over any number of processes, each started from the checkpoint of the one before: a
running process holds 512 results, the latest of all that were ever recorded followed by
-1s, and every list that `recordBlockResult` returns is this one with the new result. A
stopped site can always be started again. -/
theorem block_history_window (codec : StateCodec) (statePath directory name : String)
    (files : Directory) (config : Option Config) (history : List Int)
    (reached : BlockHistory codec statePath directory name files config history) :
    match config with
    | some running => ∃ chain, running.chains[name]? = some chain ∧
        chain.blocksResults.length = showBLocks ∧ chain.blocksResults = window history ∧
        ∀ result, (recordBlockResult chain result).2 = window (result :: history)
    | none => ∃ loaded, loadState codec statePath files = .ok loaded := by
  have inv := reached.inv
  cases config with
  | none =>
    obtain ⟨saved, info, loaded, -⟩ := inv
    exact ⟨(saved, info), loaded⟩
  | some running =>
    obtain ⟨chain, present, blocks⟩ := Option.map_eq_some_iff.mp inv
    refine ⟨chain, present, ?_, blocks, recordBlockResult_window blocks⟩
    rw [blocks, length_window]

/-- The configuration with one more result for a chain. -/
def withResult (config : Config) (name : String) (result : Int) : Config :=
  { config with
    chains := config.chains.insert name
      (recordBlockResult ((config.chains[name]?).getD {}) result).1 }

theorem BlockHistory.withResult {codec : StateCodec} {statePath directory name : String}
    {files : Directory} {config : Config} {history : List Int}
    (running : BlockHistory codec statePath directory name files (some config) history)
    (result : Int) :
    BlockHistory codec statePath directory name files (some (withResult config name result))
      (result :: history) := by
  obtain ⟨chain, present, -⟩ := Option.map_eq_some_iff.mp running.inv
  have found : (config.chains[name]?).getD {} = chain := by
    rw [present]
    rfl
  unfold State.withResult
  rw [found]
  exact running.record present result

/-- A process on a site without a state file, after a block that was signed and one that was
missed. -/
def twoBlocks : Config :=
  let started := (validateConfig "" true ["osmosis"]
    (restoreSavedState (oneChain {}) {} unixEpoch)).config
  withResult (withResult started "osmosis" 3) "osmosis" 0

/-- It is stopped, and the next process signs one more block. -/
theorem block_history_window_restart :
    let codec := stateCodec (snapshotSavedState twoBlocks)
    ∃ files running chain, BlockHistory codec "state.json" "." "osmosis" files (some running)
        [3, 0, 3] ∧
      running.chains["osmosis"]? = some chain ∧
      chain.blocksResults = 3 :: 0 :: 3 :: List.replicate 509 (-1) := by
  intro codec
  have empty : BlockHistory codec "state.json" "." "osmosis" { primary := none, backup := none }
      none [] := .noState ∅
  have configured : historyOf (oneChain {}) "osmosis" = some [] := by simp [historyOf, oneChain]
  have first : BlockHistory codec "state.json" "." "osmosis" { primary := none, backup := none }
      (some twoBlocks) [0, 3] :=
    ((empty.start (oneChain {}) configured rfl unixEpoch "" true ["osmosis"] (by simp)).withResult
      3).withResult 0
  have lossless := stateCodec_roundTrips (snapshotSavedState twoBlocks)
  obtain ⟨_, after, written, rfl⟩ := writeState_may codec (snapshotSavedState twoBlocks) rfl "."
    (Disk.start { primary := none, backup := none })
  have stopped := first.stop lossless written
  have second := (stopped.start (oneChain {}) configured (loadState_written lossless rfl written)
    unixEpoch "" true ["osmosis"] (by simp)).withResult 3
  obtain ⟨chain, present, -, blocks, -⟩ := block_history_window _ _ _ _ _ _ _ second
  exact ⟨_, _, chain, second, present, blocks.trans (by decide +kernel)⟩

end Seer.State
