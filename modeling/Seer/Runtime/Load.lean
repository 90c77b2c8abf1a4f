import Seer.Lib.Range
import Seer.State.Snapshot

/-!
# Loading the configuration

`loadConfig` decodes the primary file, adds one chain for each file of the chain directory
and restores the saved state. What YAML decodes may hold null entries, which are nil
pointers in the chain map and in the node lists, so that each function here says where it
follows a pointer. Reading and decoding the files is given; what they decode to is an input.
-/
namespace Seer.Runtime

open Seer.Lib

/-- The panics that a configuration can cause. -/
inductive Panic where
  | nilDereference
  | tickerInterval
  deriving DecidableEq, Repr

/-- How a function ends that returns no value. -/
inductive Abort where
  | error (cause : GoError)
  | panic (reason : Panic)
  deriving DecidableEq

abbrev Exit (α : Type) : Type := Except Abort α

def nilDereference {α : Type} : Exit α := .error (.panic .nilDereference)

def returned {α : Type} : Except GoError α → Exit α
  | .error cause => .error (.error cause)
  | .ok value => .ok value

/-- A chain as YAML decodes it. Its nodes are pointers and stand here, not in `chain`. -/
structure RawChain where
  chain : ChainConfig
  nodes : List (Option NodeConfig)
  deriving DecidableEq

structure HealthcheckConfig where
  enabled : Bool := false
  /-- A `time.Duration`, which the code multiplies by a second. -/
  pingRate : Int := 0
  deriving DecidableEq

/-- The decoded configuration. Its chains are pointers and stand here, not in `config`. -/
structure RawConfig where
  config : Config := {}
  healthcheck : HealthcheckConfig := {}
  chains : Table String (Option RawChain) := ∅

/-- The order in which Go ranges over a map of chains. -/
structure Range where
  order : Table String (Option RawChain) → List String
  complete : ∀ chains, (order chains).Perm chains.keys

/-- One of the orders that Go may take. -/
def sortedRange : Range := ⟨fun chains => chains.keys, fun _ => .refl _⟩

def Range.each (range : Range) (visit : String → Option RawChain → Exit (Option RawChain))
    (chains : Table String (Option RawChain)) : Exit (Table String (Option RawChain)) :=
  Table.rangeM visit (range.order chains) chains

/-- A loop that reads every node. -/
def derefAll : List (Option NodeConfig) → Exit (List NodeConfig)
  | [] => .ok []
  | none :: _ => nilDereference
  | some node :: later => (derefAll later).map (node :: ·)

/-! ## The chain directory -/

/-- One entry of what `os.ReadDir` returns. -/
structure DirEntry where
  name : String
  isDir : Bool := false
  deriving DecidableEq

def ymlSuffix : List Char := ['.', 'y', 'm', 'l']

/-- `strings.HasSuffix(name, ".yml")`. -/
def hasYmlSuffix (name : String) : Bool := ymlSuffix.isSuffixOf name.toList

/-- `strings.Split(name, ".")[0]`. -/
def chainName (name : String) : String := String.ofList (name.toList.takeWhile (· ≠ '.'))

section Load
variable (load : String → Except GoError RawChain)

/-- The loop over the chain directory; `load` is `loadChainConfig`. -/
def loadChainFiles : List DirEntry → Table String (Option RawChain) →
    Except GoError (Table String (Option RawChain))
  | [], chains => .ok chains
  | entry :: later, chains =>
    if entry.isDir then loadChainFiles later chains
    else if !hasYmlSuffix entry.name then loadChainFiles later chains
    else match load entry.name with
      | .error cause => .error cause
      | .ok chain => loadChainFiles later (chains.insert (chainName entry.name) (some chain))

end Load

/-! ## Restoring the saved state -/

def bindChain (_ : String) : Option RawChain → Exit (Option RawChain)
  | none => nilDereference
  | some raw => .ok (some raw)

/-- Gives every chain the lock of the durable state, which is not modelled. -/
def bindDurableState (range : Range) (chains : Table String (Option RawChain)) :
    Exit (Table String (Option RawChain)) :=
  range.each bindChain chains

def restoreRawBlocks (blocks : Option (Table String (List Int))) (name : String) (raw : RawChain) :
    RawChain :=
  { raw with chain := State.restoreBlocks blocks name raw.chain }

/-- The saved outages of one chain. A nil chain is skipped; the nodes are looked at for
every saved time but the zero time. -/
def markSaved (nodesDown : Table String (Table String Time)) (name : String) :
    Option RawChain → Exit (Option RawChain)
  | none => .ok none
  | some raw => match nodesDown[name]? with
    | none => .ok (some raw)
    | some saved =>
      if saved.toList.any fun entry => !entry.2.isZero then do
        let nodes ← derefAll raw.nodes
        .ok (some { raw with nodes := (nodes.map (State.restoreNode saved)).map some })
      else .ok (some raw)

/-- The count of the nodes that are down, which does not skip a nil chain. -/
def markNoNodes (_ : String) : Option RawChain → Exit (Option RawChain)
  | none => nilDereference
  | some raw => do
    let nodes ← derefAll raw.nodes
    let noNodes := if nodes.countP (·.down) = nodes.length then true else raw.chain.noNodes
    .ok (some { raw with chain := { raw.chain with noNodes := noNodes } })

def restoreSavedState (range : Range) (raw : RawConfig) (saved : SavedState) (now : Time) :
    Exit RawConfig := do
  let chains ← bindDurableState range raw.chains
  let chains := chains.map fun name entry => entry.map (restoreRawBlocks saved.blocks name)
  let alarms := match saved.alarms with
    | some savedAlarms => State.restoreAlarms now raw.config.alarms savedAlarms
    | none => raw.config.alarms
  let config := { raw.config with alarms := alarms }
  match saved.nodesDown with
  | none => .ok { raw with config := config, chains := chains }
  | some nodesDown => do
    let chains ← range.each (markSaved nodesDown) chains
    let chains ← range.each markNoNodes chains
    .ok { raw with config := config, chains := chains }

/-- `loadConfig` from the decoded primary file on. `state` is what `loadState` returns. -/
def loadConfig (range : Range) (primary : RawConfig) (entries : List DirEntry)
    (load : String → Except GoError RawChain) (state : Except GoError SavedState) (now : Time) :
    Exit RawConfig := do
  let chains ← returned (loadChainFiles load entries primary.chains)
  if chains.isEmpty then .error (.error (.text "no chains configured"))
  else do
    let chains ← bindDurableState range chains
    let saved ← returned state
    restoreSavedState range { primary with chains := chains } saved now

/-! ## What a loop leaves of the chains -/

theorem ok_of_bind {α β : Type} {first : Exit α} {next : α → Exit β} {result : β}
    (ok : first >>= next = .ok result) : ∃ value, first = .ok value ∧ next value = .ok result := by
  cases first with
  | error failure => cases ok
  | ok value => exact ⟨value, rfl, ok⟩

theorem ok_of_returned {α : Type} {result : Except GoError α} {value : α}
    (ok : returned result = .ok value) : result = .ok value := by
  cases result with
  | error cause => cases ok
  | ok value =>
    cases ok
    rfl

theorem derefAll_map_some (whole : List NodeConfig) : derefAll (whole.map some) = .ok whole := by
  induction whole with
  | nil => rfl
  | cons node later ih => simp [derefAll, ih, Except.map]

theorem derefAll_ok_iff (nodes : List (Option NodeConfig)) (whole : List NodeConfig) :
    derefAll nodes = .ok whole ↔ nodes = whole.map some := by
  constructor
  · intro read
    induction nodes generalizing whole with
    | nil =>
      cases read
      rfl
    | cons first later ih =>
      cases first with
      | none => cases read
      | some node =>
        rw [derefAll] at read
        cases rest : derefAll later with
        | error failure => simp [rest, Except.map] at read
        | ok nodes =>
          simp only [rest, Except.map, Except.ok.injEq] at read
          rw [← read, List.map_cons, ← ih nodes rest]
  · rintro rfl
    exact derefAll_map_some whole

theorem Range.each_ok {range : Range} {visit : String → Option RawChain → Exit (Option RawChain)}
    {chains result : Table String (Option RawChain)} (looped : range.each visit chains = .ok result)
    (name : String) : Table.Visited visit name chains[name]? result[name]? :=
  (Table.rangeM_ok_iff (range.complete chains) result).mp looped name

/-- The lock can be given to every chain unless one is nil, and changes nothing else. -/
theorem bindDurableState_ok_iff (range : Range) (chains result : Table String (Option RawChain)) :
    bindDurableState range chains = .ok result ↔
      result = chains ∧ ∀ name : String, chains[name]? ≠ some none := by
  rw [bindDurableState, Range.each, Table.rangeM_ok_iff (range.complete chains)]
  constructor
  · intro visited
    refine ⟨Std.ExtTreeMap.ext_getElem? fun name => ?_, fun name null => ?_⟩
    · have own := visited name
      rcases before : chains[name]? with - | - | raw
      all_goals rw [before] at own
      · exact own.of_none
      · obtain ⟨next, -, bound⟩ := own.of_some
        cases bound
      · obtain ⟨next, after, bound⟩ := own.of_some
        cases bound
        exact after
    · have own := visited name
      rw [null] at own
      obtain ⟨next, -, bound⟩ := own.of_some
      cases bound
  · rintro ⟨rfl, whole⟩ name
    have own := whole name
    rcases entry : result[name]? with - | - | raw <;> simp_all [Table.Visited, bindChain]

/-- A chain without what the process adds to it. -/
def RawChain.settings (raw : RawChain) : RawChain where
  chain := { raw.chain with blocksResults := [], noNodes := false }
  nodes := raw.nodes.map (Option.map fun node =>
    { node with down := false, wasDown := false, downSince := 0 })

/-- Two entries of the chain map with the same configuration. -/
def SameSettings (before after : Option (Option RawChain)) : Prop :=
  after.map (Option.map RawChain.settings) = before.map (Option.map RawChain.settings)

theorem SameSettings.trans {first second third : Option (Option RawChain)}
    (before : SameSettings first second) (after : SameSettings second third) :
    SameSettings first third :=
  Eq.trans after before

theorem Range.each_settings {range : Range}
    {visit : String → Option RawChain → Exit (Option RawChain)}
    {chains result : Table String (Option RawChain)}
    (keeps : ∀ name entry next, visit name entry = .ok next →
      next.map RawChain.settings = entry.map RawChain.settings)
    (looped : range.each visit chains = .ok result) (name : String) :
    SameSettings chains[name]? result[name]? := by
  have visited := Range.each_ok looped name
  cases before : chains[name]? with
  | none =>
    rw [before] at visited
    rw [visited.of_none]
    rfl
  | some entry =>
    rw [before] at visited
    obtain ⟨next, after, ok⟩ := visited.of_some
    rw [after]
    exact congrArg some (keeps name entry next ok)

theorem bindChain_settings (name : String) (entry next : Option RawChain)
    (visited : bindChain name entry = .ok next) :
    next.map RawChain.settings = entry.map RawChain.settings := by
  cases entry with
  | none => cases visited
  | some raw =>
    cases visited
    rfl

/-- Restoring a node writes its flags and its time only. -/
theorem restoreNode_settings (saved : Table String Time) (node : NodeConfig) :
    { State.restoreNode saved node with down := false, wasDown := false, downSince := 0 } =
      { node with down := false, wasDown := false, downSince := 0 } := by
  unfold State.restoreNode
  split
  · split <;> rfl
  · rfl

theorem markSaved_settings (nodesDown : Table String (Table String Time)) (name : String)
    (entry next : Option RawChain) (visited : markSaved nodesDown name entry = .ok next) :
    next.map RawChain.settings = entry.map RawChain.settings := by
  cases entry with
  | none =>
    cases visited
    rfl
  | some raw =>
    unfold markSaved at visited
    dsimp only at visited
    split at visited
    · cases visited
      rfl
    next saved _ =>
      split at visited
      · obtain ⟨nodes, read, visited⟩ := ok_of_bind visited
        cases visited
        have whole := (derefAll_ok_iff _ _).mp read
        simp [RawChain.settings, whole, Function.comp_def, restoreNode_settings]
      · cases visited
        rfl

theorem markNoNodes_settings (name : String) (entry next : Option RawChain)
    (visited : markNoNodes name entry = .ok next) :
    next.map RawChain.settings = entry.map RawChain.settings := by
  cases entry with
  | none => cases visited
  | some raw =>
    obtain ⟨nodes, -, visited⟩ := ok_of_bind visited
    cases visited
    rfl

theorem restoreRawBlocks_settings (blocks : Option (Table String (List Int))) (name : String)
    (raw : RawChain) : (restoreRawBlocks blocks name raw).settings = raw.settings := by
  unfold restoreRawBlocks State.restoreBlocks
  split <;> rfl

theorem restoreSavedState_settings {range : Range} {raw loaded : RawConfig} {saved : SavedState}
    {now : Time} (restored : restoreSavedState range raw saved now = .ok loaded) (name : String) :
    SameSettings raw.chains[name]? loaded.chains[name]? := by
  unfold restoreSavedState at restored
  obtain ⟨bound, binding, restored⟩ := ok_of_bind restored
  have first : SameSettings raw.chains[name]? bound[name]? :=
    Range.each_settings bindChain_settings binding name
  have second : SameSettings bound[name]?
      (bound.map fun name entry => entry.map (restoreRawBlocks saved.blocks name))[name]? := by
    rw [Std.ExtTreeMap.getElem?_map]
    simp [SameSettings, Function.comp_def, Option.map_map, restoreRawBlocks_settings]
  dsimp only at restored
  split at restored
  · cases restored
    exact first.trans second
  · obtain ⟨marked, marking, restored⟩ := ok_of_bind restored
    obtain ⟨counted, counting, restored⟩ := ok_of_bind restored
    cases restored
    exact ((first.trans second).trans
      (Range.each_settings (markSaved_settings _) marking name)).trans
      (Range.each_settings markNoNodes_settings counting name)

/-- What `loadConfig` returns has the chains of the two sources, with state added. -/
theorem loadConfig_settings {range : Range} {primary loaded : RawConfig} {entries : List DirEntry}
    {load : String → Except GoError RawChain} {state : Except GoError SavedState} {now : Time}
    (ok : loadConfig range primary entries load state now = .ok loaded) :
    ∃ chains, loadChainFiles load entries primary.chains = .ok chains ∧
      ∀ name : String, SameSettings chains[name]? loaded.chains[name]? := by
  unfold loadConfig at ok
  obtain ⟨chains, loading, ok⟩ := ok_of_bind ok
  split at ok
  · cases ok
  · obtain ⟨bound, binding, ok⟩ := ok_of_bind ok
    obtain ⟨saved, -, ok⟩ := ok_of_bind ok
    refine ⟨chains, ok_of_returned loading, fun name => ?_⟩
    exact (Range.each_settings bindChain_settings binding name).trans
      (restoreSavedState_settings ok name)

/-! ## Without null entries

A configuration without null entries is one of the model without pointers, and restoring
the saved state does the same to both.
-/

/-- The chain that the pointers describe. -/
def RawChain.Is (raw : RawChain) (chain : ChainConfig) : Prop :=
  ∃ whole : List NodeConfig, raw.nodes = whole.map some ∧ chain = { raw.chain with nodes := whole }

/-- The entries of one name in the two maps. -/
def Matches : Option (Option RawChain) → Option ChainConfig → Prop
  | none, none => True
  | some (some raw), some chain => raw.Is chain
  | _, _ => False

theorem Matches.of_some {entry : Option RawChain} {found : Option ChainConfig}
    (same : Matches (some entry) found) :
    ∃ raw chain, entry = some raw ∧ found = some chain ∧ raw.Is chain := by
  cases entry with
  | none => cases found <;> exact same.elim
  | some raw =>
    cases found with
    | none => exact same.elim
    | some chain => exact ⟨raw, chain, rfl, rfl, same⟩

theorem Matches.of_none {found : Option ChainConfig} (same : Matches none found) :
    found = none := by
  cases found with
  | none => rfl
  | some chain => exact same.elim

def RawConfig.Is (raw : RawConfig) (config : Config) : Prop :=
  ∃ whole : Table String ChainConfig, config = { raw.config with chains := whole } ∧
    ∀ name : String, Matches raw.chains[name]? whole[name]?

/-- A loop whose visits do what a function does to a chain. -/
theorem Range.each_matches (range : Range)
    {visit : String → Option RawChain → Exit (Option RawChain)}
    {change : String → ChainConfig → ChainConfig}
    (step : ∀ name raw chain, RawChain.Is raw chain →
      ∃ next, visit name (some raw) = .ok (some next) ∧ next.Is (change name chain))
    {chains : Table String (Option RawChain)} {whole : Table String ChainConfig}
    (before : ∀ name : String, Matches chains[name]? whole[name]?) :
    ∃ result, range.each visit chains = .ok result ∧
      ∀ name : String, Matches result[name]? (whole.map change)[name]? := by
  have total : ∀ (name : String) (entry : Option RawChain), chains[name]? = some entry →
      ∃ next, visit name entry = .ok next := by
    intro name entry there
    have own := before name
    rw [there] at own
    obtain ⟨raw, chain, rfl, -, same⟩ := own.of_some
    obtain ⟨next, ok, -⟩ := step name raw chain same
    exact ⟨some next, ok⟩
  obtain ⟨result, looped⟩ := Table.rangeM_total (range.complete chains) total
  refine ⟨result, looped, fun name => ?_⟩
  have own := before name
  have visited := Range.each_ok (show range.each visit chains = .ok result from looped) name
  rw [Std.ExtTreeMap.getElem?_map]
  cases there : chains[name]? with
  | none =>
    rw [there] at own visited
    rw [own.of_none, visited.of_none]
    trivial
  | some entry =>
    rw [there] at own visited
    obtain ⟨raw, chain, rfl, found, same⟩ := own.of_some
    obtain ⟨next, ok, kept⟩ := step name raw chain same
    obtain ⟨other, after, visited⟩ := visited.of_some
    rw [ok] at visited
    cases visited
    rw [found, after]
    exact kept

theorem restoreNode_of_zero {saved : Table String Time}
    (zero : (saved.toList.any fun entry => !entry.2.isZero) = false) (node : NodeConfig) :
    State.restoreNode saved node = node := by
  unfold State.restoreNode
  split
  next downSince found =>
    have member : (node.url, downSince) ∈ saved.toList :=
      Std.ExtTreeMap.mem_toList_iff_getElem?_eq_some.mpr found
    have none_ := List.any_eq_false.mp zero _ member
    simp only [Bool.not_eq_true', Bool.not_eq_false] at none_
    rw [if_pos none_]
  · rfl

/-- The saved outages of a chain. -/
def savedNodes (nodesDown : Table String (Table String Time)) (name : String)
    (chain : ChainConfig) : ChainConfig :=
  match nodesDown[name]? with
  | some saved => { chain with nodes := chain.nodes.map (State.restoreNode saved) }
  | none => chain

def countedNodes (_ : String) (chain : ChainConfig) : ChainConfig :=
  { chain with
    noNodes := if chain.nodes.countP (·.down) = chain.nodes.length then true else chain.noNodes }

theorem restoreNodes_eq (nodesDown : Table String (Table String Time)) (name : String)
    (chain : ChainConfig) :
    State.restoreNodes nodesDown name chain =
      countedNodes name (savedNodes nodesDown name chain) := by
  unfold State.restoreNodes countedNodes savedNodes
  cases nodesDown[name]? <;> rfl

theorem markSaved_is (nodesDown : Table String (Table String Time)) (name : String) (raw : RawChain)
    (chain : ChainConfig) (same : raw.Is chain) :
    ∃ next, markSaved nodesDown name (some raw) = .ok (some next) ∧
      next.Is (savedNodes nodesDown name chain) := by
  obtain ⟨whole, nodes, rfl⟩ := same
  unfold markSaved savedNodes
  cases nodesDown[name]? with
  | none => exact ⟨raw, rfl, whole, nodes, rfl⟩
  | some saved =>
    dsimp only
    cases zero : saved.toList.any fun entry => !entry.2.isZero with
    | true =>
      rw [if_pos rfl, nodes, derefAll_map_some]
      exact ⟨_, rfl, _, rfl, rfl⟩
    | false =>
      -- The loop has nothing to restore, and neither has the model for any node.
      rw [if_neg (by simp)]
      rw [show State.restoreNode saved = id from funext (restoreNode_of_zero zero), List.map_id]
      exact ⟨raw, rfl, whole, nodes, rfl⟩

theorem markNoNodes_is (name : String) (raw : RawChain) (chain : ChainConfig)
    (same : raw.Is chain) :
    ∃ next, markNoNodes name (some raw) = .ok (some next) ∧ next.Is (countedNodes name chain) := by
  obtain ⟨whole, nodes, rfl⟩ := same
  rw [markNoNodes, nodes, derefAll_map_some]
  exact ⟨_, rfl, whole, rfl, rfl⟩

theorem restoreBlocks_is (blocks : Option (Table String (List Int))) (name : String)
    (raw : RawChain) (chain : ChainConfig) (same : raw.Is chain) :
    (restoreRawBlocks blocks name raw).Is (State.restoreBlocks blocks name chain) := by
  obtain ⟨whole, nodes, rfl⟩ := same
  unfold restoreRawBlocks State.restoreBlocks
  split <;> exact ⟨whole, nodes, rfl⟩

/-- Without null entries nothing fails, and the state is restored as in the model without
pointers. -/
theorem restoreSavedState_is (range : Range) {raw : RawConfig} {config : Config}
    (same : raw.Is config) (saved : SavedState) (now : Time) :
    ∃ loaded, restoreSavedState range raw saved now = .ok loaded ∧
      loaded.Is (State.restoreSavedState config saved now) := by
  obtain ⟨whole, rfl, chains⟩ := same
  have present : ∀ name : String, raw.chains[name]? ≠ some none := by
    intro name null
    have own := chains name
    rw [null] at own
    obtain ⟨raw, -, wrong, -⟩ := own.of_some
    cases wrong
  have bound := (bindDurableState_ok_iff range raw.chains raw.chains).mpr ⟨rfl, present⟩
  have blocks : ∀ name : String, Matches
      (raw.chains.map fun name entry => entry.map (restoreRawBlocks saved.blocks name))[name]?
      (whole.map (State.restoreBlocks saved.blocks))[name]? := by
    intro name
    have own := chains name
    rw [Std.ExtTreeMap.getElem?_map, Std.ExtTreeMap.getElem?_map]
    cases there : raw.chains[name]? with
    | none =>
      rw [there] at own
      rw [own.of_none]
      trivial
    | some entry =>
      rw [there] at own
      obtain ⟨raw, chain, rfl, found, same⟩ := own.of_some
      rw [found]
      exact restoreBlocks_is saved.blocks name raw chain same
  unfold restoreSavedState State.restoreSavedState
  rw [bound]
  cases saved.nodesDown with
  | none => exact ⟨_, rfl, _, rfl, blocks⟩
  | some nodesDown =>
    obtain ⟨marked, marking, after⟩ := range.each_matches (markSaved_is nodesDown) blocks
    obtain ⟨counted, counting, last⟩ := range.each_matches markNoNodes_is after
    apply Exists.intro
    constructor
    · show (range.each _ _ >>= _) = _
      rw [marking]
      show (range.each _ _ >>= _) = _
      rw [counting]
      rfl
    · refine ⟨_, rfl, fun name => ?_⟩
      have own := last name
      simp only [Std.ExtTreeMap.getElem?_map, Option.map_map] at own ⊢
      simpa only [Function.comp_def, restoreNodes_eq] using own

end Seer.Runtime
