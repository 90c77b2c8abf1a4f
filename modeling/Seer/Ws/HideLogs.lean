import Seer.Lib.Concurrent
import Seer.Ws.Aggregator
import Seer.Node.Selection

/-!
# What the dashboard sees when logs are hidden

Three places send a chain's line to the dashboard: `validateConfig`, the websocket
aggregator and `newRpc`. One goroutine sends it log lines. Two runs are compared that
differ in the endpoints' URLs, in what is said about the nodes, and in the texts of the
alarms. What a publication reads of the nodes and of the alarm cache is an input of its
event; validator data and block results are followed in the state.
-/
namespace Seer.Ws

open Seer.Lib

/-- A line for the dashboard's log. -/
structure LogMessage where
  msgType : String := "log"
  ts : Int
  msg : String
  deriving DecidableEq

/-- `strings.TrimRight(strings.TrimLeft(text, "["), "]")`. -/
def trimBrackets (text : String) : String :=
  String.ofList ((text.toList.dropWhile (· = '[')).reverse.dropWhile (· = ']')).reverse

/-- The logging goroutine gets the arguments of a call of `l`, formatted. `made` says that
the channel is not nil. -/
def forwardLog (config : Config) (made : Bool) (ts : Int) (text : String) : List LogMessage :=
  if config.enableDash && !config.hideLogs && made then [{ ts := ts, msg := trimBrackets text }]
  else []

/-- An event that can lead to something on the dashboard. A log line is any call of `l`, by
whichever goroutine. -/
inductive DashEvent (γ : Type) where
  | connect (name : String)
  | validator (name : String) (next : ValInfo) (retainPrevious : Bool)
  | update (name : String) (update : StatusUpdate) (readings : Readings)
  | select (name : String) (nodes : List NodeConfig) (trials : Nat → Node.Trial γ)
      (fallback : Option (String × Node.Probed γ)) (alarms : AlarmCache)
  | log (made : Bool) (ts : Int) (text : String)

/-- The chains and what was sent to the dashboard, oldest first. -/
structure Dashboard where
  chains : Table String Aggregator
  statuses : List ChainStatus := []
  logs : List LogMessage := []

section Run
variable {γ : Type} (config : Config)

/-- One chain goes on and publishes. -/
def Dashboard.adjust (dash : Dashboard) (name : String)
    (change : Aggregator → Aggregator × List ChainStatus) : Dashboard :=
  match dash.chains[name]? with
  | none => dash
  | some agg =>
    { dash with
      chains := dash.chains.insert name (change agg).1
      statuses := dash.statuses ++ (change agg).2 }

/-- `newRpc` as a chain calls it, with the nodes and the alarms it finds. -/
def selectRound (nodes : List NodeConfig) (trials : Nat → Node.Trial γ)
    (fallback : Option (String × Node.Probed γ)) (alarms : AlarmCache) (agg : Aggregator) :
    Node.Rpc γ × Option GoError × List ChainStatus :=
  Node.newRpc { config with alarms := alarms }
    { chain := { agg.chain with nodes := nodes }
      activeAlerts := agg.activeAlerts
      lastError := agg.lastError } trials fallback

def dashStep (dash : Dashboard) : DashEvent γ → Dashboard
  | .connect name => dash.adjust name fun agg => ({ agg with signState := -1 }, [])
  | .validator name next retainPrevious => dash.adjust name fun agg =>
    ({ agg with chain := { agg.chain with
        monitoring := Watch.publishValidatorInfo agg.chain.monitoring next retainPrevious } }, [])
  | .update name update readings => dash.adjust name fun agg =>
    -- The validator's data is the snapshot that was published last.
    let (after, published) :=
      aggregate config agg update { readings with valInfo := agg.chain.monitoring.valInfo }
    (after, published.statuses)
  | .select name nodes trials fallback alarms => dash.adjust name fun agg =>
    -- `activeAlerts` and `lastError` are fields of the chain that the aggregator writes too.
    let (rpc, _, statuses) := selectRound config nodes trials fallback alarms agg
    ({ agg with
        chain := rpc.chain
        activeAlerts := rpc.activeAlerts
        lastError := rpc.lastError }, statuses)
  | .log made ts text => { dash with logs := dash.logs ++ forwardLog config made ts text }

/-- The dashboard after `validateConfig`. -/
def startDashboard (listen : String) (parses : Bool) (order : List String) : Dashboard :=
  let validated := Runtime.validateConfig listen parses order config
  { chains := validated.config.chains.map fun _ chain => { chain := chain }
    statuses := validated.statuses }

def dashRun (listen : String) (parses : Bool) (order : List String) (events : List (DashEvent γ)) :
    Dashboard :=
  events.foldl (dashStep config) (startDashboard config listen parses order)

end Run

/-! ## Agreement up to the hidden texts -/

def blankNode (node : NodeConfig) : NodeConfig := { node with url := "", lastMsg := "" }

def blankChain (chain : ChainConfig) : ChainConfig :=
  { chain with nodes := chain.nodes.map blankNode }

/-- The same settings and the same chains, up to URLs and what is said about the nodes. -/
structure SameConfig (left right : Config) : Prop where
  settings : { left with chains := ∅, alarms := {} } = { right with chains := ∅, alarms := {} }
  chains : ∀ name : String,
    (left.chains[name]?).map blankChain = (right.chains[name]?).map blankChain

theorem SameConfig.enableDash {left right : Config} (same : SameConfig left right) :
    left.enableDash = right.enableDash := by
  have both := congrArg Config.enableDash same.settings
  exact both

theorem SameConfig.hideLogs {left right : Config} (same : SameConfig left right) :
    left.hideLogs = right.hideLogs := by
  have both := congrArg Config.hideLogs same.settings
  exact both

/-- The same number of active alarms for every chain. -/
def SameCounts (left right : AlarmCache) : Prop :=
  ∀ chain, Alert.getCount left chain = Alert.getCount right chain

/-- The clocks may differ, and so may everything about the alarms but their number. -/
structure SameReadings (left right : Readings) : Prop where
  nodes : left.nodes.map blankNode = right.nodes.map blankNode
  counted : SameCounts left.counted right.counted

/-- Two events that differ only in the hidden texts. Of two calls of `newRpc` it is only
assumed that both fail or neither does. -/
inductive SameEvent {γ : Type} (left right : Config) (s t : Dashboard) :
    DashEvent γ → DashEvent γ → Prop
  | connect (name : String) : SameEvent left right s t (.connect name) (.connect name)
  | validator (name : String) (next : ValInfo) (retainPrevious : Bool) :
    SameEvent left right s t (.validator name next retainPrevious)
      (.validator name next retainPrevious)
  | update (name : String) (update : StatusUpdate) {readings readings' : Readings}
      (same : SameReadings readings readings') :
    SameEvent left right s t (.update name update readings) (.update name update readings')
  | select (name : String) {nodes nodes' : List NodeConfig} {trials trials' : Nat → Node.Trial γ}
      {fallback fallback' : Option (String × Node.Probed γ)} {alarms alarms' : AlarmCache}
      (same : nodes.map blankNode = nodes'.map blankNode) (counts : SameCounts alarms alarms')
      (failures : ∀ agg agg', s.chains[name]? = some agg → t.chains[name]? = some agg' →
        (selectRound left nodes trials fallback alarms agg).2.1.isSome =
          (selectRound right nodes' trials' fallback' alarms' agg').2.1.isSome) :
    SameEvent left right s t (.select name nodes trials fallback alarms)
      (.select name nodes' trials' fallback' alarms')

def IsLog {γ : Type} : DashEvent γ → Prop
  | .log _ _ _ => True
  | _ => False

/-- Two runs with the same events up to the hidden texts, and any log lines at all. -/
def SameRuns {γ : Type} (left right : Config) :
    Dashboard → Dashboard → List (DashEvent γ) → List (DashEvent γ) → Prop :=
  Paired (dashStep left) (dashStep right) (SameEvent left right) IsLog IsLog

/-! ## What is followed of a chain -/

/-- The part of a chain's state that its published lines are made of. -/
structure View where
  name : String
  chainId : String
  blocks : List Int
  valInfo : Option ValInfo
  signState : Int

def Aggregator.view (agg : Aggregator) : View where
  name := agg.chain.name
  chainId := agg.chain.chainId
  blocks := agg.chain.blocksResults
  valInfo := agg.chain.monitoring.valInfo
  signState := agg.signState

/-- The dashboards have received the same, from chains that are in the same state. -/
structure SameDashboard (s t : Dashboard) : Prop where
  chains : ∀ name : String,
    (s.chains[name]?).map Aggregator.view = (t.chains[name]?).map Aggregator.view
  statuses : s.statuses = t.statuses

section Nodes
variable {nodes nodes' : List NodeConfig}

theorem length_of_blank (same : nodes.map blankNode = nodes'.map blankNode) :
    nodes.length = nodes'.length := by
  simpa using congrArg List.length same

theorem healthy_of_blank (same : nodes.map blankNode = nodes'.map blankNode) :
    nodes.countP (!·.down) = nodes'.countP (!·.down) := by
  have through : ∀ nodes : List NodeConfig,
      nodes.countP (!·.down) = (nodes.map blankNode).countP (!·.down) := by
    intro nodes
    rw [List.countP_map]
    rfl
  rw [through nodes, through nodes', same]

@[simp] theorem nodeLines_hidden (nodes : List NodeConfig) : nodeLines true nodes = "" := by
  -- No line is ever appended, whatever has been collected.
  have fixed : ∀ info : String, nodes.foldl (fun info node =>
      if node.down && !true then info ++ "\n - " ++ node.lastMsg else info) info = info := by
    induction nodes with
    | nil => exact fun _ => rfl
    | cons node later ih =>
      intro info
      simp
  exact fixed ""

@[simp] theorem getAlarms_hidden (cache : AlarmCache) (chain : String) (order : List String) :
    getAlarms true cache chain order = "" := rfl

end Nodes

section Rounds
variable {left right : Config} {agg agg' : Aggregator}

/-- A finished block publishes the same line. -/
theorem finishBlock_same (hiddenLeft : left.hideLogs = true) (hiddenRight : right.hideLogs = true)
    (dash : left.enableDash = right.enableDash) (same : agg.view = agg'.view) (height : Int)
    (valInfo : ValInfo) {readings readings' : Readings} (alike : SameReadings readings readings') :
    (finishBlock left agg height valInfo readings).1.view =
        (finishBlock right agg' height valInfo readings').1.view ∧
      (finishBlock left agg height valInfo readings).2.statuses =
        (finishBlock right agg' height valInfo readings').2.statuses := by
  obtain ⟨name, chainId, blocks, info, signState⟩ := View.mk.inj same
  have count := alike.counted agg'.chain.name
  -- The text is the warning and the validator's line only: alarms and nodes add nothing.
  constructor
  · simp [finishBlock, Aggregator.view, State.recordBlockResult, name, chainId, blocks, info, signState]
  · simp [finishBlock, State.recordBlockResult, hiddenLeft, hiddenRight, dash, name, chainId, blocks,
      signState, count, length_of_blank alike.nodes, healthy_of_blank alike.nodes]

theorem aggregate_same (hiddenLeft : left.hideLogs = true) (hiddenRight : right.hideLogs = true)
    (dash : left.enableDash = right.enableDash) (same : agg.view = agg'.view)
    (update : StatusUpdate) {readings readings' : Readings} (alike : SameReadings readings readings')
    (valInfo : readings.valInfo = readings'.valInfo) :
    (aggregate left agg update readings).1.view = (aggregate right agg' update readings').1.view ∧
      (aggregate left agg update readings).2.statuses =
        (aggregate right agg' update readings').2.statuses := by
  unfold aggregate
  rw [← valInfo]
  cases readings.valInfo with
  | none => exact ⟨same, rfl⟩
  | some valInfo =>
    obtain ⟨name, chainId, blocks, info, signState⟩ := View.mk.inj same
    dsimp only
    -- The raised status depends on the update and the validator alone.
    have raise : ({ agg with signState := raised agg.signState update.status valInfo.bonded } :
        Aggregator).view = ({ agg' with
          signState := raised agg'.signState update.status valInfo.bonded } : Aggregator).view := by
      simp [Aggregator.view, name, chainId, blocks, info, signState]
    split
    · exact ⟨raise, rfl⟩
    · exact finishBlock_same hiddenLeft hiddenRight dash raise update.height valInfo alike

end Rounds

section Selecting
variable {γ : Type} {left right : Config} {agg agg' : Aggregator} {nodes nodes' : List NodeConfig}
  {trials trials' : Nat → Node.Trial γ} {fallback fallback' : Option (String × Node.Probed γ)}
  {alarms alarms' : AlarmCache}

/-- The line that `newRpc` publishes for a chain when it gives up. -/
def failedLine (view : View) (nodes alerts : Nat) : ChainStatus :=
  let valInfo := view.valInfo.getD {}
  { name := view.name
    chainId := view.chainId
    moniker := valInfo.moniker
    bonded := valInfo.bonded
    jailed := valInfo.jailed
    tombstoned := valInfo.tombstoned
    missed := valInfo.missed
    window := valInfo.window
    nodes := nodes
    activeAlerts := alerts
    lastError := "no usable RPC endpoints available for " ++ view.chainId
    blocks := view.blocks }

/-- No endpoint's text is in what `newRpc` publishes, nor in what is followed of the chain. -/
theorem selectRound_public :
    (selectRound left nodes trials fallback alarms agg).2.2 =
        (if (selectRound left nodes trials fallback alarms agg).2.1.isSome && left.enableDash then
          [failedLine agg.view nodes.length (Alert.getCount alarms agg.chain.name)]
        else []) ∧
      ∀ activeAlerts lastError, ({ agg with
        chain := (selectRound left nodes trials fallback alarms agg).1.chain
        activeAlerts := activeAlerts
        lastError := lastError } : Aggregator).view = agg.view := by
  unfold selectRound
  rcases Node.newRpc_cases { left with alarms := alarms } _ trials fallback with
    ⟨client, taken⟩ | failed
  · rw [taken]
    exact ⟨rfl, fun _ _ => rfl⟩
  · rw [failed]
    refine ⟨?_, fun _ _ => rfl⟩
    simp [Node.unusableStatus, Node.Rpc.giveUp, Node.length_triedNodes, failedLine, Aggregator.view]

theorem selectRound_same (dash : left.enableDash = right.enableDash) (same : agg.view = agg'.view)
    (alike : nodes.map blankNode = nodes'.map blankNode) (counts : SameCounts alarms alarms')
    (failures : (selectRound left nodes trials fallback alarms agg).2.1.isSome =
      (selectRound right nodes' trials' fallback' alarms' agg').2.1.isSome) :
    (selectRound left nodes trials fallback alarms agg).2.2 =
      (selectRound right nodes' trials' fallback' alarms' agg').2.2 := by
  have name : agg.chain.name = agg'.chain.name := congrArg View.name same
  rw [selectRound_public.1, selectRound_public.1, failures, dash, same, name,
    counts agg'.chain.name, length_of_blank alike]

end Selecting

/-! ## Both runs, step by step -/

section Runs
variable {γ : Type} {left right : Config} {s t : Dashboard}

theorem SameDashboard.adjust (same : SameDashboard s t) (name : String)
    {change change' : Aggregator → Aggregator × List ChainStatus}
    (keeps : ∀ agg agg', s.chains[name]? = some agg → t.chains[name]? = some agg' →
      agg.view = agg'.view →
      (change agg).1.view = (change' agg').1.view ∧ (change agg).2 = (change' agg').2) :
    SameDashboard (s.adjust name change) (t.adjust name change') := by
  have here := same.chains name
  unfold Dashboard.adjust
  cases found : s.chains[name]? with
  | none =>
    rw [found] at here
    have missing : t.chains[name]? = none := Option.map_eq_none_iff.mp here.symm
    rw [missing]
    exact same
  | some agg =>
    rw [found, Option.map_some] at here
    obtain ⟨agg', found', view⟩ := Option.map_eq_some_iff.mp here.symm
    obtain ⟨views, lines⟩ := keeps agg agg' found found' view.symm
    rw [found']
    refine ⟨fun other => ?_, ?_⟩
    · dsimp only
      rw [Table.get_insert, Table.get_insert]
      split
      · simp [views]
      · exact same.chains other
    · dsimp only
      rw [same.statuses, lines]

/-- Events that differ in the hidden texts only keep the dashboards the same. -/
theorem SameDashboard.step (hiddenLeft : left.hideLogs = true) (hiddenRight : right.hideLogs = true)
    (dash : left.enableDash = right.enableDash) (same : SameDashboard s t)
    {event event' : DashEvent γ} (alike : SameEvent left right s t event event') :
    SameDashboard (dashStep left s event) (dashStep right t event') := by
  cases alike with
  | connect name =>
    refine same.adjust name fun agg agg' _ _ view => ⟨?_, rfl⟩
    obtain ⟨name, chainId, blocks, info, _⟩ := View.mk.inj view
    simp [Aggregator.view, name, chainId, blocks, info]
  | validator name next retainPrevious =>
    refine same.adjust name fun agg agg' _ _ view => ⟨?_, rfl⟩
    obtain ⟨name, chainId, blocks, _, signState⟩ := View.mk.inj view
    simp [Aggregator.view, Watch.publishValidatorInfo, name, chainId, blocks, signState]
  | update name update read =>
    refine same.adjust name fun agg agg' _ _ view => ?_
    exact aggregate_same hiddenLeft hiddenRight dash view update ⟨read.nodes, read.counted⟩
      (congrArg View.valInfo view)
  | select name nodes counts failures =>
    refine same.adjust name fun agg agg' found found' view => ⟨?_, ?_⟩
    -- The nodes that were tried may differ; they are not part of the view.
    · exact (selectRound_public.2 _ _).trans (view.trans (selectRound_public.2 _ _).symm)
    · exact selectRound_same dash view nodes counts (failures agg agg' found found')

/-- A log line changes neither chains nor lines. -/
theorem dashStep_log {event : DashEvent γ} (log : IsLog event) :
    (dashStep left s event).chains = s.chains ∧ (dashStep left s event).statuses = s.statuses := by
  cases event with
  | log made ts text => exact ⟨rfl, rfl⟩
  | _ => exact log.elim

theorem SameDashboard.run (hiddenLeft : left.hideLogs = true) (hiddenRight : right.hideLogs = true)
    (dash : left.enableDash = right.enableDash) (start : SameDashboard s t)
    {events events' : List (DashEvent γ)} (runs : SameRuns left right s t events events') :
    SameDashboard (events.foldl (dashStep left) s) (events'.foldl (dashStep right) t) := by
  refine Paired.preserves ?_ ?_ ?_ runs start
  · exact fun _ _ _ _ same alike => same.step hiddenLeft hiddenRight dash alike
  · intro s t event same log
    have quiet : (dashStep left s event).chains = s.chains ∧
        (dashStep left s event).statuses = s.statuses := dashStep_log log
    obtain ⟨chains, statuses⟩ := quiet
    exact ⟨by rw [chains]; exact same.chains, by rw [statuses]; exact same.statuses⟩
  · intro s t event same log
    have quiet : (dashStep right t event).chains = t.chains ∧
        (dashStep right t event).statuses = t.statuses := dashStep_log log
    obtain ⟨chains, statuses⟩ := quiet
    exact ⟨by rw [chains]; exact same.chains, by rw [statuses]; exact same.statuses⟩

end Runs

/-! ## The start -/

section Start
variable {left right : Config}

/-- What the first line of a chain is made of. -/
def startView (chain : ChainConfig) : View × Nat :=
  (({ chain := chain } : Aggregator).view, chain.nodes.length)

theorem startView_of_blank {chain chain' : ChainConfig} (same : blankChain chain = blankChain chain') :
    startView chain = startView chain' := by
  have through : ∀ chain : ChainConfig, startView chain = startView (blankChain chain) := by
    intro chain
    simp [startView, Aggregator.view, blankChain]
  rw [through chain, through chain', same]

/-- Two walks of `validateConfig` at the same chain. -/
structure SameWalk (walk walk' : Runtime.Validated) : Prop where
  dash : walk.config.enableDash = walk'.config.enableDash
  chains : ∀ name : String,
    (walk.config.chains[name]?).map startView = (walk'.config.chains[name]?).map startView
  statuses : walk.statuses = walk'.statuses

theorem validateChain_same (left right : Config) (name : String) {chain chain' : ChainConfig}
    (same : startView chain = startView chain') :
    startView (Runtime.validateChain left name chain) =
      startView (Runtime.validateChain right name chain') := by
  obtain ⟨view, nodes⟩ := Prod.mk.inj same
  obtain ⟨named, chainId, blocks, _, _⟩ := View.mk.inj view
  have named : chain.name = chain'.name := named
  have chainId : chain.chainId = chain'.chainId := chainId
  have blocks : chain.blocksResults = chain'.blocksResults := blocks
  simp [startView, Aggregator.view, Runtime.validateChain, Watch.publishValidatorInfo, named, chainId,
    blocks, nodes]

theorem initialStatus_same {chain chain' : ChainConfig} (same : startView chain = startView chain') :
    Runtime.initialStatus chain = Runtime.initialStatus chain' := by
  obtain ⟨view, nodes⟩ := Prod.mk.inj same
  obtain ⟨named, chainId, blocks, info, _⟩ := View.mk.inj view
  have named : chain.name = chain'.name := named
  have chainId : chain.chainId = chain'.chainId := chainId
  have blocks : chain.blocksResults = chain'.blocksResults := blocks
  have info : chain.monitoring.valInfo = chain'.monitoring.valInfo := info
  simp [Runtime.initialStatus, named, chainId, blocks, info, nodes]

theorem SameWalk.step {walk walk' : Runtime.Validated} (same : SameWalk walk walk') (name : String) :
    SameWalk (Runtime.validateStep walk name) (Runtime.validateStep walk' name) := by
  have here := same.chains name
  unfold Runtime.validateStep
  cases found : walk.config.chains[name]? with
  | none =>
    rw [found] at here
    have missing : walk'.config.chains[name]? = none := Option.map_eq_none_iff.mp here.symm
    rw [missing]
    exact same
  | some chain =>
    rw [found, Option.map_some] at here
    obtain ⟨chain', found', view⟩ := Option.map_eq_some_iff.mp here.symm
    have validated := validateChain_same walk.config walk'.config name view.symm
    rw [found']
    refine ⟨same.dash, fun other => ?_, ?_⟩
    · dsimp only
      rw [Table.get_insert, Table.get_insert]
      split
      · simp [validated]
      · exact same.chains other
    · dsimp only
      rw [same.statuses, same.dash, initialStatus_same validated]

theorem startDashboard_same (same : SameConfig left right) (listen : String) (parses : Bool)
    (order : List String) :
    SameDashboard (startDashboard left listen parses order)
      (startDashboard right listen parses order) := by
  have begin : SameWalk (Runtime.validateGlobal listen parses left)
      (Runtime.validateGlobal listen parses right) := by
    refine ⟨same.enableDash, fun name => ?_, rfl⟩
    have here := same.chains name
    -- A view does not see what is blanked, so equal blank chains have equal views.
    have through : startView = startView ∘ blankChain :=
      funext fun chain => startView_of_blank (by simp [blankChain, Function.comp_def, blankNode])
    change (left.chains[name]?).map startView = (right.chains[name]?).map startView
    rw [through, ← Option.map_map, ← Option.map_map, here]
  -- Both walks visit the chains in the same order.
  have walked : ∀ walk walk', SameWalk walk walk' →
      SameWalk (order.foldl Runtime.validateStep walk) (order.foldl Runtime.validateStep walk') := by
    induction order with
    | nil => exact fun _ _ same => same
    | cons name later ih => exact fun _ _ same => ih _ _ (same.step name)
  have ended := walked _ _ begin
  refine ⟨fun name => ?_, ended.statuses⟩
  have here := congrArg (Option.map Prod.fst) (ended.chains name)
  simpa [startDashboard, Runtime.validateConfig, Function.comp_def, startView] using here

end Start

/-- Nothing is ever sent to the dashboard's log. -/
theorem dashStep_logs {γ : Type} {config : Config} (hidden : config.hideLogs = true)
    (dash : Dashboard) (event : DashEvent γ) : (dashStep config dash event).logs = dash.logs := by
  cases event with
  | log made ts text => simp [dashStep, forwardLog, hidden]
  | _ =>
    dsimp only [dashStep, Dashboard.adjust]
    split <;> rfl

theorem dashRun_logs {γ : Type} {config : Config} (hidden : config.hideLogs = true)
    (listen : String) (parses : Bool) (order : List String) (events : List (DashEvent γ)) :
    (dashRun config listen parses order events).logs = [] := by
  have kept : ∀ dash, (events.foldl (dashStep config) dash).logs = dash.logs := by
    induction events with
    | nil => exact fun _ => rfl
    | cons event later ih =>
      intro dash
      rw [List.foldl_cons, ih, dashStep_logs hidden]
  exact kept _

/-- With logs hidden, two runs that differ only in the endpoints' URLs, in what is said
about the nodes and in the texts of the alarms send the same lines to the dashboard, and
no log line. -/
theorem hidden_logs_noninterference {γ : Type} (left right : Config) (listen : String)
    (parses : Bool) (order : List String) (events events' : List (DashEvent γ))
    (hidden : left.hideLogs = true) (same : SameConfig left right)
    (runs : SameRuns left right (startDashboard left listen parses order)
      (startDashboard right listen parses order) events events') :
    (dashRun left listen parses order events).statuses =
        (dashRun right listen parses order events').statuses ∧
      (dashRun left listen parses order events).logs = [] ∧
      (dashRun right listen parses order events').logs = [] := by
  have hidden' : right.hideLogs = true := same.hideLogs.symm.trans hidden
  refine ⟨?_, dashRun_logs hidden _ _ _ _, dashRun_logs hidden' _ _ _ _⟩
  exact ((startDashboard_same same listen parses order).run hidden hidden' same.enableDash
    runs).statuses

/-- A dashboard with hidden logs and one chain with one endpoint. -/
def hiddenConfig (url : String) : Config :=
  { enableDash := true
    hideLogs := true
    chains := (∅ : Table String ChainConfig).insert "osmosis"
      { chainId := "osmosis-1", nodes := [{ url := url }] } }

def oneAlarm (text : String) : AlarmCache :=
  { allAlarms := (∅ : Table String (Table String Time)).insert "osmosis"
      ((∅ : Table String Time).insert text 0) }

def downNode (url text : String) : NodeConfig := { url := url, down := true, lastMsg := text }

/-- A missed block while the endpoint is down, and then no endpoint can be used. -/
def missedBlock (url text : String) : List (DashEvent Unit) :=
  let now : Instant := ⟨unixEpoch, Int.le_refl _⟩
  [.connect "osmosis", .validator "osmosis" { moniker := "val", bonded := true } false,
    .update "osmosis" { height := 40, final := true }
      { valInfo := none, now := now, listed := oneAlarm text, order := [text],
        nodes := [downNode url text], counted := oneAlarm text },
    .log true 7 text,
    .select "osmosis" [downNode url text] (fun _ => ⟨.unopened text, now⟩) none (oneAlarm text)]

theorem oneAlarm_counts (text text' : String) : SameCounts (oneAlarm text) (oneAlarm text') := by
  intro chain
  by_cases here : "osmosis" = chain
  · have size : ∀ text : String, ((∅ : Table String Time).insert text 0).size = 1 := by
      intro text
      simp [Std.ExtTreeMap.size_insert]
    simp only [Alert.getCount, oneAlarm, Table.get_insert, here, if_true, size]
  · simp [Alert.getCount, oneAlarm, here]

theorem hidden_logs_noninterference_missed_block :
    let left := dashRun (hiddenConfig "http://a") "" true ["osmosis"] (missedBlock "http://a" "dial a")
    let right := dashRun (hiddenConfig "http://b") "" true ["osmosis"] (missedBlock "http://b" "refused")
    left.statuses.map (·.lastError) =
        ["", "❌ warning      val missed block 40 on osmosis-1\n",
          "no usable RPC endpoints available for osmosis-1"] ∧
      left.statuses = right.statuses ∧ left.logs = [] ∧ right.logs = [] := by
  refine ⟨by decide +kernel, ?_⟩
  apply hidden_logs_noninterference _ _ "" true ["osmosis"] _ _ rfl
  · refine ⟨rfl, fun name => ?_⟩
    simp only [hiddenConfig, Table.get_insert]
    split <;> simp [blankChain, blankNode]
  · refine .both (.connect _) (.both (.validator _ _ _) (.both (.update _ _ ?_)
      (.onlyLeft trivial (.onlyRight trivial (.both (.select _ ?_ ?_ ?_) .done)))))
    · exact ⟨rfl, oneAlarm_counts _ _⟩
    · rfl
    · exact oneAlarm_counts _ _
    · intro agg agg' _ _
      simp [selectRound, Node.newRpc, Node.tryNodes, Node.tryURL]

end Seer.Ws
