import Seer.Lib.Lag
import Seer.Lib.Machine
import Seer.Ws.Session

/-!
# The exported metrics

Every aggregator publishes its counters one after the other over one channel, in which the
updates of all producers are mixed, and the exporter sets one gauge at a time. So at a given
moment the gauges can show some counters of a block and not yet the others. It is shown that
they never contradict each other: that is due to the order in which they are sent. A scrape
collects the gauges one after the other while they go on, so it can see more than one moment.
-/
namespace Seer.Metrics

open Seer.Lib Seer.Ws

inductive MetricType where
  | signed
  | proposed
  | missed
  | prevote
  | precommit
  | consecutive
  | windowMissed
  | windowSize
  | lastBlockSeconds
  | lastBlockSecondsNotFinal
  | totalNodes
  | unhealthyNodes
  | nodeLagSeconds
  | nodeDownSeconds
  deriving DecidableEq, Repr

/-- The value is a float in the source; one in seconds is in nanoseconds here. -/
structure PromUpdate where
  metric : MetricType
  counter : Int
  name : String
  chainId : String
  moniker : String
  endpoint : String
  deriving DecidableEq

def monikerOf : Option ValInfo → String
  | some valInfo => valInfo.moniker
  | none => ""

def mkUpdate (chain : ChainConfig) (valInfo : Option ValInfo) (metric : MetricType) (value : Int)
    (node : String) : PromUpdate :=
  { metric := metric
    counter := value
    name := chain.name
    chainId := chain.chainId
    moniker := monikerOf valInfo
    endpoint := node }

/-! ## The gauges -/

structure Labels where
  name : String
  chainId : String
  moniker : String
  endpoint : Option String := none
  deriving DecidableEq

/-- The metrics that have a gauge for each endpoint. -/
def MetricType.perHost (metric : MetricType) : Bool :=
  metric = .nodeLagSeconds ∨ metric = .nodeDownSeconds

def PromUpdate.labels (update : PromUpdate) : Labels :=
  { name := update.name
    chainId := update.chainId
    moniker := update.moniker
    endpoint := if update.metric.perHost then some update.endpoint else none }

def chainLabels : List String := ["name", "chain_id", "moniker"]

def hostLabels : List String := ["name", "chain_id", "moniker", "endpoint"]

/-- The name of each gauge and the labels it is registered with. -/
def MetricType.gauge : MetricType → String × List String
  | .signed => ("tenderduty_signed_blocks", chainLabels)
  | .proposed => ("tenderduty_proposed_blocks", chainLabels)
  | .missed => ("tenderduty_missed_blocks", chainLabels)
  | .prevote => ("tenderduty_missed_blocks_prevote_present", chainLabels)
  | .precommit => ("tenderduty_missed_blocks_precommit_present", chainLabels)
  | .consecutive => ("tenderduty_consecutive_missed_blocks", chainLabels)
  | .windowMissed => ("tenderduty_missed_blocks_for_window", chainLabels)
  | .windowSize => ("tenderduty_missed_block_window", chainLabels)
  | .lastBlockSeconds => ("tenderduty_time_since_last_block", chainLabels)
  | .lastBlockSecondsNotFinal => ("tenderduty_time_since_last_block_unfinalized", chainLabels)
  | .totalNodes => ("tenderduty_total_monitored_endpoints", chainLabels)
  | .unhealthyNodes => ("tenderduty_total_unhealthy_endpoints", chainLabels)
  | .nodeLagSeconds => ("tenderduty_endpoint_syncing_seconds_behind", hostLabels)
  | .nodeDownSeconds => ("tenderduty_endpoint_down_seconds", hostLabels)

/-- The labels that `setStat` fills in. -/
def PromUpdate.labelNames (update : PromUpdate) : List String :=
  chainLabels ++ if update.metric.perHost then ["endpoint"] else []

/-- `With` panics on labels other than the registered ones. -/
theorem labelNames_registered (update : PromUpdate) :
    update.labelNames = update.metric.gauge.2 := by
  cases metric : update.metric <;> simp [PromUpdate.labelNames, metric, MetricType.perHost,
    MetricType.gauge, chainLabels, hostLabels]

/-- The keys of the exporter's map from metrics to gauges. -/
def metrics : List MetricType :=
  [.signed, .proposed, .missed, .prevote, .precommit, .consecutive, .windowMissed, .windowSize,
    .lastBlockSeconds, .lastBlockSecondsNotFinal, .totalNodes, .unhealthyNodes, .nodeLagSeconds,
    .nodeDownSeconds]

/-- A metric without a gauge would be a nil pointer. -/
theorem mem_metrics (metric : MetricType) : metric ∈ metrics := by
  cases metric <;> decide

/-- Registering a name twice panics. -/
theorem nodup_gauges : (metrics.map (·.gauge.1)).Nodup := by
  decide

/-- The series that are exported. -/
abbrev Gauges : Type := MetricType → Labels → Option Int

def setStat (gauges : Gauges) (update : PromUpdate) : Gauges :=
  fun metric labels =>
    if metric = update.metric ∧ labels = update.labels then some update.counter
    else gauges metric labels

/-! ## The producers and the exporter -/

/-- Where the aggregator of a chain is. -/
inductive Phase where
  | ready
  /-- At the time since the last block, which comes before the result is recorded. -/
  | timing (round : Round) (update : PromUpdate)
  | publishing (rest : List PromUpdate)

structure Line where
  agg : Aggregator
  phase : Phase := .ready

structure System where
  lines : String → Line
  /-- `statsChan`. -/
  queue : List PromUpdate := []
  gauges : Gauges := fun _ _ => none

/-- The metrics of a recorded block; every one reads the validator anew for its label. -/
def blockUpdates (agg : Aggregator) (readings : Readings) (valInfo : MetricType → Option ValInfo) :
    List PromUpdate :=
  let mk (metric : MetricType) (value : Int) := mkUpdate agg.chain (valInfo metric) metric value ""
  [mk .signed agg.counters.totalSigns,
    mk .proposed agg.counters.totalProps,
    mk .missed agg.counters.totalMiss,
    mk .prevote agg.counters.prevoteMiss,
    mk .precommit agg.counters.precommitMiss,
    mk .consecutive agg.counters.consecutiveMiss,
    mk .unhealthyNodes (readings.nodes.length - readings.nodes.countP (!·.down))]

inductive Step where
  /-- An aggregator takes an update; at a block it first reports the time since the last. -/
  | take (name : String) (round : Round) (valInfo : Option ValInfo) (sinceLast : Duration)
  /-- The time is sent, and the block is recorded. -/
  | record (name : String) (valInfo : MetricType → Option ValInfo)
  | publish (name : String)
  /-- `emitStat` gives up because the session's context has ended. -/
  | cut (name : String)
  /-- A session ends between two updates. -/
  | restart (name : String)
  /-- What `watch`, the probes and the refresh of the validator send. -/
  | other (update : PromUpdate)
  /-- The exporter takes the next update. -/
  | exported

/-- The metrics that only an aggregator sends. -/
def MetricType.ofBlocks (metric : MetricType) : Bool :=
  metric ∈ [.signed, .proposed, .missed, .prevote, .precommit, .consecutive, .lastBlockSeconds,
    .unhealthyNodes]

section Steps
variable (config : Config) (capacity : Nat)

def System.setLine (system : System) (name : String) (line : Line) : System :=
  { system with lines := fun other => if other = name then line else system.lines other }

/-- The status that was collected is a variable of the session. -/
def newSession (agg : Aggregator) : Aggregator := { agg with signState := -1 }

/-- A send that goes through. -/
def System.send (system : System) (update : PromUpdate) : Option System :=
  if system.queue.length < capacity then some { system with queue := system.queue ++ [update] }
  else none

def step (system : System) : Step → Option System
  | .take name round valInfo sinceLast =>
    let line := system.lines name
    match line.phase with
    | .ready =>
      if round.closes then
        let update := mkUpdate line.agg.chain valInfo .lastBlockSeconds sinceLast ""
        some (system.setLine name { line with phase := .timing round update })
      else some (system.setLine name
        { line with agg := (aggregate config line.agg round.update round.readings).1 })
    | _ => none
  | .record name valInfo =>
    let line := system.lines name
    match line.phase with
    | .timing round update =>
      let agg := (aggregate config line.agg round.update round.readings).1
      (system.send capacity update).map (·.setLine name
        { agg := agg, phase := .publishing (blockUpdates agg round.readings valInfo) })
    | _ => none
  | .publish name =>
    let line := system.lines name
    match line.phase with
    | .publishing (update :: rest) =>
      (system.send capacity update).map (·.setLine name
        { line with phase := if rest = [] then .ready else .publishing rest })
    | _ => none
  | .cut name =>
    let line := system.lines name
    match line.phase with
    | .ready => none
    | .timing round _ =>
      -- The time comes first, so the block is neither recorded nor counted.
      some (system.setLine name { agg := newSession (cutShort line.agg round) })
    -- The block is counted, and the next one brings the numbers that were not sent.
    | .publishing _ => some (system.setLine name { agg := newSession line.agg })
  | .restart name =>
    let line := system.lines name
    match line.phase with
    | .ready => some (system.setLine name { agg := newSession line.agg })
    | _ => none
  | .other update => if update.metric.ofBlocks then none else system.send capacity update
  | .exported => match system.queue with
    | [] => none
    | update :: later =>
      some { system with queue := later, gauges := setStat system.gauges update }

end Steps

/-- The process at its start. -/
def start (chains : String → ChainConfig) : System :=
  { lines := fun name => { agg := freshAggregator (chains name) } }

/-! ## What the counters keep -/

theorem newSession_counters (agg : Aggregator) : (newSession agg).counters = agg.counters := rfl

structure Lawful (counters : Counters) : Prop where
  proposed : counters.totalProps ≤ counters.totalSigns
  misses : counters.prevoteMiss + counters.precommitMiss ≤ counters.totalMiss
  consecutive : counters.consecutiveMiss ≤ counters.totalMiss

/-- The counters that never go down. -/
structure Grown (before after : Counters) : Prop where
  signs : before.totalSigns ≤ after.totalSigns
  props : before.totalProps ≤ after.totalProps
  misses : before.totalMiss ≤ after.totalMiss
  prevotes : before.prevoteMiss ≤ after.prevoteMiss
  precommits : before.precommitMiss ≤ after.precommitMiss

theorem Grown.refl (counters : Counters) : Grown counters counters := by
  constructor <;> exact Nat.le_refl _

theorem Lawful.tally {counters : Counters} (lawful : Lawful counters) (signState : Int) :
    Lawful (counters.tally signState) := by
  obtain ⟨proposed, misses, consecutive⟩ := lawful
  unfold Counters.tally
  split_ifs <;> constructor <;> grind

theorem grown_tally (counters : Counters) (signState : Int) :
    Grown counters (counters.tally signState) := by
  unfold Counters.tally
  split_ifs <;> constructor <;> grind

/-- What a round does to the fields that the metrics read. -/
theorem aggregate_kept (config : Config) (agg : Aggregator) (update : StatusUpdate)
    (readings : Readings) :
    (aggregate config agg update readings).1.chain.name = agg.chain.name ∧
      Grown agg.counters (aggregate config agg update readings).1.counters ∧
      (Lawful agg.counters → Lawful (aggregate config agg update readings).1.counters) := by
  unfold aggregate
  cases readings.valInfo with
  | none => exact ⟨rfl, .refl _, id⟩
  | some valInfo =>
    dsimp only
    split
    · exact ⟨rfl, .refl _, id⟩
    · exact ⟨rfl, grown_tally _ _, fun lawful => lawful.tally _⟩

theorem cutShort_kept (agg : Aggregator) (round : Round) :
    (cutShort agg round).chain.name = agg.chain.name ∧
      (cutShort agg round).counters = agg.counters := by
  unfold cutShort
  split <;> exact ⟨rfl, rfl⟩

/-! ## What the gauges show -/

/-- The number shown for a chain; a series that is not there counts as zero. -/
def shown (labels : Labels) (gauges : Gauges) (metric : MetricType) : Int :=
  (gauges metric labels).getD 0

/-- The numbers shown do not contradict each other, and are not ahead of the counters. -/
structure Fine (labels : Labels) (counters : Counters) (gauges : Gauges) : Prop where
  proposed : shown labels gauges .proposed ≤ shown labels gauges .signed
  parts : shown labels gauges .prevote + shown labels gauges .precommit ≤
    shown labels gauges .missed
  consecutive : shown labels gauges .consecutive ≤ shown labels gauges .missed
  signs : shown labels gauges .signed ≤ counters.totalSigns
  props : shown labels gauges .proposed ≤ counters.totalProps
  misses : shown labels gauges .missed ≤ counters.totalMiss
  prevotes : shown labels gauges .prevote ≤ counters.prevoteMiss
  precommits : shown labels gauges .precommit ≤ counters.precommitMiss

theorem shown_setStat (labels : Labels) (gauges : Gauges) (update : PromUpdate)
    (metric : MetricType) :
    shown labels (setStat gauges update) metric =
      if metric = update.metric ∧ labels = update.labels then update.counter
      else shown labels gauges metric := by
  unfold shown setStat
  split <;> rfl

/-- The metrics that are counters of blocks. -/
def MetricType.counted (metric : MetricType) : Bool :=
  metric ∈ [.signed, .proposed, .missed, .prevote, .precommit, .consecutive]

theorem ofBlocks_of_counted {metric : MetricType} (counted : metric.counted = true) :
    metric.ofBlocks = true := by
  cases metric <;> first | rfl | cases counted

/-- The counters of the chain are shown alike. -/
def Same (labels : Labels) (gauges others : Gauges) : Prop :=
  ∀ metric, metric.counted = true → shown labels others metric = shown labels gauges metric

section Views
variable {labels : Labels} {gauges others : Gauges} {counters : Counters} {update : PromUpdate}

theorem same_setStat (foreign : update.metric.counted = true → labels ≠ update.labels) :
    Same labels gauges (setStat gauges update) := by
  intro metric counted
  rw [shown_setStat, if_neg]
  rintro ⟨rfl, own⟩
  exact foreign counted own

theorem Fine.same (fine : Fine labels counters gauges) (same : Same labels gauges others) :
    Fine labels counters others := by
  have signed := same .signed rfl
  have proposed := same .proposed rfl
  have missed := same .missed rfl
  have prevote := same .prevote rfl
  have precommit := same .precommit rfl
  have consecutive := same .consecutive rfl
  obtain ⟨ordered, parts, run, signs, props, misses, prevotes, precommits⟩ := fine
  constructor <;> omega

theorem Fine.grown {later : Counters} (fine : Fine labels counters gauges)
    (grown : Grown counters later) : Fine labels later gauges := by
  obtain ⟨ordered, parts, run, signs, props, misses, prevotes, precommits⟩ := fine
  obtain ⟨moreSigns, moreProps, moreMisses, morePrevotes, morePrecommits⟩ := grown
  constructor <;> omega

end Views

/-! ## A block's metrics on their way -/

/-- The validator keeps its moniker while the metrics of a block are made. -/
def Steady (valInfo : MetricType → Option ValInfo) : Prop :=
  ∀ metric other, monikerOf (valInfo metric) = monikerOf (valInfo other)

/-- The metrics of the block that have been sent are shown, the rest is to come. -/
def Current (labels : Labels) (agg : Aggregator) (gauges : Gauges) (rest : List PromUpdate) : Prop :=
  ∃ readings valInfo sent, Steady valInfo ∧ sent ++ rest = blockUpdates agg readings valInfo ∧
    ∀ update ∈ sent, update.metric.counted = true → update.labels = labels →
      shown labels gauges update.metric = update.counter

/-- The counter that a counter must not exceed. -/
def MetricType.bound : MetricType → Option MetricType
  | .proposed => some .signed
  | .prevote | .precommit | .consecutive => some .missed
  | _ => none

theorem counted_of_bound {metric bound : MetricType} (bounded : metric.bound = some bound) :
    bound.counted = true := by
  cases metric <;> cases bounded <;> rfl

/-- The metrics of a block in the order in which they are sent. -/
def blockMetrics : List MetricType :=
  [.signed, .proposed, .missed, .prevote, .precommit, .consecutive, .unhealthyNodes]

/-- Each is sent behind the one that it must not exceed. -/
theorem bound_sent {before after : List MetricType} {metric bound : MetricType}
    (order : before ++ metric :: after = blockMetrics) (bounded : metric.bound = some bound) :
    bound ∈ before := by
  have apart : blockMetrics.Pairwise fun first later => first.bound ≠ some later := by decide
  have irreflexive : ∀ metric : MetricType, metric.bound ≠ some metric := by
    intro metric
    cases metric <;> decide
  have listed : bound ∈ before ++ metric :: after := by
    rw [order]
    cases metric <;> cases bounded <;> decide
  rw [← order, List.pairwise_append, List.pairwise_cons] at apart
  -- It is not behind, because no metric is sent before its bound.
  rcases List.mem_append.mp listed with member | member
  · exact member
  · rcases List.mem_cons.mp member with rfl | member
    · exact absurd bounded (irreflexive bound)
    · exact absurd bounded (apart.2.1.1 bound member)

section Publish
variable {labels : Labels} {gauges others : Gauges} {agg : Aggregator} {update : PromUpdate}
  {rest : List PromUpdate} {readings : Readings} {valInfo : MetricType → Option ValInfo}

/-- The value that a metric of the block has. -/
def blockValue (agg : Aggregator) (readings : Readings) : MetricType → Int
  | .signed => agg.counters.totalSigns
  | .proposed => agg.counters.totalProps
  | .missed => agg.counters.totalMiss
  | .prevote => agg.counters.prevoteMiss
  | .precommit => agg.counters.precommitMiss
  | .consecutive => agg.counters.consecutiveMiss
  | _ => readings.nodes.length - readings.nodes.countP (!·.down)

theorem counter_blockUpdates (member : update ∈ blockUpdates agg readings valInfo) :
    update.counter = blockValue agg readings update.metric := by
  simp only [blockUpdates, List.mem_cons, List.not_mem_nil, or_false] at member
  rcases member with rfl | rfl | rfl | rfl | rfl | rfl | rfl <;> rfl

theorem labels_blockUpdates (steady : Steady valInfo)
    (member : update ∈ blockUpdates agg readings valInfo) :
    update.labels = ⟨agg.chain.name, agg.chain.chainId, monikerOf (valInfo .signed), none⟩ := by
  simp only [blockUpdates, List.mem_cons, List.not_mem_nil, or_false] at member
  rcases member with rfl | rfl | rfl | rfl | rfl | rfl | rfl <;>
    simp [PromUpdate.labels, mkUpdate, MetricType.perHost, steady _ .signed]

theorem name_blockUpdates (member : update ∈ blockUpdates agg readings valInfo) :
    update.name = agg.chain.name := by
  simp only [blockUpdates, List.mem_cons, List.not_mem_nil, or_false] at member
  rcases member with rfl | rfl | rfl | rfl | rfl | rfl | rfl <;> rfl

theorem Current.start (steady : Steady valInfo) :
    Current labels agg gauges (blockUpdates agg readings valInfo) :=
  ⟨readings, valInfo, [], steady, rfl, nofun⟩

theorem Current.same (current : Current labels agg gauges rest) (same : Same labels gauges others) :
    Current labels agg others rest := by
  obtain ⟨readings, valInfo, sent, steady, order, shows⟩ := current
  refine ⟨readings, valInfo, sent, steady, order, fun update member counted own => ?_⟩
  rw [same _ counted]
  exact shows update member counted own

theorem Current.publish (current : Current labels agg gauges (update :: rest)) :
    Current labels agg (setStat gauges update) rest := by
  obtain ⟨readings, valInfo, sent, steady, order, shows⟩ := current
  refine ⟨readings, valInfo, sent ++ [update], steady, by rw [← order]; simp, ?_⟩
  intro earlier member counted own
  rw [shown_setStat]
  split
  next again =>
    -- A metric has one value for a block.
    have value : ∀ other ∈ sent ++ [update], other.counter = blockValue agg readings other.metric := by
      intro other listed
      apply @counter_blockUpdates _ _ readings valInfo
      rw [← order]
      simp only [List.mem_append, List.mem_cons, List.not_mem_nil, or_false] at listed ⊢
      tauto
    rw [value earlier member, value update (by simp), again.1]
  next different =>
    rcases List.mem_append.mp member with member | member
    · exact shows earlier member counted own
    · rw [List.mem_singleton.mp member] at different own
      exact absurd ⟨rfl, own.symm⟩ different

theorem shown_own (own : update.labels = labels) (metric : MetricType) :
    shown labels (setStat gauges update) metric =
      if metric = update.metric then update.counter else shown labels gauges metric := by
  rw [shown_setStat]
  simp only [own, and_true]

/-- What has been sent of a block is shown with the value of that block. -/
theorem shown_sent {sent : List PromUpdate} {earlier : PromUpdate} (steady : Steady valInfo)
    (order : sent ++ update :: rest = blockUpdates agg readings valInfo)
    (shows : ∀ update ∈ sent, update.metric.counted = true → update.labels = labels →
      shown labels gauges update.metric = update.counter)
    (own : update.labels = labels) (member : earlier ∈ sent)
    (counted : earlier.metric.counted = true) :
    shown labels gauges earlier.metric = blockValue agg readings earlier.metric := by
  have here : update ∈ blockUpdates agg readings valInfo := by
    rw [← order]
    simp
  have there : earlier ∈ blockUpdates agg readings valInfo := by
    rw [← order]
    exact List.mem_append_left _ member
  have same : earlier.labels = labels := by
    rw [← own, labels_blockUpdates steady there, labels_blockUpdates steady here]
  rw [shows earlier member counted same, counter_blockUpdates there]

/-- A counter is sent when the one that bounds it shows the same block. -/
theorem fine_publish (current : Current labels agg gauges (update :: rest))
    (lawful : Lawful agg.counters) (fine : Fine labels agg.counters gauges)
    (own : update.labels = labels) : Fine labels agg.counters (setStat gauges update) := by
  obtain ⟨readings, valInfo, sent, steady, order, shows⟩ := current
  have metrics : sent.map (·.metric) ++ update.metric :: rest.map (·.metric) = blockMetrics := by
    rw [← List.map_cons, ← List.map_append, order]
    rfl
  have here : update ∈ blockUpdates agg readings valInfo := by
    rw [← order]
    simp
  have value := counter_blockUpdates here
  by_cases counted : update.metric.counted = true
  case neg =>
    exact fine.same (same_setStat fun yes => absurd yes counted)
  have bounded : ∀ bound, update.metric.bound = some bound →
      shown labels gauges bound = blockValue agg readings bound := by
    intro bound needs
    obtain ⟨earlier, member, rfl⟩ := List.mem_map.mp (bound_sent metrics needs)
    exact shown_sent steady order shows own member (counted_of_bound needs)
  obtain ⟨proposed, misses, consecutive⟩ := lawful
  obtain ⟨ordered, parts, run, signs, props, miss, prevotes, precommits⟩ := fine
  -- One number is replaced; what bounds it shows this block already, what it bounds an
  -- earlier one or this.
  cases metric : update.metric <;> rw [metric] at value bounded counted
  case signed | missed =>
    constructor <;>
      simp only [shown_own own, metric, reduceCtorEq, ↓reduceIte, value, blockValue] <;> omega
  case proposed =>
    have top : shown labels gauges .signed = agg.counters.totalSigns := bounded .signed rfl
    constructor <;>
      simp only [shown_own own, metric, reduceCtorEq, ↓reduceIte, value, blockValue] <;> omega
  case prevote | precommit | consecutive =>
    have top : shown labels gauges .missed = agg.counters.totalMiss := bounded .missed rfl
    constructor <;>
      simp only [shown_own own, metric, reduceCtorEq, ↓reduceIte, value, blockValue] <;> omega
  all_goals cases counted

end Publish

/-! ## The system -/

/-- The chain whose aggregator takes the step. -/
def Step.chain : Step → Option String
  | .take name _ _ _ | .record name _ | .publish name | .cut name | .restart name => some name
  | .other _ | .exported => none

/-- What a step can do. -/
inductive Moves (config : Config) (system : System) : Step → System → Prop where
  /-- The aggregator moves without a send. -/
  | quiet {next : Step} {name : String} (line : Line) (own : next.chain = some name)
      (named : line.agg.chain.name = (system.lines name).agg.chain.name)
      (grown : Grown (system.lines name).agg.counters line.agg.counters)
      (lawful : Lawful (system.lines name).agg.counters → Lawful line.agg.counters)
      (timed : ∀ round update, line.phase = .timing round update →
        update.metric = .lastBlockSeconds)
      (idle : ∀ rest, line.phase ≠ .publishing rest) :
      Moves config system next (system.setLine name line)
  | record (name : String) (valInfo : MetricType → Option ValInfo) {round : Round}
      {update : PromUpdate} {agg : Aggregator}
      (timing : (system.lines name).phase = .timing round update)
      (done : agg = (aggregate config (system.lines name).agg round.update round.readings).1) :
      Moves config system (.record name valInfo)
        (({ system with queue := system.queue ++ [update] } : System).setLine name
          { agg := agg, phase := .publishing (blockUpdates agg round.readings valInfo) })
  | publish (name : String) {update : PromUpdate} {rest : List PromUpdate}
      (publishing : (system.lines name).phase = .publishing (update :: rest)) :
      Moves config system (.publish name)
        (({ system with queue := system.queue ++ [update] } : System).setLine name
          { (system.lines name) with phase := if rest = [] then .ready else .publishing rest })
  | other (update : PromUpdate) (foreign : update.metric.ofBlocks = false) :
      Moves config system (.other update) { system with queue := system.queue ++ [update] }
  | exported {update : PromUpdate} {later : List PromUpdate}
      (waiting : system.queue = update :: later) :
      Moves config system .exported
        { system with queue := later, gauges := setStat system.gauges update }

theorem send_eq_some {capacity : Nat} {system after : System} {update : PromUpdate}
    (sent : system.send capacity update = some after) :
    after = { system with queue := system.queue ++ [update] } := by
  obtain ⟨_, same⟩ := Option.ite_none_right_eq_some.mp sent
  exact (Option.some.inj same).symm

/-- A line that is ready has nothing to send. -/
theorem Moves.ready {config : Config} {system : System} {next : Step} {name : String}
    (agg : Aggregator) (own : next.chain = some name)
    (named : agg.chain.name = (system.lines name).agg.chain.name)
    (grown : Grown (system.lines name).agg.counters agg.counters)
    (lawful : Lawful (system.lines name).agg.counters → Lawful agg.counters) :
    Moves config system next (system.setLine name { agg := agg }) := by
  refine .quiet _ own named grown lawful ?_ ?_
  · intro _ _ timing
    cases timing
  · intro _ publishing
    cases publishing

section Inversion
variable {config : Config} {capacity : Nat} {system after : System} {name : String}

theorem moves_of_take {round : Round} {valInfo : Option ValInfo} {sinceLast : Duration}
    (taken : step config capacity system (.take name round valInfo sinceLast) = some after) :
    Moves config system (.take name round valInfo sinceLast) after := by
  rw [step] at taken
  cases phase : (system.lines name).phase with
  | timing | publishing =>
    simp only [phase] at taken
    cases taken
  | ready =>
    simp only [phase] at taken
    split at taken
    · rw [← Option.some.inj taken]
      refine .quiet _ rfl rfl (.refl _) id ?_ ?_
      · intro _ update timing
        cases timing
        rfl
      · intro _ publishing
        cases publishing
    · rw [← Option.some.inj taken]
      obtain ⟨named, grown, lawful⟩ := aggregate_kept config (system.lines name).agg round.update
        round.readings
      exact .ready _ rfl named grown lawful

theorem moves_of_cut (taken : step config capacity system (.cut name) = some after) :
    Moves config system (.cut name) after := by
  rw [step] at taken
  cases phase : (system.lines name).phase with
  | ready =>
    simp only [phase] at taken
    cases taken
  | timing round update =>
    simp only [phase] at taken
    rw [← Option.some.inj taken]
    obtain ⟨named, counters⟩ := cutShort_kept (system.lines name).agg round
    refine .ready (newSession (cutShort (system.lines name).agg round)) rfl named ?_ ?_
    · rw [newSession_counters, counters]
      exact .refl _
    · rw [newSession_counters, counters]
      exact id
  | publishing rest =>
    simp only [phase] at taken
    rw [← Option.some.inj taken]
    exact .ready _ rfl rfl (.refl _) id

theorem moves_of_step {next : Step} (taken : step config capacity system next = some after) :
    Moves config system next after := by
  cases next with
  | take name round valInfo sinceLast => exact moves_of_take taken
  | cut name => exact moves_of_cut taken
  | record name valInfo =>
    simp only [step] at taken
    split at taken
    next round update timing =>
      obtain ⟨middle, sent, rfl⟩ := Option.map_eq_some_iff.mp taken
      rw [send_eq_some sent]
      exact .record name valInfo timing rfl
    · cases taken
  | publish name =>
    simp only [step] at taken
    split at taken
    next update rest publishing =>
      obtain ⟨middle, sent, rfl⟩ := Option.map_eq_some_iff.mp taken
      rw [send_eq_some sent]
      exact .publish name publishing
    · cases taken
  | restart name =>
    simp only [step] at taken
    split at taken
    · rw [← Option.some.inj taken]
      exact .ready _ rfl rfl (.refl _) id
    · cases taken
  | other update =>
    simp only [step] at taken
    split at taken
    · cases taken
    next foreign =>
      rw [send_eq_some taken]
      exact .other update (Bool.eq_false_iff.mpr foreign)
  | exported =>
    simp only [step] at taken
    split at taken
    · cases taken
    next update later waiting =>
      rw [← Option.some.inj taken]
      exact .exported waiting

end Inversion

section Lines
variable (system : System) (name : String) (line : Line)

theorem setLine_self : (system.setLine name line).lines name = line := if_pos rfl

theorem setLine_other {other : String} (apart : other ≠ name) :
    (system.setLine name line).lines other = system.lines other := if_neg apart

end Lines

/-- Which updates the aggregators hold. -/
structure Ordered (lines : String → Line) : Prop where
  names : ∀ name, (lines name).agg.chain.name = name
  timed : ∀ name round update, (lines name).phase = .timing round update →
    update.metric = .lastBlockSeconds
  owned : ∀ name rest, (lines name).phase = .publishing rest → ∀ update ∈ rest, update.name = name

/-- The line of one chain is all that a step of an aggregator changes. -/
theorem Ordered.setLine {system : System} {name : String} {line : Line}
    (ordered : Ordered system.lines)
    (named : line.agg.chain.name = name)
    (timed : ∀ round update, line.phase = .timing round update → update.metric = .lastBlockSeconds)
    (owned : ∀ rest, line.phase = .publishing rest → ∀ update ∈ rest, update.name = name) :
    Ordered (system.setLine name line).lines := by
  constructor <;> intro other <;> by_cases here : other = name
  · subst here
    rw [setLine_self]
    exact named
  · rw [setLine_other _ _ _ here]
    exact ordered.names other
  · subst here
    rw [setLine_self]
    exact timed
  · rw [setLine_other _ _ _ here]
    exact ordered.timed other
  · subst here
    rw [setLine_self]
    exact owned
  · rw [setLine_other _ _ _ here]
    exact ordered.owned other

theorem Ordered.moves {config : Config} {system after : System} {next : Step}
    (ordered : Ordered system.lines) (moves : Moves config system next after) :
    Ordered after.lines := by
  cases moves with
  | @quiet next name line own named grown lawful timed idle =>
    refine ordered.setLine ?_ timed fun rest publishing => absurd publishing (idle rest)
    rw [named]
    exact ordered.names name
  | @record name valInfo round update agg timing done =>
    have named : agg.chain.name = name := by
      rw [done, (aggregate_kept config (system.lines name).agg round.update round.readings).1]
      exact ordered.names name
    refine Ordered.setLine ordered named ?_ ?_
    · intro _ _ timing
      cases timing
    · intro rest publishing other member
      cases publishing
      rw [name_blockUpdates member, named]
  | @publish name update rest publishing =>
    refine Ordered.setLine ordered (ordered.names name) ?_ ?_
    · intro _ _ timing
      dsimp only at timing
      split at timing <;> cases timing
    · intro left publishing other member
      dsimp only at publishing
      split at publishing <;> cases publishing
      exact ordered.owned name _ ‹_› other (List.mem_cons_of_mem _ member)
  | other update foreign => exact ordered
  | exported waiting => exact ordered

/-- Where the metrics of a chain's block are: those still to be sent, and those that the gauges
will show. -/
structure Underway (labels : Labels) (system : System) : Prop where
  ordered : Ordered system.lines
  current : ∀ rest, (system.lines labels.name).phase = .publishing rest →
    Current labels (system.lines labels.name).agg (Lag.drained setStat system.gauges system.queue) rest

/-- What holds for the gauges of one chain under one moniker. -/
structure Consistent (labels : Labels) (system : System) : Prop extends
    Underway labels system where
  lawful : Lawful (system.lines labels.name).agg.counters
  holds : Lag.Holds setStat (Fine labels (system.lines labels.name).agg.counters) system.gauges
    system.queue

/-- The moniker is the same for all metrics of a block. -/
def Step.Steady : Step → Prop
  | .record _ valInfo => Metrics.Steady valInfo
  | _ => True

section Invariant
variable {config : Config} {labels : Labels} {system after : System} {next : Step}

/-- A send that changes nothing for the chain. -/
theorem Underway.send {update : PromUpdate} (underway : Underway labels system)
    (foreign : update.metric.counted = true → labels ≠ update.labels) :
    Underway labels { system with queue := system.queue ++ [update] } := by
  refine ⟨underway.ordered, fun rest publishing => ?_⟩
  rw [Lag.drained_append]
  exact (underway.current rest publishing).same (same_setStat foreign)

/-- Another chain's line does not matter. -/
theorem Underway.setOther {name : String} {line : Line} (underway : Underway labels system)
    (apart : labels.name ≠ name) (ordered : Ordered (system.setLine name line).lines) :
    Underway labels (system.setLine name line) := by
  refine ⟨ordered, ?_⟩
  rw [setLine_other _ _ _ apart]
  exact underway.current

theorem labels_ne_of_name {update : PromUpdate} (apart : update.name ≠ labels.name) :
    labels ≠ update.labels := by
  rintro rfl
  exact apart rfl

/-- The time since the last block is no counter. -/
theorem Ordered.timing_uncounted {name : String} {round : Round} {update : PromUpdate}
    (ordered : Ordered system.lines) (timing : (system.lines name).phase = .timing round update) :
    update.metric.counted = true → labels ≠ update.labels := by
  rw [ordered.timed name round update timing]
  intro counted
  cases counted

/-- Nor is what the other producers send. -/
theorem other_uncounted {update : PromUpdate} (foreign : update.metric.ofBlocks = false) :
    update.metric.counted = true → labels ≠ update.labels := by
  intro counted
  rw [ofBlocks_of_counted counted] at foreign
  cases foreign

/-- Another chain's metrics have other labels. -/
theorem Ordered.publishing_foreign {name : String} {update : PromUpdate} {rest : List PromUpdate}
    (ordered : Ordered system.lines) (apart : labels.name ≠ name)
    (publishing : (system.lines name).phase = .publishing (update :: rest)) :
    labels ≠ update.labels := by
  apply labels_ne_of_name
  rw [ordered.owned name _ publishing update List.mem_cons_self]
  exact Ne.symm apart

/-- The moniker matters at the record of the chain's own block only. -/
theorem Underway.moves (underway : Underway labels system)
    (steady : ∀ valInfo, next = .record labels.name valInfo → Steady valInfo)
    (moves : Moves config system next after) : Underway labels after := by
  have ordered := underway.ordered.moves moves
  cases moves with
  | @quiet next name line own named grown lawful timed idle =>
    by_cases mine : labels.name = name
    · subst mine
      refine ⟨ordered, ?_⟩
      rw [setLine_self]
      exact fun rest publishing => absurd publishing (idle rest)
    · exact underway.setOther mine ordered
  | @record name valInfo round update agg timing done =>
    by_cases mine : labels.name = name
    · subst mine
      refine ⟨ordered, ?_⟩
      rw [setLine_self]
      intro rest phase
      cases phase
      exact .start (steady valInfo rfl)
    · exact (underway.send (underway.ordered.timing_uncounted timing)).setOther mine ordered
  | @publish name update rest publishing =>
    by_cases mine : labels.name = name
    · subst mine
      refine ⟨ordered, ?_⟩
      rw [setLine_self]
      intro left phase
      dsimp only at phase
      split at phase <;> cases phase
      exact Lag.drained_append ▸ (underway.current _ publishing).publish
    · have foreign := underway.ordered.publishing_foreign mine publishing
      exact (underway.send fun _ => foreign).setOther mine ordered
  | other update foreign => exact underway.send (other_uncounted foreign)
  | exported waiting =>
    obtain ⟨_, current⟩ := underway
    rw [waiting] at current
    exact ⟨ordered, current⟩

/-- The gauges while the queue is drained, after a send that changes nothing for the chain. -/
theorem Consistent.holds_send {update : PromUpdate} (consistent : Consistent labels system)
    (foreign : update.metric.counted = true → labels ≠ update.labels) :
    Lag.Holds setStat (Fine labels (system.lines labels.name).agg.counters) system.gauges
      (system.queue ++ [update]) :=
  consistent.holds.append (consistent.holds.last.same (same_setStat foreign))

theorem Consistent.moves (consistent : Consistent labels system) (steady : next.Steady)
    (moves : Moves config system next after) : Consistent labels after := by
  have underway : Underway labels after := consistent.toUnderway.moves
    (fun valInfo record => by rw [record] at steady; exact steady) moves
  have ordered := consistent.ordered
  have lawful := consistent.lawful
  have holds := consistent.holds
  cases moves with
  | @quiet next name line own named grown keeps timed idle =>
    refine ⟨underway, ?_, ?_⟩ <;> by_cases mine : labels.name = name
    · subst mine
      rw [setLine_self]
      exact keeps lawful
    · rw [setLine_other _ _ _ mine]
      exact lawful
    · subst mine
      rw [setLine_self]
      exact holds.mono fun _ fine => fine.grown grown
    · rw [setLine_other _ _ _ mine]
      exact holds
  | @record name valInfo round update agg timing done =>
    have sent := consistent.holds_send (ordered.timing_uncounted timing)
    obtain ⟨_, grown, keeps⟩ := aggregate_kept config (system.lines name).agg round.update
      round.readings
    rw [← done] at grown keeps
    refine ⟨underway, ?_, ?_⟩ <;> by_cases mine : labels.name = name
    · subst mine
      rw [setLine_self]
      exact keeps lawful
    · rw [setLine_other _ _ _ mine]
      exact lawful
    · subst mine
      rw [setLine_self]
      exact sent.mono fun _ fine => fine.grown grown
    · rw [setLine_other _ _ _ mine]
      exact sent
  | @publish name update rest publishing =>
    refine ⟨underway, ?_, ?_⟩ <;> by_cases mine : labels.name = name
    · subst mine
      rw [setLine_self]
      exact lawful
    · rw [setLine_other _ _ _ mine]
      exact lawful
    · subst mine
      rw [setLine_self]
      refine holds.append ?_
      by_cases own : update.labels = labels
      · exact fine_publish (consistent.current _ publishing) lawful holds.last own
      · exact holds.last.same (same_setStat fun _ same => own (Eq.symm same))
    · rw [setLine_other _ _ _ mine]
      exact consistent.holds_send fun _ => ordered.publishing_foreign mine publishing
  | other update foreign =>
    exact ⟨underway, lawful, consistent.holds_send (other_uncounted foreign)⟩
  | exported waiting =>
    rw [waiting] at holds
    exact ⟨underway, lawful, holds.next⟩

end Invariant

theorem ordered_start {chains : String → ChainConfig} (named : ∀ name, (chains name).name = name) :
    Ordered (start chains).lines := by
  refine ⟨named, ?_, ?_⟩
  · intro _ _ _ timing
    cases timing
  · intro _ _ publishing
    cases publishing

theorem consistent_start (labels : Labels) {chains : String → ChainConfig}
    (named : ∀ name, (chains name).name = name) : Consistent labels (start chains) := by
  refine ⟨⟨ordered_start named, ?_⟩, ?_, .start ?_⟩
  · intro _ publishing
    cases publishing
  · constructor <;> exact Nat.le_refl 0
  · constructor <;> exact Int.le_refl 0

section Runs
variable {config : Config} {capacity : Nat} {chains : String → ChainConfig} {steps : List Step}
  {system : System}

theorem ordered_run (named : ∀ name, (chains name).name = name)
    (runs : Machine.run (step config capacity) (start chains) steps = some system) :
    Ordered system.lines := by
  have keeps : ∀ (state : System) (next : Step) (after : System), Ordered state.lines → True →
      step config capacity state next = some after → Ordered after.lines :=
    fun _ _ _ ordered _ taken => ordered.moves (moves_of_step taken)
  exact Machine.run_invariant keeps runs (fun _ _ => trivial) (ordered_start named)

theorem consistent_run (labels : Labels) (named : ∀ name, (chains name).name = name)
    (runs : Machine.run (step config capacity) (start chains) steps = some system)
    (steady : ∀ next ∈ steps, next.Steady) : Consistent labels system :=
  Machine.run_invariant (fun _ _ _ consistent allowed taken =>
    consistent.moves allowed (moves_of_step taken)) runs steady (consistent_start labels named)

/-- Whatever the order in which the producers of all chains and the exporter take their
steps, wherever sessions are cut off and however far the exporter is behind: at no moment do
the gauges show more proposed than signed blocks, nor more misses with a prevote and with a
precommit, or in a row, than misses at all; and they never show more than has been counted.
The moniker is assumed to stay the same while the metrics of one block are made. -/
theorem gauges_consistent (named : ∀ name, (chains name).name = name)
    (runs : Machine.run (step config capacity) (start chains) steps = some system)
    (steady : ∀ next ∈ steps, next.Steady) (name chainId moniker : String) :
    let seen := shown ⟨name, chainId, moniker, none⟩ system.gauges
    let counters := (system.lines name).agg.counters
    (seen .proposed ≤ seen .signed ∧ seen .prevote + seen .precommit ≤ seen .missed ∧
      seen .consecutive ≤ seen .missed) ∧
    seen .signed ≤ counters.totalSigns ∧ seen .proposed ≤ counters.totalProps ∧
    seen .missed ≤ counters.totalMiss ∧ seen .prevote ≤ counters.prevoteMiss ∧
    seen .precommit ≤ counters.precommitMiss := by
  have consistent := consistent_run ⟨name, chainId, moniker, none⟩ named runs steady
  obtain ⟨proposed, parts, consecutive, signs, props, misses, prevotes, precommits⟩ :=
    consistent.holds.now
  exact ⟨⟨proposed, parts, consecutive⟩, signs, props, misses, prevotes, precommits⟩

end Runs

/-- A block that the validator proposed. -/
def proposedBlock : Round :=
  { update := { height := 1, status := .proposed, final := true }
    readings := { valInfo := some { moniker := "val", bonded := true }
                  now := ⟨unixEpoch, Int.le_refl _⟩ } }

/-- Two of its metrics have been exported, and a session is cut off behind the third. -/
def tornBlock : List Step :=
  [.take "osmosis" proposedBlock none 0, .record "osmosis" fun _ => some { moniker := "val" },
    .exported, .publish "osmosis", .exported, .publish "osmosis", .cut "osmosis"]

theorem gauges_consistent_torn :
    let chains (name : String) : ChainConfig := { name := name, chainId := "osmosis-1" }
    ∃ system, Machine.run (step {} 2) (start chains) tornBlock = some system ∧
      shown ⟨"osmosis", "osmosis-1", "val", none⟩ system.gauges .signed = 1 ∧
      system.queue.map (·.metric) = [.proposed] ∧
      shown ⟨"osmosis", "osmosis-1", "val", none⟩ system.gauges .proposed ≤
        shown ⟨"osmosis", "osmosis-1", "val", none⟩ system.gauges .signed := by
  intro chains
  have runs : Machine.run (step {} 2) (start chains) tornBlock = some _ := rfl
  have steady : ∀ next ∈ tornBlock, next.Steady := by
    simp [tornBlock, Step.Steady, Steady]
  exact ⟨_, runs, by decide, by decide,
    (gauges_consistent (fun _ => rfl) runs steady "osmosis" "osmosis-1" "val").1.1⟩

/-- Gauges read at different moments can contradict each other: the signed blocks are read at
the start, the proposed ones once this block's are exported. -/
theorem reads_apart_disagree :
    let chains (name : String) : ChainConfig := { name := name, chainId := "osmosis-1" }
    let labels : Labels := ⟨"osmosis", "osmosis-1", "val", none⟩
    ∃ system, Machine.run (step {} 2) (start chains) (tornBlock ++ [.exported]) = some system ∧
      shown labels (start chains).gauges .signed < shown labels system.gauges .proposed :=
  ⟨_, rfl, by decide⟩

/-! ## A drained queue -/

/-- The other producers leave the line and what will be shown of it alone. -/
structure Settled (labels : Labels) (line : Line) (gauges : Gauges) (system : System) : Prop where
  ordered : Ordered system.lines
  line : system.lines labels.name = line
  same : Same labels gauges (Lag.drained setStat system.gauges system.queue)

section Drained
variable {config : Config} {labels : Labels} {line : Line} {gauges : Gauges} {system after : System}
  {next : Step}

theorem Settled.send {update : PromUpdate} (settled : Settled labels line gauges system)
    (foreign : update.metric.counted = true → labels ≠ update.labels) :
    Settled labels line gauges { system with queue := system.queue ++ [update] } := by
  refine ⟨settled.ordered, settled.line, ?_⟩
  rw [Lag.drained_append]
  intro metric counted
  rw [same_setStat foreign metric counted, settled.same metric counted]

theorem Settled.setOther {name : String} {other : Line} (settled : Settled labels line gauges system)
    (apart : labels.name ≠ name) (ordered : Ordered (system.setLine name other).lines) :
    Settled labels line gauges (system.setLine name other) := by
  refine ⟨ordered, ?_, settled.same⟩
  rw [setLine_other _ _ _ apart]
  exact settled.line

theorem Settled.moves (settled : Settled labels line gauges system)
    (apart : next.chain ≠ some labels.name) (moves : Moves config system next after) :
    Settled labels line gauges after := by
  have ordered := settled.ordered.moves moves
  cases moves with
  | @quiet next name line own named grown lawful timed idle =>
    refine settled.setOther ?_ ordered
    rintro rfl
    exact apart own
  | @record name valInfo round update agg timing done =>
    refine (settled.send (settled.ordered.timing_uncounted timing)).setOther ?_ ordered
    rintro rfl
    exact apart rfl
  | @publish name update rest publishing =>
    have mine : labels.name ≠ name := by
      rintro rfl
      exact apart rfl
    have foreign := settled.ordered.publishing_foreign mine publishing
    exact (settled.send fun _ => foreign).setOther mine ordered
  | other update foreign => exact settled.send (other_uncounted foreign)
  | exported waiting =>
    obtain ⟨ordered, line, same⟩ := settled
    rw [waiting] at same
    exact ⟨ordered, line, same⟩

/-- The last metric of a block completes its numbers. -/
theorem Current.complete {agg : Aggregator} {update : PromUpdate}
    (current : Current update.labels agg gauges [update]) :
    ∃ readings, ∀ metric, metric.counted = true →
      shown update.labels (setStat gauges update) metric = blockValue agg readings metric := by
  obtain ⟨readings, valInfo, sent, steady, order, shows⟩ := current
  refine ⟨readings, fun metric counted => ?_⟩
  have here : update ∈ blockUpdates agg readings valInfo := by
    rw [← order]
    simp
  rw [shown_own rfl]
  split
  next same => rw [same, counter_blockUpdates here]
  next different =>
    have listed : metric ∈ (sent ++ [update]).map (·.metric) := by
      rw [order]
      change metric ∈ blockMetrics
      cases metric <;> first | decide | cases counted
    obtain ⟨earlier, member, rfl⟩ := List.mem_map.mp listed
    rcases List.mem_append.mp member with member | member
    · exact shown_sent steady order shows rfl member counted
    · rw [List.mem_singleton.mp member] at different
      exact absurd rfl different

end Drained

theorem publish_last {config : Config} {capacity : Nat} {before after : System} {name : String}
    {update : PromUpdate} (last : (before.lines name).phase = .publishing [update])
    (sent : step config capacity before (.publish name) = some after) :
    (after.lines name).agg = (before.lines name).agg ∧
      Lag.drained setStat after.gauges after.queue =
        setStat (Lag.drained setStat before.gauges before.queue) update := by
  simp only [step, last] at sent
  obtain ⟨middle, through, rfl⟩ := Option.map_eq_some_iff.mp sent
  rw [send_eq_some through, setLine_self]
  exact ⟨rfl, Lag.drained_append⟩

/-- From the record of a block with one moniker on, until the next block of the chain: of the
blocks before it nothing is asked. -/
theorem underway_since_record {config : Config} {capacity : Nat} {chains : String → ChainConfig}
    {earlier later : List Step} {before : System} {labels : Labels}
    {valInfo : MetricType → Option ValInfo} (named : ∀ name, (chains name).name = name)
    (runs : Machine.run (step config capacity) (start chains)
      (earlier ++ .record labels.name valInfo :: later) = some before)
    (steady : Steady valInfo) (only : ∀ other, .record labels.name other ∉ later) :
    Underway labels before := by
  obtain ⟨first, history, rest⟩ := Machine.run_append.mp runs
  obtain ⟨second, recorded, others⟩ := Machine.run_cons.mp rest
  have moves := moves_of_step recorded
  -- Just before the record the chain has nothing to publish.
  have idle : Underway labels first := by
    refine ⟨ordered_run named history, fun rest publishing => ?_⟩
    simp [step, publishing] at recorded
  have start : Underway labels second := idle.moves (by rintro _ ⟨⟩; exact steady) moves
  refine Machine.run_invariant (fun _ _ _ underway steady taken =>
    Underway.moves underway steady (moves_of_step taken)) others ?_ start
  rintro next member other rfl
  exact absurd member (only other)

/-- Once the last metric of a block has been sent and the queue is drained, the gauges of the
chain show its counters exactly, whatever the other producers have done in the meantime. The
moniker is assumed to stay the same while the metrics of this block are made. -/
theorem drained_gauges_show_counters {config : Config} {capacity : Nat}
    {chains : String → ChainConfig} {earlier later others : List Step}
    {before middle system : System} {name : String} {valInfo : MetricType → Option ValInfo}
    {update : PromUpdate} (named : ∀ name, (chains name).name = name)
    (runs : Machine.run (step config capacity) (start chains)
      (earlier ++ .record name valInfo :: later) = some before)
    (steady : Steady valInfo) (only : ∀ other, .record name other ∉ later)
    (last : (before.lines name).phase = .publishing [update])
    (sent : step config capacity before (.publish name) = some middle)
    (meantime : Machine.run (step config capacity) middle others = some system)
    (foreign : ∀ next ∈ others, next.chain ≠ some name) (empty : system.queue = []) :
    let seen := shown update.labels system.gauges
    let counters := (system.lines name).agg.counters
    seen .signed = counters.totalSigns ∧ seen .proposed = counters.totalProps ∧
    seen .missed = counters.totalMiss ∧ seen .prevote = counters.prevoteMiss ∧
    seen .precommit = counters.precommitMiss ∧ seen .consecutive = counters.consecutiveMiss := by
  obtain rfl : update.name = name :=
    (ordered_run named runs).owned name _ last update List.mem_cons_self
  have underway : Underway update.labels before := underway_since_record named runs steady only
  obtain ⟨readings, shows⟩ := (underway.current _ last).complete
  have ordered := underway.ordered.moves (moves_of_step sent)
  obtain ⟨agg, gauges⟩ := publish_last last sent
  have start : Settled update.labels (middle.lines update.name)
      (Lag.drained setStat middle.gauges middle.queue) middle := ⟨ordered, rfl, fun _ _ => rfl⟩
  have settled := Machine.run_invariant (fun _ _ _ settled apart taken =>
    Settled.moves settled apart (moves_of_step taken)) meantime foreign start
  have kept : (system.lines update.name).agg = (before.lines update.name).agg := by
    rw [← agg]
    exact congrArg Line.agg settled.line
  have all : ∀ metric, metric.counted = true → shown update.labels system.gauges metric =
      blockValue (system.lines update.name).agg readings metric := by
    intro metric counted
    have same := settled.same metric counted
    rw [empty, gauges] at same
    rw [kept]
    exact same.trans (shows metric counted)
  exact ⟨all .signed rfl, all .proposed rfl, all .missed rfl, all .prevote rfl, all .precommit rfl,
    all .consecutive rfl⟩

/-- A block under two monikers, then one under one that is exported but for its last metric. -/
def renamedBlock : List Step :=
  [.take "osmosis" proposedBlock none 0,
    .record "osmosis" fun metric => some { moniker := if metric = .signed then "old" else "val" },
    .exported] ++ (List.replicate 7 [.publish "osmosis", .exported]).flatten ++
  [.take "osmosis" proposedBlock none 0]

def wholeBlock : List Step :=
  .exported :: (List.replicate 6 [.publish "osmosis", .exported]).flatten

theorem drained_gauges_show_counters_proposed :
    let chains (name : String) : ChainConfig := { name := name, chainId := "osmosis-1" }
    let steps := renamedBlock ++ .record "osmosis" (fun _ => some { moniker := "val" }) :: wholeBlock
    let others : List Step := [.take "juno" proposedBlock none 0, .exported]
    ∃ before middle system, Machine.run (step {} 2) (start chains) steps = some before ∧
      step {} 2 before (.publish "osmosis") = some middle ∧
      Machine.run (step {} 2) middle others = some system ∧
      shown ⟨"osmosis", "osmosis-1", "val", none⟩ system.gauges .proposed = 2 := by
  intro chains steps others
  let before := (Machine.run (step {} 2) (start chains) steps).get rfl
  let middle := (step {} 2 before (.publish "osmosis")).get rfl
  let system := (Machine.run (step {} 2) middle others).get rfl
  have runs : Machine.run (step {} 2) (start chains) steps = some before := rfl
  have sent : step {} 2 before (.publish "osmosis") = some middle := rfl
  have meantime : Machine.run (step {} 2) middle others = some system := rfl
  have shows := drained_gauges_show_counters (fun _ => rfl) runs (fun _ _ => rfl)
    (by simp [wholeBlock, List.replicate]) rfl sent meantime (by decide) rfl
  exact ⟨before, middle, system, runs, sent, meantime, shows.2.1⟩

end Seer.Metrics
