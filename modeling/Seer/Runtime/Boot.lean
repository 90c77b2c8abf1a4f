import Seer.Node.Selection
import Seer.Runtime.Load
import Seer.Runtime.Validate

/-!
# From the configuration to the first calls

The monitor starts by loading the configuration and validating it; then the healthcheck
makes its ticker and the chains look for an endpoint. Nothing on the way rejects a null
chain or node, or a ping rate that no ticker takes. Each step is a stage that follows
pointers: it can only fail at a nil one, goes through when there is none, and neither adds
nor removes one.
-/
namespace Seer.Runtime

open Seer.Lib

/-! ## The steps -/

def validateRawChain (config : Config) (name : String) : Option RawChain → Exit (Option RawChain)
  | none => nilDereference
  | some raw => .ok (some { raw with chain := validateChain config name raw.chain })

/-- `validateConfig` as far as it can fail: the fatal flag and the chains. -/
def validateRawConfig (range : Range) (listen : String) (parses : Bool) (raw : RawConfig) :
    Exit (Bool × RawConfig) := do
  let chains ← range.each (validateRawChain raw.config) raw.chains
  .ok ((validateGlobal listen parses raw.config).fatal, { raw with chains := chains })

section Rpc
variable {γ : Type}

/-- `anyWorking = anyWorking || !cc.nodeState(endpoint).down`: once a node is up the others
are not looked at. -/
def surveyNodes : Bool → List (Option NodeConfig) → Exit Bool
  | anyWorking, [] => .ok anyWorking
  | true, _ :: later => surveyNodes true later
  | false, none :: _ => nilDereference
  | false, some node :: later => surveyNodes (!node.down) later

/-- The loop of `newRpc` over the nodes, as in `Node.tryNodes`. -/
def tryRawNodes (chain : ChainConfig) (anyWorking : Bool) : List (Option NodeConfig) →
    (Nat → Node.Trial γ) → Exit (List (Option NodeConfig) × Option γ)
  | [], _ => .ok ([], none)
  | none :: _, _ => nilDereference
  | some node :: later, trials =>
    if anyWorking && node.down then do
      let rest ← tryRawNodes chain anyWorking later fun index => trials (index + 1)
      .ok (some node :: rest.1, rest.2)
    else match Node.tryURL chain node.url (trials 0).probed with
      | .error (message, syncing) => do
        let rest ← tryRawNodes chain anyWorking later fun index => trials (index + 1)
        .ok (some (Node.markDown message syncing (trials 0).now node) :: rest.1, rest.2)
      | .ok client => .ok (some node :: later, some client)

def newRpcNodes (raw : RawChain) (trials : Nat → Node.Trial γ) :
    Exit (List (Option NodeConfig) × Option γ) := do
  let anyWorking ← surveyNodes false raw.nodes
  tryRawNodes raw.chain anyWorking raw.nodes trials

/-- A call of `newRpc` for a chain, with what its endpoints answer. -/
structure RpcTrial (γ : Type) where
  name : String
  trials : Nat → Node.Trial γ

def callRpc (chains : Table String (Option RawChain)) (call : RpcTrial γ) :
    Exit (Table String (Option RawChain)) :=
  match chains[call.name]? with
  | none => .ok chains
  | some none => nilDereference
  | some (some raw) => do
    let tried ← newRpcNodes raw call.trials
    .ok (chains.insert call.name (some { raw with nodes := tried.1 }))

end Rpc

/-- The interval of the ticker, if there is one; `time.NewTicker` panics unless it is
positive. -/
def pingHealthcheck (healthcheck : HealthcheckConfig) : Exit (Option Duration) :=
  if !healthcheck.enabled then .ok none
  else
    let interval := wrap64 (healthcheck.pingRate * second)
    if interval ≤ 0 then .error (.panic .tickerInterval) else .ok (some interval)

/-- What the start reads besides the configuration. -/
structure Surroundings where
  range : Range
  entries : List DirEntry
  load : String → Except GoError RawChain
  state : Except GoError SavedState
  now : Time
  listen : String
  parses : Bool

/-- The configuration is loaded and validated. -/
def prepare (env : Surroundings) (primary : RawConfig) : Exit (Bool × RawConfig) := do
  let loaded ← loadConfig env.range primary env.entries env.load env.state env.now
  validateRawConfig env.range env.listen env.parses loaded

/-- The start of the monitor and any number of calls of `newRpc`. -/
def boot {γ : Type} (env : Surroundings) (primary : RawConfig) (calls : List (RpcTrial γ)) :
    Exit (Option Duration) := do
  let prepared ← prepare env primary
  if prepared.1 then
    .error (.error (.text "NosNode Seer configuration is invalid; refusing to start"))
  else do
    let interval ← pingHealthcheck prepared.2.healthcheck
    let _ ← calls.foldlM callRpc prepared.2.chains
    .ok interval

/-- The start ends without a panic, and the ticker has the interval that was asked for. -/
structure SafeStart (healthcheck : HealthcheckConfig) (outcome : Exit (Option Duration)) :
    Prop where
  noPanic : ∀ reason, outcome ≠ .error (.panic reason)
  interval : ∀ interval, outcome = .ok (some interval) →
    0 < interval ∧ interval = healthcheck.pingRate * second

/-! ## Null entries -/

/-- Neither the chain nor one of its nodes is null. -/
def Whole : Option RawChain → Prop
  | none => False
  | some raw => none ∉ raw.nodes

def AllWhole (chains : Table String (Option RawChain)) : Prop :=
  ∀ (name : String) (entry : Option RawChain), chains[name]? = some entry → Whole entry

/-- A ping rate that makes a ticker. -/
def Tickable (healthcheck : HealthcheckConfig) : Prop :=
  healthcheck.enabled = true →
    0 < healthcheck.pingRate ∧ healthcheck.pingRate * second < 2 ^ 63

theorem none_not_mem_iff (nodes : List (Option NodeConfig)) :
    none ∉ nodes ↔ ∃ whole : List NodeConfig, nodes = whole.map some := by
  constructor
  · intro present
    induction nodes with
    | nil => exact ⟨[], rfl⟩
    | cons first later ih =>
      rw [List.mem_cons, not_or] at present
      obtain ⟨whole, rfl⟩ := ih present.2
      cases first with
      | none => exact absurd rfl present.1
      | some node => exact ⟨node :: whole, rfl⟩
  · rintro ⟨whole, rfl⟩
    simp

/-- A step fails at a nil pointer, or keeps the entries whole that were. -/
def Stage {α : Type} (whole : Prop) (wholeAfter : α → Prop) (outcome : Exit α) : Prop :=
  (outcome = nilDereference ∧ ¬ whole) ∨
    ∃ result, outcome = .ok result ∧ (wholeAfter result ↔ whole)

theorem Stage.bind {α β : Type} {whole : Prop} {wholeAfter : α → Prop} {wholeLast : β → Prop}
    {first : Exit α} {next : α → Exit β} (before : Stage whole wholeAfter first)
    (after : ∀ value, first = .ok value → Stage (wholeAfter value) wholeLast (next value)) :
    Stage whole wholeLast (first >>= next) := by
  rcases before with ⟨rfl, broken⟩ | ⟨value, rfl, same⟩
  · exact .inl ⟨rfl, broken⟩
  · rcases after value rfl with ⟨failed, broken⟩ | ⟨result, ok, same'⟩
    · exact .inl ⟨failed, fun all => broken (same.mpr all)⟩
    · exact .inr ⟨result, ok, same'.trans same⟩

theorem Stage.of_error {α : Type} {whole : Prop} {wholeAfter : α → Prop} {failure : Abort}
    (stage : Stage whole wholeAfter (.error failure)) :
    failure = .panic .nilDereference ∧ ¬ whole := by
  rcases stage with ⟨failed, broken⟩ | ⟨result, ok, -⟩
  · exact ⟨Except.error.inj failed, broken⟩
  · cases ok

theorem Stage.of_ok {α : Type} {whole : Prop} {wholeAfter : α → Prop} {result : α}
    (stage : Stage whole wholeAfter (.ok result)) : wholeAfter result ↔ whole := by
  rcases stage with ⟨failed, -⟩ | ⟨other, ok, same⟩
  · cases failed
  · cases ok
    exact same

/-- A loop over the chains is a stage when each visit is one. -/
theorem Stage.each {visit : String → Option RawChain → Exit (Option RawChain)}
    (stage : ∀ name entry, Stage (Whole entry) Whole (visit name entry)) (range : Range)
    (chains : Table String (Option RawChain)) :
    Stage (AllWhole chains) AllWhole (range.each visit chains) := by
  cases looped : range.each visit chains with
  | error failure =>
    left
    have distinct : (range.order chains).Nodup :=
      (range.complete chains).nodup_iff.mpr Std.ExtTreeMap.nodup_keys
    obtain ⟨name, -, entry, there, bad⟩ := Table.rangeM_error distinct looped
    have visited := stage name entry
    rw [bad] at visited
    obtain ⟨rfl, broken⟩ := visited.of_error
    exact ⟨rfl, fun all => broken (all name entry there)⟩
  | ok result =>
    right
    have same : ∀ (name : String) (entry next : Option RawChain), visit name entry = .ok next →
        (Whole next ↔ Whole entry) := by
      intro name entry next ok
      have visited := stage name entry
      rw [ok] at visited
      exact visited.of_ok
    refine ⟨result, rfl, ?_, ?_⟩
    · intro all name entry there
      have own := Range.each_ok looped name
      rw [there] at own
      obtain ⟨next, after, ok⟩ := own.of_some
      exact (same name entry next ok).mp (all name next after)
    · intro all name next there
      have own := Range.each_ok looped name
      rw [there] at own
      obtain ⟨entry, before, ok⟩ := own.to_some
      exact (same name entry next ok).mpr (all name entry before)

/-! ## The steps as stages -/

section Visits
variable (name : String) (entry : Option RawChain)

theorem bindChain_stage : Stage (Whole entry) Whole (bindChain name entry) := by
  cases entry with
  | none => exact .inl ⟨rfl, id⟩
  | some raw => exact .inr ⟨some raw, rfl, .rfl⟩

theorem validateRawChain_stage (config : Config) :
    Stage (Whole entry) Whole (validateRawChain config name entry) := by
  cases entry with
  | none => exact .inl ⟨rfl, id⟩
  | some raw => exact .inr ⟨_, rfl, .rfl⟩

/-- Reading every node goes through exactly if none is null. -/
theorem derefAll_stage (nodes : List (Option NodeConfig)) :
    Stage (none ∉ nodes) (fun whole => nodes = whole.map some) (derefAll nodes) := by
  induction nodes with
  | nil => exact .inr ⟨[], rfl, by simp⟩
  | cons first later ih =>
    cases first with
    | none => exact .inl ⟨rfl, by simp⟩
    | some node =>
      rcases ih with ⟨failed, null⟩ | ⟨whole, read, same⟩
      · exact .inl ⟨by simp [derefAll, failed, Except.map, nilDereference], by simpa using null⟩
      · exact .inr ⟨node :: whole, by simp [derefAll, read, Except.map], by simpa using same⟩

theorem markNoNodes_stage : Stage (Whole entry) Whole (markNoNodes name entry) := by
  cases entry with
  | none => exact .inl ⟨rfl, id⟩
  | some raw =>
    apply (derefAll_stage raw.nodes).bind
    intro nodes read
    refine .inr ⟨_, rfl, ?_⟩
    simp only [Whole, (derefAll_ok_iff _ _).mp read]
    simp

theorem markSaved_stage (nodesDown : Table String (Table String Time)) :
    Stage (Whole entry) Whole (markSaved nodesDown name entry) := by
  cases entry with
  | none => exact .inr ⟨none, rfl, .rfl⟩
  | some raw =>
    unfold markSaved
    dsimp only
    split
    · exact .inr ⟨_, rfl, .rfl⟩
    · split
      · apply (derefAll_stage raw.nodes).bind
        intro nodes read
        refine .inr ⟨_, rfl, ?_⟩
        simp only [Whole, (derefAll_ok_iff _ _).mp read]
        simp
      · exact .inr ⟨_, rfl, .rfl⟩

end Visits

theorem restoreSavedState_stage (range : Range) (raw : RawConfig) (saved : SavedState)
    (now : Time) :
    Stage (AllWhole raw.chains) (fun loaded => AllWhole loaded.chains)
      (restoreSavedState range raw saved now) := by
  unfold restoreSavedState
  apply (Stage.each bindChain_stage range raw.chains).bind
  intro bound _
  -- The blocks are restored behind a test for nil.
  have blocks :
      AllWhole (bound.map fun name entry => entry.map (restoreRawBlocks saved.blocks name)) ↔
        AllWhole bound := by
    have same : ∀ (name : String) (entry : Option RawChain),
        Whole (entry.map (restoreRawBlocks saved.blocks name)) ↔ Whole entry := by
      rintro name (- | raw)
      · rfl
      · rfl
    simp only [AllWhole, Std.ExtTreeMap.getElem?_map, Option.map_eq_some_iff]
    constructor
    · intro all name entry there
      exact (same name entry).mp (all name _ ⟨entry, there, rfl⟩)
    · rintro all name _ ⟨entry, there, rfl⟩
      exact (same name entry).mpr (all name entry there)
  dsimp only
  split
  · exact .inr ⟨_, rfl, blocks⟩
  next nodesDown _ =>
    rw [← blocks]
    apply (Stage.each (fun name entry => markSaved_stage name entry nodesDown) range _).bind
    intro marked _
    apply (Stage.each markNoNodes_stage range marked).bind
    intro counted _
    exact .inr ⟨_, rfl, .rfl⟩

/-- Loading does not change the settings that the validation rejects a configuration for. -/
theorem restoreSavedState_config {range : Range} {raw loaded : RawConfig} {saved : SavedState}
    {now : Time} (restored : restoreSavedState range raw saved now = .ok loaded) :
    loaded.healthcheck = raw.healthcheck ∧
      loaded.config = { raw.config with alarms := loaded.config.alarms } := by
  unfold restoreSavedState at restored
  obtain ⟨bound, -, restored⟩ := ok_of_bind restored
  dsimp only at restored
  split at restored
  · cases restored
    exact ⟨rfl, rfl⟩
  · obtain ⟨marked, -, restored⟩ := ok_of_bind restored
    obtain ⟨counted, -, restored⟩ := ok_of_bind restored
    cases restored
    exact ⟨rfl, rfl⟩

/-- Without null entries the chains are validated as in the model without pointers. -/
theorem validateRawConfig_is (range : Range) (listen : String) (parses : Bool) {raw : RawConfig}
    {config : Config} (same : raw.Is config) {order : List String}
    (ranged : order.Perm config.chains.keys) :
    ∃ checked, validateRawConfig range listen parses raw =
        .ok ((validateConfig listen parses order config).fatal, checked) ∧
      ∀ name : String, Matches checked.chains[name]?
        (validateConfig listen parses order config).config.chains[name]? := by
  obtain ⟨whole, rfl, chains⟩ := same
  have step : ∀ name raw' chain, RawChain.Is raw' chain →
      ∃ next, validateRawChain raw.config name (some raw') = .ok (some next) ∧
        next.Is (validateChain raw.config name chain) := by
    rintro name raw' _ ⟨nodes, there, rfl⟩
    exact ⟨_, rfl, nodes, there, rfl⟩
  obtain ⟨checked, looped, after⟩ := range.each_matches step chains
  refine ⟨{ raw with chains := checked }, ?_, ?_⟩
  · rw [validateRawConfig, looped, fatal_validateConfig]
    rfl
  · intro name
    rw [lookup_validateConfig listen parses order _ ranged name]
    have own := after name
    rw [Std.ExtTreeMap.getElem?_map] at own
    exact own

section Prepared
variable {env : Surroundings} {primary : RawConfig} {chains : Table String (Option RawChain)}
  {saved : SavedState}

/-- The start up to the point where the first goroutines run. -/
theorem prepare_stage (files : loadChainFiles env.load env.entries primary.chains = .ok chains)
    (nonempty : chains.isEmpty = false) (state : env.state = .ok saved) :
    Stage (AllWhole chains) (fun prepared => AllWhole prepared.2.chains) (prepare env primary) := by
  have loading : Stage (AllWhole chains) (fun loaded => AllWhole loaded.chains)
      (loadConfig env.range primary env.entries env.load env.state env.now) := by
    have present : ¬ chains.isEmpty = true := by simp [nonempty]
    rw [loadConfig, files, state]
    show Stage _ _ (if chains.isEmpty = true then _ else _)
    rw [if_neg present]
    apply (Stage.each bindChain_stage env.range chains).bind
    intro bound _
    exact restoreSavedState_stage env.range { primary with chains := bound } saved env.now
  apply loading.bind
  intro loaded _
  apply (Stage.each (fun name entry => validateRawChain_stage name entry loaded.config)
    env.range loaded.chains).bind
  intro checked _
  exact .inr ⟨_, rfl, .rfl⟩

/-- The settings that decide about the start are those of the primary file. -/
theorem prepare_settings {prepared : Bool × RawConfig} (ok : prepare env primary = .ok prepared) :
    prepared.1 = (validateGlobal env.listen env.parses primary.config).fatal ∧
      prepared.2.healthcheck = primary.healthcheck := by
  unfold prepare loadConfig at ok
  obtain ⟨loaded, loading, ok⟩ := ok_of_bind ok
  obtain ⟨chains, -, loading⟩ := ok_of_bind loading
  split at loading
  · cases loading
  · obtain ⟨bound, -, loading⟩ := ok_of_bind loading
    obtain ⟨saved, -, restoring⟩ := ok_of_bind loading
    obtain ⟨healthcheck, config⟩ := restoreSavedState_config restoring
    obtain ⟨checked, -, ok⟩ := ok_of_bind ok
    cases ok
    rw [config]
    exact ⟨rfl, healthcheck⟩

end Prepared

/-! ## Calls of `newRpc` -/

section Calls
variable {γ : Type}

/-- On whole nodes the survey is the one of the model without pointers. -/
theorem surveyNodes_whole (anyWorking : Bool) (whole : List NodeConfig) :
    surveyNodes anyWorking (whole.map some) = .ok (anyWorking || whole.any (!·.down)) := by
  induction whole generalizing anyWorking with
  | nil => cases anyWorking <;> rfl
  | cons node later ih =>
    cases anyWorking with
    | true => simpa [surveyNodes] using ih true
    | false => simpa [surveyNodes] using ih (!node.down)

theorem tryRawNodes_whole (chain : ChainConfig) (anyWorking : Bool) (whole : List NodeConfig)
    (trials : Nat → Node.Trial γ) :
    let tried := Node.tryNodes chain anyWorking whole trials
    tryRawNodes chain anyWorking (whole.map some) trials = .ok (tried.1.map some, tried.2) := by
  induction whole generalizing trials with
  | nil => rfl
  | cons node later ih =>
    have rest := ih fun index => trials (index + 1)
    dsimp only at rest ⊢
    rw [List.map_cons, tryRawNodes, Node.tryNodes]
    split
    · rw [rest]
      rfl
    · cases Node.tryURL chain node.url (trials 0).probed with
      | error failure =>
        dsimp only
        rw [rest]
        rfl
      | ok client => rfl

/-- Without a null node `newRpc` does what the model without pointers says. -/
theorem newRpcNodes_whole (raw : RawChain) {whole : List NodeConfig}
    (nodes : raw.nodes = whole.map some) (trials : Nat → Node.Trial γ) :
    let tried := Node.tryNodes raw.chain (whole.any (!·.down)) whole trials
    newRpcNodes raw trials = .ok (tried.1.map some, tried.2) := by
  intro tried
  rw [newRpcNodes, nodes, surveyNodes_whole]
  exact tryRawNodes_whole raw.chain _ whole trials

theorem callRpc_whole {chains : Table String (Option RawChain)} (all : AllWhole chains)
    (call : RpcTrial γ) : ∃ next, callRpc chains call = .ok next ∧ AllWhole next := by
  unfold callRpc
  cases found : chains[call.name]? with
  | none => exact ⟨chains, rfl, all⟩
  | some entry =>
    cases entry with
    | none => exact absurd (all call.name none found) id
    | some raw =>
      obtain ⟨whole, nodes⟩ := (none_not_mem_iff raw.nodes).mp (all call.name (some raw) found)
      dsimp only
      rw [newRpcNodes_whole raw nodes call.trials]
      refine ⟨_, rfl, ?_⟩
      intro name entry there
      rw [Table.get_insert] at there
      split at there
      · cases there
        simp [Whole]
      · exact all name entry there

theorem calls_whole {chains : Table String (Option RawChain)} (all : AllWhole chains)
    (calls : List (RpcTrial γ)) : ∃ last, calls.foldlM callRpc chains = .ok last := by
  induction calls generalizing chains with
  | nil => exact ⟨chains, rfl⟩
  | cons call later ih =>
    obtain ⟨next, ok, whole⟩ := callRpc_whole all call
    obtain ⟨last, done⟩ := ih whole
    refine ⟨last, ?_⟩
    rw [List.foldlM_cons, ok]
    exact done

/-- No endpoint can be opened. -/
def refused : Nat → Node.Trial γ :=
  fun _ => { probed := .unopened "connection refused", now := ⟨unixEpoch, Int.le_refl _⟩ }

theorem tryRawNodes_null (chain : ChainConfig) (anyWorking : Bool)
    {nodes : List (Option NodeConfig)} (null : none ∈ nodes) :
    tryRawNodes (γ := γ) chain anyWorking nodes refused = nilDereference := by
  induction nodes with
  | nil => cases null
  | cons first later ih =>
    cases first with
    | none => rfl
    | some node =>
      have rest := ih (by simpa using null)
      -- The later nodes get the same answers, so the call goes on to the null one.
      have shifted : (fun index => refused (index + 1)) = (refused : Nat → Node.Trial γ) := rfl
      rw [tryRawNodes, shifted, rest]
      split
      · rfl
      · rfl

theorem surveyNodes_cases (anyWorking : Bool) (nodes : List (Option NodeConfig)) :
    surveyNodes anyWorking nodes = nilDereference ∨
      ∃ working, surveyNodes anyWorking nodes = .ok working := by
  induction nodes generalizing anyWorking with
  | nil => exact .inr ⟨anyWorking, by cases anyWorking <;> rfl⟩
  | cons first later ih =>
    cases anyWorking with
    | true => exact ih true
    | false =>
      cases first with
      | none => exact .inl rfl
      | some node => exact ih (!node.down)

/-- A call that reaches no endpoint gets to every node. -/
theorem newRpcNodes_null (raw : RawChain) (null : none ∈ raw.nodes) :
    newRpcNodes raw (refused : Nat → Node.Trial γ) = nilDereference := by
  rw [newRpcNodes]
  rcases surveyNodes_cases false raw.nodes with nil | ⟨working, ok⟩
  · rw [nil]
    rfl
  · rw [ok]
    exact tryRawNodes_null raw.chain working null

/-- A null entry is found by the calls of its chain. -/
theorem callRpc_null {chains : Table String (Option RawChain)} {name : String}
    {entry : Option RawChain} (there : chains[name]? = some entry) (broken : ¬ Whole entry) :
    callRpc chains { name := name, trials := (refused : Nat → Node.Trial γ) } = nilDereference := by
  unfold callRpc
  dsimp only
  rw [there]
  cases entry with
  | none => rfl
  | some raw =>
    have null : none ∈ raw.nodes := Classical.not_not.mp broken
    dsimp only
    rw [newRpcNodes_null raw null]
    rfl

end Calls

/-! ## The start -/

/-- The ticker is as asked for exactly if the rate is positive and does not overflow. -/
theorem pingHealthcheck_safe_iff (healthcheck : HealthcheckConfig) :
    SafeStart healthcheck (pingHealthcheck healthcheck) ↔ Tickable healthcheck := by
  have scaled : 0 < healthcheck.pingRate * second ↔ 0 < healthcheck.pingRate := by
    unfold second Duration
    omega
  unfold pingHealthcheck Tickable
  cases healthcheck.enabled with
  | false =>
    refine ⟨fun _ => by simp, fun _ => ⟨by simp, by simp⟩⟩
  | true =>
    simp only [Bool.not_true, Bool.false_eq_true, if_false, forall_const]
    constructor
    · rintro ⟨noPanic, interval⟩
      split at noPanic
      · exact absurd rfl (noPanic .tickerInterval)
      next positive =>
        rw [if_neg positive] at interval
        obtain ⟨-, same⟩ := interval _ rfl
        have upper := wrap64_lt (healthcheck.pingRate * second)
        rw [same] at upper positive
        exact ⟨scaled.mp (Int.not_le.mp positive), upper⟩
    · rintro ⟨positive, small⟩
      have whole := wrap64_of_bounds (Int.le_of_lt (scaled.mpr positive)) small
      rw [whole, if_neg (Int.not_le.mpr (scaled.mpr positive))]
      refine ⟨by simp, ?_⟩
      rintro _ ⟨⟩
      exact ⟨scaled.mpr positive, rfl⟩

theorem pingHealthcheck_error {healthcheck : HealthcheckConfig} {failure : Abort}
    (failed : pingHealthcheck healthcheck = .error failure) : failure = .panic .tickerInterval := by
  unfold pingHealthcheck at failed
  split at failed
  · cases failed
  · dsimp only at failed
    split at failed <;> cases failed
    rfl

/-- A prepared start goes on with the ticker and the calls. -/
theorem boot_prepared {γ : Type} {env : Surroundings} {primary : RawConfig}
    {prepared : Bool × RawConfig} (ok : prepare env primary = .ok prepared)
    (accepted : (validateGlobal env.listen env.parses primary.config).fatal = false)
    (calls : List (RpcTrial γ)) :
    boot env primary calls =
      (pingHealthcheck primary.healthcheck).bind fun interval =>
        (calls.foldlM callRpc prepared.2.chains).map fun _ => interval := by
  obtain ⟨fatal, healthcheck⟩ := prepare_settings ok
  rw [accepted] at fatal
  rw [boot, ok, ← healthcheck]
  show (if prepared.1 = true then _ else _) = _
  rw [if_neg (by simp [fatal])]
  rfl

/-- Calls that go through leave the outcome to the ticker. -/
theorem boot_of_calls {γ : Type} {env : Surroundings} {primary : RawConfig}
    {prepared : Bool × RawConfig} (ok : prepare env primary = .ok prepared)
    (accepted : (validateGlobal env.listen env.parses primary.config).fatal = false)
    {calls : List (RpcTrial γ)} {last : Table String (Option RawChain)}
    (done : calls.foldlM callRpc prepared.2.chains = .ok last) :
    boot env primary calls = pingHealthcheck primary.healthcheck := by
  rw [boot_prepared ok accepted, done]
  cases pingHealthcheck primary.healthcheck <;> rfl

/-- A null entry that is still there after the validation makes some call panic. -/
theorem boot_null {γ : Type} {env : Surroundings} {primary : RawConfig}
    {prepared : Bool × RawConfig} (ok : prepare env primary = .ok prepared)
    (accepted : (validateGlobal env.listen env.parses primary.config).fatal = false)
    (broken : ¬ AllWhole prepared.2.chains) :
    ∃ (calls : List (RpcTrial γ)) (reason : Panic),
      boot env primary calls = .error (.panic reason) := by
  simp only [AllWhole, not_forall] at broken
  obtain ⟨name, entry, there, null⟩ := broken
  refine ⟨[{ name := name, trials := refused }], ?_⟩
  rw [boot_prepared ok accepted, List.foldlM_cons, callRpc_null there null]
  -- The ticker comes first, and may panic on its own.
  cases ping : pingHealthcheck primary.healthcheck with
  | error failure =>
    rw [pingHealthcheck_error ping]
    exact ⟨.tickerInterval, rfl⟩
  | ok interval => exact ⟨.nilDereference, rfl⟩

/-- For every configuration that is accepted: the start and the calls of `newRpc` run into
no nil pointer and no bad ticker, whatever the endpoints answer, if and only if no chain
and no node is null and the ping rate makes a ticker. -/
theorem boot_safe_iff {γ : Type} (env : Surroundings) (primary : RawConfig)
    (chains : Table String (Option RawChain)) (saved : SavedState)
    (files : loadChainFiles env.load env.entries primary.chains = .ok chains)
    (nonempty : chains.isEmpty = false) (state : env.state = .ok saved)
    (accepted : (validateGlobal env.listen env.parses primary.config).fatal = false) :
    (∀ calls : List (RpcTrial γ), SafeStart primary.healthcheck (boot env primary calls)) ↔
      AllWhole chains ∧ Tickable primary.healthcheck := by
  have stage := prepare_stage files nonempty state
  constructor
  · intro safe
    have whole : AllWhole chains := by
      by_contra broken
      -- Either the start itself fails, or a chain with a null entry is called later.
      rcases stage with ⟨failed, -⟩ | ⟨prepared, ok, same⟩
      · apply (safe []).noPanic .nilDereference
        rw [boot, failed]
        rfl
      · obtain ⟨calls, reason, panicked⟩ := boot_null ok accepted (mt same.mp broken)
        exact (safe calls).noPanic reason panicked
    refine ⟨whole, ?_⟩
    rcases stage with ⟨-, broken⟩ | ⟨prepared, ok, -⟩
    · exact absurd whole broken
    · have outcome := safe []
      rw [boot_of_calls ok accepted rfl, pingHealthcheck_safe_iff] at outcome
      exact outcome
  · rintro ⟨whole, tickable⟩ calls
    rcases stage with ⟨-, broken⟩ | ⟨prepared, ok, same⟩
    · exact absurd whole broken
    · obtain ⟨last, done⟩ := calls_whole (same.mpr whole) calls
      rw [boot_of_calls ok accepted done, pingHealthcheck_safe_iff]
      exact tickable

/-- No chain files, no saved state, and a listen address that parses. -/
def plainSurroundings : Surroundings :=
  { range := sortedRange, entries := [], load := fun _ => .error .notExist, state := .ok {}
    now := 0, listen := "", parses := true }

/-- A chain with one node, checked every minute. -/
theorem boot_safe_whole :
    let raw : RawChain :=
      { chain := { chainId := "osmosis-1" }, nodes := [some { url := "http://node" }] }
    let chains : Table String (Option RawChain) := (∅ : Table _ _).insert "osmosis" (some raw)
    let primary : RawConfig :=
      { healthcheck := { enabled := true, pingRate := 60 }, chains := chains }
    ∀ calls : List (RpcTrial Unit),
      SafeStart primary.healthcheck (boot plainSurroundings primary calls) := by
  intro raw chains primary
  refine (boot_safe_iff plainSurroundings primary chains {} rfl (by decide +kernel) rfl
    (by decide +kernel)).mpr ⟨?_, ?_⟩
  · intro name entry there
    rw [Table.get_insert] at there
    split at there
    · cases there
      simp [Whole, raw]
    · simp at there
  · intro _
    exact ⟨by decide, by decide⟩

/-- A null node, and a ping rate of zero: both are accepted. -/
theorem boot_panics :
    let env := plainSurroundings
    let chains (node : Option NodeConfig) : Table String (Option RawChain) :=
      (∅ : Table _ _).insert "osmosis"
        (some { chain := { chainId := "osmosis-1" }, nodes := [node] })
    let nullNode : RawConfig := { chains := chains none }
    let zeroRate : RawConfig :=
      { healthcheck := { enabled := true }, chains := chains (some { url := "http://node" }) }
    (prepare env nullNode).toOption.map (·.1) = some false ∧
    boot env nullNode [{ name := "osmosis", trials := (refused : Nat → Node.Trial Unit) }] =
      nilDereference ∧
    (prepare env zeroRate).toOption.map (·.1) = some false ∧
    boot env zeroRate ([] : List (RpcTrial Unit)) = .error (.panic .tickerInterval) := by
  decide +kernel

end Seer.Runtime
