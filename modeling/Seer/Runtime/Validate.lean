import Seer.Watch.ActiveSet

/-!
# Checking the configuration at start

`validateConfig` walks over the chains once. It fills an empty block history, names the
chain, publishes a placeholder for the validator, copies in the alert defaults and
collects problems. Go ranges over the chains in no fixed order, so the order is an input.
-/
namespace Seer.Runtime

open Seer.Lib

def showBLocks : Nat := 512

/-- Nothing is known of the blocks before the first one. A nil slice and an empty one are
the same here: nothing makes an empty one that is not nil. -/
def fillBlocks (blocks : List Int) : List Int :=
  if blocks.isEmpty then List.replicate showBLocks (-1) else blocks

/-- The deprecated switches turn the destinations on. -/
def enableDeprecated (alerts : AlertConfig) : AlertConfig :=
  { alerts with
    discord := { alerts.discord with enabled := alerts.discord.enabled || alerts.discordAlerts }
    telegram := { alerts.telegram with enabled := alerts.telegram.enabled || alerts.telegramAlerts }
    pagerduty :=
      { alerts.pagerduty with enabled := alerts.pagerduty.enabled || alerts.pagerdutyAlerts } }

/-- A blank setting is replaced by the global one. -/
def copyDefaults (config : Config) (alerts : AlertConfig) : AlertConfig :=
  -- Telegram's channel has a test of its own, after the one for the key.
  let telegram := if alerts.telegram.apiKey = "" then
      { alerts.telegram with apiKey := config.telegram.apiKey, mentions := config.telegram.mentions }
    else alerts.telegram
  { alerts with
    discord := if alerts.discord.webhook = "" then
        { alerts.discord with webhook := config.discord.webhook, mentions := config.discord.mentions }
      else alerts.discord
    slack := if alerts.slack.webhook = "" then
        { alerts.slack with webhook := config.slack.webhook, mentions := config.slack.mentions }
      else alerts.slack
    telegram := if telegram.channel = "" then { telegram with channel := config.telegram.channel }
      else telegram
    pagerduty := if alerts.pagerduty.apiKey = "" then
        { alerts.pagerduty with
          apiKey := config.pagerduty.apiKey
          defaultSeverity := config.pagerduty.defaultSeverity }
      else alerts.pagerduty }

/-- `fmt.Sprintf("warn: %20s ...", name)`. -/
def warning (name rest : String) : String :=
  "warn: " ++ "".pushn ' ' (20 - name.length) ++ name ++ rest

/-- The switch over the destinations and alert types, with its fall-throughs. -/
def alertProblems (config : Config) (name : String) (alerts : AlertConfig) : List String :=
  let telegram := [warning name " is configured for telegram alerts, but it is not enabled"]
  let pagerduty :=
    warning name " is configured for pagerduty alerts, but it is not enabled" :: telegram
  let discord := warning name " is configured for discord alerts, but it is not enabled" :: pagerduty
  let slack := warning name " is configured for slack alerts, but it is not enabled" :: discord
  let silent := [warning name " has no notifications configured"]
  if alerts.slack.enabled && !config.slack.enabled then slack
  else if alerts.discord.enabled && !config.discord.enabled then discord
  else if alerts.pagerduty.enabled && !config.pagerduty.enabled then pagerduty
  else if alerts.telegram.enabled && !config.telegram.enabled then telegram
  else if !alerts.consecutiveAlerts && !alerts.percentageAlerts && !alerts.alertIfInactive &&
      !alerts.alertIfNoServers then
    warning name " has no alert types configured" :: silent
  else if !alerts.pagerduty.enabled && !alerts.discord.enabled && !alerts.telegram.enabled &&
      !alerts.slack.enabled then silent
  else []

def validateChain (config : Config) (name : String) (chain : ChainConfig) : ChainConfig :=
  { chain with
    blocksResults := fillBlocks chain.blocksResults
    name := if chain.name = "" then name else chain.name
    monitoring := Watch.publishValidatorInfo chain.monitoring { moniker := "not connected" } false
    alerts := copyDefaults config (enableDeprecated chain.alerts) }

/-- The first line of a chain on the dashboard. -/
def initialStatus (chain : ChainConfig) : ChainStatus :=
  let valInfo := chain.monitoring.valInfo.getD {}
  { name := chain.name
    chainId := chain.chainId
    moniker := valInfo.moniker
    bonded := valInfo.bonded
    jailed := valInfo.jailed
    tombstoned := valInfo.tombstoned
    missed := valInfo.missed
    window := valInfo.window
    nodes := chain.nodes.length
    blocks := chain.blocksResults }

structure Validated where
  config : Config
  fatal : Bool := false
  problems : List String := []
  wantsPublic : Bool := false
  /-- Sent to the dashboard, oldest first. -/
  statuses : List ChainStatus := []

def validateStep (done : Validated) (name : String) : Validated :=
  match done.config.chains[name]? with
  | none => done
  | some chain =>
    let chain := validateChain done.config name chain
    { done with
      config := { done.config with chains := done.config.chains.insert name chain }
      problems := done.problems ++ alertProblems done.config name chain.alerts
      wantsPublic := done.wantsPublic || chain.publicFallback
      statuses := done.statuses ++ if done.config.enableDash then [initialStatus chain] else [] }

/-- The checks that concern no single chain. `parses` says whether `url.Parse` accepts the
listen address. -/
def validateGlobal (listen : String) (parses : Bool) (config : Config) : Validated :=
  let badListen := config.enableDash && !parses
  let oauth := config.pagerduty.enabled &&
    config.pagerduty.apiKey.toList.any fun c => c = '+' ∨ c = '_' ∨ c = '-'
  { config := config
    fatal := badListen || oauth
    problems :=
      (if badListen then
        ["error: The listen URL " ++ listen ++ " does not appear to be valid"] else []) ++
      (if oauth then
        ["error: The Pagerduty key provided appears to be an Oauth token, not a V2 Events API key."]
        else []) ++
      (if config.nodeDownMin < 3 then
        ["warning: setting 'node_down_alert_minutes' to less than three minutes might result in " ++
          "false alarms"] else []) }

def validateConfig (listen : String) (parses : Bool) (order : List String) (config : Config) :
    Validated :=
  order.foldl validateStep (validateGlobal listen parses config)

/-! ## What the walk leaves -/

/-- The walk writes chains only, so what they inherit is the same at every step. -/
theorem validateChain_validateStep (done : Validated) (visited : String) :
    validateChain (validateStep done visited).config = validateChain done.config := by
  funext name chain
  unfold validateStep
  split <;> rfl

theorem lookup_validateStep (done : Validated) (visited name : String) :
    (validateStep done visited).config.chains[name]? =
      if visited = name then done.config.chains[name]?.map (validateChain done.config name)
      else done.config.chains[name]? := by
  unfold validateStep
  cases found : done.config.chains[visited]? with
  | none =>
    by_cases same : visited = name
    · subst same
      simp [found]
    · simp [same]
  | some chain =>
    dsimp only
    rw [Table.get_insert]
    by_cases same : visited = name
    · subst same
      simp [found]
    · simp [same]

/-- Go visits every chain once, in some order: each is validated on its own. -/
theorem lookup_validateConfig (listen : String) (parses : Bool) (order : List String)
    (config : Config) (range : order.Perm config.chains.keys) (name : String) :
    (validateConfig listen parses order config).config.chains[name]? =
      config.chains[name]?.map (validateChain config name) := by
  have walk : ∀ (order : List String) (done : Validated), order.Nodup →
      (order.foldl validateStep done).config.chains[name]? =
        if name ∈ order then done.config.chains[name]?.map (validateChain done.config name)
        else done.config.chains[name]? := by
    intro order
    induction order with
    | nil => intro done _; rfl
    | cons visited later ih =>
      intro done distinct
      obtain ⟨first, rest⟩ := List.nodup_cons.mp distinct
      rw [List.foldl_cons, ih _ rest, lookup_validateStep, validateChain_validateStep]
      by_cases here : visited = name
      · subst here
        simp [first]
      · simp [here, Ne.symm here]
  have distinct : order.Nodup := range.nodup_iff.mpr Std.ExtTreeMap.nodup_keys
  have whole : (validateGlobal listen parses config).config = config := rfl
  rw [validateConfig, walk order _ distinct, whole]
  split
  · rfl
  next absent =>
    have missing : name ∉ config.chains := by
      rwa [← Std.ExtTreeMap.mem_keys, ← range.mem_iff]
    rw [Std.ExtTreeMap.getElem?_eq_none missing]
    rfl

/-- Only the checks that concern no single chain are fatal. -/
theorem fatal_validateConfig (listen : String) (parses : Bool) (order : List String)
    (config : Config) :
    (validateConfig listen parses order config).fatal = (validateGlobal listen parses config).fatal := by
  have walk : ∀ done : Validated, (order.foldl validateStep done).fatal = done.fatal := by
    induction order with
    | nil => exact fun done => rfl
    | cons visited later ih =>
      intro done
      rw [List.foldl_cons, ih, validateStep]
      split <;> rfl
  exact walk _

theorem fillBlocks_idem (blocks : List Int) : fillBlocks (fillBlocks blocks) = fillBlocks blocks := by
  unfold fillBlocks
  split
  · simp [showBLocks]
  · rfl

/-- The block history that a configuration has for a chain. -/
def historyOf (config : Config) (name : String) : Option (List Int) :=
  (config.chains[name]?).map (·.blocksResults)

theorem historyOf_validateStep (done : Validated) (visited name : String) :
    historyOf (validateStep done visited).config name =
      if visited = name then (historyOf done.config name).map fillBlocks
      else historyOf done.config name := by
  by_cases same : visited = name
  · subst same
    rw [if_pos rfl]
    unfold validateStep historyOf
    cases found : done.config.chains[visited]? with
    | none => simp [found]
    | some chain => simp [validateChain]
  · rw [if_neg same]
    unfold validateStep historyOf
    cases done.config.chains[visited]? with
    | none => rfl
    | some chain =>
      dsimp only
      rw [Table.get_insert, if_neg same]

/-- Every chain that the walk visits gets its history filled, whatever the order. -/
theorem historyOf_validateConfig (listen : String) (parses : Bool) (order : List String)
    (config : Config) (name : String) :
    historyOf (validateConfig listen parses order config).config name =
      if name ∈ order then (historyOf config name).map fillBlocks else historyOf config name := by
  have walk : ∀ done : Validated, historyOf (order.foldl validateStep done).config name =
      if name ∈ order then (historyOf done.config name).map fillBlocks
      else historyOf done.config name := by
    induction order with
    | nil => intro done; rfl
    | cons visited later ih =>
      intro done
      rw [List.foldl_cons, ih, historyOf_validateStep]
      -- A chain visited again finds its history filled already.
      by_cases here : visited = name
      · have twice : ((historyOf done.config name).map fillBlocks).map fillBlocks =
            (historyOf done.config name).map fillBlocks := by
          simp [Function.comp_def, fillBlocks_idem]
        simp [here, twice]
      · simp [here, Ne.symm here]
  exact walk _

end Seer.Runtime
