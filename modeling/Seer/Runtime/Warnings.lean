import Mathlib.Data.List.Infix
import Seer.Runtime.Validate

/-!
# The warnings about a chain's alerts

`validateConfig` warns about a destination that a chain uses while it is switched off
globally, about a chain without alert types and about one without destinations. The six
conditions stand in one switch, where all cases but two fall through into the next one
without its condition, and where the first case that holds hides the later ones. So a
warning can be missing or wrong, and here it is shown when none is. Names are printed to a
width of 20: names that differ only in leading spaces can print the same.
-/
namespace Seer.Runtime

open Seer.Lib

/-- The warnings about one chain. -/
inductive Warning where
  | slack
  | discord
  | pagerduty
  | telegram
  | types
  | silent
  deriving DecidableEq, Repr

namespace Warning

/-- The text after the name. -/
def text : Warning → String
  | .slack => " is configured for slack alerts, but it is not enabled"
  | .discord => " is configured for discord alerts, but it is not enabled"
  | .pagerduty => " is configured for pagerduty alerts, but it is not enabled"
  | .telegram => " is configured for telegram alerts, but it is not enabled"
  | .types => " has no alert types configured"
  | .silent => " has no notifications configured"

/-- What the warning says of the chain. -/
def applies (config : Config) (alerts : AlertConfig) : Warning → Bool
  | .slack => alerts.slack.enabled && !config.slack.enabled
  | .discord => alerts.discord.enabled && !config.discord.enabled
  | .pagerduty => alerts.pagerduty.enabled && !config.pagerduty.enabled
  | .telegram => alerts.telegram.enabled && !config.telegram.enabled
  | .types => !alerts.consecutiveAlerts && !alerts.percentageAlerts && !alerts.alertIfInactive &&
      !alerts.alertIfNoServers
  | .silent => !alerts.pagerduty.enabled && !alerts.discord.enabled && !alerts.telegram.enabled &&
      !alerts.slack.enabled

/-- The cases of the switch, each with what it falls through to. -/
def emitted (config : Config) (alerts : AlertConfig) : List Warning :=
  if applies config alerts .slack then [.slack, .discord, .pagerduty, .telegram]
  else if applies config alerts .discord then [.discord, .pagerduty, .telegram]
  else if applies config alerts .pagerduty then [.pagerduty, .telegram]
  else if applies config alerts .telegram then [.telegram]
  else if applies config alerts .types then [.types, .silent]
  else if applies config alerts .silent then [.silent]
  else []

end Warning

theorem alertProblems_eq (config : Config) (name : String) (alerts : AlertConfig) :
    alertProblems config name alerts =
      (Warning.emitted config alerts).map fun w => warning name w.text := by
  unfold Warning.emitted
  simp only [apply_ite (List.map fun w : Warning => warning name w.text)]
  rfl

/-- The defaults that are copied in decide nothing here. -/
theorem applies_copyDefaults (config : Config) (alerts : AlertConfig) (w : Warning) :
    w.applies config (copyDefaults config alerts) = w.applies config alerts := by
  cases w <;>
    simp only [Warning.applies, copyDefaults, apply_ite SlackConfig.enabled,
      apply_ite DiscordConfig.enabled, apply_ite PDConfig.enabled, apply_ite TeleConfig.enabled,
      ite_self]

/-- The switch sees only which warnings apply. -/
theorem emitted_congr {config : Config} {alerts other : AlertConfig}
    (same : ∀ w : Warning, w.applies config alerts = w.applies config other) :
    Warning.emitted config alerts = Warning.emitted config other := by
  simp only [Warning.emitted, same]

/-! ## When the switch is exact -/

/-- Along the cases of the switch each one that applies lets the next one apply, and only
a chain without destinations has no alert types. -/
structure Ordered (config : Config) (alerts : AlertConfig) : Prop where
  slack : Warning.slack.applies config alerts = true → Warning.discord.applies config alerts = true
  discord : Warning.discord.applies config alerts = true →
    Warning.pagerduty.applies config alerts = true
  pagerduty : Warning.pagerduty.applies config alerts = true →
    Warning.telegram.applies config alerts = true
  types : Warning.types.applies config alerts = true → Warning.silent.applies config alerts = true

/-- A destination that is switched off globally is still a destination. -/
theorem not_silent_of_telegram {config : Config} {alerts : AlertConfig}
    (telegram : Warning.telegram.applies config alerts = true) :
    Warning.silent.applies config alerts = false := by
  simp only [Warning.applies, Bool.and_eq_true] at telegram
  simp [Warning.applies, telegram.1]

theorem emitted_exact_iff (config : Config) (alerts : AlertConfig) :
    (∀ w : Warning, w ∈ Warning.emitted config alerts ↔ w.applies config alerts = true) ↔
      Ordered config alerts := by
  constructor
  · intro precise
    -- What a case falls through to is emitted, so it has to apply.
    refine ⟨fun slack => ?_, fun discord => ?_, fun pagerduty => ?_, fun types => ?_⟩
    · rw [← precise]
      simp [Warning.emitted, slack]
    · rw [← precise]
      unfold Warning.emitted
      split_ifs <;> simp
    · rw [← precise]
      unfold Warning.emitted
      split_ifs <;> simp
    · rw [← precise] at types ⊢
      unfold Warning.emitted at types ⊢
      split_ifs at types ⊢ <;> simp_all
  · rintro ⟨slack, discord, pagerduty, types⟩ w
    have quiet := @not_silent_of_telegram config alerts
    unfold Warning.emitted
    split_ifs <;> cases w <;> simp_all

/-! ## Texts -/

/-- The name as it is printed. -/
def padded (name : String) : String := "".pushn ' ' (20 - name.length) ++ name

theorem toList_warning (name rest : String) :
    (warning name rest).toList = "warn: ".toList ++ (padded name).toList ++ rest.toList := by
  simp [warning, padded]

/-- No text is the end of another. -/
theorem text_suffix {w other : Warning} (suffix : w.text.toList <:+ other.text.toList) :
    w = other := by
  revert suffix
  cases w <;> cases other <;> simp only [Warning.text, String.reduceToList] <;> decide

/-- A warning tells its kind and the printed name. -/
theorem warning_inj {name other : String} {w v : Warning} :
    warning name w.text = warning other v.text ↔ padded name = padded other ∧ w = v := by
  constructor
  · intro same
    have lists : "warn: ".toList ++ (padded name).toList ++ w.text.toList =
        "warn: ".toList ++ (padded other).toList ++ v.text.toList := by
      rw [← toList_warning, ← toList_warning, same]
    have kind : w = v := by
      rcases List.suffix_or_suffix_of_suffix (List.suffix_append _ w.text.toList)
        (lists ▸ List.suffix_append _ v.text.toList) with suffix | suffix
      · exact text_suffix suffix
      · exact (text_suffix suffix).symm
    subst kind
    rw [List.append_cancel_right_eq, List.append_cancel_left_eq, String.toList_inj] at lists
    exact ⟨lists, rfl⟩
  · rintro ⟨names, rfl⟩
    rw [← String.toList_inj, toList_warning, toList_warning, names]

/-- The problems that concern no single chain are worded differently. -/
theorem warning_not_mem_global (listen : String) (parses : Bool) (config : Config)
    (name rest : String) :
    warning name rest ∉ (validateGlobal listen parses config).problems := by
  have front : (warning name rest).toList.take 6 = "warn: ".toList := by
    simp [toList_warning]
  intro member
  simp only [validateGlobal, List.mem_append, List.mem_ite_nil_right, List.mem_singleton] at member
  rcases member with (⟨-, same⟩ | ⟨-, same⟩) | ⟨-, same⟩
  · rw [same] at front
    simp at front
  · rw [same] at front
    simp at front
  · rw [same] at front
    simp at front

/-! ## The walk over the chains -/

/-- What the walk adds for one name. -/
def problemsOf (config : Config) (name : String) : List String :=
  match config.chains[name]? with
  | none => []
  | some chain => alertProblems config name (validateChain config name chain).alerts

theorem problemsOf_validateStep (done : Validated) {visited name : String}
    (other : visited ≠ name) :
    problemsOf (validateStep done visited).config name = problemsOf done.config name := by
  have same : alertProblems (validateStep done visited).config = alertProblems done.config := by
    funext name alerts
    unfold validateStep
    split <;> rfl
  rw [problemsOf, lookup_validateStep, if_neg other, same, validateChain_validateStep]
  rfl

theorem problems_validateStep (done : Validated) (visited : String) :
    (validateStep done visited).problems = done.problems ++ problemsOf done.config visited := by
  unfold validateStep problemsOf
  cases done.config.chains[visited]? with
  | none => simp
  | some chain => rfl

theorem problems_validateConfig (listen : String) (parses : Bool) {order : List String}
    (config : Config) (distinct : order.Nodup) :
    (validateConfig listen parses order config).problems =
      (validateGlobal listen parses config).problems ++ order.flatMap (problemsOf config) := by
  have walk : ∀ done : Validated, (order.foldl validateStep done).problems =
      done.problems ++ order.flatMap (problemsOf done.config) := by
    induction order with
    | nil => simp
    | cons visited later ih =>
      intro done
      obtain ⟨fresh, distinct⟩ := List.nodup_cons.mp distinct
      have rest : later.flatMap (problemsOf (validateStep done visited).config) =
          later.flatMap (problemsOf done.config) := by
        apply List.flatMap_congr
        intro name member
        exact problemsOf_validateStep done fun same => fresh (same ▸ member)
      rw [List.foldl_cons, ih distinct, problems_validateStep, rest, List.flatMap_cons,
        List.append_assoc]
  exact walk _

/-- The switches of a chain with the deprecated ones folded in. -/
def switches (chain : ChainConfig) : AlertConfig := enableDeprecated chain.alerts

theorem mem_problemsOf {config : Config} {other : String} {text : String} :
    text ∈ problemsOf config other ↔ ∃ chain, config.chains[other]? = some chain ∧
      ∃ w ∈ Warning.emitted config (switches chain), warning other w.text = text := by
  have same : ∀ chain, Warning.emitted config (validateChain config other chain).alerts =
      Warning.emitted config (switches chain) := by
    intro chain
    exact emitted_congr (applies_copyDefaults config (switches chain))
  unfold problemsOf
  cases config.chains[other]? with
  | none => simp
  | some chain => simp [alertProblems_eq, same]

/-- A warning is among the problems when the switch emits it for a chain of that printed
name. -/
theorem warning_mem_iff (listen : String) (parses : Bool) {order : List String} {config : Config}
    (ranged : order.Perm config.chains.keys) (name : String) (w : Warning) :
    warning name w.text ∈ (validateConfig listen parses order config).problems ↔
      ∃ other chain, config.chains[other]? = some chain ∧ padded other = padded name ∧
        w ∈ Warning.emitted config (switches chain) := by
  have distinct : order.Nodup := ranged.nodup_iff.mpr Std.ExtTreeMap.nodup_keys
  rw [problems_validateConfig listen parses config distinct, List.mem_append, List.mem_flatMap]
  constructor
  · rintro (wrong | ⟨other, -, member⟩)
    · exact absurd wrong (warning_not_mem_global listen parses config name w.text)
    · obtain ⟨chain, there, v, emitted, same⟩ := mem_problemsOf.mp member
      obtain ⟨names, rfl⟩ := warning_inj.mp same
      exact ⟨other, chain, there, names, emitted⟩
  · rintro ⟨other, chain, there, names, emitted⟩
    refine .inr ⟨other, ?_, mem_problemsOf.mpr ⟨chain, there, w, emitted, ?_⟩⟩
    · rw [ranged.mem_iff, Std.ExtTreeMap.mem_keys, Std.ExtTreeMap.mem_iff_isSome_getElem?, there]
      rfl
    · exact warning_inj.mpr ⟨names, rfl⟩

/-- Every warning about every chain is among the problems exactly if it applies. -/
def WarningsExact (listen : String) (parses : Bool) (order : List String) (config : Config) :
    Prop :=
  ∀ (name : String) (chain : ChainConfig), config.chains[name]? = some chain → ∀ w : Warning,
    (warning name w.text ∈ (validateConfig listen parses order config).problems ↔
      w.applies config (switches chain) = true)

/-- Chains with the same printed name have the same warnings due. -/
def NamesAgree (config : Config) : Prop :=
  ∀ (name other : String) (chain chain' : ChainConfig), config.chains[name]? = some chain →
    config.chains[other]? = some chain' → padded name = padded other → ∀ w : Warning,
    w.applies config (switches chain) = w.applies config (switches chain')

/-- For every configuration with any chains: the warnings are exact if and only if every
chain's switches are ordered as the switch falls through, and chains that print the same
name agree. -/
theorem warnings_exact_iff (listen : String) (parses : Bool) (order : List String) (config : Config)
    (ranged : order.Perm config.chains.keys) :
    WarningsExact listen parses order config ↔
      (∀ (name : String) (chain : ChainConfig), config.chains[name]? = some chain →
        Ordered config (switches chain)) ∧ NamesAgree config := by
  constructor
  · intro precise
    have agree : NamesAgree config := by
      intro name other chain chain' there there' names w
      rw [Bool.eq_iff_iff, ← precise name chain there w, ← precise other chain' there' w,
        warning_inj.mpr ⟨names, rfl⟩]
    refine ⟨fun name chain there => ?_, agree⟩
    apply (emitted_exact_iff config (switches chain)).mp
    intro w
    rw [← precise name chain there w, warning_mem_iff listen parses ranged]
    constructor
    · exact fun emitted => ⟨name, chain, there, rfl, emitted⟩
    · rintro ⟨other, chain', there', names, emitted⟩
      rwa [emitted_congr (agree name other chain chain' there there' names.symm)]
  · rintro ⟨ordered, agree⟩ name chain there w
    rw [warning_mem_iff listen parses ranged,
      ← (emitted_exact_iff config _).mpr (ordered name chain there)]
    constructor
    · rintro ⟨other, chain', there', names, emitted⟩
      rwa [emitted_congr (agree name other chain chain' there there' names.symm)]
    · exact fun emitted => ⟨name, chain, there, rfl, emitted⟩

/-- Telegram alone is switched off globally, and a chain uses it. -/
theorem warnings_exact_telegram :
    let chain : ChainConfig := { alerts := { consecutiveAlerts := true, telegramAlerts := true } }
    let config : Config := { chains := (∅ : Table _ _).insert "osmosis" chain }
    WarningsExact "" true ["osmosis"] config := by
  intro chain config
  have only : ∀ (name : String) (found : ChainConfig), config.chains[name]? = some found →
      found = chain := by
    intro name found there
    rw [Table.get_insert] at there
    split at there
    · exact (Option.some.inj there).symm
    · simp at there
  refine (warnings_exact_iff "" true ["osmosis"] config (by decide +kernel)).mpr ⟨?_, ?_⟩
  · intro name found there
    rw [only name found there]
    exact ⟨by decide, by decide, by decide, by decide⟩
  · intro name other found found' there there' _ w
    rw [only name found there, only other found' there']

/-- A chain uses Slack only. It is also said to use the three other destinations, and it is
not said to have no alert types. -/
theorem warnings_fall_through :
    let chain : ChainConfig := { alerts := { slack := { enabled := true } } }
    let config : Config := { chains := (∅ : Table _ _).insert "osmosis" chain }
    let problems := (validateConfig "" true ["osmosis"] config).problems
    (∀ w ∈ [Warning.discord, .pagerduty, .telegram], w.applies config (switches chain) = false ∧
      warning "osmosis" w.text ∈ problems) ∧
    Warning.types.applies config (switches chain) = true ∧
    warning "osmosis" Warning.types.text ∉ problems ∧
    ¬ WarningsExact "" true ["osmosis"] config := by
  intro chain config problems
  have wrong : Warning.types.applies config (switches chain) = true ∧
      warning "osmosis" Warning.types.text ∉ problems := by
    decide +kernel
  refine ⟨by decide +kernel, wrong.1, wrong.2, fun precise => ?_⟩
  exact wrong.2 ((precise "osmosis" chain (by decide +kernel) .types).mpr wrong.1)

end Seer.Runtime
