import Mathlib.Data.List.Infix
import Seer.Alert.Worker
import Seer.Runtime.Validate

/-!
# Mentions

An operator lists who is to be mentioned in the alerts, globally and per chain. The list
goes through three places: `validateConfig` inherits it, `Config.alert` joins it into the
message, and each sink builds its payload. Here the list that should arrive is followed
through them. None of it arrives: the message never gets Slack's list, and the payloads of
Discord and Telegram are built without theirs.
-/
namespace Seer.Alert

open Seer.Lib

/-- The sinks with a list of mentions. -/
inductive MentionSink where
  | slack
  | discord
  | telegram
  deriving DecidableEq, Repr

namespace MentionSink

def globalMentions (sink : MentionSink) (config : Config) : List String :=
  match sink with
  | .slack => config.slack.mentions
  | .discord => config.discord.mentions
  | .telegram => config.telegram.mentions

def chainMentions (sink : MentionSink) (chain : ChainConfig) : List String :=
  match sink with
  | .slack => chain.alerts.slack.mentions
  | .discord => chain.alerts.discord.mentions
  | .telegram => chain.alerts.telegram.mentions

/-- The setting whose absence makes a chain inherit the global list. -/
def credential (sink : MentionSink) (chain : ChainConfig) : String :=
  match sink with
  | .slack => chain.alerts.slack.webhook
  | .discord => chain.alerts.discord.webhook
  | .telegram => chain.alerts.telegram.apiKey

def enabled (sink : MentionSink) (config : Config) (chain : ChainConfig) : Bool :=
  match sink with
  | .slack => config.slack.enabled && chain.alerts.slack.enabled
  | .discord => config.discord.enabled && chain.alerts.discord.enabled
  | .telegram => config.telegram.enabled && chain.alerts.telegram.enabled

/-- The texts of the payload that a reader of the notification sees. -/
def payloadTexts (sink : MentionSink) (msg : AlertMsg) : List String :=
  match sink with
  | .slack =>
    let body := buildSlackMessage msg
    body.text :: body.attachments.flatMap fun attachment => [attachment.title, attachment.text]
  | .discord =>
    let body := buildDiscordMessage msg
    body.username :: body.content ::
      body.embeds.flatMap fun embed => [embed.title, embed.description]
  | .telegram => [buildTelegramText msg]

/-- The list that should arrive: the chain's own, or else the global one. -/
def effectiveMentions (sink : MentionSink) (config : Config) (chain : ChainConfig) : List String :=
  if sink.chainMentions chain = [] then sink.globalMentions config else sink.chainMentions chain

end MentionSink

def Occurs (mention text : String) : Prop := mention.toList <:+: text.toList

instance (mention text : String) : Decidable (Occurs mention text) :=
  inferInstanceAs (Decidable (_ <:+: _))

def Mentioned (sink : MentionSink) (msg : AlertMsg) (mention : String) : Prop :=
  ∃ text ∈ sink.payloadTexts msg, Occurs mention text

/-! ## Inheritance -/

/-- After the validation a chain has the list of whoever gave the credential. -/
theorem chainMentions_validateChain (sink : MentionSink) (config : Config) (name : String)
    (chain : ChainConfig) :
    sink.chainMentions (Runtime.validateChain config name chain) =
      if sink.credential chain = "" then sink.globalMentions config
      else sink.chainMentions chain := by
  -- Telegram's channel has a default of its own, which leaves the mentions alone.
  by_cases blank : sink.credential chain = "" <;>
    by_cases channel : chain.alerts.telegram.channel = "" <;>
      cases sink <;>
        simp_all [MentionSink.credential, MentionSink.chainMentions, MentionSink.globalMentions,
          Runtime.validateChain, Runtime.copyDefaults, Runtime.enableDeprecated]

/-- That is the effective list only if the list and the credential come from one place. -/
theorem inherits_effective_iff (sink : MentionSink) (config : Config) (name : String)
    (chain : ChainConfig) :
    sink.chainMentions (Runtime.validateChain config name chain) =
        sink.effectiveMentions config chain ↔
      if sink.credential chain = "" then
        sink.chainMentions chain = [] ∨ sink.chainMentions chain = sink.globalMentions config
      else sink.chainMentions chain = [] → sink.globalMentions config = [] := by
  rw [chainMentions_validateChain, MentionSink.effectiveMentions]
  by_cases blank : sink.credential chain = ""
  · rw [if_pos blank, if_pos blank]
    by_cases empty : sink.chainMentions chain = []
    · rw [if_pos empty]
      simp [empty]
    · rw [if_neg empty]
      constructor
      · exact fun same => .inr same.symm
      · rintro (wrong | same)
        · exact absurd wrong empty
        · exact same.symm
  · rw [if_neg blank, if_neg blank]
    by_cases empty : sink.chainMentions chain = []
    · rw [if_pos empty, empty]
      constructor
      · exact fun same _ => same.symm
      · exact fun same => (same rfl).symm
    · rw [if_neg empty]
      exact ⟨fun _ wrong => absurd wrong empty, fun _ => rfl⟩

/-! ## The payload -/

/-- What the payload says without any mention. -/
def plainTexts (sink : MentionSink) (name message : String) (resolved : Bool) : List String :=
  let marker := if resolved then "💜 Resolved: " else "🚨 ALERT: "
  match sink with
  | .slack =>
    [if resolved then "OK: " ++ message else message,
      brandName ++ " " ++ marker ++ " " ++ name ++ " ", ""]
  | .discord => [brandName, marker ++ name, "", message]
  | .telegram => [brandName ++ " " ++ name ++ ": " ++ marker ++ " - " ++ message]

/-- No list of mentions has an effect on what is sent. -/
theorem payloadTexts_alert (sink : MentionSink) (config : Config) (name : String)
    (chain : ChainConfig) (message severity : String) (resolved : Bool) (id : Option String) :
    sink.payloadTexts (alert config name chain message severity resolved id) =
      plainTexts sink name message resolved := by
  cases sink <;> cases resolved <;>
    simp [MentionSink.payloadTexts, plainTexts, alert, buildSlackMessage, buildDiscordMessage,
      buildTelegramText, alertMarker]

/-- For every configuration after the validation, every chain and every alert: the payload
has all effective mentions if and only if each of them occurs in what is sent anyway. -/
theorem mentions_reach_iff (sink : MentionSink) (listen : String) (parses : Bool)
    (order : List String) (config : Config) (ranged : order.Perm config.chains.keys) (name : String)
    (chain : ChainConfig) (own : config.chains[name]? = some chain) (message severity : String)
    (resolved : Bool) (id : Option String) :
    let validated := (Runtime.validateConfig listen parses order config).config
    let checked := Runtime.validateChain config name chain
    validated.chains[name]? = some checked ∧
      ((∀ mention ∈ sink.effectiveMentions config chain,
          Mentioned sink (alert validated name checked message severity resolved id) mention) ↔
        ∀ mention ∈ sink.effectiveMentions config chain,
          ∃ text ∈ plainTexts sink name message resolved, Occurs mention text) := by
  intro validated checked
  constructor
  · rw [Runtime.lookup_validateConfig listen parses order config ranged, own]
    rfl
  · simp only [Mentioned, payloadTexts_alert]

/-- A chain that takes everything from the global settings. -/
def mentionChain : ChainConfig :=
  { alerts :=
      { slack := { enabled := true }, discord := { enabled := true }
        telegram := { enabled := true } } }

def mentionConfig (mentions : List String) : Config :=
  { slack := { enabled := true, webhook := "https://slack", mentions := mentions }
    discord := { enabled := true, webhook := "https://discord", mentions := mentions }
    telegram := { enabled := true, apiKey := "key", channel := "channel", mentions := mentions }
    chains := (∅ : Table _ _).insert "osmosis" mentionChain }

/-- Mentions that are the chain's name arrive with the name. -/
theorem mentions_reach_name :
    let config := mentionConfig ["osmosis"]
    ∀ sink : MentionSink, ∀ mention ∈ sink.effectiveMentions config mentionChain,
      Mentioned sink (alert (Runtime.validateConfig "" true ["osmosis"] config).config "osmosis"
        (Runtime.validateChain config "osmosis" mentionChain) "stalled" "critical" false none)
        mention := by
  intro config sink
  refine ((mentions_reach_iff sink "" true ["osmosis"] config (by decide +kernel) "osmosis"
    mentionChain (by decide +kernel) "stalled" "critical" false none).2).mpr ?_
  cases sink <;> decide +kernel

/-- The on-call person is listed for all three sinks, which are enabled, and is mentioned
by none. -/
theorem mentions_lost :
    let config := mentionConfig ["@oncall"]
    let validated := (Runtime.validateConfig "" true ["osmosis"] config).config
    let checked := Runtime.validateChain config "osmosis" mentionChain
    let msg := alert validated "osmosis" checked "stalled" "critical" false none
    validated.chains["osmosis"]? = some checked ∧
    ∀ sink : MentionSink, sink.enabled validated checked = true ∧
      sink.effectiveMentions config mentionChain = ["@oncall"] ∧ ¬ Mentioned sink msg "@oncall" := by
  refine ⟨by decide +kernel, fun sink => ?_⟩
  cases sink <;> exact ⟨by decide +kernel, by decide +kernel, by unfold Mentioned; decide +kernel⟩

end Seer.Alert
