import Seer.Alert.Automaton
import Seer.Watch.Messages

/-!
# Chains sharing a destination

The Sent and in-flight maps are keyed by the text of an alert alone, so two chains
stay out of each other's way at a destination exactly as long as they never raise
the same text there.
-/
namespace Seer.Alert

open Seer.Lib

/-- A delivery of an alert that some chain of the configuration raised, `raises` being
the texts each chain can raise. -/
def Raised (config : Config) (raises : String → String → Prop) (delivery : Delivery) : Prop :=
  ∃ name chain message severity resolved id,
    config.chains[name]? = some chain ∧ raises name message ∧
    delivery.msg = alert config name chain message severity resolved id

/-- The requests for a chain and the state of its alarms are those of the queue with
all other chains' alerts removed. -/
def Isolated (cache : AlarmCache) (dest : NotifyDest) (name : String) (queue : List Delivery) :
    Prop :=
  let shared := notificationWorker cache queue
  let own := notificationWorker cache (queue.filter fun delivery => delivery.msg.chain == name)
  (shared.requests dest).filter (fun made => made.1.chain == name) = own.requests dest ∧
  ∀ delivery ∈ queue, delivery.msg.chain = name → enabledAt delivery.msg dest = true →
    (delivery.msg.message ∈ sent shared.cache dest ↔ delivery.msg.message ∈ sent own.cache dest)

/-- The two runs agree on what belongs to the chain: its messages and its requests. -/
structure Agree (name : String) (own : String → Prop) (left right : Board) : Prop where
  keys : ∀ message, own message → left.keys message = right.keys message
  requests : left.requests.filter (fun made => made.1.chain == name) = right.requests

section TwoRuns
variable {dest : NotifyDest} {name : String} {own : String → Prop} {left right : Board}

theorem boardStep_disabled {delivery : Delivery} (board : Board)
    (disabled : enabledAt delivery.msg dest = false) : boardStep dest board delivery = board := by
  simp [boardStep, keyStep_disabled _ disabled]

/-- An alert of the chain itself moves both runs alike. -/
theorem Agree.ownStep (agree : Agree name own left right) {delivery : Delivery}
    (chain : delivery.msg.chain = name)
    (owned : enabledAt delivery.msg dest = true → own delivery.msg.message) :
    Agree name own (boardStep dest left delivery) (boardStep dest right delivery) := by
  cases enabled : enabledAt delivery.msg dest with
  | false => simpa only [boardStep_disabled _ enabled] using agree
  | true =>
    have same := agree.keys _ (owned enabled)
    constructor
    · intro message mine
      simp only [boardStep, same, Function.update_apply]
      split
      · rfl
      · exact agree.keys message mine
    · simp [boardStep, same, List.filter_append, agree.requests, List.filter_map,
        Function.comp_def, chain]

/-- An alert of another chain moves only the shared run, away from the chain. -/
theorem Agree.otherStep (agree : Agree name own left right) {delivery : Delivery}
    (chain : delivery.msg.chain ≠ name)
    (foreign : enabledAt delivery.msg dest = true → ¬ own delivery.msg.message) :
    Agree name own (boardStep dest left delivery) right := by
  cases enabled : enabledAt delivery.msg dest with
  | false => simpa only [boardStep_disabled _ enabled] using agree
  | true =>
    constructor
    -- The automaton that moves is the one of a text that is not the chain's.
    · intro message mine
      have other : message ≠ delivery.msg.message := by
        rintro rfl
        exact foreign enabled mine
      simp only [boardStep, Function.update_of_ne other]
      exact agree.keys message mine
    · simp [boardStep, List.filter_append, agree.requests, List.filter_map,
        Function.comp_def, chain]

theorem Agree.run (agree : Agree name own left right) (queue : List Delivery)
    (owned : ∀ delivery ∈ queue, delivery.msg.chain = name →
      enabledAt delivery.msg dest = true → own delivery.msg.message)
    (foreign : ∀ delivery ∈ queue, delivery.msg.chain ≠ name →
      enabledAt delivery.msg dest = true → ¬ own delivery.msg.message) :
    Agree name own (queue.foldl (boardStep dest) left)
      ((queue.filter fun delivery => delivery.msg.chain == name).foldl (boardStep dest) right) := by
  induction queue generalizing left right with
  | nil => exact agree
  | cons delivery later ih =>
    have here : delivery ∈ delivery :: later := List.mem_cons_self
    have rest := fun other (member : other ∈ later) => List.mem_cons_of_mem delivery member
    by_cases chain : delivery.msg.chain = name
    · rw [List.filter_cons_of_pos (by simpa using chain), List.foldl_cons, List.foldl_cons]
      exact ih (agree.ownStep chain (owned delivery here chain))
        (fun other member => owned other (rest other member))
        (fun other member => foreign other (rest other member))
    · rw [List.filter_cons_of_neg (by simpa using chain), List.foldl_cons]
      exact ih (agree.otherStep chain (foreign delivery here chain))
        (fun other member => owned other (rest other member))
        (fun other member => foreign other (rest other member))

end TwoRuns

/-- Chains whose enabled alerts have no text in common are isolated. -/
theorem isolated_of_apart {cache : AlarmCache} {dest : NotifyDest} (quiet : Quiet cache dest)
    (name : String) (queue : List Delivery)
    (apart : ∀ mine ∈ queue, ∀ theirs ∈ queue, mine.msg.chain = name → theirs.msg.chain ≠ name →
      enabledAt mine.msg dest = true → enabledAt theirs.msg dest = true →
      mine.msg.message ≠ theirs.msg.message) :
    Isolated cache dest name queue := by
  -- The texts to compare are those the chain itself queues here; `apart` says that no
  -- other chain's alert is one of them.
  let own : String → Prop := fun message => ∃ mine ∈ queue, mine.msg.chain = name ∧
    enabledAt mine.msg dest = true ∧ mine.msg.message = message
  let start : Board := { keys := view cache dest }
  have agree : Agree name own start start := ⟨fun _ _ => rfl, rfl⟩
  have run := agree.run queue
    (fun mine member chain enabled => ⟨mine, member, chain, enabled, rfl⟩)
    (by
      rintro theirs member foreign enabled ⟨mine, mineMember, chain, mineEnabled, same⟩
      exact apart mine mineMember theirs member chain foreign mineEnabled enabled same)
  rw [← worker_refines quiet, ← worker_refines quiet] at run
  refine ⟨run.requests, ?_⟩
  intro mine member chain enabled
  rw [mem_sent_iff, mem_sent_iff, run.keys _ ⟨mine, member, chain, enabled, rfl⟩]

/-- A trigger delivered at the epoch, every remote side accepting. -/
def epochTrigger (msg : AlertMsg) : Delivery :=
  { msg := { msg with resolved := false }
    reserveAt := fun _ => ⟨unixEpoch, Int.le_refl _⟩
    completeAt := fun _ => ⟨unixEpoch, Int.le_refl _⟩ }

/-- A first trigger is sent and opens its message. -/
theorem keyStep_first {msg : AlertMsg} {dest : NotifyDest} (enabled : enabledAt msg dest = true) :
    (keyStep dest {} (epochTrigger msg)).1.opened = true ∧
    (keyStep dest {} (epochTrigger msg)).2 ≠ [] := by
  have trigger : enabledAt { msg with resolved := false } dest = true := by
    cases dest <;> exact enabled
  obtain ⟨accepted, made⟩ := attemptAt_default { msg with resolved := false } dest
  simp [keyStep, epochTrigger, sends, trigger, recent, accepted, made, KeyState.accept]

/-- While a message is open, triggers of its text are dropped. -/
theorem keyStep_open {key : KeyState} (opened : key.opened = true) (msg : AlertMsg)
    (dest : NotifyDest) : keyStep dest key (epochTrigger msg) = (key, []) := by
  simp [keyStep, epochTrigger, sends, opened]

/-- The open trigger of another chain swallows a trigger of the same text. -/
theorem not_isolated_of_shared (dest : NotifyDest) (mine theirs : AlertMsg)
    (foreign : theirs.chain ≠ mine.chain) (same : mine.message = theirs.message)
    (mineEnabled : enabledAt mine dest = true) (theirsEnabled : enabledAt theirs dest = true) :
    ¬ Isolated newAlarmCache dest mine.chain [epochTrigger theirs, epochTrigger mine] := by
  rintro ⟨requests, -⟩
  have quiet := quiet_newAlarmCache dest
  have fresh : view newAlarmCache dest = fun _ => {} := funext (view_newAlarmCache dest)
  obtain ⟨opened, -⟩ := keyStep_first theirsEnabled
  obtain ⟨-, made⟩ := keyStep_first mineEnabled
  have shared : (notificationWorker newAlarmCache [epochTrigger theirs, epochTrigger mine]).requests
      dest = (keyStep dest {} (epochTrigger theirs)).2.map fun request =>
        ((epochTrigger theirs).msg, request) := by
    have run := congrArg Board.requests (worker_refines quiet [epochTrigger theirs, epochTrigger mine])
    have same : (epochTrigger mine).msg.message = (epochTrigger theirs).msg.message := same
    simpa [boardOf, boardStep, fresh, same, keyStep_open opened] using run
  have own : (notificationWorker newAlarmCache [epochTrigger mine]).requests dest =
      (keyStep dest {} (epochTrigger mine)).2.map fun request =>
        ((epochTrigger mine).msg, request) := by
    have run := congrArg Board.requests (worker_refines quiet [epochTrigger mine])
    simpa [boardOf, boardStep, fresh] using run
  have kept : ([epochTrigger theirs, epochTrigger mine].filter fun delivery =>
      delivery.msg.chain == mine.chain) = [epochTrigger mine] := by
    simp [epochTrigger, foreign]
  rw [kept, shared, own] at requests
  have none : (((keyStep dest {} (epochTrigger theirs)).2.map fun request =>
      ((epochTrigger theirs).msg, request)).filter
        fun made => made.1.chain == mine.chain) = [] := by
    simp [List.filter_map, Function.comp_def, epochTrigger, foreign]
  rw [none] at requests
  exact made (List.map_eq_nil_iff.mp requests.symm)

/-- A chain is isolated at a destination, whatever is queued and however the requests
end, if and only if no other chain that reaches the destination can raise one of its
texts. -/
theorem chains_isolated_iff (config : Config) (raises : String → String → Prop)
    (name : String) (dest : NotifyDest) :
    (∀ cache, Quiet cache dest → ∀ queue, (∀ delivery ∈ queue, Raised config raises delivery) →
      Isolated cache dest name queue) ↔
    ∀ mine other theirs message, config.chains[name]? = some mine →
      config.chains[other]? = some theirs → other ≠ name →
      reaches config mine dest = true → reaches config theirs dest = true →
      ¬ (raises name message ∧ raises other message) := by
  constructor
  · rintro isolated mine other theirs message found foundOther foreign reached reachedOther
      ⟨raised, raisedOther⟩
    -- A common text gives a queue of two triggers in which the second is swallowed.
    apply not_isolated_of_shared dest (alert config name mine message "" false none)
      (alert config other theirs message "" false none) foreign rfl
      (by rwa [enabledAt_alert]) (by rwa [enabledAt_alert])
    apply isolated newAlarmCache (quiet_newAlarmCache dest)
    intro delivery member
    rcases List.mem_cons.mp member with rfl | member
    · exact ⟨other, theirs, message, "", false, none, foundOther, raisedOther, rfl⟩
    · rw [List.mem_singleton.mp member]
      exact ⟨name, mine, message, "", false, none, found, raised, rfl⟩
  · intro apart cache quiet queue raised
    apply isolated_of_apart quiet
    rintro first firstMember second secondMember chain foreign enabled enabledOther same
    obtain ⟨mineName, mine, message, _, _, _, found, raisesMine, msg⟩ := raised first firstMember
    obtain ⟨other, theirs, text, _, _, _, foundOther, raisesOther, otherMsg⟩ :=
      raised second secondMember
    rw [msg] at chain enabled same
    rw [otherMsg] at foreign enabledOther same
    rw [enabledAt_alert] at enabled enabledOther
    obtain rfl : mineName = name := chain
    obtain rfl : message = text := same
    exact apart mine other theirs message found foundOther foreign enabled enabledOther
      ⟨raisesMine, raisesOther⟩

/-- Two validators on one chain id under the same moniker, both sent to PagerDuty. -/
def twinChains : Config :=
  let paged : ChainConfig :=
    { chainId := "osmosis-1"
      alerts := { alertIfInactive := true, pagerduty := { enabled := true, apiKey := "key" } } }
  { pagerduty := { enabled := true }
    chains := (∅ : Table String ChainConfig).insert "first" paged |>.insert "second" paged }

/-- The inactive trigger of one of the twins. -/
def twinTrigger (name : String) : Delivery :=
  epochTrigger (alert twinChains name (twinChains.chains[name]?.getD {})
    (Watch.inactiveMessage "NosNode" "jailed") "critical" false (some (name ++ "jailed")))

/-- Both twins go inactive: the second one's incident is never opened. -/
theorem twin_chains_not_isolated :
    (notificationWorker newAlarmCache [twinTrigger "first", twinTrigger "second"]).requests .pd =
      [((twinTrigger "first").msg, .pagerDuty (buildPagerDutyEvent (twinTrigger "first").msg))] ∧
    (notificationWorker newAlarmCache [twinTrigger "second"]).requests .pd =
      [((twinTrigger "second").msg, .pagerDuty (buildPagerDutyEvent (twinTrigger "second").msg))] ∧
    ¬ Isolated newAlarmCache .pd "second" [twinTrigger "first", twinTrigger "second"] := by
  refine ⟨by decide +kernel, by decide +kernel, ?_⟩
  exact not_isolated_of_shared .pd (twinTrigger "second").msg (twinTrigger "first").msg
    (by decide) (by decide) (by decide) (by decide)

end Seer.Alert
