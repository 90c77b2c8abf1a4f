import Seer.Watch.Emits

/-!
# Changes of the active set

The loop compares the last two validator snapshots. A periodic refresh shifts the
current snapshot into the previous one; a refresh after a websocket exit replaces the
current one and keeps an older previous one, so a change it brings in is noticed only
against that older snapshot.
-/
namespace Seer.Watch

/-- `publishValidatorInfo`. -/
def publishValidatorInfo (monitoring : Monitoring) (next : ValInfo) (retainPrevious : Bool) :
    Monitoring :=
  { valInfo := some next
    lastValInfo := if retainPrevious then monitoring.valInfo else monitoring.lastValInfo }

/-- The chain's snapshots and the loop that watches them. -/
structure Watched where
  monitoring : Monitoring := {}
  state : State := {}

/-- `validateConfig` publishes a placeholder before the loop starts. -/
def Watched.start : Watched :=
  { monitoring := publishValidatorInfo {} { moniker := "not connected" } false }

/-- A refresh of the validator data, a tick, or a block. `first` is the argument of
`GetValInfo`; a tick takes its snapshots from the chain and reads the rest. -/
inductive Refreshing where
  | refresh (first : Bool) (next : ValInfo)
  | tick (reads : Seen)
  | block (now : Time)

section Steps
variable (config : Config) (chain : ChainConfig)

/-- What a tick reads when it takes the chain's current snapshots. -/
def snapshotSeen (monitoring : Monitoring) (reads : Seen) : Seen :=
  { reads with valInfo := monitoring.valInfo, lastValInfo := monitoring.lastValInfo }

def refreshingStep (watched : Watched) : Refreshing → Watched × List Emission
  | .refresh first next =>
    ({ watched with monitoring := publishValidatorInfo watched.monitoring next !first }, [])
  | .tick reads =>
    let (state, emitted) := tick config chain watched.state (snapshotSeen watched.monitoring reads)
    ({ watched with state := state }, emitted)
  | .block now =>
    let (state, emitted) := step config chain watched.state (.block now)
    ({ watched with state := state }, emitted)

/-- The state reached by a list of events from the start of the process. -/
def watchedAfter (events : List Refreshing) : Watched :=
  events.foldl (fun watched event => (refreshingStep config chain watched event).1) .start

end Steps

/-- A main tick looks at the two snapshots and at nothing else for this alarm. -/
theorem inactive_mem_mainTick (config : Config) (chain : ChainConfig) (state : State) (seen : Seen)
    {info : ValInfo} (found : seen.valInfo = some info) (reason : String) (resolved : Bool) :
    inactiveAlert info reason resolved ∈ (mainTick config chain state seen).2 ↔
      inactiveAlert info reason resolved ∈
        (watchInactive chain state.inactive info seen.lastValInfo).2 := by
  constructor
  · intro member
    simp only [mainTick, found, List.mem_append] at member
    rcases member with ((((servers | stalled) | inactive) | consecutive) | percentage) | nodes
    · obtain ⟨-, _, same⟩ := mem_watchServers servers
      cases same
    · obtain ⟨-, _, same⟩ := mem_checkStalledAlert stalled
      cases same
    · exact inactive
    · obtain ⟨_, -, same⟩ := mem_watchConsecutive consecutive
      cases same
    · obtain ⟨-, _, _, -, same⟩ := mem_checkPercentageAlert percentage
      cases same
    · obtain ⟨_, _, -, -, _, same⟩ := mem_watchNodes nodes
      cases same
  · intro member
    simp only [mainTick, found, List.mem_append]
    exact .inl (.inl (.inl (.inr member)))

/-- An alert goes out exactly on a change against the previous snapshot, and its kind is
that of the new state. -/
theorem watchInactive_emits_iff (chain : ChainConfig) (reason : String) (info : ValInfo)
    (last : Option ValInfo) (enabled : chain.alerts.alertIfInactive = true) :
    (∃ text, inactiveAlert info text info.bonded ∈ (watchInactive chain reason info last).2) ↔
      ∃ old, last = some old ∧ old.moniker = info.moniker ∧ old.bonded ≠ info.bonded := by
  cases last with
  | none => simp [watchInactive]
  | some old =>
    by_cases same : old.moniker = info.moniker
    · cases before : old.bonded <;> cases after : info.bonded <;>
        simp [watchInactive, enabled, same, before, after]
    · simp [watchInactive, same]

/-- At every point of every run: when a refresh changes the bonded flag of the published
validator under the same moniker, the next main-loop tick emits the matching alert if
and only if the refresh is a periodic one or the older previous snapshot differs too. -/
theorem active_set_change_alerted_iff (config : Config) (chain : ChainConfig)
    (enabled : chain.alerts.alertIfInactive = true) (earlier : List Refreshing) (first : Bool)
    (previous next : ValInfo) (reads : Seen)
    (main : (watchedAfter config chain earlier).state.waiting = false)
    (published : (watchedAfter config chain earlier).monitoring.valInfo = some previous)
    (moniker : previous.moniker = next.moniker) (changed : previous.bonded ≠ next.bonded) :
    (∃ reason, inactiveAlert next reason next.bonded ∈
      (refreshingStep config chain
        (watchedAfter config chain (earlier ++ [.refresh first next])) (.tick reads)).2) ↔
    first = false ∨
      ∃ old, (watchedAfter config chain earlier).monitoring.lastValInfo = some old ∧
        old.moniker = next.moniker ∧ old.bonded ≠ next.bonded := by
  have after : watchedAfter config chain (earlier ++ [.refresh first next]) =
      { monitoring := publishValidatorInfo (watchedAfter config chain earlier).monitoring next !first
        state := (watchedAfter config chain earlier).state } := by
    simp [watchedAfter, refreshingStep]
  -- From here on the run before the refresh matters only through the state it reached.
  generalize watchedAfter config chain earlier = watched at main published after ⊢
  have emitted : ∀ reason, inactiveAlert next reason next.bonded ∈ (refreshingStep config chain
      (watchedAfter config chain (earlier ++ [.refresh first next])) (.tick reads)).2 ↔
      inactiveAlert next reason next.bonded ∈ (watchInactive chain watched.state.inactive next
        (publishValidatorInfo watched.monitoring next !first).lastValInfo).2 := by
    intro reason
    rw [after, refreshingStep, tick, if_neg (by simp [main])]
    exact inactive_mem_mainTick config chain watched.state _ rfl reason next.bonded
  simp only [emitted, watchInactive_emits_iff chain _ _ _ enabled]
  cases first with
  | false => simp [publishValidatorInfo, published, moniker, changed]
  -- `GetValInfo(ctx, true)` publishes without moving the old value to `lastValInfo`.
  | true => simp [publishValidatorInfo]

def inactiveChain : ChainConfig := { chainId := "osmosis-1", alerts := { alertIfInactive := true } }

def activeValidator : ValInfo := { moniker := "NosNode", bonded := true, valcons := "osmovalcons1" }

def jailedValidator : ValInfo := { activeValidator with bonded := false, jailed := true }

def quietReads : Seen := { now := ⟨unixEpoch, Int.le_refl _⟩ }

/-- The first refresh after the start finds an active validator, and the loop is under way. -/
def activeStart : List Refreshing :=
  [.refresh true activeValidator, .tick quietReads, .tick quietReads]

/-- A periodic refresh reports the jailing. -/
theorem active_set_change_alerted_periodic :
    ∃ reason, inactiveAlert jailedValidator reason false ∈
      (refreshingStep {} inactiveChain (watchedAfter {} inactiveChain
        (activeStart ++ [.refresh false jailedValidator])) (.tick quietReads)).2 :=
  (active_set_change_alerted_iff {} inactiveChain rfl activeStart false activeValidator
    jailedValidator quietReads (by decide) (by decide) rfl (by decide)).mpr (.inl rfl)

/-- The same jailing found by the refresh after a websocket exit is never reported: no
tick emits anything, not even after later refreshes. -/
theorem restart_refresh_hides_jailing :
    (refreshingStep {} inactiveChain (watchedAfter {} inactiveChain
      (activeStart ++ [.refresh true jailedValidator])) (.tick quietReads)).2 = [] ∧
    (refreshingStep {} inactiveChain (watchedAfter {} inactiveChain
      (activeStart ++ [.refresh true jailedValidator, .tick quietReads,
        .refresh false jailedValidator])) (.tick quietReads)).2 = [] := by
  decide

end Seer.Watch
