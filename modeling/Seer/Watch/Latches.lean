import Seer.Lib.Alternation
import Seer.Watch.Emits

/-!
# The latched alarms

Four alarms have a flag that remembers that they are raised: stalled, no endpoints,
consecutive misses and percentage of the window. Each step of the loop emits an edge
of such an alarm exactly when it moves the flag (`tick_latched`), and so does a run.
-/
namespace Seer.Watch

open Seer.Lib

inductive Latch where
  | stalled
  | noServers
  | consecutive
  | percentage
  deriving DecidableEq, Repr

def Latch.alarm : Latch → Alarm
  | .stalled => .stalled
  | .noServers => .noServers
  | .consecutive => .consecutive
  | .percentage => .percentage

/-- The variable that remembers a raised alarm. -/
def State.flag (state : State) : Latch → Bool
  | .stalled => state.alertState.lastBlockAlarm
  | .noServers => state.servers.noNodes
  | .consecutive => state.missedAlarm
  | .percentage => state.alertState.percentageAlarm

/-- The emissions of one alarm, oldest first, `true` for a trigger. -/
def edges (alarm : Alarm) (emitted : List Emission) : List Bool :=
  (emitted.filter (·.alarm == alarm)).map (!·.resolved)

@[simp] theorem edges_nil (alarm : Alarm) : edges alarm [] = [] := rfl

@[simp] theorem edges_append (alarm : Alarm) (earlier later : List Emission) :
    edges alarm (earlier ++ later) = edges alarm earlier ++ edges alarm later := by
  simp [edges]

theorem edges_singleton (alarm : Alarm) (emission : Emission) :
    edges alarm [emission] = if emission.alarm = alarm then [!emission.resolved] else [] := by
  by_cases own : emission.alarm = alarm <;> simp [edges, own]

/-- Between two states, the flags moved with the edges emitted. -/
def Latched (before : State) (emitted : List Emission) (after : State) : Prop :=
  ∀ latch, Moves (before.flag latch) (edges latch.alarm emitted) (after.flag latch)

theorem Latched.append {first middle last : State} {earlier later : List Emission}
    (before : Latched first earlier middle) (after : Latched middle later last) :
    Latched first (earlier ++ later) last := by
  intro latch
  rw [edges_append]
  exact (before latch).append (after latch)

/-- The emissions of another alarm are not edges of this one. -/
theorem edges_foreign {alarm other : Alarm} {emitted : List Emission}
    (foreign : ∀ emission ∈ emitted, emission.alarm = other) (apart : other ≠ alarm) :
    edges alarm emitted = [] := by
  rw [edges, List.filter_eq_nil_iff.mpr, List.map_nil]
  intro emission member
  simp [foreign emission member, apart]

/-- A trigger moves a lowered flag, a resolution a raised one. -/
theorem moves_edge {flag : Bool} (emission : Emission) (before : flag = emission.resolved) :
    Moves flag (edges emission.alarm [emission]) (!emission.resolved) := by
  rw [edges_singleton, if_pos rfl, before]
  exact .single _

section Parts
variable (config : Config) (chain : ChainConfig)

theorem watchServers_moves (servers : Servers) (valcons : String) (unreachable : Bool) :
    Moves servers.noNodes
      (edges .noServers (watchServers config chain servers valcons unreachable).2)
      (watchServers config chain servers valcons unreachable).1.noNodes := by
  unfold watchServers
  split
  next raising =>
    have lowered : servers.noNodes = false := by simp_all
    dsimp only
    -- Until the wait is over only the counter grows.
    split
    · rw [lowered]
      exact .none false
    · exact moves_edge (noServersAlert chain valcons false) lowered
  next =>
    split
    next clearing => exact moves_edge (noServersAlert chain valcons true) (by simp_all [noServersAlert])
    next => exact .none _

theorem waitServers_moves (servers : Servers) (seen : Option ValInfo) (unreachable : Bool) :
    Moves servers.noNodes (edges .noServers (waitServers config chain servers seen unreachable).2.2)
      (waitServers config chain servers seen unreachable).2.1.noNodes := by
  unfold waitServers
  split
  · dsimp only
    split
    next raised =>
      have lowered : servers.noNodes = false := by simp_all
      rw [raised, Bool.or_true]
      exact moves_edge (noServersAlert chain (valconsOf seen) false) lowered
    next held =>
      rw [Bool.eq_false_iff.mpr held, Bool.or_false]
      exact .none _
  · exact .none _

theorem checkStalledAlert_moves (alertState : AlertState) (now : Time) (seen : Option ValInfo) :
    Moves alertState.lastBlockAlarm (edges .stalled (checkStalledAlert chain alertState now seen).2)
      (checkStalledAlert chain alertState now seen).1.lastBlockAlarm := by
  unfold checkStalledAlert
  split
  next raising => exact moves_edge (stalledAlert chain seen false) (by simp_all [stalledAlert])
  next =>
    split
    next clearing => exact moves_edge (stalledAlert chain seen true) (by simp_all [stalledAlert])
    next => exact .none _

theorem watchConsecutive_moves (missedAlarm : Bool) (info : ValInfo) (missed : Nat) :
    Moves missedAlarm (edges .consecutive (watchConsecutive chain missedAlarm info missed).2)
      (watchConsecutive chain missedAlarm info missed).1 := by
  unfold watchConsecutive
  split
  next raising => exact moves_edge (consecutiveAlert chain info false) (by simp_all [consecutiveAlert])
  next =>
    split
    next clearing => exact moves_edge (consecutiveAlert chain info true) (by simp_all [consecutiveAlert])
    next => exact .none _

theorem checkPercentageAlert_moves (percentageAlarm : Bool) (seen : Option ValInfo) :
    Moves percentageAlarm (edges .percentage (checkPercentageAlert chain percentageAlarm seen).2)
      (checkPercentageAlert chain percentageAlarm seen).1 := by
  unfold checkPercentageAlert
  cases seen with
  | none => exact .none _
  | some info =>
    dsimp only
    split
    · exact .none _
    · split
      next raising => exact moves_edge (percentageAlert chain info false) (by simp_all [percentageAlert])
      next =>
        split
        next clearing =>
          exact moves_edge (percentageAlert chain info true) (by simp_all [percentageAlert])
        next => exact .none _

/-- `checkStalledAlert` leaves the percentage flag alone. -/
theorem checkStalledAlert_percentageAlarm (alertState : AlertState) (now : Time)
    (seen : Option ValInfo) :
    (checkStalledAlert chain alertState now seen).1.percentageAlarm =
      alertState.percentageAlarm := by
  unfold checkStalledAlert
  split
  · rfl
  · split <;> rfl

end Parts

section Alarms
variable (config : Config) (chain : ChainConfig)

theorem alarm_watchServers (servers : Servers) (valcons : String) (unreachable : Bool) :
    ∀ emission ∈ (watchServers config chain servers valcons unreachable).2,
      emission.alarm = .noServers := by
  intro emission member
  obtain ⟨-, resolved, rfl⟩ := mem_watchServers member
  rfl

theorem alarm_checkStalledAlert (alertState : AlertState) (now : Time) (seen : Option ValInfo) :
    ∀ emission ∈ (checkStalledAlert chain alertState now seen).2, emission.alarm = .stalled := by
  intro emission member
  obtain ⟨-, resolved, rfl⟩ := mem_checkStalledAlert member
  rfl

theorem alarm_watchInactive (reason : String) (info : ValInfo) (last : Option ValInfo) :
    ∀ emission ∈ (watchInactive chain reason info last).2, emission.alarm = .inactive := by
  intro emission member
  obtain ⟨-, _, resolved, -, rfl⟩ := mem_watchInactive member
  rfl

theorem alarm_watchConsecutive (missedAlarm : Bool) (info : ValInfo) (missed : Nat) :
    ∀ emission ∈ (watchConsecutive chain missedAlarm info missed).2,
      emission.alarm = .consecutive := by
  intro emission member
  obtain ⟨resolved, -, rfl⟩ := mem_watchConsecutive member
  rfl

theorem alarm_checkPercentageAlert (percentageAlarm : Bool) (seen : Option ValInfo) :
    ∀ emission ∈ (checkPercentageAlert chain percentageAlarm seen).2,
      emission.alarm = .percentage := by
  intro emission member
  obtain ⟨-, info, resolved, -, rfl⟩ := mem_checkPercentageAlert member
  rfl

theorem edges_watchNodes (nodeAlarms : String → Bool) (start : Nat)
    (nodes : List (NodeConfig × Instant)) (latch : Latch) :
    edges latch.alarm (watchNodes config chain nodeAlarms start nodes).2 = [] := by
  rw [edges, List.filter_eq_nil_iff.mpr, List.map_nil]
  intro emission member
  obtain ⟨_, node, -, -, resolved, rfl⟩ := mem_watchNodes member
  cases latch <;> simp [nodeDownAlert, Latch.alarm]

end Alarms

/-- In a main tick the edges of a latch are those of its own check. -/
theorem mainTick_latched (config : Config) (chain : ChainConfig) (state : State) (seen : Seen) :
    Latched state (mainTick config chain state seen).2 (mainTick config chain state seen).1 := by
  intro latch
  unfold mainTick
  cases seen.valInfo with
  | none => exact .none _
  | some info =>
    -- A tick's emissions are those of its checks in order; of these only the latch's own
    -- check has edges for it.
    simp only [edges_append, edges_watchNodes, checkStalledAlert_percentageAlarm, List.append_nil]
    have servers := alarm_watchServers config chain state.servers info.valcons seen.unreachable
    have stalled := alarm_checkStalledAlert chain state.alertState seen.now seen.stalledInfo
    have inactive := alarm_watchInactive chain state.inactive info seen.lastValInfo
    have consecutive := alarm_watchConsecutive chain state.missedAlarm info seen.missed
    have percentage :=
      alarm_checkPercentageAlert chain state.alertState.percentageAlarm seen.percentInfo
    cases latch with
    | noServers =>
      rw [Latch.alarm, edges_foreign stalled (by decide), edges_foreign inactive (by decide),
        edges_foreign consecutive (by decide), edges_foreign percentage (by decide)]
      simpa [State.flag] using watchServers_moves config chain state.servers _ _
    | stalled =>
      rw [Latch.alarm, edges_foreign servers (by decide), edges_foreign inactive (by decide),
        edges_foreign consecutive (by decide), edges_foreign percentage (by decide)]
      simpa [State.flag] using checkStalledAlert_moves chain state.alertState _ _
    | consecutive =>
      rw [Latch.alarm, edges_foreign servers (by decide), edges_foreign stalled (by decide),
        edges_foreign inactive (by decide), edges_foreign percentage (by decide)]
      simpa [State.flag] using watchConsecutive_moves chain state.missedAlarm _ _
    | percentage =>
      rw [Latch.alarm, edges_foreign servers (by decide), edges_foreign stalled (by decide),
        edges_foreign inactive (by decide), edges_foreign consecutive (by decide)]
      simpa [State.flag] using checkPercentageAlert_moves chain state.alertState.percentageAlarm _

theorem waitTick_latched (config : Config) (chain : ChainConfig) (state : State) (seen : Seen) :
    Latched state (waitTick config chain state seen).2 (waitTick config chain state seen).1 := by
  have servers : ∀ emission ∈ (waitTick config chain state seen).2,
      emission.alarm = .noServers := by
    intro emission member
    obtain ⟨rfl, -⟩ := mem_waitServers member
    rfl
  intro latch
  cases latch with
  | noServers => exact waitServers_moves config chain state.servers seen.valInfo seen.unreachable
  | stalled => rw [Latch.alarm, edges_foreign servers (by decide)]; exact .none _
  | consecutive => rw [Latch.alarm, edges_foreign servers (by decide)]; exact .none _
  | percentage => rw [Latch.alarm, edges_foreign servers (by decide)]; exact .none _

theorem tick_latched (config : Config) (chain : ChainConfig) (state : State) (seen : Seen) :
    Latched state (tick config chain state seen).2 (tick config chain state seen).1 := by
  unfold tick
  split
  · exact waitTick_latched config chain state seen
  · exact mainTick_latched config chain state seen

theorem step_latched (config : Config) (chain : ChainConfig) (state : State) (event : Event) :
    Latched state (step config chain state event).2 (step config chain state event).1 := by
  cases event with
  | tick seen => exact tick_latched config chain state seen
  | block now => exact fun latch => by cases latch <;> exact .none _

/-- Over every run the flags moved with the edges emitted, from all lowered. -/
theorem run_latched (config : Config) (chain : ChainConfig) (events : List Event) :
    Latched {} (run config chain events).2 (run config chain events).1 := by
  induction events using List.reverseRecOn with
  | nil => exact fun latch => .none _
  | append_singleton earlier event ih =>
    rw [run_concat]
    exact ih.append (step_latched config chain _ event)

/-- The edges of a latched alarm alternate, and its flag is the last of them. -/
theorem run_alternating (config : Config) (chain : ChainConfig) (events : List Event)
    (latch : Latch) :
    Alternating (edges latch.alarm (run config chain events).2) ∧
      Opened (edges latch.alarm (run config chain events).2) =
        (run config chain events).1.flag latch := by
  have moves := run_latched config chain events latch
  have lowered : ({} : State).flag latch = false := by cases latch <;> rfl
  rw [lowered] at moves
  exact moves.alternating

end Seer.Watch
