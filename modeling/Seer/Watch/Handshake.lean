import Seer.Lib.Alternation
import Seer.Lib.Concurrent
import Seer.Watch.Tick

/-!
# The stalled-chain handshake

The websocket worker records final blocks, the watch loop checks for a stalled chain; both
work on the fields under `alertStateMux`. A check decides inside its critical section and
sends its alert after it, so a block may land between the two. The flags are shown to say
of the events so far that the last decision was a trigger, and that a block came after it.
-/
namespace Seer.Watch

open Seer.Lib

/-- The critical section of `checkStalledAlert`: its new state and the `resolved` of the
alert that it will send, if any. -/
def decideStalled (chain : ChainConfig) (state : AlertState) (now : Time) :
    AlertState × Option Bool :=
  if chain.alerts.stalledAlerts && !state.lastBlockAlarm && stale chain state now then
    ({ state with lastBlockAlarm := true }, some false)
  else if chain.alerts.stalledAlerts && state.lastBlockAlarm && state.stalledResolutionPending then
    ({ state with lastBlockAlarm := false, stalledResolutionPending := false }, some true)
  else (state, none)

/-- A check without a break is the decision with its alert. -/
theorem checkStalledAlert_eq (chain : ChainConfig) (state : AlertState) (now : Time)
    (seen : Option ValInfo) :
    checkStalledAlert chain state now seen =
      ((decideStalled chain state now).1,
        (decideStalled chain state now).2.toList.map (stalledAlert chain seen)) := by
  unfold checkStalledAlert decideStalled
  split
  · rfl
  · split <;> rfl

inductive StalledStep where
  | block (time : Time)
  | check (now : Time)
  /-- The watch loop sends the alert it has decided on. -/
  | emit (seen : Option ValInfo)

inductive StalledEvent where
  | recorded (time : Time)
  | checked (now : Time) (outcome : Option Bool)
  | emitted (alert : Emission)

structure Handshake where
  state : AlertState := {}
  /-- Decided and not yet sent. -/
  outstanding : Option Bool := none
  trace : List StalledEvent := []

section Steps
variable (chain : ChainConfig)

def handshakeStep (handshake : Handshake) : StalledStep → Handshake
  | .block time =>
    { handshake with
      state := (recordFinalBlock handshake.state time).1
      trace := handshake.trace ++ [.recorded time] }
  | .check now =>
    -- The loop is sequential: it checks again only after it has sent its alert.
    if handshake.outstanding.isSome then handshake
    else
      let decided := decideStalled chain handshake.state now
      { state := decided.1
        outstanding := decided.2
        trace := handshake.trace ++ [.checked now decided.2] }
  | .emit seen =>
    match handshake.outstanding with
    | none => handshake
    | some resolved =>
      { handshake with
        outstanding := none
        trace := handshake.trace ++ [.emitted (stalledAlert chain seen resolved)] }

def handshakeRun (steps : List StalledStep) : Handshake :=
  steps.foldl (handshakeStep chain) {}

end Steps

/-! ## What the events say -/

/-- The time of the last block, zero before the first. -/
def lastRecorded (trace : List StalledEvent) : Time :=
  trace.foldl (fun last event => match event with
    | .recorded time => time
    | _ => last) 0

/-- A decision as an edge: a trigger opens. -/
def StalledEvent.decision : StalledEvent → Option Bool
  | .checked _ (some resolved) => some !resolved
  | _ => none

/-- An alert sent, as an edge. -/
def StalledEvent.emission : StalledEvent → Option Bool
  | .emitted alert => some !alert.resolved
  | _ => none

def decisions (trace : List StalledEvent) : List Bool := trace.filterMap StalledEvent.decision

def emissions (trace : List StalledEvent) : List Bool := trace.filterMap StalledEvent.emission

def Undecided (trace : List StalledEvent) : Prop :=
  ∀ now resolved, .checked now (some resolved) ∉ trace

/-- The last decision was a trigger. -/
def Raised (trace : List StalledEvent) : Prop :=
  ∃ earlier now later, trace = earlier ++ .checked now (some false) :: later ∧ Undecided later

/-- The last decision was a trigger, and a block was recorded after it. -/
def Due (trace : List StalledEvent) : Prop :=
  ∃ earlier now later, trace = earlier ++ .checked now (some false) :: later ∧ Undecided later ∧
    ∃ time, .recorded time ∈ later

section Concat
variable (trace : List StalledEvent)

theorem decisions_concat (event : StalledEvent) :
    decisions (trace ++ [event]) = decisions trace ++ event.decision.toList := by
  cases edge : event.decision <;> simp [decisions, edge]

theorem emissions_concat (event : StalledEvent) :
    emissions (trace ++ [event]) = emissions trace ++ event.emission.toList := by
  cases edge : event.emission <;> simp [emissions, edge]

theorem decision_quiet {event : StalledEvent}
    (quiet : ∀ now resolved, event ≠ .checked now (some resolved)) : event.decision = none := by
  cases event with
  | recorded | emitted => rfl
  | checked now outcome =>
    cases outcome with
    | none => rfl
    | some resolved => exact absurd rfl (quiet now resolved)

theorem lastRecorded_unrecorded {event : StalledEvent} (noBlock : ∀ time, event ≠ .recorded time) :
    lastRecorded (trace ++ [event]) = lastRecorded trace := by
  rw [lastRecorded, List.foldl_append]
  cases event with
  | recorded time => exact absurd rfl (noBlock time)
  | checked | emitted => rfl

/-- An event that decides nothing leaves the last decision as it was. -/
theorem raised_concat {event : StalledEvent}
    (quiet : ∀ now resolved, event ≠ .checked now (some resolved)) :
    Raised (trace ++ [event]) ↔ Raised trace := by
  constructor
  · rintro ⟨earlier, now, later, split, undecided⟩
    -- The trigger is not the new event, so it is among the old ones.
    rcases split_concat split with ⟨-, same, -⟩ | ⟨front, rfl, whole⟩
    · exact absurd same.symm (quiet now false)
    · exact ⟨earlier, now, front, whole, fun t r there =>
        undecided t r (List.mem_append_left _ there)⟩
  · rintro ⟨earlier, now, later, rfl, undecided⟩
    refine ⟨earlier, now, later ++ [event], by simp, ?_⟩
    intro t r there
    rcases List.mem_append.mp there with before | last
    · exact undecided t r before
    · exact quiet t r (List.mem_singleton.mp last).symm

theorem raised_trigger (now : Time) : Raised (trace ++ [.checked now (some false)]) :=
  ⟨trace, now, [], rfl, fun _ _ there => by simp at there⟩

theorem not_raised_resolution (now : Time) : ¬ Raised (trace ++ [.checked now (some true)]) := by
  rintro ⟨earlier, past, later, split, undecided⟩
  rcases split_concat split with ⟨-, same, -⟩ | ⟨front, rfl, -⟩
  · cases same
  · exact undecided now true (by simp)

theorem Due.raised {trace : List StalledEvent} (due : Due trace) : Raised trace := by
  obtain ⟨earlier, now, later, split, undecided, -⟩ := due
  exact ⟨earlier, now, later, split, undecided⟩

/-- A block makes the resolution due if the alarm is raised. -/
theorem due_recorded (time : Time) : Due (trace ++ [.recorded time]) ↔ Raised trace := by
  constructor
  · intro due
    exact (raised_concat trace (by simp)).mp due.raised
  · rintro ⟨earlier, now, later, rfl, undecided⟩
    refine ⟨earlier, now, later ++ [.recorded time], by simp, ?_, time, by simp⟩
    intro t r there
    exact undecided t r (by simpa using there)

theorem due_concat {event : StalledEvent}
    (quiet : ∀ now resolved, event ≠ .checked now (some resolved))
    (noBlock : ∀ time, event ≠ .recorded time) : Due (trace ++ [event]) ↔ Due trace := by
  constructor
  · rintro ⟨earlier, now, later, split, undecided, time, recorded⟩
    rcases split_concat split with ⟨-, same, -⟩ | ⟨front, rfl, whole⟩
    · exact absurd same.symm (quiet now false)
    · refine ⟨earlier, now, front, whole, fun t r there =>
        undecided t r (List.mem_append_left _ there), time, ?_⟩
      rcases List.mem_append.mp recorded with before | last
      · exact before
      · exact absurd (List.mem_singleton.mp last).symm (noBlock time)
  · rintro ⟨earlier, now, later, rfl, undecided, time, recorded⟩
    refine ⟨earlier, now, later ++ [event], by simp, ?_, time, List.mem_append_left _ recorded⟩
    intro t r there
    rcases List.mem_append.mp there with before | last
    · exact undecided t r before
    · exact quiet t r (List.mem_singleton.mp last).symm

/-- A decision settles what was due. -/
theorem not_due_decision (now : Time) (resolved : Bool) :
    ¬ Due (trace ++ [.checked now (some resolved)]) := by
  rintro ⟨earlier, past, later, split, undecided, time, recorded⟩
  rcases split_concat split with ⟨-, -, rfl⟩ | ⟨front, rfl, -⟩
  · simp at recorded
  · exact undecided now resolved (by simp)

end Concat

/-! ## Every interleaving -/

/-- What held when an event occurred, for a threshold given as a duration. -/
def StalledLaw (threshold : Duration) (before : List StalledEvent) : StalledEvent → Prop
  | .checked now outcome =>
    (outcome = some false → ¬ lastRecorded before = 0 ∧ lastRecorded before < now - threshold) ∧
    (outcome = some true ↔ Due before)
  | _ => True

/-- The flags are functions of the events. -/
structure HandshakeInv (threshold : Duration) (handshake : Handshake) : Prop where
  time : handshake.state.lastBlockTime = lastRecorded handshake.trace
  raised : handshake.state.lastBlockAlarm = true ↔ Raised handshake.trace
  opened : handshake.state.lastBlockAlarm = Opened (decisions handshake.trace)
  pending : handshake.state.stalledResolutionPending = true ↔ Due handshake.trace
  alternate : Alternating (decisions handshake.trace)
  sent : decisions handshake.trace =
    emissions handshake.trace ++ (handshake.outstanding.map (!·)).toList
  lawful : Guarded (StalledLaw threshold) handshake.trace

section Steps
variable {chain : ChainConfig} {threshold : Duration} {handshake : Handshake}

theorem HandshakeInv.block (inv : HandshakeInv threshold handshake) (time : Time) :
    HandshakeInv threshold (handshakeStep chain handshake (.block time)) where
  time := by simp [handshakeStep, recordFinalBlock, lastRecorded]
  raised := inv.raised.trans (raised_concat _ (by simp)).symm
  opened := by
    simpa [handshakeStep, recordFinalBlock, decisions_concat, StalledEvent.decision] using inv.opened
  pending := by
    -- The flag is set if the alarm is raised, and it was not set otherwise.
    have before : handshake.state.stalledResolutionPending = true →
        handshake.state.lastBlockAlarm = true := fun set => inv.raised.mpr (inv.pending.mp set).raised
    simp only [handshakeStep, recordFinalBlock, due_recorded, Bool.or_eq_true, ← inv.raised]
    exact ⟨fun either => either.elim id before, .inl⟩
  alternate := by
    simpa [handshakeStep, decisions_concat, StalledEvent.decision] using inv.alternate
  sent := by
    simpa [handshakeStep, decisions_concat, emissions_concat, StalledEvent.decision,
      StalledEvent.emission] using inv.sent
  lawful := inv.lawful.concat trivial

/-- An event of the watch loop that decides nothing: the flags stay. -/
theorem HandshakeInv.quiet (inv : HandshakeInv threshold handshake) {event : StalledEvent}
    (quiet : ∀ now resolved, event ≠ .checked now (some resolved))
    (noBlock : ∀ time, event ≠ .recorded time) {outstanding : Option Bool}
    (sent : decisions handshake.trace =
      emissions (handshake.trace ++ [event]) ++ (outstanding.map (!·)).toList)
    (law : StalledLaw threshold handshake.trace event) :
    HandshakeInv threshold
      { state := handshake.state, outstanding := outstanding, trace := handshake.trace ++ [event] } := by
  have same : decisions (handshake.trace ++ [event]) = decisions handshake.trace := by
    simp [decisions_concat, decision_quiet quiet]
  refine ⟨?_, ?_, ?_, ?_, ?_, same.trans sent, inv.lawful.concat law⟩
  · exact inv.time.trans (lastRecorded_unrecorded _ noBlock).symm
  · exact inv.raised.trans (raised_concat _ quiet).symm
  · rw [same]
    exact inv.opened
  · exact inv.pending.trans (due_concat _ quiet noBlock).symm
  · rw [same]
    exact inv.alternate

theorem HandshakeInv.emit (inv : HandshakeInv threshold handshake) (seen : Option ValInfo) :
    HandshakeInv threshold (handshakeStep chain handshake (.emit seen)) := by
  simp only [handshakeStep]
  split
  · exact inv
  next resolved outstanding =>
    -- The decision that was outstanding is the alert now sent.
    refine inv.quiet (by simp) (by simp) ?_ trivial
    simp [emissions_concat, StalledEvent.emission, stalledAlert, inv.sent, outstanding]

/-- A check that decides: the alarm flips, and nothing is pending afterwards. -/
theorem HandshakeInv.decided (inv : HandshakeInv threshold handshake) (now : Time)
    (sent : handshake.outstanding = none) {resolved : Bool}
    (flips : handshake.state.lastBlockAlarm = resolved) {next : AlertState}
    (time : next.lastBlockTime = handshake.state.lastBlockTime)
    (alarm : next.lastBlockAlarm = !resolved) (settled : next.stalledResolutionPending = false)
    (law : StalledLaw threshold handshake.trace (.checked now (some resolved))) :
    HandshakeInv threshold
      { state := next
        outstanding := some resolved
        trace := handshake.trace ++ [.checked now (some resolved)] } where
  time := (time.trans inv.time).trans (lastRecorded_unrecorded _ (by simp)).symm
  raised := by
    rw [alarm]
    cases resolved with
    | false => simpa using raised_trigger handshake.trace now
    | true => simpa using not_raised_resolution handshake.trace now
  opened := by simp [alarm, decisions_concat, StalledEvent.decision]
  pending := by simpa [settled] using not_due_decision handshake.trace now resolved
  alternate := by
    rw [decisions_concat]
    apply inv.alternate.concat
    rw [← inv.opened, flips]
  sent := by
    simp [decisions_concat, emissions_concat, StalledEvent.decision, StalledEvent.emission,
      inv.sent, sent]
  lawful := inv.lawful.concat law

/-- What the critical section of a check does. -/
theorem decideStalled_cases (enabled : chain.alerts.stalledAlerts = true) (state : AlertState)
    (now : Time) :
    (state.lastBlockAlarm = false ∧ stale chain state now = true ∧
      decideStalled chain state now = ({ state with lastBlockAlarm := true }, some false)) ∨
    (state.lastBlockAlarm = true ∧ state.stalledResolutionPending = true ∧
      decideStalled chain state now =
        ({ state with lastBlockAlarm := false, stalledResolutionPending := false }, some true)) ∨
    (¬ (state.lastBlockAlarm = true ∧ state.stalledResolutionPending = true) ∧
      decideStalled chain state now = (state, none)) := by
  simp only [decideStalled, enabled, Bool.true_and]
  cases alarm : state.lastBlockAlarm <;> cases pending : state.stalledResolutionPending <;>
    cases old : stale chain state now <;> simp_all

theorem HandshakeInv.check (inv : HandshakeInv threshold handshake)
    (enabled : chain.alerts.stalledAlerts = true)
    (fits : minutes (-chain.alerts.stalled) = -threshold) (now : Time) :
    HandshakeInv threshold (handshakeStep chain handshake (.check now)) := by
  simp only [handshakeStep]
  split
  · exact inv
  next idle =>
    have sent : handshake.outstanding = none := by simpa using idle
    rcases decideStalled_cases enabled handshake.state now with
      ⟨closed, old, result⟩ | ⟨alarm, pending, result⟩ | ⟨quiet, result⟩
    · -- A trigger: with the alarm closed no resolution is due.
      have notDue : ¬ Due handshake.trace := fun due => by
        have := inv.raised.mpr due.raised
        simp [closed] at this
      have still : handshake.state.stalledResolutionPending = false := by
        simpa using fun set => notDue (inv.pending.mp set)
      have past : ¬ lastRecorded handshake.trace = 0 ∧
          lastRecorded handshake.trace < now - threshold := by
        simp only [stale, inv.time, fits, Time.isZero, Bool.and_eq_true, Bool.not_eq_true',
          beq_eq_false_iff_ne, ne_eq, decide_eq_true_eq] at old
        exact ⟨old.1, by unfold Time Duration at *; omega⟩
      rw [result]
      exact inv.decided now sent closed rfl rfl still ⟨fun _ => past, by simpa using notDue⟩
    · -- A resolution: the pending flag says that a block came after the trigger.
      have due : Due handshake.trace := inv.pending.mp pending
      rw [result]
      exact inv.decided now sent alarm rfl rfl rfl ⟨by simp, by simpa using due⟩
    · -- Nothing to say: a due resolution would have been sent.
      have notDue : ¬ Due handshake.trace := fun due =>
        quiet ⟨inv.raised.mpr due.raised, inv.pending.mpr due⟩
      rw [result]
      refine inv.quiet (by simp) (by simp) ?_ ⟨by simp, by simpa using notDue⟩
      simp [emissions_concat, StalledEvent.emission, inv.sent, sent]

end Steps

theorem handshakeInv_initial (threshold : Duration) : HandshakeInv threshold {} where
  time := rfl
  raised := by simp [Raised]
  opened := rfl
  pending := by simp [Due]
  alternate := alternating_nil
  sent := rfl
  lawful := guarded_nil

section Run
variable {chain : ChainConfig} {threshold : Duration}

theorem HandshakeInv.run (enabled : chain.alerts.stalledAlerts = true)
    (fits : minutes (-chain.alerts.stalled) = -threshold) (steps : List StalledStep) :
    HandshakeInv threshold (handshakeRun chain steps) := by
  -- The steps are taken at the end, so the induction is on the reversed list.
  induction steps using List.reverseRecOn with
  | nil => exact handshakeInv_initial threshold
  | append_singleton earlier step ih =>
    rw [handshakeRun, List.foldl_append]
    change HandshakeInv threshold (handshakeStep chain (handshakeRun chain earlier) step)
    cases step with
    | block time => exact ih.block time
    | check now => exact ih.check enabled fits now
    | emit seen => exact ih.emit seen

theorem minutes_neg {stalled : Int} (low : -2 ^ 63 ≤ -(stalled * minute))
    (high : -(stalled * minute) < 2 ^ 63) : minutes (-stalled) = -(stalled * minute) := by
  -- Inside the 64-bit range the product does not wrap.
  rw [minutes, wrap64, Int.neg_mul]
  unfold Duration at *
  simp only [Int.bmod_def]
  omega

/-- In every interleaving of blocks, checks and sendings, with a threshold whose negation
is a duration: the alerts alternate, starting with a trigger, and are the decisions in
order, with at most the last one not yet sent; a check triggers only if the last block is
older than the threshold, and it resolves if and only if the last decision was a trigger
and a block was recorded after it; a pending resolution has its alarm raised. -/
theorem stalled_handshake (chain : ChainConfig) (enabled : chain.alerts.stalledAlerts = true)
    (low : -2 ^ 63 ≤ -(chain.alerts.stalled * minute))
    (high : -(chain.alerts.stalled * minute) < 2 ^ 63) (steps : List StalledStep) :
    let done := handshakeRun chain steps
    Alternating (emissions done.trace) ∧
    decisions done.trace = emissions done.trace ++ (done.outstanding.map (!·)).toList ∧
    (∀ before now outcome after, done.trace = before ++ .checked now outcome :: after →
      (outcome = some false → lastRecorded before ≠ 0 ∧
        lastRecorded before < now - chain.alerts.stalled * minute) ∧
      (outcome = some true ↔ Due before)) ∧
    (done.state.stalledResolutionPending = true → done.state.lastBlockAlarm = true) := by
  have inv := HandshakeInv.run enabled (minutes_neg low high) steps
  refine ⟨?_, inv.sent, ?_, ?_⟩
  · -- What was sent is the decisions without at most the last one.
    have decided := inv.alternate
    rw [inv.sent] at decided
    unfold Alternating at decided
    rw [← List.cons_append] at decided
    exact decided.left_of_append
  · intro before now outcome after split
    exact inv.lawful before (.checked now outcome) after split
  · intro pending
    exact inv.raised.mpr (inv.pending.mp pending).raised

/-- A block lands between the decision to trigger and the alert. -/
theorem stalled_handshake_ten_minutes :
    emissions (handshakeRun
      { chainId := "osmosis-1", alerts := { stalled := 10, stalledAlerts := true } }
      [.block second, .check (11 * minute), .block (11 * minute), .emit none,
        .check (12 * minute), .emit none]).trace = [true, false] ∧
    Alternating (emissions (handshakeRun
      { chainId := "osmosis-1", alerts := { stalled := 10, stalledAlerts := true } }
      [.block second, .check (11 * minute), .block (11 * minute), .emit none,
        .check (12 * minute), .emit none]).trace) :=
  ⟨by decide +kernel,
    (stalled_handshake _ rfl (by decide) (by decide) _).1⟩

end Run

end Seer.Watch
