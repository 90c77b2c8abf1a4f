import Seer.Watch.Latches

/-!
# The thresholds behind the edges

The latched alarms speak only when they change. That their edges alternate is shown with
the latches; here it is shown that what they say is right: after a round of the main loop
an alarm about misses is open exactly while the counter it read is over its threshold,
up to the point where the percentage is met exactly.
-/
namespace Seer.Watch

open Seer.Lib

/-- The alarm's last alert in the run was a trigger. -/
def alarmOpen (config : Config) (chain : ChainConfig) (events : List Event) (alarm : Alarm) :
    Bool :=
  Opened (edges alarm (run config chain events).2)

theorem alarmOpen_flag (config : Config) (chain : ChainConfig) (events : List Event)
    (latch : Latch) :
    alarmOpen config chain events latch.alarm = (run config chain events).1.flag latch :=
  (run_alternating config chain events latch).2

section Checks
variable (chain : ChainConfig)

/-- With the alert switched on, the flag follows the counter. -/
theorem watchConsecutive_flag (missedAlarm : Bool) (info : ValInfo) (missed : Nat)
    (switch : chain.alerts.consecutiveAlerts = true) :
    (watchConsecutive chain missedAlarm info missed).1 = true ↔
      chain.alerts.consecutiveMissed ≤ missed := by
  unfold watchConsecutive
  by_cases reached : chain.alerts.consecutiveMissed ≤ (missed : Int)
  · have short : ¬(missed : Int) < chain.alerts.consecutiveMissed := Int.not_lt.mpr reached
    cases missedAlarm <;> simp [switch, reached, short]
  · have short : (missed : Int) < chain.alerts.consecutiveMissed := Int.not_le.mp reached
    cases missedAlarm <;> simp [reached, short]

/-- The percentage compared without a division. -/
theorem lt_percentMissed_iff {info : ValInfo} (positive : 0 < info.window) (limit : Int) :
    (limit : Rat) < percentMissed info ↔ limit * info.window < info.missed * 100 := by
  rw [percentMissed, Rat.lt_div_iff (Rat.intCast_pos.mpr positive), Rat.mul_comm 100,
    ← Rat.intCast_mul, ← Rat.intCast_lt_intCast, Rat.intCast_mul info.missed]
  rfl

theorem percentMissed_lt_iff {info : ValInfo} (positive : 0 < info.window) (limit : Int) :
    percentMissed info < limit ↔ info.missed * 100 < limit * info.window := by
  rw [percentMissed, Rat.div_lt_iff (Rat.intCast_pos.mpr positive), Rat.mul_comm 100,
    ← Rat.intCast_mul, ← Rat.intCast_lt_intCast, Rat.intCast_mul info.missed]
  rfl

/-- At the threshold itself neither edge is due. -/
theorem checkPercentageAlert_flag (percentageAlarm : Bool) {info : ValInfo}
    (switch : chain.alerts.percentageAlerts = true) (positive : 0 < info.window) :
    (checkPercentageAlert chain percentageAlarm (some info)).1 =
      if chain.alerts.window * info.window < info.missed * 100 then true
      else if info.missed * 100 < chain.alerts.window * info.window then false
      else percentageAlarm := by
  have window : (info.window == 0) = false := by simpa using Int.ne_of_gt positive
  simp only [checkPercentageAlert, switch, window, gt_iff_lt,
    lt_percentMissed_iff positive, percentMissed_lt_iff positive]
  cases percentageAlarm with
  | false => split_ifs <;> simp_all
  | true =>
    split_ifs <;> simp_all
    omega

end Checks

section Ticks
variable (config : Config) (chain : ChainConfig) (events : List Event) (seen : Seen)

/-- A round of the main loop with a snapshot moves the flag as the check does. -/
theorem consecutive_mainTick (main : (run config chain events).1.waiting = false) {info : ValInfo}
    (known : seen.valInfo = some info) :
    alarmOpen config chain (events ++ [.tick seen]) .consecutive =
      (watchConsecutive chain (run config chain events).1.missedAlarm info seen.missed).1 := by
  rw [show Alarm.consecutive = Latch.consecutive.alarm from rfl, alarmOpen_flag, run_concat]
  simp [step, tick, main, mainTick, known, State.flag]

theorem percentage_mainTick (main : (run config chain events).1.waiting = false) {info : ValInfo}
    (known : seen.valInfo = some info) :
    alarmOpen config chain (events ++ [.tick seen]) .percentage =
      (checkPercentageAlert chain (alarmOpen config chain events .percentage)
        seen.percentInfo).1 := by
  rw [show Alarm.percentage = Latch.percentage.alarm from rfl, alarmOpen_flag, alarmOpen_flag,
    run_concat]
  simp [step, tick, main, mainTick, known, State.flag, checkStalledAlert_percentageAlarm]

/-- Without a snapshot the round reads no counter and no alarm moves. -/
theorem alarmOpen_blind (main : (run config chain events).1.waiting = false)
    (blind : seen.valInfo = none) (alarm : Alarm) :
    alarmOpen config chain (events ++ [.tick seen]) alarm =
      alarmOpen config chain events alarm := by
  rw [alarmOpen, run_concat]
  simp [step, tick, main, mainTick, blind, alarmOpen]

end Ticks

/-- In every run of `watch`: the edges of each latched alarm alternate, beginning with a
trigger, and each round of the main loop leaves the two alarms about misses as its
readings ask. -/
theorem watch_edge_discipline (config : Config) (chain : ChainConfig) (events : List Event) :
    (∀ latch : Latch, Alternating (edges latch.alarm (run config chain events).2)) ∧
    ∀ (earlier : List Event) (seen : Seen) (later : List Event),
      events = earlier ++ .tick seen :: later → (run config chain earlier).1.waiting = false →
      let isOpen := alarmOpen config chain (earlier ++ [.tick seen])
      let wasOpen := alarmOpen config chain earlier
      match seen.valInfo with
      | none => ∀ alarm, isOpen alarm = wasOpen alarm
      | some _ =>
        (chain.alerts.consecutiveAlerts = true →
          (isOpen .consecutive = true ↔ chain.alerts.consecutiveMissed ≤ seen.missed)) ∧
        (chain.alerts.percentageAlerts = true → ∀ info, seen.percentInfo = some info →
          0 < info.window →
          (chain.alerts.window * info.window < info.missed * 100 → isOpen .percentage = true) ∧
          (info.missed * 100 < chain.alerts.window * info.window → isOpen .percentage = false) ∧
          (info.missed * 100 = chain.alerts.window * info.window →
            isOpen .percentage = wasOpen .percentage)) := by
  refine ⟨fun latch => (run_alternating config chain events latch).1, ?_⟩
  rintro earlier seen later - main isOpen wasOpen
  cases known : seen.valInfo with
  | none => exact alarmOpen_blind config chain earlier seen main known
  | some info =>
    refine ⟨?_, ?_⟩
    · intro switch
      have flag := consecutive_mainTick config chain earlier seen main known
      simp only [isOpen, flag]
      exact watchConsecutive_flag chain _ info seen.missed switch
    · intro switch read there positive
      have flag := percentage_mainTick config chain earlier seen main known
      rw [there, checkPercentageAlert_flag chain _ switch positive] at flag
      simp only [isOpen, wasOpen, flag]
      refine ⟨?_, ?_, ?_⟩
      · intro above
        simp [above]
      · intro below
        simp [below, Int.not_lt.mpr (Int.le_of_lt below)]
      · intro level
        simp [level]

/-- Five missed blocks in a row and 11 of 100 in the window, with limits of 5 and 10%. -/
theorem watch_edge_discipline_over_limits :
    let chain : ChainConfig := { alerts :=
      { consecutiveAlerts := true, consecutiveMissed := 5, percentageAlerts := true, window := 10 } }
    let info : ValInfo := { moniker := "val", missed := 11, window := 100 }
    let seen : Seen := { valInfo := some info, now := ⟨unixEpoch, Int.le_refl _⟩, missed := 5,
                         percentInfo := some info }
    let isOpen := alarmOpen {} chain [.tick seen, .tick seen]
    isOpen .consecutive = true ∧ isOpen .percentage = true := by
  intro chain info seen isOpen
  have discipline := (watch_edge_discipline {} chain [.tick seen, .tick seen]).2
    [.tick seen] seen [] rfl (by decide +kernel)
  exact ⟨(discipline.1 rfl).mpr (by decide),
    (discipline.2 rfl info rfl (by decide)).1 (by decide)⟩

end Seer.Watch
