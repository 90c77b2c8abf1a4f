import Seer.Ws.SessionEnd

/-!
# When a session counts as idle

`handleBlocks` looks at the clock at each tick of its ticker and ends the session if the
last block is more than a minute old. Blocks and ticks come in any order; over a clock that
does not go back the session ends at exactly the ticks that find no block of the last minute.
-/
namespace Seer.Ws

open Seer.Lib

/-- What wakes `handleBlocks`, with the time it then reads. -/
inductive LiveEvent where
  | tick (now : Time)
  | block (now : Time)
  deriving DecidableEq

def LiveEvent.time : LiveEvent → Time
  | .tick now => now
  | .block now => now

/-- The time of the last block afterwards; `none` ends the session. -/
def watchLive (lastBlock : Time) : LiveEvent → Option Time
  | .tick now => if idleSince lastBlock now then none else some lastBlock
  | .block now => some now

/-- The flow of a session keeps the time of the last block in this way: a block that is handed
over sets it, -/
theorem watchLive_handBlock {config : Config} {done connected : Bool} {flow after : Flow} {now : Time}
    {event : Option BlockEvent} (holding : flow.reader = .holding (.block event))
    (taken : flow.step config done connected (.hand now) = some after) :
    watchLive flow.lastBlock (.block now) = some after.lastBlock := by
  cases Flow.moves_of_step taken with
  | handBlock => rfl
  | handVote other => rw [holding] at other; cases other

/-- and a tick ends the handler exactly where this says so. -/
theorem watchLive_idle {config : Config} {done connected : Bool} {flow : Flow} {now : Time} :
    (flow.step config done connected (.idle now)).isSome = true ↔
      flow.blocks = .receiving ∧ watchLive flow.lastBlock (.tick now) = none := by
  cases here : flow.blocks <;> cases late : idleSince flow.lastBlock now <;>
    simp [Flow.step, watchLive, here, late]

/-- The clock never goes back. -/
def Timed (start : Time) (events : List LiveEvent) : Prop :=
  (start :: events.map LiveEvent.time).Pairwise (· ≤ ·)

theorem Timed.of_cons {start : Time} {event : LiveEvent} {events : List LiveEvent}
    (timed : Timed start (event :: events)) : start ≤ event.time ∧ Timed start events ∧ Timed event.time events := by
  simp only [Timed, List.map_cons, List.pairwise_cons, List.mem_cons, forall_eq_or_imp] at timed ⊢
  obtain ⟨⟨first, others⟩, here⟩ := timed
  exact ⟨first, ⟨others, here.2⟩, here⟩

/-- At some tick the start and every block before it are more than a minute old. -/
def Idles (start : Time) (events : List LiveEvent) : Prop :=
  ∃ earlier now later, events = earlier ++ .tick now :: later ∧ start < now - minute ∧
    ∀ block, .block block ∈ earlier → block < now - minute

theorem idles_tick (start now : Time) (events : List LiveEvent) :
    Idles start (.tick now :: events) ↔ start < now - minute ∨ Idles start events := by
  constructor
  · rintro ⟨earlier, at', later, split, late, blocks⟩
    cases earlier with
    | nil =>
      simp only [List.nil_append, List.cons.injEq, LiveEvent.tick.injEq] at split
      exact .inl (split.1 ▸ late)
    | cons event earlier =>
      obtain ⟨rfl, rfl⟩ := List.cons.inj split
      exact .inr ⟨earlier, at', later, rfl, late, fun block member =>
        blocks block (List.mem_cons_of_mem _ member)⟩
  · rintro (late | ⟨earlier, at', later, rfl, late, blocks⟩)
    · exact ⟨[], now, events, rfl, late, nofun⟩
    · refine ⟨.tick now :: earlier, at', later, rfl, late, fun block member => ?_⟩
      exact blocks block (by simpa using member)

/-- A block makes a later start of it. -/
theorem idles_block {start now : Time} (ordered : start ≤ now) (events : List LiveEvent) :
    Idles start (.block now :: events) ↔ Idles now events := by
  constructor
  · rintro ⟨earlier, at', later, split, late, blocks⟩
    cases earlier with
    | nil => cases split
    | cons event earlier =>
      obtain ⟨rfl, rfl⟩ := List.cons.inj split
      exact ⟨earlier, at', later, rfl, blocks now List.mem_cons_self, fun block member =>
        blocks block (List.mem_cons_of_mem _ member)⟩
  · rintro ⟨earlier, at', later, rfl, late, blocks⟩
    refine ⟨.block now :: earlier, at', later, rfl, Int.lt_of_le_of_lt ordered late, fun block member => ?_⟩
    rcases List.mem_cons.mp member with same | other
    · cases same
      exact late
    · exact blocks block other

/-- The session ends at a tick if the start and every block before it are more than a minute
old then, and for no other reason. -/
theorem idle_exit_iff (start : Time) (events : List LiveEvent) (timed : Timed start events) :
    Machine.run watchLive start events = none ↔ Idles start events := by
  induction events generalizing start with
  | nil => simp [Idles]
  | cons event events ih =>
    obtain ⟨first, others, here⟩ := timed.of_cons
    cases event with
    | tick now =>
      rw [idles_tick, ← ih start others]
      by_cases late : start < now - minute
      · simp [Machine.run, watchLive, idleSince, late]
      · simp [Machine.run, watchLive, idleSince, late]
    | block now =>
      rw [idles_block (show start ≤ now from first), ← ih now here]
      rfl

/-- Two blocks and a tick between them that is not late, then one that is. -/
theorem idle_exit_iff_quiet_minute :
    let events := [.block (10 * second), .tick (60 * second), .block (65 * second),
      .tick (120 * second), .tick (180 * second)]
    Machine.run watchLive 0 events = none ∧ Idles 0 events := by
  intro events
  have idle : Machine.run watchLive 0 events = none := by decide
  exact ⟨idle, (idle_exit_iff 0 events (by unfold Timed; decide)).mp idle⟩

end Seer.Ws
