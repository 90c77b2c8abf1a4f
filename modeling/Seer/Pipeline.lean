import Seer.Watch.Restarts
import Seer.Watch.Thresholds
import Seer.Ws.Counters

/-!
# From the websocket to the notification

The aggregator, the watch loop and the notification worker of one chain in one process.
They share the counter of missed blocks and the alarm queue, and nothing else orders them.
The theorem says what the program is for: after a round of the watch loop, once the queue
is delivered, a destination has the alarm open exactly if enough blocks were missed.
-/
namespace Seer.Pipeline

open Seer.Alert Seer.Lib Seer.Watch Seer.Ws

/-- The aggregator with its results, and the watch loop with the cache and the queue. -/
structure Process where
  recorder : Recorder
  host : Host := {}

inductive Step where
  /-- The aggregator takes an update. -/
  | update (round : Round)
  /-- A round of the watch loop; it reads the counter where it stands. -/
  | tick (elapsed : Nat) (reads : Seen)
  /-- The worker delivers the oldest queued alert; every request is accepted. -/
  | deliver (reserveAt completeAt : NotifyDest → Instant) (order : List NotifyDest)
  /-- The worker delivers an alert of another chain. -/
  | foreign (delivery : Delivery)

/-- What a step means to the watch loop, the cache and the queue. -/
def Step.toHost (recorder : Recorder) : Step → Option HostStep
  | .update round => if round.closes then some (.block round.readings.now) else none
  | .tick elapsed reads =>
    some (.tick elapsed { reads with missed := recorder.agg.chain.statConsecutiveMiss })
  | .deliver reserveAt completeAt order => some (.deliver reserveAt completeAt order)
  | .foreign delivery => some (.foreign delivery)

def Step.round? : Step → Option Round
  | .update round => some round
  | _ => none

section Runs
variable (config : Config) (name : String) (chain : ChainConfig)

def advance (process : Process) (step : Step) : Process :=
  { recorder := (step.round?).elim process.recorder (recordRound config process.recorder)
    host := (step.toHost process.recorder).elim process.host (hostStep config name chain process.host) }

/-- A new process without a state file. -/
def begin : Process := { recorder := { agg := freshAggregator chain } }

def after (steps : List Step) : Process := steps.foldl (advance config name chain) (begin chain)

/-- A step meets the condition of the alarm's text in the state it finds. -/
def KeepsText (moniker : String) (process : Process) (step : Step) : Prop :=
  ∀ next, step.toHost process.recorder = some next →
    Meets chain moniker .consecutive process.host next

end Runs

/-- The updates that the aggregator has taken. -/
def rounds (steps : List Step) : List Round := steps.filterMap Step.round?

section Raised
variable {config : Config} {name : String} {chain : ChainConfig} {moniker : String} {latch : Latch}

/-- The alarm is open at the destination, or its trigger is on the way. -/
def Announced (cache : AlarmCache) (queue : List Emission) (dest : NotifyDest) (text : String) : Prop :=
  lastEdge text queue = some true ∨
    (lastEdge text queue = none ∧ (view cache dest text).opened = true)

/-- The other half of the invariant of a host: it holds while alerts are taken, and not for
PagerDuty, which drops a trigger soon after another one. -/
structure Raising (config : Config) (chain : ChainConfig) (moniker : String) (latch : Latch)
    (host : Host) : Prop where
  accepting : host.accepting = true
  announced : host.watch.flag latch = true → ∀ dest, dest ≠ .pd → reaches config chain dest = true →
    Announced host.cache host.queue dest (latch.message chain moniker)

/-- The tick's last word on the text agrees with the flag it leaves. -/
theorem lastEdge_tick_raised {state : State} {seen : Seen}
    (owned : ∀ emission ∈ (tick config chain state seen).2,
      emission.message = latch.message chain moniker ↔ emission.alarm = latch.alarm)
    (raised : (tick config chain state seen).1.flag latch = true) :
    lastEdge (latch.message chain moniker) (tick config chain state seen).2 = some true ∨
      (lastEdge (latch.message chain moniker) (tick config chain state seen).2 = none ∧
        state.flag latch = true) := by
  have last := (tick_latched config chain state seen latch).isChain.2
  rw [raised, List.getLastD_eq_getLast?] at last
  rw [lastEdge_eq_edges owned]
  cases found : (edges latch.alarm (tick config chain state seen).2).getLast? with
  | none => exact .inr ⟨rfl, by simpa [found] using last⟩
  | some edge => exact .inl (by simpa [found] using last)

theorem Raising.tick {host : Host} (inv : HostInv config name chain moniker latch host)
    (raising : Raising config chain moniker latch host)
    (apart : TextApart config chain moniker latch) (elapsed : Nat) (reads : Seen)
    (meets : Meets chain moniker latch host (.tick elapsed reads)) :
    Raising config chain moniker latch (hostStep config name chain host (.tick elapsed reads)) := by
  have owned : ∀ emission ∈ (Watch.tick config chain host.watch (host.sees elapsed reads)).2,
      emission.message = latch.message chain moniker ↔ emission.alarm = latch.alarm := by
    intro emission member
    refine emits_text_iff apart ?_ ?_ inv.reason (emits_of_mem_tick member)
    · exact meets.1
    · exact meets.2
  refine ⟨raising.accepting, fun raised dest other reached => ?_⟩
  simp only [Announced, hostStep, raising.accepting, if_true, lastEdge_append, opened_recordEmissions]
  rcases lastEdge_tick_raised owned raised with opened | ⟨silent, before⟩
  · exact .inl (by rw [opened, Option.some_or])
  · rw [silent, Option.none_or]
    exact raising.announced before dest other reached

/-- A delivered trigger leaves its text open, whether or not it was sent. -/
theorem keyStep_trigger {dest : NotifyDest} {key : KeyState} {delivery : Delivery}
    (trigger : delivery.msg.resolved = false) (accepted : delivery.network = {}) (other : dest ≠ .pd)
    (enabled : enabledAt delivery.msg dest = true) : (keyStep dest key delivery).1.opened = true := by
  have success := (attemptAt_default delivery.msg dest).1
  cases opened : key.opened <;>
    simp [keyStep, sends, enabled, trigger, opened, accepted, success, KeyState.accept, other]

theorem Raising.deliver {host : Host} (inv : HostInv config name chain moniker latch host)
    (raising : Raising config chain moniker latch host)
    (reserveAt completeAt : NotifyDest → Instant) (order : List NotifyDest) :
    Raising config chain moniker latch
      (hostStep config name chain host (.deliver reserveAt completeAt order)) := by
  unfold hostStep
  cases pending : host.queue with
  | nil => exact raising
  | cons emission later =>
    refine ⟨raising.accepting, fun raised dest other reached => ?_⟩
    have before := raising.announced raised dest other reached
    rw [pending, Announced, ← List.singleton_append, lastEdge_append, lastEdge_singleton] at before
    have moved := (deliverAlert_refines (inv.quiet dest)
      (emissionDelivery config name chain emission reserveAt completeAt order)
      (latch.message chain moniker)).2
    unfold Announced
    cases rest : lastEdge (latch.message chain moniker) later with
    | some edge => exact .inl (by simpa [rest] using before)
    | none =>
      refine .inr ⟨rfl, ?_⟩
      dsimp only
      rw [moved]
      split
      next own =>
        -- The alert of this text was its trigger.
        have own : emission.message = latch.message chain moniker := own
        have trigger : emission.resolved = false := by simpa [rest, own] using before
        exact keyStep_trigger trigger rfl other ((enabledAt_alert ..).trans reached)
      next foreign =>
        have foreign : emission.message ≠ latch.message chain moniker := foreign
        simpa [rest, foreign] using before

theorem Raising.foreign {host : Host} (inv : HostInv config name chain moniker latch host)
    (raising : Raising config chain moniker latch host) (delivery : Delivery)
    (other : delivery.msg.message ≠ latch.message chain moniker) :
    Raising config chain moniker latch (hostStep config name chain host (.foreign delivery)) := by
  refine ⟨raising.accepting, fun raised dest notPd reached => ?_⟩
  simp only [Announced, hostStep, (deliverAlert_refines (inv.quiet dest) delivery _).2, if_neg other]
  exact raising.announced raised dest notPd reached

theorem Raising.block {host : Host} (raising : Raising config chain moniker latch host)
    (name : String) (time : Time) :
    Raising config chain moniker latch (hostStep config name chain host (.block time)) := by
  refine ⟨raising.accepting, fun raised => ?_⟩
  have flags : (step config chain host.watch (.block time)).1.flag latch = host.watch.flag latch := by
    cases latch <;> rfl
  exact raising.announced (flags.symm.trans raised)

end Raised

/-! ## The whole process -/

section Process
variable {config : Config} {name : String} {chain : ChainConfig} {moniker : String} {process : Process}

structure Sound (config : Config) (name : String) (chain : ChainConfig) (moniker : String)
    (process : Process) : Prop where
  inv : HostInv config name chain moniker .consecutive process.host
  raising : Raising config chain moniker .consecutive process.host

theorem Sound.advance (sound : Sound config name chain moniker process)
    (apart : TextApart config chain moniker .consecutive) (step : Step)
    (meets : KeepsText chain moniker process step) :
    Sound config name chain moniker (advance config name chain process step) := by
  cases step with
  | update round =>
    by_cases closes : round.closes = true
    · simp only [Pipeline.advance, Step.toHost, closes, if_true, Option.elim_some]
      exact ⟨sound.inv.block _, sound.raising.block name _⟩
    · simp only [Pipeline.advance, Step.toHost, closes]
      exact ⟨sound.inv, sound.raising⟩
  | tick elapsed reads =>
    have here := meets _ rfl
    exact ⟨sound.inv.tick apart _ _ here, sound.raising.tick sound.inv apart _ _ here⟩
  | deliver reserveAt completeAt order =>
    exact ⟨sound.inv.deliver _ _ _, sound.raising.deliver sound.inv _ _ _⟩
  | foreign delivery =>
    have other := meets _ rfl
    exact ⟨sound.inv.foreign delivery other, sound.raising.foreign sound.inv delivery other⟩

end Process

def missedBlock (height : Int) : Step :=
  .update
    { update := { height := height, final := true }
      readings := { valInfo := some validator, now := ⟨unixEpoch, Int.le_refl _⟩ } }

end Seer.Pipeline
