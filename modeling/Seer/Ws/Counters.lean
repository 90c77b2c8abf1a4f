import Seer.Ws.Attribution

/-!
# The signing counters over a run of the aggregator

The dashboard and the metrics show six counters per chain. Here the aggregator is run over
any sequence of updates, with any snapshot of the validator at each, and the counters are
compared with the results it recorded. The results themselves are read off the sequence:
the updates between two blocks, and among them those met while the validator was bonded.
-/
namespace Seer.Ws

open Seer.Lib

/-- An update with what the aggregator reads when it takes it. -/
structure Round where
  update : StatusUpdate
  readings : Readings

namespace Round

def known (round : Round) : Bool :=
  round.readings.valInfo.isSome

def bonded (round : Round) : Bool :=
  round.readings.valInfo.any (·.bonded)

/-- A final update that is not dropped for want of a snapshot. -/
def closes (round : Round) : Bool :=
  round.known && round.update.final

end Round

/-- The aggregator and the results it has recorded, the newest last. -/
structure Recorder where
  agg : Aggregator
  results : List Int := []

section Runs
variable (config : Config)

/-- A round that closes a block leaves its result as the newest of the chain's history. -/
def recordRound (recorder : Recorder) (round : Round) : Recorder :=
  let agg := (aggregate config recorder.agg round.update round.readings).1
  { agg := agg
    results := if round.closes then recorder.results ++ agg.chain.blocksResults.head?.toList
      else recorder.results }

/-- The aggregator of a new process, before its first update. -/
def freshAggregator (chain : ChainConfig) : Aggregator :=
  { chain := { chain with statConsecutiveMiss := 0 } }

def recordRun (chain : ChainConfig) (rounds : List Round) : Recorder :=
  rounds.foldl (recordRound config) { agg := freshAggregator chain }

end Runs

/-- The rounds so far, cut behind each one that closes a block. -/
structure Spans where
  finished : List (List Round) := []
  current : List Round := []

def Spans.add (spans : Spans) (round : Round) : Spans :=
  if round.closes then
    { finished := spans.finished ++ [spans.current ++ [round]], current := [] }
  else { spans with current := spans.current ++ [round] }

def spansOf (rounds : List Round) : Spans :=
  rounds.foldl Spans.add {}

/-- The highest status of the updates met while bonded, -1 without any. -/
def bestBonded (span : List Round) : Int :=
  highest (-1) ((span.filter (·.bonded)).map (·.update))

def wasSigned (result : Int) : Bool :=
  result = StatusType.signed.value ∨ result = StatusType.proposed.value

def wasMissed (result : Int) : Bool :=
  result = StatusType.missed.value ∨ result = StatusType.prevote.value ∨
    result = StatusType.precommit.value

/-- The results after the last signed one. -/
def sinceSigned (results : List Int) : List Int :=
  (results.reverse.takeWhile (!wasSigned ·)).reverse

/-- The counters as counts over the recorded results. -/
structure Counters.Agree (counters : Counters) (results : List Int) : Prop where
  signs : counters.totalSigns = results.countP wasSigned
  props : counters.totalProps = results.count StatusType.proposed.value
  misses : counters.totalMiss = results.countP wasMissed
  prevotes : counters.prevoteMiss = results.count StatusType.prevote.value
  precommits : counters.precommitMiss = results.count StatusType.precommit.value
  consecutive : counters.consecutiveMiss = (sinceSigned results).countP wasMissed

theorem sinceSigned_signed (results : List Int) {result : Int} (signed : wasSigned result = true) :
    sinceSigned (results ++ [result]) = [] := by
  simp [sinceSigned, signed]

theorem sinceSigned_other (results : List Int) {result : Int} (other : wasSigned result = false) :
    sinceSigned (results ++ [result]) = sinceSigned results ++ [result] := by
  simp [sinceSigned, other]

/-- The switch counts one more result, whatever its value. -/
theorem Counters.Agree.tally {counters : Counters} {results : List Int}
    (agree : counters.Agree results) (result : Int) :
    (counters.tally result).Agree (results ++ [result]) := by
  obtain ⟨signs, props, misses, prevotes, precommits, consecutive⟩ := agree
  have last : (sinceSigned (results ++ [result])).countP wasMissed =
      if wasSigned result then 0
      else (sinceSigned results).countP wasMissed + if wasMissed result then 1 else 0 := by
    cases signed : wasSigned result with
    | true => simp [sinceSigned_signed results signed]
    | false => simp [sinceSigned_other results signed, List.countP_append, List.countP_cons]
  unfold Counters.tally
  -- One case of the switch at a time; the last is -1, which no counter counts.
  split_ifs with missed precommit prevote signed proposed
  all_goals
    refine ⟨?_, ?_, ?_, ?_, ?_, Eq.trans ?_ last.symm⟩ <;> clear last <;>
      simp_all [List.countP_append, List.count_append, wasSigned, wasMissed, StatusType.value]

theorem bestBonded_concat (span : List Round) (round : Round) :
    bestBonded (span ++ [round]) =
      if round.bonded then max (bestBonded span) round.update.status.value
      else bestBonded span := by
  cases bonded : round.bonded <;> simp [bestBonded, highest, List.filter_append, bonded]

/-- The aggregator's variable is raised by exactly the updates met while bonded. -/
theorem raised_eq_bestBonded (span : List Round) {round : Round} {info : ValInfo}
    (known : round.readings.valInfo = some info) :
    raised (bestBonded span) round.update.status info.bonded = bestBonded (span ++ [round]) := by
  have same : round.bonded = info.bonded := by simp [Round.bonded, known]
  rw [bestBonded_concat, same, raised]
  cases info.bonded with
  | true =>
    simp only [and_true, if_true]
    split <;> omega
  | false => simp

/-- What is known of the aggregator after some rounds. -/
structure RecorderInv (recorder : Recorder) (spans : Spans) : Prop where
  seen : recorder.agg.signState = bestBonded spans.current
  results : recorder.results = spans.finished.map bestBonded
  counters : recorder.agg.counters.Agree recorder.results
  shown : recorder.agg.chain.statConsecutiveMiss = recorder.agg.counters.consecutiveMiss

theorem RecorderInv.step (config : Config) {recorder : Recorder} {spans : Spans}
    (inv : RecorderInv recorder spans) (round : Round) :
    RecorderInv (recordRound config recorder round) (spans.add round) := by
  obtain ⟨seen, results, counters, shown⟩ := inv
  cases known : round.readings.valInfo with
  | none =>
    -- Without a snapshot the update is dropped, and it is not bonded either.
    have dropped : round.closes = false := by simp [Round.closes, Round.known, known]
    have unbonded : round.bonded = false := by simp [Round.bonded, known]
    simp only [recordRound, aggregate, known, Spans.add, dropped, Bool.false_eq_true, if_false]
    refine ⟨?_, results, counters, shown⟩
    rw [bestBonded_concat, unbonded]
    exact seen
  | some info =>
    have best := raised_eq_bestBonded spans.current known
    rw [← seen] at best
    cases final : round.update.final with
    | false =>
      have opened : round.closes = false := by simp [Round.closes, final]
      simp only [recordRound, aggregate, known, Spans.add, opened, final, Bool.not_false,
        Bool.false_eq_true, if_false, if_true]
      exact ⟨best, results, counters, shown⟩
    | true =>
      have closes : round.closes = true := by simp [Round.closes, Round.known, known, final]
      simp only [recordRound, aggregate, known, Spans.add, closes, final, Bool.not_true,
        Bool.false_eq_true, if_false, if_true, finishBlock, State.head_recordBlockResult,
        Option.toList_some, best]
      exact ⟨rfl, by simp [results], counters.tally _, rfl⟩

theorem RecorderInv.run (config : Config) (chain : ChainConfig) (rounds : List Round) :
    RecorderInv (recordRun config chain rounds) (spansOf rounds) := by
  induction rounds using List.reverseRecOn with
  | nil => exact ⟨rfl, rfl, ⟨rfl, rfl, rfl, rfl, rfl, rfl⟩, rfl⟩
  | append_singleton earlier last ih =>
    simp only [recordRun, spansOf, List.foldl_append, List.foldl_cons, List.foldl_nil] at ih ⊢
    exact ih.step config last

/-- In every run of the aggregator from zero counters, whatever the updates and the
snapshots: each result is the highest status met while bonded since the block before, and
the counters are the counts of these results. -/
theorem counters_agree_results (config : Config) (chain : ChainConfig) (rounds : List Round) :
    let after := recordRun config chain rounds
    after.results = (spansOf rounds).finished.map bestBonded ∧
      after.agg.counters.totalSigns = after.results.countP wasSigned ∧
      after.agg.counters.totalProps = after.results.count StatusType.proposed.value ∧
      after.agg.counters.totalMiss = after.results.countP wasMissed ∧
      after.agg.counters.prevoteMiss = after.results.count StatusType.prevote.value ∧
      after.agg.counters.precommitMiss = after.results.count StatusType.precommit.value ∧
      after.agg.counters.consecutiveMiss = (sinceSigned after.results).countP wasMissed ∧
      after.agg.chain.statConsecutiveMiss = (sinceSigned after.results).countP wasMissed := by
  intro after
  obtain ⟨-, results, agree, shown⟩ := RecorderInv.run config chain rounds
  exact ⟨results, agree.signs, agree.props, agree.misses, agree.prevotes, agree.precommits,
    agree.consecutive, shown.trans agree.consecutive⟩

end Seer.Ws
