import Seer.Ws.Aggregator

/-!
# Which block a vote counts for

The reader hands votes to one handler and blocks to another; each holds one update at a
time and both send to the aggregator's channel, so a vote and a block may overtake each
other. The aggregator does not look at the height of an update: a vote counts for the next
block that is received. The result of a block is that of its own votes exactly when no
other vote got in between.
-/
namespace Seer.Ws

/-- An event that the websocket reader has decoded. -/
inductive WsEvent where
  | vote (event : VoteEvent)
  | block (event : BlockEvent)

/-- The reader's input, the two handlers and the aggregator behind them. -/
structure Pipeline where
  stream : List WsEvent
  agg : Aggregator
  /-- The update that `handleVotes` is about to send. -/
  vote : Option StatusUpdate := none
  /-- The update that `handleBlocks` is about to send. -/
  block : Option StatusUpdate := none
  /-- The updates received by the aggregator, oldest first. -/
  received : List StatusUpdate := []

inductive PipeStep where
  | read
  | sendVote (readings : Readings)
  | sendBlock (readings : Readings)

section Steps
variable (config : Config) (address : String)

def Pipeline.receive (pipe : Pipeline) (update : StatusUpdate) (readings : Readings) : Pipeline :=
  { pipe with
    agg := (aggregate config pipe.agg update readings).1
    received := pipe.received ++ [update] }

/-- The channels have no buffer: the reader waits until the handler is free. -/
def pipeStep (pipe : Pipeline) : PipeStep → Pipeline
  | .read => match pipe.stream with
    | [] => pipe
    | .vote event :: later =>
      -- Votes of other validators are read and dropped.
      if pipe.vote.isSome then pipe
      else { pipe with stream := later, vote := classifyVoteEvent event address }
    | .block event :: later =>
      if pipe.block.isSome then pipe
      else { pipe with stream := later, block := some (classifyBlockEvent event address) }
  | .sendVote readings => match pipe.vote with
    | none => pipe
    | some update => { pipe.receive config update readings with vote := none }
  | .sendBlock readings => match pipe.block with
    | none => pipe
    | some update => { pipe.receive config update readings with block := none }

/-- A new connection: the aggregator starts with nothing seen. -/
def pipeRun (chain : ChainConfig) (stream : List WsEvent) (schedule : List PipeStep) : Pipeline :=
  schedule.foldl (pipeStep config address) { stream := stream, agg := { chain := chain } }

end Steps

/-! ## What has been received -/

/-- The votes since the last block. -/
def sinceBlock (received : List StatusUpdate) : List StatusUpdate :=
  received.foldl (fun votes update => if update.final then [] else votes ++ [update]) []

/-- The highest status of some votes, at least `base`. -/
def highest (base : Int) (votes : List StatusUpdate) : Int :=
  votes.foldl (fun high vote => max high vote.status.value) base

/-- The votes received for a height. -/
def votesFor (received : List StatusUpdate) (height : Int) : List StatusUpdate :=
  received.filter fun update => !update.final && update.height == height

/-- The status of a block by its own votes. -/
def ownStatus (received : List StatusUpdate) (block : StatusUpdate) : Int :=
  highest block.status.value (votesFor received block.height)

/-- No vote of another height, received since the last block, is higher than the block's
own status; and no vote of its own height, received before the last block, is higher than
what has been seen since. -/
def Undisturbed (received : List StatusUpdate) (block : StatusUpdate) : Prop :=
  (∀ vote ∈ sinceBlock received, vote.height ≠ block.height →
    vote.status.value ≤ ownStatus received block) ∧
  (∀ vote ∈ votesFor received block.height, vote ∉ sinceBlock received →
    vote.status.value ≤ highest block.status.value (sinceBlock received))

theorem highest_le_iff (base bound : Int) (votes : List StatusUpdate) :
    highest base votes ≤ bound ↔ base ≤ bound ∧ ∀ vote ∈ votes, vote.status.value ≤ bound := by
  induction votes generalizing base with
  | nil => simp [highest]
  | cons vote later ih =>
    rw [highest, List.foldl_cons, ← highest, ih]
    simp only [List.mem_cons, forall_eq_or_imp, Int.max_le]
    exact and_assoc

theorem max_highest (low base : Int) (votes : List StatusUpdate) :
    max (highest low votes) base = highest (max low base) votes := by
  induction votes generalizing low with
  | nil => rfl
  | cons vote later ih =>
    simp only [highest, List.foldl_cons] at ih ⊢
    rw [ih]
    -- The two bases differ only in the order of three maxima.
    congr 1
    omega

theorem sinceBlock_vote (received : List StatusUpdate) {vote : StatusUpdate}
    (unfinished : vote.final = false) : sinceBlock (received ++ [vote]) = sinceBlock received ++ [vote] := by
  simp [sinceBlock, unfinished]

theorem sinceBlock_block (received : List StatusUpdate) {block : StatusUpdate}
    (final : block.final = true) : sinceBlock (received ++ [block]) = [] := by
  simp [sinceBlock, final]

/-- Votes since the last block are received votes. -/
theorem mem_sinceBlock {received : List StatusUpdate} {vote : StatusUpdate}
    (since : vote ∈ sinceBlock received) : vote ∈ received ∧ vote.final = false := by
  -- From the end, as the aggregator receives them: a block empties the list.
  induction received using List.reverseRecOn with
  | nil => simp [sinceBlock] at since
  | append_singleton earlier last ih =>
    cases final : last.final with
    | true => simp [sinceBlock_block earlier final] at since
    | false =>
      rw [sinceBlock_vote earlier final] at since
      rcases List.mem_append.mp since with before | here
      · exact ⟨List.mem_append_left _ (ih before).1, (ih before).2⟩
      · obtain rfl := List.mem_singleton.mp here
        exact ⟨by simp, final⟩

/-- What the aggregator records is what was seen since the last block; it is the block's
own status exactly when nothing disturbed it. -/
theorem highest_eq_ownStatus_iff (received : List StatusUpdate) (block : StatusUpdate) :
    highest block.status.value (sinceBlock received) = ownStatus received block ↔
      Undisturbed received block := by
  have own : ∀ vote ∈ votesFor received block.height,
      vote.status.value ≤ ownStatus received block :=
    ((highest_le_iff _ _ _).mp (Int.le_refl (ownStatus received block))).2
  have seen : ∀ vote ∈ sinceBlock received,
      vote.status.value ≤ highest block.status.value (sinceBlock received) :=
    ((highest_le_iff _ _ _).mp (Int.le_refl _)).2
  constructor
  · intro same
    exact ⟨fun vote since _ => same ▸ seen vote since, fun vote mine _ => same ▸ own vote mine⟩
  · rintro ⟨others, early⟩
    apply Int.le_antisymm
    -- What was seen is at most the own status: own votes by definition, the others by the
    -- first half of the condition.
    · refine (highest_le_iff _ _ _).mpr
        ⟨((highest_le_iff _ _ _).mp (Int.le_refl (ownStatus received block))).1, ?_⟩
      intro vote since
      by_cases mine : vote.height = block.height
      · obtain ⟨there, unfinished⟩ := mem_sinceBlock since
        exact own vote (by simp [votesFor, there, unfinished, mine])
      · exact others vote since mine
    -- And the own status is at most what was seen, early votes by the second half.
    · refine (highest_le_iff _ _ _).mpr ⟨((highest_le_iff _ _ _).mp (Int.le_refl _)).1, ?_⟩
      intro vote mine
      by_cases since : vote ∈ sinceBlock received
      · exact seen vote since
      · exact early vote mine since

/-! ## Every run -/

/-- The validator is known and bonded. -/
def Bonded (readings : Readings) : Prop :=
  ∃ info, readings.valInfo = some info ∧ info.bonded = true

def PipeStep.Bonded : PipeStep → Prop
  | .read => True
  | .sendVote readings => Ws.Bonded readings
  | .sendBlock readings => Ws.Bonded readings

structure PipeInv (pipe : Pipeline) : Prop where
  seen : pipe.agg.signState = highest (-1) (sinceBlock pipe.received)
  votes : ∀ update, pipe.vote = some update → update.final = false
  blocks : ∀ update, pipe.block = some update → update.final = true

section Runs
variable {config : Config} {address : String}

theorem raised_bonded (signState : Int) (status : StatusType) :
    raised signState status true = max signState status.value := by
  simp only [raised, and_true]
  split <;> omega

theorem aggregate_vote {agg : Aggregator} {update : StatusUpdate} {readings : Readings}
    (bonded : Bonded readings) (vote : update.final = false) :
    (aggregate config agg update readings).1.signState = max agg.signState update.status.value := by
  obtain ⟨info, known, bonded⟩ := bonded
  simp [aggregate, known, vote, bonded, raised_bonded]

/-- A block records the highest status, counts it and starts again. -/
theorem aggregate_block (config : Config) (agg : Aggregator) {update : StatusUpdate}
    {readings : Readings} (bonded : Bonded readings) (final : update.final = true) :
    let result := max agg.signState update.status.value
    let after := (aggregate config agg update readings).1
    after.signState = -1 ∧ after.chain.blocksResults.head? = some result ∧
      after.counters = agg.counters.tally result := by
  obtain ⟨info, known, bonded⟩ := bonded
  simp only [aggregate, known, final, bonded, raised_bonded, Bool.not_true, Bool.false_eq_true,
    if_false]
  exact ⟨rfl, State.head_recordBlockResult _ _, rfl⟩

theorem PipeInv.step {pipe : Pipeline} (inv : PipeInv pipe) {step : PipeStep} (bonded : step.Bonded) :
    PipeInv (pipeStep config address pipe step) := by
  cases step with
  | read =>
    simp only [pipeStep]
    split
    · exact inv
    next event later _ =>
      split
      · exact inv
      · -- The handler keeps an update only for the validator's own vote, never a final one.
        refine { inv with votes := ?_ }
        intro update classified
        simp only [classifyVoteEvent] at classified
        split at classified
        · cases classified
        · cases classified
          rfl
    next event later _ =>
      split
      · exact inv
      · refine { inv with blocks := ?_ }
        intro update classified
        cases classified
        rfl
  | sendVote readings =>
    simp only [pipeStep]
    split
    · exact inv
    next update waiting =>
      have vote := inv.votes update waiting
      refine ⟨?_, by simp, inv.blocks⟩
      simp only [Pipeline.receive]
      rw [aggregate_vote bonded vote, sinceBlock_vote _ vote, inv.seen]
      simp [highest]
  | sendBlock readings =>
    simp only [pipeStep]
    split
    · exact inv
    next update waiting =>
      have final := inv.blocks update waiting
      refine ⟨?_, inv.votes, by simp⟩
      simp only [Pipeline.receive]
      rw [(aggregate_block _ _ bonded final).1, sinceBlock_block _ final]
      rfl

theorem PipeInv.run (config : Config) (address : String) (chain : ChainConfig)
    (stream : List WsEvent) (schedule : List PipeStep)
    (bonded : ∀ step ∈ schedule, step.Bonded) :
    PipeInv (pipeRun config address chain stream schedule) := by
  induction schedule using List.reverseRecOn with
  | nil => exact ⟨rfl, by simp [pipeRun], by simp [pipeRun]⟩
  | append_singleton earlier last ih =>
    rw [pipeRun, List.foldl_append]
    exact (ih fun step there => bonded step (by simp [there])).step (bonded last (by simp))

end Runs

/-- In every run with a bonded validator, whatever the stream and the order in which the
handlers get to send: the next block's result, and what it adds to the counters, are those
of its own votes if and only if no other vote disturbed it. -/
theorem block_attribution_iff (config : Config) (address : String) (chain : ChainConfig)
    (stream : List WsEvent) (schedule : List PipeStep) (bonded : ∀ step ∈ schedule, step.Bonded)
    (readings : Readings) (known : Bonded readings) (block : StatusUpdate)
    (waiting : (pipeRun config address chain stream schedule).block = some block) :
    let before := pipeRun config address chain stream schedule
    let after := pipeStep config address before (.sendBlock readings)
    let own := ownStatus before.received block
    (after.agg.chain.blocksResults.head? = some own ∧
      after.agg.counters = before.agg.counters.tally own) ↔ Undisturbed before.received block := by
  intro before after own
  have inv : PipeInv before := .run config address chain stream schedule bonded
  have final := inv.blocks block waiting
  obtain ⟨-, result, counters⟩ := aggregate_block config before.agg known final
  have recorded : max before.agg.signState block.status.value =
      highest block.status.value (sinceBlock before.received) := by
    rw [inv.seen, max_highest]
    congr 1
    -- Every status is above the -1 that stands for nothing seen.
    cases block.status <;> rfl
  have stepped : after.agg = (aggregate config before.agg block readings).1 := by
    simp only [after, pipeStep, before, waiting]
    rfl
  rw [stepped, result, counters, recorded, ← highest_eq_ownStatus_iff]
  constructor
  · rintro ⟨same, -⟩
    exact Option.some.inj same
  · intro same
    exact ⟨by rw [same], by rw [same]⟩

/-- A bonded validator. -/
def bondedReadings : Readings :=
  { valInfo := some { moniker := "nos", bonded := true }, now := ⟨unixEpoch, Int.le_refl _⟩ }

/-- The prevote for block 1, and two blocks that the validator did not sign. -/
def lateVoteStream : List WsEvent :=
  [.vote { type := voteTypePrevote, height := 1, validatorAddress := "AA" },
    .block { height := 1, proposerAddress := "BB", validatorAddresses := [] },
    .block { height := 2, proposerAddress := "BB", validatorAddresses := [] }]

/-- Block 1 overtakes its prevote, and the second block waits. -/
def lateVoteSchedule : List PipeStep :=
  [.read, .read, .sendBlock bondedReadings, .sendVote bondedReadings, .read]

/-- The prevote for block 1 becomes the result of block 2. -/
theorem late_vote_counts_for_next_block :
    let before := pipeRun {} "AA" {} lateVoteStream lateVoteSchedule
    let after := pipeStep {} "AA" before (.sendBlock bondedReadings)
    before.block = some { height := 2, final := true } ∧
    ownStatus before.received { height := 2, final := true } = StatusType.missed.value ∧
    after.agg.chain.blocksResults.head? = some StatusType.prevote.value ∧
    after.agg.counters.prevoteMiss = 1 := by
  decide +kernel

/-- Sent in the order of the stream, block 2 is missed and nothing else. -/
theorem block_attribution_in_order :
    let before := pipeRun {} "AA" {} lateVoteStream
      [.read, .sendVote bondedReadings, .read, .sendBlock bondedReadings, .read]
    let after := pipeStep {} "AA" before (.sendBlock bondedReadings)
    after.agg.chain.blocksResults.head? = some StatusType.missed.value := by
  have known : Bonded bondedReadings := ⟨_, rfl, rfl⟩
  have quiet : Undisturbed (pipeRun {} "AA" {} lateVoteStream
      [.read, .sendVote bondedReadings, .read, .sendBlock bondedReadings, .read]).received
      { height := 2, final := true } := by
    constructor <;> decide +kernel
  refine ((block_attribution_iff {} "AA" {} lateVoteStream _ ?_ bondedReadings known
    { height := 2, final := true } (by decide +kernel)).mpr quiet).1
  intro step there
  simp only [List.mem_cons, List.not_mem_nil, or_false] at there
  rcases there with rfl | rfl | rfl | rfl | rfl
  · trivial
  · exact known
  · trivial
  · exact known
  · trivial

end Seer.Ws
