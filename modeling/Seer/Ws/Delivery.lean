import Seer.Ws.SessionEnd

/-!
# What becomes of the messages of a session

The messages pass from the reader over a handler to the aggregator, each through channels
without a buffer. A lane is the way of one kind of update. The invariant compares the
updates that the aggregator took with the messages that were read: it took the updates of
each lane in the order of the messages, each once, and what it has not taken is in the
hands of the handler or the reader, or was when they ended. The rounds it carried out are
the updates it took, with the exception of one that the end of the context may have cut off.
-/
namespace Seer.Ws

open Seer.Lib

/-! ## One lane -/

/-- The updates of this kind that were taken, the one in the handler's hands and the one in
the reader's are those of the messages read. -/
structure Lane (kind : Bool) (classify : Message → Option StatusUpdate)
    (taken : List StatusUpdate) (handler : Option StatusUpdate) (reader : Option Message)
    (read : List Message) : Prop where
  inOrder : taken.filter (·.final == kind) ++ handler.toList ++ (reader.bind classify).toList =
    read.filterMap classify
  ofKind : ∀ update ∈ handler, update.final = kind

namespace Lane

variable {kind : Bool} {classify : Message → Option StatusUpdate} {taken : List StatusUpdate}
  {handler : Option StatusUpdate} {read : List Message} {message : Message} {update : StatusUpdate}

theorem start : Lane kind classify [] none none [] :=
  ⟨rfl, nofun⟩

theorem readNext (lane : Lane kind classify taken handler none read)
    (skipped : classify .other = none) :
    Lane kind classify taken handler (Reader.given message).held (read ++ [message]) := by
  refine ⟨?_, lane.ofKind⟩
  have held : (Reader.given message).held.bind classify = classify message := by
    cases message with
    | other => exact skipped.symm
    | block | vote => rfl
  rw [held, List.filterMap_append, ← lane.inOrder]
  cases classified : classify message <;> simp [classified]

/-- The handler takes over the reader's message. -/
theorem hand (lane : Lane kind classify taken none (some message) read)
    (ofKind : ∀ update ∈ classify message, update.final = kind) :
    Lane kind classify taken (classify message) none read := by
  refine ⟨?_, ofKind⟩
  rw [← lane.inOrder]
  simp

/-- The reader gets rid of a message of the other lane. -/
theorem pass (lane : Lane kind classify taken handler (some message) read)
    (other : classify message = none) : Lane kind classify taken handler none read := by
  refine ⟨?_, lane.ofKind⟩
  rw [← lane.inOrder]
  simp [other]

theorem take {reader : Option Message} (lane : Lane kind classify taken (some update) reader read) :
    Lane kind classify (taken ++ [update]) none reader read := by
  refine ⟨?_, nofun⟩
  have here : update.final = kind := lane.ofKind update rfl
  rw [← lane.inOrder, List.filter_append]
  simp [here]

theorem takeOther {reader : Option Message} (lane : Lane kind classify taken handler reader read)
    (other : update.final ≠ kind) : Lane kind classify (taken ++ [update]) handler reader read := by
  refine ⟨?_, lane.ofKind⟩
  rw [← lane.inOrder, List.filter_append]
  simp [other]

end Lane

theorem final_voteUpdate {address : String} {message : Message} {update : StatusUpdate}
    (classified : update ∈ message.voteUpdate address) : update.final = false := by
  unfold Message.voteUpdate at classified
  split at classified
  · unfold classifyVoteEvent at classified
    split at classified
    · cases classified
    · cases classified
      rfl
  · cases classified

theorem final_blockUpdate {address : String} {message : Message} {update : StatusUpdate}
    (classified : update ∈ message.blockUpdate address) : update.final = true := by
  unfold Message.blockUpdate at classified
  split at classified <;> cases classified
  rfl

/-! ## The whole flow -/

/-- The rounds carried out one after the other. -/
def settled (config : Config) (base : Aggregator) (rounds : List Round) : Aggregator :=
  rounds.foldl (fun agg round => (aggregate config agg round.update round.readings).1) base

/-- What the aggregator wrote besides the rounds it carried out. -/
def Worker.wrote (agg : Aggregator) : Worker → Aggregator
  | .ended (some round) => cutShort agg round
  | _ => agg

namespace Flow

/-- The updates that were taken are the rounds carried out and the one at hand. -/
structure Settled (config : Config) (flow : Flow) : Prop where
  rounds : flow.rounds.map (·.update) ++ (flow.worker.held.map (·.update)).toList = flow.taken
  agg : flow.agg = flow.worker.wrote (settled config flow.base flow.rounds)

structure Delivered (config : Config) (flow : Flow) : Prop where
  votes : Lane false (Message.voteUpdate flow.address) flow.taken flow.votes.held flow.reader.held
    flow.read
  blocks : Lane true (Message.blockUpdate flow.address) flow.taken flow.blocks.held
    flow.reader.held flow.read
  settled : Settled config flow

section Steps
variable {config : Config} {flow after : Flow}

theorem held_given (update : Option StatusUpdate) : (Handler.given update).held = update := by
  cases update <;> rfl

theorem held_after (status : Bool) (metrics : Nat) : (Worker.after status metrics).held = none := by
  unfold Worker.after
  split <;> rfl

theorem wrote_after (agg : Aggregator) (status : Bool) (metrics : Nat) :
    (Worker.after status metrics).wrote agg = agg := by
  unfold Worker.after
  split <;> rfl

theorem wrote_of_running {worker : Worker} (running : worker.isEnded = false) (agg : Aggregator) :
    worker.wrote agg = agg := by
  cases worker with
  | ended => cases running
  | receiving | timing | publishing => rfl

/-- Nothing of a round is at hand and none was cut off. -/
theorem Settled.of_free {worker : Worker} (free : worker.held = none)
    (quiet : ∀ agg, worker.wrote agg = agg)
    (agg : flow.agg = Ws.settled config flow.base flow.rounds)
    (taken : flow.rounds.map (·.update) = flow.taken) :
    Settled config { flow with worker := worker } where
  rounds := by simpa [free] using taken
  agg := by rw [quiet]; exact agg

theorem Settled.agg_eq (settled : Settled config flow) (running : flow.worker.isEnded = false) :
    flow.agg = Ws.settled config flow.base flow.rounds :=
  settled.agg.trans (wrote_of_running running _)

theorem Settled.taken_eq (settled : Settled config flow) (free : flow.worker.held = none) :
    flow.rounds.map (·.update) = flow.taken := by
  simpa [free] using settled.rounds

/-- A round that is carried out from a place where nothing is cut off. -/
theorem Settled.settle {round : Round} {worker : Worker} (idle : worker.held = none)
    (quiet : ∀ agg, worker.wrote agg = agg)
    (agg : flow.agg = Ws.settled config flow.base flow.rounds)
    (taken : flow.rounds.map (·.update) ++ [round.update] = flow.taken) :
    Settled config (flow.settle config round worker) where
  rounds := by simpa [Flow.settle, idle] using taken
  agg := by simp [Flow.settle, quiet, agg, Ws.settled]

theorem Settled.take (settled : Settled config flow) (round : Round)
    (ready : flow.worker = .receiving) : Settled config (flow.take config round) := by
  have rounds := settled.taken_eq (by rw [ready]; rfl)
  have agg := settled.agg_eq (by rw [ready]; rfl)
  unfold Flow.take
  simp only
  split
  · exact .settle rfl (fun _ => rfl) agg (by rw [rounds])
  · split
    · exact ⟨by simp [Worker.held, rounds], agg⟩
    · exact .settle (held_after _ _) (fun agg => wrote_after agg _ _) agg (by rw [rounds])

/-- Taking an update touches nothing of the reader and the handlers. -/
theorem take_frame (config : Config) (flow : Flow) (round : Round) :
    ∃ agg rounds worker, flow.take config round =
      { flow with taken := flow.taken ++ [round.update], agg, rounds, worker } := by
  unfold Flow.take
  simp only
  split
  · exact ⟨_, _, _, rfl⟩
  · split <;> exact ⟨_, _, _, rfl⟩

theorem Delivered.moves {done connected : Bool} {next : FlowStep} (delivered : flow.Delivered config)
    (moves : flow.Moves config done connected next after) : after.Delivered config := by
  obtain ⟨votes, blocks, settled⟩ := delivered
  cases moves with
  | arrive => exact ⟨votes, blocks, settled.rounds, settled.agg⟩
  | read reading =>
    rw [reading] at votes blocks
    exact ⟨votes.readNext rfl, blocks.readNext rfl, settled.rounds, settled.agg⟩
  | readFail reading =>
    rw [reading] at votes blocks
    exact ⟨votes, blocks, settled.rounds, settled.agg⟩
  | handBlock holding receiving =>
    rw [holding] at votes blocks
    rw [receiving] at blocks
    refine ⟨votes.pass rfl, ?_, settled.rounds, settled.agg⟩
    simp only [held_given]
    exact blocks.hand fun update classified => final_blockUpdate classified
  | handVote holding receiving =>
    rw [holding] at votes blocks
    rw [receiving] at votes
    refine ⟨?_, blocks.pass rfl, settled.rounds, settled.agg⟩
    simp only [held_given]
    exact votes.hand fun update classified => final_voteUpdate classified
  | dropHeld holding =>
    rw [holding] at votes blocks
    exact ⟨votes, blocks, settled.rounds, settled.agg⟩
  | votesDone => exact ⟨votes, blocks, settled.rounds, settled.agg⟩
  | blocksDone => exact ⟨votes, blocks, settled.rounds, settled.agg⟩
  | idle receiving =>
    rw [receiving] at blocks
    exact ⟨votes, blocks, settled.rounds, settled.agg⟩
  | @takeVote update readings ready sending =>
    have here : Settled config { flow with votes := .receiving } := ⟨settled.rounds, settled.agg⟩
    have next := here.take { update, readings } ready
    obtain ⟨agg, rounds, worker, result⟩ :=
      take_frame config { flow with votes := .receiving } { update, readings }
    rw [sending] at votes
    have kind : update.final = false := votes.ofKind update rfl
    rw [result] at next ⊢
    exact ⟨votes.take, blocks.takeOther (by simp [kind]), next⟩
  | @takeBlock update readings ready sending =>
    have here : Settled config { flow with blocks := .receiving } := ⟨settled.rounds, settled.agg⟩
    have next := here.take { update, readings } ready
    obtain ⟨agg, rounds, worker, result⟩ :=
      take_frame config { flow with blocks := .receiving } { update, readings }
    rw [sending] at blocks
    have kind : update.final = true := blocks.ofKind update rfl
    rw [result] at next ⊢
    exact ⟨votes.takeOther (by simp [kind]), blocks.take, next⟩
  | timed timing =>
    refine ⟨votes, blocks, .settle (held_after _ _) (fun agg => wrote_after agg _ _) ?_ ?_⟩
    · exact settled.agg_eq (by rw [timing]; rfl)
    · simpa [timing, Worker.held] using settled.rounds
  | published here | metric here =>
    refine ⟨votes, blocks, .of_free (held_after _ _) (fun agg => wrote_after agg _ _) ?_ ?_⟩
    · exact settled.agg_eq (by rw [here]; rfl)
    · exact settled.taken_eq (by rw [here]; rfl)
  | @aggCut round timing =>
    refine ⟨votes, blocks, ?_, ?_⟩
    · simpa [timing, Worker.held] using settled.rounds
    · exact congrArg (cutShort · round) (settled.agg_eq (by rw [timing]; rfl))
  | aggDone running free =>
    exact ⟨votes, blocks, .of_free rfl (fun _ => rfl) (settled.agg_eq running) (settled.taken_eq free)⟩

/-- Only the end of the context ends a goroutine, and a goroutine that ends early ends it. -/
theorem Moves.kept {done connected : Bool} {next : FlowStep}
    (moves : flow.Moves config done connected next after) (alive : done = false)
    (quiet : next.cancels = false) :
    after.reader.isEnded = flow.reader.isEnded ∧ after.votes.isEnded = flow.votes.isEnded ∧
      after.blocks.isEnded = flow.blocks.isEnded ∧ after.worker.isEnded = flow.worker.isEnded := by
  have given : ∀ update, (Handler.given update).isEnded = false := by
    intro update
    cases update <;> rfl
  have back : ∀ status metrics, (Worker.after status metrics).isEnded = false := by
    intro status metrics
    unfold Worker.after
    split <;> rfl
  have taking : ∀ (flow : Flow) round, (flow.take config round).worker.isEnded = false := by
    intro flow round
    unfold Flow.take
    simp only
    split
    · rfl
    · split
      · rfl
      · exact back _ _
  cases moves with
  | arrive => exact ⟨rfl, rfl, rfl, rfl⟩
  | @read message _ reading _ =>
    rw [reading]
    exact ⟨by cases message <;> rfl, rfl, rfl, rfl⟩
  | readFail | idle => cases quiet
  | handBlock holding receiving =>
    rw [holding, receiving]
    exact ⟨rfl, rfl, given _, rfl⟩
  | handVote holding receiving =>
    rw [holding, receiving]
    exact ⟨rfl, given _, rfl, rfl⟩
  | dropHeld _ ended | votesDone _ ended | blocksDone _ ended | aggCut _ ended
  | aggDone _ _ ended => simp [alive] at ended
  | @takeVote update readings ready sending =>
    obtain ⟨agg, rounds, worker, result⟩ :=
      take_frame config { flow with votes := .receiving } { update, readings }
    have running := taking { flow with votes := .receiving } { update, readings }
    rw [result] at running ⊢
    rw [ready, sending]
    exact ⟨rfl, rfl, rfl, running⟩
  | @takeBlock update readings ready sending =>
    obtain ⟨agg, rounds, worker, result⟩ :=
      take_frame config { flow with blocks := .receiving } { update, readings }
    have running := taking { flow with blocks := .receiving } { update, readings }
    rw [result] at running ⊢
    rw [ready, sending]
    exact ⟨rfl, rfl, rfl, running⟩
  | timed here | published here | metric here =>
    rw [here]
    exact ⟨rfl, rfl, rfl, back _ _⟩

end Steps
end Flow

/-- The goroutines of the session are all there. -/
def Flow.complete (flow : Flow) : Bool :=
  !flow.reader.isEnded && !flow.votes.isEnded && !flow.blocks.isEnded && !flow.worker.isEnded

/-- `WsRun` is past the start of its goroutines and has not begun to leave. -/
def Main.watches : Main → Bool
  | .subscribing _ => true
  | .watching => true
  | _ => false

theorem Main.Goes.watches {main next : Main} (goes : main.Goes next) (inside : next.watches = true) :
    main.watches = true := by
  cases goes <;> first | rfl | cases inside

namespace Session

structure Delivers (config : Config) (session : Session) : Prop where
  flow : session.flow.Delivered config
  complete : session.link.main.watches = true → session.link.isDone = false →
    session.flow.complete = true

variable {config : Config} {session after : Session}

theorem Delivers.step (delivers : session.Delivers config) {next : SessionStep}
    (taken : session.step config next = some after) : after.Delivers config := by
  cases moves_of_step taken with
  | store here => exact ⟨⟨.start, .start, rfl, rfl⟩, fun _ _ => rfl⟩
  | @link next link moves =>
    refine ⟨delivers.flow, fun inside alive => ?_⟩
    cases moves with
    | parent waiting => cases alive
    | start | dialed | close | join => cases inside
    | main goes more =>
      apply delivers.complete (goes.watches inside)
      simp only [Link.isDone, Bool.or_eq_false_iff] at alive ⊢
      refine ⟨alive.1, Bool.eq_false_iff.mpr fun cancelled => ?_⟩
      exact Bool.eq_false_iff.mp alive.2 (more cancelled)
    | closeAll | closer => exact delivers.complete inside alive
  | @flow next flow moves =>
    refine ⟨delivers.flow.moves moves, fun inside alive => ?_⟩
    simp only [Link.isDone, Bool.or_eq_false_iff] at alive
    obtain ⟨parent, cancelled, quiet⟩ := alive
    have done : session.link.isDone = false := by simp [Link.isDone, parent, cancelled]
    have complete := delivers.complete inside done
    obtain ⟨reader, votes, blocks, worker⟩ := moves.kept done quiet
    simpa [Flow.complete, reader, votes, blocks, worker] using complete

theorem Delivers.fresh (chain : ChainConfig) : (Session.fresh chain).Delivers config :=
  ⟨⟨.start, .start, rfl, rfl⟩, nofun⟩

/-- In every session the aggregator takes the updates of the validator's votes, and those of
the blocks, in the order in which their messages were read and each once. What it has not
taken is at most one update with the handler and one message with the reader, and nothing is
given up before the context has ended. What it has written is the outcome of these updates,
one round after the other; at most the last one was cut off. -/
theorem updates_taken_in_order {chain : ChainConfig} {steps : List SessionStep}
    (runs : Machine.run (Session.step config) (Session.fresh chain) steps = some session) :
    let flow := session.flow
    (flow.taken.filter (·.final == false) ++ flow.votes.held.toList ++
        (flow.reader.held.bind (Message.voteUpdate flow.address)).toList =
      flow.read.filterMap (Message.voteUpdate flow.address)) ∧
    (flow.taken.filter (·.final == true) ++ flow.blocks.held.toList ++
        (flow.reader.held.bind (Message.blockUpdate flow.address)).toList =
      flow.read.filterMap (Message.blockUpdate flow.address)) ∧
    (flow.rounds.map (·.update) ++ (flow.worker.held.map (·.update)).toList = flow.taken) ∧
    flow.agg = flow.worker.wrote (settled config flow.base flow.rounds) ∧
    (session.link.main.watches = true → session.link.isDone = false → flow.complete = true) := by
  have delivers : session.Delivers config := Machine.run_invariant
    (fun _ _ _ delivers (_ : True) taken => delivers.step taken) runs (fun _ _ => trivial)
    (.fresh chain)
  exact ⟨delivers.flow.votes.inOrder, delivers.flow.blocks.inOrder, delivers.flow.settled.rounds,
    delivers.flow.settled.agg, delivers.complete⟩

/-- A vote and a block of one height; the context ends with a second block on its way. -/
def cutOffSession : List SessionStep :=
  [.link .start, .link (.ready "AA"), .link (.dial true), .store 0,
    .flow (.arrive (.vote (some ⟨1, 7, "AA"⟩))), .flow (.arrive (.block (some ⟨7, "BB", ["AA"]⟩))),
    .flow (.arrive .other), .flow (.arrive (.block (some ⟨8, "AA", []⟩))),
    .flow .read, .flow (.hand 1), .flow .read, .flow (.hand 2),
    .flow (.takeVote { valInfo := some { bonded := true }, now := ⟨unixEpoch, Int.le_refl _⟩ }),
    .flow (.takeBlock { valInfo := some { bonded := true }, now := ⟨unixEpoch, Int.le_refl _⟩ }),
    .flow .read, .flow .read, .link .cancelParent, .flow (.hand 3), .flow .blocksDone]

theorem updates_taken_in_order_cutOff :
    ∃ session, Machine.run (Session.step {}) (Session.fresh {}) cutOffSession = some session ∧
      session.flow.taken.map (·.height) = [7, 7] ∧
      session.flow.agg.chain.blocksResults.head? = some 3 ∧
      session.flow.taken.filter (·.final == true) ++ session.flow.blocks.held.toList =
        session.flow.read.filterMap (Message.blockUpdate "AA") := by
  have runs : Machine.run (Session.step {}) (Session.fresh {}) cutOffSession = some _ := rfl
  have order := (updates_taken_in_order runs).2.1
  exact ⟨_, runs, rfl, rfl, (List.append_nil _).symm.trans order⟩

end Session

end Seer.Ws
