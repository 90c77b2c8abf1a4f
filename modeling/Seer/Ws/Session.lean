import Seer.Lib.Machine
import Seer.Ws.Counters

/-!
# A websocket session and its goroutines

`WsRun` waits for a client, dials, stores the connection in the chain, starts five
goroutines and leaves when the context ends or the client quits. The goroutines are the one
that closes the connection, the reader, the two handlers and the aggregator; the last four
meet over channels without a buffer. `monitorChain` starts a new session after each one that
returned, and the process can end the parent context or close the connection from outside
at any time. A step is what one of them does between two points where it can block.

The link is what decides how long a session lasts: the contexts, `WsRun` itself and the
connection. The flow is what becomes of the messages: the four goroutines with what they
hold, and what the aggregator has written.
-/
namespace Seer.Ws

open Seer.Lib

/-! ## The link -/

/-- Where `WsRun` is; `outside` is `monitorChain` between two sessions. -/
inductive Main where
  | outside
  | waiting
  | dialing (address : String)
  | storing (connection : Nat) (address : String)
  /-- At a query with this many behind it. -/
  | subscribing (left : Nat)
  | watching
  -- The deferred function.
  | cancelling
  | closing
  | joining
  deriving DecidableEq

structure Link where
  parentDone : Bool := false
  cancelled : Bool := false
  main : Main := .outside
  /-- The goroutine that waits for the end of the context to close the connection. -/
  closer : Bool := false
  wsclient : Option Nat := none
  /-- The connections opened so far are the numbers below this one. -/
  dialed : Nat := 0
  /-- The calls of `Close`, the oldest first. -/
  closed : List Nat := []
  deriving DecidableEq

inductive LinkStep where
  /-- The process shuts down: its context ends, and `closeWebSockets` runs. -/
  | cancelParent
  | closeAll
  | start
  | ready (address : String)
  | timeOut
  | giveUp
  | dial (ok : Bool)
  | subscribe (ok : Bool)
  | quit
  | wake
  | cancel
  | close
  | join
  | closer

namespace Link

/-- `ctx.Err() != nil`. -/
def isDone (link : Link) : Bool := link.parentDone || link.cancelled

def closeWebSocket (link : Link) : Link :=
  { link with closed := link.closed ++ link.wsclient.toList, wsclient := none }

/-- A step of `WsRun` or of the goroutine that closes; `none` where it has to wait. `idle`
says that the other goroutines have returned. -/
def step (idle : Bool) (link : Link) : LinkStep → Option Link
  | .cancelParent => if link.parentDone then none else some { link with parentDone := true }
  | .closeAll => if link.wsclient.isSome then some link.closeWebSocket else none
  | .start =>
    if link.main = .outside then some { link with main := .waiting, cancelled := false } else none
  | .ready address =>
    if link.main = .waiting then some { link with main := .dialing address } else none
  | .timeOut => if link.main = .waiting then some { link with main := .cancelling } else none
  | .giveUp =>
    if link.main = .waiting ∧ link.isDone then some { link with main := .cancelling } else none
  | .dial ok =>
    match link.main with
    | .dialing address =>
      if ok then some { link with main := .storing link.dialed address, dialed := link.dialed + 1 }
      else some { link with main := .cancelling }
    | _ => none
  | .subscribe ok =>
    match link.main with
    | .subscribing left =>
      if ok then some { link with main := if left = 0 then .watching else .subscribing (left - 1) }
      else some { link with cancelled := true, main := .cancelling }
    | _ => none
  | .quit =>
    if link.main = .watching then some { link with cancelled := true, main := .cancelling }
    else none
  | .wake =>
    if link.main = .watching ∧ link.isDone then some { link with main := .cancelling } else none
  | .cancel =>
    if link.main = .cancelling then some { link with cancelled := true, main := .closing }
    else none
  | .close =>
    if link.main = .closing then some { link.closeWebSocket with main := .joining } else none
  | .join =>
    if link.main = .joining ∧ link.closer = false ∧ idle then some { link with main := .outside }
    else none
  | .closer =>
    if link.closer ∧ link.isDone then some { link.closeWebSocket with closer := false } else none

/-- The connection is stored and the goroutines start. -/
def launch (link : Link) (connection : Nat) : Link :=
  { link with main := .subscribing 1, closer := true, wsclient := some connection }

end Link

/-! ## The flow -/

/-- A message of the connection: an event that may fail to decode, or one the reader skips. -/
inductive Message where
  | block (event : Option BlockEvent)
  | vote (event : Option VoteEvent)
  | other

namespace Message

/-- What `handleVotes` makes of a message. -/
def voteUpdate (address : String) : Message → Option StatusUpdate
  | .vote (some event) => classifyVoteEvent event address
  | _ => none

/-- What `handleBlocks` makes of a message. -/
def blockUpdate (address : String) : Message → Option StatusUpdate
  | .block (some event) => some (classifyBlockEvent event address)
  | _ => none

end Message

/-- The goroutine that reads the connection; one that ended keeps what it held. -/
inductive Reader where
  | ended (unsent : Option Message)
  | reading
  | holding (message : Message)

namespace Reader

def isEnded : Reader → Bool
  | .ended _ => true
  | _ => false

def held : Reader → Option Message
  | .ended unsent => unsent
  | .reading => none
  | .holding message => some message

/-- The switch over the type of the reply. -/
def given : Message → Reader
  | .other => .reading
  | message => .holding message

end Reader

/-- The goroutine of `handleVotes` or of `handleBlocks`. -/
inductive Handler where
  | ended (unsent : Option StatusUpdate)
  | receiving
  | sending (update : StatusUpdate)

namespace Handler

def isEnded : Handler → Bool
  | .ended _ => true
  | _ => false

def held : Handler → Option StatusUpdate
  | .ended unsent => unsent
  | .receiving => none
  | .sending update => some update

/-- A message that gives no update is skipped. -/
def given : Option StatusUpdate → Handler
  | none => .receiving
  | some update => .sending update

end Handler

/-- The aggregator. With metrics on it sends the time since the last block before it records
a result, and gives the round up if the context ends there. -/
inductive Worker where
  | ended (unrecorded : Option Round)
  | receiving
  | timing (round : Round)
  | publishing (status : Bool) (metrics : Nat)

namespace Worker

def isEnded : Worker → Bool
  | .ended _ => true
  | _ => false

def held : Worker → Option Round
  | .ended unrecorded => unrecorded
  | .timing round => some round
  | _ => none

/-- The way back to the select, through the sends that are left. -/
def after (status : Bool) (metrics : Nat) : Worker :=
  if status = false ∧ metrics = 0 then .receiving else .publishing status metrics

/-- A recorded block has a line for the dashboard and seven metrics. -/
def recorded (config : Config) : Worker :=
  .after config.enableDash (if config.prom then 7 else 0)

end Worker

structure Flow where
  reader : Reader := .ended none
  votes : Handler := .ended none
  blocks : Handler := .ended none
  lastBlock : Time := 0
  worker : Worker := .ended none
  inbox : List Message := []
  address : String := ""
  agg : Aggregator
  /-- The aggregator's data when the session started. -/
  base : Aggregator
  /-- The messages read, the updates the aggregator took and the rounds it finished. -/
  read : List Message := []
  taken : List StatusUpdate := []
  rounds : List Round := []

inductive FlowStep where
  | arrive (message : Message)
  | read
  | readFail
  | hand (now : Time)
  | dropHeld
  | votesDone
  | blocksDone
  | idle (now : Time)
  | takeVote (readings : Readings)
  | takeBlock (readings : Readings)
  | timed
  | published
  | metric
  | aggDone

/-- The steps that call `cancel`. -/
def FlowStep.cancels : FlowStep → Bool
  | .readFail => true
  | .idle _ => true
  | _ => false

/-- What a round has written when it is given up before its result is recorded. -/
def cutShort (agg : Aggregator) (round : Round) : Aggregator :=
  match round.readings.valInfo with
  | none => agg
  | some valInfo =>
    { agg with
      chain := { agg.chain with
        alertState := (Watch.recordFinalBlock agg.chain.alertState round.readings.now).1 }
      signState := raised agg.signState round.update.status valInfo.bonded
      lastBlockNum := round.update.height }

/-- `lastBlock.Before(time.Now().Add(-time.Minute))`. -/
def idleSince (lastBlock now : Time) : Bool := lastBlock < now - minute

namespace Flow

/-- The four goroutines have returned. -/
def idle (flow : Flow) : Bool :=
  flow.reader.isEnded && flow.votes.isEnded && flow.blocks.isEnded && flow.worker.isEnded

/-- The goroutines start; the counters and the history stay in the chain. -/
def launch (flow : Flow) (address : String) (now : Time) : Flow :=
  { reader := .reading
    votes := .receiving
    blocks := .receiving
    lastBlock := now
    worker := .receiving
    address := address
    agg := { flow.agg with signState := -1 }
    base := { flow.agg with signState := -1 } }

section Steps
variable (config : Config)

/-- The round is carried out to its end. -/
def settle (flow : Flow) (round : Round) (worker : Worker) : Flow :=
  { flow with
    agg := (aggregate config flow.agg round.update round.readings).1
    rounds := flow.rounds ++ [round]
    worker := worker }

/-- The aggregator receives an update. -/
def take (flow : Flow) (round : Round) : Flow :=
  let flow := { flow with taken := flow.taken ++ [round.update] }
  if !round.closes then flow.settle config round .receiving
  else if config.prom then { flow with worker := .timing round }
  else flow.settle config round (.recorded config)

/-- A step of one of the four goroutines or of the peer; `none` where it has to wait. -/
def step (done connected : Bool) (flow : Flow) : FlowStep → Option Flow
  -- The peer sends only over an open connection; what it sent can be read after the end.
  | .arrive message =>
    if connected then some { flow with inbox := flow.inbox ++ [message] } else none
  | .read =>
    match flow.reader, flow.inbox with
    | .reading, message :: later =>
      some { flow with inbox := later, read := flow.read ++ [message], reader := .given message }
    | _, _ => none
  | .readFail =>
    match flow.reader with
    | .reading => some { flow with reader := .ended none }
    | _ => none
  | .hand now =>
    match flow.reader, flow.votes, flow.blocks with
    | .holding (.block event), _, .receiving =>
      some { flow with
        reader := .reading
        lastBlock := now
        blocks := .given (Message.blockUpdate flow.address (.block event)) }
    | .holding (.vote event), .receiving, _ =>
      some { flow with
        reader := .reading
        votes := .given (Message.voteUpdate flow.address (.vote event)) }
    | _, _, _ => none
  | .dropHeld =>
    match flow.reader with
    | .holding message => if done then some { flow with reader := .ended (some message) } else none
    | _ => none
  | .votesDone =>
    if flow.votes.isEnded = false ∧ done then some { flow with votes := .ended flow.votes.held }
    else none
  | .blocksDone =>
    if flow.blocks.isEnded = false ∧ done then some { flow with blocks := .ended flow.blocks.held }
    else none
  -- A tick within a minute of the last block changes nothing.
  | .idle now =>
    match flow.blocks with
    | .receiving =>
      if idleSince flow.lastBlock now then some { flow with blocks := .ended none } else none
    | _ => none
  | .takeVote readings =>
    match flow.worker, flow.votes with
    | .receiving, .sending update =>
      some ({ flow with votes := .receiving }.take config { update, readings })
    | _, _ => none
  | .takeBlock readings =>
    match flow.worker, flow.blocks with
    | .receiving, .sending update =>
      some ({ flow with blocks := .receiving }.take config { update, readings })
    | _, _ => none
  | .timed =>
    match flow.worker with
    | .timing round => some (flow.settle config round (.recorded config))
    | _ => none
  -- The send to the dashboard does not watch the context, those to the exporter do.
  | .published =>
    match flow.worker with
    | .publishing true metrics => some { flow with worker := .after false metrics }
    | _ => none
  | .metric =>
    match flow.worker with
    | .publishing false (left + 1) => some { flow with worker := .after false left }
    | _ => none
  | .aggDone =>
    match flow.worker with
    | .receiving => if done then some { flow with worker := .ended none } else none
    | .timing round =>
      if done then
        some { flow with worker := .ended (some round), agg := cutShort flow.agg round }
      else none
    | .publishing false _ => if done then some { flow with worker := .ended none } else none
    | _ => none

end Steps

end Flow

/-! ## What a step of the link can do -/

namespace Main

/-- `WsRun` goes on and leaves the connection alone. -/
inductive Goes : Main → Main → Prop
  | ready (address : String) : Goes .waiting (.dialing address)
  | leave : Goes .waiting .cancelling
  | refused (address : String) : Goes (.dialing address) .cancelling
  | subscribed (left : Nat) : Goes (.subscribing (left + 1)) (.subscribing left)
  | watch : Goes (.subscribing 0) .watching
  | unsubscribed (left : Nat) : Goes (.subscribing left) .cancelling
  | woken : Goes .watching .cancelling
  | cancelled : Goes .cancelling .closing

end Main

namespace Link

inductive Moves (idle : Bool) (link : Link) : LinkStep → Link → Prop
  | parent (waiting : link.parentDone = false) :
      Moves idle link .cancelParent { link with parentDone := true }
  | start (here : link.main = .outside) :
      Moves idle link .start { link with main := .waiting, cancelled := false }
  | main {next : LinkStep} {main : Main} {cancelled : Bool} (goes : link.main.Goes main)
      (more : link.cancelled = true → cancelled = true) :
      Moves idle link next { link with main := main, cancelled := cancelled }
  | dialed {address : String} (here : link.main = .dialing address) :
      Moves idle link (.dial true)
        { link with main := .storing link.dialed address, dialed := link.dialed + 1 }
  | closeAll (held : link.wsclient.isSome = true) : Moves idle link .closeAll link.closeWebSocket
  | close (here : link.main = .closing) :
      Moves idle link .close { link.closeWebSocket with main := .joining }
  | join (here : link.main = .joining) (alone : link.closer = false) (rest : idle = true) :
      Moves idle link .join { link with main := .outside }
  | closer (running : link.closer = true) (done : link.isDone = true) :
      Moves idle link .closer { link.closeWebSocket with closer := false }

theorem moves_of_step {link after : Link} {idle : Bool} {next : LinkStep}
    (taken : link.step idle next = some after) : Moves idle link next after := by
  cases next with
  | cancelParent =>
    simp only [step] at taken
    split at taken <;> cases taken
    next waiting => exact .parent (by simpa using waiting)
  | closeAll =>
    obtain ⟨held, ⟨⟩⟩ := Option.ite_none_right_eq_some.mp taken
    exact .closeAll held
  | start =>
    obtain ⟨here, ⟨⟩⟩ := Option.ite_none_right_eq_some.mp taken
    exact .start here
  | ready address =>
    obtain ⟨here, ⟨⟩⟩ := Option.ite_none_right_eq_some.mp taken
    exact .main (here ▸ .ready address) id
  | timeOut =>
    obtain ⟨here, ⟨⟩⟩ := Option.ite_none_right_eq_some.mp taken
    exact .main (here ▸ .leave) id
  | giveUp =>
    obtain ⟨⟨here, -⟩, ⟨⟩⟩ := Option.ite_none_right_eq_some.mp taken
    exact .main (here ▸ .leave) id
  | dial ok =>
    simp only [step] at taken
    split at taken
    next address here =>
      cases ok with
      | true =>
        cases taken
        exact .dialed here
      | false =>
        cases taken
        exact .main (here ▸ .refused address) id
    next => cases taken
  | subscribe ok =>
    simp only [step] at taken
    split at taken
    next left here =>
      split at taken <;> cases taken
      · refine .main ?_ id
        rw [here]
        cases left with
        | zero => exact .watch
        | succ left => exact .subscribed left
      · exact .main (here ▸ .unsubscribed _) fun _ => rfl
    next => cases taken
  | quit =>
    obtain ⟨here, ⟨⟩⟩ := Option.ite_none_right_eq_some.mp taken
    exact .main (here ▸ .woken) fun _ => rfl
  | wake =>
    obtain ⟨⟨here, -⟩, ⟨⟩⟩ := Option.ite_none_right_eq_some.mp taken
    exact .main (here ▸ .woken) id
  | cancel =>
    obtain ⟨here, ⟨⟩⟩ := Option.ite_none_right_eq_some.mp taken
    exact .main (here ▸ .cancelled) fun _ => rfl
  | close =>
    obtain ⟨here, ⟨⟩⟩ := Option.ite_none_right_eq_some.mp taken
    exact .close here
  | join =>
    obtain ⟨⟨here, alone, rest⟩, ⟨⟩⟩ := Option.ite_none_right_eq_some.mp taken
    exact .join here alone rest
  | closer =>
    obtain ⟨⟨running, done⟩, ⟨⟩⟩ := Option.ite_none_right_eq_some.mp taken
    exact .closer running done

end Link

/-! ## What a step of the flow can do -/

namespace Flow

inductive Moves (config : Config) (done connected : Bool) (flow : Flow) : FlowStep → Flow → Prop
  | arrive (message : Message) (here : connected = true) :
      Moves config done connected flow (.arrive message)
        { flow with inbox := flow.inbox ++ [message] }
  | read {message : Message} {later : List Message} (reading : flow.reader = .reading)
      (inbox : flow.inbox = message :: later) :
      Moves config done connected flow .read
        { flow with inbox := later, read := flow.read ++ [message], reader := .given message }
  | readFail (reading : flow.reader = .reading) :
      Moves config done connected flow .readFail { flow with reader := .ended none }
  | handBlock {event : Option BlockEvent} {now : Time}
      (holding : flow.reader = .holding (.block event)) (receiving : flow.blocks = .receiving) :
      Moves config done connected flow (.hand now)
        { flow with
          reader := .reading
          lastBlock := now
          blocks := .given (Message.blockUpdate flow.address (.block event)) }
  | handVote {event : Option VoteEvent} {now : Time}
      (holding : flow.reader = .holding (.vote event)) (receiving : flow.votes = .receiving) :
      Moves config done connected flow (.hand now)
        { flow with
          reader := .reading
          votes := .given (Message.voteUpdate flow.address (.vote event)) }
  | dropHeld {message : Message} (holding : flow.reader = .holding message)
      (ended : done = true) :
      Moves config done connected flow .dropHeld { flow with reader := .ended (some message) }
  | votesDone (running : flow.votes.isEnded = false) (ended : done = true) :
      Moves config done connected flow .votesDone
        { flow with votes := .ended flow.votes.held }
  | blocksDone (running : flow.blocks.isEnded = false) (ended : done = true) :
      Moves config done connected flow .blocksDone
        { flow with blocks := .ended flow.blocks.held }
  | idle {now : Time} (receiving : flow.blocks = .receiving) (late : idleSince flow.lastBlock now = true) :
      Moves config done connected flow (.idle now) { flow with blocks := .ended none }
  | takeVote {update : StatusUpdate} {readings : Readings} (ready : flow.worker = .receiving)
      (sending : flow.votes = .sending update) :
      Moves config done connected flow (.takeVote readings)
        ({ flow with votes := .receiving }.take config { update, readings })
  | takeBlock {update : StatusUpdate} {readings : Readings} (ready : flow.worker = .receiving)
      (sending : flow.blocks = .sending update) :
      Moves config done connected flow (.takeBlock readings)
        ({ flow with blocks := .receiving }.take config { update, readings })
  | timed {round : Round} (timing : flow.worker = .timing round) :
      Moves config done connected flow .timed (flow.settle config round (.recorded config))
  | published {metrics : Nat} (here : flow.worker = .publishing true metrics) :
      Moves config done connected flow .published { flow with worker := .after false metrics }
  | metric {left : Nat} (here : flow.worker = .publishing false (left + 1)) :
      Moves config done connected flow .metric { flow with worker := .after false left }
  | aggCut {round : Round} (timing : flow.worker = .timing round) (ended : done = true) :
      Moves config done connected flow .aggDone
        { flow with worker := .ended (some round), agg := cutShort flow.agg round }
  | aggDone (running : flow.worker.isEnded = false) (free : flow.worker.held = none)
      (ended : done = true) :
      Moves config done connected flow .aggDone { flow with worker := .ended none }

theorem moves_of_step {config : Config} {done connected : Bool} {flow after : Flow}
    {next : FlowStep} (taken : flow.step config done connected next = some after) :
    Moves config done connected flow next after := by
  cases next with
  | arrive message =>
    obtain ⟨here, ⟨⟩⟩ := Option.ite_none_right_eq_some.mp taken
    exact .arrive message here
  | read =>
    simp only [step] at taken
    split at taken <;> cases taken
    exact .read ‹_› ‹_›
  | readFail =>
    simp only [step] at taken
    split at taken <;> cases taken
    exact .readFail ‹_›
  | hand now =>
    simp only [step] at taken
    split at taken <;> cases taken
    · exact .handBlock ‹_› ‹_›
    · exact .handVote ‹_› ‹_›
  | dropHeld =>
    simp only [step] at taken
    split at taken
    · obtain ⟨ended, ⟨⟩⟩ := Option.ite_none_right_eq_some.mp taken
      exact .dropHeld ‹_› ended
    · cases taken
  | votesDone =>
    obtain ⟨⟨running, ended⟩, ⟨⟩⟩ := Option.ite_none_right_eq_some.mp taken
    exact .votesDone running ended
  | blocksDone =>
    obtain ⟨⟨running, ended⟩, ⟨⟩⟩ := Option.ite_none_right_eq_some.mp taken
    exact .blocksDone running ended
  | idle now =>
    simp only [step] at taken
    split at taken
    · obtain ⟨late, ⟨⟩⟩ := Option.ite_none_right_eq_some.mp taken
      exact .idle ‹_› late
    · cases taken
  | takeVote readings =>
    simp only [step] at taken
    split at taken <;> cases taken
    exact .takeVote ‹_› ‹_›
  | takeBlock readings =>
    simp only [step] at taken
    split at taken <;> cases taken
    exact .takeBlock ‹_› ‹_›
  | timed =>
    simp only [step] at taken
    split at taken <;> cases taken
    exact .timed ‹_›
  | published =>
    simp only [step] at taken
    split at taken <;> cases taken
    exact .published ‹_›
  | metric =>
    simp only [step] at taken
    split at taken <;> cases taken
    exact .metric ‹_›
  | aggDone =>
    simp only [step] at taken
    split at taken
    next here =>
      obtain ⟨ended, ⟨⟩⟩ := Option.ite_none_right_eq_some.mp taken
      exact .aggDone (by rw [here]; rfl) (by rw [here]; rfl) ended
    next here =>
      obtain ⟨ended, ⟨⟩⟩ := Option.ite_none_right_eq_some.mp taken
      exact .aggCut here ended
    next here =>
      obtain ⟨ended, ⟨⟩⟩ := Option.ite_none_right_eq_some.mp taken
      exact .aggDone (by rw [here]; rfl) (by rw [here]; rfl) ended
    next => cases taken

end Flow

/-! ## Sessions -/

structure Session where
  link : Link := {}
  flow : Flow

inductive SessionStep where
  | link (step : LinkStep)
  | store (now : Time)
  | flow (step : FlowStep)

namespace Session

/-- The chain before its first session. -/
def fresh (chain : ChainConfig) : Session :=
  { flow := { agg := freshAggregator chain, base := freshAggregator chain } }

def step (config : Config) (session : Session) : SessionStep → Option Session
  | .link next =>
    (session.link.step session.flow.idle next).map fun link => { session with link }
  | .store now =>
    match session.link.main with
    | .storing connection address =>
      some { link := session.link.launch connection, flow := session.flow.launch address now }
    | _ => none
  | .flow next =>
    (session.flow.step config session.link.isDone session.link.wsclient.isSome next).map fun flow =>
      { link := { session.link with cancelled := session.link.cancelled || next.cancels }
        flow := flow }

inductive Moves (config : Config) (session : Session) : SessionStep → Session → Prop
  | link {next : LinkStep} {link : Link} (moves : session.link.Moves session.flow.idle next link) :
      Moves config session (.link next) { session with link }
  | store {connection : Nat} {address : String} {now : Time}
      (here : session.link.main = .storing connection address) :
      Moves config session (.store now)
        { link := session.link.launch connection, flow := session.flow.launch address now }
  | flow {next : FlowStep} {flow : Flow}
      (moves : session.flow.Moves config session.link.isDone session.link.wsclient.isSome next flow) :
      Moves config session (.flow next)
        { link := { session.link with cancelled := session.link.cancelled || next.cancels }
          flow := flow }

theorem moves_of_step {config : Config} {session after : Session} {next : SessionStep}
    (taken : session.step config next = some after) : Moves config session next after := by
  cases next with
  | link next =>
    obtain ⟨link, stepped, rfl⟩ := Option.map_eq_some_iff.mp taken
    exact .link (Link.moves_of_step stepped)
  | store now =>
    simp only [step] at taken
    split at taken <;> cases taken
    exact .store ‹_›
  | flow next =>
    obtain ⟨flow, stepped, rfl⟩ := Option.map_eq_some_iff.mp taken
    exact .flow (Flow.moves_of_step stepped)

end Session

end Seer.Ws
