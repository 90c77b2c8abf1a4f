import Seer.Ws.Session

/-!
# How websocket sessions end

Connections are numbered in the order they are dialled. At any time those that were closed
and the one that may still be open are all of them, each once: so no connection is closed
twice, none is lost between dialling and storing, and none is open when `WsRun` has
returned. Once the context has ended a session can always go on, and every step brings it
closer to its end, but for messages that arrive before the connection is closed.
-/
namespace Seer.Ws

open Seer.Lib

namespace Main

/-- Where the chain may hold an open connection. -/
def connected : Main → Bool
  | .subscribing _ => true
  | .watching => true
  | .cancelling => true
  | .closing => true
  | _ => false

/-- Where goroutines of the session may be left. -/
def spawned (main : Main) : Bool := main.connected || main = .joining

/-- A connection that is dialled and not stored yet. -/
def unstored : Main → Option Nat
  | .storing connection _ => some connection
  | _ => none

theorem Goes.unstored {main next : Main} (goes : main.Goes next) :
    main.unstored = none ∧ next.unstored = none := by
  cases goes <;> exact ⟨rfl, rfl⟩

theorem Goes.connected {main next : Main} (goes : main.Goes next)
    (connected : main.connected = true) : next.connected = true := by
  cases goes <;> first | rfl | cases connected

theorem spawned_of_connected {main : Main} (connected : main.connected = true) :
    main.spawned = true := by
  simp [spawned, connected]

theorem unstored_of_connected {main : Main} (connected : main.connected = true) :
    main.unstored = none := by
  cases main <;> first | rfl | cases connected

theorem Goes.spawned {main next : Main} (goes : main.Goes next) (spawned : main.spawned = true) :
    next.spawned = true := by
  cases goes <;> first | rfl | cases spawned

end Main

/-! ## Connections are closed once -/

namespace Link

structure Sound (link : Link) : Prop where
  accounted : link.closed ++ link.wsclient.toList ++ link.main.unstored.toList =
    List.range link.dialed
  owned : link.wsclient.isSome = true → link.main.connected = true ∧ link.closer = true
  spawned : link.closer = true → link.main.spawned = true

section Steps
variable {link after : Link} {idle : Bool}

theorem Sound.wsclient_none (sound : link.Sound) (elsewhere : link.main.connected = false) :
    link.wsclient = none := by
  apply Option.not_isSome_iff_eq_none.mp
  intro held
  exact Bool.eq_false_iff.mp elsewhere (sound.owned held).1

theorem Sound.closer_false (sound : link.Sound) (elsewhere : link.main.spawned = false) :
    link.closer = false := by
  rw [Bool.eq_false_iff]
  intro running
  exact Bool.eq_false_iff.mp elsewhere (sound.spawned running)

/-- All connections are closed, or all but the newest while `WsRun` is inside. -/
theorem Sound.closed_eq (sound : link.Sound) :
    link.closed = List.range link.dialed ∨
      (∃ before, link.dialed = before + 1 ∧ link.closed = List.range before ∧ link.main ≠ .outside) := by
  -- With one connection left the numbers end in it.
  have newest : ∀ connection, link.closed ++ [connection] = List.range link.dialed →
      ∃ before, link.dialed = before + 1 ∧ link.closed = List.range before := by
    intro connection all
    cases dialed : link.dialed with
    | zero => simp [dialed] at all
    | succ before =>
      rw [dialed, List.range_succ] at all
      exact ⟨before, rfl, (List.append_inj' all rfl).1⟩
  have all := sound.accounted
  cases held : link.wsclient with
  | some connection =>
    have connected := (sound.owned (by simp [held])).1
    rw [held, Main.unstored_of_connected connected] at all
    obtain ⟨before, dialed, closed⟩ := newest connection (by simpa using all)
    exact .inr ⟨before, dialed, closed, fun outside => by simp [outside, Main.connected] at connected⟩
  | none =>
    cases here : link.main with
    | storing connection address =>
      rw [held, here] at all
      obtain ⟨before, dialed, closed⟩ := newest connection (by simpa [Main.unstored] using all)
      exact .inr ⟨before, dialed, closed, nofun⟩
    | _ => exact .inl (by simpa [held, here, Main.unstored] using all)

theorem Sound.moves (sound : link.Sound) {next : LinkStep} (moves : link.Moves idle next after) : after.Sound := by
  cases moves with
  | parent => exact ⟨sound.accounted, sound.owned, sound.spawned⟩
  | start here =>
    have closed := sound.wsclient_none (by rw [here]; rfl)
    have alone := sound.closer_false (by rw [here]; rfl)
    refine ⟨?_, by simp [closed], by simp [alone]⟩
    have all := sound.accounted
    rw [here] at all
    exact all
  | main goes _ =>
    refine ⟨?_, fun held => ?_, fun running => goes.spawned (sound.spawned running)⟩
    · obtain ⟨before, behind⟩ := goes.unstored
      simpa [before, behind] using sound.accounted
    · obtain ⟨connected, running⟩ := sound.owned held
      exact ⟨goes.connected connected, running⟩
  | dialed here =>
    have closed := sound.wsclient_none (by rw [here]; rfl)
    have alone := sound.closer_false (by rw [here]; rfl)
    refine ⟨?_, by simp [closed], by simp [alone]⟩
    have all := sound.accounted
    simp only [here, Main.unstored, closed, Option.toList_none, List.append_nil] at all
    simp [Main.unstored, closed, all, List.range_succ]
  | closeAll => exact ⟨by simpa [closeWebSocket] using sound.accounted, by simp [closeWebSocket],
      sound.spawned⟩
  | close here =>
    refine ⟨?_, by simp [closeWebSocket], fun _ => rfl⟩
    simpa [closeWebSocket, here, Main.unstored] using sound.accounted
  | join here alone =>
    have closed := sound.wsclient_none (by rw [here]; rfl)
    refine ⟨?_, by simp [closed], by simp [alone]⟩
    simpa [here, Main.unstored] using sound.accounted
  | closer =>
    exact ⟨by simpa [closeWebSocket] using sound.accounted, by simp [closeWebSocket], by simp⟩

end Steps

end Link

namespace Flow

/-- Without a goroutine only the peer can do something. -/
theorem Moves.running {config : Config} {done connected : Bool} {flow after : Flow}
    {next : FlowStep} (moves : flow.Moves config done connected next after) :
    connected = true ∨ flow.idle = false := by
  cases moves with
  | arrive _ here => exact .inl here
  | read reading | readFail reading => exact .inr (by simp [Flow.idle, reading, Reader.isEnded])
  | handBlock holding | handVote holding | dropHeld holding =>
    exact .inr (by simp [Flow.idle, holding, Reader.isEnded])
  | votesDone running | blocksDone running => exact .inr (by simp [Flow.idle, running])
  | idle receiving => exact .inr (by simp [Flow.idle, receiving, Handler.isEnded])
  | takeVote ready | takeBlock ready => exact .inr (by simp [Flow.idle, ready, Worker.isEnded])
  | timed here | published here | metric here | aggCut here =>
    exact .inr (by simp [Flow.idle, here, Worker.isEnded])
  | aggDone running => exact .inr (by simp [Flow.idle, running])

end Flow

namespace Link

/-- Only `workers.Wait` leaves the part of `WsRun` where goroutines run. -/
theorem Moves.spawned {idle : Bool} {link after : Link} {next : LinkStep}
    (moves : link.Moves idle next after) (left : after.main.spawned = false) :
    link.main.spawned = false ∨ idle = true := by
  cases moves with
  | parent | closeAll | closer => exact .inl left
  | start here | dialed here => exact .inl (by rw [here]; rfl)
  | main goes =>
    refine .inl (Bool.eq_false_iff.mpr fun spawned => ?_)
    exact Bool.eq_false_iff.mp left (goes.spawned spawned)
  | close => cases left
  | join _ _ rest => exact .inr rest

end Link

namespace Session

/-- A session that has returned, or has no goroutines yet, leaves none behind. -/
structure Sound (session : Session) : Prop where
  link : session.link.Sound
  quiet : session.link.main.spawned = false → session.flow.idle = true

variable {config : Config} {session after : Session}

theorem Sound.step (sound : session.Sound) {next : SessionStep}
    (taken : session.step config next = some after) : after.Sound := by
  cases moves_of_step taken with
  | link moves =>
    refine ⟨sound.link.moves moves, fun left => ?_⟩
    exact (moves.spawned left).elim sound.quiet id
  | @store connection address now here =>
    have closed := sound.link.wsclient_none (by rw [here]; rfl)
    refine ⟨⟨?_, fun _ => ⟨rfl, rfl⟩, fun _ => rfl⟩, nofun⟩
    have all := sound.link.accounted
    rw [here, closed] at all
    simpa [Link.launch, Main.unstored] using all
  | flow moves =>
    refine ⟨⟨sound.link.accounted, sound.link.owned, sound.link.spawned⟩, fun left => ?_⟩
    rcases moves.running with connected | running
    · have spawned := Main.spawned_of_connected (sound.link.owned connected).1
      exact absurd spawned (Bool.eq_false_iff.mp left)
    · exact absurd (sound.quiet left) (Bool.eq_false_iff.mp running)

theorem Sound.fresh (chain : ChainConfig) : (fresh chain).Sound :=
  ⟨⟨rfl, nofun, nofun⟩, fun _ => rfl⟩

theorem Sound.run {chain : ChainConfig} {steps : List SessionStep}
    (runs : Machine.run (Session.step config) (Session.fresh chain) steps = some session) :
    session.Sound :=
  Machine.run_invariant (fun _ _ _ sound _ taken => sound.step taken) runs
    (fun _ _ => trivial) (.fresh chain)

/-- Over any run of sessions every connection is closed at most once and only the newest can
be open. When `WsRun` has returned none is open, and no goroutine of it is left. -/
theorem connection_closed_once {chain : ChainConfig} {steps : List SessionStep}
    (runs : Machine.run (Session.step config) (Session.fresh chain) steps = some session) :
    session.link.closed.Nodup ∧ (∀ connection ∈ session.link.closed, connection < session.link.dialed) ∧
      (∀ connection < session.link.dialed, connection ∉ session.link.closed →
        connection + 1 = session.link.dialed ∧ session.link.main ≠ .outside) ∧
      (session.link.main = .outside → session.link.wsclient = none ∧ session.link.closer = false ∧
        session.flow.idle = true) := by
  have sound := Sound.run runs
  refine ⟨?_, ?_, ?_, fun outside => ?_⟩
  · rcases sound.link.closed_eq with closed | ⟨before, -, closed, -⟩ <;> rw [closed] <;>
      exact List.nodup_range
  · rcases sound.link.closed_eq with closed | ⟨before, dialed, closed, -⟩ <;> rw [closed] <;>
      intro connection member <;> have := List.mem_range.mp member <;> omega
  · intro connection dialed unclosed
    rcases sound.link.closed_eq with closed | ⟨before, last, closed, inside⟩
    · exact absurd (closed ▸ List.mem_range.mpr dialed) unclosed
    · rw [closed, List.mem_range] at unclosed
      exact ⟨by omega, inside⟩
  · have quiet : session.link.main.spawned = false := by rw [outside]; rfl
    exact ⟨sound.link.wsclient_none (by rw [outside]; rfl), sound.link.closer_false quiet,
      sound.quiet quiet⟩

/-- A session whose client quits, and one that the shutdown ends while it subscribes. -/
def twoSessions : List SessionStep :=
  [.link .start, .link (.ready "AA"), .link (.dial true), .store 0, .link (.subscribe true),
    .link (.subscribe true), .link .quit, .link .cancel, .link .closer, .flow .readFail,
    .flow .votesDone, .flow .blocksDone, .flow .aggDone, .link .close, .link .join,
    .link .start, .link (.ready "AA"), .link (.dial true), .store 0, .link .cancelParent,
    .link .closeAll, .link (.subscribe false), .flow .readFail]

theorem connection_closed_once_twoSessions :
    ∃ session, Machine.run (Session.step {}) (Session.fresh {}) twoSessions = some session ∧
      session.link.dialed = 2 ∧ session.link.main = .cancelling ∧ session.link.closed = [0, 1] ∧
      session.link.closed.Nodup := by
  have runs : Machine.run (Session.step {}) (Session.fresh {}) twoSessions = some _ := rfl
  exact ⟨_, runs, rfl, rfl, rfl, (connection_closed_once runs).1⟩

/-! ## A cancelled session comes to its end -/

end Session

/-- How far a place is from the end; a goroutine's start counts for its whole way. -/
def Main.work : Main → Nat
  | .outside => 0
  | .joining => 1
  | .closing => 2
  | .cancelling => 3
  | .watching => 4
  | .subscribing left => 5 + left
  | .storing _ _ => 20
  | .dialing _ => 21
  | .waiting => 22

def Link.work (link : Link) : Nat :=
  link.main.work + link.closer.toNat + link.wsclient.toList.length + (!link.parentDone).toNat

def Reader.work : Reader → Nat
  | .ended _ => 0
  | .reading => 1
  | .holding _ => 15

@[simp] theorem Reader.work_ended (unsent : Option Message) : (ended unsent).work = 0 := rfl
@[simp] theorem Reader.work_reading : reading.work = 1 := rfl
@[simp] theorem Reader.work_holding (message : Message) : (holding message).work = 15 := rfl

theorem Reader.work_given (message : Message) : (given message).work ≤ 15 := by
  cases message <;> simp [given]

def Handler.work : Handler → Nat
  | .ended _ => 0
  | .receiving => 1
  | .sending _ => 13

@[simp] theorem Handler.work_ended (unsent : Option StatusUpdate) : (ended unsent).work = 0 := rfl
@[simp] theorem Handler.work_receiving : receiving.work = 1 := rfl
@[simp] theorem Handler.work_sending (update : StatusUpdate) : (sending update).work = 13 := rfl

theorem Handler.work_given (update : Option StatusUpdate) : (given update).work ≤ 13 := by
  cases update <;> simp [given]

theorem Handler.work_pos {handler : Handler} (running : handler.isEnded = false) :
    0 < handler.work := by
  cases handler with
  | ended => cases running
  | receiving | sending => simp

def Worker.work : Worker → Nat
  | .ended _ => 0
  | .receiving => 1
  | .timing _ => 11
  | .publishing status metrics => 2 + status.toNat + metrics

@[simp] theorem Worker.work_ended (unrecorded : Option Round) : (ended unrecorded).work = 0 := rfl
@[simp] theorem Worker.work_receiving : receiving.work = 1 := rfl
@[simp] theorem Worker.work_timing (round : Round) : (timing round).work = 11 := rfl

@[simp]
theorem Worker.work_publishing (status : Bool) (metrics : Nat) :
    (publishing status metrics).work = 2 + status.toNat + metrics := rfl

theorem Worker.work_pos {worker : Worker} (running : worker.isEnded = false) : 0 < worker.work := by
  cases worker with
  | ended => cases running
  | receiving | timing => simp
  | publishing =>
    rw [Worker.work_publishing]
    omega

theorem Worker.work_after (status : Bool) (metrics : Nat) :
    (after status metrics).work ≤ 2 + status.toNat + metrics := by
  unfold after
  split
  · simp
    omega
  · simp

theorem Worker.work_recorded (config : Config) : (recorded config).work ≤ 10 := by
  have one := Bool.toNat_le config.enableDash
  have seven : (if config.prom = true then 7 else 0) ≤ 7 := by split <;> omega
  calc (recorded config).work
      ≤ 2 + config.enableDash.toNat + (if config.prom = true then 7 else 0) := work_after _ _
    _ ≤ 10 := by omega

def Flow.work (flow : Flow) : Nat :=
  16 * flow.inbox.length + flow.reader.work + flow.votes.work + flow.blocks.work + flow.worker.work

theorem Main.Goes.work {main next : Main} (goes : main.Goes next) : next.work < main.work := by
  cases goes <;> simp only [Main.work] <;> omega

theorem Link.Moves.work {idle : Bool} {link after : Link} {next : LinkStep}
    (moves : link.Moves idle next after) (same : next ≠ .start) : after.work < link.work := by
  cases moves with
  | parent waiting => simp [Link.work, waiting]
  | start => contradiction
  | main goes =>
    have lower := goes.work
    simp only [Link.work]
    omega
  | dialed here => simp [Link.work, here, Main.work]
  | closeAll held =>
    obtain ⟨connection, held⟩ := Option.isSome_iff_exists.mp held
    simp [Link.work, Link.closeWebSocket, held]
  | close here =>
    simp only [Link.work, Link.closeWebSocket, here, Main.work, Option.toList_none, List.length_nil]
    omega
  | join here => simp [Link.work, here, Main.work]
  | closer running =>
    simp only [Link.work, Link.closeWebSocket, running, Option.toList_none, List.length_nil,
      Bool.toNat_true, Bool.toNat_false]
    omega

/-- The aggregator has less to do for an update than it was worth to the handler. -/
theorem Flow.work_take (config : Config) (flow : Flow) (round : Round) :
    (flow.take config round).work + flow.worker.work ≤ flow.work + 11 := by
  have recorded := Worker.work_recorded config
  unfold Flow.take
  simp only
  split
  · simp only [Flow.work, Flow.settle, Worker.work_receiving]
    omega
  · split
    · simp only [Flow.work, Worker.work_timing]
      omega
    · simp only [Flow.work, Flow.settle]
      omega

def FlowStep.arrives : FlowStep → Bool
  | .arrive _ => true
  | _ => false

/-- A message that arrives pays for its whole way to the aggregator. -/
theorem Flow.Moves.work {config : Config} {done connected : Bool} {flow after : Flow}
    {next : FlowStep} (moves : flow.Moves config done connected next after) :
    after.work + 1 ≤ flow.work + if next.arrives then 17 else 0 := by
  cases moves with
  | arrive =>
    simp only [Flow.work, List.length_append, List.length_singleton, FlowStep.arrives, if_true]
    omega
  | @read message later reading inbox =>
    have given := Reader.work_given message
    simp only [Flow.work, reading, inbox, Reader.work_reading, List.length_cons]
    omega
  | readFail reading =>
    simp only [Flow.work, reading, Reader.work_reading, Reader.work_ended]
    omega
  | @handBlock event _ holding receiving =>
    have given := Handler.work_given (Message.blockUpdate flow.address (.block event))
    simp only [Flow.work, holding, receiving, Reader.work_holding, Reader.work_reading,
      Handler.work_receiving]
    omega
  | @handVote event _ holding receiving =>
    have given := Handler.work_given (Message.voteUpdate flow.address (.vote event))
    simp only [Flow.work, holding, receiving, Reader.work_holding, Reader.work_reading,
      Handler.work_receiving]
    omega
  | dropHeld holding =>
    simp only [Flow.work, holding, Reader.work_holding, Reader.work_ended]
    omega
  | votesDone running | blocksDone running =>
    have positive := Handler.work_pos running
    simp only [Flow.work, Handler.work_ended]
    omega
  | idle receiving =>
    simp only [Flow.work, receiving, Handler.work_receiving, Handler.work_ended]
    omega
  | @takeVote update readings ready sending =>
    have taken := Flow.work_take config { flow with votes := .receiving } { update, readings }
    simp only [Flow.work, ready, sending, Worker.work_receiving, Handler.work_receiving,
      Handler.work_sending] at taken ⊢
    omega
  | @takeBlock update readings ready sending =>
    have taken := Flow.work_take config { flow with blocks := .receiving } { update, readings }
    simp only [Flow.work, ready, sending, Worker.work_receiving, Handler.work_receiving,
      Handler.work_sending] at taken ⊢
    omega
  | timed timing =>
    have recorded := Worker.work_recorded config
    simp only [Flow.work, Flow.settle, timing, Worker.work_timing]
    omega
  | @published metrics here =>
    have left := Worker.work_after false metrics
    simp only [Flow.work, here, Worker.work_publishing, Bool.toNat_true, Bool.toNat_false] at left ⊢
    omega
  | @metric metrics here =>
    have left := Worker.work_after false metrics
    simp only [Flow.work, here, Worker.work_publishing, Bool.toNat_false] at left ⊢
    omega
  | aggCut timing =>
    simp only [Flow.work, timing, Worker.work_timing, Worker.work_ended]
    omega
  | aggDone running =>
    have positive := Worker.work_pos running
    simp only [Flow.work, Worker.work_ended]
    omega

namespace Session

def work (session : Session) : Nat := session.link.work + session.flow.work

/-- The steps that need nobody outside the session once its context has ended. A read or a
write returns when the connection is closed, a dial when the context ends, and the
dashboard's loop takes what is sent to it. -/
def Own (session : Session) : SessionStep → Prop
  | .link .giveUp | .link (.dial false) | .link .wake | .link .cancel | .link .close | .link .join
  | .link .closer | .store _ => True
  | .link (.subscribe false) => session.link.wsclient = none
  | .flow .readFail => session.link.wsclient = none
  | .flow .dropHeld | .flow .votesDone | .flow .blocksDone | .flow .aggDone
  | .flow .published => True
  | _ => False

def CanMove (config : Config) (session : Session) : Prop :=
  ∃ next, session.Own next ∧ (session.step config next).isSome = true

variable {config : Config} {session after : Session}

/-- The peer sends a message. -/
def arrives : SessionStep → Bool
  | .flow next => next.arrives
  | _ => false

theorem work_step {next : SessionStep} (taken : session.step config next = some after)
    (same : next ≠ .link .start) :
    after.work + 1 ≤ session.work + if arrives next then 17 else 0 := by
  cases moves_of_step taken with
  | link moves =>
    have lower := moves.work (fun start => same (by rw [start]))
    simp only [work]
    omega
  | store here =>
    simp [work, Link.work, Link.launch, Flow.work, Flow.launch, here, Main.work]
    omega
  | @flow next flow moves =>
    have lower : flow.work + 1 ≤ session.flow.work + if arrives (.flow next) then 17 else 0 :=
      moves.work
    simp only [work, Link.work]
    omega

/-- The context stays at its end until the next session. -/
theorem isDone_step {next : SessionStep} (taken : session.step config next = some after)
    (same : next ≠ .link .start) (done : session.link.isDone = true) :
    after.link.isDone = true := by
  cases moves_of_step taken with
  | store => exact done
  | flow =>
    simp only [Link.isDone, Bool.or_eq_true] at done ⊢
    tauto
  | link moves =>
    cases moves with
    | start => contradiction
    | parent => rfl
    | main _ more =>
      simp only [Link.isDone, Bool.or_eq_true] at done ⊢
      exact done.imp_right more
    | dialed | closeAll | close | join | closer => exact done

end Session

/-- A goroutine of the flow that is left can go on when the context has ended and the
connection is closed. -/
theorem Flow.canEnd (config : Config) (connected : Bool) {flow : Flow} (running : flow.idle = false) :
    ∃ next ∈ [FlowStep.readFail, .dropHeld, .votesDone, .blocksDone, .published, .aggDone],
      (flow.step config true connected next).isSome = true := by
  simp only [Flow.idle, Bool.and_eq_false_iff, or_assoc] at running
  rcases running with reader | votes | blocks | worker
  · cases here : flow.reader with
    | ended => simp [here, Reader.isEnded] at reader
    | reading => exact ⟨.readFail, by simp, by simp [Flow.step, here]⟩
    | holding message => exact ⟨.dropHeld, by simp, by simp [Flow.step, here]⟩
  · exact ⟨.votesDone, by simp, by simp [Flow.step, votes]⟩
  · exact ⟨.blocksDone, by simp, by simp [Flow.step, blocks]⟩
  · cases here : flow.worker with
    | ended => simp [here, Worker.isEnded] at worker
    | receiving => exact ⟨.aggDone, by simp, by simp [Flow.step, here]⟩
    | timing round => exact ⟨.aggDone, by simp, by simp [Flow.step, here]⟩
    | publishing status metrics =>
      cases status with
      | true => exact ⟨.published, by simp, by simp [Flow.step, here]⟩
      | false => exact ⟨.aggDone, by simp, by simp [Flow.step, here]⟩

namespace Session

variable {config : Config} {session after : Session}

theorem CanMove.link (next : LinkStep) (own : session.Own (.link next))
    (enabled : (session.link.step session.flow.idle next).isSome = true) : CanMove config session :=
  ⟨.link next, own, by simpa [Session.step] using enabled⟩

theorem Sound.canMove (sound : session.Sound) (done : session.link.isDone = true)
    (inside : session.link.main ≠ .outside) : CanMove config session := by
  cases here : session.link.main with
  | outside => contradiction
  | waiting => exact .link .giveUp trivial (by simp [Link.step, here, done])
  | dialing address => exact .link (.dial false) trivial (by simp [Link.step, here])
  | storing connection address => exact ⟨.store 0, trivial, by simp [Session.step, here]⟩
  | subscribing left =>
    cases held : session.link.wsclient with
    | none => exact .link (.subscribe false) held (by simp [Link.step, here])
    | some connection =>
      have running := (sound.link.owned (by simp [held])).2
      exact .link .closer trivial (by simp [Link.step, running, done])
  | watching => exact .link .wake trivial (by simp [Link.step, here, done])
  | cancelling => exact .link .cancel trivial (by simp [Link.step, here])
  | closing => exact .link .close trivial (by simp [Link.step, here])
  | joining =>
    have closed := sound.link.wsclient_none (by rw [here]; rfl)
    cases running : session.link.closer with
    | true => exact .link .closer trivial (by simp [Link.step, running, done])
    | false =>
      cases quiet : session.flow.idle with
      | true => exact .link .join trivial (by simp [Link.step, here, running, quiet])
      | false =>
        obtain ⟨next, listed, enabled⟩ := Flow.canEnd config session.link.wsclient.isSome quiet
        refine ⟨.flow next, ?_, by simpa [Session.step, done] using enabled⟩
        simp only [List.mem_cons, List.not_mem_nil, or_false] at listed
        rcases listed with rfl | rfl | rfl | rfl | rfl | rfl <;> first | exact closed | trivial

/-- After its context has ended a session takes a bounded number of steps, messages that
still arrive apart, and wherever it stands it has returned or can go on by itself. -/
theorem cancelled_session_returns {chain : ChainConfig} {earlier steps : List SessionStep}
    {session last : Session}
    (before : Machine.run (Session.step config) (Session.fresh chain) earlier = some session)
    (done : session.link.isDone = true)
    (runs : Machine.run (Session.step config) session steps = some last)
    (same : .link .start ∉ steps) :
    steps.length + last.work ≤ session.work + 17 * steps.countP arrives ∧
      (last.link.main = .outside ∨ CanMove config last) := by
  have only : ∀ next ∈ steps, next ≠ .link .start := fun next member start => same (start ▸ member)
  have sound := Sound.run (Machine.run_append.mpr ⟨session, before, runs⟩)
  refine ⟨Machine.run_bounded work arrives 17 (fun _ _ _ _ _ _ => trivial)
    (fun _ _ _ _ other taken => work_step taken other) runs only trivial, ?_⟩
  have ended : last.link.isDone = true := Machine.run_invariant
    (fun _ next _ done (other : next ≠ .link .start) taken => isDone_step taken other done) runs only
    done
  by_cases outside : last.link.main = .outside
  · exact .inl outside
  · exact .inr (sound.canMove ended outside)

/-- A session whose context ends right after it stored its connection. -/
def cancelledEarly : Session :=
  (Machine.run (Session.step {}) (Session.fresh {}) (twoSessions.take 20)).getD (.fresh {})

theorem cancelled_session_returns_early :
    cancelledEarly.work = 12 ∧ ∃ last,
      Machine.run (Session.step {}) cancelledEarly (twoSessions.drop 20) = some last ∧
      CanMove {} last := by
  have before :
      Machine.run (Session.step {}) (Session.fresh {}) (twoSessions.take 20) = some cancelledEarly := rfl
  have runs : Machine.run (Session.step {}) cancelledEarly (twoSessions.drop 20) = some _ := rfl
  have returns := cancelled_session_returns before rfl runs (by simp [twoSessions])
  exact ⟨rfl, _, runs, returns.2.resolve_left nofun⟩

end Session

end Seer.Ws
