import Seer.Lib.Machine
import Seer.Node.Selection

/-!
# A call of `newRpc`, step by step

`newRpc` holds `rpcMux` from its start to its return, but other goroutines read and write
the flags of the nodes meanwhile: each read and each write is a critical section of its own.
Here each of them is one step of the call. What a step does to the chain is an effect, which
the process around the call applies. With the chain to itself the call comes out as `newRpc`
does.
-/
namespace Seer.Node

open Seer.Lib

/-- The two monitors of a chain that try endpoints. -/
inductive Monitor where
  | health
  | chain
  deriving DecidableEq

/-- What a call of `Status` returns. -/
inductive Answer where
  | failed (err : String)
  | cancelled
  | status (network : String) (catchingUp : Bool)
  deriving DecidableEq

/-- The answer as `tryURL` meets it. -/
def Answer.probed : Answer → Probed Unit
  | .failed err => .noStatus () err
  | .cancelled => .noStatus () "context canceled"
  | .status network catchingUp => .status () network catchingUp

/-- The endpoint failed, and not because of the cancellation. -/
def Answer.blamed (chainId : String) : Answer → Bool
  | .failed _ => true
  | .cancelled => false
  | .status network catchingUp => decide (network ≠ chainId) || catchingUp

/-- What comes before the call of `Status` in `tryURL`. -/
inductive Opening where
  | unparsable (err : String)
  | unopened (err : String)
  | opened

/-- Where a call of `newRpc` is. -/
inductive RpcCall where
  | surveying (index : Nat) (anyWorking : Bool)
  /-- The loop is about to read the flag of a node. -/
  | looking (index : Nat) (anyWorking : Bool)
  /-- `tryURL` is called for a node. -/
  | opening (index : Nat) (anyWorking : Bool)
  | calling (index : Nat) (anyWorking : Bool)
  | answered (index : Nat) (anyWorking : Bool) (answer : Answer)
  | fallingBack
  /-- The client is set, `noNodes` is to be cleared. -/
  | adopting
  /-- `noNodes` is to be set. -/
  | givingUp
  deriving DecidableEq

inductive RpcStep where
  | survey
  | look
  | open (opening : Opening) (now : Instant)
  | answer (answer : Answer)
  | mark (now : Instant)
  /-- The registry knows no public endpoint, or its answer. -/
  | fallback (found : Option (String × Probed Unit))
  | finish

/-- What a step does to the chain; a mark is `blamed` if the endpoint failed by itself. -/
inductive Effect where
  | nothing
  | markDown (index : Nat) (message : String) (syncing : Bool) (now : Instant) (blamed : Bool)
  | setClient
  | setNoNodes (noNodes : Bool)

section Steps
variable (chain : ChainConfig)

/-- `tryURL` returns for a node. -/
def conclude (url : String) (index : Nat) (anyWorking : Bool) (probed : Probed Unit)
    (blamed : Bool) (now : Instant) : Option RpcCall × Effect :=
  match tryURL chain url probed with
  | .ok _ => (some .adopting, .setClient)
  | .error (message, syncing) =>
    (some (.looking (index + 1) anyWorking), .markDown index message syncing now blamed)

/-- The place after the step, `none` once the call has returned, and what the step does; a
step that the call cannot take now is none. -/
def rpcStep : RpcCall → RpcStep → Option (Option RpcCall × Effect)
  | .surveying index anyWorking, .survey =>
    match chain.nodes[index]? with
    | some node => some (some (.surveying (index + 1) (anyWorking || !node.down)), .nothing)
    | none => some (some (.looking 0 anyWorking), .nothing)
  | .looking index anyWorking, .look =>
    match chain.nodes[index]? with
    | some node =>
      -- `anyWorking` is from before the loop, the flag is read now.
      if anyWorking && node.down then some (some (.looking (index + 1) anyWorking), .nothing)
      else some (some (.opening index anyWorking), .nothing)
    | none => some (some (if chain.publicFallback then .fallingBack else .givingUp), .nothing)
  | .opening index anyWorking, .open opening now =>
    chain.nodes[index]?.map fun node =>
      match opening with
      | .unparsable err => conclude chain node.url index anyWorking (.unparsable err) true now
      | .unopened err => conclude chain node.url index anyWorking (.unopened err) true now
      | .opened => (some (.calling index anyWorking), .nothing)
  | .calling index anyWorking, .answer answer =>
    some (some (.answered index anyWorking answer), .nothing)
  | .answered index anyWorking answer, .mark now =>
    chain.nodes[index]?.map fun node =>
      conclude chain node.url index anyWorking answer.probed (answer.blamed chain.chainId) now
  | .fallingBack, .fallback found =>
    match found.map fun (url, probed) => tryURL chain url probed with
    | some (.ok _) => some (some .adopting, .setClient)
    | _ => some (some .givingUp, .nothing)
  | .adopting, .finish => some (none, .setNoNodes false)
  | .givingUp, .finish => some (none, .setNoNodes true)
  | _, _ => none

end Steps

def Effect.apply (chain : ChainConfig) : Effect → ChainConfig
  | .nothing => chain
  | .markDown index message syncing now _ =>
    { chain with nodes := chain.nodes.modify index (Node.markDown message syncing now) }
  | .setClient => chain
  | .setNoNodes noNodes => { chain with noNodes := noNodes }

def Effect.takesClient : Effect → Bool
  | .setClient => true
  | _ => false

/-! ## What a step can do -/

/-- The steps of a call, each with what is known of the nodes when it is taken. -/
inductive RpcMoves (chain : ChainConfig) : RpcCall → RpcStep → Option RpcCall → Effect → Prop where
  | surveys (index : Nat) (anyWorking later : Bool) :
      RpcMoves chain (.surveying index anyWorking) .survey (some (.surveying (index + 1) later))
        .nothing
  | begins (index : Nat) (anyWorking : Bool) :
      RpcMoves chain (.surveying index anyWorking) .survey (some (.looking 0 anyWorking)) .nothing
  | skips (index : Nat) (anyWorking : Bool) {node : NodeConfig}
      (present : chain.nodes[index]? = some node) (down : node.down = true) :
      RpcMoves chain (.looking index anyWorking) .look (some (.looking (index + 1) anyWorking))
        .nothing
  | tries (index : Nat) (anyWorking : Bool) :
      RpcMoves chain (.looking index anyWorking) .look (some (.opening index anyWorking)) .nothing
  | exhausts (index : Nat) (anyWorking : Bool) (next : RpcCall)
      (absent : chain.nodes[index]? = none) :
      RpcMoves chain (.looking index anyWorking) .look (some next) .nothing
  | opens (index : Nat) (anyWorking : Bool) (now : Instant) :
      RpcMoves chain (.opening index anyWorking) (.open .opened now)
        (some (.calling index anyWorking)) .nothing
  | answers (index : Nat) (anyWorking : Bool) (answer : Answer) :
      RpcMoves chain (.calling index anyWorking) (.answer answer)
        (some (.answered index anyWorking answer)) .nothing
  | connects (call : RpcCall) (step : RpcStep) :
      RpcMoves chain call step (some .adopting) .setClient
  /-- A mark before the call of `Status`. -/
  | marksUnopened (index : Nat) (anyWorking : Bool) (opening : Opening) (message : String)
      (syncing : Bool) (now : Instant) :
      RpcMoves chain (.opening index anyWorking) (.open opening now)
        (some (.looking (index + 1) anyWorking)) (.markDown index message syncing now true)
  | marksAnswered (index : Nat) (anyWorking : Bool) (answer : Answer) (message : String)
      (syncing : Bool) (now : Instant) {blamed : Bool}
      (own : answer = .cancelled ∨ blamed = true) :
      RpcMoves chain (.answered index anyWorking answer) (.mark now)
        (some (.looking (index + 1) anyWorking)) (.markDown index message syncing now blamed)
  | fails (found : Option (String × Probed Unit)) :
      RpcMoves chain .fallingBack (.fallback found) (some .givingUp) .nothing
  | adopts : RpcMoves chain .adopting .finish none (.setNoNodes false)
  | givesUp : RpcMoves chain .givingUp .finish none (.setNoNodes true)

section Cases
variable {chain : ChainConfig} {call : RpcCall} {step : RpcStep} {next : Option RpcCall}
  {effect : Effect}

/-- How a try ends: with the client, or with a mark. -/
theorem conclude_cases {url : String} {index : Nat} {anyWorking : Bool} {probed : Probed Unit}
    {blamed : Bool} {now : Instant}
    (ends : conclude chain url index anyWorking probed blamed now = (next, effect)) :
    (next = some .adopting ∧ effect = .setClient) ∨
      ∃ message syncing, tryURL chain url probed = .error (message, syncing) ∧
        next = some (.looking (index + 1) anyWorking) ∧
        effect = .markDown index message syncing now blamed := by
  unfold conclude at ends
  split at ends
  · cases ends
    exact .inl ⟨rfl, rfl⟩
  next message syncing failed =>
    cases ends
    exact .inr ⟨message, syncing, failed, rfl, rfl⟩

/-- An answer that is neither cancelled nor held against the node is that of a synced node
on the right network. -/
theorem Answer.status_of_not_blamed {chainId : String} {answer : Answer}
    (own : answer ≠ .cancelled) (passed : ¬ answer.blamed chainId = true) :
    answer = .status chainId false := by
  cases answer with
  | failed err => exact absurd rfl passed
  | cancelled => exact absurd rfl own
  | status network catchingUp =>
    simp only [blamed, Bool.or_eq_true, decide_eq_true_eq, not_or, Decidable.not_not,
      Bool.not_eq_true] at passed
    rw [passed.1, passed.2]

/-- A try that fails has failed for a reason of its own, or was cancelled. -/
theorem tryURL_blamed {url : String} {answer : Answer} {failure : String × Bool}
    (own : answer ≠ .cancelled) (failed : tryURL chain url answer.probed = .error failure) :
    answer.blamed chain.chainId = true := by
  by_contra passed
  rw [Answer.status_of_not_blamed own passed] at failed
  simp [Answer.probed, tryURL] at failed

theorem moves_of_open {index : Nat} {anyWorking : Bool} {opening : Opening} {now : Instant}
    (taken : rpcStep chain (.opening index anyWorking) (.open opening now) = some (next, effect)) :
    RpcMoves chain (.opening index anyWorking) (.open opening now) next effect := by
  obtain ⟨node, -, ends⟩ := Option.map_eq_some_iff.mp taken
  have tried : ∀ {probed : Probed Unit},
      conclude chain node.url index anyWorking probed true now = (next, effect) →
      RpcMoves chain (.opening index anyWorking) (.open opening now) next effect := by
    intro probed ends
    rcases conclude_cases ends with ⟨rfl, rfl⟩ | ⟨message, syncing, -, rfl, rfl⟩
    · exact .connects _ _
    · exact .marksUnopened index anyWorking opening message syncing now
  cases opening with
  | unparsable err => exact tried ends
  | unopened err => exact tried ends
  | opened =>
    cases ends
    exact .opens index anyWorking now

theorem moves_of_mark {index : Nat} {anyWorking : Bool} {answer : Answer} {now : Instant}
    (taken : rpcStep chain (.answered index anyWorking answer) (.mark now) = some (next, effect)) :
    RpcMoves chain (.answered index anyWorking answer) (.mark now) next effect := by
  obtain ⟨node, -, ends⟩ := Option.map_eq_some_iff.mp taken
  rcases conclude_cases ends with ⟨rfl, rfl⟩ | ⟨message, syncing, failed, rfl, rfl⟩
  · exact .connects _ _
  · refine .marksAnswered index anyWorking answer message syncing now ?_
    by_cases own : answer = .cancelled
    · exact .inl own
    · exact .inr (tryURL_blamed own failed)

theorem moves_of_look {index : Nat} {anyWorking : Bool}
    (taken : rpcStep chain (.looking index anyWorking) .look = some (next, effect)) :
    RpcMoves chain (.looking index anyWorking) .look next effect := by
  rw [rpcStep] at taken
  split at taken
  next node present =>
    split at taken <;> cases taken
    next skipped => exact .skips index anyWorking present (Bool.and_eq_true_iff.mp skipped).2
    next => exact .tries index anyWorking
  next absent =>
    cases taken
    exact .exhausts index anyWorking _ absent

theorem moves_of_rpcStep (taken : rpcStep chain call step = some (next, effect)) :
    RpcMoves chain call step next effect := by
  cases call with
  | surveying index anyWorking =>
    cases step <;> try cases taken
    rw [rpcStep] at taken
    split at taken <;> cases taken
    · exact .surveys index anyWorking _
    · exact .begins index anyWorking
  | looking index anyWorking =>
    cases step <;> try cases taken
    exact moves_of_look taken
  | opening index anyWorking =>
    cases step <;> try cases taken
    exact moves_of_open taken
  | calling index anyWorking =>
    cases step <;> cases taken
    exact .answers index anyWorking _
  | answered index anyWorking answer =>
    cases step <;> try cases taken
    exact moves_of_mark taken
  | fallingBack =>
    cases step <;> try cases taken
    rw [rpcStep] at taken
    split at taken <;> cases taken
    · exact .connects _ _
    · exact .fails _
  | adopting =>
    cases step <;> cases taken
    exact .adopts
  | givingUp =>
    cases step <;> cases taken
    exact .givesUp

/-- Only a cancelled call of `Status` leads to a mark without blame. -/
theorem rpcStep_blamed {index : Nat} {message : String} {syncing : Bool} {now : Instant}
    {blamed : Bool}
    (taken : rpcStep chain call step = some (next, .markDown index message syncing now blamed)) :
    blamed = true ∨ ∃ anyWorking, call = .answered index anyWorking .cancelled ∧
      step = .mark now := by
  cases moves_of_rpcStep taken with
  | marksUnopened => exact .inl rfl
  | marksAnswered _ anyWorking answer _ _ _ own =>
    rcases own with rfl | own
    · exact .inr ⟨anyWorking, rfl, rfl⟩
    · exact .inl own

/-- The flag is set at the end of a call that gives up. -/
theorem rpcStep_setNoNodes (taken : rpcStep chain call step = some (next, .setNoNodes true)) :
    call = .givingUp := by
  cases moves_of_rpcStep taken
  rfl

end Cases

/-! ## With the chain to itself -/

/-- A chain, whether it has a client, and a call that nothing interferes with. -/
structure Alone where
  chain : ChainConfig
  client : Bool
  call : Option RpcCall

def aloneStep (alone : Alone) (step : RpcStep) : Option Alone :=
  (alone.call.bind (rpcStep alone.chain · step)).map fun (next, effect) =>
    { chain := effect.apply alone.chain
      client := alone.client || effect.takesClient
      call := next }

/-- Some steps lead from the one to the other. -/
def Runs (before after : Alone) : Prop := ∃ steps, Machine.run aloneStep before steps = some after

theorem Runs.refl (alone : Alone) : Runs alone alone := ⟨[], rfl⟩

theorem Runs.step {before after : Alone} (step : RpcStep) (middle : Alone)
    (taken : aloneStep before step = some middle) (later : Runs middle after) : Runs before after := by
  obtain ⟨steps, runs⟩ := later
  exact ⟨step :: steps, Machine.run_cons.mpr ⟨middle, taken, runs⟩⟩

theorem Runs.trans {before middle after : Alone} (first : Runs before middle)
    (later : Runs middle after) : Runs before after := by
  obtain ⟨steps, runs⟩ := first
  obtain ⟨more, ends⟩ := later
  exact ⟨steps ++ more, Machine.run_append.mpr ⟨middle, runs, ends⟩⟩

section Loops
variable {chain : ChainConfig} {client anyWorking : Bool}

/-- A step without an effect. -/
theorem Runs.quiet {call next : RpcCall} {after : Alone} (step : RpcStep)
    (taken : rpcStep chain call step = some (some next, .nothing))
    (later : Runs ⟨chain, client, some next⟩ after) : Runs ⟨chain, client, some call⟩ after :=
  .step step _ (by simp [aloneStep, taken, Effect.apply, Effect.takesClient]) later

/-- The first loop, from any node on. -/
theorem survey_runs (before later : List NodeConfig) (split : chain.nodes = before ++ later) :
    Runs ⟨chain, client, some (.surveying before.length anyWorking)⟩
      ⟨chain, client, some (.looking 0 (anyWorking || later.any (!·.down)))⟩ := by
  induction later generalizing before anyWorking with
  | nil => exact .quiet .survey (by simp [rpcStep, split]) (.refl _)
  | cons node later ih =>
    have rest := @ih (anyWorking || !node.down) (before ++ [node]) (by simp [split])
    rw [List.length_append, List.length_singleton, Bool.or_assoc] at rest
    rw [List.any_cons]
    exact .quiet .survey (by simp [rpcStep, split]) rest

/-- Where the try of a node leads. -/
def afterTry (chain : ChainConfig) (client anyWorking : Bool) (index : Nat) (url : String)
    (trial : Trial Unit) : Alone :=
  match tryURL chain url trial.probed with
  | .ok _ => ⟨chain, true, some .adopting⟩
  | .error (message, syncing) =>
    ⟨{ chain with nodes := chain.nodes.modify index (markDown message syncing trial.now) }, client,
      some (.looking (index + 1) anyWorking)⟩

/-- The last step of a try. -/
theorem conclude_runs {url : String} {index : Nat} {trial : Trial Unit} {place : RpcCall}
    (step : RpcStep) (blamed : Bool)
    (taken : rpcStep chain place step =
      some (conclude chain url index anyWorking trial.probed blamed trial.now)) :
    Runs ⟨chain, client, some place⟩ (afterTry chain client anyWorking index url trial) := by
  refine .step step _ ?_ (.refl _)
  simp only [aloneStep, Option.bind_some, taken, Option.map_some, conclude, afterTry]
  cases tryURL chain url trial.probed <;> simp [Effect.apply, Effect.takesClient]

/-- A try that gets to the call of `Status`. -/
theorem answer_runs {node : NodeConfig} {index : Nat} (listed : chain.nodes[index]? = some node)
    {trial : Trial Unit} (answer : Answer) (same : answer.probed = trial.probed) :
    Runs ⟨chain, client, some (.opening index anyWorking)⟩
      (afterTry chain client anyWorking index node.url trial) := by
  refine .quiet (.open .opened trial.now) (by simp [rpcStep, listed]; rfl) ?_
  refine .quiet (.answer answer) rfl ?_
  exact conclude_runs (.mark trial.now) (answer.blamed chain.chainId) (by simp [rpcStep, listed, same])

theorem try_runs {node : NodeConfig} {index : Nat} (listed : chain.nodes[index]? = some node)
    (trial : Trial Unit) :
    Runs ⟨chain, client, some (.opening index anyWorking)⟩
      (afterTry chain client anyWorking index node.url trial) := by
  cases probed : trial.probed with
  | unparsable err =>
    exact conclude_runs (.open (.unparsable err) trial.now) true (by simp [rpcStep, listed, probed])
  | unopened err =>
    exact conclude_runs (.open (.unopened err) trial.now) true (by simp [rpcStep, listed, probed])
  | noStatus _ err => exact answer_runs listed (.failed err) probed.symm
  | status _ network catchingUp =>
    exact answer_runs listed (.status network catchingUp) probed.symm

/-- Behind the loop: the client is taken, or the last node is past. -/
def afterLoop (chain : ChainConfig) (client anyWorking : Bool) (nodes : List NodeConfig)
    (taken : Option Unit) : Alone :=
  match taken with
  | some _ => ⟨{ chain with nodes := nodes }, true, some .adopting⟩
  | none => ⟨{ chain with nodes := nodes }, client, some (.looking nodes.length anyWorking)⟩

theorem modify_split (before later : List NodeConfig) (node : NodeConfig)
    (change : NodeConfig → NodeConfig) :
    (before ++ node :: later).modify before.length change = before ++ change node :: later := by
  induction before with
  | nil => rfl
  | cons first rest ih => exact congrArg (first :: ·) ih

/-- The second loop, from any node on: those before it have been dealt with. -/
theorem loop_runs (before later : List NodeConfig) (trials : Nat → Trial Unit) :
    Runs ⟨{ chain with nodes := before ++ later }, client, some (.looking before.length anyWorking)⟩
      (afterLoop chain client anyWorking (before ++ (tryNodes chain anyWorking later trials).1)
        (tryNodes chain anyWorking later trials).2) := by
  induction later generalizing before trials with
  | nil => simpa [tryNodes, afterLoop] using Runs.refl _
  | cons node later ih =>
    -- The rest of the loop, once this node is `passed`.
    have rest : ∀ passed, Runs
        ⟨{ chain with nodes := before ++ passed :: later }, client,
          some (.looking (before.length + 1) anyWorking)⟩
        (afterLoop chain client anyWorking
          (before ++ passed :: (tryNodes chain anyWorking later fun index => trials (index + 1)).1)
          (tryNodes chain anyWorking later fun index => trials (index + 1)).2) := by
      intro passed
      simpa using ih (before ++ [passed]) fun index => trials (index + 1)
    have here : (before ++ node :: later)[before.length]? = some node := by simp
    unfold tryNodes
    dsimp only
    split
    next skipped =>
      refine .quiet .look ?_ (rest node)
      simp only [rpcStep, here]
      exact if_pos skipped
    next tries =>
      refine .quiet .look (by simp only [rpcStep, here]; exact if_neg tries) ?_
      refine (try_runs here (trials 0)).trans ?_
      have same : tryURL { chain with nodes := before ++ node :: later } node.url (trials 0).probed =
          tryURL chain node.url (trials 0).probed := by
        cases (trials 0).probed <;> rfl
      rw [afterTry, same]
      cases tryURL chain node.url (trials 0).probed with
      | error failure =>
        dsimp only
        rw [modify_split]
        exact rest (markDown failure.1 failure.2 (trials 0).now node)
      | ok client => exact .refl _

/-- The two ends of a call. -/
theorem adopting_runs : Runs ⟨chain, client, some .adopting⟩ ⟨{ chain with noNodes := false }, client, none⟩ :=
  .step .finish _ (by simp [aloneStep, rpcStep, Effect.apply, Effect.takesClient]) (.refl _)

theorem givingUp_runs : Runs ⟨chain, client, some .givingUp⟩ ⟨{ chain with noNodes := true }, client, none⟩ :=
  .step .finish _ (by simp [aloneStep, rpcStep, Effect.apply, Effect.takesClient]) (.refl _)

/-- The public endpoint is taken if there is one and it passes. -/
theorem fallback_runs (fallback : Option (String × Probed Unit)) {taken : Option Unit}
    (result : (fallback.bind fun (url, probed) => (tryURL chain url probed).toOption) = taken) :
    Runs ⟨chain, client, some .fallingBack⟩
      ⟨{ chain with noNodes := taken.isNone }, client || taken.isSome, none⟩ := by
  cases taken with
  | none =>
    rw [Option.isSome_none, Bool.or_false]
    refine .quiet (.fallback fallback) ?_ givingUp_runs
    cases fallback with
    | none => rfl
    | some pair =>
      cases failed : tryURL chain pair.1 pair.2 with
      | error failure => simp [rpcStep, failed]
      | ok found => simp [failed, Except.toOption] at result
  | some found =>
    rw [Option.isSome_some, Bool.or_true]
    obtain ⟨pair, rfl, passed⟩ := Option.bind_eq_some_iff.mp result
    refine .step (.fallback (some pair)) ⟨chain, true, some .adopting⟩ ?_ adopting_runs
    cases passes : tryURL chain pair.1 pair.2 with
    | error failure => simp [passes, Except.toOption] at passed
    | ok _ => simp [aloneStep, rpcStep, passes, Effect.apply, Effect.takesClient]

end Loops

/-- With the chain to itself, a call has steps that leave what `newRpc` leaves. -/
theorem newRpc_runs (config : Config) (rpc : Rpc Unit) (trials : Nat → Trial Unit)
    (fallback : Option (String × Probed Unit)) :
    let after := (newRpc config rpc trials fallback).1
    Runs ⟨rpc.chain, rpc.client.isSome, some (.surveying 0 false)⟩
      ⟨after.chain, after.client.isSome, none⟩ := by
  intro after
  have surveyed := @survey_runs rpc.chain rpc.client.isSome false [] rpc.chain.nodes rfl
  rw [Bool.false_or] at surveyed
  refine surveyed.trans ((loop_runs [] rpc.chain.nodes trials).trans ?_)
  rw [List.nil_append]
  change Runs (afterLoop _ _ _ (triedNodes rpc trials).1 (triedNodes rpc trials).2) _
  cases taken : (triedNodes rpc trials).2 with
  | some client =>
    simp only [after, newRpc_some config rpc trials fallback taken]
    exact adopting_runs
  | none =>
    cases switch : rpc.chain.publicFallback with
    | false =>
      simp only [after, newRpc_none config rpc trials fallback switch taken]
      exact .quiet .look (by simp [rpcStep, switch]) givingUp_runs
    | true =>
      refine .quiet .look (by simp [rpcStep, switch]) ((fallback_runs fallback rfl).trans ?_)
      unfold triedNodes at taken ⊢
      simp only [after, newRpc, taken, switch]
      cases fallback with
      | none => simpa [Rpc.giveUp] using Runs.refl _
      | some pair =>
        rw [Option.bind_some]
        split
        next found passed => simpa [passed, Rpc.use] using Runs.refl _
        next failed => simpa [failed, Rpc.giveUp] using Runs.refl _

end Seer.Node
