import Seer.Alert.Cache
import Seer.Node.Health

/-!
# Endpoint selection

`newRpc` tries the configured endpoints in order and takes the first that can be used.
Whether any node is up is found out before the loop, the flags it is read from are written
inside it. What the endpoints answer is an input, and so are the clients: their type is a
parameter.
-/
namespace Seer.Node

/-- What trying an endpoint meets, error texts included. -/
inductive Probed (γ : Type) where
  | unparsable (err : String)
  | unopened (err : String)
  | noStatus (client : γ) (err : String)
  | status (client : γ) (network : String) (catchingUp : Bool)

/-- A try, and the clock if the node is then marked down. -/
structure Trial (γ : Type) where
  probed : Probed γ
  now : Instant

/-- The part of a chain that `newRpc` works on. -/
structure Rpc (γ : Type) where
  chain : ChainConfig
  client : Option γ := none
  activeAlerts : Nat := 0
  lastError : String := ""

section Selection
variable {γ : Type}

/-- A client, or the message of the failure and whether the node is catching up. -/
def tryURL (chain : ChainConfig) (url : String) : Probed γ → Except (String × Bool) γ
  | .unparsable err =>
    .error ("❌ could not parse url " ++ chain.name ++ ": (" ++ url ++ ") " ++ err, false)
  | .unopened err =>
    .error ("❌ could not connect client for " ++ chain.name ++ ": (" ++ url ++ ") " ++ err, false)
  | .noStatus _ err =>
    .error ("❌ could not get status for " ++ chain.name ++ ": (" ++ url ++ ") " ++ err, false)
  | .status client network catchingUp =>
    if network ≠ chain.chainId then
      .error ("chain id " ++ network ++ " on " ++ url ++ " does not match, expected " ++
        chain.chainId ++ ", skipping", false)
    else if catchingUp then .error ("🐢 node is not synced, skipping " ++ url, true)
    else .ok client

/-- The loop over the nodes: their state afterwards, and the client that was taken. -/
def tryNodes (chain : ChainConfig) (anyWorking : Bool) :
    List NodeConfig → (Nat → Trial γ) → List NodeConfig × Option γ
  | [], _ => ([], none)
  | node :: later, trials =>
    let rest := tryNodes chain anyWorking later fun index => trials (index + 1)
    if anyWorking && node.down then (node :: rest.1, rest.2)
    else match tryURL chain node.url (trials 0).probed with
      | .error (message, syncing) =>
        (markDown message syncing (trials 0).now node :: rest.1, rest.2)
      | .ok client => (node :: later, some client)

/-- The status that `newRpc` publishes when it gives up. -/
def unusableStatus (rpc : Rpc γ) : ChainStatus :=
  let valInfo := rpc.chain.monitoring.valInfo.getD {}
  { name := rpc.chain.name
    chainId := rpc.chain.chainId
    moniker := valInfo.moniker
    bonded := valInfo.bonded
    jailed := valInfo.jailed
    tombstoned := valInfo.tombstoned
    missed := valInfo.missed
    window := valInfo.window
    nodes := rpc.chain.nodes.length
    healthyNodes := 0
    activeAlerts := rpc.activeAlerts
    height := 0
    lastError := rpc.lastError
    blocks := rpc.chain.blocksResults }

def unusableError (chain : ChainConfig) : GoError :=
  .text ("no usable endpoints available for " ++ chain.chainId)

/-- `cc.setRPCClient(client)` and `cc.setNoNodes(false)`. -/
def Rpc.use (rpc : Rpc γ) (client : γ) : Rpc γ :=
  { rpc with client := some client, chain := { rpc.chain with noNodes := false } }

/-- What follows when no endpoint can be used. -/
def Rpc.giveUp (rpc : Rpc γ) (config : Config) : Rpc γ :=
  { rpc with
    chain := { rpc.chain with noNodes := true }
    activeAlerts := Alert.getCount config.alarms rpc.chain.name
    lastError := "no usable RPC endpoints available for " ++ rpc.chain.chainId }

/-- `newRpc`, with the public endpoint of the registry if it knows one. Returns the error
and what was sent to the dashboard. -/
def newRpc (config : Config) (rpc : Rpc γ) (trials : Nat → Trial γ)
    (fallback : Option (String × Probed γ)) : Rpc γ × Option GoError × List ChainStatus :=
  let anyWorking := rpc.chain.nodes.any (!·.down)
  let (nodes, taken) := tryNodes rpc.chain anyWorking rpc.chain.nodes trials
  let rpc := { rpc with chain := { rpc.chain with nodes := nodes } }
  let taken := match taken, rpc.chain.publicFallback, fallback with
    | some client, _, _ => some client
    | none, true, some (url, probed) => (tryURL rpc.chain url probed).toOption
    | none, _, _ => none
  match taken with
  | some client => (rpc.use client, none, [])
  | none =>
    let rpc := rpc.giveUp config
    (rpc, some (unusableError rpc.chain),
      if config.enableDash then [unusableStatus rpc] else [])

/-! ## The nodes after the loop -/

/-- The endpoint answers for this chain and is not catching up. -/
def Passes (chain : ChainConfig) (probed : Probed γ) (client : γ) : Prop :=
  probed = .status client chain.chainId false

/-- The nodes that are up, if there are any, otherwise all. -/
def Eligible (nodes : List NodeConfig) (node : NodeConfig) : Prop :=
  (∃ other ∈ nodes, other.down = false) → node.down = false

theorem tryURL_ok_iff (chain : ChainConfig) (url : String) (probed : Probed γ) (client : γ) :
    tryURL chain url probed = .ok client ↔ Passes chain probed client := by
  unfold Passes
  cases probed with
  | unparsable | unopened | noStatus => simp [tryURL]
  | status other network catchingUp =>
    simp only [tryURL]
    split
    · simp_all
    · split
      · simp_all
      · simp_all

theorem tryURL_error {chain : ChainConfig} (url : String) {probed : Probed γ}
    (failed : ∀ client, ¬ Passes chain probed client) :
    ∃ message syncing, tryURL chain url probed = .error (message, syncing) := by
  cases result : tryURL chain url probed with
  | error failure => exact ⟨failure.1, failure.2, rfl⟩
  | ok client => exact absurd ((tryURL_ok_iff ..).mp result) (failed client)

/-- Marked down, with the time only if it was up. -/
structure Marked (now : Instant) (before after : NodeConfig) : Prop where
  down : after.down = true
  since : after.downSince = if before.down then before.downSince else now

theorem marked_markDown (message : String) (syncing : Bool) (now : Instant) (node : NodeConfig) :
    Marked now node (markDown message syncing now node) := by
  cases down : node.down <;> constructor <;> simp [markDown, down]

/-- Two lists of the same length whose elements are related, index by index. -/
def Each {α : Type} (related : Nat → α → α → Prop) (before after : List α) : Prop :=
  after.length = before.length ∧ ∀ (index : Nat) x y, before[index]? = some x →
    after[index]? = some y → related index x y

theorem Each.cons {α : Type} {related : Nat → α → α → Prop} {x y : α} {xs ys : List α}
    (head : related 0 x y) (tail : Each (fun index => related (index + 1)) xs ys) :
    Each related (x :: xs) (y :: ys) := by
  refine ⟨by simp [tail.1], ?_⟩
  intro index a b before after
  cases index with
  | zero =>
    cases before
    cases after
    exact head
  | succ index => exact tail.2 index a b before after

theorem Each.same {α : Type} {related : Nat → α → α → Prop} (xs : List α)
    (reflexive : ∀ index x, related index x x) : Each related xs xs := by
  refine ⟨rfl, ?_⟩
  intro index x y before after
  rw [before] at after
  cases after
  exact reflexive index x

theorem Each.imp {α : Type} {related implied : Nat → α → α → Prop} {before after : List α}
    (each : Each related before after)
    (implies : ∀ index x y, related index x y → implied index x y) : Each implied before after :=
  ⟨each.1, fun index x y here there => implies index x y (each.2 index x y here there)⟩

/-- What the loop does to a node that it goes past. -/
structure Passed (anyWorking : Bool) (now : Instant) (before after : NodeConfig) : Prop where
  kept : (anyWorking && before.down) = true → after = before
  marked : (anyWorking && before.down) = false → Marked now before after

section Loop
variable {chain : ChainConfig} {anyWorking : Bool} (trials : Nat → Trial γ)

/-- A try that the loop goes past: the node was skipped, or its endpoint fails. -/
def Unusable (chain : ChainConfig) (anyWorking : Bool) (trial : Trial γ) (node : NodeConfig) : Prop :=
  (anyWorking && node.down) = false → ∀ client, ¬ Passes chain trial.probed client

theorem tryNodes_next {node : NodeConfig} (later : List NodeConfig)
    (unusable : Unusable chain anyWorking (trials 0) node) :
    let rest := tryNodes chain anyWorking later fun index => trials (index + 1)
    ∃ after, tryNodes chain anyWorking (node :: later) trials = (after :: rest.1, rest.2) ∧
      Passed anyWorking (trials 0).now node after := by
  dsimp only [tryNodes]
  -- A skipped node is not touched, a tried one is marked.
  cases skip : anyWorking && node.down with
  | true => exact ⟨node, rfl, fun _ => rfl, by simp [skip]⟩
  | false =>
    obtain ⟨message, syncing, result⟩ := tryURL_error node.url (unusable skip)
    rw [result]
    exact ⟨markDown message syncing (trials 0).now node, rfl, by simp [skip],
      fun _ => marked_markDown message syncing (trials 0).now node⟩

/-- While no endpoint can be used, the loop goes on to the end. -/
theorem tryNodes_none (nodes : List NodeConfig)
    (failed : ∀ (index : Nat) node, nodes[index]? = some node →
      Unusable chain anyWorking (trials index) node) :
    (tryNodes chain anyWorking nodes trials).2 = none ∧
    Each (fun index => Passed anyWorking (trials index).now) nodes
      (tryNodes chain anyWorking nodes trials).1 := by
  induction nodes generalizing trials with
  | nil => exact ⟨rfl, rfl, by simp⟩
  | cons node later ih =>
    obtain ⟨after, result, passed⟩ := tryNodes_next trials later (failed 0 node rfl)
    obtain ⟨none, each⟩ := ih _ fun index other there => failed (index + 1) other there
    rw [result]
    exact ⟨none, each.cons passed⟩

/-- At the first endpoint that can be used the loop ends, and the rest stays as it is. -/
theorem tryNodes_some (nodes : List NodeConfig) (first : Nat) {taken : NodeConfig} {client : γ}
    (there : nodes[first]? = some taken) (tried : (anyWorking && taken.down) = false)
    (passes : Passes chain (trials first).probed client)
    (failed : ∀ index < first, ∀ node, nodes[index]? = some node →
      Unusable chain anyWorking (trials index) node) :
    (tryNodes chain anyWorking nodes trials).2 = some client ∧
    Each (fun index before after =>
        if index < first then Passed anyWorking (trials index).now before after
        else after = before)
      nodes (tryNodes chain anyWorking nodes trials).1 := by
  -- On the index of that endpoint: the loop has as many nodes to go past.
  induction first generalizing nodes trials with
  | zero =>
    cases nodes with
    | nil => cases there
    | cons node later =>
      cases there
      have result := (tryURL_ok_iff chain taken.url _ client).mpr passes
      simp only [tryNodes, tried, result]
      exact ⟨rfl, Each.same _ (by simp)⟩
  | succ first ih =>
    cases nodes with
    | nil => cases there
    | cons node later =>
      obtain ⟨after, result, passed⟩ :=
        tryNodes_next trials later (failed 0 (Nat.succ_pos first) node rfl)
      obtain ⟨some, each⟩ := ih (fun index => trials (index + 1)) later there passes
        fun index before other there => failed (index + 1) (Nat.succ_lt_succ before) other there
      rw [result]
      exact ⟨some, Each.cons (by simpa using passed) (by simpa using each)⟩

end Loop

/-- A node that the loop tries is an eligible one. -/
theorem eligible_iff (nodes : List NodeConfig) (node : NodeConfig) :
    Eligible nodes node ↔ ((nodes.any (!·.down)) && node.down) = false := by
  have working : (∃ other ∈ nodes, other.down = false) ↔ (nodes.any (!·.down)) = true := by simp
  rw [Eligible, working]
  cases nodes.any (!·.down) <;> cases node.down <;> simp

section Newrpc
variable (config : Config) (rpc : Rpc γ) (trials : Nat → Trial γ)
  (fallback : Option (String × Probed γ))

/-- The nodes that the loop of `newRpc` leaves. -/
def triedNodes : List NodeConfig × Option γ :=
  tryNodes rpc.chain (rpc.chain.nodes.any (!·.down)) rpc.chain.nodes trials

theorem newRpc_some {client : γ} (taken : (triedNodes rpc trials).2 = some client) :
    newRpc config rpc trials fallback =
      (Rpc.use { rpc with chain := { rpc.chain with nodes := (triedNodes rpc trials).1 } } client,
        none, []) := by
  unfold triedNodes at taken ⊢
  simp only [newRpc, taken]

theorem newRpc_none (off : rpc.chain.publicFallback = false)
    (none : (triedNodes rpc trials).2 = none) :
    let after :=
      Rpc.giveUp { rpc with chain := { rpc.chain with nodes := (triedNodes rpc trials).1 } } config
    newRpc config rpc trials fallback = (after, some (unusableError rpc.chain),
      if config.enableDash then [unusableStatus after] else []) := by
  unfold triedNodes at none ⊢
  simp only [newRpc, none, off]
  rfl

theorem length_tryNodes (chain : ChainConfig) (anyWorking : Bool) (nodes : List NodeConfig)
    (trials : Nat → Trial γ) : (tryNodes chain anyWorking nodes trials).1.length = nodes.length := by
  induction nodes generalizing trials with
  | nil => rfl
  | cons node later ih =>
    unfold tryNodes
    dsimp only
    split
    · simp [ih]
    · split
      · simp [ih]
      · rfl

theorem length_triedNodes : (triedNodes rpc trials).1.length = rpc.chain.nodes.length :=
  length_tryNodes _ _ _ _

/-- A call takes a client and publishes nothing, or gives up and publishes one line. -/
theorem newRpc_cases :
    let tried : Rpc γ :=
      { rpc with chain := { rpc.chain with nodes := (triedNodes rpc trials).1 } }
    (∃ client, newRpc config rpc trials fallback = (tried.use client, none, [])) ∨
      newRpc config rpc trials fallback = (tried.giveUp config, some (unusableError rpc.chain),
        if config.enableDash then [unusableStatus (tried.giveUp config)] else []) := by
  unfold newRpc triedNodes
  dsimp only
  split
  next client _ => exact .inl ⟨client, rfl⟩
  next => exact .inr rfl

end Newrpc

/-- With the public fallback off. If an eligible endpoint passes, the first such one in the
configured order is used: the eligible nodes before it are marked down, all others keep
their state. If none does, every node ends down, the client stays and there is an error.
A node keeps its time if it was down, and gets the clock of the try otherwise. -/
theorem ordered_selection (config : Config) (rpc : Rpc γ) (trials : Nat → Trial γ)
    (fallback : Option (String × Probed γ)) (off : rpc.chain.publicFallback = false) :
    let nodes := rpc.chain.nodes
    let after := (newRpc config rpc trials fallback).1
    let err := (newRpc config rpc trials fallback).2.1
    (∀ first taken client, nodes[first]? = some taken → Eligible nodes taken →
      Passes rpc.chain (trials first).probed client →
      (∀ index < first, ∀ node, nodes[index]? = some node → Eligible nodes node →
        ∀ other, ¬ Passes rpc.chain (trials index).probed other) →
      err = none ∧ after.client = some client ∧ after.chain.noNodes = false ∧
      Each (fun index before after =>
          (index < first ∧ Eligible nodes before → Marked (trials index).now before after) ∧
          (¬ (index < first ∧ Eligible nodes before) → after = before))
        nodes after.chain.nodes) ∧
    ((∀ (index : Nat) node, nodes[index]? = some node → Eligible nodes node →
        ∀ client, ¬ Passes rpc.chain (trials index).probed client) →
      err = some (unusableError rpc.chain) ∧ after.client = rpc.client ∧
      after.chain.noNodes = true ∧
      Each (fun index => Marked (trials index).now) nodes after.chain.nodes) := by
  dsimp only
  simp only [eligible_iff]
  constructor
  · intro first taken client there tried passes failed
    obtain ⟨some, each⟩ := tryNodes_some trials rpc.chain.nodes first there tried passes failed
    rw [newRpc_some config rpc trials fallback some]
    refine ⟨rfl, rfl, rfl, each.imp ?_⟩
    intro index before after related
    by_cases early : index < first
    · rw [if_pos early] at related
      exact ⟨fun reached => related.marked reached.2, fun beyond =>
        related.kept (by simpa only [early, true_and, Bool.not_eq_false] using beyond)⟩
    · rw [if_neg early] at related
      exact ⟨fun reached => absurd reached.1 early, fun _ => related⟩
  · intro failed
    obtain ⟨none, each⟩ := tryNodes_none trials rpc.chain.nodes failed
    rw [newRpc_none config rpc trials fallback off none]
    refine ⟨rfl, rfl, rfl, each.imp ?_⟩
    intro index before after related
    cases tried : rpc.chain.nodes.any (!·.down) && before.down with
    | false => exact related.marked tried
    | true =>
      -- It was skipped because it was down already.
      rw [related.kept tried]
      have down : before.down = true := (Bool.and_eq_true_iff.mp tried).2
      exact ⟨down, by rw [if_pos down]⟩

/-- Three endpoints, the first down: the second fails, the third is taken. -/
theorem ordered_selection_third :
    let rpc : Rpc Nat := { chain := { chainId := "osmosis-1", nodes :=
      [{ url := "tcp://a", down := true }, { url := "tcp://b" }, { url := "tcp://c" }] } }
    let trials : Nat → Trial Nat := fun index =>
      { probed := if index = 1 then .unopened "refused" else .status index "osmosis-1" false
        now := ⟨unixEpoch, Int.le_refl _⟩ }
    (newRpc {} rpc trials none).1.client = some 2 ∧
    (newRpc {} rpc trials none).1.chain.nodes.map NodeConfig.down = [true, true, false] := by
  intro rpc trials
  have selected := (ordered_selection {} rpc trials none rfl).1 2 { url := "tcp://c" } 2 rfl
    (fun _ => rfl) rfl
  refine ⟨(selected ?_).2.1, by decide +kernel⟩
  intro index before node here eligible client passes
  have up : node.down = false := eligible ⟨{ url := "tcp://c" }, by simp [rpc], rfl⟩
  match index, before with
  | 0, _ =>
    cases here
    cases up
  | 1, _ => cases passes

end Selection

end Seer.Node
