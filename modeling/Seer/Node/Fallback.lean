import Seer.Lib.Regex
import Seer.Node.Selection

/-!
# The public endpoint of last resort

When no configured endpoint can be used and the chain allows it, `newRpc` looks the chain
up in the registry, asks the public proxy for its page and follows the first link there.
The expression that finds the link is run as an expression; the specification says which
link that is.
-/
namespace Seer.Node

open Seer.Lib Seer.Lib.Regex

/-! ## The registry -/

structure RegistryChain where
  path : String
  chainId : String

/-- What a request for the registry leads to: an error on the way, or the decoded list. -/
inductive RegistryAnswer where
  | failed (err : GoError)
  | decoded (chains : List RegistryChain)

def publicRpcUrl : String := "https://rpc.cosmos.directory:443/"

def addPaths (paths : Table String String) (chains : List RegistryChain) : Table String String :=
  chains.foldl (fun paths chain => paths.insert chain.chainId chain.path) paths

def refreshRegistry (paths : Table String String) :
    RegistryAnswer → Table String String × Option GoError
  | .failed err => (paths, some err)
  | .decoded chains =>
    if chains.length = 0 then (paths, some (.text "response had no chains"))
    else (addPaths paths chains, none)

/-- The paths after the refreshes; an error is only logged. -/
def refreshed (paths : Table String String) (answers : List RegistryAnswer) : Table String String :=
  answers.foldl (fun paths answer => (refreshRegistry paths answer).1) paths

def getRegistryUrl (paths : Table String String) (chainId : String) : Option String :=
  let path := paths[chainId]?.getD ""
  if path ≠ "" then some (publicRpcUrl ++ path) else none

/-! ## The link -/

/-- `[^/:]` -/
def isHost (c : Char) : Bool := c ≠ '/' && c ≠ ':'

/-- `//([^/:]+)(:\d+)?` -/
def endpointRex : Pattern Char :=
  .seq (word ['/', '/']) (.seq (.group 1 (.plus isHost))
    (opt (.group 2 (.seq (word [':']) (.plus Char.isDigit)))))

/-- The endpoint in what the page says; `none` if the page cannot be had. -/
def guessPublicEndpoint (u : String) : Option String → String
  | none => u
  | some body =>
    match find endpointRex body.toList with
    | none => u
    | some matched =>
      let host := matched.submatch 1
      let port := matched.submatch 2
      if port ≠ [] ∧ port ≠ ":443".toList then
        "http://" ++ String.ofList host ++ String.ofList port
      else "https://" ++ String.ofList host ++ ":443"

/-- The endpoint that `newRpc` falls back to, and what a try of it gives. -/
def publicEndpoint {γ : Type} (paths : Table String String) (chainId : String)
    (fetch : String → Option String) (probe : String → Probed γ) : Option (String × Probed γ) :=
  (getRegistryUrl paths chainId).map fun registryURL =>
    let node := guessPublicEndpoint registryURL (fetch (registryURL ++ "/"))
    (node, probe node)

/-! ## What the registry says in the end -/

/-- All entries that were received, oldest first. -/
def entries (answers : List RegistryAnswer) : List RegistryChain :=
  answers.flatMap fun
    | .failed _ => []
    | .decoded chains => chains

/-- The last path of a chain, the built-in one if none was received. -/
def lastPath (paths : Table String String) (answers : List RegistryAnswer) (chainId : String) :
    Option String :=
  (((entries answers).filter (·.chainId = chainId)).getLast?.map RegistryChain.path).or paths[chainId]?

theorem get_addPaths (paths : Table String String) (chains : List RegistryChain) (chainId : String) :
    (addPaths paths chains)[chainId]? =
      ((chains.filter (·.chainId = chainId)).getLast?.map RegistryChain.path).or paths[chainId]? := by
  unfold addPaths
  induction chains generalizing paths with
  | nil => simp
  | cons chain later ih =>
    rw [List.foldl_cons, ih, Table.get_insert, List.filter_cons]
    by_cases same : chain.chainId = chainId
    · cases found : (later.filter (·.chainId = chainId)).getLast? <;> simp [same, List.getLast?_cons, found]
    · simp [same]

theorem refreshRegistry_fst (paths : Table String String) (answer : RegistryAnswer) :
    (refreshRegistry paths answer).1 = addPaths paths (entries [answer]) := by
  cases answer with
  | failed err => rfl
  | decoded chains => cases chains <;> simp [refreshRegistry, entries, addPaths]

theorem refreshed_eq (paths : Table String String) (answers : List RegistryAnswer) :
    refreshed paths answers = addPaths paths (entries answers) := by
  unfold refreshed
  induction answers generalizing paths with
  | nil => rfl
  | cons answer later ih =>
    rw [List.foldl_cons, ih, refreshRegistry_fst, addPaths, addPaths, addPaths, ← List.foldl_append]
    simp [entries]

theorem get_refreshed (paths : Table String String) (answers : List RegistryAnswer) (chainId : String) :
    (refreshed paths answers)[chainId]? = lastPath paths answers chainId := by
  rw [refreshed_eq, get_addPaths, lastPath]

theorem getRegistryUrl_eq_some {paths : Table String String} {chainId url : String} :
    getRegistryUrl paths chainId = some url ↔
      ∃ path, paths[chainId]? = some path ∧ path ≠ "" ∧ url = publicRpcUrl ++ path := by
  unfold getRegistryUrl
  cases found : paths[chainId]? with
  | none => simp
  | some path => simp [eq_comm]

/-! ## What the expression finds -/

/-- A link starts here. -/
def LinkAt (text : List Char) : Prop :=
  ∃ c rest, text = '/' :: '/' :: c :: rest ∧ isHost c = true

def NoLink (text : List Char) : Prop := ∀ earlier later, text = earlier ++ later → ¬ LinkAt later

/-- The first link of a page, cut into the text before it, its host and what follows. -/
structure FirstLink (body before host behind : List Char) : Prop where
  split : body = before ++ ('/' :: '/' :: (host ++ behind))
  nonempty : host ≠ []
  isHost : ∀ c ∈ host, isHost c = true
  ends : ∀ c, behind.head? = some c → Node.isHost c = false
  first : ∀ earlier later, before = earlier ++ later → later ≠ [] →
    ¬ LinkAt (later ++ ('/' :: '/' :: (host ++ behind)))

/-- The port at the head of a text, with its colon. -/
def portOf : List Char → List Char
  | ':' :: later => if (later.takeWhile Char.isDigit).isEmpty then [] else ':' :: later.takeWhile Char.isDigit
  | _ => []

def linkUrl (host port : List Char) : String :=
  if port = [] ∨ port = [':', '4', '4', '3'] then "https://" ++ String.ofList host ++ ":443"
  else "http://" ++ String.ofList host ++ String.ofList port

theorem matchAt_port (behind : List Char) :
    ∃ rest, matchAt (opt (.group 2 (.seq (word [':']) (.plus Char.isDigit)))) behind =
      some { rest, captures := if portOf behind = [] then [] else [(2, portOf behind)] } := by
  rw [matchAt_opt, matchAt_group]
  by_cases colon : [':'] <+: behind
  · obtain ⟨later, rfl⟩ := colon
    rw [matchAt_word_seq, matchAt_plus]
    simp only [List.singleton_append, portOf]
    cases digits : later.takeWhile Char.isDigit with
    | nil => exact ⟨_, rfl⟩
    | cons digit others =>
      have whole : digit :: others ++ later.dropWhile Char.isDigit = later := by
        rw [← digits]
        exact List.takeWhile_append_dropWhile
      have captured := take_captured (':' :: digit :: others) (later.dropWhile Char.isDigit)
      rw [List.cons_append, whole] at captured
      refine ⟨later.dropWhile Char.isDigit, ?_⟩
      simp only [List.isEmpty_cons, Bool.false_eq_true, if_false, Option.map_some, Option.some_or,
        captured]
      rfl
  · rw [matchAt_word_seq_none colon]
    have none : portOf behind = [] := by
      unfold portOf
      split
      next later => exact absurd ⟨later, rfl⟩ colon
      · rfl
    exact ⟨behind, by simp [none]⟩

theorem matchAt_link {host behind : List Char} (nonempty : host ≠ [])
    (all : ∀ c ∈ host, isHost c = true) (ends : ∀ c, behind.head? = some c → isHost c = false) :
    ∃ matched, matchAt endpointRex ('/' :: '/' :: (host ++ behind)) = some matched ∧
      matched.submatch 1 = host ∧ matched.submatch 2 = portOf behind := by
  have taken : (host ++ behind).takeWhile isHost = host := by
    rw [List.takeWhile_append_of_pos all]
    cases behind with
    | nil => simp
    | cons c later => simp [ends c rfl]
  have left : (host ++ behind).dropWhile isHost = behind := by
    rw [List.dropWhile_append_of_pos all]
    cases behind with
    | nil => rfl
    | cons c later => simp [ends c rfl]
  have hostAt : matchAt (.group 1 (.plus isHost)) (host ++ behind) =
      some { rest := behind, captures := [(1, host)] } := by
    rw [matchAt_group, matchAt_plus, taken, left]
    simp only [List.isEmpty_iff, nonempty, if_false, Option.map_some, take_captured]
    rfl
  obtain ⟨rest, portAt⟩ := matchAt_port behind
  have found := (matchAt_word_seq ['/', '/'] (host ++ behind)).trans (matchAt_seq hostAt portAt)
  refine ⟨_, found, rfl, ?_⟩
  by_cases port : portOf behind = []
  · simp [Path.submatch, port, List.lookup_cons]
  · simp [Path.submatch, port, List.lookup_cons]

theorem matchAt_of_not_linkAt {text : List Char} (none : ¬ LinkAt text) :
    matchAt endpointRex text = Option.none := by
  by_cases slashes : ['/', '/'] <+: text
  · obtain ⟨rest, rfl⟩ := slashes
    have stops : rest.takeWhile isHost = [] := by
      cases rest with
      | nil => rfl
      | cons c later =>
        have outside : ¬ isHost c = true := fun inside => none ⟨c, later, rfl, inside⟩
        exact List.takeWhile_cons_of_neg outside
    rw [endpointRex, matchAt_word_seq]
    apply matchAt_seq_none
    rw [matchAt_group, matchAt_plus, stops]
    rfl
  · exact matchAt_word_seq_none slashes

theorem guess_link {u body : String} {before host behind : List Char}
    (link : FirstLink body.toList before host behind) :
    guessPublicEndpoint u (some body) = linkUrl host (portOf behind) := by
  obtain ⟨matched, found, hostIs, portIs⟩ := matchAt_link link.nonempty link.isHost link.ends
  have leftmost : find endpointRex body.toList = some matched := by
    rw [link.split]
    exact find_append found fun earlier later split nonempty =>
      matchAt_of_not_linkAt (link.first earlier later split nonempty)
  simp only [guessPublicEndpoint, leftmost, hostIs, portIs, linkUrl]
  by_cases standard : portOf behind = [] ∨ portOf behind = [':', '4', '4', '3']
  · rw [if_pos standard, if_neg]
    rintro ⟨some, other⟩
    exact standard.elim some other
  · rw [if_neg standard, if_pos]
    exact not_or.mp standard

theorem guess_noLink {u body : String} (none : NoLink body.toList) :
    guessPublicEndpoint u (some body) = u := by
  have nothing : find endpointRex body.toList = Option.none :=
    find_eq_none fun earlier later split => matchAt_of_not_linkAt (none earlier later split)
  simp [guessPublicEndpoint, nothing]

theorem firstLink_here {text : List Char} (link : LinkAt text) :
    ∃ host behind, FirstLink text [] host behind := by
  obtain ⟨c, rest, rfl, inside⟩ := link
  refine ⟨(c :: rest).takeWhile isHost, (c :: rest).dropWhile isHost, ?_, ?_, ?_, ?_, ?_⟩
  · rw [List.takeWhile_append_dropWhile, List.nil_append]
  · rw [List.takeWhile_cons_of_pos inside]
    exact List.cons_ne_nil _ _
  · exact List.all_eq_true.mp List.all_takeWhile
  · intro d first
    have stops := List.head?_dropWhile_not isHost (c :: rest)
    rw [first] at stops
    exact Bool.eq_false_iff.mpr fun host => by simp [host] at stops
  · intro earlier later split nonempty
    exact absurd (List.append_eq_nil_iff.mp split.symm).2 nonempty

theorem firstLink_or_noLink (text : List Char) :
    NoLink text ∨ ∃ before host behind, FirstLink text before host behind := by
  induction text with
  | nil =>
    refine .inl fun earlier later split => ?_
    rw [(List.append_eq_nil_iff.mp split.symm).2]
    rintro ⟨c, rest, none, -⟩
    cases none
  | cons c rest ih =>
    by_cases here : LinkAt (c :: rest)
    · obtain ⟨host, behind, link⟩ := firstLink_here here
      exact .inr ⟨[], host, behind, link⟩
    rcases ih with none | ⟨before, host, behind, link⟩
    · left
      intro earlier later split
      cases earlier with
      | nil =>
        rw [List.nil_append] at split
        rw [← split]
        exact here
      | cons d earlier => exact none earlier later (List.cons.inj split).2
    · right
      refine ⟨c :: before, host, behind, ?_, link.nonempty, link.isHost, link.ends, ?_⟩
      · rw [List.cons_append, ← link.split]
      · intro earlier later split nonempty
        cases earlier with
        | nil =>
          rw [List.nil_append] at split
          rw [← split, List.cons_append, ← link.split]
          exact here
        | cons d earlier => exact link.first earlier later (List.cons.inj split).2 nonempty

/-! ## The endpoint that is fallen back to -/

/-- By the last path that the registry gave for the chain and the page that is found there: the
first link of the page, with its port or 443 and then with TLS; the page's own address if it
has no link or cannot be had. -/
inductive PublicUrl (paths : Table String String) (answers : List RegistryAnswer) (chainId : String)
    (fetch : String → Option String) : String → Prop
  | direct {path : String} (listed : lastPath paths answers chainId = some path) (known : path ≠ "")
      (unlinked : ∀ body, fetch (publicRpcUrl ++ path ++ "/") = some body → NoLink body.toList) :
      PublicUrl paths answers chainId fetch (publicRpcUrl ++ path)
  | linked {path body : String} {before host behind : List Char}
      (listed : lastPath paths answers chainId = some path) (known : path ≠ "")
      (fetched : fetch (publicRpcUrl ++ path ++ "/") = some body)
      (link : FirstLink body.toList before host behind) :
      PublicUrl paths answers chainId fetch (linkUrl host (portOf behind))

section Public
variable {γ : Type} {paths : Table String String} {answers : List RegistryAnswer} {chainId : String}
  {fetch : String → Option String} {probe : String → Probed γ}

theorem publicEndpoint_of_publicUrl {url : String} (reached : PublicUrl paths answers chainId fetch url) :
    publicEndpoint (refreshed paths answers) chainId fetch probe = some (url, probe url) := by
  have registered : ∀ path, lastPath paths answers chainId = some path → path ≠ "" →
      getRegistryUrl (refreshed paths answers) chainId = some (publicRpcUrl ++ path) :=
    fun path listed known =>
      getRegistryUrl_eq_some.mpr ⟨path, (get_refreshed ..).trans listed, known, rfl⟩
  cases reached with
  | direct listed known unlinked =>
    rw [publicEndpoint, registered _ listed known, Option.map_some]
    cases page : fetch (publicRpcUrl ++ _ ++ "/") with
    | none => rfl
    | some body =>
      dsimp only
      rw [guess_noLink (unlinked body page)]
  | linked listed known fetched link =>
    rw [publicEndpoint, registered _ listed known, Option.map_some]
    dsimp only
    rw [fetched, guess_link link]

theorem publicUrl_of_publicEndpoint {url : String} {probed : Probed γ}
    (reached : publicEndpoint (refreshed paths answers) chainId fetch probe = some (url, probed)) :
    PublicUrl paths answers chainId fetch url ∧ probed = probe url := by
  obtain ⟨registryURL, registered, same⟩ := Option.map_eq_some_iff.mp reached
  obtain ⟨path, listed, known, rfl⟩ := getRegistryUrl_eq_some.mp registered
  rw [get_refreshed] at listed
  cases same
  refine ⟨?_, rfl⟩
  cases page : fetch (publicRpcUrl ++ path ++ "/") with
  | none => exact .direct listed known (fun body got => by rw [page] at got; cases got)
  | some body =>
    rcases firstLink_or_noLink body.toList with none | ⟨before, host, behind, link⟩
    · rw [guess_noLink none]
      refine .direct listed known fun other got => ?_
      rw [page] at got
      cases got
      exact none
    · rw [guess_link link]
      exact .linked listed known page link

/-- The client that a try of the public endpoint gives. -/
def fallbackClient (chain : ChainConfig) (fallback : Option (String × Probed γ)) : Option γ :=
  fallback.bind fun found => (tryURL chain found.1 found.2).toOption

theorem fallbackClient_eq_some {chain : ChainConfig} {client : γ} :
    fallbackClient chain (publicEndpoint (refreshed paths answers) chainId fetch probe) = some client ↔
      ∃ url, PublicUrl paths answers chainId fetch url ∧ Passes chain (probe url) client := by
  have passes_iff : ∀ url, (tryURL chain url (probe url)).toOption = some client ↔
      Passes chain (probe url) client := by
    intro url
    rw [← tryURL_ok_iff chain url]
    cases tryURL chain url (probe url) <;> simp [Except.toOption]
  constructor
  · intro taken
    obtain ⟨⟨url, probed⟩, found, here⟩ := Option.bind_eq_some_iff.mp taken
    obtain ⟨reached, rfl⟩ := publicUrl_of_publicEndpoint found
    exact ⟨url, reached, (passes_iff url).mp here⟩
  · rintro ⟨url, reached, passes⟩
    rw [fallbackClient, publicEndpoint_of_publicUrl reached, Option.bind_some]
    exact (passes_iff url).mpr passes

end Public

section Selecting
variable {γ : Type} (config : Config) (rpc : Rpc γ) (trials : Nat → Trial γ)
  (paths : Table String String) (answers : List RegistryAnswer) (fetch : String → Option String)
  (probe : String → Probed γ)

theorem newRpc_fallback {fallback : Option (String × Probed γ)}
    (on : rpc.chain.publicFallback = true) (none : (triedNodes rpc trials).2 = none) :
    let tried : Rpc γ := { rpc with chain := { rpc.chain with nodes := (triedNodes rpc trials).1 } }
    newRpc config rpc trials fallback =
      match fallbackClient rpc.chain fallback with
      | some client => (tried.use client, Option.none, [])
      | Option.none => (tried.giveUp config, some (unusableError rpc.chain),
          if config.enableDash then [unusableStatus (tried.giveUp config)] else []) := by
  unfold triedNodes at none ⊢
  simp only [newRpc, none, on]
  cases fallback with
  | none => rfl
  | some pair => rfl

/-- With the public fallback on, when no eligible endpoint passes: every node ends down, and the
public endpoint of the chain is used if it passes; otherwise the client stays and there is an
error. -/
theorem public_fallback_selection (on : rpc.chain.publicFallback = true)
    (failed : ∀ (index : Nat) node, rpc.chain.nodes[index]? = some node →
      Eligible rpc.chain.nodes node → ∀ client, ¬ Passes rpc.chain (trials index).probed client) :
    let result := newRpc config rpc trials
      (publicEndpoint (refreshed paths answers) rpc.chain.chainId fetch probe)
    let after := result.1
    let err := result.2.1
    Each (fun index => Marked (trials index).now) rpc.chain.nodes after.chain.nodes ∧
    (∀ url client, PublicUrl paths answers rpc.chain.chainId fetch url →
      Passes rpc.chain (probe url) client →
      err = none ∧ after.client = some client ∧ after.chain.noNodes = false) ∧
    ((∀ url client, PublicUrl paths answers rpc.chain.chainId fetch url →
        ¬ Passes rpc.chain (probe url) client) →
      err = some (unusableError rpc.chain) ∧ after.client = rpc.client ∧
      after.chain.noNodes = true) := by
  have unusable : ∀ (index : Nat) node, rpc.chain.nodes[index]? = some node →
      Unusable rpc.chain (rpc.chain.nodes.any (!·.down)) (trials index) node :=
    fun index node there tried => failed index node there ((eligible_iff _ _).mpr tried)
  obtain ⟨none, each⟩ := tryNodes_none trials rpc.chain.nodes unusable
  have marked : Each (fun index => Marked (trials index).now) rpc.chain.nodes (triedNodes rpc trials).1 := by
    refine each.imp fun index before after passed => ?_
    cases tried : rpc.chain.nodes.any (!·.down) && before.down with
    | false => exact passed.marked tried
    | true =>
      -- It was skipped because it was down already.
      rw [passed.kept tried]
      have down : before.down = true := (Bool.and_eq_true_iff.mp tried).2
      exact ⟨down, by rw [if_pos down]⟩
  dsimp only
  rw [newRpc_fallback config rpc trials on none]
  refine ⟨?_, ?_, ?_⟩
  · split <;> exact marked
  · intro url client reached passes
    rw [fallbackClient_eq_some.mpr ⟨url, reached, passes⟩]
    exact ⟨rfl, rfl, rfl⟩
  · intro fails
    split
    next client taken =>
      obtain ⟨url, reached, passes⟩ := fallbackClient_eq_some.mp taken
      exact absurd passes (fails url client reached)
    next => exact ⟨rfl, rfl, rfl⟩

end Selecting

/-- No link starts in a text without a slash. -/
theorem not_linkAt_of_no_slash {before behind : List Char} (plain : '/' ∉ before) :
    ∀ earlier later, before = earlier ++ later → later ≠ [] → ¬ LinkAt (later ++ behind) := by
  rintro earlier later rfl nonempty ⟨c, rest, starts, -⟩
  cases later with
  | nil => exact nonempty rfl
  | cons d others =>
    cases (List.cons.inj starts).1
    simp at plain

/-- One endpoint, which is refused; the proxy's page links to another port of a public host. -/
theorem public_fallback_selection_linked :
    let rpc : Rpc Nat :=
      { chain := { chainId := "osmosis-1", publicFallback := true, nodes := [{ url := "tcp://a" }] } }
    let trials : Nat → Trial Nat := fun _ =>
      { probed := .unopened "refused", now := ⟨unixEpoch, Int.le_refl _⟩ }
    let answers : List RegistryAnswer := [.decoded [⟨"osmosis", "osmosis-1"⟩], .failed .notExist]
    let fetch : String → Option String := fun _ => some "<a href='//rpc.osmosis.zone:26657/status'>"
    let probe : String → Probed Nat := fun _ => .status 7 "osmosis-1" false
    let after := (newRpc {} rpc trials
      (publicEndpoint (refreshed ∅ answers) rpc.chain.chainId fetch probe)).1
    PublicUrl ∅ answers "osmosis-1" fetch "http://rpc.osmosis.zone:26657" ∧
      after.client = some 7 ∧ after.chain.noNodes = false := by
  intro rpc trials answers fetch probe after
  have link : FirstLink "<a href='//rpc.osmosis.zone:26657/status'>".toList "<a href='".toList
      "rpc.osmosis.zone".toList ":26657/status'>".toList :=
    ⟨rfl, by decide, List.all_eq_true.mp rfl, fun c first => by cases first; rfl,
      not_linkAt_of_no_slash (by decide)⟩
  have listed : lastPath ∅ answers "osmosis-1" = some "osmosis" := rfl
  have fetched : fetch (publicRpcUrl ++ "osmosis" ++ "/") =
      some "<a href='//rpc.osmosis.zone:26657/status'>" := rfl
  have reached : PublicUrl ∅ answers "osmosis-1" fetch "http://rpc.osmosis.zone:26657" :=
    .linked listed (by decide) fetched link
  have fails : ∀ (index : Nat) node, rpc.chain.nodes[index]? = some node →
      Eligible rpc.chain.nodes node → ∀ client, ¬ Passes rpc.chain (trials index).probed client := by
    intro index node there eligible client passes
    cases passes
  have selected := (public_fallback_selection {} rpc trials ∅ answers fetch probe rfl fails).2.1
    _ 7 reached rfl
  exact ⟨reached, selected.2.1, selected.2.2⟩

end Seer.Node
