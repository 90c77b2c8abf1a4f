import Seer.Lib.Concurrent
import Seer.Lib.Machine
import Seer.Lib.Replay
import Seer.Lib.Text
import Seer.Watch.ActiveSet

/-!
# Refreshing the validator data

`GetValInfo` asks one client for the validator, its signing info and, as long as it is not
known, the length of the slashing window, and publishes the result as a whole. It runs
under the same lock as endpoint selection, so that one refresh uses one client.

The node's answers are inputs, and so is the bech32 codec. Of the log lines only the one that
can panic is kept.
-/
namespace Seer.Validator

open Seer.Lib.Crash (Prog Asked Reaches Asks)
open Seer.Lib

structure ValidatorRecord where
  consensusAddress : List UInt8 := []
  moniker : String := ""
  jailed : Bool := false
  bonded : Bool := false
  deriving DecidableEq

structure SigningInfo where
  tombstoned : Bool := false
  missedBlocks : Int := 0
  deriving DecidableEq

/-- The requests of one refresh, and what a client returns for them. -/
inductive Query where
  | validator (address : String)
  | signingInfo (address : String)
  | slashingParams
  deriving DecidableEq

abbrev Query.Answer : Query → Type
  | .validator _ => Except String ValidatorRecord
  | .signingInfo _ => Except String SigningInfo
  | .slashingParams => Except String Int

/-- What a refresh takes from outside: the encoder of consensus addresses, and the capacity of
the copy that `append` makes of so many bytes. The language asks only that they fit. -/
structure Env where
  encode : String → List UInt8 → Except String String
  capacity : Nat → Nat
  fits : ∀ length, length ≤ capacity length

/-- A refresh returns an error, or it panics and ends the process. -/
inductive Failure where
  | error (text : String)
  | panic
  deriving DecidableEq

def mentions (word text : String) : Bool := Text.contains word.toList text.toList

/-- `getAltPrefix`: the overrides, looked up by what is before the first `1`. -/
def getAltPrefix (oper : String) : Option String :=
  let start := ((Text.cut ['1'] oper.toList).map (·.1)).getD oper.toList
  if start = "ival".toList then some "ica" else none

section Refresh
variable (env : Env) (valAddress : String)

/-- The human-readable part for the validator's consensus address. -/
def valconsPrefix : Option String :=
  match Text.splitTwo "valoper".toList valAddress.toList with
  | some (before, _) => some (String.ofList before ++ "valcons")
  | none => getAltPrefix valAddress

/-- `conspub[:20]` of the copy: slicing reaches up to its capacity, and behind the copied
bytes it finds zeros. -/
def firstTwenty (conspub : List UInt8) : Except Failure (List UInt8) :=
  if 20 ≤ env.capacity conspub.length then .ok ((conspub ++ List.replicate 20 0).take 20)
  else .error .panic

/-- The address for the signing-info query. -/
def valconsOf (first : Bool) (conspub : List UInt8) : Except Failure String :=
  if mentions "valcons" valAddress then .ok valAddress
  else match valconsPrefix valAddress with
    | none =>
      .error (.error ("❓ could not determine bech32 prefix from valoper address: " ++ valAddress))
    | some human =>
      match firstTwenty env conspub with
      | .error failure => .error failure
      | .ok address =>
        match env.encode human address with
        | .error err => .error (.error err)
        | .ok valcons =>
          -- The first refresh logs `cc.ValAddress[:20]`.
          if first && valAddress.utf8ByteSize < 20 then .error .panic else .ok valcons

/-- The window of the data that is published; zero as long as it is not known. -/
def windowOf (current : Option ValInfo) : Int := (current.map (·.window)).getD 0

/-- The slashing window is asked for only while it is not known. -/
def askWindow (next : ValInfo) : Prog Query Query.Answer (Except Failure ValInfo) :=
  if next.window = 0 then
    .call .slashingParams fun
      | .error err => .done (.error (.error err))
      | .ok window => .done (.ok { next with window := window })
  else .done (.ok next)

def askSigning (next : ValInfo) : Prog Query Query.Answer (Except Failure ValInfo) :=
  .call (.signingInfo next.valcons) fun
    | .error err => .done (.error (.error err))
    | .ok signing =>
      askWindow { next with tombstoned := signing.tombstoned, missed := signing.missedBlocks }

/-- `GetValInfo` between taking its snapshot and publishing. -/
def getValInfo (first : Bool) (current : Option ValInfo) :
    Prog Query Query.Answer (Except Failure ValInfo) :=
  .call (.validator valAddress) fun
    | .error err => .done (.error (.error err))
    | .ok validator =>
      match valconsOf env valAddress first validator.consensusAddress with
      | .error failure => .done (.error failure)
      | .ok valcons =>
        askSigning
          { window := windowOf current
            conspub := validator.consensusAddress
            moniker := validator.moniker
            jailed := validator.jailed
            bonded := validator.bonded
            valcons := valcons }

end Refresh

/-! ## The lock over selection and refresh -/

/-- A refresh that was published, with the client that was installed then. -/
structure Publication (γ : Type) where
  first : Bool
  client : γ
  installed : Option γ
  current : Option ValInfo
  asked : List (Asked Query Query.Answer)
  info : ValInfo

/-- What happened at the lock: every question that was put to a client, also by a refresh that
failed or has not come to its end, and the publications. -/
inductive Entry (γ : Type) where
  | asked (client : γ) (query : Query)
  | published (publication : Publication γ)

def Entry.publication? {γ : Type} : Entry γ → Option (Publication γ)
  | .asked _ _ => none
  | .published publication => some publication

/-- What the holder of the RPC lock is doing. -/
inductive Task (γ : Type) where
  | selecting
  | refreshing (first : Bool) (client : γ) (current : Option ValInfo)
      (asked : List (Asked Query Query.Answer))
      (program : Prog Query Query.Answer (Except Failure ValInfo))

structure Refresher (γ : Type) where
  client : Option γ := none
  monitoring : Monitoring := Watch.Watched.start.monitoring
  task : Option (Task γ) := none
  log : List (Entry γ) := []
  crashed : Bool := false

def Refresher.publications {γ : Type} (refresher : Refresher γ) : List (Publication γ) :=
  refresher.log.filterMap Entry.publication?

/-- The steps of the chain's goroutines at the lock. `newRpc` installs the client it found; a
refresh takes its snapshot, gets its answers one by one and ends. -/
inductive Step (γ : Type) where
  | enterSelection
  | leaveSelection (found : Option γ)
  | enterRefresh (first : Bool)
  | answer (reply : (query : Query) → query.Answer)
  | finish

section Steps
variable {γ : Type} (env : Env) (valAddress : String)

/-- The question that a refresh puts to its client next. -/
def question (client : γ) : Prog Query Query.Answer (Except Failure ValInfo) → List (Entry γ)
  | .call query _ => [.asked client query]
  | .done _ => []

def step (refresher : Refresher γ) : Step γ → Option (Refresher γ)
  | .enterSelection =>
    match refresher.task with
    | none => some { refresher with task := some .selecting }
    | some _ => none
  | .leaveSelection found =>
    match refresher.task with
    | some .selecting => some { refresher with client := found <|> refresher.client, task := none }
    | _ => none
  | .enterRefresh first =>
    match refresher.task, refresher.client with
    -- "nil rpc client" is returned at once.
    | none, none => some refresher
    | none, some client =>
      let current := refresher.monitoring.valInfo
      let program := getValInfo env valAddress first current
      some { refresher with
        task := some (.refreshing first client current [] program)
        log := refresher.log ++ question client program }
    | some _, _ => none
  | .answer reply =>
    match refresher.task with
    | some (.refreshing first client current asked (.call query next)) =>
      some { refresher with
        task := some (.refreshing first client current (asked ++ [⟨query, reply query⟩])
          (next (reply query)))
        log := refresher.log ++ question client (next (reply query)) }
    | _ => none
  | .finish =>
    match refresher.task with
    | some (.refreshing first client current asked (.done (.ok info))) =>
      some { refresher with
        monitoring := Watch.publishValidatorInfo refresher.monitoring info !first
        task := none
        log := refresher.log ++
          [.published { first, client, installed := refresher.client, current, asked, info }] }
    | some (.refreshing _ _ _ _ (.done (.error (.error _)))) => some { refresher with task := none }
    -- The lock is given back while the goroutine panics, so others may still get at it.
    | some (.refreshing _ _ _ _ (.done (.error .panic))) =>
      some { refresher with task := none, crashed := true }
    | _ => none

/-! ## What a finished refresh has asked -/

section Outcome
variable {env valAddress} {first : Bool} {current : Option ValInfo} {next info : ValInfo}
  {asked : List (Asked Query Query.Answer)}

theorem askWindow_inv (reaches : Reaches (askWindow next) asked (.done (.ok info))) :
    (next.window ≠ 0 ∧ asked = [] ∧ info = next) ∨
      ∃ window, next.window = 0 ∧ asked = [⟨.slashingParams, .ok window⟩] ∧
        info = { next with window := window } := by
  unfold askWindow at reaches
  split at reaches
  next unknown =>
    obtain ⟨found, later, rfl, told⟩ := reaches.call_inv
    cases found with
    | error err => cases told.done_inv.2
    | ok window =>
      obtain ⟨rfl, same⟩ := told.done_inv
      cases same
      exact .inr ⟨window, unknown, rfl, rfl⟩
  next known =>
    obtain ⟨rfl, same⟩ := reaches.done_inv
    cases same
    exact .inl ⟨known, rfl, rfl⟩

theorem askSigning_inv (reaches : Reaches (askSigning next) asked (.done (.ok info))) :
    ∃ signing later, asked = ⟨.signingInfo next.valcons, .ok signing⟩ :: later ∧
      Reaches (askWindow { next with tombstoned := signing.tombstoned, missed := signing.missedBlocks })
        later (.done (.ok info)) := by
  obtain ⟨found, later, rfl, told⟩ := reaches.call_inv
  cases found with
  | error err => cases told.done_inv.2
  | ok signing => exact ⟨signing, later, rfl, told⟩

theorem getValInfo_inv
    (reaches : Reaches (getValInfo env valAddress first current) asked (.done (.ok info))) :
    ∃ record valcons later, asked = ⟨.validator valAddress, .ok record⟩ :: later ∧
      valconsOf env valAddress first record.consensusAddress = .ok valcons ∧
      Reaches
        (askSigning
          { window := windowOf current
            conspub := record.consensusAddress
            moniker := record.moniker
            jailed := record.jailed
            bonded := record.bonded
            valcons := valcons })
        later (.done (.ok info)) := by
  obtain ⟨found, later, rfl, told⟩ := reaches.call_inv
  cases found with
  | error err => cases told.done_inv.2
  | ok record =>
    simp only at told
    cases encoded : valconsOf env valAddress first record.consensusAddress with
    | error failure =>
      rw [encoded] at told
      cases told.done_inv.2
    | ok valcons =>
      rw [encoded] at told
      exact ⟨record, valcons, later, rfl, encoded, told⟩

/-- The validator's record is the first answer, and it is published as it is. -/
theorem record_of_reaches
    (reaches : Reaches (getValInfo env valAddress first current) asked (.done (.ok info))) :
    ∃ record, asked.head? = some ⟨.validator valAddress, .ok record⟩ ∧ info.moniker = record.moniker ∧
      info.bonded = record.bonded ∧ info.jailed = record.jailed ∧
      info.conspub = record.consensusAddress := by
  obtain ⟨record, valcons, later, rfl, -, told⟩ := getValInfo_inv reaches
  obtain ⟨signing, last, rfl, windowed⟩ := askSigning_inv told
  refine ⟨record, rfl, ?_⟩
  rcases askWindow_inv windowed with ⟨-, -, rfl⟩ | ⟨window, -, -, rfl⟩ <;> exact ⟨rfl, rfl, rfl, rfl⟩

/-- A window that is known is kept. -/
theorem window_of_reaches
    (reaches : Reaches (getValInfo env valAddress first current) asked (.done (.ok info)))
    (known : windowOf current ≠ 0) : info.window = windowOf current := by
  obtain ⟨record, valcons, later, rfl, -, told⟩ := getValInfo_inv reaches
  obtain ⟨signing, last, rfl, windowed⟩ := askSigning_inv told
  rcases askWindow_inv windowed with ⟨-, -, rfl⟩ | ⟨window, unknown, -, -⟩
  · rfl
  · exact absurd unknown known

/-- Then the slashing parameters are not asked for, whatever the client answers. -/
theorem getValInfo_asks (known : windowOf current ≠ 0) :
    Asks (· ≠ .slashingParams) (getValInfo env valAddress first current) := by
  have window : ∀ next : ValInfo, next.window = windowOf current →
      Asks (· ≠ .slashingParams) (askWindow next) := by
    intro next same
    rw [askWindow, if_neg (by rwa [same])]
    trivial
  refine ⟨by rintro ⟨⟩, fun found => ?_⟩
  cases found with
  | error err => trivial
  | ok record =>
    dsimp only
    split
    · trivial
    next valcons _ =>
      refine ⟨by rintro ⟨⟩, fun signing => ?_⟩
      cases signing with
      | error err => trivial
      | ok signing => exact window _ rfl

end Outcome

/-! ## Runs -/

/-- Each publication started from what the one before it had published. -/
def Follows : Option ValInfo → List (Publication γ) → Prop
  | _, [] => True
  | current, publication :: later =>
    publication.current = current ∧ Follows (some publication.info) later

/-- What the publications leave as the current data. -/
def latest (current : Option ValInfo) (publications : List (Publication γ)) : Option ValInfo :=
  publications.foldl (fun _ publication => some publication.info) current

theorem Follows.concat {current : Option ValInfo} {publications : List (Publication γ)}
    (follows : Follows current publications) {next : Publication γ}
    (fits : next.current = latest current publications) :
    Follows current (publications ++ [next]) := by
  induction publications generalizing current with
  | nil => exact ⟨fits, trivial⟩
  | cons publication later ih => exact ⟨follows.1, ih follows.2 fits⟩

/-! ### The window -/

/-- Once a window was published, an entry neither asks for it nor changes it. -/
def keepsWindow (before : List (Entry γ)) (entry : Entry γ) : Prop :=
  ∀ publication, .published publication ∈ before → publication.info.window ≠ 0 →
    match entry with
    | .asked _ query => query ≠ .slashingParams
    | .published next => next.info.window = publication.info.window

/-- The log keeps the window, and what is published now has it. -/
structure Settled (log : List (Entry γ)) (current : Option ValInfo) : Prop where
  kept : Guarded keepsWindow log
  known : ∀ publication, .published publication ∈ log → publication.info.window ≠ 0 →
    windowOf current = publication.info.window

section Window
variable {log : List (Entry γ)} {current : Option ValInfo}

theorem Settled.start : Settled ([] : List (Entry γ)) current := ⟨guarded_nil, by simp⟩

/-- The next question of a refresh that started from the published data. -/
theorem Settled.question (settled : Settled log current) (client : γ)
    {program : Prog Query Query.Answer (Except Failure ValInfo)}
    (asks : windowOf current ≠ 0 → Asks (· ≠ .slashingParams) program) :
    Settled (log ++ question client program) current := by
  cases program with
  | done result => rwa [Validator.question, List.append_nil]
  | call query next =>
    refine ⟨settled.kept.concat fun publication member nonzero => ?_, fun publication member => ?_⟩
    · have same := settled.known publication member nonzero
      exact (asks (by rwa [same])).1
    · rcases List.mem_append.mp member with old | new
      · exact settled.known publication old
      · cases List.mem_singleton.mp new

theorem Settled.publish (settled : Settled log current) {publication : Publication γ}
    (same : windowOf current ≠ 0 → publication.info.window = windowOf current) :
    Settled (log ++ [.published publication]) (some publication.info) := by
  -- What was known before is what the new data has.
  have carried : ∀ earlier, .published earlier ∈ log → earlier.info.window ≠ 0 →
      publication.info.window = earlier.info.window := by
    intro earlier member nonzero
    have known := settled.known earlier member nonzero
    exact (same (by rwa [known])).trans known
  refine ⟨settled.kept.concat carried, fun earlier member nonzero => ?_⟩
  rcases List.mem_append.mp member with old | new
  · exact carried earlier old nonzero
  · cases List.mem_singleton.mp new
    rfl

end Window

theorem publications_question (log : List (Entry γ)) (client : γ)
    (program : Prog Query Query.Answer (Except Failure ValInfo)) :
    (log ++ question client program).filterMap Entry.publication? =
      log.filterMap Entry.publication? := by
  cases program <;> simp [question, Entry.publication?]

variable {env valAddress}

/-- A refresh under way uses the client that is installed and started from what is published;
every publication is a run of `GetValInfo` against the answers of its client. -/
structure Inv (env : Env) (valAddress : String) (refresher : Refresher γ) : Prop where
  task : ∀ first client current asked program,
    refresher.task = some (.refreshing first client current asked program) →
    refresher.client = some client ∧ current = refresher.monitoring.valInfo ∧
      Reaches (getValInfo env valAddress first current) asked program
  published : ∀ publication ∈ refresher.publications,
    publication.installed = some publication.client ∧
      Reaches (getValInfo env valAddress publication.first publication.current) publication.asked
        (.done (.ok publication.info))
  follows : Follows Watch.Watched.start.monitoring.valInfo refresher.publications
  current : refresher.monitoring.valInfo =
    latest Watch.Watched.start.monitoring.valInfo refresher.publications
  monitoring : refresher.monitoring = refresher.publications.foldl
    (fun monitoring publication =>
      Watch.publishValidatorInfo monitoring publication.info !publication.first)
    Watch.Watched.start.monitoring
  window : Settled refresher.log refresher.monitoring.valInfo

theorem Inv.start : Inv env valAddress ({} : Refresher γ) :=
  ⟨by rintro _ _ _ _ _ ⟨⟩, by simp [Refresher.publications], trivial, rfl, rfl, .start⟩

/-- A refresh goes on to its next question. -/
theorem Inv.ask {refresher : Refresher γ} (inv : Inv env valAddress refresher) {first : Bool}
    {client : γ} {asked : List (Asked Query Query.Answer)}
    {program : Prog Query Query.Answer (Except Failure ValInfo)}
    (installed : refresher.client = some client)
    (reaches : Reaches (getValInfo env valAddress first refresher.monitoring.valInfo) asked program) :
    Inv env valAddress
      { refresher with
        task := some (.refreshing first client refresher.monitoring.valInfo asked program)
        log := refresher.log ++ question client program } := by
  have same := publications_question refresher.log client program
  refine ⟨?_, ?_, ?_, ?_, ?_, inv.window.question client fun known => ?_⟩
  · rintro _ _ _ _ _ ⟨⟩
    exact ⟨installed, rfl, reaches⟩
  · simpa only [Refresher.publications, same] using inv.published
  · simpa only [Refresher.publications, same] using inv.follows
  · simpa only [Refresher.publications, same] using inv.current
  · simpa only [Refresher.publications, same] using inv.monitoring
  · exact (getValInfo_asks known).reached reaches

/-- A refresh publishes its result. -/
theorem Inv.publish {refresher : Refresher γ} (inv : Inv env valAddress refresher) {first : Bool}
    {client : γ} {asked : List (Asked Query Query.Answer)} {info : ValInfo}
    (installed : refresher.client = some client)
    (reaches : Reaches (getValInfo env valAddress first refresher.monitoring.valInfo) asked
      (.done (.ok info))) :
    Inv env valAddress
      { refresher with
        monitoring := Watch.publishValidatorInfo refresher.monitoring info !first
        task := none
        log := refresher.log ++ [.published
          { first, client, installed := refresher.client, current := refresher.monitoring.valInfo,
            asked, info }] } := by
  obtain ⟨-, published, follows, current, monitoring, window⟩ := inv
  simp only [Refresher.publications] at published follows current monitoring
  refine ⟨by rintro _ _ _ _ _ ⟨⟩, ?_, ?_, ?_, ?_, window.publish (window_of_reaches reaches)⟩ <;>
    simp only [Refresher.publications, List.filterMap_append, List.filterMap_cons,
      Entry.publication?, List.filterMap_nil]
  · intro publication member
    rcases List.mem_append.mp member with old | new
    · exact published publication old
    · rw [List.mem_singleton.mp new]
      exact ⟨installed, reaches⟩
  · exact follows.concat current
  · simp [latest, Watch.publishValidatorInfo]
  · simp [← monitoring]

theorem Inv.step {refresher after : Refresher γ} {next : Step γ} (inv : Inv env valAddress refresher)
    (taken : step env valAddress refresher next = some after) : Inv env valAddress after := by
  -- Whoever gives the lock back leaves no refresh under way.
  have free : ∀ client crashed, Inv env valAddress
      { refresher with client := client, task := none, crashed := crashed } := fun _ _ =>
    { inv with task := by rintro _ _ _ _ _ ⟨⟩ }
  cases next with
  | enterSelection =>
    simp only [Validator.step] at taken
    split at taken <;> cases taken
    exact { inv with task := by rintro _ _ _ _ _ ⟨⟩ }
  | leaveSelection found =>
    simp only [Validator.step] at taken
    split at taken <;> cases taken
    exact free _ _
  | enterRefresh first =>
    simp only [Validator.step] at taken
    split at taken <;> cases taken
    · exact inv
    next client _ installed => exact inv.ask installed (.here _)
  | answer reply =>
    simp only [Validator.step] at taken
    split at taken <;> cases taken
    next first client snapshot asked query more here =>
      obtain ⟨installed, rfl, reaches⟩ := inv.task _ _ _ _ _ here
      exact inv.ask installed (reaches.ask _)
  | finish =>
    simp only [Validator.step] at taken
    split at taken <;> cases taken
    next first client snapshot asked info here =>
      obtain ⟨installed, rfl, reaches⟩ := inv.task _ _ _ _ _ here
      exact inv.publish installed reaches
    · exact free _ _
    · exact free _ _

theorem Inv.run {refresher : Refresher γ} {steps : List (Step γ)}
    (runs : Machine.run (Validator.step env valAddress) {} steps = some refresher) :
    Inv env valAddress refresher :=
  Machine.run_invariant (fun _ _ _ inv (_ : True) taken => inv.step taken) runs (fun _ _ => trivial)
    .start

/-- However selection and refresh interleave: every published value was computed by
`GetValInfo` from the answers of one client, which was the installed one until the
publication, and from the value published just before. The snapshots are the publications
in their order. -/
theorem refresh_uses_one_client {refresher : Refresher γ} {steps : List (Step γ)}
    (runs : Machine.run (Validator.step env valAddress) {} steps = some refresher) :
    (∀ publication ∈ refresher.publications,
      publication.installed = some publication.client ∧
      Reaches (getValInfo env valAddress publication.first publication.current) publication.asked
        (.done (.ok publication.info))) ∧
    Follows Watch.Watched.start.monitoring.valInfo refresher.publications ∧
    refresher.monitoring = refresher.publications.foldl
      (fun monitoring publication =>
        Watch.publishValidatorInfo monitoring publication.info !publication.first)
      Watch.Watched.start.monitoring := by
  have inv := Inv.run runs
  exact ⟨inv.published, inv.follows, inv.monitoring⟩

/-- A consensus address of twenty bytes, and its bech32 text. -/
def nosAddress : List UInt8 := [1, 2, 3, 4, 5, 6, 7, 8, 9, 10, 11, 12, 13, 14, 15, 16, 17, 18, 19, 20]

def nosValcons : String := "cosmosvalcons1qypqxpq9qcrsszg2pvxq6rs0zqg3yyc5w9thxw"

def nosValoper : String := "cosmosvaloper1z5tpwxqergd3c8g7ruszzg3rysjjvfegdnv9ze"

/-- The encoder at this address; a copy has no room to spare. -/
def nosEnv : Env where
  encode human address :=
    if human = "cosmosvalcons" ∧ address = nosAddress then .ok nosValcons
    else .error "address not covered"
  capacity length := length
  fits _ := Nat.le_refl _

/-- Four refreshes with a change of the client behind the first; the second client would answer
another window. The second refresh fails and the last one has only begun. -/
def fourRefreshes : List (Step Nat) :=
  let reply (window : Int) : (query : Query) → query.Answer
    | .validator _ => .ok { consensusAddress := nosAddress, moniker := "NosNode", bonded := true }
    | .signingInfo _ => .ok { missedBlocks := 3 }
    | .slashingParams => .ok window
  let refuse : (query : Query) → query.Answer
    | .validator _ => .error "refused"
    | .signingInfo _ => .error "refused"
    | .slashingParams => .error "refused"
  [.enterSelection, .leaveSelection (some 1), .enterRefresh true, .answer (reply 100),
    .answer (reply 100), .answer (reply 100), .finish,
    .enterSelection, .leaveSelection (some 2), .enterRefresh false, .answer (reply 200),
    .answer refuse, .finish,
    .enterRefresh false, .answer (reply 200), .answer (reply 200), .finish,
    .enterRefresh false, .answer (reply 200)]

/-- The state after them. -/
def afterRefreshes : Refresher Nat :=
  (Machine.run (Validator.step nosEnv nosValoper) {} fourRefreshes).getD {}

theorem run_fourRefreshes :
    Machine.run (Validator.step nosEnv nosValoper) {} fourRefreshes = some afterRefreshes := rfl

theorem refresh_uses_one_client_switched :
    afterRefreshes.publications.map (fun p => (p.client, p.info.valcons, p.info.window)) =
      [(1, nosValcons, 100), (2, nosValcons, 100)] ∧
    ∀ publication ∈ afterRefreshes.publications,
      publication.installed = some publication.client :=
  ⟨rfl, fun publication member => ((refresh_uses_one_client run_fourRefreshes).1 publication member).1⟩

/-- The slashing window is read once: behind a publication with a window every publication has
the same, and no refresh, finished or not, asks a client for it again. -/
theorem window_never_refreshed {refresher : Refresher γ} {steps : List (Step γ)}
    (runs : Machine.run (Validator.step env valAddress) {} steps = some refresher)
    {earlier later : List (Entry γ)} {publication : Publication γ}
    (split : refresher.log = earlier ++ .published publication :: later)
    (known : publication.info.window ≠ 0) :
    (∀ next, .published next ∈ later → next.info.window = publication.info.window) ∧
      ∀ client query, .asked client query ∈ later → query ≠ .slashingParams := by
  have guarded : ∀ entry ∈ later,
      ∃ before, .published publication ∈ before ∧ keepsWindow before entry := by
    intro entry member
    obtain ⟨between, behind, rfl⟩ := List.append_of_mem member
    exact ⟨earlier ++ .published publication :: between, by simp,
      (Inv.run runs).window.kept _ entry behind (by simp [split])⟩
  constructor
  · intro next member
    obtain ⟨before, listed, keeps⟩ := guarded _ member
    exact keeps publication listed known
  · intro client query member
    obtain ⟨before, listed, keeps⟩ := guarded _ member
    exact keeps publication listed known

/-- Behind the first publication the log has five questions, two of a refresh that failed and
one of a refresh that has only begun. -/
theorem window_never_refreshed_switched :
    ∃ earlier publication later, afterRefreshes.log = earlier ++ .published publication :: later ∧
      publication.info.window = 100 ∧ later.length = 7 ∧
      ∀ client query, .asked client query ∈ later → query ≠ .slashingParams := by
  have split : afterRefreshes.log = [_, _, _] ++ .published _ :: _ := rfl
  exact ⟨_, _, _, split, rfl, rfl, (window_never_refreshed run_fourRefreshes split (by decide)).2⟩

end Steps

/-! ## A consensus address in the configuration -/

/-- What the staking query of a node comes back with. -/
inductive StakingReply where
  | failed (err : String)
  | empty
  | malformed (err : String)
  | noPubkey
  | badPubkey (err : String)
  /-- An unknown type of key has no address. -/
  | found (address : List UInt8) (moniker : String) (jailed bonded : Bool)

/-- `Validator` of the CometBFT client. A consensus address is decoded and not looked up. -/
def cometValidator (decode : String → Option (List UInt8)) (reply : StakingReply)
    (address : String) : Except String ValidatorRecord :=
  if mentions "valcons" address then
    match decode address with
    | none => .error ("could not decode and convert your address" ++ address)
    | some decoded => .ok { consensusAddress := decoded, moniker := address, bonded := true }
  else match reply with
    | .failed err => .error err
    | .empty => .error ("could not find validator " ++ address)
    | .malformed err => .error err
    | .noPubkey => .error ("got invalid consensus pubkey for " ++ address)
    | .badPubkey err => .error err
    | .found consensusAddress moniker jailed bonded =>
      if consensusAddress = [] then .error ("could not get pubkey for" ++ address)
      else .ok { consensusAddress, moniker, jailed, bonded }

/-- The answers about a validator are those of the CometBFT client. -/
def FromComet (decode : String → Option (List UInt8)) : Asked Query Query.Answer → Prop
  | ⟨.validator address, answer⟩ => ∃ reply, answer = cometValidator decode reply address
  | _ => True

/-- A refresh through the CometBFT client. -/
def Obtained (env : Env) (decode : String → Option (List UInt8)) (valAddress : String)
    (first : Bool) (info : ValInfo) : Prop :=
  ∃ current asked, Reaches (getValInfo env valAddress first current) asked (.done (.ok info)) ∧
    ∀ entry ∈ asked, FromComet decode entry

section Valcons
variable {env : Env} {decode : String → Option (List UInt8)} {valAddress : String}

theorem Obtained.valcons {first : Bool} {info : ValInfo}
    (obtained : Obtained env decode valAddress first info)
    (valcons : mentions "valcons" valAddress = true) :
    info.bonded = true ∧ info.moniker = valAddress ∧ info.jailed = false := by
  obtain ⟨current, asked, reaches, comet⟩ := obtained
  obtain ⟨record, head, moniker, bonded, jailed, -⟩ := record_of_reaches reaches
  obtain ⟨reply, answer⟩ := comet _ (List.mem_of_mem_head? head)
  unfold cometValidator at answer
  rw [if_pos valcons] at answer
  split at answer <;> cases answer
  exact ⟨bonded, moniker, jailed⟩

/-- Before the first refresh there is only the placeholder; afterwards every snapshot says that
the validator is active, but for the placeholder itself. -/
def AlwaysActive (valAddress : String) (monitoring : Monitoring) : Prop :=
  monitoring = Watch.Watched.start.monitoring ∨
    ∃ info, monitoring.valInfo = some info ∧ info.bonded = true ∧ info.moniker = valAddress ∧
      ∀ last, monitoring.lastValInfo = some last →
        last.bonded = true ∨ last.moniker = "not connected"

theorem AlwaysActive.publish {monitoring : Monitoring} (active : AlwaysActive valAddress monitoring)
    {info : ValInfo} (bonded : info.bonded = true) (moniker : info.moniker = valAddress)
    (retain : Bool) : AlwaysActive valAddress (Watch.publishValidatorInfo monitoring info retain) := by
  refine .inr ⟨info, rfl, bonded, moniker, fun last previous => ?_⟩
  rcases active with rfl | ⟨old, current, active, -, earlier⟩
  · cases retain with
    | true => cases previous; exact .inr rfl
    | false => cases previous
  · cases retain with
    | true =>
      have same : old = last := Option.some.inj (current.symm.trans previous)
      exact .inl (same ▸ active)
    | false => exact earlier last previous

theorem AlwaysActive.after (config : Config) (chain : ChainConfig) {events : List Watch.Refreshing}
    (obtained : ∀ first info, Watch.Refreshing.refresh first info ∈ events →
      info.bonded = true ∧ info.moniker = valAddress) :
    AlwaysActive valAddress (Watch.watchedAfter config chain events).monitoring := by
  induction events using List.reverseRecOn with
  | nil => exact .inl rfl
  | append_singleton events event ih =>
    have before := ih fun first info member => obtained first info (List.mem_append_left _ member)
    simp only [Watch.watchedAfter, List.foldl_append, List.foldl_cons, List.foldl_nil] at before ⊢
    cases event with
    | refresh first info =>
      obtain ⟨bonded, moniker⟩ := obtained first info (by simp)
      exact before.publish bonded moniker _
    | tick reads => exact before
    | block now => exact before

/-- Against such snapshots the loop finds no change. -/
theorem AlwaysActive.quiet {monitoring : Monitoring} (active : AlwaysActive valAddress monitoring)
    (named : valAddress ≠ "not connected") (chain : ChainConfig) (reason : String) {info : ValInfo}
    (found : monitoring.valInfo = some info) :
    (Watch.watchInactive chain reason info monitoring.lastValInfo).2 = [] := by
  rcases active with rfl | ⟨current, same, bonded, moniker, earlier⟩
  · rfl
  · cases found.symm.trans same
    cases last : monitoring.lastValInfo with
    | none => rfl
    | some previous =>
      rcases earlier previous last with stillBonded | placeholder
      · simp [Watch.watchInactive, bonded, stillBonded]
      · have other : previous.moniker ≠ info.moniker := by
          rw [placeholder, moniker]
          exact Ne.symm named
        simp [Watch.watchInactive, other]

/-- With a consensus address in the configuration the loop never reports the validator as
inactive: the client takes every such validator for active. -/
theorem valcons_never_inactive (config : Config) (chain : ChainConfig)
    (valcons : mentions "valcons" chain.valAddress = true) (events : List Watch.Refreshing)
    (obtained : ∀ first info, Watch.Refreshing.refresh first info ∈ events →
      Obtained env decode chain.valAddress first info)
    (reads : Watch.Seen) :
    Watch.Alarm.inactive ∉ (Watch.refreshingStep config chain
      (Watch.watchedAfter config chain events) (.tick reads)).2.map (·.alarm) := by
  intro listed
  obtain ⟨emission, emitted, kind⟩ := List.mem_map.mp listed
  have active : AlwaysActive chain.valAddress (Watch.watchedAfter config chain events).monitoring := by
    refine .after config chain fun first info member => ?_
    obtain ⟨bonded, moniker, -⟩ := (obtained first info member).valcons valcons
    exact ⟨bonded, moniker⟩
  have named : chain.valAddress ≠ "not connected" := by
    intro same
    rw [same] at valcons
    exact absurd valcons (by decide)
  generalize Watch.watchedAfter config chain events = watched at emitted active
  cases Watch.emits_of_mem_tick emitted with
  | @inactive info main found enabled reason reasoned resolved =>
    have here : Watch.inactiveAlert info reason resolved ∈ (Watch.tick config chain watched.state
      (Watch.snapshotSeen watched.monitoring reads)).2 := emitted
    rw [Watch.tick_main config chain main,
      Watch.inactive_mem_mainTick config chain watched.state _ found] at here
    rw [show (Watch.snapshotSeen watched.monitoring reads).lastValInfo =
      watched.monitoring.lastValInfo from rfl, active.quiet named chain _ found] at here
    exact absurd here List.not_mem_nil
  | waitServers | servers | stalled | consecutive | percentage | nodeDown => cases kind

def valconsChain : ChainConfig :=
  { valAddress := nosValcons, alerts := { alertIfInactive := true } }

/-- What a refresh publishes for it, whatever the node says about the validator. -/
def valconsInfo : ValInfo :=
  { moniker := nosValcons, bonded := true, missed := 9, window := 10
    conspub := nosAddress, valcons := nosValcons }

/-- The decoder at this address. -/
def nosDecode (text : String) : Option (List UInt8) :=
  if text = nosValcons then some nosAddress else none

theorem obtained_valconsInfo (first : Bool) :
    Obtained nosEnv nosDecode nosValcons first valconsInfo := by
  refine ⟨none, [⟨.validator nosValcons, cometValidator nosDecode .empty nosValcons⟩,
    ⟨.signingInfo nosValcons, .ok { missedBlocks := 9 }⟩, ⟨.slashingParams, .ok 10⟩], ?_, ?_⟩
  · exact .answered _ _ _ (.answered _ _ _ (.answered _ _ _ (.here _)))
  · intro entry member
    simp only [List.mem_cons, List.not_mem_nil, or_false] at member
    rcases member with rfl | rfl | rfl
    · exact ⟨.empty, rfl⟩
    · trivial
    · trivial

/-- A validator that misses nine blocks of ten. -/
def valconsEvents : List Watch.Refreshing :=
  [.refresh true valconsInfo, .tick Watch.quietReads, .refresh false valconsInfo]

theorem valcons_never_inactive_missing :
    Watch.Alarm.inactive ∉ (Watch.refreshingStep {} valconsChain
      (Watch.watchedAfter {} valconsChain valconsEvents) (.tick Watch.quietReads)).2.map (·.alarm) := by
  have obtained : ∀ first info, Watch.Refreshing.refresh first info ∈ valconsEvents →
      Obtained nosEnv nosDecode valconsChain.valAddress first info := by
    intro first info member
    have same : info = valconsInfo := by
      simp only [valconsEvents, List.mem_cons, Watch.Refreshing.refresh.injEq, reduceCtorEq,
        List.not_mem_nil, or_false, false_or] at member
      rcases member with ⟨-, same⟩ | ⟨-, same⟩ <;> exact same
    exact same ▸ obtained_valconsInfo first
  exact valcons_never_inactive {} valconsChain (by decide) valconsEvents obtained Watch.quietReads

end Valcons

end Seer.Validator
