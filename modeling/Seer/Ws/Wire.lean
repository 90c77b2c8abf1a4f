import Seer.Lib.Strconv
import Seer.Ws.Delivery

/-!
# The events of a node as they are sent

A node writes heights as decimal text and addresses as upper-case hexadecimal text. The
websocket handlers read the heights back and compare the texts of addresses. Here the blocks
and votes are given as the node has them, and every session is shown to come to the results
that their bytes and numbers say.
-/
namespace Seer.Ws

open Seer.Lib
open Seer.State (Bytes)

def normalizeConsensusAddress (address : Bytes) : String :=
  String.ofList ((Strconv.encodeHex address).map Char.toUpper)

def toBytes (address : String) : Bytes :=
  Strconv.decodeHex (address.toList.map Char.toLower)

/-- `stringInt64.val`, which drops the error of `strconv.ParseInt`. -/
def val (value : String) : Int := (Strconv.parseInt value.toList).1

/-- `cometBFTBlockWire`, as far as it is read. -/
structure BlockWire where
  height : String := ""
  proposerAddress : String := ""
  /-- The addresses of the signatures. -/
  signatures : List String := []

/-- `cometBFTVoteWire`. -/
structure VoteWire where
  type : Int := 0
  height : String := ""
  validatorAddress : String := ""

def decodeBlockEvent (wire : BlockWire) : BlockEvent :=
  { height := val wire.height
    proposerAddress := wire.proposerAddress
    validatorAddresses := wire.signatures }

def decodeVoteEvent (wire : VoteWire) : VoteEvent :=
  { type := wire.type
    height := val wire.height
    validatorAddress := wire.validatorAddress }

/-! ## What the node sends -/

/-- A block as the node has it; a validator that did not sign has no address in the commit. -/
structure Block where
  height : Int
  proposer : Bytes
  commit : List (Option Bytes)

structure Vote where
  type : Int
  height : Int
  validator : Bytes

namespace Block

def wire (block : Block) : BlockWire :=
  { height := block.height.repr
    proposerAddress := normalizeConsensusAddress block.proposer
    signatures := block.commit.map fun
      | some address => normalizeConsensusAddress address
      | none => "" }

/-- What the block says about a validator. -/
def result (block : Block) (validator : Bytes) : StatusUpdate :=
  { height := block.height
    status := if block.proposer = validator then .proposed
      else if some validator ∈ block.commit then .signed
      else .missed
    final := true }

end Block

namespace Vote

def wire (vote : Vote) : VoteWire :=
  { type := vote.type
    height := vote.height.repr
    validatorAddress := normalizeConsensusAddress vote.validator }

def result (vote : Vote) (validator : Bytes) : Option StatusUpdate :=
  if vote.validator ≠ validator then none
  else some
    { height := vote.height
      status := if vote.type = voteTypePrevote then .prevote
        else if vote.type = voteTypePrecommit then .precommit
        else if vote.type = voteTypeProposal then .proposed
        else .missed }

end Vote

/-- A message of the node: a block, a vote, or something else. -/
inductive Sent where
  | newBlock (block : Block)
  | newVote (vote : Vote)
  | other

namespace Sent

/-- The message as the reader and the handlers decode it. -/
def message : Sent → Message
  | .newBlock block => .block (some (decodeBlockEvent block.wire))
  | .newVote vote => .vote (some (decodeVoteEvent vote.wire))
  | .other => .other

/-- Heights have 64 bits. -/
def Fits : Sent → Prop
  | .newBlock block => Strconv.Fits block.height
  | .newVote vote => Strconv.Fits vote.height
  | .other => True

instance : (sent : Sent) → Decidable sent.Fits
  | .newBlock block => inferInstanceAs (Decidable (Strconv.Fits block.height))
  | .newVote vote => inferInstanceAs (Decidable (Strconv.Fits vote.height))
  | .other => inferInstanceAs (Decidable True)

def voteResult (validator : Bytes) : Sent → Option StatusUpdate
  | .newVote vote => vote.result validator
  | _ => none

def blockResult (validator : Bytes) : Sent → Option StatusUpdate
  | .newBlock block => some (block.result validator)
  | _ => none

end Sent

/-! ## Reading it back -/

theorem toBytes_normalizeConsensusAddress (address : Bytes) :
    toBytes (normalizeConsensusAddress address) = address := by
  rw [toBytes, normalizeConsensusAddress, String.toList_ofList, Strconv.lower_upper_encodeHex,
    Strconv.decodeHex_encodeHex]

/-- Addresses are equal exactly when their texts are. -/
theorem normalizeConsensusAddress_inj {address other : Bytes} :
    normalizeConsensusAddress address = normalizeConsensusAddress other ↔ address = other := by
  constructor
  · intro same
    rw [← toBytes_normalizeConsensusAddress address, same, toBytes_normalizeConsensusAddress]
  · intro same
    rw [same]

/-- Whatever text a node sends, the height read from it has 64 bits. -/
theorem fits_val (value : String) : Strconv.Fits (val value) := Strconv.fits_parseInt value.toList

theorem val_repr {height : Int} (fits : Strconv.Fits height) : val height.repr = height := by
  rw [val, Strconv.parseInt_repr fits]

section Classify
variable {validator : Bytes}

theorem mem_signatures (block : Block) (named : validator ≠ []) :
    normalizeConsensusAddress validator ∈ block.wire.signatures ↔ some validator ∈ block.commit := by
  simp only [Block.wire, List.mem_map]
  constructor
  · rintro ⟨signature, listed, same⟩
    cases signature with
    | none =>
      -- The empty text stands for no address but the empty one.
      have empty : normalizeConsensusAddress [] = normalizeConsensusAddress validator := same
      exact absurd (normalizeConsensusAddress_inj.mp empty).symm named
    | some address =>
      rw [normalizeConsensusAddress_inj.mp same] at listed
      exact listed
  · intro listed
    exact ⟨some validator, listed, rfl⟩

theorem classifyBlockEvent_wire {block : Block} (named : validator ≠ [])
    (fits : Strconv.Fits block.height) :
    classifyBlockEvent (decodeBlockEvent block.wire) (normalizeConsensusAddress validator) =
      block.result validator := by
  have signed := mem_signatures block named
  have proposed : normalizeConsensusAddress block.proposer = normalizeConsensusAddress validator ↔
    block.proposer = validator := normalizeConsensusAddress_inj
  have height : val block.wire.height = block.height := val_repr fits
  simp only [classifyBlockEvent, decodeBlockEvent, Block.result, height, signed]
  simp only [Block.wire, proposed]

theorem classifyVoteEvent_wire {vote : Vote} (fits : Strconv.Fits vote.height) :
    classifyVoteEvent (decodeVoteEvent vote.wire) (normalizeConsensusAddress validator) =
      vote.result validator := by
  have voter : normalizeConsensusAddress vote.validator = normalizeConsensusAddress validator ↔
    vote.validator = validator := normalizeConsensusAddress_inj
  simp only [classifyVoteEvent, decodeVoteEvent, Vote.wire, Vote.result, val_repr fits, ne_eq, voter]

theorem blockUpdate_message {sent : Sent} (named : validator ≠ []) (fits : sent.Fits) :
    sent.message.blockUpdate (normalizeConsensusAddress validator) = sent.blockResult validator := by
  cases sent with
  | newBlock block => exact congrArg some (classifyBlockEvent_wire named fits)
  | newVote vote => rfl
  | other => rfl

theorem voteUpdate_message {sent : Sent} (fits : sent.Fits) :
    sent.message.voteUpdate (normalizeConsensusAddress validator) = sent.voteResult validator := by
  cases sent with
  | newBlock block => rfl
  | newVote vote => exact classifyVoteEvent_wire fits
  | other => rfl

end Classify

/-! ## A session -/

/-- The updates of a lane come from the events behind its messages. -/
theorem filterMap_messages {classify : Message → Option StatusUpdate}
    {result : Sent → Option StatusUpdate} {events : List Sent}
    (agree : ∀ sent ∈ events, classify sent.message = result sent) :
    (events.map Sent.message).filterMap classify = events.filterMap result := by
  rw [List.filterMap_map]
  exact List.filterMap_congr agree

/-- What the aggregator took of a lane is an initial part of the lane's updates. -/
theorem Lane.taken_prefix {kind : Bool} {classify : Message → Option StatusUpdate}
    {taken : List StatusUpdate} {handler : Option StatusUpdate} {reader : Option Message}
    {read : List Message} (lane : Lane kind classify taken handler reader read) :
    taken.filter (·.final == kind) <+: read.filterMap classify := by
  rw [← lane.inOrder, List.append_assoc]
  exact List.prefix_append _ _

namespace Session

/-- In every session for a validator, whatever a node sends and however far the goroutines
have come: the block results that the aggregator took are the first of what the blocks of
the node say about the validator's address, each with the height of its block, and the votes
it took are the first of the validator's own. No other validator's block or vote is taken
for the validator's, and none of the validator's is skipped. -/
theorem results_by_address {config : Config} {chain : ChainConfig} {session : Session}
    {steps : List SessionStep} {validator : Bytes} {events : List Sent}
    (runs : Machine.run (Session.step config) (Session.fresh chain) steps = some session)
    (named : validator ≠ [])
    (address : session.flow.address = normalizeConsensusAddress validator)
    (read : session.flow.read = events.map Sent.message) (fits : ∀ sent ∈ events, sent.Fits) :
    session.flow.taken.filter (·.final == true) <+: events.filterMap (Sent.blockResult validator) ∧
    session.flow.taken.filter (·.final == false) <+: events.filterMap (Sent.voteResult validator) := by
  have delivers : session.Delivers config := Machine.run_invariant
    (fun _ _ _ delivers (_ : True) taken => delivers.step taken) runs (fun _ _ => trivial)
    (.fresh chain)
  constructor
  · have taken := delivers.flow.blocks.taken_prefix
    rwa [address, read, filterMap_messages fun sent member =>
      blockUpdate_message named (fits sent member)] at taken
  · have taken := delivers.flow.votes.taken_prefix
    rwa [address, read, filterMap_messages fun sent member =>
      voteUpdate_message (fits sent member)] at taken

/-- The validator's prevote, a block it proposed and one it did not sign. -/
def threeEvents : List Sent :=
  [.newVote ⟨1, 7, [0xab, 0x01]⟩, .newBlock ⟨7, [0xab, 0x01], [none]⟩, .other,
    .newBlock ⟨8, [0xcd], [some [0xcd], none]⟩]

def threeEventsSession : List SessionStep :=
  [.link .start, .link (.ready "AB01"), .link (.dial true), .store 0] ++
  threeEvents.map (fun sent => .flow (.arrive sent.message)) ++
  [.flow .read, .flow (.hand 1), .flow .read, .flow (.hand 2),
    .flow (.takeVote { valInfo := some { bonded := true }, now := ⟨unixEpoch, Int.le_refl _⟩ }),
    .flow (.takeBlock { valInfo := some { bonded := true }, now := ⟨unixEpoch, Int.le_refl _⟩ }),
    .flow .read, .flow .read]

theorem results_by_address_three_events :
    ∃ session, Machine.run (Session.step {}) (Session.fresh {}) threeEventsSession = some session ∧
      session.flow.taken = [⟨7, .prevote, false⟩, ⟨7, .proposed, true⟩] ∧
      session.flow.taken.filter (·.final == true) <+:
        threeEvents.filterMap (Sent.blockResult [0xab, 0x01]) := by
  have runs : Machine.run (Session.step {}) (Session.fresh {}) threeEventsSession = some _ := rfl
  refine ⟨_, runs, ?_, ?_⟩
  · decide
  · have named : ([0xab, 0x01] : Bytes) ≠ [] := by decide
    exact (results_by_address runs named (by decide) rfl (by decide)).1

end Session

end Seer.Ws
