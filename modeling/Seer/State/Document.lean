import Seer.Types

/-!
# The state document and its loader

`encoding/json` enters as a codec: what `Encode` writes for a document, and what
two successive `Decode` calls make of a file. Everything the program decides on
top of it (empty files, null documents, trailing data, versions, documents
without durable fields, the fall-back to the backup) is modelled here.
-/
namespace Seer.State

open Seer.Lib

abbrev Bytes : Type := List UInt8

def currentStateVersion : Int := 1

def stateBackupSuffix : String := ".bak"

structure StateDocument where
  version : Int := 0
  alarms : Option SavedAlarms := none
  blocks : Option (Table String (List Int)) := none
  nodesDown : Option (Table String (Table String Time)) := none
  deriving DecidableEq

structure StateLoadInfo where
  source : String := ""
  version : Int := 0
  legacy : Bool := false
  recoveredFromBackup : Bool := false
  deriving DecidableEq, Repr

/-- What a second `Decode` finds behind the document. -/
inductive Trailing where
  | eof
  | value
  | invalid (cause : GoError)

/-- The state file's use of `encoding/json`. -/
structure StateCodec where
  /-- The bytes `json.NewEncoder(w).Encode(&document)` hands to `w`. -/
  encode : StateDocument → Except GoError Bytes
  /-- The first `Decode`: the document (`none` for JSON null) and the unread bytes. -/
  decode : Bytes → Except GoError (Option StateDocument × Bytes)
  /-- The second `Decode`, on the unread bytes. -/
  decodeTrailing : Bytes → Trailing

/-- Length of the white space at the head of a UTF-8 text, `unicode.IsSpace` by its encodings. -/
def spaceWidth : Bytes → Nat
  | 0xE1 :: 0x9A :: 0x80 :: _ => 3
  | 0xE2 :: 0x80 :: c :: _ =>
    if (0x80 ≤ c ∧ c ≤ 0x8A) ∨ c = 0xA8 ∨ c = 0xA9 ∨ c = 0xAF then 3 else 0
  | 0xE2 :: 0x81 :: 0x9F :: _ => 3
  | 0xE3 :: 0x80 :: 0x80 :: _ => 3
  | 0xC2 :: c :: _ => if c = 0x85 ∨ c = 0xA0 then 2 else 0
  | c :: _ => if (0x09 ≤ c ∧ c ≤ 0x0D) ∨ c = 0x20 then 1 else 0
  | [] => 0

/-- `len(bytes.TrimSpace(data)) == 0`. The fuel is the number of bytes left. -/
def blankWithin : Nat → Bytes → Bool
  | _, [] => true
  | 0, _ => false
  | fuel + 1, data => match spaceWidth data with
    | 0 => false
    | width => blankWithin fuel (data.drop width)

def blank (data : Bytes) : Bool := blankWithin data.length data

def decodeState (codec : StateCodec) (data : Bytes) :
    Except GoError (SavedState × StateLoadInfo) :=
  if blank data then .error (.text "state file is empty")
  else match codec.decode data with
  | .error cause => .error (.wrap "decode state JSON" cause)
  | .ok (none, _) => .error (.text "state document is null")
  | .ok (some document, rest) => match codec.decodeTrailing rest with
    | .value => .error (.text "state file contains multiple JSON values")
    | .invalid cause => .error (.wrap "decode trailing state data" cause)
    | .eof =>
      -- Version 0 is a legacy document without the field.
      if document.version < 0 ∨ document.version > currentStateVersion then
        .error (.text ("unsupported state version " ++ toString document.version))
      else if document.alarms.isNone ∧ document.blocks.isNone ∧ document.nodesDown.isNone then
        .error (.text "state document contains no durable state fields")
      else .ok ({ alarms := document.alarms, blocks := document.blocks,
                  nodesDown := document.nodesDown },
                { version := document.version, legacy := document.version == 0 })

/-- Whether a file's bytes are known-good state. -/
def decodable (codec : StateCodec) (data : Bytes) : Bool :=
  match decodeState codec data with
  | .ok _ => true
  | .error _ => false

/-- The two files of a state path. -/
inductive Target where
  | primary
  | backup
  deriving DecidableEq, Repr

def Target.path (statePath : String) : Target → String
  | .primary => statePath
  | .backup => statePath ++ stateBackupSuffix

def readStateCandidate (codec : StateCodec) (readFile : Target → Except GoError Bytes)
    (target : Target) : Except GoError (SavedState × StateLoadInfo) :=
  match readFile target with
  | .error cause => .error cause
  | .ok data => decodeState codec data

def loadStateWithReader (codec : StateCodec) (statePath : String)
    (readFile : Target → Except GoError Bytes) : Except GoError (SavedState × StateLoadInfo) :=
  match readStateCandidate codec readFile .primary with
  | .ok (state, info) => .ok (state, { info with source := Target.primary.path statePath })
  | .error primaryErr => match readStateCandidate codec readFile .backup with
    | .ok (state, info) =>
      .ok (state, { info with source := Target.backup.path statePath, recoveredFromBackup := true })
    | .error backupErr =>
      let backupWrapped :=
        GoError.wrap ("read state backup \"" ++ Target.backup.path statePath ++ "\"") backupErr
      let primaryWrapped := GoError.wrap ("read state \"" ++ statePath ++ "\"") primaryErr
      -- No file at all is a first start, not an error.
      if primaryErr.isNotExist ∧ backupErr.isNotExist then .ok ({}, {})
      else if primaryErr.isNotExist then .error backupWrapped
      else if backupErr.isNotExist then .error primaryWrapped
      else .error (.join primaryWrapped backupWrapped)

/-- A state directory: the two files and the temporary files, by serial number. -/
structure Directory where
  primary : Option Bytes
  backup : Option Bytes
  temps : Table Nat Bytes := ∅
  deriving DecidableEq

def Directory.file (directory : Directory) : Target → Option Bytes
  | .primary => directory.primary
  | .backup => directory.backup

/-- `os.ReadFile` on a directory at rest. -/
def Directory.readFile (directory : Directory) (target : Target) : Except GoError Bytes :=
  match directory.file target with
  | some data => .ok data
  | none => .error .notExist

/-- `loadState` on a directory at rest. -/
def loadState (codec : StateCodec) (statePath : String) (directory : Directory) :
    Except GoError (SavedState × StateLoadInfo) :=
  loadStateWithReader codec statePath directory.readFile

/-- The document `writeStateAtomicWithOps` encodes for a state. -/
def document (state : SavedState) : StateDocument :=
  { version := currentStateVersion, alarms := state.alarms, blocks := state.blocks,
    nodesDown := state.nodesDown }

/-- `encoding/json` reads back what it wrote for `state`, and leaves nothing behind it. -/
structure StateCodec.RoundTrips (codec : StateCodec) (state : SavedState) : Prop where
  encoded : ∃ data, codec.encode (document state) = .ok data ∧ blank data = false ∧
    ∃ rest, codec.decode data = .ok (some (document state), rest) ∧
      codec.decodeTrailing rest = .eof

section Loading
variable (codec : StateCodec)

/-- A written state with some durable field is decoded as that state, at version 1. -/
theorem decodeState_encoded {state : SavedState} (lossless : codec.RoundTrips state)
    (durable : state.alarms.isSome) {data : Bytes}
    (written : codec.encode (document state) = .ok data) :
    decodeState codec data = .ok (state, { version := 1 }) := by
  obtain ⟨data', encoded, notBlank, rest, decoded, ends⟩ := lossless.encoded
  obtain rfl : data = data' := Except.ok.inj (written.symm.trans encoded)
  obtain ⟨alarms, present⟩ := Option.isSome_iff_exists.mp durable
  simp [decodeState, notBlank, decoded, ends, document, present, currentStateVersion]
  cases state
  simp_all

theorem decodable_iff (data : Bytes) :
    decodable codec data = true ↔ ∃ result, decodeState codec data = .ok result := by
  unfold decodable
  cases decodeState codec data <;> simp

/-- A decodable primary is what is loaded, whatever the backup holds. -/
theorem loadState_primary (statePath : String) {directory : Directory} {data : Bytes}
    {state : SavedState} {info : StateLoadInfo} (present : directory.primary = some data)
    (decoded : decodeState codec data = .ok (state, info)) :
    loadState codec statePath directory = .ok (state, { info with source := statePath }) := by
  simp [loadState, loadStateWithReader, readStateCandidate, Directory.readFile, Directory.file,
    present, decoded, Target.path]

/-- The loader sees only the two files, and the backup only behind a bad primary. -/
theorem loadState_congr (statePath : String) {left right : Directory}
    (primary : left.primary = right.primary)
    (backup : (∃ data, left.primary = some data ∧ decodable codec data = true) ∨
      left.backup = right.backup) :
    loadState codec statePath left = loadState codec statePath right := by
  rcases backup with ⟨data, present, good⟩ | backup
  -- A good primary hides the backup; otherwise all files are the same.
  · obtain ⟨⟨state, info⟩, decoded⟩ := (decodable_iff codec data).mp good
    rw [loadState_primary codec statePath present decoded,
      loadState_primary codec statePath (primary ▸ present) decoded]
  · have same : left.readFile = right.readFile := by
      funext target
      cases target <;> simp [Directory.readFile, Directory.file, primary, backup]
    simp only [loadState, same]

end Loading

end Seer.State
