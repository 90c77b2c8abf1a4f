import Seer.Lib.Crash
import Seer.State.Document

/-!
# Writing a checkpoint

`writeStateAtomicWithOps` as a program over the file operations of
`stateFileOps`. Every operation either has its ordinary effect or fails with any
error; a failing operation changes at most the temporary file it works on.
-/
namespace Seer.State

open Seer.Lib Seer.Lib.Crash

/-- The operations of `stateFileOps` and of the temporary file it creates. -/
inductive FileOp where
  | readFile (target : Target)
  | encodeJSON (document : StateDocument)
  | createTemp (target : Target)
  | chmod (temporary : Nat)
  | write (temporary : Nat) (data : Bytes)
  | sync (temporary : Nat)
  | close (temporary : Nat)
  | rename (temporary : Nat) (target : Target)
  | syncDirectory
  | remove (temporary : Nat)

/-- What an operation returns; operations that only return a Go error give `none` for nil. -/
def FileOp.Answer : FileOp → Type
  | .readFile _ => Except GoError Bytes
  | .encodeJSON _ => Except GoError Bytes
  | .createTemp _ => Except GoError Nat
  | _ => Option GoError

abbrev FileProg : Type → Type := Prog FileOp FileOp.Answer

section Operations

def readFile (target : Target) : FileProg (Except GoError Bytes) :=
  Prog.perform (FileOp.readFile target)

def encodeJSON (document : StateDocument) : FileProg (Except GoError Bytes) :=
  Prog.perform (FileOp.encodeJSON document)

def createTemp (target : Target) : FileProg (Except GoError Nat) :=
  Prog.perform (FileOp.createTemp target)

def chmod (temporary : Nat) : FileProg (Option GoError) :=
  Prog.perform (FileOp.chmod temporary)

def writeFile (temporary : Nat) (data : Bytes) : FileProg (Option GoError) :=
  Prog.perform (FileOp.write temporary data)

def syncFile (temporary : Nat) : FileProg (Option GoError) :=
  Prog.perform (FileOp.sync temporary)

def closeFile (temporary : Nat) : FileProg (Option GoError) :=
  Prog.perform (FileOp.close temporary)

def rename (temporary : Nat) (target : Target) : FileProg (Option GoError) :=
  Prog.perform (FileOp.rename temporary target)

def syncDirectory : FileProg (Option GoError) := Prog.perform FileOp.syncDirectory

def remove (temporary : Nat) : FileProg (Option GoError) :=
  Prog.perform (FileOp.remove temporary)

end Operations

/-- How one operation goes. A failure says what it leaves of the temporary file:
`none` if the file is gone, else its bytes (after a short write, a proper prefix). -/
inductive Outcome where
  | ok
  | fail (error : GoError) (left : Option Bytes)

/-- The directory with two histories kept for the specification: the states whose
primary rename took effect, newest first, and every content the primary has had. -/
structure Disk where
  directory : Directory
  renamed : List SavedState := []
  primaries : List (Option Bytes)

def Disk.start (directory : Directory) : Disk :=
  { directory := directory, primaries := [directory.primary] }

/-- A name that no temporary file of the directory has. -/
def freshTemp (temps : Table Nat Bytes) : Nat :=
  match temps.maxKey? with
  | some largest => largest + 1
  | none => 0

def Disk.setTemps (disk : Disk) (temps : Table Nat Bytes) : Disk :=
  { disk with directory := { disk.directory with temps := temps } }

def Disk.leave (disk : Disk) (temporary : Nat) : Option Bytes → Disk
  | some data => disk.setTemps (disk.directory.temps.insert temporary data)
  | none => disk.setTemps (disk.directory.temps.erase temporary)

/-- An atomic rename of a temporary file holding `data`, on behalf of `state`. -/
def Disk.install (disk : Disk) (state : SavedState) (target : Target) (data : Bytes) : Disk :=
  match target with
  | .primary =>
    { directory := { disk.directory with primary := some data }
      renamed := state :: disk.renamed
      primaries := some data :: disk.primaries }
  | .backup => { disk with directory := { disk.directory with backup := some data } }

/-- The effect of an operation issued by the call that writes `state`. -/
def handleFile (codec : StateCodec) (state : SavedState) :
    Handler FileOp FileOp.Answer Outcome Disk
  | .readFile target, .ok, disk => (disk.directory.readFile target, disk)
  | .readFile _, .fail error _, disk => (.error error, disk)
  | .encodeJSON document, .ok, disk => (codec.encode document, disk)
  | .encodeJSON _, .fail error _, disk => (.error error, disk)
  | .createTemp _, .ok, disk =>
    let temporary := freshTemp disk.directory.temps
    (.ok temporary, disk.leave temporary (some []))
  | .createTemp _, .fail error _, disk => (.error error, disk)
  | .chmod _, .ok, disk => (none, disk)
  -- Working on a file that is gone fails by itself.
  | .write temporary data, .ok, disk =>
    match disk.directory.temps[temporary]? with
    | some old => (none, disk.leave temporary (some (old ++ data)))
    | none => (some .notExist, disk)
  | .sync _, .ok, disk => (none, disk)
  | .close _, .ok, disk => (none, disk)
  -- The rename is atomic: one file appears under the other's name, with all its bytes.
  | .rename temporary target, .ok, disk =>
    match disk.directory.temps[temporary]? with
    | some data => (none, (disk.leave temporary none).install state target data)
    | none => (some .notExist, disk)
  | .syncDirectory, .ok, disk => (none, disk)
  | .syncDirectory, .fail error _, disk => (some error, disk)
  | .remove temporary, .ok, disk =>
    if temporary ∈ disk.directory.temps then (none, disk.leave temporary none)
    else (some .notExist, disk)
  -- Whatever fails on the temporary file may leave any bytes in it, or no file.
  | .chmod temporary, .fail error left, disk => (some error, disk.leave temporary left)
  | .write temporary _, .fail error left, disk => (some error, disk.leave temporary left)
  | .sync temporary, .fail error left, disk => (some error, disk.leave temporary left)
  | .close temporary, .fail error left, disk => (some error, disk.leave temporary left)
  | .rename temporary _, .fail error left, disk => (some error, disk.leave temporary left)
  | .remove temporary, .fail error left, disk => (some error, disk.leave temporary left)

/-- The buffer of `bufio.NewWriter`. -/
def bufioSize : Nat := 4096

/-- `Write` on a fresh `bufio.Writer`: more than a buffer goes straight to the file,
else the bytes wait for `Flush`. Returns the count written and the waiting bytes. -/
def bufferedWrite (temporary : Nat) (data : Bytes) : FileProg (Except GoError (Nat × Bytes)) :=
  if bufioSize < data.length then do
    match ← writeFile temporary data with
    | some error => return .error error
    | none => return .ok (data.length, [])
  else return .ok (data.length, data)

/-- `Flush`: nothing to do when nothing waits. -/
def bufferedFlush (temporary : Nat) : Bytes → FileProg (Option GoError)
  | [] => return none
  | waiting => writeFile temporary waiting

/-- Runs a step that returns a Go error, and returns early with `fail error` on one. -/
def orReturn {α : Type} (step : FileProg (Option GoError)) (fail : GoError → α)
    (rest : FileProg α) : FileProg α := do
  match ← step with
  | some error => return fail error
  | none => rest

/-- The body of `atomicReplace` behind `createTemp`: its error and the `closed` flag. -/
def replaceBody (directory : String) (target : Target) (temporary : Nat)
    (write : Nat → FileProg (Except GoError Bytes)) : FileProg (Option GoError × Bool) :=
  orReturn (chmod temporary) (fun error => (some error, false)) do
    match ← write temporary with
    | .error error => return (some error, false)
    | .ok waiting =>
      orReturn (bufferedFlush temporary waiting)
        (fun error => (some (.wrap "flush state" error), false)) <|
      orReturn (syncFile temporary)
        (fun error => (some (.wrap "sync state" error), false)) <|
      -- A file whose `Close` failed counts as closed, too.
      orReturn (closeFile temporary)
        (fun error => (some (.wrap "close state" error), true)) <|
      orReturn (rename temporary target)
        (fun error => (some (.wrap "rename state" error), true)) <|
      orReturn syncDirectory
        (fun error => (some (.wrap ("sync state directory \"" ++ directory ++ "\"") error), true)) <|
      return (none, true)

/-- The deferred removal: a file that is gone already is no error. -/
def removeTemporary (temporary : Nat) (returnErr : Option GoError) :
    FileProg (Option GoError) := do
  match ← remove temporary with
  | none => return returnErr
  | some error =>
    if error.isNotExist then return returnErr
    else return GoError.joined returnErr (some (.wrap "remove temporary state file" error))

/-- The deferred clean-up of `atomicReplace`. -/
def replaceCleanup (temporary : Nat) (returnErr : Option GoError) (closed : Bool) :
    FileProg (Option GoError) := do
  if closed then removeTemporary temporary returnErr
  else removeTemporary temporary (GoError.joined returnErr (← closeFile temporary))

def atomicReplace (directory : String) (target : Target)
    (write : Nat → FileProg (Except GoError Bytes)) : FileProg (Option GoError) := do
  match ← createTemp target with
  | .error error => return some error
  | .ok temporary =>
    let (returnErr, closed) ← replaceBody directory target temporary write
    replaceCleanup temporary returnErr closed

def writeBytes (data : Bytes) (temporary : Nat) : FileProg (Except GoError Bytes) := do
  match ← bufferedWrite temporary data with
  | .error error => return .error error
  | .ok (written, waiting) =>
    if written ≠ data.length then return .error (.text "short write") else return .ok waiting

def atomicReplaceBytes (directory : String) (target : Target) (data : Bytes) :
    FileProg (Option GoError) :=
  atomicReplace directory target (writeBytes data)

def writeJSON (document : StateDocument) (temporary : Nat) :
    FileProg (Except GoError Bytes) := do
  match ← encodeJSON document with
  | .error error => return .error (.wrap "encode state" error)
  | .ok data => match ← bufferedWrite temporary data with
    | .error error => return .error (.wrap "encode state" error)
    | .ok (_, waiting) => return .ok waiting

def atomicReplaceJSON (directory : String) (target : Target) (document : StateDocument) :
    FileProg (Option GoError) :=
  atomicReplace directory target (writeJSON document)

/-- The second half of a checkpoint: the new primary. -/
def replacePrimary (directory : String) (state : SavedState) : FileProg (Option GoError) := do
  return (← atomicReplaceJSON directory .primary (document state)).map (.wrap "replace state")

/-- `writeStateAtomicWithOps` for a non-nil state and a state path in `directory`. -/
def writeStateAtomicWithOps (codec : StateCodec) (directory : String) (state : SavedState) :
    FileProg (Option GoError) := do
  match ← readFile .primary with
  | .ok current =>
    -- Only known-good state becomes the backup.
    if decodable codec current then
      orReturn (atomicReplaceBytes directory .backup current)
        (fun error => some (.wrap "replace state backup" error)) (replacePrimary directory state)
    else replacePrimary directory state
  | .error readErr =>
    if readErr.isNotExist then replacePrimary directory state
    else return some (.wrap "read current state before replacement" readErr)

end Seer.State
