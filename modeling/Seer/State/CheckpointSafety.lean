import Seer.State.Checkpoint
import Seer.State.Snapshot
import Seer.State.Text

/-!
# Crash and fault safety of checkpoints

One replacement either leaves both files alone or installs exactly the bytes it
was given. A call chains two replacements, backup first. Over any number of calls,
faults and stops the primary stays a complete document and the loader keeps
returning the state whose rename took effect last.
-/
namespace Seer.State

open Seer.Lib Seer.Lib.Crash

/-- Only temporary files differ. -/
def Untouched (before after : Disk) : Prop := ∃ temps, after = before.setTemps temps

/-- Exactly one file was replaced, by bytes that `wanted` admits. -/
def Installed (state : SavedState) (target : Target) (wanted : Bytes → Prop)
    (before after : Disk) : Prop :=
  ∃ data, wanted data ∧ Untouched (before.install state target data) after

/-- Untouched, with the temporary file holding `content`. -/
def Holding (before : Disk) (temporary : Nat) (content : Bytes) (disk : Disk) : Prop :=
  Untouched before disk ∧ disk.directory.temps[temporary]? = some content

theorem Untouched.refl (disk : Disk) : Untouched disk disk := ⟨disk.directory.temps, rfl⟩

theorem Untouched.trans {first second third : Disk} (left : Untouched first second)
    (right : Untouched second third) : Untouched first third := by
  obtain ⟨_, rfl⟩ := left
  obtain ⟨temps, rfl⟩ := right
  exact ⟨temps, rfl⟩

theorem Untouched.leave {before disk : Disk} (same : Untouched before disk) (temporary : Nat)
    (left : Option Bytes) : Untouched before (disk.leave temporary left) := by
  cases left with
  | some data => exact same.trans ⟨_, rfl⟩
  | none => exact same.trans ⟨_, rfl⟩

theorem Untouched.install {before disk : Disk} (same : Untouched before disk)
    (state : SavedState) (target : Target) (data : Bytes) :
    Untouched (before.install state target data) (disk.install state target data) := by
  obtain ⟨temps, rfl⟩ := same
  cases target with
  | primary => exact ⟨temps, rfl⟩
  | backup => exact ⟨temps, rfl⟩

theorem Installed.untouched {state : SavedState} {target : Target} {wanted : Bytes → Prop}
    {before disk after : Disk} (done : Installed state target wanted before disk)
    (same : Untouched disk after) : Installed state target wanted before after := by
  obtain ⟨data, good, installed⟩ := done
  exact ⟨data, good, installed.trans same⟩

section Operations
variable (codec : StateCodec) (state : SavedState)

/-- Operations on an open temporary file that do not change it when they succeed. -/
private theorem quiet_guards {before disk : Disk} {temporary : Nat} {content : Bytes}
    (held : Holding before temporary content disk) (op : FileProg (Option GoError))
    (quiet : op = chmod temporary ∨ op = syncFile temporary ∨ op = closeFile temporary) :
    Guards (handleFile codec state) (Untouched before)
      (fun answer after => answer = none → Holding before temporary content after) op disk := by
  rcases quiet with rfl | rfl | rfl
  all_goals
    refine ⟨held.1, fun choice => ?_⟩
    cases choice with
    | ok => exact ⟨held.1, fun _ => held⟩
    | fail error left => exact ⟨held.1.leave temporary left, fun succeeded => by cases succeeded⟩

private theorem writeFile_guards {before disk : Disk} {temporary : Nat} {content : Bytes}
    (held : Holding before temporary content disk) (data : Bytes) :
    Guards (handleFile codec state) (Untouched before)
      (fun answer after => answer = none → Holding before temporary (content ++ data) after)
      (writeFile temporary data) disk := by
  refine ⟨held.1, fun choice => ?_⟩
  cases choice with
  | ok =>
    simp only [handleFile, held.2]
    refine ⟨held.1.leave temporary _, fun _ => ⟨held.1.leave temporary _, ?_⟩⟩
    simp [Disk.leave, Disk.setTemps]
  | fail error left => exact ⟨held.1.leave temporary left, fun succeeded => by cases succeeded⟩

private theorem bufferedFlush_guards {before disk : Disk} {temporary : Nat} {content : Bytes}
    (held : Holding before temporary content disk) (waiting : Bytes) :
    Guards (handleFile codec state) (Untouched before)
      (fun answer after => answer = none → Holding before temporary (content ++ waiting) after)
      (bufferedFlush temporary waiting) disk := by
  cases waiting with
  | nil => exact Guards.pure _ held.1 (fun _ => by simpa using held)
  | cons byte rest => exact writeFile_guards codec state held (byte :: rest)

private theorem rename_guards {before disk : Disk} {temporary : Nat} {target : Target}
    {content : Bytes} {wanted : Bytes → Prop} (held : Holding before temporary content disk)
    (good : wanted content) :
    Guards (handleFile codec state)
      (fun after => Untouched before after ∨ Installed state target wanted before after)
      (fun answer after => answer = none → Installed state target wanted before after)
      (rename temporary target) disk := by
  refine ⟨.inl held.1, fun choice => ?_⟩
  cases choice with
  | ok =>
    simp only [handleFile, held.2]
    have installed : Installed state target wanted before
        ((disk.leave temporary none).install state target content) :=
      ⟨content, good, (held.1.leave temporary none).install state target content⟩
    exact ⟨.inr installed, fun _ => installed⟩
  | fail error left => exact ⟨.inl (held.1.leave temporary left), fun succeeded => by cases succeeded⟩

/-- Early return: an error is passed on, and `rest` starts where `step` succeeded. -/
private theorem orReturn_guards {α : Type} {crash between : Disk → Prop} {post : α → Disk → Prop}
    {step : FileProg (Option GoError)} {fail : GoError → α} {rest : FileProg α} {disk : Disk}
    (first : Guards (handleFile codec state) crash (fun answer after => answer = none → between after)
      step disk)
    (fails : ∀ error after, crash after → post (fail error) after)
    (second : ∀ after, between after → Guards (handleFile codec state) crash post rest after) :
    Guards (handleFile codec state) crash post (orReturn step fail rest) disk := by
  refine Guards.bind _ (first.alive.mono _ (fun _ safe => safe) ?_)
  rintro answer after ⟨safe, result⟩
  cases answer with
  | some error => exact Guards.pure _ safe (fails error after safe)
  | none => exact second after (result rfl)

end Operations

/-- A writer fills the temporary file and the buffer with bytes that `wanted` admits. -/
def WritesWanted (codec : StateCodec) (state : SavedState) (wanted : Bytes → Prop)
    (write : Nat → FileProg (Except GoError Bytes)) : Prop :=
  ∀ before disk temporary, Holding before temporary [] disk →
    Guards (handleFile codec state) (Untouched before)
      (fun answer after => ∀ waiting, answer = .ok waiting →
        ∃ content, Holding before temporary content after ∧ wanted (content ++ waiting))
      (write temporary) disk

section Replacement
variable (codec : StateCodec) (state : SavedState)

private theorem bufferedWrite_guards {before disk : Disk} {temporary : Nat}
    (held : Holding before temporary [] disk) (data : Bytes) :
    Guards (handleFile codec state) (Untouched before)
      (fun answer after => ∀ result, answer = .ok result → result.1 = data.length ∧
        ∃ content, Holding before temporary content after ∧ content ++ result.2 = data)
      (bufferedWrite temporary data) disk := by
  unfold bufferedWrite
  split
  · refine Guards.bind _ ((writeFile_guards codec state held data).alive.mono _ (fun _ safe => safe) ?_)
    rintro answer after ⟨safe, result⟩
    cases answer with
    | some error => exact Guards.pure _ safe (fun _ ok => by cases ok)
    | none =>
      refine Guards.pure _ safe fun written ok => ?_
      cases ok
      exact ⟨rfl, data, by simpa using result rfl, by simp⟩
  · refine Guards.pure _ held.1 fun written ok => ?_
    cases ok
    exact ⟨rfl, [], held, rfl⟩

theorem writeBytes_wanted (data : Bytes) :
    WritesWanted codec state (· = data) (writeBytes data) := by
  intro before disk temporary held
  refine Guards.bind _ ((bufferedWrite_guards codec state held data).alive.mono _
    (fun _ safe => safe) ?_)
  rintro answer after ⟨safe, result⟩
  cases answer with
  | error error => exact Guards.pure _ safe (fun _ ok => by cases ok)
  | ok written =>
    obtain ⟨count, content, holding, whole⟩ := result written rfl
    simp only [count, ne_eq, not_true_eq_false, if_false]
    refine Guards.pure _ safe fun waiting ok => ?_
    cases ok
    exact ⟨content, holding, whole⟩

theorem writeJSON_wanted (document : StateDocument) :
    WritesWanted codec state (fun data => codec.encode document = .ok data)
      (writeJSON document) := by
  intro before disk temporary held
  have encodes : Guards (handleFile codec state) (Untouched before)
      (fun answer after => Holding before temporary [] after ∧
        ∀ data, answer = .ok data → codec.encode document = .ok data)
      (encodeJSON document) disk := by
    refine ⟨held.1, fun choice => ?_⟩
    cases choice with
    | ok => exact ⟨held.1, held, fun _ same => same⟩
    | fail error left => exact ⟨held.1, held, fun _ same => by cases same⟩
  refine Guards.bind _ (encodes.mono _ (fun _ safe => safe) ?_)
  rintro answer after ⟨holding, encoded⟩
  cases answer with
  | error error => exact Guards.pure _ holding.1 (fun _ ok => by cases ok)
  | ok data =>
    refine Guards.bind _ ((bufferedWrite_guards codec state holding data).alive.mono _
      (fun _ safe => safe) ?_)
    rintro buffered last ⟨safe, result⟩
    cases buffered with
    | error error => exact Guards.pure _ safe (fun _ ok => by cases ok)
    | ok written =>
      obtain ⟨_, content, holds, whole⟩ := result written rfl
      refine Guards.pure _ safe fun waiting ok => ?_
      cases ok
      exact ⟨content, holds, whole ▸ encoded data rfl⟩

private theorem syncDirectory_guards {crash : Disk → Prop} {between : Disk → Prop} {disk : Disk}
    (safe : crash disk) (next : between disk) :
    Guards (handleFile codec state) crash (fun answer after => answer = none → between after)
      syncDirectory disk := by
  refine ⟨safe, fun choice => ?_⟩
  cases choice with
  | ok => exact ⟨safe, fun _ => next⟩
  | fail error left => exact ⟨safe, fun _ => next⟩

variable {wanted : Bytes → Prop} (directory : String) (target : Target)

private theorem replaceBody_guards {write : Nat → FileProg (Except GoError Bytes)}
    (writes : WritesWanted codec state wanted write) {before disk : Disk} {temporary : Nat}
    (held : Holding before temporary [] disk) :
    Guards (handleFile codec state)
      (fun after => Untouched before after ∨ Installed state target wanted before after)
      (fun answer after => answer.1 = none → Installed state target wanted before after)
      (replaceBody directory target temporary write) disk := by
  -- The steps in front of the rename leave both files alone.
  have early : ∀ {α : Type} {post : α → Disk → Prop} {program : FileProg α} {now : Disk},
      Guards (handleFile codec state) (Untouched before) post program now →
      Guards (handleFile codec state)
        (fun after => Untouched before after ∨ Installed state target wanted before after)
        post program now :=
    fun guarded => guarded.mono _ (fun _ same => .inl same) (fun _ _ holds => holds)
  refine orReturn_guards codec state (early (quiet_guards codec state held _ (.inl rfl)))
    (fun _ _ _ failed => by cases failed) fun opened held => ?_
  refine Guards.bind _ ((early (writes before opened temporary held)).alive.mono _
    (fun _ safe => safe) ?_)
  rintro answer filled ⟨safe, result⟩
  cases answer with
  | error error => exact Guards.pure _ safe (fun failed => by cases failed)
  | ok waiting =>
    obtain ⟨content, held, good⟩ := result waiting rfl
    refine orReturn_guards codec state (early (bufferedFlush_guards codec state held waiting))
      (fun _ _ _ failed => by cases failed) fun flushed held => ?_
    refine orReturn_guards codec state (early (quiet_guards codec state held _ (.inr (.inl rfl))))
      (fun _ _ _ failed => by cases failed) fun synced held => ?_
    refine orReturn_guards codec state (early (quiet_guards codec state held _ (.inr (.inr rfl))))
      (fun _ _ _ failed => by cases failed) fun closed held => ?_
    refine orReturn_guards codec state (rename_guards codec state held good)
      (fun _ _ _ failed => by cases failed) fun renamed installed => ?_
    -- A failed directory sync is an error to the caller, with the file replaced all the same.
    refine orReturn_guards codec state
      (syncDirectory_guards codec state (.inr installed) installed)
      (fun _ _ _ failed => by cases failed) fun durable installed => ?_
    exact Guards.pure _ (.inr installed) (fun _ => installed)

private theorem closeOrRemove_guards {files : Disk → Prop}
    (stable : ∀ disk after, files disk → Untouched disk after → files after)
    {disk : Disk} (safe : files disk) (temporary : Nat) (op : FileProg (Option GoError))
    (cleanup : op = closeFile temporary ∨ op = remove temporary) :
    Guards (handleFile codec state) files (fun _ after => files after) op disk := by
  rcases cleanup with rfl | rfl
  · refine ⟨safe, fun choice => ?_⟩
    cases choice with
    | ok => exact ⟨safe, safe⟩
    | fail error left =>
      have kept := stable disk _ safe ((Untouched.refl disk).leave temporary left)
      exact ⟨kept, kept⟩
  · refine ⟨safe, fun choice => ?_⟩
    cases choice with
    | ok =>
      have kept := stable disk _ safe ((Untouched.refl disk).leave temporary none)
      simp only [handleFile]
      split
      · exact ⟨kept, kept⟩
      · exact ⟨safe, safe⟩
    | fail error left =>
      have kept := stable disk _ safe ((Untouched.refl disk).leave temporary left)
      exact ⟨kept, kept⟩

private theorem joined_eq_none {first second : Option GoError}
    (absent : GoError.joined first second = none) : first = none ∧ second = none := by
  cases first <;> cases second <;> simp_all [GoError.joined]

/-- Clean-up touches temporary files only, and never turns an error into success. -/
private theorem removeTemporary_guards {files : Disk → Prop}
    (stable : ∀ disk after, files disk → Untouched disk after → files after)
    {disk : Disk} (safe : files disk) (temporary : Nat) (returnErr : Option GoError) :
    Guards (handleFile codec state) files (fun answer after => files after ∧
        (answer = none → returnErr = none)) (removeTemporary temporary returnErr) disk := by
  refine Guards.bind _ ((closeOrRemove_guards codec state stable safe temporary _
    (.inr rfl)).mono _ (fun _ kept => kept) ?_)
  intro answer after kept
  cases answer with
  | none => exact Guards.pure _ kept ⟨kept, id⟩
  | some error =>
    dsimp only
    split
    · exact Guards.pure _ kept ⟨kept, id⟩
    · exact Guards.pure _ kept ⟨kept, fun absent => (joined_eq_none absent).1⟩

private theorem replaceCleanup_guards {files : Disk → Prop}
    (stable : ∀ disk after, files disk → Untouched disk after → files after)
    {disk : Disk} (safe : files disk) (temporary : Nat) (returnErr : Option GoError)
    (closed : Bool) :
    Guards (handleFile codec state) files (fun answer after => files after ∧
        (answer = none → returnErr = none)) (replaceCleanup temporary returnErr closed) disk := by
  unfold replaceCleanup
  cases closed with
  | true => exact removeTemporary_guards codec state stable safe temporary returnErr
  | false =>
    refine Guards.bind _ ((closeOrRemove_guards codec state stable safe temporary _
      (.inl rfl)).mono _ (fun _ kept => kept) fun answer after kept => ?_)
    refine (removeTemporary_guards codec state stable kept temporary _).mono _
      (fun _ alive => alive) ?_
    rintro last final ⟨alive, absent⟩
    exact ⟨alive, fun succeeded => (joined_eq_none (absent succeeded)).1⟩

/-- One atomic replacement: at every point both files are as before, or the target
holds the whole of the wanted bytes; success means the latter. -/
theorem atomicReplace_guards {write : Nat → FileProg (Except GoError Bytes)}
    (writes : WritesWanted codec state wanted write) (before : Disk) :
    Guards (handleFile codec state)
      (fun after => Untouched before after ∨ Installed state target wanted before after)
      (fun answer after => answer = none → Installed state target wanted before after)
      (atomicReplace directory target write) before := by
  have creates : Guards (handleFile codec state) (Untouched before)
      (fun answer after => ∀ temporary, answer = .ok temporary →
        Holding before temporary [] after) (createTemp target) before := by
    refine ⟨Untouched.refl before, fun choice => ?_⟩
    cases choice with
    | ok =>
      have made := (Untouched.refl before).leave (freshTemp before.directory.temps) (some [])
      refine ⟨made, fun temporary same => ?_⟩
      cases same
      exact ⟨made, Table.get_insert_self _ _ _⟩
    | fail error left => exact ⟨Untouched.refl before, fun _ same => by cases same⟩
  refine Guards.bind _ (creates.alive.mono _ (fun _ same => .inl same) ?_)
  rintro answer created ⟨same, held⟩
  cases answer with
  | error error => exact Guards.pure _ (.inl same) (fun failed => by cases failed)
  | ok temporary =>
    refine Guards.bind _ ((replaceBody_guards codec state directory target writes
      (held temporary rfl)).alive.mono _ (fun _ safe => safe) ?_)
    rintro ⟨returnErr, closed⟩ after ⟨safe, result⟩
    -- The clean-up keeps whichever of the two the body has reached.
    cases returnErr with
    | some error =>
      refine (replaceCleanup_guards codec state ?_ safe temporary (some error) closed).mono _
        (fun _ kept => kept) (fun _ _ kept succeeded => by cases kept.2 succeeded)
      rintro disk last (untouched | installed) moved
      · exact .inl (untouched.trans moved)
      · exact .inr (installed.untouched moved)
    | none =>
      exact (replaceCleanup_guards codec state (fun _ _ installed moved => installed.untouched moved)
        (result rfl) temporary none closed).mono _ (fun _ kept => .inr kept)
        (fun _ _ kept _ => kept.1)

end Replacement

/-- What every point of every history of calls satisfies. -/
structure CheckpointInv (codec : StateCodec) (initial : Directory) (made : List SavedState)
    (disk : Disk) : Prop where
  /-- Only states of the calls made are ever installed. -/
  requested : ∀ state ∈ disk.renamed, state ∈ made
  primary : match disk.renamed with
    | [] => disk.directory.primary = initial.primary
    | state :: _ => ∃ data, codec.encode (document state) = .ok data ∧
        disk.directory.primary = some data
  recorded : disk.directory.primary ∈ disk.primaries
  backup : disk.directory.backup = initial.backup ∨
    ∃ data, some data ∈ disk.primaries ∧ decodable codec data = true ∧
      disk.directory.backup = some data
  /-- Before the first installed state the backup may only change behind a good primary. -/
  fallback : disk.renamed = [] → disk.directory.backup = initial.backup ∨
    ∃ data, initial.primary = some data ∧ decodable codec data = true

namespace CheckpointInv
variable {codec : StateCodec} {initial : Directory} {made : List SavedState}

theorem start : CheckpointInv codec initial [] (Disk.start initial) where
  requested := by simp [Disk.start]
  primary := rfl
  recorded := by simp [Disk.start]
  backup := .inl rfl
  fallback _ := .inl rfl

theorem called {disk : Disk} (inv : CheckpointInv codec initial made disk) (state : SavedState) :
    CheckpointInv codec initial (made ++ [state]) disk :=
  { inv with requested := fun old member => List.mem_append_left _ (inv.requested old member) }

theorem untouched {disk after : Disk} (inv : CheckpointInv codec initial made disk)
    (same : Untouched disk after) : CheckpointInv codec initial made after := by
  obtain ⟨temps, rfl⟩ := same
  exact ⟨inv.requested, inv.primary, inv.recorded, inv.backup, inv.fallback⟩

/-- Installing the current primary as backup. -/
theorem installBackup {disk : Disk} (inv : CheckpointInv codec initial made disk)
    (state : SavedState) {current : Bytes} (present : disk.directory.primary = some current)
    (good : decodable codec current = true) :
    CheckpointInv codec initial made (disk.install state .backup current) where
  requested := inv.requested
  primary := inv.primary
  recorded := inv.recorded
  backup := .inr ⟨current, present ▸ inv.recorded, good, rfl⟩
  fallback first := by
    have primary := inv.primary
    have first : disk.renamed = [] := first
    rw [first] at primary
    exact .inr ⟨current, primary ▸ present, good⟩

/-- Installing the encoding of a requested state as primary. -/
theorem installPrimary {disk : Disk} (inv : CheckpointInv codec initial made disk)
    {state : SavedState} (member : state ∈ made) {data : Bytes}
    (encoded : codec.encode (document state) = .ok data) :
    CheckpointInv codec initial made (disk.install state .primary data) where
  requested old renamed := by
    rcases List.mem_cons.mp renamed with rfl | older
    · exact member
    · exact inv.requested old older
  primary := ⟨data, encoded, rfl⟩
  recorded := List.mem_cons_self
  backup := by
    rcases inv.backup with same | ⟨old, held, good, holds⟩
    · exact .inl same
    · exact .inr ⟨old, List.mem_cons_of_mem _ held, good, holds⟩
  fallback first := by cases first

end CheckpointInv

/-- The primary is the encoding of a state. -/
def Holds (codec : StateCodec) (state : SavedState) (disk : Disk) : Prop :=
  ∃ data, codec.encode (document state) = .ok data ∧ disk.directory.primary = some data

section Calls
variable (codec : StateCodec) (directory : String) {initial : Directory} {made : List SavedState}

private theorem replacePrimary_guards {state : SavedState} (member : state ∈ made) {disk : Disk}
    (inv : CheckpointInv codec initial made disk) :
    Guards (handleFile codec state) (CheckpointInv codec initial made)
      (fun result after => result = none → Holds codec state after)
      (replacePrimary directory state) disk := by
  refine Guards.bind _ (((atomicReplace_guards codec state directory .primary
    (writeJSON_wanted codec state (document state)) disk).mono _ ?_ (fun _ _ done => done)).alive.mono
    _ (fun _ kept => kept) ?_)
  · rintro after (same | ⟨data, encoded, same⟩)
    · exact inv.untouched same
    · exact (inv.installPrimary member encoded).untouched same
  · rintro answer after ⟨kept, result⟩
    refine Guards.pure _ kept fun succeeded => ?_
    obtain ⟨data, encoded, temps, rfl⟩ := result (Option.map_eq_none_iff.mp succeeded)
    exact ⟨data, encoded, rfl⟩

/-- A whole call keeps the invariant at every point, whatever fails; when it returns nil
the primary holds its state. -/
theorem writeState_guards (state : SavedState) {disk : Disk}
    (inv : CheckpointInv codec initial made disk) :
    Guards (handleFile codec state) (CheckpointInv codec initial (made ++ [state]))
      (fun result after => result = none → Holds codec state after)
      (writeStateAtomicWithOps codec directory state) disk := by
  have member : state ∈ made ++ [state] := by simp
  have inv := inv.called state
  have reads : Guards (handleFile codec state) (CheckpointInv codec initial (made ++ [state]))
      (fun answer after => CheckpointInv codec initial (made ++ [state]) after ∧
        ∀ data, answer = .ok data → after.directory.primary = some data)
      (readFile .primary) disk := by
    refine ⟨inv, fun choice => ?_⟩
    cases choice with
    | ok =>
      refine ⟨inv, inv, fun data same => ?_⟩
      simp only [handleFile, Directory.readFile, Directory.file] at same ⊢
      cases held : disk.directory.primary with
      | none => simp [held] at same
      | some current =>
        simp only [held, Except.ok.injEq] at same
        rw [same]
    | fail error left => exact ⟨inv, inv, fun _ same => by cases same⟩
  refine Guards.bind _ (reads.mono _ (fun _ kept => kept) ?_)
  rintro answer after ⟨inv, present⟩
  cases answer with
  | error readErr =>
    dsimp only
    split
    · exact replacePrimary_guards codec directory member inv
    · exact Guards.pure _ inv (fun failed => by cases failed)
  | ok current =>
    dsimp only
    split
    -- Only a primary that decodes becomes the backup; a broken one is just replaced.
    next good =>
      refine orReturn_guards codec state (((atomicReplace_guards codec state directory .backup
        (writeBytes_wanted codec state current) after).mono _ ?_ (fun _ _ _ => trivial)).alive.mono
        _ (fun _ kept => kept) (fun _ _ kept _ => kept.1)) (fun _ _ _ failed => by cases failed)
        (fun _ kept => replacePrimary_guards codec directory member kept)
      rintro later (same | ⟨data, rfl, same⟩)
      · exact inv.untouched same
      · exact (inv.installBackup state (present _ rfl) good).untouched same
    · exact replacePrimary_guards codec directory member inv

end Calls

/-- The loader's result at a point: the initial one until a primary rename takes
effect, then the state renamed last, read from the primary at the current version. -/
def expectedLoad (statePath : String) (loaded : SavedState × StateLoadInfo) (disk : Disk) :
    SavedState × StateLoadInfo :=
  match disk.renamed with
  | [] => loaded
  | state :: _ => (state, { source := statePath, version := currentStateVersion })

private theorem loadState_of_inv {codec : StateCodec} {statePath : String} {initial : Directory}
    {loaded : SavedState × StateLoadInfo} (good : loadState codec statePath initial = .ok loaded)
    {written : List SavedState} {disk : Disk} (inv : CheckpointInv codec initial written disk)
    (decodes : ∀ state ∈ written, ∀ data, codec.encode (document state) = .ok data →
      decodeState codec data = .ok (state, { version := 1 })) :
    loadState codec statePath disk.directory = .ok (expectedLoad statePath loaded disk) := by
  have primary := inv.primary
  cases renamed : disk.renamed with
  | nil =>
    simp only [renamed] at primary
    simp only [expectedLoad, renamed, ← good]
    -- The backup counts only behind a bad primary, and then it has not changed.
    apply loadState_congr codec statePath primary
    rcases inv.fallback renamed with same | ⟨data, present, decodable⟩
    · exact .inr same
    · exact .inl ⟨data, primary.trans present, decodable⟩
  | cons state older =>
    simp only [renamed] at primary
    obtain ⟨data, encoded, present⟩ := primary
    have member := inv.requested state (by simp [renamed])
    rw [loadState_primary codec statePath present (decodes state member data encoded)]
    simp [expectedLoad, renamed, currentStateVersion]

/-- From any directory that loads, through any calls with any faults and stops: the
primary is its initial content or a complete encoding, the backup its initial content
or an earlier decodable primary, and loading yields the state installed last. -/
theorem checkpoint_crash_safe (codec : StateCodec) (statePath directory : String)
    (initial : Directory) (loaded : SavedState × StateLoadInfo)
    (good : loadState codec statePath initial = .ok loaded) (written : List SavedState)
    (snapshots : ∀ state ∈ written, ∃ config, state = snapshotSavedState config)
    (lossless : ∀ state ∈ written, codec.RoundTrips state) (disk : Disk)
    (calls : Calls (handleFile codec) (writeStateAtomicWithOps codec directory)
      (Disk.start initial) written disk) :
    (disk.directory.primary = initial.primary ∨ ∃ state ∈ written, ∃ data,
      codec.encode (document state) = .ok data ∧ disk.directory.primary = some data) ∧
    (disk.directory.backup = initial.backup ∨ ∃ data, some data ∈ disk.primaries ∧
      decodable codec data = true ∧ disk.directory.backup = some data) ∧
    loadState codec statePath disk.directory = .ok (expectedLoad statePath loaded disk) := by
  have inv : CheckpointInv codec initial written disk :=
    calls.invariant (CheckpointInv codec initial) CheckpointInv.start
      fun _ _ state inv => (writeState_guards codec directory state inv).mono _
        (fun _ kept => kept) (fun _ _ _ => trivial)
  have decodes : ∀ state ∈ written, ∀ data, codec.encode (document state) = .ok data →
      decodeState codec data = .ok (state, { version := 1 }) := by
    intro state member data encoded
    obtain ⟨config, rfl⟩ := snapshots state member
    exact decodeState_encoded codec (lossless _ member) rfl encoded
  refine ⟨?_, inv.backup, loadState_of_inv good inv decodes⟩
  have primary := inv.primary
  cases renamed : disk.renamed with
  | nil => exact .inl (by simpa only [renamed] using primary)
  | cons state older =>
    simp only [renamed] at primary
    exact .inr ⟨state, inv.requested state (by simp [renamed]), primary⟩

/-- The state of a fresh configuration. -/
def freshState : SavedState := snapshotSavedState {}

/-- A second checkpoint that installs its backup and dies of a short write. -/
theorem checkpoint_crash_safe_short_write :
    let codec := stateCodec freshState
    let text := utf8 (documentText (document freshState))
    let initial : Directory := { primary := some text, backup := none }
    let disk := (writeStateAtomicWithOps codec "." freshState).follow (handleFile codec freshState)
      (List.replicate 12 .ok ++ [.fail (.text "disk full") (some (text.take 1))]) (Disk.start initial)
    loadState codec "state.json" disk.directory =
      .ok (expectedLoad "state.json" (freshState, { source := "state.json", version := 1 }) disk) := by
  intro codec text initial disk
  have lossless := stateCodec_roundTrips freshState
  have decoded : decodeState codec text = .ok (freshState, { version := 1 }) :=
    decodeState_encoded codec lossless rfl rfl
  refine (checkpoint_crash_safe codec "state.json" "." initial
    (freshState, { source := "state.json", version := 1 })
    (loadState_primary codec "state.json" rfl decoded) [freshState]
    (fun state member => ⟨{}, List.mem_singleton.mp member⟩)
    (fun state member => List.mem_singleton.mp member ▸ lossless) disk ?_).2.2
  exact Calls.call Calls.start freshState (Visits.follow _ _ _ _)

end Seer.State
