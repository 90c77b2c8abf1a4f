import Seer.Encryption
import Seer.Lib.Crash
import Seer.Runtime.Load

/-!
# The configuration file, plain and encrypted

`EncryptedConfig` converts one form into the other. It has no temporary file: the output is
truncated and then written. `loadConfig` reads a plain file, or an encrypted one from a
server. The first theorem bounds what a conversion can destroy, wherever it fails or stops;
the second says that a file survives the way through the tool and the server.
-/
namespace Seer.ConfigFile

open Seer.Lib Seer.Lib.Crash Seer.Encryption
open Seer.State (Bytes)

abbrev Files : Type := Table String Bytes

/-- The file operations of `EncryptedConfig`, which ignores errors of closing. -/
inductive FileOp where
  | openRead (name : String)
  | readAll (name : String)
  /-- `os.O_TRUNC|os.O_WRONLY|os.O_CREATE` -/
  | create (name : String)
  | write (name : String) (data : Bytes)

def FileOp.Answer : FileOp → Type
  | .readAll _ => Except GoError Bytes
  | .openRead _ | .create _ | .write _ _ => Option GoError

/-- How an operation goes. A failed write may have written some of its bytes. -/
inductive Outcome where
  | ok
  | fail (err : GoError) (written : Nat)

def handleFile : Handler FileOp FileOp.Answer Outcome Files
  | .openRead name, .ok, files =>
    (match files[name]? with
      | some _ => none
      | none => some .notExist, files)
  | .openRead _, .fail err _, files => (some err, files)
  | .readAll name, .ok, files => (.ok (files[name]?.getD []), files)
  | .readAll _, .fail err _, files => (.error err, files)
  | .create name, .ok, files => (none, files.insert name [])
  | .create _, .fail err _, files => (some err, files)
  | .write name data, .ok, files => (none, files.insert name data)
  | .write name data, .fail err written, files => (some err, files.insert name (data.take written))

section Conversion
variable (prims : Primitives) (pass : String) (salt : Except GoError (Drawn idKeySize))
  (iv : Except GoError (Drawn ivSize))

def convert (decrypting : Bool) (inConfig : Bytes) : Call Bytes :=
  if decrypting then decrypt prims inConfig pass else encrypt prims inConfig pass salt iv

def infile (plaintext ciphertext : String) (decrypting : Bool) : String :=
  if decrypting then ciphertext else plaintext

def outfile (plaintext ciphertext : String) (decrypting : Bool) : String :=
  if decrypting then plaintext else ciphertext

/-- The last part of `EncryptedConfig`. -/
def store (outfile : String) (outConfig : Bytes) : Prog FileOp FileOp.Answer (Call Unit) :=
  -- Opening truncates: what the output held before is lost even if the write fails.
  .call (.create outfile) fun
    | some err => .done (.error (.failed err))
    | none => .call (.write outfile outConfig) fun
      | some err => .done (.error (.failed err))
      | none => .done (.ok ())

/-- `EncryptedConfig` from the contents of the input on. -/
def convertTo (outfile : String) (decrypting : Bool) (inConfig : Bytes) :
    Prog FileOp FileOp.Answer (Call Unit) :=
  match convert prims pass salt iv decrypting inConfig with
  | .error stop => .done (.error stop)
  | .ok outConfig => store outfile outConfig

/-- With the salt and the vector that `encrypt` draws. -/
def encryptedConfig (plaintext ciphertext : String) (decrypting : Bool) :
    Prog FileOp FileOp.Answer (Call Unit) :=
  .call (.openRead (infile plaintext ciphertext decrypting)) fun
    | some err => .done (.error (.failed err))
    | none => .call (.readAll (infile plaintext ciphertext decrypting)) fun
      | .error err => .done (.error (.failed err))
      | .ok inConfig =>
        convertTo prims pass salt iv (outfile plaintext ciphertext decrypting) decrypting inConfig

/-- The input could be converted, and the output file has what `part` allows of the result. -/
def Written (plaintext ciphertext : String) (decrypting : Bool) (part : Bytes → Bytes → Prop)
    (before after : Files) : Prop :=
  ∃ inConfig outConfig content,
    before[infile plaintext ciphertext decrypting]? = some inConfig ∧
    convert prims pass salt iv decrypting inConfig = .ok outConfig ∧ part content outConfig ∧
    after = before.insert (outfile plaintext ciphertext decrypting) content

/-- What a conversion may leave behind at any moment. -/
def Kept (plaintext ciphertext : String) (decrypting : Bool) (before after : Files) : Prop :=
  after = before ∨
    Written prims pass salt iv plaintext ciphertext decrypting (· <+: ·) before after

/-- What holds when a conversion returns. -/
def Ends (plaintext ciphertext : String) (decrypting : Bool) (before : Files) :
    Call Unit → Files → Prop
  | .ok (), after =>
    Written prims pass salt iv plaintext ciphertext decrypting (· = ·) before after
  | .error (.failed _), after =>
    Kept prims pass salt iv plaintext ciphertext decrypting before after
  | .error .panicked, _ => False

variable {prims pass salt iv} {plaintext ciphertext : String} {decrypting : Bool} {before : Files}

theorem convert_returns (inConfig : Bytes) :
    (∃ outConfig, convert prims pass salt iv decrypting inConfig = .ok outConfig) ∨
      ∃ err, convert prims pass salt iv decrypting inConfig = .error (.failed err) := by
  cases decrypting with
  | false => exact encrypt_returns prims inConfig pass salt iv
  | true =>
    rcases decrypt_cases prims inConfig pass with ⟨plain, opened, _⟩ | failed
    · exact .inl ⟨plain, opened⟩
    · exact .inr failed

theorem Kept.unchanged : Kept prims pass salt iv plaintext ciphertext decrypting before before :=
  .inl rfl

/-- From the truncation on, the output has a prefix of the result. -/
theorem store_guards {inConfig outConfig : Bytes}
    (read : before[infile plaintext ciphertext decrypting]? = some inConfig)
    (converted : convert prims pass salt iv decrypting inConfig = .ok outConfig) :
    Guards handleFile (Kept prims pass salt iv plaintext ciphertext decrypting before)
      (Ends prims pass salt iv plaintext ciphertext decrypting before)
      (store (outfile plaintext ciphertext decrypting) outConfig) before := by
  have again := Table.insert_insert before (outfile plaintext ciphertext decrypting) []
  refine ⟨.unchanged, fun created => ?_⟩
  cases created with
  | fail err _ => exact ⟨.unchanged, .unchanged⟩
  | ok =>
    refine ⟨.inr ⟨inConfig, outConfig, [], read, converted, outConfig.nil_prefix, rfl⟩,
      fun wrote => ?_⟩
    cases wrote with
    | fail err written =>
      have short : Kept prims pass salt iv plaintext ciphertext decrypting before _ :=
        .inr ⟨inConfig, outConfig, outConfig.take written, read, converted,
          outConfig.take_prefix written, again (outConfig.take written)⟩
      exact ⟨short, short⟩
    | ok =>
      exact ⟨.inr ⟨inConfig, outConfig, outConfig, read, converted, outConfig.prefix_rfl,
          again outConfig⟩,
        inConfig, outConfig, outConfig, read, converted, rfl, again outConfig⟩

theorem convertTo_guards {inConfig : Bytes}
    (read : before[infile plaintext ciphertext decrypting]? = some inConfig) :
    Guards handleFile (Kept prims pass salt iv plaintext ciphertext decrypting before)
      (Ends prims pass salt iv plaintext ciphertext decrypting before)
      (convertTo prims pass salt iv (outfile plaintext ciphertext decrypting) decrypting inConfig)
      before := by
  unfold convertTo
  rcases convert_returns inConfig with ⟨outConfig, converted⟩ | ⟨err, failed⟩
  · rw [converted]
    exact store_guards read converted
  · rw [failed]
    exact ⟨.unchanged, .unchanged⟩

theorem encryptedConfig_guards :
    Guards handleFile (Kept prims pass salt iv plaintext ciphertext decrypting before)
      (Ends prims pass salt iv plaintext ciphertext decrypting before)
      (encryptedConfig prims pass salt iv plaintext ciphertext decrypting) before := by
  refine ⟨.unchanged, fun opened => ?_⟩
  cases opened with
  | fail err _ => exact ⟨.unchanged, .unchanged⟩
  | ok =>
    cases found : before[infile plaintext ciphertext decrypting]? with
    | none =>
      simp only [handleFile, found]
      exact ⟨.unchanged, .unchanged⟩
    | some inConfig =>
      simp only [handleFile, found]
      refine ⟨.unchanged, fun read => ?_⟩
      cases read with
      | fail err _ => exact ⟨.unchanged, .unchanged⟩
      | ok =>
        change Guards handleFile _ _ (convertTo prims pass salt iv _ decrypting
          (before[infile plaintext ciphertext decrypting]?.getD [])) before
        rw [found]
        exact convertTo_guards found

theorem converted_of_returns {after : Files}
    (returns : Returns handleFile (encryptedConfig prims pass salt iv plaintext ciphertext decrypting)
      before (.ok ()) after) :
    ∃ inConfig outConfig, before[infile plaintext ciphertext decrypting]? = some inConfig ∧
      convert prims pass salt iv decrypting inConfig = .ok outConfig ∧
      after = before.insert (outfile plaintext ciphertext decrypting) outConfig := by
  obtain ⟨inConfig, outConfig, content, read, converted, whole, stored⟩ :=
    encryptedConfig_guards.returned returns
  subst whole
  exact ⟨inConfig, content, read, converted, stored⟩

/-- Where no operation fails, the conversion goes through. -/
theorem returns_of_converted {inConfig outConfig : Bytes}
    (read : before[infile plaintext ciphertext decrypting]? = some inConfig)
    (converted : convert prims pass salt iv decrypting inConfig = .ok outConfig) :
    Returns handleFile (encryptedConfig prims pass salt iv plaintext ciphertext decrypting)
      before (.ok ()) (before.insert (outfile plaintext ciphertext decrypting) outConfig) := by
  refine .call .ok ?_
  simp only [handleFile, read]
  refine .call .ok ?_
  change Returns handleFile (convertTo prims pass salt iv _ decrypting
    (before[infile plaintext ciphertext decrypting]?.getD [])) before _ _
  rw [read, convertTo, Option.getD_some, converted]
  refine .call .ok (.call .ok ?_)
  rw [← Table.insert_insert before _ [] outConfig]
  exact .done _ _

/-- Only a file that opens under the password can be converted back. -/
theorem framed_of_convert {encodedFile outConfig : Bytes}
    (converted : convert prims pass salt iv true encodedFile = .ok outConfig) :
    Framed prims encodedFile pass outConfig :=
  (decrypt_iff prims encodedFile pass outConfig).mp converted

end Conversion

/-- For every password, file system and choice of failures: wherever a conversion stops,
either nothing has changed, or its input could be converted and nothing but the output file
has changed, to a prefix of the result. It returns success only with the whole result
written, and never panics. Decrypting with a wrong password, or a damaged file, changes
nothing at any moment. -/
theorem conversion_spares_files (prims : Primitives) (pass : String)
    (salt : Except GoError (Drawn idKeySize)) (iv : Except GoError (Drawn ivSize))
    (plaintext ciphertext : String) (before : Files) :
    (∀ decrypting after,
      Visits handleFile (encryptedConfig prims pass salt iv plaintext ciphertext decrypting)
        before after →
      Kept prims pass salt iv plaintext ciphertext decrypting before after) ∧
    (∀ decrypting result after,
      Returns handleFile (encryptedConfig prims pass salt iv plaintext ciphertext decrypting)
        before result after →
      Ends prims pass salt iv plaintext ciphertext decrypting before result after) ∧
    ((∀ encodedFile plain, before[ciphertext]? = some encodedFile →
        ¬ Framed prims encodedFile pass plain) →
      ∀ after, Visits handleFile (encryptedConfig prims pass salt iv plaintext ciphertext true)
        before after → after = before) := by
  refine ⟨?_, ?_, ?_⟩
  · intro decrypting after stopped
    exact encryptedConfig_guards.visited handleFile stopped
  · intro decrypting result after ended
    exact encryptedConfig_guards.returned ended
  · intro foreign after stopped
    rcases encryptedConfig_guards.visited handleFile stopped with
      unchanged | ⟨encodedFile, plain, _, read, converted, _⟩
    · exact unchanged
    · exact absurd (framed_of_convert converted) (foreign encodedFile plain read)

theorem conversion_spares_files_damaged :
    let before : Files := (∅ : Files).insert "config.yml.asc" (utf8 "c2hvcnQ=")
    ∀ after, Visits handleFile (encryptedConfig lightPrimitives "correct horse"
        (.error (.text "no entropy")) (.error (.text "no entropy")) "config.yml" "config.yml.asc" true)
      before after → after = before := by
  intro before
  refine (conversion_spares_files lightPrimitives "correct horse" _ _ "config.yml" "config.yml.asc"
    before).2.2 ?_
  intro encodedFile plain read framed
  rw [Table.get_insert_self] at read
  cases read
  -- The frame alone is longer than the five bytes of this file.
  obtain ⟨_, salt, iv, saltSize, _, _, _, decoded⟩ := framed
  have short : lightPrimitives.decode (utf8 "c2hvcnQ=") = .ok (utf8 "short") := by decide +kernel
  have size := congrArg List.length (Except.ok.inj (short.symm.trans decoded))
  have five : (utf8 "short").length = 5 := by decide
  simp only [sealed, List.length_append] at size
  omega

/-! ## Loading -/

/-- What `loadConfig` can reach: the servers, and the local files with what one read gives. -/
structure Sources where
  /-- `http.Get` and the body of the answer. -/
  get : String → Except GoError Bytes
  opened : String → Except GoError Bytes
  stat : Option GoError
  /-- How many bytes the one call to `f.Read` delivers. -/
  read : Except GoError Nat

/-- Why a configuration is not loaded. -/
inductive Refusal where
  | read (stop : Stop)
  | load (abort : Runtime.Abort)

def remote (yamlFile : String) : Bool :=
  "http://".toList.isPrefixOf yamlFile.toList || "https://".toList.isPrefixOf yamlFile.toList

section Load
variable (prims : Primitives) (decodeConfig : Bytes → Except GoError Runtime.RawConfig)

/-- The primary configuration of `loadConfig`. -/
def readConfig (sources : Sources) (yamlFile password : String) : Call Runtime.RawConfig :=
  if remote yamlFile then
    if password = "" then fail "a password is required if loading a remote configuration"
    else do
      let b ← returned (sources.get yamlFile)
      let decrypted ← decrypt prims b password
      returned (decodeConfig decrypted)
  else do
    let content ← returned (sources.opened yamlFile)
    match sources.stat with
    | some err => .error (.failed err)
    | none => do
      let count ← returned sources.read
      -- The buffer has the size of the file; what the read does not fill stays zero.
      returned (decodeConfig (content.take count ++ repeated 0 (content.length - count)))

variable (range : Runtime.Range) (entries : List Runtime.DirEntry)
  (load : String → Except GoError Runtime.RawChain) (state : Except GoError SavedState) (now : Time)

def loadConfig (sources : Sources) (yamlFile password : String) : Except Refusal Runtime.RawConfig :=
  match readConfig prims decodeConfig sources yamlFile password with
  | .error stop => .error (.read stop)
  | .ok primary =>
    match Runtime.loadConfig range primary entries load state now with
    | .error abort => .error (.load abort)
    | .ok config => .ok config

variable {prims decodeConfig}

/-- What `encrypt` returns opens again, unless the drawn salt is the one that is refused. -/
theorem decrypt_of_encrypt {data encodedFile : Bytes} {pass : String} {salt : Drawn idKeySize}
    {iv : Drawn ivSize} (nonzero : salt.val ≠ repeated 0 idKeySize)
    (written : encrypt prims data pass (.ok salt) (.ok iv) = .ok encodedFile) :
    decrypt prims encodedFile pass = .ok data := by
  have some : data ≠ [] := by
    rintro rfl
    cases written
  rcases encrypt_cases prims data some pass salt iv with ⟨keyed, ok⟩ | ⟨_, err, failed⟩
  · rw [ok] at written
    cases written
    apply (decrypt_iff prims _ pass data).mpr
    exact ⟨keyed.1, salt.val, iv.val, salt.property, nonzero, iv.property, keyed.2,
      prims.decode_encode _⟩
  · rw [failed] at written
    cases written

theorem readConfig_remote {sources : Sources} {url pass : String} {encodedFile data : Bytes}
    (away : remote url = true) (named : pass ≠ "") (served : sources.get url = .ok encodedFile)
    (opens : decrypt prims encodedFile pass = .ok data) :
    readConfig prims decodeConfig sources url pass = returned (decodeConfig data) := by
  unfold readConfig
  rw [if_pos away, if_neg named, served]
  simp only [returned, bind, Except.bind, opens]

theorem readConfig_local {sources : Sources} {file : String} {data : Bytes} (pass : String)
    (here : remote file = false) (stored : sources.opened file = .ok data)
    (sized : sources.stat = none) (whole : sources.read = .ok data.length) :
    readConfig prims decodeConfig sources file pass = returned (decodeConfig data) := by
  unfold readConfig
  rw [here, stored, sized, whole]
  simp [returned, bind, Except.bind, repeated]

end Load

/-- A configuration that the tool has encrypted: it can be decrypted to any file, and whenever
that returns success the file has the original bytes. And `loadConfig` from a server that has the
encrypted file ends exactly as from the original file, if that is read in one piece. -/
theorem encrypted_config_round_trip (prims : Primitives) (pass : String) (salt : Drawn idKeySize)
    (iv : Drawn ivSize) (plaintext ciphertext : String) (before after : Files)
    (nonzero : salt.val ≠ repeated 0 idKeySize) (named : pass ≠ "")
    (encrypted : Returns handleFile
      (encryptedConfig prims pass (.ok salt) (.ok iv) plaintext ciphertext false)
      before (.ok ()) after) :
    ∃ data encodedFile, before[plaintext]? = some data ∧ after[ciphertext]? = some encodedFile ∧
      (∀ salt iv target,
        (∃ final, Returns handleFile (encryptedConfig prims pass salt iv target ciphertext true)
          after (.ok ()) final) ∧
        ∀ final, Returns handleFile (encryptedConfig prims pass salt iv target ciphertext true)
          after (.ok ()) final → final[target]? = some data) ∧
      ∀ decodeConfig range entries load state now sources url file,
        remote url = true → sources.get url = .ok encodedFile →
        remote file = false → sources.opened file = .ok data → sources.stat = none →
        sources.read = .ok data.length →
        loadConfig prims decodeConfig range entries load state now sources url pass =
          loadConfig prims decodeConfig range entries load state now sources file pass := by
  obtain ⟨data, encodedFile, read, written, rfl⟩ := converted_of_returns encrypted
  have opens : decrypt prims encodedFile pass = .ok data := decrypt_of_encrypt nonzero written
  have stored : (before.insert ciphertext encodedFile)[ciphertext]? = some encodedFile :=
    Table.get_insert_self before ciphertext encodedFile
  refine ⟨data, encodedFile, read, stored, ?_, ?_⟩
  · intro salt iv target
    refine ⟨⟨_, returns_of_converted stored opens⟩, fun final decrypted => ?_⟩
    obtain ⟨held, plain, found, converted, rfl⟩ := converted_of_returns decrypted
    have same : encodedFile = held := Option.some.inj (stored.symm.trans found)
    subst same
    have again : Except.ok data = Except.ok plain := opens.symm.trans converted
    cases again
    exact Table.get_insert_self _ target data
  · intro decodeConfig range entries load state now sources url file away served here stored sized
      whole
    unfold loadConfig
    rw [readConfig_remote away named served opens, readConfig_local pass here stored sized whole]

theorem encrypted_config_round_trip_three_bytes :
    let salt : Drawn idKeySize := ⟨repeated 5 32, by decide⟩
    let iv : Drawn ivSize := ⟨repeated 9 16, by decide⟩
    let before : Files := (∅ : Files).insert "config.yml" [1, 2, 3]
    ∃ after, Returns handleFile
        (encryptedConfig lightPrimitives "correct horse" (.ok salt) (.ok iv) "config.yml" "config.yml.asc" false)
        before (.ok ()) after ∧
      ∃ final, Returns handleFile
        (encryptedConfig lightPrimitives "correct horse" (.ok salt) (.ok iv) "copy.yml" "config.yml.asc" true)
        after (.ok ()) final ∧ final["copy.yml"]? = some [1, 2, 3] := by
  intro salt iv before
  have read : before["config.yml"]? = some [1, 2, 3] := Table.get_insert_self _ _ _
  have keyed : Keyed lightPrimitives "correct horse" salt.val := ⟨by decide, by decide⟩
  obtain ⟨encodedFile, written⟩ : ∃ encodedFile,
      encrypt lightPrimitives [1, 2, 3] "correct horse" (.ok salt) (.ok iv) = .ok encodedFile := by
    rcases encrypt_cases lightPrimitives [1, 2, 3] (by decide) "correct horse" salt iv with
      ⟨_, ok⟩ | ⟨keyless, _⟩
    · exact ⟨_, ok⟩
    · exact absurd keyed keyless
  have encrypted : Returns handleFile (encryptedConfig lightPrimitives "correct horse" (.ok salt) (.ok iv)
      "config.yml" "config.yml.asc" false) before (.ok ()) _ := returns_of_converted read written
  obtain ⟨data, _, held, _, back, _⟩ := encrypted_config_round_trip lightPrimitives "correct horse" salt iv
    "config.yml" "config.yml.asc" before _ (by decide) (by decide) encrypted
  obtain ⟨⟨final, decrypted⟩, kept⟩ := back (.ok salt) (.ok iv) "copy.yml"
  refine ⟨_, encrypted, final, decrypted, ?_⟩
  rw [kept final decrypted, ← held, read]

end Seer.ConfigFile
