import Seer.Lib.Flags

/-!
# The command line

`main` first decides whether to move to the directory of the old container image, by a
scan of the raw arguments, and only then parses the flags. The theorem says that the scan
and the parser agree: a process that is moved reads the configuration for which it was
moved.
-/
namespace Seer.Cli

open Seer.Lib.Flags

def defaultStateFile : String := ".nosnode-seer-state.json"
def legacyStateFile : String := ".tenderduty-state.json"
def canonicalContainerDirectory : String := "/var/lib/nosnode-seer"
def legacyContainerDirectory : String := "/var/lib/tenderduty"

structure Options where
  configFile : String := "config.yml"
  chainConfigDirectory : String := "chains.d"
  stateFile : String := defaultStateFile
  encryptedFile : String := "config.yml.asc"
  password : String := ""
  dumpConfig : Bool := false
  encryptConfig : Bool := false
  decryptConfig : Bool := false
  showVersion : Bool := false
  usingLegacyState : Bool := false
  deriving DecidableEq

inductive Flag where
  | f
  | encryptedConfig
  | password
  | state
  | cc
  | exampleConfig
  | encrypt
  | decrypt
  | version
  deriving DecidableEq

def Flag.formal : String → Option Flag
  | "f" => some .f
  | "encrypted-config" => some .encryptedConfig
  | "password" => some .password
  | "state" => some .state
  | "cc" => some .cc
  | "example-config" => some .exampleConfig
  | "encrypt" => some .encrypt
  | "decrypt" => some .decrypt
  | "version" => some .version
  | _ => none

def Flag.isBool : Flag → Bool
  | .exampleConfig | .encrypt | .decrypt | .version => true
  | .f | .encryptedConfig | .password | .state | .cc => false

def Flag.name : Flag → String
  | .f => "f"
  | .encryptedConfig => "encrypted-config"
  | .password => "password"
  | .state => "state"
  | .cc => "cc"
  | .exampleConfig => "example-config"
  | .encrypt => "encrypt"
  | .decrypt => "decrypt"
  | .version => "version"

/-- `strconv.ParseBool`. -/
def parseBool (value : String) : Option Bool :=
  if value ∈ ["1", "t", "T", "TRUE", "true", "True"] then some true
  else if value ∈ ["0", "f", "F", "FALSE", "false", "False"] then some false
  else none

def Flag.set (flag : Flag) (value : String) (opts : Options) : Except String Options :=
  let boolean (store : Bool → Options) : Except String Options :=
    match parseBool value with
    | some truth => .ok (store truth)
    | none =>
      .error ("invalid boolean value " ++ value.quote ++ " for -" ++ flag.name ++ ": parse error")
  match flag with
  | .f => .ok { opts with configFile := value }
  | .encryptedConfig => .ok { opts with encryptedFile := value }
  | .password => .ok { opts with password := value }
  | .state => .ok { opts with stateFile := value }
  | .cc => .ok { opts with chainConfigDirectory := value }
  | .exampleConfig => boolean fun truth => { opts with dumpConfig := truth }
  | .encrypt => boolean fun truth => { opts with encryptConfig := truth }
  | .decrypt => boolean fun truth => { opts with decryptConfig := truth }
  | .version => boolean fun truth => { opts with showVersion := truth }

def flags : FlagSet Flag Options where
  formal := Flag.formal
  isBool := Flag.isBool
  set := Flag.set

/-- The environment that a process reads. -/
structure Environment where
  getenv : String → String
  fileExists : String → Bool

def parseOptions (args : List String) (env : Environment) : Except Failure Options :=
  match parse flags args { values := {} } with
  | .error failure => .error failure
  | .ok parsed =>
    let opts := parsed.values
    let stateExplicit := decide (Flag.state ∈ parsed.actual)
    let opts :=
      if !stateExplicit && !env.fileExists defaultStateFile && env.fileExists legacyStateFile then
        { opts with stateFile := legacyStateFile, usingLegacyState := true }
      else opts
    let opts :=
      if opts.configFile = "config.yml" ∧ env.getenv "CONFIG" ≠ "" then
        { opts with configFile := env.getenv "CONFIG" }
      else opts
    .ok (if env.getenv "PASSWORD" ≠ "" then { opts with password := env.getenv "PASSWORD" } else opts)

/-- `filepath.Base`. -/
def base (path : String) : String :=
  if path = "" then "."
  else
    let trimmed := (path.toList.reverse.dropWhile (· = '/'))
    if trimmed = [] then "/" else String.ofList (trimmed.takeWhile (· ≠ '/')).reverse

/-- The arguments for which the old directory is not considered. -/
def mentionsConfig (arg : String) : Bool :=
  arg = "-f" || arg = "--f" || "-f=".toList.isPrefixOf arg.toList || "--f=".toList.isPrefixOf arg.toList

def legacyInvocationWorkingDirectory (argv0 currentDirectory : String) (args : List String)
    (configEnvironment : String) (fileExists : String → Bool) : String :=
  if base argv0 = "tenderduty" then
    if fileExists legacyContainerDirectory then legacyContainerDirectory else ""
  else if currentDirectory ≠ canonicalContainerDirectory ∨ configEnvironment ≠ "" ∨
      fileExists "config.yml" then ""
  else if args.any mentionsConfig then ""
  else if fileExists (legacyContainerDirectory ++ "/config.yml") then legacyContainerDirectory
  else ""

/-! ## The scan and the parser -/

theorem named_f {name : List Char} {value : Option String} (word : named name = .flag "f" value) :
    name = ['f'] ∨ ∃ rest, name = 'f' :: '=' :: rest := by
  cases name with
  | nil => cases word
  | cons c later =>
    rw [named] at word
    split at word
    · cases word
    · have spelled : c :: later.takeWhile (· ≠ '=') = ['f'] := by
        have same := congrArg String.toList (Word.flag.inj word).1
        rwa [String.toList_ofList] at same
      obtain ⟨rfl, ends⟩ := List.cons.inj spelled
      cases later with
      | nil => exact .inl rfl
      | cons d rest =>
        by_cases equals : d = '='
        · exact .inr ⟨rest, by rw [equals]⟩
        · rw [List.takeWhile_cons_of_pos (by simpa using equals)] at ends
          cases ends

/-- Whatever the parser reads as the flag of the configuration file, the scan sees. -/
theorem mentionsConfig_of_word {arg : String} {value : Option String} (word : wordOf arg = .flag "f" value) :
    mentionsConfig arg = true := by
  obtain ⟨text, rfl⟩ : ∃ text, arg = String.ofList text := ⟨arg.toList, String.ofList_toList.symm⟩
  simp only [wordOf, String.toList_ofList] at word
  simp only [mentionsConfig, String.toList_ofList]
  split at word
  next name =>
    split at word
    · cases word
    · rcases named_f word with rfl | ⟨rest, rfl⟩
      · rfl
      · simp [List.isPrefixOf]
  next c name _ =>
    rcases named_f word with same | ⟨rest, same⟩
    · obtain ⟨rfl, rfl⟩ := List.cons.inj same
      rfl
    · obtain ⟨rfl, rfl⟩ := List.cons.inj same
      simp [List.isPrefixOf]
  · cases word

theorem formal_eq_f {name : String} (formal : Flag.formal name = some .f) : name = "f" := by
  unfold Flag.formal at formal
  split at formal <;> first | rfl | cases formal

theorem not_spelled_f {args : List String} (silent : args.any mentionsConfig = false) :
    ¬ Spelled flags args .f := by
  rintro ⟨arg, member, name, value, word, formal⟩
  rw [formal_eq_f formal] at word
  have seen := List.any_eq_false.mp silent arg member
  exact seen (mentionsConfig_of_word word)

/-- Only its own flag sets the configuration file. -/
theorem configFile_set {flag : Flag} {value : String} {before after : Options} (other : flag ≠ .f)
    (set : flag.set value before = .ok after) : after.configFile = before.configFile := by
  cases flag with
  | f => exact absurd rfl other
  | encryptedConfig | password | state | cc =>
    cases set
    rfl
  | exampleConfig | encrypt | decrypt | version =>
    simp only [Flag.set] at set
    split at set
    · cases set
      rfl
    · cases set

/-- The configuration file is the default one. -/
structure Default (parsed : Parsed Flag Options) : Prop where
  configFile : parsed.values.configFile = "config.yml"
  unset : Flag.f ∉ parsed.actual

theorem default_parse {args : List String} (silent : args.any mentionsConfig = false)
    {parsed : Parsed Flag Options} (success : parse flags args { values := {} } = .ok parsed) :
    Default parsed := by
  refine parse_invariant success ?_ ⟨rfl, List.not_mem_nil⟩
  intro flag spelled value before after assigned default
  have other : flag ≠ .f := by
    rintro rfl
    exact not_spelled_f silent spelled
  obtain ⟨set, actual⟩ := assign_eq_ok.mp assigned
  refine ⟨(configFile_set other set).trans default.configFile, ?_⟩
  rw [actual, List.mem_append, List.mem_singleton, not_or]
  exact ⟨default.unset, other.symm⟩

theorem configFile_parseOptions {args : List String} (env : Environment) {opts : Options}
    (silent : args.any mentionsConfig = false) (unset : env.getenv "CONFIG" = "")
    (success : parseOptions args env = .ok opts) : opts.configFile = "config.yml" := by
  unfold parseOptions at success
  split at success
  · cases success
  next parsed result =>
    have default := (default_parse silent result).configFile
    cases success
    simp only [unset]
    split <;> split <;> simp [default]

/-- A process under the new name that is moved to the old directory has no configuration where it
was started and reads the one for which it was moved, whatever else is on its command line; one
whose command line names a configuration is never moved. -/
theorem moved_process_reads_legacy_config (argv0 currentDirectory : String) (args : List String)
    (env : Environment) (modern : base argv0 ≠ "tenderduty") :
    let directory := legacyInvocationWorkingDirectory argv0 currentDirectory args
      (env.getenv "CONFIG") env.fileExists
    (directory ≠ "" →
      currentDirectory = canonicalContainerDirectory ∧ env.fileExists "config.yml" = false ∧
      directory = legacyContainerDirectory ∧ env.fileExists (directory ++ "/config.yml") = true ∧
      ∀ fileExists opts, parseOptions args { env with fileExists } = .ok opts →
        opts.configFile = "config.yml") ∧
    (∀ parsed, parse flags args { values := {} } = .ok parsed → Flag.f ∈ parsed.actual →
      directory = "") := by
  intro directory
  have decided : directory = legacyInvocationWorkingDirectory argv0 currentDirectory args
      (env.getenv "CONFIG") env.fileExists := rfl
  rw [legacyInvocationWorkingDirectory, if_neg modern] at decided
  by_cases elsewhere : currentDirectory ≠ canonicalContainerDirectory ∨ env.getenv "CONFIG" ≠ "" ∨
      env.fileExists "config.yml" = true
  · rw [if_pos elsewhere] at decided
    exact ⟨fun moved => absurd decided moved, fun _ _ _ => decided⟩
  rw [if_neg elsewhere] at decided
  simp only [not_or, not_not, Bool.not_eq_true] at elsewhere
  obtain ⟨here, unset, missing⟩ := elsewhere
  cases silent : args.any mentionsConfig with
  | true =>
    rw [silent, if_pos rfl] at decided
    exact ⟨fun moved => absurd decided moved, fun _ _ _ => decided⟩
  | false =>
    rw [silent, if_neg Bool.false_ne_true] at decided
    constructor
    · intro moved
      split at decided
      next found =>
        refine ⟨here, missing, decided, by rw [decided]; exact found, fun fileExists opts success => ?_⟩
        exact configFile_parseOptions { env with fileExists } silent unset success
      · exact absurd decided moved
    · intro parsed success named
      exact absurd named (default_parse silent success).unset

/-- Started in the new container image with the old volume, with a state file on the command line. -/
theorem moved_process_reads_legacy_config_with_state :
    let env : Environment :=
      { getenv := fun _ => "", fileExists := fun name => name = "/var/lib/tenderduty/config.yml" }
    ∃ opts, parseOptions ["-state", "-f.json", "--encrypt=false"] env = .ok opts ∧
      opts.configFile = "config.yml" ∧ opts.stateFile = "-f.json" ∧
      legacyInvocationWorkingDirectory "/bin/nosnode-seer" "/var/lib/nosnode-seer"
        ["-state", "-f.json", "--encrypt=false"] "" env.fileExists = "/var/lib/tenderduty" := by
  intro env
  have moved := (moved_process_reads_legacy_config "/bin/nosnode-seer" "/var/lib/nosnode-seer"
    ["-state", "-f.json", "--encrypt=false"] env (by decide +kernel)).1 (by decide +kernel)
  have parsed : parseOptions ["-state", "-f.json", "--encrypt=false"] env =
      .ok { stateFile := "-f.json" } := by decide +kernel
  exact ⟨_, parsed, moved.2.2.2.2 env.fileExists _ parsed, rfl, moved.2.2.1⟩

end Seer.Cli
